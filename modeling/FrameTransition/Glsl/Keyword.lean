import FrameTransition.Shader.Interface
import FrameTransition.Text.Blank

/-!
# Words with a meaning of their own

A word is a keyword, the name of a type, or free to be a name. The names of types are built of parts: a
scalar's letter and `vec` and a size, or `mat` and one or two sizes, or a letter and `texture` and a
shape.
-/

namespace FrameTransition.Glsl

open FrameTransition.Shader

/-- The words that stand for themselves in the grammar. -/
def keywords : List String :=
  ["layout", "in", "out", "uniform", "buffer", "shared", "const", "inout", "restrict", "readonly",
    "writeonly", "coherent", "volatile", "flat", "noperspective", "smooth", "centroid", "sample",
    "invariant", "lowp", "mediump", "highp", "precision", "true", "false", "continue", "break",
    "return", "discard", "if", "else", "switch", "case", "default", "while", "do", "for", "void",
    "struct"]

/-- The scalar a letter stands for in the name of a vector or matrix. -/
def scalarOfLetter? : String → Option Scalar
  | "" => some .float32
  | "b" => some .bool
  | "i" => some .int32
  | "u" => some .uint32
  | "d" => some .float64
  | _ => none

def sizeOfDigit? : String → Option VectorSize
  | "2" => some .two
  | "3" => some .three
  | "4" => some .four
  | _ => none

/-- The text before the first place where a word stands, and the text behind the word. -/
def cutAt? (word : List Char) : List Char → Option (List Char × List Char)
  | [] => none
  | c :: rest =>
    if word.isPrefixOf (c :: rest) then some ([], (c :: rest).drop word.length)
    else (cutAt? word rest).map fun (before, behind) => (c :: before, behind)

/-- The part of a name before a word in it, and the part after it up to where the word comes again. -/
def splitAt? (word name : String) : Option (String × String) := do
  let (before, behind) ← cutAt? word.toList name.toList
  let after := (cutAt? word.toList behind).elim behind (·.1)
  return (String.ofList before, String.ofList after)

def vectorOfName? (name : String) : Option Ty := do
  let (letter, digit) ← splitAt? "vec" name
  return .vector (← sizeOfDigit? digit) (← scalarOfLetter? letter)

/-- One digit is a square matrix; of two the first counts the columns. -/
def matrixOfName? (name : String) : Option Ty := do
  let (letter, sizes) ← splitAt? "mat" name
  let scalar ← scalarOfLetter? letter
  match (Text.splitOn 'x' sizes.toList).map String.ofList with
  | [size] =>
    let size ← sizeOfDigit? size
    return .matrix size size scalar
  | [columns, rows] => return .matrix (← sizeOfDigit? columns) (← sizeOfDigit? rows) scalar
  | _ => none

def textureOfName? (name : String) : Option Ty := do
  let (letter, shape) ← splitAt? "texture" name
  let kind : ScalarKind ← match letter with
    | "" => some .float
    | "i" => some .sint
    | "u" => some .uint
    | _ => none
  let (dimension, arrayed, multisampled) ← match shape with
    | "1D" => some (ImageDimension.one, false, false)
    | "1DArray" => some (.one, true, false)
    | "2D" => some (.two, false, false)
    | "2DArray" => some (.two, true, false)
    | "2DMS" => some (.two, false, true)
    | "2DMSArray" => some (.two, true, true)
    | "3D" => some (.three, false, false)
    | "Cube" => some (.cube, false, false)
    | "CubeArray" => some (.cube, true, false)
    | _ => none
  return .image ⟨dimension, arrayed, .sampled kind multisampled⟩

/-- The type a word names. -/
def typeOfName? : String → Option Ty
  | "bool" => some (.scalar .bool)
  | "float" => some (.scalar .float32)
  | "double" => some (.scalar .float64)
  | "int" => some (.scalar .int32)
  | "uint" => some (.scalar .uint32)
  | "sampler" => some (.sampler false)
  | "samplerShadow" => some (.sampler true)
  | name => vectorOfName? name <|> matrixOfName? name <|> textureOfName? name

/-- A word that may name something. -/
def isFreeName (word : String) : Bool :=
  !keywords.contains word && (typeOfName? word).isNone

end FrameTransition.Glsl
