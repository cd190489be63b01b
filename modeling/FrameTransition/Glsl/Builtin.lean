import FrameTransition.Glsl.Overload

/-!
# Functions every shader has

Most of these functions exist for scalars and for vectors of each size, so they are given by families:
a family lists its overloads for one scalar and one shape. `builtinOverloads` is the whole table.
-/

namespace FrameTransition.Glsl

open FrameTransition.Shader

/-- The shapes of scalars and vectors. -/
def shapes : List (Option VectorSize) :=
  [none, some .two, some .three, some .four]

/-- The sizes of vectors. -/
def vectorSizes : List VectorSize :=
  [.two, .three, .four]

/-- A scalar, or a vector of some size. -/
def shaped (scalar : Scalar) : Option VectorSize → Ty
  | none => .scalar scalar
  | some size => .vector size scalar

/-- A function of values without any further effect. -/
def plain (parameters : List Ty) (result : Ty) (target : Target) : Overload :=
  ⟨parameters.map (·, .value), some result, target⟩

/-- The overloads of a family for some scalars and all shapes. -/
def forShapes (scalars : List Scalar) (family : Scalar → Option VectorSize → List (List Ty × Ty)) :
    List Overload :=
  scalars.flatMap fun scalar => shapes.flatMap fun shape =>
    (family scalar shape).map fun (parameters, result) => plain parameters result .pure

/-- The overloads of a family for some scalars and vectors only. -/
def forVectors (scalars : List Scalar) (family : Scalar → VectorSize → List (List Ty × Ty)) :
    List Overload :=
  forShapes scalars fun scalar shape => (shape.map (family scalar)).getD []

def floats : List Scalar := [.float32, .float64]

def numbers : List Scalar := [.float32, .float64, .int32, .uint32]

def integers : List Scalar := [.int32, .uint32]

/-- Some arguments of one type, and a result of that type. -/
def uniformFamily (count : Nat) : Scalar → Option VectorSize → List (List Ty × Ty) :=
  fun scalar shape => [(List.replicate count (shaped scalar shape), shaped scalar shape)]

/-- Further arguments may be scalars where the first is a vector. -/
def scalarTail (count : Nat) : Scalar → Option VectorSize → List (List Ty × Ty) :=
  fun scalar shape =>
    uniformFamily (count + 1) scalar shape ++
      (if shape.isSome then
        [(shaped scalar shape :: List.replicate count (.scalar scalar), shaped scalar shape)]
      else [])

/-- First arguments may be scalars where the last is a vector. -/
def scalarHead (count : Nat) : Scalar → Option VectorSize → List (List Ty × Ty) :=
  fun scalar shape =>
    uniformFamily (count + 1) scalar shape ++
      (if shape.isSome then
        [(List.replicate count (.scalar scalar) ++ [shaped scalar shape], shaped scalar shape)]
      else [])

/-- Mixing by a number, by one number for all components, or by a choice. -/
def mixFamily (scalar : Scalar) (shape : Option VectorSize) : List (List Ty × Ty) :=
  let type := shaped scalar shape
  let chosen := ([type, type, shaped .bool shape], type)
  if scalar.kind = .float then
    ([type, type, type], type) ::
      (if shape.isSome then [([type, type, .scalar scalar], type)] else []) ++ [chosen]
  else [chosen]

/-! ## Names of one kind -/

/-- Functions of one float. -/
def trigonometric : List String :=
  ["radians", "degrees", "sin", "cos", "tan", "asin", "acos", "sinh", "cosh", "tanh", "asinh", "acosh",
    "atanh", "exp", "log", "exp2", "log2"]

/-- Functions of one float of either width. -/
def rounding : List String :=
  ["sqrt", "inversesqrt", "floor", "ceil", "trunc", "round", "roundEven", "fract", "normalize"]

def derivatives : List String :=
  ["dFdx", "dFdy", "fwidth", "dFdxFine", "dFdyFine", "fwidthFine", "dFdxCoarse", "dFdyCoarse",
    "fwidthCoarse"]

/-- Comparisons component by component. -/
def comparisons : List String :=
  ["lessThan", "lessThanEqual", "greaterThan", "greaterThanEqual", "equal", "notEqual"]

/-- Vectors of floats packed into a word. -/
def packings : List (String × VectorSize) :=
  [("Snorm4x8", .four), ("Unorm4x8", .four), ("Snorm2x16", .two), ("Unorm2x16", .two), ("Half2x16", .two)]

def packingOverloads (name : String) : List Overload :=
  packings.filterMap fun (suffix, size) =>
    if name = "pack" ++ suffix then
      some (plain [.vector size .float32] (.scalar .uint32) .pure)
    else if name = "unpack" ++ suffix then
      some (plain [.scalar .uint32] (.vector size .float32) .pure)
    else none

/-- Matrices of some scalars, all shapes. -/
def forMatrices (family : VectorSize → VectorSize → Scalar → Option (List Ty × Ty × Target)) :
    List Overload :=
  floats.flatMap fun scalar => vectorSizes.flatMap fun columns => vectorSizes.filterMap fun rows =>
    (family columns rows scalar).map fun (parameters, result, target) => plain parameters result target

def matrixOverloads (name : String) : List Overload :=
  match name with
  | "matrixCompMult" => forMatrices fun c r s =>
    some ([.matrix c r s, .matrix c r s], .matrix c r s, .pure)
  | "transpose" => forMatrices fun c r s => some ([.matrix c r s], .matrix r c s, .pure)
  | "outerProduct" => forMatrices fun c r s =>
    some ([.vector r s, .vector c s], .matrix c r s, .unsupported)
  | "determinant" => forMatrices fun c r s =>
    if c = r then some ([.matrix c r s], .scalar s, .pure) else none
  | "inverse" => forMatrices fun c r s =>
    if c = r then some ([.matrix c r s], .matrix c r s, .pure) else none
  | _ => []

/-- The same bits as another scalar. -/
def reinterpretation (source target : Scalar) : List Overload :=
  forShapes [source] fun source shape => [([shaped source shape], shaped target shape)]

def bitOverloads (name : String) : List Overload :=
  match name with
  | "floatBitsToInt" => reinterpretation .float32 .int32
  | "floatBitsToUint" => reinterpretation .float32 .uint32
  | "intBitsToFloat" => reinterpretation .int32 .float32
  | "uintBitsToFloat" => reinterpretation .uint32 .float32
  | "bitCount" | "findLSB" | "findMSB" =>
    forShapes integers fun scalar shape => [([shaped scalar shape], shaped .int32 shape)]
  | "bitfieldReverse" => forShapes integers (uniformFamily 1)
  | "bitfieldExtract" => forShapes integers fun scalar shape =>
    [([shaped scalar shape, .scalar .int32, .scalar .int32], shaped scalar shape)]
  | "bitfieldInsert" => forShapes integers fun scalar shape =>
    [([shaped scalar shape, shaped scalar shape, .scalar .int32, .scalar .int32], shaped scalar shape)]
  | _ => []

/-- Functions of vectors as wholes. -/
def geometricOverloads (name : String) : List Overload :=
  match name with
  | "length" => forShapes floats fun scalar shape => [([shaped scalar shape], .scalar scalar)]
  | "distance" | "dot" => forShapes floats fun scalar shape =>
    [([shaped scalar shape, shaped scalar shape], .scalar scalar)]
  | "cross" => forVectors floats fun scalar size =>
    if size = .three then [([.vector size scalar, .vector size scalar], .vector size scalar)] else []
  | "reflect" => forShapes floats (uniformFamily 2)
  | "faceforward" => forShapes floats (uniformFamily 3)
  | "refract" => forShapes floats fun scalar shape =>
    [([shaped scalar shape, shaped scalar shape, .scalar scalar], shaped scalar shape)]
  | "any" | "all" => forVectors [.bool] fun scalar size => [([.vector size scalar], .scalar .bool)]
  | "not" => forVectors [.bool] fun scalar size => [([.vector size scalar], .vector size scalar)]
  | _ => []

/-- Functions of numbers, component by component. -/
def numericOverloads (name : String) : List Overload :=
  match name with
  | "abs" | "sign" => forShapes [.float32, .float64, .int32] (uniformFamily 1)
  | "atan" => forShapes [.float32] fun scalar shape =>
    uniformFamily 1 scalar shape ++ uniformFamily 2 scalar shape
  | "pow" => forShapes [.float32] (uniformFamily 2)
  | "mod" => forShapes floats (scalarTail 1)
  | "min" | "max" => forShapes numbers (scalarTail 1)
  | "clamp" => forShapes numbers (scalarTail 2)
  | "mix" => forShapes (numbers ++ [.bool]) mixFamily
  | "step" => forShapes floats (scalarHead 1)
  | "smoothstep" => forShapes floats (scalarHead 2)
  | "fma" => forShapes floats (uniformFamily 3)
  | "ldexp" => forShapes floats fun scalar shape =>
    [([shaped scalar shape, shaped .int32 shape], shaped scalar shape)]
  | _ =>
    if trigonometric.contains name then forShapes [.float32] (uniformFamily 1)
    else if rounding.contains name then forShapes floats (uniformFamily 1)
    else if comparisons.contains name then
      forVectors numbers fun scalar size =>
        [([.vector size scalar, .vector size scalar], .vector size .bool)]
    else if derivatives.contains name then
      shapes.map fun shape => plain [shaped .float32 shape] (shaped .float32 shape) .derivative
    else if name = "isnan" ∨ name = "isinf" then
      shapes.map fun shape => plain [shaped .float32 shape] (shaped .bool shape) .unsupported
    else []

/-! ## Images -/

/-- The shapes of images by the end of their names. -/
def imageShapes : List (String × ImageShape) :=
  [("1D", ⟨.one, false, .sampled .float false⟩), ("1DArray", ⟨.one, true, .sampled .float false⟩),
    ("2D", ⟨.two, false, .sampled .float false⟩), ("2DArray", ⟨.two, true, .sampled .float false⟩),
    ("2DMS", ⟨.two, false, .sampled .float true⟩), ("2DMSArray", ⟨.two, true, .sampled .float true⟩),
    ("3D", ⟨.three, false, .sampled .float false⟩), ("Cube", ⟨.cube, false, .sampled .float false⟩),
    ("CubeArray", ⟨.cube, true, .sampled .float false⟩)]

/-- A scalar or a vector with a count of components. -/
def sized? (scalar : Scalar) (count : Nat) : Option Ty :=
  if count = 1 then some (.scalar scalar) else (VectorSize.ofNat? count).map (.vector · scalar)

/-- How many numbers name a direction or place in an image, without its layer. -/
def coordinateCount : ImageDimension → Nat
  | .one => 1
  | .two => 2
  | .three => 3
  | .cube => 3

def isMultisampled (shape : ImageShape) : Bool :=
  shape.contents = .sampled .float true

/-- Images of one sample each, and what their coordinates are: place, layer, offset and gradient. -/
def sampledImages : List ImageShape :=
  (imageShapes.map (·.2)).filter fun shape => !isMultisampled shape

/-- The depth image of a shape. -/
def depthOf (shape : ImageShape) : ImageShape :=
  { shape with contents := .depth }

/-- Overloads for every image of one sample: the arguments behind the image, if all of their types
exist. `places` is the count of coordinates and `all` the same with the layer. -/
def forImages (target : Target) (family : ImageShape → Nat → Nat → List (List (Option Ty))) :
    List Overload :=
  sampledImages.flatMap fun shape =>
    let places := coordinateCount shape.dimension
    let all := if shape.arrayed then places + 1 else places
    (family shape places all).filterMap fun arguments =>
      (arguments.mapM id).map fun types =>
        plain (.image shape :: types) (.vector .four .float32) target

def float? (count : Nat) : Option Ty := sized? .float32 count

def int? (count : Nat) : Option Ty := sized? .int32 count

/-- Offsets are for images whose places are a grid. -/
def onGrid (shape : ImageShape) (family : List (List (Option Ty))) : List (List (Option Ty)) :=
  if shape.dimension = .cube then [] else family

/-- Projections divide the coordinates by the last one. -/
def projected (shape : ImageShape) (places : Nat) (further : List (List (Option Ty))) :
    List (List (Option Ty)) :=
  if shape.arrayed ∨ shape.dimension = .cube then []
  else further.flatMap fun rest =>
    (float? (places + 1) :: rest) :: (if places < 3 then [float? 4 :: rest] else [])

/-- Comparisons with a depth: it follows the coordinates. -/
def depthOverloads : List Overload :=
  sampledImages.filterMap fun shape =>
    let places := coordinateCount shape.dimension
    let all := if shape.arrayed then places + 1 else places
    if shape.dimension = .three then none
    else (float? (max 3 (all + 1))).map fun coordinates =>
      plain [.image (depthOf shape), coordinates] (.scalar .float32) (.sample true)

/-- The size of an image, at a level where it has several. -/
def sizeOverloads : List Overload :=
  (imageShapes.map (·.2)).filterMap fun shape =>
    let places := match shape.dimension with
      | .one => 1
      | .three => 3
      | _ => 2
    (int? (if shape.arrayed then places + 1 else places)).map fun result =>
      plain (.image shape :: (if isMultisampled shape then [] else [.scalar .int32])) result .fetch

/-- Single texels by their places, at a level or of a sample. -/
def fetchOverloads (offset : Bool) : List Overload :=
  (imageShapes.map (·.2)).filterMap fun shape =>
    let places := coordinateCount shape.dimension
    if shape.dimension = .cube ∨ (offset ∧ isMultisampled shape) then none
    else (int? (if shape.arrayed then places + 1 else places)).bind fun place =>
      (int? places).map fun step =>
        plain (.image shape :: place :: .scalar .int32 :: (if offset then [step] else []))
          (.vector .four .float32) .fetch

/-- An image and a sampler put together. -/
def combineOverloads (name : String) : List Overload :=
  imageShapes.flatMap fun (suffix, shape) =>
    if name = "sampler" ++ suffix then
      [plain [.image shape, .sampler false] (.image shape) .combine]
    else if name = "sampler" ++ suffix ++ "Shadow" then
      [plain [.image shape, .sampler true] (.image (depthOf shape)) .combine]
    else []

def imageOverloads (name : String) : List Overload :=
  let own := Target.sample true
  let given := Target.sample false
  match name with
  | "texture" =>
    forImages own (fun _ _ all => [[float? all], [float? all, float? 1]]) ++ depthOverloads
  | "textureLod" => forImages given fun _ _ all => [[float? all, float? 1]]
  | "textureGrad" => forImages given fun _ places all => [[float? all, float? places, float? places]]
  | "textureOffset" => forImages own fun shape places all =>
    onGrid shape [[float? all, int? places], [float? all, int? places, float? 1]]
  | "textureLodOffset" => forImages given fun shape places all =>
    onGrid shape [[float? all, float? 1, int? places]]
  | "textureGradOffset" => forImages given fun shape places all =>
    onGrid shape [[float? all, float? places, float? places, int? places]]
  | "textureProj" => forImages own fun shape places _ => projected shape places [[], [float? 1]]
  | "textureProjLod" => forImages given fun shape places _ => projected shape places [[float? 1]]
  | "textureProjGrad" => forImages given fun shape places _ =>
    projected shape places [[float? places, float? places]]
  | "textureProjOffset" => forImages own fun shape places _ =>
    projected shape places [[int? places], [int? places, float? 1]]
  | "textureProjLodOffset" => forImages given fun shape places _ =>
    projected shape places [[float? 1, int? places]]
  | "texelFetch" => fetchOverloads false
  | "texelFetchOffset" => fetchOverloads true
  | "textureSize" => sizeOverloads
  | _ => []

/-- The overloads of a name that every shader has. -/
def builtinOverloads (name : String) : List Overload :=
  numericOverloads name ++ geometricOverloads name ++ matrixOverloads name ++ bitOverloads name ++
    packingOverloads name ++ imageOverloads name ++ combineOverloads name

end FrameTransition.Glsl
