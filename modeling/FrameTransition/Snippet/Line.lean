import FrameTransition.Text.Blank

/-!
# Lines of a snippet

A transition snippet may bring declarations that clash with those around it. Line by line it is decided
what becomes of them: a `#version` line and a declaration of names the library declares itself are
dropped, a plain uniform is lifted into the parameter block, and every other line is kept.

A uniform declaration is seen only where the line says `uniform` and one space, and ends in a semicolon
once a `//` comment is cut off. Precision words do not count. What is declared must be identifiers
without initial values or array sizes, of one of the twelve types a parameter block takes.
-/

namespace FrameTransition.Snippet

/-- A uniform to be declared in the parameter block. -/
structure Member where
  type : List Char
  name : List Char
  deriving DecidableEq

/-- The declaration of a member inside the block. -/
def Member.declaration (m : Member) : List Char :=
  m.type ++ ' ' :: m.name ++ [';']

/-- What becomes of a line. -/
inductive Treatment where
  | keep
  | drop
  | lift (members : List Member)
  deriving DecidableEq

/-- Names that are declared around every snippet. -/
def reservedNames : List (List Char) :=
  ["to".toList, "progress".toList, "resolution".toList]

/-- The types a parameter block takes from a snippet. -/
def liftableTypes : List (List Char) :=
  ["float".toList, "int".toList, "uint".toList,
    "vec2".toList, "vec3".toList, "vec4".toList,
    "ivec2".toList, "ivec3".toList, "ivec4".toList,
    "uvec2".toList, "uvec3".toList, "uvec4".toList]

/-- Words that may stand anywhere in a declaration. -/
def precisionWords : List (List Char) :=
  ["lowp".toList, "mediump".toList, "highp".toList]

/-- What marks a version line. -/
def versionMark : List Char := "#version".toList

/-- What a uniform declaration starts with: the word and one space. -/
def uniformMark : List Char := "uniform ".toList

/-- A character an identifier starts with. -/
def isNameStart (c : Char) : Bool := c.isAlpha || c == '_'

/-- A character inside an identifier. -/
def isNameChar (c : Char) : Bool := c.isAlphanum || c == '_'

/-- An identifier, in ASCII. -/
def isIdentifier : List Char → Bool
  | [] => false
  | c :: rest => isNameStart c && rest.all isNameChar

/-- What comes after a text's beginning, where it has that beginning. -/
def afterMark? : List Char → List Char → Option (List Char)
  | [], cs => some cs
  | m :: mark, c :: cs => if m = c then afterMark? mark cs else none
  | _ :: _, [] => none

/-- A line up to its first `//`. -/
def beforeComment : List Char → List Char
  | [] => []
  | [c] => [c]
  | '/' :: '/' :: _ => []
  | c :: rest => c :: beforeComment rest

/-- The text before a closing semicolon. -/
def beforeSemicolon? (cs : List Char) : Option (List Char) :=
  if cs.getLast? = some ';' then some cs.dropLast else none

/-- A uniform declaration taken apart: the first word that is no precision, and what stands between the
commas after it. -/
structure Declaration where
  type : List Char
  names : List (List Char)
  deriving DecidableEq

/-- A statement, without a comment and blanks at its end, taken apart. -/
def Declaration.ofStatement? (statement : List Char) : Option Declaration := do
  let body ← beforeSemicolon? statement
  match (Text.words body).filter (· ∉ precisionWords) with
  | [] => none
  | type :: others =>
    some ⟨type, (Text.splitOn ',' (Text.join [' '] others)).map Text.trim⟩

/-- The declaration on a line that has no blanks in front. -/
def Declaration.ofLine? (line : List Char) : Option Declaration :=
  (afterMark? uniformMark line).bind fun stated =>
    ofStatement? (Text.trimEnd (beforeComment stated))

/-- What becomes of a declaration. One that declares reserved names only goes whatever its type; one
that cannot be lifted stays for the compiler to judge. -/
def Declaration.treatment (d : Declaration) : Treatment :=
  if d.names.all (· ∈ reservedNames) then .drop
  else if d.type ∉ liftableTypes ∨ d.names.any (!isIdentifier ·) then .keep
  else .lift ((d.names.filter (· ∉ reservedNames)).map (⟨d.type, ·⟩))

/-- What becomes of a line. -/
def treatment (line : List Char) : Treatment :=
  let text := Text.trimStart line
  if (afterMark? versionMark text).isSome then .drop
  else
    match Declaration.ofLine? text with
    | none => .keep
    | some d => d.treatment

/-- The line in the body: a line that is not kept leaves its place empty. -/
def Treatment.text (line : List Char) : Treatment → List Char
  | keep => line
  | drop => []
  | lift _ => []

/-- The members a line adds to the block. -/
def Treatment.members : Treatment → List Member
  | lift members => members
  | _ => []

/-! ## The beginning of a text -/

theorem afterMark?_append (mark cs : List Char) : afterMark? mark (mark ++ cs) = some cs := by
  induction mark with
  | nil => rfl
  | cons m mark ih => simp [afterMark?, ih]

theorem eq_append_of_afterMark? {mark cs rest : List Char} (h : afterMark? mark cs = some rest) :
    cs = mark ++ rest := by
  induction mark generalizing cs with
  | nil => simp_all [afterMark?]
  | cons m mark ih =>
    cases cs with
    | nil => simp [afterMark?] at h
    | cons c cs =>
      simp only [afterMark?] at h
      split at h
      · subst_vars; simp [ih h]
      · simp at h

example : treatment "uniform highp vec2 center, direction; // both".toList
    = .lift [⟨"vec2".toList, "center".toList⟩, ⟨"vec2".toList, "direction".toList⟩] := by
  decide +kernel

example : treatment "  #version 330".toList = .drop ∧ treatment "uniform sampler2D to;".toList = .drop
    ∧ treatment "uniform float amount = 0.5;".toList = .keep := by decide +kernel

end FrameTransition.Snippet
