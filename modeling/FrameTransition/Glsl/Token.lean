import FrameTransition.Decimal.Read

/-!
# Tokens of a shader text

A shader is read line by line, because its directives are lines. `lines` splits a text into lines of
lexemes: a backslash at the end of a line joins it to the next, and a comment counts as one blank, even
if it goes on over several lines. A lexeme remembers whether a blank stands in front of it, since a
directive may depend on that.

A character that begins no token is kept as `stray`: whether it is a fault is only known once the line
it stands on turns out to be in use.
-/

namespace FrameTransition.Glsl

/-- A piece of a shader text. -/
inductive Token where
  /-- A name or a keyword. -/
  | word (name : String)
  | integer (value : Nat) (unsigned : Bool)
  | float (value : Number)
  /-- An operator or a punctuation mark. -/
  | mark (text : String)
  /-- Text that is no token. -/
  | stray
  deriving DecidableEq, Inhabited

/-- A token of a line, and whether a blank stands in front of it. -/
structure Lexeme where
  token : Token
  spaced : Bool
  deriving DecidableEq, Inhabited

abbrev Line := List Lexeme

/-! ## Characters -/

/-- A character that ends a line. -/
def isLineEnd (c : Char) : Bool :=
  c = '\n' || c = '\r'

def isGap (c : Char) : Bool :=
  c = ' ' || c = '\t' || c = '\x0b' || c = '\x0c'

/-- A character a name may start with. -/
def isWordStart (c : Char) : Bool :=
  c.isAlpha || c = '_'

/-- A character a name may go on with. -/
def isWordPart (c : Char) : Bool :=
  c.isAlphanum || c = '_'

def isOctalDigit (c : Char) : Bool :=
  '0' ≤ c && c ≤ '7'

def isHexDigit (c : Char) : Bool :=
  c.isDigit || ('a' ≤ c && c ≤ 'f') || ('A' ≤ c && c ≤ 'F')

/-- The value of a digit in any base up to sixteen. -/
def digitValue (c : Char) : Nat :=
  if c.isDigit then c.toNat - '0'.toNat else c.toLower.toNat - 'a'.toNat + 10

/-- The value of a run of digits. -/
def digitsValue (base : Nat) (digits : List Char) : Nat :=
  digits.foldl (fun n c => base * n + digitValue c) 0

/-- The text with every line that ends in a backslash joined to the next one. -/
def splice : List Char → List Char
  | '\\' :: '\r' :: '\n' :: rest => splice rest
  | '\\' :: '\n' :: rest => splice rest
  | '\\' :: '\r' :: rest => splice rest
  | c :: rest => c :: splice rest
  | [] => []

/-! ## Numbers

A number is read from the characters at its start, with the count of characters it takes. -/

/-- The largest value an integer literal may be written with. -/
def maxInteger : Nat := 18446744073709551615

/-- An integer with its suffix, from its digits and what follows them. `taken` counts the characters up
to the suffix. -/
def integerToken (base : Nat) (digits : List Char) (taken : Nat) (after : List Char) : Token × Nat :=
  let value := digitsValue base digits
  let (unsigned, taken) := match after with
    | c :: _ => if c = 'u' ∨ c = 'U' then (true, taken + 1) else (false, taken)
    | [] => (false, taken)
  if digits = [] ∨ maxInteger < value then (.stray, taken) else (.integer value unsigned, taken)

/-- The characters of an exponent, if one comes next. -/
def exponentPart : List Char → List Char
  | c :: rest =>
    if c = 'e' ∨ c = 'E' then
      let (sign, digits) := match rest with
        | '+' :: digits => (['+'], digits)
        | '-' :: digits => (['-'], digits)
        | digits => ([], digits)
      match digits.takeWhile Char.isDigit with
      | [] => []
      | digits => c :: sign ++ digits
    else []
  | [] => []

/-- The fraction with its point, if one comes next. -/
def fractionPart : List Char → List Char
  | '.' :: rest => '.' :: rest.takeWhile Char.isDigit
  | _ => []

/-- A decimal number. It is a float if it has a point or an exponent, and then must be finite; a float
of double precision has a suffix of its own and is not taken. -/
def decimalToken (cs : List Char) : Token × Nat :=
  let whole := cs.takeWhile Char.isDigit
  let fraction := fractionPart (cs.drop whole.length)
  let exponent := exponentPart (cs.drop (whole.length + fraction.length))
  let text := whole ++ fraction ++ exponent
  let after := cs.drop text.length
  if fraction = [] ∧ exponent = [] then
    if whole.head? ≠ some '0' then integerToken 10 whole text.length after
    else if whole.all isOctalDigit then integerToken 8 whole text.length after
    else (.stray, text.length)
  else
    let taken := match after with
      | c :: _ => if c = 'f' ∨ c = 'F' then text.length + 1 else text.length
      | [] => text.length
    match Decimal.number? Format.binary32.round text with
    | some value => (if value.isFinite then .float value else .stray, taken)
    | none => (.stray, taken)

/-- The number at the start of a text. -/
def numberToken : List Char → Token × Nat
  | '0' :: c :: rest =>
    if c = 'x' ∨ c = 'X' then
      let digits := rest.takeWhile isHexDigit
      integerToken 16 digits (digits.length + 2) (rest.drop digits.length)
    else decimalToken ('0' :: c :: rest)
  | cs => decimalToken cs

/-! ## Lines -/

/-- The operators and punctuation marks of several characters, longer ones first. -/
def longMarks : List String :=
  ["<<=", ">>=", "++", "--", "<<", ">>", "<=", ">=", "==", "!=", "&&", "||", "^^", "+=", "-=",
    "*=", "/=", "%=", "&=", "|=", "^="]

/-- The operators and punctuation marks of one character. -/
def shortMarks : List Char :=
  "#(){}[].,;:=!~+-*/%<>&|^?".toList

/-- The mark at the start of a text. -/
def markToken (cs : List Char) : Token × Nat :=
  match longMarks.find? fun text => cs.take text.length = text.toList with
  | some text => (.mark text, text.length)
  | none =>
    match cs.head? with
    | some c => if shortMarks.contains c then (.mark (String.singleton c), 1) else (.stray, 1)
    | none => (.stray, 1)

/-- The token at the start of a text, and the count of characters it takes. -/
def tokenAt (cs : List Char) : Token × Nat :=
  match cs with
  | c :: rest =>
    if isWordStart c then
      let name := cs.takeWhile isWordPart
      (.word (String.ofList name), name.length)
    else if c.isDigit ∨ (c = '.' ∧ rest.head?.any Char.isDigit) then numberToken cs
    else markToken cs
  | [] => (.stray, 1)

/-- The count of characters up to the end of a comment over several lines, if it has an end. -/
def commentLength? (taken : Nat) : List Char → Option Nat
  | '*' :: '/' :: _ => some (taken + 2)
  | _ :: rest => commentLength? (taken + 1) rest
  | [] => none

/-- What starts a line: a break, a blank or a token, and the count of further characters it takes. -/
inductive Piece where
  | lineEnd
  | gap (further : Nat)
  | lexeme (token : Token) (further : Nat)

/-- The piece that starts with `c`. -/
def pieceAt (c : Char) (rest : List Char) : Piece :=
  if isLineEnd c then .lineEnd
  else if isGap c then .gap 0
  else if c = '/' ∧ rest.head? = some '/' then .gap (rest.takeWhile (! isLineEnd ·)).length
  else if c = '/' ∧ rest.head? = some '*' then
    match commentLength? 1 rest.tail with
    | some further => .gap further
    | none => .lexeme .stray rest.length
  else
    let (token, taken) := tokenAt (c :: rest)
    .lexeme token (taken - 1)

/-- Puts a lexeme at the start of the first line. -/
def addLexeme (lexeme : Lexeme) : List Line → List Line
  | line :: later => (lexeme :: line) :: later
  | [] => [[lexeme]]

/-- The lines of a text whose line joints are gone. `spaced` says whether a blank came just before. -/
def linesFrom (spaced : Bool) (cs : List Char) : List Line :=
  match cs with
  | [] => [[]]
  | c :: rest =>
    match pieceAt c rest with
    | .lineEnd => [] :: linesFrom false rest
    | .gap further => linesFrom true (rest.drop further)
    | .lexeme token further => addLexeme ⟨token, spaced⟩ (linesFrom false (rest.drop further))
termination_by cs.length
decreasing_by all_goals (simp only [List.length_cons, List.length_drop]; omega)

/-- The lines of a text. -/
def lines (cs : List Char) : List Line :=
  linesFrom false (splice cs)

example : lines "a1 /* x\ny */ +=.5e1u // z".toList =
    [[⟨.word "a1", false⟩, ⟨.mark "+=", true⟩, ⟨.float (.real 5), false⟩, ⟨.word "u", false⟩]] := by
  decide +kernel

end FrameTransition.Glsl
