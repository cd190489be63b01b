import FrameTransition.Glsl.Diagnostic
import FrameTransition.Glsl.Keyword
import FrameTransition.Glsl.Tree

/-!
# Taking tokens

A reader takes tokens from the front of what is left. Besides the tokens it knows the names of the
structures read so far, since only they tell a declaration from an expression.

The grammar is recursive, so every function of it takes fuel: it goes down by one at each step into the
grammar, and `run` gives enough for the count of tokens.
-/

namespace FrameTransition.Glsl

open FrameTransition.Shader (Ty)

/-- What is left to read, and the structures named so far. -/
structure Reader where
  rest : List Token
  records : List String

/-- A step of reading. -/
abbrev Parse := StateT Reader (Except Diagnostic)

namespace Parse

def fail {α : Type} (diagnostic : Diagnostic) : Parse α :=
  throw diagnostic

/-- The next token, which stays in place. -/
def peek : Parse (Option Token) := do
  return (← get).rest.head?

/-- The next token cannot stand here. -/
def refuse {α : Type} : Parse α := do
  fail (.unexpected (← peek))

/-- Takes the next token, whatever it is. -/
def skip : Parse Unit :=
  modify fun reader => { reader with rest := reader.rest.tail }

/-- Takes the next token if it is a given one, and says whether it was. -/
def take? (token : Token) : Parse Bool := do
  if (← peek) = some token then
    skip
    return true
  else
    return false

def mark? (text : String) : Parse Bool := take? (.mark text)

def word? (word : String) : Parse Bool := take? (.word word)

/-- Takes the next token, which must be a given one. -/
def expect (token : Token) : Parse Unit := do
  if !(← take? token) then refuse

def mark (text : String) : Parse Unit := expect (.mark text)

/-- The next token is a given mark. -/
def atMark (text : String) : Parse Bool := do
  return (← peek) = some (.mark text)

/-- The next token is one of some words. -/
def atWord (words : List String) : Parse Bool := do
  match ← peek with
  | some (.word word) => return words.contains word
  | _ => return false

/-- Takes a free name. -/
def freeName : Parse String := do
  match ← peek with
  | some (.word word) =>
    if isFreeName word then
      skip
      return word
    else refuse
  | _ => refuse

/-- A free name comes next. -/
def atFreeName : Parse Bool := do
  match ← peek with
  | some (.word word) => return isFreeName word
  | _ => return false

/-- A word that starts a type. -/
def isTypeWord (reader : Reader) (word : String) : Bool :=
  word = "void" || word = "struct" || (typeOfName? word).isSome || reader.records.contains word

/-- A type comes next. -/
def atType : Parse Bool := do
  let reader ← get
  match reader.rest.head? with
  | some (.word word) => return isTypeWord reader word
  | _ => return false

/-- Reads all of some tokens. A token leads at most a dozen steps into the grammar. -/
def run {α : Type} (parse : Nat → Parse α) (tokens : List Token) : Except Diagnostic α := do
  let (result, reader) ← StateT.run (parse (16 * (tokens.length + 2))) ⟨tokens, []⟩
  match reader.rest with
  | [] => return result
  | token :: _ => throw (.unexpected (some token))

end Parse

end FrameTransition.Glsl
