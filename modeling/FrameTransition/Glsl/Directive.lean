import FrameTransition.Glsl.Macro
import FrameTransition.Glsl.Parse.Expression

/-!
# Directives

A line that starts with a hash mark is a directive: it defines a macro, chooses which of the following
lines are in use, or says something about the whole text. `Source.ofLines` carries out the directives of
a text and leaves the tokens of the lines in use, with all macros replaced.

Lines that are not in use may hold anything. Among them only those directives count that open and close
groups of lines.
-/

namespace FrameTransition.Glsl

/-- What the directives of a text leave. -/
structure Source where
  version : Nat
  tokens : List Token

/-- A group of lines whose use depends on a condition. -/
structure Group where
  /-- The lines around it are in use. -/
  outer : Bool
  /-- The lines that come now are in use. -/
  active : Bool
  /-- Some part of it was in use already. -/
  decided : Bool
  /-- Its last part has begun. -/
  last : Bool

/-- The work of reading a text line by line. -/
structure Preprocessor where
  macros : Macros
  groups : List Group
  version : Nat
  /-- Something came before. -/
  started : Bool
  /-- The tokens in use since the last directive, line by line, latest first. -/
  pending : List (List Token)
  /-- The finished tokens, latest part first. -/
  finished : List (List Token)

namespace Preprocessor

/-- The version of a text that states none. -/
def defaultVersion : Nat := 440

def start : Preprocessor := ⟨[], [], defaultVersion, false, [], []⟩

/-- The lines that come now are in use. -/
def isActive (state : Preprocessor) : Bool :=
  state.groups.all (·.active)

/-- The macros of a place, with the ones every text has. The count of lines is not kept. -/
def allMacros (state : Preprocessor) : Macros :=
  state.macros ++
    [("__VERSION__", ⟨none, [.integer state.version false]⟩), ("__LINE__", ⟨none, [.integer 1 false]⟩),
      ("__FILE__", ⟨none, [.integer 0 false]⟩)]

/-- Replaces the macros in the pending tokens. A call may go on over several lines, but not over a
directive. -/
def flush (state : Preprocessor) : Except Diagnostic Preprocessor := do
  let expanded ← Macro.expandAll state.allMacros state.pending.reverse.flatten
  return { state with pending := [], finished := expanded :: state.finished }

/-! ## Conditions -/

/-- Replaces questions for a definition by their answers. -/
def answerDefined (macros : Macros) : List Token → Except Diagnostic (List Token)
  | .word "defined" :: .word name :: rest => do
    return .integer (if (macros.lookup name).isSome then 1 else 0) false :: (← answerDefined macros rest)
  | .word "defined" :: .mark "(" :: .word name :: .mark ")" :: rest => do
    return .integer (if (macros.lookup name).isSome then 1 else 0) false :: (← answerDefined macros rest)
  | .word "defined" :: _ => throw (.directive "defined")
  | token :: rest => do return token :: (← answerDefined macros rest)
  | [] => return []

/-- One for true, zero for false. -/
def ofBool (b : Bool) : Int :=
  if b then 1 else 0

/-- The value of a binary operator in a condition. -/
def binaryValue (op : BinaryOp) (left right : Int) : Except Diagnostic Int :=
  match op with
  | .add => return left + right
  | .subtract => return left - right
  | .multiply => return left * right
  | .divide => if right = 0 then throw (.noValue "a division by zero") else return left.tdiv right
  | .modulo => if right = 0 then throw (.noValue "a division by zero") else return left.tmod right
  | .shiftLeft =>
    if 0 ≤ right ∧ right < 64 then return left * Nat.pow 2 right.toNat else throw (.noValue "a wide shift")
  | .shiftRight =>
    if 0 ≤ right ∧ right < 64 then return left / Nat.pow 2 right.toNat else throw (.noValue "a wide shift")
  | .less => return ofBool (left < right)
  | .lessEqual => return ofBool (left ≤ right)
  | .greater => return ofBool (right < left)
  | .greaterEqual => return ofBool (right ≤ left)
  | .equal => return ofBool (left = right)
  | .notEqual => return ofBool (left ≠ right)
  | .bitAnd => return ((Int64.ofInt left) &&& (Int64.ofInt right)).toInt
  | .bitXor => return ((Int64.ofInt left) ^^^ (Int64.ofInt right)).toInt
  | .bitOr => return ((Int64.ofInt left) ||| (Int64.ofInt right)).toInt
  | .and => return ofBool (left ≠ 0 && right ≠ 0)
  | .or => return ofBool (left ≠ 0 || right ≠ 0)
  | .xor => throw (.directive "if")

/-- The value of a condition. A name that is no macro has none, unless the other side decides. -/
def conditionValue : Expr → Except Diagnostic Int
  | .integer value _ => return value
  | .unary .plus operand => conditionValue operand
  | .unary .negate operand => do return -(← conditionValue operand)
  | .unary .complement operand => do return -(← conditionValue operand) - 1
  | .unary .not operand => do return ofBool ((← conditionValue operand) = 0)
  | .binary .and left right => do
    if (← conditionValue left) = 0 then return 0 else return ofBool ((← conditionValue right) ≠ 0)
  | .binary .or left right => do
    if (← conditionValue left) ≠ 0 then return 1 else return ofBool ((← conditionValue right) ≠ 0)
  | .binary op left right => do binaryValue op (← conditionValue left) (← conditionValue right)
  | .name name => throw (.unknown name)
  | _ => throw (.directive "if")

/-- Whether a condition holds. -/
def holds (state : Preprocessor) (tokens : List Token) : Except Diagnostic Bool := do
  let asked ← answerDefined state.allMacros tokens
  let expanded ← Macro.expandAll state.allMacros asked
  return (← conditionValue (← Expr.ofTokens expanded)) ≠ 0

/-! ## Groups -/

/-- Opens a group. -/
def openGroup (state : Preprocessor) (condition : Except Diagnostic Bool) :
    Except Diagnostic Preprocessor := do
  let outer := state.isActive
  let active ← if outer then condition else pure false
  return { state with groups := ⟨outer, active, active, false⟩ :: state.groups }

/-- Begins another part of the innermost group. -/
def nextPart (state : Preprocessor) (name : String) (last : Bool)
    (condition : Except Diagnostic Bool) : Except Diagnostic Preprocessor := do
  match state.groups with
  | [] => throw (.directive name)
  | group :: outer =>
    if group.last then throw (.directive name)
    let active ← if group.outer && !group.decided then condition else pure false
    return { state with groups := ⟨group.outer, active, group.decided || active, last⟩ :: outer }

/-- The name a directive asks about, which must stand alone. -/
def loneName (directive : String) : List Token → Except Diagnostic String
  | [.word name] => return name
  | _ => throw (.directive directive)

/-! ## Definitions -/

/-- The names between the parentheses of a macro, and what follows. -/
def parameterNames : List Lexeme → Option (List String × List Lexeme)
  | ⟨.word name, _⟩ :: ⟨.mark ",", _⟩ :: rest =>
    (parameterNames rest).map fun (names, rest) => (name :: names, rest)
  | ⟨.word name, _⟩ :: ⟨.mark ")", _⟩ :: rest => some ([name], rest)
  | _ => none

/-- A macro from what stands behind its name. Parameters follow the name without a blank. -/
def macroOf (line : List Lexeme) : Except Diagnostic Macro :=
  match line with
  | ⟨.mark "(", false⟩ :: ⟨.mark ")", _⟩ :: body => return ⟨some [], body.map Lexeme.token⟩
  | ⟨.mark "(", false⟩ :: rest =>
    match parameterNames rest with
    | some (names, body) =>
      if names.Nodup then return ⟨some names, body.map Lexeme.token⟩ else throw (.directive "define")
    | none => throw (.directive "define")
  | body => return ⟨none, body.map Lexeme.token⟩

/-- Defines a macro. A second definition of a name must be the same as the first. -/
def define (state : Preprocessor) (name : String) (line : List Lexeme) :
    Except Diagnostic Preprocessor := do
  let found ← macroOf line
  match state.macros.lookup name with
  | some earlier => if earlier = found then return state else throw (.redeclared name)
  | none => return { state with macros := (name, found) :: state.macros }

/-! ## Directives -/

/-- The versions of the language that are taken. -/
def versions : List Nat := [440, 450, 460]

/-- What an extension may be asked to do. -/
def extensionUses : List String := ["require", "enable", "warn", "disable"]

/-- Carries out a directive on a line in use that opens or closes no group. -/
def carryOut (state : Preprocessor) (name : String) (line : List Lexeme) :
    Except Diagnostic Preprocessor := do
  let tokens := line.map Lexeme.token
  match name, tokens with
  | "define", .word defined :: _ => state.define defined line.tail
  | "undef", [.word defined] =>
    return { state with macros := state.macros.filter (·.1 ≠ defined) }
  | "version", .integer number false :: profile =>
    if state.started ∨ number ∉ versions ∨ (profile ≠ [] ∧ profile ≠ [.word "core"]) then
      throw (.directive name)
    else return { state with version := number }
  | "extension", [.word _, .mark ":", .word use] =>
    if extensionUses.contains use then return state else throw (.directive name)
  | "pragma", _ => return state
  | "line", _ =>
    match ← Macro.expandAll state.allMacros tokens with
    | [.integer _ _] => return state
    | [.integer _ _, .integer _ _] => return state
    | _ => throw (.directive name)
  | _, _ => throw (.directive name)

/-- Carries out the directive of a line, behind its hash mark. -/
def directive (state : Preprocessor) (line : List Lexeme) : Except Diagnostic Preprocessor := do
  let tokens := line.tail.map Lexeme.token
  match line.head?.map Lexeme.token with
  | some (.word "if") => state.openGroup (state.holds tokens)
  | some (.word "ifdef") =>
    state.openGroup do return (state.allMacros.lookup (← loneName "ifdef" tokens)).isSome
  | some (.word "ifndef") =>
    state.openGroup do return (state.allMacros.lookup (← loneName "ifndef" tokens)).isNone
  | some (.word "elif") => state.nextPart "elif" false (state.holds tokens)
  | some (.word "else") => state.nextPart "else" true (.ok true)
  | some (.word "endif") =>
    match state.groups with
    | [] => throw (.directive "endif")
    | _ :: outer => return { state with groups := outer }
  | some token =>
    if !state.isActive then return state
    else if line.any (·.token = .stray) then throw (.unexpected (some .stray))
    else match token with
      | .word name => state.carryOut name line.tail
      | _ => throw (.unexpected (some token))
  | none => return state

/-- Takes one line. -/
def takeLine (state : Preprocessor) (line : Line) : Except Diagnostic Preprocessor := do
  match line with
  | [] => return state
  | ⟨.mark "#", _⟩ :: rest => return { (← (← state.flush).directive rest) with started := true }
  | _ =>
    if state.isActive then
      return { state with started := true, pending := line.map Lexeme.token :: state.pending }
    else return state

end Preprocessor

/-- Carries out the directives of a text. Every group must be closed at its end. -/
def Source.ofLines (lines : List Line) : Except Diagnostic Source := do
  let state ← (← lines.foldlM Preprocessor.takeLine Preprocessor.start).flush
  if state.groups.isEmpty then return ⟨state.version, state.finished.reverse.flatten⟩
  else throw (.unexpected none)

end FrameTransition.Glsl
