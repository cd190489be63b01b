import FrameTransition.Glsl.Parse.Declaration

/-!
# Reading statements and whole shaders
-/

namespace FrameTransition.Glsl

namespace Parse

/-! ## Statements -/

/-- A statement starts as a declaration here: with a qualifier, or with a type that is not called. -/
def atDeclaration : Parse Bool := do
  let reader ← get
  match reader.rest with
  | .word word :: following =>
    return qualifierWords.contains word || word = "precision"
      || (isTypeWord reader word && following.head? ≠ some (.mark "("))
  | _ => return false

/-- One statement out of several that belong together. -/
def gather : List Statement → Statement
  | [statement] => statement
  | statements => .block statements

/-- An expression or a declaration with a value, as the test of a loop. -/
def loopTest (fuel : Nat) : Parse Statement := do
  if (← atType) || (← atWord qualifierWords) then
    let qualifiers ← qualifiersFrom fuel .none
    let type ← plainType fuel
    let name ← freeName
    mark "="
    let initial ← initializer fuel
    return .declaration (.variableList qualifiers type [⟨name, [], some initial⟩])
  else
    return .expression (← expression fuel)

mutual

/-- A statement; a declaration may be several. -/
def statement (fuel : Nat) : Parse (List Statement) := do
  match fuel with
  | 0 => fail .tooDeep
  | fuel + 1 =>
    if ← atDeclaration then localDeclaration fuel
    else if ← mark? ";" then return []
    else if ← mark? "\x7b" then return [.block (← statements fuel)]
    else if ← word? "if" then
      mark "("
      let condition ← expression fuel
      mark ")"
      let accept ← statement fuel
      let reject ← if ← word? "else" then some <$> statement fuel else pure none
      return [.branch condition (gather accept) (reject.map gather)]
    else if ← word? "switch" then
      mark "("
      let selector ← expression fuel
      mark ")"
      mark "\x7b"
      return [.choose selector (← cases fuel)]
    else if ← word? "while" then
      mark "("
      let condition ← expression fuel
      mark ")"
      return [.whileLoop condition (gather (← statement fuel))]
    else if ← word? "do" then
      let body ← statement fuel
      if !(← word? "while") then refuse
      mark "("
      let condition ← expression fuel
      mark ")"
      return [.doLoop (gather body) condition]
    else if ← word? "for" then
      mark "("
      let start ← forStart fuel
      let test ← if ← mark? ";" then pure none else do
        let test ← loopTest fuel
        mark ";"
        pure (some test)
      let update ← if ← atMark ")" then pure none else some <$> expression fuel
      mark ")"
      return [.forLoop start test update (gather (← statement fuel))]
    else if ← word? "break" then
      mark ";"
      return [.leaveLoop]
    else if ← word? "continue" then
      mark ";"
      return [.nextTurn]
    else if ← word? "discard" then
      mark ";"
      return [.discard]
    else if ← word? "return" then
      if ← mark? ";" then return [.giveBack none]
      else
        let value ← expression fuel
        mark ";"
        return [.giveBack (some value)]
    else
      let value ← expression fuel
      mark ";"
      return [.expression value]

/-- What a loop starts with, up to its semicolon. -/
def forStart (fuel : Nat) : Parse (Option Statement) := do
  match fuel with
  | 0 => fail .tooDeep
  | fuel + 1 =>
    if ← mark? ";" then return none
    else if ← atDeclaration then return some (gather (← localDeclaration fuel))
    else
      let value ← expression fuel
      mark ";"
      return some (.expression value)

/-- Statements up to the closing brace. -/
def statements (fuel : Nat) : Parse (List Statement) := do
  match fuel with
  | 0 => fail .tooDeep
  | fuel + 1 =>
    if ← mark? "\x7d" then return []
    else
      let first ← statement fuel
      return first ++ (← statements fuel)

/-- The statements of one case, up to the next one or the closing brace. -/
def caseBody (fuel : Nat) : Parse (List Statement) := do
  match fuel with
  | 0 => fail .tooDeep
  | fuel + 1 =>
    if (← atWord ["case", "default"]) || (← atMark "\x7d") then return []
    else
      let first ← statement fuel
      return first ++ (← caseBody fuel)

/-- The cases of a choice up to the closing brace. -/
def cases (fuel : Nat) : Parse (List Case) := do
  match fuel with
  | 0 => fail .tooDeep
  | fuel + 1 =>
    if ← mark? "\x7d" then return []
    else
      let label ← if ← word? "case" then some <$> conditional fuel
        else if ← word? "default" then pure none
        else refuse
      mark ":"
      let body ← caseBody fuel
      return .mk label body :: (← cases fuel)

end

/-! ## Whole texts -/

/-- One item of a shader. -/
def item (fuel : Nat) (version : Nat) : Parse (List Item) := do
  match ← declaration? fuel with
  | some (.plain declarations) => return declarations.map .declaration
  | some (.functionHead definition signature) =>
    let items := definition.map Item.declaration
    if ← mark? ";" then return items ++ [.declaration (.prototype signature)]
    else
      mark "\x7b"
      return items ++ [.function signature (← statements fuel)]
  | none =>
    if version = 460 && (← mark? ";") then return [] else refuse

/-- All items up to the end. -/
def items (fuel : Nat) (version : Nat) : Parse (List Item) := do
  match fuel with
  | 0 => fail .tooDeep
  | fuel + 1 =>
    if (← peek).isNone then return []
    else
      let first ← item fuel version
      return first ++ (← items fuel version)

end Parse

/-- The items of a shader of some version. -/
def Item.ofTokens (version : Nat) (tokens : List Token) : Except Diagnostic (List Item) :=
  Parse.run (Parse.items · version) tokens

end FrameTransition.Glsl
