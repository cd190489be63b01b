import FrameTransition.Glsl.Typing

/-!
# Statements and functions

Besides the types of its expressions, a statement is checked for where control goes. `Ending` says how a
run of statements ends: whether it leaves what is around it, and whether control can reach its end without
having given back a value. What stands behind a statement that always leaves is not looked at for this.

A function with a value must not be able to reach its end; a loop counts as able to. A case must leave the
choice by a `break` of its own or be empty, unless it is the last one.
-/

namespace FrameTransition.Glsl

open FrameTransition.Shader

/-- How control leaves a run of statements. -/
inductive Jump where
  /-- By a `break` that stands in the run itself. -/
  | leave
  | other
  deriving DecidableEq

/-- The end of a run of statements. -/
structure Ending where
  /-- It does anything. -/
  isActive : Bool
  jump : Option Jump
  /-- Its end is never reached. -/
  isClosed : Bool

namespace Ending

/-- The end of no statements. -/
def nothing : Ending := ⟨false, none, false⟩

/-- The end of a statement after which the next one comes. -/
def plain : Ending := ⟨true, none, false⟩

/-- The end of two runs after one another. -/
def andThen (first second : Ending) : Ending :=
  if first.jump.isSome ∨ !second.isActive then first
  else ⟨true, second.jump, second.isClosed⟩

/-- The end of a case that does not fall into the next one. -/
def leavesCase (ending : Ending) : Bool :=
  !ending.isActive || ending.jump = some .leave

end Ending

/-- What is around a statement. -/
structure Surroundings where
  /-- The type the function gives back. -/
  result : Option Ty
  /-- It can be left by a `break`. -/
  canLeave : Bool
  /-- It can go on with the next turn. -/
  inLoop : Bool

namespace Check

/-- The variables of a declaration inside a function. `further` are the array parts of the names before,
which go on for those behind. -/
def localVariables (isMutable : Bool) (type : TypeName) (further : List (Option Expr)) :
    List Declarator → Check Unit
  | [] => return ()
  | declarator :: rest => do
    let further := declarator.dimensions ++ further
    let own ← typeNamed type further
    demand (.forbidden "a variable of this type") own.isConstructible
    match declarator.initial with
    | some e =>
      let _ ← initial own e
    | none => pure ()
    declareLocal declarator.name ⟨own, isMutable, none, none⟩
    localVariables isMutable type further rest

/-- The members of a structure, name by name. -/
def memberTypes (members : List MemberDeclaration) : Check (List (String × Ty)) := do
  let types ← members.mapM fun declaration => declaration.names.mapM fun (name, dimensions) => do
    return (name, ← typeNamed declaration.type dimensions)
  return types.flatten

/-- Defines a structure. -/
def defineRecord (definition : RecordDefinition) : Check Unit := do
  let members ← memberTypes definition.members
  let type ← require (.forbidden "a member of this type") (recordOf? .std140 definition.name members)
  modify fun checker => { checker with records := (definition.name, type) :: checker.records }

/-- The types a function takes and gives. -/
def signature (head : Signature) : Check (List (Ty × Passing) × Option Ty) := do
  let parameters ← head.parameters.mapM fun parameter => do
    return (← typeNamed parameter.type [], parameter.passing)
  match head.result.base with
  | .void => return (parameters, none)
  | _ =>
    let result ← typeNamed head.result []
    demand (.mismatch ("the value of " ++ head.name)) result.isConstructible
    return (parameters, some result)

/-- Announces a function whose body may come later. -/
def announce (head : Signature) : Check Unit := do
  let (parameters, result) ← signature head
  let checker ← get
  let overload : Overload := ⟨parameters, result, .declared checker.functions.length⟩
  demand (.redeclared head.name) (!(← overloads head.name).any (sameParameters overload))
  let announced : Function := ⟨head.name, overload, false, .none⟩
  set { checker with functions := checker.functions ++ [announced] }

/-- A declaration inside a function. It says whether it does anything. -/
def localDeclaration : Declaration → Check Ending
  | .record definition => do
    defineRecord definition
    return .nothing
  | .variableList qualifiers type declarators => do
    let isPlain := qualifiers.layout.isEmpty && qualifiers.interpolation.isNone && !qualifiers.sampling
      && !qualifiers.invariant && !qualifiers.memory
    demand (.forbidden "a qualifier") isPlain
    match qualifiers.storage with
    | none => localVariables true type [] declarators
    | some .const => localVariables false type [] declarators
    | some _ => fail (.forbidden "a qualifier")
    return if declarators.any (·.initial.isSome) then .plain else .nothing
  | .prototype head => do
    outside (announce head)
    return .nothing
  | .precision _ => return .nothing
  | _ => fail (.forbidden "this declaration")

/-- The label of a case as a number of the selector's type. -/
def label (selector : ScalarKind) (e : Expr) : Check Int := do
  let typed ← outside (value e)
  match typed.position?, (scalarOf? typed.type).map (·.kind) with
  | some number, some kind =>
    if kind = .uint ∧ selector ≠ .uint then fail (.mismatch "a case")
    else return wrapInteger selector number
  | _, _ => fail (.noValue "a case")

/-- The labels of a choice, the default being none of them. -/
def labels (selector : ScalarKind) : List Case → Check (List (Option Int))
  | [] => return []
  | .mk e _ :: rest => do
    let first ← match e with
      | some e => some <$> label selector e
      | none => pure none
    return first :: (← labels selector rest)

mutual

/-- A statement. -/
def statement (around : Surroundings) : Statement → Check Ending
  | .empty => return .nothing
  | .declaration declaration => localDeclaration declaration
  | .expression e => do
    effect e
    return .plain
  | .block body => do
    let ending ← withScope (statements around body)
    return ⟨true, ending.jump.map fun _ => .other, ending.isClosed⟩
  | .branch test accept reject => do
    condition test
    let accept ← withScope (statement around accept)
    let reject ← optional around reject
    return ⟨true, none, accept.isClosed && reject.isClosed⟩
  | .choose selector alternatives => do
    let kind ← match (← value selector).type with
      | .scalar scalar => pure scalar.kind
      | _ => fail (.mismatch "a selector")
    demand (.mismatch "a selector") (kind = .sint || kind = .uint)
    let found ← labels kind alternatives
    demand (.redeclared "a case") (decide found.Nodup)
    let isClosed ← withScope (cases { around with canLeave := true } alternatives)
    return ⟨true, none, isClosed && found.contains none⟩
  | .whileLoop test body => do
    condition test
    let _ ← withScope (statement { around with canLeave := true, inLoop := true } body)
    return .plain
  | .doLoop body test => do
    let _ ← withScope (statement { around with canLeave := true, inLoop := true } body)
    condition test
    return .plain
  | .forLoop start test update body => withScope do
    let _ ← optional around start
    loopTest test
    match update with
    | some e => effect e
    | none => pure ()
    let _ ← statement { around with canLeave := true, inLoop := true } body
    return .plain
  | .leaveLoop => do
    demand (.forbidden "a break") around.canLeave
    return ⟨true, some .leave, true⟩
  | .nextTurn => do
    demand (.forbidden "a continue") around.inLoop
    return ⟨true, some .other, true⟩
  | .giveBack given => do
    let type ← match given with
      | some e => some <$> Typed.type <$> value e
      | none => pure none
    demand (.mismatch "the value given back") (type = around.result)
    return ⟨true, some .other, true⟩
  | .discard => do
    modify fun checker => { checker with usage := { checker.usage with fragmentOnly := true } }
    return ⟨true, some .other, true⟩

/-- The test of a loop: a condition, or a variable that is one. -/
def loopTest : Option Statement → Check Unit
  | none => return ()
  | some (.expression e) => condition e
  | some (.declaration declaration) => do
    match declaration with
    | .variableList _ type _ =>
      demand (.mismatch "a condition") ((← typeNamed type []) = .scalar .bool)
      let _ ← localDeclaration declaration
    | _ => fail (.forbidden "this declaration")
  | some _ => fail (.forbidden "this statement")

/-- A statement that may be missing. -/
def optional (around : Surroundings) : Option Statement → Check Ending
  | none => return .nothing
  | some s => statement around s

/-- A run of statements. -/
def statements (around : Surroundings) : List Statement → Check Ending
  | [] => return .nothing
  | s :: rest => do
    let first ← statement around s
    return first.andThen (← statements around rest)

/-- The cases of a choice. It says whether every case is closed. -/
def cases (around : Surroundings) : List Case → Check Bool
  | [] => return true
  | .mk _ body :: rest => do
    let ending ← statements around body
    let isLast := rest.isEmpty
    demand (.forbidden "an empty last case") (!isLast || ending.isActive)
    demand (.forbidden "a case that goes on with the next one") (isLast || ending.leavesCase)
    let isClosed := match ending.jump with
      | some .leave => false
      | _ => ending.isClosed || (!ending.isActive && !isLast)
    return isClosed && (← cases around rest)

end

/-- Declares the parameters of a function. A later one of a name hides an earlier one. -/
def declareParameters (parameters : List (Option String × Ty × Passing)) : Check Unit :=
  parameters.forM fun (name, type, passing) =>
    match name with
    | none => return ()
    | some name => do
      let isMutable := passing ≠ .constant && type.isConstructible
      modify fun checker => { checker with scopes := match checker.scopes with
        | scope :: outer => ((name, ⟨type, isMutable, none, none⟩) :: scope) :: outer
        | [] => [] }

/-- A function calls only functions announced before it. -/
def callsEarlier (usage : Usage) (index : Nat) : Bool :=
  usage.calls.all (· < index)

/-- A function with its body. -/
def defineFunction (head : Signature) (body : List Statement) : Check Unit := do
  let (parameters, result) ← signature head
  modify fun checker => { checker with usage := .none, combined := [] }
  let names := head.parameters.map (·.name)
  let ending ← withScope do
    declareParameters (names.zip parameters)
    withScope (statements ⟨result, false, false⟩ body)
  demand (.mismatch ("the value of " ++ head.name)) (result.isNone || ending.isClosed)
  let checker ← get
  let usage := checker.usage
  let defined : Overload := ⟨parameters, result, .declared checker.functions.length⟩
  match checker.functions.findIdx? fun f => f.name = head.name && sameParameters f.overload defined with
  | none =>
    let function : Function := ⟨head.name, defined, true, usage⟩
    set { checker with functions := checker.functions ++ [function] }
  | some index =>
    match checker.functions[index]? with
    | none => fail (.unknown head.name)
    | some announced =>
      demand (.redeclared head.name) (!announced.isDefined && callsEarlier usage index)
      let completed : Function := { announced with isDefined := true, usage := usage }
      set { checker with functions := checker.functions.set index completed }

end Check

end FrameTransition.Glsl
