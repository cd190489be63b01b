import FrameTransition.Glsl.Flow

/-!
# Declarations of the whole shader

A variable outside of all functions is a constant, a terminal, a resource or a variable of the invocation,
depending on how it is qualified. Layout qualifiers are used up by the first variable of a declaration; a
qualifier that means nothing where it stands is a fault.
-/

namespace FrameTransition.Glsl

open FrameTransition.Shader

namespace Check

/-- The number a layout qualifier gives. -/
def layoutNumber? (qualifiers : Qualifiers) (name : String) : Check (Option Nat) := do
  match qualifiers.layout.reverse.find? (·.name = name) with
  | none => return none
  | some found =>
    let e ← require (.forbidden name) found.value
    return some (← natural e)

/-- A layout qualifier that has no number. -/
def layoutFlag (qualifiers : Qualifiers) (name : String) : Check Bool := do
  match qualifiers.layout.find? (·.name = name) with
  | none => return false
  | some found =>
    demand (.forbidden name) found.value.isNone
    return true

/-- The qualifiers without some layout names. -/
def without (qualifiers : Qualifiers) (names : List String) : Qualifiers :=
  { qualifiers with layout := qualifiers.layout.filter fun found => !names.contains found.name }

/-- No qualifier is left that means something only elsewhere. -/
def demandUsed (qualifiers : Qualifiers) : Check Unit := do
  match qualifiers.layout with
  | found :: _ => fail (.forbidden found.name)
  | [] =>
    let isUsed := qualifiers.interpolation.isNone && !qualifiers.sampling && !qualifiers.invariant
      && !qualifiers.memory
    demand (.forbidden "a qualifier") isUsed

/-- The qualifiers left for the variables behind the first one. -/
def leftover (qualifiers : Qualifiers) : Qualifiers :=
  { Qualifiers.none with storage := qualifiers.storage }

/-- How values of a type are taken between points unless it is said: floats in perspective, integers
not at all. -/
def usualInterpolation (type : Ty) : Option Interpolation :=
  (scalarOf? type).map fun scalar => if scalar.kind = .float then .perspective else .flat

/-- A variable through which a value enters or leaves. -/
def declarePort (qualifiers : Qualifiers) (isOutput : Bool) (name : String) (type : Ty) :
    Check Symbol := do
  let location ← layoutNumber? qualifiers "location"
  demandUsed { without qualifiers ["location"] with interpolation := none, sampling := false }
  demand (.forbidden "a terminal of this type") type.isConstructible
  addTerminal ⟨name, type, isOutput, .location (location.getD 0),
    qualifiers.interpolation <|> usualInterpolation type, qualifiers.sampling⟩

/-- What may be bound as a resource of a kind of storage, and the space it is in. -/
def resourceSpace? (storage : StorageQualifier) (type : Ty) : Option AddressSpace :=
  match storage, type with
  | .uniform, .image _ => some .handle
  | .uniform, .sampler _ => some .handle
  | .uniform, type => if type.uniformAlignment?.isSome then some .uniform else none
  | .buffer, type => if type.isShareable then some .storage else none
  | _, _ => none

/-- A variable bound from outside. Without a name it is known by its members alone. -/
def declareResource (qualifiers : Qualifiers) (storage : StorageQualifier) (name : Option String)
    (type : Ty) : Check Symbol := do
  let isBuffer := storage = .buffer
  let isMutable := isBuffer && !qualifiers.memory
  if ← layoutFlag qualifiers "push_constant" then
    demandUsed (without qualifiers ["push_constant"])
    demand (.forbidden "a constant of this type") type.isShareable
    let place ← addVariable ⟨name, .uniform, none, type⟩
    return ⟨type, false, none, some place⟩
  let space ← require (.forbidden "a resource of this type") (resourceSpace? storage type)
  let binding ← layoutNumber? qualifiers "binding"
  let binding ← require (.forbidden "a resource without a binding") binding
  let group := (← layoutNumber? qualifiers "set").getD 0
  let rest := without qualifiers ["binding", "set"]
  demandUsed (if isBuffer then { rest with memory := false } else rest)
  let place ← addVariable ⟨name, space, some ⟨group, binding⟩, type⟩
  return ⟨type, isMutable, none, some place⟩

/-- The initial value of a variable of the whole shader, which is set before the main function. -/
def startValue (type : Ty) (e : Expr) : Check Typed := do
  modify fun checker => { checker with usage := .none, combined := [] }
  let typed ← initial type e
  modify fun checker => { checker with startup := checker.startup.union checker.usage }
  return typed

/-- One variable of the whole shader. -/
def globalVariable (qualifiers : Qualifiers) (name : String) (type : Ty) (start : Option Expr) :
    Check Unit := do
  match qualifiers.storage with
  | some .const =>
    demandUsed qualifiers
    demand (.forbidden "a constant of this type") type.isConstructible
    let e ← require (.forbidden "a constant without a value") start
    let constant ← require (.noValue name) (← outside (initial type e)).constant
    declareGlobal name ⟨type, false, some constant, none⟩
  | some .input | some .output =>
    match start with
    | some e =>
      let _ ← startValue type e
    | none => pure ()
    let _ ← declarePort qualifiers (qualifiers.storage = some .output) name type
  | some .workgroup =>
    demandUsed qualifiers
    demand (.forbidden "an initial value") start.isNone
    let _ ← addVariable ⟨some name, .invocation, none, type⟩
    declareGlobal name ⟨type, true, none, none⟩
  | some storage =>
    demand (.forbidden "an initial value") start.isNone
    declareGlobal name (← declareResource qualifiers storage (some name) type)
  | none =>
    demandUsed qualifiers
    demand (.forbidden "a variable of this type") type.isConstructible
    match start with
    | some e =>
      let _ ← startValue type e
    | none => pure ()
    let _ ← addVariable ⟨some name, .invocation, none, type⟩
    declareGlobal name ⟨type, true, none, none⟩

/-- The variables of a declaration. `further` are the array parts of the names before. -/
def globalVariables (qualifiers : Qualifiers) (type : TypeName) (further : List (Option Expr)) :
    List Declarator → Check Unit
  | [] => return ()
  | declarator :: rest => do
    let further := declarator.dimensions ++ further
    globalVariable qualifiers declarator.name (← typeNamed type further) declarator.initial
    globalVariables (leftover qualifiers) type further rest

/-- A block: one variable whose members can be named as they are, too. -/
def block (qualifiers : Qualifiers) (name : String) (members : List MemberDeclaration)
    (instanceName : Option (String × List (Option Expr))) : Check Unit := do
  let strict ← layoutFlag qualifiers "std140"
  let loose ← layoutFlag qualifiers "std430"
  let rule : LayoutRule :=
    if loose then .std430 else if strict ∨ qualifiers.storage ≠ some .buffer then .std140 else .std430
  let qualifiers := without qualifiers ["std140", "std430"]
  let members ← memberTypes members
  let record ← require (.forbidden "a member of this type") (recordOf? rule name members)
  let type ← match instanceName with
    | some (_, dimensions) => withDimensions record (← lengths dimensions)
    | none => pure record
  let symbol ← match qualifiers.storage with
    | some .input => declarePort qualifiers false ((instanceName.map (·.1)).getD name) type
    | some .output => declarePort qualifiers true ((instanceName.map (·.1)).getD name) type
    | some .uniform => declareResource qualifiers .uniform (instanceName.map (·.1)) type
    | some .buffer => declareResource qualifiers .buffer (instanceName.map (·.1)) type
    | _ => fail (.forbidden "this block")
  match instanceName with
  | some (name, _) => declareGlobal name symbol
  | none => pure ()
  match record with
  | .record _ members _ => members.toList.forM fun member =>
      match member.name with
      | some name => declareGlobal name { symbol with type := member.type }
      | none => return ()
  | _ => return ()

/-- A declaration outside of all functions. -/
def declaration : Declaration → Check Unit
  | .record definition => defineRecord definition
  | .variableList qualifiers type declarators => globalVariables qualifiers type [] declarators
  | .prototype head => announce head
  | .block qualifiers name members instanceName => block qualifiers name members instanceName
  | .invariant name => do
    match (stageTerminals (← get).stage).find? (·.name = name) with
    | some _ =>
      let _ ← symbol name
    | none => return ()
  | .qualifiersOnly qualifiers => do
    let sizes := ["local_size_x", "local_size_y", "local_size_z"]
    sizes.forM fun name => do
      let _ ← layoutNumber? qualifiers name
    let _ ← layoutFlag qualifiers "early_fragment_tests"
    demandUsed (without qualifiers ("early_fragment_tests" :: sizes))
  | .precision type => do
    match ← typeNamed type [] with
    | .scalar scalar =>
      demand (.mismatch "a precision") (scalar.kind = .float || scalar.kind = .sint)
    | _ => fail (.mismatch "a precision")

/-- An item of a shader. -/
def item : Item → Check Unit
  | .declaration d => declaration d
  | .function head body => defineFunction head body

end Check

end FrameTransition.Glsl
