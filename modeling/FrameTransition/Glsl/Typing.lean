import FrameTransition.Glsl.Scope

/-!
# The types of expressions

`Check.value` finds the type of an expression that is read, with its value where that is constant, and
`Check.place` the type of one that is stored into. Both go down the tree; what they learn beyond the type
is kept in the `Checker`.
-/

namespace FrameTransition.Glsl

open FrameTransition.Shader

/-- What is known of a value. -/
structure Typed where
  type : Ty
  /-- Its value, if it is constant. -/
  constant : Option Constant
  /-- The variable that holds it, if it is an image. -/
  image : Option String

/-- A value that is not constant. -/
def Typed.ofType (type : Ty) : Typed := ⟨type, none, none⟩

/-- A type that is stored into, and whether it is some components of a vector. -/
structure Place where
  type : Ty
  isSelection : Bool

namespace Typed

/-- A value after conversion toward a type. -/
def raiseToward (target : Ty) (value : Typed) : Typed :=
  let type := Glsl.raiseToward target value.type
  if type = value.type then value
  else ⟨type, value.constant.bind fun c => (scalarOf? type).map fun s => c.convert s, value.image⟩

/-- The place a constant integer names. -/
def position? (value : Typed) : Option Int :=
  match value.constant with
  | some (.int position) => some position
  | _ => none

/-- A value can be the position of an element. -/
def isPosition (value : Typed) : Bool :=
  value.type = .scalar .int32 || value.type = .scalar .uint32

/-- A choice between two values is possible by this one. -/
def isCondition (value : Typed) : Bool :=
  value.type = .scalar .bool

end Typed

namespace Check

/-! ## Names and types -/

/-- The type without array parts a name stands for. -/
def base : BaseType → Check Ty
  | .void => fail (.mismatch "void")
  | .basic (.matrix columns rows scalar) =>
    if scalar.kind = .float then return .matrix columns rows scalar
    else fail (.forbidden "a matrix without floats")
  | .basic type => return type
  | .named name => do require (.unknown name) ((← get).records.lookup name)

/-- A type with array parts, the outermost first. -/
def withDimensions (element : Ty) (dimensions : List (Option Nat)) : Check Ty := do
  let type := dimensions.foldr (fun length type => arrayOf type length) element
  if dimensions.isEmpty then return type
  else
    demand (.forbidden "an array of images") (element.isConstructible || element.isShareable)
    demand (.forbidden "an array of arrays without length") (dimensions.tail.all (·.isSome))
    return type

/-- The member or components of a value. -/
def selection (type : Ty) (name : String) : Check (Ty × (Constant → Constant) × Bool) :=
  match type with
  | .record _ members _ => do
    let (place, type) ← require (.unknown name) (memberType? members name)
    return (type, Constant.part place, false)
  | .vector size scalar => do
    let places ← require (.unknown name) (componentPlaces? size name.toList)
    let type ← require (.unknown name) (componentsType? scalar places)
    let pick : Constant → Constant := fun
      | .parts values =>
        match places with
        | [place] => values[place]?.getD .unevaluated
        | _ => .parts (places.map fun place => values[place]?.getD .unevaluated)
      | _ => .unevaluated
    return (type, pick, 1 < places.length)
  | _ => fail (.unknown name)

/-- The element at a position, which must be there where it is known. -/
def element (type : Ty) (position : Typed) : Check Ty := do
  let (element, length) ← require (.mismatch "an indexed value") (elementType? type)
  demand (.mismatch "a position") position.isPosition
  match position.position? with
  | none => return element
  | some place =>
    demand (.noValue "an element out of bounds") (0 ≤ place)
    demand (.noValue "an element out of bounds") (length.all fun length => place < length)
    return element

/-- An operator on two values. -/
def binary (op : BinaryOp) (left right : Typed) : Check Typed := do
  let (leftType, rightType) := operandTypes op left.type right.type
  let type ← require (.mismatch "an operand") (binaryType? op leftType rightType)
  let left := left.raiseToward leftType
  let right := right.raiseToward rightType
  match left.constant, right.constant, scalarOf? leftType with
  | some a, some b, some scalar => return ⟨type, some (← Constant.binary scalar op a b), none⟩
  | _, _, _ => return .ofType type

/-- The types of the places of an initial value in braces. -/
def parts (type : Ty) : Check (List Ty) :=
  match type with
  | .vector size scalar => return List.replicate size.toNat (.scalar scalar)
  | .matrix columns rows scalar => return List.replicate columns.toNat (.vector rows scalar)
  | .array element (some length) _ => return List.replicate length element
  | .record _ members _ => return members.toList.map (·.type)
  | _ => fail (.mismatch "an initial value")

/-- Puts an image and a sampler together, or reads through the sampler an image is put together with. -/
def useImage (target : Target) (image : Option String) : Check Unit := do
  match target with
  | .combine =>
    modify fun checker => { checker with combined := image.toList ++ checker.combined }
  | .sample _ =>
    demand (.forbidden "an image without a sampler") (image.any (← get).combined.contains)
  | _ => return ()

/-- The value of a call, if it has one. -/
def called (overload : Overload) (arguments : List Typed) : Check (Option Typed) := do
  noteTarget overload.target
  let image := arguments.head?.bind (·.image)
  useImage overload.target image
  let isConstant := overload.target = .pure && arguments.all (·.constant.isSome)
  return overload.result.map fun type =>
    ⟨type, if isConstant then some .unevaluated else none,
      if overload.target = .combine then image else none⟩

/-- A call with its value, if it has one: the arguments are read, and those are stored into that the
overload for them stores into. -/
def call (name : String) (read : Check (List Typed)) (stored : List Passing → Check Unit) :
    Check (Option Typed) := do
  let given ← read
  let overload ← require (.unknown name) (resolve? (← overloads name) (given.map (·.type)))
  stored (overload.parameters.map (·.2))
  called overload given

/-! ## Names in parts that are not evaluated -/

mutual

/-- The names of variables in an expression. -/
def names : Expr → List String
  | .integer _ _ => []
  | .float _ => []
  | .bool _ => []
  | .name name => [name]
  | .unary _ operand => names operand
  | .binary _ left right => names left ++ names right
  | .step target => names target
  | .assign _ target value => names target ++ names value
  | .conditional condition accept reject => names condition ++ names accept ++ names reject
  | .index array position => names array ++ names position
  | .member value _ => names value
  | .length array => names array
  | .call _ arguments => namesOfAll arguments
  | .construct _ _ arguments => namesOfAll arguments
  | .initializers elements => namesOfAll elements
  | .sequence first second => names first ++ names second

def namesOfAll : List Expr → List String
  | [] => []
  | e :: es => names e ++ namesOfAll es

end

/-! ## Expressions -/

mutual

/-- The lengths of array parts. They are constants of the whole shader, and at least one. -/
def lengths : List (Option Expr) → Check (List (Option Nat))
  | [] => return []
  | none :: rest => do return none :: (← lengths rest)
  | some e :: rest => do
    let length ← outside (value e)
    match length.position? with
    | some length =>
      demand (.noValue "the length of an array") (0 < length)
      return some length.toNat :: (← lengths rest)
    | none => fail (.noValue "the length of an array")

/-- The values of arguments. -/
def values : List Expr → Check (List Typed)
  | [] => return []
  | e :: es => do
    let first ← value e
    return first :: (← values es)

/-- The arguments that are stored into can be. -/
def stores : List Expr → List Passing → Check Unit
  | e :: es, passing :: rest => do
    if passing.isStored then
      let _ ← place e
    stores es rest
  | _, _ => return ()

/-- The type of an expression that is read. -/
def value : Expr → Check Typed
  | .integer number unsigned =>
    let kind : ScalarKind := if unsigned then .uint else .sint
    return ⟨.scalar (if unsigned then .uint32 else .int32), some (.int (wrapInteger kind number)), none⟩
  | .float number => return ⟨.scalar .float32, some (.float number), none⟩
  | .bool b => return ⟨.scalar .bool, some (.bool b), none⟩
  | .name name => do
    let found ← symbol name
    let image := match found.type with
      | .image _ => some name
      | _ => none
    return ⟨found.type, found.constant, image⟩
  | .unary op operand => do
    let operand ← value operand
    demand (.mismatch "an operand") (takesUnary op operand.type)
    match operand.constant, scalarOf? operand.type with
    | some constant, some scalar => return ⟨operand.type, some (constant.unary scalar op), none⟩
    | _, _ => return .ofType operand.type
  | .binary op left right => do
    let left ← value left
    let right ← value right
    binary op left right
  | .step target => do
    let target ← place target
    demand (.mismatch "a stepped variable") ((scalarOf? target.type).any (·.kind ≠ .bool))
    return .ofType target.type
  | .assign op target given => do
    let stored ← place target
    let given ← value given
    let given ← match op with
      | none => pure given
      | some op => binary op (← value target) given
    let given := given.raiseToward stored.type
    let fits := match stored.isSelection, stored.type, given.type with
      | true, .vector size scalar, .vector count own => size.toNat ≤ count.toNat && scalar = own
      | _, type, own => type = own
    demand (.mismatch "an assigned value") fits
    return .ofType given.type
  | .conditional condition accept reject => do
    let condition ← value condition
    demand (.mismatch "a condition") condition.isCondition
    let accept ← value accept
    let reject ← value reject
    let type := raiseToward reject.type accept.type
    demand (.mismatch "an alternative") (type = raiseToward accept.type reject.type)
    demand (.mismatch "an alternative") type.isConstructible
    return .ofType type
  | .index array position => do
    let array ← value array
    let position ← value position
    let type ← element array.type position
    match array.constant, position.position? with
    | some constant, some place => return ⟨type, some (constant.part place.toNat), none⟩
    | _, _ => return .ofType type
  | .member record name => do
    let record ← value record
    let (type, pick, _) ← selection record.type name
    return ⟨type, record.constant.map pick, none⟩
  | .length array => do
    match (← value array).type with
    | .array _ (some length) _ => return ⟨.scalar .int32, some (.int length), none⟩
    | .array _ none _ => return .ofType (.scalar .int32)
    | _ => fail (.mismatch "an array")
  | .call name arguments => do
    require (.mismatch ("the value of " ++ name)) (← call name (values arguments) (stores arguments))
  | .construct type dimensions arguments => do
    let target ← withDimensions (← base type) (← lengths dimensions)
    let given ← values arguments
    let type ← require (.mismatch "a constructed value") (constructType? target (given.map (·.type)))
    return ⟨type, (given.mapM Typed.constant).map (constructConstant type), none⟩
  | .initializers _ => fail (.forbidden "an initial value")
  | .sequence first second => do
    (names first).forM fun name => do
      let _ ← symbol name
    value second

/-- The type of an expression that is stored into. -/
def place : Expr → Check Place
  | .name name => do
    let found ← symbol name
    demand (.forbidden ("a change of " ++ name)) found.isMutable
    return ⟨found.type, false⟩
  | .index array position => do
    let array ← place array
    let position ← value position
    return ⟨← element array.type position, false⟩
  | .member record name => do
    let record ← place record
    let (type, _, isSelection) ← selection record.type name
    if isSelection then demand (.forbidden "a component twice") (decide name.toList.Nodup)
    return ⟨type, isSelection⟩
  | _ => fail (.forbidden "a change of a value")

end

mutual

/-- An initial value for a variable of a type. -/
def initial (target : Ty) : Expr → Check Typed
  | .initializers elements => do
    let given ← initials (← parts target) elements
    return ⟨target, (given.mapM Typed.constant).map .parts, none⟩
  | e => do
    let given := (← value e).raiseToward target
    demand (.mismatch "an initial value") (given.type = target)
    return given

/-- Initial values for as many types. -/
def initials (targets : List Ty) : List Expr → Check (List Typed)
  | [] => if targets.isEmpty then return [] else fail (.mismatch "a count of initial values")
  | e :: es => do
    match targets with
    | [] => fail (.mismatch "a count of initial values")
    | target :: rest =>
      let first ← initial target e
      return first :: (← initials rest es)

end

/-- The type a name stands for, with all its array parts; `further` come first. -/
def typeNamed (type : TypeName) (further : List (Option Expr)) : Check Ty := do
  withDimensions (← base type.base) (← lengths (further ++ type.dimensions))

/-- A constant natural number. -/
def natural (e : Expr) : Check Nat := do
  match (← outside (value e)).position? with
  | some number =>
    demand (.noValue "a negative number") (0 ≤ number)
    return number.toNat
  | none => fail (.noValue "a number that is not constant")

/-- An expression that is evaluated for what it does; it need not have a value. -/
def effect : Expr → Check Unit
  | .call name arguments => do
    let _ ← call name (values arguments) (stores arguments)
  | .sequence first second => do
    (names first).forM fun name => do
      let _ ← symbol name
    effect second
  | e => do
    let _ ← value e

/-- A condition. -/
def condition (e : Expr) : Check Unit := do
  demand (.mismatch "a condition") (← value e).isCondition

end Check

end FrameTransition.Glsl
