import FrameTransition.Glsl.Constant
import FrameTransition.Shader.BlockLayout

/-!
# The types of operators and constructors

Numbers are converted where an operator needs it, but only up: from signed to unsigned integers, then to
floats, then to floats of double width. Booleans are never converted, and no value changes its shape.
-/

namespace FrameTransition.Glsl

open FrameTransition.Shader

/-! ## Conversion -/

/-- The scalar a value is made of, if it is a scalar, a vector or a matrix. -/
def scalarOf? : Ty → Option Scalar
  | .scalar scalar => some scalar
  | .vector _ scalar => some scalar
  | .matrix _ _ scalar => some scalar
  | _ => none

/-- The same shape made of another scalar. -/
def withScalar (scalar : Scalar) : Ty → Ty
  | .scalar _ => .scalar scalar
  | .vector size _ => .vector size scalar
  | .matrix columns rows _ => .matrix columns rows scalar
  | other => other

/-- The place of a number type in the order of conversion. -/
def rank? (scalar : Scalar) : Option Nat :=
  match scalar.kind with
  | .sint => some 0
  | .uint => some 1
  | .float => some (if scalar.width = 8 then 3 else 2)
  | .bool => none

/-- A type after conversion up to a scalar, where one is needed and possible. -/
def raiseTo (scalar : Scalar) (type : Ty) : Ty :=
  match (scalarOf? type).bind rank?, rank? scalar with
  | some own, some target => if own < target then withScalar scalar type else type
  | _, _ => type

/-- A type after conversion toward another one: only the scalars are compared. -/
def raiseToward (target type : Ty) : Ty :=
  match scalarOf? target with
  | some scalar => raiseTo scalar type
  | none => type

/-! ## Operators -/

def BinaryOp.isShift (op : BinaryOp) : Bool :=
  op = .shiftLeft || op = .shiftRight

/-- Both operands after conversion. What a value is shifted by is unsigned; else the lower operand is
raised to the scalar of the other. -/
def operandTypes (op : BinaryOp) (left right : Ty) : Ty × Ty :=
  if op.isShift then (left, raiseTo .uint32 right)
  else (raiseToward right left, raiseToward left right)

/-- The scalar an operator gives on operands of a scalar, if it takes them. -/
def componentResult? (op : BinaryOp) (scalar : Scalar) : Option Scalar :=
  let isNumber := scalar.kind ≠ .bool
  let isInteger := scalar.kind = .sint ∨ scalar.kind = .uint
  match op with
  | .add | .subtract | .multiply | .divide | .modulo => if isNumber then some scalar else none
  | .less | .lessEqual | .greater | .greaterEqual => if isNumber then some .bool else none
  | .equal | .notEqual | .xor => some .bool
  | .bitAnd | .bitOr => if scalar.kind = .float then none else some scalar
  | .bitXor | .shiftLeft | .shiftRight => if isInteger then some scalar else none
  | .and | .or => if scalar.kind = .bool then some .bool else none

/-- Operators that go with a vector on one side and a scalar on the other. -/
def BinaryOp.mixes : BinaryOp → Bool
  | .add | .subtract | .multiply | .divide | .bitAnd | .bitXor | .bitOr | .shiftLeft | .shiftRight =>
    true
  | _ => false

/-- Operators that go with a matrix on one side and a scalar on the other. -/
def BinaryOp.scales : BinaryOp → Bool
  | .add | .subtract | .multiply | .divide => true
  | _ => false

def BinaryOp.comparesWhole : BinaryOp → Bool
  | .equal | .notEqual | .xor => true
  | _ => false

/-- The type of an operator on converted operands. Vectors go component by component, but a comparison
for equality gives one answer for all of them; matrices multiply as matrices. -/
def binaryType? (op : BinaryOp) (left right : Ty) : Option Ty :=
  let fits (a b : Scalar) : Bool := if op.isShift then b = .uint32 else a = b
  match left, right with
  | .scalar a, .scalar b =>
    if fits a b then (componentResult? op a).map .scalar else none
  | .vector n a, .vector m b =>
    if n = m ∧ fits a b then
      if op.comparesWhole then some (.scalar .bool) else (componentResult? op a).map (.vector n)
    else none
  | .vector n a, .scalar b =>
    if op.mixes ∧ fits a b then (componentResult? op a).map (.vector n) else none
  | .scalar a, .vector n b =>
    if op.mixes ∧ fits a b then (componentResult? op a).map (.vector n) else none
  | .matrix columns rows a, .scalar b =>
    if op.scales ∧ a = b then some (.matrix columns rows a) else none
  | .scalar a, .matrix columns rows b =>
    if op.scales ∧ a = b then some (.matrix columns rows b) else none
  | .matrix columns rows a, .vector n b =>
    if op = .multiply ∧ a = b ∧ n = columns then some (.vector rows a) else none
  | .vector n a, .matrix columns rows b =>
    if op = .multiply ∧ a = b ∧ n = rows then some (.vector columns a) else none
  | .matrix columns rows a, .matrix columns' rows' b =>
    if a ≠ b then none
    else if op = .multiply then if columns = rows' then some (.matrix columns' rows a) else none
    else if columns ≠ columns' ∨ rows ≠ rows' then none
    else if op.comparesWhole then some (.scalar .bool)
    else if op.scales then some (.matrix columns rows a)
    else none
  | _, _ => none

/-- A unary operator takes operands of a type. -/
def takesUnary (op : UnaryOp) (type : Ty) : Bool :=
  match op, (scalarOf? type).map (·.kind) with
  | .plus, _ => true
  | .negate, some kind => kind = .float || kind = .sint
  | .not, some kind => kind = .bool
  | .complement, some kind => kind = .sint || kind = .uint
  | _, none => false

/-! ## Constructors -/

/-- How many components a value gives to a vector or matrix made of several values. -/
def componentCount? : Ty → Option Nat
  | .scalar _ => some 1
  | .vector size _ => some size.toNat
  | _ => none

/-- Values are the elements or members of some types, after conversion. -/
def fillInOrder : List Ty → List Ty → Bool
  | [], _ => true
  | type :: types, value :: values => raiseToward type value = type && fillInOrder types values
  | _ :: _, [] => false

/-- The type of a value made from a single one. A number from a boolean keeps the boolean's shape; a
vector is made from a scalar or a vector no shorter, a matrix from a scalar, a matrix, or its columns. -/
def constructOne? (target value : Ty) : Option Ty :=
  match scalarOf? target, scalarOf? value with
  | some made, some given =>
    if given.kind = .bool ∧ made.kind ≠ .bool then some (withScalar { made with width := 4 } value)
    else match target, value with
      | .scalar _, _ => some target
      | .vector _ _, .scalar _ => some target
      | .vector size _, .vector given _ => if size.toNat ≤ given.toNat then some target else none
      | .matrix _ _ _, .scalar _ => some target
      | .matrix _ _ _, .matrix _ _ _ => some target
      | .matrix _ rows _, .vector given _ => if rows = given then some target else none
      | _, _ => none
  | some _, none => none
  | none, _ =>
    match target with
    | .array element (some 1) _ => if raiseToward element value = element then some target else none
    | .record _ (.cons _ type _ _ .nil) _ =>
      if raiseToward type value = type then some target else none
    | _ => none

/-- The type of a value made from several. Vectors among them give their components one by one; a
vector leaves out what is too much, a matrix takes it exactly. -/
def constructMany? (target : Ty) (values : List Ty) : Option Ty :=
  match target with
  | .vector size _ =>
    (values.mapM componentCount?).bind fun counts =>
      if size.toNat ≤ counts.foldl (· + ·) 0 then some target else none
  | .matrix columns rows _ =>
    (values.mapM componentCount?).bind fun counts =>
      if counts.foldl (· + ·) 0 = columns.toNat * rows.toNat then some target else none
  | .array element (some length) _ =>
    if values.length = length ∧ fillInOrder (values.map fun _ => element) values then some target
    else none
  | .record _ members _ =>
    if fillInOrder (members.toList.map (·.type)) values then some target else none
  | _ => none

/-- The type of a value made from others. An array without a length gets as many elements as are
given. -/
def constructType? (target : Ty) (values : List Ty) : Option Ty :=
  let target := match target with
    | .array element none stride => .array element (some values.length) stride
    | other => other
  match values with
  | [value] => constructOne? target value
  | _ => constructMany? target values

/-- The constant made from others. -/
def constructConstant (target : Ty) (values : List Constant) : Constant :=
  match target, values with
  | .scalar scalar, [value] =>
    match value with
    | .parts (first :: _) => convertScalar scalar first
    | other => convertScalar scalar other
  | .vector size scalar, [.parts components] => .parts ((components.take size.toNat).map (convertScalar scalar))
  | .vector size scalar, [value] => (convertScalar scalar value).splat size.toNat
  | .vector size scalar, _ =>
    let components := values.flatMap fun
      | .parts components => components
      | other => [other]
    if values.any (fun | .unevaluated => true | _ => false) then .unevaluated
    else .parts ((components.take size.toNat).map (convertScalar scalar))
  | .array element _ _, _ =>
    .parts (match scalarOf? element with
      | some scalar => values.map (Constant.convert scalar)
      | none => values)
  | .record _ _ _, _ => .parts values
  | _, _ => .unevaluated

/-! ## Parts of values -/

/-- The names of a vector's components come from one of these sets. -/
def componentSets : List (List Char) :=
  ["xyzw".toList, "rgba".toList, "stpq".toList]

/-- The places of named components in a vector. -/
def componentPlaces? (size : VectorSize) (name : List Char) : Option (List Nat) :=
  componentSets.findSome? fun set =>
    name.mapM fun c => (set.take size.toNat).findIdx? (· = c)

/-- The type of some components of a vector: one is a scalar, up to four are a vector. -/
def componentsType? (scalar : Scalar) (places : List Nat) : Option Ty :=
  match places with
  | [_] => some (.scalar scalar)
  | _ => (VectorSize.ofNat? places.length).map (.vector · scalar)

/-- The type of an element and how many there are, if that is known. -/
def elementType? : Ty → Option (Ty × Option Nat)
  | .vector size scalar => some (.scalar scalar, some size.toNat)
  | .matrix columns rows scalar => some (.vector rows scalar, some columns.toNat)
  | .array element length _ => some (element, length)
  | _ => none

/-- The place and type of a structure's member. -/
def memberType? (members : Members) (name : String) : Option (Nat × Ty) :=
  let all := members.toList
  (all.findIdx? (·.name = some name)).bind fun place =>
    all[place]?.map fun found => (place, found.type)

end FrameTransition.Glsl
