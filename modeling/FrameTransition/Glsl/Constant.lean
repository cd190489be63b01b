import FrameTransition.Glsl.Diagnostic
import FrameTransition.Glsl.Tree

/-!
# Constants

The value of an expression that is known before the shader runs, as far as it is computed: some functions
of constants are constant, yet nothing asks for their value (`unevaluated`).

Arithmetic on constants is checked: a division by zero, an integer outside its 32 bits, a shift by the
width or more and a float that is not finite have no value, and a shader that asks for one is refused.
-/

namespace FrameTransition.Glsl

open FrameTransition.Shader (Scalar ScalarKind)

inductive Constant where
  | bool (value : Bool)
  | int (value : Int)
  | float (value : Number)
  /-- The components of a vector, the elements of an array or the members of a structure. -/
  | parts (values : List Constant)
  | unevaluated

instance : Inhabited Constant := ⟨.unevaluated⟩

/-! ## Integers of 32 bits -/

/-- The least and the greatest integer of a kind. -/
def integerBounds (kind : ScalarKind) : Int × Int :=
  match kind with
  | .uint => (0, 4294967295)
  | _ => (-2147483648, 2147483647)

/-- The integer of a kind with the same low 32 bits. -/
def wrapInteger (kind : ScalarKind) (value : Int) : Int :=
  match kind with
  | .uint => value % 4294967296
  | _ => Int.bmod value 4294967296

/-- The integer of a kind nearest to a value. -/
def clampInteger (kind : ScalarKind) (value : Int) : Int :=
  let (low, high) := integerBounds kind
  max low (min high value)

/-- An integer that must be one of its kind. -/
def exactInteger (kind : ScalarKind) (value : Int) : Except Diagnostic Constant :=
  let (low, high) := integerBounds kind
  if low ≤ value ∧ value ≤ high then return .int value else throw (.noValue "an integer overflow")

/-! ## Floats -/

/-- The rounding of a float of some width. -/
def floatRounding (scalar : Scalar) : Rounding :=
  if scalar.width = 8 then Format.binary64.round else Format.binary32.round

/-- A float that must be finite. -/
def finiteFloat (value : Number) : Except Diagnostic Constant :=
  if value.isFinite then return .float value else throw (.noValue "a float that is not finite")

/-- The exact value of a float, which is finite. -/
def rationalOf (value : Number) : Rat :=
  value.value?.getD 0

/-- A rational without its fraction. -/
def truncateRational (value : Rat) : Int :=
  if 0 ≤ value then value.floor else -(-value).floor

/-! ## Conversion -/

/-- One as a constant of a scalar type, or zero. -/
def unitConstant (scalar : Scalar) (one : Bool) : Constant :=
  match scalar.kind with
  | .bool => .bool one
  | .float => .float (.real (if one then 1 else 0))
  | _ => .int (if one then 1 else 0)

/-- A scalar as another scalar type. -/
def convertScalar (target : Scalar) : Constant → Constant
  | .bool value => unitConstant target value
  | .int value =>
    match target.kind with
    | .bool => .bool (value ≠ 0)
    | .float => .float (Number.ofInt (floatRounding target) value)
    | kind => .int (wrapInteger kind value)
  | .float value =>
    match target.kind with
    | .bool => .bool (rationalOf value ≠ 0)
    | .float => .float (value.narrow (floatRounding target))
    | kind => .int (clampInteger kind (truncateRational (rationalOf value)))
  | other => other

/-- A scalar or the components of a vector as another scalar type. -/
def Constant.convert (target : Scalar) : Constant → Constant
  | .parts values => .parts (values.map (convertScalar target))
  | other => convertScalar target other

/-- The same component several times. -/
def Constant.splat (count : Nat) : Constant → Constant
  | .unevaluated => .unevaluated
  | value => .parts (List.replicate count value)

/-- The component, element or member at a place. -/
def Constant.part (position : Nat) : Constant → Constant
  | .parts values => values[position]?.getD .unevaluated
  | _ => .unevaluated

/-! ## Operators -/

def integerBinary (kind : ScalarKind) (op : BinaryOp) (left right : Int) : Except Diagnostic Constant :=
  let bits (f : BitVec 32 → BitVec 32 → BitVec 32) : Constant :=
    .int (wrapInteger kind (f (BitVec.ofInt 32 left) (BitVec.ofInt 32 right)).toNat)
  match op with
  | .add => exactInteger kind (left + right)
  | .subtract => exactInteger kind (left - right)
  | .multiply => exactInteger kind (left * right)
  | .divide =>
    if right = 0 then throw (.noValue "a division by zero") else exactInteger kind (left.tdiv right)
  | .modulo =>
    if right = 0 then throw (.noValue "a division by zero") else exactInteger kind (left.tmod right)
  | .shiftLeft =>
    if 32 ≤ right then throw (.noValue "a wide shift")
    else return .int (wrapInteger kind (left * Nat.pow 2 right.toNat))
  | .shiftRight =>
    if 32 ≤ right then throw (.noValue "a wide shift") else return .int (left / Nat.pow 2 right.toNat)
  | .less => return .bool (left < right)
  | .lessEqual => return .bool (left ≤ right)
  | .greater => return .bool (right < left)
  | .greaterEqual => return .bool (right ≤ left)
  | .equal => return .bool (left = right)
  | .notEqual => return .bool (left ≠ right)
  | .xor => return .bool (left ≠ right)
  | .bitAnd => return bits (· &&& ·)
  | .bitXor => return bits (· ^^^ ·)
  | .bitOr => return bits (· ||| ·)
  | .and => return .unevaluated
  | .or => return .unevaluated

def floatBinary (scalar : Scalar) (op : BinaryOp) (left right : Number) : Except Diagnostic Constant :=
  let rounding := floatRounding scalar
  let a := rationalOf left
  let b := rationalOf right
  match op with
  | .add => finiteFloat (Number.ofExact rounding false (a + b))
  | .subtract => finiteFloat (Number.sub rounding left right)
  | .multiply => finiteFloat (Number.mul rounding left right)
  | .divide => finiteFloat (Number.div rounding left right)
  | .modulo =>
    if b = 0 then throw (.noValue "a float that is not finite")
    else finiteFloat (Number.ofExact rounding left.isNegative (a - b * truncateRational (a / b)))
  | .less => return .bool (a < b)
  | .lessEqual => return .bool (a ≤ b)
  | .greater => return .bool (b < a)
  | .greaterEqual => return .bool (b ≤ a)
  | .equal => return .bool (a = b)
  | .notEqual => return .bool (a ≠ b)
  | .xor => return .bool (a ≠ b)
  | _ => return .unevaluated

def booleanBinary (op : BinaryOp) (left right : Bool) : Constant :=
  match op with
  | .and => .bool (left && right)
  | .or => .bool (left || right)
  | .xor => .bool (left != right)
  | .equal => .bool (left == right)
  | .notEqual => .bool (left != right)
  | .bitAnd => .bool (left && right)
  | .bitOr => .bool (left || right)
  | _ => .unevaluated

/-- A binary operator on scalars of one type. -/
def scalarBinary (scalar : Scalar) (op : BinaryOp) (left right : Constant) :
    Except Diagnostic Constant :=
  match left, right with
  | .int a, .int b => integerBinary scalar.kind op a b
  | .float a, .float b => floatBinary scalar op a b
  | .bool a, .bool b => return booleanBinary op a b
  | _, _ => return .unevaluated

/-- A comparison for equality asks for all components alike, one for difference for any. -/
def foldComparison (op : BinaryOp) (values : List Constant) : Constant :=
  let bools := values.filterMap fun
    | .bool value => some value
    | _ => none
  if bools.length ≠ values.length then .unevaluated
  else if op = .equal then .bool (bools.all id)
  else .bool (bools.any id)

/-- A binary operator, component by component; a scalar goes with every component of a vector. -/
def Constant.binary (scalar : Scalar) (op : BinaryOp) (left right : Constant) :
    Except Diagnostic Constant := do
  let pairs := match left, right with
    | .parts a, .parts b => a.zip b
    | .parts a, .unevaluated => a.map (·, .unevaluated)
    | .parts a, b => a.map (·, b)
    | .unevaluated, _ => []
    | a, .parts b => b.map (a, ·)
    | _, _ => []
  match left, right with
  | .parts _, _ => combine pairs
  | _, .parts _ => combine pairs
  | a, b => scalarBinary scalar op a b
where
  combine (pairs : List (Constant × Constant)) : Except Diagnostic Constant := do
    let values ← pairs.mapM fun (a, b) => scalarBinary scalar op a b
    if op = .equal ∨ op = .notEqual then return foldComparison op values else return .parts values

def scalarUnary (scalar : Scalar) (op : UnaryOp) : Constant → Constant
  | .bool value => if op = .not then .bool (!value) else .unevaluated
  | .int value =>
    match op with
    | .plus => .int value
    | .negate => .int (wrapInteger scalar.kind (-value))
    | .complement => .int (wrapInteger scalar.kind (-value - 1))
    | .not => .unevaluated
  | .float value =>
    match op with
    | .plus => .float value
    | .negate => .float (Number.mul (floatRounding scalar) (.real (-1)) value)
    | _ => .unevaluated
  | _ => .unevaluated

/-- A unary operator, component by component. -/
def Constant.unary (scalar : Scalar) (op : UnaryOp) : Constant → Constant
  | .parts values => .parts (values.map (scalarUnary scalar op))
  | other => scalarUnary scalar op other

end FrameTransition.Glsl
