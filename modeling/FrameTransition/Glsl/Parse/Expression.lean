import FrameTransition.Glsl.Parse.Basic

/-!
# Reading expressions

Operators between two operands are read by how tightly they bind, those of one tightness from the left.
An assignment and a choice are read from the right.
-/

namespace FrameTransition.Glsl

namespace Parse

/-- The operator of a mark between two operands, and how tightly it binds. -/
def binaryOp? : Token → Option (BinaryOp × Nat)
  | .mark "||" => some (.or, 1)
  | .mark "^^" => some (.xor, 2)
  | .mark "&&" => some (.and, 3)
  | .mark "|" => some (.bitOr, 4)
  | .mark "^" => some (.bitXor, 5)
  | .mark "&" => some (.bitAnd, 6)
  | .mark "==" => some (.equal, 7)
  | .mark "!=" => some (.notEqual, 7)
  | .mark "<" => some (.less, 8)
  | .mark ">" => some (.greater, 8)
  | .mark "<=" => some (.lessEqual, 8)
  | .mark ">=" => some (.greaterEqual, 8)
  | .mark "<<" => some (.shiftLeft, 9)
  | .mark ">>" => some (.shiftRight, 9)
  | .mark "+" => some (.add, 10)
  | .mark "-" => some (.subtract, 10)
  | .mark "*" => some (.multiply, 11)
  | .mark "/" => some (.divide, 11)
  | .mark "%" => some (.modulo, 11)
  | _ => none

/-- The operator of a mark that assigns: none for a plain assignment. -/
def assignOp? : Token → Option (Option BinaryOp)
  | .mark "=" => some none
  | .mark "+=" => some (some .add)
  | .mark "-=" => some (some .subtract)
  | .mark "*=" => some (some .multiply)
  | .mark "/=" => some (some .divide)
  | .mark "%=" => some (some .modulo)
  | .mark "<<=" => some (some .shiftLeft)
  | .mark ">>=" => some (some .shiftRight)
  | .mark "&=" => some (some .bitAnd)
  | .mark "^=" => some (some .bitXor)
  | .mark "|=" => some (some .bitOr)
  | _ => none

/-- The operator of a mark in front of its operand. -/
def unaryOp? : Token → Option UnaryOp
  | .mark "+" => some .plus
  | .mark "-" => some .negate
  | .mark "!" => some .not
  | .mark "~" => some .complement
  | _ => none

/-- The type a single word names. -/
def baseType : Parse BaseType := do
  match ← peek with
  | some (.word "void") =>
    skip
    return .void
  | some (.word word) =>
    if (← get).records.contains word then
      skip
      return .named word
    else match typeOfName? word with
      | some type =>
        skip
        return .basic type
      | none => refuse
  | _ => refuse

mutual

/-- Array parts, as many as come. -/
def dimensions (fuel : Nat) : Parse (List (Option Expr)) := do
  match fuel with
  | 0 => fail .tooDeep
  | fuel + 1 =>
    if ← mark? "[" then
      let length ← if ← mark? "]" then pure none else do
        let length ← conditional fuel
        mark "]"
        pure (some length)
      return length :: (← dimensions fuel)
    else
      return []

/-- Arguments up to the closing parenthesis, at least one. -/
def moreArguments (fuel : Nat) : Parse (List Expr) := do
  match fuel with
  | 0 => fail .tooDeep
  | fuel + 1 =>
    let first ← assignment fuel
    if ← mark? "," then
      return first :: (← moreArguments fuel)
    else
      mark ")"
      return [first]

/-- Arguments behind the opening parenthesis. -/
def arguments (fuel : Nat) : Parse (List Expr) := do
  match fuel with
  | 0 => fail .tooDeep
  | fuel + 1 => if ← mark? ")" then return [] else moreArguments fuel

/-- An operand without what may stand behind it. -/
def primary (fuel : Nat) : Parse Expr := do
  match fuel with
  | 0 => fail .tooDeep
  | fuel + 1 =>
    match ← peek with
    | some (.integer value unsigned) =>
      skip
      return .integer value unsigned
    | some (.float value) =>
      skip
      return .float value
    | some (.mark "(") =>
      skip
      let inner ← expression fuel
      mark ")"
      return inner
    | some (.word "true") =>
      skip
      return .bool true
    | some (.word "false") =>
      skip
      return .bool false
    | _ =>
      if ← atType then
        let base ← baseType
        let parts ← dimensions fuel
        mark "("
        return .construct base parts (← arguments fuel)
      else
        let name ← freeName
        if ← mark? "(" then return .call name (← arguments fuel) else return .name name

/-- What stands behind an operand: an index, a member, a step. -/
def suffixes (fuel : Nat) (operand : Expr) : Parse Expr := do
  match fuel with
  | 0 => fail .tooDeep
  | fuel + 1 =>
    if ← mark? "[" then
      let position ← expression fuel
      mark "]"
      suffixes fuel (.index operand position)
    else if ← mark? "." then
      let name ← freeName
      if ← mark? "(" then
        mark ")"
        if name = "length" then suffixes fuel (.length operand) else fail (.unknown name)
      else
        suffixes fuel (.member operand name)
    else if ← mark? "++" then suffixes fuel (.step operand)
    else if ← mark? "--" then suffixes fuel (.step operand)
    else return operand

/-- An operand with the operators in front of it. -/
def unary (fuel : Nat) : Parse Expr := do
  match fuel with
  | 0 => fail .tooDeep
  | fuel + 1 =>
    if ← mark? "++" then return .step (← unary fuel)
    else if ← mark? "--" then return .step (← unary fuel)
    else match (← peek).bind unaryOp? with
      | some op =>
        skip
        return .unary op (← unary fuel)
      | none => suffixes fuel (← primary fuel)

/-- Goes on behind a left operand with operators that bind at least as tightly as `least`. -/
def binaryFrom (fuel : Nat) (least : Nat) (left : Expr) : Parse Expr := do
  match fuel with
  | 0 => fail .tooDeep
  | fuel + 1 =>
    match (← peek).bind binaryOp? with
    | some (op, tightness) =>
      if tightness < least then return left
      else
        skip
        let right ← binaryFrom fuel (tightness + 1) (← unary fuel)
        binaryFrom fuel least (.binary op left right)
    | none => return left

/-- Goes on behind a condition. -/
def conditionalFrom (fuel : Nat) (condition : Expr) : Parse Expr := do
  match fuel with
  | 0 => fail .tooDeep
  | fuel + 1 =>
    if ← mark? "?" then
      let accept ← expression fuel
      mark ":"
      return .conditional condition accept (← assignment fuel)
    else
      return condition

/-- An expression without assignment and comma. -/
def conditional (fuel : Nat) : Parse Expr := do
  match fuel with
  | 0 => fail .tooDeep
  | fuel + 1 => conditionalFrom fuel (← binaryFrom fuel 0 (← unary fuel))

/-- An expression without comma. -/
def assignment (fuel : Nat) : Parse Expr := do
  match fuel with
  | 0 => fail .tooDeep
  | fuel + 1 =>
    let target ← unary fuel
    match (← peek).bind assignOp? with
    | some op =>
      skip
      return .assign op target (← assignment fuel)
    | none => conditionalFrom fuel (← binaryFrom fuel 0 target)

/-- Goes on behind an expression with commas. -/
def sequenceFrom (fuel : Nat) (first : Expr) : Parse Expr := do
  match fuel with
  | 0 => fail .tooDeep
  | fuel + 1 =>
    if ← mark? "," then sequenceFrom fuel (.sequence first (← assignment fuel)) else return first

/-- An expression. -/
def expression (fuel : Nat) : Parse Expr := do
  match fuel with
  | 0 => fail .tooDeep
  | fuel + 1 => sequenceFrom fuel (← assignment fuel)

end

mutual

/-- An initial value: an expression, or values in braces. -/
def initializer (fuel : Nat) : Parse Expr := do
  match fuel with
  | 0 => fail .tooDeep
  | fuel + 1 =>
    if ← mark? "\x7b" then return .initializers (← initializers fuel) else assignment fuel

/-- Initial values up to the closing brace, at least one; a comma may stand behind the last. -/
def initializers (fuel : Nat) : Parse (List Expr) := do
  match fuel with
  | 0 => fail .tooDeep
  | fuel + 1 =>
    let first ← initializer fuel
    if ← mark? "," then
      if ← mark? "\x7d" then return [first] else return first :: (← initializers fuel)
    else
      mark "\x7d"
      return [first]

end

end Parse

/-- A whole text that is one expression. -/
def Expr.ofTokens (tokens : List Token) : Except Diagnostic Expr :=
  Parse.run Parse.expression tokens

end FrameTransition.Glsl
