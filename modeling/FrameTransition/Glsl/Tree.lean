import FrameTransition.Number.Basic
import FrameTransition.Shader.Interface

/-!
# The shape of a shader text

The tree of a shader as it is written. Types are kept as they are named: what a named structure or the
length of an array is, is for the checker to find out.
-/

namespace FrameTransition.Glsl

open FrameTransition.Shader (Ty)

inductive UnaryOp where
  | plus
  | negate
  | not
  | complement
  deriving DecidableEq

inductive BinaryOp where
  | add
  | subtract
  | multiply
  | divide
  | modulo
  | shiftLeft
  | shiftRight
  | less
  | lessEqual
  | greater
  | greaterEqual
  | equal
  | notEqual
  | bitAnd
  | bitXor
  | bitOr
  | and
  | xor
  | or
  deriving DecidableEq

/-- A type without its array parts. -/
inductive BaseType where
  | void
  | basic (type : Ty)
  | named (name : String)

inductive Expr where
  | integer (value : Nat) (unsigned : Bool)
  | float (value : Number)
  | bool (value : Bool)
  | name (name : String)
  | unary (op : UnaryOp) (operand : Expr)
  | binary (op : BinaryOp) (left right : Expr)
  /-- Adds one to a variable or takes one away, in front of it or behind it. -/
  | step (target : Expr)
  /-- Stores a value, or its combination with what was there before. -/
  | assign (op : Option BinaryOp) (target value : Expr)
  | conditional (condition accept reject : Expr)
  | index (array position : Expr)
  | member (value : Expr) (name : String)
  | length (array : Expr)
  | call (name : String) (arguments : List Expr)
  /-- A value of a type from its parts; an array part without a length takes as many as are given. -/
  | construct (base : BaseType) (dimensions : List (Option Expr)) (arguments : List Expr)
  /-- A value in braces, whose type is known from where it stands. -/
  | initializers (elements : List Expr)
  /-- Evaluates one after the other and has the value of the second. -/
  | sequence (first second : Expr)

instance : Inhabited Expr := ⟨.bool false⟩

/-- A type as it is written: what it is made of, with the array parts behind it. -/
structure TypeName where
  base : BaseType
  dimensions : List (Option Expr)

/-- Some names of one type: members of a structure, each with array parts of its own. -/
structure MemberDeclaration where
  type : TypeName
  names : List (String × List (Option Expr))

/-- A structure with a name. -/
structure RecordDefinition where
  name : String
  members : List MemberDeclaration

/-! ## Declarations -/

/-- How a variable is stored. -/
inductive StorageQualifier where
  | const
  | input
  | output
  | uniform
  | buffer
  | workgroup
  deriving DecidableEq

/-- How a value is taken between the points it is given at. -/
inductive Interpolation where
  | flat
  | linear
  | perspective
  deriving DecidableEq

/-- A layout qualifier: `name` or `name = value`. -/
structure LayoutQualifier where
  name : String
  value : Option Expr

/-- What stands in front of a type. -/
structure Qualifiers where
  storage : Option StorageQualifier
  layout : List LayoutQualifier
  interpolation : Option Interpolation
  sampling : Bool
  precise : Bool
  invariant : Bool
  memory : Bool

/-- Nothing in front of a type. -/
def Qualifiers.none : Qualifiers := ⟨.none, [], .none, false, false, false, false⟩

/-- A declared variable, with array parts of its own and an initial value. -/
structure Declarator where
  name : String
  dimensions : List (Option Expr)
  initial : Option Expr

/-- How an argument is passed. -/
inductive Passing where
  | value
  /-- By value, and it cannot be changed. -/
  | constant
  | output
  | inout
  deriving DecidableEq

structure Parameter where
  name : Option String
  type : TypeName
  passing : Passing

/-- The head of a function. -/
structure Signature where
  name : String
  result : TypeName
  parameters : List Parameter

/-- A declaration that may stand in a function as well as outside. -/
inductive Declaration where
  | record (definition : RecordDefinition)
  | variableList (qualifiers : Qualifiers) (type : TypeName) (declarators : List Declarator)
  | prototype (signature : Signature)
  /-- A block of variables bound together, under a name of its own or none. -/
  | block (qualifiers : Qualifiers) (name : String) (members : List MemberDeclaration)
      (instanceName : Option (String × List (Option Expr)))
  | invariant (name : String)
  | qualifiersOnly (qualifiers : Qualifiers)
  | precision (type : TypeName)

/-! ## Statements -/

mutual

inductive Statement where
  | empty
  | declaration (declaration : Declaration)
  | expression (value : Expr)
  | block (body : List Statement)
  | branch (condition : Expr) (accept : Statement) (reject : Option Statement)
  /-- A choice between cases by a number. -/
  | choose (selector : Expr) (cases : List Case)
  | whileLoop (condition : Expr) (body : Statement)
  | doLoop (body : Statement) (condition : Expr)
  /-- A loop with a start, a test before each turn and an expression after it. The test may declare the
  variable it sets. -/
  | forLoop (start test : Option Statement) (update : Option Expr) (body : Statement)
  | leaveLoop
  | nextTurn
  | giveBack (value : Option Expr)
  | discard

/-- One case: its number, or none for the default, and what is done from there. -/
inductive Case where
  | mk (label : Option Expr) (body : List Statement)

end

instance : Inhabited Statement := ⟨Statement.empty⟩

/-- What a shader consists of. -/
inductive Item where
  | declaration (declaration : Declaration)
  | function (signature : Signature) (body : List Statement)

end FrameTransition.Glsl
