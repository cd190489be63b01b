import FrameTransition.Glsl.Builtin

/-!
# What names stand for

While a shader is checked, a `Checker` holds what its names stand for: structures, variables of the whole
shader and of the function being checked, innermost scope first, and functions. It also collects what the
compiled stage will show: the global variables and the terminals, through which values enter and leave.

Some variables are there in every shader of a stage and become terminals when they are first named.
-/

namespace FrameTransition.Glsl

open FrameTransition.Shader

/-- What the name of a variable stands for. -/
structure Symbol where
  type : Ty
  isMutable : Bool
  /-- The value of a constant of the whole shader. -/
  constant : Option Constant
  /-- The place of a resource among the global variables. -/
  resource : Option Nat

/-- A value that goes into a stage or out of it. -/
structure Terminal where
  name : String
  type : Ty
  isOutput : Bool
  binding : Binding
  interpolation : Option Interpolation
  /-- The place in a fragment the value is taken at is given. -/
  sampled : Bool

/-- What a function uses, besides its arguments. -/
structure Usage where
  resources : List Nat
  calls : List Nat
  /-- It compares neighbouring fragments or gives one up. -/
  fragmentOnly : Bool

def Usage.none : Usage := ⟨[], [], false⟩

/-- What two parts use together. -/
def Usage.union (first second : Usage) : Usage :=
  ⟨first.resources ++ second.resources, first.calls ++ second.calls,
    first.fragmentOnly || second.fragmentOnly⟩

/-- A function of the shader. -/
structure Function where
  name : String
  overload : Overload
  isDefined : Bool
  /-- What its body uses, once it has one. -/
  usage : Usage

structure Checker where
  stage : EntryKind
  records : List (String × Ty)
  /-- The variables of the whole shader, latest first. -/
  globals : List (String × Symbol)
  /-- The variables of the function being checked, innermost scope first. -/
  scopes : List (List (String × Symbol))
  /-- The functions in the order they were announced; the place is the index. -/
  functions : List Function
  /-- The global variables in the order they were declared. -/
  declaredGlobals : List Global
  /-- The terminals in the order they were declared or first named. -/
  terminals : List Terminal
  /-- What the function being checked uses. -/
  usage : Usage
  /-- The images put together with a sampler in it so far, by name. -/
  combined : List String
  /-- What the initial values of variables of the whole shader use. -/
  startup : Usage

/-- A step of checking. -/
abbrev Check := StateT Checker (Except Diagnostic)

/-- Nothing declared. -/
def Checker.start (stage : EntryKind) : Checker :=
  ⟨stage, [], [], [], [], [], [], .none, [], .none⟩

namespace Check

def fail {α : Type} (diagnostic : Diagnostic) : Check α :=
  throw diagnostic

/-- A part of the answer, which must be there. -/
def require {α : Type} (diagnostic : Diagnostic) : Option α → Check α
  | some value => return value
  | none => fail diagnostic

/-- A condition, which must hold. -/
def demand (diagnostic : Diagnostic) (condition : Bool) : Check Unit :=
  if condition then return () else fail diagnostic

/-! ## Scopes -/

/-- Runs a part with a scope of its own. -/
def withScope {α : Type} (part : Check α) : Check α := do
  modify fun checker => { checker with scopes := [] :: checker.scopes }
  let result ← part
  modify fun checker => { checker with scopes := checker.scopes.tail }
  return result

/-- Runs a part outside of every function: local names and what it uses do not count. -/
def outside {α : Type} (part : Check α) : Check α := do
  let before ← get
  set { before with scopes := [] }
  let result ← part
  modify fun checker => { checker with scopes := before.scopes, usage := before.usage }
  return result

/-- Declares a variable in the innermost scope, where the name must be new. -/
def declareLocal (name : String) (symbol : Symbol) : Check Unit := do
  let checker ← get
  match checker.scopes with
  | [] => fail (.forbidden name)
  | scope :: outer =>
    demand (.redeclared name) (scope.lookup name).isNone
    set { checker with scopes := ((name, symbol) :: scope) :: outer }

/-- Declares a variable of the whole shader. A later one of a name hides an earlier one. -/
def declareGlobal (name : String) (symbol : Symbol) : Check Unit :=
  modify fun checker => { checker with globals := (name, symbol) :: checker.globals }

/-- Adds a variable to those the stage shows, and gives its place among them. -/
def addVariable (variable_ : Global) : Check Nat := do
  let checker ← get
  set { checker with declaredGlobals := checker.declaredGlobals ++ [variable_] }
  return checker.declaredGlobals.length

/-- Adds a terminal and the variable behind it. -/
def addTerminal (terminal : Terminal) : Check Symbol := do
  let _ ← addVariable ⟨some terminal.name, .invocation, none, terminal.type⟩
  modify fun checker => { checker with terminals := checker.terminals ++ [terminal] }
  let symbol : Symbol := ⟨terminal.type, terminal.isOutput, none, none⟩
  declareGlobal terminal.name symbol
  return symbol

/-! ## Variables every shader has -/

/-- The terminals a stage has from the start, by the names of their variables. -/
def stageTerminals : EntryKind → List Terminal
  | .vertex =>
    [⟨"gl_Position", .vector .four .float32, true, .builtin "position", none, false⟩,
      ⟨"gl_VertexIndex", .scalar .uint32, false, .builtin "vertex_index", none, false⟩,
      ⟨"gl_InstanceIndex", .scalar .uint32, false, .builtin "instance_index", none, false⟩]
  | .fragment =>
    [⟨"gl_FragCoord", .vector .four .float32, false, .builtin "position", none, false⟩,
      ⟨"gl_FrontFacing", .scalar .bool, false, .builtin "front_facing", none, false⟩,
      ⟨"gl_PrimitiveID", .scalar .uint32, false, .builtin "primitive_index", none, false⟩,
      ⟨"gl_SampleID", .scalar .uint32, false, .builtin "sample_index", none, false⟩,
      ⟨"gl_FragDepth", .scalar .float32, true, .builtin "frag_depth", none, false⟩]
  | .compute => []

/-- Notes that a resource is used. -/
def noteResource (resource : Option Nat) : Check Unit :=
  modify fun checker =>
    { checker with usage := { checker.usage with resources := resource.toList ++ checker.usage.resources } }

/-- What a name of a variable stands for. -/
def symbol (name : String) : Check Symbol := do
  let checker ← get
  match checker.scopes.findSome? (·.lookup name) with
  | some found => return found
  | none =>
    match checker.globals.lookup name with
    | some found =>
      noteResource found.resource
      return found
    | none =>
      match (stageTerminals checker.stage).find? (·.name = name) with
      | some terminal => addTerminal terminal
      | none => fail (.unknown name)

/-! ## Functions -/

/-- Two lists of parameters that no call can tell apart. -/
def sameParameters (first second : Overload) : Bool :=
  first.parameters.map (·.1) = second.parameters.map (·.1)

/-- All overloads of a name. One that the shader declares stands for the built-in one with the same
parameters. -/
def overloads (name : String) : Check (List Overload) := do
  let declared := ((← get).functions.filter (·.name = name)).map (·.overload)
  let builtin := (builtinOverloads name).filter fun overload => !declared.any (sameParameters overload)
  return builtin ++ declared

/-- Notes what a call does besides giving a value. -/
def noteTarget (target : Target) : Check Unit := do
  match target with
  | .declared index =>
    modify fun checker =>
      { checker with usage := { checker.usage with calls := index :: checker.usage.calls } }
  | .derivative | .sample true =>
    modify fun checker => { checker with usage := { checker.usage with fragmentOnly := true } }
  | .unsupported => fail (.forbidden "an unsupported function")
  | _ => return ()

end Check

end FrameTransition.Glsl
