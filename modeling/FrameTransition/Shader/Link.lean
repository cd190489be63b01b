import FrameTransition.Shader.Interface
import FrameTransition.Shader.Stage

/-!
# Linking two stages

Linking matches what the fragment stage reads to what the vertex stage writes, location by location, and
finds the attribute the quad's positions go to. Values may be gathered in structures; `Ty.locations`
flattens them to pairs of a location and a type, and the rule is stated on the two flat lists: the
first input that finds no output of its location and type is the one reported.
-/

namespace FrameTransition.Shader

/-- A location and the type of the value there. -/
structure Varying where
  location : Nat
  type : Ty
  deriving DecidableEq

mutual

/-- The varyings inside a value that has no binding of its own: those of a structure's members. -/
def Ty.varyings : Ty → List Varying
  | .record _ members _ => members.varyings
  | _ => []

/-- The varyings of members, in order. A builtin is none. -/
def Members.varyings : Members → List Varying
  | .nil => []
  | .cons _ type (some (.location location)) _ rest => ⟨location, type⟩ :: rest.varyings
  | .cons _ _ (some (.builtin _)) _ rest => rest.varyings
  | .cons _ type none _ rest => type.varyings ++ rest.varyings

end

/-- The varyings of a value. -/
def varyingsOf (type : Ty) : Option Binding → List Varying
  | some (.location location) => [⟨location, type⟩]
  | some (.builtin _) => []
  | none => type.varyings

/-- What an entry point reads. -/
def EntryPoint.inputs (entry : EntryPoint) : List Varying :=
  entry.arguments.flatMap fun argument => varyingsOf argument.type argument.binding

/-- What an entry point writes. -/
def EntryPoint.outputs (entry : EntryPoint) : List Varying :=
  match entry.result with
  | some result => varyingsOf result.type result.binding
  | none => []

/-- Why two stages do not fit together. -/
inductive LinkError where
  | noVertexEntry
  | noFragmentEntry
  | notWritten (location : Nat)
  | typeMismatch (location : Nat) (written read : Ty)
  | noPosition
  deriving DecidableEq

def LinkError.message : LinkError → String
  | noVertexEntry => "vertex stage has no entry point"
  | noFragmentEntry => "fragment stage has no entry point"
  | notWritten location =>
    s!"fragment input at location {location} is not written by the vertex stage"
  | typeMismatch location written read =>
    s!"varying at location {location} is {written.describe} in the vertex stage " ++
      s!"but {read.describe} in the fragment stage"
  | noPosition => "vertex stage has no \x60position\x60 attribute"

/-- Checks one input against the first output of its location. -/
def checkInput (outputs : List Varying) (input : Varying) : Except LinkError Unit :=
  match outputs.find? fun output => output.location = input.location with
  | none => .error (.notWritten input.location)
  | some output =>
    if output.type = input.type then .ok ()
    else .error (.typeMismatch input.location output.type input.type)

/-- An argument's name, for those that have a location. -/
structure Attribute where
  name : Option String
  location : Nat
  deriving DecidableEq

def Argument.attribute? (argument : Argument) : Option Attribute :=
  match argument.binding with
  | some (.location location) => some ⟨argument.name, location⟩
  | _ => none

/-- The attribute called `position`, or else the only one there is. -/
def positionAttribute? (attributes : List Attribute) : Option Attribute :=
  (attributes.find? fun candidate => candidate.name = some "position").or
    (match attributes with
      | [only] => some only
      | _ => none)

/-- The location of the quad's positions in two stages that fit together. -/
def matchStages (vertex fragment : StageInterface) : Except LinkError Nat := do
  let some producer := vertex.main? .vertex | throw .noVertexEntry
  let some consumer := fragment.main? .fragment | throw .noFragmentEntry
  consumer.inputs.forM (checkInput producer.outputs)
  match positionAttribute? (producer.arguments.filterMap (·.attribute?)) with
  | some found => return found.location
  | none => throw .noPosition

/-- `matchStages` as a step of the program build. -/
def link (vertex fragment : StageInterface) : Except Fault Nat :=
  (matchStages vertex fragment).mapError fun error => ⟨.link, error.message⟩

end FrameTransition.Shader
