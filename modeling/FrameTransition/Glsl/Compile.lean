import FrameTransition.Glsl.Outline
import FrameTransition.Glsl.Directive
import FrameTransition.Glsl.Parse.Item
import FrameTransition.Shader.Program

/-!
# Compiling a shader text

Compiling takes a text through its directives, its tree and its checks to the interface of the stage.
Every item is checked, used or not; the entry point takes the terminals for inputs as arguments and
gives back a structure of those for outputs. Two resources may share a binding as long as the main
function does not get to use both.
-/

namespace FrameTransition.Glsl

open FrameTransition.Shader

/-! ## The entry point -/

/-- What each function uses together with all it calls. A function calls earlier ones only. -/
def totalUsages (functions : List Function) : List Usage :=
  functions.foldl (fun done f =>
    done ++ [(f.usage.calls.filterMap (done[·]?)).foldl Usage.union f.usage]) []

mutual

/-- The values of a type that go from a location on: elements and members have one each. -/
def spread (location : Nat) : Ty → List (Ty × Nat)
  | .array element (some length) _ =>
    (List.range length).flatMap fun place => spread (location + place) element
  | .record _ members _ => spreadMembers location members
  | type => [(type, location)]

def spreadMembers (location : Nat) : Members → List (Ty × Nat)
  | .nil => []
  | .cons _ type _ _ rest => spread location type ++ spreadMembers (location + 1) rest

end

/-- A value at a binding of its own. -/
structure Passage where
  name : String
  type : Ty
  binding : Binding
  deriving DecidableEq

/-- The single values of a terminal. -/
def Terminal.passages (terminal : Terminal) : List Passage :=
  match terminal.binding with
  | .location location =>
    (spread location terminal.type).map fun (type, place) => ⟨terminal.name, type, .location place⟩
  | .builtin _ => [⟨terminal.name, terminal.type, terminal.binding⟩]

/-- The values of a terminal are taken between points. -/
def Terminal.isInterpolated (terminal : Terminal) (stage : EntryKind) : Bool :=
  match stage, terminal.binding with
  | .vertex, .location _ => terminal.isOutput
  | .fragment, .location _ => !terminal.isOutput
  | _, _ => false

/-- A type can pass a location: numbers and vectors of them. -/
def canPass : Ty → Bool
  | .scalar scalar => scalar.kind ≠ .bool
  | .vector _ scalar => scalar.kind ≠ .bool
  | _ => false

def isFloat (type : Ty) : Bool :=
  (scalarOf? type).any (·.kind = .float)

/-- The values of a terminal can pass, and only floats between points. -/
def Terminal.isSound (terminal : Terminal) (stage : EntryKind) : Bool :=
  match terminal.binding with
  | .builtin _ => true
  | .location _ =>
    let types := terminal.passages.map (·.type)
    types.all canPass &&
      (!terminal.isInterpolated stage ||
        (terminal.interpolation.any fun how =>
          (how = .flat || types.all isFloat) && !(how = .flat && terminal.sampled)))

/-- The passages of a direction. No two may have the same binding. -/
def passages (terminals : List Terminal) (isOutput : Bool) : Check (List Passage) := do
  let found := (terminals.filter (·.isOutput = isOutput)).flatMap Terminal.passages
  Check.demand (.redeclared "a location") (decide (found.map (·.binding)).Nodup)
  return found

/-- Passages as members of a structure. -/
def membersOf (found : List Passage) : Members :=
  .ofList (found.map fun passage => ⟨some passage.name, passage.type, some passage.binding, 0⟩)

/-- The entry point, from what was declared. -/
def entryPoint : Check EntryPoint := do
  let checker ← get
  let isMain (f : Function) : Bool :=
    f.name = "main" && f.overload.parameters.isEmpty && f.isDefined
  let index ← Check.require .noEntryPoint (checker.functions.findIdx? isMain)
  Check.demand (.mismatch "the value of main")
    (checker.functions[index]?.all fun f => f.overload.result.isNone)
  let totals := totalUsages checker.functions
  let started := (checker.startup.calls.filterMap (totals[·]?)).foldl Usage.union checker.startup
  let usage := started.union (totals[index]?.getD .none)
  Check.demand (.forbidden "a comparison of fragments")
    (!usage.fragmentOnly || checker.stage = .fragment)
  let bound : List ResourceBinding := usage.resources.eraseDups.filterMap fun place =>
    (checker.declaredGlobals[place]?).bind (·.binding)
  Check.demand (.redeclared "a binding") (decide bound.Nodup)
  Check.demand (.forbidden "a terminal of this type") (checker.terminals.all (·.isSound checker.stage))
  Check.demand (.unknown "gl_Position")
    (checker.stage ≠ .vertex || checker.terminals.any (·.name = "gl_Position"))
  let inputs ← passages checker.terminals false
  let outputs ← passages checker.terminals true
  return {
    name := "main"
    kind := checker.stage
    arguments := inputs.map fun passage => ⟨some passage.name, passage.type, some passage.binding⟩
    result := if outputs.isEmpty then none else some ⟨.record "" (membersOf outputs) 0, none⟩ }

/-! ## Compiling -/

/-- Checks all items and gives the interface. -/
def interface (items : List Item) : Check StageInterface := do
  items.forM Check.item
  let entry ← entryPoint
  return { entryPoints := [entry], globals := (← get).declaredGlobals }

/-- The interface of a stage with a text, or why it is refused. -/
def stageInterface (stage : EntryKind) (text : List Char) : Except Diagnostic StageInterface := do
  let source ← Source.ofLines (lines text)
  let items ← Item.ofTokens source.version source.tokens
  (interface items).run' (Checker.start stage)

/-- The compiler for shader texts. -/
def compile : Compiler := fun stage text =>
  (stageInterface stage text).mapError Diagnostic.message

end FrameTransition.Glsl
