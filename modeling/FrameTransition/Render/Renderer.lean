import FrameTransition.Config.Progress
import FrameTransition.Render.Resources
import FrameTransition.Session
import FrameTransition.Snippet.Template

/-!
# The renderer

A `Renderer` is configured once for a size of frame, then draws frames one after the other, and is torn
down. Its operations are sessions: they return the renderer after the call together with the outcome.

Configuring goes through its checks in a fixed order and asks the host only when it gets there: the
size, the snippet, the two stages, their link, the uniforms, and at last the device, on which everything
for the size is then made. A renderer that was configured, well or badly, cannot be configured again.

Drawing checks the input and then the output against the configured size before anything is drawn. The
output, the progress and the state change together or not at all; the output is handed back either way.

Left out are the log, to which every operation writes a line, and how long a frame took.
-/

namespace FrameTransition.Render

/-- What a configured renderer holds. -/
structure Active where
  width : Nat
  height : Nat
  /-- Frames drawn so far. -/
  frames : Nat
  /-- The progress of the last frame drawn. -/
  progress : Number
  resources : Resources
  deriving DecidableEq

/-- Ready for the first frame of a size. -/
def Active.start (width height : Nat) (resources : Resources) : Active :=
  ⟨width, height, 0, .real 0, resources⟩

/-- Where a renderer is in its life. -/
inductive Lifecycle where
  | uninitialized
  | active (active : Active)
  | failed
  | destroyed
  deriving DecidableEq

/-- A renderer of one transition. -/
structure Renderer where
  config : Config
  lifecycle : Lifecycle

/-- What drawing into a frame comes to: the progress used, or why nothing was drawn, and the frame as it
is afterwards. -/
structure Drawn where
  result : Except TransitionError Number
  output : Frame

namespace Renderer

/-- A renderer that was not configured yet. -/
def new (config : Config) : Renderer :=
  ⟨config, .uninitialized⟩

/-- The visible state. -/
def state (renderer : Renderer) : State :=
  match renderer.lifecycle with
  | .uninitialized => .uninitialized
  | .active active => if active.frames = 0 then .ready else .rendering
  | .failed => .failed
  | .destroyed => .destroyed

/-- The configured width and height. -/
def dimensions (renderer : Renderer) : Option (Nat × Nat) :=
  match renderer.lifecycle with
  | .active active => some (active.width, active.height)
  | _ => none

/-- The progress of the last frame drawn. -/
def progress (renderer : Renderer) : Option Number :=
  match renderer.lifecycle with
  | .active active => if active.frames = 0 then none else some active.progress
  | _ => none

/-! ## Configuring -/

/-- A frame has at least one pixel. -/
def checkDimensions (width height : Nat) : Except TransitionError Unit :=
  if width = 0 ∨ height = 0 then
    .error (.configInvalid s!"frame dimensions must be non-zero, got {width}x{height}")
  else .ok ()

theorem pos_of_checkDimensions {width height : Nat} (h : checkDimensions width height = .ok ()) :
    0 < width ∧ 0 < height := by
  unfold checkDimensions at h
  split at h
  · cases h
  · omega

/-- The program and the layout for a snippet, nothing asked of the host. -/
def prepare (compile : Shader.Compiler) (snippet : Option (List Char)) :
    Except Shader.Fault (Shader.Program × Shader.UniformLayout) := do
  let program ← Shader.buildProgram compile Snippet.vertexShader.toList (Snippet.assemble snippet)
  let layout ← Shader.UniformLayout.resolve program.fragment
  return (program, layout)

/-- The steps of configuring, up to the first that fails. -/
def build (compile : Shader.Compiler) (config : Config) (width height : Nat) :
    ExceptT TransitionError Session Resources := do
  ExceptT.mk (return checkDimensions width height)
  let snippet ← ExceptT.mk config.source.load
  let (program, layout) ← ExceptT.mk (return (prepare compile snippet).mapError .ofFault)
  ExceptT.mk (Session.acquire width height)
  return .create program layout width height

/-- Configures a renderer for frames of a size. -/
def configure (compile : Shader.Compiler) (renderer : Renderer) (width height : Nat) :
    Session (Except TransitionError Unit × Renderer) :=
  match renderer.lifecycle with
  | .uninitialized => do
    match ← (build compile renderer.config width height).run with
    | .ok resources =>
      return (.ok (), { renderer with lifecycle := .active (.start width height resources) })
    | .error error => return (.error error, { renderer with lifecycle := .failed })
  | _ => return (.error (.alreadyConfigured renderer.state), renderer)

/-! ## Drawing -/

/-- Draws a frame of the right size. What fails on the device leaves the output alone. -/
def drawFrame (renderer : Renderer) (active : Active) (input : Frame) (seconds : Number)
    (output : Frame) : Session (Drawn × Renderer) := do
  let progress := renderer.config.progressAt seconds
  let resources := active.resources.load active.width active.height progress input
  let drawing : Drawing := ⟨active.width, active.height, progress, resources.staging, resources.target⟩
  match ← Session.draw drawing with
  | .error reason =>
    return (⟨.error (.readback reason), output⟩,
      { renderer with lifecycle := .active { active with resources } })
  | .ok readback =>
    let drawn :=
      { output with data := resources.target.receive readback output, timestamp := input.timestamp }
    let after := { active with resources, progress, frames := active.frames + 1 }
    return (⟨.ok progress, drawn⟩, { renderer with lifecycle := .active after })

/-- Draws `input` as it is at a presentation time into `output`. -/
def renderInto (renderer : Renderer) (input : Frame) (seconds : Number) (output : Frame) :
    Session (Drawn × Renderer) :=
  match renderer.lifecycle with
  | .active active =>
    -- A configured size has a texture, so this is `Frame.check` of it (`Frame.check_eq_checkShape`).
    let expected := Frame.expectedShape active.width active.height
    match input.checkShape expected, output.checkShape expected with
    | .error error, _ => return (⟨.error error, output⟩, renderer)
    | .ok (), .error error => return (⟨.error error, output⟩, renderer)
    | .ok (), .ok () => renderer.drawFrame active input seconds output
  | _ => return (⟨.error .notConfigured, output⟩, renderer)

/-- Draws `input` as it is at a presentation time into a new frame. -/
def render (renderer : Renderer) (input : Frame) (seconds : Number) :
    Session (Except TransitionError Frame × Renderer) :=
  match renderer.dimensions with
  | some (width, height) => do
    let (drawn, after) ← renderer.renderInto input seconds (.blank width height)
    return (drawn.result.map fun _ => drawn.output, after)
  | none => return (.error .notConfigured, renderer)

/-- Lets go of what a configured renderer holds. -/
def teardown (renderer : Renderer) : Renderer :=
  match renderer.lifecycle with
  | .active _ => { renderer with lifecycle := .destroyed }
  | _ => renderer

end Renderer

end FrameTransition.Render
