import FrameTransition.Proofs.Render.Draw

/-!
# What a call can do to a renderer

`Step` lists, for every call, what it can do to a renderer and what is noted of it. `step_next` says that
a turn is one of these steps, and `invariant_after` that what every step keeps holds after any sequence
of turns. Statements about the life of a renderer go through these two and look into no operation.

Calls to draw are told apart only by what is noted: one that changed nothing, one whose picture was lost,
and one that drew a frame.
-/

namespace FrameTransition.Render

/-- What is on a device after a frame was handed to it: the sizes of its buffers are those from before. -/
structure Resources.Keeps (after before : Resources) : Prop where
  length_staging : after.staging.length = before.staging.length
  target_eq : after.target = before.target

/-- The rows of a frame and its progress go where those of the frame before were. -/
theorem Resources.keeps_load (resources : Resources) (width height : Nat) (progress : Number) (input : Frame) :
    (resources.load width height progress input).Keeps resources := by
  refine ⟨?_, rfl⟩
  show (resources.stage width height input).length = _
  unfold stage
  cases hstaged : Pixels.expandRows? input.data width height resources.staging with
  | none => rfl
  | some staging => exact Pixels.length_expandRows hstaged

namespace Renderer

/-- What a call can do to a renderer, with what is noted of it. -/
inductive Step (compile : Shader.Compiler) (answers : Answers) : Renderer → Entry → Renderer → Prop
  | configured {config : Config} {width height : Nat} {resources : Resources}
      (hbuilt : (build compile config width height).run.run answers = .ok resources) :
      Step compile answers ⟨config, .uninitialized⟩
        ⟨.configure width height, .ok (), (build compile config width height).run.trace answers⟩
        ⟨config, .active (.start width height resources)⟩
  | spoiled {config : Config} {width height : Nat} {error : TransitionError}
      (hbuilt : (build compile config width height).run.run answers = .error error) :
      Step compile answers ⟨config, .uninitialized⟩
        ⟨.configure width height, .error error, (build compile config width height).run.trace answers⟩
        ⟨config, .failed⟩
  /-- A renderer is configured once. -/
  | reconfigured {renderer : Renderer} {width height : Nat}
      (hused : renderer.lifecycle ≠ .uninitialized) :
      Step compile answers renderer
        ⟨.configure width height, .error (.alreadyConfigured renderer.state), []⟩ renderer
  /-- A frame that was not drawn for want of a size, or for its own. -/
  | refused {renderer : Renderer} {entry : Entry} (hdrawing : entry.isDrawing = true)
      (hnothing : entry.drawnAt? = none) (hsilent : entry.requests = []) :
      Step compile answers renderer entry renderer
  /-- A frame whose picture could not be read back. -/
  | lost {config : Config} {active : Active} {entry : Entry} {drawing : Drawing} {resources : Resources}
      (hdrawing : entry.isDrawing = true) (hnothing : entry.drawnAt? = none)
      (hasked : entry.requests = [.draw drawing]) (hkept : resources.Keeps active.resources) :
      Step compile answers ⟨config, .active active⟩ entry ⟨config, .active { active with resources }⟩
  | drawn {config : Config} {active : Active} {entry : Entry} {drawing : Drawing} {seconds : Number}
      {resources : Resources} (hdrawing : entry.isDrawing = true) (hdrawn : entry.drawnAt? = some seconds)
      (hasked : entry.requests = [.draw drawing]) (hkept : resources.Keeps active.resources) :
      Step compile answers ⟨config, .active active⟩ entry
        ⟨config, .active
          { active with resources, progress := config.progressAt seconds, frames := active.frames + 1 }⟩
  | tornDown {config : Config} {active : Active} :
      Step compile answers ⟨config, .active active⟩ ⟨.teardown, (), []⟩ ⟨config, .destroyed⟩
  /-- There is nothing to tear down. -/
  | idle {renderer : Renderer} (hinactive : ∀ active, renderer.lifecycle ≠ .active active) :
      Step compile answers renderer ⟨.teardown, (), []⟩ renderer

variable {compile : Shader.Compiler} {answers : Answers} {renderer : Renderer}

/-- A call to draw is a step, whatever it hands back of what was drawn. -/
theorem step_of_draws {input output : Frame} {seconds : Number} {drawn : Drawn} {after : Renderer}
    {requests : List Request} (h : Draws answers renderer input seconds output drawn after requests)
    {entry : Entry} (hdrawing : entry.isDrawing = true) (hrequests : entry.requests = requests)
    (hdrawn : entry.drawnAt? = drawn.result.toOption.map fun _ => seconds) :
    Step compile answers renderer entry after := by
  cases h with
  | inactive | inputMisfit | outputMisfit => exact .refused hdrawing hdrawn hrequests
  | lost hactive =>
    obtain ⟨config, lifecycle⟩ := renderer
    cases hactive
    exact .lost hdrawing hdrawn hrequests (Resources.keeps_load _ _ _ _ _)
  | drawn hactive =>
    obtain ⟨config, lifecycle⟩ := renderer
    cases hactive
    exact .drawn hdrawing hdrawn hrequests (Resources.keeps_load _ _ _ _ _)

/-- A new frame is drawn into as a given one is. -/
theorem step_render (input : Frame) (seconds : Number) :
    Step compile answers renderer (renderer.entry compile ⟨.render input seconds, answers⟩)
      (renderer.next compile ⟨.render input seconds, answers⟩) := by
  unfold entry next perform
  cases hsize : renderer.dimensions with
  | none =>
    simp only [render_of_inactive (dimensions_eq_none_iff.mp hsize)]
    exact .refused rfl rfl rfl
  | some size =>
    simp only [run_render hsize, trace_render hsize]
    refine step_of_draws (draws_renderInto answers renderer input seconds _) rfl rfl ?_
    rw [Entry.drawnAt?_render]
    cases ((renderer.renderInto input seconds (.blank size.1 size.2)).run answers).1.result with
    | error error => rfl
    | ok progress => rfl

/-- Configuring is a step: the first time it builds, and after that it is refused. -/
theorem step_configure (width height : Nat) :
    Step compile answers renderer (renderer.entry compile ⟨.configure width height, answers⟩)
      (renderer.next compile ⟨.configure width height, answers⟩) := by
  obtain ⟨config, lifecycle⟩ := renderer
  cases lifecycle with
  | uninitialized =>
    unfold entry next perform configure
    simp only [Session.run_bind, Session.trace_bind]
    cases hbuilt : (build compile config width height).run.run answers with
    | error error =>
      simp only [Session.run_pure, Session.trace_pure, List.append_nil]
      exact .spoiled hbuilt
    | ok built =>
      simp only [Session.run_pure, Session.trace_pure, List.append_nil]
      exact .configured hbuilt
  | active | failed | destroyed => exact .reconfigured Lifecycle.noConfusion

theorem step_teardown :
    Step compile answers renderer (renderer.entry compile ⟨.teardown, answers⟩)
      (renderer.next compile ⟨.teardown, answers⟩) := by
  obtain ⟨config, lifecycle⟩ := renderer
  cases lifecycle with
  | active active => exact .tornDown
  | uninitialized | failed | destroyed => exact .idle fun _ => Lifecycle.noConfusion

/-- A turn is a step. -/
theorem step_next (renderer : Renderer) (turn : Turn) :
    Step compile turn.answers renderer (renderer.entry compile turn) (renderer.next compile turn) := by
  obtain ⟨call, answers⟩ := turn
  cases call with
  | configure width height => exact step_configure width height
  | render input seconds => exact step_render input seconds
  | renderInto input seconds output =>
    exact step_of_draws (draws_renderInto answers renderer input seconds output) rfl rfl
      (Entry.drawnAt?_renderInto _ _ _ _ _)
  | teardown => exact step_teardown

/-- What every step keeps that a host of some kind answers is kept by every sequence of turns with such
hosts. -/
theorem invariant_append_of_answers (compile : Shader.Compiler) (Kind : Answers → Prop)
    (Invariant : Journal → Renderer → Prop)
    (hstep : ∀ {answers past before entry after}, Kind answers →
      Step compile answers before entry after → Invariant past before →
      Invariant (past ++ [entry]) after)
    {past : Journal} {renderer : Renderer} (h : Invariant past renderer) (turns : List Turn)
    (hturns : ∀ turn ∈ turns, Kind turn.answers) :
    Invariant (past ++ renderer.journal compile turns) (renderer.after compile turns) := by
  induction turns generalizing past renderer with
  | nil =>
    rw [journal, List.append_nil]
    exact h
  | cons turn turns ih =>
    obtain ⟨hturn, hlater⟩ := List.forall_mem_cons.mp hturns
    have hnext := ih (hstep hturn (step_next renderer turn) h) hlater
    rwa [List.append_assoc] at hnext

/-- What every step keeps is kept by every sequence of turns. -/
theorem invariant_append (compile : Shader.Compiler) (Invariant : Journal → Renderer → Prop)
    (hstep : ∀ {answers past before entry after}, Step compile answers before entry after →
      Invariant past before → Invariant (past ++ [entry]) after)
    {past : Journal} {renderer : Renderer} (h : Invariant past renderer) (turns : List Turn) :
    Invariant (past ++ renderer.journal compile turns) (renderer.after compile turns) :=
  invariant_append_of_answers compile (fun _ => True) Invariant (fun _ => hstep) h turns
    fun _ _ => trivial

/-- What holds of a new renderer and is kept by every step holds in every history. -/
theorem invariant_after (compile : Shader.Compiler) (Invariant : Journal → Renderer → Prop)
    (hstep : ∀ {answers past before entry after}, Step compile answers before entry after →
      Invariant past before → Invariant (past ++ [entry]) after)
    {config : Config} (h : Invariant [] (new config)) (turns : List Turn) :
    Invariant ((new config).journal compile turns) ((new config).after compile turns) :=
  invariant_append compile Invariant hstep h turns

end Renderer

end FrameTransition.Render
