import FrameTransition.Proofs.Pixels.Rows
import FrameTransition.Proofs.Pixels.Words
import FrameTransition.Render.History

/-!
# What a call to draw can come to

`Draws` lists the outcomes of drawing a frame, with the renderer that is left and what was asked of the
host. Nothing is asked before both frames are known to fit, and then one drawing is; the renderer's
owner sees a change only where a frame was drawn. `draws_renderInto` says that there are no others.

`Frame.Fits` is the size check as a property of the frame.
-/

namespace FrameTransition

/-! ## Frames of a size -/

/-- A frame is packed RGB of a size. -/
structure Frame.Fits (frame : Frame) (width height : Nat) : Prop where
  width_eq : frame.width = width
  height_eq : frame.height = height
  length_eq : frame.data.length = 3 * width * height

namespace Frame

variable {frame : Frame} {width height : Nat}

theorem expectedShape_eq (width height : Nat) :
    expectedShape width height = ⟨width, height, 3 * width * height⟩ := by
  rw [expectedShape, byteLength_eq]

theorem shape_eq_expectedShape_iff :
    frame.shape = expectedShape width height ↔ frame.Fits width height := by
  rw [shape, expectedShape_eq, FrameShape.mk.injEq]
  exact ⟨fun h => ⟨h.1, h.2.1, h.2.2⟩, fun h => ⟨h.width_eq, h.height_eq, h.length_eq⟩⟩

theorem checkShape_of_fits (h : frame.Fits width height) :
    frame.checkShape (expectedShape width height) = .ok () :=
  if_pos (shape_eq_expectedShape_iff.mpr h)

theorem checkShape_of_not_fits (h : ¬ frame.Fits width height) :
    frame.checkShape (expectedShape width height) =
      .error (.dimensionMismatch (expectedShape width height) frame.shape) :=
  if_neg (mt shape_eq_expectedShape_iff.mp h)

theorem fits_blank (width height : Nat) : (blank width height).Fits width height :=
  shape_eq_expectedShape_iff.mp (by simp [shape, expectedShape, blank])

end Frame

namespace Render.Renderer

/-! ## Configured renderers -/

section Configured

variable {renderer : Renderer} {active : Active}

theorem active_unique {other : Active} (hactive : renderer.lifecycle = .active active)
    (hother : renderer.lifecycle = .active other) : active = other :=
  Lifecycle.active.inj (hactive.symm.trans hother)

/-- The renderers with a size are the configured ones. -/
theorem dimensions_eq_some_iff {width height : Nat} :
    renderer.dimensions = some (width, height) ↔
      ∃ active, renderer.lifecycle = .active active ∧ active.width = width ∧ active.height = height := by
  unfold dimensions
  cases hlife : renderer.lifecycle with
  | active active => simp
  | uninitialized | failed | destroyed => simp

theorem dimensions_eq_none_iff :
    renderer.dimensions = none ↔ ∀ active, renderer.lifecycle ≠ .active active := by
  unfold dimensions
  cases hlife : renderer.lifecycle with
  | active active => simp
  | uninitialized | failed | destroyed => simp

/-- The states with a size. -/
theorem active_of_state (h : renderer.state = .ready ∨ renderer.state = .rendering) :
    ∃ active, renderer.lifecycle = .active active := by
  unfold state at h
  cases hlife : renderer.lifecycle with
  | active active => exact ⟨active, rfl⟩
  | uninitialized | failed | destroyed =>
    rw [hlife] at h
    rcases h with h | h <;> cases h

theorem state_of_active (hactive : renderer.lifecycle = .active active) :
    renderer.state = .ready ∨ renderer.state = .rendering := by
  unfold state
  rw [hactive]
  by_cases hframes : active.frames = 0
  · exact .inl (if_pos hframes)
  · exact .inr (if_neg hframes)

theorem lifecycle_of_uninitialized (h : renderer.state = .uninitialized) :
    renderer.lifecycle = .uninitialized := by
  cases hlife : renderer.lifecycle with
  | uninitialized => rfl
  | active active =>
    rcases state_of_active hlife with hstate | hstate <;> cases hstate.symm.trans h
  | failed | destroyed =>
    unfold state at h
    rw [hlife] at h
    cases h

end Configured

/-! ## Drawing into a frame -/

/-- What a configured renderer has on its device once a frame was handed to that. -/
def loadedBy (renderer : Renderer) (active : Active) (input : Frame) (seconds : Number) : Resources :=
  active.resources.load active.width active.height (renderer.config.progressAt seconds) input

/-- The drawing that a configured renderer asks its device for. -/
def drawingOf (renderer : Renderer) (active : Active) (input : Frame) (seconds : Number) :
    Drawing :=
  ⟨active.width, active.height, renderer.config.progressAt seconds, (renderer.loadedBy active input seconds).staging,
    (renderer.loadedBy active input seconds).target⟩

/-- What drawing `input` into `output` can come to: the outcome, the renderer afterwards, and what was
asked of the host. -/
inductive Draws (answers : Answers) (renderer : Renderer) (input : Frame) (seconds : Number)
    (output : Frame) : Drawn → Renderer → List Request → Prop
  /-- There is no size to draw in. -/
  | inactive (hinactive : ∀ active, renderer.lifecycle ≠ .active active) :
      Draws answers renderer input seconds output ⟨.error .notConfigured, output⟩ renderer []
  /-- The input is not of the size, whatever the output is. -/
  | inputMisfit {active : Active} (hactive : renderer.lifecycle = .active active)
      (hinput : ¬ input.Fits active.width active.height) :
      Draws answers renderer input seconds output
        ⟨.error (.dimensionMismatch (Frame.expectedShape active.width active.height) input.shape), output⟩
        renderer []
  | outputMisfit {active : Active} (hactive : renderer.lifecycle = .active active)
      (hinput : input.Fits active.width active.height)
      (houtput : ¬ output.Fits active.width active.height) :
      Draws answers renderer input seconds output
        ⟨.error (.dimensionMismatch (Frame.expectedShape active.width active.height) output.shape), output⟩
        renderer []
  /-- The picture could not be read back. Only what is on the device knows of the frame. -/
  | lost {active : Active} (hactive : renderer.lifecycle = .active active)
      (hinput : input.Fits active.width active.height)
      (houtput : output.Fits active.width active.height) {reason : String}
      (hanswer : answers (.draw (renderer.drawingOf active input seconds)) = .error reason) :
      Draws answers renderer input seconds output ⟨.error (.readback reason), output⟩
        { renderer with lifecycle := .active { active with resources := renderer.loadedBy active input seconds } }
        [.draw (renderer.drawingOf active input seconds)]
  | drawn {active : Active} (hactive : renderer.lifecycle = .active active)
      (hinput : input.Fits active.width active.height)
      (houtput : output.Fits active.width active.height) {readback : Readback active.resources.target.size}
      (hanswer : answers (.draw (renderer.drawingOf active input seconds)) = .ok readback) :
      Draws answers renderer input seconds output
        ⟨.ok (renderer.config.progressAt seconds),
          { output with data := active.resources.target.receive readback output, timestamp := input.timestamp }⟩
        { renderer with lifecycle := .active { active with
            resources := renderer.loadedBy active input seconds
            progress := renderer.config.progressAt seconds
            frames := active.frames + 1 } }
        [.draw (renderer.drawingOf active input seconds)]

variable {answers : Answers} {renderer : Renderer} {input : Frame} {seconds : Number} {output : Frame}

/-- Frames that fit come to a picture, or to none if it cannot be read back. -/
theorem draws_drawFrame {active : Active} (hactive : renderer.lifecycle = .active active)
    (hinput : input.Fits active.width active.height) (houtput : output.Fits active.width active.height) :
    Draws answers renderer input seconds output
      ((renderer.drawFrame active input seconds output).run answers).1
      ((renderer.drawFrame active input seconds output).run answers).2
      ((renderer.drawFrame active input seconds output).trace answers) := by
  unfold drawFrame
  simp only [Session.run_bind, Session.trace_bind]
  cases hanswer : answers (.draw (renderer.drawingOf active input seconds)) with
  | error reason =>
    have hrun : (Session.draw (renderer.drawingOf active input seconds)).run answers = .error reason :=
      hanswer
    unfold drawingOf loadedBy at hrun
    rw [hrun]
    exact .lost hactive hinput houtput hanswer
  | ok readback =>
    have hrun : (Session.draw (renderer.drawingOf active input seconds)).run answers = .ok readback :=
      hanswer
    unfold drawingOf loadedBy at hrun
    rw [hrun]
    exact .drawn hactive hinput houtput hanswer

/-- Without a size nothing is looked at. -/
theorem renderInto_of_inactive (hinactive : ∀ active, renderer.lifecycle ≠ .active active) :
    renderer.renderInto input seconds output = return (⟨.error .notConfigured, output⟩, renderer) := by
  unfold renderInto
  split
  · next active hactive => exact absurd hactive (hinactive active)
  · rfl

/-- Drawing comes to one of these. -/
theorem draws_renderInto (answers : Answers) (renderer : Renderer) (input : Frame) (seconds : Number)
    (output : Frame) :
    Draws answers renderer input seconds output
      ((renderer.renderInto input seconds output).run answers).1
      ((renderer.renderInto input seconds output).run answers).2
      ((renderer.renderInto input seconds output).trace answers) := by
  by_cases hsome : ∃ active, renderer.lifecycle = .active active
  · obtain ⟨active, hactive⟩ := hsome
    unfold renderInto
    simp only [hactive]
    by_cases hinput : input.Fits active.width active.height
    · by_cases houtput : output.Fits active.width active.height
      · rw [Frame.checkShape_of_fits hinput, Frame.checkShape_of_fits houtput]
        exact draws_drawFrame hactive hinput houtput
      · rw [Frame.checkShape_of_fits hinput, Frame.checkShape_of_not_fits houtput]
        exact .outputMisfit hactive hinput houtput
    · rw [Frame.checkShape_of_not_fits hinput]
      exact .inputMisfit hactive hinput
  · have hinactive := not_exists.mp hsome
    rw [renderInto_of_inactive hinactive]
    exact .inactive hinactive

/-! ## Drawing into a new frame -/

/-- A new frame is a black one of the configured size, drawn into as any other. -/
theorem run_render {width height : Nat} (hsize : renderer.dimensions = some (width, height)) :
    (renderer.render input seconds).run answers =
      (((renderer.renderInto input seconds (.blank width height)).run answers).1.result.map fun _ =>
        ((renderer.renderInto input seconds (.blank width height)).run answers).1.output,
      ((renderer.renderInto input seconds (.blank width height)).run answers).2) := by
  unfold render
  rw [hsize]
  exact Session.run_bind _ _ _

theorem trace_render {width height : Nat} (hsize : renderer.dimensions = some (width, height)) :
    (renderer.render input seconds).trace answers =
      (renderer.renderInto input seconds (.blank width height)).trace answers := by
  unfold render
  rw [hsize]
  exact (Session.trace_bind _ _ _).trans (List.append_nil _)

/-- Without a size there is no frame to make. -/
theorem render_of_inactive (hinactive : ∀ active, renderer.lifecycle ≠ .active active) :
    renderer.render input seconds = return (.error .notConfigured, renderer) := by
  unfold render
  rw [dimensions_eq_none_iff.mpr hinactive]

end Render.Renderer

end FrameTransition
