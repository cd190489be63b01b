import FrameTransition.Proofs.Render.Step
import FrameTransition.Proofs.Session.Steps

/-!
# What drawing promises

`DrawContract` is what the owner of a renderer can rely on in one call to draw into a frame: which
refusal is reported and when, what a refusal leaves alone, what is asked of the device, and what is in
the frame afterwards. `renderInto_contract` says that it holds in every history of a renderer, for every
pair of frames and every answer of the device, together with what it means for drawing into a new frame.

Most of the contract needs nothing but the list of outcomes in `Draws`. That every byte of the texture
and of the frame is written does need the history: the staging rows and the target are of the configured
size because a renderer gets them when it is configured and every call keeps them (`Sized`).
-/

namespace FrameTransition.Render.Renderer

/-! ## Sizes of a configured renderer -/

/-- What is configured has pixels to draw, staging rows for them, and a target to read them back from. -/
structure IsSized (active : Active) : Prop where
  width_pos : 0 < active.width
  height_pos : 0 < active.height
  length_staging : active.resources.staging.length = 4 * (active.width * active.height)
  target_eq : active.resources.target = .create active.width active.height

/-- A configured renderer has its sizes right. -/
def Sized (renderer : Renderer) : Prop :=
  ∀ active, renderer.lifecycle = .active active → IsSized active

variable {compile : Shader.Compiler} {answers : Answers}

/-- A size without a pixel is refused, and everything on the device is made for the size. -/
theorem created_of_build {config : Config} {width height : Nat} {resources : Resources}
    (hbuilt : (build compile config width height).run.run answers = .ok resources) :
    0 < width ∧ 0 < height ∧ ∃ program layout, resources = .create program layout width height := by
  obtain ⟨_, hsize, h⟩ := Steps.eq_ok_of_bind hbuilt
  obtain ⟨snippet, -, h⟩ := Steps.eq_ok_of_bind h
  obtain ⟨⟨program, layout⟩, -, h⟩ := Steps.eq_ok_of_bind h
  obtain ⟨_, -, h⟩ := Steps.eq_ok_of_bind h
  obtain ⟨hwidth, hheight⟩ := pos_of_checkDimensions hsize
  cases h
  exact ⟨hwidth, hheight, program, layout, rfl⟩

theorem sized_of_step {before after : Renderer} {entry : Entry}
    (hstep : Step compile answers before entry after) (h : Sized before) : Sized after := by
  intro active hactive
  cases hstep with
  | configured hbuilt =>
    cases hactive
    obtain ⟨hwidth, hheight, program, layout, rfl⟩ := created_of_build hbuilt
    refine ⟨hwidth, hheight, ?_, rfl⟩
    show (List.replicate _ _).length = _
    rw [List.length_replicate, Pixels.rgbaSize, Nat.mul_comm]
    rfl
  | spoiled | tornDown => cases hactive
  | reconfigured | refused | idle => exact h active hactive
  | lost _ _ _ hkept | drawn _ _ _ hkept =>
    cases hactive
    obtain ⟨hwidth, hheight, hlength, htarget⟩ := h _ rfl
    exact ⟨hwidth, hheight, hkept.length_staging.trans hlength, hkept.target_eq.trans htarget⟩

/-- In every history the sizes are right. -/
theorem sized_after (compile : Shader.Compiler) (config : Config) (turns : List Turn) :
    Sized ((new config).after compile turns) := by
  refine invariant_after compile (fun _ renderer => Sized renderer) sized_of_step ?_ turns
  intro active hactive
  cases hactive

/-! ## Drawing into a frame -/

/-- What one call to draw `input` into `output` promises. A size is the one the renderer is configured
for; what is said of frames that fit says it for the two together. -/
structure DrawContract (answers : Answers) (before : Renderer) (input : Frame) (seconds : Number)
    (output : Frame) (drawn : Drawn) (after : Renderer) (requests : List Request) : Prop where
  /-- The state comes before the frames. -/
  notConfigured_iff :
    drawn.result = .error .notConfigured ↔ before.state ≠ .ready ∧ before.state ≠ .rendering
  /-- In the other states there is a size. -/
  size_iff : before.state = .ready ∨ before.state = .rendering ↔
    ∃ width height, before.dimensions = some (width, height)
  mismatch_iff : ∀ {width height : Nat}, before.dimensions = some (width, height) →
    ((∃ expected actual, drawn.result = .error (.dimensionMismatch expected actual)) ↔
      ¬ input.Fits width height ∨ ¬ output.Fits width height)
  /-- The input comes before the output. -/
  mismatch_of_input : ∀ {width height : Nat}, before.dimensions = some (width, height) →
    ¬ input.Fits width height →
    drawn.result = .error (.dimensionMismatch ⟨width, height, 3 * width * height⟩
      ⟨input.width, input.height, input.data.length⟩)
  mismatch_of_output : ∀ {width height : Nat}, before.dimensions = some (width, height) →
    input.Fits width height → ¬ output.Fits width height →
    drawn.result = .error (.dimensionMismatch ⟨width, height, 3 * width * height⟩
      ⟨output.width, output.height, output.data.length⟩)
  /-- Frames that fit are drawn, once: the device gets the whole input, and what comes of it is the
  device's word. Neither the texture nor the output keeps a byte of what it held before. -/
  drawn_of_fits : ∀ {width height : Nat}, before.dimensions = some (width, height) →
    input.Fits width height → output.Fits width height →
    ∃ texels : List UInt8,
      (∀ texture : List UInt8, texture.length = 4 * (width * height) →
        Pixels.expandRows? input.data width height texture = some texels) ∧
      requests = [.draw ⟨width, height, before.config.progressAt seconds, texels, .create width height⟩] ∧
      (∀ reason, answers (.draw ⟨width, height, before.config.progressAt seconds, texels, .create width height⟩) =
          .error reason →
        drawn.result = .error (.readback reason)) ∧
      ∀ readback, answers (.draw ⟨width, height, before.config.progressAt seconds, texels, .create width height⟩) =
          .ok readback →
        drawn.result = .ok (before.config.progressAt seconds) ∧
        ∀ target : List UInt8, target.length = 3 * (width * height) →
          Pixels.packRows? readback.bytes (Pixels.paddedBytesPerRow width) width height target =
            some drawn.output.data
  /-- Before that nothing is asked of the host. -/
  silent_of_refused : drawn.result = .error .notConfigured ∨
      (∃ expected actual, drawn.result = .error (.dimensionMismatch expected actual)) →
    requests = [] ∧ after = before
  /-- No error is seen in the output or in the renderer. -/
  unchanged_of_error : ∀ {error : TransitionError}, drawn.result = .error error →
    drawn.output = output ∧ after.state = before.state ∧ after.dimensions = before.dimensions ∧
      after.progress = before.progress
  /-- A frame that was drawn shows in the output and in the renderer. -/
  changed_of_ok : ∀ {progress : Number}, drawn.result = .ok progress →
    progress = before.config.progressAt seconds ∧ drawn.output.timestamp = input.timestamp ∧
      after.state = .rendering ∧ after.progress = some progress ∧
      ∃ width height, before.dimensions = some (width, height) ∧
        after.dimensions = some (width, height) ∧ drawn.output.Fits width height

section Outcomes

variable {renderer after : Renderer} {input output : Frame} {seconds : Number} {drawn : Drawn}
  {requests : List Request} {active : Active}

theorem Draws.notConfigured_iff (h : Draws answers renderer input seconds output drawn after requests) :
    drawn.result = .error .notConfigured ↔ renderer.state ≠ .ready ∧ renderer.state ≠ .rendering := by
  rw [← not_or]
  cases h with
  | inactive hinactive =>
    refine iff_of_true rfl fun hstate => ?_
    obtain ⟨active, hactive⟩ := active_of_state hstate
    exact hinactive active hactive
  | inputMisfit hactive | outputMisfit hactive | lost hactive | drawn hactive =>
    exact iff_of_false (fun h => by cases h) (not_not_intro (state_of_active hactive))

/-- A frame of another size is reported, and of two the input. -/
theorem Draws.misfit (h : Draws answers renderer input seconds output drawn after requests)
    (hactive : renderer.lifecycle = .active active)
    (hmisfit : ¬ input.Fits active.width active.height ∨ ¬ output.Fits active.width active.height) :
    ∃ shape, drawn.result =
        .error (.dimensionMismatch (Frame.expectedShape active.width active.height) shape) ∧
      (¬ input.Fits active.width active.height → shape = input.shape) ∧
      (input.Fits active.width active.height → shape = output.shape) := by
  cases h with
  | inactive hinactive => exact absurd hactive (hinactive active)
  | inputMisfit hactive' hinput =>
    obtain rfl := active_unique hactive hactive'
    exact ⟨_, rfl, fun _ => rfl, fun hfits => absurd hfits hinput⟩
  | outputMisfit hactive' hinput houtput =>
    obtain rfl := active_unique hactive hactive'
    exact ⟨_, rfl, fun hmisfits => absurd hinput hmisfits, fun _ => rfl⟩
  | lost hactive' hinput houtput | drawn hactive' hinput houtput =>
    obtain rfl := active_unique hactive hactive'
    rcases hmisfit with hmisfit | hmisfit
    · exact absurd hinput hmisfit
    · exact absurd houtput hmisfit

/-- No other frame is reported. -/
theorem Draws.misfit_of_mismatch
    (h : Draws answers renderer input seconds output drawn after requests)
    (hactive : renderer.lifecycle = .active active) {expected actual : FrameShape}
    (hresult : drawn.result = .error (.dimensionMismatch expected actual)) :
    ¬ input.Fits active.width active.height ∨ ¬ output.Fits active.width active.height := by
  cases h with
  | inactive | lost | drawn => cases hresult
  | inputMisfit hactive' hinput =>
    obtain rfl := active_unique hactive hactive'
    exact .inl hinput
  | outputMisfit hactive' hinput houtput =>
    obtain rfl := active_unique hactive hactive'
    exact .inr houtput

theorem Draws.silent_of_refused
    (h : Draws answers renderer input seconds output drawn after requests)
    (hresult : drawn.result = .error .notConfigured ∨
      ∃ expected actual, drawn.result = .error (.dimensionMismatch expected actual)) :
    requests = [] ∧ after = renderer := by
  cases h with
  | inactive | inputMisfit | outputMisfit => exact ⟨rfl, rfl⟩
  | lost | drawn =>
    rcases hresult with hresult | ⟨expected, actual, hresult⟩ <;> cases hresult

theorem Draws.unchanged_of_error
    (h : Draws answers renderer input seconds output drawn after requests) {error : TransitionError}
    (hresult : drawn.result = .error error) :
    drawn.output = output ∧ after.state = renderer.state ∧ after.dimensions = renderer.dimensions ∧
      after.progress = renderer.progress := by
  cases h with
  | inactive | inputMisfit | outputMisfit => exact ⟨rfl, rfl, rfl, rfl⟩
  | lost hactive =>
    obtain ⟨config, lifecycle⟩ := renderer
    cases hactive
    exact ⟨rfl, rfl, rfl, rfl⟩
  | drawn => cases hresult

/-- Of an input that fits, every byte of the texture is written. -/
theorem expandRows_eq_stage (hsized : IsSized active) (hinput : input.Fits active.width active.height)
    {texture : List UInt8} (htexture : texture.length = 4 * (active.width * active.height)) :
    Pixels.expandRows? input.data active.width active.height texture =
      some (active.resources.stage active.width active.height input) := by
  have hdata : input.data.length = 3 * (active.width * active.height) := by
    rw [hinput.length_eq, Nat.mul_assoc]
  unfold Resources.stage
  rw [Pixels.expandRows_of_length hsized.width_pos hsized.height_pos hdata hsized.length_staging,
    Pixels.expandRows_of_length hsized.width_pos hsized.height_pos hdata htexture]
  rfl

/-- Of a target that is read back, every byte of the frame is written. -/
theorem packRows_eq_receive {width height : Nat} (readback : Readback (Target.create width height).size)
    (hwidth : 0 < width) (houtput : output.Fits width height) :
    ((Target.create width height).receive readback output).length = 3 * (width * height) ∧
      ∀ target : List UInt8, target.length = 3 * (width * height) →
        Pixels.packRows? readback.bytes (Pixels.paddedBytesPerRow width) width height target =
          some ((Target.create width height).receive readback output) := by
  obtain ⟨packed, hlength, hpacked⟩ := Pixels.exists_packRows_of_length hwidth
    (Pixels.le_paddedBytesPerRow width) readback.length_bytes
  have hreceived : (Target.create width height).receive readback output = packed := by
    have hdata := hpacked output.data (by rw [houtput.length_eq, Nat.mul_assoc])
    unfold Target.receive Target.create
    dsimp only
    rw [hdata]
    rfl
  rw [hreceived]
  exact ⟨hlength, hpacked⟩

theorem length_receive {target : Target} {width height : Nat} (htarget : target = .create width height)
    (readback : Readback target.size) (hwidth : 0 < width) (houtput : output.Fits width height) :
    (target.receive readback output).length = 3 * (width * height) := by
  subst htarget
  exact (packRows_eq_receive readback hwidth houtput).1

/-- Where both frames fit, one drawing is asked for, and what is read back of its target is received. -/
theorem Draws.received_of_fits (h : Draws answers renderer input seconds output drawn after requests)
    (hactive : renderer.lifecycle = .active active) (hinput : input.Fits active.width active.height)
    (houtput : output.Fits active.width active.height) :
    requests = [.draw (renderer.drawingOf active input seconds)] ∧
      (∀ reason, answers (.draw (renderer.drawingOf active input seconds)) = .error reason →
        drawn.result = .error (.readback reason)) ∧
      ∀ readback, answers (.draw (renderer.drawingOf active input seconds)) = .ok readback →
        drawn.result = .ok (renderer.config.progressAt seconds) ∧
          drawn.output.data = (renderer.drawingOf active input seconds).target.receive readback output := by
  cases h with
  | inactive hinactive => exact absurd hactive (hinactive active)
  | inputMisfit hactive' hmisfit =>
    obtain rfl := active_unique hactive hactive'
    exact absurd hinput hmisfit
  | outputMisfit hactive' _ hmisfit =>
    obtain rfl := active_unique hactive hactive'
    exact absurd houtput hmisfit
  | lost hactive' _ _ hanswer =>
    obtain rfl := active_unique hactive hactive'
    refine ⟨rfl, fun other hother => ?_, fun readback hreadback => ?_⟩
    · rw [Except.error.inj (hanswer.symm.trans hother)]
    · cases hanswer.symm.trans hreadback
  | @drawn active' hactive' _ _ readback hanswer =>
    obtain rfl := active_unique hactive hactive'
    refine ⟨rfl, fun reason hreason => ?_, fun other hother => ?_⟩
    · cases hanswer.symm.trans hreason
    · rw [← Except.ok.inj (hanswer.symm.trans hother)]
      exact ⟨rfl, rfl⟩

/-- The drawing is for a target of the configured size. -/
theorem drawingOf_eq (hsized : IsSized active) (renderer : Renderer) (input : Frame) (seconds : Number) :
    renderer.drawingOf active input seconds =
      ⟨active.width, active.height, renderer.config.progressAt seconds,
        active.resources.stage active.width active.height input, .create active.width active.height⟩ := by
  rw [← hsized.target_eq]
  rfl

theorem Draws.drawn_of_fits (h : Draws answers renderer input seconds output drawn after requests)
    (hsized : IsSized active) (hactive : renderer.lifecycle = .active active)
    (hinput : input.Fits active.width active.height)
    (houtput : output.Fits active.width active.height) :
    let drawing : Drawing := ⟨active.width, active.height, renderer.config.progressAt seconds,
      active.resources.stage active.width active.height input, .create active.width active.height⟩
    requests = [.draw drawing] ∧
      (∀ reason, answers (.draw drawing) = .error reason → drawn.result = .error (.readback reason)) ∧
      ∀ readback, answers (.draw drawing) = .ok readback →
        drawn.result = .ok (renderer.config.progressAt seconds) ∧
        ∀ target : List UInt8, target.length = 3 * (active.width * active.height) →
          Pixels.packRows? readback.bytes (Pixels.paddedBytesPerRow active.width) active.width
            active.height target = some drawn.output.data := by
  intro drawing
  have hreceived := h.received_of_fits hactive hinput houtput
  rw [drawingOf_eq hsized] at hreceived
  obtain ⟨hrequests, hlost, hdrawn⟩ := hreceived
  refine ⟨hrequests, hlost, fun readback hreadback => ?_⟩
  obtain ⟨hresult, hdata⟩ := hdrawn readback hreadback
  rw [hdata]
  exact ⟨hresult, (packRows_eq_receive readback hsized.width_pos houtput).2⟩

theorem Draws.changed_of_ok (h : Draws answers renderer input seconds output drawn after requests)
    (hsized : Sized renderer) {progress : Number} (hresult : drawn.result = .ok progress) :
    progress = renderer.config.progressAt seconds ∧ drawn.output.timestamp = input.timestamp ∧
      after.state = .rendering ∧ after.progress = some progress ∧
      ∃ width height, renderer.dimensions = some (width, height) ∧
        after.dimensions = some (width, height) ∧ drawn.output.Fits width height := by
  cases h with
  | inactive | inputMisfit | outputMisfit | lost => cases hresult
  | @drawn active hactive hinput houtput readback hanswer =>
    obtain rfl := Except.ok.inj hresult
    refine ⟨rfl, rfl, rfl, rfl, active.width, active.height,
      dimensions_eq_some_iff.mpr ⟨active, hactive, rfl, rfl⟩, rfl, ?_⟩
    refine ⟨houtput.width_eq, houtput.height_eq, ?_⟩
    rw [length_receive (hsized active hactive).target_eq readback (hsized active hactive).width_pos houtput,
      Nat.mul_assoc]

/-- The contract holds of every outcome, where the sizes are right. -/
theorem drawContract_of_draws (hsized : Sized renderer)
    (h : Draws answers renderer input seconds output drawn after requests) :
    DrawContract answers renderer input seconds output drawn after requests where
  notConfigured_iff := h.notConfigured_iff
  size_iff := by
    constructor
    · intro hstate
      obtain ⟨active, hactive⟩ := active_of_state hstate
      exact ⟨_, _, dimensions_eq_some_iff.mpr ⟨active, hactive, rfl, rfl⟩⟩
    · rintro ⟨width, height, hsize⟩
      obtain ⟨active, hactive, -⟩ := dimensions_eq_some_iff.mp hsize
      exact state_of_active hactive
  mismatch_iff := by
    intro width height hsize
    obtain ⟨active, hactive, rfl, rfl⟩ := dimensions_eq_some_iff.mp hsize
    constructor
    · rintro ⟨expected, actual, hresult⟩
      exact h.misfit_of_mismatch hactive hresult
    · intro hmisfit
      obtain ⟨shape, hresult, -⟩ := h.misfit hactive hmisfit
      exact ⟨_, shape, hresult⟩
  mismatch_of_input := by
    intro width height hsize hinput
    obtain ⟨active, hactive, rfl, rfl⟩ := dimensions_eq_some_iff.mp hsize
    obtain ⟨shape, hresult, hshape, -⟩ := h.misfit hactive (.inl hinput)
    rw [hresult, hshape hinput, Frame.expectedShape_eq]
    rfl
  mismatch_of_output := by
    intro width height hsize hinput houtput
    obtain ⟨active, hactive, rfl, rfl⟩ := dimensions_eq_some_iff.mp hsize
    obtain ⟨shape, hresult, -, hshape⟩ := h.misfit hactive (.inr houtput)
    rw [hresult, hshape hinput, Frame.expectedShape_eq]
    rfl
  drawn_of_fits := by
    intro width height hsize hinput houtput
    obtain ⟨active, hactive, rfl, rfl⟩ := dimensions_eq_some_iff.mp hsize
    exact ⟨active.resources.stage active.width active.height input,
      fun texture htexture => expandRows_eq_stage (hsized active hactive) hinput htexture,
      h.drawn_of_fits (hsized active hactive) hactive hinput houtput⟩
  silent_of_refused := h.silent_of_refused
  unchanged_of_error := h.unchanged_of_error
  changed_of_ok := h.changed_of_ok hsized

end Outcomes

/-! ## Every renderer with a history -/

/-- Drawing `input` into a new frame is drawing it into a black one of the configured size, and so no
frame but the input can be of another size. -/
structure RenderContract (answers : Answers) (before : Renderer) (input : Frame) (seconds : Number) :
    Prop where
  run_eq : ∀ {width height : Nat}, before.dimensions = some (width, height) →
    (before.render input seconds).run answers =
      let (drawn, after) := (before.renderInto input seconds (.blank width height)).run answers
      (drawn.result.map fun _ => drawn.output, after)
  trace_eq : ∀ {width height : Nat}, before.dimensions = some (width, height) →
    (before.render input seconds).trace answers =
      (before.renderInto input seconds (.blank width height)).trace answers
  /-- Without a size there is no frame to draw into, and the answer is that of any frame. -/
  notConfigured : ∀ output : Frame, before.dimensions = none →
    (before.render input seconds).run answers = (.error .notConfigured, before) ∧
      (before.render input seconds).trace answers = [] ∧
      (before.renderInto input seconds output).run answers = (⟨.error .notConfigured, output⟩, before)
  mismatch : ∀ {expected actual : FrameShape},
    ((before.render input seconds).run answers).1 = .error (.dimensionMismatch expected actual) →
    actual = ⟨input.width, input.height, input.data.length⟩ ∧
      ∃ width height, before.dimensions = some (width, height) ∧ ¬ input.Fits width height ∧
        expected = ⟨width, height, 3 * width * height⟩

/-- What a frame is drawn to decides the value, not whether there is one. -/
theorem eq_error_of_map_eq_error {ε α β : Type} {f : α → β} {result : Except ε α} {error : ε}
    (h : result.map f = .error error) : result = .error error := by
  cases result with
  | error found =>
    cases h
    rfl
  | ok value => cases h

theorem renderContract (answers : Answers) (renderer : Renderer) (input : Frame) (seconds : Number) :
    RenderContract answers renderer input seconds where
  run_eq := run_render
  trace_eq := trace_render
  notConfigured := by
    intro output hsize
    have hinactive := dimensions_eq_none_iff.mp hsize
    rw [render_of_inactive hinactive, renderInto_of_inactive hinactive]
    exact ⟨rfl, rfl, rfl⟩
  mismatch := by
    intro expected actual hresult
    cases hsize : renderer.dimensions with
    | none =>
      rw [render_of_inactive (dimensions_eq_none_iff.mp hsize)] at hresult
      cases hresult
    | some size =>
      obtain ⟨width, height⟩ := size
      obtain ⟨active, hactive, rfl, rfl⟩ := dimensions_eq_some_iff.mp hsize
      rw [run_render hsize] at hresult
      have hdraws := draws_renderInto answers renderer input seconds (.blank active.width active.height)
      have hmismatch := eq_error_of_map_eq_error hresult
      have hinput : ¬ input.Fits active.width active.height := by
        rcases hdraws.misfit_of_mismatch hactive hmismatch with hmisfit | hmisfit
        · exact hmisfit
        · exact absurd (Frame.fits_blank _ _) hmisfit
      obtain ⟨shape, hshown, hshape, -⟩ := hdraws.misfit hactive (.inl hinput)
      obtain ⟨rfl, rfl⟩ := TransitionError.dimensionMismatch.inj
        (Except.error.inj (hmismatch.symm.trans hshown))
      rw [hshape hinput, Frame.expectedShape_eq]
      exact ⟨rfl, active.width, active.height, rfl, hinput, rfl⟩

/-- The contract of drawing, in every history and for every frame, time and host. -/
theorem renderInto_contract (compile : Shader.Compiler) (config : Config) (turns : List Turn)
    (input : Frame) (seconds : Number) (output : Frame) (answers : Answers) :
    let renderer := (new config).after compile turns
    let call := renderer.renderInto input seconds output
    DrawContract answers renderer input seconds output (call.run answers).1 (call.run answers).2
        (call.trace answers) ∧
      RenderContract answers renderer input seconds :=
  ⟨drawContract_of_draws (sized_after compile config turns) (draws_renderInto _ _ _ _ _),
    renderContract _ _ _ _⟩

end FrameTransition.Render.Renderer
