import FrameTransition.Proofs.Render.Configure
import FrameTransition.Proofs.Render.Contract
import FrameTransition.Proofs.Render.Limits

/-!
# Frames on the pixel path

The loops over pixels cut, index and write without looking: they rely on sizes that were checked when the
renderer was configured, when its device was acquired, and when the frames were handed over. `PixelPath`
lists what they rely on and what follows from it: no row lies outside its buffer, no byte survives of
what a buffer held before, and no size is lost in a machine word. `Overwrites` says of the call itself that
the texture it draws and the frame it gives back are those that the loops make, whatever the buffers held.
`pixelPath_of_draw` says that both hold whenever a frame gets as far as being drawn, for every renderer whose
hosts grant devices by the limits of a device (`Grants`).
-/

namespace FrameTransition.Render

/-- A device is granted only for sizes within the limits of some device, whose textures have no side
longer than `Pixels.largestSide`. -/
def Grants (answers : Answers) : Prop :=
  ∀ width height : Nat, answers (.acquire width height) = .ok () →
    ∃ limits : Limits, limits.maxTexture ≤ Pixels.largestSide ∧ limits.checkSize width height = .ok ()

/-- What the loops over pixels rely on, for the staging rows, the target and the two frames of a drawing, and
what follows from it. -/
structure PixelPath (width height : Nat) (staging : List UInt8) (target : Target) (input output : Frame) :
    Prop where
  width_pos : 0 < width
  height_pos : 0 < height
  length_input : input.data.length = 3 * width * height
  length_output : output.data.length = 3 * width * height
  length_staging : staging.length = 4 * width * height
  target_eq : target.width = width ∧ target.height = height ∧ target.pitch = Pixels.paddedBytesPerRow width
  length_readback : ∀ readback : Readback target.size,
    readback.bytes.length = Pixels.paddedBytesPerRow width * height
  le_pitch : 4 * width ≤ Pixels.paddedBytesPerRow width
  /-- No buffer is cut into pieces of no length. -/
  chunk_pos : 0 < width * Pixels.rgbSize ∧ 0 < width * Pixels.rgbaSize ∧ 0 < Pixels.paddedBytesPerRow width
  /-- Every row of the input and the row of the texture that it goes to. -/
  expanded_row : ∀ row < height,
    (row + 1) * (width * Pixels.rgbSize) ≤ input.data.length ∧
      (height - 1 - row + 1) * (width * Pixels.rgbaSize) ≤ staging.length
  /-- The pixels of every row that is read back and the row of the output that they go to. -/
  packed_row : ∀ readback : Readback target.size, ∀ row < height,
    row * Pixels.paddedBytesPerRow width + width * Pixels.rgbaSize ≤ readback.bytes.length ∧
      (row + 1) * (width * Pixels.rgbSize) ≤ output.data.length
  /-- The texture is made of the input, whatever was in the staging rows. -/
  expanded : ∃ texels : List UInt8, texels.length = 4 * width * height ∧
    ∀ before : List UInt8, before.length = staging.length →
      Pixels.expandRows? input.data width height before = some texels
  /-- The output is made of what is read back, whatever was in it. -/
  packed : ∀ readback : Readback target.size,
    ∃ pixels : List UInt8, pixels.length = 3 * width * height ∧
      ∀ before : List UInt8, before.length = output.data.length →
        Pixels.packRows? readback.bytes (Pixels.paddedBytesPerRow width) width height before = some pixels
  sizesFit : Pixels.SizesFit width height

/-- What a call that draws makes of its input and of what is read back, for whatever the staging rows and the
output held. -/
structure Overwrites (answers : Answers) (width height : Nat) (drawing : Drawing) (input : Frame)
    (entry : Entry) : Prop where
  width_eq : drawing.width = width
  height_eq : drawing.height = height
  /-- The buffer that is read back has its rows at the pitch, and as many as the picture. -/
  target_eq : drawing.target =
    ⟨width, height, Pixels.paddedBytesPerRow width, Pixels.paddedBytesPerRow width * height⟩
  /-- The texture is that of the input. -/
  texels_eq : ∀ before : List UInt8, before.length = 4 * width * height →
    Pixels.expandRows? input.data width height before = some drawing.texels
  /-- The frame that the call gives back is made of what was read back. -/
  frame_eq : ∀ readback, answers (.draw drawing) = .ok readback →
    ∃ frame, entry.frame? = some frame ∧ frame.width = width ∧ frame.height = height ∧
      ∀ before : List UInt8, before.length = 3 * width * height →
        Pixels.packRows? readback.bytes (Pixels.paddedBytesPerRow width) width height before = some frame.data
  /-- Where nothing is read back there is no frame. -/
  lost : ∀ reason, answers (.draw drawing) = .error reason → entry.frame? = none

/-- The end of a row in a buffer of whole rows. -/
theorem rowEnd_le {row height size : Nat} (hrow : row < height) : (row + 1) * size ≤ height * size :=
  Nat.mul_le_mul_right size hrow

theorem pixelPath {width height : Nat} {staging : List UInt8} {input output : Frame}
    (hwidth : 0 < width) (hheight : 0 < height)
    (hside : width ≤ Pixels.largestSide ∧ height ≤ Pixels.largestSide)
    (hstaging : staging.length = 4 * (width * height)) (hinput : input.Fits width height)
    (houtput : output.Fits width height) :
    PixelPath width height staging (.create width height) input output := by
  have hpitch := Pixels.le_paddedBytesPerRow width
  have hrgb : 3 * width * height = height * (width * 3) := by ring
  have hrgba : 4 * (width * height) = height * (width * 4) := by ring
  constructor
  case width_pos => exact hwidth
  case height_pos => exact hheight
  case length_input => exact hinput.length_eq
  case length_output => exact houtput.length_eq
  case length_staging => rw [hstaging, Nat.mul_assoc]
  case target_eq => exact ⟨rfl, rfl, rfl⟩
  case length_readback => exact fun readback => readback.length_bytes
  case le_pitch => rwa [Nat.mul_comm]
  case chunk_pos =>
    have hrow : 0 < width * Pixels.rgbaSize := Nat.mul_pos hwidth four_pos
    exact ⟨Nat.mul_pos hwidth three_pos, hrow, lt_of_lt_of_le hrow hpitch⟩
  case expanded_row =>
    intro row hrow
    rw [hinput.length_eq, hrgb, hstaging, hrgba]
    exact ⟨rowEnd_le hrow, rowEnd_le (by omega)⟩
  case packed_row =>
    intro readback row hrow
    constructor
    · rw [readback.length_bytes]
      exact Pixels.row_le_readbackSize hrow
    · rw [houtput.length_eq, hrgb]
      exact rowEnd_le hrow
  case expanded =>
    have hdata : input.data.length = 3 * (width * height) := by rw [hinput.length_eq, Nat.mul_assoc]
    have hexpanded := fun (before : List UInt8) (hbefore : before.length = staging.length) =>
      Pixels.expandRows_of_length hwidth hheight hdata (hbefore.trans hstaging)
    refine ⟨_, ?_, hexpanded⟩
    rw [Pixels.length_expandRows (hexpanded staging rfl), hstaging, Nat.mul_assoc]
  case packed =>
    intro readback
    obtain ⟨pixels, hlength, hpacked⟩ :=
      Pixels.exists_packRows_of_length hwidth hpitch readback.length_bytes
    refine ⟨pixels, by rw [hlength, Nat.mul_assoc], fun before hbefore => hpacked before ?_⟩
    rw [hbefore, houtput.length_eq, Nat.mul_assoc]
  case sizesFit => exact Pixels.sizesFit_of_le hside.1 hside.2

namespace Renderer

variable {compile : Shader.Compiler} {answers : Answers}

/-! ## The sizes that a device was granted for -/

/-- A configured renderer has no side that is too long. -/
def Granted (renderer : Renderer) : Prop :=
  ∀ active, renderer.lifecycle = .active active →
    active.width ≤ Pixels.largestSide ∧ active.height ≤ Pixels.largestSide

/-- Configuring ends with the word of the device. -/
theorem acquired_of_build {config : Config} {width height : Nat} {resources : Resources}
    (hbuilt : (build compile config width height).run.run answers = .ok resources) :
    answers (.acquire width height) = .ok () := by
  let setup : Setup := ⟨compile, config, width, height, answers⟩
  have hpassed : errorOf? (answers (.acquire width height)) = none :=
    setup.follows_build.passed hbuilt .device (by decide)
  cases hanswer : answers (.acquire width height) with
  | ok => rfl
  | error error =>
    rw [hanswer] at hpassed
    cases hpassed

theorem granted_of_step (hanswers : Grants answers) {before after : Renderer} {entry : Entry}
    (hstep : Step compile answers before entry after) (h : Granted before) : Granted after := by
  intro active hactive
  cases hstep with
  | configured hbuilt =>
    cases hactive
    obtain ⟨limits, hside, hsize⟩ := hanswers _ _ (acquired_of_build hbuilt)
    obtain ⟨⟨hwidth, hheight⟩, -⟩ := Limits.checkSize_eq_ok_iff.mp hsize
    exact ⟨hwidth.trans hside, hheight.trans hside⟩
  | spoiled | tornDown => cases hactive
  | reconfigured | refused | idle => exact h active hactive
  | lost | drawn =>
    cases hactive
    exact h ‹Active› rfl

theorem granted_after {config : Config} {turns : List Turn}
    (hturns : ∀ turn ∈ turns, Grants turn.answers) : Granted ((new config).after compile turns) := by
  have hnew : Granted (new config) := by
    intro active hactive
    cases hactive
  exact @invariant_append_of_answers compile Grants (fun _ renderer => Granted renderer)
    (fun hanswers hstep => granted_of_step hanswers hstep) [] (new config) hnew turns hturns

/-! ## Calls that draw -/

/-- The frames of a call to draw: what is drawn, and the frame it is drawn into. -/
inductive Handed (active : Active) : Call → Frame → Number → Frame → Prop
  | render (input : Frame) (seconds : Number) :
      Handed active (.render input seconds) input seconds (.blank active.width active.height)
  | renderInto (input : Frame) (seconds : Number) (output : Frame) :
      Handed active (.renderInto input seconds output) input seconds output

/-- What is asked to be drawn is what both frames were found to fit. -/
theorem fits_of_draws {renderer after : Renderer} {input output : Frame} {seconds : Number}
    {drawn : Drawn} {requests : List Request} {drawing : Drawing}
    (h : Draws answers renderer input seconds output drawn after requests)
    (hdraw : .draw drawing ∈ requests) :
    ∃ active, renderer.lifecycle = .active active ∧ input.Fits active.width active.height ∧
      output.Fits active.width active.height ∧ drawing = renderer.drawingOf active input seconds := by
  cases h with
  | inactive | inputMisfit | outputMisfit => cases hdraw
  | lost hactive hinput houtput | drawn hactive hinput houtput =>
    obtain ⟨⟩ := List.mem_singleton.mp hdraw
    exact ⟨_, hactive, hinput, houtput, rfl⟩

/-- Configuring draws nothing. -/
theorem draw_not_mem_configure {renderer : Renderer} {width height : Nat} {drawing : Drawing} :
    .draw drawing ∉ (renderer.configure compile width height).trace answers := by
  intro hdraw
  obtain ⟨config, lifecycle⟩ := renderer
  cases lifecycle with
  | uninitialized =>
    let setup : Setup := ⟨compile, config, width, height, answers⟩
    have hasked : .draw drawing ∈ (setup.plan.performed SetupStep.all).flatMap setup.asks := by
      rw [← trace_configure_new]
      exact hdraw
    obtain ⟨step, hstep, -⟩ := Setup.asked_iff.mp hasked
    rcases Setup.mem_asks_iff.mp hstep with ⟨-, path, -, hread⟩ | ⟨-, hacquire⟩
    · cases hread
    · cases hacquire
  | active | failed | destroyed => cases hdraw

/-- Only a call to draw asks for a drawing, and it hands over both frames. -/
theorem handed_of_draw {renderer : Renderer} {call : Call} {drawing : Drawing}
    (hdraw : .draw drawing ∈ (renderer.perform compile call).trace answers) :
    ∃ active input seconds output, renderer.lifecycle = .active active ∧
      Handed active call input seconds output ∧ input.Fits active.width active.height ∧
      output.Fits active.width active.height ∧ drawing = renderer.drawingOf active input seconds := by
  cases call with
  | configure width height => exact absurd hdraw draw_not_mem_configure
  | render input seconds =>
    have hrender : .draw drawing ∈ (renderer.render input seconds).trace answers := hdraw
    cases hsize : renderer.dimensions with
    | none =>
      rw [render_of_inactive (dimensions_eq_none_iff.mp hsize)] at hrender
      cases hrender
    | some size =>
      rw [trace_render hsize] at hrender
      obtain ⟨active, hactive, hinput, houtput, hdrawing⟩ :=
        fits_of_draws (draws_renderInto answers renderer input seconds _) hrender
      obtain ⟨_, hactive', hwidth, hheight⟩ := dimensions_eq_some_iff.mp hsize
      obtain rfl := active_unique hactive hactive'
      rw [← hwidth, ← hheight] at houtput
      exact ⟨active, input, seconds, _, hactive, .render input seconds, hinput, houtput, hdrawing⟩
  | renderInto input seconds output =>
    obtain ⟨active, hactive, hinput, houtput, hdrawing⟩ :=
      fits_of_draws (draws_renderInto answers renderer input seconds output) hdraw
    exact ⟨active, input, seconds, output, hactive, .renderInto input seconds output, hinput, houtput,
      hdrawing⟩
  | teardown => cases hdraw

/-- What a call to draw gives back is what is drawn into the frame that was handed over or made. -/
theorem frame?_of_handed {renderer : Renderer} {active : Active} (hactive : renderer.lifecycle = .active active)
    {call : Call} {input output : Frame} {seconds : Number} (h : Handed active call input seconds output) :
    (renderer.entry compile ⟨call, answers⟩).frame? =
      ((renderer.renderInto input seconds output).run answers).1.result.toOption.map fun _ =>
        ((renderer.renderInto input seconds output).run answers).1.output := by
  cases h with
  | render input seconds =>
    have hsize : renderer.dimensions = some (active.width, active.height) :=
      dimensions_eq_some_iff.mpr ⟨active, hactive, rfl, rfl⟩
    unfold entry perform
    rw [Entry.frame?_render, run_render hsize]
    cases ((renderer.renderInto input seconds (.blank active.width active.height)).run answers).1.result with
    | error | ok => rfl
  | renderInto input seconds output => exact Entry.frame?_renderInto _ _ _ _ _

/-- A frame that is drawn into keeps its size. -/
theorem size_of_draws {renderer after : Renderer} {input output : Frame} {seconds : Number} {drawn : Drawn}
    {requests : List Request} (h : Draws answers renderer input seconds output drawn after requests) :
    drawn.output.width = output.width ∧ drawn.output.height = output.height := by
  cases h with
  | inactive | inputMisfit | outputMisfit | lost | drawn => exact ⟨rfl, rfl⟩

theorem overwrites {renderer : Renderer} {active : Active} (hactive : renderer.lifecycle = .active active)
    (hsized : IsSized active) {call : Call} {input output : Frame} {seconds : Number}
    (hhanded : Handed active call input seconds output) (hinput : input.Fits active.width active.height)
    (houtput : output.Fits active.width active.height) :
    Overwrites answers active.width active.height (renderer.drawingOf active input seconds) input
      (renderer.entry compile ⟨call, answers⟩) := by
  have hdraws := draws_renderInto answers renderer input seconds output
  obtain ⟨-, hlost, hdrawn⟩ := hdraws.drawn_of_fits hsized hactive hinput houtput
  rw [drawingOf_eq hsized]
  constructor
  case width_eq | height_eq | target_eq => rfl
  case texels_eq =>
    intro before hbefore
    exact expandRows_eq_stage hsized hinput (by rw [hbefore, Nat.mul_assoc])
  case frame_eq =>
    intro readback hreadback
    obtain ⟨hresult, hpacked⟩ := hdrawn readback hreadback
    obtain ⟨hwidth, hheight⟩ := size_of_draws hdraws
    refine ⟨_, ?_, hwidth.trans houtput.width_eq, hheight.trans houtput.height_eq, ?_⟩
    · rw [frame?_of_handed hactive hhanded, hresult]
      rfl
    · exact fun before hbefore => hpacked before (by rw [hbefore, Nat.mul_assoc])
  case lost =>
    intro reason hreason
    rw [frame?_of_handed hactive hhanded, hlost reason hreason]
    rfl

/-- Whenever a frame gets as far as being drawn, the loops over pixels have what they rely on, and what they
make is what is drawn and what the call gives back. -/
theorem pixelPath_of_draw (compile : Shader.Compiler) (config : Config) (turns : List Turn)
    (hturns : ∀ turn ∈ turns, Grants turn.answers) (turn : Turn) {drawing : Drawing}
    (hdraw : .draw drawing ∈ (((new config).after compile turns).entry compile turn).requests) :
    ∃ active input seconds output,
      ((new config).after compile turns).lifecycle = .active active ∧
      Handed active turn.call input seconds output ∧
      PixelPath active.width active.height active.resources.staging active.resources.target input output ∧
      Overwrites turn.answers active.width active.height drawing input
        (((new config).after compile turns).entry compile turn) := by
  obtain ⟨active, input, seconds, output, hactive, hhanded, hinput, houtput, rfl⟩ := handed_of_draw hdraw
  have hsized := sized_after compile config turns active hactive
  refine ⟨active, input, seconds, output, hactive, hhanded, ?_,
    overwrites hactive hsized hhanded hinput houtput⟩
  rw [hsized.target_eq]
  exact pixelPath hsized.width_pos hsized.height_pos (granted_after hturns active hactive) hsized.length_staging
    hinput houtput

/-- A frame of one pixel, on a device with room for more. -/
theorem pixelPath_of_draw_one_pixel :
    let position : Shader.Argument := ⟨some "position", .scalar .float32, some (.location 0)⟩
    let compile : Shader.Compiler := fun kind _ =>
      .ok ⟨[⟨"main", kind, [position], some ⟨position.type, position.binding⟩⟩], []⟩
    let answers : Answers := fun
      | .readFile _ | .start _ => .error .notFound
      | .createDirectories _ | .writeFile _ _ | .handleInterrupts => .ok ()
      | .acquire width height => Limits.checkSize ⟨8192, 65536⟩ width height
      | .draw drawing => .ok (.blank drawing.target.size)
    let input : Frame := ⟨1, 1, none, [1, 2, 3]⟩
    let drawing : Drawing := ⟨1, 1, .real 0, [1, 2, 3, 255], .create 1 1⟩
    let turn : Turn := ⟨.render input (.real 0), answers⟩
    let entry := ((new .default).after compile [⟨.configure 1 1, answers⟩]).entry compile turn
    Grants answers ∧ entry.requests = [.draw drawing] ∧
      PixelPath 1 1 [0, 0, 0, 0] (.create 1 1) input (.blank 1 1) ∧
      Overwrites answers 1 1 drawing input entry := by
  intro position compile answers input drawing turn entry
  have hgrants : Grants answers := fun width height hsize => ⟨⟨8192, 65536⟩, by decide, hsize⟩
  have hturns : ∀ turn ∈ [(⟨.configure 1 1, answers⟩ : Turn)], Grants turn.answers := by
    intro turn hturn
    obtain rfl := List.mem_singleton.mp hturn
    exact hgrants
  have hrequests : entry.requests = [.draw drawing] := by decide +kernel
  obtain ⟨active, _, _, _, hactive, ⟨⟩, hpath, hoverwrites⟩ :=
    pixelPath_of_draw compile .default _ hturns turn (hrequests ▸ List.mem_cons_self)
  let stage (kind : Shader.EntryKind) : Shader.StageInterface :=
    ⟨[⟨"main", kind, [position], some ⟨position.type, position.binding⟩⟩], []⟩
  have hmade : ((new .default).after compile [⟨.configure 1 1, answers⟩]).lifecycle =
      .active (.start 1 1 (.create ⟨stage .vertex, stage .fragment, 0⟩ ⟨none, none, none⟩ 1 1)) := by
    decide +kernel
  obtain rfl := Lifecycle.active.inj (hactive.symm.trans hmade)
  exact ⟨hgrants, hrequests, hpath, hoverwrites⟩

end Renderer

end FrameTransition.Render
