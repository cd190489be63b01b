import FrameTransition.Proofs.Render.Step

/-!
# The life of a renderer, told from its calls

What the owner of a renderer sees of it, its state, its dimensions and its progress, is decided by the
calls that were made and by what they gave back. `Journal.Tells` writes the decision down: the first call
to configure settles whether there is a size, the first teardown after it ends the life, and between the
two the last frame that was drawn is all that counts. `tells_after` proves it of every history.

The proof carries one invariant along, `Told`: the lifecycle of a renderer against the first call to
configure and everything noted after it. Most calls leave both sides as they are (`told_append_quiet`).
-/

namespace FrameTransition.Render

/-- What is seen of a renderer, told from the journal of its calls. -/
structure Journal.Tells (config : Config) (journal : Journal) (renderer : Renderer) : Prop where
  /-- It was never configured. -/
  uninitialized_iff : renderer.state = .uninitialized ↔ ∀ entry ∈ journal, entry.isConfigure = false
  /-- The first call to configure failed. -/
  failed_iff : renderer.state = .failed ↔
    ∃ first error, journal.configuring? = some first ∧ first.result = .error error
  /-- The first call to configure succeeded, and a teardown was called after it. -/
  destroyed_iff : renderer.state = .destroyed ↔
    ∃ first, journal.configuring? = some first ∧ first.result = .ok () ∧
      ∃ entry ∈ first.later, entry.isTeardown = true
  /-- It succeeded, no teardown was called after it, and no call since has drawn a frame. -/
  ready_iff : renderer.state = .ready ↔
    ∃ first, journal.configuring? = some first ∧ first.result = .ok () ∧
      (∀ entry ∈ first.later, entry.isTeardown = false) ∧ ∀ entry ∈ first.later, entry.drawnAt? = none
  /-- It succeeded, no teardown was called after it, and some call since has drawn a frame. -/
  rendering_iff : renderer.state = .rendering ↔
    ∃ first, journal.configuring? = some first ∧ first.result = .ok () ∧
      (∀ entry ∈ first.later, entry.isTeardown = false) ∧
      ∃ entry ∈ first.later, ∃ seconds, entry.drawnAt? = some seconds
  /-- The size is that of the first call to configure, while the renderer is ready or rendering. -/
  dimensions_iff : ∀ {width height : Nat}, renderer.dimensions = some (width, height) ↔
    (renderer.state = .ready ∨ renderer.state = .rendering) ∧
      ∃ first, journal.configuring? = some first ∧ first.width = width ∧ first.height = height
  /-- The progress is that at the time of the frame drawn last, while the renderer is rendering. -/
  progress_iff : ∀ {progress : Number}, renderer.progress = some progress ↔
    renderer.state = .rendering ∧
      ∃ first seconds, journal.configuring? = some first ∧
        first.later.lastDrawnAt? = some seconds ∧ config.progressAt seconds = progress

namespace Renderer

/-! ## The invariant -/

/-- A lifecycle, told from the first call to configure and what was noted after it. -/
inductive Told (config : Config) : Option Configuring → Lifecycle → Prop
  | uninitialized : Told config none .uninitialized
  | failed {first : Configuring} {error : TransitionError} (hresult : first.result = .error error) :
      Told config (some first) .failed
  | active {first : Configuring} {active : Active} (hresult : first.result = .ok ())
      (hkept : first.later.tornDown = false) (hwidth : active.width = first.width)
      (hheight : active.height = first.height)
      (hframes : active.frames = 0 ↔ first.later.lastDrawnAt? = none)
      (hprogress : ∀ {seconds}, first.later.lastDrawnAt? = some seconds →
        active.progress = config.progressAt seconds) :
      Told config (some first) (.active active)
  | destroyed {first : Configuring} (hresult : first.result = .ok ())
      (htorn : first.later.tornDown = true) :
      Told config (some first) .destroyed

variable {config : Config} {compile : Shader.Compiler} {answers : Answers} {past : Journal}
  {entry : Entry} {lifecycle : Lifecycle}

/-- A call that draws nothing and does not get through to the lifecycle leaves what is told of it. -/
theorem told_append_quiet (h : Told config past.configuring? lifecycle)
    (hconfigure : lifecycle = .uninitialized → entry.isConfigure = false)
    (hteardown : ∀ active, lifecycle = .active active → entry.isTeardown = false)
    (hdrawn : entry.drawnAt? = none) :
    Told config (Journal.configuring? (past ++ [entry])) lifecycle := by
  rw [Journal.configuring?_append]
  generalize past.configuring? = first at h
  cases h with
  | uninitialized =>
    have hnone : Journal.configuring? [entry] = none :=
      Journal.configuring?_cons_of_not_isConfigure (hconfigure rfl) []
    rw [hnone]
    exact .uninitialized
  | failed hresult => exact .failed hresult
  | active hresult hkept hwidth hheight hframes hprogress =>
    have hlast : ∀ later : Journal, Journal.lastDrawnAt? (later ++ [entry]) = later.lastDrawnAt? := by
      intro later
      rw [Journal.lastDrawnAt?_append_singleton, hdrawn, Option.none_or]
    refine .active hresult ?_ hwidth hheight ?_ ?_
    · rw [Journal.tornDown_append_singleton, hkept, hteardown _ rfl]
      rfl
    · rw [hlast]
      exact hframes
    · rw [hlast]
      exact hprogress
  | destroyed hresult htorn =>
    refine .destroyed hresult ?_
    rw [Journal.tornDown_append_singleton, htorn, Bool.true_or]

/-- Every step keeps what is told, and the configuration. -/
theorem told_of_step {before after : Renderer} (hstep : Step compile answers before entry after)
    (h : before.config = config ∧ Told config past.configuring? before.lifecycle) :
    after.config = config ∧ Told config (Journal.configuring? (past ++ [entry])) after.lifecycle := by
  obtain ⟨rfl, h⟩ := h
  cases hstep with
  | configured hbuilt =>
    refine ⟨rfl, ?_⟩
    rw [Journal.configuring?_append]
    generalize past.configuring? = first at h
    cases h with
    | uninitialized => exact .active rfl rfl rfl rfl (iff_of_true rfl rfl) (fun h => nomatch h)
  | spoiled hbuilt =>
    refine ⟨rfl, ?_⟩
    rw [Journal.configuring?_append]
    generalize past.configuring? = first at h
    cases h with
    | uninitialized => exact .failed rfl
  | reconfigured hused => exact ⟨rfl, told_append_quiet h (absurd · hused) (fun _ _ => rfl) rfl⟩
  | refused hdrawing hnothing =>
    exact ⟨rfl, told_append_quiet h (fun _ => Entry.isConfigure_of_isDrawing hdrawing)
      (fun _ _ => Entry.isTeardown_of_isDrawing hdrawing) hnothing⟩
  | lost hdrawing hnothing =>
    refine ⟨rfl, ?_⟩
    have hquiet := told_append_quiet h (fun _ => Entry.isConfigure_of_isDrawing hdrawing)
      (fun _ _ => Entry.isTeardown_of_isDrawing hdrawing) hnothing
    generalize Journal.configuring? (past ++ [entry]) = first at hquiet
    cases hquiet with
    | active hresult hkept hwidth hheight hframes hprogress =>
      exact .active hresult hkept hwidth hheight hframes hprogress
  | drawn hdrawing hdrawn =>
    refine ⟨rfl, ?_⟩
    rw [Journal.configuring?_append]
    generalize past.configuring? = first at h
    cases h with
    | active hresult hkept hwidth hheight hframes hprogress =>
      refine .active hresult ?_ hwidth hheight ?_ ?_
      · rw [Journal.tornDown_append_singleton, hkept, Entry.isTeardown_of_isDrawing hdrawing]
        rfl
      · rw [Journal.lastDrawnAt?_append_singleton, hdrawn, Option.some_or]
        exact iff_of_false (Nat.succ_ne_zero _) (Option.some_ne_none _)
      · rw [Journal.lastDrawnAt?_append_singleton, hdrawn, Option.some_or]
        intro seconds hseconds
        rw [Option.some.inj hseconds]
  | tornDown =>
    refine ⟨rfl, ?_⟩
    rw [Journal.configuring?_append]
    generalize past.configuring? = first at h
    cases h with
    | active hresult =>
      refine .destroyed hresult ?_
      rw [Journal.tornDown_append_singleton]
      exact Bool.or_true _
  | idle hinactive =>
    exact ⟨rfl, told_append_quiet h (fun _ => rfl) (fun active hactive => absurd hactive (hinactive active))
      rfl⟩

/-- What is told is so in every history. -/
theorem told_after (compile : Shader.Compiler) (config : Config) (turns : List Turn) :
    ((new config).after compile turns).config = config ∧
      Told config ((new config).journal compile turns).configuring?
        ((new config).after compile turns).lifecycle :=
  invariant_after compile
    (fun journal renderer => renderer.config = config ∧ Told config journal.configuring? renderer.lifecycle)
    told_of_step ⟨rfl, .uninitialized⟩ turns

/-! ## What is seen -/

/-- What is told of the lifecycle decides everything that is seen. -/
theorem tells_of_told {journal : Journal} {renderer : Renderer}
    (h : Told config journal.configuring? renderer.lifecycle) : journal.Tells config renderer := by
  obtain ⟨config', lifecycle⟩ := renderer
  generalize hfirst : journal.configuring? = first at h
  -- Every lifecycle decides all seven; what is said of the later entries goes back to the two readers.
  cases h with
  | uninitialized =>
    constructor <;>
      simp [state, dimensions, progress, hfirst, ← Journal.configuring?_eq_none_iff]
  | failed hresult =>
    constructor <;>
      simp [state, dimensions, progress, hfirst, hresult, ← Journal.configuring?_eq_none_iff]
  | @active first active hresult hkept hwidth hheight hframes hprogress =>
    rcases Nat.eq_zero_or_pos active.frames with hnone | hsome
    · have hlast := hframes.mp hnone
      constructor <;>
        simp [state, dimensions, progress, hfirst, hresult, hnone, hlast, hkept, hwidth, hheight,
          ← Journal.configuring?_eq_none_iff, ← Journal.tornDown_eq_true_iff,
          ← Journal.tornDown_eq_false_iff, ← Journal.lastDrawnAt?_eq_none_iff,
          ← Journal.lastDrawnAt?_ne_none_iff]
    · obtain ⟨seconds, hlast⟩ :=
        Option.ne_none_iff_exists'.mp (mt hframes.mpr (Nat.ne_of_gt hsome))
      constructor <;>
        simp [state, dimensions, progress, hfirst, hresult, Nat.ne_of_gt hsome, hlast, hprogress hlast,
          hkept, hwidth, hheight, ← Journal.configuring?_eq_none_iff,
          ← Journal.tornDown_eq_true_iff, ← Journal.tornDown_eq_false_iff,
          ← Journal.lastDrawnAt?_eq_none_iff, ← Journal.lastDrawnAt?_ne_none_iff]
  | destroyed hresult htorn =>
    constructor <;>
      simp [state, dimensions, progress, hfirst, hresult, htorn, ← Journal.configuring?_eq_none_iff,
        ← Journal.tornDown_eq_true_iff, ← Journal.tornDown_eq_false_iff]

/-- A renderer with a first call to configure is not a new one any more. -/
theorem lifecycle_ne_uninitialized {first : Configuring} (h : Told config (some first) lifecycle) :
    lifecycle ≠ .uninitialized := by
  cases h <;> exact Lifecycle.noConfusion

/-- A renderer is configured once. -/
theorem configure_of_used {renderer : Renderer} (h : renderer.lifecycle ≠ .uninitialized)
    (width height : Nat) :
    renderer.configure compile width height =
      return (.error (.alreadyConfigured renderer.state), renderer) := by
  unfold configure
  split
  · next hnew => exact absurd hnew h
  · rfl

theorem teardown_of_inactive {renderer : Renderer} (hready : renderer.state ≠ .ready)
    (hrendering : renderer.state ≠ .rendering) : renderer.teardown = renderer := by
  unfold teardown
  split
  · next active hactive =>
    rcases state_of_active hactive with hstate | hstate
    · exact absurd hstate hready
    · exact absurd hstate hrendering
  · rfl

theorem state_eq_failed_iff {renderer : Renderer} :
    renderer.state = .failed ↔ renderer.lifecycle = .failed := by
  unfold state
  cases renderer.lifecycle with
  | active active => by_cases hframes : active.frames = 0 <;> simp [hframes]
  | uninitialized | failed | destroyed => simp

/-- Nothing leads out of the failed state. -/
theorem state_after_of_failed {renderer : Renderer} (h : renderer.state = .failed) (turns : List Turn) :
    (renderer.after compile turns).state = .failed := by
  rw [state_eq_failed_iff] at h ⊢
  refine @invariant_append compile (fun _ renderer => renderer.lifecycle = .failed) ?_ [] renderer h turns
  intro answers past before entry after hstep hfailed
  cases hstep with
  | configured | spoiled | lost | drawn | tornDown => cases hfailed
  | reconfigured | refused | idle => exact hfailed

/-- In every history, what is seen of a renderer is told by its calls: the state, the dimensions and the
progress as `Journal.Tells` has them. A failed renderer stays failed. Every call to configure after the
first is refused with the state there was, and a teardown where there is nothing to tear down does
nothing. -/
theorem tells_after (compile : Shader.Compiler) (config : Config) (turns : List Turn) :
    let renderer := (new config).after compile turns
    let journal := (new config).journal compile turns
    journal.Tells config renderer ∧
    (renderer.state = .failed → ∀ more, (renderer.after compile more).state = .failed) ∧
    (∀ first, journal.configuring? = some first → ∀ width height answers,
      (renderer.configure compile width height).run answers =
          (.error (.alreadyConfigured renderer.state), renderer) ∧
        (renderer.configure compile width height).trace answers = []) ∧
    (renderer.state ≠ .ready → renderer.state ≠ .rendering → renderer.teardown = renderer) := by
  intro renderer journal
  obtain ⟨-, htold⟩ := told_after compile config turns
  refine ⟨tells_of_told htold, fun hfailed more => state_after_of_failed hfailed more, ?_,
    teardown_of_inactive⟩
  intro first hfirst width height answers
  have hused : renderer.lifecycle ≠ .uninitialized := by
    have htold' : Told config journal.configuring? renderer.lifecycle := htold
    rw [hfirst] at htold'
    exact lifecycle_ne_uninitialized htold'
  rw [configure_of_used hused]
  exact ⟨rfl, rfl⟩

/-- Configured, drawn with, and configured again in vain. -/
example :
    let position : Shader.Argument := ⟨some "position", .scalar .float32, some (.location 0)⟩
    let compile : Shader.Compiler := fun kind _ =>
      .ok ⟨[⟨"main", kind, [position], some ⟨position.type, position.binding⟩⟩], []⟩
    let answers : Answers := fun
      | .readFile _ | .start _ => .error .notFound
      | .createDirectories _ | .writeFile _ _ | .handleInterrupts | .acquire _ _ => .ok ()
      | .draw drawing => .ok (.blank drawing.target.size)
    let calls : List Call := [.configure 2 1, .render (.blank 2 1) (.real 1), .configure 4 4]
    let renderer := (new .default).after compile (calls.map fun call => ⟨call, answers⟩)
    renderer.state = .rendering ∧ renderer.dimensions = some (2, 1) ∧
      renderer.progress = some (.real 1) := by
  decide +kernel

end Renderer

end FrameTransition.Render
