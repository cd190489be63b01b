import FrameTransition.Proofs.Render.Setup
import FrameTransition.Proofs.Render.Step

/-!
# What configuring promises

`ConfigureContract` is what the owner of a new renderer can rely on when it is configured: which of
several faults is reported, what is not asked any more after it, and what is left of the renderer.
`AskedOnce` is about the whole life: the file of the snippet is read at most once and a device is
acquired at most once, for the size of the first call to configure. `configure_contract` proves the two
of every history.

That nothing is asked twice is an invariant on the journal (`Asked`): apart from drawings, everything
that was ever asked was asked by the first call to configure. Within that call nothing is asked twice
because no step is performed twice.
-/

namespace FrameTransition

/-! ## Kinds of requests -/

namespace Request

def isReadFile : Request → Bool
  | readFile _ => true
  | _ => false

def isAcquire : Request → Bool
  | acquire _ _ => true
  | _ => false

def isDraw : Request → Bool
  | draw _ => true
  | _ => false

theorem isDraw_of_isReadFile (request : Request) (h : request.isReadFile = true) :
    request.isDraw = false := by
  cases request with
  | draw drawing => cases h
  | readFile | createDirectories | writeFile | start | handleInterrupts | acquire => rfl

theorem isDraw_of_isAcquire (request : Request) (h : request.isAcquire = true) :
    request.isDraw = false := by
  cases request with
  | draw drawing => cases h
  | readFile | createDirectories | writeFile | start | handleInterrupts | acquire => rfl

end Request

namespace Render

/-! ## Configuring a new renderer -/

/-- The steps before a step. -/
def SetupStep.before (step : SetupStep) : List SetupStep :=
  SetupStep.all.takeWhile (· ≠ step)

theorem SetupStep.mem_all (step : SetupStep) : step ∈ SetupStep.all := by
  cases step <;> decide

/-- Every other step comes before the device. -/
theorem SetupStep.mem_before_device {step : SetupStep} (h : step ≠ .device) :
    step ∈ SetupStep.before .device := by
  cases step with
  | device => exact absurd rfl h
  | size | snippet | vertex | fragment | link | uniforms => decide

theorem SetupStep.ne_of_mem_before {earlier step : SetupStep} (h : earlier ∈ step.before) :
    earlier ≠ step := by
  rintro rfl
  revert h
  cases earlier <;> decide

/-- What one call to configure a new renderer promises. -/
structure ConfigureContract (setup : Setup) (result : Except TransitionError Unit) (after : Renderer)
    (requests : List Request) : Prop where
  ok_iff : result = .ok () ↔ ∀ step, setup.Passes step
  /-- Of several faults the first is reported. -/
  error_iff : ∀ {error : TransitionError}, result = .error error ↔
    ∃ step, setup.Fails step error ∧ ∀ earlier ∈ step.before, setup.Passes earlier
  /-- The file of the snippet is read where there is something to draw. -/
  read_iff : ∀ {path : Path}, .readFile path ∈ requests ↔
    setup.config.source = .file path ∧ 0 < setup.width ∧ 0 < setup.height
  /-- A device is asked for once every other step has passed. -/
  acquire_iff : ∀ {width height : Nat}, .acquire width height ∈ requests ↔
    width = setup.width ∧ height = setup.height ∧ ∀ step, step ≠ .device → setup.Passes step
  /-- Nothing else is asked, nothing twice, and the device comes last. -/
  requests_sublist : requests.Sublist (setup.asks .snippet ++ [.acquire setup.width setup.height])
  /-- A device with limits refuses what does not fit them, and nothing else is refused in its words. -/
  contextCreationFailed_iff : ∀ limits : Limits,
    setup.answers (.acquire setup.width setup.height) = limits.checkSize setup.width setup.height →
    ((∃ reason, result = .error (.contextCreationFailed reason)) ↔
      (∀ step, step ≠ .device → setup.Passes step) ∧
        ∃ error, limits.checkSize setup.width setup.height = .error error)
  failed_of_error : ∀ {error : TransitionError}, result = .error error →
    after.state = .failed ∧ after.dimensions = none ∧ after.progress = none
  ready_of_ok : result = .ok () →
    after.state = .ready ∧ after.dimensions = some (setup.width, setup.height) ∧ after.progress = none

namespace Setup

variable {setup : Setup} {step : SetupStep} {error : TransitionError}

theorem outcome_all_eq_ok_iff : setup.plan.outcome SetupStep.all = .ok () ↔ ∀ step, setup.Passes step := by
  rw [Steps.outcome_eq_ok_iff]
  simp only [passes_iff]
  exact ⟨fun h step => h step step.mem_all, fun h step _ => h step⟩

theorem outcome_all_eq_error_iff : setup.plan.outcome SetupStep.all = .error error ↔
    ∃ step, setup.Fails step error ∧ ∀ earlier ∈ step.before, setup.Passes earlier := by
  rw [Steps.outcome_eq_error_iff]
  simp only [fails_iff, passes_iff]
  constructor
  · rintro ⟨step, -, hstep⟩
    exact ⟨step, hstep⟩
  · rintro ⟨step, hstep⟩
    exact ⟨step, step.mem_all, hstep⟩

/-- The steps that are performed are those that no failing step is before. -/
theorem mem_performed_iff :
    step ∈ setup.plan.performed SetupStep.all ↔ ∀ earlier ∈ step.before, setup.Passes earlier := by
  simp only [passes_iff]
  exact ⟨Steps.passed_of_mem_performed, @Steps.mem_performed_of_passed _ _ setup.plan _ _ _ step.mem_all⟩

/-- What is asked is asked by a step that is performed, and so every step before that has passed. -/
theorem asked_iff {request : Request} :
    request ∈ (setup.plan.performed SetupStep.all).flatMap setup.asks ↔
      ∃ step, request ∈ setup.asks step ∧ ∀ earlier ∈ step.before, setup.Passes earlier := by
  rw [List.mem_flatMap]
  simp only [mem_performed_iff, and_comm]

/-- Only two steps ask anything. -/
theorem mem_asks_iff {request : Request} : request ∈ setup.asks step ↔
    (step = .snippet ∧ ∃ path, setup.config.source = .file path ∧ request = .readFile path) ∨
      (step = .device ∧ request = .acquire setup.width setup.height) := by
  cases step with
  | snippet =>
    unfold asks
    cases hsource : setup.config.source with
    | builtin | inline text => simp
    | file path => simp
  | device => simp [asks]
  | size | vertex | fragment | link | uniforms => simp [asks]

/-- Each of the steps is there once, and two of them ask. -/
theorem flatMap_asks (setup : Setup) : SetupStep.all.flatMap setup.asks =
    setup.asks .snippet ++ [.acquire setup.width setup.height] := by
  simp [SetupStep.all, asks]

/-- Whatever is performed, no more is asked than by all the steps. -/
theorem asked_sublist (setup : Setup) :
    ((setup.plan.performed SetupStep.all).flatMap setup.asks).Sublist (SetupStep.all.flatMap setup.asks) := by
  obtain ⟨rest, hrest⟩ := setup.plan.performed_isPrefix SetupStep.all
  have hsplit := congrArg (List.flatMap setup.asks) hrest
  rw [List.flatMap_append] at hsplit
  rw [← hsplit]
  exact List.sublist_append_left _ _

/-- No step but the device's has its kind of error. -/
theorem eq_device_of_fails {reason : String} (h : setup.Fails step (.contextCreationFailed reason)) :
    step = .device := by
  cases h
  rfl

/-- A size that passes has pixels. -/
theorem passes_size_iff : setup.Passes .size ↔ 0 < setup.width ∧ 0 < setup.height := by
  constructor
  · intro h
    by_contra hzero
    exact h _ (.size (by omega))
  · rintro ⟨hwidth, hheight⟩ error ⟨hzero⟩
    omega

end Setup

/-- Limits have one kind of refusal. -/
theorem Limits.eq_of_checkSize_error {limits : Limits} {width height : Nat} {error : TransitionError}
    (h : limits.checkSize width height = .error error) :
    ∃ reason, error = .contextCreationFailed reason := by
  unfold checkSize at h
  split at h
  · cases h
    exact ⟨_, rfl⟩
  · dsimp only at h
    split at h
    · cases h
      exact ⟨_, rfl⟩
    · cases h

namespace Renderer

variable {setup : Setup}

/-- Configuring a new renderer keeps what the steps come to. -/
theorem run_configure_new_of_ok (h : setup.plan.outcome SetupStep.all = .ok ()) : ∃ resources,
    ((new setup.config).configure setup.compile setup.width setup.height).run setup.answers =
      (.ok (), ⟨setup.config, .active (.start setup.width setup.height resources)⟩) := by
  have hsteps := setup.follows_build.run_eq.trans h
  unfold configure new
  simp only [Session.run_bind]
  cases hbuilt : (build setup.compile setup.config setup.width setup.height).run.run setup.answers with
  | error error =>
    rw [hbuilt] at hsteps
    cases hsteps
  | ok resources => exact ⟨resources, rfl⟩

theorem run_configure_new_of_error {error : TransitionError}
    (h : setup.plan.outcome SetupStep.all = .error error) :
    ((new setup.config).configure setup.compile setup.width setup.height).run setup.answers =
      (.error error, ⟨setup.config, .failed⟩) := by
  have hsteps := setup.follows_build.run_eq.trans h
  unfold configure new
  simp only [Session.run_bind]
  cases hbuilt : (build setup.compile setup.config setup.width setup.height).run.run setup.answers with
  | error found =>
    rw [hbuilt] at hsteps
    cases hsteps
    rfl
  | ok resources =>
    rw [hbuilt] at hsteps
    cases hsteps

theorem trace_configure_new :
    ((new setup.config).configure setup.compile setup.width setup.height).trace setup.answers =
      (setup.plan.performed SetupStep.all).flatMap setup.asks := by
  unfold configure new
  simp only [Session.trace_bind]
  rw [setup.follows_build.trace_eq]
  cases (build setup.compile setup.config setup.width setup.height).run.run setup.answers with
  | error | ok => exact List.append_nil _

/-- The contract of configuring. -/
theorem configureContract (setup : Setup) :
    let call := (new setup.config).configure setup.compile setup.width setup.height
    ConfigureContract setup (call.run setup.answers).1 (call.run setup.answers).2
      (call.trace setup.answers) := by
  intro call
  have hresult : (call.run setup.answers).1 = setup.plan.outcome SetupStep.all := by
    cases houtcome : setup.plan.outcome SetupStep.all with
    | ok =>
      obtain ⟨resources, hrun⟩ := run_configure_new_of_ok houtcome
      exact congrArg Prod.fst hrun
    | error error => exact congrArg Prod.fst (run_configure_new_of_error houtcome)
  have hrequests : call.trace setup.answers = (setup.plan.performed SetupStep.all).flatMap setup.asks :=
    trace_configure_new
  constructor
  case ok_iff => rw [hresult, Setup.outcome_all_eq_ok_iff]
  case error_iff =>
    intro error
    rw [hresult, Setup.outcome_all_eq_error_iff]
  case read_iff =>
    intro path
    rw [hrequests, Setup.asked_iff]
    constructor
    · rintro ⟨step, hasked, hpassed⟩
      rcases Setup.mem_asks_iff.mp hasked with ⟨rfl, other, hsource, heq⟩ | ⟨-, heq⟩
      · cases heq
        exact ⟨hsource, Setup.passes_size_iff.mp (hpassed .size (by decide))⟩
      · cases heq
    · rintro ⟨hsource, hpos⟩
      refine ⟨.snippet, Setup.mem_asks_iff.mpr (.inl ⟨rfl, path, hsource, rfl⟩), ?_⟩
      intro earlier hearlier
      obtain rfl : earlier = .size := by simpa [SetupStep.before, SetupStep.all] using hearlier
      exact Setup.passes_size_iff.mpr hpos
  case acquire_iff =>
    intro width height
    rw [hrequests, Setup.asked_iff]
    constructor
    · rintro ⟨step, hasked, hpassed⟩
      rcases Setup.mem_asks_iff.mp hasked with ⟨-, path, -, heq⟩ | ⟨rfl, heq⟩
      · cases heq
      · cases heq
        exact ⟨rfl, rfl, fun earlier hearlier => hpassed earlier (SetupStep.mem_before_device hearlier)⟩
    · rintro ⟨rfl, rfl, hpassed⟩
      exact ⟨.device, Setup.mem_asks_iff.mpr (.inr ⟨rfl, rfl⟩), fun earlier hearlier =>
        hpassed earlier (SetupStep.ne_of_mem_before hearlier)⟩
  case requests_sublist =>
    rw [hrequests, ← Setup.flatMap_asks]
    exact setup.asked_sublist
  case contextCreationFailed_iff =>
    intro limits hlimits
    rw [hresult]
    constructor
    · rintro ⟨reason, herror⟩
      obtain ⟨step, hstep, hpassed⟩ := Setup.outcome_all_eq_error_iff.mp herror
      obtain rfl := Setup.eq_device_of_fails hstep
      refine ⟨fun earlier hearlier => hpassed earlier (SetupStep.mem_before_device hearlier), ?_⟩
      cases hstep with
      | device hrefused => exact ⟨.contextCreationFailed reason, hlimits.symm.trans hrefused⟩
    · rintro ⟨hpassed, error, herror⟩
      obtain ⟨reason, rfl⟩ := Limits.eq_of_checkSize_error herror
      refine ⟨reason, Setup.outcome_all_eq_error_iff.mpr ⟨.device, .device (hlimits.trans herror), ?_⟩⟩
      intro earlier hearlier
      exact hpassed earlier (SetupStep.ne_of_mem_before hearlier)
  case failed_of_error =>
    intro error herror
    rw [hresult] at herror
    rw [run_configure_new_of_error herror]
    exact ⟨rfl, rfl, rfl⟩
  case ready_of_ok =>
    intro hok
    rw [hresult] at hok
    obtain ⟨resources, hrun⟩ := run_configure_new_of_ok hok
    rw [hrun]
    exact ⟨rfl, rfl, rfl⟩

/-! ## The whole life -/

/-- What was asked so far, told from the first call to configure. -/
inductive Asked (compile : Shader.Compiler) (config : Config) : Journal → Lifecycle → Prop
  /-- Nothing yet. -/
  | nothing {journal : Journal} (hnone : journal.configuring? = none) (hsilent : journal.requests = []) :
      Asked compile config journal .uninitialized
  /-- What the first call to configure asked, and drawings. -/
  | once {journal : Journal} {lifecycle : Lifecycle} {first : Configuring} {answers : Answers}
      (hfirst : journal.configuring? = some first) (hused : lifecycle ≠ .uninitialized)
      (hrequests : first.requests = (build compile config first.width first.height).run.trace answers)
      (hothers : journal.requests.filter (!·.isDraw) = first.requests) :
      Asked compile config journal lifecycle

variable {compile : Shader.Compiler} {config : Config} {answers : Answers} {past : Journal}
  {entry : Entry} {lifecycle : Lifecycle}

/-- What configuring asks are no drawings. -/
theorem filter_build (width height : Nat) :
    ((build compile config width height).run.trace answers).filter (!·.isDraw) =
      (build compile config width height).run.trace answers := by
  have htrace := (Setup.mk compile config width height answers).follows_build.trace_eq
  refine List.filter_eq_self.mpr fun request hasked => ?_
  rw [htrace] at hasked
  obtain ⟨step, hstep, -⟩ := Setup.asked_iff.mp hasked
  rcases Setup.mem_asks_iff.mp hstep with ⟨-, path, -, rfl⟩ | ⟨-, rfl⟩
  · rfl
  · rfl

/-- A call that is not the first to configure adds drawings only. -/
theorem asked_append (h : Asked compile config past lifecycle) {after : Lifecycle}
    (hused : after = .uninitialized ↔ lifecycle = .uninitialized)
    (hconfigure : lifecycle = .uninitialized → entry.isConfigure = false ∧ entry.requests = [])
    (hrequests : entry.requests.filter (!·.isDraw) = []) :
    Asked compile config (past ++ [entry]) after := by
  cases h with
  | nothing hnone hsilent =>
    obtain ⟨hother, hquiet⟩ := hconfigure rfl
    rw [hused.mpr rfl]
    refine .nothing ?_ ?_
    · rw [Journal.configuring?_append, hnone]
      exact Journal.configuring?_cons_of_not_isConfigure hother []
    · rw [Journal.requests_append_singleton, hsilent, hquiet]
      rfl
  | @once _ first _ hfirst hkept hbuilt hothers =>
    have hnext : Journal.configuring? (past ++ [entry]) =
        some { first with later := first.later ++ [entry] } := by
      rw [Journal.configuring?_append, hfirst]
    refine .once hnext (mt hused.mp hkept) hbuilt ?_
    rw [Journal.requests_append_singleton, List.filter_append, hothers, hrequests]
    exact List.append_nil _

/-- The first call to configure asks what it builds with. -/
theorem asked_configure (h : Asked compile config past .uninitialized) {width height : Nat}
    (result : Except TransitionError Unit) {after : Lifecycle} (hused : after ≠ .uninitialized) :
    let requests := (build compile config width height).run.trace answers
    Asked compile config (past ++ [⟨.configure width height, result, requests⟩]) after := by
  intro requests
  cases h with
  | nothing hnone hsilent =>
    have hfirst : Journal.configuring? (past ++ [⟨.configure width height, result, requests⟩]) =
        some ⟨width, height, result, requests, []⟩ := by
      rw [Journal.configuring?_append, hnone]
      rfl
    refine .once hfirst hused rfl ?_
    rw [Journal.requests_append_singleton, hsilent]
    exact filter_build width height
  | once _ hkept => exact absurd rfl hkept

theorem asked_of_step {before after : Renderer} (hstep : Step compile answers before entry after)
    (h : before.config = config ∧ Asked compile config past before.lifecycle) :
    after.config = config ∧ Asked compile config (past ++ [entry]) after.lifecycle := by
  obtain ⟨rfl, h⟩ := h
  cases hstep with
  | configured hbuilt => exact ⟨rfl, asked_configure h _ Lifecycle.noConfusion⟩
  | spoiled hbuilt => exact ⟨rfl, asked_configure h _ Lifecycle.noConfusion⟩
  | reconfigured hused => exact ⟨rfl, asked_append h Iff.rfl (absurd · hused) rfl⟩
  | refused hdrawing _ hsilent =>
    refine ⟨rfl, asked_append h Iff.rfl ?_ ?_⟩
    · exact fun _ => ⟨Entry.isConfigure_of_isDrawing hdrawing, hsilent⟩
    · rw [hsilent]
      rfl
  | lost _ _ hasked | drawn _ _ hasked =>
    refine ⟨rfl, asked_append h (iff_of_false Lifecycle.noConfusion Lifecycle.noConfusion) ?_ ?_⟩
    · exact fun hnew => nomatch hnew
    · rw [hasked]
      rfl
  | tornDown =>
    exact ⟨rfl, asked_append h (iff_of_false Lifecycle.noConfusion Lifecycle.noConfusion)
      (fun hnew => nomatch hnew) rfl⟩
  | idle => exact ⟨rfl, asked_append h Iff.rfl (fun _ => ⟨rfl, rfl⟩) rfl⟩

/-- What is told of the requests is so in every history. -/
theorem asked_after (compile : Shader.Compiler) (config : Config) (turns : List Turn) :
    ((new config).after compile turns).config = config ∧
      Asked compile config ((new config).journal compile turns)
        ((new config).after compile turns).lifecycle :=
  invariant_after compile
    (fun journal renderer => renderer.config = config ∧ Asked compile config journal renderer.lifecycle)
    asked_of_step ⟨rfl, .nothing rfl rfl⟩ turns

end Renderer

/-- Over a life, the source's file is read at most once and a device acquired at most once, for the size
of the first call to configure. Whatever else was asked is a drawing. -/
structure AskedOnce (config : Config) (journal : Journal) : Prop where
  readFile_le_one : journal.requests.countP (·.isReadFile) ≤ 1
  source_of_readFile : ∀ {path : Path}, .readFile path ∈ journal.requests → config.source = .file path
  acquire_le_one : journal.requests.countP (·.isAcquire) ≤ 1
  size_of_acquire : ∀ {width height : Nat}, .acquire width height ∈ journal.requests →
    ∃ first, journal.configuring? = some first ∧ first.width = width ∧ first.height = height
  asked_by_first : ∀ request ∈ journal.requests, request.isDraw = false →
    ∃ first, journal.configuring? = some first ∧ request ∈ first.requests

namespace Setup

variable (setup : Setup)

theorem countP_isReadFile_asks : (SetupStep.all.flatMap setup.asks).countP (·.isReadFile) ≤ 1 := by
  rw [flatMap_asks]
  unfold asks
  cases setup.config.source <;> simp [Request.isReadFile]

theorem countP_isAcquire_asks : (SetupStep.all.flatMap setup.asks).countP (·.isAcquire) ≤ 1 := by
  rw [flatMap_asks]
  unfold asks
  cases setup.config.source <;> simp [Request.isAcquire]

end Setup

namespace Renderer

/-- What is asked once in the first call to configure is asked once in a life. -/
theorem askedOnce_of_asked {compile : Shader.Compiler} {config : Config} {journal : Journal}
    {lifecycle : Lifecycle} (h : Asked compile config journal lifecycle) : AskedOnce config journal := by
  cases h with
  | nothing hnone hsilent => constructor <;> simp [hsilent]
  | @once _ first answers hfirst hused hrequests hothers =>
    have hasks : first.requests.Sublist (SetupStep.all.flatMap
        (Setup.mk compile config first.width first.height answers).asks) := by
      rw [hrequests, (Setup.mk compile config first.width first.height answers).follows_build.trace_eq]
      exact Setup.asked_sublist _
    have hcount {kind : Request → Bool} (hkind : ∀ request, kind request = true → request.isDraw = false) :
        journal.requests.countP kind = first.requests.countP kind := by
      rw [← hothers, List.countP_filter]
      refine List.countP_congr fun request _ => ?_
      cases hrequest : kind request with
      | false => rfl
      | true => simp [hkind request hrequest]
    have hmem {request : Request} (hrequest : request ∈ journal.requests)
        (hdraw : request.isDraw = false) : request ∈ first.requests := by
      rw [← hothers]
      exact List.mem_filter.mpr ⟨hrequest, by rw [hdraw]; rfl⟩
    have hkind {request : Request} (hrequest : request ∈ journal.requests)
        (hdraw : request.isDraw = false) :
        (∃ path, config.source = .file path ∧ request = .readFile path) ∨
          request = .acquire first.width first.height := by
      obtain ⟨step, -, hstep⟩ := List.mem_flatMap.mp (hasks.mem (hmem hrequest hdraw))
      rcases Setup.mem_asks_iff.mp hstep with ⟨-, hread⟩ | ⟨-, hacquire⟩
      · exact .inl hread
      · exact .inr hacquire
    constructor
    case readFile_le_one =>
      rw [hcount Request.isDraw_of_isReadFile]
      exact hasks.countP_le.trans (Setup.countP_isReadFile_asks _)
    case source_of_readFile =>
      intro path hrequest
      rcases hkind hrequest rfl with ⟨other, hsource, heq⟩ | heq
      · cases heq
        exact hsource
      · cases heq
    case acquire_le_one =>
      rw [hcount Request.isDraw_of_isAcquire]
      exact hasks.countP_le.trans (Setup.countP_isAcquire_asks _)
    case size_of_acquire =>
      intro width height hrequest
      rcases hkind hrequest rfl with ⟨path, -, heq⟩ | heq
      · cases heq
      · cases heq
        exact ⟨first, hfirst, rfl, rfl⟩
    case asked_by_first =>
      intro request hrequest hdraw
      exact ⟨first, hfirst, hmem hrequest hdraw⟩

/-- The contracts of configuring, in every history: of the first call, and of all there were. -/
theorem configure_contract (compile : Shader.Compiler) (config : Config) (turns : List Turn) :
    let renderer := (new config).after compile turns
    (renderer.state = .uninitialized → ∀ width height answers,
      let call := renderer.configure compile width height
      ConfigureContract ⟨compile, config, width, height, answers⟩ (call.run answers).1
        (call.run answers).2 (call.trace answers)) ∧
    AskedOnce config ((new config).journal compile turns) := by
  intro renderer
  obtain ⟨hconfig, hasked⟩ := asked_after compile config turns
  refine ⟨fun hstate width height answers => ?_, askedOnce_of_asked hasked⟩
  have hnew : renderer = new config := by
    show Renderer.mk renderer.config renderer.lifecycle = new config
    rw [hconfig, lifecycle_of_uninitialized hstate]
    rfl
  rw [hnew]
  exact configureContract ⟨compile, config, width, height, answers⟩

end Renderer

end Render

end FrameTransition
