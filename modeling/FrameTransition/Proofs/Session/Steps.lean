import FrameTransition.Session

/-!
# Sessions that go step by step

A session often goes through steps in a fixed order and ends with the first that fails. `Steps` says of
each step on its own whether it fails and what it asks of the host, so that several can fail for the same
host; `Follows` says that a session does what a sequence of such steps does. Sessions that follow steps
one after the other follow all of them (`Follows.bind`), and of a session that follows steps it is known
which fault it ends in and what it has asked until then (`exists_fault`).
-/

namespace FrameTransition

/-- The error of what failed. -/
def errorOf? {ε α : Type} : Except ε α → Option ε
  | .error error => some error
  | .ok _ => none

theorem errorOf?_eq_some_iff {ε α : Type} {result : Except ε α} {error : ε} :
    errorOf? result = some error ↔ result = .error error := by
  cases result with
  | error found => simp [errorOf?]
  | ok value => simp [errorOf?]

theorem errorOf?_mapError {ε ε' α : Type} (wrap : ε → ε') (result : Except ε α) :
    errorOf? (result.mapError wrap) = (errorOf? result).map wrap := by
  cases result with
  | error | ok => rfl

theorem toOption_eq_some_iff {ε α : Type} {result : Except ε α} {value : α} :
    result.toOption = some value ↔ result = .ok value := by
  cases result with
  | error | ok => simp [Except.toOption]

/-- Whether a step fails, and what it asks of the host. -/
structure Steps (Step Fault : Type) where
  fault? : Step → Option Fault
  asks : Step → List Request

namespace Steps

variable {Step Fault : Type} (plan : Steps Step Fault)

/-- What a sequence of steps comes to: the fault of the first that fails. -/
def outcome (steps : List Step) : Except Fault Unit :=
  match steps.findSome? plan.fault? with
  | some fault => .error fault
  | none => .ok ()

/-- The steps of a sequence that are performed: those up to the first that fails, and that one. -/
def performed : List Step → List Step
  | [] => []
  | step :: steps =>
    match plan.fault? step with
    | some _ => [step]
    | none => step :: performed steps

variable {plan} {step : Step} {steps earlier later : List Step} {fault : Fault}

/-! ## From step to step -/

theorem outcome_cons_of_fault (h : plan.fault? step = some fault) :
    plan.outcome (step :: steps) = .error fault := by
  unfold outcome
  rw [List.findSome?_cons, h]

theorem outcome_cons_of_passed (h : plan.fault? step = none) :
    plan.outcome (step :: steps) = plan.outcome steps := by
  unfold outcome
  rw [List.findSome?_cons, h]

theorem performed_cons_of_fault (h : plan.fault? step = some fault) :
    plan.performed (step :: steps) = [step] := by
  rw [performed, h]

theorem performed_cons_of_passed (h : plan.fault? step = none) :
    plan.performed (step :: steps) = step :: plan.performed steps := by
  rw [performed, h]

theorem outcome_eq_ok_iff : plan.outcome steps = .ok () ↔ ∀ step ∈ steps, plan.fault? step = none := by
  unfold outcome
  rw [← List.findSome?_eq_none_iff]
  cases steps.findSome? plan.fault? with
  | none => exact iff_of_true rfl rfl
  | some fault => exact iff_of_false (fun h => nomatch h) (Option.some_ne_none fault)

/-- Where no step fails, all are performed. -/
theorem performed_of_ok (h : plan.outcome steps = .ok ()) : plan.performed steps = steps := by
  have hpassed := outcome_eq_ok_iff.mp h
  induction steps with
  | nil => rfl
  | cons step steps ih =>
    obtain ⟨hstep, hsteps⟩ := List.forall_mem_cons.mp hpassed
    rw [performed_cons_of_passed hstep, ih (outcome_eq_ok_iff.mpr hsteps) hsteps]

/-- Steps after others count only if those pass. -/
theorem append_of_ok (h : plan.outcome earlier = .ok ()) :
    plan.outcome (earlier ++ later) = plan.outcome later ∧
      plan.performed (earlier ++ later) = earlier ++ plan.performed later := by
  have hpassed := outcome_eq_ok_iff.mp h
  induction earlier with
  | nil => exact ⟨rfl, rfl⟩
  | cons step steps ih =>
    obtain ⟨hstep, hsteps⟩ := List.forall_mem_cons.mp hpassed
    obtain ⟨houtcome, hperformed⟩ := ih (outcome_eq_ok_iff.mpr hsteps) hsteps
    constructor
    · rw [List.cons_append, outcome_cons_of_passed hstep, houtcome]
    · rw [List.cons_append, performed_cons_of_passed hstep, hperformed, List.cons_append]

theorem append_of_error (h : plan.outcome earlier = .error fault) :
    plan.outcome (earlier ++ later) = .error fault ∧
      plan.performed (earlier ++ later) = plan.performed earlier := by
  induction earlier with
  | nil => cases h
  | cons step steps ih =>
    cases hstep : plan.fault? step with
    | some found =>
      rw [outcome_cons_of_fault hstep] at h
      rw [List.cons_append, outcome_cons_of_fault hstep, performed_cons_of_fault hstep,
        performed_cons_of_fault hstep]
      exact ⟨h, rfl⟩
    | none =>
      rw [outcome_cons_of_passed hstep] at h
      obtain ⟨houtcome, hperformed⟩ := ih h
      rw [List.cons_append, outcome_cons_of_passed hstep, performed_cons_of_passed hstep,
        performed_cons_of_passed hstep, hperformed]
      exact ⟨houtcome, rfl⟩

/-! ## What is performed -/

theorem performed_isPrefix (steps : List Step) : plan.performed steps <+: steps := by
  induction steps with
  | nil => exact List.prefix_rfl
  | cons step steps ih =>
    cases hfault : plan.fault? step with
    | some fault =>
      rw [performed_cons_of_fault hfault]
      exact ⟨steps, rfl⟩
    | none =>
      rw [performed_cons_of_passed hfault]
      exact (List.prefix_cons_inj step).mpr ih

theorem ne_of_passed_of_fault {passed : Step} (hpassed : plan.fault? passed = none)
    (h : plan.fault? step = some fault) : passed ≠ step := by
  rintro rfl
  cases hpassed.symm.trans h

section Order

variable [DecidableEq Step]

/-- What comes before a step that is performed has passed. -/
theorem passed_of_mem_performed (h : step ∈ plan.performed steps) :
    ∀ before ∈ steps.takeWhile (· ≠ step), plan.fault? before = none := by
  induction steps with
  | nil => cases h
  | cons first steps ih =>
    intro before hbefore
    by_cases hfirst : first = step
    · rw [List.takeWhile_cons_of_neg (by simpa using hfirst)] at hbefore
      cases hbefore
    · cases hfault : plan.fault? first with
      | some fault =>
        rw [performed_cons_of_fault hfault, List.mem_singleton] at h
        exact absurd h.symm hfirst
      | none =>
        rw [performed_cons_of_passed hfault, List.mem_cons] at h
        rw [List.takeWhile_cons_of_pos (by simpa using hfirst), List.mem_cons] at hbefore
        rcases hbefore with rfl | hbefore
        · exact hfault
        · exact ih (h.resolve_left (Ne.symm hfirst)) before hbefore

/-- A step is performed where all that comes before it has passed. -/
theorem mem_performed_of_passed (hmem : step ∈ steps)
    (h : ∀ before ∈ steps.takeWhile (· ≠ step), plan.fault? before = none) : step ∈ plan.performed steps := by
  induction steps with
  | nil => cases hmem
  | cons first steps ih =>
    by_cases hfirst : first = step
    · obtain ⟨rest, hrest⟩ : ∃ rest, plan.performed (first :: steps) = first :: rest := by
        unfold performed
        split
        · exact ⟨_, rfl⟩
        · exact ⟨_, rfl⟩
      rw [hrest, hfirst]
      exact List.mem_cons_self
    · rw [List.takeWhile_cons_of_pos (by simpa using hfirst)] at h
      obtain ⟨hpassed, hlater⟩ := List.forall_mem_cons.mp h
      rw [performed_cons_of_passed hpassed]
      exact List.mem_cons_of_mem _ (ih ((List.mem_cons.mp hmem).resolve_left (Ne.symm hfirst)) hlater)

/-- The fault is that of the step that fails and has no failing step before it. -/
theorem outcome_eq_error_iff :
    plan.outcome steps = .error fault ↔
      ∃ step ∈ steps, plan.fault? step = some fault ∧
        ∀ before ∈ steps.takeWhile (· ≠ step), plan.fault? before = none := by
  induction steps with
  | nil => simp [outcome]
  | cons first steps ih =>
    cases hfirst : plan.fault? first with
    | some found =>
      rw [outcome_cons_of_fault hfirst]
      constructor
      · intro h
        cases h
        refine ⟨first, List.mem_cons_self, hfirst, fun before hbefore => ?_⟩
        rw [List.takeWhile_cons_of_neg (by simp)] at hbefore
        cases hbefore
      · rintro ⟨step, -, hstep, hbefore⟩
        by_cases heq : first = step
        · rw [← heq, hfirst] at hstep
          rw [Option.some.inj hstep]
        · have hpassed := hbefore first (by simp [heq])
          rw [hfirst] at hpassed
          cases hpassed
    | none =>
      rw [outcome_cons_of_passed hfirst, ih]
      constructor
      · rintro ⟨step, hmem, hstep, hearlier⟩
        refine ⟨step, List.mem_cons_of_mem _ hmem, hstep, fun before hbefore => ?_⟩
        have hne := ne_of_passed_of_fault hfirst hstep
        rw [List.takeWhile_cons_of_pos (by simpa using hne), List.mem_cons] at hbefore
        rcases hbefore with rfl | hbefore
        · exact hfirst
        · exact hearlier before hbefore
      · rintro ⟨step, hmem, hstep, hearlier⟩
        have hne := ne_of_passed_of_fault hfirst hstep
        refine ⟨step, (List.mem_cons.mp hmem).resolve_left (Ne.symm hne), hstep, fun before hbefore => ?_⟩
        refine hearlier before ?_
        rw [List.takeWhile_cons_of_pos (by simpa using hne)]
        exact List.mem_cons_of_mem _ hbefore

/-- The first step that fails is the last one performed. -/
theorem performed_of_fault (hmem : step ∈ steps) (h : plan.fault? step = some fault)
    (hpassed : ∀ before ∈ steps.takeWhile (· ≠ step), plan.fault? before = none) :
    plan.performed steps = steps.takeWhile (· ≠ step) ++ [step] := by
  induction steps with
  | nil => cases hmem
  | cons first steps ih =>
    by_cases hfirst : first = step
    · rw [List.takeWhile_cons_of_neg (by simpa using hfirst), hfirst, performed_cons_of_fault h,
        List.nil_append]
    · rw [List.takeWhile_cons_of_pos (by simpa using hfirst)] at hpassed ⊢
      obtain ⟨hstep, hsteps⟩ := List.forall_mem_cons.mp hpassed
      rw [performed_cons_of_passed hstep, ih ((List.mem_cons.mp hmem).resolve_left (Ne.symm hfirst)) hsteps,
        List.cons_append]

end Order

/-! ## Sessions -/

/-- A session does what a sequence of steps does: it ends in a fault as they do, and asks what those ask
that are performed. -/
structure Follows {α : Type} (plan : Steps Step Fault) (answers : (r : Request) → r.Answer)
    (session : Session (Except Fault α)) (steps : List Step) : Prop where
  run_eq : (session.run answers).map (fun _ => ()) = plan.outcome steps
  trace_eq : session.trace answers = (plan.performed steps).flatMap plan.asks

variable {α β : Type} {answers : (r : Request) → r.Answer} {session : Session (Except Fault α)}

/-- What goes on from a session has a value only if the session has. -/
theorem eq_ok_of_bind {first : ExceptT Fault Session α} {next : α → ExceptT Fault Session β} {value : β}
    (h : (first >>= next).run.run answers = .ok value) :
    ∃ found, first.run.run answers = .ok found ∧ (next found).run.run answers = .ok value := by
  rw [ExceptT.run_bind, Session.run_bind] at h
  cases hfirst : first.run.run answers with
  | error fault =>
    rw [hfirst] at h
    cases h
  | ok found =>
    rw [hfirst] at h
    exact ⟨found, rfl, h⟩

/-- A session that may fail once is a step. -/
theorem Follows.single (hfault : plan.fault? step = errorOf? (session.run answers))
    (htrace : session.trace answers = plan.asks step) : plan.Follows answers session [step] := by
  cases hrun : session.run answers with
  | error fault =>
    rw [hrun] at hfault
    refine ⟨?_, ?_⟩
    · rw [hrun, outcome_cons_of_fault hfault]
      rfl
    · rw [htrace, performed_cons_of_fault hfault, List.flatMap_singleton]
  | ok value =>
    rw [hrun] at hfault
    refine ⟨?_, ?_⟩
    · rw [hrun, outcome_cons_of_passed hfault]
      rfl
    · rw [htrace, performed_cons_of_passed hfault, performed, List.flatMap_singleton]

/-- What goes on with the value of a session takes the steps after it. -/
theorem Follows.bind {first : ExceptT Fault Session α} {next : α → ExceptT Fault Session β}
    (h : plan.Follows answers first.run earlier)
    (hnext : ∀ value, first.run.run answers = .ok value → plan.Follows answers (next value).run later) :
    plan.Follows answers (first >>= next).run (earlier ++ later) := by
  rw [ExceptT.run_bind]
  have hrun := h.run_eq
  cases hresult : first.run.run answers with
  | error fault =>
    rw [hresult] at hrun
    obtain ⟨houtcome, hperformed⟩ := @append_of_error _ _ _ earlier later _ hrun.symm
    refine ⟨?_, ?_⟩
    · rw [Session.run_bind, hresult, houtcome]
      rfl
    · rw [Session.trace_bind, hresult, hperformed, h.trace_eq]
      exact List.append_nil _
  | ok value =>
    rw [hresult] at hrun
    have hrest := hnext value hresult
    obtain ⟨houtcome, hperformed⟩ := @append_of_ok _ _ _ earlier later hrun.symm
    refine ⟨?_, ?_⟩
    · rw [Session.run_bind, hresult, houtcome]
      exact hrest.run_eq
    · rw [Session.trace_bind, hresult, hperformed, h.trace_eq, performed_of_ok hrun.symm,
        List.flatMap_append]
      exact congrArg _ hrest.trace_eq

/-- What is made of a value takes no step. -/
theorem Follows.bind_pure {first : ExceptT Fault Session α} (h : plan.Follows answers first.run steps)
    (make : α → β) :
    plan.Follows answers (first >>= fun value => Pure.pure (make value)).run steps := by
  rw [← List.append_nil steps]
  exact h.bind fun _ _ => ⟨rfl, rfl⟩

/-- A session that follows steps and has a value has passed them all. -/
theorem Follows.passed {value : α} (h : plan.Follows answers session steps)
    (hrun : session.run answers = .ok value) : ∀ step ∈ steps, plan.fault? step = none := by
  have houtcome := h.run_eq
  rw [hrun] at houtcome
  exact outcome_eq_ok_iff.mp houtcome.symm

/-- A session that follows steps and fails ends with the first step that fails, having asked what the
steps up to that one ask. -/
theorem Follows.exists_fault [DecidableEq Step] (h : plan.Follows answers session steps)
    (hrun : session.run answers = .error fault) :
    ∃ step ∈ steps, plan.fault? step = some fault ∧
      (∀ before ∈ steps.takeWhile (· ≠ step), plan.fault? before = none) ∧
      session.trace answers = (steps.takeWhile (· ≠ step) ++ [step]).flatMap plan.asks := by
  have houtcome := h.run_eq
  rw [hrun] at houtcome
  obtain ⟨step, hmem, hfault, hpassed⟩ := outcome_eq_error_iff.mp houtcome.symm
  exact ⟨step, hmem, hfault, hpassed, by rw [h.trace_eq, performed_of_fault hmem hfault hpassed]⟩

/-! ## Steps as steps of something larger -/

/-- Steps that are renamed, and their faults wrapped, come to the same and ask the same. -/
theorem outcome_map {Inner Wrapped : Type} {inner : Steps Inner Wrapped} {rename : Inner → Step}
    {wrap : Wrapped → Fault} {steps : List Inner}
    (hfault : ∀ step ∈ steps, plan.fault? (rename step) = (inner.fault? step).map wrap)
    (hasks : ∀ step ∈ steps, plan.asks (rename step) = inner.asks step) :
    plan.outcome (steps.map rename) = (inner.outcome steps).mapError wrap ∧
      (plan.performed (steps.map rename)).flatMap plan.asks =
        (inner.performed steps).flatMap inner.asks := by
  induction steps with
  | nil => exact ⟨rfl, rfl⟩
  | cons step steps ih =>
    obtain ⟨hstep, hsteps⟩ := List.forall_mem_cons.mp hfault
    obtain ⟨hask, hasked⟩ := List.forall_mem_cons.mp hasks
    obtain ⟨houtcome, hperformed⟩ := ih hsteps hasked
    rw [List.map_cons]
    cases hinner : inner.fault? step with
    | some fault =>
      rw [hinner] at hstep
      rw [outcome_cons_of_fault hstep, outcome_cons_of_fault hinner, performed_cons_of_fault hstep,
        performed_cons_of_fault hinner, List.flatMap_singleton, List.flatMap_singleton, hask]
      exact ⟨rfl, rfl⟩
    | none =>
      rw [hinner] at hstep
      rw [outcome_cons_of_passed hstep, outcome_cons_of_passed hinner, performed_cons_of_passed hstep,
        performed_cons_of_passed hinner, List.flatMap_cons, List.flatMap_cons, hask, hperformed]
      exact ⟨houtcome, rfl⟩

/-- Where only the first of some steps asks anything, no more is asked however far they get. -/
theorem asks_performed_cons (h : ∀ later ∈ steps, plan.asks later = []) :
    (plan.performed (step :: steps)).flatMap plan.asks = plan.asks step := by
  cases hfault : plan.fault? step with
  | some fault => rw [performed_cons_of_fault hfault, List.flatMap_singleton]
  | none =>
    have hsilent : (plan.performed steps).flatMap plan.asks = [] :=
      List.flatMap_eq_nil_iff.mpr fun later hlater => h later ((performed_isPrefix steps).subset hlater)
    rw [performed_cons_of_passed hfault, List.flatMap_cons, hsilent, List.append_nil]

end Steps

end FrameTransition
