import FrameTransition.CommandLine.Run
import FrameTransition.Proofs.Session.Steps

/-!
# Attempts as sessions

An attempt wraps the errors of a session in failures of its own. It comes to what the session comes to and
asks the same, so where the session is a step the attempt is one.
-/

namespace FrameTransition.CommandLine

variable {ε α β Step : Type} {failure : ε → Failure} {session : Session (Except ε α)}
  {answers : (r : Request) → r.Answer} {plan : Steps Step Failure} {step : Step}

theorem run_attempt (answers : (r : Request) → r.Answer) :
    (attempt failure session).run.run answers = (session.run answers).mapError failure := by
  show (Except.mapError failure <$> session).run answers = _
  rw [map_eq_pure_bind, Session.run_bind, Session.run_pure]

theorem trace_attempt (answers : (r : Request) → r.Answer) :
    (attempt failure session).run.trace answers = session.trace answers := by
  show (Except.mapError failure <$> session).trace answers = _
  rw [map_eq_pure_bind, Session.trace_bind, Session.trace_pure, List.append_nil]

theorem run_bind_attempt (answers : (r : Request) → r.Answer) (first : Attempt α) (next : α → Attempt β) :
    (first >>= next).run.run answers =
      match first.run.run answers with
      | .ok value => (next value).run.run answers
      | .error failure => .error failure := by
  rw [ExceptT.run_bind, Session.run_bind]
  cases first.run.run answers with
  | error | ok => rfl

theorem trace_bind_attempt (answers : (r : Request) → r.Answer) (first : Attempt α) (next : α → Attempt β) :
    (first >>= next).run.trace answers =
      first.run.trace answers ++
        match first.run.run answers with
        | .ok value => (next value).run.trace answers
        | .error _ => [] := by
  rw [ExceptT.run_bind, Session.trace_bind]
  cases first.run.run answers with
  | error | ok => rfl

theorem run_lift (answers : (r : Request) → r.Answer) (session : Session α) :
    (ExceptT.lift session : Attempt α).run.run answers = .ok (session.run answers) := by
  rw [ExceptT.run_lift, map_eq_pure_bind, Session.run_bind, Session.run_pure]

theorem trace_lift (answers : (r : Request) → r.Answer) (session : Session α) :
    (ExceptT.lift session : Attempt α).run.trace answers = session.trace answers := by
  rw [ExceptT.run_lift, map_eq_pure_bind, Session.trace_bind, Session.trace_pure, List.append_nil]

theorem eq_ok_of_attempt {value : α} (h : (attempt failure session).run.run answers = .ok value) :
    session.run answers = .ok value := by
  rw [run_attempt] at h
  cases hrun : session.run answers with
  | error error =>
    rw [hrun] at h
    cases h
  | ok found =>
    rw [hrun] at h
    cases h
    rfl

/-- An attempt of a session that may fail once is a step. -/
theorem follows_attempt (hfault : plan.fault? step = (errorOf? (session.run answers)).map failure)
    (htrace : session.trace answers = plan.asks step) :
    plan.Follows answers (attempt failure session).run [step] :=
  .single (by rw [run_attempt, errorOf?_mapError, hfault]) (by rw [trace_attempt, htrace])

/-- What is demanded of a value is a step that asks nothing. -/
theorem follows_demand {outcome : Except ε α} (hfault : plan.fault? step = (errorOf? outcome).map failure)
    (hsilent : plan.asks step = []) : plan.Follows answers (demand failure outcome).run [step] :=
  .single (by rw [hfault, ← errorOf?_mapError]; rfl) hsilent.symm

end FrameTransition.CommandLine
