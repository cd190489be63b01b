import FrameTransition.Proofs.CommandLine.Attempts
import FrameTransition.Proofs.CommandLine.Launch

/-!
# Getting ready is going through the steps

`follows_prepare` puts the steps together: getting ready ends in the failure of the first step that has one,
and asks what the steps up to that one ask. A step of configuring is reached only with something to
configure (`exists_setup_of_mem_performed`).
-/

namespace FrameTransition.CommandLine

open Render (Setup SetupStep Renderer)
open Video (parseProbe)

namespace Launch

variable {launch : Launch}

/-! ## The stream of a video -/

theorem follows_requireEncoder :
    launch.plan.Follows launch.answers requireEncoder.run [.installed] := by
  have hsession : requireEncoder.run =
      Video.isInstalled >>= fun installed =>
        return if installed then .ok () else .error .encoderMissing := by
    unfold requireEncoder
    rw [ExceptT.run_bind, ExceptT.run_lift, bind_map_left]
    refine bind_congr fun installed => ?_
    cases installed with
    | true | false => rfl
  refine .single ?_ ?_
  · rw [hsession, Session.run_bind, Session.run_pure, fault?_plan, fault?]
    split <;> rfl
  · rw [hsession, Session.trace_bind, Session.trace_pure, List.append_nil]
    unfold Video.isInstalled
    rw [Session.trace_bind]
    cases (Session.start Video.versionCommand).run launch.answers with
    | error | ok => rfl

/-- What a finished probe comes to, in three steps. -/
theorem outcome_of_completion {completion : Completion} (h : launch.completion? = some completion) :
    launch.plan.outcome [.probeSucceeded, .probeText, .probeParsed] =
      ((Video.infoOfCompletion completion).mapError Failure.video).map fun _ => () := by
  unfold Video.infoOfCompletion
  cases hexit : completion.exit.isSuccess with
  | false =>
    have hfault : launch.plan.fault? .probeSucceeded =
        some (.video (.probeFailed (Utf8.decodeLossy completion.errors))) := by
      rw [fault?_plan, fault?, h, Option.bind_some, hexit]
      rfl
    exact Steps.outcome_cons_of_fault hfault
  | true =>
    have hpassed : launch.plan.fault? .probeSucceeded = none := by
      rw [fault?_plan, fault?, h, Option.bind_some, hexit]
      rfl
    rw [Steps.outcome_cons_of_passed hpassed]
    cases hdecode : Utf8.decode? completion.output with
    | error fault =>
      have hfault : launch.plan.fault? .probeText = some (.video (.probeNotText fault)) := by
        rw [fault?_plan, fault?, h, Option.bind_some, hdecode]
        rfl
      exact Steps.outcome_cons_of_fault hfault
    | ok text =>
      have hpassed : launch.plan.fault? .probeText = none := by
        rw [fault?_plan, fault?, h, Option.bind_some, hdecode]
        rfl
      have htext : launch.text? = some text := by
        rw [text?, h, Option.bind_some, hdecode]
        rfl
      have hparsed : launch.plan.fault? .probeParsed = (errorOf? (parseProbe text)).map .video := by
        rw [fault?_plan, fault?, htext, Option.bind_some]
      rw [Steps.outcome_cons_of_passed hpassed]
      show _ = ((parseProbe text).mapError Failure.video).map fun _ => ()
      cases hparse : parseProbe text with
      | error error =>
        rw [hparse] at hparsed
        exact Steps.outcome_cons_of_fault hparsed
      | ok stream =>
        rw [hparse] at hparsed
        exact Steps.outcome_eq_ok_iff.mpr (List.forall_mem_singleton.mpr hparsed)

theorem run_probe (path : Path) (answers : Render.Answers) :
    (Video.probe path).run answers =
      match answers (.start (Video.probeCommand path)) with
      | .error cause => .error (.probeNotStarted cause)
      | .ok program => Video.infoOfCompletion (program []) := by
  unfold Video.probe
  rw [Session.run_bind, Session.run_start]
  cases answers (.start (Video.probeCommand path)) with
  | error | ok => rfl

/-- Probing takes four steps, and only the first asks anything. -/
theorem follows_probe :
    launch.plan.Follows launch.answers (attempt .video (Video.probe launch.job.input)).run
      [.probeStarted, .probeSucceeded, .probeText, .probeParsed] := by
  have hsilent : ∀ later ∈ [LaunchStep.probeSucceeded, .probeText, .probeParsed],
      launch.plan.asks later = [] := by
    simp [asks]
  refine ⟨?_, ?_⟩
  · rw [run_attempt, run_probe]
    cases hstarted : launch.answers (.start (Video.probeCommand launch.job.input)) with
    | error cause =>
      have hfault : launch.plan.fault? .probeStarted = some (.video (.probeNotStarted cause)) := by
        rw [fault?_plan, fault?, hstarted]
        rfl
      exact (Steps.outcome_cons_of_fault hfault).symm
    | ok program =>
      have hpassed : launch.plan.fault? .probeStarted = none := by
        rw [fault?_plan, fault?, hstarted]
        rfl
      have hcompletion : launch.completion? = some (program []) := by
        rw [completion?, hstarted]
        rfl
      rw [Steps.outcome_cons_of_passed hpassed, outcome_of_completion hcompletion]
  · rw [trace_attempt, Steps.asks_performed_cons hsilent]
    unfold Video.probe
    rw [Session.trace_bind]
    cases (Session.start (Video.probeCommand launch.job.input)).run launch.answers with
    | error | ok => rfl

theorem follows_rate {stream : Video.Info} {rate : Option (List Char)} (htask : launch.job.task = .video rate) :
    launch.plan.Follows launch.answers (demand id (rateOf stream rate)).run [.rate] := by
  refine follows_demand ?_ rfl
  rw [fault?_plan, fault?, htask, Option.map_id]
  cases rate with
  | none => rfl
  | some text =>
    cases hread : Video.Rate.ofChars? text with
    | none | some rate => simp [rateOf, hread, errorOf?]

theorem stream?_of_probe {stream : Video.Info}
    (h : (Video.probe launch.job.input).run launch.answers = .ok stream) :
    launch.stream? = some stream := by
  rw [run_probe] at h
  cases hstarted : launch.answers (.start (Video.probeCommand launch.job.input)) with
  | error cause =>
    rw [hstarted] at h
    cases h
  | ok program =>
    rw [hstarted] at h
    have hcompletion : launch.completion? = some (program []) := by
      rw [completion?, hstarted]
      rfl
    dsimp only at h
    unfold Video.infoOfCompletion at h
    split at h
    · cases hdecode : Utf8.decode? (program []).output with
      | error fault =>
        rw [hdecode] at h
        cases h
      | ok text =>
        rw [hdecode] at h
        have hparse : parseProbe text = .ok stream := h
        rw [stream?, text?, hcompletion, Option.bind_some, hdecode]
        show (parseProbe text).toOption = some stream
        rw [hparse]
        rfl
    · cases h

theorem follows_openVideo {rate : Option (List Char)} (htask : launch.job.task = .video rate) :
    launch.plan.Follows launch.answers (openVideo launch.job.input rate).run
      [.installed, .interrupts, .probeStarted, .probeSucceeded, .probeText, .probeParsed, .rate] := by
  have hhandled : launch.plan.Follows launch.answers (attempt .interrupts Session.handleInterrupts).run
      [.interrupts] := follows_attempt rfl rfl
  exact follows_requireEncoder.bind fun _ _ => hhandled.bind fun _ _ => follows_probe.bind fun stream _ =>
    (follows_rate htask).bind_pure fun rate => { stream with rate }

/-- A rate that is asked for does not change the size. -/
theorem stream?_of_openVideo {rate : Option (List Char)} {stream : Video.Info}
    (h : (openVideo launch.job.input rate).run.run launch.answers = .ok stream) :
    ∃ found rate, launch.stream? = some found ∧ stream = { found with rate } := by
  obtain ⟨_, -, h⟩ := Steps.eq_ok_of_bind h
  obtain ⟨_, -, h⟩ := Steps.eq_ok_of_bind h
  obtain ⟨found, hfound, h⟩ := Steps.eq_ok_of_bind h
  obtain ⟨rate, -, h⟩ := Steps.eq_ok_of_bind h
  cases h
  exact ⟨found, rate, stream?_of_probe (eq_ok_of_attempt hfound), rfl⟩

/-! ## What a job draws -/

theorem follows_material :
    launch.plan.Follows launch.answers (launch.job.material launch.reader).run launch.opening := by
  unfold Job.material opening
  cases htask : launch.job.task with
  | video rate => exact (follows_openVideo htask).bind_pure Material.video
  | still seconds =>
    have hopened : launch.plan.Follows launch.answers
        (attempt (.image launch.job.input) (launch.reader.open launch.job.input)).run [.image] :=
      follows_attempt rfl rfl
    exact hopened.bind_pure (Material.still · seconds)

theorem size?_of_material {material : Material launch.reader}
    (h : (launch.job.material launch.reader).run.run launch.answers = .ok material) :
    launch.size? = some material.size := by
  unfold Job.material at h
  unfold size?
  cases htask : launch.job.task with
  | video rate =>
    rw [htask] at h
    obtain ⟨stream, hstream, h⟩ := Steps.eq_ok_of_bind h
    obtain ⟨found, rate, hfound, rfl⟩ := stream?_of_openVideo hstream
    cases h
    rw [hfound]
    rfl
  | still seconds =>
    rw [htask] at h
    obtain ⟨picture, hpicture, h⟩ := Steps.eq_ok_of_bind h
    cases h
    have hdecoded : launch.picture = .ok picture := eq_ok_of_attempt hpicture
    rw [hdecoded]
    rfl

/-! ## The transition -/

theorem follows_written :
    launch.plan.Follows launch.answers (launch.job.written launch.documents).run [.parameters] := by
  unfold Job.written
  cases hconfig : launch.job.config with
  | none =>
    refine .single ?_ ?_
    · rw [fault?_plan, fault?, hconfig]
      rfl
    · rw [asks_plan, asks, hconfig]
      rfl
  | some path =>
    have hloaded : launch.plan.Follows launch.answers
        (attempt (.config path) (Parameters.load launch.documents path)).run [.parameters] := by
      refine follows_attempt ?_ ?_
      · rw [fault?_plan, fault?, hconfig]
        rfl
      · rw [asks_plan, asks, hconfig]
        rfl
    exact hloaded.bind_pure fun parameters => (parameters, path.parent?)

theorem written?_of_written {written : Parameters × Option Path}
    (h : (launch.job.written launch.documents).run.run launch.answers = .ok written) :
    launch.written? = some written := by
  unfold Job.written at h
  unfold written?
  cases hconfig : launch.job.config with
  | none =>
    rw [hconfig] at h
    cases h
    rfl
  | some path =>
    rw [hconfig] at h
    obtain ⟨parameters, hparameters, h⟩ := Steps.eq_ok_of_bind h
    cases h
    have hloaded : launch.parametersIn path = .ok parameters := eq_ok_of_attempt hparameters
    dsimp only
    rw [hloaded]
    rfl

theorem follows_transition :
    launch.plan.Follows launch.answers (launch.job.transition launch.documents).run
      [.parameters, .configuration] := by
  refine follows_written.bind fun written hwritten => follows_demand ?_ rfl
  rw [fault?_plan, fault?, written?_of_written hwritten]
  rfl

theorem config?_of_transition {config : Config}
    (h : (launch.job.transition launch.documents).run.run launch.answers = .ok config) :
    launch.config? = some config := by
  obtain ⟨⟨parameters, base⟩, hwritten, h⟩ := Steps.eq_ok_of_bind h
  have hresolved : parameters.resolve base launch.job.overrides = .ok config := by
    dsimp only at h
    cases hresolve : parameters.resolve base launch.job.overrides with
    | error error =>
      rw [hresolve] at h
      cases h
    | ok found =>
      rw [hresolve] at h
      cases h
      rfl
  rw [config?, written?_of_written hwritten, Option.bind_some]
  exact toOption_eq_some_iff.mpr hresolved

/-! ## The renderer -/

/-- A renderer is made by configuring a new one. -/
theorem run_rendererFor (setup : Setup) :
    ((rendererFor setup.compile setup.config (setup.width, setup.height)).run.run setup.answers).map
        (fun _ => ()) =
      (setup.plan.outcome SetupStep.all).mapError Failure.transition := by
  unfold rendererFor
  rw [run_bind_attempt, run_lift]
  cases houtcome : setup.plan.outcome SetupStep.all with
  | error error =>
    dsimp only
    rw [Renderer.run_configure_new_of_error houtcome]
    rfl
  | ok =>
    dsimp only
    obtain ⟨resources, hrun⟩ := Renderer.run_configure_new_of_ok houtcome
    rw [hrun]
    rfl

theorem trace_rendererFor (setup : Setup) :
    (rendererFor setup.compile setup.config (setup.width, setup.height)).run.trace setup.answers =
      (setup.plan.performed SetupStep.all).flatMap setup.asks := by
  unfold rendererFor
  rw [trace_bind_attempt, run_lift, trace_lift, Renderer.trace_configure_new]
  dsimp only
  cases (((Renderer.new setup.config).configure setup.compile setup.width setup.height).run
    setup.answers).1 with
  | error | ok => exact List.append_nil _

/-- The steps of configuring are steps of getting ready. -/
theorem follows_rendererFor {setup : Setup} (hsetup : launch.setup? = some setup)
    (hanswers : setup.answers = launch.answers) :
    launch.plan.Follows launch.answers
      (rendererFor setup.compile setup.config (setup.width, setup.height)).run
      (SetupStep.all.map .setup) := by
  have hfault : ∀ step ∈ SetupStep.all,
      launch.plan.fault? (.setup step) = (setup.plan.fault? step).map Failure.transition := by
    intro step _
    rw [fault?_plan, fault?, hsetup, Option.bind_some]
    rfl
  have hasks : ∀ step ∈ SetupStep.all, launch.plan.asks (.setup step) = setup.plan.asks step := by
    intro step _
    rw [asks_plan, asks, hsetup]
    rfl
  obtain ⟨houtcome, hasked⟩ := Steps.outcome_map hfault hasks
  rw [← hanswers]
  exact ⟨(run_rendererFor setup).trans houtcome.symm, (trace_rendererFor setup).trans hasked.symm⟩

/-! ## All steps -/

/-- Getting ready is the steps of the job. -/
theorem follows_prepare :
    launch.plan.Follows launch.answers
      (launch.job.prepare launch.compile launch.reader launch.documents).run launch.steps := by
  unfold Job.prepare steps preparing
  rw [List.append_assoc]
  refine follows_material.bind fun material hmaterial => ?_
  refine follows_transition.bind fun config hconfig => ?_
  have hsetup : launch.setup? =
      some ⟨launch.compile, config, material.size.1, material.size.2, launch.answers⟩ := by
    rw [setup?, config?_of_transition hconfig, Option.bind_some, size?_of_material hmaterial]
    rfl
  exact (follows_rendererFor hsetup rfl).bind_pure (material, ·)

/-- Where the steps before configuring pass there is something to configure. -/
theorem exists_setup_of_passed (h : ∀ step ∈ launch.preparing, launch.fault? step = none) :
    ∃ setup, launch.setup? = some setup := by
  obtain ⟨hopening, htransition⟩ := List.forall_mem_append.mp h
  have hmaterial := follows_material.run_eq.trans (Steps.outcome_eq_ok_iff.mpr hopening)
  have hconfig := follows_transition.run_eq.trans (Steps.outcome_eq_ok_iff.mpr htransition)
  cases hopened : (launch.job.material launch.reader).run.run launch.answers with
  | error failure =>
    rw [hopened] at hmaterial
    cases hmaterial
  | ok material =>
    cases hmade : (launch.job.transition launch.documents).run.run launch.answers with
    | error failure =>
      rw [hmade] at hconfig
      cases hconfig
    | ok config =>
      rw [setup?, config?_of_transition hmade, size?_of_material hopened]
      exact ⟨_, rfl⟩

/-- A step of configuring that is performed has something to configure. -/
theorem exists_setup_of_mem_performed {step : SetupStep}
    (h : .setup step ∈ launch.plan.performed launch.steps) : ∃ setup, launch.setup? = some setup := by
  refine exists_setup_of_passed fun earlier hearlier => Steps.passed_of_mem_performed h earlier ?_
  have hbefore : ∀ before ∈ launch.preparing, before ≠ .setup step := by
    unfold preparing opening
    cases launch.job.task with
    | video | still => simp
  unfold steps
  rw [List.takeWhile_append_of_pos (by simpa using hbefore)]
  exact List.mem_append_left _ hearlier

end Launch

end FrameTransition.CommandLine
