import FrameTransition.CommandLine.Complete
import FrameTransition.Proofs.Config.Records
import FrameTransition.Proofs.Config.Resolving
import FrameTransition.Proofs.Render.Configure
import FrameTransition.Proofs.Video.Probing

/-!
# The steps of getting ready

A job gets ready for its first frame in steps: two pipelines with different beginnings and one end, which
is that of configuring. `Launch.Fails` says of each step on its own with which failure it fails, so that
several can fail for the same job, and `Launch.Asks` says what it asks of the host. Both go by the answers of
the host, what its programs print and its files hold, and by what is given for reading pictures and
parameters.

`fails_iff` shows that these are the failures that getting ready finds.

A step works on what earlier steps made. Where that was not made the step has no failure of its own, and
it is not reached.
-/

namespace FrameTransition.CommandLine

open Render (Setup SetupStep Answers)
open Video (parseProbe probeCommand versionCommand Missing said WritesRate)

/-- The steps of getting ready. -/
inductive LaunchStep where
  | installed
  | interrupts
  | probeStarted
  | probeSucceeded
  | probeText
  | probeParsed
  | rate
  | image
  | parameters
  | configuration
  | setup (step : SetupStep)
  deriving DecidableEq

/-- Everything that getting ready depends on. -/
structure Launch where
  compile : Shader.Compiler
  reader : Image.Reader
  documents : RecordReader
  job : Job
  answers : Answers

namespace Launch

variable (launch : Launch)

/-- The steps of opening what a job reads. -/
def opening : List LaunchStep :=
  match launch.job.task with
  | .video _ => [.installed, .interrupts, .probeStarted, .probeSucceeded, .probeText, .probeParsed, .rate]
  | .still _ => [.image]

/-- The steps before those of configuring. -/
def preparing : List LaunchStep :=
  launch.opening ++ [.parameters, .configuration]

/-- The steps of a job in their order. -/
def steps : List LaunchStep :=
  launch.preparing ++ SetupStep.all.map .setup

/-! ## What the host and the readers say -/

/-- A program starts, and without input it comes to this. -/
def Completes (command : Command) (completion : Completion) : Prop :=
  ∃ program, launch.answers (.start command) = .ok program ∧ program [] = completion

/-- The probe prints a text. -/
def Prints (text : List Char) : Prop :=
  ∃ completion, launch.Completes (probeCommand launch.job.input) completion ∧
    Utf8.encode text = completion.output

/-- The size of what there is to draw: the one that was probed, or that of the picture. -/
inductive Sized : Nat → Nat → Prop
  | video {asked : Option (List Char)} {text : List Char} {stream : Video.Info}
      (htask : launch.job.task = .video asked) (hprints : launch.Prints text)
      (hsaid : said text = ⟨some stream.width, some stream.height, some stream.rate, stream.duration⟩) :
      Sized stream.width stream.height
  | still {seconds : Number} {picture : launch.reader.Picture} (htask : launch.job.task = .still seconds)
      (hpicture : launch.reader.decode launch.job.input (launch.answers (.readFile launch.job.input)) =
        .ok picture) :
      Sized (launch.reader.size picture).width (launch.reader.size picture).height

/-- What a text comes to as a record of three parameters, in which there is no other key. -/
def recordIn (text : List Char) : Except launch.documents.Fault Record :=
  launch.documents.read ⟨[("duration", .number), ("offset", .number), ("source", .text)], true⟩ text

/-- The parameters that a job has written, with the directory that paths in them start from. -/
inductive Written : Parameters → Option Path → Prop
  | nowhere (hconfig : launch.job.config = none) : Written .none none
  | file {path : Path} {text : List Char} {record : Record} {parameters : Parameters}
      (hconfig : launch.job.config = some path) (hread : launch.answers (.readFile path) = .ok (Utf8.encode text))
      (hrecord : launch.recordIn text = .ok record) (htells : Parameters.Tells record parameters) :
      Written parameters path.parent?

/-- The configuration of the transition, each of its parts chosen on its own. -/
def Configured (config : Config) : Prop :=
  ∃ parameters base, launch.Written parameters base ∧
    Chosen (.real 1) launch.job.overrides.duration parameters.duration config.duration ∧
    Chosen (.real 0) launch.job.overrides.offset parameters.offset config.offset ∧
    ComesFrom base launch.job.overrides.source parameters.source config.source

/-- What there is to configure, once everything before is made. -/
structure Reaches (setup : Setup) : Prop where
  compile_eq : setup.compile = launch.compile
  configured : launch.Configured setup.config
  sized : launch.Sized setup.width setup.height
  answers_eq : setup.answers = launch.answers

/-- The first value that a stream needs and a text lacks. -/
inductive Lacks (text : List Char) : Video.VideoError → Prop
  | width (h : Missing .width text) : Lacks text .noWidth
  | height (hwidth : ¬ Missing .width text) (h : Missing .height text) : Lacks text .noHeight
  | rate (hwidth : ¬ Missing .width text) (hheight : ¬ Missing .height text) (h : Missing .rate text) :
      Lacks text .noRate

/-- The complaint about the first of the chosen times that is not good. -/
inductive Complains : String → Prop
  | duration {parameters : Parameters} {base : Option Path} {duration : Number}
      (hwritten : launch.Written parameters base)
      (hchosen : Chosen (.real 1) launch.job.overrides.duration parameters.duration duration)
      (hbad : ¬ ∃ v, duration.value? = some v ∧ 0 < v) :
      Complains ("duration must be a positive number of seconds, got " ++ Decimal.plain duration)
  | offset {parameters : Parameters} {base : Option Path} {duration offset : Number}
      (hwritten : launch.Written parameters base)
      (hduration : Chosen (.real 1) launch.job.overrides.duration parameters.duration duration)
      (hgood : ∃ v, duration.value? = some v ∧ 0 < v)
      (hchosen : Chosen (.real 0) launch.job.overrides.offset parameters.offset offset)
      (hbad : ¬ ∃ v, offset.value? = some v ∧ 0 ≤ v) :
      Complains ("offset must be a non-negative number of seconds, got " ++ Decimal.plain offset)

/-- The failure of a step on what it works on. -/
inductive Fails : LaunchStep → Failure → Prop
  /-- No `ffmpeg` starts and tells its version. -/
  | installed (h : ∀ completion, launch.Completes versionCommand completion → completion.exit ≠ .success) :
      Fails .installed .encoderMissing
  | interrupts {error : HandlerError} (h : launch.answers .handleInterrupts = .error error) :
      Fails .interrupts (.interrupts error)
  | probeStarted {cause : FileError}
      (h : launch.answers (.start (probeCommand launch.job.input)) = .error cause) :
      Fails .probeStarted (.video (.probeNotStarted cause))
  | probeSucceeded {completion : Completion}
      (h : launch.Completes (probeCommand launch.job.input) completion) (hexit : completion.exit ≠ .success) :
      Fails .probeSucceeded (.video (.probeFailed (Utf8.decodeLossy completion.errors)))
  | probeText {completion : Completion} {fault : Utf8.Fault}
      (h : launch.Completes (probeCommand launch.job.input) completion)
      (hfault : Utf8.decode? completion.output = .error fault) :
      Fails .probeText (.video (.probeNotText fault))
  | probeParsed {text : List Char} {error : Video.VideoError} (hprints : launch.Prints text)
      (h : Lacks text error) : Fails .probeParsed (.video error)
  | rate {text : List Char} (htask : launch.job.task = .video (some text))
      (h : ∀ rate, ¬ WritesRate rate text) : Fails .rate (.rate text)
  | image {error : Image.ImageError}
      (h : launch.reader.decode launch.job.input (launch.answers (.readFile launch.job.input)) =
        .error error) : Fails .image (.image launch.job.input error)
  /-- The file of the parameters cannot be read, or is no text, -/
  | unreadable {path : Path} {cause : FileError} (hconfig : launch.job.config = some path)
      (h : NoText (launch.answers (.readFile path)) cause) : Fails .parameters (.config path (.file cause))
  /-- or is a text that is no record of them. -/
  | unfit {path : Path} {text : List Char} {fault : launch.documents.Fault}
      (hconfig : launch.job.config = some path) (hread : launch.answers (.readFile path) = .ok (Utf8.encode text))
      (h : launch.recordIn text = .error fault) :
      Fails .parameters (.config path (.document (launch.documents.message fault)))
  | configuration {message : String} (h : launch.Complains message) :
      Fails .configuration (.transition (.configInvalid message))
  | setup {setup : Setup} {step : SetupStep} {error : TransitionError} (hreaches : launch.Reaches setup)
      (h : setup.Fails step error) : Fails (.setup step) (.transition error)

/-- A step has no failure. -/
def Passes (step : LaunchStep) : Prop :=
  ∀ failure, ¬ launch.Fails step failure

/-- What a step asks of the host. -/
inductive Asks : LaunchStep → List Request → Prop
  | installed : Asks .installed [.start versionCommand]
  | interrupts : Asks .interrupts [.handleInterrupts]
  | probeStarted : Asks .probeStarted [.start (probeCommand launch.job.input)]
  | image : Asks .image [.readFile launch.job.input]
  | parameters : Asks .parameters (launch.job.config.toList.map .readFile)
  | setup {setup : Setup} {step : SetupStep} (hreaches : launch.Reaches setup) :
      Asks (.setup step) (setup.asks step)
  /-- The other steps only look at what is there. -/
  | silent {step : LaunchStep} (h : step ∈ [.probeSucceeded, .probeText, .probeParsed, .rate, .configuration]) :
      Asks step []

/-! ## What the steps make -/

/-- What the probe did, once it was started. -/
def completion? : Option Completion :=
  (launch.answers (.start (probeCommand launch.job.input))).toOption.map fun program => program []

/-- What the probe wrote, if it is text. -/
def text? : Option (List Char) :=
  launch.completion?.bind fun completion => (Utf8.decode? completion.output).toOption

/-- The stream that the probe found. -/
def stream? : Option Video.Info :=
  launch.text?.bind fun text => (parseProbe text).toOption

/-- The picture, if the image opens. -/
def picture : Except Image.ImageError launch.reader.Picture :=
  launch.reader.decode launch.job.input (launch.answers (.readFile launch.job.input))

/-- The size of the frames. -/
def size? : Option (Nat × Nat) :=
  match launch.job.task with
  | .video _ => launch.stream?.map fun stream => (stream.width, stream.height)
  | .still _ => launch.picture.toOption.map fun picture =>
      ((launch.reader.size picture).width, (launch.reader.size picture).height)

/-- The parameters in a file, as they are read. -/
def parametersIn (path : Path) : Except LoadError Parameters :=
  Parameters.ofFile launch.documents (launch.answers (.readFile path))

/-- The parameters in the job's file, with the directory of the file; without a file there are none. -/
def written? : Option (Parameters × Option Path) :=
  match launch.job.config with
  | some path => (launch.parametersIn path).toOption.map fun parameters => (parameters, path.parent?)
  | none => some (.none, none)

/-- The configuration of the transition. -/
def config? : Option Config :=
  launch.written?.bind fun (parameters, base) => (parameters.resolve base launch.job.overrides).toOption

/-- What configuring depends on. -/
def setup? : Option Setup :=
  launch.config?.bind fun config => launch.size?.map fun size =>
    ⟨launch.compile, config, size.1, size.2, launch.answers⟩

/-- The failure of a step as it is found. -/
def fault? : LaunchStep → Option Failure
  | .installed => if Video.isInstalled.run launch.answers then none else some .encoderMissing
  | .interrupts => (errorOf? (launch.answers .handleInterrupts)).map .interrupts
  | .probeStarted =>
    (errorOf? (launch.answers (.start (probeCommand launch.job.input)))).map fun cause =>
      .video (.probeNotStarted cause)
  | .probeSucceeded => launch.completion?.bind fun completion =>
    if completion.exit.isSuccess then none
    else some (.video (.probeFailed (Utf8.decodeLossy completion.errors)))
  | .probeText => launch.completion?.bind fun completion =>
    (errorOf? (Utf8.decode? completion.output)).map fun fault => .video (.probeNotText fault)
  | .probeParsed => launch.text?.bind fun text => (errorOf? (parseProbe text)).map .video
  | .rate =>
    match launch.job.task with
    | .video (some text) => if (Video.Rate.ofChars? text).isSome then none else some (.rate text)
    | _ => none
  | .image => (errorOf? launch.picture).map (.image launch.job.input)
  | .parameters =>
    match launch.job.config with
    | some path => (errorOf? (launch.parametersIn path)).map (.config path)
    | none => none
  | .configuration => launch.written?.bind fun (parameters, base) =>
    (errorOf? (parameters.resolve base launch.job.overrides)).map .transition
  | .setup step => launch.setup?.bind fun setup => (setup.fault? step).map .transition

/-- What a step asks as it is carried out. -/
def asks : LaunchStep → List Request
  | .installed => [.start versionCommand]
  | .interrupts => [.handleInterrupts]
  | .probeStarted => [.start (probeCommand launch.job.input)]
  | .image => [.readFile launch.job.input]
  | .parameters => launch.job.config.toList.map .readFile
  | .setup step => (launch.setup?.map (·.asks step)).getD []
  | _ => []

/-- The steps of getting ready, as steps of a session. -/
def plan : Steps LaunchStep Failure :=
  ⟨launch.fault?, launch.asks⟩

variable {launch} {step : LaunchStep} {failure : Failure}

@[simp] theorem fault?_plan : launch.plan.fault? = launch.fault? := rfl

@[simp] theorem asks_plan : launch.plan.asks = launch.asks := rfl

/-! ## What is made is what the host and the readers say -/

theorem completion?_eq_some_iff {completion : Completion} : launch.completion? = some completion ↔
    launch.Completes (probeCommand launch.job.input) completion := by
  unfold completion? Completes
  simp only [Option.map_eq_some_iff, toOption_eq_some_iff]

theorem text?_eq_some_iff {text : List Char} : launch.text? = some text ↔ launch.Prints text := by
  unfold text? Prints
  simp only [Option.bind_eq_some_iff, completion?_eq_some_iff, toOption_eq_some_iff, Utf8.decode?_eq_ok_iff]

theorem stream?_eq_some_iff {stream : Video.Info} : launch.stream? = some stream ↔ ∃ text,
    launch.Prints text ∧
      said text = ⟨some stream.width, some stream.height, some stream.rate, stream.duration⟩ := by
  unfold stream?
  simp only [Option.bind_eq_some_iff, text?_eq_some_iff, toOption_eq_some_iff, Video.parseProbe_eq_ok_iff]

theorem size?_eq_some_iff {size : Nat × Nat} : launch.size? = some size ↔ launch.Sized size.1 size.2 := by
  obtain ⟨width, height⟩ := size
  unfold size?
  cases htask : launch.job.task with
  | video asked =>
    simp only [Option.map_eq_some_iff, stream?_eq_some_iff]
    constructor
    · rintro ⟨stream, ⟨text, hprints, hsaid⟩, heq⟩
      cases heq
      exact .video htask hprints hsaid
    · intro h
      cases h with
      | video _ hprints hsaid => exact ⟨_, ⟨_, hprints, hsaid⟩, rfl⟩
      | still hstill => cases htask.symm.trans hstill
  | still seconds =>
    simp only [Option.map_eq_some_iff, toOption_eq_some_iff]
    constructor
    · rintro ⟨picture, hpicture, heq⟩
      cases heq
      exact .still htask hpicture
    · intro h
      cases h with
      | video hvideo => cases htask.symm.trans hvideo
      | still _ hpicture => exact ⟨_, hpicture, rfl⟩

theorem parse_eq (text : List Char) :
    Parameters.parse launch.documents text = (launch.recordIn text).map Parameters.ofRecord :=
  rfl

theorem parametersIn_eq_ok_iff {path : Path} {parameters : Parameters} :
    launch.parametersIn path = .ok parameters ↔ ∃ text record,
      launch.answers (.readFile path) = .ok (Utf8.encode text) ∧ launch.recordIn text = .ok record ∧
        Parameters.Tells record parameters := by
  unfold parametersIn Parameters.ofFile
  simp only [← bind_textOfBytes_eq_ok_iff, Parameters.tells_iff]
  cases launch.answers (.readFile path) >>= textOfBytes with
  | error cause => exact iff_of_false nofun nofun
  | ok text =>
    show (Parameters.parse launch.documents text).mapError _ = _ ↔ _
    rw [parse_eq]
    cases hrecord : launch.recordIn text with
    | error | ok => simp [Except.mapError, Except.map, hrecord]

theorem parametersIn_eq_error_iff {path : Path} {error : LoadError} :
    launch.parametersIn path = .error error ↔
      (∃ cause, NoText (launch.answers (.readFile path)) cause ∧ error = .file cause) ∨
        ∃ text fault, launch.answers (.readFile path) = .ok (Utf8.encode text) ∧
          launch.recordIn text = .error fault ∧ error = .document (launch.documents.message fault) := by
  unfold parametersIn Parameters.ofFile
  simp only [← bind_textOfBytes_eq_ok_iff, ← bind_textOfBytes_eq_error_iff]
  cases launch.answers (.readFile path) >>= textOfBytes with
  | error cause =>
    show Except.error (LoadError.file cause) = _ ↔ _
    simp [eq_comm]
  | ok text =>
    show (Parameters.parse launch.documents text).mapError _ = _ ↔ _
    rw [parse_eq]
    cases hrecord : launch.recordIn text with
    | error | ok => simp [Except.mapError, Except.map, hrecord, eq_comm]

theorem written?_eq_some_iff {written : Parameters × Option Path} :
    launch.written? = some written ↔ launch.Written written.1 written.2 := by
  obtain ⟨parameters, base⟩ := written
  unfold written?
  cases hconfig : launch.job.config with
  | none =>
    constructor
    · intro h
      cases h
      exact .nowhere hconfig
    · intro h
      cases h with
      | nowhere => rfl
      | file hfile => cases hconfig.symm.trans hfile
  | some path =>
    simp only [Option.map_eq_some_iff, toOption_eq_some_iff, parametersIn_eq_ok_iff]
    constructor
    · rintro ⟨parameters, ⟨text, record, hread, hrecord, htells⟩, heq⟩
      cases heq
      exact .file hconfig hread hrecord htells
    · intro h
      cases h with
      | nowhere hnone => cases hconfig.symm.trans hnone
      | file hfile hread hrecord htells =>
        cases hconfig.symm.trans hfile
        exact ⟨_, ⟨_, _, hread, hrecord, htells⟩, rfl⟩

theorem config?_eq_some_iff {config : Config} : launch.config? = some config ↔ launch.Configured config := by
  unfold config? Configured
  simp only [Option.bind_eq_some_iff, written?_eq_some_iff, toOption_eq_some_iff, Prod.exists,
    Parameters.resolve_eq_ok_iff]
  rfl

theorem setup?_eq_some_iff {setup : Setup} : launch.setup? = some setup ↔ launch.Reaches setup := by
  obtain ⟨compile, config, width, height, answers⟩ := setup
  unfold setup?
  simp only [Option.bind_eq_some_iff, Option.map_eq_some_iff, config?_eq_some_iff, size?_eq_some_iff, Prod.exists]
  constructor
  · rintro ⟨config, hconfig, width, height, hsize, heq⟩
    cases heq
    exact ⟨rfl, hconfig, hsize, rfl⟩
  · rintro ⟨hcompile, hconfig, hsize, hanswers⟩
    cases hcompile
    cases hanswers
    exact ⟨config, hconfig, width, height, hsize, rfl⟩

/-! ## The failures that are found -/

theorem isInstalled_iff : Video.isInstalled.run launch.answers = true ↔
    ∃ completion, launch.Completes versionCommand completion ∧ completion.exit = .success := by
  unfold Video.isInstalled Completes
  rw [Session.run_bind, Session.run_start]
  cases launch.answers (.start versionCommand) with
  | error cause => exact iff_of_false nofun nofun
  | ok program => simp [Exit.isSuccess]

theorem lacks_iff {text : List Char} {error : Video.VideoError} :
    Lacks text error ↔ parseProbe text = .error error := by
  rw [Video.parseProbe_eq_error_iff]
  constructor
  · intro h
    cases h with
    | width h => exact .inl ⟨rfl, h⟩
    | height hwidth h => exact .inr (.inl ⟨rfl, hwidth, h⟩)
    | rate hwidth hheight h => exact .inr (.inr ⟨rfl, hwidth, hheight, h⟩)
  · rintro (⟨rfl, h⟩ | ⟨rfl, hwidth, h⟩ | ⟨rfl, hwidth, hheight, h⟩)
    · exact .width h
    · exact .height hwidth h
    · exact .rate hwidth hheight h

/-- A configuration is refused with a complaint about its times. -/
theorem complains_iff {error : TransitionError} :
    (∃ message, launch.Complains message ∧ error = .configInvalid message) ↔
      ∃ parameters base, launch.Written parameters base ∧
        parameters.resolve base launch.job.overrides = .error error := by
  constructor
  · rintro ⟨message, hcomplains, rfl⟩
    cases hcomplains with
    | duration hwritten hchosen hbad =>
      exact ⟨_, _, hwritten, Parameters.resolve_of_not_isDuration hchosen (mt isDuration_iff.mp hbad)⟩
    | offset hwritten hduration hgood hchosen hbad =>
      exact ⟨_, _, hwritten, Parameters.resolve_of_not_isOffset hduration hchosen (isDuration_iff.mpr hgood)
        (mt isOffset_iff.mp hbad)⟩
  · rintro ⟨parameters, base, hwritten, hrefused⟩
    have hduration := chosen_getD defaultDuration launch.job.overrides.duration parameters.duration
    have hoffset := chosen_getD defaultOffset launch.job.overrides.offset parameters.offset
    by_cases hgood : IsDuration ((launch.job.overrides.duration.or parameters.duration).getD defaultDuration)
    · by_cases hfine : IsOffset ((launch.job.overrides.offset.or parameters.offset).getD defaultOffset)
      · obtain ⟨config, hconfig⟩ := Parameters.exists_resolve_iff.mpr ⟨hgood, hfine⟩
        cases hconfig.symm.trans hrefused
      · cases (Parameters.resolve_of_not_isOffset hduration hoffset hgood hfine).symm.trans hrefused
        exact ⟨_, .offset hwritten hduration (isDuration_iff.mp hgood) hoffset (mt isOffset_iff.mpr hfine), rfl⟩
    · cases (Parameters.resolve_of_not_isDuration hduration hgood).symm.trans hrefused
      exact ⟨_, .duration hwritten hduration (mt isDuration_iff.mpr hgood), rfl⟩

theorem fails_installed_iff : launch.Fails .installed failure ↔ launch.fault? .installed = some failure := by
  unfold fault?
  by_cases hinstalled : Video.isInstalled.run launch.answers = true
  · obtain ⟨completion, hcompletes, hexit⟩ := isInstalled_iff.mp hinstalled
    rw [if_pos hinstalled]
    refine iff_of_false ?_ nofun
    rintro ⟨h⟩
    exact h completion hcompletes hexit
  · rw [if_neg hinstalled, Option.some.injEq]
    constructor
    · rintro ⟨⟩
      rfl
    · rintro rfl
      exact .installed fun completion hcompletes hexit =>
        hinstalled (isInstalled_iff.mpr ⟨completion, hcompletes, hexit⟩)

theorem fails_rate_iff : launch.Fails .rate failure ↔ launch.fault? .rate = some failure := by
  have hunread : ∀ {text}, (∀ rate, ¬ WritesRate rate text) ↔ (Video.Rate.ofChars? text).isSome = false := by
    intro text
    simp only [← Video.ofChars?_eq_some_iff, Option.isSome_eq_false_iff, Option.isNone_iff_eq_none,
      Option.eq_none_iff_forall_ne_some, ne_eq]
  constructor
  · intro h
    cases h with
    | rate htask h => simp [fault?, htask, hunread.mp h]
  · intro h
    cases htask : launch.job.task with
    | still seconds => simp [fault?, htask] at h
    | video asked =>
      cases asked with
      | none => simp [fault?, htask] at h
      | some text =>
        simp only [fault?, htask, Option.ite_none_left_eq_some, Option.some.injEq] at h
        obtain ⟨hread, rfl⟩ := h
        exact .rate htask (hunread.mpr (Bool.eq_false_iff.mpr hread))

theorem fails_parameters_iff :
    launch.Fails .parameters failure ↔ launch.fault? .parameters = some failure := by
  have hfault : ∀ {path}, launch.job.config = some path →
      launch.fault? .parameters = (errorOf? (launch.parametersIn path)).map (.config path) := by
    intro path hconfig
    simp only [fault?, hconfig]
  constructor
  · intro h
    cases h with
    | unreadable hconfig h =>
      rw [hfault hconfig, errorOf?_eq_some_iff.mpr (parametersIn_eq_error_iff.mpr (.inl ⟨_, h, rfl⟩))]
      rfl
    | unfit hconfig hread h =>
      rw [hfault hconfig, errorOf?_eq_some_iff.mpr (parametersIn_eq_error_iff.mpr (.inr ⟨_, _, hread, h, rfl⟩))]
      rfl
  · intro h
    cases hconfig : launch.job.config with
    | none => simp [fault?, hconfig] at h
    | some path =>
      rw [hfault hconfig, Option.map_eq_some_iff] at h
      obtain ⟨error, herror, rfl⟩ := h
      rcases parametersIn_eq_error_iff.mp (errorOf?_eq_some_iff.mp herror) with
        ⟨cause, hcause, rfl⟩ | ⟨text, fault, hread, hfault, rfl⟩
      · exact .unreadable hconfig hcause
      · exact .unfit hconfig hread hfault

/-- The failures of the steps are those that are found. -/
theorem fails_iff : launch.Fails step failure ↔ launch.fault? step = some failure := by
  cases step with
  | installed => exact fails_installed_iff
  | rate => exact fails_rate_iff
  | parameters => exact fails_parameters_iff
  | interrupts =>
    simp only [fault?, Option.map_eq_some_iff, errorOf?_eq_some_iff]
    constructor
    · rintro ⟨⟩
      exact ⟨_, ‹_›, rfl⟩
    · rintro ⟨error, h, rfl⟩
      exact .interrupts h
  | probeStarted =>
    simp only [fault?, Option.map_eq_some_iff, errorOf?_eq_some_iff]
    constructor
    · rintro ⟨⟩
      exact ⟨_, ‹_›, rfl⟩
    · rintro ⟨cause, h, rfl⟩
      exact .probeStarted h
  | probeSucceeded =>
    simp only [fault?, Option.bind_eq_some_iff, completion?_eq_some_iff, Option.ite_none_left_eq_some,
      Option.some.injEq, Exit.isSuccess, decide_eq_true_eq]
    constructor
    · rintro ⟨⟩
      exact ⟨_, ‹_›, ‹_›, rfl⟩
    · rintro ⟨completion, h, hexit, rfl⟩
      exact .probeSucceeded h hexit
  | probeText =>
    simp only [fault?, Option.bind_eq_some_iff, completion?_eq_some_iff, Option.map_eq_some_iff,
      errorOf?_eq_some_iff]
    constructor
    · rintro ⟨⟩
      exact ⟨_, ‹_›, _, ‹_›, rfl⟩
    · rintro ⟨completion, h, fault, hfault, rfl⟩
      exact .probeText h hfault
  | probeParsed =>
    simp only [fault?, Option.bind_eq_some_iff, text?_eq_some_iff, Option.map_eq_some_iff, errorOf?_eq_some_iff,
      ← lacks_iff]
    constructor
    · rintro ⟨⟩
      exact ⟨_, ‹_›, _, ‹_›, rfl⟩
    · rintro ⟨text, hprints, error, h, rfl⟩
      exact .probeParsed hprints h
  | image =>
    simp only [fault?, picture, Option.map_eq_some_iff, errorOf?_eq_some_iff]
    constructor
    · rintro ⟨⟩
      exact ⟨_, ‹_›, rfl⟩
    · rintro ⟨error, h, rfl⟩
      exact .image h
  | configuration =>
    simp only [fault?, Option.bind_eq_some_iff, written?_eq_some_iff, Option.map_eq_some_iff,
      errorOf?_eq_some_iff, Prod.exists]
    constructor
    · rintro ⟨⟩
      obtain ⟨parameters, base, hwritten, hrefused⟩ := complains_iff.mp ⟨_, ‹_›, rfl⟩
      exact ⟨parameters, base, hwritten, _, hrefused, rfl⟩
    · rintro ⟨parameters, base, hwritten, error, hrefused, rfl⟩
      obtain ⟨message, hcomplains, rfl⟩ := complains_iff.mpr ⟨parameters, base, hwritten, hrefused⟩
      exact .configuration hcomplains
  | setup step =>
    simp only [fault?, Option.bind_eq_some_iff, setup?_eq_some_iff, Option.map_eq_some_iff, ← Setup.fails_iff]
    constructor
    · rintro ⟨⟩
      exact ⟨_, ‹_›, _, ‹_›, rfl⟩
    · rintro ⟨setup, hreaches, error, h, rfl⟩
      exact .setup hreaches h

theorem passes_iff : launch.Passes step ↔ launch.fault? step = none := by
  unfold Passes
  simp only [fails_iff, Option.eq_none_iff_forall_ne_some, ne_eq]

/-- A step asks what it is carried out with, if it is reached. -/
theorem asks_of_reached (h : ∀ inner, step = .setup inner → ∃ setup, launch.setup? = some setup) :
    launch.Asks step (launch.asks step) := by
  cases step with
  | installed => exact .installed
  | interrupts => exact .interrupts
  | probeStarted => exact .probeStarted
  | image => exact .image
  | parameters => exact .parameters
  | probeSucceeded | probeText | probeParsed | rate | configuration => exact .silent (by decide)
  | setup inner =>
    obtain ⟨setup, hsetup⟩ := h inner rfl
    unfold asks
    rw [hsetup]
    exact .setup (setup?_eq_some_iff.mp hsetup)

end Launch

end FrameTransition.CommandLine
