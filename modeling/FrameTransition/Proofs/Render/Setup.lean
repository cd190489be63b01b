import FrameTransition.Proofs.Session.Steps
import FrameTransition.Proofs.Shader.Linking
import FrameTransition.Proofs.Shader.Relevance
import FrameTransition.Proofs.Text.Utf8
import FrameTransition.Render.History

/-!
# The steps of configuring

Configuring has seven steps in a fixed order. `Setup.Fails` says of each step on its own with which error it
fails, so that several can fail for the same renderer. It goes by the answers of the host and the verdict of
the compiler: what a file holds, which texts are refused, and what linking and resolution are to answer for
the stages. `Setup.asks` says what a step asks of the host.

`fails_iff` shows that these are the faults that configuring finds, and `follows_build` puts the steps
together: configuring reports the fault of the first step that has one, and the steps up to that one are the
ones performed.

A step works on what earlier steps made. Where that was not made the step has no fault of its own, and
it is not reached.
-/

namespace FrameTransition.Render

open Shader (StageInterface EntryKind)

/-- The steps of configuring. -/
inductive SetupStep where
  | size
  | snippet
  | vertex
  | fragment
  | link
  | uniforms
  | device
  deriving DecidableEq

/-- The steps in their order. -/
def SetupStep.all : List SetupStep := [size, snippet, vertex, fragment, link, uniforms, device]

/-- Everything that configuring depends on. -/
structure Setup where
  compile : Shader.Compiler
  config : Config
  width : Nat
  height : Nat
  answers : Answers

namespace Setup

variable (setup : Setup)

/-! ## What the host and the compiler say -/

/-- The text that the source stands for: its own, or what its file holds. `none` is the built-in one. -/
inductive Given : Option (List Char) → Prop
  | builtin (hsource : setup.config.source = .builtin) : Given none
  | inline {text : List Char} (hsource : setup.config.source = .inline text) : Given (some text)
  | file {path : Path} {text : List Char} (hsource : setup.config.source = .file path)
      (hread : setup.answers (.readFile path) = .ok (Utf8.encode text)) : Given (some text)

/-- The compiler takes a text as a stage with an entry point called `main`. -/
def Compiles (kind : EntryKind) (text : List Char) (stage : StageInterface) : Prop :=
  setup.compile kind text = .ok stage ∧ ∃ entry, stage.IsMain kind entry

/-- The compiler takes a text for no stage, or for one that has no entry point called `main`. -/
inductive Refuses (kind : EntryKind) (text : List Char) : String → Prop
  | refused {diagnostic : String} (h : setup.compile kind text = .error diagnostic) :
      Refuses kind text diagnostic
  | lacksMain {stage : StageInterface} (h : setup.compile kind text = .ok stage)
      (hmain : stage.LacksMain kind) : Refuses kind text "no \x60main\x60 entry point"

/-- The error that a step fails with on what it works on. -/
inductive Fails : SetupStep → TransitionError → Prop
  | size (h : setup.width = 0 ∨ setup.height = 0) :
      Fails .size (.configInvalid s!"frame dimensions must be non-zero, got {setup.width}x{setup.height}")
  /-- The file of the snippet cannot be read, or is no text. -/
  | snippet {path : Path} {cause : FileError} (hsource : setup.config.source = .file path)
      (h : NoText (setup.answers (.readFile path)) cause) : Fails .snippet (.sourceUnavailable path cause)
  | vertex {diagnostic : String} (h : setup.Refuses .vertex Snippet.vertexShader.toList diagnostic) :
      Fails .vertex (.shaderCompileFailed .vertex diagnostic)
  | fragment {snippet : Option (List Char)} {diagnostic : String} (hgiven : setup.Given snippet)
      (h : setup.Refuses .fragment (Snippet.assemble snippet) diagnostic) :
      Fails .fragment (.shaderCompileFailed .fragment diagnostic)
  | link {snippet : Option (List Char)} {vertex fragment : StageInterface} {error : Shader.LinkError}
      (hvertex : setup.Compiles .vertex Snippet.vertexShader.toList vertex) (hgiven : setup.Given snippet)
      (hfragment : setup.Compiles .fragment (Snippet.assemble snippet) fragment)
      (h : Shader.Links vertex fragment (.error error)) : Fails .link (.shaderLinkFailed error.message)
  | uniforms {snippet : Option (List Char)} {fragment : StageInterface} {fault : Shader.Fault}
      (hgiven : setup.Given snippet)
      (hfragment : setup.Compiles .fragment (Snippet.assemble snippet) fragment)
      (h : Shader.Resolves fragment.globals (.error fault)) :
      Fails .uniforms (.shaderLinkFailed fault.diagnostic)
  | device {error : TransitionError} (h : setup.answers (.acquire setup.width setup.height) = .error error) :
      Fails .device error

/-- A step has no error to fail with. -/
def Passes (step : SetupStep) : Prop :=
  ∀ error, ¬ setup.Fails step error

/-- What a step asks of the host. -/
def asks : SetupStep → List Request
  | .snippet =>
    match setup.config.source with
    | .file path => [.readFile path]
    | _ => []
  | .device => [.acquire setup.width setup.height]
  | _ => []

/-! ## What configuring makes -/

/-- The snippet as it is loaded. -/
def snippet : Except TransitionError (Option (List Char)) :=
  setup.config.source.load.run setup.answers

/-- The compiled vertex stage. -/
def vertex : Except Shader.Fault StageInterface :=
  Shader.compileStage setup.compile .vertex .vertex Snippet.vertexShader.toList

/-- The compiled fragment stage of a snippet. -/
def fragment (snippet : Option (List Char)) : Except Shader.Fault StageInterface :=
  Shader.compileStage setup.compile .fragment .fragment (Snippet.assemble snippet)

/-- The fragment stage, where there is a snippet and it compiles. -/
def fragment? : Option StageInterface :=
  setup.snippet.toOption.bind fun snippet => (setup.fragment snippet).toOption

/-- The error of a step as it is found. -/
def fault? : SetupStep → Option TransitionError
  | .size => errorOf? (Renderer.checkDimensions setup.width setup.height)
  | .snippet => errorOf? setup.snippet
  | .vertex => (errorOf? setup.vertex).map .ofFault
  | .fragment => setup.snippet.toOption.bind fun snippet => (errorOf? (setup.fragment snippet)).map .ofFault
  | .link => setup.vertex.toOption.bind fun vertex => setup.fragment?.bind fun fragment =>
    (errorOf? (Shader.link vertex fragment)).map .ofFault
  | .uniforms => setup.fragment?.bind fun fragment =>
    (errorOf? (Shader.UniformLayout.resolve fragment)).map .ofFault
  | .device => errorOf? (setup.answers (.acquire setup.width setup.height))

/-- The steps of configuring, as steps of a session. -/
def plan : Steps SetupStep TransitionError :=
  ⟨setup.fault?, setup.asks⟩

variable {setup} {step : SetupStep} {steps : List SetupStep} {error : TransitionError}

/-! ## The faults that are found -/

/-- A snippet in a file is what the file holds. -/
theorem snippet_of_file {path : Path} (hsource : setup.config.source = .file path) :
    setup.snippet = ((setup.answers (.readFile path) >>= textOfBytes).mapError
      (TransitionError.sourceUnavailable path)).map some := by
  unfold Setup.snippet
  rw [hsource]
  rfl

theorem given_iff {snippet : Option (List Char)} : setup.Given snippet ↔ setup.snippet = .ok snippet := by
  constructor
  · intro h
    cases h with
    | builtin hsource | inline hsource =>
      unfold Setup.snippet
      rw [hsource]
      rfl
    | file hsource hread =>
      rw [snippet_of_file hsource, bind_textOfBytes_eq_ok_iff.mpr hread]
      rfl
  · intro h
    cases hsource : setup.config.source with
    | builtin | inline text =>
      unfold Setup.snippet at h
      rw [hsource] at h
      cases h
      first | exact .builtin hsource | exact .inline hsource
    | file path =>
      rw [snippet_of_file hsource] at h
      cases htext : setup.answers (.readFile path) >>= textOfBytes with
      | error cause =>
        rw [htext] at h
        cases h
      | ok text =>
        rw [htext] at h
        cases h
        exact .file hsource (bind_textOfBytes_eq_ok_iff.mp htext)

theorem snippet_eq_error_iff : setup.snippet = .error error ↔ ∃ path cause,
    setup.config.source = .file path ∧ NoText (setup.answers (.readFile path)) cause ∧
      error = .sourceUnavailable path cause := by
  constructor
  · intro h
    cases hsource : setup.config.source with
    | builtin | inline text =>
      unfold Setup.snippet at h
      rw [hsource] at h
      cases h
    | file path =>
      rw [snippet_of_file hsource] at h
      cases htext : setup.answers (.readFile path) >>= textOfBytes with
      | error cause =>
        rw [htext] at h
        cases h
        exact ⟨path, cause, rfl, bind_textOfBytes_eq_error_iff.mp htext, rfl⟩
      | ok text =>
        rw [htext] at h
        cases h
  · rintro ⟨path, cause, hsource, hcause, rfl⟩
    rw [snippet_of_file hsource, bind_textOfBytes_eq_error_iff.mpr hcause]
    rfl

section Stages

variable {stage : Shader.Stage} {kind : EntryKind} {text : List Char}

theorem compiles_iff {interface : StageInterface} :
    setup.Compiles kind text interface ↔
      Shader.compileStage setup.compile stage kind text = .ok interface := by
  unfold Compiles Shader.compileStage
  cases hcompile : setup.compile kind text with
  | error diagnostic => simp
  | ok found =>
    dsimp only
    cases hmain : found.main? kind with
    | none =>
      have hlacks := Shader.main?_eq_none_iff.mp hmain
      simp only [Option.isSome_none, Bool.false_eq_true, if_false, reduceCtorEq, iff_false]
      rintro ⟨hfound, entry, hentry⟩
      cases hfound
      exact hlacks entry hentry.mem hentry.holds.1 hentry.holds.2
    | some entry =>
      simp only [Option.isSome_some, if_true, Except.ok.injEq, and_iff_left_iff_imp]
      rintro rfl
      exact ⟨entry, Shader.main?_eq_some_iff.mp hmain⟩

theorem refuses_iff {diagnostic : String} : setup.Refuses kind text diagnostic ↔
    Shader.compileStage setup.compile stage kind text = .error ⟨stage, diagnostic⟩ := by
  unfold Shader.compileStage
  constructor
  · intro h
    cases h with
    | refused h => rw [h]
    | lacksMain h hmain =>
      rw [h]
      dsimp only
      rw [Shader.main?_eq_none_iff.mpr hmain]
      rfl
  · intro h
    cases hcompile : setup.compile kind text with
    | error said =>
      rw [hcompile] at h
      cases h
      exact .refused hcompile
    | ok found =>
      rw [hcompile] at h
      dsimp only at h
      cases hmain : found.main? kind with
      | none =>
        rw [hmain] at h
        cases h
        exact .lacksMain hcompile (Shader.main?_eq_none_iff.mp hmain)
      | some entry =>
        rw [hmain] at h
        cases h

/-- A stage that does not compile is the one that is reported. -/
theorem stage_of_compileStage {compile : Shader.Compiler} {fault : Shader.Fault}
    (h : Shader.compileStage compile stage kind text = .error fault) : fault.stage = stage := by
  unfold Shader.compileStage at h
  split at h
  · cases h
    rfl
  · split at h
    · cases h
    · cases h
      rfl

end Stages

theorem fragment?_eq_some_iff {stage : StageInterface} : setup.fragment? = some stage ↔
    ∃ snippet, setup.Given snippet ∧ setup.Compiles .fragment (Snippet.assemble snippet) stage := by
  unfold fragment?
  rw [Option.bind_eq_some_iff]
  refine exists_congr fun snippet => ?_
  rw [toOption_eq_some_iff, toOption_eq_some_iff, given_iff, @compiles_iff _ .fragment]
  rfl

/-- The error of a refused stage, as it is found. -/
theorem fault_of_compileStage_iff {stage : Shader.Stage} {kind : EntryKind} {text : List Char}
    (hstage : stage ≠ .link) :
    (errorOf? (Shader.compileStage setup.compile stage kind text)).map TransitionError.ofFault = some error ↔
      ∃ diagnostic, setup.Refuses kind text diagnostic ∧ error = .shaderCompileFailed stage diagnostic := by
  have hreport : ∀ diagnostic,
      TransitionError.ofFault ⟨stage, diagnostic⟩ = .shaderCompileFailed stage diagnostic := by
    intro diagnostic
    cases stage with
    | link => exact absurd rfl hstage
    | vertex | fragment => rfl
  rw [Option.map_eq_some_iff]
  constructor
  · rintro ⟨⟨origin, diagnostic⟩, hfault, rfl⟩
    have hfault := errorOf?_eq_some_iff.mp hfault
    obtain rfl : origin = stage := stage_of_compileStage hfault
    exact ⟨diagnostic, refuses_iff.mpr hfault, hreport diagnostic⟩
  · rintro ⟨diagnostic, hrefused, rfl⟩
    exact ⟨⟨stage, diagnostic⟩, errorOf?_eq_some_iff.mpr (refuses_iff.mp hrefused), hreport diagnostic⟩

/-- The faults of the steps are those that are found. -/
theorem fails_iff : setup.Fails step error ↔ setup.fault? step = some error := by
  cases step with
  | size =>
    rw [fault?, errorOf?_eq_some_iff, Renderer.checkDimensions]
    constructor
    · rintro ⟨h⟩
      rw [if_pos h]
    · intro h
      split_ifs at h with hzero
      cases h
      exact .size hzero
  | snippet =>
    rw [fault?, errorOf?_eq_some_iff, snippet_eq_error_iff]
    constructor
    · rintro ⟨⟩
      exact ⟨_, _, ‹_›, ‹_›, rfl⟩
    · rintro ⟨path, cause, hsource, hcause, rfl⟩
      exact .snippet hsource hcause
  | vertex =>
    rw [fault?, vertex, fault_of_compileStage_iff (by decide)]
    constructor
    · rintro ⟨⟩
      exact ⟨_, ‹_›, rfl⟩
    · rintro ⟨diagnostic, hrefused, rfl⟩
      exact .vertex hrefused
  | fragment =>
    rw [fault?, Option.bind_eq_some_iff]
    simp only [toOption_eq_some_iff, ← given_iff, fragment,
      fault_of_compileStage_iff (by decide : Shader.Stage.fragment ≠ .link)]
    constructor
    · rintro ⟨⟩
      exact ⟨_, ‹_›, _, ‹_›, rfl⟩
    · rintro ⟨snippet, hgiven, diagnostic, hrefused, rfl⟩
      exact .fragment hgiven hrefused
  | link =>
    simp only [fault?, Option.bind_eq_some_iff, fragment?_eq_some_iff, toOption_eq_some_iff, vertex, ← compiles_iff,
      Shader.link, errorOf?_mapError, Option.map_map, Option.map_eq_some_iff, errorOf?_eq_some_iff, ← Shader.links_iff]
    constructor
    · rintro ⟨⟩
      exact ⟨_, ‹_›, _, ⟨_, ‹_›, ‹_›⟩, _, ‹_›, rfl⟩
    · rintro ⟨vertex, hvertex, fragment, ⟨snippet, hgiven, hfragment⟩, fault, hlinks, rfl⟩
      exact .link hvertex hgiven hfragment hlinks
  | uniforms =>
    simp only [fault?, Option.bind_eq_some_iff, fragment?_eq_some_iff, Option.map_eq_some_iff, errorOf?_eq_some_iff,
      ← Shader.UniformLayout.resolves_iff]
    have hreport : ∀ {globals fault}, Shader.Resolves globals (.error fault) →
        TransitionError.ofFault fault = .shaderLinkFailed fault.diagnostic := by
      rintro globals fault ⟨⟩
      rfl
    constructor
    · rintro ⟨⟩
      exact ⟨_, ⟨_, ‹_›, ‹_›⟩, _, ‹_›, hreport ‹_›⟩
    · rintro ⟨fragment, ⟨snippet, hgiven, hfragment⟩, fault, hresolves, rfl⟩
      rw [hreport hresolves]
      exact .uniforms hgiven hfragment hresolves
  | device =>
    rw [fault?, errorOf?_eq_some_iff]
    constructor
    · intro h
      cases h with
      | device h => exact h
    · exact .device

theorem passes_iff : setup.Passes step ↔ setup.fault? step = none := by
  unfold Passes
  simp only [fails_iff, Option.eq_none_iff_forall_ne_some, ne_eq]

/-! ## All seven steps -/

/-- A result of the build of a program, as a session that asks nothing. -/
def built {α : Type} (result : Except Shader.Fault α) : ExceptT TransitionError Session α :=
  ExceptT.mk (return result.mapError .ofFault)

theorem built_bind {α β : Type} (result : Except Shader.Fault α) (next : α → Except Shader.Fault β) :
    built (result >>= next) = built result >>= fun value => built (next value) := by
  cases result with
  | error | ok => rfl

theorem run_built {α : Type} {result : Except Shader.Fault α} {answers : Answers} {value : α}
    (h : (built result).run.run answers = .ok value) : result = .ok value := by
  cases result with
  | error fault => cases h
  | ok found =>
    cases h
    rfl

/-- A result of the build of a program is a step, if it fails as that does. -/
theorem follows_built {α : Type} {result : Except Shader.Fault α}
    (hfault : setup.fault? step = (errorOf? result).map .ofFault) (hsilent : setup.asks step = []) :
    setup.plan.Follows setup.answers (built result).run [step] :=
  .single (hfault.trans (errorOf?_mapError _ result).symm) hsilent.symm

/-- The program and the layout are made in four steps. -/
theorem prepare_eq (snippet : Option (List Char)) :
    Renderer.prepare setup.compile snippet =
      (setup.vertex >>= fun vertex => setup.fragment snippet >>= fun fragment =>
        Shader.link vertex fragment >>= fun positionLocation =>
          Shader.UniformLayout.resolve fragment >>= fun layout =>
            return ({ vertex, fragment, positionLocation }, layout)) := by
  unfold Renderer.prepare Shader.buildProgram
  simp only [bind_assoc, pure_bind]
  rfl

theorem follows_prepare {snippet : Option (List Char)} (hsnippet : setup.snippet = .ok snippet) :
    setup.plan.Follows setup.answers (built (Renderer.prepare setup.compile snippet)).run
      [.vertex, .fragment, .link, .uniforms] := by
  have hgiven : setup.snippet.toOption = some snippet := toOption_eq_some_iff.mpr hsnippet
  simp only [prepare_eq, built_bind]
  have hvertex : setup.plan.Follows setup.answers (built setup.vertex).run [.vertex] := follows_built rfl rfl
  refine hvertex.bind fun vertex hrun => ?_
  have hvertex : setup.vertex.toOption = some vertex := toOption_eq_some_iff.mpr (run_built hrun)
  have hfragment : setup.plan.Follows setup.answers (built (setup.fragment snippet)).run [.fragment] :=
    follows_built (by rw [fault?, hgiven, Option.bind_some]) rfl
  refine hfragment.bind fun fragment hrun => ?_
  have hfragment : setup.fragment? = some fragment := by
    rw [fragment?, hgiven, Option.bind_some, toOption_eq_some_iff.mpr (run_built hrun)]
  have hlink : setup.plan.Follows setup.answers (built (Shader.link vertex fragment)).run [.link] :=
    follows_built (by rw [fault?, hvertex, hfragment, Option.bind_some, Option.bind_some]) rfl
  refine hlink.bind fun location _ => ?_
  have huniforms : setup.plan.Follows setup.answers (built (Shader.UniformLayout.resolve fragment)).run
      [.uniforms] := follows_built (by rw [fault?, hfragment, Option.bind_some]) rfl
  exact huniforms.bind_pure fun layout =>
    ((⟨vertex, fragment, location⟩, layout) : Shader.Program × Shader.UniformLayout)

theorem follows_load : setup.plan.Follows setup.answers
    (ExceptT.mk setup.config.source.load : ExceptT TransitionError Session _).run [.snippet] := by
  refine .single rfl ?_
  show _ = setup.asks .snippet
  unfold asks
  cases hsource : setup.config.source with
  | builtin | inline | file => rfl

/-- Configuring is the seven steps. -/
theorem follows_build :
    setup.plan.Follows setup.answers
      (Renderer.build setup.compile setup.config setup.width setup.height).run SetupStep.all := by
  have hsize : setup.plan.Follows setup.answers
      (ExceptT.mk (return Renderer.checkDimensions setup.width setup.height) :
        ExceptT TransitionError Session Unit).run [.size] := .single rfl rfl
  have hdevice : setup.plan.Follows setup.answers
      (ExceptT.mk (Session.acquire setup.width setup.height)).run [.device] := .single rfl rfl
  refine hsize.bind fun _ _ => follows_load.bind fun snippet hsnippet => ?_
  refine (follows_prepare hsnippet).bind fun (program, layout) _ => ?_
  exact hdevice.bind_pure fun _ => Resources.create program layout setup.width setup.height

end Setup

end FrameTransition.Render
