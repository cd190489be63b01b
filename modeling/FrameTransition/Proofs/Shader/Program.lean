import FrameTransition.Shader.Program

/-!
# What a program is made of

A program is built in steps, and one that fails ends the build. Read backwards, a program that was built says
that every step succeeded and with what (`buildProgram_eq_ok_iff`), so nothing that is proved of programs has
to go through the steps again.
-/

namespace FrameTransition.Shader

/-! ## Steps that may fail -/

/-- Two steps succeed just if the first does and the second does with what the first gave. -/
theorem bind_eq_ok_iff {ε α β : Type} {first : Except ε α} {next : α → Except ε β} {value : β} :
    (first >>= next) = .ok value ↔ ∃ middle, first = .ok middle ∧ next middle = .ok value := by
  cases first with
  | error error =>
    constructor
    · intro h
      cases h
    · rintro ⟨middle, hmiddle, -⟩
      cases hmiddle
  | ok middle =>
    constructor
    · intro h
      exact ⟨middle, rfl, h⟩
    · rintro ⟨_, hmiddle, h⟩
      cases hmiddle
      exact h

theorem eq_ok_of_toOption {ε α : Type} {result : Except ε α} {value : α} (h : result.toOption = some value) :
    result = .ok value := by
  cases result with
  | error error => cases h
  | ok found => exact congrArg Except.ok (Option.some.inj h)

/-! ## The build -/

section Build

variable {compile : Compiler}

theorem compileStage_eq_ok_iff {stage : Stage} {kind : EntryKind} {text : List Char}
    {interface : StageInterface} :
    compileStage compile stage kind text = .ok interface ↔
      compile kind text = .ok interface ∧ (interface.main? kind).isSome := by
  unfold compileStage
  cases compile kind text with
  | error diagnostic => simp only [reduceCtorEq, false_and]
  | ok compiled =>
    by_cases hmain : (compiled.main? kind).isSome
    · simp only [hmain, if_true, Except.ok.injEq]
      constructor
      · rintro rfl
        exact ⟨rfl, hmain⟩
      · exact And.left
    · simp only [hmain, Except.ok.injEq]
      constructor
      · intro h
        cases h
      · rintro ⟨rfl, h⟩
        exact absurd h hmain

theorem buildProgram_eq_ok_iff {vertexText fragmentText : List Char} {program : Shader.Program} :
    buildProgram compile vertexText fragmentText = .ok program ↔
      compileStage compile .vertex .vertex vertexText = .ok program.vertex ∧
      compileStage compile .fragment .fragment fragmentText = .ok program.fragment ∧
      link program.vertex program.fragment = .ok program.positionLocation := by
  unfold buildProgram
  simp only [bind_eq_ok_iff]
  constructor
  · rintro ⟨vertex, hvertex, fragment, hfragment, location, hlink, hbuilt⟩
    cases hbuilt
    exact ⟨hvertex, hfragment, hlink⟩
  · rintro ⟨hvertex, hfragment, hlink⟩
    exact ⟨program.vertex, hvertex, program.fragment, hfragment, program.positionLocation, hlink, rfl⟩

end Build

end FrameTransition.Shader
