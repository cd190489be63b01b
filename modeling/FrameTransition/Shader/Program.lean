import FrameTransition.Shader.Link

/-!
# Building a program

A program is a vertex and a fragment stage that fit together. How the text of a stage is compiled is an
argument: a `Compiler` says for each stage which texts it takes and what they show.
-/

namespace FrameTransition.Shader

/-- Compiles the text of a vertex or a fragment stage, or says what is wrong with it. -/
abbrev Compiler := EntryKind → List Char → Except String StageInterface

/-- A vertex and a fragment stage that fit together. -/
structure Program where
  vertex : StageInterface
  fragment : StageInterface
  /-- The location of the vertex attribute for the quad's positions. -/
  positionLocation : Nat

/-- Compiles one stage. It must have an entry point called `main`. -/
def compileStage (compile : Compiler) (stage : Stage) (kind : EntryKind) (text : List Char) :
    Except Fault StageInterface :=
  match compile kind text with
  | .error diagnostic => .error ⟨stage, diagnostic⟩
  | .ok interface =>
    if (interface.main? kind).isSome then .ok interface
    else .error ⟨stage, "no \x60main\x60 entry point"⟩

/-- Compiles both stages and links them. The first failing step is the one reported. -/
def buildProgram (compile : Compiler) (vertexText fragmentText : List Char) : Except Fault Program := do
  let vertex ← compileStage compile .vertex .vertex vertexText
  let fragment ← compileStage compile .fragment .fragment fragmentText
  let positionLocation ← link vertex fragment
  return { vertex, fragment, positionLocation }

end FrameTransition.Shader
