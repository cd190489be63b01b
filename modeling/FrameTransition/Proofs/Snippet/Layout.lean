import FrameTransition.Glsl.Compile
import FrameTransition.Proofs.Shader.Program
import FrameTransition.Proofs.Shader.Resolution
import FrameTransition.Proofs.Snippet.ParameterBlock
import FrameTransition.Render.Renderer

/-!
# The layout of an assembled shader

The template declares three resources in group 0: the frame's image at binding 0, its sampler at 1 and the
parameter block at 2. A compiler is relied on to list them in this order, and behind them whatever the
snippet declares itself (`Declares`).

Resolution knows a block by its members and the others by name and type, and takes the last of each role.
So a resource of the snippet that has a role comes before the template's: `layout_of_prepare` says what the
layout is then, and `isTemplate_iff` when it is still the template's.
-/

namespace FrameTransition.Snippet

open FrameTransition.Shader

/-! ## Resources -/

/-- The resources the template declares, with a type for the block. Members of a block without a name of
its own are plain identifiers. -/
def templateResources (block : Ty) : List Global :=
  [⟨some textureName, .handle, some ⟨0, 0⟩, .image .picture⟩,
    ⟨some samplerName, .handle, some ⟨0, 1⟩, .sampler false⟩,
    ⟨none, .uniform, some ⟨0, 2⟩, block⟩]

/-- The resources of a stage are the template's, with a block for lifted members, and then others. -/
def Declares (stage : StageInterface) (members : List Snippet.Member) (own : List Global) : Prop :=
  ∃ block, parameterBlock? members = some block ∧ stage.resources = templateResources block ++ own

/-- The parameter block of the template in a layout. -/
def templateBlock (size : Nat) : ParamsBlock :=
  ⟨2, size, some 0, some 8⟩

/-- The layout of the template alone. -/
def templateLayout (size : Nat) : UniformLayout :=
  ⟨some 0, some 1, some (templateBlock size)⟩

/-- The image, the sampler and the parameters are where the template declares them. -/
def IsTemplate (layout : UniformLayout) : Prop :=
  ∃ size, layout = templateLayout size

/-- The resources of a snippet leave the three roles to the template, or play them in the same place. -/
structure KeepsTemplate (own : List Global) : Prop where
  texture : ∀ binding, lastOf Role.texture? own = some binding → binding = 0
  sampler : ∀ binding, lastOf Role.sampler? own = some binding → binding = 1
  params : ∀ block, lastOf Role.params? own = some block → block = templateBlock block.size

theorem overwrite_templateResources (lifted : List Shader.Member) (size : Nat) :
    UniformLayout.empty.overwrite (templateResources (parameterBlock lifted size)) = templateLayout size :=
  rfl

theorem isTemplate_overwrite_iff {size : Nat} {own : List Global} :
    IsTemplate ((templateLayout size).overwrite own) ↔ KeepsTemplate own := by
  constructor
  · rintro ⟨total, htotal⟩
    have htexture := congrArg UniformLayout.texture htotal
    have hsampler := congrArg UniformLayout.sampler htotal
    have hparams := congrArg UniformLayout.params htotal
    refine ⟨fun binding hlast => ?_, fun binding hlast => ?_, fun block hlast => ?_⟩
    · rw [UniformLayout.overwrite, hlast] at htexture
      exact Option.some.inj htexture
    · rw [UniformLayout.overwrite, hlast] at hsampler
      exact Option.some.inj hsampler
    · rw [UniformLayout.overwrite, hlast] at hparams
      have hblock : block = templateBlock total := Option.some.inj hparams
      rw [hblock]
      rfl
  · intro h
    have htexture : (lastOf Role.texture? own).or (some 0) = some 0 := by
      cases hlast : lastOf Role.texture? own with
      | none => rfl
      | some binding => exact congrArg some (h.texture binding hlast)
    have hsampler : (lastOf Role.sampler? own).or (some 1) = some 1 := by
      cases hlast : lastOf Role.sampler? own with
      | none => rfl
      | some binding => exact congrArg some (h.sampler binding hlast)
    cases hlast : lastOf Role.params? own with
    | none =>
      refine ⟨size, ?_⟩
      simp only [UniformLayout.overwrite, templateLayout, htexture, hsampler, hlast, Option.none_or]
    | some block =>
      refine ⟨block.size, ?_⟩
      simp only [UniformLayout.overwrite, templateLayout, htexture, hsampler, hlast, Option.some_or]
      rw [← h.params block hlast]

/-! ## From the text to the layout -/

/-- The text of an assembled shader, line by line. -/
theorem assemble_eq_lines (snippet : List Char) :
    assemble (some snippet) =
      "#version 450\n".toList ++ ("layout(location = 0) in vec2 _uv;\n".toList ++
      ("layout(location = 0) out vec4 _fragColor;\n".toList ++ ("\n".toList ++
      ("layout(set = 0, binding = 0) uniform texture2D _to_texture;\n".toList ++
      ("layout(set = 0, binding = 1) uniform sampler _to_sampler;\n".toList ++ ("\n".toList ++
      ("layout(std140, set = 0, binding = 2) uniform TransitionParams \x7b\n".toList ++
      ("    float progress;\n".toList ++ ("    vec2 resolution;\n".toList ++
      ((sanitize snippet).members.flatMap memberLine ++ ("\x7d;\n".toList ++ ("\n".toList ++
      ("#define to sampler2D(_to_texture, _to_sampler)\n".toList ++
      ("#define texture2D texture\n".toList ++ ("\n#line 1\n".toList ++
      ((sanitize snippet).body ++ ("\n".toList ++ ("void main() \x7b\n".toList ++
      ("    _fragColor = transition(_uv);\n".toList ++ "\x7d\n".toList))))))))))))))))))) := by
  rw [assemble, header]
  unfold prelude blockStart blockEnd defines lineMark footer
  simp only [String.toList_append, List.append_assoc, Option.getD_some]

/-- What the vertex stage of every transition shows. -/
def vertexInterface : StageInterface where
  entryPoints := [⟨"main", .vertex, [⟨some "position", .vector .two .float32, some (.location 0)⟩],
    some ⟨.record "" (.ofList [⟨some "_uv", .vector .two .float32, some (.location 0), 0⟩,
      ⟨some "gl_Position", .vector .four .float32, some (.builtin "position"), 0⟩]) 0, none⟩⟩]
  globals := [⟨some "position", .invocation, none, .vector .two .float32⟩,
    ⟨some "_uv", .invocation, none, .vector .two .float32⟩,
    ⟨some "gl_Position", .invocation, none, .vector .four .float32⟩]

/-- What a fragment stage with the template's input and output shows. -/
def fragmentInterface (resources : List Global) : StageInterface where
  entryPoints := [⟨"main", .fragment, [⟨some "_uv", .vector .two .float32, some (.location 0)⟩],
    some ⟨.record "" (.ofList [⟨some "_fragColor", .vector .four .float32, some (.location 0), 0⟩]) 0,
      none⟩⟩]
  globals := [⟨some "_uv", .invocation, none, .vector .two .float32⟩,
    ⟨some "_fragColor", .invocation, none, .vector .four .float32⟩] ++ resources

theorem compile_vertexShader : Glsl.compile .vertex vertexShader.toList = .ok vertexInterface := by
  -- Of one long text the kernel cannot read the characters in reasonable time; of short lines it can.
  have hlines : vertexShader.toList =
      "#version 450\n".toList ++ "layout(location = 0) in vec2 position;\n".toList ++
        "layout(location = 0) out vec2 _uv;\n".toList ++ "\n".toList ++ "void main() \x7b\n".toList ++
        "    gl_Position = vec4(position, 0.0, 1.0);\n".toList ++
        "    _uv = position * 0.5 + 0.5;\n".toList ++ "\x7d\n".toList := by
    unfold vertexShader
    simp only [String.toList_append]
  apply eq_ok_of_toOption
  rw [hlines]
  decide +kernel

/-- What a program and a layout are made of. -/
theorem prepare_eq_ok_iff {compile : Compiler} {snippet : Option (List Char)} {program : Shader.Program}
    {layout : UniformLayout} :
    Render.Renderer.prepare compile snippet = .ok (program, layout) ↔
      buildProgram compile vertexShader.toList (assemble snippet) = .ok program ∧
        UniformLayout.resolve program.fragment = .ok layout := by
  unfold Render.Renderer.prepare
  simp only [bind_eq_ok_iff]
  constructor
  · rintro ⟨built, hbuilt, found, hresolve, hpair⟩
    cases hpair
    exact ⟨hbuilt, hresolve⟩
  · rintro ⟨hbuilt, hresolve⟩
    exact ⟨program, hbuilt, layout, hresolve, rfl⟩

/-- A fragment stage with the template's input and output links with the vertex stage. -/
theorem prepare_of_compile {snippet : Option (List Char)} {resources : List Global} {layout : UniformLayout}
    (hcompile : Glsl.compile .fragment (assemble snippet) = .ok (fragmentInterface resources))
    (hresolve : UniformLayout.resolve (fragmentInterface resources) = .ok layout) :
    Render.Renderer.prepare Glsl.compile snippet =
      .ok (⟨vertexInterface, fragmentInterface resources, 0⟩, layout) := by
  apply prepare_eq_ok_iff.mpr
  refine ⟨buildProgram_eq_ok_iff.mpr ⟨?_, ?_, rfl⟩, hresolve⟩
  · exact compileStage_eq_ok_iff.mpr ⟨compile_vertexShader, rfl⟩
  · exact compileStage_eq_ok_iff.mpr ⟨hcompile, rfl⟩

section Prepared

variable {compile : Compiler} {snippet : Option (List Char)} {own : List Global} {program : Shader.Program}
  {layout : UniformLayout} {lifted : List Shader.Member} {size : Nat}
  (hdeclares : ∀ stage, compile .fragment (assemble snippet) = .ok stage →
    Declares stage (liftedMembers snippet) own)
  (hprepare : Render.Renderer.prepare compile snippet = .ok (program, layout))

include hdeclares hprepare

/-- The layout is the template's with the snippet's own resources over it. -/
theorem layout_of_prepare (hblock : parameterBlock? (liftedMembers snippet) = some (parameterBlock lifted size)) :
    layout = (templateLayout size).overwrite own := by
  obtain ⟨hbuilt, hresolve⟩ := prepare_eq_ok_iff.mp hprepare
  obtain ⟨-, hfragment, -⟩ := buildProgram_eq_ok_iff.mp hbuilt
  obtain ⟨block, hthere, hresources⟩ := hdeclares _ (compileStage_eq_ok_iff.mp hfragment).1
  obtain rfl : block = parameterBlock lifted size := Option.some.inj (hthere.symm.trans hblock)
  obtain ⟨-, hlayout⟩ := UniformLayout.resolve_eq_ok_iff.mp hresolve
  -- Inputs and outputs are globals too, but they are not bound and have no role.
  calc layout = UniformLayout.empty.overwrite program.fragment.resources := by
        rw [hlayout, UniformLayout.overwrite_resources]
    _ = (UniformLayout.empty.overwrite (templateResources (parameterBlock lifted size))).overwrite own := by
        rw [hresources, UniformLayout.overwrite_append]
    _ = (templateLayout size).overwrite own := by rw [overwrite_templateResources]

/-- The layout of a snippet is the template's just if none of its own resources plays one of the template's
roles elsewhere. -/
theorem isTemplate_iff : IsTemplate layout ↔ KeepsTemplate own := by
  obtain ⟨lifted, size, hblock, -⟩ := exists_parameterBlock snippet
  rw [layout_of_prepare hdeclares hprepare hblock]
  exact isTemplate_overwrite_iff

end Prepared

/-- A snippet with a block of its own that has a member called as one of the template's. -/
def claimingSnippet : List Char :=
  "layout(set = 0, binding = 7) uniform Foo \x7b vec4 a; vec2 resolution; \x7d foo;\n".toList ++
    "vec4 transition(vec2 uv) \x7b return texture2D(to, uv); \x7d\n".toList

def claimingBlock : Global :=
  ⟨some "foo", .uniform, some ⟨0, 7⟩, .record "Foo" (.ofList [⟨some "a", .vector .four .float32, none, 0⟩,
    ⟨some "resolution", .vector .two .float32, none, 16⟩]) 32⟩

theorem compile_claimingSnippet :
    Glsl.compile .fragment (assemble (some claimingSnippet)) =
      .ok (fragmentInterface (templateResources (parameterBlock [] 16) ++ [claimingBlock])) := by
  apply eq_ok_of_toOption
  rw [assemble_eq_lines]
  decide +kernel

theorem declares_claimingSnippet {stage : StageInterface}
    (h : Glsl.compile .fragment (assemble (some claimingSnippet)) = .ok stage) :
    Declares stage (liftedMembers (some claimingSnippet)) [claimingBlock] := by
  obtain rfl := Except.ok.inj (compile_claimingSnippet.symm.trans h)
  exact ⟨parameterBlock [] 16, by decide +kernel, rfl⟩

theorem prepare_claimingSnippet :
    Render.Renderer.prepare Glsl.compile (some claimingSnippet) =
      .ok (⟨vertexInterface,
          fragmentInterface (templateResources (parameterBlock [] 16) ++ [claimingBlock]), 0⟩,
        ⟨some 0, some 1, some ⟨7, 32, none, some 16⟩⟩) :=
  prepare_of_compile compile_claimingSnippet rfl

/-- The parameters of this snippet are written to its own block. -/
theorem not_isTemplate_claimingSnippet :
    ∃ own program layout,
      (∀ stage, Glsl.compile .fragment (assemble (some claimingSnippet)) = .ok stage →
        Declares stage (liftedMembers (some claimingSnippet)) own) ∧
      Render.Renderer.prepare Glsl.compile (some claimingSnippet) = .ok (program, layout) ∧
      ¬ IsTemplate layout := by
  refine ⟨_, _, _, fun stage hstage => declares_claimingSnippet hstage, prepare_claimingSnippet, ?_⟩
  rintro ⟨size, hlayout⟩
  have hbinding : 7 = 2 := congrArg (fun layout => (layout.params.map (·.binding)).getD 0) hlayout
  exact absurd hbinding (by decide)

theorem isTemplate_iff_claimingSnippet :
    ∃ own program layout,
      (∀ stage, Glsl.compile .fragment (assemble (some claimingSnippet)) = .ok stage →
        Declares stage (liftedMembers (some claimingSnippet)) own) ∧
      Render.Renderer.prepare Glsl.compile (some claimingSnippet) = .ok (program, layout) ∧
      (IsTemplate layout ↔ KeepsTemplate own) :=
  ⟨_, _, _, fun _ hstage => declares_claimingSnippet hstage, prepare_claimingSnippet,
    isTemplate_iff (fun _ hstage => declares_claimingSnippet hstage) prepare_claimingSnippet⟩

end FrameTransition.Snippet
