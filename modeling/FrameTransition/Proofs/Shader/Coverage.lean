import FrameTransition.Proofs.Snippet.Layout

/-!
# Resources that no entry covers

A pipeline is built from the entries of a layout and from nothing else, so each resource of the fragment
stage needs an entry in group 0, or else the stage has to be refused when it is linked. `isSettled_iff`
says of which stages that is true. It is not true of all: a global without a role is passed over, whatever
group it is bound in, and so is a global whose role a later one takes. A snippet without resources of its own
has neither (`covers_of_prepare`).
-/

namespace FrameTransition.Shader

/-- Where the resources of a stage are bound. -/
def StageInterface.places (stage : StageInterface) : List ResourceBinding :=
  stage.globals.filterMap (·.binding)

/-- Every resource of the stage is in group 0, at the binding of an entry. -/
def UniformLayout.Covers (layout : UniformLayout) (stage : StageInterface) : Prop :=
  ∀ place ∈ stage.places, place.group = 0 ∧ place.binding ∈ layout.entries.map (·.binding)

instance (layout : UniformLayout) (stage : StageInterface) : Decidable (layout.Covers stage) :=
  inferInstanceAs (Decidable (∀ place ∈ stage.places, _))

/-- Resolution finds an entry for every resource of the stage, or refuses the stage as a fault of the
link. -/
def StageInterface.IsSettled (stage : StageInterface) : Prop :=
  match UniformLayout.resolve stage with
  | .ok layout => layout.Covers stage
  | .error fault => fault.stage = .link

instance (stage : StageInterface) : Decidable stage.IsSettled :=
  match hresolve : UniformLayout.resolve stage with
  | .ok layout => decidable_of_iff (layout.Covers stage) (by rw [StageInterface.IsSettled, hresolve])
  | .error fault => decidable_of_iff (fault.stage = .link) (by rw [StageInterface.IsSettled, hresolve])

/-- The binding of the last global of some role. -/
def IsLastBinding (globals : List Global) (binding : Nat) : Prop :=
  lastOf Role.texture? globals = some binding ∨ lastOf Role.sampler? globals = some binding ∨
    ∃ block, lastOf Role.params? globals = some block ∧ block.binding = binding

namespace UniformLayout

theorem mem_entries_iff {layout : UniformLayout} {binding : Nat} :
    binding ∈ layout.entries.map (·.binding) ↔ layout.texture = some binding ∨
      layout.sampler = some binding ∨ ∃ block, layout.params = some block ∧ block.binding = binding := by
  obtain ⟨texture, sampler, params⟩ := layout
  cases texture <;> cases sampler <;> cases params <;>
    simp [entries, ParamsBlock.entry, eq_comm]

theorem mem_entries_overwrite_iff {globals : List Global} {binding : Nat} :
    binding ∈ (empty.overwrite globals).entries.map (·.binding) ↔ IsLastBinding globals binding := by
  rw [mem_entries_iff]
  simp only [overwrite, empty, Option.or_none, IsLastBinding]

end UniformLayout

/-- A stage is settled just if it is refused for a role outside group 0, or all its resources are in group
0, each at the binding of the last global of some role. -/
theorem isSettled_iff (stage : StageInterface) :
    stage.IsSettled ↔
      (∃ var ∈ stage.globals, ∃ entry, var.role? = some entry ∧ entry.1 ≠ 0) ∨
        ∀ place ∈ stage.places, place.group = 0 ∧ IsLastBinding stage.globals place.binding := by
  unfold StageInterface.IsSettled
  rw [UniformLayout.resolve_eq]
  cases hfirst : UniformLayout.firstMisplaced? stage.globals with
  | some entry =>
    have hmem : entry ∈ stage.globals.filterMap (·.role?) := List.mem_of_find?_eq_some hfirst
    have hgroup : entry.1 ≠ 0 := by simpa using List.find?_some hfirst
    obtain ⟨var, hvar, hrole⟩ := List.mem_filterMap.mp hmem
    exact iff_of_true rfl (.inl ⟨var, hvar, entry, hrole, hgroup⟩)
  | none =>
    have hgroups := UniformLayout.firstMisplaced?_eq_none_iff.mp hfirst
    have hplaced : ¬ ∃ var ∈ stage.globals, ∃ entry, var.role? = some entry ∧ entry.1 ≠ 0 := by
      rintro ⟨var, hvar, entry, hrole, hgroup⟩
      exact hgroup (hgroups var hvar entry hrole)
    simp only [UniformLayout.Covers, UniformLayout.mem_entries_overwrite_iff, or_iff_right hplaced]

/-- A snippet with a block of its own that is in another group. -/
def strayingSnippet : List Char :=
  "layout(set = 2, binding = 5) uniform Foo \x7b float p; \x7d foo;\n".toList ++
    "vec4 transition(vec2 uv) \x7b return texture2D(to, uv); \x7d\n".toList

/-- This snippet compiles and is resolved, but no entry is in the group of its block. -/
theorem not_covers_strayingSnippet :
    ∃ stage layout, Glsl.compile .fragment (Snippet.assemble (some strayingSnippet)) = .ok stage ∧
      UniformLayout.resolve stage = .ok layout ∧ ¬ layout.Covers stage := by
  have hcompile : Glsl.compile .fragment (Snippet.assemble (some strayingSnippet)) =
      .ok (Snippet.fragmentInterface (Snippet.templateResources (Snippet.parameterBlock [] 16) ++
        [⟨some "foo", .uniform, some ⟨2, 5⟩,
          .record "Foo" (.ofList [⟨some "p", .scalar .float32, none, 0⟩]) 4⟩])) := by
    apply eq_ok_of_toOption
    rw [Snippet.assemble_eq_lines]
    decide +kernel
  exact ⟨_, _, hcompile, rfl, by decide +kernel⟩

/-! ## The template's own resources -/

/-- The layout of a snippet that declares no resources covers its stage. -/
theorem covers_of_prepare {compile : Compiler} {snippet : Option (List Char)} {program : Shader.Program}
    {layout : UniformLayout}
    (hdeclares : ∀ stage, compile .fragment (Snippet.assemble snippet) = .ok stage →
      Snippet.Declares stage (Snippet.liftedMembers snippet) [])
    (hprepare : Render.Renderer.prepare compile snippet = .ok (program, layout)) :
    layout.Covers program.fragment := by
  obtain ⟨lifted, size, hblock, -⟩ := Snippet.exists_parameterBlock snippet
  have hlayout : layout = Snippet.templateLayout size :=
    Snippet.layout_of_prepare hdeclares hprepare hblock
  obtain ⟨hbuilt, -⟩ := Snippet.prepare_eq_ok_iff.mp hprepare
  obtain ⟨-, hfragment, -⟩ := buildProgram_eq_ok_iff.mp hbuilt
  obtain ⟨block, -, hresources⟩ := hdeclares _ (compileStage_eq_ok_iff.mp hfragment).1
  have hplaces : program.fragment.places = [⟨0, 0⟩, ⟨0, 1⟩, ⟨0, 2⟩] := by
    rw [StageInterface.places, ← filterMap_resources fun _ hbinding => hbinding, hresources, List.append_nil]
    rfl
  have hentries : layout.entries.map (·.binding) = [0, 1, 2] := by
    rw [hlayout]
    rfl
  rw [UniformLayout.Covers, hplaces, hentries]
  decide

end FrameTransition.Shader
