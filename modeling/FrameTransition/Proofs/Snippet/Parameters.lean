import FrameTransition.Proofs.Snippet.Layout
import FrameTransition.Shader.UniformBuffer

/-!
# Parameters in memory

A renderer writes the size of the frame once and the progress for every frame. `parameters_apart` says of
every snippet that does not bring a block of its own where these writes go, and that the uniforms it
declares are not touched by them: whatever frames are drawn, they read zero as they did at first.

The buffer has the same bytes throughout but for the first four, so its contents are stated whole
(`contents`), with one step of the induction for each frame (`setProgress?_of_contents`).
-/

namespace FrameTransition.Shader

/-! ## Writing and reading bytes -/

namespace UniformBuffer

theorem length_wordBytes (x : Number) : (wordBytes x).length = 4 := rfl

/-- A write puts its data in place of what was there, and changes nothing in front of it or behind. -/
theorem overwrite?_append (before after : List UInt8) {old data : List UInt8}
    (hoffset : before.length % copyAlignment = 0) (hdata : data.length % copyAlignment = 0)
    (hlength : old.length = data.length) :
    overwrite? (before ++ (old ++ after)) before.length data = some (before ++ (data ++ after)) := by
  have hfits : before.length + data.length ≤ (before ++ (old ++ after)).length := by
    rw [List.length_append, List.length_append, hlength]
    omega
  have hbehind : (before ++ (old ++ after)).drop (before.length + data.length) = after := by
    rw [← hlength, ← List.length_append, ← List.append_assoc]
    exact List.drop_left
  rw [overwrite?, if_pos ⟨hoffset, hdata, hfits⟩, hbehind, List.take_left, List.append_assoc]

/-- The bytes from an offset on, as a shader reads them. -/
def read (buffer : UniformBuffer) (offset span : Nat) : List UInt8 :=
  (buffer.bytes.drop offset).take span

theorem read_append {buffer : UniformBuffer} {before piece after : List UInt8}
    (h : buffer.bytes = before ++ (piece ++ after)) : buffer.read before.length piece.length = piece := by
  rw [read, h, List.drop_left, List.take_left]

/-! ## The buffer of a run -/

/-- The bytes of a buffer with a progress and the size of the frame, and zeros otherwise. -/
def contents (progress width height : Number) (rest : Nat) : List UInt8 :=
  wordBytes progress ++ (List.replicate 4 0 ++ (wordBytes width ++ wordBytes height ++ List.replicate rest 0))

/-- The buffer after frames with some progress each. -/
def drawn? (block : ParamsBlock) (width height : Nat) (progress : List Number) : Option UniformBuffer := do
  let buffer ← create? block width height
  progress.foldlM setProgress? buffer

/-- A dimension of the frame as it is written. -/
def dimension (n : Nat) : Number :=
  Number.ofInt Format.binary32.round n

section Run

variable {block : ParamsBlock}

theorem setProgress?_of_contents (hoffset : block.progressOffset = some 0) (old new width height : Number)
    (rest : Nat) :
    setProgress? ⟨block, contents old width height rest⟩ new =
      some ⟨block, contents new width height rest⟩ := by
  have hdata : [new].flatMap wordBytes = wordBytes new := List.append_nil _
  have hwrite : overwrite? (contents old width height rest) 0 (wordBytes new) =
      some (contents new width height rest) := by
    have haligned : (wordBytes new).length % copyAlignment = 0 := by
      rw [length_wordBytes]
      rfl
    have hlength : (wordBytes old).length = (wordBytes new).length := rfl
    exact overwrite?_append [] _ rfl haligned hlength
  rw [setProgress?, hoffset, write?, hdata, hwrite]
  rfl

/-- Of all frames drawn, the last progress is what stays. -/
theorem foldlM_setProgress? (hoffset : block.progressOffset = some 0) (first width height : Number)
    (rest : Nat) (progress : List Number) :
    progress.foldlM setProgress? ⟨block, contents first width height rest⟩ =
      some ⟨block, contents (progress.getLastD first) width height rest⟩ := by
  induction progress generalizing first with
  | nil => rfl
  | cons next progress ih =>
    rw [List.foldlM_cons, setProgress?_of_contents hoffset, List.getLastD_cons]
    exact ih next

theorem create?_eq (hprogress : block.progressOffset = some 0) (hresolution : block.resolutionOffset = some 8)
    {rest : Nat} (hsize : block.size = 16 + rest) (width height : Nat) :
    create? block width height =
      some ⟨block, contents (.real 0) (dimension width) (dimension height) rest⟩ := by
  -- In front of the resolution are the progress and the gap behind it, and behind it are the other members.
  have hblank : List.replicate block.size (0 : UInt8) =
      List.replicate 8 0 ++ (List.replicate 8 0 ++ List.replicate rest 0) := by
    rw [hsize, List.replicate_append_replicate, List.replicate_append_replicate]
    congr 1
    omega
  have hdata : [dimension width, dimension height].flatMap wordBytes =
      wordBytes (dimension width) ++ wordBytes (dimension height) :=
    congrArg (wordBytes (dimension width) ++ ·) (List.append_nil _)
  have hwrite : overwrite? (List.replicate block.size 0) 8
      (wordBytes (dimension width) ++ wordBytes (dimension height)) =
        some (contents (.real 0) (dimension width) (dimension height) rest) := by
    have haligned : (wordBytes (dimension width) ++ wordBytes (dimension height)).length % copyAlignment = 0 := by
      rw [List.length_append, length_wordBytes, length_wordBytes]
      rfl
    rw [hblank]
    exact overwrite?_append (List.replicate 8 0) _ rfl haligned rfl
  have hsized : write? ⟨block, List.replicate block.size 0⟩ block.resolutionOffset
      [dimension width, dimension height] =
        some ⟨block, contents (.real 0) (dimension width) (dimension height) rest⟩ := by
    rw [hresolution, write?, hdata, hwrite]
    rfl
  show (write? _ block.resolutionOffset [dimension width, dimension height] >>= fun sized => _) = _
  rw [hsized]
  exact setProgress?_of_contents hprogress (.real 0) (.real 0) _ _ rest

end Run

/-- What a shader reads of its parameters: those of the renderer, and zeros of all others. -/
structure Shows (buffer : UniformBuffer) (width height : Nat) (last : Number) (lifted : List Member) : Prop where
  progress : buffer.read 0 4 = wordBytes last
  resolution : buffer.read 8 8 = wordBytes (dimension width) ++ wordBytes (dimension height)
  zero : ∀ m ∈ lifted, buffer.read m.offset m.type.extent.span = List.replicate m.type.extent.span 0

/-- Behind the sixteen bytes of the renderer's parameters there are zeros only. -/
theorem read_contents_eq_replicate {buffer : UniformBuffer} {progress width height : Number} {rest : Nat}
    (h : buffer.bytes = contents progress width height rest) {offset span : Nat} (hbehind : 16 ≤ offset)
    (hwithin : offset + span ≤ 16 + rest) : buffer.read offset span = List.replicate span 0 := by
  have hhead : contents progress width height rest =
      (wordBytes progress ++ (List.replicate 4 0 ++ (wordBytes width ++ wordBytes height))) ++
        List.replicate rest 0 := by
    simp only [contents, List.append_assoc]
  have hlength : (wordBytes progress ++
      (List.replicate 4 0 ++ (wordBytes width ++ wordBytes height))).length = 16 := rfl
  rw [read, h, hhead, List.drop_append, List.drop_eq_nil_of_le (by omega), List.nil_append, hlength,
    List.drop_replicate, List.take_replicate]
  congr 1
  omega

theorem shows_contents {buffer : UniformBuffer} {width height : Nat} {last : Number} {rest : Nat}
    (h : buffer.bytes = contents last (dimension width) (dimension height) rest) {lifted : List Member}
    (hbehind : ∀ m ∈ lifted, 16 ≤ m.offset) (hwithin : ∀ m ∈ lifted, m.finish ≤ 16 + rest) :
    buffer.Shows width height last lifted where
  progress := read_append (h.trans (List.nil_append _).symm)
  resolution := by
    have hresolution : buffer.bytes = (wordBytes last ++ List.replicate 4 0) ++
        ((wordBytes (dimension width) ++ wordBytes (dimension height)) ++ List.replicate rest 0) := by
      simp only [h, contents, List.append_assoc]
    exact read_append hresolution
  zero := fun m hm => read_contents_eq_replicate h (hbehind m hm) (hwithin m hm)

end UniformBuffer

/-! ## Snippets without a block of their own -/

/-- A block of uniforms. -/
def Global.isUniformBlock (var : Global) : Bool :=
  match var.type with
  | .record _ _ _ => var.space = .uniform
  | _ => false

theorem Global.plays_params?_of_isUniformBlock {var : Global} (h : var.isUniformBlock = false) :
    var.plays Role.params? = none := by
  obtain ⟨name, space, binding, type⟩ := var
  cases binding with
  | none => rfl
  | some place =>
    cases type with
    | image shape =>
      show ((if name = some textureName then some (place.group, Role.texture place.binding) else none).bind _) = _
      split <;> rfl
    | sampler comparison =>
      show ((if name = some samplerName then some (place.group, Role.sampler place.binding) else none).bind _) = _
      split <;> rfl
    | record title members span =>
      have hspace : space ≠ .uniform := of_decide_eq_false h
      have hrole : Global.role? ⟨name, space, some place, .record title members span⟩ = none :=
        if_neg fun hblock => hspace hblock.1
      rw [plays, hrole, Option.bind_none]
    | scalar scalar => rfl
    | vector size scalar => rfl
    | matrix columns rows scalar => rfl
    | array element length stride => rfl

end FrameTransition.Shader

namespace FrameTransition.Snippet

open FrameTransition.Shader

/-- The parameters of the renderer are at their places in a block of a size, and drawing frames changes no
other byte of it. -/
structure KeepsParameters (layout : UniformLayout) (lifted : List Shader.Member) (size : Nat) : Prop where
  params : layout.params = some (templateBlock size)
  drawn : ∀ width height progress, ∃ buffer,
    UniformBuffer.drawn? (templateBlock size) width height progress = some buffer ∧
      buffer.Shows width height (progress.getLastD (.real 0)) lifted

/-- No write is refused, and what is lifted reads zero after any frames. -/
theorem exists_drawn {members : List Snippet.Member} {lifted : List Shader.Member} {size : Nat}
    (h : PlacesLifted members lifted size) (width height : Nat) (progress : List Number) :
    ∃ buffer, UniformBuffer.drawn? (templateBlock size) width height progress = some buffer ∧
      buffer.Shows width height (progress.getLastD (.real 0)) lifted := by
  obtain ⟨rest, hsize⟩ := Nat.exists_eq_add_of_le h.fixed
  have hwithin : ∀ m ∈ lifted, m.finish ≤ 16 + rest := fun m hm => hsize ▸ h.within m hm
  have hdrawn : UniformBuffer.drawn? (templateBlock size) width height progress =
      some ⟨templateBlock size, UniformBuffer.contents (progress.getLastD (.real 0))
        (UniformBuffer.dimension width) (UniformBuffer.dimension height) rest⟩ := by
    rw [UniformBuffer.drawn?, UniformBuffer.create?_eq rfl rfl hsize]
    exact UniformBuffer.foldlM_setProgress? rfl _ _ _ _ _
  exact ⟨_, hdrawn, UniformBuffer.shows_contents rfl h.behind hwithin⟩

/-- Every snippet's lifted members are clear of the renderer's parameters and of each other. If the snippet
has no block of its own, the parameters are found in this block, and its own members stay zero. -/
theorem parameters_apart (snippet : Option (List Char)) :
    ∃ lifted size, parameterBlock? (liftedMembers snippet) = some (parameterBlock lifted size) ∧
      PlacesLifted (liftedMembers snippet) lifted size ∧
      ∀ (compile : Compiler) (own : List Global) (program : Shader.Program) (layout : UniformLayout),
        (∀ stage, compile .fragment (assemble snippet) = .ok stage →
          Declares stage (liftedMembers snippet) own) →
        (∀ var ∈ own, var.isUniformBlock = false) →
        Render.Renderer.prepare compile snippet = .ok (program, layout) →
          KeepsParameters layout lifted size := by
  obtain ⟨lifted, size, hblock, hplaced⟩ := exists_parameterBlock snippet
  refine ⟨lifted, size, hblock, hplaced, ?_⟩
  intro compile own program layout hdeclares hown hprepare
  have hnone : lastOf Role.params? own = none :=
    (lastOf_eq_none_iff _ _).mpr fun var hvar => Global.plays_params?_of_isUniformBlock (hown var hvar)
  refine ⟨?_, exists_drawn hplaced⟩
  rw [layout_of_prepare hdeclares hprepare hblock]
  show (lastOf Role.params? own).or _ = _
  rw [hnone, Option.none_or]
  rfl

/-- A snippet with two uniforms, the second in the tail of the first. -/
def liftingSnippet : List Char :=
  "uniform vec3 a;\n".toList ++ "uniform float b;\n".toList ++
    "vec4 transition(vec2 uv) \x7b return texture2D(to, uv); \x7d\n".toList

theorem parameters_apart_liftingSnippet :
    ∃ lifted program layout, PlacesLifted (liftedMembers (some liftingSnippet)) lifted 32 ∧
      Render.Renderer.prepare Glsl.compile (some liftingSnippet) = .ok (program, layout) ∧
      KeepsParameters layout lifted 32 := by
  obtain ⟨lifted, size, hblock, hplaced, hkeeps⟩ := parameters_apart (some liftingSnippet)
  have hthere : parameterBlock? (liftedMembers (some liftingSnippet)) =
      some (parameterBlock [⟨some "a", .vector .three .float32, none, 16⟩,
        ⟨some "b", .scalar .float32, none, 28⟩] 32) := by decide +kernel
  have hcompile : Glsl.compile .fragment (assemble (some liftingSnippet)) =
      .ok (fragmentInterface (templateResources (parameterBlock
        [⟨some "a", .vector .three .float32, none, 16⟩, ⟨some "b", .scalar .float32, none, 28⟩] 32))) := by
    apply eq_ok_of_toOption
    rw [assemble_eq_lines]
    decide +kernel
  have hprepare := prepare_of_compile hcompile rfl
  have hdeclares : ∀ stage, Glsl.compile .fragment (assemble (some liftingSnippet)) = .ok stage →
      Declares stage (liftedMembers (some liftingSnippet)) [] := by
    intro stage hstage
    obtain rfl := Except.ok.inj (hcompile.symm.trans hstage)
    exact ⟨_, hthere, rfl⟩
  obtain rfl : size = 32 := by
    have hsame := Option.some.inj (hblock.symm.trans hthere)
    injection hsame
  exact ⟨lifted, _, _, hplaced, hprepare, hkeeps _ [] _ _ hdeclares (fun var hvar => by cases hvar) hprepare⟩

end FrameTransition.Snippet
