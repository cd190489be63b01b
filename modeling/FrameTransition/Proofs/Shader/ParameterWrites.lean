import FrameTransition.Proofs.Shader.Relevance
import FrameTransition.Proofs.Snippet.Layout
import FrameTransition.Shader.UniformBuffer
import Mathlib.Data.List.Pairwise

/-!
# Where parameters are written

The progress is written as four bytes and the size of the frame as eight, each at the offset of a member that
resolution found by its name alone. A device takes the writes only if they end inside the buffer
(`isSome_create?_iff`), and neither may go over the other.

Members that lie inside their structure and apart do not see to that, since a member may be narrower than what
is written to it: `not_inPlace_narrowSnippet` has a snippet whose buffer no device fills. What does is that
the two members take up as much as is written, and no weaker rule on their types is enough (`inPlace_iff`).
-/

namespace FrameTransition.Shader

/-! ## What a device takes -/

namespace UniformBuffer

theorem isSome_overwrite?_iff {bytes : List UInt8} {offset : Nat} {data : List UInt8} :
    (overwrite? bytes offset data).isSome ↔
      offset % 4 = 0 ∧ data.length % 4 = 0 ∧ offset + data.length ≤ bytes.length := by
  unfold overwrite? copyAlignment
  split <;> simp_all

theorem length_of_overwrite? {bytes written : List UInt8} {offset : Nat} {data : List UInt8}
    (h : overwrite? bytes offset data = some written) : written.length = bytes.length := by
  unfold overwrite? at h
  split at h
  case isTrue hfits =>
    obtain rfl := Option.some.inj h
    simp only [List.length_append, List.length_take, List.length_drop]
    omega
  case isFalse => cases h

theorem length_flatMap_wordBytes (values : List Number) : (values.flatMap wordBytes).length = 4 * values.length := by
  induction values with
  | nil => rfl
  | cons value values ih =>
    rw [List.flatMap_cons, List.length_append, ih, List.length_cons]
    show 4 + _ = _
    omega

/-- Numbers are taken at a parameter if its offset is a multiple of four and they end inside the buffer. -/
theorem isSome_write?_iff {buffer : UniformBuffer} {offset : Option Nat} {values : List Number} :
    (buffer.write? offset values).isSome ↔
      ∀ start, offset = some start → start % 4 = 0 ∧ start + 4 * values.length ≤ buffer.bytes.length := by
  cases offset with
  | none => simp [write?]
  | some start =>
    simp only [write?, Option.isSome_map, isSome_overwrite?_iff, length_flatMap_wordBytes, Option.some.injEq,
      forall_eq']
    omega

/-- A write keeps the block and the size of the buffer. -/
theorem keeps_of_write? {buffer written : UniformBuffer} {offset : Option Nat} {values : List Number}
    (h : buffer.write? offset values = some written) :
    written.block = buffer.block ∧ written.bytes.length = buffer.bytes.length := by
  cases offset with
  | none =>
    obtain rfl := Option.some.inj h
    exact ⟨rfl, rfl⟩
  | some start =>
    obtain ⟨bytes, hbytes, rfl⟩ := Option.map_eq_some_iff.mp h
    exact ⟨rfl, length_of_overwrite? hbytes⟩

/-- A device takes the first writes to a new buffer just if both parameters are at multiples of four and what is
written there ends inside the block. -/
theorem isSome_create?_iff {block : ParamsBlock} {width height : Nat} :
    (create? block width height).isSome ↔
      (∀ start, block.progressOffset = some start → start % 4 = 0 ∧ start + 4 ≤ block.size) ∧
        ∀ start, block.resolutionOffset = some start → start % 4 = 0 ∧ start + 8 ≤ block.size := by
  have hblank : ∀ offset values, (write? ⟨block, List.replicate block.size 0⟩ offset values).isSome ↔
      ∀ start, offset = some start → start % 4 = 0 ∧ start + 4 * values.length ≤ block.size := by
    intro offset values
    rw [isSome_write?_iff, List.length_replicate]
  have hresolution := hblank block.resolutionOffset
    [Number.ofInt Format.binary32.round width, Number.ofInt Format.binary32.round height]
  unfold create?
  cases hsized : write? ⟨block, List.replicate block.size 0⟩ block.resolutionOffset
      [Number.ofInt Format.binary32.round width, Number.ofInt Format.binary32.round height] with
  | none =>
    rw [hsized] at hresolution
    refine iff_of_false (by simp [hsized]) ?_
    rintro ⟨-, h⟩
    cases hresolution.mpr h
  | some sized =>
    rw [hsized] at hresolution
    obtain ⟨hblock, hlength⟩ := keeps_of_write? hsized
    have hprogress : (sized.setProgress? (.real 0)).isSome ↔
        ∀ start, block.progressOffset = some start → start % 4 = 0 ∧ start + 4 ≤ block.size := by
      unfold setProgress?
      rw [isSome_write?_iff, hblock, hlength, List.length_replicate]
      rfl
    show ((write? _ _ _).bind fun sized => sized.setProgress? (.real 0)).isSome ↔ _
    rw [hsized]
    exact ⟨fun h => ⟨hprogress.mp h, hresolution.mp rfl⟩, fun h => hprogress.mpr h.1⟩

end UniformBuffer

/-! ## Members that lie apart -/

/-- A byte of a structure belongs to a member. -/
def Member.Holds (m : Member) (byte : Nat) : Prop :=
  m.offset ≤ byte ∧ byte < m.finish

/-- The members end inside a structure, and no byte belongs to two of them. -/
structure Members.WellPlaced (members : Members) (span : Nat) : Prop where
  within : ∀ m ∈ members.toList, m.finish ≤ span
  apart : members.toList.Pairwise fun m other => ∀ byte, m.Holds byte → ¬ other.Holds byte

/-- The structures that are global variables of a stage have their members in place. -/
def StageInterface.WellPlaced (stage : StageInterface) : Prop :=
  ∀ var ∈ stage.globals, ∀ title members span, var.type = .record title members span → members.WellPlaced span

/-- What is written to a block stays in it, and apart: four bytes of progress and eight of resolution. -/
structure ParamsBlock.InPlace (block : ParamsBlock) : Prop where
  progress : ∀ start, block.progressOffset = some start → start + 4 ≤ block.size
  resolution : ∀ start, block.resolutionOffset = some start → start + 8 ≤ block.size
  apart : ∀ start other, block.progressOffset = some start → block.resolutionOffset = some other →
    start + 4 ≤ other ∨ other + 8 ≤ start

/-- The members that stand for the parameters keep a rule on their types each. -/
structure Members.Keeps (members : Members) (forProgress forResolution : Ty → Prop) : Prop where
  progress : ∀ m, IsFirst (fun m => m.name = some "progress") members.toList m → forProgress m.type
  resolution : ∀ m, IsFirst (fun m => m.name = some "resolution") members.toList m → forResolution m.type

/-- So do those of every block of parameters. -/
def StageInterface.Keeps (stage : StageInterface) (forProgress forResolution : Ty → Prop) : Prop :=
  ∀ var ∈ stage.globals, var.IsParameterBlock → ∀ title members span, var.type = .record title members span →
    members.Keeps forProgress forResolution

/-- Two members of a structure that is well placed are apart. -/
theorem Members.WellPlaced.apart_of_ne {members : Members} {span : Nat} (h : members.WellPlaced span)
    {m other : Member} (hm : m ∈ members.toList) (hother : other ∈ members.toList) (hne : m ≠ other) {byte : Nat}
    (hbyte : m.Holds byte) : ¬ other.Holds byte := by
  have hsymm : Std.Symm fun m other : Member => ∀ byte, m.Holds byte → ¬ other.Holds byte := by
    constructor
    intro first second hapart byte hsecond hfirst
    exact hapart byte hfirst hsecond
  exact h.apart.forall hm hother hne byte hbyte

/-- Members that follow one another are well placed. -/
theorem wellPlaced_of_serial {members : Members} {span : Nat} (hwithin : ∀ m ∈ members.toList, m.finish ≤ span)
    (hserial : members.toList.Pairwise fun m later => m.finish ≤ later.offset) : members.WellPlaced span := by
  refine ⟨hwithin, hserial.imp ?_⟩
  intro m later hle byte hm hlater
  have hbefore := hm.2
  have hbehind := hlater.1
  omega

/-- An offset that was found is that of a member, as wide as the first of this name is to be. -/
theorem exists_member_of_firstOffset {members : Members} {name : String} {start width : Nat}
    (h : members.FirstOffset name (some start))
    (hwide : ∀ m, IsFirst (fun m => m.name = some name) members.toList m → width ≤ m.type.extent.span) :
    ∃ m ∈ members.toList, m.name = some name ∧ m.offset = start ∧ width ≤ m.type.extent.span := by
  obtain ⟨m, hm, hoffset⟩ := h
  exact ⟨m, hm.mem, hm.holds, hoffset, hwide m hm⟩

/-- Members that are as wide as what is written keep the writes in place. -/
theorem inPlace_of_keeps {members : Members} {block : ParamsBlock} (hplaced : members.WellPlaced block.size)
    (hprogress : members.FirstOffset "progress" block.progressOffset)
    (hresolution : members.FirstOffset "resolution" block.resolutionOffset)
    (hkeeps : members.Keeps (fun type => 4 ≤ type.extent.span) (fun type => 8 ≤ type.extent.span)) :
    block.InPlace := by
  have hfirst : ∀ start, block.progressOffset = some start → ∃ m ∈ members.toList,
      m.name = some "progress" ∧ m.offset = start ∧ 4 ≤ m.type.extent.span := by
    intro start hstart
    rw [hstart] at hprogress
    exact exists_member_of_firstOffset hprogress hkeeps.progress
  have hsecond : ∀ start, block.resolutionOffset = some start → ∃ m ∈ members.toList,
      m.name = some "resolution" ∧ m.offset = start ∧ 8 ≤ m.type.extent.span := by
    intro start hstart
    rw [hstart] at hresolution
    exact exists_member_of_firstOffset hresolution hkeeps.resolution
  refine ⟨?_, ?_, ?_⟩
  · intro start hstart
    obtain ⟨m, hm, -, rfl, hwide⟩ := hfirst start hstart
    have hfinish := hplaced.within m hm
    unfold Member.finish at hfinish
    omega
  · intro start hstart
    obtain ⟨m, hm, -, rfl, hwide⟩ := hsecond start hstart
    have hfinish := hplaced.within m hm
    unfold Member.finish at hfinish
    omega
  · intro start other hstart hother
    obtain ⟨m, hm, hname, rfl, hwide⟩ := hfirst start hstart
    obtain ⟨n, hn, hname', rfl, hwide'⟩ := hsecond other hother
    have hne : m ≠ n := by
      rintro rfl
      simp [hname] at hname'
    -- Were the writes not apart, the later of the two offsets would belong to both members.
    by_contra hover
    have hheld : m.Holds (max m.offset n.offset) := by
      unfold Member.Holds Member.finish
      omega
    have hheld' : n.Holds (max m.offset n.offset) := by
      unfold Member.Holds Member.finish
      omega
    exact hplaced.apart_of_ne hm hn hne hheld hheld'

/-! ## Types that are wide enough -/

/-- A stage with one block that has one member. -/
def loneMemberStage (name : String) (type : Ty) : StageInterface :=
  ⟨[], [⟨none, .uniform, some ⟨0, 2⟩, .record "Lone" (.ofList [⟨some name, type, none, 0⟩]) type.extent.span⟩]⟩

theorem wellPlaced_loneMemberStage (name : String) (type : Ty) : (loneMemberStage name type).WellPlaced := by
  intro var hvar title members span htype
  obtain rfl := List.mem_singleton.mp hvar
  obtain ⟨-, rfl, rfl⟩ := Ty.record.inj htype
  constructor
  · simp [Member.finish]
  · simp

theorem eq_of_isFirst_loneMember {name : String} {type : Ty} {p : Member → Prop} {m : Member}
    (h : IsFirst p (Members.ofList [⟨some name, type, none, 0⟩]).toList m) :
    m = ⟨some name, type, none, 0⟩ := by
  rw [Members.toList_ofList] at h
  exact List.mem_singleton.mp h.mem

/-- The rule for the one member is all that such a stage has to keep. -/
theorem keeps_loneMemberStage {name : String} {type : Ty} {forProgress forResolution : Ty → Prop}
    (hprogress : name = "progress" → forProgress type) (hresolution : name = "resolution" → forResolution type) :
    (loneMemberStage name type).Keeps forProgress forResolution := by
  intro var hvar _ title members span htype
  obtain rfl := List.mem_singleton.mp hvar
  obtain ⟨-, rfl, rfl⟩ := Ty.record.inj htype
  constructor
  · intro m hm
    obtain rfl := eq_of_isFirst_loneMember hm
    exact hprogress (Option.some.inj hm.holds)
  · intro m hm
    obtain rfl := eq_of_isFirst_loneMember hm
    exact hresolution (Option.some.inj hm.holds)

/-- The block of a resolved layout is that of some global. -/
theorem exists_block_of_resolve {stage : StageInterface} {layout : UniformLayout} {block : ParamsBlock}
    (hresolve : UniformLayout.resolve stage = .ok layout) (hblock : layout.params = some block) :
    ∃ var ∈ stage.globals, var.IsParameterBlock ∧ var.HasBlock block := by
  obtain ⟨-, hlayout⟩ := UniformLayout.resolve_eq_ok_iff.mp hresolve
  obtain ⟨-, -, hlast⟩ := UniformLayout.overwrite_eq_iff.mp hlayout.symm
  rw [hblock] at hlast
  obtain ⟨var, ⟨before, after, hsplit, hvar, -⟩, hhas⟩ := hlast
  refine ⟨var, ?_, hvar, hhas⟩
  rw [hsplit]
  exact List.mem_append_right before List.mem_cons_self

/-- Rules for the types of the two members keep the writes in place, in every stage whose members lie inside
their structures and apart, just if they ask for the bytes that are written. -/
theorem inPlace_iff (forProgress forResolution : Ty → Prop) :
    (∀ stage layout block, stage.WellPlaced → stage.Keeps forProgress forResolution →
        UniformLayout.resolve stage = .ok layout → layout.params = some block → block.InPlace) ↔
      (∀ type, forProgress type → 4 ≤ type.extent.span) ∧ ∀ type, forResolution type → 8 ≤ type.extent.span := by
  constructor
  · intro h
    constructor
    · intro type htype
      have hkeeps : (loneMemberStage "progress" type).Keeps forProgress forResolution :=
        keeps_loneMemberStage (fun _ => htype) (by simp)
      have hinPlace := h _ _ _ (wellPlaced_loneMemberStage "progress" type) hkeeps rfl rfl
      simpa using hinPlace.progress 0 rfl
    · intro type htype
      have hkeeps : (loneMemberStage "resolution" type).Keeps forProgress forResolution :=
        keeps_loneMemberStage (by simp) (fun _ => htype)
      have hinPlace := h _ _ _ (wellPlaced_loneMemberStage "resolution" type) hkeeps rfl rfl
      simpa using hinPlace.resolution 0 rfl
  · rintro ⟨hprogress, hresolution⟩ stage layout block hplaced hkeeps hresolve hblock
    obtain ⟨var, hvar, hparameters, -, title, members, htype, hfirst, hsecond⟩ :=
      exists_block_of_resolve hresolve hblock
    have hmembers := hkeeps var hvar hparameters title members block.size htype
    refine inPlace_of_keeps (hplaced var hvar title members block.size htype) hfirst hsecond ⟨?_, ?_⟩
    · intro m hm
      exact hprogress m.type (hmembers.progress m hm)
    · intro m hm
      exact hresolution m.type (hmembers.resolution m hm)

/-! ## A member that is too narrow -/

/-- A snippet with a block of its own that has the size of the frame in a single float. -/
def narrowSnippet : List Char :=
  "layout(set = 0, binding = 7) uniform Foo \x7b float progress; float resolution; \x7d foo;\n".toList ++
    "vec4 transition(vec2 uv) \x7b return texture2D(to, uv); \x7d\n".toList

/-- What the stage of the narrow snippet shows. -/
def narrowStage : StageInterface :=
  Snippet.fragmentInterface (Snippet.templateResources (Snippet.parameterBlock [] 16) ++
    [⟨some "foo", .uniform, some ⟨0, 7⟩,
      .record "Foo" (.ofList [⟨some "progress", .scalar .float32, none, 0⟩,
        ⟨some "resolution", .scalar .float32, none, 4⟩]) 8⟩])

/-- This snippet compiles to a stage whose members are in place and is resolved, but what is written for the
size of the frame goes beyond the block, so no device takes it. -/
theorem not_inPlace_narrowSnippet :
    ∃ stage layout block, Glsl.compile .fragment (Snippet.assemble (some narrowSnippet)) = .ok stage ∧
      stage.WellPlaced ∧ UniformLayout.resolve stage = .ok layout ∧ layout.params = some block ∧
        ¬ block.InPlace ∧ ∀ width height, UniformBuffer.create? block width height = none := by
  have hcompile : Glsl.compile .fragment (Snippet.assemble (some narrowSnippet)) = .ok narrowStage := by
    apply eq_ok_of_toOption
    rw [Snippet.assemble_eq_lines]
    decide +kernel
  have hplaced : narrowStage.WellPlaced := by
    intro var hvar title members span htype
    simp only [narrowStage, Snippet.fragmentInterface, Snippet.templateResources, List.cons_append, List.nil_append,
      List.mem_cons, List.not_mem_nil, or_false] at hvar
    rcases hvar with rfl | rfl | rfl | rfl | rfl | rfl
    case inr.inr.inr.inr.inl =>
      obtain ⟨-, rfl, rfl⟩ := Ty.record.inj htype
      exact wellPlaced_of_serial (by decide) (by decide)
    case inr.inr.inr.inr.inr =>
      obtain ⟨-, rfl, rfl⟩ := Ty.record.inj htype
      exact wellPlaced_of_serial (by decide) (by decide)
    all_goals cases htype
  refine ⟨narrowStage, _, ⟨7, 8, some 0, some 4⟩, hcompile, hplaced, rfl, rfl, ?_, ?_⟩
  · intro h
    have hfits : 4 + 8 ≤ 8 := h.resolution 4 rfl
    omega
  · intro width height
    rw [← Option.not_isSome_iff_eq_none, UniformBuffer.isSome_create?_iff]
    rintro ⟨-, h⟩
    have hfits : 4 + 8 ≤ 8 := (h 4 rfl).2
    omega

end FrameTransition.Shader
