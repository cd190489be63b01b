import FrameTransition.Glsl.Keyword
import FrameTransition.Proofs.Shader.BlockLayout
import FrameTransition.Proofs.Snippet.Treatment
import FrameTransition.Shader.UniformLayout

/-!
# The parameter block of a snippet

The block starts with the two members a renderer writes, and the members that are lifted from the snippet
follow. `exists_parameterBlock` says of every snippet that it has such a block, that the first two members
are where they are without any others, and that the rest lie behind them, inside the block and apart.

A member is lifted with one of twelve types only. All of them are scalars and vectors of four-byte scalars,
so the block is one that `Proofs/Shader/BlockLayout.lean` is about.
-/

namespace FrameTransition.Snippet

open FrameTransition.Shader

/-! ## Lifted members -/

/-- The members that a snippet, or the default one, adds to the block. -/
def liftedMembers (snippet : Option (List Char)) : List Snippet.Member :=
  (sanitize (snippet.getD defaultTransition.toList)).members

namespace Member

/-- The type that the name of a lifted member's type stands for. -/
def valueType? (m : Snippet.Member) : Option Ty :=
  Glsl.typeOfName? (String.ofList m.type)

/-- The name and type of a lifted member. -/
def field? (m : Snippet.Member) : Option (String × Ty) :=
  m.valueType?.map (String.ofList m.name, ·)

end Member

/-- Alignment and span of a scalar of four bytes and of the vectors of two, three and four of them. -/
def wordExtents : List Extent :=
  [⟨4, 4⟩, ⟨8, 8⟩, ⟨16, 12⟩, ⟨16, 16⟩]

/-- A type that the parameter block takes. -/
def isWordType (type : Ty) : Bool :=
  type.isPlain && decide (type.extent ∈ wordExtents)

theorem isWordType_of_mem_liftableTypes :
    ∀ type ∈ liftableTypes, (Glsl.typeOfName? (String.ofList type)).any isWordType = true := by
  decide +kernel

theorem type_mem_of_mem_lineMembers {line : List Char} {m : Snippet.Member} (h : m ∈ lineMembers line) :
    m.type ∈ liftableTypes := by
  obtain ⟨members, htreatment, hm⟩ := exists_treatment_of_mem_lineMembers h
  obtain ⟨declaration, -, hlift⟩ := treatment_eq_lift_iff.mp htreatment
  obtain ⟨-, hliftable, rfl⟩ := Declaration.treatment_eq_lift_iff.mp hlift
  obtain ⟨name, -, rfl⟩ := List.mem_map.mp hm
  exact hliftable.1

theorem type_mem_of_mem_liftedMembers {snippet : Option (List Char)} {m : Snippet.Member}
    (h : m ∈ liftedMembers snippet) : m.type ∈ liftableTypes := by
  obtain ⟨line, -, hline⟩ := List.mem_flatMap.mp h
  exact type_mem_of_mem_lineMembers hline

theorem exists_valueType {m : Snippet.Member} (h : m.type ∈ liftableTypes) :
    ∃ type, m.valueType? = some type ∧ isWordType type = true := by
  have hany := isWordType_of_mem_liftableTypes m.type h
  rw [Option.any_eq_true] at hany
  exact hany

/-- All that is lifted has types, in the same order. -/
theorem exists_fields {members : List Snippet.Member} (h : ∀ m ∈ members, m.type ∈ liftableTypes) :
    ∃ fields, members.mapM (·.field?) = some fields ∧ (∀ field ∈ fields, isWordType field.2 = true) ∧
      fields.map (fun field => (some field.1, some field.2)) =
        members.map fun m => (some (String.ofList m.name), m.valueType?) := by
  induction members with
  | nil => exact ⟨[], rfl, fun field hfield => absurd hfield List.not_mem_nil, rfl⟩
  | cons m members ih =>
    obtain ⟨hm, hrest⟩ := List.forall_mem_cons.mp h
    obtain ⟨type, htype, hword⟩ := exists_valueType hm
    obtain ⟨fields, hfields, hwords, hmap⟩ := ih hrest
    have hfield : m.field? = some (String.ofList m.name, type) := by rw [Member.field?, htype, Option.map_some]
    refine ⟨(String.ofList m.name, type) :: fields, ?_, List.forall_mem_cons.mpr ⟨hword, hwords⟩, ?_⟩
    · rw [List.mapM_cons, hfield, hfields]
      rfl
    · rw [List.map_cons, List.map_cons, hmap, htype]

/-! ## The block -/

/-- The members every block has. -/
def fixedFields : List (String × Ty) :=
  [(progressMember, .scalar .float32), (resolutionMember, .vector .two .float32)]

def blockName : String := "TransitionParams"

/-- The parameter block with lifted members, unless one of them has no type. -/
def parameterBlock? (members : List Snippet.Member) : Option Ty := do
  let lifted ← members.mapM (·.field?)
  recordOf? .std140 blockName (fixedFields ++ lifted)

/-- The block whose first two members are at their places and others come behind. -/
def parameterBlock (lifted : List Shader.Member) (size : Nat) : Ty :=
  .record blockName
    (.ofList (⟨some progressMember, .scalar .float32, none, 0⟩ ::
      ⟨some resolutionMember, .vector .two .float32, none, 8⟩ :: lifted)) size

/-- Where the lifted members are in a block of a size. -/
structure PlacesLifted (members : List Snippet.Member) (lifted : List Shader.Member) (size : Nat) : Prop where
  /-- They are those of the snippet, in source order and with the types they are declared with. -/
  declared : lifted.map (fun m => (m.name, some m.type)) =
    members.map fun m => (some (String.ofList m.name), m.valueType?)
  extents : ∀ m ∈ lifted, m.type.extent ∈ wordExtents
  aligned : ∀ m ∈ lifted, m.type.extent.alignment ∣ m.offset
  /-- None starts before the end of the resolution. -/
  behind : ∀ m ∈ lifted, 16 ≤ m.offset
  within : ∀ m ∈ lifted, m.finish ≤ size
  apart : lifted.Pairwise fun earlier later => earlier.finish ≤ later.offset
  fixed : 16 ≤ size

theorem placed_fixedFields (later : List (String × Ty)) :
    placed 0 (fixedFields ++ later) = ⟨some progressMember, .scalar .float32, none, 0⟩ ::
      ⟨some resolutionMember, .vector .two .float32, none, 8⟩ :: placed 16 later := by
  rw [placed_append]
  rfl

theorem freeBehind_fixedFields (later : List (String × Ty)) :
    freeBehind 0 (fixedFields ++ later) = freeBehind 16 later := by
  rw [freeBehind_append]
  rfl

/-- Every snippet has a parameter block, with what it lifts clear of the first two members. -/
theorem exists_parameterBlock (snippet : Option (List Char)) :
    ∃ lifted size, parameterBlock? (liftedMembers snippet) = some (parameterBlock lifted size) ∧
      PlacesLifted (liftedMembers snippet) lifted size := by
  obtain ⟨fields, hfields, hwords, hmap⟩ :=
    exists_fields fun m (hm : m ∈ liftedMembers snippet) => type_mem_of_mem_liftedMembers hm
  have hplain : ∀ field ∈ fields, field.2.isPlain = true := fun field hfield =>
    (Bool.and_eq_true_iff.mp (hwords field hfield)).1
  -- The two fixed members are plain as well, so the whole block is placed by the one rule.
  have hall : ∀ field ∈ fixedFields ++ fields, field.2.isPlain = true := by
    intro field hfield
    cases List.mem_append.mp hfield with
    | inl hfixed => exact (by decide : ∀ field ∈ fixedFields, field.2.isPlain = true) field hfixed
    | inr hlifted => exact hplain field hlifted
  have hsize : freeBehind 16 fields ≤ blockSize (fixedFields ++ fields) := by
    rw [← freeBehind_fixedFields]
    exact freeBehind_le_blockSize
  have hnames := map_placed 16 fields
  refine ⟨placed 16 fields, blockSize (fixedFields ++ fields), ?_, {
    declared := ?_
    extents := fun m hm => ?_
    aligned := fun m hm => dvd_offset_of_mem_placed hm
    behind := fun m hm => le_offset_of_mem_placed hplain hm
    within := fun m hm => Nat.le_trans (finish_le_of_mem_placed hplain hm) hsize
    apart := pairwise_placed hplain 16
    fixed := Nat.le_trans (le_freeBehind hplain 16) hsize }⟩
  · show (liftedMembers snippet).mapM (·.field?) >>= (fun lifted => _) = _
    rw [hfields]
    show recordOf? .std140 blockName (fixedFields ++ fields) = _
    rw [recordOf?_of_isPlain hall, placed_fixedFields]
    rfl
  · -- `exists_fields` has the types as options, `map_placed` as they are.
    rw [← hmap]
    have hview := congrArg (List.map fun entry : Option String × Ty => (entry.1, some entry.2)) hnames
    simpa only [List.map_map, Function.comp_def] using hview
  · have hmem : (m.name, m.type) ∈ fields.map fun field => (some field.1, field.2) := by
      rw [← hnames]
      exact List.mem_map_of_mem hm
    obtain ⟨field, hfield, heq⟩ := List.mem_map.mp hmem
    have htype : field.2 = m.type := congrArg Prod.snd heq
    have hword := (Bool.and_eq_true_iff.mp (hwords field hfield)).2
    rw [htype] at hword
    exact of_decide_eq_true hword

/-- A scalar goes into the tail of a vector of three, and the block ends at a multiple of sixteen. -/
example : parameterBlock? [⟨"vec3".toList, "a".toList⟩, ⟨"float".toList, "b".toList⟩] =
    some (parameterBlock [⟨some "a", .vector .three .float32, none, 16⟩,
      ⟨some "b", .scalar .float32, none, 28⟩] 32) := by decide +kernel

end FrameTransition.Snippet
