import FrameTransition.Shader.BlockLayout

/-!
# Blocks of scalars and vectors

A block of scalars and vectors alone is laid out by one rule: each member goes to the first offset behind
the one before that its alignment allows. `placed` is that rule by itself, and `recordOf?_of_isPlain` says
that a block of such members is laid out by it.

That members do not overlap needs one fact only, by induction over the members still to be placed: none of
them starts in front of the free offset (`le_offset_of_mem_placed`).
-/

namespace FrameTransition.Shader

/-! ## Rounding up -/

section RoundUp

variable {alignment n : Nat}

theorem le_roundUp (h : 0 < alignment) : n ≤ roundUp alignment n := by
  unfold roundUp
  have hdiv := Nat.div_add_mod' (n + alignment - 1) alignment
  have hmod := Nat.mod_lt (n + alignment - 1) h
  omega

theorem dvd_roundUp : alignment ∣ roundUp alignment n :=
  Nat.dvd_mul_left _ _

end RoundUp

/-! ## Scalars and vectors -/

/-- A scalar or a vector of scalars that take up space. -/
def Ty.isPlain : Ty → Bool
  | scalar s => 0 < s.width
  | vector _ s => 0 < s.width
  | _ => false

namespace Ty

variable {type : Ty}

/-- Both rules lay a scalar or a vector out as it is. -/
theorem laidOut?_of_isPlain (rule : LayoutRule) (h : type.isPlain = true) :
    type.laidOut? rule = some (type, type.extent) := by
  cases type with
  | scalar scalar => rfl
  | vector size scalar => rfl
  | matrix columns rows scalar => cases h
  | image shape => cases h
  | sampler comparison => cases h
  | array element length stride => cases h
  | record name members span => cases h

theorem alignment_pos_of_isPlain (h : type.isPlain = true) : 0 < type.extent.alignment := by
  cases type with
  | scalar scalar =>
    have hwidth : 0 < scalar.width := of_decide_eq_true h
    exact hwidth
  | vector size scalar =>
    have hwidth : 0 < scalar.width := of_decide_eq_true h
    have hsize : 0 < size.alignment := by cases size <;> decide
    exact Nat.mul_pos hsize hwidth
  | matrix columns rows scalar => cases h
  | image shape => cases h
  | sampler comparison => cases h
  | array element length stride => cases h
  | record name members span => cases h

end Ty

/-! ## One member behind the other -/

/-- Where a member ends. -/
def Member.finish (m : Member) : Nat :=
  m.offset + m.type.extent.span

/-- The first place for a member behind a free offset. -/
def memberAt (free : Nat) (field : String × Ty) : Member :=
  ⟨some field.1, field.2, none, roundUp field.2.extent.alignment free⟩

/-- Members for names and types, each behind the one before. -/
def placed (free : Nat) : List (String × Ty) → List Member
  | [] => []
  | field :: fields => memberAt free field :: placed (memberAt free field).finish fields

/-- The free offset behind members. -/
def freeBehind (free : Nat) (fields : List (String × Ty)) : Nat :=
  fields.foldl (fun free field => (memberAt free field).finish) free

/-- The largest of the alignments of members and a given one. -/
def largestAlignment (alignment : Nat) (fields : List (String × Ty)) : Nat :=
  fields.foldl (fun alignment field => max alignment field.2.extent.alignment) alignment

/-- The bytes of a block: up to the next multiple of its largest alignment. -/
def blockSize (fields : List (String × Ty)) : Nat :=
  roundUp (largestAlignment 1 fields) (freeBehind 0 fields)

section Placed

variable {fields : List (String × Ty)}

theorem le_largestAlignment (alignment : Nat) (fields : List (String × Ty)) :
    alignment ≤ largestAlignment alignment fields := by
  induction fields generalizing alignment with
  | nil => exact Nat.le_refl alignment
  | cons field fields ih => exact Nat.le_trans (Nat.le_max_left _ _) (ih _)

theorem freeBehind_le_blockSize : freeBehind 0 fields ≤ blockSize fields :=
  le_roundUp (le_largestAlignment 1 fields)

theorem placed_append (free : Nat) (fields later : List (String × Ty)) :
    placed free (fields ++ later) = placed free fields ++ placed (freeBehind free fields) later := by
  induction fields generalizing free with
  | nil => rfl
  | cons field fields ih => exact congrArg (memberAt free field :: ·) (ih _)

theorem freeBehind_append (free : Nat) (fields later : List (String × Ty)) :
    freeBehind free (fields ++ later) = freeBehind (freeBehind free fields) later :=
  List.foldl_append

/-- What is placed is what was to be placed, in the same order. -/
theorem map_placed (free : Nat) (fields : List (String × Ty)) :
    (placed free fields).map (fun m => (m.name, m.type)) = fields.map fun field => (some field.1, field.2) := by
  induction fields generalizing free with
  | nil => rfl
  | cons field fields ih => exact congrArg ((some field.1, field.2) :: ·) (ih _)

theorem dvd_offset_of_mem_placed {free : Nat} {m : Member} (h : m ∈ placed free fields) :
    m.type.extent.alignment ∣ m.offset := by
  induction fields generalizing free with
  | nil => cases h
  | cons field fields ih =>
    cases h with
    | head => exact dvd_roundUp
    | tail _ hlater => exact ih hlater

theorem le_memberAt {free : Nat} {field : String × Ty} (h : field.2.isPlain = true) :
    free ≤ (memberAt free field).offset :=
  le_roundUp (Ty.alignment_pos_of_isPlain h)

variable (hplain : ∀ field ∈ fields, field.2.isPlain = true)

include hplain

theorem le_freeBehind (free : Nat) : free ≤ freeBehind free fields := by
  induction fields generalizing free with
  | nil => exact Nat.le_refl free
  | cons field fields ih =>
    obtain ⟨hfield, hrest⟩ := List.forall_mem_cons.mp hplain
    calc free ≤ (memberAt free field).offset := le_memberAt hfield
      _ ≤ (memberAt free field).finish := Nat.le_add_right _ _
      _ ≤ freeBehind (memberAt free field).finish fields := ih hrest _

/-- No member starts in front of the free offset. -/
theorem le_offset_of_mem_placed {free : Nat} {m : Member} (h : m ∈ placed free fields) :
    free ≤ m.offset := by
  induction fields generalizing free with
  | nil => cases h
  | cons field fields ih =>
    obtain ⟨hfield, hrest⟩ := List.forall_mem_cons.mp hplain
    have hfirst : free ≤ (memberAt free field).offset := le_memberAt hfield
    cases h with
    | head => exact hfirst
    | tail _ hlater =>
      calc free ≤ (memberAt free field).offset := hfirst
        _ ≤ (memberAt free field).finish := Nat.le_add_right _ _
        _ ≤ m.offset := ih hrest hlater

theorem finish_le_of_mem_placed {free : Nat} {m : Member} (h : m ∈ placed free fields) :
    m.finish ≤ freeBehind free fields := by
  induction fields generalizing free with
  | nil => cases h
  | cons field fields ih =>
    obtain ⟨-, hrest⟩ := List.forall_mem_cons.mp hplain
    cases h with
    | head => exact le_freeBehind hrest _
    | tail _ hlater => exact ih hrest hlater

/-- Every member ends before any later one starts. -/
theorem pairwise_placed (free : Nat) :
    (placed free fields).Pairwise fun earlier later => earlier.finish ≤ later.offset := by
  induction fields generalizing free with
  | nil => exact List.Pairwise.nil
  | cons field fields ih =>
    obtain ⟨-, hrest⟩ := List.forall_mem_cons.mp hplain
    -- The rest is placed from where this member ends, so none of it starts before.
    have hbehind : ∀ m ∈ placed (memberAt free field).finish fields,
        (memberAt free field).finish ≤ m.offset := fun m hm => le_offset_of_mem_placed hrest hm
    exact List.Pairwise.cons hbehind (ih hrest _)

/-- What the layout of members comes to, behind others. -/
theorem Members.laidOut?_of_isPlain (rule : LayoutRule) (free alignment : Nat) :
    (Members.ofList (fields.map fun (name, type) => ⟨some name, type, none, 0⟩)).laidOut? rule free alignment =
      some (Members.ofList (placed free fields),
        ⟨largestAlignment alignment fields,
          roundUp (largestAlignment alignment fields) (freeBehind free fields)⟩) := by
  induction fields generalizing free alignment with
  | nil => rfl
  | cons field fields ih =>
    obtain ⟨hfield, hrest⟩ := List.forall_mem_cons.mp hplain
    -- The two accumulators go on with what this member leaves of them.
    have hlater := ih hrest (memberAt free field).finish (max alignment field.2.extent.alignment)
    simp only [List.map_cons, Members.ofList, Members.laidOut?, Ty.laidOut?_of_isPlain rule hfield,
      Option.bind_some]
    exact congrArg (Option.map _) hlater

/-- A block of scalars and vectors has them one behind the other. -/
theorem recordOf?_of_isPlain (rule : LayoutRule) (name : String) :
    recordOf? rule name fields =
      some (.record name (Members.ofList (placed 0 fields)) (blockSize fields)) := by
  have hmembers := Members.laidOut?_of_isPlain hplain rule 0 1
  unfold recordOf?
  simp only [Ty.laidOut?]
  rw [hmembers]
  rfl

end Placed

end FrameTransition.Shader
