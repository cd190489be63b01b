import FrameTransition.Proofs.Text.Splitting
import FrameTransition.Snippet.Template

/-!
# What becomes of a line

A line is emptied for one of three reasons, each stated on the line's own text, and `treatment` is shown to
decide just these (`treatment_eq_keep_iff`). The body of a shader then has one line for each line of its
snippet, without its line feed the `segment` of that line, and the text in front of the body depends on the
lifted members alone.
-/

namespace FrameTransition.Snippet

/-! ## Lines that are removed -/

/-- The declaration names only what is declared around every snippet already. -/
def Declaration.IsReserved (declaration : Declaration) : Prop :=
  ∀ name ∈ declaration.names, name ∈ reservedNames

/-- The declaration is one that the parameter block takes. -/
def Declaration.IsLiftable (declaration : Declaration) : Prop :=
  declaration.type ∈ liftableTypes ∧ ∀ name ∈ declaration.names, isIdentifier name = true

/-- A line with a version directive, behind any blanks. -/
def IsVersion (line : List Char) : Prop :=
  versionMark <+: Text.trimStart line

/-- A line whose place in the body is empty: a version directive, a declaration of reserved names only, or
one that is lifted. -/
def IsRemoved (line : List Char) : Prop :=
  IsVersion line ∨
    ∃ declaration, Declaration.ofLine? (Text.trimStart line) = some declaration ∧
      (declaration.IsReserved ∨ declaration.IsLiftable)

theorem isSome_afterMark?_iff {mark cs : List Char} : (afterMark? mark cs).isSome ↔ mark <+: cs := by
  constructor
  · intro h
    obtain ⟨rest, hrest⟩ := Option.isSome_iff_exists.mp h
    exact ⟨rest, (eq_append_of_afterMark? hrest).symm⟩
  · rintro ⟨rest, rfl⟩
    rw [afterMark?_append]
    rfl

namespace Declaration

variable {declaration : Declaration}

theorem treatment_of_isReserved (h : declaration.IsReserved) : declaration.treatment = .drop :=
  if_pos (by simpa [IsReserved] using h)

theorem treatment_of_isLiftable (hreserved : ¬ declaration.IsReserved) (h : declaration.IsLiftable) :
    declaration.treatment =
      .lift ((declaration.names.filter (· ∉ reservedNames)).map (⟨declaration.type, ·⟩)) := by
  have hnames : ¬ (declaration.type ∉ liftableTypes ∨ declaration.names.any (!isIdentifier ·)) := by
    simpa [IsLiftable] using h
  unfold treatment
  rw [if_neg (by simpa [IsReserved] using hreserved), if_neg hnames]

theorem treatment_of_not_isLiftable (hreserved : ¬ declaration.IsReserved) (h : ¬ declaration.IsLiftable) :
    declaration.treatment = .keep := by
  have hnames : declaration.type ∉ liftableTypes ∨ declaration.names.any (!isIdentifier ·) := by
    by_cases htype : declaration.type ∈ liftableTypes
    · exact .inr (by simpa [IsLiftable, htype] using h)
    · exact .inl htype
  unfold treatment
  rw [if_neg (by simpa [IsReserved] using hreserved), if_pos hnames]

/-- A declaration that is neither all reserved nor liftable is left to the compiler. -/
theorem treatment_eq_keep_iff :
    declaration.treatment = .keep ↔ ¬ (declaration.IsReserved ∨ declaration.IsLiftable) := by
  by_cases hreserved : declaration.IsReserved
  · rw [treatment_of_isReserved hreserved]
    simp [hreserved]
  · by_cases hliftable : declaration.IsLiftable
    · rw [treatment_of_isLiftable hreserved hliftable]
      simp [hliftable]
    · rw [treatment_of_not_isLiftable hreserved hliftable]
      simp [hreserved, hliftable]

theorem treatment_eq_lift_iff {members : List Member} :
    declaration.treatment = .lift members ↔ ¬ declaration.IsReserved ∧ declaration.IsLiftable ∧
      members = (declaration.names.filter (· ∉ reservedNames)).map (⟨declaration.type, ·⟩) := by
  by_cases hreserved : declaration.IsReserved
  · rw [treatment_of_isReserved hreserved]
    simp [hreserved]
  · by_cases hliftable : declaration.IsLiftable
    · rw [treatment_of_isLiftable hreserved hliftable]
      simp [hreserved, hliftable, eq_comm]
    · rw [treatment_of_not_isLiftable hreserved hliftable]
      simp [hliftable]

theorem treatment_eq_drop_iff : declaration.treatment = .drop ↔ declaration.IsReserved := by
  by_cases hreserved : declaration.IsReserved
  · simp [treatment_of_isReserved hreserved, hreserved]
  · by_cases hliftable : declaration.IsLiftable
    · simp [treatment_of_isLiftable hreserved hliftable, hreserved]
    · simp [treatment_of_not_isLiftable hreserved hliftable, hreserved]

end Declaration

theorem treatment_of_isVersion {line : List Char} (h : IsVersion line) : treatment line = .drop :=
  if_pos (isSome_afterMark?_iff.mpr h)

theorem treatment_of_not_isVersion {line : List Char} (h : ¬ IsVersion line) :
    treatment line =
      match Declaration.ofLine? (Text.trimStart line) with
      | none => .keep
      | some declaration => declaration.treatment :=
  if_neg (mt isSome_afterMark?_iff.mp h)

/-- A line is kept unless it is removed for one of the three reasons. -/
theorem treatment_eq_keep_iff {line : List Char} : treatment line = .keep ↔ ¬ IsRemoved line := by
  unfold IsRemoved
  by_cases hversion : IsVersion line
  · rw [treatment_of_isVersion hversion]
    simp [hversion]
  · rw [treatment_of_not_isVersion hversion]
    cases hline : Declaration.ofLine? (Text.trimStart line) with
    | none => simp [hversion]
    | some declaration => simp [hversion, Declaration.treatment_eq_keep_iff]

/-- No text begins with both marks. -/
theorem afterMark?_of_isVersion {line : List Char} (h : IsVersion line) :
    afterMark? uniformMark (Text.trimStart line) = none := by
  obtain ⟨rest, hrest⟩ := h
  rw [← hrest]
  rfl

/-- A line that is taken apart is no version directive. -/
theorem not_isVersion_of_ofLine? {line : List Char} {d : Declaration}
    (h : Declaration.ofLine? (Text.trimStart line) = some d) : ¬ IsVersion line := by
  intro hversion
  rw [Declaration.ofLine?, afterMark?_of_isVersion hversion] at h
  cases h

theorem treatment_eq_lift_iff {line : List Char} {members : List Member} :
    treatment line = .lift members ↔
      ∃ d, Declaration.ofLine? (Text.trimStart line) = some d ∧ d.treatment = .lift members := by
  constructor
  · intro h
    by_cases hversion : IsVersion line
    · rw [treatment_of_isVersion hversion] at h
      cases h
    · rw [treatment_of_not_isVersion hversion] at h
      split at h
      case h_1 => cases h
      case h_2 d hline => exact ⟨d, hline, h⟩
  · rintro ⟨d, hline, htreatment⟩
    rw [treatment_of_not_isVersion (not_isVersion_of_ofLine? hline), hline]
    exact htreatment

theorem treatment_eq_drop_iff {line : List Char} :
    treatment line = .drop ↔ IsVersion line ∨
      ∃ d, Declaration.ofLine? (Text.trimStart line) = some d ∧ d.treatment = .drop := by
  by_cases hversion : IsVersion line
  · simp [treatment_of_isVersion hversion, hversion]
  · rw [treatment_of_not_isVersion hversion]
    cases Declaration.ofLine? (Text.trimStart line) with
    | none => simp [hversion]
    | some d => simp [hversion]

theorem exists_treatment_of_mem_lineMembers {line : List Char} {m : Member} (h : m ∈ lineMembers line) :
    ∃ members, treatment line = .lift members ∧ m ∈ members := by
  unfold lineMembers at h
  cases htreatment : treatment line with
  | lift members =>
    rw [htreatment] at h
    exact ⟨members, rfl, h⟩
  | _ =>
    rw [htreatment] at h
    cases h

/-! ## Lines of the body -/

/-- The line in the body for a line of the snippet, without its line feed. -/
def segment (line : List Char) : List Char :=
  (treatment line).text line

theorem segment_of_isRemoved {line : List Char} (h : IsRemoved line) : segment line = [] := by
  have hkeep : treatment line ≠ .keep := fun hkeep => treatment_eq_keep_iff.mp hkeep h
  unfold segment
  cases htreatment : treatment line with
  | keep => exact absurd htreatment hkeep
  | drop => rfl
  | lift members => rfl

theorem segment_of_not_isRemoved {line : List Char} (h : ¬ IsRemoved line) : segment line = line := by
  unfold segment
  rw [treatment_eq_keep_iff.mpr h]
  rfl

theorem not_mem_segment {line : List Char} (h : '\n' ∉ line) : '\n' ∉ segment line := by
  by_cases hremoved : IsRemoved line
  · rw [segment_of_isRemoved hremoved]
    exact List.not_mem_nil
  · rwa [segment_of_not_isRemoved hremoved]

/-- No version directive is left: a compiler takes one at the very start of a text only. -/
theorem not_isVersion_segment (line : List Char) : ¬ IsVersion (segment line) := by
  by_cases hremoved : IsRemoved line
  · rw [segment_of_isRemoved hremoved]
    exact fun hversion => List.cons_ne_nil _ _ (List.prefix_nil.mp hversion)
  · rw [segment_of_not_isRemoved hremoved]
    exact fun hversion => hremoved (.inl hversion)

/-- The body is made of one line for each line of the snippet. -/
theorem body_sanitize (snippet : List Char) :
    (sanitize snippet).body = ((Text.lines snippet).map segment).flatMap (· ++ ['\n']) := by
  rw [List.flatMap_map]
  rfl

theorem not_mem_of_mem_segments {snippet line : List Char} (h : line ∈ (Text.lines snippet).map segment) :
    '\n' ∉ line := by
  obtain ⟨source, hsource, rfl⟩ := List.mem_map.mp h
  exact not_mem_segment (Text.not_mem_of_mem_lines hsource)

/-! ## The shader around it -/

/-- The declarations in front of a snippet. -/
def declarations (members : List Member) : List Char :=
  prelude.toList ++ blockStart.toList ++ members.flatMap memberLine ++ blockEnd.toList ++ defines.toList

theorem assemble_some (snippet : List Char) :
    assemble (some snippet) = declarations (sanitize snippet).members ++ lineMark.toList ++
      (sanitize snippet).body ++ footer.toList := rfl

end FrameTransition.Snippet
