import Mathlib.Data.List.Basic

/-!
# The first and the last of a kind

Linking and resolution choose by order: the first output of a location, the first input that does not fit,
the last global of a role. Here these choices are said of a list by what stands in front of the chosen
element and behind it, with no search; `find?_eq_some_iff_isFirst` and `getLast?_filterMap_eq_some_iff` say that
the searches make them.
-/

namespace FrameTransition.Shader

variable {α β : Type} {p : α → Prop} {xs : List α} {x y : α}

/-- The element has the property, and none in front of it has. -/
def IsFirst (p : α → Prop) (xs : List α) (x : α) : Prop :=
  ∃ before after, xs = before ++ x :: after ∧ p x ∧ ∀ y ∈ before, ¬ p y

/-- The element has the property, and none behind it has. -/
def IsLast (p : α → Prop) (xs : List α) (x : α) : Prop :=
  ∃ before after, xs = before ++ x :: after ∧ p x ∧ ∀ y ∈ after, ¬ p y

/-! ## The first -/

namespace IsFirst

theorem mem (h : IsFirst p xs x) : x ∈ xs := by
  obtain ⟨before, after, rfl, -, -⟩ := h
  exact List.mem_append_right before List.mem_cons_self

theorem holds (h : IsFirst p xs x) : p x := by
  obtain ⟨-, -, -, hx, -⟩ := h
  exact hx

theorem head (hx : p x) (xs : List α) : IsFirst p (x :: xs) x :=
  ⟨[], xs, rfl, hx, fun _ hmem => absurd hmem List.not_mem_nil⟩

theorem cons_iff (hx : ¬ p x) : IsFirst p (x :: xs) y ↔ IsFirst p xs y := by
  constructor
  · rintro ⟨before, after, hsplit, hy, hbefore⟩
    cases before with
    | nil =>
      obtain ⟨rfl, -⟩ := List.cons.inj hsplit
      exact absurd hy hx
    | cons first before =>
      obtain ⟨rfl, rfl⟩ := List.cons.inj hsplit
      exact ⟨before, after, rfl, hy, fun z hz => hbefore z (List.mem_cons_of_mem _ hz)⟩
  · rintro ⟨before, after, rfl, hy, hbefore⟩
    exact ⟨x :: before, after, rfl, hy, List.forall_mem_cons.mpr ⟨hx, hbefore⟩⟩

end IsFirst

theorem find?_eq_some_iff_isFirst [DecidablePred p] :
    xs.find? (fun y => decide (p y)) = some x ↔ IsFirst p xs x := by
  rw [List.find?_eq_some_iff_append]
  simp only [decide_eq_true_eq, Bool.not_eq_true', decide_eq_false_iff_not]
  constructor
  · rintro ⟨hx, before, after, hsplit, hbefore⟩
    exact ⟨before, after, hsplit, hx, hbefore⟩
  · rintro ⟨before, after, hsplit, hx, hbefore⟩
    exact ⟨hx, before, after, hsplit, hbefore⟩

/-- A list with some element of a kind has a first one. -/
theorem exists_isFirst (h : ∃ x ∈ xs, p x) : ∃ x, IsFirst p xs x := by
  classical
  cases hfind : xs.find? (fun y => decide (p y)) with
  | some x => exact ⟨x, find?_eq_some_iff_isFirst.mp hfind⟩
  | none =>
    obtain ⟨x, hmem, hx⟩ := h
    have hnone := List.find?_eq_none.mp hfind x hmem
    simp [hx] at hnone

theorem IsFirst.unique (hx : IsFirst p xs x) (hy : IsFirst p xs y) : x = y := by
  classical
  have hsame := (find?_eq_some_iff_isFirst.mpr hx).symm.trans (find?_eq_some_iff_isFirst.mpr hy)
  exact Option.some.inj hsame

/-! ## The last -/

theorem IsLast.mem (h : IsLast p xs x) : x ∈ xs := by
  obtain ⟨before, after, rfl, -, -⟩ := h
  exact List.mem_append_right before List.mem_cons_self

theorem isLast_iff_reverse : IsLast p xs x ↔ IsFirst p xs.reverse x := by
  constructor
  · rintro ⟨before, after, rfl, hx, hafter⟩
    refine ⟨after.reverse, before.reverse, by simp, hx, ?_⟩
    intro y hy
    exact hafter y (List.mem_reverse.mp hy)
  · rintro ⟨before, after, hsplit, hx, hbefore⟩
    refine ⟨after.reverse, before.reverse, ?_, hx, ?_⟩
    · rw [← List.reverse_reverse xs, hsplit]
      simp
    · intro y hy
      exact hbefore y (List.mem_reverse.mp hy)

/-- What a view shows last is what the last element shows that shows anything. -/
theorem getLast?_filterMap_eq_some_iff {view : α → Option β} {value : β} :
    (xs.filterMap view).getLast? = some value ↔
      ∃ x, IsLast (fun y => (view y).isSome) xs x ∧ view x = some value := by
  rw [List.getLast?_filterMap, List.findSome?_eq_some_iff]
  simp only [isLast_iff_reverse]
  constructor
  · rintro ⟨before, x, after, hsplit, hx, hbefore⟩
    refine ⟨x, ⟨before, after, hsplit, by simp [hx], ?_⟩, hx⟩
    intro y hy
    simp [hbefore y hy]
  · rintro ⟨x, ⟨before, after, hsplit, -, hbefore⟩, hx⟩
    refine ⟨before, x, after, hsplit, hx, ?_⟩
    intro y hy
    simpa using hbefore y hy

/-- Of a list that is passed through a view, what is found first comes from the first element that has it. -/
theorem find?_filterMap_eq_some_iff {view : α → Option β} {q : β → Bool} {value : β} :
    (xs.filterMap view).find? q = some value ↔
      ∃ x, IsFirst (fun y => ∃ shown, view y = some shown ∧ q shown = true) xs x ∧ view x = some value := by
  classical
  rw [List.find?_filterMap, Option.bind_eq_some_iff]
  have hany : (fun y => (view y).any q) = fun y => decide (∃ shown, view y = some shown ∧ q shown = true) := by
    funext y
    cases view y <;> simp
  rw [hany]
  simp only [find?_eq_some_iff_isFirst]

end FrameTransition.Shader
