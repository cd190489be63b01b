import FrameTransition.Text.Blank
import Mathlib.Data.List.TakeWhile

/-!
# Pieces between separators

Splitting is read off a text that is put together: behind a separator it starts anew
(`splitOn_append_cons`), and no piece holds the separator. So lines that were each ended by a line feed
come back as they were (`splitOn_flatMap_append`), and the lines of any text hold no line feed. Splitting
once cuts at the first separator (`splitOnce?_eq_some_iff`).
-/

namespace FrameTransition.Text

variable {separator : Char}

/-- A separator ends a piece and starts the next one. -/
theorem splitOn_append_cons (first rest : List Char) :
    splitOn separator (first ++ separator :: rest) =
      splitOn separator first ++ splitOn separator rest := by
  induction first with
  | nil => simp [splitOn]
  | cons c first ih =>
    rw [List.cons_append, splitOn, ih]
    by_cases hc : c = separator
    · simp only [splitOn, if_pos hc, List.cons_append]
    · obtain ⟨piece, pieces, hsplit⟩ := List.exists_cons_of_ne_nil (splitOn_ne_nil separator first)
      simp only [splitOn, if_neg hc, hsplit, List.cons_append]

theorem splitOn_of_not_mem {cs : List Char} (h : separator ∉ cs) : splitOn separator cs = [cs] := by
  induction cs with
  | nil => rfl
  | cons c rest ih =>
    have hc : c ≠ separator := fun hsame => h (hsame ▸ List.mem_cons_self)
    rw [splitOn, if_neg hc, ih fun hmem => h (List.mem_cons_of_mem _ hmem)]

theorem not_mem_of_mem_splitOn {cs piece : List Char} (h : piece ∈ splitOn separator cs) :
    separator ∉ piece := by
  induction cs generalizing piece with
  | nil =>
    rw [splitOn, List.mem_singleton] at h
    rw [h]
    exact List.not_mem_nil
  | cons c rest ih =>
    rw [splitOn] at h
    by_cases hc : c = separator
    · rw [if_pos hc] at h
      rcases List.mem_cons.mp h with rfl | h
      · exact List.not_mem_nil
      · exact ih h
    · obtain ⟨first, pieces, hsplit⟩ := List.exists_cons_of_ne_nil (splitOn_ne_nil separator rest)
      rw [if_neg hc] at h
      rw [hsplit] at h ih
      rcases List.mem_cons.mp h with rfl | h
      · intro hmem
        rcases List.mem_cons.mp hmem with hsame | hmem
        · exact hc hsame.symm
        · exact ih List.mem_cons_self hmem
      · exact ih (List.mem_cons_of_mem _ h)

/-- A character that separates nothing stands in one of the pieces. -/
theorem exists_piece_of_mem {cs : List Char} {c : Char} (hmem : c ∈ cs) (hc : c ≠ separator) :
    ∃ piece ∈ splitOn separator cs, c ∈ piece := by
  induction cs with
  | nil => cases hmem
  | cons first rest ih =>
    obtain ⟨piece, pieces, hsplit⟩ := List.exists_cons_of_ne_nil (splitOn_ne_nil separator rest)
    rw [splitOn]
    rcases List.mem_cons.mp hmem with rfl | hmem
    · rw [if_neg hc, hsplit]
      exact ⟨c :: piece, List.mem_cons_self, List.mem_cons_self⟩
    · obtain ⟨found, hfound, hcfound⟩ := ih hmem
      split
      · exact ⟨found, List.mem_cons_of_mem _ hfound, hcfound⟩
      · rw [hsplit] at hfound ⊢
        rcases List.mem_cons.mp hfound with rfl | hfound
        · exact ⟨first :: found, List.mem_cons_self, List.mem_cons_of_mem _ hcfound⟩
        · exact ⟨found, List.mem_cons_of_mem _ hfound, hcfound⟩

/-! ## The first separator -/

theorem splitOnce?_append_cons {front : List Char} (h : separator ∉ front) (rest : List Char) :
    splitOnce? separator (front ++ separator :: rest) = some (front, rest) := by
  have hfront : ∀ c ∈ front, decide (c ≠ separator) = true :=
    fun c hc => decide_eq_true fun hsame => h (hsame ▸ hc)
  have hdrop : (front ++ separator :: rest).dropWhile (· ≠ separator) = separator :: rest := by
    rw [List.dropWhile_append_of_pos hfront]
    simp
  have htake : (front ++ separator :: rest).takeWhile (· ≠ separator) = front := by
    rw [List.takeWhile_append_of_pos hfront]
    simp
  rw [splitOnce?, hdrop, htake]

theorem splitOnce?_eq_none_iff {cs : List Char} : splitOnce? separator cs = none ↔ separator ∉ cs := by
  constructor
  · intro h hmem
    obtain ⟨front, rest, rfl, hfront⟩ := List.eq_append_cons_of_mem hmem
    rw [splitOnce?_append_cons hfront] at h
    cases h
  · intro h
    have hall : ∀ c ∈ cs, decide (c ≠ separator) = true :=
      fun c hc => decide_eq_true fun hsame => h (hsame ▸ hc)
    rw [splitOnce?, List.dropWhile_eq_nil_iff.mpr hall]

theorem splitOnce?_eq_some_iff {cs front rest : List Char} :
    splitOnce? separator cs = some (front, rest) ↔ cs = front ++ separator :: rest ∧ separator ∉ front := by
  constructor
  · intro h
    by_cases hmem : separator ∈ cs
    · obtain ⟨front', rest', rfl, hfront⟩ := List.eq_append_cons_of_mem hmem
      rw [splitOnce?_append_cons hfront] at h
      cases h
      exact ⟨rfl, hfront⟩
    · rw [splitOnce?_eq_none_iff.mpr hmem] at h
      cases h
  · rintro ⟨rfl, hfront⟩
    exact splitOnce?_append_cons hfront rest

/-! ## Lines -/

/-- Lines that were each ended by a separator are pieces, in front of those of what follows. -/
theorem splitOn_flatMap_append {segments : List (List Char)}
    (h : ∀ segment ∈ segments, separator ∉ segment) (rest : List Char) :
    splitOn separator (segments.flatMap (· ++ [separator]) ++ rest) =
      segments ++ splitOn separator rest := by
  induction segments with
  | nil => rfl
  | cons segment segments ih =>
    have hrest := ih fun other hother => h other (List.mem_cons_of_mem _ hother)
    have hsegment := splitOn_of_not_mem (h segment List.mem_cons_self)
    rw [List.flatMap_cons, List.append_assoc, List.append_assoc, List.singleton_append,
      splitOn_append_cons, hsegment, hrest]
    rfl

/-- Pieces that were joined by a separator are taken apart again. -/
theorem splitOn_join {pieces : List (List Char)} (hne : pieces ≠ [])
    (h : ∀ piece ∈ pieces, separator ∉ piece) : splitOn separator (join [separator] pieces) = pieces := by
  fun_induction join [separator] pieces with
  | case1 => exact absurd rfl hne
  | case2 piece => exact splitOn_of_not_mem (h piece List.mem_cons_self)
  | case3 piece pieces hpieces ih =>
    obtain ⟨hpiece, hrest⟩ := List.forall_mem_cons.mp h
    rw [List.append_assoc, List.singleton_append, splitOn_append_cons, splitOn_of_not_mem hpiece,
      ih hpieces hrest, List.singleton_append]

/-- Lines that were each ended by a separator hold as many separators as they are. -/
theorem count_flatMap {segments : List (List Char)} (h : ∀ segment ∈ segments, separator ∉ segment) :
    (segments.flatMap (· ++ [separator])).count separator = segments.length := by
  induction segments with
  | nil => rfl
  | cons segment segments ih =>
    have hrest := ih fun other hother => h other (List.mem_cons_of_mem _ hother)
    rw [List.flatMap_cons, List.count_append, List.count_append, hrest,
      List.count_eq_zero_of_not_mem (h segment List.mem_cons_self), List.count_singleton_self,
      List.length_cons, Nat.zero_add, Nat.add_comm]

theorem mem_of_mem_dropReturn {line : List Char} {c : Char} (h : c ∈ dropReturn line) : c ∈ line := by
  unfold dropReturn at h
  split at h
  · exact (List.dropLast_sublist line).subset h
  · exact h

/-- What the lines are made of holds no line feed, and neither do they. -/
theorem not_mem_of_mem_go {pieces : List (List Char)} (h : ∀ piece ∈ pieces, '\n' ∉ piece)
    {line : List Char} (hline : line ∈ lines.go pieces) : '\n' ∉ line := by
  induction pieces with
  | nil => cases hline
  | cons piece pieces ih =>
    have hpiece := h piece List.mem_cons_self
    cases pieces with
    | nil =>
      rw [lines.go] at hline
      split at hline
      · cases hline
      · rw [List.mem_singleton.mp hline]
        exact hpiece
    | cons next pieces =>
      have hgo : lines.go (piece :: next :: pieces) = dropReturn piece :: lines.go (next :: pieces) := rfl
      rw [hgo] at hline
      rcases List.mem_cons.mp hline with rfl | hline
      · exact fun hmem => hpiece (mem_of_mem_dropReturn hmem)
      · exact ih (fun other hother => h other (List.mem_cons_of_mem _ hother)) hline

/-- A line holds no line feed. -/
theorem not_mem_of_mem_lines {cs line : List Char} (h : line ∈ lines cs) : '\n' ∉ line :=
  not_mem_of_mem_go (fun _ => not_mem_of_mem_splitOn) h

/-- What is gathered from the lines is gathered from the pieces between line feeds, if an empty line gives
nothing and a carriage return at the end makes no difference. -/
theorem flatMap_lines {α : Type} {f : List Char → List α} (hnil : f [] = [])
    (hreturn : ∀ line, f (dropReturn line) = f line) (cs : List Char) :
    (lines cs).flatMap f = (splitOn '\n' cs).flatMap f := by
  have hgo : ∀ pieces, (lines.go pieces).flatMap f = pieces.flatMap f := by
    intro pieces
    fun_induction lines.go pieces with
    | case1 => rfl
    | case2 => rw [List.flatMap_singleton, hnil, List.flatMap_nil]
    | case3 => rfl
    | case4 line rest _ ih => rw [List.flatMap_cons, List.flatMap_cons, hreturn, ih]
  exact hgo _

end FrameTransition.Text
