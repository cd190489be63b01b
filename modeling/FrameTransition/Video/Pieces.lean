/-!
# Output in pieces

What a program writes arrives in pieces of any size. A reader that wants a number of bytes takes them
across the borders of the pieces, so how the output was cut does not show: `flatten_take?` says that
what is taken and what is left are the output again, and `isSome_take?` that only the length of the
whole decides.
-/

namespace FrameTransition.Video

/-- Output that was not read yet, in the pieces it arrived in. -/
abbrev Pieces := List (List UInt8)

namespace Pieces

/-- Takes a number of bytes, or nothing if there are fewer. -/
def take? (count : Nat) : Pieces → Option (List UInt8 × Pieces)
  | [] => if count = 0 then some ([], []) else none
  | piece :: later =>
    if count ≤ piece.length then some (piece.take count, piece.drop count :: later)
    else (take? (count - piece.length) later).map fun (bytes, rest) => (piece ++ bytes, rest)

theorem flatten_take? {count : Nat} {pieces rest : Pieces} {bytes : List UInt8}
    (h : take? count pieces = some (bytes, rest)) :
    bytes.length = count ∧ bytes ++ rest.flatten = pieces.flatten := by
  induction pieces generalizing count bytes rest with
  | nil =>
    by_cases hc : count = 0
    · subst hc
      simp only [take?, if_true, Option.some.injEq, Prod.mk.injEq] at h
      obtain ⟨rfl, rfl⟩ := h
      exact ⟨rfl, rfl⟩
    · simp [take?, hc] at h
  | cons piece later ih =>
    by_cases hc : count ≤ piece.length
    · simp only [take?, hc, if_true, Option.some.injEq, Prod.mk.injEq] at h
      obtain ⟨rfl, rfl⟩ := h
      simp [List.length_take, Nat.min_eq_left hc, ← List.append_assoc, List.take_append_drop]
    · simp only [take?, hc, if_false, Option.map_eq_some_iff] at h
      obtain ⟨⟨inner, left⟩, hinner, heq⟩ := h
      simp only [Prod.mk.injEq] at heq
      obtain ⟨rfl, rfl⟩ := heq
      obtain ⟨hlength, hflatten⟩ := ih hinner
      refine ⟨?_, ?_⟩
      · rw [List.length_append, hlength]
        omega
      · rw [List.append_assoc, hflatten, List.flatten_cons]

theorem isSome_take? (count : Nat) (pieces : Pieces) :
    (take? count pieces).isSome = true ↔ count ≤ pieces.flatten.length := by
  induction pieces generalizing count with
  | nil => by_cases hc : count = 0 <;> simp [take?, hc]
  | cons piece later ih =>
    by_cases hc : count ≤ piece.length
    · simp only [take?, hc, if_true, Option.isSome_some, List.flatten_cons, List.length_append,
        true_iff]
      omega
    · simp only [take?, hc, if_false, Option.isSome_map, List.flatten_cons, List.length_append]
      rw [ih]
      omega

theorem take?_eq_none_iff {count : Nat} {pieces : Pieces} :
    take? count pieces = none ↔ pieces.flatten.length < count := by
  rw [← Nat.not_le, ← isSome_take?]
  cases take? count pieces <;> simp

/-- Where there is enough, the first bytes are taken and the others left, however they were cut. -/
theorem exists_take? {count : Nat} {pieces : Pieces} (h : count ≤ pieces.flatten.length) :
    ∃ rest, take? count pieces = some (pieces.flatten.take count, rest) ∧
      rest.flatten = pieces.flatten.drop count := by
  obtain ⟨⟨bytes, rest⟩, htaken⟩ := Option.isSome_iff_exists.mp ((isSome_take? count pieces).mpr h)
  obtain ⟨hlength, hflatten⟩ := flatten_take? htaken
  have hbytes : pieces.flatten.take count = bytes := by rw [← hflatten, ← hlength, List.take_left]
  have hrest : pieces.flatten.drop count = rest.flatten := by rw [← hflatten, ← hlength, List.drop_left]
  exact ⟨rest, hbytes ▸ htaken, hrest.symm⟩

end Pieces

end FrameTransition.Video
