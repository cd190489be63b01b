import FrameTransition.Proofs.Text.Splitting
import Mathlib.Data.List.Basic

/-!
# Lines of texts that are put together

A text is its first line, a line feed and the rest, or a last line without one (`byLines`), and so the lines
of a text are found from its front to its back. A text that is empty or ends in a line feed leaves nothing
open: the lines behind it are those of what comes behind it (`lines_append`). Whether line feeds have a
carriage return in front of them, and whether the last line has a line feed at all, shows in no line
(`lines_withReturns`, `lines_concat`). Lines that were each ended by a line feed come back as they were, but
for one carriage return at the end of each (`lines_flatMap`).
-/

namespace FrameTransition.Text

variable {line last rest cs : List Char}

/-- Line by line, a text is taken apart from its front. -/
theorem byLines {motive : List Char → Prop} (last : ∀ last, '\n' ∉ last → motive last)
    (line : ∀ line rest, '\n' ∉ line → motive rest → motive (line ++ '\n' :: rest)) (cs : List Char) :
    motive cs := by
  induction hlength : cs.length using Nat.strongRecOn generalizing cs with
  | ind length ih =>
    by_cases hfeed : '\n' ∈ cs
    · obtain ⟨front, back, rfl, hfront⟩ := List.eq_append_cons_of_mem hfeed
      have hshorter : back.length < length := by
        rw [← hlength, List.length_append, List.length_cons]
        omega
      exact line front back hfront (ih back.length hshorter back rfl)
    · exact last cs hfeed

/-! ## The ending of a line -/

theorem dropReturn_eq_self_iff : dropReturn line = line ↔ line.getLast? ≠ some '\r' := by
  constructor
  · intro h hlast
    have hshorter := congrArg List.length (List.dropLast_append_getLast? '\r' hlast)
    rw [dropReturn, if_pos hlast] at h
    rw [h, List.length_append] at hshorter
    exact Nat.succ_ne_self _ hshorter
  · exact fun h => if_neg h

theorem dropReturn_concat (line : List Char) : dropReturn (line ++ ['\r']) = line := by
  rw [dropReturn, List.getLast?_concat, if_pos rfl, List.dropLast_concat]

theorem dropReturn_of_not_mem (h : '\r' ∉ line) : dropReturn line = line :=
  dropReturn_eq_self_iff.mpr fun hlast => h (List.mem_of_getLast? hlast)

/-! ## One line after the other -/

theorem lines_cons (hline : '\n' ∉ line) (rest : List Char) :
    lines (line ++ '\n' :: rest) = dropReturn line :: lines rest := by
  obtain ⟨first, later, hrest⟩ := List.exists_cons_of_ne_nil (splitOn_ne_nil '\n' rest)
  rw [lines, splitOn_append_cons, splitOn_of_not_mem hline, List.singleton_append, hrest, lines.go, ← hrest,
    ← lines]
  exact hrest ▸ List.cons_ne_nil _ _

theorem lines_of_not_mem (hlast : '\n' ∉ last) (hne : last ≠ []) : lines last = [last] := by
  rw [lines, splitOn_of_not_mem hlast, lines.go, if_neg hne]

theorem lines_append {front : List Char} (h : front = [] ∨ front.getLast? = some '\n') (back : List Char) :
    lines (front ++ back) = lines front ++ lines back := by
  induction front using byLines with
  | last last hlast =>
    rcases h with rfl | h
    · rfl
    · exact absurd (List.mem_of_getLast? h) hlast
  | line line rest hline ih =>
    have hrest : rest = [] ∨ rest.getLast? = some '\n' := by
      rcases h with h | h
      · exact absurd h (List.append_ne_nil_of_right_ne_nil _ (List.cons_ne_nil _ _))
      · refine or_iff_not_imp_left.mpr fun hne => ?_
        rwa [List.append_cons, List.getLast?_append_of_ne_nil _ hne] at h
    rw [List.append_assoc, List.cons_append, lines_cons hline, lines_cons hline, ih hrest, List.cons_append]

/-- Lines that were each ended by a line feed. -/
theorem lines_flatMap {segments : List (List Char)} (h : ∀ segment ∈ segments, '\n' ∉ segment) :
    lines (segments.flatMap (· ++ ['\n'])) = segments.map dropReturn := by
  induction segments with
  | nil => rfl
  | cons segment segments ih =>
    obtain ⟨hsegment, hrest⟩ := List.forall_mem_cons.mp h
    rw [List.flatMap_cons, List.append_assoc, List.singleton_append, lines_cons hsegment, ih hrest,
      List.map_cons]

/-- Put together, lines can still be told apart. -/
theorem flatMap_inj {segments others : List (List Char)} (h : ∀ segment ∈ segments, '\n' ∉ segment)
    (hother : ∀ segment ∈ others, '\n' ∉ segment)
    (heq : segments.flatMap (· ++ ['\n']) = others.flatMap (· ++ ['\n'])) : segments = others := by
  have hsplit := splitOn_flatMap_append h []
  rw [heq, splitOn_flatMap_append hother] at hsplit
  exact (List.append_cancel_right hsplit).symm

/-- A last line has its line feed or not. -/
theorem lines_concat (hne : cs ≠ []) (hfeed : cs.getLast? ≠ some '\n') (hreturn : cs.getLast? ≠ some '\r') :
    lines (cs ++ ['\n']) = lines cs := by
  induction cs using byLines with
  | last last hlast =>
    rw [lines_cons hlast, dropReturn_eq_self_iff.mpr hreturn, lines_of_not_mem hlast hne]
    rfl
  | line line rest hline ih =>
    have hrest : rest ≠ [] := by
      rintro rfl
      exact hfeed List.getLast?_concat
    rw [List.append_cons, List.getLast?_append_of_ne_nil _ hrest] at hfeed hreturn
    rw [List.append_assoc, List.cons_append, lines_cons hline, lines_cons hline, ih hrest hfeed hreturn]

/-! ## Carriage returns in front of line feeds -/

/-- The text with a carriage return in front of each line feed. -/
def withReturns (cs : List Char) : List Char :=
  cs.flatMap fun c => if c = '\n' then ['\r', '\n'] else [c]

theorem withReturns_of_not_mem (h : '\n' ∉ cs) : withReturns cs = cs := by
  induction cs with
  | nil => rfl
  | cons c cs ih =>
    have hc : c ≠ '\n' := fun hsame => h (hsame ▸ List.mem_cons_self)
    have hrest := ih fun hmem => h (List.mem_cons_of_mem _ hmem)
    rw [withReturns, List.flatMap_cons, if_neg hc, ← withReturns, hrest]
    rfl

theorem withReturns_cons (hline : '\n' ∉ line) (rest : List Char) :
    withReturns (line ++ '\n' :: rest) = line ++ ['\r'] ++ '\n' :: withReturns rest := by
  rw [withReturns, List.flatMap_append, ← withReturns, withReturns_of_not_mem hline, List.flatMap_cons,
    if_pos rfl, List.append_assoc]
  rfl

theorem lines_withReturns (h : '\r' ∉ cs) : lines (withReturns cs) = lines cs := by
  induction cs using byLines with
  | last last hlast => rw [withReturns_of_not_mem hlast]
  | line line rest hline ih =>
    have hreturn : '\r' ∉ line := fun hmem => h (List.mem_append_left _ hmem)
    have hrest : '\r' ∉ rest := fun hmem => h (List.mem_append_right _ (List.mem_cons_of_mem _ hmem))
    have hended : '\n' ∉ line ++ ['\r'] := by
      rw [List.mem_append, not_or]
      exact ⟨hline, by decide⟩
    rw [withReturns_cons hline, lines_cons hended, lines_cons hline, dropReturn_concat,
      dropReturn_of_not_mem hreturn, ih hrest]

end FrameTransition.Text
