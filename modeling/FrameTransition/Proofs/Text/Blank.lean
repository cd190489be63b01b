import FrameTransition.Proofs.Text.Splitting
import Mathlib.Data.List.Basic
import Mathlib.Data.List.TakeWhile

/-!
# Blanks around and between words

Trimming and splitting into words look at blanks only as blanks. So both say the same of a text whose
characters were exchanged with the blanks left blank (`trimStart_map`, `words_map`), blanks at an end go
without a trace (`trimEnd_append_of_blank`), and no other character is lost on the way (`exists_word_of_mem`,
`mem_trim`, `mem_join`).
-/

namespace FrameTransition.Text

variable {cs blanks : List Char} {c : Char}

theorem not_isBlank_of_all (h : cs.all (! isBlank ·) = true) : ∀ c ∈ cs, ¬ isBlank c := by
  simpa using h

/-! ## Blanks at the ends -/

theorem trimEnd_eq_nil (h : ∀ c ∈ blanks, isBlank c) : trimEnd blanks = [] := by
  have hreverse : ∀ c ∈ blanks.reverse, isBlank c := fun c hc => h c (List.mem_reverse.mp hc)
  rw [trimEnd, List.dropWhile_eq_nil_iff.mpr hreverse, List.reverse_nil]

theorem trimEnd_append_of_blank (cs : List Char) (h : ∀ c ∈ blanks, isBlank c) :
    trimEnd (cs ++ blanks) = trimEnd cs := by
  have hreverse : ∀ c ∈ blanks.reverse, isBlank c := fun c hc => h c (List.mem_reverse.mp hc)
  rw [trimEnd, List.reverse_append, List.dropWhile_append_of_pos hreverse, trimEnd]

/-- Blanks behind a text stay behind what trimming its start leaves, if it leaves something. -/
theorem trimStart_append_of_blank (h : ∀ c ∈ blanks, isBlank c) :
    trimStart (cs ++ blanks) = trimStart cs ++ blanks ∨
      trimStart (cs ++ blanks) = [] ∧ trimStart cs = [] := by
  unfold trimStart
  rw [List.dropWhile_append]
  cases hcs : cs.dropWhile isBlank with
  | nil => exact .inr ⟨by simpa using h, rfl⟩
  | cons c rest => exact .inl rfl

theorem trim_append_of_blank (cs : List Char) (h : ∀ c ∈ blanks, isBlank c) : trim (cs ++ blanks) = trim cs := by
  rcases @trimStart_append_of_blank cs blanks h with hstart | ⟨happend, hstart⟩
  · rw [trim, hstart, trimEnd_append_of_blank _ h, trim]
  · rw [trim, happend, trim, hstart]

/-- The ending of a line is blank. -/
theorem trim_dropReturn (line : List Char) : trim (dropReturn line) = trim line := by
  by_cases hreturn : line.getLast? = some '\r'
  · have hline := List.dropLast_append_getLast? '\r' hreturn
    have hblank : ∀ c ∈ ['\r'], isBlank c := List.forall_mem_singleton.mpr rfl
    rw [dropReturn, if_pos hreturn, ← trim_append_of_blank line.dropLast hblank, hline]
  · rw [dropReturn, if_neg hreturn]

/-- A text is blanks and what trimming its start leaves. -/
theorem exists_blank_append_trimStart (cs : List Char) :
    ∃ blanks, (∀ c ∈ blanks, isBlank c) ∧ cs = blanks ++ trimStart cs :=
  ⟨cs.takeWhile isBlank, fun _ hc => List.mem_takeWhile_imp hc, List.takeWhile_append_dropWhile.symm⟩

theorem mem_trimStart (hmem : c ∈ cs) (hc : ¬ isBlank c) : c ∈ trimStart cs := by
  rw [← List.takeWhile_append_dropWhile (p := isBlank) (l := cs)] at hmem
  rcases List.mem_append.mp hmem with hmem | hmem
  · exact absurd (List.mem_takeWhile_imp hmem) hc
  · exact hmem

theorem mem_trimEnd (hmem : c ∈ cs) (hc : ¬ isBlank c) : c ∈ trimEnd cs :=
  List.mem_reverse.mpr (mem_trimStart (List.mem_reverse.mpr hmem) hc)

theorem mem_trim (hmem : c ∈ cs) (hc : ¬ isBlank c) : c ∈ trim cs :=
  mem_trimEnd (mem_trimStart hmem hc) hc

/-! ## Words -/

theorem words_cons_of_blank (rest : List Char) (hc : isBlank c) : words (c :: rest) = words rest := by
  rw [words.eq_def]
  exact if_pos hc

/-- A character that is not blank stands in one of the words. -/
theorem exists_word_of_mem (hmem : c ∈ cs) (hc : ¬ isBlank c) : ∃ word ∈ words cs, c ∈ word := by
  fun_induction words cs with
  | case1 => cases hmem
  | case2 first rest hfirst ih =>
    rcases List.mem_cons.mp hmem with rfl | hmem
    · exact absurd hfirst hc
    · exact ih hmem
  | case3 first => exact ⟨[first], List.mem_singleton_self _, hmem⟩
  | case4 first hfirst next rest hnext ih =>
    rcases List.mem_cons.mp hmem with rfl | hmem
    · exact ⟨[c], List.mem_cons_self, List.mem_singleton_self c⟩
    · obtain ⟨word, hword, hcword⟩ := ih hmem
      exact ⟨word, List.mem_cons_of_mem _ hword, hcword⟩
  | case5 first hfirst next rest hnext hwords ih =>
    rw [hwords]
    rcases List.mem_cons.mp hmem with rfl | hmem
    · exact ⟨[c], List.mem_singleton_self _, List.mem_singleton_self c⟩
    · obtain ⟨word, hword, -⟩ := ih hmem
      rw [hwords] at hword
      cases hword
  | case6 first hfirst next rest hnext word others hwords ih =>
    rw [hwords]
    rcases List.mem_cons.mp hmem with rfl | hmem
    · exact ⟨c :: word, List.mem_cons_self, List.mem_cons_self⟩
    · obtain ⟨found, hfound, hcfound⟩ := ih hmem
      rw [hwords] at hfound
      rcases List.mem_cons.mp hfound with rfl | hfound
      · exact ⟨first :: found, List.mem_cons_self, List.mem_cons_of_mem _ hcfound⟩
      · exact ⟨found, List.mem_cons_of_mem _ hfound, hcfound⟩

theorem mem_join {separator piece : List Char} {pieces : List (List Char)} (hpiece : piece ∈ pieces)
    (hc : c ∈ piece) : c ∈ join separator pieces := by
  fun_induction join separator pieces with
  | case1 => cases hpiece
  | case2 only =>
    rw [List.mem_singleton.mp hpiece] at hc
    exact hc
  | case3 first others _ ih =>
    rcases List.mem_cons.mp hpiece with rfl | hpiece
    · exact List.mem_append_left _ (List.mem_append_left _ hc)
    · exact List.mem_append_right _ (ih hpiece)

/-! ## Exchanging characters -/

section Exchange

variable {f : Char → Char} (hblank : ∀ c, isBlank (f c) = isBlank c)

include hblank

theorem trimStart_map (cs : List Char) : trimStart (cs.map f) = (trimStart cs).map f := by
  have hcomp : isBlank ∘ f = isBlank := funext hblank
  rw [trimStart, List.dropWhile_map, hcomp, trimStart]

theorem trimEnd_map (cs : List Char) : trimEnd (cs.map f) = (trimEnd cs).map f := by
  have hstart := trimStart_map hblank cs.reverse
  rw [trimStart, trimStart, List.map_reverse] at hstart
  rw [trimEnd, trimEnd, hstart, List.map_reverse]

/-- Where only blanks are exchanged, the words stay. -/
theorem words_map (hkeep : ∀ c, ¬ isBlank c → f c = c) (cs : List Char) :
    words (cs.map f) = words cs := by
  induction cs with
  | nil => rfl
  | cons c rest ih =>
    by_cases hc : isBlank c
    · have hfc : isBlank (f c) := (hblank c).trans hc
      rw [List.map_cons, words_cons_of_blank _ hfc, words_cons_of_blank _ hc, ih]
    · cases rest with
      | nil => rw [List.map_cons, List.map_nil, hkeep c hc]
      | cons next rest =>
        rw [List.map_cons] at ih
        rw [List.map_cons, List.map_cons, hkeep c hc]
        simp only [words, hblank] at ih ⊢
        rw [ih]

end Exchange

end FrameTransition.Text
