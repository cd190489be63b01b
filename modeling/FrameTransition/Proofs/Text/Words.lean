import FrameTransition.Proofs.Text.Blank

/-!
# Words as they stand in a text

A word is a stretch without blanks that is as long as it can be: blanks or the end of the text come behind
it. What `words` finds first is the word a text begins with, behind any blanks (`words_eq_cons_iff`), and a
text of one word is that word with blanks around it, as trimming has it (`words_eq_singleton_iff_trim`).

Joining the words of a text by single spaces changes none of the words between two separators
(`map_words_splitOn_join`). Both this and the deletion of words (`WithoutWords`) go by the words of the text:
each time the first word, and the blanks in front of it, are taken off.
-/

namespace FrameTransition.Text

variable {cs rest blanks word : List Char} {c : Char} {others : List (List Char)}

/-! ## Words -/

structure IsWord (word : List Char) : Prop where
  ne_nil : word ≠ []
  not_blank : ∀ c ∈ word, ¬ isBlank c

/-- A word in front of this text is over. -/
def Ends (rest : List Char) : Prop :=
  ∀ c, rest.head? = some c → isBlank c

theorem ends_nil : Ends [] := by
  intro c h
  cases h

theorem ends_cons (rest : List Char) (h : isBlank c) : Ends (c :: rest) := by
  intro b hb
  cases hb
  exact h

theorem ends_of_blank (h : ∀ c ∈ blanks, isBlank c) : Ends blanks :=
  fun c hc => h c (List.mem_of_mem_head? hc)

theorem Ends.of_isPrefix (h : Ends rest) (hfront : cs <+: rest) : Ends cs := by
  obtain ⟨tail, rfl⟩ := hfront
  intro c hc
  apply h c
  rw [List.head?_append, hc, Option.some_or]

/-- A word does not end where another begins. -/
theorem IsWord.not_ends (h : IsWord word) (rest : List Char) : ¬ Ends (word ++ rest) := by
  obtain ⟨first, later, rfl⟩ := List.exists_cons_of_ne_nil h.ne_nil
  intro hends
  exact h.not_blank first List.mem_cons_self (hends first rfl)

theorem words_blank_append (h : ∀ c ∈ blanks, isBlank c) (cs : List Char) :
    words (blanks ++ cs) = words cs := by
  induction blanks with
  | nil => rfl
  | cons b blanks ih =>
    obtain ⟨hb, hrest⟩ := List.forall_mem_cons.mp h
    rw [List.cons_append, words_cons_of_blank _ hb, ih hrest]

theorem words_cons_of_ends (hc : ¬ isBlank c) (h : Ends rest) : words (c :: rest) = [c] :: words rest := by
  cases rest with
  | nil => simp [words, hc]
  | cons next rest => simp [words, hc, h next rfl]

theorem words_append (hword : IsWord word) (h : Ends rest) : words (word ++ rest) = word :: words rest := by
  obtain ⟨hne, hblank⟩ := hword
  induction word with
  | nil => exact absurd rfl hne
  | cons c word ih =>
    obtain ⟨hc, hrest⟩ := List.forall_mem_cons.mp hblank
    cases word with
    | nil => exact words_cons_of_ends hc h
    | cons next word =>
      have hwords := ih (List.cons_ne_nil _ _) hrest
      have hnext := hrest next List.mem_cons_self
      rw [List.cons_append] at hwords
      rw [List.cons_append, List.cons_append, words, if_neg hc]
      simp only [hnext, hwords, Bool.false_eq_true, if_false]

/-- A text is blank, or begins with a word behind its blanks. -/
theorem blank_or_exists_word (cs : List Char) :
    (∀ c ∈ cs, isBlank c) ∨ ∃ lead word rest, (∀ c ∈ lead, isBlank c) ∧ IsWord word ∧ Ends rest ∧
      cs = lead ++ (word ++ rest) := by
  obtain ⟨lead, hlead, hcs⟩ := exists_blank_append_trimStart cs
  cases htrim : trimStart cs with
  | nil =>
    rw [htrim, List.append_nil] at hcs
    rw [hcs]
    exact .inl hlead
  | cons c text =>
    have hc : ¬ isBlank c := by
      have hhead := List.head?_dropWhile_not isBlank cs
      rw [← trimStart, htrim] at hhead
      simpa using hhead
    have hfirst : (!isBlank c) = true := by simpa using hc
    refine .inr ⟨lead, (c :: text).takeWhile (! isBlank ·), (c :: text).dropWhile (! isBlank ·), hlead,
      ⟨?_, ?_⟩, ?_, ?_⟩
    · rw [List.takeWhile_cons_of_pos (p := (! isBlank ·)) hfirst]
      exact List.cons_ne_nil _ _
    · intro d hd
      simpa using List.mem_takeWhile_imp hd
    · intro d hd
      have hhead := List.head?_dropWhile_not (! isBlank ·) (c :: text)
      rw [hd] at hhead
      simpa using hhead
    · rw [List.takeWhile_append_dropWhile, ← htrim]
      exact hcs

theorem words_eq_nil_iff : words cs = [] ↔ ∀ c ∈ cs, isBlank c := by
  constructor
  · intro h
    rcases blank_or_exists_word cs with hblank | ⟨lead, word, rest, hlead, hword, hends, rfl⟩
    · exact hblank
    · rw [words_blank_append hlead, words_append hword hends] at h
      cases h
  · intro h
    have hwords := words_blank_append h []
    rwa [List.append_nil] at hwords

theorem words_eq_cons_iff :
    words cs = word :: others ↔ ∃ lead rest, (∀ c ∈ lead, isBlank c) ∧ IsWord word ∧ Ends rest ∧
      cs = lead ++ (word ++ rest) ∧ words rest = others := by
  constructor
  · intro h
    rcases blank_or_exists_word cs with hblank | ⟨lead, first, rest, hlead, hword, hends, rfl⟩
    · rw [words_eq_nil_iff.mpr hblank] at h
      cases h
    · rw [words_blank_append hlead, words_append hword hends] at h
      obtain ⟨rfl, hothers⟩ := List.cons.inj h
      exact ⟨lead, rest, hlead, hword, hends, rfl, hothers⟩
  · rintro ⟨lead, rest, hlead, hword, hends, rfl, rfl⟩
    rw [words_blank_append hlead, words_append hword hends]

/-- Where more text follows, every word but the last stays one. -/
theorem dropLast_words_isPrefix (front back : List Char) :
    (words front).dropLast <+: words (front ++ back) := by
  induction hwords : words front generalizing front with
  | nil => exact List.nil_prefix
  | cons word others ih =>
    obtain ⟨lead, rest, hlead, hword, hends, rfl, hrest⟩ := words_eq_cons_iff.mp hwords
    cases others with
    | nil => exact List.nil_prefix
    | cons next others =>
      cases rest with
      | nil => cases hrest
      | cons c rest =>
        have hback : Ends (c :: rest ++ back) := ends_cons _ (hends c rfl)
        rw [List.append_assoc, List.append_assoc, words_blank_append hlead, words_append hword hback,
          List.dropLast_cons_cons]
        exact List.cons_prefix_cons.mpr ⟨rfl, ih (c :: rest) hrest⟩

/-- The first of two words of a kind stays the first of the kind where more text follows. -/
theorem head?_filter_words_append {front : List Char} {p : List Char → Bool} {next : List Char}
    (h : (words front).filter p = word :: next :: others) (back : List Char) :
    ((words (front ++ back)).filter p).head? = some word := by
  obtain ⟨later, hlater⟩ := dropLast_words_isPrefix front back
  have hne : words front ≠ [] := by
    intro hnil
    rw [hnil] at h
    cases h
  rw [← List.dropLast_concat_getLast hne, List.filter_append] at h
  rw [← hlater, List.filter_append]
  cases hfront : (words front).dropLast.filter p with
  | nil =>
    have hlast := List.length_filter_le p [(words front).getLast hne]
    rw [hfront, List.nil_append] at h
    rw [h] at hlast
    simp at hlast
  | cons first found =>
    rw [hfront, List.cons_append] at h
    rw [(List.cons.inj h).1, List.cons_append, List.head?_cons]

/-! ## One word -/

theorem trimEnd_concat (cs : List Char) (hc : ¬ isBlank c) : trimEnd (cs ++ [c]) = cs ++ [c] := by
  rw [trimEnd, List.reverse_concat, List.dropWhile_cons_of_neg hc, List.reverse_cons, List.reverse_reverse]

theorem trim_append {lead trail : List Char} (hlead : ∀ c ∈ lead, isBlank c)
    (htrail : ∀ c ∈ trail, isBlank c) (hword : IsWord word) : trim (lead ++ (word ++ trail)) = word := by
  have hend : trimEnd word = word := by
    rw [← List.dropLast_concat_getLast hword.ne_nil]
    exact trimEnd_concat _ (hword.not_blank _ (List.getLast_mem _))
  obtain ⟨first, later, rfl⟩ := List.exists_cons_of_ne_nil hword.ne_nil
  have hfirst := hword.not_blank first List.mem_cons_self
  rw [trim, trimStart, List.dropWhile_append_of_pos hlead, List.cons_append, List.dropWhile_cons_of_neg hfirst,
    ← List.cons_append, trimEnd_append_of_blank _ htrail, hend]

/-- A text is what trimming its end leaves, and blanks. -/
theorem exists_trimEnd_append_blank (cs : List Char) :
    ∃ blanks, (∀ c ∈ blanks, isBlank c) ∧ cs = trimEnd cs ++ blanks := by
  obtain ⟨blanks, hblanks, hreverse⟩ := exists_blank_append_trimStart cs.reverse
  refine ⟨blanks.reverse, fun c hc => hblanks c (List.mem_reverse.mp hc), ?_⟩
  rw [trimEnd, ← List.reverse_append, ← trimStart, ← hreverse, List.reverse_reverse]

/-- Trimming adds nothing. -/
theorem mem_of_mem_trim (h : c ∈ trim cs) : c ∈ cs := by
  obtain ⟨lead, -, hlead⟩ := exists_blank_append_trimStart cs
  obtain ⟨trail, -, htrail⟩ := exists_trimEnd_append_blank (trimStart cs)
  rw [hlead, htrail]
  exact List.mem_append_right _ (List.mem_append_left _ h)

/-- One word with blanks around it. -/
theorem words_eq_singleton_iff :
    words cs = [word] ↔ IsWord word ∧ ∃ lead trail, (∀ c ∈ lead, isBlank c) ∧ (∀ c ∈ trail, isBlank c) ∧
      cs = lead ++ (word ++ trail) := by
  rw [words_eq_cons_iff]
  constructor
  · rintro ⟨lead, trail, hlead, hword, -, rfl, hwords⟩
    exact ⟨hword, lead, trail, hlead, words_eq_nil_iff.mp hwords, rfl⟩
  · rintro ⟨hword, lead, trail, hlead, htrail, rfl⟩
    exact ⟨lead, trail, hlead, hword, ends_of_blank htrail, rfl, words_eq_nil_iff.mpr htrail⟩

theorem words_eq_singleton_iff_trim : words cs = [word] ↔ IsWord word ∧ trim cs = word := by
  rw [words_eq_singleton_iff]
  constructor
  · rintro ⟨hword, lead, trail, hlead, htrail, rfl⟩
    exact ⟨hword, trim_append hlead htrail hword⟩
  · rintro ⟨hword, htrim⟩
    obtain ⟨lead, hlead, hstart⟩ := exists_blank_append_trimStart cs
    obtain ⟨trail, htrail, hend⟩ := exists_trimEnd_append_blank (trimStart cs)
    rw [← trim, htrim] at hend
    exact ⟨hword, lead, trail, hlead, htrail, by rw [← hend, ← hstart]⟩

/-- Trimming leaves a word where blanks stand around it. -/
theorem trim_eq_iff (hword : IsWord word) :
    trim cs = word ↔ ∃ lead trail, (∀ c ∈ lead, isBlank c) ∧ (∀ c ∈ trail, isBlank c) ∧
      cs = lead ++ (word ++ trail) :=
  (and_congr_right_iff.mp (words_eq_singleton_iff_trim.symm.trans words_eq_singleton_iff)) hword

/-! ## Words between separators -/

section Separator

variable {separator : Char} (hseparator : ¬ isBlank separator)

theorem isPrefix_of_splitOn {first : List Char} {later : List (List Char)}
    (h : splitOn separator cs = first :: later) : first <+: cs := by
  have hjoin := join_splitOn separator cs
  rw [h] at hjoin
  rw [← hjoin]
  cases later with
  | nil => exact List.prefix_rfl
  | cons next later => exact (List.prefix_append first [separator]).trans (List.prefix_append _ _)

/-- Splitting goes on in the last piece of what stands in front. -/
theorem exists_splitOn_append (separator : Char) (front : List Char) :
    ∃ pieces last, (∀ c ∈ last, c ∈ front) ∧ ∀ {cs first later},
      splitOn separator cs = first :: later →
        splitOn separator (front ++ cs) = pieces ++ (last ++ first) :: later := by
  induction front with
  | nil => exact ⟨[], [], fun c hc => hc, fun h => h⟩
  | cons c front ih =>
    obtain ⟨pieces, last, hlast, hsplit⟩ := ih
    by_cases hc : c = separator
    · refine ⟨[] :: pieces, last, fun d hd => List.mem_cons_of_mem _ (hlast d hd), ?_⟩
      intro cs first later h
      rw [List.cons_append, splitOn, if_pos hc, hsplit h, List.cons_append]
    · cases pieces with
      | nil =>
        refine ⟨[], c :: last, List.forall_mem_cons.mpr ⟨List.mem_cons_self, fun d hd =>
          List.mem_cons_of_mem _ (hlast d hd)⟩, ?_⟩
        intro cs first later h
        rw [List.cons_append, splitOn, if_neg hc, hsplit h]
        rfl
      | cons piece pieces =>
        refine ⟨(c :: piece) :: pieces, last, fun d hd => List.mem_cons_of_mem _ (hlast d hd), ?_⟩
        intro cs first later h
        rw [List.cons_append, splitOn, if_neg hc, hsplit h]
        rfl

/-- Behind a word, only the words between the separators count. -/
theorem map_words_splitOn_congr {first second : List Char} (hword : IsWord word) (hfirst : Ends first)
    (hsecond : Ends second)
    (hsame : (splitOn separator first).map words = (splitOn separator second).map words) :
    (splitOn separator (word ++ first)).map words = (splitOn separator (word ++ second)).map words := by
  obtain ⟨pieces, last, hlast, hsplit⟩ := exists_splitOn_append separator word
  obtain ⟨p, ps, hp⟩ := List.exists_cons_of_ne_nil (splitOn_ne_nil separator first)
  obtain ⟨q, qs, hq⟩ := List.exists_cons_of_ne_nil (splitOn_ne_nil separator second)
  rw [hp, hq, List.map_cons, List.map_cons] at hsame
  obtain ⟨hhead, htail⟩ := List.cons.inj hsame
  have hpieces : words (last ++ p) = words (last ++ q) := by
    by_cases hnil : last = []
    · rw [hnil]
      exact hhead
    · have hpart : IsWord last := ⟨hnil, fun c hc => hword.not_blank c (hlast c hc)⟩
      rw [words_append hpart (hfirst.of_isPrefix (isPrefix_of_splitOn hp)),
        words_append hpart (hsecond.of_isPrefix (isPrefix_of_splitOn hq)), hhead]
  rw [hsplit hp, hsplit hq, List.map_append, List.map_append, List.map_cons, List.map_cons, hpieces, htail]

include hseparator

theorem map_words_splitOn_blank_append (h : ∀ c ∈ blanks, isBlank c) (cs : List Char) :
    (splitOn separator (blanks ++ cs)).map words = (splitOn separator cs).map words := by
  induction blanks with
  | nil => rfl
  | cons b blanks ih =>
    obtain ⟨hb, hrest⟩ := List.forall_mem_cons.mp h
    have hne : b ≠ separator := fun hsame => hseparator (hsame ▸ hb)
    obtain ⟨piece, pieces, hsplit⟩ := List.exists_cons_of_ne_nil (splitOn_ne_nil separator (blanks ++ cs))
    rw [← ih hrest, List.cons_append, splitOn, if_neg hne, hsplit, List.map_cons, List.map_cons,
      words_cons_of_blank _ hb]

/-- One space between the words is as good as the blanks of the text, also to a separator that is part of
words. -/
theorem map_words_splitOn_join (cs : List Char) :
    (splitOn separator (join [' '] (words cs))).map words = (splitOn separator cs).map words := by
  induction hwords : words cs generalizing cs with
  | nil =>
    have hblank := map_words_splitOn_blank_append hseparator (words_eq_nil_iff.mp hwords) []
    rw [List.append_nil] at hblank
    exact hblank.symm
  | cons word others ih =>
    obtain ⟨lead, rest, hlead, hword, hends, rfl, hrest⟩ := words_eq_cons_iff.mp hwords
    have hsame := ih rest hrest
    rw [map_words_splitOn_blank_append hseparator hlead]
    cases others with
    | nil =>
      have hlast := map_words_splitOn_congr hword ends_nil hends hsame
      rwa [List.append_nil] at hlast
    | cons next others =>
      have hspace : ∀ c ∈ [' '], isBlank c := List.forall_mem_singleton.mpr (by decide)
      have hjoin : join [' '] (word :: next :: others) = word ++ ([' '] ++ join [' '] (next :: others)) :=
        List.append_assoc ..
      have hspaced := map_words_splitOn_blank_append hseparator hspace (join [' '] (next :: others))
      rw [hjoin]
      exact map_words_splitOn_congr hword (ends_cons _ (by decide)) hends (hspaced.trans hsame)

end Separator

/-! ## Deleting words -/

/-- A text and what is left of it when every word that is not wanted is deleted. Blanks stay. -/
inductive WithoutWords (unwanted : List (List Char)) : List Char → List Char → Prop
  | nil : WithoutWords unwanted [] []
  | blank {c : Char} {text bare : List Char} (hc : isBlank c) (h : WithoutWords unwanted text bare) :
    WithoutWords unwanted (c :: text) (c :: bare)
  | kept {word text bare : List Char} (hword : IsWord word) (hends : Ends text) (hwanted : word ∉ unwanted)
    (h : WithoutWords unwanted text bare) : WithoutWords unwanted (word ++ text) (word ++ bare)
  | deleted {word text bare : List Char} (hword : IsWord word) (hends : Ends text) (hunwanted : word ∈ unwanted)
    (h : WithoutWords unwanted text bare) : WithoutWords unwanted (word ++ text) bare

namespace WithoutWords

variable {unwanted : List (List Char)} {text bare : List Char}

theorem ends (h : WithoutWords unwanted text bare) (hends : Ends text) : Ends bare := by
  cases h with
  | nil => exact ends_nil
  | blank hc h => exact ends_cons _ hc
  | kept hword _ _ _ => exact absurd hends (hword.not_ends _)
  | deleted hword _ _ _ => exact absurd hends (hword.not_ends _)

/-- The words that are left. -/
theorem words_eq (h : WithoutWords unwanted text bare) :
    words bare = (words text).filter (· ∉ unwanted) := by
  induction h with
  | nil => rfl
  | blank hc _ ih => rw [words_cons_of_blank _ hc, words_cons_of_blank _ hc, ih]
  | kept hword hends hwanted h ih =>
    rw [words_append hword hends, words_append hword (h.ends hends), ih,
      List.filter_cons_of_pos (by simpa using hwanted)]
  | deleted hword hends hunwanted _ ih =>
    rw [words_append hword hends, ih, List.filter_cons_of_neg (by simpa using hunwanted)]

theorem blank_append (hblanks : ∀ c ∈ blanks, isBlank c) (h : WithoutWords unwanted text bare) :
    WithoutWords unwanted (blanks ++ text) (blanks ++ bare) := by
  induction blanks with
  | nil => exact h
  | cons b blanks ih =>
    obtain ⟨hb, hrest⟩ := List.forall_mem_cons.mp hblanks
    exact .blank hb (ih hrest)

end WithoutWords

/-- Words can be deleted from any text. -/
theorem exists_withoutWords (unwanted : List (List Char)) (text : List Char) :
    ∃ bare, WithoutWords unwanted text bare := by
  induction hwords : words text generalizing text with
  | nil =>
    have hblank := WithoutWords.blank_append (words_eq_nil_iff.mp hwords) (.nil : WithoutWords unwanted [] [])
    rw [List.append_nil] at hblank
    exact ⟨text, hblank⟩
  | cons word others ih =>
    obtain ⟨lead, rest, hlead, hword, hends, rfl, hrest⟩ := words_eq_cons_iff.mp hwords
    obtain ⟨bare, hbare⟩ := ih rest hrest
    by_cases hmem : word ∈ unwanted
    · exact ⟨lead ++ bare, .blank_append hlead (.deleted hword hends hmem hbare)⟩
    · exact ⟨lead ++ (word ++ bare), .blank_append hlead (.kept hword hends hmem hbare)⟩

end FrameTransition.Text
