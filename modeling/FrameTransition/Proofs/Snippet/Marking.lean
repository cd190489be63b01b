import FrameTransition.Glsl.Token
import FrameTransition.Proofs.Text.Blank
import Mathlib.Data.List.Basic

/-!
# Comments of a shader text

In the shader language a comment is one blank, and a tab is as good as a space. `marked` marks each character
of a text that is in a comment, as the compiler takes it (`marked_code_of_pieceAt`), and `blanked` is the text
with its comments and tabs blanked out and its lines where they were.

From a place outside of comments the marks depend on the text behind it alone. So does what is read behind a
line feed that is in no comment (`exists_eq_marked_code`). There a text stays code up to its first solidus
(`marked_code_append`), and from `//` on it is a comment up to the end of the line
(`isComment_or_isBlank_behind`).
-/

namespace FrameTransition.Snippet

/-! ## Comments of the language -/

/-- Where a text is being read: in code, in a comment that ends with the line, or in one that ends with
`*/`, between the two characters of its beginning, behind them, or between the two of its end. -/
inductive Mode where
  | code
  | line
  | opening
  | block
  | closing
  deriving DecidableEq

def Mode.isComment : Mode → Bool
  | code => false
  | _ => true

/-- Reads a character: whether it is in a comment, and where the next one is read. -/
def Mode.advance (mode : Mode) (c : Char) (next? : Option Char) : Bool × Mode :=
  match mode with
  | code =>
    if c = '/' ∧ next? = some '/' then (true, line)
    else if c = '/' ∧ next? = some '*' then (true, opening)
    else (false, code)
  | line => if Glsl.isLineEnd c then (false, code) else (true, line)
  | opening => (true, block)
  | block => if c = '*' ∧ next? = some '/' then (true, closing) else (true, block)
  | closing => (true, code)

/-- A character, and whether it is in a comment. -/
abbrev Marked := Char × Bool

/-- Each character with its mark. A backslash at the end of a line joins it to the next one, wherever it
stands, so the next character is the next one of the text without its joints. -/
def marked (mode : Mode) : List Char → List Marked
  | '\\' :: '\r' :: '\n' :: rest =>
    ('\\', mode.isComment) :: ('\r', mode.isComment) :: ('\n', mode.isComment) :: marked mode rest
  | '\\' :: '\n' :: rest => ('\\', mode.isComment) :: ('\n', mode.isComment) :: marked mode rest
  | '\\' :: '\r' :: rest => ('\\', mode.isComment) :: ('\r', mode.isComment) :: marked mode rest
  | c :: rest =>
    let (isComment, next) := mode.advance c (Glsl.splice rest).head?
    (c, isComment) :: marked next rest
  | [] => []

/-- A tab becomes a space. -/
def untab (c : Char) : Char :=
  if c = '\t' then ' ' else c

/-- A comment becomes spaces, except that its line ends stay, and so does a tab. -/
def blank (p : Marked) : Char :=
  if p.2 = true ∧ ¬ Glsl.isLineEnd p.1 then ' ' else untab p.1

/-- The text with its comments and tabs blanked out. -/
def blanked (snippet : List Char) : List Char :=
  (marked .code snippet).map blank

example : blanked "a\tb/* c\n\td */e // f \\\ng\n\th".toList =
    "a b    \n     e       \n \n h".toList := by decide +kernel

/-- Marking changes no character. -/
theorem map_fst_marked (mode : Mode) (snippet : List Char) :
    (marked mode snippet).map Prod.fst = snippet := by
  fun_induction marked mode snippet <;> simp_all

/-! ## Blanking out -/

theorem isBlank_untab (c : Char) : Text.isBlank (untab c) = Text.isBlank c := by
  unfold untab
  split
  case isTrue htab =>
    rw [htab]
    rfl
  case isFalse => rfl

theorem untab_of_not_isBlank (c : Char) (hc : ¬ Text.isBlank c) : untab c = c :=
  if_neg fun htab => hc (by rw [htab]; rfl)

theorem isBlank_of_isLineEnd {c : Char} (h : Glsl.isLineEnd c) : Text.isBlank c = true := by
  rw [Glsl.isLineEnd, Bool.or_eq_true, decide_eq_true_eq, decide_eq_true_eq] at h
  rcases h with rfl | rfl <;> rfl

theorem blank_of_code {p : Marked} (h : p.2 = false) : blank p = untab p.1 :=
  if_neg fun hcomment => absurd (h.symm.trans hcomment.1) Bool.false_ne_true

/-- A comment and blanks are blanked out to blanks. -/
theorem isBlank_blank {p : Marked} (h : p.2 = true ∨ Text.isBlank p.1 = true) :
    Text.isBlank (blank p) = true := by
  unfold blank
  split
  case isTrue => rfl
  case isFalse hnot =>
    rw [isBlank_untab]
    rcases h with hcomment | hblank
    · exact isBlank_of_isLineEnd (by simpa [hcomment] using hnot)
    · exact hblank

theorem blank_eq_line_feed_iff (p : Marked) : blank p = '\n' ↔ p.1 = '\n' := by
  obtain ⟨c, mark⟩ := p
  unfold blank untab
  by_cases hfeed : c = '\n'
  · subst hfeed
    simp [Glsl.isLineEnd]
  · split_ifs <;> simp_all

/-! ## Reading from the beginning of a line -/

theorem Mode.eq_code {mode : Mode} (h : mode.isComment = false) : mode = .code := by
  cases mode <;> first | rfl | cases h

theorem Mode.advance_code {c : Char} (hc : c ≠ '/') (next? : Option Char) :
    code.advance c next? = (false, code) := by
  rw [advance, if_neg fun h => hc h.1, if_neg fun h => hc h.1]

theorem Mode.advance_line_feed {mode next : Mode} {next? : Option Char}
    (h : mode.advance '\n' next? = (false, next)) : next = code := by
  cases mode with
  | code => exact (Prod.mk.inj h).2.symm
  | line => exact (Prod.mk.inj h).2.symm
  | opening => cases h
  | block => cases h
  | closing => cases h

/-- Code goes on behind a character that begins no comment, also between those of a joint. -/
theorem marked_code_cons {c : Char} (hc : c ≠ '/') (rest : List Char) :
    marked .code (c :: rest) = (c, false) :: marked .code rest := by
  conv => lhs; rw [marked.eq_def]
  split
  case h_4 heq =>
    obtain ⟨rfl, rfl⟩ := List.cons.inj heq
    rw [Mode.advance_code hc]
  case h_5 heq => cases heq
  all_goals
    next heq =>
    obtain ⟨rfl, rfl⟩ := List.cons.inj heq
    rfl

theorem marked_code_append {lead : List Char} (h : '/' ∉ lead) (rest : List Char) :
    marked .code (lead ++ rest) = lead.map (·, false) ++ marked .code rest := by
  induction lead with
  | nil => rfl
  | cons c lead ih =>
    have hc : c ≠ '/' := fun hsame => h (hsame ▸ List.mem_cons_self)
    rw [List.cons_append, marked_code_cons hc, ih fun hmem => h (List.mem_cons_of_mem _ hmem)]
    rfl

theorem marked_code_comment (rest : List Char) :
    marked .code ('/' :: '/' :: rest) = ('/', true) :: ('/', true) :: marked .line rest := rfl

/-! ## The compiler's comments -/

theorem head?_splice {text : List Char} (h : '\\' ∉ text) : (Glsl.splice text).head? = text.head? := by
  fun_cases Glsl.splice text with
  | case1 => exact absurd List.mem_cons_self h
  | case2 => exact absurd List.mem_cons_self h
  | case3 => exact absurd List.mem_cons_self h
  | case4 => rfl
  | case5 => rfl

/-- In a text without joints each character is read with the next one in sight. -/
theorem marked_cons {c : Char} {rest : List Char} (h : '\\' ∉ c :: rest) (mode : Mode) :
    marked mode (c :: rest) =
      (c, (mode.advance c rest.head?).1) :: marked (mode.advance c rest.head?).2 rest := by
  have hc : c ≠ '\\' := fun hsame => h (hsame ▸ List.mem_cons_self)
  have hrest : '\\' ∉ rest := fun hmem => h (List.mem_cons_of_mem _ hmem)
  rw [← head?_splice hrest]
  exact marked.eq_4 mode c rest (fun _ hslash => absurd hslash hc) (fun _ hslash => absurd hslash hc)
    (fun _ hslash => absurd hslash hc)

/-- A comment that ends with the line takes what the compiler takes. -/
theorem marked_line_eq {rest : List Char} (h : '\\' ∉ rest) :
    marked .line rest = (rest.takeWhile (! Glsl.isLineEnd ·)).map (·, true) ++
      marked .code (rest.drop (rest.takeWhile (! Glsl.isLineEnd ·)).length) := by
  induction rest with
  | nil => rfl
  | cons c rest ih =>
    have hrest : '\\' ∉ rest := fun hmem => h (List.mem_cons_of_mem _ hmem)
    rw [marked_cons h, Mode.advance]
    by_cases hc : Glsl.isLineEnd c
    · have hslash : c ≠ '/' := by
        rintro rfl
        cases hc
      rw [if_pos hc, List.takeWhile_cons_of_neg (by simpa using hc)]
      exact (marked_code_cons hslash rest).symm
    · rw [if_neg hc, List.takeWhile_cons_of_pos (by simpa using hc), List.map_cons, List.length_cons,
        List.drop_succ_cons, List.cons_append, ih hrest]

theorem lt_of_commentLength? {taken length : Nat} {rest : List Char}
    (h : Glsl.commentLength? taken rest = some length) : taken < length := by
  fun_induction Glsl.commentLength? taken rest with
  | case1 taken rest =>
    obtain rfl := Option.some.inj h
    omega
  | case2 taken c rest _ ih => exact Nat.lt_of_succ_lt (ih h)
  | case3 => cases h

/-- So does one that ends with its own mark. -/
theorem marked_block_eq {rest : List Char} (h : '\\' ∉ rest) {taken further : Nat}
    (hlength : Glsl.commentLength? taken rest = some (taken + further)) :
    marked .block rest = (rest.take further).map (·, true) ++ marked .code (rest.drop further) := by
  fun_induction Glsl.commentLength? taken rest generalizing further with
  | case1 taken rest =>
    obtain rfl : 2 = further := by simpa using hlength
    rw [marked_cons h, marked_cons fun hmem => h (List.mem_cons_of_mem _ hmem)]
    rfl
  | case2 taken c rest hnot ih =>
    have hrest : '\\' ∉ rest := fun hmem => h (List.mem_cons_of_mem _ hmem)
    have hend : ¬ (c = '*' ∧ rest.head? = some '/') := fun ⟨hc, hhead⟩ =>
      hnot rest.tail hc (List.eq_cons_of_mem_head? hhead)
    have hlt := lt_of_commentLength? hlength
    obtain ⟨behind, rfl⟩ : ∃ behind, further = behind + 1 := ⟨further - 1, by omega⟩
    have hsum : taken + (behind + 1) = taken + 1 + behind := by omega
    rw [marked_cons h, Mode.advance, if_neg hend, ih hrest (hsum ▸ hlength), List.take_succ_cons,
      List.drop_succ_cons, List.map_cons, List.cons_append]
  | case3 => cases hlength

/-- The marks are the compiler's: where a text without joints goes on with a comment, it takes just what the
compiler skips as one blank. -/
theorem marked_code_of_pieceAt {rest : List Char} (h : '\\' ∉ rest) {further : Nat}
    (hpiece : Glsl.pieceAt '/' rest = .gap further) :
    marked .code ('/' :: rest) =
      ('/' :: rest.take further).map (·, true) ++ marked .code (rest.drop further) := by
  have hslash : '\\' ∉ '/' :: rest := fun hmem => by
    rcases List.mem_cons.mp hmem with hsame | hmem
    · cases hsame
    · exact h hmem
  rw [Glsl.pieceAt, if_neg (by decide), if_neg (by decide)] at hpiece
  rw [marked_cons hslash, Mode.advance]
  by_cases hline : rest.head? = some '/'
  · rw [if_pos ⟨rfl, hline⟩] at hpiece ⊢
    obtain rfl := Glsl.Piece.gap.inj hpiece
    rw [marked_line_eq h, ← List.prefix_iff_eq_take.mp (List.takeWhile_prefix _)]
    rfl
  rw [if_neg fun hboth => hline hboth.2] at hpiece ⊢
  by_cases hblock : rest.head? = some '*'
  · rw [if_pos ⟨rfl, hblock⟩] at hpiece ⊢
    obtain ⟨rest, rfl⟩ : ∃ later, rest = '*' :: later := ⟨rest.tail, List.eq_cons_of_mem_head? hblock⟩
    have hrest : '\\' ∉ rest := fun hmem => h (List.mem_cons_of_mem _ hmem)
    cases hlength : Glsl.commentLength? 1 rest with
    | none =>
      rw [List.tail_cons, hlength] at hpiece
      cases hpiece
    | some length =>
      rw [List.tail_cons, hlength] at hpiece
      obtain rfl := Glsl.Piece.gap.inj hpiece
      have hlt := lt_of_commentLength? hlength
      obtain ⟨behind, rfl⟩ : ∃ behind, length = 1 + behind := ⟨length - 1, by omega⟩
      rw [marked_cons h, Mode.advance, marked_block_eq hrest hlength, Nat.add_comm 1 behind]
      rfl
  · rw [if_neg fun hboth => hblock hboth.2] at hpiece
    cases hpiece

/-! ## Reading up to the end of a line -/

/-- A comment that ends with the line goes on in front of a line end. -/
theorem marked_line_cons {c : Char} (hc : ¬ Glsl.isLineEnd c) (rest : List Char) :
    ∃ later, marked .line (c :: rest) = (c, true) :: later ∧
      (later = marked .line rest ∨ ∃ p ∈ later.head?, Glsl.isLineEnd p.1 = true) := by
  rw [marked.eq_def]
  split
  case h_4 heq =>
    obtain ⟨rfl, rfl⟩ := List.cons.inj heq
    rw [Mode.advance, if_neg hc]
    exact ⟨marked .line rest, rfl, .inl rfl⟩
  case h_5 heq => cases heq
  all_goals
    next heq =>
    obtain ⟨rfl, rfl⟩ := List.cons.inj heq
    exact ⟨_, rfl, .inr ⟨_, rfl, rfl⟩⟩

/-- Up to a line end such a comment is all there is. -/
theorem isComment_of_marked_line {snippet : List Char} {front back : List Marked}
    (h : marked .line snippet = front ++ back) (hfront : ∀ p ∈ front, ¬ Glsl.isLineEnd p.1) :
    ∀ p ∈ front, p.2 = true := by
  induction snippet generalizing front with
  | nil =>
    intro p hp
    rw [(List.append_eq_nil_iff.mp h.symm).1] at hp
    cases hp
  | cons c rest ih =>
    cases front with
    | nil => exact fun p hp => absurd hp List.not_mem_nil
    | cons q front =>
      have hq := hfront q List.mem_cons_self
      have hbehind (p : Marked) (hp : p ∈ front) := hfront p (List.mem_cons_of_mem _ hp)
      -- the first character is marked with itself
      have hc : q.1 = c := by
        have hfst := map_fst_marked .line (c :: rest)
        rw [h] at hfst
        exact (List.cons.inj hfst).1
      rw [hc] at hq
      obtain ⟨later, hmarked, hlater⟩ := marked_line_cons hq rest
      rw [hmarked] at h
      obtain ⟨rfl, rfl⟩ := List.cons.inj h
      rintro p (_ | ⟨_, hp⟩)
      · rfl
      rcases hlater with hlater | ⟨first, hfirst, hend⟩
      · exact ih hlater.symm hbehind p hp
      · cases front with
        | nil => cases hp
        | cons other front =>
          obtain rfl : other = first := Option.some.inj hfirst
          exact absurd hend (hbehind other List.mem_cons_self)

/-- A line's comment takes it all, but for a carriage return at its end. -/
theorem isComment_or_isBlank {snippet : List Char} {chars back : List Marked}
    (h : marked .line snippet = chars ++ back) (hfeed : ∀ p ∈ chars, p.1 ≠ '\n')
    (hreturn : ∀ p ∈ chars.dropLast, p.1 ≠ '\r') :
    ∀ p ∈ chars, p.2 = true ∨ Text.isBlank p.1 = true := by
  have hend {p : Marked} (hp : p ∈ chars) : Glsl.isLineEnd p.1 ↔ p.1 = '\r' := by
    simp [Glsl.isLineEnd, hfeed p hp]
  rcases List.eq_nil_or_concat chars with rfl | ⟨front, last, rfl⟩
  · exact fun p hp => absurd hp List.not_mem_nil
  rw [List.concat_eq_append] at *
  rw [List.dropLast_concat] at hreturn
  have hfront : ∀ p ∈ front, ¬ Glsl.isLineEnd p.1 := fun p hp hline =>
    hreturn p hp ((hend (List.mem_append_left _ hp)).mp hline)
  intro p hp
  rcases List.mem_append.mp hp with hp | hp
  · rw [List.append_assoc] at h
    exact .inl (isComment_of_marked_line h hfront p hp)
  · obtain rfl := List.mem_singleton.mp hp
    by_cases hline : Glsl.isLineEnd p.1
    · exact .inr ((hend (List.mem_append_right _ hp)).mp hline ▸ rfl)
    · refine .inl (isComment_of_marked_line h (fun q hq => ?_) p (List.mem_append_right _ hp))
      rcases List.mem_append.mp hq with hq | hq
      · exact hfront q hq
      · rwa [List.mem_singleton.mp hq]

/-- What a line has behind its code, from `//` on, is a comment, with a carriage return at most behind
it. -/
theorem isComment_or_isBlank_behind {snippet cut : List Char} {chars : List Marked}
    (hchars : chars = (marked .code snippet).takeWhile (·.1 ≠ '\n'))
    (hcut : chars.map Prod.fst = '/' :: '/' :: cut) (hreturn : '\r' ∉ (chars.map Prod.fst).dropLast) :
    ∀ p ∈ chars, p.2 = true ∨ Text.isBlank p.1 = true := by
  obtain ⟨rest, rfl⟩ : ∃ rest, snippet = '/' :: '/' :: rest := by
    have hstart := (List.takeWhile_prefix (l := marked .code snippet) (·.1 ≠ '\n')).map Prod.fst
    rw [← hchars, hcut, map_fst_marked] at hstart
    obtain ⟨rest, hrest⟩ := hstart
    exact ⟨cut ++ rest, hrest.symm⟩
  rw [marked_code_comment, List.takeWhile_cons_of_pos (by decide),
    List.takeWhile_cons_of_pos (by decide)] at hchars
  subst hchars
  rintro p (_ | ⟨_, _ | ⟨_, hp⟩⟩)
  · exact .inl rfl
  · exact .inl rfl
  have hsplit := (List.takeWhile_append_dropWhile (p := (·.1 ≠ '\n')) (l := marked .line rest)).symm
  refine isComment_or_isBlank hsplit (fun q hq => ?_) (fun q hq hcr => hreturn ?_) p hp
  · simpa using List.mem_takeWhile_imp hq
  · have hne : (marked .line rest).takeWhile (·.1 ≠ '\n') ≠ [] := List.ne_nil_of_mem hp
    rw [← List.map_dropLast, List.dropLast_cons_of_ne_nil (List.cons_ne_nil _ _),
      List.dropLast_cons_of_ne_nil hne]
    exact List.mem_map.mpr ⟨q, List.mem_cons_of_mem _ (List.mem_cons_of_mem _ hq), hcr⟩

/-- What begins with a character either ends there or goes on from the next one. -/
theorem eq_or_exists_of_cons_eq_append {p q : Marked} {rest front back : List Marked}
    (h : p :: rest = front ++ q :: back) :
    (p = q ∧ rest = back) ∨ ∃ front, rest = front ++ q :: back := by
  rcases List.cons_eq_append_iff.mp h with ⟨-, hback⟩ | ⟨front, -, hrest⟩
  · exact .inl ⟨(List.cons.inj hback).1.symm, (List.cons.inj hback).2.symm⟩
  · exact .inr ⟨front, hrest⟩

/-- Behind a line feed that is in no comment, code is read. -/
theorem exists_eq_marked_code {mode : Mode} {snippet : List Char} {front back : List Marked}
    (h : marked mode snippet = front ++ ('\n', false) :: back) :
    ∃ later, back = marked .code later := by
  -- the line feed of a joint has the mark of the mode, which the joint does not change
  have hjoint {mode : Mode} {rest : List Char} {front : List Marked}
      (ih : ∀ {front}, marked mode rest = front ++ ('\n', false) :: back →
        ∃ later, back = marked .code later)
      (h : ('\n', mode.isComment) :: marked mode rest = front ++ ('\n', false) :: back) :
      ∃ later, back = marked .code later := by
    rcases eq_or_exists_of_cons_eq_append h with ⟨hp, hback⟩ | ⟨front, h⟩
    · rw [Mode.eq_code (Prod.mk.inj hp).2] at hback
      exact ⟨rest, hback.symm⟩
    · exact ih h
  fun_induction marked mode snippet generalizing front with
  | case1 mode rest ih =>
    obtain ⟨hp, -⟩ | ⟨front, h⟩ := eq_or_exists_of_cons_eq_append h
    · cases hp
    obtain ⟨hp, -⟩ | ⟨front, h⟩ := eq_or_exists_of_cons_eq_append h
    · cases hp
    exact hjoint ih h
  | case2 mode rest ih =>
    obtain ⟨hp, -⟩ | ⟨front, h⟩ := eq_or_exists_of_cons_eq_append h
    · cases hp
    exact hjoint ih h
  | case3 mode rest _ ih =>
    obtain ⟨hp, -⟩ | ⟨front, h⟩ := eq_or_exists_of_cons_eq_append h
    · cases hp
    obtain ⟨hp, -⟩ | ⟨front, h⟩ := eq_or_exists_of_cons_eq_append h
    · cases hp
    exact ih h
  | case4 mode c rest _ _ _ _ _ hadvance ih =>
    rcases eq_or_exists_of_cons_eq_append h with ⟨hp, hback⟩ | ⟨front, h⟩
    · obtain ⟨rfl, rfl⟩ := Prod.mk.inj hp
      rw [Mode.advance_line_feed hadvance] at hback
      exact ⟨rest, hback.symm⟩
    · exact ih h
  | case5 => cases front <;> cases h

end FrameTransition.Snippet
