import FrameTransition.Proofs.Snippet.Lifting
import FrameTransition.Proofs.Snippet.Marking

/-!
# Comments and tabs around declarations

Lifting reads a snippet line by line, and knows only `//` and the one space of the mark. It is not the same
from a snippet and from the snippet with its comments and tabs blanked out (`not_members_eq_blanked`). It is
the same just where every line that declares something once it is blanked out says so plainly (`IsPlain`): it
begins with the mark itself, and its only comments come behind its first `//`. This holds of every snippet in
which no line strays and lifts something, that is, begins inside a comment or goes on behind a carriage return
(`members_eq_blanked_iff`).

The proof goes by lines. A line's marks are found from the line alone, unless it begins inside a comment
(`exists_chars_eq_of_not_opened`), and what a plain line adds depends on neither its tabs nor its comments
(`lineMembers_of_isPlain`).
-/

namespace FrameTransition.Snippet

/-! ## Lines with their marks -/

/-- A line, and whether it begins inside a comment. -/
structure MarkedLine where
  opened : Bool
  chars : List Marked
  deriving DecidableEq

namespace MarkedLine

variable {line : MarkedLine}

def text (line : MarkedLine) : List Char :=
  line.chars.map Prod.fst

def blanked (line : MarkedLine) : List Char :=
  line.chars.map blank

/-- The line is not read as the language reads it: it begins inside a comment, or a carriage return ends it
early. -/
def Strays (line : MarkedLine) : Prop :=
  line.opened = true ∨ '\r' ∈ line.text.dropLast

/-- The line begins with the mark as it stands, has no comment in front of its first `//`, and from there on
is a comment, with blanks at most behind it. -/
def IsPlain (line : MarkedLine) : Prop :=
  HasMark line.text ∧
    (∀ p ∈ line.chars.take (beforeComment line.text).length, p.2 = false) ∧
    ∀ p ∈ line.chars.drop (beforeComment line.text).length, p.2 = true ∨ Text.isBlank p.1 = true

instance : DecidablePred HasMark :=
  fun line => inferInstanceAs (Decidable (uniformMark <+: Text.trimStart line))

instance : DecidablePred Strays :=
  fun line => inferInstanceAs (Decidable (line.opened = true ∨ '\r' ∈ line.text.dropLast))

end MarkedLine

/-- The lines of a marked text. What follows a line feed begins inside a comment if the line feed is in
one. -/
def markedLinesFrom (opened : Bool) : List Marked → List MarkedLine
  | [] => [⟨opened, []⟩]
  | p :: rest =>
    if p.1 = '\n' then ⟨opened, []⟩ :: markedLinesFrom p.2 rest
    else
      match markedLinesFrom opened rest with
      | [] => [⟨opened, [p]⟩]
      | line :: lines => ⟨line.opened, p :: line.chars⟩ :: lines

def markedLines (snippet : List Char) : List MarkedLine :=
  markedLinesFrom false (marked .code snippet)

/-- The line stands behind a line feed of the text that has the mark it begins with. -/
def MarkedLine.IsBehind (line : MarkedLine) (chars : List Marked) : Prop :=
  ∃ front back, chars = front ++ ('\n', line.opened) :: back ∧
    line.chars = back.takeWhile (·.1 ≠ '\n')

theorem MarkedLine.IsBehind.cons {line : MarkedLine} {chars : List Marked} (h : line.IsBehind chars)
    (p : Marked) : line.IsBehind (p :: chars) := by
  obtain ⟨front, back, hchars, hline⟩ := h
  exact ⟨p :: front, back, congrArg (p :: ·) hchars, hline⟩

/-- The first line goes up to the first line feed, and the others stand behind one. -/
theorem exists_markedLinesFrom_eq (opened : Bool) (chars : List Marked) :
    ∃ later, markedLinesFrom opened chars = ⟨opened, chars.takeWhile (·.1 ≠ '\n')⟩ :: later ∧
      ∀ line ∈ later, line.IsBehind chars := by
  induction chars generalizing opened with
  | nil => exact ⟨[], rfl, fun line hline => by cases hline⟩
  | cons p rest ih =>
    rw [markedLinesFrom]
    by_cases hp : p.1 = '\n'
    · obtain ⟨later, hrest, hlater⟩ := ih p.2
      rw [if_pos hp, List.takeWhile_cons_of_neg (by simpa using hp)]
      refine ⟨markedLinesFrom p.2 rest, rfl, fun line hline => ?_⟩
      rw [hrest] at hline
      rcases List.mem_cons.mp hline with rfl | hline
      · exact ⟨[], rest, congrArg (· :: rest) (Prod.ext hp rfl), rfl⟩
      · exact (hlater line hline).cons p
    · obtain ⟨later, hrest, hlater⟩ := ih opened
      rw [if_neg hp, hrest, List.takeWhile_cons_of_pos (by simpa using hp)]
      exact ⟨later, rfl, fun line hline => (hlater line hline).cons p⟩

/-- Read line by line, a marked text has the lines of what its characters become, as long as line feeds
stay. -/
theorem map_markedLinesFrom {f : Marked → Char} (hf : ∀ p, f p = '\n' ↔ p.1 = '\n') (opened : Bool)
    (chars : List Marked) :
    (markedLinesFrom opened chars).map (·.chars.map f) = Text.splitOn '\n' (chars.map f) := by
  induction chars generalizing opened with
  | nil => rfl
  | cons p rest ih =>
    rw [markedLinesFrom, List.map_cons, Text.splitOn]
    by_cases hp : p.1 = '\n'
    · rw [if_pos hp, if_pos ((hf p).mpr hp), List.map_cons, ih]
      rfl
    · obtain ⟨later, hrest, -⟩ := exists_markedLinesFrom_eq opened rest
      have hsplit := ih opened
      rw [hrest, List.map_cons] at hsplit
      rw [if_neg hp, if_neg (mt (hf p).mp hp), hrest, ← hsplit]
      rfl

/-- A line that begins outside of comments is read as code, up to its line feed. -/
theorem exists_chars_eq_of_not_opened {snippet : List Char} {line : MarkedLine}
    (h : line ∈ markedLines snippet) (hopened : line.opened = false) :
    ∃ later, line.chars = (marked .code later).takeWhile (·.1 ≠ '\n') := by
  obtain ⟨lines, hlines, hbehind⟩ := exists_markedLinesFrom_eq false (marked .code snippet)
  rw [markedLines, hlines] at h
  rcases List.mem_cons.mp h with rfl | h
  · exact ⟨snippet, rfl⟩
  · obtain ⟨front, back, hchars, hline⟩ := hbehind line h
    rw [hopened] at hchars
    obtain ⟨later, rfl⟩ := exists_eq_marked_code hchars
    exact ⟨later, hline⟩

/-! ## Plain lines -/

namespace MarkedLine

variable {line : MarkedLine}

/-- A plain line adds the same when it is blanked out. -/
theorem lineMembers_of_isPlain (h : line.IsPlain) :
    lineMembers line.blanked = lineMembers line.text := by
  obtain ⟨hmark, hcode, hcomment⟩ := h
  have htext : (line.chars.take (beforeComment line.text).length).map Prod.fst =
      beforeComment line.text := by
    rw [List.map_take]
    exact (List.prefix_iff_eq_take.mp (beforeComment_isPrefix line.text)).symm
  have hcodes : (line.chars.take (beforeComment line.text).length).map blank =
      (beforeComment line.text).map untab := by
    rw [List.map_congr_left fun p hp => blank_of_code (hcode p hp)]
    exact (List.map_map ..).symm.trans (congrArg (List.map untab) htext)
  have hblanks : ∀ c ∈ (line.chars.drop (beforeComment line.text).length).map blank,
      Text.isBlank c := by
    intro c hc
    obtain ⟨p, hp, rfl⟩ := List.mem_map.mp hc
    exact isBlank_blank (hcomment p hp)
  have hblanked : line.blanked = (beforeComment line.text).map untab ++
      (line.chars.drop (beforeComment line.text).length).map blank := by
    rw [← hcodes, ← List.map_append, List.take_append_drop, blanked]
  rw [hblanked, lineMembers_append_of_blank _ hblanks,
    lineMembers_map isBlank_untab untab_of_not_isBlank rfl (hasMark_beforeComment hmark),
    lineMembers_beforeComment hmark]

/-- A line that adds a member and begins outside of comments is code up to its first `//`, and is read on
behind that. -/
theorem exists_chars_eq_append {snippet : List Char} (h : line ∈ markedLines snippet)
    (hopened : line.opened = false) (hmembers : lineMembers line.text ≠ []) :
    ∃ rest, line.chars = (beforeComment line.text).map (·, false) ++
      (marked .code rest).takeWhile (·.1 ≠ '\n') := by
  obtain ⟨later, hchars⟩ := exists_chars_eq_of_not_opened h hopened
  have htext : line.text = later.takeWhile (· ≠ '\n') := by
    rw [← map_fst_marked .code later, List.takeWhile_map, text, hchars]
    rfl
  have hslash := not_mem_beforeComment hmembers
  have hstart := beforeComment_isPrefix line.text
  rw [htext] at hslash hstart ⊢
  obtain ⟨rest, hrest⟩ := hstart.trans (List.takeWhile_prefix _)
  have hmarked : marked .code later = _ ++ marked .code rest :=
    (congrArg (marked .code) hrest.symm).trans (marked_code_append hslash rest)
  refine ⟨rest, ?_⟩
  rw [hchars, hmarked, List.takeWhile_append_of_pos]
  intro p hp
  obtain ⟨c, hc, rfl⟩ := List.mem_map.mp hp
  have hfeed := List.mem_takeWhile_imp (hstart.subset hc)
  exact hfeed

/-- A line that adds a member and does not stray is plain. -/
theorem isPlain_of_lineMembers {snippet : List Char} (h : line ∈ markedLines snippet)
    (hstrays : ¬ line.Strays) (hmembers : lineMembers line.text ≠ []) : line.IsPlain := by
  have hopened : line.opened = false := by
    simpa using fun hopened => hstrays (.inl hopened)
  obtain ⟨rest, hchars⟩ := exists_chars_eq_append h hopened hmembers
  have hlength : ((beforeComment line.text).map (·, false)).length = (beforeComment line.text).length :=
    List.length_map _
  refine ⟨hasMark_of_lineMembers hmembers, ?_, ?_⟩
  · rw [hchars, List.take_left' hlength]
    intro p hp
    obtain ⟨c, -, rfl⟩ := List.mem_map.mp hp
    rfl
  · have hbehind : line.text = beforeComment line.text ++
        ((marked .code rest).takeWhile (·.1 ≠ '\n')).map Prod.fst := by
      have hself : ((beforeComment line.text).map (·, false)).map Prod.fst = beforeComment line.text :=
        (List.map_map ..).trans (List.map_id _)
      conv => lhs; rw [text, hchars, List.map_append, hself]
    rw [hchars, List.drop_left' hlength]
    rcases eq_beforeComment_or line.text with hself | ⟨cut, hcut⟩
    · rw [hself] at hbehind
      have hnil := List.append_right_eq_self.mp hbehind.symm
      rw [List.map_eq_nil_iff.mp hnil]
      exact fun p hp => absurd hp List.not_mem_nil
    · have hcomment := List.append_cancel_left (hbehind.symm.trans hcut)
      refine isComment_or_isBlank_behind rfl hcomment fun hmem => hstrays (.inr ?_)
      rw [hbehind, List.dropLast_append_of_ne_nil (by rw [hcomment]; exact List.cons_ne_nil _ _)]
      exact List.mem_append_right _ hmem

/-- A line that does not stray adds nothing that it does not add when it is blanked out. -/
theorem lineMembers_eq_blanked_or {snippet : List Char} (h : line ∈ markedLines snippet)
    (hstrays : line.Strays → lineMembers line.text = []) :
    lineMembers line.text = lineMembers line.blanked ∨ lineMembers line.text = [] := by
  by_cases hmembers : lineMembers line.text = []
  · exact .inr hmembers
  · have hplain := isPlain_of_lineMembers h (fun hline => hmembers (hstrays hline)) hmembers
    exact .inl (lineMembers_of_isPlain hplain).symm

/-- It adds all of that just if it is plain. -/
theorem lineMembers_eq_blanked_iff {snippet : List Char} (h : line ∈ markedLines snippet)
    (hstrays : line.Strays → lineMembers line.text = []) :
    lineMembers line.text = lineMembers line.blanked ↔
      (lineMembers line.blanked ≠ [] → line.IsPlain) := by
  constructor
  · intro hsame hmembers
    rw [← hsame] at hmembers
    exact isPlain_of_lineMembers h (fun hline => hmembers (hstrays hline)) hmembers
  · intro hplain
    by_cases hmembers : lineMembers line.blanked = []
    · exact (lineMembers_eq_blanked_or h hstrays).elim id fun hnil => hnil.trans hmembers.symm
    · exact (lineMembers_of_isPlain (hplain hmembers)).symm

end MarkedLine

/-! ## Whole snippets -/

section Gathering

variable {α β : Type} {f g : α → List β} {xs : List α}

theorem length_flatMap_le (h : ∀ x ∈ xs, f x = g x ∨ f x = []) :
    (xs.flatMap f).length ≤ (xs.flatMap g).length := by
  induction xs with
  | nil => exact Nat.le_refl _
  | cons x xs ih =>
    have hrest := ih fun y hy => h y (List.mem_cons_of_mem _ hy)
    have hx : (f x).length ≤ (g x).length := by
      rcases h x List.mem_cons_self with hsame | hnil
      · exact hsame ▸ Nat.le_refl _
      · exact hnil ▸ Nat.zero_le _
    rw [List.flatMap_cons, List.flatMap_cons, List.length_append, List.length_append]
    exact Nat.add_le_add hx hrest

/-- Where nothing is gathered that should not be, all of it is there only if nothing is left out. -/
theorem flatMap_eq_iff (h : ∀ x ∈ xs, f x = g x ∨ f x = []) :
    xs.flatMap f = xs.flatMap g ↔ ∀ x ∈ xs, f x = g x := by
  refine ⟨fun hflat => ?_, fun hsame => List.flatMap_congr hsame⟩
  induction xs with
  | nil => exact fun x hx => absurd hx List.not_mem_nil
  | cons x xs ih =>
    have hrest : ∀ y ∈ xs, f y = g y ∨ f y = [] := fun y hy => h y (List.mem_cons_of_mem _ hy)
    rw [List.flatMap_cons, List.flatMap_cons] at hflat
    have hx : f x = g x := by
      rcases h x List.mem_cons_self with hsame | hnil
      · exact hsame
      · have hlength := congrArg List.length hflat
        rw [hnil, List.nil_append, List.length_append] at hlength
        have hle := length_flatMap_le hrest
        have hzero : (g x).length = 0 := by omega
        rw [hnil, List.length_eq_zero_iff.mp hzero]
    rw [hx] at hflat
    rintro y (_ | ⟨_, hy⟩)
    · exact hx
    · exact ih hrest (List.append_cancel_left hflat) y hy

end Gathering

/-- The members of a snippet, gathered from its lines. -/
theorem members_eq_flatMap_text (snippet : List Char) :
    (sanitize snippet).members =
      (markedLines snippet).flatMap fun line => lineMembers line.text := by
  have hlines := map_markedLinesFrom (f := Prod.fst) (fun _ => Iff.rfl) false (marked .code snippet)
  rw [map_fst_marked] at hlines
  rw [members_sanitize, ← hlines, List.flatMap_map]
  rfl

theorem members_eq_flatMap_blanked (snippet : List Char) :
    (sanitize (blanked snippet)).members =
      (markedLines snippet).flatMap fun line => lineMembers line.blanked := by
  have hlines := map_markedLinesFrom blank_eq_line_feed_iff false (marked .code snippet)
  rw [members_sanitize, blanked, ← hlines, List.flatMap_map]
  rfl

/-- A snippet in which no straying line lifts anything has the members of the snippet blanked out just if
every line that adds a member when it is blanked out is plain. -/
theorem members_eq_blanked_iff (snippet : List Char)
    (h : ∀ line ∈ markedLines snippet, line.Strays → lineMembers line.text = []) :
    (sanitize snippet).members = (sanitize (blanked snippet)).members ↔
      ∀ line ∈ markedLines snippet, lineMembers line.blanked ≠ [] → line.IsPlain := by
  rw [members_eq_flatMap_text, members_eq_flatMap_blanked,
    flatMap_eq_iff fun line hline => MarkedLine.lineMembers_eq_blanked_or hline (h line hline)]
  exact forall₂_congr fun line hline => MarkedLine.lineMembers_eq_blanked_iff hline (h line hline)

/-- A comment of its own, and a declaration with tabs and a comment behind it. -/
def remarkedSnippet : List Char :=
  "/* uniform vec4 ghost; */\n\tuniform highp float\tamount,\tblur; // both\n".toList

theorem members_eq_blanked_iff_remarkedSnippet :
    (∀ line ∈ markedLines remarkedSnippet, line.Strays → lineMembers line.text = []) ∧
      ((sanitize remarkedSnippet).members = (sanitize (blanked remarkedSnippet)).members ↔
        ∀ line ∈ markedLines remarkedSnippet, lineMembers line.blanked ≠ [] → line.IsPlain) :=
  have hstrays : ∀ line ∈ markedLines remarkedSnippet, line.Strays → lineMembers line.text = [] := by
    decide +kernel
  ⟨hstrays, members_eq_blanked_iff remarkedSnippet hstrays⟩

/-- A declaration with a tab behind its first word. -/
def tabbedSnippet : List Char :=
  "uniform\tfloat amount;\nvec4 transition(vec2 uv) \x7b return texture2D(to, uv) * amount; \x7d\n".toList

/-- A declaration inside a comment. -/
def commentedSnippet : List Char :=
  "/*\nuniform vec4 ghost;\n*/\nvec4 transition(vec2 uv) \x7b return texture2D(to, uv); \x7d\n".toList

/-- A tab hides a declaration, and a comment over several lines does not hide one. -/
theorem not_members_eq_blanked :
    ((sanitize tabbedSnippet).members = [] ∧
        (sanitize (blanked tabbedSnippet)).members = [⟨"float".toList, "amount".toList⟩]) ∧
      (sanitize commentedSnippet).members = [⟨"vec4".toList, "ghost".toList⟩] ∧
        (sanitize (blanked commentedSnippet)).members = [] := by
  decide +kernel

end FrameTransition.Snippet
