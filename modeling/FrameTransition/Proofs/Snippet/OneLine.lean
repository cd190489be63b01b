import FrameTransition.Proofs.Snippet.Grammar
import FrameTransition.Proofs.Snippet.Stability

/-!
# Several declarations on one line

A line is taken for one declaration at most: one semicolon is looked for, at its end. Declarations that are
written plainly are lifted, or dropped, when each has a line of its own (`sanitize_apart`). As soon as two of
them share a line, that line is kept with all of them (`Together.treatment_eq_keep`): the semicolon in the middle is
left inside what should be names. So they fare on one line as they do apart exactly when there is only one of
them (`oneLine_of_together`), and two already do not (`not_liftsTogether_two_floats`).
-/

namespace FrameTransition.Snippet

variable {d : Declaration} {declarations : List Declaration} {text line : List Char}
  {texts : List (List Char)}

/-! ## Plain declarations -/

/-- The text is the mark, a numeric type with names behind it, and a semicolon at its end. -/
structure Declaration.IsPlain (d : Declaration) (text : List Char) : Prop where
  written : ∃ body bare, text = "uniform ".toList ++ (body ++ [';']) ∧
    Text.WithoutWords ["lowp".toList, "mediump".toList, "highp".toList] body bare ∧ Reads bare d.type d.names
  isNumeric : IsNumeric d.type
  not_mem : '\n' ∉ text

/-- What a declaration has for the parameter block: its names that are not given. -/
def Declaration.members (d : Declaration) : List Member :=
  (d.names.filter (¬ IsGiven ·)).map (⟨d.type, ·⟩)

/-- Without a solidus in it, all that is behind the mark is stated. -/
theorem statement_of_concat {body : List Char} (h : '/' ∉ body ++ [';']) :
    statement (uniformMark ++ (body ++ [';'])) = body ++ [';'] := by
  have hstated := @statement_of_stated [] (List.forall_mem_nil _) (body ++ [';'])
  rw [beforeComment_eq_self h, Text.trimEnd_concat body (by decide)] at hstated
  exact hstated

theorem not_isVersion_of_uniformMark (stated : List Char) : ¬ IsVersion (uniformMark ++ stated) :=
  (@hasMark_of_stated [] (List.forall_mem_nil _) stated).not_isVersion

namespace Declaration

theorem isPlain_iff : d.IsPlain text ↔ ∃ body, text = uniformMark ++ (body ++ [';']) ∧
    ofStatement? (body ++ [';']) = some d ∧ d.IsLiftable ∧ '\n' ∉ text := by
  constructor
  · rintro ⟨⟨body, bare, htext, hbare, hreads⟩, htype, hfeed⟩
    obtain ⟨others, hwords, hnames, hname⟩ := reads_iff.mp hreads
    rw [hbare.words_eq] at hwords
    exact ⟨body, htext, ofStatement?_concat_iff.mpr ⟨others, hwords, hnames⟩,
      ⟨isNumeric_iff.mp htype, fun name hmem => isIdentifier_iff.mpr (hname name hmem)⟩, hfeed⟩
  · rintro ⟨body, htext, hread, ⟨htype, hname⟩, hfeed⟩
    obtain ⟨others, hwords, hnames⟩ := ofStatement?_concat_iff.mp hread
    obtain ⟨bare, hbare⟩ := Text.exists_withoutWords precisionWords body
    have hreads : Reads bare d.type d.names := reads_iff.mpr
      ⟨others, hbare.words_eq.trans hwords, hnames, fun name hmem => isIdentifier_iff.mp (hname name hmem)⟩
    exact ⟨⟨body, bare, htext, hbare, hreads⟩, isNumeric_iff.mpr htype, hfeed⟩

/-- A liftable declaration leaves its line empty, and its members in the block. -/
theorem IsLiftable.removed (h : d.IsLiftable) :
    d.treatment.members = d.members ∧ ∀ line, d.treatment.text line = [] := by
  have hgiven : d.members = (d.names.filter (· ∉ reservedNames)).map (⟨d.type, ·⟩) := by
    simp only [members, isGiven_iff]
  by_cases hreserved : d.IsReserved
  · rw [treatment_of_isReserved hreserved, hgiven]
    refine ⟨?_, fun _ => rfl⟩
    rw [List.filter_eq_nil_iff.mpr fun name hmem => by simpa using hreserved name hmem]
    rfl
  · rw [treatment_of_isLiftable hreserved h, hgiven]
    exact ⟨rfl, fun _ => rfl⟩

namespace IsPlain

theorem not_mem_solidus (h : d.IsPlain text) : '/' ∉ text := by
  obtain ⟨body, rfl, hread, hliftable, -⟩ := isPlain_iff.mp h
  rw [List.mem_append, not_or]
  exact ⟨by decide, not_mem_of_ofStatement? hread hliftable⟩

theorem exists_concat (h : d.IsPlain text) : ∃ front, text = front ++ [';'] := by
  obtain ⟨body, rfl, -⟩ := isPlain_iff.mp h
  exact ⟨uniformMark ++ body, (List.append_assoc _ _ _).symm⟩

theorem treatment_eq (h : d.IsPlain text) : Snippet.treatment text = d.treatment := by
  obtain ⟨body, rfl, hread, hliftable, -⟩ := isPlain_iff.mp h
  rw [treatment_of_statement (not_isVersion_of_uniformMark _),
    statement_of_concat (not_mem_of_ofStatement? hread hliftable), hread]

end IsPlain

end Declaration

/-! ## Each on a line of its own -/

theorem sanitize_concat (h : '\n' ∉ line) :
    sanitize (line ++ ['\n']) = ⟨bodyLine (Text.dropReturn line), lineMembers line⟩ := by
  have hlines : Text.lines (line ++ ['\n']) = [Text.dropReturn line] := Text.lines_cons h []
  rw [sanitize, hlines, List.flatMap_singleton, List.flatMap_singleton, lineMembers_dropReturn]

/-- Plain declarations on lines of their own are all lifted or dropped. -/
theorem sanitize_apart (h : List.Forall₂ Declaration.IsPlain declarations texts) :
    sanitize (texts.flatMap (· ++ ['\n'])) =
      ⟨List.replicate texts.length '\n', declarations.flatMap Declaration.members⟩ := by
  induction h with
  | nil => rfl
  | @cons d text declarations texts hplain _ ih =>
    have htreatment := hplain.treatment_eq
    obtain ⟨_, -, -, hliftable, hfeed⟩ := Declaration.isPlain_iff.mp hplain
    obtain ⟨hmembers, hempty⟩ := hliftable.removed
    rw [List.flatMap_cons, sanitize_append (.inr List.getLast?_concat), ih, sanitize_concat hfeed, bodyLine,
      treatment_dropReturn, lineMembers, htreatment, hmembers, hempty]
    rfl

/-! ## On one line -/

/-- The texts stand on one line, with spaces between them. -/
inductive Together : List (List Char) → List Char → Prop
  | last (text : List Char) : Together [text] text
  | cons {text gap line : List Char} {texts : List (List Char)} (hne : gap ≠ []) (hgap : ∀ c ∈ gap, c = ' ')
    (h : Together texts line) : Together (text :: texts) (text ++ (gap ++ line))

/-- The texts fare on this line as they do on lines of their own: the same is lifted from them, and none of
them is left. -/
def LiftsTogether (texts : List (List Char)) (line : List Char) : Prop :=
  (sanitize (line ++ ['\n'])).members = (sanitize (texts.flatMap (· ++ ['\n']))).members ∧
    ∀ text ∈ texts, ¬ text <:+: (sanitize (line ++ ['\n'])).body

/-- The type is read alike where more text follows, for there is a name behind it. -/
theorem type_eq_of_more {body rest : List Char} {other : Declaration}
    (h : Declaration.ofStatement? (body ++ [';']) = some d) (hliftable : d.IsLiftable)
    (hmore : Declaration.ofStatement? (body ++ ';' :: rest ++ [';']) = some other) : other.type = d.type := by
  obtain ⟨others, hwords, hnames⟩ := Declaration.ofStatement?_concat_iff.mp h
  obtain ⟨_, hmoreWords, -⟩ := Declaration.ofStatement?_concat_iff.mp hmore
  cases others with
  | nil =>
    have hempty := hliftable.2 [] (hnames ▸ List.mem_singleton_self [])
    cases hempty
  | cons name names =>
    have hhead := Text.head?_filter_words_append hwords (';' :: rest)
    rw [hmoreWords] at hhead
    exact Option.some.inj hhead

/-- A semicolon in the middle leaves something that is no identifier. -/
theorem treatment_of_more {body rest : List Char} {other : Declaration}
    (h : Declaration.ofStatement? (body ++ [';']) = some d) (hliftable : d.IsLiftable)
    (hmore : Declaration.ofStatement? (body ++ ';' :: rest ++ [';']) = some other) : other.treatment = .keep := by
  have htype : other.type ∈ liftableTypes := type_eq_of_more h hliftable hmore ▸ hliftable.1
  obtain ⟨_, hwords, hnames⟩ := Declaration.ofStatement?_concat_iff.mp hmore
  refine Declaration.treatment_eq_keep_iff.mpr fun hremoved => ?_
  have hidentifiers : ∀ name ∈ other.names, isIdentifier name := by
    rcases hremoved with hreserved | hother
    · exact fun name hmem => isIdentifier_of_mem_reservedNames name (hreserved name hmem)
    · exact hother.2
  have hmem : ';' ∈ body ++ ';' :: rest := List.mem_append_right _ List.mem_cons_self
  have hsemicolon := isNameChar_or_of_mem hwords htype (hnames ▸ hidentifiers) hmem
  revert hsemicolon
  decide

/-- A line that goes on behind a declaration, up to another semicolon, is kept. -/
theorem treatment_append_of_isPlain (h : d.IsPlain text) {rest : List Char} (hrest : '/' ∉ rest ++ [';']) :
    treatment (text ++ (rest ++ [';'])) = .keep := by
  obtain ⟨body, rfl, hread, hliftable, -⟩ := Declaration.isPlain_iff.mp h
  have hmore : '/' ∉ body ++ ';' :: rest ++ [';'] := by
    rw [List.append_cons body, List.append_assoc, List.mem_append, not_or]
    exact ⟨not_mem_of_ofStatement? hread hliftable, hrest⟩
  have hline : uniformMark ++ (body ++ [';']) ++ (rest ++ [';']) =
      uniformMark ++ (body ++ ';' :: rest ++ [';']) := by
    simp only [List.append_assoc, List.cons_append, List.nil_append]
  rw [hline, treatment_of_statement (not_isVersion_of_uniformMark _), statement_of_concat hmore]
  -- The semicolon that is taken off is the last one; the first stays inside the statement.
  cases hother : Declaration.ofStatement? (body ++ ';' :: rest ++ [';']) with
  | none => rfl
  | some other => exact treatment_of_more hread hliftable hother

namespace Together

theorem exists_mem_isPrefix (h : Together texts line) : ∃ text ∈ texts, text <+: line := by
  cases h with
  | last text => exact ⟨_, List.mem_singleton_self _, List.prefix_rfl⟩
  | cons _ _ _ => exact ⟨_, List.mem_cons_self, List.prefix_append _ _⟩

theorem not_mem_gap {gap : List Char} {c : Char} (hgap : ∀ c ∈ gap, c = ' ') (hc : c ≠ ' ') : c ∉ gap :=
  fun hmem => hc (hgap c hmem)

/-- What plain declarations on one line are made of, as far as lines and comments go. -/
theorem exists_concat (h : Together texts line) (hplain : ∀ text ∈ texts, ∃ d : Declaration, d.IsPlain text) :
    ∃ front, line = front ++ [';'] ∧ '/' ∉ line ∧ '\n' ∉ line := by
  induction h with
  | last text =>
    obtain ⟨d, hd⟩ := hplain text (List.mem_singleton_self text)
    obtain ⟨front, hfront⟩ := hd.exists_concat
    exact ⟨front, hfront, hd.not_mem_solidus, hd.not_mem⟩
  | @cons text gap line texts _ hgap _ ih =>
    obtain ⟨⟨d, hd⟩, hrest⟩ := List.forall_mem_cons.mp hplain
    obtain ⟨front, rfl, hsolidus, hfeed⟩ := ih hrest
    refine ⟨text ++ (gap ++ front), by simp only [List.append_assoc], ?_, ?_⟩
    · rw [List.mem_append, List.mem_append, not_or, not_or]
      exact ⟨hd.not_mem_solidus, not_mem_gap hgap (by decide), hsolidus⟩
    · rw [List.mem_append, List.mem_append, not_or, not_or]
      exact ⟨hd.not_mem, not_mem_gap hgap (by decide), hfeed⟩

theorem treatment_eq_keep (h : Together texts line) (hmore : 1 < texts.length)
    (hplain : ∀ text ∈ texts, ∃ d : Declaration, d.IsPlain text) : treatment line = .keep := by
  cases h with
  | last text => exact absurd hmore (lt_irrefl _)
  | @cons text gap line texts _ hgap hrest =>
    obtain ⟨⟨d, hd⟩, hlater⟩ := List.forall_mem_cons.mp hplain
    obtain ⟨front, rfl, hsolidus, -⟩ := hrest.exists_concat hlater
    rw [← List.append_assoc gap]
    refine treatment_append_of_isPlain hd ?_
    rw [List.append_assoc, List.mem_append, not_or]
    exact ⟨not_mem_gap hgap (by decide), hsolidus⟩

theorem sanitize_eq (h : Together texts line) (hmore : 1 < texts.length)
    (hplain : ∀ text ∈ texts, ∃ d : Declaration, d.IsPlain text) :
    sanitize (line ++ ['\n']) = ⟨line ++ ['\n'], []⟩ := by
  obtain ⟨front, hline, -, hfeed⟩ := h.exists_concat hplain
  have hlast : line.getLast? ≠ some '\r' := by
    rw [hline, List.getLast?_concat]
    decide
  rw [sanitize_concat hfeed, Text.dropReturn_eq_self_iff.mpr hlast, bodyLine, lineMembers,
    h.treatment_eq_keep hmore hplain]
  rfl

end Together

theorem liftsTogether_alone (h : d.IsPlain text) : LiftsTogether [text] text := by
  have hflat : [text].flatMap (· ++ ['\n']) = text ++ ['\n'] := List.flatMap_singleton (· ++ ['\n']) text
  have halone := sanitize_apart (.cons h .nil)
  have hbody : (sanitize (text ++ ['\n'])).body = ['\n'] := by
    rw [← hflat, halone]
    rfl
  have hmark : uniformMark.length = 8 := by decide
  unfold LiftsTogether
  rw [hflat, hbody]
  refine ⟨rfl, fun other hother hinfix => ?_⟩
  obtain rfl := List.mem_singleton.mp hother
  obtain ⟨body, htext, -⟩ := Declaration.isPlain_iff.mp h
  have hlength := hinfix.length_le
  rw [htext, List.length_append, hmark, List.length_singleton] at hlength
  omega

/-! ## Two declarations -/

def twoFloats : List (List Char) :=
  ["uniform float a;".toList, "uniform float b;".toList]

def twoFloatsLine : List Char :=
  "uniform float a; uniform float b;".toList

theorem isPlain_twoFloats :
    List.Forall₂ Declaration.IsPlain
      [⟨"float".toList, ["a".toList]⟩, ⟨"float".toList, ["b".toList]⟩] twoFloats :=
  have hfirst := Declaration.isPlain_iff.mpr
    ⟨"float a".toList, by decide, by decide, ⟨by decide, by decide⟩, by decide⟩
  have hsecond := Declaration.isPlain_iff.mpr
    ⟨"float b".toList, by decide, by decide, ⟨by decide, by decide⟩, by decide⟩
  .cons hfirst (.cons hsecond .nil)

theorem together_twoFloats : Together twoFloats twoFloatsLine :=
  .cons (List.cons_ne_nil ' ' []) (List.forall_mem_singleton.mpr rfl) (.last "uniform float b;".toList)

/-- Neither of two declarations is lifted from the line they share. -/
theorem not_liftsTogether_two_floats :
    List.Forall₂ Declaration.IsPlain
        [⟨"float".toList, ["a".toList]⟩, ⟨"float".toList, ["b".toList]⟩] twoFloats ∧
      Together twoFloats twoFloatsLine ∧
      (sanitize (twoFloats.flatMap (· ++ ['\n']))).members =
        [⟨"float".toList, "a".toList⟩, ⟨"float".toList, "b".toList⟩] ∧
      (sanitize (twoFloatsLine ++ ['\n'])).members = [] ∧ ¬ LiftsTogether twoFloats twoFloatsLine := by
  refine ⟨isPlain_twoFloats, together_twoFloats, by decide +kernel, by decide +kernel, fun hlifts => ?_⟩
  exact absurd hlifts.1 (by decide +kernel)

/-! ## Any number of declarations -/

/-- What becomes of plain declarations that stand on one line. -/
structure OneLine (declarations : List Declaration) (texts : List (List Char)) (line : List Char) : Prop where
  /-- On lines of their own, they leave empty lines and all their members. -/
  apart : sanitize (texts.flatMap (· ++ ['\n'])) =
    ⟨List.replicate texts.length '\n', declarations.flatMap Declaration.members⟩
  /-- More than one stay as they are. -/
  together : 1 < texts.length → sanitize (line ++ ['\n']) = ⟨line ++ ['\n'], []⟩
  liftsTogether_iff : LiftsTogether texts line ↔ texts.length = 1

theorem oneLine_of_together (hplain : List.Forall₂ Declaration.IsPlain declarations texts)
    (hline : Together texts line) : OneLine declarations texts line := by
  have hall : ∀ text ∈ texts, ∃ d : Declaration, d.IsPlain text := fun text htext => by
    obtain ⟨i, hi, rfl⟩ := List.getElem_of_mem htext
    exact ⟨_, hplain.get (hplain.length_eq ▸ hi) hi⟩
  have hkept := fun hmore => hline.sanitize_eq hmore hall
  refine ⟨sanitize_apart hplain, hkept, fun hlifts => ?_, fun hlength => ?_⟩
  · by_contra hlength
    obtain ⟨text, htext, hfront⟩ := hline.exists_mem_isPrefix
    have hmore : 1 < texts.length := by
      have hpos := List.length_pos_of_mem htext
      omega
    refine hlifts.2 text htext ?_
    rw [hkept hmore]
    exact (hfront.trans (List.prefix_append _ _)).isInfix
  · cases hline with
    | last =>
      obtain ⟨d, hd⟩ := hall line (List.mem_singleton_self line)
      exact liftsTogether_alone hd
    | cons _ _ hrest =>
      obtain ⟨text, htext, -⟩ := hrest.exists_mem_isPrefix
      have hpos := List.length_pos_of_mem htext
      rw [List.length_cons] at hlength
      omega

theorem oneLine_of_together_two_floats :
    OneLine [⟨"float".toList, ["a".toList]⟩, ⟨"float".toList, ["b".toList]⟩] twoFloats twoFloatsLine :=
  oneLine_of_together isPlain_twoFloats together_twoFloats

end FrameTransition.Snippet
