import FrameTransition.Proofs.Snippet.Lifting
import FrameTransition.Proofs.Text.Words
import Mathlib.Data.List.Forall2

/-!
# The declarations that are seen

A line is taken apart by a prefix, a cut at `//`, a suffix, a filter over words, and a split at commas of
the words joined again. What this comes to is a grammar: `Declaration.WrittenOn` says that a line is made of
blanks, the mark, a type and names with commas, a semicolon, and at most blanks and a comment behind it, with
precision words anywhere between blanks. `writtenOn_iff` shows that exactly these lines are taken apart into
a type and identifiers.

`lifting_contract` then tells by the grammar what becomes of each line, and of a snippet: what is lifted are
the names that no snippet has to declare left out, each as often as it is written, and nothing else.
-/

namespace FrameTransition.Snippet

/-! ## The grammar -/

def IsLetter (c : Char) : Prop :=
  ('A' ≤ c ∧ c ≤ 'Z') ∨ ('a' ≤ c ∧ c ≤ 'z') ∨ c = '_'

def IsDigit (c : Char) : Prop :=
  '0' ≤ c ∧ c ≤ '9'

/-- A letter or underscore, and then letters, digits and underscores. -/
def IsName : List Char → Prop
  | [] => False
  | c :: rest => IsLetter c ∧ ∀ d ∈ rest, IsLetter d ∨ IsDigit d

/-- Names with commas between them, and any blanks around both. -/
inductive NameList : List Char → List (List Char) → Prop
  | last {lead name trail : List Char} (hlead : ∀ c ∈ lead, Text.isBlank c) (hname : IsName name)
    (htrail : ∀ c ∈ trail, Text.isBlank c) : NameList (lead ++ (name ++ trail)) [name]
  | cons {lead name trail rest : List Char} {names : List (List Char)} (hlead : ∀ c ∈ lead, Text.isBlank c)
    (hname : IsName name) (htrail : ∀ c ∈ trail, Text.isBlank c) (h : NameList rest names) :
    NameList (lead ++ (name ++ trail) ++ ',' :: rest) (name :: names)

/-- The text reads as a type, blanks, and names. -/
def Reads (text type : List Char) (names : List (List Char)) : Prop :=
  ∃ lead gap list, (∀ c ∈ lead, Text.isBlank c) ∧ Text.IsWord type ∧ gap ≠ [] ∧
    (∀ c ∈ gap, Text.isBlank c) ∧ text = lead ++ (type ++ (gap ++ list)) ∧ NameList list names

/-- The part of a text in front of its first `//`, or all of it. -/
structure IsCode (stated code : List Char) : Prop where
  stops : code = stated ∨ code ++ "//".toList <+: stated
  first : ∀ front, front ++ "//".toList <+: stated → code <+: front

/-- A line that declares names of a type, and nothing beside. -/
def Declaration.WrittenOn (d : Declaration) (line : List Char) : Prop :=
  ∃ stated code body trail bare, Text.trimStart line = "uniform ".toList ++ stated ∧
    IsCode stated code ∧ code = body ++ ';' :: trail ∧ (∀ c ∈ trail, Text.isBlank c) ∧
    Text.WithoutWords ["lowp".toList, "mediump".toList, "highp".toList] body bare ∧
    Reads bare d.type d.names

/-! ## Names -/

theorem isNameStart_iff {c : Char} : isNameStart c = true ↔ IsLetter c := by
  have hstart : isNameStart c = ((decide ('A' ≤ c ∧ c ≤ 'Z') || (decide ('a' ≤ c) && decide (c ≤ 'z'))) ||
      c == '_') := rfl
  simp [hstart, IsLetter, or_assoc]

theorem isNameChar_iff {c : Char} : isNameChar c = true ↔ IsLetter c ∨ IsDigit c := by
  have hdigit : c.isDigit = (decide ('0' ≤ c) && decide (c ≤ '9')) := rfl
  have hchar : isNameChar c = (isNameStart c || c.isDigit) := Bool.or_right_comm c.isAlpha c.isDigit (c == '_')
  rw [hchar, Bool.or_eq_true, isNameStart_iff, hdigit]
  simp [IsDigit]

theorem isIdentifier_iff {name : List Char} : isIdentifier name = true ↔ IsName name := by
  cases name with
  | nil => simp [isIdentifier, IsName]
  | cons c rest => simp [isIdentifier, IsName, isNameStart_iff, isNameChar_iff]

theorem IsName.nameChars {name : List Char} (h : IsName name) : ∀ c ∈ name, IsLetter c ∨ IsDigit c := by
  cases name with
  | nil => cases h
  | cons c rest => exact List.forall_mem_cons.mpr ⟨.inl h.1, h.2⟩

theorem not_isBlank_of_nameChar {c : Char} (h : IsLetter c ∨ IsDigit c) : ¬ Text.isBlank c := by
  have hranges : (65 ≤ c.toNat ∧ c.toNat ≤ 90) ∨ (97 ≤ c.toNat ∧ c.toNat ≤ 122) ∨ c.toNat = 95 ∨
      (48 ≤ c.toNat ∧ c.toNat ≤ 57) := by
    rcases h with (hupper | hlower | rfl) | hdigit
    · exact .inl hupper
    · exact .inr (.inl hlower)
    · exact .inr (.inr (.inl rfl))
    · exact .inr (.inr (.inr hdigit))
  simp only [Text.isBlank, Bool.or_eq_true, Bool.and_eq_true, decide_eq_true_eq, beq_iff_eq]
  omega

theorem IsName.isWord {name : List Char} (h : IsName name) : Text.IsWord name := by
  constructor
  · rintro rfl
    exact h
  · intro c hc
    exact not_isBlank_of_nameChar (h.nameChars c hc)

theorem IsName.not_mem_comma {name : List Char} (h : IsName name) : ',' ∉ name := by
  intro hmem
  have hcomma := h.nameChars ',' hmem
  unfold IsLetter IsDigit at hcomma
  revert hcomma
  decide

/-! ## Names between commas -/

theorem not_mem_padded {lead name trail : List Char} (hlead : ∀ c ∈ lead, Text.isBlank c) (hname : IsName name)
    (htrail : ∀ c ∈ trail, Text.isBlank c) : ',' ∉ lead ++ (name ++ trail) := by
  have hcomma : ¬ Text.isBlank ',' := by decide
  simp only [List.mem_append, not_or]
  exact ⟨fun hmem => hcomma (hlead _ hmem), hname.not_mem_comma, fun hmem => hcomma (htrail _ hmem)⟩

/-- A list of names has one name in each piece. -/
theorem nameList_iff {text : List Char} {names : List (List Char)} :
    NameList text names ↔
      (Text.splitOn ',' text).map Text.words = names.map ([·]) ∧ ∀ name ∈ names, IsName name := by
  constructor
  · intro h
    induction h with
    | last hlead hname htrail =>
      rw [Text.splitOn_of_not_mem (not_mem_padded hlead hname htrail), List.map_singleton,
        Text.words_eq_singleton_iff.mpr ⟨hname.isWord, _, _, hlead, htrail, rfl⟩]
      exact ⟨rfl, List.forall_mem_singleton.mpr hname⟩
    | cons hlead hname htrail _ ih =>
      rw [Text.splitOn_append_cons, Text.splitOn_of_not_mem (not_mem_padded hlead hname htrail),
        List.singleton_append, List.map_cons, ih.1,
        Text.words_eq_singleton_iff.mpr ⟨hname.isWord, _, _, hlead, htrail, rfl⟩]
      exact ⟨rfl, List.forall_mem_cons.mpr ⟨hname, ih.2⟩⟩
  · rintro ⟨hwords, hnames⟩
    induction names generalizing text with
    | nil => exact absurd (List.map_eq_nil_iff.mp hwords) (Text.splitOn_ne_nil ',' text)
    | cons name names ih =>
      obtain ⟨piece, pieces, hsplit⟩ := List.exists_cons_of_ne_nil (Text.splitOn_ne_nil ',' text)
      obtain ⟨hname, hrest⟩ := List.forall_mem_cons.mp hnames
      rw [hsplit, List.map_cons, List.map_cons] at hwords
      obtain ⟨hpiece, hpieces⟩ := List.cons.inj hwords
      obtain ⟨-, lead, trail, hlead, htrail, rfl⟩ := Text.words_eq_singleton_iff.mp hpiece
      have htext := Text.join_splitOn ',' text
      rw [hsplit] at htext
      cases pieces with
      | nil =>
        obtain rfl : names = [] := List.map_eq_nil_iff.mp hpieces.symm
        obtain rfl : lead ++ (name ++ trail) = text := htext
        exact .last hlead hname htrail
      | cons next pieces =>
        have hjoin : text = lead ++ (name ++ trail) ++ ',' :: Text.join [','] (next :: pieces) := by
          rw [← htext]
          exact List.append_assoc ..
        rw [hjoin, Text.splitOn_append_cons, Text.splitOn_of_not_mem (not_mem_padded hlead hname htrail)] at hsplit
        rw [← (List.cons.inj hsplit).2] at hpieces
        rw [hjoin]
        exact .cons hlead hname htrail (ih hpieces hrest)

/-- What the names are trimmed from makes no difference to a list of names. -/
theorem map_words_eq_iff_map_trim {pieces names : List (List Char)} (h : ∀ name ∈ names, IsName name) :
    pieces.map Text.words = names.map ([·]) ↔ pieces.map Text.trim = names := by
  induction names generalizing pieces with
  | nil => simp
  | cons name names ih =>
    obtain ⟨hname, hrest⟩ := List.forall_mem_cons.mp h
    cases pieces with
    | nil => simp
    | cons piece pieces =>
      rw [List.map_cons, List.map_cons, List.map_cons, List.cons_eq_cons, List.cons_eq_cons, ih hrest,
        Text.words_eq_singleton_iff_trim]
      simp only [hname.isWord, true_and]

/-- A type and names are read from the words of a text joined again. -/
theorem reads_iff {text type : List Char} {names : List (List Char)} :
    Reads text type names ↔ ∃ others, Text.words text = type :: others ∧
      (Text.splitOn ',' (Text.join [' '] others)).map Text.trim = names ∧ ∀ name ∈ names, IsName name := by
  have hcomma : ¬ Text.isBlank ',' := by decide
  constructor
  · rintro ⟨lead, gap, list, hlead, htype, hgap, hblank, rfl, hlist⟩
    obtain ⟨hwords, hnames⟩ := nameList_iff.mp hlist
    refine ⟨Text.words list, ?_, ?_, hnames⟩
    · obtain ⟨b, gap, rfl⟩ := List.exists_cons_of_ne_nil hgap
      have hends : Text.Ends (b :: gap ++ list) := Text.ends_cons _ (hblank b List.mem_cons_self)
      rw [Text.words_blank_append hlead, Text.words_append htype hends, Text.words_blank_append hblank]
    · rw [← map_words_eq_iff_map_trim hnames, Text.map_words_splitOn_join hcomma, hwords]
  · rintro ⟨others, hwords, hothers, hnames⟩
    obtain ⟨lead, rest, hlead, htype, hends, rfl, rfl⟩ := Text.words_eq_cons_iff.mp hwords
    rw [← map_words_eq_iff_map_trim hnames, Text.map_words_splitOn_join hcomma] at hothers
    cases rest with
    | nil =>
      -- no name has no characters
      cases names with
      | nil => cases hothers
      | cons name names => cases hothers
    | cons b list =>
      have hb : Text.isBlank b := hends b rfl
      have hgap : ∀ c ∈ [b], Text.isBlank c := List.forall_mem_singleton.mpr hb
      have hlist := Text.map_words_splitOn_blank_append hcomma hgap list
      refine ⟨lead, [b], list, hlead, htype, List.cons_ne_nil _ _, hgap, rfl, nameList_iff.mpr ⟨?_, hnames⟩⟩
      rw [← hlist]
      exact hothers

/-! ## The code of a line -/

theorem beforeComment_isPrefix_of {front cs : List Char} (h : front ++ "//".toList <+: cs) :
    beforeComment cs <+: front := by
  fun_induction beforeComment cs generalizing front with
  | case1 => simp at h
  | case2 c => simpa using h.length_le
  | case3 => exact List.nil_prefix
  | case4 c rest hrest hslash ih =>
    cases front with
    | nil =>
      obtain ⟨cut, hcut⟩ := h
      obtain ⟨rfl, rfl⟩ := List.cons.inj hcut
      exact absurd rfl (hslash cut rfl)
    | cons first front =>
      obtain ⟨rfl, hfront⟩ := List.cons_prefix_cons.mp h
      exact List.cons_prefix_cons.mpr ⟨rfl, ih hfront⟩

theorem isCode_beforeComment (stated : List Char) : IsCode stated (beforeComment stated) := by
  refine ⟨?_, fun front => beforeComment_isPrefix_of⟩
  rcases eq_beforeComment_or stated with hself | ⟨rest, hrest⟩
  · exact .inl hself
  · exact .inr ⟨rest, by rw [List.append_assoc]; exact hrest.symm⟩

theorem IsCode.isPrefix {stated code other : List Char} (h : IsCode stated code) (hother : IsCode stated other) :
    code <+: other := by
  rcases hother.stops with rfl | hstop
  · rcases h.stops with rfl | hstop
    · exact List.prefix_rfl
    · exact (List.prefix_append code _).trans hstop
  · exact h.first other hstop

theorem isCode_iff {stated code : List Char} : IsCode stated code ↔ beforeComment stated = code := by
  constructor
  · intro h
    have hcut := isCode_beforeComment stated
    exact (hcut.isPrefix h).eq_of_length_le (h.isPrefix hcut).length_le
  · rintro rfl
    exact isCode_beforeComment stated

theorem trimEnd_eq_concat_iff {code body : List Char} :
    Text.trimEnd code = body ++ [';'] ↔
      ∃ trail, code = body ++ ';' :: trail ∧ ∀ c ∈ trail, Text.isBlank c := by
  constructor
  · intro h
    obtain ⟨trail, htrail, hcode⟩ := Text.exists_trimEnd_append_blank code
    refine ⟨trail, ?_, htrail⟩
    rw [List.append_cons, ← h]
    exact hcode
  · rintro ⟨trail, rfl, htrail⟩
    rw [List.append_cons, Text.trimEnd_append_of_blank _ htrail, Text.trimEnd_concat _ (by decide)]

namespace Declaration

variable {d : Declaration} {line : List Char}

theorem ofLine?_eq_some_iff {text : List Char} :
    ofLine? text = some d ↔ ∃ stated body others, text = uniformMark ++ stated ∧
      Text.trimEnd (beforeComment stated) = body ++ [';'] ∧
      (Text.words body).filter (· ∉ precisionWords) = d.type :: others ∧
      (Text.splitOn ',' (Text.join [' '] others)).map Text.trim = d.names := by
  rw [ofLine?, Option.bind_eq_some_iff]
  constructor
  · rintro ⟨stated, hstated, h⟩
    obtain ⟨body, htrim, hbody⟩ := ofStatement?_eq_some_iff.mp h
    obtain ⟨others, hothers⟩ := ofStatement?_concat_iff.mp hbody
    exact ⟨stated, body, others, eq_append_of_afterMark? hstated, htrim, hothers⟩
  · rintro ⟨stated, body, others, rfl, htrim, hothers⟩
    refine ⟨stated, afterMark?_append _ _, ?_⟩
    rw [htrim]
    exact ofStatement?_concat_iff.mpr ⟨others, hothers⟩

/-- The lines of the grammar are those that are taken apart into a type and identifiers. -/
theorem writtenOn_iff :
    d.WrittenOn line ↔
      ofLine? (Text.trimStart line) = some d ∧ ∀ name ∈ d.names, IsName name := by
  rw [ofLine?_eq_some_iff]
  constructor
  · rintro ⟨stated, code, body, trail, bare, hline, hcode, rfl, htrail, hbare, hreads⟩
    obtain ⟨others, hwords, hnames, hname⟩ := reads_iff.mp hreads
    rw [hbare.words_eq] at hwords
    refine ⟨⟨stated, body, others, hline, ?_, hwords, hnames⟩, hname⟩
    rw [isCode_iff.mp hcode]
    exact trimEnd_eq_concat_iff.mpr ⟨trail, rfl, htrail⟩
  · rintro ⟨⟨stated, body, others, hline, hbody, hwords, hnames⟩, hname⟩
    obtain ⟨trail, hcode, htrail⟩ := trimEnd_eq_concat_iff.mp hbody
    obtain ⟨bare, hbare⟩ := Text.exists_withoutWords precisionWords body
    refine ⟨stated, _, body, trail, bare, hline, isCode_beforeComment stated, hcode, htrail, hbare, ?_⟩
    exact reads_iff.mpr ⟨others, hbare.words_eq.trans hwords, hnames, hname⟩

end Declaration

/-! ## What becomes of a line -/

variable {line : List Char} {members : List Member}

/-- The names that every snippet has without declaring them. -/
def IsGiven (name : List Char) : Prop :=
  name = "to".toList ∨ name = "progress".toList ∨ name = "resolution".toList

instance : DecidablePred IsGiven :=
  fun name => inferInstanceAs (Decidable (name = _ ∨ name = _ ∨ name = _))

/-- A number, or a vector of two to four, of one of three kinds. -/
def IsNumeric (type : List Char) : Prop :=
  type ∈ ["float".toList, "int".toList, "uint".toList] ∨
    ∃ kind ∈ ["".toList, "i".toList, "u".toList], ∃ size ∈ ["2".toList, "3".toList, "4".toList],
      type = kind ++ "vec".toList ++ size

theorem isGiven_iff {name : List Char} : IsGiven name ↔ name ∈ reservedNames := by
  simp [IsGiven, reservedNames]

theorem isNumeric_iff {type : List Char} : IsNumeric type ↔ type ∈ liftableTypes := by
  simp [IsNumeric, liftableTypes, or_assoc]

/-- The line declares names of a numeric type that are not all given, and the others are its members. -/
def Lifts (line : List Char) (members : List Member) : Prop :=
  ∃ d : Declaration, d.WrittenOn line ∧ IsNumeric d.type ∧ (¬ ∀ name ∈ d.names, IsGiven name) ∧
    members = (d.names.filter (¬ IsGiven ·)).map (⟨d.type, ·⟩)

/-- The line is a version directive, or declares given names only. -/
def Drops (line : List Char) : Prop :=
  "#version".toList <+: Text.trimStart line ∨
    ∃ d : Declaration, d.WrittenOn line ∧ ∀ name ∈ d.names, IsGiven name

/-- The line of the body for a line, and the members it adds. -/
inductive Becomes (line : List Char) : List Char → List Member → Prop
  | lifted {members : List Member} (h : Lifts line members) : Becomes line [] members
  | dropped (h : Drops line) : Becomes line [] []
  | kept (hlift : ∀ members, ¬ Lifts line members) (hdrop : ¬ Drops line) : Becomes line line []

theorem isName_of_isGiven {name : List Char} (h : IsGiven name) : IsName name :=
  isIdentifier_iff.mp (isIdentifier_of_mem_reservedNames name (isGiven_iff.mp h))

theorem lift_iff : treatment line = .lift members ↔ Lifts line members := by
  rw [treatment_eq_lift_iff]
  unfold Lifts
  simp only [isGiven_iff, isNumeric_iff, Declaration.writtenOn_iff, Declaration.treatment_eq_lift_iff]
  constructor
  · rintro ⟨d, hline, hreserved, ⟨htype, hnames⟩, hmembers⟩
    have hname : ∀ name ∈ d.names, IsName name := fun name hmem => isIdentifier_iff.mp (hnames name hmem)
    exact ⟨d, ⟨hline, hname⟩, htype, hreserved, hmembers⟩
  · rintro ⟨d, ⟨hline, hname⟩, htype, hreserved, hmembers⟩
    have hnames : ∀ name ∈ d.names, isIdentifier name := fun name hmem => isIdentifier_iff.mpr (hname name hmem)
    exact ⟨d, hline, hreserved, ⟨htype, hnames⟩, hmembers⟩

theorem drop_iff : treatment line = .drop ↔ Drops line := by
  rw [treatment_eq_drop_iff]
  apply or_congr Iff.rfl
  simp only [Declaration.treatment_eq_drop_iff, Declaration.writtenOn_iff]
  constructor
  · rintro ⟨d, hline, hreserved⟩
    have hgiven : ∀ name ∈ d.names, IsGiven name := fun name hmem => isGiven_iff.mpr (hreserved name hmem)
    exact ⟨d, ⟨hline, fun name hmem => isName_of_isGiven (hgiven name hmem)⟩, hgiven⟩
  · rintro ⟨d, ⟨hline, -⟩, hgiven⟩
    exact ⟨d, hline, fun name hmem => isGiven_iff.mp (hgiven name hmem)⟩

theorem keep_iff : treatment line = .keep ↔ (∀ members, ¬ Lifts line members) ∧ ¬ Drops line := by
  simp only [← lift_iff, ← drop_iff]
  cases treatment line with
  | keep => simp
  | drop => simp
  | lift members => simp

theorem becomes_segment (line : List Char) : Becomes line (segment line) (lineMembers line) := by
  unfold segment lineMembers
  cases h : treatment line with
  | keep =>
    obtain ⟨hlift, hdrop⟩ := keep_iff.mp h
    exact .kept hlift hdrop
  | drop => exact .dropped (drop_iff.mp h)
  | lift members => exact .lifted (lift_iff.mp h)

/-! ## What is lifted -/

/-- A declaration that is removed leaves each of its names that is not given. -/
theorem exists_writtenOn_of_removed (hmark : HasMark line) (hremoved : treatment line ≠ .keep) :
    ∃ d : Declaration, d.WrittenOn line ∧
      ∀ name ∈ d.names, ¬ IsGiven name → ⟨d.type, name⟩ ∈ lineMembers line := by
  unfold lineMembers
  cases h : treatment line with
  | keep => exact absurd h hremoved
  | drop =>
    rcases drop_iff.mp h with hversion | ⟨d, hwritten, hgiven⟩
    · exact absurd hversion hmark.not_isVersion
    · exact ⟨d, hwritten, fun name hmem hnot => absurd (hgiven name hmem) hnot⟩
  | lift members =>
    obtain ⟨d, hwritten, -, -, rfl⟩ := lift_iff.mp h
    refine ⟨d, hwritten, fun name hmem hnot => ?_⟩
    exact List.mem_map.mpr ⟨name, List.mem_filter.mpr ⟨hmem, decide_eq_true hnot⟩, rfl⟩

/-- What is made of a snippet, as the grammar has it. -/
structure LiftsOnly (snippet : List Char) : Prop where
  /-- In source order, each line becomes what it does alone. -/
  lines : ∃ results : List (List Char × List Member),
    List.Forall₂ (fun line result => Becomes line result.1 result.2) (Text.lines snippet) results ∧
      (sanitize snippet).body = results.flatMap (fun result => result.1 ++ ['\n']) ∧
      (sanitize snippet).members = results.flatMap Prod.snd
  /-- The block of the shader has the members behind its own, a line each. -/
  block : ∃ back, assemble (some snippet) = prelude.toList ++ blockStart.toList ++
    (sanitize snippet).members.flatMap (fun m =>
      "    ".toList ++ m.type ++ " ".toList ++ m.name ++ ";\n".toList) ++ blockEnd.toList ++ back
  none_lost : ∀ line ∈ Text.lines snippet, HasMark line → treatment line ≠ .keep →
    ∃ d : Declaration, d.WrittenOn line ∧
      ∀ name ∈ d.names, ¬ IsGiven name → ⟨d.type, name⟩ ∈ (sanitize snippet).members
  none_given : ∀ m ∈ (sanitize snippet).members, IsNumeric m.type ∧ IsName m.name ∧ ¬ IsGiven m.name

/-- Each line becomes what it does alone, in source order. -/
theorem exists_results (snippet : List Char) :
    ∃ results : List (List Char × List Member),
      List.Forall₂ (fun line result => Becomes line result.1 result.2) (Text.lines snippet) results ∧
        (Text.lines snippet).map segment = results.map Prod.fst ∧
        (sanitize snippet).members = results.flatMap Prod.snd := by
  refine ⟨(Text.lines snippet).map fun line => (segment line, lineMembers line), ?_, ?_, ?_⟩
  · rw [List.forall₂_map_right_iff, List.forall₂_same]
    intro line _
    exact becomes_segment line
  · rw [List.map_map]
    rfl
  · rw [List.flatMap_map]
    rfl

theorem isNumeric_and_isName_of_mem {snippet : List Char} {m : Member} (h : m ∈ (sanitize snippet).members) :
    IsNumeric m.type ∧ IsName m.name ∧ ¬ IsGiven m.name := by
  obtain ⟨line, -, hline⟩ := List.mem_flatMap.mp h
  obtain ⟨members, htreatment, hmem⟩ := exists_treatment_of_mem_lineMembers hline
  obtain ⟨d, hwritten, htype, -, rfl⟩ := lift_iff.mp htreatment
  obtain ⟨name, hname, rfl⟩ := List.mem_map.mp hmem
  obtain ⟨hname, hnot⟩ := List.mem_filter.mp hname
  exact ⟨htype, (Declaration.writtenOn_iff.mp hwritten).2 name hname, of_decide_eq_true hnot⟩

theorem liftsOnly (snippet : List Char) : LiftsOnly snippet := by
  constructor
  · obtain ⟨results, hlines, hsegments, hmembers⟩ := exists_results snippet
    refine ⟨results, hlines, ?_, hmembers⟩
    rw [body_sanitize, hsegments, List.flatMap_map]
  · refine ⟨defines.toList ++ lineMark.toList ++ (sanitize snippet).body ++ footer.toList, ?_⟩
    have hline : memberLine = fun m : Member =>
        "    ".toList ++ m.type ++ " ".toList ++ m.name ++ ";\n".toList := by
      funext m
      simp [memberLine, Member.declaration]
    rw [assemble_some, declarations, hline]
    simp only [List.append_assoc]
  · intro line hline hmark hremoved
    obtain ⟨d, hwritten, hmembers⟩ := exists_writtenOn_of_removed hmark hremoved
    refine ⟨d, hwritten, fun name hmem hnot => ?_⟩
    exact List.mem_flatMap.mpr ⟨line, hline, hmembers name hmem hnot⟩
  · exact fun m hm => isNumeric_and_isName_of_mem hm

/-- What becomes of lines and of snippets, told by the grammar. -/
structure LiftingContract : Prop where
  lift_iff : ∀ line members, treatment line = .lift members ↔ Lifts line members
  drop_iff : ∀ line, treatment line = .drop ↔ Drops line
  keep_iff : ∀ line, treatment line = .keep ↔ (∀ members, ¬ Lifts line members) ∧ ¬ Drops line
  /-- A line reads in one way at most. -/
  unambiguous : ∀ line (d other : Declaration), d.WrittenOn line → other.WrittenOn line → d = other
  snippets : ∀ snippet, LiftsOnly snippet

theorem lifting_contract : LiftingContract where
  lift_iff _ _ := lift_iff
  drop_iff _ := drop_iff
  keep_iff _ := keep_iff
  unambiguous line d other hd hother := by
    have hline := (Declaration.writtenOn_iff.mp hd).1
    rw [(Declaration.writtenOn_iff.mp hother).1] at hline
    exact (Option.some.inj hline).symm
  snippets := liftsOnly

end FrameTransition.Snippet
