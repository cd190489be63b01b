import FrameTransition.Proofs.Snippet.Treatment
import FrameTransition.Proofs.Text.Blank
import Mathlib.Data.List.Basic

/-!
# What lifting reads of a line

The members a line adds depend on its statement alone: what stands between `uniform` with its space and a
`//`, without the blanks at its end (`lineMembers_eq`). So a comment behind the line's first `//` and blanks
at its end make no difference, and behind the mark one blank is as good as another
(`lineMembers_beforeComment`, `treatment_append_of_blank`, `lineMembers_map`). A statement that adds a
member is made of names, commas and blanks, so there is no solidus in it (`not_mem_beforeComment`).
-/

namespace FrameTransition.Snippet

variable {line blanks : List Char}

/-! ## Statements -/

/-- What a line declares: the text behind the mark, without a comment and blanks at its end. -/
def statement (line : List Char) : List Char :=
  match afterMark? uniformMark (Text.trimStart line) with
  | some stated => Text.trimEnd (beforeComment stated)
  | none => []

/-- The members a statement adds. -/
def statementMembers (statement : List Char) : List Member :=
  match Declaration.ofStatement? statement with
  | some d => d.treatment.members
  | none => []

/-- A line with the mark of a uniform declaration, behind any blanks. -/
def HasMark (line : List Char) : Prop :=
  uniformMark <+: Text.trimStart line

theorem beforeSemicolon?_eq_some_iff {text body : List Char} :
    beforeSemicolon? text = some body ↔ text = body ++ [';'] := by
  unfold beforeSemicolon?
  constructor
  · intro h
    split at h
    case isTrue hlast =>
      rw [← Option.some.inj h]
      exact (List.dropLast_append_getLast? ';' hlast).symm
    case isFalse => cases h
  · rintro rfl
    rw [List.getLast?_concat, if_pos rfl, List.dropLast_concat]

theorem Declaration.ofStatement?_concat_iff {body : List Char} {d : Declaration} :
    Declaration.ofStatement? (body ++ [';']) = some d ↔
      ∃ others, (Text.words body).filter (· ∉ precisionWords) = d.type :: others ∧
        (Text.splitOn ',' (Text.join [' '] others)).map Text.trim = d.names := by
  unfold Declaration.ofStatement?
  rw [beforeSemicolon?_eq_some_iff.mpr rfl, Option.bind_eq_bind, Option.bind_some]
  constructor
  · intro h
    split at h
    case h_1 => cases h
    case h_2 type others hwords =>
      obtain rfl := Option.some.inj h
      exact ⟨others, hwords, rfl⟩
  · rintro ⟨others, hwords, hnames⟩
    rw [hwords]
    simp only [hnames]

theorem Declaration.ofStatement?_eq_some_iff {text : List Char} {d : Declaration} :
    Declaration.ofStatement? text = some d ↔
      ∃ body, text = body ++ [';'] ∧ Declaration.ofStatement? (body ++ [';']) = some d := by
  constructor
  · intro h
    obtain ⟨body, hbody, -⟩ := Option.bind_eq_some_iff.mp h
    obtain rfl := beforeSemicolon?_eq_some_iff.mp hbody
    exact ⟨body, rfl, h⟩
  · rintro ⟨body, rfl, h⟩
    exact h

/-- What becomes of a line that is no version directive depends on its statement. -/
theorem treatment_of_statement (h : ¬ IsVersion line) :
    treatment line =
      match Declaration.ofStatement? (statement line) with
      | none => .keep
      | some d => d.treatment := by
  rw [treatment_of_not_isVersion h, Declaration.ofLine?, statement]
  cases afterMark? uniformMark (Text.trimStart line) with
  | none => rfl
  | some stated => rfl

theorem lineMembers_eq (line : List Char) : lineMembers line = statementMembers (statement line) := by
  by_cases hversion : IsVersion line
  · rw [lineMembers, treatment_of_isVersion hversion, statement, afterMark?_of_isVersion hversion]
    rfl
  · rw [lineMembers, treatment_of_statement hversion, statementMembers]
    cases Declaration.ofStatement? (statement line) with
    | none => rfl
    | some d => rfl

/-- No line has both marks. -/
theorem HasMark.not_isVersion (h : HasMark line) : ¬ IsVersion line := by
  intro hversion
  have hsome := isSome_afterMark?_iff.mpr h
  rw [afterMark?_of_isVersion hversion] at hsome
  cases hsome

theorem hasMark_of_statement (h : statement line ≠ []) : HasMark line := by
  rw [statement] at h
  cases hmark : afterMark? uniformMark (Text.trimStart line) with
  | some stated => exact isSome_afterMark?_iff.mp (by rw [hmark]; rfl)
  | none =>
    rw [hmark] at h
    exact absurd rfl h

/-- A line that adds a member has the mark at its beginning. -/
theorem hasMark_of_lineMembers (h : lineMembers line ≠ []) : HasMark line := by
  refine hasMark_of_statement fun hstatement => h ?_
  rw [lineMembers_eq, hstatement]
  rfl

/-- A line with the mark is blanks, the mark, and what is stated. -/
theorem exists_stated (h : HasMark line) :
    ∃ blanks stated, (∀ c ∈ blanks, Text.isBlank c) ∧ line = blanks ++ (uniformMark ++ stated) := by
  obtain ⟨stated, hstated⟩ := h
  obtain ⟨blanks, hblanks, hline⟩ := Text.exists_blank_append_trimStart line
  exact ⟨blanks, stated, hblanks, hline.trans (by rw [hstated])⟩

theorem trimStart_of_stated (h : ∀ c ∈ blanks, Text.isBlank c) (stated : List Char) :
    Text.trimStart (blanks ++ (uniformMark ++ stated)) = uniformMark ++ stated := by
  rw [Text.trimStart, List.dropWhile_append_of_pos h]
  rfl

theorem hasMark_of_stated (h : ∀ c ∈ blanks, Text.isBlank c) (stated : List Char) :
    HasMark (blanks ++ (uniformMark ++ stated)) := by
  rw [HasMark, trimStart_of_stated h]
  exact List.prefix_append uniformMark stated

theorem statement_of_stated (h : ∀ c ∈ blanks, Text.isBlank c) (stated : List Char) :
    statement (blanks ++ (uniformMark ++ stated)) = Text.trimEnd (beforeComment stated) := by
  rw [statement, trimStart_of_stated h, afterMark?_append]

/-! ## Comments at the end of a line -/

/-- A solidus is not blank. -/
theorem not_mem_of_isBlank (h : ∀ c ∈ blanks, Text.isBlank c) : '/' ∉ blanks :=
  fun hmem => absurd (h _ hmem) (by decide)

/-- A character that does not begin a comment stays. -/
theorem beforeComment_cons {c : Char} {rest : List Char} (h : c = '/' → rest.head? ≠ some '/') :
    beforeComment (c :: rest) = c :: beforeComment rest := by
  cases rest with
  | nil => rfl
  | cons next rest =>
    refine beforeComment.eq_4 c (next :: rest) (fun hnil => by cases hnil) fun other hc hrest => ?_
    exact h hc (congrArg some (List.cons.inj hrest).1)

theorem beforeComment_append {lead : List Char} (h : '/' ∉ lead) (cs : List Char) :
    beforeComment (lead ++ cs) = lead ++ beforeComment cs := by
  induction lead with
  | nil => rfl
  | cons c lead ih =>
    have hc : c ≠ '/' := fun hsame => h (hsame ▸ List.mem_cons_self)
    rw [List.cons_append, beforeComment_cons fun hsame => absurd hsame hc,
      ih fun hmem => h (List.mem_cons_of_mem _ hmem), List.cons_append]

theorem beforeComment_isPrefix (cs : List Char) : beforeComment cs <+: cs := by
  fun_induction beforeComment cs with
  | case1 => exact List.prefix_rfl
  | case2 => exact List.prefix_rfl
  | case3 => exact List.nil_prefix
  | case4 c rest _ _ ih => exact List.cons_prefix_cons.mpr ⟨rfl, ih⟩

theorem beforeComment_eq_self {cs : List Char} (h : '/' ∉ cs) : beforeComment cs = cs := by
  have happend := beforeComment_append h []
  rwa [List.append_nil, beforeComment, List.append_nil] at happend

/-- What is cut off begins with `//`. -/
theorem eq_beforeComment_or (cs : List Char) :
    beforeComment cs = cs ∨ ∃ rest, cs = beforeComment cs ++ '/' :: '/' :: rest := by
  fun_induction beforeComment cs with
  | case1 => exact .inl rfl
  | case2 => exact .inl rfl
  | case3 rest => exact .inr ⟨rest, rfl⟩
  | case4 c rest _ _ ih =>
    rcases ih with ih | ⟨cut, ih⟩
    · exact .inl (by rw [ih])
    · exact .inr ⟨cut, by rw [List.cons_append, ← ih]⟩

/-- Blanks behind a text are cut off with its comment, or stay behind it. -/
theorem beforeComment_append_of_blank (cs : List Char) (h : ∀ c ∈ blanks, Text.isBlank c) :
    beforeComment (cs ++ blanks) = beforeComment cs ++ blanks ∨
      beforeComment (cs ++ blanks) = beforeComment cs := by
  have hnone := not_mem_of_isBlank h
  have hhead : blanks.head? ≠ some '/' := fun hsome => hnone (List.mem_of_mem_head? hsome)
  fun_induction beforeComment cs with
  | case1 => exact .inl (beforeComment_eq_self hnone)
  | case2 c =>
    refine .inl ?_
    rw [List.singleton_append, beforeComment_cons fun _ => hhead, beforeComment_eq_self hnone]
  | case3 => exact .inr rfl
  | case4 c rest hrest hslash ih =>
    obtain ⟨next, rest, rfl⟩ := List.exists_cons_of_ne_nil hrest
    have hcons : c = '/' → (next :: rest ++ blanks).head? ≠ some '/' := fun hc hnext =>
      hslash rest hc (congrArg (· :: rest) (Option.some.inj hnext))
    rw [List.cons_append, beforeComment_cons hcons]
    exact ih.imp (congrArg (c :: ·)) (congrArg (c :: ·))

theorem trimEnd_beforeComment_append (cs : List Char) (h : ∀ c ∈ blanks, Text.isBlank c) :
    Text.trimEnd (beforeComment (cs ++ blanks)) = Text.trimEnd (beforeComment cs) := by
  rcases beforeComment_append_of_blank cs h with happend | happend
  · rw [happend, Text.trimEnd_append_of_blank _ h]
  · rw [happend]

theorem beforeComment_beforeComment (cs : List Char) :
    beforeComment (beforeComment cs) = beforeComment cs := by
  fun_induction beforeComment cs with
  | case1 => rfl
  | case2 => rfl
  | case3 => rfl
  | case4 c rest hrest hslash ih =>
    obtain ⟨next, rest, rfl⟩ := List.exists_cons_of_ne_nil hrest
    -- what is kept of the rest begins as the rest does
    have hhead (hc : c = '/') : (beforeComment (next :: rest)).head? ≠ some '/' := by
      intro hsome
      obtain ⟨cut, hcut⟩ := beforeComment_isPrefix (next :: rest)
      have hnext : (next :: rest).head? = some '/' := by rw [← hcut, List.head?_append, hsome]; rfl
      exact hslash rest hc (congrArg (· :: rest) (Option.some.inj hnext))
    rw [beforeComment_cons hhead, ih]

/-! ## What makes no difference -/

theorem lineMembers_nil : lineMembers [] = [] := rfl

/-- The mark and the blanks in front of it belong to no comment. -/
theorem beforeComment_of_stated (h : ∀ c ∈ blanks, Text.isBlank c) (stated : List Char) :
    beforeComment (blanks ++ (uniformMark ++ stated)) =
      blanks ++ (uniformMark ++ beforeComment stated) := by
  rw [beforeComment_append (not_mem_of_isBlank h), @beforeComment_append uniformMark (by decide)]

theorem hasMark_beforeComment (h : HasMark line) : HasMark (beforeComment line) := by
  obtain ⟨blanks, stated, hblanks, rfl⟩ := exists_stated h
  rw [beforeComment_of_stated hblanks]
  exact hasMark_of_stated hblanks _

/-- A comment that ends the line adds nothing and takes nothing away. -/
theorem lineMembers_beforeComment (h : HasMark line) :
    lineMembers (beforeComment line) = lineMembers line := by
  obtain ⟨blanks, stated, hblanks, rfl⟩ := exists_stated h
  rw [beforeComment_of_stated hblanks, lineMembers_eq, lineMembers_eq, statement_of_stated hblanks,
    statement_of_stated hblanks, beforeComment_beforeComment]

/-- Where blanks complete a mark, only blanks come behind it. -/
theorem isBlank_of_afterMark?_append {mark text stated : List Char} (h : ∀ c ∈ blanks, Text.isBlank c)
    (hnone : afterMark? mark text = none) (hsome : afterMark? mark (text ++ blanks) = some stated) :
    ∀ c ∈ stated, Text.isBlank c := by
  rcases List.append_eq_append_iff.mp (eq_append_of_afterMark? hsome) with
    ⟨front, -, hblanks⟩ | ⟨front, hfront, -⟩
  · exact fun c hc => h c (hblanks ▸ List.mem_append_right front hc)
  · rw [hfront, afterMark?_append] at hnone
    cases hnone

/-- Blanks at the end of a line state nothing. Where they complete the mark, they are all that is stated. -/
theorem statement_append_of_blank (line : List Char) (h : ∀ c ∈ blanks, Text.isBlank c) :
    statement (line ++ blanks) = statement line := by
  rcases @Text.trimStart_append_of_blank line _ h with htrim | ⟨hboth, hline⟩
  · cases hmark : afterMark? uniformMark (Text.trimStart line) with
    | some stated =>
      have hstated : Text.trimStart line ++ blanks = uniformMark ++ (stated ++ blanks) := by
        rw [eq_append_of_afterMark? hmark, List.append_assoc]
      unfold statement
      rw [htrim, hstated, afterMark?_append, hmark]
      exact trimEnd_beforeComment_append stated h
    | none =>
      have hline : statement line = [] := by rw [statement, hmark]
      cases hlonger : afterMark? uniformMark (Text.trimStart line ++ blanks) with
      | none => rw [hline, statement, htrim, hlonger]
      | some stated =>
        have hstated := isBlank_of_afterMark?_append h hmark hlonger
        rw [hline, statement, htrim, hlonger]
        show Text.trimEnd (beforeComment stated) = []
        rw [beforeComment_eq_self (not_mem_of_isBlank hstated), Text.trimEnd_eq_nil hstated]
  · rw [statement, statement, hboth, hline]

/-- No blank completes the mark of a version directive. -/
theorem isVersion_append_of_blank (line : List Char) (h : ∀ c ∈ blanks, Text.isBlank c) :
    IsVersion (line ++ blanks) ↔ IsVersion line := by
  have hmark : ∀ c ∈ versionMark, ¬ Text.isBlank c := List.any_eq_false.mp (by decide)
  unfold IsVersion
  rcases @Text.trimStart_append_of_blank line _ h with htrim | ⟨hboth, hline⟩
  · rw [htrim]
    refine ⟨fun hversion => ?_, fun hversion => hversion.trans (List.prefix_append _ _)⟩
    rcases List.prefix_or_prefix_of_prefix hversion (List.prefix_append _ blanks) with hfront | ⟨rest, hrest⟩
    · exact hfront
    · rw [← hrest] at hversion hmark ⊢
      cases rest with
      | nil => exact List.append_nil _ ▸ List.prefix_rfl
      | cons c rest =>
        have hblank := ((List.prefix_append_right_inj _).mp hversion).subset List.mem_cons_self
        exact absurd (h c hblank) (hmark c (List.mem_append_right _ List.mem_cons_self))
  · rw [hboth, hline]

/-- Blanks at the end of a line make no difference to what becomes of it. -/
theorem treatment_append_of_blank (line : List Char) (h : ∀ c ∈ blanks, Text.isBlank c) :
    treatment (line ++ blanks) = treatment line := by
  have hsame := isVersion_append_of_blank line h
  by_cases hversion : IsVersion line
  · rw [treatment_of_isVersion hversion, treatment_of_isVersion (hsame.mpr hversion)]
  · rw [treatment_of_statement hversion, treatment_of_statement (mt hsame.mp hversion),
      statement_append_of_blank line h]

theorem lineMembers_append_of_blank (line : List Char) (h : ∀ c ∈ blanks, Text.isBlank c) :
    lineMembers (line ++ blanks) = lineMembers line :=
  congrArg Treatment.members (treatment_append_of_blank line h)

/-- The carriage return of a line's ending makes no difference. -/
theorem treatment_dropReturn (line : List Char) : treatment (Text.dropReturn line) = treatment line := by
  unfold Text.dropReturn
  split
  case isTrue hlast =>
    have hline : line.dropLast ++ ['\r'] = line := List.dropLast_append_getLast? '\r' hlast
    have hreturn : ∀ c ∈ ['\r'], Text.isBlank c := List.forall_mem_singleton.mpr (by decide)
    rw [← treatment_append_of_blank line.dropLast hreturn, hline]
  case isFalse => rfl

theorem lineMembers_dropReturn (line : List Char) :
    lineMembers (Text.dropReturn line) = lineMembers line :=
  congrArg Treatment.members (treatment_dropReturn line)

/-- The members are those of the pieces between line feeds. -/
theorem members_sanitize (snippet : List Char) :
    (sanitize snippet).members = (Text.splitOn '\n' snippet).flatMap lineMembers :=
  Text.flatMap_lines lineMembers_nil lineMembers_dropReturn snippet

section Exchange

variable {f : Char → Char} (hblank : ∀ c, Text.isBlank (f c) = Text.isBlank c)
  (hkeep : ∀ c, ¬ Text.isBlank c → f c = c)

include hblank hkeep

theorem exchange_eq_iff {c d : Char} (hd : ¬ Text.isBlank d) : f c = d ↔ c = d := by
  constructor
  · rintro rfl
    have hc : ¬ Text.isBlank c := by rwa [hblank] at hd
    exact (hkeep c hc).symm
  · rintro rfl
    exact hkeep c hd

theorem beforeComment_map (cs : List Char) : beforeComment (cs.map f) = (beforeComment cs).map f := by
  have hslash : ¬ Text.isBlank '/' := by decide
  fun_induction beforeComment cs with
  | case1 => rfl
  | case2 => rfl
  | case3 rest =>
    rw [List.map_cons, List.map_cons, hkeep '/' hslash]
    rfl
  | case4 c rest hrest hnot ih =>
    obtain ⟨next, rest, rfl⟩ := List.exists_cons_of_ne_nil hrest
    have hhead : f c = '/' → ((next :: rest).map f).head? ≠ some '/' := by
      intro hc hsome
      have hc' := (exchange_eq_iff hblank hkeep hslash).mp hc
      have hnext := (exchange_eq_iff hblank hkeep hslash).mp (Option.some.inj hsome)
      exact hnot rest hc' (congrArg (· :: rest) hnext)
    rw [List.map_cons, beforeComment_cons hhead, ih, List.map_cons]

/-- A statement with other blanks adds the same. -/
theorem statementMembers_map (text : List Char) :
    statementMembers (text.map f) = statementMembers text := by
  have hsemicolon : ¬ Text.isBlank ';' := by decide
  have hlast : (text.map f).getLast? = some ';' ↔ text.getLast? = some ';' := by
    rw [List.getLast?_map, Option.map_eq_some_iff]
    simp only [exchange_eq_iff hblank hkeep hsemicolon, exists_eq_right]
  have hbody : beforeSemicolon? (text.map f) = (beforeSemicolon? text).map (·.map f) := by
    unfold beforeSemicolon?
    by_cases hends : text.getLast? = some ';'
    · rw [if_pos (hlast.mpr hends), if_pos hends, Option.map_some, List.map_dropLast]
    · rw [if_neg (mt hlast.mp hends), if_neg hends, Option.map_none]
  have hdeclaration : Declaration.ofStatement? (text.map f) = Declaration.ofStatement? text := by
    unfold Declaration.ofStatement?
    rw [hbody]
    cases beforeSemicolon? text with
    | none => rfl
    | some body =>
      simp only [Option.map_some, Option.bind_eq_bind, Option.bind_some, Text.words_map hblank hkeep]
  rw [statementMembers, statementMembers, hdeclaration]

/-- A line with the mark adds the same with other blanks behind the mark. -/
theorem lineMembers_map (hmark : uniformMark.map f = uniformMark)
    (h : HasMark line) : lineMembers (line.map f) = lineMembers line := by
  obtain ⟨blanks, stated, hblanks, rfl⟩ := exists_stated h
  have hexchanged : ∀ c ∈ blanks.map f, Text.isBlank c := by
    intro c hc
    obtain ⟨b, hb, rfl⟩ := List.mem_map.mp hc
    exact (hblank b).trans (hblanks b hb)
  rw [List.map_append, List.map_append, hmark, lineMembers_eq, lineMembers_eq,
    statement_of_stated hexchanged, statement_of_stated hblanks, beforeComment_map hblank hkeep,
    Text.trimEnd_map hblank, statementMembers_map hblank hkeep]

end Exchange

/-! ## Statements that add a member -/

theorem isNameChar_of_mem_precisionWords {word : List Char} (h : word ∈ precisionWords) :
    ∀ c ∈ word, isNameChar c := by
  have hall : ∀ word ∈ precisionWords, word.all isNameChar := by decide
  exact List.all_eq_true.mp (hall word h)

theorem isNameChar_of_mem_liftableTypes {type : List Char} (h : type ∈ liftableTypes) :
    ∀ c ∈ type, isNameChar c := by
  have hall : ∀ type ∈ liftableTypes, type.all isNameChar := by decide
  exact List.all_eq_true.mp (hall type h)

theorem isIdentifier_of_mem_reservedNames : ∀ name ∈ reservedNames, isIdentifier name := by decide

theorem isNameChar_of_isIdentifier {name : List Char} (h : isIdentifier name) : ∀ c ∈ name, isNameChar c := by
  cases name with
  | nil => cases h
  | cons c rest =>
    rw [isIdentifier, Bool.and_eq_true] at h
    refine List.forall_mem_cons.mpr ⟨?_, List.all_eq_true.mp h.2⟩
    rw [isNameChar, Char.isAlphanum, Bool.or_right_comm, Bool.or_eq_true]
    exact .inl h.1

/-- What is taken apart into a liftable type and identifiers is made of their characters, of precision words,
commas and blanks. -/
theorem isNameChar_or_of_mem {body type : List Char} {others : List (List Char)} {c : Char}
    (hwords : (Text.words body).filter (· ∉ precisionWords) = type :: others) (htype : type ∈ liftableTypes)
    (hnames : ∀ name ∈ (Text.splitOn ',' (Text.join [' '] others)).map Text.trim, isIdentifier name)
    (hmem : c ∈ body) : isNameChar c ∨ Text.isBlank c ∨ c = ',' := by
  by_cases hblank : Text.isBlank c
  · exact .inr (.inl hblank)
  by_cases hcomma : c = ','
  · exact .inr (.inr hcomma)
  refine .inl ?_
  obtain ⟨word, hword, hc⟩ := Text.exists_word_of_mem hmem hblank
  by_cases hprecision : word ∈ precisionWords
  · exact isNameChar_of_mem_precisionWords hprecision c hc
  · have hkept : word ∈ type :: others :=
      hwords ▸ List.mem_filter.mpr ⟨hword, decide_eq_true hprecision⟩
    rcases List.mem_cons.mp hkept with rfl | hother
    · exact isNameChar_of_mem_liftableTypes htype c hc
    · obtain ⟨piece, hpiece, hc⟩ := Text.exists_piece_of_mem (Text.mem_join hother hc) hcomma
      have hname := hnames (Text.trim piece) (List.mem_map_of_mem hpiece)
      exact isNameChar_of_isIdentifier hname c (Text.mem_trim hc hblank)

theorem not_mem_of_ofStatement? {text : List Char} {d : Declaration}
    (h : Declaration.ofStatement? text = some d) (hliftable : d.IsLiftable) : '/' ∉ text := by
  obtain ⟨body, rfl, hbody⟩ := Declaration.ofStatement?_eq_some_iff.mp h
  obtain ⟨others, hwords, hnames⟩ := Declaration.ofStatement?_concat_iff.mp hbody
  rw [List.mem_append, not_or]
  refine ⟨fun hmem => ?_, by decide⟩
  have hslash := isNameChar_or_of_mem hwords hliftable.1 (hnames ▸ hliftable.2) hmem
  revert hslash
  decide

theorem not_mem_of_statementMembers {text : List Char} (h : statementMembers text ≠ []) :
    '/' ∉ text := by
  unfold statementMembers at h
  cases hdeclaration : Declaration.ofStatement? text with
  | none =>
    rw [hdeclaration] at h
    exact absurd rfl h
  | some d =>
    rw [hdeclaration] at h
    refine not_mem_of_ofStatement? hdeclaration ?_
    by_contra hliftable
    by_cases hreserved : d.IsReserved
    · exact h (congrArg Treatment.members (Declaration.treatment_of_isReserved hreserved))
    · exact h (congrArg Treatment.members (Declaration.treatment_of_not_isLiftable hreserved hliftable))

/-- A line that adds a member has no solidus in front of its comment. -/
theorem not_mem_beforeComment (h : lineMembers line ≠ []) : '/' ∉ beforeComment line := by
  have hblank : ¬ Text.isBlank '/' := by decide
  obtain ⟨blanks, stated, hblanks, rfl⟩ := exists_stated (hasMark_of_lineMembers h)
  rw [lineMembers_eq, statement_of_stated hblanks] at h
  have hstated : '/' ∉ beforeComment stated := fun hmem =>
    not_mem_of_statementMembers h (Text.mem_trimEnd hmem hblank)
  rw [beforeComment_of_stated hblanks]
  intro hmem
  rcases List.mem_append.mp hmem with hmem | hmem
  · exact hblank (hblanks _ hmem)
  · rcases List.mem_append.mp hmem with hmem | hmem
    · exact absurd hmem (by decide)
    · exact hstated hmem

end FrameTransition.Snippet
