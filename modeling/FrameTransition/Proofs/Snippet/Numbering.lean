import FrameTransition.Proofs.Snippet.Grammar

/-!
# Line numbers of a snippet

A compiler counts the lines of an assembled shader anew behind the `#line 1` mark. What it calls line `i`
there is line `i` of the snippet, or an empty line in its place: `assemble_numbering` says so of every
snippet, and tells by the grammar of the declarations which lines are emptied.

A line that is emptied because it is lifted has each of its members declared in front of the mark, on a line
of its own in the parameter block, so that no declaration is lost. The rest follows from every line of the
body being ended by one line feed and holding no other.
-/

namespace FrameTransition.Snippet

/-! ## Lines of the parameter block -/

/-- The line of the parameter block for a member. -/
def declarationLine (m : Member) : List Char :=
  "    ".toList ++ m.type ++ " ".toList ++ m.name ++ ";".toList

theorem memberLine_eq (m : Member) : memberLine m = declarationLine m ++ ['\n'] := by
  have hgap : " ".toList = [' '] := rfl
  have hend : ";".toList = [';'] := rfl
  show "    ".toList ++ (m.type ++ ' ' :: m.name ++ [';']) ++ ['\n'] =
    "    ".toList ++ m.type ++ " ".toList ++ m.name ++ ";".toList ++ ['\n']
  rw [hgap, hend]
  simp only [List.append_assoc, List.cons_append, List.nil_append]

theorem IsName.not_mem_newline {name : List Char} (h : IsName name) : '\n' ∉ name := by
  intro hmem
  exact h.isWord.2 _ hmem (by decide)

theorem IsNumeric.not_mem_newline {type : List Char} (h : IsNumeric type) : '\n' ∉ type := by
  have hall : ∀ type ∈ liftableTypes, '\n' ∉ type := by decide +kernel
  exact hall type (isNumeric_iff.mp h)

theorem not_mem_declarationLine {m : Member} (htype : IsNumeric m.type) (hname : IsName m.name) :
    '\n' ∉ declarationLine m := by
  have hindent : '\n' ∉ "    ".toList := by decide +kernel
  have hgap : '\n' ∉ " ".toList := by decide +kernel
  have hend : '\n' ∉ ";".toList := by decide +kernel
  show '\n' ∉ "    ".toList ++ m.type ++ " ".toList ++ m.name ++ ";".toList
  simp only [List.mem_append, not_or]
  exact ⟨⟨⟨⟨hindent, htype.not_mem_newline⟩, hgap⟩, hname.not_mem_newline⟩, hend⟩

/-- The lines of a shader in front of its lifted members. -/
def blockFront : List (List Char) :=
  Text.splitOn '\n' prelude.toList ++
    ["layout(std140, set = 0, binding = 2) uniform TransitionParams \x7b".toList, "    float progress;".toList,
      "    vec2 resolution;".toList]

/-- The lines between the lifted members and the mark. -/
def blockBack : List (List Char) :=
  ["\x7d;".toList, "".toList, "#define to sampler2D(_to_texture, _to_sampler)".toList,
    "#define texture2D texture".toList, "".toList]

theorem not_mem_blockFront : ∀ line ∈ blockFront, '\n' ∉ line := by
  have hblock : ∀ line ∈ ["layout(std140, set = 0, binding = 2) uniform TransitionParams \x7b".toList,
      "    float progress;".toList, "    vec2 resolution;".toList], '\n' ∉ line := by decide +kernel
  intro line hline
  rcases List.mem_append.mp hline with hprelude | hmember
  · exact Text.not_mem_of_mem_splitOn hprelude
  · exact hblock line hmember

/-- As lines, the declarations are fixed ones around one line for each member. -/
theorem splitOn_declarations {members : List Member} (h : ∀ m ∈ members, IsNumeric m.type ∧ IsName m.name) :
    Text.splitOn '\n' (declarations members) = blockFront ++ members.map declarationLine ++ blockBack := by
  have hlines : ∀ line ∈ members.map declarationLine, '\n' ∉ line := by
    intro line hline
    obtain ⟨m, hm, rfl⟩ := List.mem_map.mp hline
    exact not_mem_declarationLine (h m hm).1 (h m hm).2
  have hmembers : members.flatMap memberLine = (members.map declarationLine).flatMap (· ++ ['\n']) := by
    rw [List.flatMap_map, funext memberLine_eq]
  have hfront : prelude.toList ++ blockStart.toList = blockFront.flatMap (· ++ ['\n']) := by decide +kernel
  have hback : Text.splitOn '\n' (blockEnd.toList ++ defines.toList) = blockBack := by decide +kernel
  rw [declarations, hmembers, hfront, List.append_assoc, List.append_assoc,
    Text.splitOn_flatMap_append not_mem_blockFront, Text.splitOn_flatMap_append hlines, hback, List.append_assoc]

/-! ## Lines of a shader -/

/-- What an assembled shader has to do with the lines of its snippet. `members` are all that the part in
front of the mark depends on, and `segments` are the lines of the body. -/
structure KeepsNumbering (snippet source : List Char) (members : List Member)
    (segments : List (List Char)) : Prop where
  source_eq : source = declarations members ++ "\n#line 1\n".toList ++
    segments.flatMap (· ++ ['\n']) ++ "\nvoid main() \x7b\n    _fragColor = transition(_uv);\n\x7d\n".toList
  count_body : (segments.flatMap (· ++ ['\n'])).count '\n' = (Text.lines snippet).length
  length_segments : segments.length = (Text.lines snippet).length
  /-- As lines: those behind the one with the mark are the lines of the body, up to the entry point. -/
  splitOn_source : Text.splitOn '\n' source =
    Text.splitOn '\n' (declarations members) ++ ["#line 1".toList] ++ segments ++
      ["".toList, "void main() \x7b".toList, "    _fragColor = transition(_uv);".toList, "\x7d".toList,
        "".toList]
  /-- In source order, each line is lifted, dropped or kept, and the members are those of the lifted. -/
  lines : ∃ results : List (List Char × List Member),
    List.Forall₂ (fun line result => Becomes line result.1 result.2) (Text.lines snippet) results ∧
      segments = results.map Prod.fst ∧ members = results.flatMap Prod.snd
  /-- A line that is dropped or lifted leaves its place empty. -/
  removed : ∀ (i : Nat) (line : List Char), (Text.lines snippet)[i]? = some line →
    (Drops line ∨ ∃ lifted, Lifts line lifted) → segments[i]? = some []
  /-- Every other line stands in its place as it was. -/
  kept : ∀ (i : Nat) (line : List Char), (Text.lines snippet)[i]? = some line →
    ¬ (Drops line ∨ ∃ lifted, Lifts line lifted) → segments[i]? = some line
  /-- What a line is lifted for is declared. -/
  lifted : ∀ line ∈ Text.lines snippet, ∀ lifted, Lifts line lifted → lifted ≠ [] ∧ lifted ⊆ members
  /-- Between fixed lines the part in front of the mark has one line for each member, in order. -/
  declared : Text.splitOn '\n' (declarations members) = blockFront ++ members.map declarationLine ++ blockBack
  not_isVersion : ∀ segment ∈ segments, ¬ IsVersion segment

theorem not_keep_iff {line : List Char} :
    (Drops line ∨ ∃ lifted, Lifts line lifted) ↔ treatment line ≠ .keep := by
  rw [ne_eq, keep_iff]
  grind

theorem segment_of_removed {line : List Char} (h : Drops line ∨ ∃ lifted, Lifts line lifted) :
    segment line = [] := by
  rw [not_keep_iff, ne_eq, treatment_eq_keep_iff, not_not] at h
  exact segment_of_isRemoved h

theorem segment_of_not_removed {line : List Char} (h : ¬ (Drops line ∨ ∃ lifted, Lifts line lifted)) :
    segment line = line := by
  rw [not_keep_iff, ne_eq, treatment_eq_keep_iff, not_not] at h
  exact segment_of_not_isRemoved h

theorem Lifts.ne_nil {line : List Char} {lifted : List Member} (h : Lifts line lifted) : lifted ≠ [] := by
  obtain ⟨d, -, -, hgiven, rfl⟩ := h
  obtain ⟨name, hname, hnot⟩ : ∃ name ∈ d.names, ¬ IsGiven name := by simpa using hgiven
  exact List.ne_nil_of_mem (List.mem_map_of_mem (List.mem_filter.mpr ⟨hname, decide_eq_true hnot⟩))

theorem Lifts.subset_members {snippet line : List Char} {lifted : List Member} (hline : line ∈ Text.lines snippet)
    (h : Lifts line lifted) : lifted ⊆ (sanitize snippet).members := by
  intro m hm
  refine List.mem_flatMap.mpr ⟨line, hline, ?_⟩
  rw [lineMembers, lift_iff.mpr h]
  exact hm

/-- As lines, a shader is its declarations, the mark, the lines of its body and the entry point. -/
theorem splitOn_assemble (snippet : List Char) :
    Text.splitOn '\n' (assemble (some snippet)) =
      Text.splitOn '\n' (declarations (sanitize snippet).members) ++ ["#line 1".toList] ++
        (Text.lines snippet).map segment ++
        ["".toList, "void main() \x7b".toList, "    _fragColor = transition(_uv);".toList, "\x7d".toList,
          "".toList] := by
  have hmark : lineMark.toList = '\n' :: ("#line 1".toList ++ ['\n']) := by decide +kernel
  have hnumber : Text.splitOn '\n' "#line 1".toList = ["#line 1".toList] := by decide +kernel
  have hfooter : Text.splitOn '\n' footer.toList =
      ["".toList, "void main() \x7b".toList, "    _fragColor = transition(_uv);".toList, "\x7d".toList,
        "".toList] := by decide +kernel
  have hsource : assemble (some snippet) = declarations (sanitize snippet).members ++
      '\n' :: ("#line 1".toList ++
        '\n' :: (((Text.lines snippet).map segment).flatMap (· ++ ['\n']) ++ footer.toList)) := by
    rw [assemble_some, body_sanitize, hmark]
    simp only [List.append_assoc, List.cons_append, List.nil_append]
  rw [hsource, Text.splitOn_append_cons, Text.splitOn_append_cons, hnumber,
    Text.splitOn_flatMap_append fun _ => not_mem_of_mem_segments, hfooter]
  simp only [List.append_assoc]

/-- An assembled shader numbers the lines of its snippet as the snippet does, and declares what it lifts. -/
theorem assemble_numbering (snippet : List Char) :
    ∃ segments, KeepsNumbering snippet (assemble (some snippet)) (sanitize snippet).members segments := by
  refine ⟨(Text.lines snippet).map segment, {
    source_eq := ?_
    count_body := ?_
    length_segments := List.length_map _
    splitOn_source := splitOn_assemble snippet
    lines := exists_results snippet
    removed := fun i line hline hremoved => ?_
    kept := fun i line hline hkept => ?_
    lifted := fun line hline lifted hlifts => ⟨hlifts.ne_nil, hlifts.subset_members hline⟩
    declared := splitOn_declarations fun m hm => ?_
    not_isVersion := fun line hline => ?_ }⟩
  · rw [assemble_some, body_sanitize]
    rfl
  · rw [Text.count_flatMap fun _ => not_mem_of_mem_segments, List.length_map]
  · rw [List.getElem?_map, hline, Option.map_some, segment_of_removed hremoved]
  · rw [List.getElem?_map, hline, Option.map_some, segment_of_not_removed hkept]
  · obtain ⟨htype, hname, -⟩ := isNumeric_and_isName_of_mem hm
    exact ⟨htype, hname⟩
  · obtain ⟨source, -, rfl⟩ := List.mem_map.mp hline
    exact not_isVersion_segment source

/-- A version directive and a lifted declaration leave two empty lines, and a declaration with an initial
value stays. -/
example : (Text.lines "#version 330\r\nuniform float a; // b\nuniform float c = 1.0;".toList).map segment =
    [[], [], "uniform float c = 1.0;".toList] := by decide +kernel

end FrameTransition.Snippet
