import FrameTransition.Proofs.Snippet.Lifting
import FrameTransition.Proofs.Text.Lines

/-!
# What sanitizing leaves alone

A snippet that was sanitized has nothing left to be sanitized: a second pass keeps every line of the body,
and changes nothing but carriage returns that stood at the end of a kept line before its own ending
(`staysSanitized`). The point is that such a return makes no difference to what becomes of a line
(`treatment_dropReturn`).

What becomes of a snippet depends on its lines alone, each by itself. So it can be sanitized in pieces that
end in line feeds, and the style of its line endings does not show in the shader (`lineByLine`).
-/

namespace FrameTransition.Snippet

variable {line snippet : List Char}

/-! ## A second pass -/

/-- Nothing is to be done about the lines of a body. -/
theorem treatment_segment (line : List Char) : treatment (segment line) = .keep := by
  by_cases hremoved : IsRemoved line
  · rw [segment_of_isRemoved hremoved]
    rfl
  · rw [segment_of_not_isRemoved hremoved]
    exact treatment_eq_keep_iff.mpr hremoved

theorem lines_body (snippet : List Char) :
    Text.lines (sanitize snippet).body = ((Text.lines snippet).map segment).map Text.dropReturn := by
  rw [body_sanitize, Text.lines_flatMap fun _ => not_mem_of_mem_segments]

theorem treatment_of_mem_lines_body (h : line ∈ Text.lines (sanitize snippet).body) :
    treatment line = .keep := by
  rw [lines_body] at h
  obtain ⟨_, hsegment, rfl⟩ := List.mem_map.mp h
  obtain ⟨source, -, rfl⟩ := List.mem_map.mp hsegment
  rw [treatment_dropReturn, treatment_segment]

theorem sanitize_of_kept (h : ∀ line ∈ Text.lines snippet, treatment line = .keep) :
    sanitize snippet = ⟨(Text.lines snippet).flatMap (· ++ ['\n']), []⟩ := by
  have hbody : (Text.lines snippet).flatMap bodyLine = (Text.lines snippet).flatMap (· ++ ['\n']) :=
    List.flatMap_congr fun line hline => by rw [bodyLine, h line hline]; rfl
  have hmembers : (Text.lines snippet).flatMap lineMembers = [] :=
    List.flatMap_eq_nil_iff.mpr fun line hline => by rw [lineMembers, h line hline]; rfl
  rw [sanitize, hbody, hmembers]

/-- A second pass over a snippet that was sanitized. -/
structure StaysSanitized (snippet : List Char) : Prop where
  /-- Nothing is lifted. -/
  members : (sanitize (sanitize snippet).body).members = []
  /-- No line with text is emptied. -/
  kept : ∀ line ∈ Text.lines (sanitize snippet).body, line ≠ [] → treatment line = .keep
  /-- Every line is written again as it is read. -/
  body : (sanitize (sanitize snippet).body).body =
    (Text.lines (sanitize snippet).body).flatMap (· ++ ['\n'])
  fixed : (∀ line ∈ Text.lines snippet, line.getLast? ≠ some '\r') →
    sanitize (sanitize snippet).body = ⟨(sanitize snippet).body, []⟩
  /-- Only a carriage return at the end of a kept line is lost. -/
  fixed_iff : sanitize (sanitize snippet).body = ⟨(sanitize snippet).body, []⟩ ↔
    ∀ line ∈ Text.lines snippet, ¬ IsRemoved line → line.getLast? ≠ some '\r'

theorem sanitize_body (snippet : List Char) :
    sanitize (sanitize snippet).body =
      ⟨(((Text.lines snippet).map segment).map Text.dropReturn).flatMap (· ++ ['\n']), []⟩ := by
  rw [sanitize_of_kept fun _ => treatment_of_mem_lines_body, lines_body]

theorem sanitize_body_eq_iff (snippet : List Char) :
    sanitize (sanitize snippet).body = ⟨(sanitize snippet).body, []⟩ ↔
      ∀ line ∈ Text.lines snippet, ¬ IsRemoved line → line.getLast? ≠ some '\r' := by
  have hsegments : ∀ line ∈ (Text.lines snippet).map segment, '\n' ∉ line :=
    fun _ => not_mem_of_mem_segments
  have hdropped : ∀ line ∈ ((Text.lines snippet).map segment).map Text.dropReturn, '\n' ∉ line := by
    rw [← lines_body]
    exact fun _ => Text.not_mem_of_mem_lines
  have hsame : sanitize (sanitize snippet).body = ⟨(sanitize snippet).body, []⟩ ↔
      ((Text.lines snippet).map segment).map Text.dropReturn = (Text.lines snippet).map segment := by
    rw [sanitize_body, body_sanitize, Sanitized.mk.injEq]
    exact ⟨fun h => Text.flatMap_inj hdropped hsegments h.1, fun h => ⟨by rw [h], rfl⟩⟩
  rw [hsame, List.map_map, List.map_inj_left]
  refine forall₂_congr fun line _ => ?_
  rw [Function.comp_apply, Text.dropReturn_eq_self_iff]
  by_cases hremoved : IsRemoved line
  · simp [segment_of_isRemoved hremoved, hremoved]
  · simp [segment_of_not_isRemoved hremoved, hremoved]

theorem staysSanitized (snippet : List Char) : StaysSanitized snippet where
  members := by rw [sanitize_body]
  kept _ hline _ := treatment_of_mem_lines_body hline
  body := by rw [sanitize_body, lines_body]
  fixed h := (sanitize_body_eq_iff snippet).mpr fun line hline _ => h line hline
  fixed_iff := sanitize_body_eq_iff snippet

/-- A second carriage return at the end of a line goes in the second pass. -/
example : sanitize "a\r\r\nuniform int b;".toList = ⟨"a\r\n\n".toList, [⟨"int".toList, "b".toList⟩]⟩ ∧
    sanitize "a\r\n\n".toList = ⟨"a\n\n".toList, []⟩ := by decide +kernel

/-! ## Line by line -/

theorem sanitize_congr {other : List Char} (h : Text.lines snippet = Text.lines other) :
    sanitize snippet = sanitize other := by
  rw [sanitize, sanitize, h]

theorem assemble_congr {other : List Char} (h : Text.lines snippet = Text.lines other) :
    assemble (some snippet) = assemble (some other) := by
  rw [assemble_some, assemble_some, sanitize_congr h]

theorem sanitize_append {front : List Char} (h : front = [] ∨ front.getLast? = some '\n') (back : List Char) :
    sanitize (front ++ back) =
      ⟨(sanitize front).body ++ (sanitize back).body, (sanitize front).members ++ (sanitize back).members⟩ := by
  rw [sanitize, Text.lines_append h, List.flatMap_append, List.flatMap_append]
  rfl

/-- Snippets are read line by line, whatever ends their lines. -/
structure LineByLine : Prop where
  append : ∀ front back : List Char, front = [] ∨ front.getLast? = some '\n' →
    (sanitize (front ++ back)).body = (sanitize front).body ++ (sanitize back).body ∧
      (sanitize (front ++ back)).members = (sanitize front).members ++ (sanitize back).members
  returns : ∀ snippet : List Char, '\r' ∉ snippet →
    assemble (some (Text.withReturns snippet)) = assemble (some snippet)
  finalFeed : ∀ snippet : List Char, snippet ≠ [] → snippet.getLast? ≠ some '\n' →
    snippet.getLast? ≠ some '\r' → assemble (some (snippet ++ ['\n'])) = assemble (some snippet)

theorem lineByLine : LineByLine where
  append front back h := by
    rw [sanitize_append h]
    exact ⟨rfl, rfl⟩
  returns _ h := assemble_congr (Text.lines_withReturns h)
  finalFeed _ hne hfeed hreturn := assemble_congr (Text.lines_concat hne hfeed hreturn)

end FrameTransition.Snippet
