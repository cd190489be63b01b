import FrameTransition.Render.Renderer

/-!
# The history of a renderer

The owner of a renderer makes calls one after the other, and the host answers what a call asks while it
lasts. `Renderer.after` is the renderer that a sequence of such turns leaves, `Renderer.journal` what was
noted of each: the call, what it gave back, and what it asked.

A turn holds its answers as a function of the request: within one call a host gives one answer to one
request, and from one turn to the next the answers may change in any way.

The second half reads a journal. It knows calls and outcomes only, nothing of the renderer, so that what
a renderer shows can be compared with it.
-/

namespace FrameTransition.Render

/-- What the owner of a renderer asks of it. -/
inductive Call where
  | configure (width height : Nat)
  | render (input : Frame) (seconds : Number)
  | renderInto (input : Frame) (seconds : Number) (output : Frame)
  | teardown

/-- What a call gives back. -/
abbrev Call.Outcome : Call → Type
  | configure _ _ => Except TransitionError Unit
  | render _ _ => Except TransitionError Frame
  | renderInto _ _ _ => Drawn
  | teardown => Unit

/-- The answer to every request. -/
abbrev Answers := (r : Request) → r.Answer

/-- A call, and what the host answers while it lasts. -/
structure Turn where
  call : Call
  answers : Answers

/-- A call that was made: what came of it, and what it asked of the host, in order. -/
structure Entry where
  call : Call
  outcome : call.Outcome
  requests : List Request

/-- What was noted of a sequence of calls, the first one first. -/
abbrev Journal := List Entry

namespace Renderer

/-- One call. -/
def perform (compile : Shader.Compiler) (renderer : Renderer) :
    (call : Call) → Session (call.Outcome × Renderer)
  | .configure width height => renderer.configure compile width height
  | .render input seconds => renderer.render input seconds
  | .renderInto input seconds output => renderer.renderInto input seconds output
  | .teardown => return ((), renderer.teardown)

/-- The renderer after one turn. -/
def next (compile : Shader.Compiler) (renderer : Renderer) (turn : Turn) : Renderer :=
  ((renderer.perform compile turn.call).run turn.answers).2

/-- What is noted of one turn. -/
def entry (compile : Shader.Compiler) (renderer : Renderer) (turn : Turn) : Entry :=
  let session := renderer.perform compile turn.call
  ⟨turn.call, (session.run turn.answers).1, session.trace turn.answers⟩

/-- The renderer after a sequence of turns. -/
def after (compile : Shader.Compiler) (renderer : Renderer) (turns : List Turn) : Renderer :=
  turns.foldl (next compile) renderer

/-- What is noted of a sequence of turns. -/
def journal (compile : Shader.Compiler) (renderer : Renderer) : List Turn → Journal
  | [] => []
  | turn :: turns => renderer.entry compile turn :: journal compile (renderer.next compile turn) turns

end Renderer

/-! ## Reading a journal -/

/-- A call to configure. -/
def Entry.isConfigure (entry : Entry) : Bool :=
  match entry.call with
  | .configure _ _ => true
  | _ => false

/-- A call to tear down. -/
def Entry.isTeardown (entry : Entry) : Bool :=
  match entry.call with
  | .teardown => true
  | _ => false

/-- A call to draw, into a new frame or into a given one. -/
def Entry.isDrawing (entry : Entry) : Bool :=
  match entry.call with
  | .render _ _ => true
  | .renderInto _ _ _ => true
  | _ => false

/-- The time at which a frame was drawn, for a call that drew one. -/
def Entry.drawnAt? : Entry → Option Number
  | ⟨.render _ seconds, .ok _, _⟩ => some seconds
  | ⟨.renderInto _ seconds _, ⟨.ok _, _⟩, _⟩ => some seconds
  | _ => none

/-- The frame that a call has drawn, for a call that drew one. -/
def Entry.frame? : Entry → Option Frame
  | ⟨.render _ _, .ok frame, _⟩ => some frame
  | ⟨.renderInto _ _ _, ⟨.ok _, output⟩, _⟩ => some output
  | _ => none

/-- A call to draw is none of the two others. -/
theorem Entry.isConfigure_of_isDrawing {entry : Entry} (h : entry.isDrawing = true) :
    entry.isConfigure = false := by
  obtain ⟨call, outcome, requests⟩ := entry
  cases call with
  | configure | teardown => cases h
  | render | renderInto => rfl

theorem Entry.isTeardown_of_isDrawing {entry : Entry} (h : entry.isDrawing = true) :
    entry.isTeardown = false := by
  obtain ⟨call, outcome, requests⟩ := entry
  cases call with
  | configure | teardown => cases h
  | render | renderInto => rfl

theorem Entry.drawnAt?_render (input : Frame) (seconds : Number)
    (result : Except TransitionError Frame) (requests : List Request) :
    Entry.drawnAt? ⟨.render input seconds, result, requests⟩ = result.toOption.map fun _ => seconds := by
  cases result <;> rfl

theorem Entry.drawnAt?_renderInto (input : Frame) (seconds : Number) (output : Frame) (drawn : Drawn)
    (requests : List Request) :
    Entry.drawnAt? ⟨.renderInto input seconds output, drawn, requests⟩ =
      drawn.result.toOption.map fun _ => seconds := by
  obtain ⟨result, written⟩ := drawn
  cases result <;> rfl

theorem Entry.frame?_render (input : Frame) (seconds : Number) (result : Except TransitionError Frame)
    (requests : List Request) : Entry.frame? ⟨.render input seconds, result, requests⟩ = result.toOption := by
  cases result <;> rfl

theorem Entry.frame?_renderInto (input : Frame) (seconds : Number) (output : Frame) (drawn : Drawn)
    (requests : List Request) : Entry.frame? ⟨.renderInto input seconds output, drawn, requests⟩ =
      drawn.result.toOption.map fun _ => drawn.output := by
  obtain ⟨result, written⟩ := drawn
  cases result <;> rfl

/-- The first call to configure in a journal: the size it was given, what came of it, what it asked, and
everything noted after it. -/
structure Configuring where
  width : Nat
  height : Nat
  result : Except TransitionError Unit
  requests : List Request
  later : Journal

namespace Journal

/-- The first call to configure. -/
def configuring? : Journal → Option Configuring
  | [] => none
  | ⟨.configure width height, result, requests⟩ :: later =>
    some ⟨width, height, result, requests, later⟩
  | _ :: rest => configuring? rest

/-- Some call was one to tear down. -/
def tornDown (journal : Journal) : Bool :=
  journal.any (·.isTeardown)

/-- The time of the last frame that was drawn. -/
def lastDrawnAt? (journal : Journal) : Option Number :=
  (journal.filterMap (·.drawnAt?)).getLast?

/-- Everything that was asked of the host. -/
def requests (journal : Journal) : List Request :=
  journal.flatMap (·.requests)

theorem configuring?_cons_of_not_isConfigure {entry : Entry} (h : entry.isConfigure = false)
    (rest : Journal) : configuring? (entry :: rest) = configuring? rest := by
  obtain ⟨call, outcome, requests⟩ := entry
  cases call with
  | configure width height => cases h
  | render | renderInto | teardown => rfl

/-- What is noted after the first call to configure is added to it. -/
theorem configuring?_append (earlier later : Journal) :
    configuring? (earlier ++ later) =
      match configuring? earlier with
      | some first => some { first with later := first.later ++ later }
      | none => configuring? later := by
  induction earlier with
  | nil => rfl
  | cons entry rest ih =>
    cases hentry : entry.isConfigure with
    | false =>
      rw [List.cons_append, configuring?_cons_of_not_isConfigure hentry,
        configuring?_cons_of_not_isConfigure hentry, ih]
    | true =>
      obtain ⟨call, outcome, requests⟩ := entry
      cases call with
      | configure width height => rfl
      | render | renderInto | teardown => cases hentry

theorem configuring?_eq_none_iff {journal : Journal} :
    configuring? journal = none ↔ ∀ entry ∈ journal, entry.isConfigure = false := by
  induction journal with
  | nil => simp [configuring?]
  | cons entry rest ih =>
    cases hentry : entry.isConfigure with
    | false => simp [configuring?_cons_of_not_isConfigure hentry, hentry, ih]
    | true =>
      obtain ⟨call, outcome, requests⟩ := entry
      cases call with
      | configure width height => simp [configuring?, hentry]
      | render | renderInto | teardown => cases hentry

theorem requests_append_singleton (journal : Journal) (entry : Entry) :
    requests (journal ++ [entry]) = requests journal ++ entry.requests := by
  simp [requests]

theorem tornDown_append_singleton (journal : Journal) (entry : Entry) :
    tornDown (journal ++ [entry]) = (tornDown journal || entry.isTeardown) := by
  simp [tornDown]

theorem tornDown_eq_true_iff {journal : Journal} :
    tornDown journal = true ↔ ∃ entry ∈ journal, entry.isTeardown = true := by
  simp [tornDown]

theorem tornDown_eq_false_iff {journal : Journal} :
    tornDown journal = false ↔ ∀ entry ∈ journal, entry.isTeardown = false := by
  simp [tornDown]

/-- The frame drawn last is that of the last call, if that drew one. -/
theorem lastDrawnAt?_append_singleton (journal : Journal) (entry : Entry) :
    lastDrawnAt? (journal ++ [entry]) = entry.drawnAt?.or (lastDrawnAt? journal) := by
  unfold lastDrawnAt?
  rw [List.filterMap_append, List.getLast?_append]
  cases hdrawn : entry.drawnAt? with
  | none => simp [hdrawn]
  | some seconds => simp [hdrawn]

theorem lastDrawnAt?_eq_none_iff {journal : Journal} :
    lastDrawnAt? journal = none ↔ ∀ entry ∈ journal, entry.drawnAt? = none := by
  simp [lastDrawnAt?]

theorem lastDrawnAt?_ne_none_iff {journal : Journal} :
    lastDrawnAt? journal ≠ none ↔ ∃ entry ∈ journal, ∃ seconds, entry.drawnAt? = some seconds := by
  rw [ne_eq, lastDrawnAt?_eq_none_iff]
  simp [Option.ne_none_iff_exists']

end Journal

end FrameTransition.Render
