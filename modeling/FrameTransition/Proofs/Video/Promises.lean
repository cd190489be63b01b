import FrameTransition.Proofs.Video.Decoding
import FrameTransition.Video.ReadAhead

/-!
# What a decoder that reads ahead has promised

What the caller got or has waiting in the channel is promised to it, and `behind` is the decoder that
goes on after that: it reads what the reader holds or has not read. An action then either changes neither
or is one call of that decoder (`promised_of_step`), so going on from any state is going on from the start
(`Sequel`). Which of the two an action is needs to know where the reader is: out of its loop too little is
left for a frame, and a reader that is gone has nothing to report or had no buffer (`Placed`).

Two laws of conservation go with it. No byte of the stream is lost (`Whole`), and how the program ended is
forgotten only once it was reported (`exit_of_step`).
-/

namespace FrameTransition.Video

/-! ## The frames among answers -/

/-- The frames among answers. -/
def framesOf (answers : List Answer) : List Frame :=
  answers.filterMap fun answer => answer.toOption.join

theorem framesOf_cons_frame (frame : Frame) (answers : List Answer) :
    framesOf (.ok (some frame) :: answers) = frame :: framesOf answers :=
  rfl

theorem mem_framesOf {answers : List Answer} {frame : Frame} (h : .ok (some frame) ∈ answers) :
    frame ∈ framesOf answers :=
  List.mem_filterMap.mpr ⟨.ok (some frame), h, rfl⟩

theorem framesOf_append (answers more : List Answer) :
    framesOf (answers ++ more) = framesOf answers ++ framesOf more :=
  List.filterMap_append

theorem data_framesOf_answer (info : Info) (index : Nat) (item : Item) :
    (framesOf [item.answer info index]).map (·.data) = [item].filterMap Except.toOption := by
  cases item with
  | error error => rfl
  | ok data => rfl

/-! ## Decoders that differ in the cut of their output -/

namespace Decoder

/-- Two decoders with the same to come. -/
structure Same (decoder other : Decoder) : Prop where
  info_eq : decoder.info = other.info
  index_eq : decoder.index = other.index
  flatten_eq : decoder.output.flatten = other.output.flatten
  exit_eq : decoder.exit = other.exit

variable {decoder other : Decoder}

theorem next_congr (h : Same decoder other) :
    decoder.next.1 = other.next.1 ∧ Same decoder.next.2 other.next.2 := by
  obtain ⟨info, index, output, exit⟩ := decoder
  obtain ⟨info', index', output', exit'⟩ := other
  obtain ⟨hinfo, hindex, hflatten, hexit⟩ := h
  cases hinfo
  cases hindex
  cases hexit
  dsimp only at hflatten
  rcases Nat.lt_or_ge Pixels.largestBuffer (frameLength ⟨info, index, output, exit⟩) with hunbuffered | hbuffer
  · rw [next_of_unbuffered hunbuffered, @next_of_unbuffered ⟨info, index, output', exit⟩ hunbuffered]
    exact ⟨rfl, rfl, rfl, hflatten, rfl⟩
  rcases Nat.lt_or_ge output.flatten.length (frameLength ⟨info, index, output, exit⟩) with hlt | hle
  · rw [next_of_lt hbuffer hlt, @next_of_lt ⟨info, index, output', exit⟩ hbuffer (hflatten ▸ hlt)]
    dsimp only
    split
    · exact ⟨rfl, rfl, rfl, hflatten, rfl⟩
    · exact ⟨rfl, rfl, rfl, hflatten, rfl⟩
  · obtain ⟨rest, hrest, hnext⟩ := next_of_le hbuffer hle
    obtain ⟨rest', hrest', hnext'⟩ :=
      @next_of_le ⟨info, index, output', exit⟩ hbuffer (hflatten ▸ hle)
    rw [hnext, hnext']
    dsimp only at hrest hrest' ⊢
    rw [hflatten] at hrest ⊢
    exact ⟨rfl, rfl, rfl, hrest.trans hrest'.symm, rfl⟩

theorem take_congr (h : Same decoder other) (calls : Nat) : decoder.take calls = other.take calls := by
  induction calls generalizing decoder other with
  | zero => rfl
  | succ calls ih =>
    obtain ⟨hfirst, hothers⟩ := next_congr h
    rw [take, take, hfirst, ih hothers]

/-- Fewer calls give the first of the same results. -/
theorem take_take (decoder : Decoder) (calls more : Nat) :
    (decoder.take (calls + more)).take calls = decoder.take calls := by
  induction calls generalizing decoder with
  | zero => rfl
  | succ calls ih => rw [Nat.succ_add, take, List.take_succ_cons, ih, take]

/-- There is no next frame: no buffer for one, or too few bytes. -/
def LacksFrame (decoder : Decoder) : Prop :=
  Pixels.largestBuffer < decoder.frameLength ∨ decoder.output.flatten.length < decoder.frameLength

/-- A decoder has a next frame, or none ever again. -/
theorem lacksFrame_or_next (decoder : Decoder) : decoder.LacksFrame ∨
    ∃ data output, decoder.next =
      (.ok (some (decoder.info.frame decoder.index data)), { decoder with index := decoder.index + 1, output }) := by
  rcases Nat.lt_or_ge Pixels.largestBuffer decoder.frameLength with hunbuffered | hbuffer
  · exact .inl (.inl hunbuffered)
  rcases Nat.lt_or_ge decoder.output.flatten.length decoder.frameLength with hlt | hle
  · exact .inl (.inr hlt)
  · obtain ⟨output, -, hnext⟩ := next_of_le hbuffer hle
    exact .inr ⟨_, output, hnext⟩

theorem framesOf_take_of_lacksFrame (h : decoder.LacksFrame) (calls : Nat) :
    framesOf (decoder.take calls) = [] := by
  induction calls generalizing decoder with
  | zero => rfl
  | succ calls ih =>
    rw [take]
    rcases Nat.lt_or_ge Pixels.largestBuffer decoder.frameLength with hunbuffered | hbuffer
    · rw [next_of_unbuffered hunbuffered]
      exact ih h
    · rw [next_of_lt hbuffer (h.resolve_left (Nat.not_lt_of_le hbuffer))]
      cases decoder.exit.isSuccess with
      | true => exact ih h
      | false => exact ih h

/-- The frames among the results are numbered from the index on. -/
theorem timestamp_of_take {calls k : Nat} {frame : Frame}
    (h : (framesOf (decoder.take calls))[k]? = some frame) :
    frame.timestamp = some (decoder.info.timestamp (decoder.index + k : Nat)) := by
  induction calls generalizing decoder k with
  | zero => cases h
  | succ calls ih =>
    rcases decoder.lacksFrame_or_next with hlacks | ⟨data, output, hnext⟩
    · rw [framesOf_take_of_lacksFrame hlacks] at h
      cases h
    · rw [take, hnext, framesOf_cons_frame] at h
      cases k with
      | zero =>
        cases h
        rfl
      | succ k =>
        have hlater := ih h
        rwa [Nat.add_assoc, Nat.add_comm 1 k] at hlater

end Decoder

namespace ReadAhead

/-! ## Promises -/

/-- The answers that items become. -/
def answersTo (info : Info) : Nat → List Item → List Answer
  | _, [] => []
  | index, item :: items => item.answer info index :: answersTo info (item.indexAfter index) items

/-- The index after items. -/
def indexBehind : Nat → List Item → Nat
  | index, [] => index
  | index, item :: items => indexBehind (item.indexAfter index) items

theorem answersTo_append_singleton (info : Info) (index : Nat) (items : List Item) (item : Item) :
    answersTo info index (items ++ [item]) =
      answersTo info index items ++ [item.answer info (indexBehind index items)] := by
  induction items generalizing index with
  | nil => rfl
  | cons first items ih => rw [List.cons_append, answersTo, ih, answersTo, indexBehind, List.cons_append]

theorem indexBehind_append_singleton (index : Nat) (items : List Item) (item : Item) :
    indexBehind index (items ++ [item]) = item.indexAfter (indexBehind index items) := by
  induction items generalizing index with
  | nil => rfl
  | cons first items ih => rw [List.cons_append, indexBehind, ih, indexBehind]

/-- The frame a reader holds. -/
def held : Reader → Pieces
  | .sending data => [data]
  | _ => []

/-- What the caller got, and what it gets of what is in the channel. -/
def promised (s : ReadAhead) : List Answer :=
  s.answers ++ answersTo s.info s.index s.channel.queue

/-- The decoder that goes on after what is promised. -/
def behind (s : ReadAhead) : Decoder :=
  ⟨s.info, indexBehind s.index s.channel.queue, held s.reader ++ s.output, s.exit⟩

/-- A buffer can hold a frame, but too little is left for one. -/
def RanOut (s : ReadAhead) : Prop :=
  s.frameLength ≤ Pixels.largestBuffer ∧ s.output.flatten.length < s.frameLength

/-- What is known of a reader by where it is, while there is a caller. -/
def Placed (s : ReadAhead) : Prop :=
  match s.reader with
  | .reading => True
  | .sending data => s.frameLength ≤ Pixels.largestBuffer ∧ data.length = s.frameLength
  | .waiting => s.RanOut
  | .reporting => s.RanOut ∧ s.exit.isSuccess = false
  | .gone => Pixels.largestBuffer < s.frameLength ∨ s.RanOut ∧ s.exit.isSuccess = true

variable {s t : ReadAhead}

/-- A caller that is gone stays gone. -/
theorem here_of_step (hstep : Step s t) (ht : t.channel.abandoned = false) :
    s.channel.abandoned = false := by
  cases hstep with
  | read | runOut | giveUp | turnAway | finish | complain | keepQuiet => exact ht
  | send _ hsent | report _ hsent => exact (Channel.send_eq_accepted_iff.mp hsent).1
  | receive hcaller | receiveEnd hcaller | drop hcaller => exact hcaller

theorem placed_of_step (hstep : Step s t) (ht : t.channel.abandoned = false) (hs : s.Placed) :
    t.Placed := by
  cases hstep with
  | read hreader hbuffer htaken => exact ⟨hbuffer, (Pieces.flatten_take? htaken).1⟩
  | runOut hreader hbuffer htaken => exact ⟨hbuffer, Pieces.take?_eq_none_iff.mp htaken⟩
  | giveUp hreader hbuffer => exact .inl hbuffer
  | send => trivial
  | turnAway hreader hsent | keepQuiet hreader hsent =>
    cases (Channel.send_eq_refused_iff.mp hsent).symm.trans ht
  | finish hreader hexit =>
    rw [Placed, hreader] at hs
    exact .inr ⟨hs, hexit⟩
  | complain hreader hexit =>
    rw [Placed, hreader] at hs
    exact ⟨hs, hexit⟩
  | report hreader hsent =>
    rw [Placed, hreader] at hs
    exact .inr ⟨hs.1, rfl⟩
  | receive | receiveEnd => exact hs
  | drop => cases ht

/-- The frame a reader holds is the next of the decoder behind. -/
theorem next_behind_of_sending {data : List UInt8} (hreader : s.reader = .sending data)
    (hbuffer : s.frameLength ≤ Pixels.largestBuffer) (hlength : data.length = s.frameLength) :
    s.behind.next.1 = .ok (some (s.info.frame (indexBehind s.index s.channel.queue) data)) ∧
      Decoder.Same ⟨s.info, indexBehind s.index s.channel.queue + 1, s.output, s.exit⟩
        s.behind.next.2 := by
  have hframe : s.behind.frameLength = data.length := hlength.symm
  have hflatten : s.behind.output.flatten = data ++ s.output.flatten := by
    simp [behind, hreader, held]
  obtain ⟨output, hrest, hnext⟩ := @Decoder.next_of_le s.behind hbuffer (by
    rw [hframe, hflatten, List.length_append]
    exact Nat.le_add_right _ _)
  rw [hframe, hflatten, List.drop_left] at hrest
  rw [hframe, hflatten, List.take_left] at hnext
  rw [hnext]
  exact ⟨rfl, rfl, rfl, hrest.symm, rfl⟩

/-- Where too little is left the decoder behind is at the end. -/
theorem next_behind_of_ranOut (hheld : held s.reader = []) (hshort : s.RanOut) :
    s.behind.next = if s.exit.isSuccess then (.ok none, s.behind)
      else (.error (.decoderEnded s.exit), { s.behind with exit := .success }) := by
  refine @Decoder.next_of_lt s.behind hshort.1 ?_
  rw [behind, hheld]
  exact hshort.2

/-- An action is nothing to the promises, or it is one call of the decoder behind them. -/
theorem promised_of_step (hstep : Step s t) (ht : t.channel.abandoned = false) (hs : s.Placed)
    (hended : s.channel.ended = true → s.reader = .gone) :
    (t.promised = s.promised ∧ t.behind.Same s.behind) ∨
      (t.promised = s.promised ++ [s.behind.next.1] ∧ t.behind.Same s.behind.next.2) := by
  cases hstep with
  | read hreader hbuffer htaken =>
    refine .inl ⟨rfl, rfl, rfl, ?_, rfl⟩
    simp [behind, hreader, held, (Pieces.flatten_take? htaken).2]
  | runOut hreader | giveUp hreader | finish hreader | complain hreader =>
    refine .inl ⟨rfl, rfl, rfl, ?_, rfl⟩
    simp [behind, hreader, held]
  | send hreader hsent =>
    obtain ⟨-, -, rfl⟩ := Channel.send_eq_accepted_iff.mp hsent
    rw [Placed, hreader] at hs
    obtain ⟨hfirst, hothers⟩ := next_behind_of_sending hreader hs.1 hs.2
    refine .inr ⟨?_, ?_⟩
    · rw [hfirst, promised, promised, answersTo_append_singleton, List.append_assoc]
      rfl
    · rw [behind, indexBehind_append_singleton]
      exact hothers
  | report hreader hsent =>
    obtain ⟨-, -, rfl⟩ := Channel.send_eq_accepted_iff.mp hsent
    rw [Placed, hreader] at hs
    rw [next_behind_of_ranOut (by rw [hreader]; rfl) hs.1, if_neg (Bool.eq_false_iff.mp hs.2)]
    refine .inr ⟨?_, rfl, ?_, ?_, rfl⟩
    · rw [promised, promised, Channel.finish, answersTo_append_singleton, List.append_assoc]
      rfl
    · exact indexBehind_append_singleton _ _ _
    · simp [behind, hreader, held]
  | receive hcaller hreceived =>
    obtain ⟨rest, hqueue, rfl⟩ := Channel.receive_eq_received_iff.mp hreceived
    refine .inl ⟨?_, rfl, ?_, rfl, rfl⟩
    · rw [promised, promised, hqueue, answersTo, List.append_assoc]
      rfl
    · rw [behind, behind, hqueue, indexBehind]
  | receiveEnd hcaller hreceived =>
    obtain ⟨hqueue, hover⟩ := Channel.receive_eq_over_iff.mp hreceived
    have hreader := hended hover
    rw [Placed, hreader] at hs
    have hnext : s.behind.next = (.ok none, s.behind) := by
      rcases hs with hbuffer | ⟨hshort, hexit⟩
      · exact Decoder.next_of_unbuffered hbuffer
      · rw [next_behind_of_ranOut (by rw [hreader]; rfl) hshort, if_pos hexit]
    rw [hnext]
    refine .inr ⟨?_, rfl, rfl, rfl, rfl⟩
    rw [promised, promised, hqueue, answersTo, List.append_nil, List.append_nil]
  | turnAway hreader hsent | keepQuiet hreader hsent =>
    cases (Channel.send_eq_refused_iff.mp hsent).symm.trans ht
  | drop => cases ht

/-- Going on from what is promised is going on from the start. -/
def Sequel (decoder : Decoder) (s : ReadAhead) : Prop :=
  ∀ calls : Nat, decoder.take (s.promised.length + calls) = s.promised ++ s.behind.take calls

theorem sequel_of_step {decoder : Decoder} (hstep : Step s t) (ht : t.channel.abandoned = false)
    (hplaced : s.Placed) (hended : s.channel.ended = true → s.reader = .gone)
    (hs : s.Sequel decoder) : t.Sequel decoder := by
  intro calls
  rcases promised_of_step hstep ht hplaced hended with ⟨hpromised, hbehind⟩ | ⟨hpromised, hbehind⟩
  · rw [hpromised, hs calls, Decoder.take_congr hbehind]
  · rw [hpromised, List.length_append, List.length_singleton, Nat.add_assoc, Nat.add_comm 1 calls,
      hs (calls + 1), Decoder.take, Decoder.take_congr hbehind, List.append_assoc, List.singleton_append]

theorem mem_promised_of_step {answer : Answer} (hstep : Step s t) (ht : t.channel.abandoned = false)
    (hplaced : s.Placed) (hended : s.channel.ended = true → s.reader = .gone)
    (h : answer ∈ s.promised) : answer ∈ t.promised := by
  rcases promised_of_step hstep ht hplaced hended with ⟨hpromised, -⟩ | ⟨hpromised, -⟩
  · rwa [hpromised]
  · rw [hpromised]
    exact List.mem_append_left _ h

/-! ## What is conserved -/

/-- How the program ended is forgotten only once the report of it is promised. -/
theorem exit_of_step (hstep : Step s t) (ht : t.channel.abandoned = false) :
    t.exit = s.exit ∨ .error (.decoderEnded s.exit) ∈ t.promised := by
  cases hstep with
  | report hreader hsent =>
    obtain ⟨-, -, rfl⟩ := Channel.send_eq_accepted_iff.mp hsent
    refine .inr (List.mem_append_right _ ?_)
    rw [Channel.finish, answersTo_append_singleton]
    exact List.mem_append_right _ (List.mem_singleton_self _)
  | turnAway hreader hsent => cases (Channel.send_eq_refused_iff.mp hsent).symm.trans ht
  | read | runOut | giveUp | send | finish | complain | keepQuiet | receive | receiveEnd | drop => exact .inl rfl

/-- The frames that were read, from the first the caller got to the one the reader holds. -/
def passed (s : ReadAhead) : List (List UInt8) :=
  (framesOf s.answers).map (·.data) ++ s.channel.queue.filterMap Except.toOption ++ held s.reader

/-- What was read and what was not are together the stream, and what was read is whole frames. -/
structure Whole (bytes : List UInt8) (s : ReadAhead) : Prop where
  flatten_eq : s.passed.flatten ++ s.output.flatten = bytes
  length_eq : ∀ data ∈ s.passed, data.length = s.frameLength

theorem info_of_step (hstep : Step s t) : t.info = s.info := by
  cases hstep <;> rfl

/-- While there is a caller, an action reads one frame or leaves what was read and what was not alone. -/
theorem passed_of_step (hstep : Step s t) (ht : t.channel.abandoned = false) :
    (t.passed = s.passed ∧ t.output = s.output) ∨
      ∃ data, data.length = s.frameLength ∧ t.passed = s.passed ++ [data] ∧
        data ++ t.output.flatten = s.output.flatten := by
  cases hstep with
  | @read data rest hreader hbuffer htaken =>
    obtain ⟨hlength, hrest⟩ := Pieces.flatten_take? htaken
    refine .inr ⟨data, hlength, ?_, hrest⟩
    simp [passed, hreader, held]
  | runOut hreader | giveUp hreader | finish hreader | complain hreader =>
    refine .inl ⟨?_, rfl⟩
    rw [passed, passed, hreader]
    rfl
  | send hreader hsent =>
    obtain ⟨-, -, rfl⟩ := Channel.send_eq_accepted_iff.mp hsent
    refine .inl ⟨?_, rfl⟩
    rw [passed, passed, hreader, List.filterMap_append, ← List.append_assoc]
    exact List.append_nil _
  | report hreader hsent =>
    obtain ⟨-, -, rfl⟩ := Channel.send_eq_accepted_iff.mp hsent
    refine .inl ⟨?_, rfl⟩
    rw [passed, passed, hreader, Channel.finish, List.filterMap_append, List.filterMap_cons_none rfl,
      List.filterMap_nil, List.append_nil]
    rfl
  | receive hcaller hreceived =>
    obtain ⟨rest, hqueue, rfl⟩ := Channel.receive_eq_received_iff.mp hreceived
    refine .inl ⟨?_, rfl⟩
    rw [passed, passed, framesOf_append, List.map_append, data_framesOf_answer, hqueue,
      List.append_assoc (List.map _ _), ← List.filterMap_append, List.singleton_append]
  | receiveEnd =>
    refine .inl ⟨?_, rfl⟩
    rw [passed, passed, framesOf_append, show framesOf [.ok none] = [] from rfl, List.append_nil]
  | turnAway hreader hsent | keepQuiet hreader hsent =>
    cases (Channel.send_eq_refused_iff.mp hsent).symm.trans ht
  | drop => cases ht

/-- No action but the caller's leaving loses a byte of the stream. -/
theorem whole_of_step {bytes : List UInt8} (hstep : Step s t) (ht : t.channel.abandoned = false)
    (hs : s.Whole bytes) : t.Whole bytes := by
  obtain ⟨hflatten, hlength⟩ := hs
  have hframe : t.frameLength = s.frameLength := by rw [frameLength, info_of_step hstep, frameLength]
  rcases passed_of_step hstep ht with ⟨hpassed, houtput⟩ | ⟨data, hdata, hpassed, hrest⟩
  · exact ⟨by rw [hpassed, houtput, hflatten], by rwa [hpassed, hframe]⟩
  · constructor
    · rw [hpassed, List.flatten_append, List.flatten_singleton, List.append_assoc, hrest, hflatten]
    · rw [hpassed, hframe]
      intro other hother
      rcases List.mem_append.mp hother with hother | hother
      · exact hlength other hother
      · rwa [List.mem_singleton.mp hother]

end ReadAhead

end FrameTransition.Video
