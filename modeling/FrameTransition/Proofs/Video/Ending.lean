import FrameTransition.Proofs.Video.Probing
import FrameTransition.Proofs.Video.ReadAhead

/-!
# Streams that end

A frame that has bytes leaves fewer of them, and one that no buffer can hold ends the stream. So `budget`, which
counts what is left to read, to send and to receive, falls with every action but the one by which a caller is told
of the end (`budget_of_step`). A reader is out of its loop after so many actions, and a caller that waits is
answered whichever of the possible actions comes next (`returns`).

A frame without pixels leaves everything, and nothing keeps such a stream from being probed and opened. It is
handed out without end, and no other stream is (`ends_iff`).
-/

namespace FrameTransition.Video

/-! ## Calls -/

namespace Decoder

variable {decoder : Decoder} {info : Info} {bytes : List UInt8} {exit : Exit}

theorem length_pending_le (decoder : Decoder) :
    decoder.pending.length ≤ decoder.output.flatten.length + 1 := by
  have hframes : (framesFrom decoder.info decoder.index decoder.output.flatten).length ≤
      decoder.output.flatten.length := by
    rw [framesFrom, List.length_map, List.length_range]
    apply Nat.div_le_self
  have hreport : (reportOf decoder.exit).length ≤ 1 := by
    unfold reportOf
    split <;> simp
  unfold pending
  split
  · exact Nat.zero_le _
  · rw [List.length_append, List.length_map]
    omega

/-- One call for each byte, one for the report and one for the end are enough. -/
theorem end_mem_take (hlength : 0 < decoder.frameLength) (hopened : decoder.Opened info bytes exit) :
    .ok none ∈ decoder.take (bytes.length + 2) := by
  rw [take_eq_pending hlength, List.mem_map, ← hopened.flatten_eq]
  refine ⟨decoder.output.flatten.length + 1, List.mem_range.mpr (Nat.lt_succ_self _), ?_⟩
  rw [List.getElem?_eq_none (length_pending_le decoder), Option.getD_none]

/-- Where frames have no bytes there is always another. -/
theorem exists_frame_of_mem_take (hlength : decoder.frameLength = 0) {calls : Nat} {answer : Answer}
    (h : answer ∈ decoder.take calls) : ∃ frame, answer = .ok (some frame) := by
  induction calls generalizing decoder with
  | zero => cases h
  | succ calls ih =>
    obtain ⟨output, -, hnext⟩ := @next_of_le decoder (hlength ▸ Nat.zero_le _) (hlength ▸ Nat.zero_le _)
    rw [take] at h
    rcases List.mem_cons.mp h with rfl | h
    · exact ⟨_, congrArg Prod.fst hnext⟩
    · exact ih (frameLength_next decoder ▸ hlength) h

end Decoder

/-! ## What is left to do -/

/-- What a reader has yet to do when there is nothing left to read. -/
def Reader.remaining : Reader → Nat
  | .reading => 4
  | .sending _ => 6
  | .waiting => 3
  | .reporting => 2
  | .gone => 0

namespace ReadAhead

variable {s t : ReadAhead} {decoder : Decoder} {info : Info} {bytes : List UInt8} {exit : Exit} {n : Nat}

/-- A bound on the actions until the caller is told of the end. A frame is read, sent and received. -/
def budget (s : ReadAhead) : Nat :=
  3 * s.output.flatten.length + s.reader.remaining + s.channel.queue.length + (!s.channel.abandoned).toNat

theorem budget_of_step (hlength : s.frameLength ≠ 0) (hstep : Step s t) :
    t.budget < s.budget ∨ t.answers = s.answers ++ [.ok none] := by
  unfold budget
  cases hstep with
  | read hreader hbuffer htaken =>
    obtain ⟨hdata, hrest⟩ := Pieces.flatten_take? htaken
    left
    rw [hreader, ← hrest, List.length_append]
    dsimp only [Reader.remaining]
    omega
  | runOut hreader | giveUp hreader | turnAway hreader | complain hreader | finish hreader
  | keepQuiet hreader =>
    left
    rw [hreader]
    dsimp only [Reader.remaining, Channel.finish]
    omega
  | send hreader hsent | report hreader hsent =>
    obtain ⟨-, -, rfl⟩ := Channel.send_eq_accepted_iff.mp hsent
    left
    rw [hreader]
    dsimp only [Reader.remaining, Channel.finish]
    rw [List.length_append, List.length_singleton]
    omega
  | receive hcaller hreceived =>
    obtain ⟨rest, hqueue, rfl⟩ := Channel.receive_eq_received_iff.mp hreceived
    left
    dsimp only
    rw [hqueue, List.length_cons]
    omega
  | receiveEnd => exact .inr rfl
  | drop hcaller =>
    left
    rw [hcaller]
    dsimp only [Channel.abandon, List.length_nil, Bool.not, Bool.toNat, cond]
    omega

/-- So many actions were taken. -/
inductive Run (s : ReadAhead) : Nat → ReadAhead → Prop where
  | refl : Run s 0 s
  | tail {n : Nat} {t u : ReadAhead} : Run s n t → Step t u → Run s (n + 1) u

theorem Run.steps (hrun : Run s n t) : Steps s t := by
  induction hrun with
  | refl => exact .refl s
  | tail _ hlast ih => exact .tail ih hlast

theorem frameLength_of_steps (hsteps : Steps (start decoder) s) : s.frameLength = decoder.frameLength := by
  rw [frameLength, (reached_of_steps hsteps).info_eq, Decoder.frameLength]

/-- A caller is told of the end by a reader that is gone. -/
theorem gone_of_step (hs : Reached decoder s) (hstep : Step s t)
    (hgone : .ok none ∈ s.answers → s.reader = .gone) (h : .ok none ∈ t.answers) : t.reader = .gone := by
  cases hstep with
  | read hreader | runOut hreader | send hreader | turnAway hreader | complain hreader =>
    cases hreader.symm.trans (hgone h)
  | giveUp | finish | report | keepQuiet => rfl
  | drop => exact hgone h
  | @receive item channel =>
    rcases List.mem_append.mp h with h | h
    · exact hgone h
    · cases item <;> cases List.mem_singleton.mp h
  | receiveEnd hcaller hreceived => exact hs.ended_iff.mp (Channel.receive_eq_over_iff.mp hreceived).2

theorem gone_of_steps (hsteps : Steps (start decoder) s) (h : .ok none ∈ s.answers) : s.reader = .gone := by
  induction hsteps with
  | refl => cases h
  | tail hbefore hlast ih => exact gone_of_step (reached_of_steps hbefore) hlast ih h

/-- In its loop a reader has used up one unit with every action, its own and the caller's. -/
theorem budget_of_run (hlength : decoder.frameLength ≠ 0) (hrun : Run (start decoder) n s)
    (hloop : s.reader.isInLoop = true) : n + s.budget ≤ (start decoder).budget := by
  induction hrun with
  | refl => exact (Nat.zero_add _).le
  | @tail n t u hrun hlast ih =>
    have hsteps := hrun.steps
    have hbefore : t.reader.isInLoop = true := by
      by_contra hout
      cases hloop.symm.trans (isInLoop_of_step hlast (Bool.eq_false_iff.mpr hout))
    have hle := ih hbefore
    rcases budget_of_step (frameLength_of_steps hsteps ▸ hlength) hlast with hlt | hanswers
    · omega
    · have hreader := (over_of_step (reached_of_steps hsteps) hlast hanswers).2.1
      rw [hreader] at hbefore
      cases hbefore

theorem isInLoop_of_run (hlength : decoder.frameLength ≠ 0) (hrun : Run (start decoder) n s)
    (hmany : 3 * decoder.output.flatten.length + 1 < n) : s.reader.isInLoop = false := by
  cases hloop : s.reader.isInLoop with
  | false => rfl
  | true =>
    have hle := budget_of_run hlength hrun hloop
    have hstart : (start decoder).budget = 3 * decoder.output.flatten.length + 4 + 0 + 1 := rfl
    have hremaining : 4 ≤ s.reader.remaining := by
      cases hreader : s.reader with
      | reading | sending => simp [Reader.remaining]
      | waiting | reporting | gone =>
        rw [hreader] at hloop
        cases hloop
    have hbudget : s.reader.remaining ≤ s.budget := by
      unfold budget
      omega
    omega

/-! ## Calls that return -/

theorem Steps.exists_head (hsteps : Steps s t) : t = s ∨ ∃ u, Step s u ∧ Steps u t := by
  induction hsteps with
  | refl => exact .inl rfl
  | @tail t u _ hlast ih =>
    rcases ih with rfl | ⟨v, hfirst, hlater⟩
    · exact .inr ⟨u, hlast, .refl u⟩
    · exact .inr ⟨v, hfirst, .tail hlater hlast⟩

/-- While a caller waits some action is possible. -/
theorem exists_action (hs : Reached decoder s) (hcaller : s.channel.abandoned = false) :
    ∃ t, Step s t ∧ t.channel.abandoned = false := by
  obtain ⟨t, answer, hsteps, hanswers⟩ := answered hs hcaller
  rcases hsteps.exists_head with rfl | ⟨u, hstep, hlater⟩
  · simp at hanswers
  · refine ⟨u, hstep, Bool.eq_false_iff.mpr fun hgone => ?_⟩
    -- A caller that left would have had no answer.
    have hsame := (silent_of_steps (reached_of_step hs hstep) hgone hlater).2.2
    rw [hsame, answers_of_step hstep hgone] at hanswers
    simp at hanswers

theorem exists_step_of_isInLoop (hs : Reached decoder s) (hloop : s.reader.isInLoop = true) :
    ∃ t, Step s t := by
  cases hgone : s.channel.abandoned with
  | false =>
    obtain ⟨t, hstep, -⟩ := exists_action hs hgone
    exact ⟨t, hstep⟩
  | true =>
    cases hreader : s.reader with
    | reading =>
      rcases Nat.lt_or_ge Pixels.largestBuffer s.frameLength with hunbuffered | hbuffer
      · exact ⟨_, .giveUp hreader hunbuffered⟩
      cases htaken : s.output.take? s.frameLength with
      | none => exact ⟨_, .runOut hreader hbuffer htaken⟩
      | some taken => exact ⟨_, .read hreader hbuffer htaken⟩
    | sending data => exact (leaves_of_sending hgone hreader).1
    | waiting | reporting | gone =>
      rw [hreader] at hloop
      cases hloop

/-- A caller that waits gets an answer: an action is possible, and so it goes on after each that may be next and
is not the answer. -/
inductive Returns : ReadAhead → Prop where
  | intro {s : ReadAhead} (possible : ∃ t, Step s t ∧ t.channel.abandoned = false)
      (next : ∀ t, Step s t → t.channel.abandoned = false → t.answers = s.answers → Returns t) : Returns s

theorem returns (hlength : decoder.frameLength ≠ 0) (hsteps : Steps (start decoder) s)
    (hcaller : s.channel.abandoned = false) : s.Returns := by
  induction hbudget : s.budget using Nat.strongRecOn generalizing s with
  | ind budget ih =>
    refine .intro (exists_action (reached_of_steps hsteps) hcaller) ?_
    intro t hstep ht hsame
    rcases budget_of_step (frameLength_of_steps hsteps ▸ hlength) hstep with hlt | hanswers
    · exact ih t.budget (hbudget ▸ hlt) (.tail hsteps hstep) ht rfl
    · rw [hsame] at hanswers
      simp at hanswers

/-! ## Streams with an end and without -/

/-- A stream of so many bytes has an end. -/
structure Ends (bytes : List UInt8) (decoder : Decoder) : Prop where
  /-- A decoder that reads when it is asked comes to it, -/
  mem_take : .ok none ∈ decoder.take (bytes.length + 2)
  /-- and so does one that reads ahead, whose reader is gone then. -/
  told : ∀ s, Steps (start decoder) s → bytes.length + 2 ≤ s.answers.length →
    .ok none ∈ s.answers.take (bytes.length + 2) ∧ s.reader = .gone
  /-- No call waits forever. -/
  returns : ∀ s, Steps (start decoder) s → s.channel.abandoned = false → s.Returns
  /-- With a caller or without, a reader leaves its loop in time. -/
  leaves : ∀ n s, Run (start decoder) n s → 3 * bytes.length + 1 < n → s.reader.isInLoop = false
  /-- It does not get stuck in there. -/
  possible : ∀ s, Steps (start decoder) s → s.reader.isInLoop = true → ∃ t, Step s t

/-- A stream has frames forever. -/
structure Endless (decoder : Decoder) : Prop where
  mem_take : ∀ calls, ∀ answer ∈ decoder.take calls, ∃ frame, answer = .ok (some frame)
  answers : ∀ s, Steps (start decoder) s → ∀ answer ∈ s.answers, ∃ frame, answer = .ok (some frame)
  /-- A reader stays in its loop as long as there is a caller. -/
  stays : ∀ s, Steps (start decoder) s → s.channel.abandoned = false → s.reader.isInLoop = true

theorem ends_of_frameLength (hlength : decoder.frameLength ≠ 0) (hopened : decoder.Opened info bytes exit) :
    Ends bytes decoder := by
  have hmem := Decoder.end_mem_take (Nat.pos_of_ne_zero hlength) hopened
  exact {
    mem_take := hmem
    told := by
      intro s hsteps hcalls
      obtain ⟨more, hmore⟩ := Nat.exists_eq_add_of_le hcalls
      have htake : s.answers.take (bytes.length + 2) = decoder.take (bytes.length + 2) := by
        rw [(reached_of_steps hsteps).answers_eq, hmore, Decoder.take_take]
      refine ⟨htake ▸ hmem, gone_of_steps hsteps ?_⟩
      exact List.mem_of_mem_take (htake ▸ hmem)
    returns := fun _ => returns hlength
    leaves := by
      intro n s hrun hmany
      apply isInLoop_of_run hlength hrun
      rwa [hopened.flatten_eq]
    possible := fun _ hsteps => exists_step_of_isInLoop (reached_of_steps hsteps) }

theorem endless_of_frameLength (hlength : decoder.frameLength = 0) : Endless decoder where
  mem_take _ _ := Decoder.exists_frame_of_mem_take hlength
  answers s hsteps answer h := by
    rw [(reached_of_steps hsteps).answers_eq] at h
    exact Decoder.exists_frame_of_mem_take hlength h
  stays s hsteps hcaller := by
    have hplaced := ((reached_of_steps hsteps).attended hcaller).placed
    have hzero : s.frameLength = 0 := (frameLength_of_steps hsteps).trans hlength
    -- A frame without bytes always has a buffer, and there are always enough for it.
    have hranOut : ¬ s.RanOut := fun hshort => Nat.not_lt_zero _ (hzero ▸ hshort.2)
    cases hreader : s.reader with
    | reading | sending => rfl
    | waiting =>
      rw [Placed, hreader] at hplaced
      exact absurd hplaced hranOut
    | reporting =>
      rw [Placed, hreader] at hplaced
      exact absurd hplaced.1 hranOut
    | gone =>
      rw [Placed, hreader] at hplaced
      rcases hplaced with hunbuffered | hshort
      · exact absurd (hzero ▸ hunbuffered) (Nat.not_lt_zero _)
      · exact absurd hshort.1 hranOut

/-- A stream that was probed and opened ends if its frames have pixels, and goes on forever if not. -/
theorem ends_iff {text : List Char} (hparse : parseProbe text = .ok info)
    (hopened : decoder.Opened info bytes exit) :
    (Ends bytes decoder ↔ 0 < info.width ∧ 0 < info.height) ∧
      (¬ (0 < info.width ∧ 0 < info.height) → Endless decoder) ∧
      (0 < info.width → 0 < info.height → Frame.byteLength info.width info.height % 2 ^ 64 ≠ 0) := by
  have hframe : decoder.frameLength = Frame.wordLength info.width info.height := by
    rw [Decoder.frameLength, hopened.info_eq]
  have hendless : ¬ (0 < info.width ∧ 0 < info.height) → Endless decoder := by
    intro hno
    apply endless_of_frameLength
    rw [hframe, Frame.wordLength_eq]
    rcases not_and_or.mp hno with hwidth | hheight
    · rw [Nat.eq_zero_of_not_pos hwidth, Nat.mul_zero, Nat.zero_mul, Nat.zero_mod]
    · rw [Nat.eq_zero_of_not_pos hheight, Nat.mul_zero, Nat.zero_mod]
  have hpixels : 0 < info.width → 0 < info.height → Frame.wordLength info.width info.height ≠ 0 := by
    intro hwidth hheight
    obtain ⟨hle, hle'⟩ := le_of_parseProbe hparse
    exact Frame.wordLength_ne_zero hwidth hheight (Nat.lt_of_le_of_lt hle (by decide))
      (Nat.lt_of_le_of_lt hle' (by decide))
  refine ⟨⟨fun hends => ?_, fun hpos => ?_⟩, hendless, fun hwidth hheight => ?_⟩
  · by_contra hno
    obtain ⟨frame, hframe⟩ := (hendless hno).mem_take _ _ hends.mem_take
    cases hframe
  · exact ends_of_frameLength (hframe ▸ hpixels hpos.1 hpos.2) hopened
  · rw [Frame.byteLength_eq, ← Frame.wordLength_eq]
    exact hpixels hwidth hheight

/-- A pixel, a byte too many, and a bad end. -/
theorem ends_iff_one_pixel :
    let info : Info := ⟨1, 1, ⟨30000, 1001⟩, none⟩
    let decoder : Decoder := ⟨info, 0, [[1, 2], [3, 4]], .status 3⟩
    parseProbe "width=1\nheight=1\nr_frame_rate=30000/1001\n".toList = .ok info ∧
      decoder.Opened info [1, 2, 3, 4] (.status 3) ∧ Ends [1, 2, 3, 4] decoder := by
  have hparse : parseProbe "width=1\nheight=1\nr_frame_rate=30000/1001\n".toList =
      .ok ⟨1, 1, ⟨30000, 1001⟩, none⟩ := by decide +kernel
  have hopened : Decoder.Opened ⟨1, 1, ⟨30000, 1001⟩, none⟩ [1, 2, 3, 4] (.status 3)
      ⟨⟨1, 1, ⟨30000, 1001⟩, none⟩, 0, [[1, 2], [3, 4]], .status 3⟩ := ⟨rfl, rfl, rfl, rfl⟩
  exact ⟨hparse, hopened, (ends_iff hparse hopened).1.mpr ⟨Nat.one_pos, Nat.one_pos⟩⟩

/-- Of a program that writes nothing and ends well, frames of no width are handed out without end. -/
theorem not_ends_no_width :
    let info : Info := ⟨0, 4, ⟨25, 1⟩, none⟩
    let decoder : Decoder := ⟨info, 0, [], .success⟩
    parseProbe "width=0\nheight=4\nr_frame_rate=25/1\n".toList = .ok info ∧
      decoder.Opened info [] .success ∧ .ok none ∉ decoder.take 2 ∧ ¬ Ends [] decoder ∧ Endless decoder := by
  have hendless : Endless ⟨⟨0, 4, ⟨25, 1⟩, none⟩, 0, [], .success⟩ := endless_of_frameLength rfl
  have hnotMem : .ok none ∉ Decoder.take 2 ⟨⟨0, 4, ⟨25, 1⟩, none⟩, 0, [], .success⟩ := by
    intro hmem
    obtain ⟨frame, hframe⟩ := hendless.mem_take 2 _ hmem
    cases hframe
  exact ⟨by decide +kernel, ⟨rfl, rfl, rfl, rfl⟩, hnotMem, fun hends => hnotMem hends.mem_take, hendless⟩

end ReadAhead

end FrameTransition.Video
