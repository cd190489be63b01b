import FrameTransition.Proofs.Video.Promises

/-!
# Reading ahead changes no answer

Whatever the order of the actions, a caller of a decoder that reads ahead gets the answers of a decoder
that reads when it is asked, one for each time it asks. `contract_of_steps` says so of every state that can
be reached, with what the channel holds, what becomes of the bytes of the stream, and what a reader does
whose caller is gone. It is about frames that a buffer can hold; without one the caller is told of the end
where a report is due (`not_contract_unbuffered`).

`Reached` is the invariant. What is promised to a caller is part of it only as long as there is one
(`Attended`); a caller that leaves loses what is queued and keeps its answers.
-/

namespace FrameTransition.Video.ReadAhead

variable {s t : ReadAhead} {decoder : Decoder}

/-- What every action keeps is kept. -/
theorem Steps.preserves {P : ReadAhead → Prop} (hsteps : Steps s t) (hs : P s)
    (hstep : ∀ {t u : ReadAhead}, P t → Step t u → P u) : P t := by
  induction hsteps with
  | refl => exact hs
  | tail _ hlast ih => exact hstep ih hlast

theorem Steps.head {u : ReadAhead} (hstep : Step s t) (hsteps : Steps t u) : Steps s u := by
  induction hsteps with
  | refl => exact .tail (.refl s) hstep
  | tail _ hlast ih => exact .tail ih hlast

/-! ## The channel -/

/-- The channel ends when its reader goes. -/
theorem ended_iff_of_step (hstep : Step s t) (hs : s.channel.ended = true ↔ s.reader = .gone) :
    t.channel.ended = true ↔ t.reader = .gone := by
  cases hstep with
  | read hreader | runOut hreader | complain hreader | turnAway hreader =>
    rw [hreader] at hs
    exact hs.trans ⟨nofun, nofun⟩
  | send hreader hsent =>
    obtain ⟨-, -, rfl⟩ := Channel.send_eq_accepted_iff.mp hsent
    rw [hreader] at hs
    exact hs.trans ⟨nofun, nofun⟩
  | giveUp | finish | report | keepQuiet => exact ⟨fun _ => rfl, fun _ => rfl⟩
  | receive _ hreceived =>
    obtain ⟨rest, -, rfl⟩ := Channel.receive_eq_received_iff.mp hreceived
    exact hs
  | receiveEnd | drop => exact hs

theorem queue_le_of_step (hstep : Step s t) (hs : s.channel.queue.length ≤ capacity) :
    t.channel.queue.length ≤ capacity := by
  cases hstep with
  | send _ hsent | report _ hsent =>
    obtain ⟨-, hroom, rfl⟩ := Channel.send_eq_accepted_iff.mp hsent
    exact List.length_append.trans_le hroom
  | receive _ hreceived =>
    obtain ⟨rest, hqueue, rfl⟩ := Channel.receive_eq_received_iff.mp hreceived
    rw [hqueue] at hs
    exact Nat.le_of_succ_le hs
  | drop => exact Nat.zero_le _
  | read | runOut | giveUp | turnAway | finish | complain | keepQuiet | receiveEnd => exact hs

/-- Nothing is sent to a caller that is gone. -/
theorem queue_eq_of_step (hstep : Step s t)
    (hs : s.channel.abandoned = true → s.channel.queue = []) (ht : t.channel.abandoned = true) :
    t.channel.queue = [] := by
  cases hstep with
  | send _ hsent | report _ hsent =>
    obtain ⟨hcaller, -, rfl⟩ := Channel.send_eq_accepted_iff.mp hsent
    cases hcaller.symm.trans ht
  | receive hcaller hreceived =>
    obtain ⟨rest, -, rfl⟩ := Channel.receive_eq_received_iff.mp hreceived
    cases hcaller.symm.trans ht
  | drop => rfl
  | read | runOut | giveUp | turnAway | finish | complain | keepQuiet | receiveEnd => exact hs ht

/-- No action is the caller's once it is gone. -/
theorem answers_of_step (hstep : Step s t) (ht : t.channel.abandoned = true) : t.answers = s.answers := by
  cases hstep with
  | receive hcaller hreceived =>
    obtain ⟨rest, -, rfl⟩ := Channel.receive_eq_received_iff.mp hreceived
    cases hcaller.symm.trans ht
  | receiveEnd hcaller => cases hcaller.symm.trans ht
  | read | runOut | giveUp | send | turnAway | finish | complain | report | keepQuiet | drop => rfl

theorem abandoned_of_step (hstep : Step s t) (hs : s.channel.abandoned = true) :
    t.channel.abandoned = true := by
  by_contra ht
  cases (here_of_step hstep (Bool.eq_false_iff.mpr ht)).symm.trans hs

/-! ## Every state that can be reached -/

/-- What holds while there is a caller. -/
structure Attended (decoder : Decoder) (s : ReadAhead) : Prop where
  placed : s.Placed
  sequel : s.Sequel decoder
  whole : s.Whole decoder.output.flatten
  reported : s.exit = decoder.exit ∨ .error (.decoderEnded decoder.exit) ∈ s.promised

/-- What always holds. -/
structure Reached (decoder : Decoder) (s : ReadAhead) : Prop where
  info_eq : s.info = decoder.info
  ended_iff : s.channel.ended = true ↔ s.reader = .gone
  queue_le : s.channel.queue.length ≤ capacity
  queue_eq : s.channel.abandoned = true → s.channel.queue = []
  answers_eq : s.answers = decoder.take s.answers.length
  attended : s.channel.abandoned = false → Attended decoder s

theorem attended_of_step (hstep : Step s t) (ht : t.channel.abandoned = false)
    (hended : s.channel.ended = true → s.reader = .gone) (hs : Attended decoder s) :
    Attended decoder t where
  placed := placed_of_step hstep ht hs.placed
  sequel := sequel_of_step hstep ht hs.placed hended hs.sequel
  whole := whole_of_step hstep ht hs.whole
  reported := by
    rcases hs.reported with hexit | hreported
    · exact (exit_of_step hstep ht).imp (·.trans hexit) (hexit ▸ ·)
    · exact .inr (mem_promised_of_step hstep ht hs.placed hended hreported)

/-- What the caller got of what was promised is the first of it. -/
theorem answers_of_sequel (hs : s.Sequel decoder) : s.answers = decoder.take s.answers.length := by
  have hpromised : decoder.take s.promised.length = s.promised := (hs 0).trans (List.append_nil _)
  rw [promised, List.length_append] at hpromised
  rw [← Decoder.take_take decoder s.answers.length, hpromised, List.take_left]

theorem reached_of_step (hs : Reached decoder s) (hstep : Step s t) : Reached decoder t := by
  have hattended : t.channel.abandoned = false → Attended decoder t := fun ht =>
    attended_of_step hstep ht hs.ended_iff.mp (hs.attended (here_of_step hstep ht))
  exact {
    info_eq := (info_of_step hstep).trans hs.info_eq
    ended_iff := ended_iff_of_step hstep hs.ended_iff
    queue_le := queue_le_of_step hstep hs.queue_le
    queue_eq := queue_eq_of_step hstep hs.queue_eq
    answers_eq := by
      cases ht : t.channel.abandoned with
      | true => rw [answers_of_step hstep ht, ← hs.answers_eq]
      | false => exact answers_of_sequel (hattended ht).sequel
    attended := hattended }

theorem reached_start (decoder : Decoder) : Reached decoder (start decoder) where
  info_eq := rfl
  ended_iff := ⟨nofun, nofun⟩
  queue_le := Nat.zero_le _
  queue_eq := nofun
  answers_eq := rfl
  attended _ := {
    placed := trivial
    sequel := fun calls => congrArg (Decoder.take · decoder) (Nat.zero_add calls)
    whole := ⟨rfl, nofun⟩
    reported := .inl rfl }

theorem reached_of_steps (hsteps : Steps (start decoder) s) : Reached decoder s :=
  hsteps.preserves (reached_start decoder) reached_of_step

/-! ## The end of the stream -/

/-- The caller is told of the end only when nothing waits and the reader is gone. If a buffer can hold a frame,
then none is left, and a bad end is reported. -/
theorem over_of_step (hs : Reached decoder s) (hstep : Step s t)
    (hanswers : t.answers = s.answers ++ [.ok none]) :
    s.channel.queue = [] ∧ s.reader = .gone ∧ (s.frameLength ≤ Pixels.largestBuffer →
      s.output.flatten.length < s.frameLength ∧
        (decoder.exit.isSuccess = false → .error (.decoderEnded decoder.exit) ∈ s.answers)) := by
  cases hstep with
  | @receive item channel =>
    have hitem : [item.answer s.info s.index] = [.ok none] := List.append_cancel_left hanswers
    cases item <;> cases hitem
  | receiveEnd hcaller hreceived =>
    obtain ⟨hqueue, hended⟩ := Channel.receive_eq_over_iff.mp hreceived
    have hreader := hs.ended_iff.mp hended
    have hplaced := (hs.attended hcaller).placed
    rw [Placed, hreader] at hplaced
    refine ⟨hqueue, hreader, fun hbuffer => ?_⟩
    obtain ⟨hshort, hsuccess⟩ := hplaced.resolve_left (Nat.not_lt_of_le hbuffer)
    refine ⟨hshort.2, fun hbad => ?_⟩
    rcases (hs.attended hcaller).reported with hexit | hreported
    · cases hbad.symm.trans (hexit ▸ hsuccess)
    · rwa [promised, hqueue, answersTo, List.append_nil] at hreported
  | read | runOut | giveUp | send | turnAway | finish | complain | report | keepQuiet | drop =>
    simp at hanswers

/-! ## Every call is answered -/

/-- An answer can still come. -/
def Answered (s : ReadAhead) : Prop :=
  ∃ t answer, Steps s t ∧ t.answers = s.answers ++ [answer]

theorem Answered.of_step (hstep : Step s t) (hsame : t.answers = s.answers) (ht : t.Answered) :
    s.Answered := by
  obtain ⟨u, answer, hsteps, hanswers⟩ := ht
  exact ⟨u, answer, .head hstep hsteps, hsame ▸ hanswers⟩

theorem answered_of_queue {item : Item} {rest : List Item} (hcaller : s.channel.abandoned = false)
    (hqueue : s.channel.queue = item :: rest) : s.Answered :=
  ⟨_, _, .head (.receive hcaller (Channel.receive_eq_received_iff.mpr ⟨rest, hqueue, rfl⟩)) (.refl _), rfl⟩

theorem answered_of_gone (hs : Reached decoder s) (hcaller : s.channel.abandoned = false)
    (hqueue : s.channel.queue = []) (hreader : s.reader = .gone) : s.Answered :=
  ⟨_, _, .head (.receiveEnd hcaller
    (Channel.receive_eq_over_iff.mpr ⟨hqueue, hs.ended_iff.mpr hreader⟩)) (.refl _), rfl⟩

/-- What is sent through an empty channel is received. -/
theorem exists_sent {item : Item} (hcaller : s.channel.abandoned = false) (hqueue : s.channel.queue = []) :
    ∃ channel, s.channel.send capacity item = .accepted channel ∧ channel.abandoned = false ∧
      channel.queue = [item] :=
  ⟨_, Channel.send_eq_accepted_iff.mpr ⟨hcaller, hqueue ▸ Nat.succ_pos _, rfl⟩, hcaller,
    congrArg (· ++ [item]) hqueue⟩

theorem answered_of_sending {data : List UInt8} (hcaller : s.channel.abandoned = false)
    (hqueue : s.channel.queue = []) (hreader : s.reader = .sending data) : s.Answered := by
  obtain ⟨channel, hsent, hcaller', hqueue'⟩ := exists_sent hcaller hqueue
  exact .of_step (.send hreader hsent) rfl (answered_of_queue hcaller' hqueue')

theorem answered_of_reporting (hcaller : s.channel.abandoned = false) (hqueue : s.channel.queue = [])
    (hreader : s.reader = .reporting) : s.Answered := by
  obtain ⟨channel, hsent, hcaller', hqueue'⟩ := exists_sent hcaller hqueue
  exact .of_step (.report hreader hsent) rfl (answered_of_queue hcaller' hqueue')

theorem answered_of_waiting (hs : Reached decoder s) (hcaller : s.channel.abandoned = false)
    (hqueue : s.channel.queue = []) (hreader : s.reader = .waiting) : s.Answered := by
  cases hexit : s.exit.isSuccess with
  | true =>
    have hstep := Step.finish hreader hexit
    exact .of_step hstep rfl (answered_of_gone (reached_of_step hs hstep) hcaller hqueue rfl)
  | false => exact .of_step (.complain hreader hexit) rfl (answered_of_reporting hcaller hqueue rfl)

theorem answered_of_reading (hs : Reached decoder s) (hcaller : s.channel.abandoned = false)
    (hqueue : s.channel.queue = []) (hreader : s.reader = .reading) : s.Answered := by
  rcases Nat.lt_or_ge Pixels.largestBuffer s.frameLength with hunbuffered | hbuffer
  · have hstep := Step.giveUp hreader hunbuffered
    exact .of_step hstep rfl (answered_of_gone (reached_of_step hs hstep) hcaller hqueue rfl)
  cases htaken : s.output.take? s.frameLength with
  | some taken => exact .of_step (.read hreader hbuffer htaken) rfl (answered_of_sending hcaller hqueue rfl)
  | none =>
    have hstep := Step.runOut hreader hbuffer htaken
    exact .of_step hstep rfl (answered_of_waiting (reached_of_step hs hstep) hcaller hqueue rfl)

/-- Where nothing is queued the reader has something to send or to end. -/
theorem answered (hs : Reached decoder s) (hcaller : s.channel.abandoned = false) : s.Answered := by
  cases hqueue : s.channel.queue with
  | cons item rest => exact answered_of_queue hcaller hqueue
  | nil =>
    cases hreader : s.reader with
    | reading => exact answered_of_reading hs hcaller hqueue hreader
    | sending data => exact answered_of_sending hcaller hqueue hreader
    | waiting => exact answered_of_waiting hs hcaller hqueue hreader
    | reporting => exact answered_of_reporting hcaller hqueue hreader
    | gone => exact answered_of_gone hs hcaller hqueue hreader

/-! ## A caller that is gone -/

/-- Nothing reaches a caller that is gone. -/
theorem silent_of_steps (hs : Reached decoder s) (hgone : s.channel.abandoned = true)
    (hsteps : Steps s t) :
    t.channel.abandoned = true ∧ t.channel.queue = [] ∧ t.answers = s.answers := by
  induction hsteps with
  | refl => exact ⟨hgone, hs.queue_eq hgone, rfl⟩
  | tail _ hlast ih =>
    obtain ⟨habandoned, hqueue, hanswers⟩ := ih
    have hlater := abandoned_of_step hlast habandoned
    have hsame := answers_of_step hlast hlater
    exact ⟨hlater, queue_eq_of_step hlast (fun _ => hqueue) hlater, hsame.trans hanswers⟩

/-- A reader that is about to send to nobody can do so, and leaves its loop. -/
theorem leaves_of_sending {data : List UInt8} (hgone : s.channel.abandoned = true)
    (hreader : s.reader = .sending data) :
    (∃ t, Step s t) ∧ ∀ t, Step s t → t.reader = .waiting := by
  refine ⟨⟨_, @Step.turnAway s data s.exit hreader (Channel.send_eq_refused_iff.mpr hgone)⟩,
    fun t hstep => ?_⟩
  cases hstep with
  | turnAway => rfl
  | send _ hsent => cases (Channel.send_eq_accepted_iff.mp hsent).1.symm.trans hgone
  | receive hcaller | receiveEnd hcaller | drop hcaller => cases hcaller.symm.trans hgone
  | read hother | runOut hother | giveUp hother | finish hother | complain hother | report hother
  | keepQuiet hother =>
    cases hreader.symm.trans hother

theorem isInLoop_of_step (hstep : Step s t) (hs : s.reader.isInLoop = false) :
    t.reader.isInLoop = false := by
  cases hstep with
  | read hreader | send hreader =>
    rw [hreader] at hs
    cases hs
  | receive | receiveEnd | drop => exact hs
  | runOut | giveUp | turnAway | finish | complain | report | keepQuiet => rfl

/-- Two actions after the caller left a reader is out of its loop: it reads one more frame at most. -/
theorem isInLoop_of_two_steps {u : ReadAhead} (hgone : s.channel.abandoned = true) (hfirst : Step s t)
    (hsecond : Step t u) : u.reader.isInLoop = false := by
  cases hloop : t.reader.isInLoop with
  | false => exact isInLoop_of_step hsecond hloop
  | true =>
    cases hreader : t.reader with
    | sending data =>
      rw [(leaves_of_sending (abandoned_of_step hfirst hgone) hreader).2 u hsecond]
      rfl
    | reading =>
      -- Only a frame that was sent brings a reader back to reading.
      cases hfirst with
      | send _ hsent => cases (Channel.send_eq_accepted_iff.mp hsent).1.symm.trans hgone
      | receive hcaller | receiveEnd hcaller | drop hcaller => cases hcaller.symm.trans hgone
      | read | runOut | giveUp | turnAway | finish | complain | report | keepQuiet => cases hreader
    | waiting | reporting | gone =>
      rw [hreader] at hloop
      cases hloop

/-! ## The contract -/

/-- What holds of a decoder that reads a stream ahead, at every moment. -/
structure Contract (info : Info) (bytes : List UInt8) (exit : Exit) (s : ReadAhead) : Prop where
  /-- The answers are the first of the results in order, and then the end of the stream. -/
  answers_eq : 0 < info.width → 0 < info.height → s.answers =
    (List.range s.answers.length).map fun k => (results info bytes exit)[k]?.getD (.ok none)
  /-- They are those of a decoder that reads when it is asked, also where frames have no pixels. -/
  answers_eq_take : s.answers = Decoder.take s.answers.length ⟨info, 0, [bytes], exit⟩
  timestamp_eq : ∀ (k : Nat) (frame : Frame), (framesOf s.answers)[k]? = some frame →
    frame.timestamp = some ⟨k, ⟨info.rate.denominator, info.rate.numerator⟩⟩
  queue_le : s.channel.queue.length ≤ 5
  /-- As long as there is a caller every byte was handed out, waits, is held or is not read, in that order. -/
  flatten_eq : s.channel.abandoned = false → s.passed.flatten ++ s.output.flatten = bytes
  length_eq : s.channel.abandoned = false → ∀ data ∈ s.passed, data.length = 3 * info.width * info.height
  /-- The caller is told of the end only when nothing is left for it. -/
  nothing_left : ∀ t, Step s t → t.answers = s.answers ++ [.ok none] →
    s.channel.queue = [] ∧ s.reader = .gone ∧ s.output.flatten.length < 3 * info.width * info.height ∧
      (exit.isSuccess = false → .error (.decoderEnded exit) ∈ s.answers)
  /-- A caller that asks can get an answer. -/
  answered : s.channel.abandoned = false → s.Answered
  /-- Nothing reaches a caller that is gone. -/
  silent : s.channel.abandoned = true → ∀ t, Steps s t →
    t.channel.abandoned = true ∧ t.channel.queue = [] ∧ t.answers = s.answers
  /-- A reader that is about to send to nobody leaves its loop. -/
  leaves : s.channel.abandoned = true → ∀ data, s.reader = .sending data →
    (∃ t, Step s t) ∧ ∀ t, Step s t → t.reader = .waiting
  /-- It reads one more frame before that at most. -/
  leaves_soon : s.channel.abandoned = true → ∀ t u, Step s t → Step t u → u.reader.isInLoop = false
  /-- It stays out of its loop. -/
  stays_out : s.reader.isInLoop = false → ∀ t, Steps s t → t.reader.isInLoop = false

/-- Whatever the order of the actions of a reader and a caller, the contract holds at every moment. -/
theorem contract_of_steps {info : Info} {bytes : List UInt8} {exit : Exit}
    (hbuffer : 3 * info.width * info.height ≤ 2 ^ 63 - 1) (hopened : decoder.Opened info bytes exit)
    (hsteps : Steps (start decoder) s) : Contract info bytes exit s := by
  have hs : Reached decoder s := reached_of_steps hsteps
  have hlength : s.frameLength = 3 * info.width * info.height := by
    rw [frameLength, hs.info_eq, hopened.info_eq,
      Frame.wordLength_of_lt (Nat.lt_of_le_of_lt hbuffer (by decide))]
  exact {
    answers_eq := by
      intro hwidth hheight
      rw [← Decoder.take_of_opened hwidth hheight hbuffer hopened, ← hs.answers_eq]
    answers_eq_take := by
      have hsame : Decoder.Same decoder ⟨info, 0, [bytes], exit⟩ :=
        ⟨hopened.info_eq, hopened.index_eq, hopened.flatten_eq.trans (List.flatten_singleton).symm,
          hopened.exit_eq⟩
      rw [← Decoder.take_congr hsame, ← hs.answers_eq]
    timestamp_eq := by
      intro k frame hframe
      rw [hs.answers_eq] at hframe
      rw [Decoder.timestamp_of_take hframe, hopened.index_eq, hopened.info_eq, Nat.zero_add]
      rfl
    queue_le := hs.queue_le
    flatten_eq := fun hcaller => (hs.attended hcaller).whole.flatten_eq.trans hopened.flatten_eq
    length_eq := fun hcaller => hlength ▸ (hs.attended hcaller).whole.length_eq
    nothing_left := by
      intro t hstep hanswers
      obtain ⟨hqueue, hreader, hleft⟩ := over_of_step hs hstep hanswers
      rw [← hlength, ← hopened.exit_eq]
      exact ⟨hqueue, hreader, hleft (hlength.trans_le hbuffer)⟩
    answered := answered hs
    silent := fun hgone _ => silent_of_steps hs hgone
    leaves := fun hgone _ => leaves_of_sending hgone
    leaves_soon := fun hgone _ _ => isInLoop_of_two_steps hgone
    stays_out := fun hout _ hlater => hlater.preserves hout fun hs hstep => isInLoop_of_step hstep hs }

/-- The stream of one frame of one pixel, with a byte too many and a bad end. -/
theorem contract_of_steps_one_pixel :
    let info : Info := ⟨1, 1, ⟨30000, 1001⟩, none⟩
    let decoder : Decoder := ⟨info, 0, [[1, 2], [3, 4]], .status 3⟩
    3 * info.width * info.height ≤ 2 ^ 63 - 1 ∧ decoder.Opened info [1, 2, 3, 4] (.status 3) ∧
      ∃ s, Steps (start decoder) s ∧ s.channel.abandoned = true ∧
        s.answers = [.ok (some ⟨1, 1, some ⟨0, ⟨1001, 30000⟩⟩, [1, 2, 3]⟩),
          .error (.decoderEnded (.status 3)), .ok none] ∧
        Contract info [1, 2, 3, 4] (.status 3) s := by
  have hopened : Decoder.Opened ⟨1, 1, ⟨30000, 1001⟩, none⟩ [1, 2, 3, 4] (.status 3)
      ⟨⟨1, 1, ⟨30000, 1001⟩, none⟩, 0, [[1, 2], [3, 4]], .status 3⟩ := ⟨rfl, rfl, rfl, rfl⟩
  have hsteps := (Steps.refl (start ⟨⟨1, 1, ⟨30000, 1001⟩, none⟩, 0, [[1, 2], [3, 4]], .status 3⟩)).tail
    (.read rfl (by decide) rfl) |>.tail (.send rfl rfl) |>.tail (.runOut rfl (by decide) rfl) |>.tail
    (.receive rfl rfl) |>.tail (.complain rfl rfl) |>.tail (.report rfl rfl) |>.tail (.receive rfl rfl) |>.tail
    (.receiveEnd rfl rfl) |>.tail (.drop rfl)
  exact ⟨by decide, hopened, _, hsteps, rfl, rfl, contract_of_steps (by decide) hopened hsteps⟩

/-- Frames that no buffer can hold, of a program that is killed: the caller is told of the end with the report of
it unsent. -/
theorem not_contract_unbuffered :
    let info : Info := ⟨2147483648, 2147483648, ⟨25, 1⟩, none⟩
    let decoder : Decoder := ⟨info, 0, [], .killed⟩
    0 < info.width ∧ 0 < info.height ∧ decoder.Opened info [] .killed ∧
      ∃ s, Steps (start decoder) s ∧ s.answers = [.ok none] ∧ s.exit = .killed ∧
        ¬ Contract info [] .killed s := by
  have hsteps := (Steps.refl (start ⟨⟨2147483648, 2147483648, ⟨25, 1⟩, none⟩, 0, [], .killed⟩)).tail
    (.giveUp rfl (by decide)) |>.tail (.receiveEnd rfl rfl)
  refine ⟨by decide, by decide, ⟨rfl, rfl, rfl, rfl⟩, _, hsteps, rfl, rfl, fun hcontract => ?_⟩
  have hanswers := hcontract.answers_eq (by decide) (by decide)
  cases hanswers

end FrameTransition.Video.ReadAhead
