import FrameTransition.Proofs.Video.Decoding
import FrameTransition.Video.Encoder

/-!
# What an encoder passes on

An encoder takes the frames a renderer of its size takes, and its program gets their data and nothing
else. `encodes_started` says so of every sequence of calls, and that the frames come back from a decoder
of the same size and rate, numbered from zero. All of them count the bytes of a frame in words, so this holds
of every size that has pixels, also where words wrap. There are no frames of a size beyond all buffers.

The two directions meet in a stream of frames of one length. Writing puts the data of one frame at its
end (`sent_cons`), and reading takes the data of one frame off its front, so the induction of
`framesFrom_flatMap` goes over the frames that were taken.
-/

namespace FrameTransition

/-! ## Frames that are taken -/

/-- A frame is packed RGB of a size, its bytes counted in a word. -/
structure Frame.Fills (frame : Frame) (width height : Nat) : Prop where
  width_eq : frame.width = width
  height_eq : frame.height = height
  length_eq : frame.data.length = 3 * width * height % 2 ^ 64

theorem Frame.check_eq_ok_iff {frame : Frame} {width height : Nat} :
    frame.check width height = .ok () ↔ frame.Fills width height := by
  have hshape : frame.shape = ⟨width, height, wordLength width height⟩ ↔ frame.Fills width height := by
    rw [shape, wordLength_eq, FrameShape.mk.injEq]
    exact ⟨fun h => ⟨h.1, h.2.1, h.2.2⟩, fun h => ⟨h.width_eq, h.height_eq, h.length_eq⟩⟩
  unfold check checkShape
  rw [← hshape]
  split_ifs with h
  · exact iff_of_true rfl h
  · refine iff_of_false (fun heq => ?_) h
    cases heq

namespace Video

/-- The frames of a size among frames. -/
def taken (width height : Nat) (frames : List Frame) : List Frame :=
  frames.filter fun frame => (frame.check width height).isOk

theorem fills_of_mem_taken {width height : Nat} {frames : List Frame} {frame : Frame}
    (h : frame ∈ taken width height frames) : frame.Fills width height := by
  have hok := (List.mem_filter.mp h).2
  cases hcheck : frame.check width height with
  | ok => exact Frame.check_eq_ok_iff.mp hcheck
  | error error =>
    rw [hcheck] at hok
    cases hok

theorem isOk_check_iff {width height : Nat} {frame : Frame} :
    (frame.check width height).isOk = true ↔ frame.check width height = .ok () := by
  cases frame.check width height with
  | ok => exact iff_of_true rfl rfl
  | error error => exact iff_of_false nofun nofun

theorem taken_cons_of_check {width height : Nat} {frame : Frame} (h : frame.check width height = .ok ())
    (frames : List Frame) : taken width height (frame :: frames) = frame :: taken width height frames :=
  List.filter_cons_of_pos (isOk_check_iff.mpr h)

theorem taken_cons_of_refused {width height : Nat} {frame : Frame} (h : frame.check width height ≠ .ok ())
    (frames : List Frame) : taken width height (frame :: frames) = taken width height frames :=
  List.filter_cons_of_neg (mt isOk_check_iff.mp h)

namespace Encoder

variable {encoder : Encoder} {frame : Frame}

/-! ## One call -/

/-- The encoder's check is the renderer's. -/
theorem accepts_iff : encoder.accepts frame = true ↔ frame.check encoder.width encoder.height = .ok () := by
  unfold accepts Frame.isPacked
  rw [decide_eq_true_iff, decide_eq_true_iff, Frame.wordLength_eq, Frame.check_eq_ok_iff]
  constructor
  · rintro ⟨hwidth, hheight, hlength⟩
    exact ⟨hwidth, hheight, by rw [hlength, hwidth, hheight]⟩
  · rintro ⟨hwidth, hheight, hlength⟩
    exact ⟨hwidth, hheight, by rw [hlength, hwidth, hheight]⟩

theorem write_of_check (h : frame.check encoder.width encoder.height = .ok ()) :
    encoder.write frame = (.ok (), { encoder with written := frame.data :: encoder.written }) :=
  if_pos (accepts_iff.mpr h)

theorem write_of_refused (h : frame.check encoder.width encoder.height ≠ .ok ()) :
    encoder.write frame =
      (.error (.frameSize frame.width frame.height encoder.width encoder.height), encoder) :=
  if_neg (mt accepts_iff.mp h)

theorem write_eq_ok_iff_check :
    (encoder.write frame).1 = .ok () ↔ frame.check encoder.width encoder.height = .ok () := by
  by_cases h : frame.check encoder.width encoder.height = .ok ()
  · rw [write_of_check h]
    exact iff_of_true rfl h
  · rw [write_of_refused h]
    exact iff_of_false nofun h

/-- What the next frame adds to what was passed on. -/
theorem sent_cons (encoder : Encoder) (data : List UInt8) :
    sent { encoder with written := data :: encoder.written } = encoder.sent ++ data := by
  rw [sent, List.reverse_cons, List.flatten_append, List.flatten_singleton, sent]

/-! ## Every call -/

/-- The outcome of a call with a frame. -/
def outcome (width height : Nat) (frame : Frame) : Except VideoError Unit :=
  if (frame.check width height).isOk then .ok ()
  else .error (.frameSize frame.width frame.height width height)

/-- What any number of calls does to an encoder. -/
theorem writeAll_eq (encoder : Encoder) (frames : List Frame) :
    encoder.writeAll frames = (frames.map (outcome encoder.width encoder.height),
      { encoder with
        written := ((taken encoder.width encoder.height frames).map (·.data)).reverse ++ encoder.written }) := by
  induction frames generalizing encoder with
  | nil => rfl
  | cons frame frames ih =>
    rw [writeAll]
    by_cases h : frame.check encoder.width encoder.height = .ok ()
    · rw [write_of_check h, taken_cons_of_check h]
      dsimp only
      rw [ih, List.map_cons, List.map_cons, List.reverse_cons, List.append_assoc, outcome,
        if_pos (isOk_check_iff.mpr h)]
      rfl
    · rw [write_of_refused h, taken_cons_of_refused h]
      dsimp only
      rw [ih, List.map_cons, outcome, if_neg (mt isOk_check_iff.mp h)]

theorem sent_writeAll (hfresh : encoder.written = []) (frames : List Frame) :
    (encoder.writeAll frames).2.sent = (taken encoder.width encoder.height frames).flatMap (·.data) := by
  rw [writeAll_eq, sent, hfresh, List.append_nil, List.reverse_reverse, List.flatMap]

/-- An encoder that was started has the program its host started, and has passed on nothing. -/
theorem fresh_of_start {host : (request : Request) → request.Answer} {path : Path} {width height : Nat}
    {rate : Rate} (h : (start path width height rate).run host = .ok encoder) :
    ∃ program, host (.start (command path width height rate)) = .ok program ∧
      encoder = ⟨width, height, program, []⟩ := by
  rw [start, Session.run_bind] at h
  cases hdirectory : (prepareDirectory path).run host with
  | error error =>
    rw [hdirectory] at h
    cases h
  | ok =>
    rw [hdirectory] at h
    dsimp only at h
    rw [Session.run_bind, Session.run_start] at h
    cases hstarted : host (.start (command path width height rate)) with
    | error cause =>
      rw [hstarted] at h
      cases h
    | ok program =>
      rw [hstarted] at h
      cases h
      exact ⟨program, rfl, rfl⟩

end Encoder

/-! ## Back through a decoder -/

namespace Decoder

/-- The frames in the data of frames of one size are these frames. -/
theorem framesFrom_flatMap {info : Info} (hlength : 0 < Frame.wordLength info.width info.height)
    (frames : List Frame) (hfills : ∀ frame ∈ frames, frame.Fills info.width info.height) (index : Nat) :
    framesFrom info index (frames.flatMap (·.data)) =
      (frames.zipIdx index).map fun (frame, k) => info.frame k frame.data := by
  induction frames generalizing index with
  | nil => exact framesFrom_of_lt hlength
  | cons frame frames ih =>
    have hframe : frame.data.length = Frame.wordLength info.width info.height := by
      rw [(hfills frame List.mem_cons_self).length_eq, Frame.wordLength_eq]
    have hothers := ih (fun other hother => hfills other (List.mem_cons_of_mem _ hother)) (index + 1)
    rw [List.flatMap_cons, framesFrom_of_le hlength, ← hframe, List.take_left, List.drop_left, hothers,
      List.zipIdx_cons, List.map_cons]
    rw [List.length_append, hframe]
    exact Nat.le_add_right _ _

/-- The report of an end, where a buffer can hold a frame. -/
def reportWithin (width height : Nat) (exit : Exit) : List (Except VideoError (Option Frame)) :=
  if 3 * width * height % 2 ^ 64 ≤ 2 ^ 63 - 1 then reportOf exit else []

/-- A decoder of the data of frames of one size gives their data back. -/
theorem take_of_flatMap {decoder : Decoder} {info : Info} {exit : Exit} {frames : List Frame}
    (hlength : 0 < Frame.wordLength info.width info.height)
    (hfills : ∀ frame ∈ frames, frame.Fills info.width info.height)
    (hheld : ∀ frame ∈ frames, frame.data.length ≤ 2 ^ 63 - 1)
    (hopened : decoder.Opened info (frames.flatMap (·.data)) exit) (calls : Nat) :
    decoder.take calls = (List.range calls).map fun k =>
      ((frames.zipIdx.map fun (frame, tick) => .ok (some (info.frame tick frame.data))) ++
        reportWithin info.width info.height exit)[k]?.getD (.ok none) := by
  have hframe : decoder.frameLength = Frame.wordLength info.width info.height := by
    rw [frameLength, hopened.info_eq]
  have hreport : reportWithin info.width info.height exit =
      if Frame.wordLength info.width info.height ≤ Pixels.largestBuffer then reportOf exit else [] := by
    rw [reportWithin, ← Frame.wordLength_eq]
    rfl
  rw [take_eq_pending (hframe ▸ hlength), hreport]
  rcases Nat.lt_or_ge Pixels.largestBuffer (Frame.wordLength info.width info.height) with hbuffer | hbuffer
  · -- A frame would have to be longer than any is.
    have hnone : frames = [] := by
      refine List.eq_nil_iff_forall_not_mem.mpr fun frame hmem => ?_
      have hle := hheld frame hmem
      rw [(hfills frame hmem).length_eq, ← Frame.wordLength_eq] at hle
      exact Nat.not_lt_of_le hle hbuffer
    rw [pending_of_unbuffered (hframe ▸ hbuffer), if_neg (Nat.not_le_of_lt hbuffer), hnone]
    rfl
  · rw [pending_of_buffered (hframe ▸ hbuffer), if_pos hbuffer, hopened.info_eq, hopened.index_eq,
      hopened.flatten_eq, hopened.exit_eq, framesFrom_flatMap hlength frames hfills, List.map_map]
    rfl

end Decoder

/-! ## The contract -/

namespace Encoder

/-- What an encoder of a size and rate does with the frames it is given. -/
structure Encodes (width height : Nat) (rate : Rate) (encoder : Encoder) : Prop where
  /-- After any calls a frame is taken if and only if a renderer of the size takes it. -/
  write_eq_ok_iff : ∀ past frame,
    ((encoder.writeAll past).2.write frame).1 = .ok () ↔ frame.check width height = .ok ()
  /-- This is so if it has the size and all the bytes that the size has in a word, -/
  check_eq_ok_iff : ∀ frame : Frame, frame.check width height = .ok () ↔
    frame.width = width ∧ frame.height = height ∧ frame.data.length = 3 * width * height % 2 ^ 64
  /-- which is the check of a configured renderer where words do not wrap. -/
  check_eq : 3 * width * height < 2 ^ 64 → ∀ frame : Frame,
    frame.check width height = frame.checkShape ⟨width, height, 3 * width * height⟩
  /-- A frame that is taken is passed on whole. -/
  sent_write : ∀ past frame, frame.check width height = .ok () →
    ((encoder.writeAll past).2.write frame).2.sent = (encoder.writeAll past).2.sent ++ frame.data
  /-- A frame that is refused changes nothing. -/
  write_eq_error : ∀ past frame, frame.check width height ≠ .ok () →
    (encoder.writeAll past).2.write frame =
      (.error (.frameSize frame.width frame.height width height), (encoder.writeAll past).2)
  outcomes_eq : ∀ frames, (encoder.writeAll frames).1 = frames.map (outcome width height)
  sent_eq : ∀ frames,
    (encoder.writeAll frames).2.sent = (taken width height frames).flatMap (·.data)
  /-- The program gets these bytes as its whole input. -/
  finish_eq : ∀ frames, (encoder.writeAll frames).2.finish =
    let exit := (encoder.program ((taken width height frames).flatMap (·.data))).exit
    if exit.isSuccess then .ok () else .error (.encoderEnded exit)
  /-- They are whole frames, with no byte left over. -/
  length_sent : ∀ frames, (encoder.writeAll frames).2.sent.length =
    (taken width height frames).length * (3 * width * height % 2 ^ 64)
  /-- A decoder of the size and rate gives their data back, in order and numbered from zero. No frame holds
  more bytes than a buffer. -/
  take_eq : ∀ (frames : List Frame) (duration : Option Number) (exit : Exit) (decoder : Decoder),
    (∀ frame ∈ frames, frame.data.length ≤ 2 ^ 63 - 1) →
    decoder.Opened ⟨width, height, rate, duration⟩ (encoder.writeAll frames).2.sent exit →
    ∀ calls : Nat, decoder.take calls = (List.range calls).map fun k =>
      (((taken width height frames).zipIdx.map fun (frame, tick) =>
        .ok (some ⟨width, height, some ⟨tick, ⟨rate.denominator, rate.numerator⟩⟩, frame.data⟩)) ++
        Decoder.reportWithin width height exit)[k]?.getD (.ok none)

/-- An encoder that was started passes on the frames of its size to the program its host started, and a
decoder reads them back. -/
theorem encodes_started {host : (request : Request) → request.Answer} {path : Path} {width height : Nat}
    {rate : Rate} (hwidth : 0 < width) (hheight : 0 < height) (hlt : width < 2 ^ 32) (hlt' : height < 2 ^ 32)
    (hstarted : (start path width height rate).run host = .ok encoder) :
    host (.start (command path width height rate)) = .ok encoder.program ∧
      Encodes width height rate encoder := by
  obtain ⟨program, hprogram, rfl⟩ := fresh_of_start hstarted
  have hsent : ∀ frames, ((Encoder.mk width height program []).writeAll frames).2.sent =
      (taken width height frames).flatMap (·.data) := sent_writeAll rfl
  have hlength : 0 < Frame.wordLength width height :=
    Nat.pos_of_ne_zero (Frame.wordLength_ne_zero hwidth hheight hlt hlt')
  refine ⟨hprogram, {
    write_eq_ok_iff := fun past frame => ?_
    check_eq_ok_iff := fun frame => ?_
    check_eq := fun hword frame => ?_
    sent_write := fun past frame hok => ?_
    write_eq_error := fun past frame hrefused => ?_
    outcomes_eq := fun frames => by rw [writeAll_eq]
    sent_eq := hsent
    finish_eq := fun frames => ?_
    length_sent := fun frames => ?_
    take_eq := fun frames duration exit decoder hheld hopened => ?_ }⟩
  · rw [writeAll_eq]
    exact write_eq_ok_iff_check
  · rw [Frame.check_eq_ok_iff]
    exact ⟨fun h => ⟨h.width_eq, h.height_eq, h.length_eq⟩, fun h => ⟨h.1, h.2.1, h.2.2⟩⟩
  · rw [frame.check_eq_checkShape hword, Frame.expectedShape_eq]
  · rw [writeAll_eq, write_of_check hok]
    exact sent_cons _ _
  · rw [writeAll_eq]
    exact write_of_refused hrefused
  · rw [finish, hsent, writeAll_eq]
  · rw [hsent]
    exact Pixels.length_flatMap_of_length fun frame hframe => (fills_of_mem_taken hframe).length_eq
  · rw [hsent] at hopened
    have hmem : ∀ frame ∈ taken width height frames, frame.data.length ≤ 2 ^ 63 - 1 :=
      fun frame hframe => hheld frame ((List.mem_filter.mp hframe).1)
    exact Decoder.take_of_flatMap hlength (fun frame hframe => fills_of_mem_taken hframe) hmem hopened

/-- Two frames of one pixel, and between them one that is too wide and one that lacks a byte. -/
theorem encodes_started_one_pixel :
    let host := answersOf fun _ => ⟨[], [], .success⟩
    let frames : List Frame := [⟨1, 1, none, [1, 2, 3]⟩, ⟨2, 1, none, [4, 5, 6, 7, 8, 9]⟩,
      ⟨1, 1, none, [4, 5]⟩, ⟨1, 1, none, [6, 7, 8]⟩]
    0 < 1 ∧ 1 < 2 ^ 32 ∧ ∃ encoder, (start ⟨"out.mp4".toList⟩ 1 1 ⟨30000, 1001⟩).run host = .ok encoder ∧
      Encodes 1 1 ⟨30000, 1001⟩ encoder ∧
      (encoder.writeAll frames).1 =
        [.ok (), .error (.frameSize 2 1 1 1), .error (.frameSize 1 1 1 1), .ok ()] ∧
      (encoder.writeAll frames).2.sent = [1, 2, 3, 6, 7, 8] ∧
      (encoder.writeAll frames).2.finish = .ok () := by
  intro host frames
  have hstarted : (start ⟨"out.mp4".toList⟩ 1 1 ⟨30000, 1001⟩).run host =
      .ok ⟨1, 1, fun _ => ⟨[], [], .success⟩, []⟩ := rfl
  have hencodes := encodes_started Nat.one_pos Nat.one_pos (by decide) (by decide) hstarted
  exact ⟨Nat.one_pos, by decide, _, hstarted, hencodes.2, rfl, rfl, rfl⟩

end Encoder

end Video

end FrameTransition
