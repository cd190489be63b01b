import FrameTransition.Proofs.Render.Draw
import FrameTransition.Video.Decoder

/-!
# What a decoder hands out

`framesIn` cuts bytes into frames at multiples of a frame's length and numbers them; what is left over
belongs to none. `results` adds the report of a bad end. `decodes_opened` says that the calls of an opened
decoder give exactly these one after the other, and the end of the stream from then on, however the
program's output was cut into pieces. It is about frames that a buffer can hold. Where none can, the end comes
at once, without the report (`not_decodes_unbuffered`).

The decoder goes over its output once, and so does the proof: a call takes the frame at the front and
leaves a decoder of the other bytes (`next_of_le`), or leaves the bytes alone (`next_of_lt`). The index is
carried along, so the induction is over decoders that have handed out frames before. It counts frames in words,
as the decoder does (`framesFrom`, `pending`).
-/

namespace FrameTransition.Video

/-! ## The frames in a stream -/

/-- The frames in the bytes of a stream. -/
def framesIn (info : Info) (bytes : List UInt8) : List Frame :=
  (List.range (bytes.length / (3 * info.width * info.height))).map fun (k : Nat) =>
    { width := info.width
      height := info.height
      timestamp := some ⟨k, ⟨info.rate.denominator, info.rate.numerator⟩⟩
      data := (bytes.drop (k * (3 * info.width * info.height))).take (3 * info.width * info.height) }

/-- The report of an end: none of a good one. -/
def reportOf (exit : Exit) : List (Except VideoError (Option Frame)) :=
  if exit.isSuccess then [] else [.error (.decoderEnded exit)]

/-- What a stream gives before it gives its end again and again. -/
def results (info : Info) (bytes : List UInt8) (exit : Exit) : List (Except VideoError (Option Frame)) :=
  (framesIn info bytes).map (fun frame => .ok (some frame)) ++ reportOf exit

theorem reportOf_of_success {exit : Exit} (h : exit.isSuccess = true) : reportOf exit = [] :=
  if_pos h

theorem reportOf_of_failure {exit : Exit} (h : exit.isSuccess = false) :
    reportOf exit = [.error (.decoderEnded exit)] :=
  if_neg (Bool.eq_false_iff.mp h)

/-- The answers of a host that starts one program, whatever command it is given. -/
def answersOf (program : Program) : (request : Request) → request.Answer
  | .readFile _ => .error .notFound
  | .start _ => .ok program
  | .createDirectories _ | .writeFile _ _ | .handleInterrupts | .acquire _ _ => .ok ()
  | .draw drawing => .ok (.blank drawing.target.size)

namespace Decoder

/-- A decoder that has handed out nothing of a program's output, in whatever pieces that arrives. -/
structure Opened (info : Info) (bytes : List UInt8) (exit : Exit) (decoder : Decoder) : Prop where
  info_eq : decoder.info = info
  index_eq : decoder.index = 0
  flatten_eq : decoder.output.flatten = bytes
  exit_eq : decoder.exit = exit

/-- What the calls of a decoder of a stream give. -/
structure Decodes (info : Info) (bytes : List UInt8) (exit : Exit) (decoder : Decoder) : Prop where
  /-- The results in order, and then the end of the stream at every call. -/
  take_eq : ∀ calls : Nat, decoder.take calls =
    (List.range calls).map fun k => (results info bytes exit)[k]?.getD (.ok none)
  length_framesIn : (framesIn info bytes).length = bytes.length / (3 * info.width * info.height)
  /-- The bytes after the last whole frame are in none. -/
  data_framesIn : (framesIn info bytes).flatMap (·.data) =
    bytes.take (bytes.length - bytes.length % (3 * info.width * info.height))

variable {decoder other : Decoder}

/-! ## One call -/

/-- The first frame is handed out, and the other bytes are left. -/
theorem next_of_le (hbuffer : decoder.frameLength ≤ Pixels.largestBuffer)
    (h : decoder.frameLength ≤ decoder.output.flatten.length) :
    ∃ output, output.flatten = decoder.output.flatten.drop decoder.frameLength ∧
      decoder.next =
        (.ok (some (decoder.info.frame decoder.index (decoder.output.flatten.take decoder.frameLength))),
          { decoder with index := decoder.index + 1, output }) := by
  obtain ⟨output, htaken, hrest⟩ := Pieces.exists_take? h
  exact ⟨output, hrest, by rw [next, if_neg (Nat.not_lt_of_le hbuffer), htaken]⟩

/-- A rest too short for a frame stays where it is, and the end is reported once. -/
theorem next_of_lt (hbuffer : decoder.frameLength ≤ Pixels.largestBuffer)
    (h : decoder.output.flatten.length < decoder.frameLength) :
    decoder.next = if decoder.exit.isSuccess then (.ok none, decoder)
      else (.error (.decoderEnded decoder.exit), { decoder with exit := .success }) := by
  rw [next, if_neg (Nat.not_lt_of_le hbuffer), Pieces.take?_eq_none_iff.mpr h]

/-- Without a buffer nothing is read and nothing reported. -/
theorem next_of_unbuffered (hbuffer : Pixels.largestBuffer < decoder.frameLength) :
    decoder.next = (.ok none, decoder) :=
  if_pos hbuffer

/-! ## Every call -/

/-- The frames in the bytes that are left of a stream, the next one at an index. -/
def framesFrom (info : Info) (index : Nat) (bytes : List UInt8) : List Frame :=
  (List.range (bytes.length / Frame.wordLength info.width info.height)).map fun k =>
    info.frame (index + k) ((bytes.drop (k * Frame.wordLength info.width info.height)).take
      (Frame.wordLength info.width info.height))

section Frames

variable {info : Info} {index : Nat} {bytes : List UInt8}

theorem framesFrom_zero (hword : 3 * info.width * info.height < 2 ^ 64) (bytes : List UInt8) :
    framesFrom info 0 bytes = framesIn info bytes := by
  unfold framesFrom framesIn
  simp only [Frame.wordLength_of_lt hword, Nat.zero_add]
  rfl

theorem framesFrom_of_lt (h : bytes.length < Frame.wordLength info.width info.height) :
    framesFrom info index bytes = [] := by
  rw [framesFrom, Nat.div_eq_of_lt h]
  rfl

theorem framesFrom_of_le (hlength : 0 < Frame.wordLength info.width info.height)
    (h : Frame.wordLength info.width info.height ≤ bytes.length) :
    framesFrom info index bytes =
      info.frame index (bytes.take (Frame.wordLength info.width info.height)) ::
        framesFrom info (index + 1) (bytes.drop (Frame.wordLength info.width info.height)) := by
  unfold framesFrom
  generalize Frame.wordLength info.width info.height = length at hlength h ⊢
  rw [Nat.div_eq_sub_div hlength h, List.range_succ_eq_map, List.map_cons, List.map_map,
    List.length_drop, Nat.zero_mul, List.drop_zero, Nat.add_zero]
  congr 1
  refine List.map_congr_left fun k _ => ?_
  rw [Function.comp_apply, List.drop_drop, Nat.succ_eq_add_one, Nat.succ_mul, Nat.add_comm length,
    Nat.add_assoc index, Nat.add_comm 1 k]

end Frames

/-- What a decoder has yet to give before the end. -/
def pending (decoder : Decoder) : List (Except VideoError (Option Frame)) :=
  if Pixels.largestBuffer < decoder.frameLength then []
  else
    (framesFrom decoder.info decoder.index decoder.output.flatten).map (fun frame => .ok (some frame)) ++
      reportOf decoder.exit

theorem pending_of_buffered (hbuffer : decoder.frameLength ≤ Pixels.largestBuffer) :
    decoder.pending =
      (framesFrom decoder.info decoder.index decoder.output.flatten).map (fun frame => .ok (some frame)) ++
        reportOf decoder.exit :=
  if_neg (Nat.not_lt_of_le hbuffer)

theorem pending_of_unbuffered (hbuffer : Pixels.largestBuffer < decoder.frameLength) : decoder.pending = [] :=
  if_pos hbuffer

theorem pending_eq_results {info : Info} {bytes : List UInt8} {exit : Exit}
    (hbuffer : 3 * info.width * info.height ≤ 2 ^ 63 - 1) (h : decoder.Opened info bytes exit) :
    decoder.pending = results info bytes exit := by
  have hword : 3 * info.width * info.height < 2 ^ 64 := Nat.lt_of_le_of_lt hbuffer (by decide)
  have hlength : decoder.frameLength ≤ Pixels.largestBuffer := by
    rw [frameLength, h.info_eq, Frame.wordLength_of_lt hword]
    exact hbuffer
  rw [pending_of_buffered hlength, h.info_eq, h.index_eq, h.flatten_eq, h.exit_eq, framesFrom_zero hword, results]

/-- A call gives what is first, if anything is, and leaves the others. -/
theorem next_eq (hlength : 0 < decoder.frameLength) :
    decoder.next.1 = decoder.pending[0]?.getD (.ok none) ∧
      decoder.next.2.pending = decoder.pending.tail := by
  rcases Nat.lt_or_ge Pixels.largestBuffer decoder.frameLength with hunbuffered | hbuffer
  · rw [next_of_unbuffered hunbuffered, pending_of_unbuffered hunbuffered]
    exact ⟨rfl, rfl⟩
  rcases Nat.lt_or_ge decoder.output.flatten.length decoder.frameLength with hlt | hle
  · rw [next_of_lt hbuffer hlt, pending_of_buffered hbuffer, framesFrom_of_lt hlt, List.map_nil, List.nil_append]
    cases hexit : decoder.exit.isSuccess with
    | true =>
      rw [if_pos rfl, pending_of_buffered hbuffer, framesFrom_of_lt hlt, reportOf_of_success hexit]
      exact ⟨rfl, rfl⟩
    | false =>
      rw [if_neg Bool.false_ne_true, @pending_of_buffered { decoder with exit := .success } hbuffer,
        framesFrom_of_lt hlt, reportOf_of_failure hexit, reportOf_of_success rfl]
      exact ⟨rfl, rfl⟩
  · obtain ⟨output, hrest, hnext⟩ := next_of_le hbuffer hle
    rw [hnext, pending_of_buffered hbuffer,
      @pending_of_buffered { decoder with index := decoder.index + 1, output } hbuffer, hrest,
      framesFrom_of_le hlength hle]
    exact ⟨rfl, rfl⟩

theorem frameLength_next (decoder : Decoder) : decoder.next.2.frameLength = decoder.frameLength := by
  unfold next
  split
  · rfl
  · split
    · rfl
    · split <;> rfl

theorem take_eq_pending (hlength : 0 < decoder.frameLength) (calls : Nat) :
    decoder.take calls = (List.range calls).map fun k => decoder.pending[k]?.getD (.ok none) := by
  induction calls generalizing decoder with
  | zero => rfl
  | succ calls ih =>
    obtain ⟨hfirst, hothers⟩ := next_eq hlength
    rw [take, ih (frameLength_next decoder ▸ hlength), hfirst, hothers, List.range_succ_eq_map,
      List.map_cons, List.map_map]
    congr 1
    refine List.map_congr_left fun k _ => ?_
    rw [List.getElem?_tail]
    rfl

/-- The calls of an opened decoder give the results of the stream, and then its end. -/
theorem take_of_opened {info : Info} {bytes : List UInt8} {exit : Exit} (hwidth : 0 < info.width)
    (hheight : 0 < info.height) (hbuffer : 3 * info.width * info.height ≤ 2 ^ 63 - 1)
    (hopened : decoder.Opened info bytes exit) (calls : Nat) :
    decoder.take calls =
      (List.range calls).map fun k => (results info bytes exit)[k]?.getD (.ok none) := by
  have hlength : 0 < decoder.frameLength := by
    rw [frameLength, hopened.info_eq, Frame.wordLength_of_lt (Nat.lt_of_le_of_lt hbuffer (by decide))]
    exact Nat.mul_pos (Nat.mul_pos three_pos hwidth) hheight
  rw [take_eq_pending hlength, pending_eq_results hbuffer hopened]

/-! ## The frames and the bytes -/

/-- Cut at multiples of a length, the whole pieces are all bytes but the rest. -/
theorem flatMap_slices (length : Nat) (bytes : List UInt8) (count : Nat) :
    (List.range count).flatMap (fun k => (bytes.drop (k * length)).take length) =
      bytes.take (count * length) := by
  induction count with
  | zero => simp
  | succ count ih =>
    rw [List.range_succ, List.flatMap_append, ih, Nat.succ_mul, List.take_add, List.flatMap_singleton]

theorem data_framesIn (info : Info) (bytes : List UInt8) :
    (framesIn info bytes).flatMap (·.data) =
      bytes.take (bytes.length - bytes.length % (3 * info.width * info.height)) := by
  rw [framesIn, List.flatMap_map, flatMap_slices, ← Nat.sub_eq_of_eq_add (Nat.div_add_mod' _ _).symm]

/-- An opened decoder gives the frames of the stream, then the report of a bad end, and from then on the
end of the stream. Starting one opens it on what the program writes. -/
theorem decodes_opened {info : Info} (hwidth : 0 < info.width) (hheight : 0 < info.height)
    (hbuffer : 3 * info.width * info.height ≤ 2 ^ 63 - 1) (bytes : List UInt8) (exit : Exit) :
    (∀ decoder : Decoder, decoder.Opened info bytes exit → Decodes info bytes exit decoder) ∧
    ∀ (host : (request : Request) → request.Answer) (path : Path) (program : Program),
      host (.start (command path)) = .ok program → (program []).output = bytes →
      (program []).exit = exit →
      ∃ decoder, (start path info).run host = .ok decoder ∧ decoder.Opened info bytes exit := by
  constructor
  · intro decoder hopened
    exact {
      take_eq := take_of_opened hwidth hheight hbuffer hopened
      length_framesIn := by rw [framesIn, List.length_map, List.length_range]
      data_framesIn := data_framesIn info bytes }
  · intro host path program hstarted hbytes hexit
    refine ⟨⟨info, 0, [(program []).output], (program []).exit⟩, ?_, rfl, rfl, ?_, hexit⟩
    · rw [start, Session.run_bind, Session.run_start, hstarted]
      rfl
    · rw [List.flatten_singleton, hbytes]

/-- Two frames of one pixel in uneven pieces, a byte too many, and a bad end. -/
theorem decodes_opened_one_pixel :
    let info : Info := ⟨1, 1, ⟨30000, 1001⟩, none⟩
    let bytes : List UInt8 := [1, 2, 3, 4, 5, 6, 7]
    let decoder : Decoder := ⟨info, 0, [[1], [2, 3, 4], [], [5, 6, 7]], .status 3⟩
    let host := answersOf fun _ => ⟨bytes, [], .status 3⟩
    0 < info.width ∧ 0 < info.height ∧ 3 * info.width * info.height ≤ 2 ^ 63 - 1 ∧
      decoder.Opened info bytes (.status 3) ∧
      Decodes info bytes (.status 3) decoder ∧
      decoder.take 5 =
        [.ok (some ⟨1, 1, some ⟨0, ⟨1001, 30000⟩⟩, [1, 2, 3]⟩),
          .ok (some ⟨1, 1, some ⟨1, ⟨1001, 30000⟩⟩, [4, 5, 6]⟩),
          .error (.decoderEnded (.status 3)), .ok none, .ok none] ∧
      ∃ started, (start ⟨"in.mp4".toList⟩ info).run host = .ok started ∧
        started.Opened info bytes (.status 3) := by
  have hopened : Opened ⟨1, 1, ⟨30000, 1001⟩, none⟩ [1, 2, 3, 4, 5, 6, 7] (.status 3)
      ⟨⟨1, 1, ⟨30000, 1001⟩, none⟩, 0, [[1], [2, 3, 4], [], [5, 6, 7]], .status 3⟩ := ⟨rfl, rfl, rfl, rfl⟩
  have hdecodes := @decodes_opened ⟨1, 1, ⟨30000, 1001⟩, none⟩ Nat.one_pos Nat.one_pos
    (by decide) [1, 2, 3, 4, 5, 6, 7] (.status 3)
  exact ⟨Nat.one_pos, Nat.one_pos, by decide, hopened, hdecodes.1 _ hopened, rfl, hdecodes.2 _ _ _ rfl rfl rfl⟩

/-- Frames that no buffer can hold, of a program that ends badly: the end comes at once, and the report of it
never. -/
theorem not_decodes_unbuffered :
    let info : Info := ⟨2147483648, 2147483648, ⟨25, 1⟩, none⟩
    let decoder : Decoder := ⟨info, 0, [], .status 1⟩
    0 < info.width ∧ 0 < info.height ∧ decoder.Opened info [] (.status 1) ∧
      (∀ calls, .error (.decoderEnded (.status 1)) ∉ decoder.take calls) ∧
      ¬ Decodes info [] (.status 1) decoder := by
  have hend : ∀ calls, ∀ result ∈ take calls ⟨⟨2147483648, 2147483648, ⟨25, 1⟩, none⟩, 0, [], .status 1⟩,
      result = .ok none := by
    intro calls
    induction calls with
    | zero => simp [take]
    | succ calls ih =>
      rw [take, next_of_unbuffered (by decide)]
      exact List.forall_mem_cons.mpr ⟨rfl, ih⟩
  have hsilent : ∀ calls, .error (.decoderEnded (.status 1)) ∉
      take calls ⟨⟨2147483648, 2147483648, ⟨25, 1⟩, none⟩, 0, [], .status 1⟩ := by
    intro calls hmem
    cases hend calls _ hmem
  refine ⟨by decide, by decide, ⟨rfl, rfl, rfl, rfl⟩, hsilent, fun hdecodes => hsilent 1 ?_⟩
  rw [hdecodes.take_eq 1]
  exact List.mem_singleton_self _

end Decoder

end FrameTransition.Video
