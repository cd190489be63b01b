import FrameTransition.Session
import FrameTransition.Video.Info
import FrameTransition.Video.Pieces

/-!
# Decoding

`ffmpeg` writes the frames of a video one after the other as packed RGB. The decoder cuts its output
into frames and numbers them. A rest too short for a frame is left out; a bad end is reported once, after
the frames. Where no buffer can hold a frame nothing is read, and the end comes without a report.
-/

namespace FrameTransition.Video

/-- A decoder, with what it has not handed out yet. -/
structure Decoder where
  info : Info
  /-- The index of the next frame. -/
  index : Nat
  /-- Output that was not cut into frames yet. -/
  output : Pieces
  /-- How the program ended, until that was reported. -/
  exit : Exit
  deriving DecidableEq

namespace Decoder

/-- The command that writes a video's frames. -/
def command (path : Path) : Command :=
  .around "ffmpeg" ["-v", "error", "-i"] path.text ["-f", "rawvideo", "-pix_fmt", "rgb24", "-"]

/-- Starts decoding. -/
def start (path : Path) (info : Info) : Session (Except VideoError Decoder) := do
  match ← Session.start (command path) with
  | .error cause => return .error (.decoderNotStarted cause)
  | .ok program =>
    let completion := program []
    return .ok ⟨info, 0, [completion.output], completion.exit⟩

/-- The bytes of a frame. -/
def frameLength (decoder : Decoder) : Nat :=
  Frame.wordLength decoder.info.width decoder.info.height

/-- The next frame, `none` after the last. A stream of frames without pixels never ends. -/
def next (decoder : Decoder) : Except VideoError (Option Frame) × Decoder :=
  if Pixels.largestBuffer < decoder.frameLength then (.ok none, decoder)
  else
    match decoder.output.take? decoder.frameLength with
    | some (data, output) =>
      (.ok (some (decoder.info.frame decoder.index data)),
        { decoder with index := decoder.index + 1, output })
    | none =>
      if decoder.exit.isSuccess then (.ok none, decoder)
      else (.error (.decoderEnded decoder.exit), { decoder with exit := .success })

/-- A frame that has bytes leaves fewer. -/
theorem length_flatten_next_lt {decoder later : Decoder} {frame : Frame} (hlength : decoder.frameLength ≠ 0)
    (h : decoder.next = (.ok (some frame), later)) :
    later.output.flatten.length < decoder.output.flatten.length := by
  unfold next at h
  split at h
  · cases h
  · split at h
    · next bytes output htaken =>
      cases h
      obtain ⟨hbytes, hflatten⟩ := Pieces.flatten_take? htaken
      rw [← hflatten, List.length_append, hbytes]
      exact Nat.lt_add_of_pos_left (Nat.pos_of_ne_zero hlength)
    · split at h <;> cases h

/-- The results of a number of calls of `next`. -/
def take : Nat → Decoder → List (Except VideoError (Option Frame))
  | 0, _ => []
  | n + 1, decoder => decoder.next.1 :: take n decoder.next.2

end Decoder

end FrameTransition.Video
