import FrameTransition.Decimal.Read
import FrameTransition.Frame
import FrameTransition.Process
import FrameTransition.Path
import FrameTransition.Text.Blank

/-!
# Video streams

What is known of a stream of frames, how a frame rate is read, and what can go wrong between a video
file and its frames.
-/

namespace FrameTransition.Video

/-- Frames per second as a fraction. -/
structure Rate where
  numerator : Int
  denominator : Int
  deriving DecidableEq

/-- A rate reads `30000/1001` or `25`. Both parts are positive, fit a signed 32-bit word, and may have
blanks around them. -/
def Rate.ofChars? (text : List Char) : Option Rate :=
  let parts := match Text.splitOnce? '/' text with
    | some (numerator, denominator) =>
      (Decimal.signed32? (Text.trim numerator)).bind fun n =>
        (Decimal.signed32? (Text.trim denominator)).map fun d => (n, d)
    | none => (Decimal.signed32? (Text.trim text)).map fun n => (n, 1)
  parts.bind fun (n, d) => if 0 < n ∧ 0 < d then some ⟨n, d⟩ else none

/-- A rate as it is passed to a program. -/
def Rate.text (rate : Rate) : String :=
  s!"{rate.numerator}/{rate.denominator}"

/-- The parameters of a stream. -/
structure Info where
  width : Nat
  height : Nat
  rate : Rate
  /-- Seconds, if the container says. -/
  duration : Option Number
  deriving DecidableEq

namespace Info

/-- One tick a frame. -/
def timeBase (info : Info) : TimeBase :=
  ⟨info.rate.denominator, info.rate.numerator⟩

/-- Frames per second as a number; zero for a zero denominator. -/
def framesPerSecond (info : Info) : Number :=
  let round := Format.binary64.round
  if info.rate.denominator = 0 then .real 0
  else Number.div round (Number.ofInt round info.rate.numerator) (Number.ofInt round info.rate.denominator)

/-- When a frame is shown. -/
def timestamp (info : Info) (index : Int) : Timestamp :=
  ⟨index, info.timeBase⟩

/-- A frame of the stream. -/
def frame (info : Info) (index : Nat) (data : List UInt8) : Frame where
  width := info.width
  height := info.height
  timestamp := some (info.timestamp index)
  data := data

end Info

/-- What can go wrong with a video. -/
inductive VideoError where
  | probeNotStarted (cause : FileError)
  | probeFailed (complaint : List Char)
  | probeNotText (fault : Utf8.Fault)
  | noWidth
  | noHeight
  | noRate
  | decoderNotStarted (cause : FileError)
  | decoderEnded (exit : Exit)
  | noOutputDirectory (directory : Path) (cause : FileError)
  | encoderNotStarted (cause : FileError)
  | frameSize (actualWidth actualHeight expectedWidth expectedHeight : Nat)
  | encoderEnded (exit : Exit)
  deriving DecidableEq

/-- The sentence about an error, its cause included. -/
def VideoError.message : VideoError → String
  | probeNotStarted cause => "Failed to run ffprobe: " ++ cause.message
  | probeFailed complaint => "ffprobe failed: " ++ String.ofList complaint
  | probeNotText fault => fault.message
  | noWidth => "ffprobe reported no width"
  | noHeight => "ffprobe reported no height"
  | noRate => "ffprobe reported no usable frame rate"
  | decoderNotStarted cause => "Failed to spawn ffmpeg: " ++ cause.message
  | decoderEnded exit => "ffmpeg decoder exited with " ++ exit.message
  | noOutputDirectory directory cause =>
    "failed to create output directory \x27" ++ directory.toString ++ "\x27: " ++ cause.message
  | encoderNotStarted cause =>
    "failed to spawn ffmpeg (is it installed and on PATH?): " ++ cause.message
  | frameSize actualWidth actualHeight expectedWidth expectedHeight =>
    s!"frame size mismatch: got {actualWidth}x{actualHeight}, expected {expectedWidth}x{expectedHeight}"
  | encoderEnded exit => "ffmpeg encoder exited with " ++ exit.message

end FrameTransition.Video
