import FrameTransition.Session
import FrameTransition.Video.Info

/-!
# Encoding

Frames of one size are passed to `ffmpeg` one after the other as packed RGB. A frame of another size, or
one whose data does not fill its size, is refused and nothing of it is passed on.
-/

namespace FrameTransition.Video

/-- An encoder and what it has passed on. -/
structure Encoder where
  width : Nat
  height : Nat
  program : Program
  /-- The data of the frames passed on, the last one first. -/
  written : List (List UInt8)

namespace Encoder

/-- The command that encodes frames of a size and rate. -/
def command (path : Path) (width height : Nat) (rate : Rate) : Command :=
  .around "ffmpeg"
    ["-y", "-loglevel", "error", "-f", "rawvideo", "-pix_fmt", "rgb24",
      "-s", s!"{width}x{height}", "-r", rate.text,
      "-i", "pipe:0", "-an", "-c:v", "libx264", "-pix_fmt", "yuv420p"]
    path.text []

/-- Creates the directory an output file goes to. A path without a directory needs none. -/
def prepareDirectory (path : Path) : Session (Except VideoError Unit) :=
  match path.parent? with
  | none => return .ok ()
  | some directory =>
    if directory.text = [] then return .ok ()
    else do
      let outcome ← Session.createDirectories directory
      return outcome.mapError (.noOutputDirectory directory ·)

/-- Starts encoding into a file. -/
def start (path : Path) (width height : Nat) (rate : Rate) : Session (Except VideoError Encoder) := do
  match ← prepareDirectory path with
  | .error error => return .error error
  | .ok () =>
    match ← Session.start (command path width height rate) with
    | .error cause => return .error (.encoderNotStarted cause)
    | .ok program => return .ok ⟨width, height, program, []⟩

/-- The frames an encoder takes. -/
def accepts (encoder : Encoder) (frame : Frame) : Bool :=
  frame.width = encoder.width ∧ frame.height = encoder.height ∧ frame.isPacked

/-- Passes on a frame. A refused frame leaves the encoder as it is. -/
def write (encoder : Encoder) (frame : Frame) : Except VideoError Unit × Encoder :=
  if encoder.accepts frame then
    (.ok (), { encoder with written := frame.data :: encoder.written })
  else
    (.error (.frameSize frame.width frame.height encoder.width encoder.height), encoder)

/-- The bytes passed on, in order. -/
def sent (encoder : Encoder) : List UInt8 :=
  encoder.written.reverse.flatten

/-- Ends the input and waits for the program. -/
def finish (encoder : Encoder) : Except VideoError Unit :=
  let exit := (encoder.program encoder.sent).exit
  if exit.isSuccess then .ok () else .error (.encoderEnded exit)

/-- The outcomes of a sequence of writes, and the encoder after them. -/
def writeAll (encoder : Encoder) : List Frame → List (Except VideoError Unit) × Encoder
  | [] => ([], encoder)
  | frame :: frames =>
    let (outcome, after) := encoder.write frame
    let (outcomes, final) := after.writeAll frames
    (outcome :: outcomes, final)

end Encoder

end FrameTransition.Video
