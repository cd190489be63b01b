import FrameTransition.CommandLine.Run
import FrameTransition.Video.Decoder
import FrameTransition.Video.Encoder

/-!
# Carrying out a command line to its end

Once a job is ready for its first frame, a video is decoded, drawn and encoded frame by frame, and a still
image is drawn once and written. An interrupt ends a video early: the frames that were drawn make the
output. Whether one has come is looked up before every frame, so it is an argument here, by the number of
frames drawn before.
-/

namespace FrameTransition.CommandLine

open Render (Renderer)
open Video (Decoder Encoder)

/-- Draws the frames of a decoder one after the other and passes them on, each in the frame of the one
before. It ends with the frames, or when it is interrupted. -/
def drawFrames (interrupted : Nat → Bool) (renderer : Renderer) (rendered : Frame) (decoder : Decoder)
    (encoder : Encoder) (frames : Nat) : Attempt (Renderer × Encoder) :=
  -- A renderer has a size with pixels, and a decoder of its size has frames with bytes.
  if _hframe : interrupted frames ∨ decoder.frameLength = 0 then return (renderer, encoder)
  else
    match _hnext : decoder.next with
    | (.error error, _) => throw (.video error)
    | (.ok none, _) => return (renderer, encoder)
    | (.ok (some frame), later) => do
      let seconds := (frame.timestamp.map (·.seconds)).getD (.real 0)
      let (drawn, renderer) ← ExceptT.lift (renderer.renderInto frame seconds rendered)
      let _ ← demand .transition drawn.result
      let (passed, encoder) := encoder.write drawn.output
      demand .video passed
      drawFrames interrupted renderer drawn.output later encoder (frames + 1)
termination_by decoder.output.flatten.length
decreasing_by exact Decoder.length_flatten_next_lt (fun hzero => _hframe (.inr hzero)) _hnext

/-- Draws a video into an output file. -/
def drawVideo (interrupted : Nat → Bool) (job : Job) (stream : Video.Info) (renderer : Renderer) :
    Attempt Renderer := do
  let decoder ← attempt .video (Decoder.start job.input stream)
  let encoder ← attempt .video (Encoder.start job.output stream.width stream.height stream.rate)
  let (renderer, encoder) ←
    drawFrames interrupted renderer (.blank stream.width stream.height) decoder encoder 0
  demand .video encoder.finish
  return renderer.teardown

/-- Draws a picture into an output file. -/
def drawStill (library : Image.Library) (job : Job) (picture : library.Picture) (seconds : Number)
    (renderer : Renderer) : Attempt Renderer := do
  let size := library.size picture
  let frame : Frame := ⟨size.width, size.height, none, library.pixels picture⟩
  let (outcome, renderer) ← ExceptT.lift (renderer.render frame seconds)
  let rendered ← demand .transition outcome
  if rendered.data.length < Frame.byteLength size.width size.height then
    throw (.incomplete size.width size.height)
  let content ← demand (.picture job.output) (library.encode job.output size rendered.data)
  attempt (.picture job.output ∘ .file) (Session.writeFile job.output content)
  return renderer.teardown

/-- Draws what a job has found. -/
def Job.draw (library : Image.Library) (interrupted : Nat → Bool) (job : Job) (renderer : Renderer) :
    Material library.toReader → Attempt Renderer
  | .video stream => drawVideo interrupted job stream renderer
  | .still picture seconds => drawStill library job picture seconds renderer

/-- Carries out a job. -/
def Job.carryOut (compile : Shader.Compiler) (library : Image.Library) (documents : RecordReader)
    (interrupted : Nat → Bool) (job : Job) : Attempt Renderer := do
  let (material, renderer) ← job.prepare compile library.toReader documents
  job.draw library interrupted renderer material

/-- Carries out what a command line asks for. -/
def Invocation.complete (compile : Shader.Compiler) (library : Image.Library)
    (documents : RecordReader) (interrupted : Nat → Bool) : Invocation → Session Outcome
  | help => return .help
  | usage => return .usage
  | run job => do
    match ← (job.carryOut compile library documents interrupted).run with
    | .ok renderer => return .finished renderer
    | .error failure => return .failed failure

end FrameTransition.CommandLine
