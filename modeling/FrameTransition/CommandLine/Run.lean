import FrameTransition.CommandLine.Arguments
import FrameTransition.Config.Load
import FrameTransition.Image.Open
import FrameTransition.Render.Renderer
import FrameTransition.Video.Probe

/-!
# Carrying out a command line

A job gets ready for its first frame in steps, and the first step that fails ends it. For a video: the
encoder is installed, interrupts are handled, the probe describes the stream, and the frame rate asked for
can be read. For a still image: the image opens. Then for both: the parameters are read, they make a
configuration, and the renderer is configured for the size found. None of the steps writes anything.

Left out are the log, with the throughput that is written to it while frames are drawn, and the choice of
the device: whether one without hardware support is accepted is the host's to know.
-/

namespace FrameTransition.CommandLine

open Render (Renderer)
open Image (ImageError)
open Video (VideoError)

/-- Why a job ended. -/
inductive Failure where
  | encoderMissing
  | interrupts (error : HandlerError)
  | video (error : VideoError)
  | rate (text : List Char)
  | image (path : Path) (error : ImageError)
  | config (path : Path) (error : LoadError)
  | transition (error : TransitionError)
  /-- A drawn frame that does not fill a picture of its size. -/
  | incomplete (width height : Nat)
  | picture (path : Path) (error : ImageError)
  deriving DecidableEq

namespace Failure

/-- The sentence about a failure. -/
def message : Failure → String
  | encoderMissing => "ffmpeg was not found on PATH"
  | interrupts error => error.message
  | video error => error.message
  | rate text => "invalid frame rate \x27" ++ String.ofList text ++ "\x27"
  | image path _ => "failed to open image " ++ path.shown
  | config path _ => "failed to read config " ++ path.shown
  | transition error => error.message
  | incomplete width height => s!"rendered frame does not fit a {width}x{height} image"
  | picture path _ => "failed to write image " ++ path.shown

/-- What is below a failure, where that has a sentence of its own. -/
def cause? : Failure → Option String
  | interrupts error => error.cause?
  | image _ error => some error.message
  | config _ error => some error.message
  | transition error => error.cause?
  | picture _ error => some error.message
  | _ => none

/-- The report of a failure: its sentence, then the cause on a line of its own. -/
def report (failure : Failure) : String :=
  match failure.cause? with
  | some cause => "Error: " ++ failure.message ++ "\n\nCaused by:\n    " ++ cause ++ "\n"
  | none => "Error: " ++ failure.message ++ "\n"

end Failure

/-- A session that may end in a failure. -/
abbrev Attempt := ExceptT Failure Session

/-- Goes on with the value of a session, or ends in its error. -/
def attempt {ε α : Type} (failure : ε → Failure) (session : Session (Except ε α)) : Attempt α :=
  ExceptT.mk (Except.mapError failure <$> session)

/-- Goes on with a value, or ends in an error. -/
def demand {ε α : Type} (failure : ε → Failure) (outcome : Except ε α) : Attempt α :=
  ExceptT.mk (Pure.pure (outcome.mapError failure))

/-- The rate of the frames: the one asked for, or the one the stream has. -/
def rateOf (stream : Video.Info) : Option (List Char) → Except Failure Video.Rate
  | none => .ok stream.rate
  | some text =>
    match Video.Rate.ofChars? text with
    | some rate => .ok rate
    | none => .error (.rate text)

/-- Refuses to go on without `ffmpeg`. -/
def requireEncoder : Attempt Unit := do
  if ← ExceptT.lift Video.isInstalled then return () else throw .encoderMissing

/-- The stream of a video, at the rate asked for. -/
def openVideo (path : Path) (rate : Option (List Char)) : Attempt Video.Info := do
  requireEncoder
  attempt .interrupts Session.handleInterrupts
  let stream ← attempt .video (Video.probe path)
  return { stream with rate := ← demand id (rateOf stream rate) }

/-- What a job found to draw. -/
inductive Material (reader : Image.Reader) where
  | video (stream : Video.Info)
  /-- A picture, and the time at which it is shown. -/
  | still (picture : reader.Picture) (seconds : Number)

/-- The width and height of the frames. -/
def Material.size {reader : Image.Reader} : Material reader → Nat × Nat
  | video stream => (stream.width, stream.height)
  | still picture _ => ((reader.size picture).width, (reader.size picture).height)

/-- Opens what a job reads. -/
def Job.material (reader : Image.Reader) (job : Job) : Attempt (Material reader) :=
  match job.task with
  | .video rate => return .video (← openVideo job.input rate)
  | .still seconds => return .still (← attempt (.image job.input) (reader.open job.input)) seconds

/-- The parameters in a job's file, and the directory that paths in it start from. -/
def Job.written (documents : RecordReader) (job : Job) : Attempt (Parameters × Option Path) :=
  match job.config with
  | some path => do
    let parameters ← attempt (.config path) (Parameters.load documents path)
    return (parameters, path.parent?)
  | none => return (.none, none)

/-- The configuration of a job's transition. -/
def Job.transition (documents : RecordReader) (job : Job) : Attempt Config := do
  let (parameters, base) ← job.written documents
  demand .transition (parameters.resolve base job.overrides)

/-- The renderer of a transition, ready for the first frame of a size. -/
def rendererFor (compile : Shader.Compiler) (config : Config) (size : Nat × Nat) : Attempt Renderer := do
  let (outcome, renderer) ← ExceptT.lift ((Renderer.new config).configure compile size.1 size.2)
  demand .transition outcome
  return renderer

/-- What a job draws, and its renderer, ready for the first frame. -/
def Job.prepare (compile : Shader.Compiler) (reader : Image.Reader) (documents : RecordReader)
    (job : Job) : Attempt (Material reader × Renderer) := do
  let material ← job.material reader
  let config ← job.transition documents
  let renderer ← rendererFor compile config material.size
  return (material, renderer)

/-- What carrying out a command line comes to. -/
inductive Outcome where
  | help
  | usage
  | failed (failure : Failure)
  /-- Everything is ready for the first frame. -/
  | ready (renderer : Renderer)
  /-- Every frame was drawn and the output is there. -/
  | finished (renderer : Renderer)

/-- The exit code of an outcome. -/
def Outcome.code : Outcome → Nat
  | help => 0
  | usage => 2
  | failed _ => 1
  | ready _ => 0
  | finished _ => 0

/-- What the command line can hold. -/
def usageText : String :=
  "usage: frame-transition video --input PATH --output PATH [--fps RATE] [OPTIONS]\n" ++
  "       frame-transition still --input PATH --output PATH [--time SECONDS] [OPTIONS]\n" ++
  "\n" ++
  "  -i, --input PATH        video or image to read\n" ++
  "  -o, --output PATH       video or image to write\n" ++
  "      --fps RATE          frame rate, such as 25 or 30000/1001\n" ++
  "  -t, --time SECONDS      time at which a still image is shown (0)\n" ++
  "  -d, --duration SECONDS  length of the transition\n" ++
  "      --offset SECONDS    delay before the transition\n" ++
  "  -s, --source PATH       GLSL file with a vec4 transition(vec2 uv)\n" ++
  "  -c, --config PATH       YAML file with duration, offset and source\n" ++
  "      --allow-software    accept a device without hardware support\n" ++
  "  -h, --help              show this text\n"

/-- What an outcome puts on the output for errors. -/
def Outcome.complaint : Outcome → String
  | usage => usageText
  | failed failure => failure.report
  | _ => ""

/-- Carries out what a command line asks for, up to the first frame. Help and a command line that does not
fit ask nothing of the host. -/
def Invocation.carryOut (compile : Shader.Compiler) (documents : RecordReader) :
    Invocation → Session Outcome
  | help => return .help
  | usage => return .usage
  | run job => do
    match ← (job.prepare compile Image.netpbm documents).run with
    | .ok (_, renderer) => return .ready renderer
    | .error failure => return .failed failure

end FrameTransition.CommandLine
