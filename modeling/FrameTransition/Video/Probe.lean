import FrameTransition.Session
import FrameTransition.Video.Info

/-!
# Probing a video

`ffprobe` prints the parameters of a stream as lines `key=value`. Four keys matter; of several lines with
one key the last counts, and a value that cannot be read takes back an earlier one.
-/

namespace FrameTransition.Video

/-- The parameters read so far. -/
structure Probed where
  width : Option Nat
  height : Option Nat
  rate : Option Rate
  duration : Option Number
  deriving DecidableEq

namespace Probed

/-- Nothing read. -/
def empty : Probed := ⟨none, none, none, none⟩

/-- Takes in the value of a key. -/
def set (probed : Probed) (key value : List Char) : Probed :=
  if key = "width".toList then { probed with width := Decimal.unsigned32? value }
  else if key = "height".toList then { probed with height := Decimal.unsigned32? value }
  else if key = "r_frame_rate".toList then { probed with rate := Rate.ofChars? value }
  else if key = "duration".toList then { probed with duration := Decimal.binary64? value }
  else probed

/-- Takes in a line. A line without an equals sign says nothing. -/
def readLine (probed : Probed) (line : List Char) : Probed :=
  match Text.splitOnce? '=' (Text.trim line) with
  | some (key, value) => probed.set key value
  | none => probed

/-- The stream, if nothing it needs is missing. -/
def info (probed : Probed) : Except VideoError Info := do
  let some width := probed.width | throw .noWidth
  let some height := probed.height | throw .noHeight
  let some rate := probed.rate | throw .noRate
  return { width, height, rate, duration := probed.duration }

end Probed

/-- The stream that the text of a probe describes. -/
def parseProbe (text : List Char) : Except VideoError Info :=
  ((Text.lines text).foldl Probed.readLine Probed.empty).info

/-- The command that asks for the first video stream of a file. -/
def probeCommand (path : Path) : Command :=
  .around "ffprobe"
    ["-v", "error", "-select_streams", "v:0", "-show_entries",
      "stream=width,height,r_frame_rate,duration", "-of", "default=noprint_wrappers=1"]
    path.text []

/-- The stream that a finished probe found. -/
def infoOfCompletion (completion : Completion) : Except VideoError Info :=
  if completion.exit.isSuccess then do
    let text ← (Utf8.decode? completion.output).mapError .probeNotText
    parseProbe text
  else .error (.probeFailed (Utf8.decodeLossy completion.errors))

/-- Asks for the first video stream of a file. -/
def probe (path : Path) : Session (Except VideoError Info) := do
  match ← Session.start (probeCommand path) with
  | .error cause => return .error (.probeNotStarted cause)
  | .ok program => return infoOfCompletion (program [])

/-- The command that asks `ffmpeg` for its version. -/
def versionCommand : Command := ⟨"ffmpeg", ["-version".toList]⟩

/-- `ffmpeg` can be started and is well. -/
def isInstalled : Session Bool := do
  match ← Session.start versionCommand with
  | .error _ => return false
  | .ok program => return (program []).exit.isSuccess

end FrameTransition.Video
