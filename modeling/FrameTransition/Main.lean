import FrameTransition.CommandLine.Run
import FrameTransition.Config.Document
import FrameTransition.Glsl.Compile

/-!
# The program

The command line, carried out on the system the program runs on. Files are real. Other programs and
graphics devices are out of reach from here, so none is installed and none can be acquired; a job then
ends with the report of that. There is nothing an interrupt would have to finish, so it ends the program.
-/

namespace FrameTransition

/-- The cause of a refused file operation. -/
def FileError.ofSystem (error : IO.Error) : FileError :=
  match error with
  | .noFileOrDirectory _ _ _ => .notFound
  | .alreadyExists _ _ _ => .alreadyExists
  | .inappropriateType _ code _ => if code = 20 then .notDirectory else .isDirectory
  | error => .other (toString error)

/-- Why no device is acquired. -/
def noDevice : String := "no graphics device is available"

/-- Answers a request on the system. -/
def answerOnSystem : (request : Request) → IO request.Answer
  | .readFile path => do
    match ← (IO.FS.readBinFile path.toString).toBaseIO with
    | .ok bytes => return .ok bytes.toList
    | .error error => return .error (.ofSystem error)
  | .createDirectories path => do
    match ← (IO.FS.createDirAll path.toString).toBaseIO with
    | .ok () => return .ok ()
    | .error error => return .error (.ofSystem error)
  | .writeFile path content => do
    match ← (IO.FS.writeBinFile path.toString ⟨content.toArray⟩).toBaseIO with
    | .ok () => return .ok ()
    | .error error => return .error (.ofSystem error)
  | .start _ => return .error .notFound
  | .handleInterrupts => return .ok ()
  | .acquire _ _ => return .error (.contextCreationFailed noDevice)
  | .draw _ => return .error noDevice

end FrameTransition

open FrameTransition in
/-- Carries out the command line and gives its exit code. -/
def main (arguments : List String) : IO UInt32 := do
  let invocation := CommandLine.Invocation.ofWords (arguments.map (·.toList))
  let outcome ← (invocation.carryOut Glsl.compile Document.reader).interpret answerOnSystem
  match outcome with
  | .help => IO.print CommandLine.usageText
  | other => IO.eprint other.complaint
  return UInt32.ofNat outcome.code
