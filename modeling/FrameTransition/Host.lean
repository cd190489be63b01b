import FrameTransition.Session

/-!
# A host described by data

Files, the programs that can be started, and a drawing device, all as values. `Host.answer` answers any
request and keeps what the request changed, so a session can be run and its effects looked at. Such a host
is never interrupted.
-/

namespace FrameTransition

/-- What acquiring a device comes to. -/
inductive DeviceOffer where
  /-- None is to be had, for a reason. -/
  | refused (reason : String)
  /-- One that draws nothing, within limits. -/
  | limited (limits : Render.Limits)

/-- A program that can be started: what it does, by its arguments. -/
structure Installed where
  name : String
  behaviour : List (List Char) → Program

/-- A host and what has been asked of it. -/
structure Host where
  files : FileSystem
  programs : List Installed
  /-- What asking for interrupts to be handled comes to. -/
  handler : Except HandlerError Unit
  device : DeviceOffer
  /-- The commands started so far, the last one first. -/
  started : List Command

namespace Host

/-- A host with files, but no programs and no device. -/
def ofFiles (files : FileSystem) : Host :=
  ⟨files, [], .ok (), .refused "no device", []⟩

/-- The program of a name. -/
def program? (host : Host) (name : String) : Option Installed :=
  host.programs.find? fun program => program.name = name

/-- The arguments that a program was last started with. -/
def argumentsOf? (host : Host) (name : String) : Option (List (List Char)) :=
  (host.started.find? fun command => command.program = name).map (·.arguments)

/-- Starts a program. An argument no program can be given is refused before the program is looked for. -/
def start (host : Host) (command : Command) : Except FileError Program × Host :=
  if command.isSound then
    match host.program? command.program with
    | some program =>
      (.ok (program.behaviour command.arguments), { host with started := command :: host.started })
    | none => (.error .notFound, host)
  else (.error .nulInArgument, host)

/-- Answers a request, with the host after it. -/
def answer : (r : Request) → StateM Host r.Answer
  | .readFile path => fun host => (host.files.read path, host)
  | .createDirectories path => fun host =>
    match host.files.createDirectories path with
    | .ok files => (.ok (), { host with files })
    | .error cause => (.error cause, host)
  | .writeFile path content => fun host =>
    match host.files.write path content with
    | .ok files => (.ok (), { host with files })
    | .error cause => (.error cause, host)
  | .start command => fun host => host.start command
  | .handleInterrupts => fun host => (host.handler, host)
  | .acquire width height => fun host =>
    match host.device with
    | .refused reason => (.error (.contextCreationFailed reason), host)
    | .limited limits => (limits.checkSize width height, host)
  | .draw drawing => fun host => (.ok (.blank drawing.target.size), host)

/-- Runs a session on a host. -/
def run {α : Type} (host : Host) (session : Session α) : α × Host :=
  session.interpret answer host

end Host

end FrameTransition
