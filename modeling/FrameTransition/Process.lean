import FrameTransition.Text.Utf8

/-!
# Programs that are run

A program that was started is known by what it does with its input: it writes to its two outputs and
ends. Its arguments are given when it is started and are part of the command.
-/

namespace FrameTransition

/-- How a program ended. -/
inductive Exit where
  /-- By itself, with a status. -/
  | status (code : Nat)
  /-- By a signal. -/
  | signal (number : Nat) (name : String)
  deriving DecidableEq

namespace Exit

/-- The end of a program that did what it was asked. -/
def success : Exit := status 0

/-- The end of a program that was stopped from outside. -/
def killed : Exit := signal 9 "SIGKILL"

def isSuccess (exit : Exit) : Bool := exit = success

def message : Exit → String
  | status code => s!"exit status: {code}"
  | signal number name => s!"signal: {number} ({name})"

end Exit

/-- A program's name and the arguments it is started with. -/
structure Command where
  program : String
  arguments : List (List Char)
  deriving DecidableEq

namespace Command

/-- A command with one path among its arguments. -/
def around (program : String) (before : List String) (path : List Char) (after : List String) : Command :=
  ⟨program, before.map (·.toList) ++ path :: after.map (·.toList)⟩

/-- An argument cannot hold a NUL character. -/
def isSound (command : Command) : Bool :=
  command.arguments.all fun argument => !argument.contains '\x00'

end Command

/-- Why interrupts are not handled, in the words of the system, with a cause if there is one. -/
structure HandlerError where
  message : String
  cause? : Option String
  deriving DecidableEq

/-- What a program wrote and how it ended. -/
structure Completion where
  output : List UInt8
  errors : List UInt8
  exit : Exit
  deriving DecidableEq

/-- A started program, as what it does with its input. -/
abbrev Program := List UInt8 → Completion

/-- A program of fixed answers, to stand in for a real one. Asked for its version it says nothing; told
to read from a pipe it takes its input in silence; otherwise it writes its answers. -/
def Program.fixed (output errors : List UInt8) (exit : Exit) (arguments : List (List Char)) : Program :=
  fun _ =>
    if arguments = ["-version".toList] ∨ arguments.any (· = "pipe:0".toList) then ⟨[], [], exit⟩
    else ⟨output, errors, exit⟩

end FrameTransition
