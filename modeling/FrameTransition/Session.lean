import FrameTransition.FileSystem
import FrameTransition.Process
import FrameTransition.Render.Device

/-!
# Talking to the host

What the library does outside itself is a `Session`: a program as data, that either is done or asks one
`Request` and goes on with its answer. A session does nothing by itself. `Session.interpret` runs it
over any monad that can answer requests, so the same session runs against real files and against a host
described by data, and its requests in order are a fact about the session.
-/

namespace FrameTransition

/-- What a session can ask of its host. -/
inductive Request where
  | readFile (path : Path)
  /-- A directory and the missing ones above it. -/
  | createDirectories (path : Path)
  /-- A file is made or written over. -/
  | writeFile (path : Path) (content : List UInt8)
  | start (command : Command)
  /-- Interrupts are no longer to end the program, but to be told of. -/
  | handleInterrupts
  /-- A drawing device for one size of picture. -/
  | acquire (width height : Nat)
  | draw (drawing : Render.Drawing)
  deriving DecidableEq

/-- The type of a request's answer. -/
abbrev Request.Answer : Request → Type
  | readFile _ => Except FileError (List UInt8)
  | createDirectories _ => Except FileError Unit
  | writeFile _ _ => Except FileError Unit
  | start _ => Except FileError Program
  | handleInterrupts => Except HandlerError Unit
  | acquire _ _ => Except TransitionError Unit
  | draw drawing => Except String (Render.Readback drawing.target.size)

/-- A computation that asks its host. -/
inductive Session (α : Type) where
  | done (value : α)
  | ask (request : Request) (next : request.Answer → Session α)

namespace Session

variable {α β : Type}

/-- Goes on with the value a session ends in. -/
def bind : Session α → (α → Session β) → Session β
  | done value, f => f value
  | ask request next, f => ask request fun answer => (next answer).bind f

instance : Monad Session where
  pure := done
  bind := bind

/-- Asks one request. -/
def request (r : Request) : Session r.Answer := ask r done

def readFile (path : Path) : Session (Except FileError (List UInt8)) := request (.readFile path)

def createDirectories (path : Path) : Session (Except FileError Unit) :=
  request (.createDirectories path)

def writeFile (path : Path) (content : List UInt8) : Session (Except FileError Unit) :=
  request (.writeFile path content)

def start (command : Command) : Session (Except FileError Program) := request (.start command)

def handleInterrupts : Session (Except HandlerError Unit) := request .handleInterrupts

def acquire (width height : Nat) : Session (Except TransitionError Unit) :=
  request (.acquire width height)

def draw (drawing : Render.Drawing) : Session (Except String (Render.Readback drawing.target.size)) :=
  request (.draw drawing)

/-- Runs a session, its requests answered in some monad. -/
def interpret {m : Type → Type} [Monad m] (host : (r : Request) → m r.Answer) : Session α → m α
  | done value => Pure.pure value
  | ask r next => do
    let answer ← host r
    (next answer).interpret host

/-- Runs a session against answers that do not depend on what was asked before. -/
def run (host : (r : Request) → r.Answer) : Session α → α
  | done value => value
  | ask r next => (next (host r)).run host

/-- The requests a session makes of such a host, in order. -/
def trace (host : (r : Request) → r.Answer) : Session α → List Request
  | done _ => []
  | ask r next => r :: (next (host r)).trace host

@[simp] theorem run_pure (host : (r : Request) → r.Answer) (value : α) :
    (Pure.pure value : Session α).run host = value := rfl

@[simp] theorem trace_pure (host : (r : Request) → r.Answer) (value : α) :
    (Pure.pure value : Session α).trace host = [] := rfl

@[simp] theorem run_start (host : (r : Request) → r.Answer) (command : Command) :
    (start command).run host = host (.start command) := rfl

@[simp] theorem run_bind (host : (r : Request) → r.Answer) (s : Session α) (f : α → Session β) :
    (s >>= f).run host = (f (s.run host)).run host := by
  induction s with
  | done value => rfl
  | ask r next ih => exact ih (host r)

@[simp] theorem trace_bind (host : (r : Request) → r.Answer) (s : Session α) (f : α → Session β) :
    (s >>= f).trace host = s.trace host ++ (f (s.run host)).trace host := by
  induction s with
  | done value => rfl
  | ask r next ih =>
    show r :: ((next (host r)) >>= f).trace host = _
    rw [ih (host r)]
    rfl

theorem bind_assoc {γ : Type} (s : Session α) (f : α → Session β) (g : β → Session γ) :
    (s.bind f).bind g = s.bind fun value => (f value).bind g := by
  induction s with
  | done value => rfl
  | ask r next ih => exact congrArg (ask r) (funext ih)

theorem bind_done_right (s : Session α) : s.bind done = s := by
  induction s with
  | done value => rfl
  | ask r next ih => exact congrArg (ask r) (funext ih)

instance : LawfulMonad Session :=
  LawfulMonad.mk' Session bind_done_right (fun _ _ => rfl) bind_assoc

end Session

end FrameTransition
