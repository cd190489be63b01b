import FrameTransition.Config.Basic
import FrameTransition.Decimal.Read

/-!
# Command lines

A command line names a task, `video` or `still`, and gives it options. It is read from left to right: an
option that takes a value waits for it until the next option, the end, or a call for help, and is settled
there. Settling refuses an option without a value, one that was given before, and a value that cannot be
read. So a fault counts only if the reading gets to it before a call for help.

A value stands behind its option (`--fps 25`, `-d 2`) or is attached to it (`--fps=25`, `-d=2`, `-d2`).
Only an attached value can start with a dash, the lone dash apart. Option names are never abbreviated.
-/

namespace FrameTransition.CommandLine

/-- What a command line asks for when it fits. -/
inductive Task where
  /-- Every frame of a video, perhaps at another frame rate, which is not read yet. -/
  | video (rate : Option (List Char))
  /-- One image, shown at a time. -/
  | still (time : Number)
  deriving DecidableEq

/-- A task with all it needs. -/
structure Job where
  task : Task
  input : Path
  output : Path
  /-- What the options say of the transition. -/
  overrides : Parameters
  /-- The file with the rest of the transition's parameters. -/
  config : Option Path
  allowSoftware : Bool
  deriving DecidableEq

/-- What a command line comes to. -/
inductive Invocation where
  | help
  /-- The command line does not fit. -/
  | usage
  | run (job : Job)
  deriving DecidableEq

/-! ## Options -/

/-- The kinds of task. -/
inductive TaskKind where
  | video
  | still
  deriving DecidableEq

def TaskKind.ofName? (name : List Char) : Option TaskKind :=
  if name = "video".toList then some .video
  else if name = "still".toList then some .still
  else none

/-- The options with a value. -/
inductive Key where
  | input
  | output
  | rate
  | time
  | duration
  | offset
  | source
  | config
  deriving DecidableEq

/-- What an option's name stands for. -/
inductive Switch where
  | help
  | allowSoftware
  | valued (key : Key)
  deriving DecidableEq

/-- The option of a long name, without its dashes. -/
def Switch.ofName? (kind : TaskKind) (name : List Char) : Option Switch :=
  match String.ofList name with
  | "help" => some .help
  | "allow-software" => some .allowSoftware
  | "input" => some (.valued .input)
  | "output" => some (.valued .output)
  | "fps" => if kind = .video then some (.valued .rate) else none
  | "time" => if kind = .still then some (.valued .time) else none
  | "duration" => some (.valued .duration)
  | "offset" => some (.valued .offset)
  | "source" => some (.valued .source)
  | "config" => some (.valued .config)
  | _ => none

/-- The option of a letter. -/
def Switch.ofLetter? (kind : TaskKind) (letter : Char) : Option Switch :=
  match letter with
  | 'h' => some .help
  | 'i' => some (.valued .input)
  | 'o' => some (.valued .output)
  | 't' => if kind = .still then some (.valued .time) else none
  | 'd' => some (.valued .duration)
  | 's' => some (.valued .source)
  | 'c' => some (.valued .config)
  | _ => none

/-- The options settled so far. -/
structure Given where
  input : Option Path
  output : Option Path
  rate : Option (List Char)
  time : Option Number
  duration : Option Number
  offset : Option Number
  source : Option Path
  config : Option Path
  allowSoftware : Bool
  deriving DecidableEq

namespace Given

def nothing : Given := ⟨none, none, none, none, none, none, none, none, false⟩

/-- A path has at least one character. -/
def path? (text : List Char) : Option Path :=
  if text = [] then none else some ⟨text⟩

/-- The value of an option that is given for the first time. -/
def once {α : Type} (known value : Option α) : Option (Option α) :=
  if known.isSome then none else value.map some

/-- Settles an option with its value. -/
def add? (given : Given) (key : Key) (text : List Char) : Option Given :=
  match key with
  | .input => (once given.input (path? text)).map fun input => { given with input }
  | .output => (once given.output (path? text)).map fun output => { given with output }
  | .rate => (once given.rate (some text)).map fun rate => { given with rate }
  | .time => (once given.time (Decimal.binary64? text)).map fun time => { given with time }
  | .duration =>
    (once given.duration (Decimal.binary64? text)).map fun duration => { given with duration }
  | .offset => (once given.offset (Decimal.binary64? text)).map fun offset => { given with offset }
  | .source => (once given.source (path? text)).map fun source => { given with source }
  | .config => (once given.config (path? text)).map fun config => { given with config }

/-- The job, if input and output are among the options. A still image is shown at zero unless a time is
given. -/
def job? (given : Given) (kind : TaskKind) : Option Job := do
  let input ← given.input
  let output ← given.output
  let task := match kind with
    | .video => Task.video given.rate
    | .still => Task.still (given.time.getD (.real 0))
  return {
    task, input, output
    overrides := ⟨given.duration, given.offset, given.source⟩
    config := given.config
    allowSoftware := given.allowSoftware }

end Given

/-! ## Reading the options -/

/-- Why the reading of options ends early. -/
inductive Stop where
  | help
  | usage
  deriving DecidableEq

/-- An option that is not settled yet. -/
structure Pending where
  key : Key
  /-- The value, if the reading got to it. -/
  value : Option (List Char)
  deriving DecidableEq

/-- How far the reading has come. -/
structure Reading where
  given : Given
  pending : Option Pending
  /-- The mark `--` was met, after which no option is one. -/
  closed : Bool
  deriving DecidableEq

namespace Reading

def start : Reading := ⟨.nothing, none, false⟩

/-- Settles the option that waits. -/
def settle (reading : Reading) : Except Stop Given :=
  match reading.pending with
  | none => .ok reading.given
  | some ⟨_, none⟩ => .error .usage
  | some ⟨key, some text⟩ =>
    match reading.given.add? key text with
    | some given => .ok given
    | none => .error .usage

/-- Takes in an option with the value that is attached to it, if one is. -/
def option (reading : Reading) (switch : Switch) (attached : Option (List Char)) : Except Stop Reading := do
  match switch, attached with
  | .valued key, _ => return { reading with given := ← reading.settle, pending := some ⟨key, attached⟩ }
  | .allowSoftware, none =>
    let given ← reading.settle
    if given.allowSoftware then throw .usage
    else return { reading with given := { given with allowSoftware := true }, pending := none }
  | .help, none =>
    let _ ← reading.settle
    throw .help
  | _, some _ => throw .usage

/-- Takes in an option that is written with its name. -/
def long (kind : TaskKind) (reading : Reading) (text : List Char) : Except Stop Reading :=
  let (name, attached) := match Text.splitOnce? '=' text with
    | some (name, value) => (name, some value)
    | none => (text, none)
  match Switch.ofName? kind name with
  | some switch => reading.option switch attached
  | none => .error .usage

/-- Takes in an option that is written with its letter. What follows the letter is its value; behind a
call for help it does not matter. -/
def short (kind : TaskKind) (reading : Reading) (letter : Char) (after : List Char) :
    Except Stop Reading :=
  match Switch.ofLetter? kind letter with
  | none => .error .usage
  | some .help => reading.option .help none
  | some switch =>
    match after with
    | [] => reading.option switch none
    | '=' :: value => reading.option switch (some value)
    | value => reading.option switch (some value)

/-- Takes in a word that is no option: the value that is waited for. -/
def value (reading : Reading) (text : List Char) : Except Stop Reading :=
  match reading.pending with
  | some ⟨key, none⟩ => .ok { reading with pending := some ⟨key, some text⟩ }
  | _ => .error .usage

/-- Takes in a word. -/
def word (kind : TaskKind) (reading : Reading) (text : List Char) : Except Stop Reading :=
  if reading.closed then .error .usage
  else
    match text with
    | ['-', '-'] => .ok { reading with closed := true }
    | '-' :: '-' :: name => reading.long kind name
    | '-' :: letter :: after => reading.short kind letter after
    | text => reading.value text

/-- Reads the words after the name of the task. -/
def job (kind : TaskKind) (words : List (List Char)) : Except Stop Job := do
  let reading ← words.foldlM (word kind) start
  match (← reading.settle).job? kind with
  | some job => return job
  | none => throw .usage

end Reading

/-! ## The whole command line -/

/-- Help can be asked for with the name of a task, or of help itself. -/
def helpOn (words : List (List Char)) : Invocation :=
  match words with
  | [] => .help
  | [topic] => if topic = "help".toList ∨ (TaskKind.ofName? topic).isSome then .help else .usage
  | _ => .usage

/-- What the words of a command line ask for. Before a task nothing but help can be asked for. -/
def Invocation.ofWords : List (List Char) → Invocation
  | [] => .usage
  | first :: words =>
    match TaskKind.ofName? first with
    | some kind =>
      match Reading.job kind words with
      | .ok job => .run job
      | .error .help => .help
      | .error .usage => .usage
    | none =>
      if first = "help".toList then helpOn words
      else
        match first with
        | ['-', '-', 'h', 'e', 'l', 'p'] => .help
        | '-' :: 'h' :: _ => .help
        | _ => .usage

end FrameTransition.CommandLine
