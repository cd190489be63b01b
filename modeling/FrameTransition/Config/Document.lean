import FrameTransition.Config.Record
import FrameTransition.Decimal.Read
import FrameTransition.Text.Quoted
import FrameTransition.Yaml.Event

/-!
# Records in YAML documents

The reader of records that the program is run with. What loads parameters takes any other as well, and nothing that
is proved of it rests on this one.

A document is a mapping with the fields of a record as keys, each at most once. It is read along its events, so of
several problems the first in the text is the one reported, and a malformed place counts only when the reading gets
there. A key is checked before its value.

An absent value is a plain one that is empty or spells null. Numbers are written plainly. A text is any
scalar, as it is written.
-/

namespace FrameTransition

/-- What stood where another kind of value was asked for. -/
inductive Found where
  | scalar (text : List Char)
  | sequence
  | mapping
  deriving DecidableEq

/-- Why a document is no record. -/
inductive DocumentError where
  | unknownField (name : List Char) (known : List String)
  | duplicateField (name : String)
  | invalidType (found : Found)
  /-- The tag of a scalar does not fit its text. -/
  | invalidValue (text : List Char)
  /-- The text is no single document. -/
  | malformed
  deriving DecidableEq

namespace Found

def describe : Found → String
  | scalar text => "string " ++ String.ofList (Text.quoted text)
  | sequence => "sequence"
  | mapping => "map"

end Found

def DocumentError.message : DocumentError → String
  | unknownField name known =>
    "unknown field \x60" ++ String.ofList name ++ "\x60, expected one of " ++
      ", ".intercalate (known.map fun field => "\x60" ++ field ++ "\x60")
  | duplicateField name => "duplicate field \x60" ++ name ++ "\x60"
  | invalidType found => "invalid type: " ++ found.describe
  | invalidValue text => "invalid value: " ++ (Found.scalar text).describe
  | malformed => "malformed document"

namespace Document

open Yaml (Event Scalar Style)

/-! ## Scalars -/

/-- The full form of a standard tag. -/
def standardTag (name : String) : List Char :=
  ("tag:yaml.org,2002:" ++ name).toList

/-- The spellings of null, apart from the empty one. -/
def isNull (text : List Char) : Bool :=
  ["null", "Null", "NULL", "~"].any fun word => text = word.toList

def isBoolean (text : List Char) : Bool :=
  ["true", "True", "TRUE", "false", "False", "FALSE"].any fun word => text = word.toList

/-- The text without a sign of its own. -/
def dropSign : List Char → List Char
  | '+' :: rest => rest
  | '-' :: rest => rest
  | text => text

/-- Digits after a leading zero make no number. -/
def isPadded (text : List Char) : Bool :=
  match dropSign text with
  | '0' :: rest => rest ≠ [] ∧ rest.all Char.isDigit
  | _ => false

/-- The value of a digit up to `f`, in any case. -/
def digitValue (c : Char) : Nat := Yaml.hexValue c

/-- A run of digits below a base. -/
def isNatural (base : Nat) (digits : List Char) : Bool :=
  digits ≠ [] && digits.all fun c => Yaml.isHexDigit c && digitValue c < base

/-- The value of digits in a base. -/
def natural (base : Nat) (digits : List Char) : Nat :=
  digits.foldl (fun n c => n * base + digitValue c) 0

/-- The base that the start of an unsigned number announces, with its digits. -/
def basedDigits (text : List Char) : Nat × List Char :=
  match text with
  | '0' :: 'x' :: digits => (16, digits)
  | '0' :: 'o' :: digits => (8, digits)
  | '0' :: 'b' :: digits => (2, digits)
  | digits => (10, digits)

/-- Magnitudes of integers are below this, those of negative ones at most half of it. -/
def integerLimit : Nat := Nat.pow 2 128

/-- An integer in base two, eight, ten or sixteen, with an optional sign. -/
def isInteger (text : List Char) : Bool :=
  let negative := text.head? = some '-'
  let (base, digits) := basedDigits (dropSign text)
  isNatural base digits && !(base = 10 && isPadded text) &&
    (if negative then natural base digits ≤ integerLimit / 2 else natural base digits < integerLimit)

/-- A number: an infinity, the one that is none, or a finite decimal, with one sign at most. -/
def number? (text : List Char) : Option Number :=
  let unsigned := match text with
    | '+' :: rest => rest
    | _ => text
  if [".inf", ".Inf", ".INF"].any fun word => unsigned = word.toList then some (.infinite false)
  else if ["-.inf", "-.Inf", "-.INF"].any fun word => text = word.toList then some (.infinite true)
  else if [".nan", ".NaN", ".NAN"].any fun word => text = word.toList then some .nan
  else if unsigned ≠ text ∧ (unsigned.head? = some '+' ∨ unsigned.head? = some '-') then none
  else (Decimal.binary64? unsigned).filter Number.isFinite

/-- What is wrong with a scalar that is no value of the kind asked for. A standard tag that its text does
not fit is worse than the wrong kind. -/
def unfit (scalar : Scalar) : DocumentError :=
  let misfit : Bool := match scalar.tag with
    | none => false
    | some tag =>
      if tag = standardTag "bool" then !isBoolean scalar.text
      else if tag = standardTag "int" then !isInteger scalar.text
      else if tag = standardTag "float" then (number? scalar.text).isNone
      else if tag = standardTag "null" then !isNull scalar.text
      else false
  if misfit then .invalidValue scalar.text else .invalidType (.scalar scalar.text)

/-- The scalar says that there is no value. -/
def isAbsent (scalar : Scalar) : Except DocumentError Bool :=
  if scalar.style ≠ .plain then .ok false
  else
    match scalar.tag with
    | none => .ok (scalar.text = [] || isNull scalar.text)
    | some tag =>
      if tag = standardTag "null" then
        if isNull scalar.text then .ok true else .error (.invalidValue scalar.text)
      else .ok false

/-- Numbers are written plainly, or as a literal block that is tagged as one. -/
def mayBeNumber (scalar : Scalar) : Bool :=
  scalar.style = .plain ∨ (scalar.style = .literal ∧ scalar.tag = some (standardTag "float"))

/-- The number a scalar gives. -/
def number (scalar : Scalar) : Except DocumentError Number :=
  match number? scalar.text with
  | some number => if mayBeNumber scalar then .ok number else .error (unfit scalar)
  | none => .error (unfit scalar)

/-- The value of a field, which may be absent. -/
def value (kind : FieldKind) (scalar : Scalar) : Except DocumentError (Option FieldValue) := do
  if ← isAbsent scalar then return none
  else
    match kind with
    | .number => return some (.number (← number scalar))
    | .text => return some (.text scalar.text)

/-! ## Nodes -/

/-- The anchors of a document's events. An anchor is known by the number of different names there were
before it. Where two come to the same number, the later event is the one meant, also by the aliases
before it. -/
structure Anchors where
  /-- The number of each name, the latest first. -/
  numbers : List (List Char × Nat)
  /-- How many names there are. -/
  names : Nat

/-- An event with its aliases resolved to numbers. -/
inductive Step where
  | plain (event : Event)
  | reference (number : Nat)

/-- The name of the anchor of an event. -/
def anchor? : Event → Option (List Char)
  | .scalar scalar => scalar.anchor
  | .sequenceStart anchor _ => anchor
  | .mappingStart anchor _ => anchor
  | _ => none

/-- Puts an anchor's name down. -/
def Anchors.add (anchors : Anchors) (name : List Char) : Anchors :=
  ⟨(name, anchors.names) :: anchors.numbers,
    if (anchors.numbers.lookup name).isSome then anchors.names else anchors.names + 1⟩

/-- The events of a document with its aliases as numbers and the events those stand for, the latest
first. The document ends early at an alias without an anchor before it. -/
def resolve (anchors : Anchors) (targets : List (Nat × Event)) :
    List Event → List Step × List (Nat × Event) × Bool
  | [] => ([], targets, true)
  | .alias name :: rest =>
    match anchors.numbers.lookup name with
    | some number =>
      let (steps, targets, complete) := resolve anchors targets rest
      (.reference number :: steps, targets, complete)
    | none => ([], targets, false)
  | event :: rest =>
    let (anchors, targets) := match anchor? event with
      | some name => (anchors.add name, (anchors.names, event) :: targets)
      | none => (anchors, targets)
    let (steps, targets, complete) := resolve anchors targets rest
    (.plain event :: steps, targets, complete)

/-- The event that a step stands for. -/
def Step.event? (targets : List (Nat × Event)) : Step → Option Event
  | plain event => some event
  | reference number => targets.lookup number

/-- A key or a value of the mapping. -/
def scalarOf (targets : List (Nat × Event)) (step : Step) : Except DocumentError Scalar :=
  match step.event? targets with
  | some (.scalar scalar) => .ok scalar
  | some (.sequenceStart _ _) => .error (.invalidType .sequence)
  | some (.mappingStart _ _) => .error (.invalidType .mapping)
  | _ => .error .malformed

/-! ## The mapping -/

/-- The fields met so far, the latest first. One without a value was met as well. -/
abbrev Met := List (String × Option FieldValue)

/-- Takes in an entry: the key must be known, then new, then the value must fit. -/
def add (schema : Schema) (met : Met) (key : List Char) (found : Except DocumentError Scalar) :
    Except DocumentError Met :=
  match schema.fields.find? fun field => field.1.toList = key with
  | some (name, kind) =>
    if (met.lookup name).isSome then .error (.duplicateField name)
    else do return (name, ← value kind (← found)) :: met
  | none =>
    if schema.closed then .error (.unknownField key (schema.fields.map (·.1))) else .ok met

/-- The record that the fields make. -/
def recordOf (met : Met) : Record :=
  fun name => (met.lookup name).join

/-- The entries of the mapping up to its end, and what follows. -/
def entries (schema : Schema) (targets : List (Nat × Event)) (met : Met) :
    List Step → Except DocumentError (Met × List Step)
  | [] => .error .malformed
  | .plain .mappingEnd :: rest => .ok (met, rest)
  | [step] => do
    let key ← scalarOf targets step
    let met ← add schema met key.text (.error .malformed)
    return (met, [])
  | step :: value :: rest => do
    let key ← scalarOf targets step
    let met ← add schema met key.text (scalarOf targets value)
    entries schema targets met rest

/-- Reads the mapping that a document is, and gives the steps after it. An empty plain scalar is an empty
mapping. -/
def mapping (schema : Schema) (targets : List (Nat × Event)) (steps : List Step) :
    Except DocumentError (Met × List Step) :=
  match steps with
  | [] => .error .malformed
  | step :: rest =>
    match step.event? targets with
    | some (.mappingStart _ _) => entries schema targets [] rest
    | some (.sequenceStart _ _) => .error (.invalidType .sequence)
    | some (.scalar scalar) =>
      if scalar.text = [] ∧ scalar.style = .plain then .ok ([], rest) else .error (unfit scalar)
    | _ => .error .malformed

/-- The events of the first document, without its start and end, and what comes after its end. -/
def firstDocument : List Event → List Event × Option (List Event)
  | [] => ([], none)
  | .documentStart :: rest => firstDocument rest
  | .documentEnd :: rest => ([], some rest)
  | event :: rest =>
    let (document, after) := firstDocument rest
    (event :: document, after)

/-- The fields that a stream of events gives. -/
def fieldsOf (schema : Schema) (events : List Event) (wellFormed : Bool) : Except DocumentError Met :=
  if events = [] ∧ wellFormed then .ok []
  else do
    let (document, after) := firstDocument events
    let (steps, targets, resolved) := resolve ⟨[], 0⟩ [] document
    let (met, _) ← mapping schema targets steps
    if resolved ∧ after = some [] ∧ wellFormed then return met else throw .malformed

/-- The fields that a text gives. -/
def fields (schema : Schema) (text : List Char) : Except DocumentError Met :=
  let (events, wellFormed) := Yaml.Event.ofChars text
  fieldsOf schema events wellFormed

/-- Reads records in YAML. -/
def reader : RecordReader where
  Fault := DocumentError
  message := DocumentError.message
  read schema text := (fields schema text).map recordOf

end Document

end FrameTransition
