import FrameTransition.Config.Basic
import FrameTransition.Config.Record

/-!
# Parameters in a file

Parameters are written as a record of the three of them, each of which may be missing. The format of the file is
that of a `RecordReader`, and so are the words for what is wrong with it.
-/

namespace FrameTransition

/-- Why a file gives no parameters. -/
inductive LoadError where
  | file (cause : FileError)
  /-- It is no record of parameters. -/
  | document (reason : String)
  deriving DecidableEq

def LoadError.message : LoadError → String
  | file cause => cause.message
  | document reason => reason

namespace Parameters

/-- The record that parameters are written as. A misspelt key is refused. -/
def schema : Schema :=
  ⟨[("duration", .number), ("offset", .number), ("source", .text)], true⟩

/-- The parameters in a record. -/
def ofRecord (record : Record) : Parameters where
  duration := (record "duration").bind FieldValue.number?
  offset := (record "offset").bind FieldValue.number?
  source := ((record "source").bind FieldValue.text?).map Path.mk

/-- The parameters that a text gives. -/
def parse (reader : RecordReader) (text : List Char) : Except reader.Fault Parameters :=
  (reader.read schema text).map ofRecord

/-- The parameters that the bytes of a file give. -/
def ofFile (reader : RecordReader) (found : Except FileError (List UInt8)) : Except LoadError Parameters := do
  let text ← (found >>= textOfBytes).mapError .file
  (parse reader text).mapError fun fault => .document (reader.message fault)

/-- Reads the parameters in a file. -/
def load (reader : RecordReader) (path : Path) : Session (Except LoadError Parameters) := do
  return ofFile reader (← Session.readFile path)

end Parameters

end FrameTransition
