import FrameTransition.Number.Basic

/-!
# Records and what reads them

A record is declared by its fields, each of which may be missing. What a text has to look like to be a record, and
what is wrong with one that is none, is up to a `RecordReader`.
-/

namespace FrameTransition

/-- What a field holds, if anything. -/
inductive FieldKind where
  | number
  | text
  deriving DecidableEq

/-- What a field was found to hold. -/
inductive FieldValue where
  | number (x : Number)
  | text (text : List Char)
  deriving DecidableEq

/-- How a record is declared. -/
structure Schema where
  /-- The fields by name. Any of them may be missing. -/
  fields : List (String × FieldKind)
  /-- Other keys are refused. -/
  closed : Bool

/-- The values that a record has, by the names of its fields. -/
abbrev Record := String → Option FieldValue

namespace FieldValue

def number? : FieldValue → Option Number
  | number x => some x
  | text _ => none

def text? : FieldValue → Option (List Char)
  | number _ => none
  | text found => some found

end FieldValue

/-- What makes records of texts. -/
structure RecordReader where
  /-- What is wrong with a text. -/
  Fault : Type
  message : Fault → String
  read : Schema → List Char → Except Fault Record

end FrameTransition
