import FrameTransition.Yaml.Token

/-!
# Anchors, tags and directives

The parts of a YAML text that are written in a single line of ASCII: names of anchors, tags with their
handles, and the two directives. Each is a function from a cursor at its first character; `none` says that
the text is malformed.
-/

namespace FrameTransition.Yaml

/-- What may follow the name of an anchor without a gap. -/
def isAnchorEnd (c : Char) : Bool :=
  "?:,]\x7d%@\x60".toList.contains c

/-- The name after `&` or `*`. -/
def anchorName (cursor : Cursor) : Option (List Char × Cursor) :=
  let after := cursor.advance 1
  let name := after.rest.takeWhile isWord
  let ended := after.advance name.length
  if name ≠ [] ∧ (atGap ended.rest ∨ startsWith isAnchorEnd ended.rest) then some (name, ended) else none

/-! ## Tags -/

/-- The characters of a tag, apart from those that only stand in angle brackets or in a directive. -/
def isTagChar (c : Char) : Bool :=
  isWord c || ";/?:@&=+$.%!~*\x27()".toList.contains c

/-- The length that a first byte announces for a character of UTF-8. -/
def announcedBytes? (byte : Nat) : Option Nat :=
  if byte < 0x80 then some 1
  else if byte / 0x20 = 6 then some 2
  else if byte / 0x10 = 14 then some 3
  else if byte / 0x08 = 30 then some 4
  else none

/-- A byte written as `%` and two digits. -/
def escapedByte? : List Char → Option (Nat × List Char)
  | '%' :: a :: b :: rest =>
    if isHexDigit a && isHexDigit b then some (hexValue a * 16 + hexValue b, rest) else none
  | _ => none

/-- Escaped bytes that continue a character. -/
def continuationBytes : Nat → List Char → Option (List UInt8 × List Char)
  | 0, cs => some ([], cs)
  | count + 1, cs => do
    let (byte, rest) ← escapedByte? cs
    if byte / 0x40 = 2 then
      let (bytes, rest) ← continuationBytes count rest
      return (UInt8.ofNat byte :: bytes, rest)
    else none

/-- A character written as escaped bytes, and what follows it. -/
def escapedChar? (cs : List Char) : Option (List Char × List Char) := do
  let (first, rest) ← escapedByte? cs
  let length ← announcedBytes? first
  let (bytes, rest) ← continuationBytes (length - 1) rest
  return (Utf8.decodeLossy (UInt8.ofNat first :: bytes), rest)

/-- The text of a tag as far as it goes, and what follows it. The fuel is the number of characters. -/
def tagText (allowed : Char → Bool) : Nat → List Char → Option (List Char × List Char)
  | 0, cs => some ([], cs)
  | _ + 1, [] => some ([], [])
  | fuel + 1, c :: rest =>
    if !allowed c then some ([], c :: rest)
    else if c = '%' then do
      let (decoded, after) ← escapedChar? (c :: rest)
      let (text, last) ← tagText allowed fuel after
      return (decoded ++ text, last)
    else do
      let (text, last) ← tagText allowed fuel rest
      return (c :: text, last)

/-- Reads the text of a tag at a cursor. -/
def tagTextAt (allowed : Char → Bool) (cursor : Cursor) : Option (List Char × Cursor) := do
  let (text, rest) ← tagText allowed cursor.rest.length cursor.rest
  return (text, cursor.advance (cursor.rest.length - rest.length))

/-- In angle brackets and directives a tag may hold flow indicators. -/
def isVerbatimChar (c : Char) : Bool :=
  isTagChar c || c = ',' || c = '[' || c = ']'

/-- A handle: `!`, a name, and `!` again if there is one. -/
def tagHandle (cursor : Cursor) : List Char × Cursor :=
  let name := (cursor.rest.drop 1).takeWhile isWord
  let after := cursor.advance (1 + name.length)
  match after.rest with
  | '!' :: _ => ('!' :: name ++ ['!'], after.advance 1)
  | _ => ('!' :: name, after)

/-- A handle that names a directive, not just the start of a tag. -/
def isFullHandle (handle : List Char) : Bool :=
  1 < handle.length && handle.getLast? = some '!'

/-- The handle and the suffix of a tag. A tag in angle brackets has an empty handle. -/
def tagParts (cursor : Cursor) : Option (List Char × List Char × Cursor) :=
  match cursor.rest with
  | _ :: '<' :: _ => do
    let (text, after) ← tagTextAt isVerbatimChar (cursor.advance 2)
    if text ≠ [] ∧ startsWith (· = '>') after.rest then return ([], text, after.advance 1) else none
  | _ => do
    let (handle, after) := tagHandle cursor
    let (text, last) ← tagTextAt isTagChar after
    if isFullHandle handle then
      if text = [] then none else return (handle, text, last)
    else
      let suffix := handle.drop 1 ++ text
      return if suffix = [] then ([], ['!'], last) else (['!'], suffix, last)

/-- A tag. A gap follows it, or between brackets a comma. -/
def tagToken (inFlow : Bool) (cursor : Cursor) : Option (Token × Cursor) := do
  let (handle, suffix, after) ← tagParts cursor
  if (inFlow && startsWith (· = ',') after.rest) || atGap after.rest then
    return (.tag handle suffix, after)
  else none

/-! ## Directives -/

/-- The digits of a version number are no more than this. -/
def maxVersionDigits : Nat := 9

/-- A part of a version number. -/
def versionNumber (cursor : Cursor) : Option (Nat × Cursor) :=
  let digits := cursor.rest.takeWhile Char.isDigit
  if digits ≠ [] ∧ digits.length ≤ maxVersionDigits then
    some (digits.foldl (fun n d => n * 10 + hexValue d) 0, cursor.advance digits.length)
  else none

/-- The version after the name of its directive. -/
def versionValue (cursor : Cursor) : Option (Token × Cursor) := do
  let (major, after) ← versionNumber cursor.skipBlanks
  match after.rest with
  | '.' :: _ =>
    let (minor, last) ← versionNumber (after.advance 1)
    return (.versionDirective major minor, last)
  | _ => none

/-- The handle and what it stands for, after the name of their directive. -/
def tagValue (cursor : Cursor) : Option (Token × Cursor) := do
  let start := cursor.skipBlanks
  if startsWith (· = '!') start.rest then
    let (handle, after) := tagHandle start
    if (isFullHandle handle ∨ handle = ['!']) ∧ startsWith isBlank after.rest then
      let (leader, last) ← tagTextAt isVerbatimChar after.skipBlanks
      if leader ≠ [] ∧ atGap last.rest then return (.tagDirective handle leader, last) else none
    else none
  else none

/-- A directive with its line. -/
def directive (cursor : Cursor) : Option (Token × Cursor) := do
  let after := cursor.advance 1
  let name := after.rest.takeWhile isWord
  let named := after.advance name.length
  if name = [] ∨ !atGap named.rest then none
  else
    let (token, valued) ←
      if name = "YAML".toList then versionValue named
      else if name = "TAG".toList then tagValue named
      else none
    let ended := valued.skipBlanks.skipComment
    if atLineEnd ended.rest then return (token, ended.skipBreak) else none

end FrameTransition.Yaml
