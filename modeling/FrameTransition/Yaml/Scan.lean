import FrameTransition.Yaml.Property
import FrameTransition.Yaml.Scalar

/-!
# From a YAML text to its tokens

A `Scan` reads a token at a time and keeps what the layout implies: the columns of the open blocks, the
depth of brackets, and where a simple key may have begun. A simple key is known to be one only at its
colon, so the tokens from its start on wait in a queue until then: the key token goes in front of them.

`Token.ofChars` gives the tokens that can be had before the text turns out to be malformed, and whether it
does not. A token in the queue can be had once it no longer may be the start of a simple key.
-/

namespace FrameTransition.Yaml

/-- Where a simple key may have begun. -/
structure SimpleKey where
  /-- Nothing but a key may stand there. -/
  required : Bool
  /-- The number of the token it began with. -/
  number : Nat
  mark : Mark

/-- A simple key is at most this long. -/
def maxSimpleKey : Nat := 1024

/-- A text in the middle of being cut into tokens. -/
structure Scan where
  cursor : Cursor
  /-- The text was cut off, so its end is not to be trusted. -/
  cut : Bool
  started : Bool
  ended : Bool
  /-- Tokens that were read and not had yet. -/
  queue : List Token
  /-- The number of tokens that were had. -/
  handed : Nat
  /-- The possible simple key of every depth of brackets, the innermost first. -/
  keys : List (Option SimpleKey)
  /-- A simple key may begin here. -/
  keyAllowed : Bool
  /-- The columns of the open blocks, the innermost first. -/
  indents : List Nat

namespace Scan

/-- Before the first token. -/
def start (cs : List Char) : Scan :=
  let (text, cut) := readable cs
  { cursor := .start text, cut, started := false, ended := false, queue := [], handed := 0, keys := []
    keyAllowed := false, indents := [] }

/-- Between brackets layout does not count. -/
def inFlow (s : Scan) : Bool := 1 < s.keys.length

/-- The number the next token read will have. -/
def nextNumber (s : Scan) : Nat := s.handed + s.queue.length

def push (s : Scan) (token : Token) : Scan :=
  { s with queue := s.queue ++ [token] }

/-- Puts a token in front of the one of a number. -/
def insert (s : Scan) (number : Nat) (token : Token) : Scan :=
  let place := number - s.handed
  { s with queue := s.queue.take place ++ token :: s.queue.drop place }

/-- Reads characters of one line as a token. -/
def take (s : Scan) (token : Token) (count : Nat) : Scan :=
  { s.push token with cursor := s.cursor.advance count }

/-! ## Layout -/

/-- Opens a block at a column that lies deeper than the open ones. -/
def openBlock (s : Scan) (column : Nat) (token : Token) (number : Nat) : Scan :=
  if s.inFlow || s.indents.head?.any (column ≤ ·) then s
  else { s.insert number token with indents := column :: s.indents }

/-- Closes the blocks that lie deeper than a column, all of them without one. -/
def closeBlocks (s : Scan) (column : Option Nat) : Scan :=
  if s.inFlow then s
  else
    let deeper := s.indents.takeWhile fun indent => column.all (· < indent)
    { s with
      queue := s.queue ++ deeper.map fun _ => Token.blockEnd
      indents := s.indents.drop deeper.length }

/-! ## Simple keys -/

/-- A simple key ends in its line and is not too long. -/
def isStale (s : Scan) (key : SimpleKey) : Bool :=
  key.mark.line < s.cursor.mark.line || key.mark.index + maxSimpleKey < s.cursor.mark.index

/-- Gives up the keys that got too long. One that was required is an error. -/
def dropStale (s : Scan) : Option Scan :=
  if s.keys.any fun key => key.any fun key => s.isStale key && key.required then none
  else some { s with keys := s.keys.map fun key => key.filter fun key => !s.isStale key }

/-- Gives up the innermost key. One that is required is an error. -/
def removeKey (s : Scan) : Option Scan :=
  match s.keys with
  | some key :: outer => if key.required then none else some { s with keys := none :: outer }
  | _ => some s

/-- The next token may begin a simple key, if one may begin here. -/
def saveKey (s : Scan) : Option Scan :=
  if s.keyAllowed then do
    let column := s.cursor.mark.column
    let key : SimpleKey :=
      ⟨!s.inFlow && s.indents.head? = some column, s.nextNumber, s.cursor.mark⟩
    let s ← s.removeKey
    return { s with keys := some key :: s.keys.tail }
  else some s

/-! ## Between tokens -/

/-- Past blanks, comments and line breaks. A tab is no blank where a simple key may begin, except between
brackets. A new line may begin with a simple key. -/
def skipGap : Nat → Scan → Scan
  | 0, s => s
  | fuel + 1, s =>
    let cursor :=
      if s.cursor.mark.index = 0 ∧ startsWith (· = '\ufeff') s.cursor.rest then s.cursor.advance 1
      else s.cursor
    let isSkipped := fun c => c = ' ' || (c = '\t' && (s.inFlow || !s.keyAllowed))
    let cursor := (cursor.skipWhile isSkipped).skipComment
    if startsWith isBreak cursor.rest then
      skipGap fuel { s with cursor := cursor.skipBreak, keyAllowed := s.keyAllowed || !s.inFlow }
    else { s with cursor }

/-! ## Tokens -/

/-- The end of the text ends its last line, so no simple key is left open by it. -/
def streamEnd (s : Scan) : Option Scan := do
  let s ← (s.closeBlocks none).removeKey
  return { s.push .streamEnd with
    cursor := s.cursor.endLine
    keyAllowed := false
    ended := true }

/-- Before what starts a line of its own all blocks are closed. -/
def closeAll (s : Scan) : Option Scan := do
  let s ← (s.closeBlocks none).removeKey
  return { s with keyAllowed := false }

def directiveLine (s : Scan) : Option Scan := do
  let s ← s.closeAll
  let (token, cursor) ← directive s.cursor
  return { s.push token with cursor }

def documentMark (s : Scan) (token : Token) : Option Scan := do
  let s ← s.closeAll
  return s.take token 3

def openBracket (s : Scan) (token : Token) : Option Scan := do
  let s ← s.saveKey
  return { s.take token 1 with keys := none :: s.keys, keyAllowed := true }

def closeBracket (s : Scan) (token : Token) : Option Scan := do
  let s ← s.removeKey
  return { s.take token 1 with
    keys := if s.inFlow then s.keys.tail else s.keys
    keyAllowed := false }

def flowEntry (s : Scan) : Option Scan := do
  let s ← s.removeKey
  return { s.take .flowEntry 1 with keyAllowed := true }

/-- Opens a block for an indicator that must start a line. -/
def openAtIndicator (s : Scan) (token : Token) : Option Scan :=
  if s.inFlow then some s
  else if s.keyAllowed then some (s.openBlock s.cursor.mark.column token s.nextNumber)
  else none

def blockEntry (s : Scan) : Option Scan := do
  let s ← (← s.openAtIndicator .blockSequenceStart).removeKey
  return { s.take .blockEntry 1 with keyAllowed := true }

def keyIndicator (s : Scan) : Option Scan := do
  let s ← (← s.openAtIndicator .blockMappingStart).removeKey
  return { s.take .key 1 with keyAllowed := !s.inFlow }

/-- A colon ends the simple key before it, or follows a key that has its own indicator or is empty. -/
def valueIndicator (s : Scan) : Option Scan :=
  match s.keys with
  | some key :: outer =>
    let keyed := s.insert key.number .key
    let s := keyed.openBlock key.mark.column .blockMappingStart key.number
    some { s.take .value 1 with keys := none :: outer, keyAllowed := false }
  | _ => do
    let s ← s.openAtIndicator .blockMappingStart
    return { s.take .value 1 with keyAllowed := !s.inFlow }

/-- A token that may begin a simple key and after which none may begin. -/
def inlineToken (s : Scan) (read : Cursor → Option (Token × Cursor)) : Option Scan := do
  let s ← s.saveKey
  let (token, cursor) ← read s.cursor
  return { s.push token with cursor, keyAllowed := false }

def plain (s : Scan) : Option Scan := do
  let s ← s.saveKey
  let indent := s.indents.head?.elim 0 (· + 1)
  let (text, leftLine, cursor) ← plainScalar s.inFlow indent s.cursor
  return { s.push (.scalar text .plain) with cursor, keyAllowed := leftLine }

def block (s : Scan) (literal : Bool) : Option Scan := do
  let s ← s.removeKey
  let (text, cursor) ← blockScalar literal s.indents.head? s.cursor
  return { s.push (.scalar text (if literal then .literal else .folded)) with
    cursor, keyAllowed := true }

/-- The characters no plain scalar starts with. -/
def isIndicator (c : Char) : Bool :=
  "-?:,[]\x7b\x7d#&*!|>\x27\"%@\x60".toList.contains c

/-- A plain scalar starts here. Three of the indicators may start one where no gap follows them. -/
def startsPlain (s : Scan) : Bool :=
  match s.cursor.rest with
  | [] => false
  | c :: rest =>
    !(isBlank c || isBreak c || isIndicator c)
      || (c = '-' && !startsWith isBlank rest)
      || (!s.inFlow && (c = '?' || c = ':') && !atGap rest)

/-- Reads the token that starts at the cursor. -/
def readToken (s : Scan) : Option Scan :=
  match s.cursor.rest with
  | [] => s.streamEnd
  | c :: rest =>
    if s.cursor.mark.column = 0 ∧ c = '%' then s.directiveLine
    else if s.cursor.isDocumentMark '-' then s.documentMark .documentStart
    else if s.cursor.isDocumentMark '.' then s.documentMark .documentEnd
    else if c = '[' then s.openBracket .flowSequenceStart
    else if c = '\x7b' then s.openBracket .flowMappingStart
    else if c = ']' then s.closeBracket .flowSequenceEnd
    else if c = '\x7d' then s.closeBracket .flowMappingEnd
    else if c = ',' then s.flowEntry
    else if c = '-' && atGap rest then s.blockEntry
    else if c = '?' && (s.inFlow || atGap rest) then s.keyIndicator
    else if c = ':' && (s.inFlow || atGap rest) then s.valueIndicator
    else if c = '*' then s.inlineToken fun cursor =>
      (anchorName cursor).map fun (name, after) => (.alias name, after)
    else if c = '&' then s.inlineToken fun cursor =>
      (anchorName cursor).map fun (name, after) => (.anchor name, after)
    else if c = '!' then s.inlineToken (tagToken s.inFlow)
    else if c = '|' && !s.inFlow then s.block true
    else if c = '>' && !s.inFlow then s.block false
    else if c = '\'' then s.inlineToken fun cursor =>
      (quotedScalar true cursor).map fun (text, after) => (.scalar text .singleQuoted, after)
    else if c = '"' then s.inlineToken fun cursor =>
      (quotedScalar false cursor).map fun (text, after) => (.scalar text .doubleQuoted, after)
    else if s.startsPlain then s.plain
    else none

/-- Reads on: the start of the stream first, then a token at a time. What was read up to the end of a text
that was cut off does not count. -/
def read (s : Scan) : Option Scan := do
  let next ←
    if s.started then do
      let s ← (skipGap (s.cursor.rest.length + 1) s).dropStale
      (s.closeBlocks (some s.cursor.mark.column)).readToken
    else some { s.push .streamStart with started := true, keys := [none], keyAllowed := true }
  if next.cut && next.cursor.rest = [] then none else some next

/-- The tokens from a scan on, and whether the text is well formed. A step reads on or hands out. -/
def tokens : Nat → Scan → List Token × Bool
  | 0, _ => ([], false)
  | fuel + 1, s =>
    match s.queue with
    | [] =>
      if s.ended then ([], true)
      else match s.read with
        | none => ([], false)
        | some next => tokens fuel next
    | token :: queue =>
      match s.dropStale with
      | none => ([], false)
      | some s =>
        if s.keys.any fun key => key.any fun key => key.number = s.handed then
          match s.read with
          | none => ([], false)
          | some next => tokens fuel next
        else
          let (later, wellFormed) := tokens fuel { s with queue, handed := s.handed + 1 }
          (token :: later, wellFormed)

end Scan

/-- The tokens that can be had of a text, and whether that is all of them. No character gives rise to more
than four tokens: what it ends, what it starts, and itself. -/
def Token.ofChars (cs : List Char) : List Token × Bool :=
  Scan.tokens (8 * (cs.length + 2)) (.start cs)

end FrameTransition.Yaml
