import FrameTransition.Text.Utf8

/-!
# Reading position in a YAML text

A `Cursor` is what is left to read and where it starts. Line breaks are the two ASCII characters, alone or
together, and three others; a break read as content is a line feed, except for the two separators, which
stay what they are. The classes of characters are predicates on what is left, so that the end of the text
belongs to a class like any character.
-/

namespace FrameTransition.Yaml

/-- A character that ends a line. -/
def isBreak (c : Char) : Bool :=
  c = '\n' || c = '\r' || c = '\u0085' || c = '\u2028' || c = '\u2029'

/-- A space or a tab. -/
def isBlank (c : Char) : Bool :=
  c = ' ' || c = '\t'

/-- A character of names: a letter, a digit, `_` or `-`, all in ASCII. -/
def isWord (c : Char) : Bool :=
  c.isAlphanum || c = '_' || c = '-'

def isHexDigit (c : Char) : Bool :=
  c.isDigit || ('a' ≤ c && c ≤ 'f') || ('A' ≤ c && c ≤ 'F')

/-- The value of a hexadecimal digit. -/
def hexValue (c : Char) : Nat :=
  if c.isDigit then c.toNat - '0'.toNat else c.toLower.toNat - 'a'.toNat + 10

/-- The next character satisfies a predicate. -/
def startsWith (p : Char → Bool) (cs : List Char) : Bool :=
  cs.head?.any p

/-- A line break comes, or the end. -/
def atLineEnd (cs : List Char) : Bool :=
  cs.head?.all isBreak

/-- A blank, a line break or the end comes. -/
def atGap (cs : List Char) : Bool :=
  cs.head?.all fun c => isBlank c || isBreak c

/-- A place in the text: characters before it, lines before it, characters before it in its line. -/
structure Mark where
  index : Nat
  line : Nat
  column : Nat
  deriving DecidableEq, Inhabited

/-- What is left of a text, and where that is. -/
structure Cursor where
  rest : List Char
  mark : Mark
  deriving Inhabited

namespace Cursor

/-- The start of a text. -/
def start (cs : List Char) : Cursor := ⟨cs, ⟨0, 0, 0⟩⟩

/-- Past some characters, none of them a break. -/
def advance (cursor : Cursor) (count : Nat) : Cursor :=
  ⟨cursor.rest.drop count,
    { cursor.mark with index := cursor.mark.index + count, column := cursor.mark.column + count }⟩

/-- Past the longest run of characters of a class without breaks. -/
def skipWhile (p : Char → Bool) (cursor : Cursor) : Cursor :=
  cursor.advance (cursor.rest.takeWhile p).length

/-- Past the blanks that come next. -/
def skipBlanks (cursor : Cursor) : Cursor :=
  cursor.skipWhile isBlank

/-- Past a comment, if one comes next, up to the end of its line. -/
def skipComment (cursor : Cursor) : Cursor :=
  if startsWith (· = '#') cursor.rest then cursor.skipWhile (! isBreak ·) else cursor

/-- Past the line break that comes next, if one does. -/
def skipBreak (cursor : Cursor) : Cursor :=
  match cursor.rest with
  | '\r' :: '\n' :: rest => ⟨rest, ⟨cursor.mark.index + 2, cursor.mark.line + 1, 0⟩⟩
  | c :: rest => if isBreak c then ⟨rest, ⟨cursor.mark.index + 1, cursor.mark.line + 1, 0⟩⟩ else cursor
  | [] => cursor

/-- At the start of the next line, although no break comes. -/
def endLine (cursor : Cursor) : Cursor :=
  if cursor.mark.column = 0 then cursor
  else { cursor with mark := ⟨cursor.mark.index, cursor.mark.line + 1, 0⟩ }

/-- What the line break that comes next contributes to a text. -/
def breakText (cursor : Cursor) : List Char :=
  match cursor.rest with
  | c :: _ =>
    if c = '\u2028' ∨ c = '\u2029' then [c]
    else if isBreak c then ['\n']
    else []
  | [] => []

/-- A line starts with three times some character and then a gap. -/
def isDocumentMark (c : Char) (cursor : Cursor) : Bool :=
  cursor.mark.column = 0 && cursor.rest.take 3 = [c, c, c] && atGap (cursor.rest.drop 3)

/-- The start or the end of a document is marked here. -/
def atDocumentMark (cursor : Cursor) : Bool :=
  cursor.isDocumentMark '-' || cursor.isDocumentMark '.'

end Cursor

/-! ## Readable text

A text is taken in blocks of bytes. A block with a character outside the readable ones is not taken at
all, nor is anything after it. -/

/-- The characters a YAML text may hold. -/
def isReadable (c : Char) : Bool :=
  let n := c.toNat
  n = 0x09 || n = 0x0A || n = 0x0D || (0x20 ≤ n && n ≤ 0x7E) || n = 0x85 || (0xA0 ≤ n && n ≤ 0xD7FF)
    || (0xE000 ≤ n && n ≤ 0xFFFD) || 0x10000 ≤ n

/-- The most bytes of a block. -/
def blockSize : Nat := 16384

/-- A text up to its first block that is not readable, and whether there is such a block. `room` is the
space left in the current block, `pending` what it holds so far, in reverse. -/
def readableFrom (room : Nat) (pending : List Char) : List Char → List Char × Bool
  | [] => (pending.reverse, false)
  | c :: rest =>
    if !isReadable c then ([], true)
    else
      let size := Utf8.size [c]
      if size ≤ room then readableFrom (room - size) (c :: pending) rest
      else
        let (later, cut) := readableFrom (blockSize - size) [c] rest
        (pending.reverse ++ later, cut)

/-- A text up to its first block that is not readable, and whether there is such a block. -/
def readable (cs : List Char) : List Char × Bool :=
  readableFrom blockSize [] cs

end FrameTransition.Yaml
