import FrameTransition.Decimal.Read
import FrameTransition.Image.Basic
import FrameTransition.Text.Utf8

/-!
# Netpbm pictures

Bitmaps, graymaps and pixmaps, each with samples as text or as bytes, and the arbitrary map with its
header of named lines. A header gives a `Raster`: the size, how a sample is stored, and how many samples
a pixel has. A picture is good when its raster follows in full, and what comes after it is not looked at.

A `#` in the header of the first six kinds starts a comment that ends with its line. The comment is cut
out of the text, so the characters on its two sides may form one word.
-/

namespace FrameTransition.Image.Netpbm

/-- How a sample is stored. -/
inductive SampleKind where
  /-- One bit, the rows filled up to whole bytes. -/
  | bit
  /-- One byte that is zero or one. -/
  | flag
  /-- One byte. -/
  | byte
  /-- Two bytes. -/
  | word
  deriving DecidableEq

namespace SampleKind

/-- The bytes of a sample once it is unpacked. -/
def size : SampleKind → Nat
  | word => 2
  | _ => 1

/-- The largest sample that is stored as a binary number of this kind. -/
def maximum : SampleKind → Nat
  | word => 65535
  | _ => 255

/-- The smallest kind for samples up to a maximum. Both are stored as plain binary numbers. -/
def ofMaximum? (maximum : Nat) : Option SampleKind :=
  if maximum < 256 then some byte
  else if maximum < 65536 then some word
  else none

end SampleKind

/-- What a header says of the samples after it. -/
structure Raster where
  size : Size
  kind : SampleKind
  /-- Samples of a pixel. -/
  channels : Nat
  /-- The samples are written as text. -/
  isText : Bool
  deriving DecidableEq

namespace Raster

/-- All samples of the picture. -/
def samples (raster : Raster) : Nat :=
  raster.size.width * raster.size.height * raster.channels

/-- The memory the picture takes. -/
def memory (raster : Raster) : Nat :=
  raster.samples * raster.kind.size

/-- The bytes of the samples in a file, where they are not text. -/
def storedBytes (raster : Raster) : Nat :=
  match raster.kind with
  | .bit => (raster.size.width * raster.channels + 7) / 8 * raster.size.height
  | kind => raster.samples * kind.size

end Raster

/-! ## Words -/

def lineFeed : UInt8 := 10

def carriageReturn : UInt8 := 13

/-- The character of an ASCII byte. -/
def ascii? (b : UInt8) : Option Char :=
  if b < 128 then some (Char.ofNat b.toNat) else none

/-- The bytes that separate words. -/
def isSeparator (b : UInt8) : Bool :=
  (9 ≤ b && b ≤ 13) || b == 32

/-- The next word of a header and the bytes after the one separator that ends it. `commented` says that
the bytes belong to a comment, and `read` holds the word so far, backward. -/
def headerWord? (commented : Bool) (read : List Char) : List UInt8 → Option (List Char × List UInt8)
  | [] => if read = [] then none else some (read.reverse, [])
  | b :: rest =>
    if commented then headerWord? (b ≠ lineFeed ∧ b ≠ carriageReturn) read rest
    else if isSeparator b then
      if read = [] then headerWord? false [] rest else some (read.reverse, rest)
    else
      match ascii? b with
      | some '#' => headerWord? true read rest
      | some c => headerWord? false (c :: read) rest
      | none => none

/-- The next word of a header as a number. -/
def headerNumber? (bytes : List UInt8) : Option (Nat × List UInt8) := do
  let (word, rest) ← headerWord? false [] bytes
  return (← Decimal.unsigned32? word, rest)

/-! ## The header of words -/

/-- The size of a picture. -/
def headerSize? (bytes : List UInt8) : Option (Size × List UInt8) := do
  let (width, bytes) ← headerNumber? bytes
  let (height, bytes) ← headerNumber? bytes
  return (⟨width, height⟩, bytes)

/-- A bitmap has a size and nothing else. -/
def bitmap? (isText : Bool) (bytes : List UInt8) : Option (Raster × List UInt8) := do
  let (size, bytes) ← headerSize? bytes
  return (⟨size, .bit, 1, isText⟩, bytes)

/-- A map of shades or colours says after its size how large its samples get. -/
def map? (channels : Nat) (isText : Bool) (bytes : List UInt8) : Option (Raster × List UInt8) := do
  let (size, bytes) ← headerSize? bytes
  let (maximum, bytes) ← headerNumber? bytes
  return (⟨size, ← SampleKind.ofMaximum? maximum, channels, isText⟩, bytes)

/-! ## The header of lines -/

/-- The fields of a header of lines, as far as they are known. -/
structure Fields where
  width : Option Nat
  height : Option Nat
  depth : Option Nat
  maximum : Option Nat
  /-- What the samples of a pixel are. Several lines add up to one text. -/
  tupleType : Option (List Char)
  deriving DecidableEq

namespace Fields

def empty : Fields := ⟨none, none, none, none, none⟩

/-- A field that may be given once. -/
def once (known : Option Nat) (text : List Char) : Option (Option Nat) :=
  if known.isSome then none else (Decimal.unsigned32? (Text.trim text)).map some

/-- Takes in a line that starts with a word. -/
def add? (fields : Fields) (word rest : List Char) : Option Fields :=
  if word = "WIDTH".toList then do return { fields with width := ← once fields.width rest }
  else if word = "HEIGHT".toList then do return { fields with height := ← once fields.height rest }
  else if word = "DEPTH".toList then do return { fields with depth := ← once fields.depth rest }
  else if word = "MAXVAL".toList then do return { fields with maximum := ← once fields.maximum rest }
  else if word = "TUPLTYPE".toList then
    let before := match fields.tupleType with
      | some text => text ++ [' ']
      | none => []
    some { fields with tupleType := some (before ++ Text.trim rest) }
  else none

/-- The kind of the samples, if depth and maximum go with the type of the pixels. -/
def sampleKind? (depth maximum : Nat) (tupleType : Option (List Char)) : Option SampleKind :=
  let named (name : String) : Bool := tupleType = some name.toList
  let shade (channels : Nat) : Option SampleKind :=
    if depth = channels then SampleKind.ofMaximum? maximum else none
  let blackAndWhite (channels : Nat) : Option SampleKind :=
    if depth = channels ∧ maximum = 1 then some .flag else none
  if tupleType = none then if depth = 1 ∨ depth = 3 then some .byte else none
  else if named "BLACKANDWHITE" then blackAndWhite 1
  else if named "BLACKANDWHITE_ALPHA" then blackAndWhite 2
  else if named "GRAYSCALE" then shade 1
  else if named "GRAYSCALE_ALPHA" then shade 2
  else if named "RGB" then shade 3
  else if named "RGB_ALPHA" then shade 4
  else none

/-- The raster that the fields describe. -/
def raster? (fields : Fields) : Option Raster := do
  let depth ← fields.depth
  let kind ← sampleKind? depth (← fields.maximum) fields.tupleType
  return ⟨⟨← fields.width, ← fields.height⟩, kind, depth, false⟩

end Fields

/-- Reads header lines up to the last one, `line` holding the bytes of the line so far, backward. A line
that starts with `#` is a comment; any other is ASCII and starts with its word. -/
def headerLines? (fields : Fields) (line : List UInt8) : List UInt8 → Option (Raster × List UInt8)
  | [] => do
    let text ← Utf8.decode? line.reverse |>.toOption
    if text.all (·.toNat < 128) ∧ text.takeWhile (!Text.isBlank ·) = "ENDHDR".toList then
      return (← fields.raster?, [])
    else none
  | b :: rest =>
    if b ≠ lineFeed then headerLines? fields (b :: line) rest
    else
      match Utf8.decode? (b :: line).reverse with
      | .error _ => none
      | .ok text =>
        if text.head? = some '#' then headerLines? fields [] rest
        else if text.any (128 ≤ ·.toNat) then none
        else
          let word := text.takeWhile (!Text.isBlank ·)
          if word = "ENDHDR".toList then fields.raster?.map (·, rest)
          else
            match fields.add? word (text.drop word.length) with
            | some fields => headerLines? fields [] rest
            | none => none

/-- The arbitrary map starts its lines right after its mark. -/
def arbitraryMap? : List UInt8 → Option (Raster × List UInt8)
  | b :: rest => if b = lineFeed then headerLines? .empty [] rest else none
  | [] => none

/-- The raster of a picture and the bytes after the header. The mark is a `P` and a digit. -/
def raster? : List UInt8 → Option (Raster × List UInt8)
  | p :: digit :: rest =>
    if ascii? p = some 'P' then
      match ascii? digit with
      | some '1' => bitmap? true rest
      | some '2' => map? 1 true rest
      | some '3' => map? 3 true rest
      | some '4' => bitmap? false rest
      | some '5' => map? 1 false rest
      | some '6' => map? 3 false rest
      | some '7' => arbitraryMap? rest
      | _ => none
    else none
  | _ => none

/-! ## Samples -/

/-- A number of bits, written as digits with or without separators. -/
def bitsFollow : Nat → List UInt8 → Bool
  | 0, _ => true
  | _, [] => false
  | count + 1, b :: rest =>
    if isSeparator b then bitsFollow (count + 1) rest
    else (ascii? b = some '0' || ascii? b = some '1') && bitsFollow count rest

/-- A number of samples up to a maximum, written as words. -/
def numbersFollow (maximum : Nat) : Nat → List UInt8 → Bool
  | 0, _ => true
  | count + 1, bytes =>
    let word := (bytes.dropWhile isSeparator).takeWhile (!isSeparator ·)
    let after := (bytes.dropWhile isSeparator).dropWhile (!isSeparator ·)
    match word.mapM ascii? with
    | some text => (Decimal.natural? maximum text).isSome && numbersFollow maximum count (after.drop 1)
    | none => false

/-- The samples of a raster stand at the front of the bytes. -/
def Raster.follows (raster : Raster) (bytes : List UInt8) : Bool :=
  if raster.isText then
    match raster.kind with
    | .bit => bitsFollow raster.samples bytes
    | kind => numbersFollow kind.maximum raster.samples bytes
  else
    let stored := bytes.take raster.storedBytes
    stored.length = raster.storedBytes && (raster.kind ≠ .flag || stored.all (· ≤ 1))

/-- The size of the picture that bytes hold, if they hold one. -/
def size? (bytes : List UInt8) : Option Size := do
  let (raster, rest) ← raster? bytes
  if raster.memory ≤ maxMemory ∧ raster.follows rest then some raster.size else none

/-- Bytes of an ASCII text. -/
private def sample (text : String) (tail : List UInt8) : List UInt8 :=
  text.toUTF8.toList ++ tail

example : size? (sample "P6 2 1 255\n" [255, 0, 0, 0, 0, 0]) = some ⟨2, 1⟩ := by decide +kernel

/-- One byte is missing. -/
example : size? (sample "P6 2 1 255\n" [255, 0, 0, 0, 0]) = none := by decide +kernel

/-- A comment inside a number does not end it. -/
example : size? (sample "P2\n1#two\n0 1 9\n1 2 3 4 5 6 7 8 9 0" []) = some ⟨10, 1⟩ := by decide +kernel

/-- A picture may be empty. -/
example : size? (sample "P5 0 7 255\n" []) = some ⟨0, 7⟩ := by decide +kernel

example :
    size? (sample "P7\nWIDTH 1\nHEIGHT 1\nDEPTH 3\nMAXVAL 255\nTUPLTYPE RGB\nENDHDR\n" [1, 2, 3]) =
      some ⟨1, 1⟩ := by decide +kernel

end FrameTransition.Image.Netpbm
