/-!
# UTF-8

`decode?` reads a whole byte sequence or reports where it stops being UTF-8; `decodeLossy` reads any
byte sequence, putting the replacement character for each maximal part that no character starts with.
Both go by the same step, `next`, which looks at the bytes from a character's start.
-/

namespace FrameTransition.Utf8

/-- What stands at the front of a byte sequence. -/
inductive Step where
  /-- A character and how many bytes it takes. -/
  | char (c : Char) (size : Nat)
  /-- The first `size` bytes start a character and the next byte does not continue it, or the first
  byte starts none (`size` is 1). -/
  | invalid (size : Nat)
  /-- The bytes end inside a character. -/
  | incomplete (size : Nat)
  deriving DecidableEq

/-- A continuation byte. -/
def isTail (b : UInt8) : Bool :=
  0x80 ≤ b && b ≤ 0xBF

/-- The bytes that may come second, after a lead byte of a sequence of two to four. The narrower
ranges keep out overlong forms, surrogates and code points past the last plane. -/
def secondRange (lead : UInt8) : UInt8 × UInt8 :=
  if lead = 0xE0 then (0xA0, 0xBF)
  else if lead = 0xED then (0x80, 0x9F)
  else if lead = 0xF0 then (0x90, 0xBF)
  else if lead = 0xF4 then (0x80, 0x8F)
  else (0x80, 0xBF)

/-- The length of the sequence that a lead byte announces. -/
def announced? (lead : UInt8) : Option Nat :=
  if lead < 0x80 then some 1
  else if 0xC2 ≤ lead ∧ lead ≤ 0xDF then some 2
  else if 0xE0 ≤ lead ∧ lead ≤ 0xEF then some 3
  else if 0xF0 ≤ lead ∧ lead ≤ 0xF4 then some 4
  else none

/-- Appends six payload bits. -/
def push (n : Nat) (b : UInt8) : Nat :=
  n * 64 + b.toNat % 64

/-- The third and fourth byte of a sequence: `size` bytes are read, `left` are owed. -/
def continueTail (n size left : Nat) (bytes : List UInt8) : Step :=
  match left, bytes with
  | 0, _ => .char (Char.ofNat n) size
  | _ + 1, [] => .incomplete size
  | left + 1, b :: rest => if isTail b then continueTail (push n b) (size + 1) left rest else .invalid size

/-- The character at the front of a non-empty sequence. -/
def next (lead : UInt8) (rest : List UInt8) : Step :=
  match announced? lead with
  | none => .invalid 1
  | some 1 => .char (Char.ofNat lead.toNat) 1
  | some length =>
    match rest with
    | [] => .incomplete 1
    | second :: tail =>
      let (low, high) := secondRange lead
      if low ≤ second ∧ second ≤ high then
        continueTail (push (lead.toNat % Nat.pow 2 (7 - length)) second) 2 (length - 2) tail
      else .invalid 1

/-- Where a byte sequence stops being UTF-8. -/
structure Fault where
  /-- The number of bytes before it, all of whole characters. -/
  index : Nat
  /-- The length of the bad part; `none` when the bytes end inside a character. -/
  size : Option Nat
  deriving DecidableEq

/-- A sentence about the fault. -/
def Fault.message (fault : Fault) : String :=
  match fault.size with
  | some size => s!"invalid utf-8 sequence of {size} bytes from index {fault.index}"
  | none => s!"incomplete utf-8 byte sequence from index {fault.index}"

/-- The characters of a byte sequence from an index on, with the fault that ends them. `skip` bytes
belong to a character already read. -/
def decodeFrom (index skip : Nat) : List UInt8 → Except Fault (List Char)
  | [] => .ok []
  | b :: rest =>
    match skip with
    | skip + 1 => decodeFrom (index + 1) skip rest
    | 0 =>
      match next b rest with
      | .char c size => (c :: ·) <$> decodeFrom (index + 1) (size - 1) rest
      | .invalid size => .error ⟨index, some size⟩
      | .incomplete _ => .error ⟨index, none⟩

/-- The characters of a byte sequence, all of it. -/
def decode? (bytes : List UInt8) : Except Fault (List Char) :=
  decodeFrom 0 0 bytes

/-- What a bad part is replaced by. -/
def replacement : Char := '\uFFFD'

/-- The characters of a byte sequence, `skip` bytes of it already accounted for. -/
def decodeLossyFrom (skip : Nat) : List UInt8 → List Char
  | [] => []
  | b :: rest =>
    match skip with
    | skip + 1 => decodeLossyFrom skip rest
    | 0 =>
      match next b rest with
      | .char c size => c :: decodeLossyFrom (size - 1) rest
      | .invalid size => replacement :: decodeLossyFrom (size - 1) rest
      | .incomplete size => replacement :: decodeLossyFrom (size - 1) rest

/-- The characters of any byte sequence, bad parts replaced. -/
def decodeLossy (bytes : List UInt8) : List Char :=
  decodeLossyFrom 0 bytes

/-- The bytes of a text. -/
def encode (cs : List Char) : List UInt8 :=
  cs.flatMap String.utf8EncodeChar

/-- The number of bytes of a text. -/
def size (cs : List Char) : Nat :=
  (encode cs).length

example : decode? [0x77, 0xFF] = .error ⟨1, some 1⟩ := by rfl

example : decodeLossy [0x61, 0xFF, 0x62, 0xE2, 0x82, 0xC3] = ['a', '\uFFFD', 'b', '\uFFFD', '\uFFFD'] := by
  rfl

end FrameTransition.Utf8
