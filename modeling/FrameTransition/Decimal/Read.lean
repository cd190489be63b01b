import FrameTransition.Number.Format

/-!
# Reading decimal text

Two readers over characters: `Decimal.number?` for floating-point text and `Decimal.natural?`,
`Decimal.integer?` for integers inside a range. Neither skips blanks or takes a separator; text left
over is a refusal.

Floating-point text is an optional sign and then `inf`, `infinity` or `nan` in any case, or digits
with at most one point and an optional exponent. At least one digit stands beside the point, on
either side. The value is the exact decimal, rounded once.
-/

namespace FrameTransition.Decimal

/-- The value of a run of digits. -/
def value (digits : List Char) : Nat :=
  digits.foldl (fun n c => 10 * n + (c.toNat - '0'.toNat)) 0

/-- `some` of a non-empty text made of digits only. -/
def digits? (cs : List Char) : Option Nat :=
  if cs ≠ [] ∧ cs.all Char.isDigit then some (value cs) else none

/-- A natural number up to `bound`, with an optional plus sign. -/
def natural? (bound : Nat) (cs : List Char) : Option Nat :=
  let unsigned := match cs with
    | '+' :: rest => rest
    | _ => cs
  (digits? unsigned).filter (· ≤ bound)

/-- An integer from `low` to `high`, with an optional sign. -/
def integer? (low high : Int) (cs : List Char) : Option Int :=
  let read : Option Int := match cs with
    | '+' :: rest => (digits? rest).map Int.ofNat
    | '-' :: rest => (digits? rest).map fun n => -Int.ofNat n
    | _ => (digits? cs).map Int.ofNat
  read.filter fun i => low ≤ i ∧ i ≤ high

/-- The largest value of an unsigned 32-bit word. -/
def maxUnsigned32 : Nat := 4294967295

/-- A text that fits an unsigned 32-bit word. -/
def unsigned32? (cs : List Char) : Option Nat :=
  natural? maxUnsigned32 cs

/-- A text that fits a signed 32-bit word. -/
def signed32? (cs : List Char) : Option Int :=
  integer? (-2147483648) 2147483647 cs

/-! ## Floating-point text -/

/-- `10 ^ e`, for any integer `e`. -/
def powTen (e : Int) : Rat :=
  if 0 ≤ e then (Nat.pow 10 e.toNat : Rat) else mkRat 1 (Nat.pow 10 (-e).toNat)

/-- An unsigned decimal as it is written: its digits, without the point, and the exponent of the
last one. -/
structure Literal where
  digits : List Char
  exponent : Int
  deriving DecidableEq

/-- The exponent part, which may be missing. -/
def exponent? : List Char → Option Int
  | [] => some 0
  | c :: rest =>
    if c = 'e' ∨ c = 'E' then
      match rest with
      | '+' :: digits => (digits? digits).map Int.ofNat
      | '-' :: digits => (digits? digits).map fun n => -Int.ofNat n
      | digits => (digits? digits).map Int.ofNat
    else none

/-- An unsigned decimal. -/
def Literal.ofChars? (cs : List Char) : Option Literal :=
  let whole := cs.takeWhile Char.isDigit
  let afterWhole := cs.dropWhile Char.isDigit
  let (fraction, rest) := match afterWhole with
    | '.' :: tail => (tail.takeWhile Char.isDigit, tail.dropWhile Char.isDigit)
    | _ => ([], afterWhole)
  if whole = [] ∧ fraction = [] then none
  else (exponent? rest).map fun e => ⟨whole ++ fraction, e - fraction.length⟩

/-- Beyond this power of ten a number is infinite, below its inverse it is zero. The wider of the two
formats ends well inside. -/
def powerLimit : Int := 400

/-- The number a literal denotes. Powers of ten far outside the format are never computed. -/
def Literal.number (l : Literal) (ρ : Rounding) (negative : Bool) : Number :=
  let significant := l.digits.dropWhile (· = '0')
  let magnitude := (significant.length : Int) + l.exponent
  if significant = [] then .zero negative
  else if powerLimit < magnitude then .infinite negative
  else if magnitude < -powerLimit then .zero negative
  else
    let exact := (value significant : Rat) * powTen l.exponent
    ρ (if negative then -exact else exact)

/-- The unsigned part of floating-point text. -/
def magnitude? (ρ : Rounding) (negative : Bool) (cs : List Char) : Option Number :=
  let word := String.ofList (cs.map Char.toLower)
  if word = "inf" ∨ word = "infinity" then some (.infinite negative)
  else if word = "nan" then some .nan
  else (Literal.ofChars? cs).map (·.number ρ negative)

/-- Floating-point text, rounded by `ρ`. -/
def number? (ρ : Rounding) (cs : List Char) : Option Number :=
  match cs with
  | '+' :: rest => magnitude? ρ false rest
  | '-' :: rest => magnitude? ρ true rest
  | _ => magnitude? ρ false cs

/-- Floating-point text as a 64-bit number. -/
def binary64? (cs : List Char) : Option Number :=
  number? Format.binary64.round cs

end FrameTransition.Decimal
