import FrameTransition.Decimal.Read

/-!
# Shortest decimal text

`Format.shortest` gives a positive number the fewest digits that read back to it: on the decimal grids
of 1, 2, … digits it tests the two neighbours of the number and stops at the first grid where one of
them lies in the number's rounding cell. Of two hits the nearer wins, and an exact tie goes up.

`Decimal.plain` writes such digits positionally, however long that is, never with an exponent.
-/

namespace FrameTransition

/-- The rationals that round to one grid point. The ends belong to it when `closed`. -/
structure RoundingCell where
  low : Rat
  high : Rat
  closed : Bool

/-- Membership in a cell. -/
def RoundingCell.contains (cell : RoundingCell) (x : Rat) : Bool :=
  if cell.closed then cell.low ≤ x ∧ x ≤ cell.high else cell.low < x ∧ x < cell.high

/-- The cell of a positive grid point. Below a power of two the grid is twice as fine, so the cell of
such a point reaches only a quarter unit down. -/
def Format.cell (format : Format) (x : Rat) : RoundingCell :=
  let (m, e) := format.significand x
  let unit := powTwo e
  let down := if m = format.hidden ∧ format.bottom < e then unit / 4 else unit / 2
  { low := x - down, high := x + unit / 2, closed := m % 2 = 0 }

namespace Decimal

/-- How many decimal digits a natural number has; `0` has one. -/
def length (n : Nat) : Nat :=
  (Nat.toDigits 10 n).length

/-- The largest `e` with `10 ^ e ≤ x`, for positive `x`. -/
def floorLog10 (x : Rat) : Int :=
  let estimate : Int := (length x.num.natAbs : Int) - (length x.den : Int)
  if powTen estimate ≤ x then estimate else estimate - 1

/-- The point above `99…9` needs one digit less than its grid offers. -/
def carry (count digits : Nat) (exponent : Int) : Nat × Int :=
  if digits = Nat.pow 10 count then (1, exponent + count) else (digits, exponent)

/-- The better of the two neighbours of `x` on the grid of `count` digits, if one of them lies in the
cell: its digits and the exponent of the last. -/
def onGrid? (cell : RoundingCell) (x : Rat) (count : Nat) : Option (Nat × Int) :=
  let e := floorLog10 x - count + 1
  let step := powTen e
  let lower := (x / step).floor.toNat
  let below := (lower : Rat) * step
  let above := ((lower + 1 : Nat) : Rat) * step
  match cell.contains below, cell.contains above with
  | true, true => if x - below < above - x then some (lower, e) else some (carry count (lower + 1) e)
  | true, false => some (lower, e)
  | false, true => some (carry count (lower + 1) e)
  | false, false => none

end Decimal

/-- The shortest digits of a positive grid point, with the exponent of the last. Seventeen digits
always suffice for the formats in use. -/
def Format.shortest (format : Format) (x : Rat) : Nat × Int :=
  let cell := format.cell x
  ((List.range 17).findSome? fun n => Decimal.onGrid? cell x (n + 1)).getD (0, 0)

namespace Decimal

/-- Digits with the exponent of the last one, written positionally. -/
def positional (digits : Nat) (exponent : Int) : String :=
  let text := Nat.toDigits 10 digits
  if 0 ≤ exponent then
    String.ofList (text ++ List.replicate exponent.toNat '0')
  else
    let places := (-exponent).toNat
    if places < text.length then
      String.ofList (text.take (text.length - places) ++ '.' :: text.drop (text.length - places))
    else
      String.ofList ('0' :: '.' :: (List.replicate (places - text.length) '0' ++ text))

/-- A 64-bit number as text: shortest digits, positional at every magnitude, whole numbers without a
point, the sign of zero kept. -/
def plain : Number → String
  | .nan => "NaN"
  | .infinite negative => if negative then "-inf" else "inf"
  | .negativeZero => "-0"
  | .real value =>
    if value = 0 then "0"
    else if value < 0 then
      let (digits, exponent) := Format.binary64.shortest (-value)
      "-" ++ positional digits exponent
    else
      let (digits, exponent) := Format.binary64.shortest value
      positional digits exponent

end FrameTransition.Decimal
