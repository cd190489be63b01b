import FrameTransition.Number.Basic

/-!
# Binary formats

A `Format` fixes the grid a number is rounded to: how many significant bits, the exponent of the
smallest unit, and the power of two at which numbers overflow. `Format.round` is rounding to the
nearest grid point, a tie to the even one, decided in exact rational arithmetic: no machine float
takes part. `Format.word` and `Format.ofWord` are the interchange encoding, sign bit first.
-/

namespace FrameTransition

/-- A binary interchange format. -/
structure Format where
  /-- Significant bits of a normal number. -/
  precision : Nat
  /-- Exponent of the unit of the smallest numbers. -/
  bottom : Int
  /-- Numbers of magnitude `2 ^ overflow` and more are infinite. -/
  overflow : Int
  deriving DecidableEq

namespace Format

/-- The 64-bit format. -/
def binary64 : Format := ⟨53, -1074, 1024⟩

/-- The 32-bit format. -/
def binary32 : Format := ⟨24, -149, 128⟩

end Format

/-- `2 ^ e`, for any integer `e`. -/
def powTwo (e : Int) : Rat :=
  if 0 ≤ e then (Nat.pow 2 e.toNat : Rat) else mkRat 1 (Nat.pow 2 (-e).toNat)

/-- The largest `e` with `2 ^ e ≤ x`, for positive `x`. The bit lengths of numerator and denominator
leave two candidates. -/
def floorLog2 (x : Rat) : Int :=
  let estimate : Int := (x.num.natAbs.log2 : Int) - (x.den.log2 : Int)
  if powTwo estimate ≤ x then estimate else estimate - 1

/-- The nearest integer; of two equally near ones the even one. -/
def roundHalfEven (x : Rat) : Int :=
  let below := x.floor
  let rest := x - (below : Rat)
  let half := mkRat 1 2
  if rest < half then below
  else if half < rest then below + 1
  else if below % 2 = 0 then below else below + 1

namespace Format

/-- The exponent of the unit in the last place around the positive `x`. -/
def unitExponent (format : Format) (x : Rat) : Int :=
  max (floorLog2 x - ((format.precision : Int) - 1)) format.bottom

/-- A positive rational as significand and exponent on the format's grid, nearest even. The
significand may be `2 ^ precision`, the next binade's first point. -/
def significand (format : Format) (x : Rat) : Nat × Int :=
  let e := format.unitExponent x
  ((roundHalfEven (x / powTwo e)).toNat, e)

/-- The nearest grid point to a positive rational, or the infinity. -/
def roundPositive (format : Format) (negative : Bool) (x : Rat) : Number :=
  let (m, e) := format.significand x
  let magnitude := (m : Rat) * powTwo e
  if powTwo format.overflow ≤ magnitude then .infinite negative
  else if m = 0 then .zero negative
  else .real (if negative then -magnitude else magnitude)

/-- Rounding to nearest, ties to even, with overflow to the infinities and underflow to the zeros. -/
def round (format : Format) : Rounding := fun x =>
  if x = 0 then .real 0
  else if x < 0 then format.roundPositive true (-x)
  else format.roundPositive false x

/-! ## Interchange words -/

/-- Bits of the exponent field: enough for the biased exponents from `bottom` to `overflow`. -/
def exponentBits (format : Format) : Nat :=
  (format.overflow - format.bottom - format.precision + 2).toNat.log2 + 1

/-- The leading bit of a significand that fills its width. Words leave it out. -/
def hidden (format : Format) : Nat :=
  Nat.pow 2 (format.precision - 1)

/-- The all-ones exponent, of infinities and of `nan`. -/
def specialExponent (format : Format) : Nat :=
  Nat.pow 2 format.exponentBits - 1

/-- The word of a sign, an exponent field and a fraction field. -/
def assemble (format : Format) (negative : Bool) (exponent fraction : Nat) : Nat :=
  (if negative then Nat.pow 2 (format.exponentBits + format.precision - 1) else 0)
    + exponent * format.hidden + fraction

/-- The word of a number, rounded first where the format lacks it; `none` for `nan`, which has
many words. -/
def word? (format : Format) (x : Number) : Option Nat :=
  match x.narrow format.round with
  | .nan => none
  | .infinite negative => some (format.assemble negative format.specialExponent 0)
  | .negativeZero => some (format.assemble true 0 0)
  | .real value =>
    if value = 0 then some (format.assemble false 0 0)
    else
      let negative := decide (value < 0)
      let (m, e) := format.significand (if negative then -value else value)
      if m < format.hidden then some (format.assemble negative 0 m)
      else some (format.assemble negative ((e - format.bottom).toNat + 1) (m - format.hidden))

/-- The number a word denotes. -/
def ofWord (format : Format) (word : Nat) : Number :=
  let exponents := Nat.pow 2 format.exponentBits
  let fraction := word % format.hidden
  let exponent := word / format.hidden % exponents
  let negative := word / format.hidden / exponents % 2 = 1
  if exponent = format.specialExponent then
    if fraction = 0 then .infinite negative else .nan
  else
    let magnitude : Rat :=
      if exponent = 0 then (fraction : Rat) * powTwo format.bottom
      else ((format.hidden + fraction : Nat) : Rat) * powTwo (format.bottom + (exponent : Int) - 1)
    if magnitude = 0 then .zero negative
    else .real (if negative then -magnitude else magnitude)

end Format

/-! ## Facts at the corners of the grid -/

example : Format.binary64.exponentBits = 11 ∧ Format.binary32.exponentBits = 8 := by decide +kernel

/-- A tie goes to the even neighbour, below and above. -/
example : roundHalfEven (5 / 2) = 2 ∧ roundHalfEven (7 / 2) = 4 ∧ roundHalfEven (-5 / 2) = -2 := by
  decide +kernel

end FrameTransition
