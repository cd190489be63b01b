/-!
# Floating-point data

A `Number` is what a binary floating-point word denotes, without its width: not a number, a signed
infinity, the negative zero, or an exact rational. The width enters only where an exact result is
rounded, so arithmetic is stated once, over any `Rounding`: the exact rational result, then the
rounding. `Number/Format.lean` supplies the two roundings the library runs with.

Zero is the one value a rational cannot carry the sign of, hence its own constructor; `real 0` is the
positive zero.
-/

namespace FrameTransition

/-- What a floating-point word denotes. -/
inductive Number where
  /-- Not a number. -/
  | nan
  /-- An infinity; `negative` tells which. -/
  | infinite (negative : Bool)
  /-- Zero with its sign bit set. -/
  | negativeZero
  /-- An exact value. `real 0` is zero with its sign bit clear. -/
  | real (value : Rat)
  deriving DecidableEq, Inhabited

/-- How an exact non-zero result becomes a number again: to nearest, toward zero, or any other way. -/
abbrev Rounding := Rat → Number

namespace Number

/-- The sign bit. That of a `nan` is clear: no answer shows it. -/
def isNegative : Number → Bool
  | nan => false
  | infinite negative => negative
  | negativeZero => true
  | real value => value < 0

def isNaN : Number → Bool
  | nan => true
  | _ => false

/-- Neither an infinity nor `nan`. -/
def isFinite : Number → Bool
  | nan => false
  | infinite _ => false
  | negativeZero => true
  | real _ => true

/-- The exact value of a finite number; both zeros are `0`. -/
def value? : Number → Option Rat
  | nan => none
  | infinite _ => none
  | negativeZero => some 0
  | real value => some value

/-- Zero with the given sign bit. -/
def zero (negative : Bool) : Number :=
  if negative then negativeZero else real 0

/-! ## Order

Every comparison with `nan` is false, and the two zeros are equal. -/

/-- Strictly less, as values. -/
def lt : Number → Number → Bool
  | nan, _ => false
  | _, nan => false
  | infinite a, infinite b => a && !b
  | infinite a, _ => a
  | _, infinite b => !b
  | negativeZero, negativeZero => false
  | negativeZero, real b => 0 < b
  | real a, negativeZero => a < 0
  | real a, real b => a < b

/-- Less or equal, as values. -/
def le (a b : Number) : Bool :=
  !a.isNaN && !b.isNaN && !lt b a

/-- Brings `x` into `[low, high]`. A number equal to a bound is kept as it is, sign of zero
included, and so is `nan`. -/
def clamp (low high x : Number) : Number :=
  let raised := if lt x low then low else x
  if lt high raised then high else raised

/-! ## Arithmetic, over a rounding -/

/-- The rounded value of an exact result, with the sign a zero result takes. -/
def ofExact (ρ : Rounding) (negativeIfZero : Bool) (exact : Rat) : Number :=
  if exact = 0 then zero negativeIfZero else ρ exact

/-- `x - y`. Equal operands give the positive zero; only `-0 - 0` is the negative one. -/
def sub (ρ : Rounding) : Number → Number → Number
  | nan, _ => nan
  | _, nan => nan
  | infinite a, infinite b => if a = b then nan else infinite a
  | infinite a, _ => infinite a
  | _, infinite b => infinite (!b)
  | negativeZero, negativeZero => real 0
  | negativeZero, real b => ofExact ρ true (-b)
  | real a, negativeZero => ofExact ρ false a
  | real a, real b => ofExact ρ false (a - b)

/-- `x * y`. The sign of a zero product is that of the factors' product. -/
def mul (ρ : Rounding) (x y : Number) : Number :=
  let negative := x.isNegative != y.isNegative
  match x, y with
  | nan, _ => nan
  | _, nan => nan
  | infinite _, infinite _ => infinite negative
  | infinite _, finite => if finite.value? = some 0 then nan else infinite negative
  | finite, infinite _ => if finite.value? = some 0 then nan else infinite negative
  | a, b => ofExact ρ negative ((a.value?.getD 0) * (b.value?.getD 0))

/-- `x / y`. A non-zero number over zero is an infinity; zero over zero and infinity over infinity
are `nan`. -/
def div (ρ : Rounding) (x y : Number) : Number :=
  let negative := x.isNegative != y.isNegative
  match x, y with
  | nan, _ => nan
  | _, nan => nan
  | infinite _, infinite _ => nan
  | infinite _, _ => infinite negative
  | _, infinite _ => zero negative
  | a, b =>
    let numerator := a.value?.getD 0
    let denominator := b.value?.getD 0
    if denominator = 0 then
      if numerator = 0 then nan else infinite negative
    else
      ofExact ρ negative (numerator / denominator)

/-- An integer, rounded. -/
def ofInt (ρ : Rounding) (i : Int) : Number :=
  ofExact ρ false i

/-- The same number under a coarser rounding. Zeros, infinities and `nan` stay what they are. -/
def narrow (ρ : Rounding) : Number → Number
  | real value => ofExact ρ false value
  | other => other

end Number

end FrameTransition
