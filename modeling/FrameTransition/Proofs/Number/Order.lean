import FrameTransition.Number.Basic
import Mathlib.Algebra.Order.Field.Rat
import Mathlib.Order.WithBot

/-!
# Where numbers lie

`place?` puts a number on the rational line between two end points: an infinity at an end, both zeros in
one place, and `nan` nowhere. Comparing numbers is comparing places (`le_iff`), and holding a number
between two bounds is doing so on the line (`place?_clamp`).

`Rounds` says of a step of arithmetic that it rounds the exact result and keeps the infinities. Taking a
number off, dividing by a positive one and narrowing are such steps, and under a rounding that keeps the
order all of them keep it (`Rounds.le`).
-/

namespace FrameTransition.Number

/-- The rational line with an end point on either side. -/
abbrev Line := WithBot (WithTop ℚ)

/-- A value on the line. -/
abbrev Line.ofRat (value : ℚ) : Line := ((value : WithTop ℚ) : WithBot (WithTop ℚ))

/-- Where a number lies. -/
def place? : Number → Option Line
  | nan => none
  | infinite true => some ⊥
  | infinite false => some ⊤
  | negativeZero => some (.ofRat 0)
  | real value => some (.ofRat value)

theorem Line.ofRat_lt_top (value : ℚ) : Line.ofRat value < ⊤ :=
  WithBot.coe_lt_coe.mpr (WithTop.coe_lt_top value)

theorem Line.ofRat_le_ofRat {v w : ℚ} : Line.ofRat v ≤ Line.ofRat w ↔ v ≤ w :=
  WithBot.coe_le_coe.trans WithTop.coe_le_coe

/-! ## Order -/

section Order

variable {a b c low high x : Number} {p q l h : Line}

theorem eq_nan_of_isNaN (ha : a.isNaN = true) : a = nan := by
  cases a with
  | nan => rfl
  | infinite | negativeZero | real => cases ha

theorem place?_eq_none_iff : a.place? = none ↔ a.isNaN = true := by
  cases a with
  | nan => simp [place?, isNaN]
  | infinite negative => cases negative <;> simp [place?, isNaN]
  | negativeZero | real => simp [place?, isNaN]

theorem isNaN_of_place? (ha : a.place? = some p) : a.isNaN = false := by
  rw [Bool.eq_false_iff]
  intro hnan
  rw [place?_eq_none_iff.mpr hnan] at ha
  cases ha

theorem exists_place? (ha : a.isNaN = false) : ∃ p, a.place? = some p := by
  refine Option.ne_none_iff_exists'.mp fun hnone => ?_
  rw [place?_eq_none_iff.mp hnone] at ha
  cases ha

theorem lt_iff_of_place? (ha : a.place? = some p) (hb : b.place? = some q) :
    lt a b = true ↔ p < q := by
  cases a with
  | nan => cases ha
  | infinite na =>
    cases b with
    | nan => cases hb
    | infinite nb => cases na <;> cases nb <;> cases ha <;> cases hb <;> simp [lt]
    | negativeZero | real => cases na <;> cases ha <;> cases hb <;> simp [lt]
  | negativeZero | real =>
    cases b with
    | nan => cases hb
    | infinite nb =>
      cases nb with
      | true => cases ha; cases hb; simp [lt]
      | false => cases ha; cases hb; exact iff_of_true rfl (Line.ofRat_lt_top _)
    | negativeZero | real => cases ha; cases hb; simp [lt]

theorem le_iff_of_place? (ha : a.place? = some p) (hb : b.place? = some q) :
    le a b = true ↔ p ≤ q := by
  rw [← not_lt, ← lt_iff_of_place? hb ha]
  simp [le, isNaN_of_place? ha, isNaN_of_place? hb]

/-- One number is at most another if it lies no further right. -/
theorem le_iff : le a b = true ↔ ∃ p q, a.place? = some p ∧ b.place? = some q ∧ p ≤ q := by
  constructor
  · intro hle
    have hnans : a.isNaN = false ∧ b.isNaN = false := by
      unfold le at hle
      simp only [Bool.and_eq_true, Bool.not_eq_true'] at hle
      exact hle.1
    obtain ⟨p, hp⟩ := exists_place? hnans.1
    obtain ⟨q, hq⟩ := exists_place? hnans.2
    exact ⟨p, q, hp, hq, (le_iff_of_place? hp hq).mp hle⟩
  · rintro ⟨p, q, hp, hq, hle⟩
    exact (le_iff_of_place? hp hq).mpr hle

theorem le_refl_iff : le a a = true ↔ a.isNaN = false := by
  rw [le_iff]
  constructor
  · rintro ⟨p, -, hp, -⟩
    exact isNaN_of_place? hp
  · intro ha
    obtain ⟨p, hp⟩ := exists_place? ha
    exact ⟨p, p, hp, hp, le_rfl⟩

protected theorem le_trans (hab : le a b = true) (hbc : le b c = true) : le a c = true := by
  obtain ⟨p, q, hp, hq, hpq⟩ := le_iff.mp hab
  obtain ⟨q', r, hq', hr, hqr⟩ := le_iff.mp hbc
  obtain rfl := Option.some.inj (hq.symm.trans hq')
  exact le_iff.mpr ⟨p, r, hp, hr, hpq.trans hqr⟩

/-- Only the place counts. -/
theorem le_congr {a' b' : Number} (ha : a.place? = a'.place?) (hb : b.place? = b'.place?) :
    le a b = le a' b' := by
  rw [Bool.eq_iff_iff, le_iff, le_iff, ha, hb]

/-- Holding a number between two bounds is done on the line. -/
theorem place?_clamp (hlow : low.place? = some l) (hhigh : high.place? = some h)
    (hx : x.place? = some p) : (clamp low high x).place? = some (min h (max l p)) := by
  have hraised : (if lt x low = true then low else x).place? = some (max l p) := by
    by_cases hlt : lt x low = true
    · rw [if_pos hlt, hlow, max_eq_left ((lt_iff_of_place? hx hlow).mp hlt).le]
    · rw [if_neg hlt, hx, max_eq_right (not_lt.mp (mt (lt_iff_of_place? hx hlow).mpr hlt))]
  unfold clamp
  dsimp only
  by_cases hlt : lt high (if lt x low = true then low else x) = true
  · rw [if_pos hlt, hhigh, min_eq_left ((lt_iff_of_place? hhigh hraised).mp hlt).le]
  · rw [if_neg hlt, hraised,
      min_eq_right (not_lt.mp (mt (lt_iff_of_place? hhigh hraised).mpr hlt))]

/-- Bounds keep the order. -/
theorem clamp_le_clamp (hlow : low.isNaN = false) (hhigh : high.isNaN = false) (h : le a b = true) :
    le (clamp low high a) (clamp low high b) = true := by
  obtain ⟨l, hl⟩ := exists_place? hlow
  obtain ⟨u, hu⟩ := exists_place? hhigh
  obtain ⟨p, q, hp, hq, hpq⟩ := le_iff.mp h
  rw [le_iff_of_place? (place?_clamp hl hu hp) (place?_clamp hl hu hq)]
  exact min_le_min_left u (max_le_max_left l hpq)

end Order

/-! ## The ends and the values -/

section Ends

variable {x y : Number} {v w : ℚ}

theorem place?_of_value? (hx : x.value? = some v) : x.place? = some (.ofRat v) := by
  cases x with
  | nan | infinite => cases hx
  | negativeZero | real => cases hx; rfl

theorem value?_of_place? (hx : x.place? = some (.ofRat v)) : x.value? = some v := by
  cases x with
  | nan => cases hx
  | infinite negative => cases negative <;> cases hx
  | negativeZero | real => cases hx; rfl

theorem isFinite_of_value? (hx : x.value? = some v) : x.isFinite = true := by
  cases x with
  | nan | infinite => cases hx
  | negativeZero | real => rfl

/-- Away from zero a place has one number. -/
theorem eq_real_of_place? (hv : v ≠ 0) (hx : x.place? = some (.ofRat v)) : x = .real v := by
  cases x with
  | nan => cases hx
  | infinite negative => cases negative <;> cases hx
  | negativeZero => cases hx; exact absurd rfl hv
  | real => cases hx; rfl

theorem eq_infinite_of_place? (hx : x.place? = some ⊤) : x = .infinite false := by
  cases x with
  | nan => cases hx
  | infinite negative =>
    cases negative with
    | true => cases hx
    | false => rfl
  | negativeZero | real => cases hx

/-- All but `nan` are an end of the line or a value. -/
theorem infinite_or_value? (hx : x.isNaN = false) :
    (∃ negative, x = .infinite negative) ∨ ∃ v, x.value? = some v := by
  cases x with
  | nan => cases hx
  | infinite negative => exact .inl ⟨negative, rfl⟩
  | negativeZero | real => exact .inr ⟨_, rfl⟩

theorem infinite_le (hx : x.isNaN = false) : Number.le (.infinite true) x = true := by
  obtain ⟨p, hp⟩ := exists_place? hx
  exact (le_iff_of_place? rfl hp).mpr bot_le

theorem le_infinite (hx : x.isNaN = false) : Number.le x (.infinite false) = true := by
  obtain ⟨p, hp⟩ := exists_place? hx
  exact (le_iff_of_place? hp rfl).mpr le_top

/-- Of two numbers in order the lower is the left end, the upper is the right end, or both are values. -/
theorem le_cases (h : Number.le x y = true) : x = .infinite true ∨ y = .infinite false ∨
    ∃ v w, x.value? = some v ∧ y.value? = some w ∧ v ≤ w := by
  obtain ⟨p, q, hp, hq, hpq⟩ := le_iff.mp h
  rcases infinite_or_value? (isNaN_of_place? hp) with ⟨negative, rfl⟩ | ⟨v, hv⟩
  · cases negative with
    | true => exact .inl rfl
    | false =>
      cases hp
      obtain rfl := top_le_iff.mp hpq
      exact .inr (.inl (eq_infinite_of_place? hq))
  · obtain rfl := Option.some.inj (hp.symm.trans (place?_of_value? hv))
    rcases infinite_or_value? (isNaN_of_place? hq) with ⟨negative, rfl⟩ | ⟨w, hw⟩
    · cases negative with
      | true =>
        cases hq
        exact absurd hpq (by simp)
      | false => exact .inr (.inl rfl)
    · obtain rfl := Option.some.inj (hq.symm.trans (place?_of_value? hw))
      exact .inr (.inr ⟨v, w, hv, hw, Line.ofRat_le_ofRat.mp hpq⟩)

end Ends

/-! ## Steps of arithmetic -/

/-- A step rounds the exact result of a finite number and keeps an infinity as it is. -/
structure Rounds (ρ : Rounding) (exact : ℚ → ℚ) (step : Number → Number) : Prop where
  finite : ∀ {x : Number} {value : ℚ}, x.value? = some value →
    (step x).place? = (ρ (exact value)).place?
  infinite : ∀ negative : Bool, step (.infinite negative) = .infinite negative

section Steps

variable {ρ : Rounding} {x y : Number} {v w : ℚ}

/-- The sign of a zero does not show. -/
theorem place?_ofExact (hzero : ρ 0 = .real 0) (negative : Bool) (exact : ℚ) :
    (ofExact ρ negative exact).place? = (ρ exact).place? := by
  unfold ofExact
  by_cases h : exact = 0
  · rw [if_pos h, h, hzero]
    cases negative <;> rfl
  · rw [if_neg h]

theorem rounds_sub (hzero : ρ 0 = .real 0) (hy : y.value? = some w) :
    Rounds ρ (· - w) (sub ρ · y) where
  finite := by
    intro x v hx
    cases x with
    | nan | infinite => cases hx
    | negativeZero =>
      cases y with
      | nan | infinite => cases hy
      | negativeZero => cases hx; cases hy; simp [sub, hzero]
      | real => cases hx; cases hy; simp [sub, place?_ofExact hzero]
    | real =>
      cases y with
      | nan | infinite => cases hy
      | negativeZero | real => cases hx; cases hy; simp [sub, place?_ofExact hzero]
  infinite := by
    intro negative
    cases y with
    | nan | infinite => cases hy
    | negativeZero | real => rfl

theorem rounds_div (hzero : ρ 0 = .real 0) (hy : y.value? = some w) (hw : 0 < w) :
    Rounds ρ (· / w) (div ρ · y) where
  finite := by
    intro x v hx
    cases y with
    | nan | infinite => cases hy
    | negativeZero => cases hy; exact absurd rfl hw.ne
    | real =>
      cases hy
      cases x with
      | nan | infinite => cases hx
      | negativeZero | real => cases hx; simp [div, value?, hw.ne', place?_ofExact hzero]
  infinite := by
    intro negative
    cases y with
    | nan | infinite => cases hy
    | negativeZero => cases hy; exact absurd rfl hw.ne
    | real => cases hy; simp [div, isNegative, not_lt.mpr hw.le]

/-- Multiplying by a positive number is a step of arithmetic. -/
theorem rounds_mul (hzero : ρ 0 = .real 0) (hy : y.value? = some w) (hw : 0 < w) :
    Rounds ρ (· * w) (mul ρ · y) where
  finite := by
    intro x v hx
    cases y with
    | nan | infinite => cases hy
    | negativeZero => cases hy; exact absurd rfl hw.ne
    | real =>
      cases hy
      cases x with
      | nan | infinite => cases hx
      | negativeZero | real => cases hx; simp [mul, value?, place?_ofExact hzero]
  infinite := by
    intro negative
    cases y with
    | nan | infinite => cases hy
    | negativeZero => cases hy; exact absurd rfl hw.ne
    | real => cases hy; simp [mul, value?, isNegative, hw.ne', not_lt.mpr hw.le]

theorem rounds_narrow (hzero : ρ 0 = .real 0) : Rounds ρ id (narrow ρ) where
  finite := by
    intro x v hx
    cases x with
    | nan | infinite => cases hx
    | negativeZero => cases hx; rw [id, hzero]; rfl
    | real => cases hx; exact place?_ofExact hzero false v
  infinite := fun _ => rfl

variable {exact : ℚ → ℚ} {step : Number → Number}

/-- Of a number a step makes a number. -/
theorem Rounds.isNaN_eq_false (hstep : Rounds ρ exact step) (hρ : ∀ v, (ρ v).isNaN = false)
    (hx : x.isNaN = false) : (step x).isNaN = false := by
  rcases infinite_or_value? hx with ⟨negative, rfl⟩ | ⟨v, hv⟩
  · rw [hstep.infinite]
    rfl
  · obtain ⟨p, hp⟩ := exists_place? (hρ (exact v))
    exact isNaN_of_place? ((hstep.finite hv).trans hp)

/-- A step keeps the order, if its exact part and its rounding do. -/
theorem Rounds.le (hstep : Rounds ρ exact step) (hexact : Monotone exact)
    (hρ : ∀ {v w : ℚ}, v ≤ w → Number.le (ρ v) (ρ w) = true) (hle : Number.le x y = true) :
    Number.le (step x) (step y) = true := by
  have hnumber : ∀ {z : Number}, z.isNaN = false → (step z).isNaN = false :=
    hstep.isNaN_eq_false fun v => le_refl_iff.mp (hρ le_rfl)
  obtain ⟨p, q, hp, hq, -⟩ := le_iff.mp hle
  rcases le_cases hle with rfl | rfl | ⟨v, w, hv, hw, hvw⟩
  · rw [hstep.infinite]
    exact infinite_le (hnumber (isNaN_of_place? hq))
  · rw [hstep.infinite]
    exact le_infinite (hnumber (isNaN_of_place? hp))
  · rw [le_congr (hstep.finite hv) (hstep.finite hw)]
    exact hρ (hexact hvw)

end Steps

end FrameTransition.Number
