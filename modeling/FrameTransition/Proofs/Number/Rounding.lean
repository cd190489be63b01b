import FrameTransition.Number.Format
import FrameTransition.Proofs.Number.Order
import Mathlib.Data.Int.Log
import Mathlib.Data.Rat.Floor
import Mathlib.Tactic.Linarith
import Mathlib.Tactic.Ring

/-!
# Roundings into a format

A rounding is admissible for a format if it keeps the order and leaves the format's own numbers alone;
nothing else is asked of it, so nearest, downward and upward rounding all qualify. `admissible_round`
says that rounding to nearest, as the library runs it, does.

The proof follows the definition. A positive rational is rounded on the grid of the binade it lies in
(`rounded`), where rounding is that of integers. Between two binades lies a power of two, which is on the
grid of both, so no number is carried past one (`rounded_le_rounded`). A number of the format has a
significand that fits, hence lies on the grid of its own binade (`rounded_eq_self`).
-/

namespace FrameTransition

/-! ## Numbers of a format -/

/-- The numbers that a word of the format denotes. -/
def Format.Holds (format : Format) (x : Number) : Prop :=
  ∃ word : Nat, format.ofWord word = x

/-- A rounding into a format: it keeps the order, and with it never makes `nan` of a value, and what the
format has it leaves as it is. -/
structure Rounding.Admissible (ρ : Rounding) (format : Format) : Prop where
  le_of_le : ∀ {x y : ℚ}, x ≤ y → Number.le (ρ x) (ρ y) = true
  eq_of_holds : ∀ {x : ℚ}, format.Holds (.real x) → ρ x = .real x

/-- A format with a significand and with normal numbers, whose words reach no further than its overflow. -/
structure Format.Proper (format : Format) : Prop where
  precision_pos : 0 < format.precision
  one_lt_special : 1 < format.specialExponent
  top_le : format.bottom + format.specialExponent + format.precision ≤ format.overflow + 2

namespace Rounding.Admissible

variable {ρ : Rounding} {format : Format}

theorem isNaN_eq_false (hρ : ρ.Admissible format) (x : ℚ) : (ρ x).isNaN = false :=
  Number.le_refl_iff.mp (hρ.le_of_le le_rfl)

/-- Between two numbers of the format a value is rounded to a value between them. -/
theorem exists_value {x low high : ℚ} (hρ : ρ.Admissible format) (hlow : format.Holds (.real low))
    (hhigh : format.Holds (.real high)) (hlx : low ≤ x) (hxh : x ≤ high) :
    ∃ v, (ρ x).place? = some (.ofRat v) ∧ low ≤ v ∧ v ≤ high := by
  have habove : Number.le (.real low) (ρ x) = true := hρ.eq_of_holds hlow ▸ hρ.le_of_le hlx
  have hbelow : Number.le (ρ x) (.real high) = true := hρ.eq_of_holds hhigh ▸ hρ.le_of_le hxh
  obtain ⟨p, q, hp, hq, hpq⟩ := Number.le_iff.mp habove
  obtain ⟨q', r, hq', hr, hqr⟩ := Number.le_iff.mp hbelow
  cases hp
  cases hr
  obtain rfl := Option.some.inj (hq.symm.trans hq')
  rcases Number.infinite_or_value? (Number.isNaN_of_place? hq) with ⟨negative, hinfinite⟩ | ⟨v, hv⟩
  · rw [hinfinite] at hq
    cases negative with
    | true =>
      cases hq
      exact absurd hpq (by simp)
    | false =>
      cases hq
      exact absurd hqr (not_le.mpr (Number.Line.ofRat_lt_top _))
  · have hplace := Number.place?_of_value? hv
    obtain rfl := Option.some.inj (hq.symm.trans hplace)
    exact ⟨v, hplace, Number.Line.ofRat_le_ofRat.mp hpq, Number.Line.ofRat_le_ofRat.mp hqr⟩

end Rounding.Admissible

/-! ## Powers of two -/

theorem powTwo_eq (e : ℤ) : powTwo e = (2 : ℚ) ^ e := by
  unfold powTwo
  by_cases h : 0 ≤ e
  · rw [if_pos h]
    lift e to ℕ using h
    simp
  · rw [if_neg h, Rat.mkRat_eq_div]
    obtain ⟨n, rfl⟩ : ∃ n : ℕ, e = -n := ⟨(-e).toNat, by omega⟩
    simp

/-- `2 ^ e` in units of `2 ^ d`, for `d` up to `e`. -/
theorem two_zpow_eq {d e : ℤ} (h : d ≤ e) :
    (2 : ℚ) ^ e = ((2 ^ (e - d).toNat : ℕ) : ℚ) * (2 : ℚ) ^ d := by
  rw [Nat.cast_pow, Nat.cast_ofNat, ← zpow_natCast, ← zpow_add₀ two_ne_zero]
  congr 1
  omega

theorem unit_pos (e : ℤ) : (0 : ℚ) < 2 ^ e := zpow_pos two_pos e

/-- Bit lengths leave two candidates for the exponent of a quotient. -/
theorem log_div_mem {n d : ℕ} (hn : n ≠ 0) (hd : d ≠ 0) :
    (n.log2 : ℤ) - d.log2 - 1 ≤ Int.log 2 ((n : ℚ) / d) ∧
      Int.log 2 ((n : ℚ) / d) < (n.log2 : ℤ) - d.log2 + 1 := by
  have hnLow : (2 : ℚ) ^ (n.log2 : ℤ) ≤ n := by exact_mod_cast Nat.log2_self_le hn
  have hnHigh : (n : ℚ) < (2 : ℚ) ^ ((n.log2 : ℤ) + 1) := by exact_mod_cast Nat.lt_log2_self
  have hdLow : (2 : ℚ) ^ (d.log2 : ℤ) ≤ d := by exact_mod_cast Nat.log2_self_le hd
  have hdHigh : (d : ℚ) < (2 : ℚ) ^ ((d.log2 : ℤ) + 1) := by exact_mod_cast Nat.lt_log2_self
  have hnPos : (0 : ℚ) < n := by exact_mod_cast Nat.pos_of_ne_zero hn
  have hdPos : (0 : ℚ) < d := by exact_mod_cast Nat.pos_of_ne_zero hd
  have hx : (0 : ℚ) < n / d := div_pos hnPos hdPos
  constructor
  · rw [← Int.zpow_le_iff_le_log one_lt_two hx, Nat.cast_ofNat, le_div_iff₀ hdPos]
    calc (2 : ℚ) ^ ((n.log2 : ℤ) - d.log2 - 1) * d
        ≤ (2 : ℚ) ^ ((n.log2 : ℤ) - d.log2 - 1) * (2 : ℚ) ^ ((d.log2 : ℤ) + 1) :=
          mul_le_mul_of_nonneg_left hdHigh.le (unit_pos _).le
      _ = (2 : ℚ) ^ (n.log2 : ℤ) := by
          rw [← zpow_add₀ two_ne_zero]
          congr 1
          ring
      _ ≤ n := hnLow
  · rw [← Int.lt_zpow_iff_log_lt one_lt_two hx, Nat.cast_ofNat, div_lt_iff₀ hdPos]
    calc (n : ℚ) < (2 : ℚ) ^ ((n.log2 : ℤ) + 1) := hnHigh
      _ = (2 : ℚ) ^ ((n.log2 : ℤ) - d.log2 + 1) * (2 : ℚ) ^ (d.log2 : ℤ) := by
          rw [← zpow_add₀ two_ne_zero]
          congr 1
          ring
      _ ≤ (2 : ℚ) ^ ((n.log2 : ℤ) - d.log2 + 1) * d :=
          mul_le_mul_of_nonneg_left hdLow (unit_pos _).le

theorem powTwo_le_iff {x : ℚ} (hx : 0 < x) (e : ℤ) : powTwo e ≤ x ↔ e ≤ Int.log 2 x := by
  rw [powTwo_eq, ← Int.zpow_le_iff_le_log one_lt_two hx, Nat.cast_ofNat]

theorem floorLog2_eq {x : ℚ} (hx : 0 < x) : floorLog2 x = Int.log 2 x := by
  have hnum : 0 < x.num := Rat.num_pos.mpr hx
  have hvalue : (x.num.natAbs : ℚ) / x.den = x := by
    rw [Nat.cast_natAbs, abs_of_pos hnum, Rat.num_div_den]
  have hmem := log_div_mem (Int.natAbs_ne_zero.mpr hnum.ne') x.den_ne_zero
  rw [hvalue] at hmem
  unfold floorLog2
  dsimp only
  by_cases h : powTwo ((x.num.natAbs.log2 : ℤ) - x.den.log2) ≤ x
  · rw [if_pos h]
    have := (powTwo_le_iff hx _).mp h
    omega
  · rw [if_neg h]
    have := mt (powTwo_le_iff hx _).mpr h
    omega

/-! ## Rounding to an integer -/

theorem half_eq : mkRat 1 2 = (1 / 2 : ℚ) := by
  rw [Rat.mkRat_eq_div]
  norm_num

theorem roundHalfEven_intCast (k : ℤ) : roundHalfEven (k : ℚ) = k := by
  unfold roundHalfEven
  simp [Rat.floor_intCast, half_eq]

/-- The nearest integer is the one below or the one above. -/
theorem roundHalfEven_mem (x : ℚ) : ⌊x⌋ ≤ roundHalfEven x ∧ roundHalfEven x ≤ ⌊x⌋ + 1 := by
  unfold roundHalfEven
  dsimp only
  change x.floor ≤ _ ∧ _ ≤ x.floor + 1
  split_ifs <;> omega

theorem roundHalfEven_mono {x y : ℚ} (h : x ≤ y) : roundHalfEven x ≤ roundHalfEven y := by
  rcases (Int.floor_mono h).lt_or_eq with hlt | heq
  · have hx := (roundHalfEven_mem x).2
    have hy := (roundHalfEven_mem y).1
    omega
  · -- Between the same two integers only the distance to the lower one counts.
    change x.floor = y.floor at heq
    unfold roundHalfEven
    dsimp only
    rw [heq]
    have hrest : x - (y.floor : ℚ) ≤ y - y.floor := by linarith
    split_ifs <;> first | omega | (exfalso; linarith)

/-! ## Rounding on the grid -/

namespace Format

variable {format : Format} {x y : ℚ}

/-- The grid point a positive rational is rounded to, before anything overflows. -/
def rounded (format : Format) (x : ℚ) : ℚ :=
  roundHalfEven (x / (2 : ℚ) ^ format.unitExponent x) * (2 : ℚ) ^ format.unitExponent x

theorem unitExponent_eq (format : Format) (hx : 0 < x) :
    format.unitExponent x = max (Int.log 2 x - (format.precision - 1)) format.bottom := by
  rw [unitExponent, floorLog2_eq hx]

/-- A grid point above is not passed. -/
theorem rounded_le (format : Format) {k : ℤ} (h : x ≤ k * (2 : ℚ) ^ format.unitExponent x) :
    format.rounded x ≤ k * (2 : ℚ) ^ format.unitExponent x := by
  have hunit := unit_pos (format.unitExponent x)
  have hround := roundHalfEven_mono ((div_le_iff₀ hunit).mpr h)
  rw [roundHalfEven_intCast] at hround
  exact mul_le_mul_of_nonneg_right (by exact_mod_cast hround) hunit.le

/-- Nor is one below. -/
theorem le_rounded (format : Format) {k : ℤ} (h : k * (2 : ℚ) ^ format.unitExponent x ≤ x) :
    k * (2 : ℚ) ^ format.unitExponent x ≤ format.rounded x := by
  have hunit := unit_pos (format.unitExponent x)
  have hround := roundHalfEven_mono ((le_div_iff₀ hunit).mpr h)
  rw [roundHalfEven_intCast] at hround
  exact mul_le_mul_of_nonneg_right (by exact_mod_cast hround) hunit.le

theorem rounded_nonneg (hx : 0 < x) : 0 ≤ format.rounded x := by
  have h := le_rounded format (x := x) (k := 0) (by simpa using hx.le)
  simpa using h

/-- Rounding on the grid keeps the order. -/
theorem rounded_le_rounded (hformat : 0 < format.precision) (hx : 0 < x) (hxy : x ≤ y) :
    format.rounded x ≤ format.rounded y := by
  have hy : 0 < y := hx.trans_le hxy
  have hlog : Int.log 2 x ≤ Int.log 2 y := Int.log_mono_right hx hxy
  have hunitx := unitExponent_eq format hx
  have hunity := unitExponent_eq format hy
  rcases (show format.unitExponent x ≤ format.unitExponent y by omega).lt_or_eq with hlt | heq
  · -- The binades differ, and the power of two at the start of the upper one is on both grids.
    have hbetween : Int.log 2 x + 1 ≤ Int.log 2 y := by omega
    have hupper : x ≤ (2 : ℚ) ^ Int.log 2 y := by
      have h := (Int.lt_zpow_iff_log_lt one_lt_two hx).mpr (Int.lt_of_add_one_le hbetween)
      exact_mod_cast h.le
    have hlower : (2 : ℚ) ^ Int.log 2 y ≤ y := by
      exact_mod_cast Int.zpow_log_le_self one_lt_two hy
    have hgridx := two_zpow_eq (show format.unitExponent x ≤ Int.log 2 y by omega)
    have hgridy := two_zpow_eq (show format.unitExponent y ≤ Int.log 2 y by omega)
    calc format.rounded x ≤ (2 : ℚ) ^ Int.log 2 y := by
          rw [hgridx] at hupper ⊢
          exact_mod_cast rounded_le format (x := x) (k := (2 ^ _ : ℕ))
            (by exact_mod_cast hupper)
      _ ≤ format.rounded y := by
          rw [hgridy] at hlower ⊢
          exact_mod_cast le_rounded format (x := y) (k := (2 ^ _ : ℕ))
            (by exact_mod_cast hlower)
  · unfold rounded
    rw [heq]
    have hunit := unit_pos (format.unitExponent y)
    refine mul_le_mul_of_nonneg_right ?_ hunit.le
    exact_mod_cast roundHalfEven_mono (div_le_div_of_nonneg_right hxy hunit.le)

theorem rounded_eq_self_of_grid {k : ℤ} (h : x = k * (2 : ℚ) ^ format.unitExponent x) :
    format.rounded x = x :=
  le_antisymm ((rounded_le format h.le).trans h.ge) (h.le.trans (le_rounded format h.ge))

/-- A significand that fits is on the grid of its own binade. -/
theorem rounded_eq_self {m : ℕ} {e : ℤ} (hx : 0 < x) (hvalue : x = m * (2 : ℚ) ^ e)
    (hfits : m < 2 ^ format.precision) (he : format.bottom ≤ e) : format.rounded x = x := by
  have hlog : Int.log 2 x < format.precision + e := by
    rw [← Int.lt_zpow_iff_log_lt one_lt_two hx, Nat.cast_ofNat, zpow_add₀ two_ne_zero, zpow_natCast,
      hvalue]
    exact mul_lt_mul_of_pos_right (by exact_mod_cast hfits) (unit_pos e)
  have hunit := unitExponent_eq format hx
  refine rounded_eq_self_of_grid (k := (m * 2 ^ (e - format.unitExponent x).toNat : ℕ)) ?_
  calc x = m * (2 : ℚ) ^ e := hvalue
    _ = m * (((2 ^ (e - format.unitExponent x).toNat : ℕ) : ℚ) * 2 ^ format.unitExponent x) := by
        rw [two_zpow_eq (show format.unitExponent x ≤ e by omega)]
    _ = _ := by
        push_cast
        ring

/-! ## Rounding with overflow and sign -/

/-- The grid point in the definition is the one above. -/
theorem significand_eq (format : Format) (hx : 0 < x) :
    (((format.significand x).1 : ℕ) : ℚ) * powTwo (format.significand x).2 = format.rounded x := by
  have hnonneg : 0 ≤ roundHalfEven (x / (2 : ℚ) ^ format.unitExponent x) := by
    have h := roundHalfEven_mono (div_nonneg hx.le (unit_pos (format.unitExponent x)).le)
    rwa [← Int.cast_zero, roundHalfEven_intCast] at h
  unfold significand rounded
  dsimp only
  rw [powTwo_eq]
  congr 1
  exact_mod_cast Int.toNat_of_nonneg hnonneg

/-- Where a positive rational is rounded to, and where its negative is. -/
theorem place?_roundPositive (format : Format) (hx : 0 < x) (negative : Bool) :
    (format.roundPositive negative x).place? =
      some (if (2 : ℚ) ^ format.overflow ≤ format.rounded x then (if negative then ⊥ else ⊤)
        else .ofRat (if negative then -format.rounded x else format.rounded x)) := by
  have hmagnitude := significand_eq format hx
  unfold roundPositive
  dsimp only
  rw [hmagnitude, powTwo_eq]
  by_cases hover : (2 : ℚ) ^ format.overflow ≤ format.rounded x
  · rw [if_pos hover, if_pos hover]
    cases negative <;> rfl
  · rw [if_neg hover, if_neg hover]
    by_cases hm : (format.significand x).1 = 0
    · have hzero : format.rounded x = 0 := by rw [← hmagnitude, hm, Nat.cast_zero, zero_mul]
      rw [if_pos hm, hzero, neg_zero, ite_self]
      cases negative <;> rfl
    · rw [if_neg hm]
      rfl

theorem place?_round_of_pos (format : Format) (hx : 0 < x) :
    (format.round x).place? =
      some (if (2 : ℚ) ^ format.overflow ≤ format.rounded x then ⊤ else .ofRat (format.rounded x)) := by
  rw [round, if_neg hx.ne', if_neg (not_lt.mpr hx.le), place?_roundPositive format hx]
  rfl

theorem place?_round_of_neg (format : Format) (hx : x < 0) :
    (format.round x).place? =
      some (if (2 : ℚ) ^ format.overflow ≤ format.rounded (-x) then ⊥
        else .ofRat (-format.rounded (-x))) := by
  rw [round, if_neg hx.ne, if_pos hx, place?_roundPositive format (neg_pos.mpr hx)]
  rfl

/-- Rounding keeps the order among positive rationals. -/
theorem le_round_of_pos (hformat : 0 < format.precision) (hx : 0 < x) (hxy : x ≤ y) :
    Number.le (format.round x) (format.round y) = true := by
  have hrounded := rounded_le_rounded hformat hx hxy
  rw [Number.le_iff_of_place? (place?_round_of_pos format hx)
    (place?_round_of_pos format (hx.trans_le hxy))]
  by_cases hy : (2 : ℚ) ^ format.overflow ≤ format.rounded y
  · rw [if_pos hy]
    exact le_top
  · rw [if_neg hy, if_neg fun h => hy (h.trans hrounded)]
    exact Number.Line.ofRat_le_ofRat.mpr hrounded

/-- And among negative ones. -/
theorem le_round_of_neg (hformat : 0 < format.precision) (hy : y < 0) (hxy : x ≤ y) :
    Number.le (format.round x) (format.round y) = true := by
  have hrounded := rounded_le_rounded hformat (neg_pos.mpr hy) (neg_le_neg hxy)
  rw [Number.le_iff_of_place? (place?_round_of_neg format (hxy.trans_lt hy))
    (place?_round_of_neg format hy)]
  by_cases hx : (2 : ℚ) ^ format.overflow ≤ format.rounded (-x)
  · rw [if_pos hx]
    exact bot_le
  · rw [if_neg hx, if_neg fun h => hx (h.trans hrounded)]
    exact Number.Line.ofRat_le_ofRat.mpr (neg_le_neg hrounded)

theorem round_zero (format : Format) : format.round 0 = .real 0 := if_pos rfl

/-- Rounding does not cross zero. -/
theorem le_round_of_nonneg (hx : 0 ≤ x) : Number.le (.real 0) (format.round x) = true := by
  rcases hx.eq_or_lt with rfl | hx
  · rw [round_zero]
    rfl
  · rw [Number.le_iff_of_place? (p := .ofRat 0) rfl (place?_round_of_pos format hx)]
    by_cases hover : (2 : ℚ) ^ format.overflow ≤ format.rounded x
    · rw [if_pos hover]
      exact le_top
    · rw [if_neg hover]
      exact Number.Line.ofRat_le_ofRat.mpr (rounded_nonneg hx)

theorem round_le_of_nonpos (hx : x ≤ 0) : Number.le (format.round x) (.real 0) = true := by
  rcases hx.eq_or_lt with rfl | hx
  · rw [round_zero]
    rfl
  · rw [Number.le_iff_of_place? (q := .ofRat 0) (place?_round_of_neg format hx) rfl]
    by_cases hover : (2 : ℚ) ^ format.overflow ≤ format.rounded (-x)
    · rw [if_pos hover]
      exact bot_le
    · rw [if_neg hover]
      exact Number.Line.ofRat_le_ofRat.mpr (neg_nonpos.mpr (rounded_nonneg (neg_pos.mpr hx)))

theorem round_le_round (hformat : 0 < format.precision) (hxy : x ≤ y) :
    Number.le (format.round x) (format.round y) = true := by
  rcases lt_or_ge 0 x with hx | hx
  · exact le_round_of_pos hformat hx hxy
  · rcases lt_or_ge y 0 with hy | hy
    · exact le_round_of_neg hformat hy hxy
    · exact Number.le_trans (round_le_of_nonpos hx) (le_round_of_nonneg hy)

/-! ## What words denote -/

theorem hidden_add_hidden (hformat : 0 < format.precision) :
    format.hidden + format.hidden = 2 ^ format.precision := by
  show 2 ^ (format.precision - 1) + 2 ^ (format.precision - 1) = 2 ^ format.precision
  rw [← Nat.two_mul, ← Nat.pow_succ', Nat.succ_eq_add_one, Nat.sub_add_cancel hformat]

/-- What a sign and a magnitude denote has that magnitude. -/
theorem abs_eq_of_signed {negative : Prop} [Decidable negative] {magnitude : ℚ}
    (hmagnitude : 0 ≤ magnitude) (hx : x ≠ 0)
    (h : (if magnitude = 0 then Number.zero (decide negative)
      else .real (if negative then -magnitude else magnitude)) = .real x) : |x| = magnitude := by
  by_cases hzero : magnitude = 0
  · rw [if_pos hzero] at h
    by_cases hnegative : negative
    · rw [decide_eq_true hnegative] at h
      cases h
    · rw [decide_eq_false hnegative] at h
      exact absurd (Number.real.inj h).symm hx
  · rw [if_neg hzero] at h
    obtain rfl := Number.real.inj h
    by_cases hnegative : negative
    · rw [if_pos hnegative, abs_neg, abs_of_nonneg hmagnitude]
    · rw [if_neg hnegative, abs_of_nonneg hmagnitude]

/-- A number of the format is zero or has a significand that fits and an exponent in range. -/
theorem Holds.exists_significand (hformat : format.Proper) (hx : x ≠ 0) (h : format.Holds (.real x)) :
    ∃ (m : ℕ) (e : ℤ), |x| = m * (2 : ℚ) ^ e ∧ m < 2 ^ format.precision ∧ format.bottom ≤ e ∧
      e + format.precision ≤ format.overflow := by
  obtain ⟨word, hword⟩ := h
  have hhidden := hidden_add_hidden hformat.precision_pos
  have hhiddenPos : 0 < format.hidden := Nat.pow_pos two_pos
  have htop := hformat.top_le
  have hexponents : format.specialExponent + 1 = Nat.pow 2 format.exponentBits :=
    Nat.sub_add_cancel (Nat.pow_pos two_pos)
  have hspecial := hformat.one_lt_special
  have hfraction : word % format.hidden < format.hidden := Nat.mod_lt _ hhiddenPos
  have hexponent : word / format.hidden % Nat.pow 2 format.exponentBits < Nat.pow 2 format.exponentBits :=
    Nat.mod_lt _ (Nat.pow_pos two_pos)
  unfold ofWord at hword
  dsimp only at hword
  generalize hE : word / format.hidden % Nat.pow 2 format.exponentBits = exponent at hword hexponent
  generalize word % format.hidden = fraction at hword hfraction
  by_cases hinfinite : exponent = format.specialExponent
  · rw [if_pos hinfinite] at hword
    split_ifs at hword
  · rw [if_neg hinfinite] at hword
    by_cases hsubnormal : exponent = 0
    · simp only [if_pos hsubnormal, powTwo_eq] at hword
      exact ⟨fraction, format.bottom,
        abs_eq_of_signed (mul_nonneg (Nat.cast_nonneg _) (unit_pos _).le) hx hword,
        by omega, le_rfl, by omega⟩
    · simp only [if_neg hsubnormal, powTwo_eq] at hword
      exact ⟨format.hidden + fraction, format.bottom + exponent - 1,
        abs_eq_of_signed (mul_nonneg (Nat.cast_nonneg _) (unit_pos _).le) hx hword,
        by omega, by omega, by omega⟩

/-- What the format has is rounded to itself. -/
theorem round_eq_of_holds (hformat : format.Proper) (h : format.Holds (.real x)) :
    format.round x = .real x := by
  rcases eq_or_ne x 0 with rfl | hx
  · exact round_zero format
  · obtain ⟨m, e, hvalue, hm, he, htop⟩ := h.exists_significand hformat hx
    have hself := rounded_eq_self (abs_pos.mpr hx) hvalue hm he
    have hreach : ¬ (2 : ℚ) ^ format.overflow ≤ |x| := by
      rw [not_le, hvalue]
      calc (m : ℚ) * 2 ^ e < (2 : ℚ) ^ (format.precision : ℤ) * 2 ^ e := by
            rw [zpow_natCast]
            exact mul_lt_mul_of_pos_right (by exact_mod_cast hm) (unit_pos e)
        _ = (2 : ℚ) ^ (e + format.precision) := by rw [add_comm, zpow_add₀ two_ne_zero]
        _ ≤ (2 : ℚ) ^ format.overflow := zpow_le_zpow_right₀ one_le_two htop
    refine Number.eq_real_of_place? hx ?_
    rcases hx.lt_or_gt with hneg | hpos
    · rw [abs_of_neg hneg] at hself hreach
      rw [place?_round_of_neg format hneg, hself, if_neg hreach, neg_neg]
    · rw [abs_of_pos hpos] at hself hreach
      rw [place?_round_of_pos format hpos, hself, if_neg hreach]

/-- Rounding to nearest is admissible. -/
theorem admissible_round (hformat : format.Proper) : Rounding.Admissible format.round format where
  le_of_le := round_le_round hformat.precision_pos
  eq_of_holds := round_eq_of_holds hformat

theorem proper_binary64 : binary64.Proper := ⟨by decide, by decide +kernel, by decide +kernel⟩

theorem proper_binary32 : binary32.Proper := ⟨by decide, by decide +kernel, by decide +kernel⟩

theorem binary64_holds_one : binary64.Holds (.real 1) := ⟨0x3ff0000000000000, by decide +kernel⟩

theorem binary32_holds_one : binary32.Holds (.real 1) := ⟨0x3f800000, by decide +kernel⟩

/-- The powers of two that bound a tick, a count of ticks, and their product. -/
theorem holds_powers : binary64.Holds (.real (2 ^ 31)) ∧ binary64.Holds (.real (2 ^ 63)) ∧
    binary64.Holds (.real (2 ^ 94)) :=
  ⟨⟨0x41e0000000000000, by decide +kernel⟩, ⟨0x43e0000000000000, by decide +kernel⟩,
    ⟨0x45d0000000000000, by decide +kernel⟩⟩

theorem holds_zero (format : Format) (hformat : format.Proper) : format.Holds (.real 0) := by
  refine ⟨0, ?_⟩
  have hspecial : 0 ≠ format.specialExponent := (Nat.zero_lt_of_lt hformat.one_lt_special).ne
  simp [ofWord, Number.zero, hspecial]

/-- The largest finite number of 64 bits. -/
def largest64 : ℚ :=
  9007199254740991 * 2 ^ 971

theorem holds_neg_largest64 : binary64.Holds (.real (-largest64)) :=
  ⟨0xffefffffffffffff, by decide +kernel⟩

/-- No finite number of 64 bits has a larger magnitude. -/
theorem abs_le_largest64 {y : Number} {v : ℚ} (h : binary64.Holds y) (hy : y.value? = some v) :
    |v| ≤ largest64 := by
  have hlargest : (0 : ℚ) ≤ largest64 := by
    unfold largest64
    positivity
  cases y with
  | nan | infinite => cases hy
  | negativeZero =>
    cases hy
    rwa [abs_zero]
  | real =>
    cases hy
    rcases eq_or_ne v 0 with rfl | hv
    · rwa [abs_zero]
    · obtain ⟨m, e, hvalue, hm, -, he⟩ := h.exists_significand proper_binary64 hv
      have hm' : (m : ℚ) ≤ 9007199254740991 := by
        have hle : m ≤ 9007199254740991 := Nat.le_of_lt_succ hm
        exact_mod_cast hle
      have hexponent : e ≤ 971 := by
        have hsum : e + 53 ≤ 1024 := he
        omega
      have he' : (2 : ℚ) ^ e ≤ 2 ^ (971 : ℤ) := zpow_le_zpow_right₀ one_le_two hexponent
      rw [hvalue]
      exact mul_le_mul hm' he' (unit_pos e).le (by norm_num)

end Format

theorem Rounding.Admissible.eq_zero {ρ : Rounding} (hρ : ρ.Admissible .binary64) : ρ 0 = .real 0 :=
  hρ.eq_of_holds (Format.holds_zero .binary64 Format.proper_binary64)

end FrameTransition
