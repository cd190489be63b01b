import FrameTransition.Decimal.Read
import FrameTransition.Proofs.Text.Words
import Mathlib.Data.List.TakeWhile
import Mathlib.Tactic.SplitIfs

/-!
# Numerals

A numeral is an optional plus sign and digits, with as many zeros in front as one likes. The readers of whole
numbers take the numerals whose value is in range and nothing else (`natural?_eq_some_iff`,
`signed32?_eq_some_iff`), and what is printed is a numeral of what was printed (`numeral_toString`). No text
that is read as a number, whole or not, has a blank in it, so trimming never cuts into one.
-/

namespace FrameTransition.Decimal

/-- Digits of a value, the last one counting once. -/
structure IsDigits (cs : List Char) (n : Nat) : Prop where
  ne_nil : cs ≠ []
  isDigit : ∀ c ∈ cs, c.isDigit = true
  value_eq : Nat.ofDigitChars 10 cs 0 = n

/-- Digits of a value, with or without a plus sign. -/
inductive Numeral (n : Nat) : List Char → Prop
  | bare {cs : List Char} (h : IsDigits cs n) : Numeral n cs
  | plus {cs : List Char} (h : IsDigits cs n) : Numeral n ('+' :: cs)

variable {cs : List Char} {c : Char} {n : Nat}

/-! ## Whole numbers -/

theorem digits?_eq_some_iff : digits? cs = some n ↔ IsDigits cs n := by
  unfold digits?
  constructor
  · intro h
    split_ifs at h with hdigits
    exact ⟨hdigits.1, List.all_eq_true.mp hdigits.2, Option.some.inj h⟩
  · intro h
    rw [if_pos ⟨h.ne_nil, List.all_eq_true.mpr h.isDigit⟩]
    exact congrArg some h.value_eq

theorem IsDigits.ne_plus {rest : List Char} (h : IsDigits (c :: rest) n) : c ≠ '+' := by
  rintro rfl
  exact absurd (h.isDigit '+' List.mem_cons_self) (by decide)

theorem IsDigits.ne_minus {rest : List Char} (h : IsDigits (c :: rest) n) : c ≠ '-' := by
  rintro rfl
  exact absurd (h.isDigit '-' List.mem_cons_self) (by decide)

theorem natural?_eq_some_iff {bound : Nat} : natural? bound cs = some n ↔ Numeral n cs ∧ n ≤ bound := by
  unfold natural?
  rw [Option.filter_eq_some_iff, decide_eq_true_iff]
  refine and_congr_left fun _ => ?_
  split
  · rw [digits?_eq_some_iff]
    refine ⟨.plus, fun h => ?_⟩
    cases h with
    | bare h => exact absurd rfl h.ne_plus
    | plus h => exact h
  · next hsign =>
    rw [digits?_eq_some_iff]
    refine ⟨.bare, fun h => ?_⟩
    cases h with
    | bare h => exact h
    | plus h => exact absurd rfl (hsign _)

/-- The positive numbers among the signed ones are written as numerals. -/
theorem signed32?_eq_some_iff {i : Int} (hi : 0 < i) :
    signed32? cs = some i ↔ Numeral i.toNat cs ∧ i ≤ 2147483647 := by
  have hcast : (i.toNat : Int) = i := Int.toNat_of_nonneg (Int.le_of_lt hi)
  have hdigits : ∀ ds, (digits? ds).map Int.ofNat = some i ↔ IsDigits ds i.toNat := by
    intro ds
    rw [Option.map_eq_some_iff, ← digits?_eq_some_iff]
    constructor
    · rintro ⟨m, hm, rfl⟩
      exact hm
    · exact fun h => ⟨i.toNat, h, hcast⟩
  unfold signed32? integer?
  rw [Option.filter_eq_some_iff, decide_eq_true_iff]
  have hlow : -2147483648 ≤ i := by omega
  rw [and_iff_right hlow]
  refine and_congr_left fun _ => ?_
  split
  · rw [hdigits]
    refine ⟨.plus, fun h => ?_⟩
    cases h with
    | bare h => exact absurd rfl h.ne_plus
    | plus h => exact h
  · constructor
    · intro h
      obtain ⟨m, -, hm⟩ := Option.map_eq_some_iff.mp h
      have hneg : -Int.ofNat m ≤ 0 := Int.neg_nonpos_of_nonneg (Int.natCast_nonneg m)
      exact absurd (hm ▸ hi) (Int.not_lt.mpr hneg)
    · intro h
      cases h with
      | bare h => exact absurd rfl h.ne_minus
  · next hplus _ =>
    rw [hdigits]
    refine ⟨.bare, fun h => ?_⟩
    cases h with
    | bare h => exact h
    | plus h => exact absurd rfl (hplus _)

/-- What is printed is a numeral. -/
theorem numeral_toString (n : Nat) : Numeral n (toString n).toList := by
  rw [Nat.toString_eq_ofList_toDigits, String.toList_ofList]
  exact .bare ⟨Nat.toDigits_ne_nil, fun _ => Nat.isDigit_of_mem_toDigits (by decide) (by decide),
    Nat.ofDigitChars_ten_toDigits⟩

/-! ## No blanks -/

theorem not_isBlank_of_isDigit (h : c.isDigit = true) : ¬ Text.isBlank c := by
  have hrange := Char.isDigit_iff_toNat.mp h
  have hzero : '0'.toNat = 48 := rfl
  have hnine : '9'.toNat = 57 := rfl
  simp only [Text.isBlank]
  grind

theorem Numeral.not_isBlank (h : Numeral n cs) : ∀ c ∈ cs, ¬ Text.isBlank c := by
  cases h with
  | bare h => exact fun c hc => not_isBlank_of_isDigit (h.isDigit c hc)
  | plus h =>
    refine List.forall_mem_cons.mpr ⟨by decide, fun c hc => not_isBlank_of_isDigit (h.isDigit c hc)⟩

theorem Numeral.isWord (h : Numeral n cs) : Text.IsWord cs := by
  refine ⟨?_, h.not_isBlank⟩
  cases h with
  | bare h => exact h.ne_nil
  | plus => exact List.cons_ne_nil _ _

theorem not_isBlank_of_digits? (h : digits? cs = some n) : ∀ c ∈ cs, ¬ Text.isBlank c :=
  (Numeral.bare (digits?_eq_some_iff.mp h)).not_isBlank

theorem not_isBlank_of_exponent? {e : Int} (h : exponent? cs = some e) : ∀ c ∈ cs, ¬ Text.isBlank c := by
  cases cs with
  | nil => exact nofun
  | cons mark rest =>
    rw [exponent?.eq_def] at h
    dsimp only at h
    split_ifs at h with hmark
    have hhead : ¬ Text.isBlank mark := by
      rcases hmark with rfl | rfl <;> decide
    refine List.forall_mem_cons.mpr ⟨hhead, ?_⟩
    split at h
    · obtain ⟨n, hdigits, -⟩ := Option.map_eq_some_iff.mp h
      exact List.forall_mem_cons.mpr ⟨by decide, not_isBlank_of_digits? hdigits⟩
    · obtain ⟨n, hdigits, -⟩ := Option.map_eq_some_iff.mp h
      exact List.forall_mem_cons.mpr ⟨by decide, not_isBlank_of_digits? hdigits⟩
    · obtain ⟨n, hdigits, -⟩ := Option.map_eq_some_iff.mp h
      exact not_isBlank_of_digits? hdigits

/-- In front of what comes behind its digits a text has no blank. -/
theorem not_isBlank_of_dropWhile (h : ∀ c ∈ cs.dropWhile Char.isDigit, ¬ Text.isBlank c) :
    ∀ c ∈ cs, ¬ Text.isBlank c := by
  rw [← List.takeWhile_append_dropWhile (p := Char.isDigit) (l := cs), List.forall_mem_append]
  exact ⟨fun c hc => not_isBlank_of_isDigit (List.mem_takeWhile_imp hc), h⟩

theorem not_isBlank_of_literal {l : Literal} (h : Literal.ofChars? cs = some l) :
    ∀ c ∈ cs, ¬ Text.isBlank c := by
  refine not_isBlank_of_dropWhile ?_
  unfold Literal.ofChars? at h
  dsimp only at h
  split at h
  · next tail hpoint =>
    dsimp only at h
    split_ifs at h
    obtain ⟨e, hexponent, -⟩ := Option.map_eq_some_iff.mp h
    rw [hpoint]
    exact List.forall_mem_cons.mpr
      ⟨by decide, not_isBlank_of_dropWhile (not_isBlank_of_exponent? hexponent)⟩
  · dsimp only at h
    split_ifs at h
    obtain ⟨e, hexponent, -⟩ := Option.map_eq_some_iff.mp h
    exact not_isBlank_of_exponent? hexponent

/-- A blank is not written in another case. -/
theorem toLower_of_isBlank (h : Text.isBlank c) : c.toLower = c := by
  unfold Char.toLower
  refine dif_neg fun hupper => ?_
  have hlow : 65 ≤ c.toNat := UInt32.le_iff_toNat_le.mp hupper.1
  have hhigh : c.toNat ≤ 90 := UInt32.le_iff_toNat_le.mp hupper.2
  simp only [Text.isBlank] at h
  grind

theorem not_isBlank_of_word {word : String} (hword : ∀ c ∈ word.toList, ¬ Text.isBlank c)
    (h : String.ofList (cs.map Char.toLower) = word) : ∀ c ∈ cs, ¬ Text.isBlank c := by
  intro c hc hblank
  have hlower : c.toLower ∈ word.toList := by
    rw [← h, String.toList_ofList]
    exact List.mem_map_of_mem hc
  rw [toLower_of_isBlank hblank] at hlower
  exact hword c hlower hblank

theorem not_isBlank_of_magnitude? {ρ : Rounding} {negative : Bool} {x : Number}
    (h : magnitude? ρ negative cs = some x) : ∀ c ∈ cs, ¬ Text.isBlank c := by
  unfold magnitude? at h
  dsimp only at h
  split_ifs at h with hinfinite hnan
  · rcases hinfinite with hword | hword
    · exact not_isBlank_of_word (Text.not_isBlank_of_all (by decide)) hword
    · exact not_isBlank_of_word (Text.not_isBlank_of_all (by decide)) hword
  · exact not_isBlank_of_word (Text.not_isBlank_of_all (by decide)) hnan
  · obtain ⟨l, hliteral, -⟩ := Option.map_eq_some_iff.mp h
    exact not_isBlank_of_literal hliteral

/-- No text that is read as a floating-point number has a blank in it. -/
theorem not_isBlank_of_number? {ρ : Rounding} {x : Number} (h : number? ρ cs = some x) :
    ∀ c ∈ cs, ¬ Text.isBlank c := by
  unfold number? at h
  split at h
  · exact List.forall_mem_cons.mpr ⟨by decide, not_isBlank_of_magnitude? h⟩
  · exact List.forall_mem_cons.mpr ⟨by decide, not_isBlank_of_magnitude? h⟩
  · exact not_isBlank_of_magnitude? h

end FrameTransition.Decimal
