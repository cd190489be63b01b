import FrameTransition.Config.Progress
import FrameTransition.Proofs.Config.Resolving
import FrameTransition.Proofs.Number.Rounding

/-!
# Progress through a transition

`ProgressContract` is what a renderer relies on when it turns a time into progress: a number from zero to
one, zero up to the offset, one from the exact end of the transition on, and never going back.
`progressContract` says that it holds of every configuration that can be come by, under every pair of
roundings admissible for the two widths, and so of the rounding the library runs with.

Two facts about the share that has passed carry it. Each step of its arithmetic keeps the order, and at
the offset and at the end the exact results are zero, the duration and one, which no admissible rounding
moves. The duration is a 64-bit number because every way to a configuration takes it as one (`Obtained`),
and positive because a configuration says so.
-/

namespace FrameTransition

/-! ## Configurations that can be come by -/

/-- Parameters written in 64-bit numbers. -/
structure Parameters.IsBinary64 (parameters : Parameters) : Prop where
  duration : ∀ x, parameters.duration = some x → Format.binary64.Holds x
  offset : ∀ x, parameters.offset = some x → Format.binary64.Holds x

namespace Config

/-- The ways to a configuration, all of them from 64-bit numbers. -/
inductive Obtained : Config → Prop
  | create {duration offset : Number} {config : Config} (hduration : Format.binary64.Holds duration)
      (hoffset : Format.binary64.Holds offset) (hcreate : create? duration offset = .ok config) :
      Obtained config
  | default : Obtained default
  | withSource {config : Config} (source : Source) (hconfig : Obtained config) :
      Obtained (config.withSource source)
  | resolve {parameters overrides : Parameters} {base : Option Path} {config : Config}
      (hparameters : parameters.IsBinary64) (hoverrides : overrides.IsBinary64)
      (hresolve : parameters.resolve base overrides = .ok config) : Obtained config

theorem times_of_resolve {parameters overrides : Parameters} {base : Option Path} {config : Config}
    (h : parameters.resolve base overrides = .ok config) :
    config.duration = (overrides.duration.or parameters.duration).getD defaultDuration ∧
      config.offset = (overrides.offset.or parameters.offset).getD defaultOffset := by
  obtain ⟨hduration, hoffset, -⟩ := Parameters.resolve_eq_ok_iff.mp h
  exact ⟨chosen_iff.mp hduration, chosen_iff.mp hoffset⟩

/-- Of an override, a written value and a default, the one that counts is a number of the format. -/
theorem holds_getD {override written : Option Number} {fallback : Number}
    (hoverride : ∀ x, override = some x → Format.binary64.Holds x)
    (hwritten : ∀ x, written = some x → Format.binary64.Holds x)
    (hfallback : Format.binary64.Holds fallback) :
    Format.binary64.Holds ((override.or written).getD fallback) := by
  cases override with
  | some x => exact hoverride x rfl
  | none =>
    cases written with
    | some x => exact hwritten x rfl
    | none => exact hfallback

theorem Obtained.holds_times {config : Config} (h : Obtained config) :
    Format.binary64.Holds config.duration ∧ Format.binary64.Holds config.offset := by
  have hzero := Format.holds_zero .binary64 Format.proper_binary64
  induction h with
  | create hduration hoffset hcreate =>
    obtain ⟨hd, ho, -⟩ := create?_eq_ok_iff.mp hcreate
    exact ⟨hd ▸ hduration, ho ▸ hoffset⟩
  | default => exact ⟨Format.binary64_holds_one, hzero⟩
  | withSource source _ ih => exact ih
  | resolve hparameters hoverrides hresolve =>
    obtain ⟨hd, ho⟩ := times_of_resolve hresolve
    exact ⟨hd ▸ holds_getD hoverrides.duration hparameters.duration Format.binary64_holds_one,
      ho ▸ holds_getD hoverrides.offset hparameters.offset hzero⟩

theorem Obtained.holds_duration {config : Config} (h : Obtained config) :
    Format.binary64.Holds config.duration :=
  h.holds_times.1

/-- A duration is a positive value. -/
theorem exists_duration (config : Config) : ∃ d : ℚ, 0 < d ∧ config.duration = .real d := by
  obtain ⟨hfinite, hpositive⟩ := config.isDuration
  cases hduration : config.duration with
  | nan | infinite =>
    rw [hduration] at hfinite
    cases hfinite
  | negativeZero =>
    rw [hduration] at hpositive
    simp [Number.lt] at hpositive
  | real d =>
    rw [hduration] at hpositive
    exact ⟨d, by simpa [Number.lt] using hpositive, rfl⟩

theorem exists_offset (config : Config) : ∃ o : ℚ, config.offset.value? = some o := by
  obtain ⟨o, ho, -⟩ := isOffset_iff.mp config.isOffset
  exact ⟨o, ho⟩

/-- An offset is not below zero. -/
theorem zero_le_offset (config : Config) : Number.le (.real 0) config.offset = true := by
  obtain ⟨hfinite, hoffset⟩ := config.isOffset
  unfold Number.le
  rw [hoffset]
  cases hvalue : config.offset with
  | nan =>
    rw [hvalue] at hfinite
    cases hfinite
  | infinite | negativeZero | real => rfl

/-! ## What progress promises -/

/-- What a function from times to progress promises of a configuration. -/
structure ProgressContract (config : Config) (progress : Number → Number) : Prop where
  isNaN_eq_false : ∀ seconds, (progress seconds).isNaN = false
  mem_unit : ∀ seconds, Number.le (.real 0) (progress seconds) = true ∧
    Number.le (progress seconds) (.real 1) = true
  /-- A time that is not a number counts as not started. -/
  of_nan : (progress .nan).value? = some 0
  of_le_offset : ∀ {seconds}, Number.le seconds config.offset = true →
    (progress seconds).value? = some 0
  of_infinite : progress (.infinite false) = .real 1
  /-- The end is the exact sum of offset and duration. -/
  of_end_le : ∀ {seconds : Number} {t o d : ℚ}, seconds.value? = some t →
    config.offset.value? = some o → config.duration.value? = some d → o + d ≤ t →
    progress seconds = .real 1
  le_of_le : ∀ {s t : Number}, Number.le s t = true → Number.le (progress s) (progress t) = true

section Roundings

variable {config : Config} {wide narrow : Rounding} {s t : Number}

/-! ## The share that has passed -/

/-- The two steps of the share, with the values they are taken at. -/
theorem exists_rounds (config : Config) (hwide : wide.Admissible .binary64) :
    ∃ o d : ℚ, config.offset.value? = some o ∧ 0 < d ∧ config.duration = .real d ∧
      Number.Rounds wide (· - o) (Number.sub wide · config.offset) ∧
      Number.Rounds wide (· / d) (Number.div wide · config.duration) := by
  have hzero := hwide.eq_zero
  obtain ⟨o, ho⟩ := config.exists_offset
  obtain ⟨d, hpos, hd⟩ := config.exists_duration
  exact ⟨o, d, ho, hpos, hd, Number.rounds_sub hzero ho, Number.rounds_div hzero (by rw [hd]; rfl) hpos⟩

theorem isNaN_shareWith (hwide : wide.Admissible .binary64) (ht : t.isNaN = false) :
    (config.shareWith wide t).isNaN = false := by
  obtain ⟨o, d, -, -, -, hsub, hdiv⟩ := exists_rounds config hwide
  exact hdiv.isNaN_eq_false hwide.isNaN_eq_false (hsub.isNaN_eq_false hwide.isNaN_eq_false ht)

theorem shareWith_le (hwide : wide.Admissible .binary64) (h : Number.le s t = true) :
    Number.le (config.shareWith wide s) (config.shareWith wide t) = true := by
  obtain ⟨o, d, -, hpos, -, hsub, hdiv⟩ := exists_rounds config hwide
  exact hdiv.le (fun _ _ hle => div_le_div_of_nonneg_right hle hpos.le) hwide.le_of_le
    (hsub.le (fun _ _ hle => sub_le_sub_right hle o) hwide.le_of_le h)

/-- At the offset nothing has passed. -/
theorem place?_shareWith_offset (config : Config) (hwide : wide.Admissible .binary64) :
    (config.shareWith wide config.offset).place? = (Number.real 0).place? := by
  have hzero := hwide.eq_zero
  obtain ⟨o, d, ho, -, -, hsub, hdiv⟩ := exists_rounds config hwide
  have helapsed : (Number.sub wide config.offset config.offset).place? = some (.ofRat 0) := by
    rw [hsub.finite ho, sub_self, hzero]
    rfl
  rw [shareWith, hdiv.finite (Number.value?_of_place? helapsed), zero_div, hzero]

/-- From the exact end on all has passed: the duration is a number of the format, so rounding what has
elapsed does not take it below. -/
theorem one_le_shareWith (hwide : wide.Admissible .binary64)
    (hduration : Format.binary64.Holds config.duration) {v o d : ℚ} (ht : t.value? = some v)
    (ho : config.offset.value? = some o) (hd : config.duration.value? = some d) (hend : o + d ≤ v) :
    Number.le (.real 1) (config.shareWith wide t) = true := by
  obtain ⟨o', d', ho', hpos, hd', hsub, hdiv⟩ := exists_rounds config hwide
  obtain rfl := Option.some.inj (ho.symm.trans ho')
  obtain rfl : d = d' := by
    rw [hd'] at hd
    exact (Option.some.inj hd).symm
  have helapsed : Number.le (.real d) (Number.sub wide t config.offset) = true := by
    have hkept : wide d = .real d := hwide.eq_of_holds (hd' ▸ hduration)
    rw [← hkept, Number.le_congr rfl (hsub.finite ht)]
    exact hwide.le_of_le (by linarith)
  have hwhole : (Number.div wide (.real d) config.duration).place? = (Number.real 1).place? := by
    rw [hdiv.finite rfl, div_self hpos.ne', hwide.eq_of_holds Format.binary64_holds_one]
  rw [Number.le_congr hwhole.symm rfl]
  exact hdiv.le (fun _ _ hle => div_le_div_of_nonneg_right hle hpos.le) hwide.le_of_le helapsed

/-- The time that has passed since the offset is finite: it lies between the negated offset and the time
itself. -/
theorem isFinite_elapsed (hconfig : config.Obtained) (hwide : wide.Admissible .binary64) {v top : ℚ}
    (htop : Format.binary64.Holds (.real top)) (ht : t.value? = some v) (hpos : 0 ≤ v) (hv : v ≤ top) :
    (Number.sub wide t config.offset).isFinite = true := by
  obtain ⟨o, d, ho, -, -, hsub, -⟩ := exists_rounds config hwide
  have hbound := Format.abs_le_largest64 hconfig.holds_times.2 ho
  have hoPos : 0 ≤ o :=
    Number.Line.ofRat_le_ofRat.mp
      ((Number.le_iff_of_place? rfl (Number.place?_of_value? ho)).mp config.zero_le_offset)
  obtain ⟨w, hw, -, -⟩ := hwide.exists_value (x := v - o) Format.holds_neg_largest64 htop
    (by linarith [le_abs_self o]) (by linarith)
  refine Number.isFinite_of_value? (v := w) (Number.value?_of_place? ?_)
  rw [hsub.finite ht, hw]

/-! ## Between zero and one, in 32 bits -/

/-- A share as it is shown. -/
def shown (narrow : Rounding) (share : Number) : Number :=
  (Number.clamp (.real 0) (.real 1) share).narrow narrow

theorem progressWith_of_isNaN_eq_false (hwide : wide.Admissible .binary64) (ht : t.isNaN = false) :
    config.progressWith wide narrow t = shown narrow (config.shareWith wide t) := by
  unfold progressWith
  dsimp only
  rw [isNaN_shareWith hwide ht]
  rfl

theorem rounds_narrow (hnarrow : narrow.Admissible .binary32) :
    Number.Rounds narrow id (Number.narrow narrow) :=
  Number.rounds_narrow (hnarrow.eq_of_holds (Format.holds_zero .binary32 Format.proper_binary32))

theorem shown_le (hnarrow : narrow.Admissible .binary32) (h : Number.le s t = true) :
    Number.le (shown narrow s) (shown narrow t) = true :=
  (rounds_narrow hnarrow).le monotone_id hnarrow.le_of_le (Number.clamp_le_clamp rfl rfl h)

theorem value?_shown_of_le_zero (hnarrow : narrow.Admissible .binary32)
    (h : Number.le s (.real 0) = true) : (shown narrow s).value? = some 0 := by
  obtain ⟨p, q, hp, hq, hle⟩ := Number.le_iff.mp h
  cases hq
  have hclamp : (Number.clamp (.real 0) (.real 1) s).place? = some (.ofRat 0) := by
    rw [Number.place?_clamp (l := .ofRat 0) (h := .ofRat 1) rfl rfl hp, max_eq_left hle,
      min_eq_right (Number.Line.ofRat_le_ofRat.mpr zero_le_one)]
  refine Number.value?_of_place? ?_
  rw [shown, (rounds_narrow hnarrow).finite (Number.value?_of_place? hclamp), id,
    hnarrow.eq_of_holds (Format.holds_zero .binary32 Format.proper_binary32)]
  rfl

theorem shown_of_one_le (hnarrow : narrow.Admissible .binary32) (h : Number.le (.real 1) s = true) :
    shown narrow s = .real 1 := by
  obtain ⟨p, q, hp, hq, hle⟩ := Number.le_iff.mp h
  cases hp
  have hclamp : (Number.clamp (.real 0) (.real 1) s).place? = some (.ofRat 1) := by
    rw [Number.place?_clamp (l := .ofRat 0) (h := .ofRat 1) rfl rfl hq, min_eq_left]
    exact le_max_of_le_right hle
  refine Number.eq_real_of_place? one_ne_zero ?_
  rw [shown, (rounds_narrow hnarrow).finite (Number.value?_of_place? hclamp), id,
    hnarrow.eq_of_holds Format.binary32_holds_one]
  rfl

/-- Zero and one are shown as they are, and everything in between. -/
theorem shown_mem_unit (hnarrow : narrow.Admissible .binary32) (ht : t.isNaN = false) :
    Number.le (.real 0) (shown narrow t) = true ∧ Number.le (shown narrow t) (.real 1) = true := by
  obtain ⟨p, hp⟩ := Number.exists_place? ht
  have hclamp : (Number.clamp (.real 0) (.real 1) t).place? = some (min (.ofRat 1) (max (.ofRat 0) p)) :=
    Number.place?_clamp rfl rfl hp
  have hkeeps : ∀ {a b : Number}, Number.le a b = true →
      Number.le (a.narrow narrow) (b.narrow narrow) = true :=
    (rounds_narrow hnarrow).le monotone_id hnarrow.le_of_le
  have hone : Number.narrow narrow (.real 1) = .real 1 := hnarrow.eq_of_holds Format.binary32_holds_one
  constructor
  · refine hkeeps (a := .real 0) ((Number.le_iff_of_place? rfl hclamp).mpr ?_)
    exact le_min (Number.Line.ofRat_le_ofRat.mpr zero_le_one) (le_max_left _ _)
  · rw [← hone]
    exact hkeeps ((Number.le_iff_of_place? hclamp rfl).mpr (min_le_left _ _))

theorem progressWith_mem_unit (hwide : wide.Admissible .binary64) (hnarrow : narrow.Admissible .binary32)
    (t : Number) : Number.le (.real 0) (config.progressWith wide narrow t) = true ∧
      Number.le (config.progressWith wide narrow t) (.real 1) = true := by
  cases ht : t.isNaN with
  | true =>
    obtain rfl := Number.eq_nan_of_isNaN ht
    exact ⟨rfl, rfl⟩
  | false =>
    rw [progressWith_of_isNaN_eq_false hwide ht]
    exact shown_mem_unit hnarrow (isNaN_shareWith hwide ht)

/-- Progress does not go back. -/
theorem progressWith_le (hwide : wide.Admissible .binary64) (hnarrow : narrow.Admissible .binary32)
    (hle : Number.le s t = true) :
    Number.le (config.progressWith wide narrow s) (config.progressWith wide narrow t) = true := by
  obtain ⟨p, q, hp, hq, -⟩ := Number.le_iff.mp hle
  rw [progressWith_of_isNaN_eq_false hwide (Number.isNaN_of_place? hp),
    progressWith_of_isNaN_eq_false hwide (Number.isNaN_of_place? hq)]
  exact shown_le hnarrow (shareWith_le hwide hle)

/-- Up to the offset there is no progress. -/
theorem value?_progressWith_of_le_offset (hwide : wide.Admissible .binary64)
    (hnarrow : narrow.Admissible .binary32) (hle : Number.le t config.offset = true) :
    (config.progressWith wide narrow t).value? = some 0 := by
  obtain ⟨p, q, hp, hq, -⟩ := Number.le_iff.mp hle
  rw [progressWith_of_isNaN_eq_false hwide (Number.isNaN_of_place? hp)]
  refine value?_shown_of_le_zero hnarrow ?_
  rw [Number.le_congr rfl (place?_shareWith_offset config hwide).symm]
  exact shareWith_le hwide hle

/-! ## The contract -/

theorem progressContract (hwide : wide.Admissible .binary64) (hnarrow : narrow.Admissible .binary32)
    (hduration : Format.binary64.Holds config.duration) :
    ProgressContract config (config.progressWith wide narrow) where
  isNaN_eq_false := by
    intro seconds
    obtain ⟨-, p, -, hp, -⟩ := Number.le_iff.mp (progressWith_mem_unit hwide hnarrow seconds).1
    exact Number.isNaN_of_place? hp
  mem_unit := progressWith_mem_unit hwide hnarrow
  of_nan := rfl
  of_le_offset := value?_progressWith_of_le_offset hwide hnarrow
  of_infinite := by
    rw [progressWith_of_isNaN_eq_false hwide rfl]
    refine shown_of_one_le hnarrow ?_
    obtain ⟨o, d, -, -, -, hsub, hdiv⟩ := exists_rounds config hwide
    rw [shareWith, hsub.infinite, hdiv.infinite]
    rfl
  of_end_le := by
    intro seconds v o d ht ho hd hend
    rw [progressWith_of_isNaN_eq_false hwide (Number.isNaN_of_place? (Number.place?_of_value? ht))]
    exact shown_of_one_le hnarrow (one_le_shareWith hwide hduration ht ho hd hend)
  le_of_le := progressWith_le hwide hnarrow

end Roundings

/-- Progress through every configuration that can be come by, under all admissible roundings and under
the one the library runs with. -/
theorem progress_contract {config : Config} (h : Obtained config) :
    (∀ {wide narrow : Rounding}, wide.Admissible .binary64 → narrow.Admissible .binary32 →
      ProgressContract config (config.progressWith wide narrow)) ∧
    ProgressContract config config.progressAt :=
  ⟨fun hwide hnarrow => progressContract hwide hnarrow h.holds_duration,
    progressContract (Format.admissible_round Format.proper_binary64)
      (Format.admissible_round Format.proper_binary32) h.holds_duration⟩

/-- A tenth of a second after three tenths, none of them a binary fraction. The number nearest to four
tenths is past the exact end. -/
theorem progress_contract_tenth :
    ∃ config, create? (Format.binary64.ofWord 0x3fb999999999999a)
        (Format.binary64.ofWord 0x3fd3333333333333) = .ok config ∧
      Obtained config ∧ ProgressContract config config.progressAt ∧
      config.progressAt (Format.binary64.ofWord 0x3fd999999999999a) = .real 1 := by
  have hduration : IsDuration (Format.binary64.ofWord 0x3fb999999999999a) := by decide +kernel
  have hoffset : IsOffset (Format.binary64.ofWord 0x3fd3333333333333) := by decide +kernel
  have hcreate : create? (Format.binary64.ofWord 0x3fb999999999999a)
      (Format.binary64.ofWord 0x3fd3333333333333) = .ok ⟨_, _, .builtin, hduration, hoffset⟩ := by
    rw [create?, dif_pos hduration, dif_pos hoffset]
  have hobtained := Obtained.create ⟨_, rfl⟩ ⟨_, rfl⟩ hcreate
  have hcontract := (progress_contract hobtained).2
  have ht : (Format.binary64.ofWord 0x3fd999999999999a).value? =
      some (mkRat 3602879701896397 9007199254740992) := by decide +kernel
  have ho : (Format.binary64.ofWord 0x3fd3333333333333).value? =
      some (mkRat 5404319552844595 18014398509481984) := by decide +kernel
  have hd : (Format.binary64.ofWord 0x3fb999999999999a).value? =
      some (mkRat 3602879701896397 36028797018963968) := by decide +kernel
  exact ⟨_, hcreate, hobtained, hcontract, hcontract.of_end_le ht ho hd (by decide +kernel)⟩

end Config

end FrameTransition
