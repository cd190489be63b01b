import FrameTransition.Config.Basic
import Mathlib.Data.Rat.Defs
import Mathlib.Algebra.Order.Ring.Rat

/-!
# What becomes of written parameters

`ResolveContract` is what a user can rely on who writes some parameters into a file and gives others by hand.
Which value counts is settled for each part on its own, by `Chosen` and `ComesFrom`. Only then are the two times
looked at, so what an override hides is never looked at, and where the snippet comes from is no matter to
whether there is a configuration.

A configuration carries the proof that its times are good. So `resolve_eq_ok_iff` need not say when there is one:
it is the one whose parts were chosen.
-/

namespace FrameTransition

/-! ## Which value counts -/

/-- Of an override, a written value and a fallback, the first there is. -/
inductive Chosen {α : Type} (fallback : α) : Option α → Option α → α → Prop
  | override (x : α) (written : Option α) : Chosen fallback (some x) written x
  | written (x : α) : Chosen fallback none (some x) x
  | fallback : Chosen fallback none none fallback

/-- Where a snippet comes from: of a relative path that is written, the directory it was written in counts. -/
inductive ComesFrom : Option Path → Option Path → Option Path → Source → Prop
  | override (base : Option Path) (path : Path) (written : Option Path) :
      ComesFrom base (some path) written (.file path)
  | joined (directory : Path) {path : Path} (hrelative : path.isRelative = true) :
      ComesFrom (some directory) none (some path) (.file (directory.join path))
  | absolute (base : Option Path) {path : Path} (habsolute : path.isRelative = false) :
      ComesFrom base none (some path) (.file path)
  | alone (path : Path) : ComesFrom none none (some path) (.file path)
  | builtin (base : Option Path) : ComesFrom base none none .builtin

theorem chosen_iff {α : Type} {fallback x : α} {override written : Option α} :
    Chosen fallback override written x ↔ x = (override.or written).getD fallback := by
  constructor
  · intro h
    cases h <;> rfl
  · rintro rfl
    cases override with
    | some x => exact .override x written
    | none =>
      cases written with
      | some x => exact .written x
      | none => exact .fallback

theorem chosen_getD {α : Type} (fallback : α) (override written : Option α) :
    Chosen fallback override written ((override.or written).getD fallback) :=
  chosen_iff.mpr rfl

/-- There is one value that counts. -/
theorem exists_chosen_iff {α : Type} {fallback : α} {override written : Option α} {P : α → Prop} :
    (∃ x, Chosen fallback override written x ∧ P x) ↔ P ((override.or written).getD fallback) := by
  simp only [chosen_iff, exists_eq_left]

namespace Parameters

/-- The source that counts. -/
def sourceOver (parameters : Parameters) (base : Option Path) (override : Option Path) : Source :=
  ((override.or (parameters.sourceFrom base)).map Source.file).getD .builtin

variable {parameters overrides : Parameters} {base override : Option Path} {source : Source}

theorem comesFrom_iff :
    ComesFrom base override parameters.source source ↔ source = parameters.sourceOver base override := by
  obtain ⟨duration, offset, written⟩ := parameters
  constructor
  · intro h
    dsimp only at h
    cases h with
    | joined directory hrelative => simp [sourceOver, sourceFrom, hrelative]
    | absolute base habsolute => cases base <;> simp [sourceOver, sourceFrom, habsolute]
    | override | alone | builtin => rfl
  · rintro rfl
    cases override with
    | some path => exact .override base path written
    | none =>
      cases written with
      | none => exact .builtin base
      | some path =>
        cases base with
        | none => exact .alone path
        | some directory =>
          cases hrelative : path.isRelative with
          | true =>
            have hjoined := ComesFrom.joined directory hrelative
            simpa [sourceOver, sourceFrom, hrelative] using hjoined
          | false =>
            have habsolute := ComesFrom.absolute (some directory) hrelative
            simpa [sourceOver, sourceFrom, hrelative] using habsolute

end Parameters

/-! ## Good times -/

theorem isDuration_iff {x : Number} : IsDuration x ↔ ∃ v : ℚ, x.value? = some v ∧ 0 < v := by
  cases x <;> simp [IsDuration, Number.isFinite, Number.lt, Number.value?]

theorem isOffset_iff {x : Number} : IsOffset x ↔ ∃ v : ℚ, x.value? = some v ∧ 0 ≤ v := by
  cases x <;> simp [IsOffset, Number.isFinite, Number.lt, Number.value?]

namespace Config

variable {duration offset : Number} {config : Config}

/-- A configuration is what it is made of. -/
theorem create?_eq_ok_iff : create? duration offset = .ok config ↔
    config.duration = duration ∧ config.offset = offset ∧ config.source = .builtin := by
  obtain ⟨d, o, source, hd, ho⟩ := config
  unfold create?
  constructor
  · intro h
    split_ifs at h
    cases h
    exact ⟨rfl, rfl, rfl⟩
  · rintro ⟨rfl, rfl, rfl⟩
    rw [dif_pos hd, dif_pos ho]

theorem create?_of_not_isDuration (h : ¬ IsDuration duration) (offset : Number) : create? duration offset =
    .error (.configInvalid ("duration must be a positive number of seconds, got " ++ Decimal.plain duration)) :=
  dif_neg h

theorem create?_of_not_isOffset (hduration : IsDuration duration) (h : ¬ IsOffset offset) :
    create? duration offset =
      .error (.configInvalid ("offset must be a non-negative number of seconds, got " ++ Decimal.plain offset)) :=
  (dif_pos hduration).trans (dif_neg h)

theorem exists_create?_iff :
    (∃ config, create? duration offset = .ok config) ↔ IsDuration duration ∧ IsOffset offset := by
  constructor
  · rintro ⟨config, hconfig⟩
    obtain ⟨rfl, rfl, -⟩ := create?_eq_ok_iff.mp hconfig
    exact ⟨config.isDuration, config.isOffset⟩
  · rintro ⟨hd, ho⟩
    exact ⟨⟨duration, offset, .builtin, hd, ho⟩, create?_eq_ok_iff.mpr ⟨rfl, rfl, rfl⟩⟩

end Config

/-! ## Resolving -/

namespace Parameters

variable {parameters overrides : Parameters} {base : Option Path} {config : Config}

theorem sourceFrom_none (parameters : Parameters) : parameters.sourceFrom .none = parameters.source :=
  Option.map_id'

/-- The times are looked at, and then the source is put in. -/
theorem resolve_eq (parameters : Parameters) (base : Option Path) (overrides : Parameters) :
    parameters.resolve base overrides =
      (Config.create? ((overrides.duration.or parameters.duration).getD defaultDuration)
        ((overrides.offset.or parameters.offset).getD defaultOffset)).map
        (·.withSource (parameters.sourceOver base overrides.source)) := by
  unfold resolve sourceOver
  cases hcreate : Config.create? ((overrides.duration.or parameters.duration).getD defaultDuration)
      ((overrides.offset.or parameters.offset).getD defaultOffset) with
  | error fault => rfl
  | ok created =>
    obtain ⟨-, -, hbuiltin⟩ := Config.create?_eq_ok_iff.mp hcreate
    cases overrides.source.or (parameters.sourceFrom base) with
    | some path => rfl
    | none =>
      show Except.ok created = .ok (created.withSource .builtin)
      rw [← hbuiltin]
      rfl

/-- The configuration is the one whose parts were chosen. -/
theorem resolve_eq_ok_iff : parameters.resolve base overrides = .ok config ↔
    Chosen defaultDuration overrides.duration parameters.duration config.duration ∧
      Chosen defaultOffset overrides.offset parameters.offset config.offset ∧
      ComesFrom base overrides.source parameters.source config.source := by
  rw [resolve_eq, chosen_iff, chosen_iff, comesFrom_iff]
  constructor
  · intro h
    cases hcreate : Config.create? ((overrides.duration.or parameters.duration).getD defaultDuration)
        ((overrides.offset.or parameters.offset).getD defaultOffset) with
    | error fault =>
      rw [hcreate] at h
      cases h
    | ok created =>
      rw [hcreate] at h
      obtain ⟨hduration, hoffset, -⟩ := Config.create?_eq_ok_iff.mp hcreate
      cases h
      exact ⟨hduration, hoffset, rfl⟩
  · rintro ⟨hduration, hoffset, hsource⟩
    have hcreate : Config.create? _ _ = .ok (config.withSource .builtin) :=
      Config.create?_eq_ok_iff.mpr ⟨hduration, hoffset, rfl⟩
    rw [hcreate, ← hsource]
    rfl

/-- There is a configuration if both times are good. -/
theorem exists_resolve_iff : (∃ config, parameters.resolve base overrides = .ok config) ↔
    IsDuration ((overrides.duration.or parameters.duration).getD defaultDuration) ∧
      IsOffset ((overrides.offset.or parameters.offset).getD defaultOffset) := by
  rw [resolve_eq, ← Config.exists_create?_iff]
  cases Config.create? _ _ with
  | error fault => exact ⟨nofun, nofun⟩
  | ok created => exact ⟨fun _ => ⟨created, rfl⟩, fun _ => ⟨_, rfl⟩⟩

theorem resolve_of_not_isDuration {duration : Number}
    (hduration : Chosen defaultDuration overrides.duration parameters.duration duration)
    (h : ¬ IsDuration duration) : parameters.resolve base overrides =
      .error (.configInvalid ("duration must be a positive number of seconds, got " ++ Decimal.plain duration)) := by
  obtain rfl := chosen_iff.mp hduration
  rw [resolve_eq, Config.create?_of_not_isDuration h]
  rfl

theorem resolve_of_not_isOffset {duration offset : Number}
    (hduration : Chosen defaultDuration overrides.duration parameters.duration duration)
    (hoffset : Chosen defaultOffset overrides.offset parameters.offset offset) (hgood : IsDuration duration)
    (h : ¬ IsOffset offset) : parameters.resolve base overrides =
      .error (.configInvalid ("offset must be a non-negative number of seconds, got " ++ Decimal.plain offset)) := by
  obtain rfl := chosen_iff.mp hduration
  obtain rfl := chosen_iff.mp hoffset
  rw [resolve_eq, Config.create?_of_not_isOffset hgood h]
  rfl

/-! ## The contract -/

/-- What holds of parameters that are written and overridden. -/
structure Contract (parameters : Parameters) (base : Option Path) (overrides : Parameters) : Prop where
  /-- Each part is chosen on its own. -/
  ok_iff : ∀ config, parameters.resolve base overrides = .ok config ↔
    Chosen (.real 1) overrides.duration parameters.duration config.duration ∧
      Chosen (.real 0) overrides.offset parameters.offset config.offset ∧
      ComesFrom base overrides.source parameters.source config.source
  /-- There is a configuration if the times that were chosen are good, -/
  exists_iff : (∃ config, parameters.resolve base overrides = .ok config) ↔
    (∃ duration, Chosen (.real 1) overrides.duration parameters.duration duration ∧
      ∃ v, duration.value? = some v ∧ 0 < v) ∧
    ∃ offset, Chosen (.real 0) overrides.offset parameters.offset offset ∧ ∃ v, offset.value? = some v ∧ 0 ≤ v
  /-- and a complaint about the duration if it is bad, whatever the offset is, -/
  duration_error : ∀ duration, Chosen (.real 1) overrides.duration parameters.duration duration →
    (¬ ∃ v, duration.value? = some v ∧ 0 < v) → parameters.resolve base overrides =
      .error (.configInvalid ("duration must be a positive number of seconds, got " ++ Decimal.plain duration))
  /-- or else about the offset. -/
  offset_error : ∀ duration offset, Chosen (.real 1) overrides.duration parameters.duration duration →
    Chosen (.real 0) overrides.offset parameters.offset offset → (∃ v, duration.value? = some v ∧ 0 < v) →
    (¬ ∃ v, offset.value? = some v ∧ 0 ≤ v) → parameters.resolve base overrides =
      .error (.configInvalid ("offset must be a non-negative number of seconds, got " ++ Decimal.plain offset))
  /-- What an override hides is no matter, good or bad. -/
  hidden_duration : overrides.duration.isSome → ∀ written,
    Parameters.resolve { parameters with duration := written } base overrides =
      parameters.resolve base overrides
  hidden_offset : overrides.offset.isSome → ∀ written,
    Parameters.resolve { parameters with offset := written } base overrides = parameters.resolve base overrides
  hidden_source : overrides.source.isSome → ∀ written other,
    Parameters.resolve { parameters with source := written } other overrides =
      parameters.resolve base overrides
  /-- A bad override is an error, whatever is written. -/
  refused : (∃ duration, overrides.duration = some duration ∧ ¬ ∃ v, duration.value? = some v ∧ 0 < v) ∨
      (∃ offset, overrides.offset = some offset ∧ ¬ ∃ v, offset.value? = some v ∧ 0 ≤ v) →
    ∃ message, parameters.resolve base overrides = .error (.configInvalid message)
  /-- Neither the times nor a complaint have to do with the source. -/
  anySource : ∀ written override other, (Parameters.resolve { parameters with source := written } other
      { overrides with source := override }).map (·.withSource .builtin) =
    (parameters.resolve base overrides).map (·.withSource .builtin)
  /-- The overrides and the directory may be put in first. -/
  twice : parameters.resolve base overrides = Parameters.resolve
    ⟨overrides.duration.or parameters.duration, overrides.offset.or parameters.offset,
      overrides.source.or (parameters.sourceFrom base)⟩ .none .none

theorem exists_error_of_refused
    (h : (∃ duration, overrides.duration = some duration ∧ ¬ IsDuration duration) ∨
      ∃ offset, overrides.offset = some offset ∧ ¬ IsOffset offset) :
    ∃ message, parameters.resolve base overrides = .error (.configInvalid message) := by
  have hduration := chosen_getD defaultDuration overrides.duration parameters.duration
  by_cases hgood : IsDuration ((overrides.duration.or parameters.duration).getD defaultDuration)
  · rcases h with ⟨duration, hoverride, hbad⟩ | ⟨offset, hoverride, hbad⟩
    · rw [hoverride] at hgood
      exact absurd hgood hbad
    · have hoffset : Chosen defaultOffset overrides.offset parameters.offset offset := by
        rw [hoverride]
        exact .override offset parameters.offset
      exact ⟨_, resolve_of_not_isOffset hduration hoffset hgood hbad⟩
  · exact ⟨_, resolve_of_not_isDuration hduration hgood⟩

/-- Parameters are chosen one by one and checked together, whatever is written and whatever is asked for. -/
theorem parameters_contract (parameters : Parameters) (base : Option Path) (overrides : Parameters) :
    Contract parameters base overrides where
  ok_iff _ := resolve_eq_ok_iff
  exists_iff := by
    simp only [← isDuration_iff, ← isOffset_iff]
    exact exists_resolve_iff.trans (and_congr exists_chosen_iff.symm exists_chosen_iff.symm)
  duration_error duration hchosen hbad := resolve_of_not_isDuration hchosen (mt isDuration_iff.mp hbad)
  offset_error duration offset hduration hoffset hgood hbad :=
    resolve_of_not_isOffset hduration hoffset (isDuration_iff.mpr hgood) (mt isOffset_iff.mp hbad)
  hidden_duration h written := by
    obtain ⟨x, hx⟩ := Option.isSome_iff_exists.mp h
    rw [resolve_eq, resolve_eq, hx]
    rfl
  hidden_offset h written := by
    obtain ⟨x, hx⟩ := Option.isSome_iff_exists.mp h
    rw [resolve_eq, resolve_eq, hx]
    rfl
  hidden_source h written other := by
    obtain ⟨path, hpath⟩ := Option.isSome_iff_exists.mp h
    rw [resolve_eq, resolve_eq, sourceOver, sourceOver, hpath]
    rfl
  refused h := by
    apply exists_error_of_refused
    simpa only [isDuration_iff, isOffset_iff] using h
  anySource written override other := by
    rw [resolve_eq, resolve_eq]
    dsimp only
    cases Config.create? _ _ with
    | error fault => rfl
    | ok created => rfl
  twice := by
    rw [resolve_eq, resolve_eq, sourceOver, sourceOver, sourceFrom_none]
    rfl

end Parameters

end FrameTransition
