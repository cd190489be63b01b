import FrameTransition.Config.Source
import FrameTransition.Decimal.Shortest

/-!
# Transition parameters

A `Config` is how long a transition takes, when it starts, and where its snippet comes from. It is
made by `Config.create?`, which admits a finite positive duration and a finite offset that is not
below zero, so every function of a configuration may rely on both: they are fields of the type.

`Parameters` is the same as written down by a user, every part optional. `Parameters.resolve` puts
overrides before written values before defaults, each part on its own, and validates the outcome.
-/

namespace FrameTransition

/-- The default duration, in seconds. -/
def defaultDuration : Number := .real 1

/-- The default offset, in seconds. -/
def defaultOffset : Number := .real 0

/-- A length of time a transition can take. -/
def IsDuration (x : Number) : Prop :=
  x.isFinite = true ∧ Number.lt (.real 0) x = true

/-- A delay before a transition. The negative zero is not below zero. -/
def IsOffset (x : Number) : Prop :=
  x.isFinite = true ∧ Number.lt x (.real 0) = false

instance (x : Number) : Decidable (IsDuration x) := inferInstanceAs (Decidable (_ ∧ _))

instance (x : Number) : Decidable (IsOffset x) := inferInstanceAs (Decidable (_ ∧ _))

/-- Validated transition parameters. -/
structure Config where
  duration : Number
  offset : Number
  source : Source
  isDuration : IsDuration duration
  isOffset : IsOffset offset

namespace Config

/-- The configuration with every part at its default. -/
def default : Config where
  duration := defaultDuration
  offset := defaultOffset
  source := .builtin
  isDuration := by decide +kernel
  isOffset := by decide +kernel

instance : Inhabited Config := ⟨default⟩

/-- A configuration with the built-in snippet. Of two bad values the duration is reported. -/
def create? (duration offset : Number) : Except TransitionError Config :=
  if hd : IsDuration duration then
    if ho : IsOffset offset then
      .ok ⟨duration, offset, .builtin, hd, ho⟩
    else
      .error (.configInvalid
        ("offset must be a non-negative number of seconds, got " ++ Decimal.plain offset))
  else
    .error (.configInvalid
      ("duration must be a positive number of seconds, got " ++ Decimal.plain duration))

/-- The same times with another snippet. -/
def withSource (config : Config) (source : Source) : Config :=
  { config with source }

end Config

/-- Transition parameters as written down, any of them missing. -/
structure Parameters where
  duration : Option Number
  offset : Option Number
  source : Option Path
  deriving DecidableEq, Inhabited

namespace Parameters

/-- Nothing written down. -/
def none : Parameters := ⟨.none, .none, .none⟩

/-- The written source as seen from the directory of the file it was written in. -/
def sourceFrom (base : Option Path) (parameters : Parameters) : Option Path :=
  parameters.source.map fun path =>
    match base with
    | some directory => if path.isRelative then directory.join path else path
    | .none => path

/-- The configuration that results from overrides, what is written, and the defaults. -/
def resolve (parameters : Parameters) (base : Option Path) (overrides : Parameters) :
    Except TransitionError Config := do
  let config ← Config.create?
    ((overrides.duration.or parameters.duration).getD defaultDuration)
    ((overrides.offset.or parameters.offset).getD defaultOffset)
  match overrides.source.or (parameters.sourceFrom base) with
  | some path => return config.withSource (.file path)
  | .none => return config

end Parameters

end FrameTransition
