import FrameTransition.Config.Basic

/-!
# Progress

A presentation time becomes progress in four steps: the time since the offset, as a share of the
duration, held between zero and one, narrowed to 32 bits. A share that is not a number counts as not
started. Each arithmetic step is the exact result followed by a rounding, and `progressWith` takes the
two roundings as arguments; `progressAt` runs it with rounding to nearest.
-/

namespace FrameTransition

namespace Config

/-- The share of the duration that has passed, unbounded. -/
def shareWith (wide : Rounding) (config : Config) (seconds : Number) : Number :=
  Number.div wide (Number.sub wide seconds config.offset) config.duration

/-- Progress at a presentation time, for a wide rounding of the arithmetic and a narrow one of the
result. -/
def progressWith (wide narrow : Rounding) (config : Config) (seconds : Number) : Number :=
  let share := config.shareWith wide seconds
  if share.isNaN then .real 0
  else (Number.clamp (.real 0) (.real 1) share).narrow narrow

/-- Progress at a presentation time. -/
def progressAt (config : Config) (seconds : Number) : Number :=
  config.progressWith Format.binary64.round Format.binary32.round seconds

/-- Halfway through the default transition. -/
example : default.progressAt (.real (1 / 2)) = .real (1 / 2) := by decide +kernel

/-- A time that is not a number counts as not started. -/
example : default.progressAt .nan = .real 0 := by decide +kernel

end Config

end FrameTransition
