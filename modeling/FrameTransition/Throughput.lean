import FrameTransition.Number.Format

/-!
# Counting frames

A counter of drawn frames that reports the rate once per window. The clock is an argument: seconds
since the counter was made, never going back.
-/

namespace FrameTransition

/-- Frames counted since the start and since the last report. -/
structure Throughput where
  /-- Length of a window in seconds. -/
  interval : Rat
  windowStart : Rat
  windowFrames : Nat
  totalFrames : Nat
  deriving DecidableEq

namespace Throughput

/-- A counter that reports once per `interval` seconds. -/
def start (interval : Rat) : Throughput :=
  ⟨interval, 0, 0, 0⟩

/-- The interval of a counter that is not told one. -/
def defaultInterval : Rat := 1

/-- Frames per second over a stretch of time. No time at all counts as endless speed. -/
def rate (frames : Nat) (seconds : Rat) : Number :=
  if seconds = 0 then .infinite false
  else Format.binary32.round ((frames : Rat) / seconds)

/-- Counts a frame drawn at `now`. When the window has closed, reports its rate and opens the next. -/
def record (counter : Throughput) (now : Rat) : Throughput × Option Number :=
  let counted := { counter with
    windowFrames := counter.windowFrames + 1
    totalFrames := counter.totalFrames + 1 }
  let elapsed := now - counter.windowStart
  if counter.interval ≤ elapsed then
    ({ counted with windowStart := now, windowFrames := 0 }, some (rate counted.windowFrames elapsed))
  else (counted, none)

/-- Frames per second since the start; zero before any time has passed. -/
def average (counter : Throughput) (now : Rat) : Number :=
  if 0 < now then Format.binary32.round ((counter.totalFrames : Rat) / now) else .real 0

end Throughput

end FrameTransition
