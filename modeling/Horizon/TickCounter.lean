/-
  Horizon.TickCounter
  ───────────────────
  **MEASURING ELAPSED TICKS.**

  A counter remembers the tick value of its last sample and the ticks between its last
  two.  The difference is taken modulo 2^64, so a tick counter that wraps between two
  samples does no harm.
-/
import Horizon.Clock

namespace Horizon

/-- The state of a counter. -/
structure TickCounter where
  /-- Ticks between the last two samples. -/
  elapsed : UInt64 := 0
  /-- The tick value of the last sample. -/
  reference : UInt64 := 0
  deriving Repr, DecidableEq, Inhabited

namespace TickCounter

/-- Take the first sample. -/
def start (counter : TickCounter) (now : UInt64) : TickCounter :=
  { counter with reference := now }

/-- Measure the ticks since the last sample, and take this one for the next. -/
def update (counter : TickCounter) (now : UInt64) : TickCounter :=
  { elapsed := now - counter.reference, reference := now }

/-- The elapsed time in milliseconds. -/
def milliseconds (counter : TickCounter) : Binary.Double :=
  Clock.milliseconds counter.elapsed

/-- The elapsed time as a duration. -/
def duration (counter : TickCounter) : Duration :=
  ticksToDuration counter.elapsed

end TickCounter

end Horizon
