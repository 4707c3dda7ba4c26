/-
  Horizon.WallTime
  ────────────────
  **THE TIME OF DAY.**

  The shared page holds a date and the tick at which it was right.  The time now is that
  date and the ticks since then, modulo 2^64 throughout.
-/
import Horizon.Clock
import Horizon.DateTime
import Horizon.Supervisor

namespace Horizon

namespace WallTime

/-- Milliseconds from the beginning of 1900 to the beginning of 1970. -/
def unixEpoch : UInt64 := 2208988800000

/-- Whole milliseconds in a number of ticks. -/
def elapsedMilliseconds (ticks : UInt64) : UInt64 :=
  UInt64.ofNat (Clock.milliseconds ticks).floor

/-- The time at a tick, in milliseconds since 1900. -/
def atTick (record : DateTimeRecord) (now : UInt64) : UInt64 :=
  record.dateTime + elapsedMilliseconds (now - record.updateTick)

/-- Milliseconds since 1970, and none for earlier times. -/
def toUnix (milliseconds : UInt64) : UInt64 :=
  if milliseconds < unixEpoch then 0 else milliseconds - unixEpoch

variable {m : Type → Type} [Monad m]

/-- The time now, in milliseconds since 1900. -/
def now (bus : Bus) (supervisor : Supervisor m) : m UInt64 := do
  let ticks ← supervisor.ticks
  pure (atTick bus.dateTime ticks)

/-- The time now, in milliseconds since 1970. -/
def unixNow (bus : Bus) (supervisor : Supervisor m) : m UInt64 := do
  let milliseconds ← now bus supervisor
  pure (toUnix milliseconds)

end WallTime

end Horizon
