/-
  Horizon.Clock
  ─────────────
  **CLOCK RATES AND TICKS.**

  The system tick counter runs at the ARM11 clock of the Old model, on every
  model.  Conversions between ticks and durations drop what is less than one unit and
  stop at the greatest value of the target.
-/
import Horizon.Binary.Format
import Horizon.Duration

namespace Horizon

open Binary (Double)

/-! ## §1. Rates. -/

namespace Clock

/-- The base clock, in Hz. -/
def soc : Nat := 16756991
/-- The ARM9 clock, in Hz. -/
def arm9 : Nat := soc * 8
/-- The ARM11 clock and tick rate, in Hz. -/
def arm11 : Nat := arm9 * 2
/-- The ARM11 clock of the New model at high speed, in Hz. -/
def arm11New : Nat := arm11 * 3

/-- Ticks in a millisecond. -/
def ticksPerMillisecond : Double := .ofQuotient arm11 1000
/-- Ticks in a microsecond. -/
def ticksPerMicrosecond : Double := .ofQuotient arm11 1000000

/-- Ticks as milliseconds, with a fraction. -/
def milliseconds (ticks : UInt64) : Double :=
  (Double.ofNat ticks.toNat).div ticksPerMillisecond

end Clock

/-! ## §2. Ticks and durations. -/

/-- The greatest 64-bit word. -/
def greatestWord : Nat := 0xFFFF_FFFF_FFFF_FFFF

/-- The duration of so many ticks, to the nanosecond below; at most the greatest
64-bit count of nanoseconds. -/
def ticksToDuration (ticks : UInt64) : Duration :=
  .ofWord (UInt64.ofNat (min (ticks.toNat * 1_000_000_000 / Clock.arm11) greatestWord))

/-- The whole ticks in a duration; at most the greatest 64-bit word. -/
def durationToTicks (d : Duration) : UInt64 :=
  UInt64.ofNat (min (d.nanoseconds * Clock.arm11 / 1_000_000_000) greatestWord)

end Horizon
