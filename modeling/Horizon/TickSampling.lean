/-
  Horizon.TickSampling
  ────────────────────
  **SAMPLING THE TICK COUNTER AT A FIXED INTERVAL.**

  Before each sample the simulated clock moves on by the ticks of the interval, so that
  every sample measures exactly that many.
-/
import Horizon.Console
import Horizon.Duration.Text
import Horizon.TickCounter

namespace Horizon

open Text

/-- The state of a sampling. -/
structure TickSampling where
  /-- The console whose clock is sampled. -/
  console : Console
  /-- The counter that samples it. -/
  counter : TickCounter
  /-- The counter right after each sample. -/
  samples : Array TickCounter := #[]
  deriving Repr, DecidableEq

namespace TickSampling

/-- A sampling of which the first sample only sets the reference. -/
def start (console : Console) : TickSampling where
  console := console
  counter := TickCounter.start {} console.clock

/-- Move the clock on and take a sample. -/
def next (step : UInt64) (s : TickSampling) : TickSampling :=
  let console := s.console.advance step
  let counter := s.counter.update console.clock
  { console, counter, samples := s.samples.push counter }

/-- Take so many samples. -/
def take (step : UInt64) : Nat → TickSampling → TickSampling
  | 0, s => s
  | count + 1, s => take step count (s.next step)

/-- Sample a console's clock so many times. -/
def run (console : Console) (step : UInt64) (count : Nat) : TickSampling :=
  (start console).take step count

/-- The line of one sample. -/
def line (index : Nat) (counter : TickCounter) : String :=
  s!"#{index}: {counter.elapsed} ticks  {counter.milliseconds.datum.fixed 3} ms  ({counter.duration.text})"

/-- The lines of all samples, numbered from zero. -/
def lines (s : TickSampling) : List String :=
  s.samples.toList.zipIdx.map fun sample => line sample.2 sample.1

end TickSampling

end Horizon
