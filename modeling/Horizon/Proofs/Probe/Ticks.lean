/-
  Horizon.Proofs.Probe.Ticks
  ──────────────────────────
  **THE SAMPLES A RUN PRINTS.**

  A run builds the console that the settings describe, and takes so many samples of its
  clock.  Building it prints nothing and leaves the clock at its start; then there is a line
  for each sample, and all lines show the same interval:

      settings ──▶ console, clock = start ──▶ #0: step ticks ...
                                              #1: step ticks ...
                                              ...
                   clock = start + n step     #(n - 1): step ticks ...
-/
import Horizon.Proofs.Console.Operations
import Horizon.Proofs.Probe.Printing
import Horizon.Proofs.Ticks.Sampling

namespace Horizon

/-! ## §1. The console of a run. -/

/-- The console that the settings describe, in the fast state if they ask for it. -/
def PlatformConfig.console (config : PlatformConfig) : Console :=
  let console := (Console.ofConfig config.simulation).withModel config.model
  if config.speedup then console.setSpeedup true else console

theorem PlatformConfig.clock_console (config : PlatformConfig) :
    config.console.clock = config.simulation.startTick := by
  -- a request for speed has no part in the clock
  have built := ((Console.ofConfig config.simulation).withModel config.model).perform_snd
    (.setSpeedup true)
  rw [PlatformConfig.console]
  split
  · exact congrArg Console.clock built
  · rfl

namespace Probe

section

variable {m : Type → Type} [Monad m] [LawfulMonad m] (session : Session m)

/-- Asking for the fast state prints nothing, whether or not it is granted. -/
theorem prints_speedUp (console : Console) :
    Prints (speedUp session.noted console) (speedUp session console) []
      (console.setSpeedup true) := by
  rw [speedUp, speedUp, Console.setSpeedup]
  cases console.trySetSpeedup true with
  | ok faster => exact .bind (.log session _) (.bind (.log session _) (.pure faster))
  | error cause => exact .bind (.log session _) (.bind (.log session _) (.pure console))

/-- **Building the console** prints nothing. -/
theorem prints_consoleOf (config : PlatformConfig) :
    Prints (consoleOf session.noted config) (consoleOf session config) [] config.console := by
  rw [consoleOf, consoleOf, PlatformConfig.console]
  split
  · exact prints_speedUp session _
  · exact .pure _

/-- **Sampling** prints a line for each sample. -/
theorem prints_ticks (config : PlatformConfig) (console : Console) (samples : Option UInt32)
    (interval : Option Duration) :
    Prints (ticks session.noted config console samples interval)
      (ticks session config console samples interval)
      ((TickSampling.run console (durationToTicks (interval.getD config.probe.sampleInterval))
        (samples.getD config.probe.samples).toNat).lines.map (· ++ "\n"))
      .success := by
  -- an event, the lines, an event and the ending
  have texts (lines : List String) : lines = [] ++ (lines ++ ([] ++ [])) := by simp
  rw [texts (List.map ..)]
  exact .bind (.log session _) (.bind (.lines session _) (.bind (.log session _) (.pure _)))

end

/-! ## §2. The command. -/

/-- **EVERY SAMPLE SHOWS THE SAME INTERVAL.**  On any machine and with any settings, a run that
samples the tick counter succeeds and prints as many lines as there are samples, numbered
from zero; behind its number every line has the ticks of the interval and the same text.

The console it samples is the one that the settings describe: every sample measures the
ticks of the interval, and the clock ends as many steps behind its start, modulo 2^64, while
everything else about the console stays as it was. -/
theorem ticks_prints_equal_intervals {σ : Type} (session : Session (StateM σ)) (state : σ)
    (config : PlatformConfig) (samples : Option UInt32) (interval : Option Duration)
    (notes : List String) :
    let count := (samples.getD config.probe.samples).toNat
    let step := durationToTicks (interval.getD config.probe.sampleInterval)
    let sampling := TickSampling.run config.console step count
    let printed := (List.range count).map fun i =>
      s!"#{i}: {step} ticks{TickSampling.figures step}\n"
    (∃ after,
      (execute session config (.ticks samples interval)).run state = (.success, after)
      ∧ ((execute session.noted config (.ticks samples interval)).run notes).run state
          = ((.success, notes ++ printed), after))
    ∧ printed = sampling.lines.map (· ++ "\n")
    ∧ (∀ line ∈ sampling.lines, '\n' ∉ line.toList)
    ∧ ((consoleOf session config).run state).1 = config.console
    ∧ sampling.samples.toList.map (·.elapsed) = List.replicate count step
    ∧ sampling.console.clock.toNat
        = (config.simulation.startTick.toNat + count * step.toNat) % 2 ^ 64
    ∧ sampling.console = { config.console with clock := sampling.console.clock } := by
  intro count step sampling printed
  have lines : printed = sampling.lines.map (· ++ "\n") := by
    rw [TickSampling.lines_run, List.map_map]
    rfl
  have run : Prints (execute session.noted config (.ticks samples interval))
      (execute session config (.ticks samples interval)) printed .success := by
    rw [lines, ← List.nil_append (List.map ..)]
    exact .bind (prints_consoleOf session config) (prints_ticks session config _ samples interval)
  have single : ∀ line ∈ sampling.lines, '\n' ∉ line.toList := by
    intro line member
    obtain ⟨sample, -, rfl⟩ := List.mem_map.mp member
    exact TickSampling.newline_notMem_line sample.2 sample.1
  have measured : sampling.samples.toList.map (·.elapsed) = List.replicate count step := by
    rw [TickSampling.samples_run, List.map_map]
    exact List.map_const'.trans (congrArg (List.replicate · step) List.length_range)
  have clock := TickSampling.toNat_clock_run config.console step count
  rw [config.clock_console] at clock
  obtain ⟨after, built, -⟩ := (prints_consoleOf session config).run_eq state []
  refine ⟨run.run_eq state notes, lines, single, congrArg Prod.fst built, measured, clock, ?_⟩
  rw [TickSampling.console_run]
  rfl

end Probe

end Horizon
