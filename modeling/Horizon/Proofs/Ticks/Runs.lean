/-
  Horizon.Proofs.Ticks.Runs
  ─────────────────────────
  **RUNS OF MANY COUNTERS ON ONE CLOCK.**

  The clock is moved on or set, counters are started and updated, in any order.  What a
  step does to one counter is said by two equations alone:

      step         clock     its reference    its elapsed ticks
      advance k    + k       kept             kept
      set v        v         kept             kept
      start        kept      clock            kept
      update       kept      clock            clock - reference
      of others    kept      kept             kept

  so over a run the reference is the last sample, and the elapsed ticks of updates that
  follow one another fill the time between two samples without a gap.  All of this is
  modulo 2^64: the clock may wrap any number of times.
-/
import Mathlib.Algebra.Group.Nat.Defs
import Mathlib.Logic.Function.Basic
import Horizon.Console
import Horizon.TickCounter

namespace Horizon

variable {ι : Type} [DecidableEq ι]

/-! ## §1. Runs. -/

/-- One step with a clock and a counter for every name. -/
inductive TickStep (ι : Type) where
  /-- The clock moves on. -/
  | advance (ticks : UInt64)
  /-- The clock jumps. -/
  | set (ticks : UInt64)
  /-- A counter is started. -/
  | start (name : ι)
  /-- A counter is updated. -/
  | update (name : ι)
  deriving DecidableEq

/-- A console whose clock is sampled by counters. -/
structure TickBench (ι : Type) where
  /-- The console. -/
  console : Console
  /-- The counter of each name. -/
  counters : ι → TickCounter

namespace TickBench

/-- Counters that have not sampled the console's clock yet. -/
def fresh (console : Console) : TickBench ι := ⟨console, fun _ => {}⟩

/-- What the clock shows. -/
def now (bench : TickBench ι) : UInt64 := bench.console.clock

/-- Carry out one step. -/
def step (bench : TickBench ι) : TickStep ι → TickBench ι
  | .advance ticks => { bench with console := bench.console.advance ticks }
  | .set ticks => { bench with console := bench.console.setClock ticks }
  | .start name =>
    let counter := (bench.counters name).start bench.console.clock
    { bench with counters := Function.update bench.counters name counter }
  | .update name =>
    let counter := (bench.counters name).update bench.console.clock
    { bench with counters := Function.update bench.counters name counter }

/-- Carry out steps one after another. -/
def run (bench : TickBench ι) (steps : List (TickStep ι)) : TickBench ι :=
  steps.foldl step bench

end TickBench

/-! ## §2. What a run is measured against. -/

namespace TickStep

/-- What the clock shows after the step. -/
def clock (now : UInt64) : TickStep ι → UInt64
  | .advance ticks => now + ticks
  | .set ticks => ticks
  | .start _ => now
  | .update _ => now

/-- The step takes a sample for the counter of that name. -/
def Samples (name : ι) (step : TickStep ι) : Prop := step = .start name ∨ step = .update name

instance (name : ι) (step : TickStep ι) : Decidable (step.Samples name) :=
  inferInstanceAs (Decidable (step = .start name ∨ step = .update name))

/-- The step neither sets the clock nor samples for the counter of that name. -/
def Spares (name : ι) : TickStep ι → Prop
  | .advance _ => True
  | .set _ => False
  | .start other => other ≠ name
  | .update other => other ≠ name

instance (name : ι) : (step : TickStep ι) → Decidable (step.Spares name)
  | .advance _ => .isTrue trivial
  | .set _ => .isFalse id
  | .start other => inferInstanceAs (Decidable (other ≠ name))
  | .update other => inferInstanceAs (Decidable (other ≠ name))

omit [DecidableEq ι] in
/-- A sample leaves the clock as it is. -/
theorem Samples.clock_eq {name : ι} {step : TickStep ι} (h : step.Samples name)
    (now : UInt64) : step.clock now = now := by
  rcases h with rfl | rfl <;> rfl

omit [DecidableEq ι] in
theorem Spares.not_samples {name : ι} {step : TickStep ι} (h : step.Spares name) :
    ¬step.Samples name := by
  rintro (rfl | rfl) <;> exact h rfl

end TickStep

/-- The samples that steps take for a counter, in order, from what the clock shows. -/
def samples (name : ι) : (now : UInt64) → List (TickStep ι) → List UInt64
  | _, [] => []
  | now, step :: steps =>
    if step.Samples name then now :: samples name now steps
    else samples name (step.clock now) steps

/-- The last of these samples, and zero before the first. -/
def lastSample (name : ι) (now : UInt64) (steps : List (TickStep ι)) : UInt64 :=
  (samples name now steps).getLast?.getD 0

/-- By how much steps move the clock on, without a limit. -/
def advanced : List (TickStep ι) → Nat
  | [] => 0
  | .advance ticks :: steps => ticks.toNat + advanced steps
  | _ :: steps => advanced steps

/-- The elapsed ticks of a counter right after each of its updates. -/
def measured (name : ι) : TickBench ι → List (TickStep ι) → List UInt64
  | _, [] => []
  | bench, step :: steps =>
    let next := bench.step step
    if step = .update name then (next.counters name).elapsed :: measured name next steps
    else measured name next steps

namespace TickBench

variable (bench : TickBench ι)

/-! ## §3. One step. -/

theorem now_step (step : TickStep ι) : (bench.step step).now = step.clock bench.now := by
  cases step <;> rfl

/-- **What a step does to a counter**: only starting and updating that very counter matter. -/
theorem counters_step (name : ι) (step : TickStep ι) :
    (bench.step step).counters name
      = if step = .start name then (bench.counters name).start bench.now
        else if step = .update name then (bench.counters name).update bench.now
        else bench.counters name := by
  cases step with
  | advance ticks =>
      rw [if_neg nofun, if_neg nofun]
      rfl
  | set ticks =>
      rw [if_neg nofun, if_neg nofun]
      rfl
  | start other =>
      by_cases same : other = name
      · subst same
        rw [if_pos rfl]
        exact Function.update_self ..
      · rw [if_neg (fun equal => same (TickStep.start.inj equal)), if_neg nofun]
        exact Function.update_of_ne (Ne.symm same) ..
  | update other =>
      by_cases same : other = name
      · subst same
        rw [if_neg nofun, if_pos rfl]
        exact Function.update_self ..
      · rw [if_neg nofun, if_neg (fun equal => same (TickStep.update.inj equal))]
        exact Function.update_of_ne (Ne.symm same) ..

/-- The reference becomes what the clock shows when the counter takes a sample. -/
theorem reference_step (name : ι) (step : TickStep ι) :
    ((bench.step step).counters name).reference
      = if step.Samples name then bench.now else (bench.counters name).reference := by
  rw [counters_step]
  by_cases start : step = .start name
  · rw [if_pos start, if_pos (.inl start)]
    rfl
  · by_cases update : step = .update name
    · rw [if_neg start, if_pos update, if_pos (.inr update)]
      rfl
    · have neither : ¬step.Samples name := fun sample => sample.elim start update
      rw [if_neg start, if_neg update, if_neg neither]

/-- The elapsed ticks change at an update only. -/
theorem elapsed_step (name : ι) (step : TickStep ι) :
    ((bench.step step).counters name).elapsed
      = if step = .update name then bench.now - (bench.counters name).reference
        else (bench.counters name).elapsed := by
  rw [counters_step]
  -- a start keeps them, though it takes a sample
  by_cases start : step = .start name
  · have other : step ≠ .update name := by
      rw [start]
      nofun
    rw [if_pos start, if_neg other]
    rfl
  · by_cases update : step = .update name
    · rw [if_neg start, if_pos update, if_pos update]
      rfl
    · rw [if_neg start, if_neg update, if_neg update]

/-- A step that takes no sample for a counter leaves it alone. -/
theorem counters_step_of_not_samples {name : ι} {step : TickStep ι}
    (other : ¬step.Samples name) : (bench.step step).counters name = bench.counters name := by
  rw [counters_step, if_neg (fun start => other (.inl start)),
    if_neg (fun update => other (.inr update))]

/-! ## §4. Whole runs. -/

theorem run_cons (step : TickStep ι) (steps : List (TickStep ι)) :
    bench.run (step :: steps) = (bench.step step).run steps := rfl

theorem run_append (steps more : List (TickStep ι)) :
    bench.run (steps ++ more) = (bench.run steps).run more :=
  List.foldl_append

theorem now_run (steps : List (TickStep ι)) :
    (bench.run steps).now = steps.foldl TickStep.clock bench.now := by
  induction steps generalizing bench with
  | nil => rfl
  | cons step steps ih => rw [run_cons, ih, now_step, List.foldl_cons]

/-- **After a run the reference is the last sample**, or what it was if there is none. -/
theorem reference_run (name : ι) (steps : List (TickStep ι)) :
    ((bench.run steps).counters name).reference
      = (samples name bench.now steps).getLast?.getD (bench.counters name).reference := by
  induction steps generalizing bench with
  | nil => rfl
  | cons step steps ih =>
      rw [run_cons, ih, now_step, reference_step, samples]
      by_cases sample : step.Samples name
      · rw [if_pos sample, if_pos sample, sample.clock_eq, List.getLast?_cons, Option.getD_some]
      · rw [if_neg sample, if_neg sample]

/-- While nothing sets the clock or samples for a counter, the clock moves on by the ticks
added up and the counter stays as it is. -/
theorem run_of_spares {name : ι} {quiet : List (TickStep ι)}
    (spares : ∀ s ∈ quiet, s.Spares name) :
    (bench.run quiet).now = bench.now + UInt64.ofNat (advanced quiet)
      ∧ (bench.run quiet).counters name = bench.counters name := by
  induction quiet generalizing bench with
  | nil => exact ⟨(UInt64.add_zero _).symm, rfl⟩
  | cons step quiet ih =>
      have first := spares step List.mem_cons_self
      have rest := ih (bench.step step) fun s member => spares s (List.mem_cons_of_mem _ member)
      rw [run_cons]
      have kept := rest.2.trans (bench.counters_step_of_not_samples first.not_samples)
      refine ⟨?_, kept⟩
      -- only an advance moves the clock
      cases step with
      | advance ticks =>
          rw [rest.1, advanced, UInt64.ofNat_add, UInt64.ofNat_toNat, ← UInt64.add_assoc]
          rfl
      | set ticks => exact first.elim
      | start other => exact rest.1
      | update other => exact rest.1

/-- **Between a sample and the next update a counter measures how far the clock moved on**,
modulo 2^64. -/
theorem elapsed_of_spares {name : ι} {sample : TickStep ι} {quiet : List (TickStep ι)}
    (taken : sample.Samples name) (spares : ∀ s ∈ quiet, s.Spares name) :
    ((bench.run (sample :: quiet ++ [.update name])).counters name).elapsed.toNat
      = advanced quiet % 2 ^ 64 := by
  obtain ⟨moved, kept⟩ := (bench.step sample).run_of_spares spares
  have reference : ((bench.step sample).counters name).reference = bench.now := by
    rw [reference_step, if_pos taken]
  -- the update subtracts the sample from what the clock shows after `quiet`
  rw [List.cons_append, run_cons, run_append, run_cons]
  show ((((bench.step sample).run quiet).step (.update name)).counters name).elapsed.toNat = _
  rw [elapsed_step, if_pos rfl, moved, kept, reference, now_step, taken.clock_eq]
  rw [UInt64.add_comm, UInt64.add_sub_cancel, UInt64.toNat_ofNat']

/-- **Updates that follow one another leave no gap**: what they measure adds up to the way
from the reference before the first to the reference after the last. -/
theorem reference_add_measured (name : ι) (steps : List (TickStep ι))
    (unstarted : .start name ∉ steps) :
    (bench.counters name).reference + (measured name bench steps).foldr (· + ·) 0
      = ((bench.run steps).counters name).reference := by
  induction steps generalizing bench with
  | nil => exact UInt64.add_zero _
  | cons step steps ih =>
      rw [List.mem_cons, not_or] at unstarted
      have rest := ih (bench.step step) unstarted.2
      rw [run_cons, ← rest, reference_step, measured]
      by_cases update : step = .update name
      · -- the update measures the way to its own sample
        have way : (bench.counters name).reference + (bench.now - (bench.counters name).reference)
            = bench.now := by
          rw [UInt64.add_comm, UInt64.sub_add_cancel]
        rw [if_pos update, if_pos (.inr update), elapsed_step, if_pos update, List.foldr_cons,
          ← UInt64.add_assoc, way]
      · have neither : ¬step.Samples name :=
          fun sample => sample.elim (fun start => unstarted.1 start.symm) update
        rw [if_neg update, if_neg neither]

/-! ## §5. All counters, over whole runs. -/

/-- **COUNTERS MEASURE BETWEEN THEIR SAMPLES.**  After any run on new counters the clock is
where the steps moved it, and of every counter

  · the reference is its last sample, zero before the first,
  · the elapsed ticks at an update are the way from there, and no other step changes them,
  · an update behind a sample measures what the clock was moved on in between, exactly so
    as long as that fits 64 bits,
  · updates that follow one another add up to the way from the first sample to the last,
  · steps of other counters change nothing.
-/
theorem counters_measure_between_samples (console : Console) (steps : List (TickStep ι))
    (name : ι) :
    let bench := (fresh console).run steps
    bench.now = steps.foldl TickStep.clock console.clock
    ∧ (bench.counters name).reference = lastSample name console.clock steps
    ∧ ((bench.step (.update name)).counters name).elapsed.toNat
        = (2 ^ 64 + bench.now.toNat - (bench.counters name).reference.toNat) % 2 ^ 64
    ∧ (∀ step, step ≠ .update name →
        ((bench.step step).counters name).elapsed = (bench.counters name).elapsed)
    ∧ (∀ sample quiet, sample.Samples name → (∀ s ∈ quiet, s.Spares name) →
        let after := bench.run (sample :: quiet ++ [.update name])
        (after.counters name).elapsed.toNat = advanced quiet % 2 ^ 64
        ∧ (advanced quiet < 2 ^ 64 → (after.counters name).elapsed.toNat = advanced quiet))
    ∧ (∀ more, .start name ∉ more →
        (measured name bench more).foldr (· + ·) 0
          = lastSample name console.clock (steps ++ more) - lastSample name console.clock steps)
    ∧ (∀ step, ¬step.Samples name → (bench.step step).counters name = bench.counters name) := by
  intro bench
  have reference (steps : List (TickStep ι)) :
      (((fresh console).run steps).counters name).reference
        = lastSample name console.clock steps := reference_run (fresh console) name steps
  refine ⟨now_run _ steps, reference steps, ?_, ?_, ?_, ?_, ?_⟩
  · have := bench.now.toNat_lt
    have := (bench.counters name).reference.toNat_lt
    rw [elapsed_step, if_pos rfl, UInt64.toNat_sub]
    omega
  · intro step other
    rw [elapsed_step, if_neg other]
  · intro sample quiet taken spares after
    have elapsed : (after.counters name).elapsed.toNat = advanced quiet % 2 ^ 64 :=
      bench.elapsed_of_spares taken spares
    refine ⟨elapsed, fun fits => ?_⟩
    rw [elapsed, Nat.mod_eq_of_lt fits]
  · intro more unstarted
    have way := bench.reference_add_measured name more unstarted
    rw [← run_append, reference, reference] at way
    rw [← way, UInt64.add_comm, UInt64.add_sub_cancel]
  · intro step other
    exact bench.counters_step_of_not_samples other

/-- Two counters on a clock that is about to wrap: the first is started and then updated
after the clock has gone all the way round but one tick, and again after it was set back. -/
theorem counters_measure_between_samples_round_the_clock :
    let console := Console.ofConfig { startTick := 0xFFFFFFFFFFFFFFFB }
    let bench := (fresh console).run [.start false, .advance 10, .update true]
    let quiet : List (TickStep Bool) :=
      [.advance 0xFFFFFFFFFFFFFFF0, .start true, .advance 15, .update true]
    let more : List (TickStep Bool) := [.advance 3, .update false, .set 1, .update false]
    (TickStep.start true ≠ .update false
      ∧ ((bench.step (.start true)).counters false).elapsed = (bench.counters false).elapsed)
    ∧ ((TickStep.start false).Samples false ∧ (∀ s ∈ quiet, s.Spares false)
      ∧ advanced quiet < 2 ^ 64
      ∧ ((bench.run (.start false :: quiet ++ [.update false])).counters false).elapsed.toNat
        = 0xFFFFFFFFFFFFFFFF)
    ∧ (.start false ∉ more
      ∧ (measured false bench more).foldr (· + ·) 0 = 1 - 0xFFFFFFFFFFFFFFFB)
    ∧ (¬(TickStep.update true).Samples false
      ∧ (bench.step (.update true)).counters false = bench.counters false) := by
  intro console bench quiet more
  have others : TickStep.start true ≠ .update false := by decide
  have taken : (TickStep.start false).Samples false := by decide
  have spares : ∀ s ∈ quiet, s.Spares false := by decide
  have fits : advanced quiet < 2 ^ 64 := by decide
  have unstarted : .start false ∉ more := by decide
  have apart : ¬(TickStep.update true).Samples false := by decide
  obtain ⟨-, -, -, kept, between, gapless, alone⟩ := counters_measure_between_samples console
    [.start false, .advance 10, .update true] false
  exact ⟨⟨others, kept _ others⟩,
    ⟨taken, spares, fits, (between _ _ taken spares).2 fits⟩,
    ⟨unstarted, gapless more unstarted⟩, ⟨apart, alone _ apart⟩⟩

end TickBench

end Horizon
