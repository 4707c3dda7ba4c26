/-
  Horizon.Proofs.Ticks.Sampling
  ─────────────────────────────
  **EVERY SAMPLE MEASURES THE SAME INTERVAL.**

  Before each sample the clock moves on by one step, from where the sample before it was
  taken.  So the counter's reference is what the clock shows whenever a sample is about to
  begin, and the difference that the sample measures is the step itself, wherever the clock
  stands and however often it wraps:

      clock       c        c + step        c + 2 step       ...   modulo 2^64
      reference   c        c + step        c + 2 step       ...
      measured             step            step             ...

  What is written of a sample shows its number and what it measured, on one line.
-/
import Horizon.Proofs.Duration.RoundTrip
import Horizon.TickSampling

namespace Horizon

open Text

/-! ## §1. Texts of one line. -/

/-- A text is put into another as it is. -/
theorem Text.toString_eq_self (text : String) : toString text = text := rfl

/-- A number of fixed places is digits and a point. -/
theorem Binary.mem_fixedPlaces {places numerator denominator : Nat} {c : Char}
    (hc : c ∈ fixedPlaces places numerator denominator) : c.isDigit ∨ c = '.' := by
  have digits (fill n : Nat) : AllDigits (List.replicate fill '0' ++ Nat.toDigits 10 n) :=
    (allDigits_replicate_zero fill).append (allDigits_decimal n)
  rcases List.mem_append.mp hc with whole | rest
  · exact .inl (digits _ _ c (List.mem_of_mem_take whole))
  · split at rest
    · exact nomatch rest
    · rcases List.mem_cons.mp rest with point | fraction
      · exact .inr point
      · exact .inl (digits _ _ c (List.mem_of_mem_drop fraction))

theorem Binary.Datum.newline_notMem_fixed (places : Nat) (datum : Datum) :
    '\n' ∉ (datum.fixed places).toList := by
  cases datum with
  | nan payload => exact (by decide : '\n' ∉ "NaN".toList)
  | infinite negative =>
      cases negative with
      | false => exact (by decide : '\n' ∉ "inf".toList)
      | true => exact (by decide : '\n' ∉ "-inf".toList)
  | finite negative significand exponent =>
      have places (numerator denominator : Nat) :
          '\n' ∉ fixedPlaces places numerator denominator :=
        fun newline => (mem_fixedPlaces newline).elim (by decide) (by decide)
      cases negative <;> simp [fixed, places]

theorem Duration.newline_notMem_text (d : Duration) : '\n' ∉ d.text.toList := by
  have quantity {q : Quantity} (legible : q.Legible) : '\n' ∉ q.chars := by
    intro newline
    rcases List.mem_append.mp newline with digit | letter
    · exact absurd (allDigits_decimal q.count _ digit) (by decide)
    · exact absurd (legible.named.letters _ letter).2.2 (by decide)
  -- the text is spelled quantity by quantity, with blanks between them
  rw [toList_text]
  have legible := legible_spelled d
  generalize d.spelled = qs at legible ⊢
  fun_induction spell qs with
  | case1 => exact List.not_mem_nil
  | case2 q => exact quantity (legible q List.mem_cons_self)
  | case3 q r qs ih =>
      have here := quantity (legible q List.mem_cons_self)
      have later := ih fun q member => legible q (List.mem_cons_of_mem _ member)
      simp [here, later]

namespace TickSampling

/-! ## §2. What is written of a sample. -/

/-- The elapsed time in the two ways it is written behind the ticks. -/
def figures (elapsed : UInt64) : String :=
  s!"  {(Clock.milliseconds elapsed).datum.fixed 3} ms  ({(ticksToDuration elapsed).text})"

/-- The line of a sample is about its number and what it measured, and nothing else. -/
theorem line_eq (index : Nat) (counter : TickCounter) :
    line index counter = s!"#{index}: {counter.elapsed} ticks{figures counter.elapsed}" := by
  have spaces : " ticks  ".toList = " ticks".toList ++ "  ".toList := rfl
  apply String.toList_inj.mp
  simp only [line, figures, TickCounter.milliseconds, TickCounter.duration,
    Text.toString_eq_self, String.toList_append, spaces, List.append_assoc]

theorem newline_notMem_figures (elapsed : UInt64) : '\n' ∉ (figures elapsed).toList := by
  have milliseconds := (Clock.milliseconds elapsed).datum.newline_notMem_fixed 3
  have duration := (ticksToDuration elapsed).newline_notMem_text
  simp only [figures, Text.toString_eq_self, String.toList_append, List.mem_append, not_or]
  exact ⟨⟨⟨⟨by decide, milliseconds⟩, by decide⟩, duration⟩, by decide⟩

/-- What is written of a sample is one line. -/
theorem newline_notMem_line (index : Nat) (counter : TickCounter) :
    '\n' ∉ (line index counter).toList := by
  have numeral (n : Nat) : '\n' ∉ (toString n).toList := by
    have digits : (toString n).toList = decimal n := by simp [decimal]
    intro newline
    exact absurd (allDigits_decimal n _ (digits ▸ newline)) (by decide)
  have elapsed : '\n' ∉ (toString counter.elapsed).toList := numeral counter.elapsed.toNat
  have figures := newline_notMem_figures counter.elapsed
  rw [line_eq]
  simp only [Text.toString_eq_self, String.toList_append, List.mem_append, not_or]
  exact ⟨⟨⟨⟨⟨by decide, numeral index⟩, by decide⟩, elapsed⟩, by decide⟩, figures⟩

/-! ## §3. One sample, and many. -/

/-- The reference is what the clock shows. -/
def Synced (s : TickSampling) : Prop := s.counter.reference = s.console.clock

/-- The counter right after a sample, from what the clock showed before the first. -/
def sampled (clock step : UInt64) (index : Nat) : TickCounter where
  elapsed := step
  reference := clock + UInt64.ofNat (index + 1) * step

theorem sampled_zero (clock step : UInt64) : sampled clock step 0 = ⟨step, clock + step⟩ :=
  congrArg (fun ticks => TickCounter.mk step (clock + ticks)) (UInt64.one_mul step)

/-- One step and some more are one more. -/
theorem add_steps_succ (clock step : UInt64) (count : Nat) :
    clock + step + UInt64.ofNat count * step = clock + UInt64.ofNat (count + 1) * step := by
  have one : UInt64.ofNat 1 * step = step := UInt64.one_mul step
  rw [UInt64.ofNat_add, UInt64.add_mul, one, UInt64.add_comm (_ * step), UInt64.add_assoc]

theorem sampled_succ (clock step : UInt64) (index : Nat) :
    sampled clock step (index + 1) = sampled (clock + step) step index :=
  congrArg (TickCounter.mk step) (add_steps_succ clock step (index + 1)).symm

theorem synced_start (console : Console) : (start console).Synced := rfl

theorem synced_next (step : UInt64) (s : TickSampling) : (s.next step).Synced := rfl

/-- **ONE SAMPLE** measures the step. -/
theorem next_eq (step : UInt64) {s : TickSampling} (synced : s.Synced) :
    s.next step
      = { console := s.console.advance step
          counter := sampled s.console.clock step 0
          samples := s.samples.push (sampled s.console.clock step 0) } := by
  have measured : s.counter.update (s.console.clock + step) = sampled s.console.clock step 0 := by
    rw [TickCounter.update, synced, UInt64.add_comm, UInt64.add_sub_cancel, UInt64.add_comm,
      sampled_zero]
  rw [next, Console.advance, measured]

/-- **MANY SAMPLES** measure one step each, one step behind the other. -/
theorem take_eq (step : UInt64) (count : Nat) {s : TickSampling} (synced : s.Synced) :
    (s.take step count).console = s.console.advance (UInt64.ofNat count * step)
      ∧ (s.take step count).samples.toList
        = s.samples.toList ++ (List.range count).map (sampled s.console.clock step) := by
  induction count generalizing s with
  | zero =>
      have still : UInt64.ofNat 0 * step = 0 := UInt64.zero_mul
      refine ⟨?_, (List.append_nil _).symm⟩
      rw [take, still, Console.advance, UInt64.add_zero]
  | succ count ih =>
      obtain ⟨console, samples⟩ := ih (synced_next step s)
      rw [next_eq step synced] at console samples
      rw [take, next_eq step synced]
      refine ⟨console.trans ?_, samples.trans ?_⟩
      · simp only [Console.advance, add_steps_succ]
      · -- the samples behind the first are numbered from where the clock stands after it
        have later : sampled (s.console.clock + step) step
            = sampled s.console.clock step ∘ Nat.succ :=
          funext fun index => (sampled_succ s.console.clock step index).symm
        rw [Console.advance, later, Array.toList_push, List.append_assoc, List.range_succ_eq_map,
          List.map_cons, List.map_map, List.singleton_append]

/-! ## §4. A run on a console's clock. -/

section

variable (console : Console) (step : UInt64) (count : Nat)

theorem console_run :
    (run console step count).console = console.advance (UInt64.ofNat count * step) :=
  (take_eq step count (synced_start console)).1

theorem samples_run :
    (run console step count).samples.toList
      = (List.range count).map (sampled console.clock step) :=
  (take_eq step count (synced_start console)).2

/-- The clock ends where all steps together lead, modulo 2^64. -/
theorem toNat_clock_run :
    (run console step count).console.clock.toNat
      = (console.clock.toNat + count * step.toNat) % 2 ^ 64 := by
  rw [console_run]
  show (console.clock + UInt64.ofNat count * step).toNat = _
  rw [UInt64.toNat_add, UInt64.toNat_mul, UInt64.toNat_ofNat', Nat.mod_mul_mod, Nat.add_mod_mod]

/-- The longest step is one tick back, and yet what each sample measures. -/
example :
    let sampling := run (.ofConfig { startTick := 1 }) 0xFFFFFFFFFFFFFFFF 3
    sampling.samples.toList.map (·.elapsed) = List.replicate 3 0xFFFFFFFFFFFFFFFF
    ∧ sampling.console.clock = 0xFFFFFFFFFFFFFFFE := by decide

/-- **The lines of a run** differ in their numbers alone. -/
theorem lines_run :
    (run console step count).lines
      = (List.range count).map fun i => s!"#{i}: {step} ticks{figures step}" := by
  rw [lines, samples_run]
  refine List.ext_getElem (by simp) fun i _ _ => ?_
  rw [List.getElem_map, List.getElem_zipIdx, List.getElem_map, List.getElem_map, line_eq,
    Nat.zero_add, List.getElem_range]
  rfl

end

end TickSampling

end Horizon
