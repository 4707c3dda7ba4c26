/-
  Horizon.Proofs.DateTime.Race
  ────────────────────────────
  **A READER AMONG SCHEDULED PUBLISHES.**

  The `k`-th attempt of a reader makes the reads `6k - 5` to `6k`.  A publish right after
  one of the first five changes the count before the attempt's last read; one right after
  the sixth comes too late to be seen.  So the loop ends at the first attempt that is
  quiet:

      read      6k-5   6k-4   6k-3   6k-2   6k-1   6k
                count   ·      ·      ·      ·     count
      publish        ↑      ↑      ↑      ↑      ↑        (unseen)

  Every attempt that is not quiet takes a publish of its own from the schedule, so there is
  a quiet one among the first `1 + schedule.length`.

  Main statement: `race_ends_at_first_quiet_attempt`.
-/
import Mathlib.Data.Nat.Find
import Horizon.Proofs.DateTime.Attempts

namespace Horizon

open Registers

/-! ## §1. What has been published. -/

/-- The number of publishes scheduled right after one of the reads from `first` to `last`. -/
def publishesWithin (schedule : List ScheduledPublish) (first last : Nat) : Nat :=
  schedule.countP fun publish => first ≤ publish.after && publish.after ≤ last

/-- The records published by the first so many reads, in the order of the reads and, at one
read, of the schedule. -/
def publishedBy (schedule : List ScheduledPublish) (reads : Nat) : List DateTimeRecord :=
  (List.range reads).flatMap fun i =>
    (schedule.filter (·.after == i + 1)).map (·.record)

theorem publishesWithin_append (schedule : List ScheduledPublish) (first middle last : Nat)
    (low : first ≤ middle + 1) (high : middle ≤ last) :
    publishesWithin schedule first last
      = publishesWithin schedule first middle + publishesWithin schedule (middle + 1) last := by
  induction schedule with
  | nil => rfl
  | cons publish schedule ih =>
      simp only [publishesWithin, List.countP_cons, Bool.and_eq_true, decide_eq_true_eq] at ih ⊢
      rw [ih]
      split <;> split <;> split <;> omega

theorem publishesWithin_le_length (schedule : List ScheduledPublish) (first last : Nat) :
    publishesWithin schedule first last ≤ schedule.length :=
  List.countP_le_length

theorem publishedBy_succ (schedule : List ScheduledPublish) (reads : Nat) :
    publishedBy schedule (reads + 1)
      = publishedBy schedule reads
        ++ (schedule.filter (·.after == reads + 1)).map (·.record) := by
  simp only [publishedBy, List.range_succ, List.flatMap_append, List.flatMap_singleton]

theorem length_publishedBy (schedule : List ScheduledPublish) (reads : Nat) :
    (publishedBy schedule reads).length = publishesWithin schedule 1 reads := by
  induction reads with
  | zero =>
      have none : publishesWithin schedule 1 0 = 0 := by
        rw [publishesWithin, List.countP_eq_zero]
        intro publish _
        simp only [Bool.and_eq_true, decide_eq_true_eq]
        omega
      rw [none]
      rfl
  | succ reads ih =>
      have here : (schedule.filter (·.after == reads + 1)).length
          = publishesWithin schedule (reads + 1) (reads + 1) := by
        rw [publishesWithin, List.countP_eq_length_filter]
        congr 2
        funext publish
        rw [Bool.eq_iff_iff, beq_iff_eq, Bool.and_eq_true, decide_eq_true_eq, decide_eq_true_eq]
        omega
      rw [publishedBy_succ, List.length_append, List.length_map, ih, here]
      exact (publishesWithin_append schedule 1 reads (reads + 1) (by omega) (by omega)).symm

/-- The image after so many reads is the image after the publishes due by then. -/
theorem afterReads_eq (image : Image) (schedule : List ScheduledPublish) (reads : Nat) :
    image.afterReads schedule reads = image.publishAll (publishedBy schedule reads) := by
  induction reads with
  | zero => rfl
  | succ reads ih =>
      rw [Image.afterReads, ih, publishedBy_succ, Image.publishAll, Image.publishAll,
        Image.publishAll, List.foldl_append]

theorem selector_afterReads (image : Image) (schedule : List ScheduledPublish) (reads : Nat) :
    (image.afterReads schedule reads).bus.selector
      = image.bus.selector + UInt32.ofNat (publishesWithin schedule 1 reads) := by
  rw [afterReads_eq, Image.selector_publishAll, length_publishedBy]

/-! ## §2. Quiet attempts. -/

/-- No publish falls between the first and the last read of the `k`-th attempt, counted
from 1. -/
def Quiet (schedule : List ScheduledPublish) (k : Nat) : Prop :=
  ∀ publish ∈ schedule, ¬(6 * k - 5 ≤ publish.after ∧ publish.after ≤ 6 * k - 1)

instance (schedule : List ScheduledPublish) (k : Nat) : Decidable (Quiet schedule k) := by
  unfold Quiet
  infer_instance

theorem quiet_iff (schedule : List ScheduledPublish) (k : Nat) :
    Quiet schedule k ↔ publishesWithin schedule (6 * k - 5) (6 * k - 1) = 0 := by
  simp only [Quiet, publishesWithin, List.countP_eq_zero, Bool.and_eq_true, decide_eq_true_eq]

/-- Attempts that are not quiet take different publishes. -/
theorem le_publishesWithin_of_not_quiet (schedule : List ScheduledPublish) (k : Nat)
    (loud : ∀ j, 1 ≤ j → j ≤ k → ¬Quiet schedule j) :
    k ≤ publishesWithin schedule 1 (6 * k) := by
  induction k with
  | zero => exact Nat.zero_le _
  | succ k ih =>
      have before := ih fun j low high => loud j low (by omega)
      have here : publishesWithin schedule (6 * k + 1) (6 * k + 5) ≠ 0 := fun none =>
        loud (k + 1) (by omega) le_rfl ((quiet_iff schedule (k + 1)).mpr none)
      have first := publishesWithin_append schedule 1 (6 * k) (6 * (k + 1)) (by omega) (by omega)
      have second := publishesWithin_append schedule (6 * k + 1) (6 * k + 5) (6 * (k + 1))
        (by omega) (by omega)
      omega

/-- There is a first quiet attempt, and at most one attempt more than there are publishes. -/
theorem exists_first_quiet (schedule : List ScheduledPublish) :
    ∃ k, 1 ≤ k ∧ Quiet schedule k ∧ (∀ j, 1 ≤ j → j < k → ¬Quiet schedule j)
      ∧ k ≤ 1 + schedule.length := by
  -- each attempt that is not quiet uses up a publish of its own
  have some_quiet : ∃ k, 1 ≤ k ∧ Quiet schedule k := by
    by_contra none
    have many := le_publishesWithin_of_not_quiet schedule (schedule.length + 1)
      fun j low _ quiet => none ⟨j, low, quiet⟩
    have := publishesWithin_le_length schedule 1 (6 * (schedule.length + 1))
    omega
  obtain ⟨low, quiet⟩ := Nat.find_spec some_quiet
  have least : ∀ j, 1 ≤ j → j < Nat.find some_quiet → ¬Quiet schedule j :=
    fun j low early quiet => Nat.find_min some_quiet early ⟨low, quiet⟩
  refine ⟨Nat.find some_quiet, low, quiet, least, ?_⟩
  have many := le_publishesWithin_of_not_quiet schedule (Nat.find some_quiet - 1)
    fun j low high => least j low (by omega)
  have := publishesWithin_le_length schedule 1 (6 * (Nat.find some_quiet - 1))
  omega

/-! ## §3. Attempts among publishes. -/

section Attempts

variable (image : Image) (schedule : List ScheduledPublish)

/-- The bus at each read of a reader among the publishes. -/
def raceView (reads : Nat) : Bus := (image.afterReads schedule reads).bus

/-- Within a quiet attempt nothing is published. -/
theorem afterReads_of_quiet {k i : Nat} (quiet : Quiet schedule (k + 1)) (hi : i ≤ 5) :
    image.afterReads schedule (i + 6 * k) = image.afterReads schedule (6 * k) := by
  induction i with
  | zero => rw [Nat.zero_add]
  | succ i ih =>
      have none : schedule.filter (·.after == i + 6 * k + 1) = [] := by
        rw [List.filter_eq_nil_iff]
        intro publish member now
        rw [beq_iff_eq] at now
        exact quiet publish member ⟨by omega, by omega⟩
      rw [← ih (by omega), show i + 1 + 6 * k = i + 6 * k + 1 by omega, Image.afterReads, none]
      rfl

/-- A quiet attempt is settled and returns the record that is active when it begins. -/
theorem attemptAt_of_quiet {k : Nat} (quiet : Quiet schedule (k + 1)) :
    attemptAt (raceView image schedule) k
      = ⟨(raceView image schedule (6 * k)).selector,
          (raceView image schedule (6 * k)).dateTime,
          (raceView image schedule (6 * k)).selector⟩ := by
  refine ReadAttempt.run_of_quiet fun i hi => ?_
  rw [raceView, afterReads_of_quiet image schedule quiet (by omega)]
  exact ⟨rfl, rfl⟩

/-- An attempt that is not quiet, with fewer than 2^32 publishes in it, is not settled. -/
theorem not_settled_of_not_quiet {k : Nat} (loud : ¬Quiet schedule (k + 1))
    (few : publishesWithin schedule (6 * k + 1) (6 * k + 5) < 2 ^ 32) :
    (attemptAt (raceView image schedule) k).settled = false := by
  have some_publish : publishesWithin schedule (6 * k + 1) (6 * k + 5) ≠ 0 := fun none =>
    loud ((quiet_iff schedule (k + 1)).mpr none)
  have count := publishesWithin_append schedule 1 (6 * k) (5 + 6 * k) (by omega) (by omega)
  -- a settled attempt would have seen the count go all the way round
  rw [Bool.eq_false_iff]
  intro settled
  have same : (raceView image schedule (0 + 6 * k)).selector
      = (raceView image schedule (5 + 6 * k)).selector :=
    (ReadAttempt.settled_iff _).mp settled
  rw [raceView, raceView, selector_afterReads, selector_afterReads, UInt32.add_right_inj,
    ← UInt32.toNat_inj, UInt32.toNat_ofNat', UInt32.toNat_ofNat', Nat.zero_add, count,
    Nat.add_comm 5] at same
  omega

/-- The addresses of the reads of the attempt after `k` others, where the record goes by
the parity of the initial count and of the publishes so far. -/
def raceAddresses (k : Nat) : List UInt32 :=
  let parity := (image.bus.selector.toNat + publishesWithin schedule 1 (6 * k)) % 2
  let address := if parity = 0 then evenRecordAt else oddRecordAt
  [selectorAt, address, address + 4, address + 8, address + 12, selectorAt]

theorem attemptAddresses_attemptAt (k : Nat) :
    attemptAddresses (attemptAt (raceView image schedule) k).opening
      = raceAddresses image schedule k := by
  have opening : (attemptAt (raceView image schedule) k).opening
      = image.bus.selector + UInt32.ofNat (publishesWithin schedule 1 (6 * k)) := by
    show (raceView image schedule (0 + 6 * k)).selector = _
    rw [Nat.zero_add, raceView, selector_afterReads]
  have parity : (image.bus.selector
        + UInt32.ofNat (publishesWithin schedule 1 (6 * k))).toNat % 2
      = (image.bus.selector.toNat + publishesWithin schedule 1 (6 * k)) % 2 := by
    rw [UInt32.toNat_add, UInt32.toNat_ofNat']
    omega
  rw [attemptAddresses, raceAddresses, opening, recordAt_eq, parity]

/-- A reader that makes `k` attempts goes to the addresses of each of them in turn. -/
theorem readAddresses_of_attempts {fuel k : Nat}
    (attempts : readAttempts (raceView image schedule) fuel
      = (List.range k).map (attemptAt (raceView image schedule))) :
    readAddresses (raceView image schedule) fuel
      = (List.range k).flatMap (raceAddresses image schedule) := by
  rw [readAddresses_eq, attempts, List.flatMap_map]
  simp only [attemptAddresses_attemptAt]

/-! ## §4. The end of the race. -/

/-- What a race comes to goes by its last attempt and by the reads that were noted. -/
theorem race_eq {last : ReadAttempt}
    (final : (readAttempts (raceView image schedule) (schedule.length + 1)).getLast?
      = some last) :
    image.race schedule = some
      { record := last.record
        trace := readAddresses (raceView image schedule) (schedule.length + 1)
        image := image.afterReads schedule
          (readAddresses (raceView image schedule) (schedule.length + 1)).length } := by
  unfold raceView at final ⊢
  rw [Image.race, final]

/-- **THE RETRY LOOP ENDS AT THE FIRST QUIET ATTEMPT**: whatever finite schedule of
publishes races with the reader, it stops after the first attempt without a publish inside,
the `k`-th, and has then noted exactly `6 * k` reads, at the addresses that the parity of
the count gives for each attempt.  It returns the record that the count selected when the
last attempt began, which is the one published last by then.  A publish right after the
very last read is carried out and not seen. -/
theorem race_ends_at_first_quiet_attempt
    (few : ∀ k, 1 ≤ k → publishesWithin schedule (6 * k - 5) (6 * k - 1) < 2 ^ 32) :
    ∃ k, 1 ≤ k ∧ Quiet schedule k ∧ (∀ j, 1 ≤ j → j < k → ¬Quiet schedule j)
      ∧ k ≤ 1 + schedule.length
      ∧ (∀ fuel, k ≤ fuel →
          readAttempts (raceView image schedule) fuel
              = (List.range k).map (attemptAt (raceView image schedule))
            ∧ readAddresses (raceView image schedule) fuel
              = (List.range k).flatMap (raceAddresses image schedule))
      ∧ (∀ j < k, (attemptAt (raceView image schedule) j).settled = true ↔ j + 1 = k)
      ∧ ∃ outcome, image.race schedule = some outcome
        ∧ outcome.trace.length = 6 * k
        ∧ outcome.trace = (List.range k).flatMap (raceAddresses image schedule)
        ∧ (let seen := (image.publishAll (publishedBy schedule (6 * (k - 1)))).bus
          outcome.record = seen.recordIn (recordAt seen.selector))
        ∧ outcome.record = (publishedBy schedule (6 * (k - 1))).getLast?.getD
            (image.bus.recordIn (recordAt image.bus.selector))
        ∧ outcome.image = image.publishAll (publishedBy schedule (6 * k)) := by
  obtain ⟨k, low, quiet, least, high⟩ := exists_first_quiet schedule
  obtain ⟨last, rfl⟩ := Nat.exists_eq_add_of_le' low
  have result := attemptAt_of_quiet image schedule quiet
  have settled : (attemptAt (raceView image schedule) last).settled = true := by
    rw [result]
    exact beq_self_eq_true _
  have unsettled (j : Nat) (hj : j < last) :
      (attemptAt (raceView image schedule) j).settled = false :=
    not_settled_of_not_quiet image schedule (least (j + 1) (by omega) (by omega))
      (few (j + 1) (by omega))
  have attempts (fuel : Nat) (enough : last + 1 ≤ fuel) :
      readAttempts (raceView image schedule) fuel
        = (List.range (last + 1)).map (attemptAt (raceView image schedule)) :=
    readAttempts_eq enough unsettled settled
  have addresses (fuel : Nat) (enough : last + 1 ≤ fuel) :=
    readAddresses_of_attempts image schedule (attempts fuel enough)
  -- the fuel of the race is enough, so what it comes to goes by these attempts
  have run := attempts (schedule.length + 1) (by omega)
  have final : (readAttempts (raceView image schedule) (schedule.length + 1)).getLast?
      = some (attemptAt (raceView image schedule) last) := by
    rw [run, List.range_succ, List.map_append, List.getLast?_append]
    rfl
  have reads : (readAddresses (raceView image schedule) (schedule.length + 1)).length
      = 6 * (last + 1) := by
    rw [length_readAddresses, run, List.length_map, List.length_range]
  have record : (attemptAt (raceView image schedule) last).record
      = (image.publishAll (publishedBy schedule (6 * last))).bus.dateTime := by
    rw [result, ← afterReads_eq]
    rfl
  refine ⟨last + 1, low, quiet, least, high,
    fun fuel enough => ⟨attempts fuel enough, addresses fuel enough⟩, ?_,
    _, race_eq image schedule final, reads, addresses _ (by omega), ?_, ?_, ?_⟩
  · intro j hj
    constructor
    · intro done
      by_contra early
      exact absurd done (by rw [unsettled j (by omega)]; decide)
    · intro same
      rw [show j = last by omega]
      exact settled
  · exact record.trans (Bus.dateTime_eq _)
  · rw [← Bus.dateTime_eq]
    exact record.trans (image.dateTime_publishAll _)
  · show image.afterReads schedule _ = _
    rw [reads, afterReads_eq]

end Attempts

/-- Publishes at the very end of the first two attempts, and one right after the last read
of the third, which is not seen. -/
theorem race_ends_at_first_quiet_attempt_the_third :
    (∀ k, 1 ≤ k → publishesWithin [⟨5, ⟨100, 1⟩⟩, ⟨11, ⟨200, 2⟩⟩, ⟨18, ⟨300, 3⟩⟩]
        (6 * k - 5) (6 * k - 1) < 2 ^ 32)
      ∧ ∃ outcome,
        Image.empty.race [⟨5, ⟨100, 1⟩⟩, ⟨11, ⟨200, 2⟩⟩, ⟨18, ⟨300, 3⟩⟩] = some outcome
        ∧ outcome.record = ⟨200, 2⟩
        ∧ outcome.trace =
          [selectorAt, evenRecordAt, evenRecordAt + 4, evenRecordAt + 8, evenRecordAt + 12,
            selectorAt,
            selectorAt, oddRecordAt, oddRecordAt + 4, oddRecordAt + 8, oddRecordAt + 12,
            selectorAt,
            selectorAt, evenRecordAt, evenRecordAt + 4, evenRecordAt + 8, evenRecordAt + 12,
            selectorAt]
        ∧ outcome.image.bus.selector = 3 := by
  have blank : Image.empty.bus.selector = 0 := Image.word_empty _
  have few (k : Nat) (_ : 1 ≤ k) :
      publishesWithin [⟨5, ⟨100, 1⟩⟩, ⟨11, ⟨200, 2⟩⟩, ⟨18, ⟨300, 3⟩⟩] (6 * k - 5) (6 * k - 1)
        < 2 ^ 32 :=
    Nat.lt_of_le_of_lt (publishesWithin_le_length _ _ _) (by decide)
  obtain ⟨k, low, quiet, least, -, -, -, outcome, race, -, trace, -, record, image⟩ :=
    race_ends_at_first_quiet_attempt .empty
      [⟨5, ⟨100, 1⟩⟩, ⟨11, ⟨200, 2⟩⟩, ⟨18, ⟨300, 3⟩⟩] few
  have third : k = 3 := by
    rcases Nat.lt_trichotomy k 3 with before | same | behind
    · have : k = 1 ∨ k = 2 := by omega
      rcases this with rfl | rfl <;> exact absurd quiet (by decide)
    · exact same
    · exact absurd (least 3 (by decide) behind) (by decide)
  subst third
  refine ⟨few, outcome, race, record, ?_, ?_⟩
  · rw [trace, show List.range 3 = [0, 1, 2] from rfl]
    simp only [List.flatMap_cons, List.flatMap_nil, raceAddresses, blank]
    rfl
  · rw [image, Image.selector_publishAll, blank]
    rfl

end Horizon
