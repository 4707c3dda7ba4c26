/-
  Horizon.Proofs.DateTime.Attempts
  ────────────────────────────────
  **ATTEMPTS TO READ THE ACTIVE RECORD.**

  The attempts of a reader are six reads each, one after another, until one is settled.
  What one of them returns is decided by the six moments at which it reads: if count and
  active record are the same at all of them, it returns that record.
-/
import Horizon.Proofs.DateTime.Publish
import Horizon.Proofs.DateTime.Reads

namespace Horizon

/-! ## §1. One attempt. -/

/-- Two words make up a 64-bit value in one way only. -/
theorem joinWords_inj {low high low' high' : UInt32}
    (same : Bus.joinWords low high = Bus.joinWords low' high') : low = low' ∧ high = high' := by
  have values := congrArg UInt64.toNat same
  rw [Bus.toNat_joinWords, Bus.toNat_joinWords] at values
  have := low.toNat_lt
  have := low'.toNat_lt
  exact ⟨UInt32.toNat_inj.mp (by omega), UInt32.toNat_inj.mp (by omega)⟩

/-- Two words that belong to the same 64-bit value are joined to that value, even if they
were read at different moments. -/
theorem joinWords_of_double {early late : Bus} {address : UInt32} {value : UInt64}
    (low : early.double address = value) (high : late.double address = value) :
    Bus.joinWords (early.word address) (late.word (address + 4)) = value := by
  have parts := joinWords_inj (low.trans high.symm)
  rw [← parts.2]
  exact low

namespace ReadAttempt

/-- **A QUIET ATTEMPT**: if count and active record are the same at all six reads, the
attempt is settled and returns that record. -/
theorem run_of_quiet {view : Nat → Bus} {selector : UInt32} {record : DateTimeRecord}
    (quiet : ∀ i < 6, (view i).selector = selector ∧ (view i).dateTime = record) :
    run view = ⟨selector, record, selector⟩ := by
  -- the record stays where the first read of the count found it
  have held (i : Nat) (hi : i < 6) : (view i).recordIn (recordAt selector) = record := by
    obtain ⟨count, active⟩ := quiet i hi
    rw [← count, ← Bus.dateTime_eq, active]
  have date (i : Nat) (hi : i < 6) : (view i).double (recordAt selector) = record.dateTime :=
    congrArg DateTimeRecord.dateTime (held i hi)
  have tick (i : Nat) (hi : i < 6) :
      (view i).double (recordAt selector + 8) = record.updateTick :=
    congrArg DateTimeRecord.updateTick (held i hi)
  rw [run_eq, (quiet 0 (by decide)).1, (quiet 5 (by decide)).1,
    joinWords_of_double (date 1 (by decide)) (date 2 (by decide)),
    joinWords_of_double (tick 3 (by decide)) (tick 4 (by decide))]

theorem settled_iff (attempt : ReadAttempt) :
    attempt.settled = true ↔ attempt.opening = attempt.closing := by
  rw [settled, beq_iff_eq]

end ReadAttempt

/-! ## §2. All attempts. -/

/-- The attempt that makes the reads from the `6 * j`-th on. -/
def attemptAt (view : Nat → Bus) (j : Nat) : ReadAttempt :=
  ReadAttempt.run fun i => view (i + 6 * j)

theorem attemptAt_later (view : Nat → Bus) (j : Nat) :
    attemptAt (fun i => view (i + 6)) j = attemptAt view (j + 1) := by
  have later (i : Nat) : i + 6 * j + 6 = i + 6 * (j + 1) := by omega
  simp only [attemptAt, later]

/-- The `j`-th attempt of a reader follows `j` others. -/
theorem eq_attemptAt_of_getElem? {view : Nat → Bus} {fuel j : Nat} {attempt : ReadAttempt}
    (found : (readAttempts view fuel)[j]? = some attempt) : attempt = attemptAt view j := by
  induction fuel generalizing view j with
  | zero => exact nomatch found
  | succ fuel ih =>
      rw [readAttempts_succ] at found
      split at found
      next settled =>
        cases j with
        | zero => exact (Option.some.inj found).symm
        | succ j => simp at found
      next unsettled =>
        cases j with
        | zero => exact (Option.some.inj found).symm
        | succ j => exact (ih found).trans (attemptAt_later view j)

/-- The last attempt of a reader follows all others. -/
theorem eq_attemptAt_of_getLast? {view : Nat → Bus} {fuel : Nat} {attempt : ReadAttempt}
    (last : (readAttempts view fuel).getLast? = some attempt) :
    attempt = attemptAt view ((readAttempts view fuel).length - 1) := by
  rw [List.getLast?_eq_getElem?] at last
  exact eq_attemptAt_of_getElem? last

/-- **WHERE THE LOOP ENDS**: with fuel enough, the attempts are those up to the first that
is settled. -/
theorem readAttempts_eq {view : Nat → Bus} {k fuel : Nat} (enough : k < fuel)
    (unsettled : ∀ j < k, (attemptAt view j).settled = false)
    (settled : (attemptAt view k).settled = true) :
    readAttempts view fuel = (List.range (k + 1)).map (attemptAt view) := by
  induction k generalizing view fuel with
  | zero =>
      obtain ⟨fuel, rfl⟩ := Nat.exists_eq_add_of_lt enough
      rw [Nat.zero_add, readAttempts_succ]
      exact if_pos settled
  | succ k ih =>
      -- from the second attempt on it is the same reader six reads later
      obtain ⟨fuel, rfl⟩ := Nat.exists_eq_add_of_lt enough
      have first : (ReadAttempt.run view).settled = false := unsettled 0 (Nat.succ_pos k)
      have rest := @ih (fun i => view (i + 6)) (k + 1 + fuel) (by omega)
        (fun j hj => by rw [attemptAt_later]; exact unsettled (j + 1) (by omega))
        (by rw [attemptAt_later]; exact settled)
      rw [readAttempts_succ, List.range_succ_eq_map, List.map_cons, List.map_map]
      simp only [first, Bool.false_eq_true, if_false, rest]
      exact congrArg (_ :: ·) (List.map_congr_left fun j _ => attemptAt_later view j)

end Horizon
