/-
  Horizon.Proofs.DateTime.Reads
  ─────────────────────────────
  **WHICH WORDS A READER READS.**

  An attempt is six reads, one after another.  Where the four in the middle go is decided
  by the count that the first one returns, with `r` the record it selects:

      read       0        1    2       3       4        5
      address    count    r    r + 4   r + 8   r + 12   count

  The notes of a reader are thus those of its attempts, and its `j`-th attempt begins with
  the read `6 * j`.

  Main statements:

      run_read               what one attempt returns and notes
      run_readUntilSettled   a reader that goes on after other reads
      readAttempts_succ      the first attempt and the others
      readAddresses_eq       the notes of all attempts
-/
import Horizon.DateTime

namespace Horizon

open Registers

/-! ## §1. One attempt. -/

/-- The addresses an attempt goes to, by the count it finds. -/
def attemptAddresses (opening : UInt32) : List UInt32 :=
  let address := recordAt opening
  [selectorAt, address, address + 4, address + 8, address + 12, selectorAt]

theorem length_attemptAddresses (opening : UInt32) : (attemptAddresses opening).length = 6 := rfl

/-- Reading notes the address and returns the word that is there by then. -/
theorem run_notedWord (view : Nat → Bus) (address : UInt32) (notes : List UInt32) :
    (notedWord view address).run notes
      = pure ((view notes.length).word address, notes ++ [address]) := rfl

theorem run_readDouble (view : Nat → Bus) (address : UInt32) (notes : List UInt32) :
    (readDouble (notedWord view) address).run notes
      = pure (Bus.joinWords ((view notes.length).word address)
          ((view (notes.length + 1)).word (address + 4)),
        notes ++ [address, address + 4]) := by
  simp [readDouble, run_notedWord]

namespace ReadAttempt

/-- What an attempt returns, word by word. -/
theorem run_eq (view : Nat → Bus) :
    run view =
      { opening := (view 0).selector
        record :=
          { dateTime := Bus.joinWords ((view 1).word (recordAt (view 0).selector))
              ((view 2).word (recordAt (view 0).selector + 4))
            updateTick := Bus.joinWords ((view 3).word (recordAt (view 0).selector + 8))
              ((view 4).word (recordAt (view 0).selector + 8 + 4)) }
        closing := (view 5).selector } := rfl

/-- **ONE ATTEMPT**: after any other reads it notes its own six addresses and returns what
it finds there. -/
theorem run_read (view : Nat → Bus) (notes : List UInt32) :
    let attempt := run fun i => view (i + notes.length)
    (read (notedWord view)).run notes
      = pure (attempt, notes ++ attemptAddresses attempt.opening) := by
  simp [read, run_notedWord, run_readDouble, run_eq, attemptAddresses, Bus.selector,
    Nat.add_comm _ notes.length, Nat.add_assoc, UInt32.add_assoc]

end ReadAttempt

/-! ## §2. All attempts. -/

/-- A reader that is not at its end makes an attempt, and goes on unless that is settled. -/
theorem run_readUntilSettled_succ (view : Nat → Bus) (fuel : Nat) (notes : List UInt32) :
    let attempt := ReadAttempt.run fun i => view (i + notes.length)
    let noted := notes ++ attemptAddresses attempt.opening
    (readUntilSettled (notedWord view) (fuel + 1)).run notes
      = if attempt.settled then pure ([attempt], noted)
        else do
          let (rest, noted) ← (readUntilSettled (notedWord view) fuel).run noted
          return (attempt :: rest, noted) := by
  intro attempt noted
  rw [readUntilSettled, StateT.run_bind, ReadAttempt.run_read, pure_bind]
  by_cases settled : attempt.settled = true
  · rw [if_pos settled, if_pos settled]
    rfl
  · rw [if_neg settled, if_neg settled]
    rfl

/-- The same for a reader that has read nothing before. -/
theorem run_readUntilSettled_first (view : Nat → Bus) (fuel : Nat) :
    let attempt := ReadAttempt.run view
    let noted := attemptAddresses attempt.opening
    (readUntilSettled (notedWord view) (fuel + 1)).run []
      = if attempt.settled then pure ([attempt], noted)
        else do
          let (rest, noted) ← (readUntilSettled (notedWord view) fuel).run noted
          return (attempt :: rest, noted) :=
  run_readUntilSettled_succ view fuel []

/-- **A READER THAT GOES ON AFTER OTHER READS** makes the attempts of one that begins with
the reads still to come, and adds the notes of that one to its own. -/
theorem run_readUntilSettled (view : Nat → Bus) (fuel : Nat) (notes : List UInt32) :
    (readUntilSettled (notedWord view) fuel).run notes
      = pure (readAttempts (fun i => view (i + notes.length)) fuel,
          notes ++ readAddresses (fun i => view (i + notes.length)) fuel) := by
  induction fuel generalizing view notes with
  | zero =>
      have none : readAddresses (fun i => view (i + notes.length)) 0 = [] := rfl
      rw [none, List.append_nil]
      rfl
  | succ fuel ih =>
      -- both readers make the same attempt first; what follows it is the same reader again
      rw [readAttempts, readAddresses, run_readUntilSettled_succ, run_readUntilSettled_first]
      split
      · rfl
      · rw [ih, ih, List.length_append, length_attemptAddresses]
        simp only [pure_bind, Nat.add_comm notes.length, ← Nat.add_assoc, List.append_assoc]
        rfl

/-- The first attempt of a reader, and the others unless it is settled. -/
theorem readAttempts_succ (view : Nat → Bus) (fuel : Nat) :
    readAttempts view (fuel + 1)
      = if (ReadAttempt.run view).settled then [ReadAttempt.run view]
        else ReadAttempt.run view :: readAttempts (fun i => view (i + 6)) fuel := by
  rw [readAttempts, run_readUntilSettled_first]
  split
  · rfl
  · rw [run_readUntilSettled, length_attemptAddresses]
    rfl

/-- The notes of a reader are those of its attempts, one after another. -/
theorem readAddresses_eq (view : Nat → Bus) (fuel : Nat) :
    readAddresses view fuel
      = (readAttempts view fuel).flatMap fun attempt => attemptAddresses attempt.opening := by
  induction fuel generalizing view with
  | zero => rfl
  | succ fuel ih =>
      rw [readAttempts_succ, readAddresses, run_readUntilSettled_first]
      split
      · rw [List.flatMap_singleton]
        rfl
      · rw [run_readUntilSettled, length_attemptAddresses, List.flatMap_cons, ← ih]
        rfl

/-- Every attempt takes six reads. -/
theorem length_readAddresses (view : Nat → Bus) (fuel : Nat) :
    (readAddresses view fuel).length = 6 * (readAttempts view fuel).length := by
  rw [readAddresses_eq, List.length_flatMap]
  simp only [length_attemptAddresses, List.map_const', List.sum_replicate_nat, Nat.mul_comm]

end Horizon
