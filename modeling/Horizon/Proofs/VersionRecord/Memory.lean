/-
  Horizon.Proofs.VersionRecord.Memory
  ───────────────────────────────────
  **RECORDS IN MEMORY AFTER ANY HISTORY.**

  Records in memory are overwritten, made to fail and read, in any order.  The contents of a
  record are those written last, the failure is the one injected last, and each reading of
  both adds its records to the list:

      call       contents        failure       list
      setRaw     of its record   kept          kept
      fail       kept            replaced      kept
      readAll    kept            kept          grows by NVer, or by NVer and CVer

  Main statements:

      run_readAll_access   one reading
      run_eq               a whole history
      fail_mem_of_answer   where the error of a reading comes from
-/
import Horizon.Proofs.History
import Horizon.Proofs.VersionRecord.Reading

namespace Horizon

namespace MemoryStorage

open VersionStorage

/-! ## §1. One reading. -/

theorem answer_eq_error_iff {storage : MemoryStorage} {record : VersionRecord}
    {error : VersionError} :
    storage.answer record = .error error
      ↔ storage.failure = some error ∧ error.record = record := by
  unfold answer
  cases storage.failure with
  | none => exact ⟨nofun, fun h => nomatch h.1⟩
  | some injected =>
      dsimp only
      split
      case isTrue own =>
        constructor
        · intro failed
          rw [← Except.error.inj failed]
          exact ⟨rfl, own⟩
        · intro failed
          rw [Option.some.inj failed.1]
      case isFalse other =>
        refine ⟨nofun, fun failed => ?_⟩
        rw [Option.some.inj failed.1] at other
        exact absurd failed.2 other

/-- A failure has no effect on the readings of any other record. -/
theorem answer_eq_contents {storage : MemoryStorage} {record : VersionRecord}
    (other : ∀ error, storage.failure = some error → error.record ≠ record) :
    storage.answer record = .ok (storage.contents record) := by
  unfold answer
  cases injected : storage.failure with
  | none => rfl
  | some error => exact if_neg (other error injected)

/-- **ONE READING** of both records: it comes to what their answers come to, and is noted. -/
theorem run_readAll_access (storage : MemoryStorage) :
    access.readAll.run storage
      = (settle (storage.answer .nver) (storage.answer .cver),
          { storage with reads := storage.reads ++ recordsRead (storage.answer .nver) }) := by
  rw [run_readAll]
  show (settle (storage.answer .nver) (storage.answer .cver),
    (if Whole (storage.answer .nver) then
        { storage with reads := storage.reads ++ [VersionRecord.nver] ++ [VersionRecord.cver] }
      else { storage with reads := storage.reads ++ [VersionRecord.nver] } : MemoryStorage)) = _
  unfold recordsRead
  by_cases whole : Whole (storage.answer .nver)
  · rw [if_pos whole, if_pos whole, List.append_assoc]
    rfl
  · rw [if_neg whole, if_neg whole]

/-! ## §2. Calls. -/

/-- One thing that is done with records in memory. -/
inductive Call where
  /-- A record is overwritten. -/
  | setRaw (record : VersionRecord) (bytes : List UInt8)
  /-- A failure is injected. -/
  | fail (error : VersionError)
  /-- Both records are read. -/
  | readAll
  deriving DecidableEq

/-- The storage after a call. -/
def perform (storage : MemoryStorage) : Call → MemoryStorage
  | .setRaw record bytes => storage.setRaw record bytes
  | .fail error => storage.fail error
  | .readAll => (access.readAll.run storage).2

/-- The storage after a history. -/
def run (storage : MemoryStorage) (history : List Call) : MemoryStorage :=
  history.foldl perform storage

/-- What the call writes to a record, where it does. -/
def Call.contents? (record : VersionRecord) : Call → Option (List UInt8)
  | .setRaw written bytes => if written = record then some bytes else none
  | .fail _ => none
  | .readAll => none

/-- The failure that the call injects, where it does. -/
def Call.failure? : Call → Option VersionError
  | .setRaw .. => none
  | .fail error => some error
  | .readAll => none

/-- The records that the call reads, where it is a reading. -/
def reading? (storage : MemoryStorage) : Call → Option (List VersionRecord)
  | .setRaw .. => none
  | .fail _ => none
  | .readAll => some (recordsRead (storage.answer .nver))

/-- The records that each reading of a history reads, one list for one reading. -/
def readings (storage : MemoryStorage) : List Call → List (List VersionRecord)
  | [] => []
  | call :: history => (storage.reading? call).toList ++ readings (storage.perform call) history

/-! ## §3. A history. -/

/-- **ONE CALL** is about contents, about the failure or about what is read. -/
theorem perform_eq (storage : MemoryStorage) (call : Call) :
    storage.perform call = {
      nver := (call.contents? .nver).getD storage.nver
      cver := (call.contents? .cver).getD storage.cver
      failure := call.failure?.or storage.failure
      reads := storage.reads ++ (storage.reading? call).toList.flatten } := by
  cases call with
  | setRaw record bytes =>
      cases record with
      | nver => simp [perform, setRaw, Call.contents?, Call.failure?, reading?]
      | cver => simp [perform, setRaw, Call.contents?, Call.failure?, reading?]
  | fail error => simp [perform, fail, Call.contents?, Call.failure?, reading?]
  | readAll => simp [perform, run_readAll_access, Call.contents?, Call.failure?, reading?]

/-- **A WHOLE HISTORY** leaves what was written last and injected last, and the list of all
readings. -/
theorem run_eq : ∀ (history : List Call) (storage : MemoryStorage),
    storage.run history = {
      nver := (last? (Call.contents? .nver) history).getD storage.nver
      cver := (last? (Call.contents? .cver) history).getD storage.cver
      failure := (last? Call.failure? history).or storage.failure
      reads := storage.reads ++ (storage.readings history).flatten } := by
  intro history
  induction history with
  | nil =>
      intro storage
      show storage = { storage with reads := storage.reads ++ [] }
      rw [List.append_nil]
  | cons call history ih =>
      intro storage
      show (storage.perform call).run history = _
      rw [ih, readings, List.flatten_append, ← List.append_assoc]
      simp only [last?_cons, Option.getD_or, Option.or_assoc]
      simp only [perform_eq]

theorem contents_run (storage : MemoryStorage) (history : List Call) (record : VersionRecord) :
    (storage.run history).contents record
      = (last? (Call.contents? record) history).getD (storage.contents record) := by
  rw [run_eq]
  cases record with
  | nver => rfl
  | cver => rfl

/-- Each reading reads NVer, and CVer behind it or nothing. -/
theorem eq_of_mem_readings : ∀ {history : List Call} {storage : MemoryStorage}
    {records : List VersionRecord}, records ∈ storage.readings history →
    records = [.nver] ∨ records = [.nver, .cver] := by
  intro history
  induction history with
  | nil => exact nofun
  | cons call history ih =>
      intro storage records read
      rcases List.mem_append.mp read with here | later
      · cases call with
        | setRaw record bytes => exact nomatch here
        | fail error => exact nomatch here
        | readAll =>
            rw [List.mem_singleton.mp here, recordsRead]
            split
            · exact .inr rfl
            · exact .inl rfl
      · exact ih later

theorem length_readings : ∀ (history : List Call) (storage : MemoryStorage),
    (storage.readings history).length = history.count .readAll := by
  intro history
  induction history with
  | nil => intro storage; rfl
  | cons call history ih =>
      intro storage
      rw [readings, List.length_append, ih, List.count_cons, Nat.add_comm]
      cases call with
      | setRaw record bytes => rfl
      | fail error => rfl
      | readAll => rfl

/-- An error that a reading gives was injected, now or earlier. -/
theorem fail_mem_of_answer {start : MemoryStorage} {history : List Call} {record : VersionRecord}
    {error : VersionError} (failed : (start.run history).answer record = .error error) :
    .fail error ∈ history ∨ start.failure = some error := by
  have injected := (answer_eq_error_iff.mp failed).1
  rw [run_eq] at injected
  cases last : last? Call.failure? history with
  | none =>
      rw [last] at injected
      exact .inr injected
  | some latest =>
      rw [last] at injected
      obtain ⟨call, called, injects⟩ := exists_mem_of_last?_eq_some last
      rw [← Option.some.inj injected]
      cases call with
      | fail error =>
          rw [← Option.some.inj injects]
          exact .inl called
      | setRaw record bytes => exact nomatch injects
      | readAll => exact nomatch injects

/-! ## §4. Any storage, and records in memory. -/

/-- **THE FIRST RECORD THAT FAILS DECIDES.**  Storage of any state gives for NVer what it has
for it, and then for CVer; the outcome, the records that are read and the state it is left in
follow from the two answers, and the sign of the code tells the outcome if the errors are
signed.

For records in memory this is so after any history: their contents are those written last,
the failure injected last reaches the readings of its own record and no others, and the list
of what was read is that of all readings so far, in order. -/
theorem first_failed_record_decides :
    (∀ (σ : Type) (storage : VersionStorage (StateM σ)) (state : σ) (notes : List VersionRecord),
      let first := (storage.read .nver).run state
      let second := (storage.read .cver).run first.2
      ∃ outcome records,
        storage.readAll.run state = (outcome, if Whole first.1 then second.2 else first.2)
        ∧ (storage.noted.readAll.run notes).run state
            = ((outcome, notes ++ records), if Whole first.1 then second.2 else first.2)
        ∧ ReadInOrder first.1 second.1 outcome records
        ∧ ((∀ error, first.1 = .error error ∨ second.1 = .error error → error.Signed) →
            CodeTells outcome))
    ∧ ∀ (start : MemoryStorage) (history : List Call),
      let storage := start.run history
      (∀ record, storage.contents record
        = (last? (Call.contents? record) history).getD (start.contents record))
      ∧ storage.failure = (last? Call.failure? history).or start.failure
      ∧ (∀ record error, storage.answer record = .error error
          ↔ storage.failure = some error ∧ error.record = record)
      ∧ (∀ record, (∀ error, storage.failure = some error → error.record ≠ record) →
          storage.answer record = .ok (storage.contents record))
      ∧ storage.reads = start.reads ++ (start.readings history).flatten
      ∧ (start.readings history).length = history.count .readAll
      ∧ (∀ records ∈ start.readings history, records = [.nver] ∨ records = [.nver, .cver])
      ∧ ∃ outcome records,
        access.readAll.run storage
          = (outcome, { storage with reads := storage.reads ++ records })
        ∧ ReadInOrder (storage.answer .nver) (storage.answer .cver) outcome records
        ∧ ((∀ error, .fail error ∈ history ∨ start.failure = some error → error.Signed) →
            CodeTells outcome) := by
  constructor
  · intro σ storage state notes first second
    have read := readInOrder_settle first.1 second.1
    exact ⟨settle first.1 second.1, recordsRead first.1, run_readAll storage state,
      run_readAll_noted storage state notes, read, read.codeTells⟩
  · intro start history storage
    have state := run_eq history start
    have read := readInOrder_settle (storage.answer .nver) (storage.answer .cver)
    refine ⟨contents_run start history, congrArg failure state, fun _ _ => answer_eq_error_iff,
      fun _ => answer_eq_contents, congrArg reads state, length_readings history start,
      fun _ => eq_of_mem_readings, _, _, run_readAll_access storage, read, fun signed => ?_⟩
    refine read.codeTells fun error failed => signed error ?_
    rcases failed with failed | failed
    · exact fail_mem_of_answer failed
    · exact fail_mem_of_answer failed

/-- NVer with two bytes too many, a reading, and then a failure of CVer: NVer is still read,
the next reading reads both records, and its code is negative. -/
theorem first_failed_record_decides_behind_long_nver :
    let start := ofBins {} {}
    let refusal := VersionError.platform .cver ⟨0xD8E007F7⟩
    let history := [.setRaw .nver [1, 2, 3, 4, 5, 6, 7, 8, 9, 10], .readAll, .fail refusal]
    let storage := start.run history
    ((∀ error, ((access.read .nver).run storage).1 = .error error
          ∨ ((access.read .cver).run ((access.read .nver).run storage).2).1 = .error error →
        error.Signed)
      ∧ CodeTells (access.readAll.run storage).1)
    ∧ ((∀ error, storage.failure = some error → error.record ≠ .nver)
      ∧ storage.answer .nver = .ok [1, 2, 3, 4, 5, 6, 7, 8, 9, 10])
    ∧ [.nver, .cver] ∈ start.readings history
    ∧ ((∀ error, .fail error ∈ history ∨ start.failure = some error → error.Signed)
      ∧ versionResultCode (access.readAll.run storage).1 < 0) := by
  intro start refusal history storage
  obtain ⟨ofAny, ofMemory⟩ := first_failed_record_decides
  obtain ⟨_, _, outcome, -, -, tells⟩ := ofAny MemoryStorage access storage []
  obtain ⟨-, -, -, others, -, -, -, _, _, again, -, tellsAgain⟩ := ofMemory start history
  have signed : refusal.Signed := by decide
  have own : ∀ error, ((access.read .nver).run storage).1 = .error error
      ∨ ((access.read .cver).run ((access.read .nver).run storage).2).1 = .error error →
      error.Signed := by
    rintro error (failed | failed)
    · exact nomatch failed
    · rw [← Except.error.inj failed]
      exact signed
  have other : ∀ error, storage.failure = some error → error.record ≠ .nver := by
    intro error injected
    rw [← Option.some.inj injected]
    decide
  have injections : ∀ error, .fail error ∈ history ∨ start.failure = some error →
      error.Signed := by
    rintro error (injected | injected)
    · rw [(by simpa [history] using injected : error = refusal)]
      exact signed
    · exact nomatch injected
  refine ⟨⟨own, ?_⟩, ⟨other, others .nver other⟩, List.mem_cons_self, injections, ?_⟩
  · rw [outcome]
    exact tells own
  · have refused : (access.readAll.run storage).1 = .error refusal := rfl
    rw [again] at refused ⊢
    exact (tellsAgain injections).neg_iff.mpr (.inl ⟨.cver, _, refused⟩)

end MemoryStorage

end Horizon
