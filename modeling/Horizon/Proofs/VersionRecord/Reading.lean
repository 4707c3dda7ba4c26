/-
  Horizon.Proofs.VersionRecord.Reading
  ────────────────────────────────────
  **THE FIRST FAILURE DECIDES.**

  Storage is any state that answers readings.  NVer is read first, and CVer only behind a
  whole NVer; what comes of it is a matter of the two answers alone:

      NVer            CVer            outcome              read
      refused         --              that failure         NVer
      too short       --              its length           NVer
      whole           refused         that failure         NVer, CVer
      whole           too short       its length           NVer, CVer
      whole           whole           the first 8 bytes    NVer, CVer

  Main statements:

      readInOrder_settle   the table, for two answers
      run_readAll_noted    reading from any storage, in any state
      CodeTells.of_signed  what the sign of the result code says
-/
import Horizon.VersionRecord

namespace Horizon

/-! ## §1. One record. -/

namespace VersionBin

theorem bytes_inj {a b : VersionBin} : a.bytes = b.bytes ↔ a = b := by
  refine ⟨fun same => ?_, congrArg bytes⟩
  obtain ⟨a0, a1, a2, a3, a4, a5, a6, a7⟩ := a
  obtain ⟨b0, b1, b2, b3, b4, b5, b6, b7⟩ := b
  simpa [bytes] using same

theorem exists_eight_bytes {contents : List UInt8} (long : size ≤ contents.length) :
    ∃ b0 b1 b2 b3 b4 b5 b6 b7 rest,
      contents = b0 :: b1 :: b2 :: b3 :: b4 :: b5 :: b6 :: b7 :: rest := by
  match contents with
  | b0 :: b1 :: b2 :: b3 :: b4 :: b5 :: b6 :: b7 :: rest =>
      exact ⟨b0, b1, b2, b3, b4, b5, b6, b7, rest, rfl⟩
  | [] | [_] | [_, _] | [_, _, _] | [_, _, _, _] | [_, _, _, _, _] | [_, _, _, _, _, _]
  | [_, _, _, _, _, _, _] => simp [size] at long

/-- A record is its first eight bytes, whatever follows them. -/
theorem ofBytes?_eq_some_iff {contents : List UInt8} {bin : VersionBin} :
    ofBytes? contents = some bin ↔ size ≤ contents.length ∧ bin.bytes = contents.take size := by
  constructor
  · intro read
    unfold ofBytes? at read
    split at read
    · rw [← Option.some.inj read]
      exact ⟨by simp [size], rfl⟩
    · exact nomatch read
  · rintro ⟨long, first⟩
    obtain ⟨b0, b1, b2, b3, b4, b5, b6, b7, rest, rfl⟩ := exists_eight_bytes long
    have same : ⟨b0, b1, b2, b3, b4, (b5, b6, b7)⟩ = bin := bytes_inj.mp first.symm
    exact congrArg some same

theorem ofBytes?_eq_none_iff {contents : List UInt8} :
    ofBytes? contents = none ↔ contents.length < size := by
  cases read : ofBytes? contents with
  | some bin => exact ⟨nofun, fun short => absurd (ofBytes?_eq_some_iff.mp read).1 (by omega)⟩
  | none =>
      refine ⟨fun _ => Nat.lt_of_not_le fun long => ?_, fun _ => rfl⟩
      obtain ⟨b0, b1, b2, b3, b4, b5, b6, b7, rest, rfl⟩ := exists_eight_bytes long
      exact nomatch read

end VersionBin

namespace VersionStorage

/-- An answer of storage is long enough for a record. -/
def Whole : Except VersionError (List UInt8) → Prop
  | .ok contents => VersionBin.size ≤ contents.length
  | .error _ => False

instance : DecidablePred Whole
  | .ok contents => inferInstanceAs (Decidable (VersionBin.size ≤ contents.length))
  | .error _ => .isFalse id

/-- The record is the first eight bytes of the answer. -/
def Begins (bin : VersionBin) (answer : Except VersionError (List UInt8)) : Prop :=
  ∃ contents, answer = .ok contents ∧ bin.bytes = contents.take VersionBin.size

/-- A reading fails with the storage's own failure, or for the length of what it gave. -/
inductive Fails (record : VersionRecord) : Except VersionError (List UInt8) → VersionError → Prop
  | refused (error : VersionError) : Fails record (.error error) error
  | short {contents : List UInt8} (few : contents.length < VersionBin.size) :
    Fails record (.ok contents) (.shortRead record contents.length)

section

variable {record : VersionRecord} {answer : Except VersionError (List UInt8)}

theorem decode_of_some {contents : List UInt8} {bin : VersionBin}
    (read : VersionBin.ofBytes? contents = some bin) : decode record (.ok contents) = .ok bin := by
  simp only [decode, read]

theorem decode_of_none {contents : List UInt8} (read : VersionBin.ofBytes? contents = none) :
    decode record (.ok contents) = .error (.shortRead record contents.length) := by
  simp only [decode, read]

theorem decode_eq_ok_iff {bin : VersionBin} :
    decode record answer = .ok bin ↔ Whole answer ∧ Begins bin answer := by
  cases answer with
  | error e => exact ⟨nofun, fun h => h.1.elim⟩
  | ok contents =>
      constructor
      · intro decoded
        cases read : VersionBin.ofBytes? contents with
        | some other =>
            rw [decode_of_some read] at decoded
            obtain ⟨long, first⟩ := VersionBin.ofBytes?_eq_some_iff.mp read
            exact ⟨long, contents, rfl, Except.ok.inj decoded ▸ first⟩
        | none =>
            rw [decode_of_none read] at decoded
            exact nomatch decoded
      · rintro ⟨long, _, ⟨⟩, first⟩
        exact decode_of_some (VersionBin.ofBytes?_eq_some_iff.mpr ⟨long, first⟩)

theorem decode_eq_error_iff {error : VersionError} :
    decode record answer = .error error ↔ Fails record answer error := by
  constructor
  · intro failed
    cases answer with
    | error own =>
        rw [← Except.error.inj failed]
        exact .refused own
    | ok contents =>
        cases read : VersionBin.ofBytes? contents with
        | some bin =>
            rw [decode_of_some read] at failed
            exact nomatch failed
        | none =>
            rw [decode_of_none read] at failed
            rw [← Except.error.inj failed]
            exact .short (VersionBin.ofBytes?_eq_none_iff.mp read)
  · intro fails
    cases fails with
    | refused => rfl
    | short few => exact decode_of_none (VersionBin.ofBytes?_eq_none_iff.mpr few)

theorem Fails.not_whole {error : VersionError} (fails : Fails record answer error) :
    ¬Whole answer := by
  cases fails with
  | refused => exact id
  | short few => exact Nat.not_le_of_lt few

variable (record) in
theorem exists_decode_iff : (∃ bin, decode record answer = .ok bin) ↔ Whole answer := by
  constructor
  · intro ⟨bin, decoded⟩
    exact (decode_eq_ok_iff.mp decoded).1
  · intro whole
    cases decoded : decode record answer with
    | ok bin => exact ⟨bin, rfl⟩
    | error e => exact absurd whole (decode_eq_error_iff.mp decoded).not_whole

end

/-! ## §2. Both records. -/

/-- What two answers come to. -/
def settle (nver cver : Except VersionError (List UInt8)) :
    Except VersionError SystemVersionData := do
  let first ← decode .nver nver
  let second ← decode .cver cver
  pure ⟨first, second⟩

/-- The records that are read, by what NVer gives. -/
def recordsRead (nver : Except VersionError (List UInt8)) : List VersionRecord :=
  if Whole nver then [.nver, .cver] else [.nver]

section

variable {nver cver : Except VersionError (List UInt8)}

theorem settle_of_error {error : VersionError} (first : decode .nver nver = .error error) :
    settle nver cver = .error error := by
  rw [settle, first]
  rfl

theorem settle_of_ok {bin : VersionBin} (first : decode .nver nver = .ok bin) :
    settle nver cver = (decode .cver cver).map (⟨bin, ·⟩) := by
  rw [settle, first]
  cases decode .cver cver with
  | ok other => rfl
  | error e => rfl

theorem settle_eq_ok_iff {data : SystemVersionData} :
    settle nver cver = .ok data
      ↔ decode .nver nver = .ok data.nver ∧ decode .cver cver = .ok data.cver := by
  cases first : decode .nver nver with
  | error e =>
      rw [settle_of_error first]
      exact ⟨nofun, fun h => nomatch h.1⟩
  | ok bin =>
      rw [settle_of_ok first]
      obtain ⟨nverBin, cverBin⟩ := data
      cases decode .cver cver with
      | error e => simp [Except.map]
      | ok other => simp [Except.map]

theorem settle_eq_error_iff {error : VersionError} :
    settle nver cver = .error error
      ↔ decode .nver nver = .error error
        ∨ (∃ bin, decode .nver nver = .ok bin) ∧ decode .cver cver = .error error := by
  cases first : decode .nver nver with
  | error e =>
      rw [settle_of_error first]
      simp
  | ok bin =>
      rw [settle_of_ok first]
      cases decode .cver cver with
      | error e => simp [Except.map]
      | ok other => simp [Except.map]

/-- Behind a failure of NVer the other answer has no say. -/
theorem settle_of_not_whole (part : ¬Whole nver) (other : Except VersionError (List UInt8)) :
    settle nver cver = settle nver other := by
  cases first : decode .nver nver with
  | error e => rw [settle_of_error first, settle_of_error first]
  | ok bin => exact absurd (decode_eq_ok_iff.mp first).1 part

/-- **THE TABLE**: what comes of the answers for NVer and CVer, and which records are read
for it. -/
structure ReadInOrder (nver cver : Except VersionError (List UInt8))
    (outcome : Except VersionError SystemVersionData) (records : List VersionRecord) : Prop where
  /-- CVer is read behind a whole NVer, and nothing is read twice. -/
  records_eq : records = if Whole nver then [.nver, .cver] else [.nver]
  /-- Two whole records are a success. -/
  ok_iff : (∃ data, outcome = .ok data) ↔ Whole nver ∧ Whole cver
  /-- They are the first bytes of what storage holds. -/
  begins : ∀ data, outcome = .ok data → Begins data.nver nver ∧ Begins data.cver cver
  /-- The first record that fails decides. -/
  error_iff : ∀ error, outcome = .error error
    ↔ Fails .nver nver error ∨ Whole nver ∧ Fails .cver cver error

variable (nver cver) in
theorem readInOrder_settle : ReadInOrder nver cver (settle nver cver) (recordsRead nver) where
  records_eq := rfl
  ok_iff := by
    rw [← exists_decode_iff .nver, ← exists_decode_iff .cver]
    constructor
    · intro ⟨data, settled⟩
      obtain ⟨first, second⟩ := settle_eq_ok_iff.mp settled
      exact ⟨⟨data.nver, first⟩, data.cver, second⟩
    · intro ⟨⟨nverBin, first⟩, cverBin, second⟩
      exact ⟨⟨nverBin, cverBin⟩, settle_eq_ok_iff.mpr ⟨first, second⟩⟩
  begins data settled := by
    obtain ⟨first, second⟩ := settle_eq_ok_iff.mp settled
    exact ⟨(decode_eq_ok_iff.mp first).2, (decode_eq_ok_iff.mp second).2⟩
  error_iff error := by
    rw [settle_eq_error_iff, exists_decode_iff, decode_eq_error_iff, decode_eq_error_iff]

end

/-! ## §3. Any storage. -/

section

variable {m : Type → Type} [Monad m]

/-- The same storage with a list of the records that were read. -/
def noted (storage : VersionStorage m) : VersionStorage (StateT (List VersionRecord) m) where
  read record := do
    modify (· ++ [record])
    storage.read record

/-- CVer is asked for behind a whole NVer only. -/
theorem readAll_eq [LawfulMonad m] (storage : VersionStorage m) :
    storage.readAll = storage.read .nver >>= fun nver =>
      if Whole nver then storage.read .cver >>= fun cver => pure (settle nver cver)
      else pure (settle nver nver) := by
  simp only [readAll, readRecord, bind_assoc, pure_bind]
  refine congrArg (storage.read .nver >>= ·) (funext fun nver => ?_)
  cases first : decode .nver nver with
  | error e =>
      rw [if_neg (decode_eq_error_iff.mp first).not_whole, settle_of_error first]
  | ok bin =>
      rw [if_pos (decode_eq_ok_iff.mp first).1]
      refine congrArg (storage.read .cver >>= ·) (funext fun cver => ?_)
      rw [settle_of_ok first]
      cases decode .cver cver with
      | error e => rfl
      | ok other => rfl

end

section

variable {σ : Type} (storage : VersionStorage (StateM σ)) (state : σ)

/-- **READING FROM STORAGE** in a state: what it comes to, what is read for it and what state
it leaves. -/
theorem run_readAll_noted (notes : List VersionRecord) :
    (storage.noted.readAll.run notes).run state =
      let first := (storage.read .nver).run state
      let second := (storage.read .cver).run first.2
      ((settle first.1 second.1, notes ++ recordsRead first.1),
        if Whole first.1 then second.2 else first.2) := by
  unfold recordsRead
  rw [readAll_eq]
  show StateT.run (StateT.run (if Whole ((storage.read .nver).run state).1 then _ else _) _) _ = _
  by_cases whole : Whole ((storage.read .nver).run state).1
  · simp only [if_pos whole, List.append_cons notes .nver [.cver]]
    rfl
  · simp only [if_neg whole]
    rw [settle_of_not_whole whole ((storage.read .nver).run state).1]
    rfl

/-- Keeping the list changes nothing else. -/
theorem run_readAll :
    storage.readAll.run state =
      let first := (storage.read .nver).run state
      let second := (storage.read .cver).run first.2
      (settle first.1 second.1, if Whole first.1 then second.2 else first.2) := by
  rw [readAll_eq]
  show StateT.run (if Whole ((storage.read .nver).run state).1 then _ else _) _ = _
  by_cases whole : Whole ((storage.read .nver).run state).1
  · simp only [if_pos whole]
    rfl
  · simp only [if_neg whole]
    rw [settle_of_not_whole whole ((storage.read .nver).run state).1]
    rfl

end

end VersionStorage

/-! ## §4. The sign of the result code. -/

/-- Error numbers are positive, and the codes of the platform negative. -/
def VersionError.Signed : VersionError → Prop
  | .io _ errno => 0 < errno
  | .platform _ code => code.toInt < 0
  | .shortRead .. => True

instance : DecidablePred VersionError.Signed
  | .io _ errno => inferInstanceAs (Decidable (0 < errno))
  | .platform _ code => inferInstanceAs (Decidable (code.toInt < 0))
  | .shortRead .. => .isTrue trivial

/-- The sign of the result code tells a success, an error number and all else apart. -/
structure CodeTells {α : Type} (outcome : Except VersionError α) : Prop where
  zero_iff : versionResultCode outcome = 0 ↔ ∃ data, outcome = .ok data
  pos_iff : 0 < versionResultCode outcome ↔ ∃ record errno, outcome = .error (.io record errno)
  neg_iff : versionResultCode outcome < 0
    ↔ (∃ record code, outcome = .error (.platform record code))
      ∨ ∃ record length, outcome = .error (.shortRead record length)

theorem CodeTells.of_signed {α : Type} {outcome : Except VersionError α}
    (signed : ∀ error, outcome = .error error → error.Signed) : CodeTells outcome := by
  cases outcome with
  | ok data => exact ⟨by simp [versionResultCode], by simp [versionResultCode],
      by simp [versionResultCode]⟩
  | error e =>
      have sign := signed e rfl
      cases e with
      | io record errno =>
          have sign : 0 < errno := sign
          constructor <;> simp [versionResultCode, VersionError.raw] <;> omega
      | platform record code =>
          have sign : code.toInt < 0 := sign
          constructor <;> simp [versionResultCode, VersionError.raw] <;> omega
      | shortRead record length =>
          constructor <;> simp [versionResultCode, VersionError.raw, VersionError.shortReadCode]

/-- What fails for its length is signed, so storage's own errors decide. -/
theorem VersionStorage.ReadInOrder.codeTells {nver cver : Except VersionError (List UInt8)}
    {outcome : Except VersionError SystemVersionData} {records : List VersionRecord}
    (read : ReadInOrder nver cver outcome records)
    (own : ∀ error, nver = .error error ∨ cver = .error error → error.Signed) :
    CodeTells outcome := by
  refine CodeTells.of_signed fun error failed => ?_
  rcases (read.error_iff error).mp failed with fails | ⟨-, fails⟩
  · cases fails with
    | refused => exact own error (.inl rfl)
    | short few => exact trivial
  · cases fails with
    | refused => exact own error (.inr rfl)
    | short few => exact trivial

end Horizon
