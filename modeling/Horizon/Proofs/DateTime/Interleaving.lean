/-
  Horizon.Proofs.DateTime.Interleaving
  ────────────────────────────────────
  **A READER AMONG THE STEPS OF A WRITER.**

  The writer publishes one record after another, each in four steps that may lie
  arbitrarily far apart, and may stop anywhere for good.  The reader's reads fall between
  these steps in any way that keeps the order of both:

      idle ─count read→ chosen ─date→ dated ─tick→ ticked ─count written→ idle

  Whatever the writer has done, the active record is the last one whose count was written
  and the count says how many there were (`Writer.Sound`, kept by every step).  An attempt
  whose two counts agree has therefore seen no count written, hence one and the same active
  record at each of its reads.

  Main statement: `settled_attempt_returns_committed_record`.
-/
import Horizon.Proofs.DateTime.Attempts

namespace Horizon

/-! ## §1. The writer. -/

/-- Where the writer stands within a publish; `next` is the count it is going to write. -/
inductive Phase where
  /-- Between two publishes. -/
  | idle
  /-- The count has been read. -/
  | chosen (record : DateTimeRecord) (next : UInt32)
  /-- The date has been written. -/
  | dated (record : DateTimeRecord) (next : UInt32)
  /-- The tick has been written. -/
  | ticked (record : DateTimeRecord) (next : UInt32)

/-- A writer at work. -/
structure Writer where
  /-- The memory it shares with the reader. -/
  image : Image
  /-- Where it stands. -/
  phase : Phase
  /-- The records whose count has been written, in order. -/
  committed : List DateTimeRecord
  /-- The records that it has not begun to publish, in order. -/
  waiting : List DateTimeRecord

namespace Writer

/-- A writer that is going to publish the records. -/
def start (image : Image) (records : List DateTimeRecord) : Writer :=
  ⟨image, .idle, [], records⟩

/-- One step of the writer; it rests when nothing is waiting. -/
def step (w : Writer) : Writer :=
  match w.phase with
  | .idle =>
    match w.waiting with
    | [] => w
    | record :: rest =>
      { w with phase := .chosen record (w.image.bus.selector + 1), waiting := rest }
  | .chosen record next =>
    { w with phase := .dated record next, image := w.image.storeDate next record }
  | .dated record next =>
    { w with phase := .ticked record next, image := w.image.storeTick next record }
  | .ticked record next =>
    { w with
      phase := .idle
      image := w.image.activate next
      committed := w.committed ++ [record] }

/-- The writer after so many steps. -/
def after (w : Writer) : Nat → Writer
  | 0 => w
  | steps + 1 => (w.after steps).step

/-- Four steps of a resting writer are one publish. -/
theorem after_four (image : Image) (committed rest : List DateTimeRecord)
    (record : DateTimeRecord) :
    (Writer.mk image .idle committed (record :: rest)).after 4
      = ⟨image.publish record, .idle, committed ++ [record], rest⟩ := rfl

end Writer

/-! ## §2. What every step keeps. -/

/-- What is in place of the record that is being published. -/
def Phase.Filled (bus : Bus) : Phase → Prop
  | .idle => True
  | .chosen _ next => next = bus.selector + 1
  | .dated record next =>
    next = bus.selector + 1 ∧ bus.double (recordAt next) = record.dateTime
  | .ticked record next => next = bus.selector + 1 ∧ bus.recordIn (recordAt next) = record

/-- The records that the writer has taken up but whose count it has not written. -/
def Phase.pending : Phase → List DateTimeRecord
  | .idle => []
  | .chosen record _ => [record]
  | .dated record _ => [record]
  | .ticked record _ => [record]

namespace Writer

/-- The writer's invariant, for a start from `image` with the given records. -/
structure Sound (image : Image) (records : List DateTimeRecord) (w : Writer) : Prop where
  /-- The active record is the one committed last. -/
  active : w.image.bus.dateTime = w.committed.getLast?.getD image.bus.dateTime
  /-- The count has gone up by one with every commit. -/
  count : w.image.bus.selector = image.bus.selector + UInt32.ofNat w.committed.length
  /-- The record in work is as far along as the phase says. -/
  filled : w.phase.Filled w.image.bus
  /-- No record is lost. -/
  whole : w.committed ++ w.phase.pending ++ w.waiting = records

variable {image : Image} {records : List DateTimeRecord} {w : Writer}

theorem sound_start (image : Image) (records : List DateTimeRecord) :
    Sound image records (start image records) where
  active := rfl
  count := (UInt32.add_zero _).symm
  filled := trivial
  whole := rfl

/-- **ONE STEP** keeps the invariant. -/
theorem Sound.step (sound : Sound image records w) : Sound image records w.step := by
  obtain ⟨active, count, filled, whole⟩ := sound
  obtain ⟨memory, phase, committed, waiting⟩ := w
  -- only the last of the four steps changes what a reader takes for the active record
  cases phase with
  | idle =>
      cases waiting with
      | nil => exact ⟨active, count, filled, whole⟩
      | cons record rest =>
          refine ⟨active, count, rfl, ?_⟩
          simpa [Writer.step, Phase.pending] using whole
  | chosen record next =>
      have next_eq : next = memory.bus.selector + 1 := filled
      subst next_eq
      have selector := memory.selector_storeDate record (memory.bus.selector + 1)
      refine ⟨?_, ?_, ⟨?_, ?_⟩, whole⟩
      · show (memory.storeDate _ record).bus.dateTime = _
        rw [Bus.dateTime_eq, selector, Image.recordIn_storeDate, ← Bus.dateTime_eq]
        exact active
      · exact selector.trans count
      · exact congrArg (· + 1) selector.symm
      · exact memory.date_storeDate record _
  | dated record next =>
      have next_eq : next = memory.bus.selector + 1 := filled.1
      have date : memory.bus.double (recordAt next) = record.dateTime := filled.2
      subst next_eq
      have selector := memory.selector_storeTick record (memory.bus.selector + 1)
      refine ⟨?_, ?_, ⟨?_, ?_⟩, whole⟩
      · show (memory.storeTick _ record).bus.dateTime = _
        rw [Bus.dateTime_eq, selector, Image.recordIn_storeTick, ← Bus.dateTime_eq]
        exact active
      · exact selector.trans count
      · exact congrArg (· + 1) selector.symm
      · exact memory.recordIn_storeTick_self record _ date
  | ticked record next =>
      obtain ⟨next_eq, complete⟩ := filled
      refine ⟨?_, ?_, trivial, ?_⟩
      · show (memory.activate next).bus.dateTime = (committed ++ [record]).getLast?.getD _
        rw [Bus.dateTime_eq, Image.selector_activate, Image.recordIn_activate, complete,
          List.getLast?_append]
        rfl
      · show (memory.activate next).bus.selector
          = image.bus.selector + UInt32.ofNat (committed ++ [record]).length
        rw [Image.selector_activate, next_eq, count, UInt32.add_assoc, List.length_append,
          UInt32.ofNat_add]
        rfl
      · simpa [Writer.step, Phase.pending] using whole

/-- **A WHOLE RUN** keeps the invariant. -/
theorem sound_after (image : Image) (records : List DateTimeRecord) (steps : Nat) :
    Sound image records ((start image records).after steps) := by
  induction steps with
  | zero => exact sound_start image records
  | succ steps ih => exact ih.step

/-- A step commits at most one record, behind those committed before. -/
theorem committed_step (w : Writer) : w.committed <+: w.step.committed := by
  obtain ⟨memory, phase, committed, waiting⟩ := w
  cases phase with
  | idle => cases waiting <;> exact List.prefix_refl committed
  | chosen record next => exact List.prefix_refl committed
  | dated record next => exact List.prefix_refl committed
  | ticked record next => exact List.prefix_append committed [record]

theorem committed_mono (w : Writer) {early late : Nat} (le : early ≤ late) :
    (w.after early).committed <+: (w.after late).committed := by
  induction le with
  | refl => exact List.prefix_refl _
  | step _ ih => exact ih.trans (committed_step _)

end Writer

/-! ## §3. The reader's place among the steps. -/

/-- An interleaving of reads and steps: how many steps the writer has taken at each read. -/
structure Interleaving where
  /-- The steps taken before the `i`-th read, from zero on. -/
  before : Nat → Nat
  /-- Later reads see no fewer steps. -/
  mono : ∀ {early late : Nat}, early ≤ late → before early ≤ before late

namespace Interleaving

variable (turns : Interleaving)

/-- The bus at the `i`-th read. -/
def view (w : Writer) (i : Nat) : Bus :=
  (w.after (turns.before i)).image.bus

/-- Fewer than 2^32 counts are written between the first and the last read of any
attempt. -/
def FewCommits (w : Writer) : Prop :=
  ∀ attempt, (w.after (turns.before (6 * attempt + 5))).committed.length
    < (w.after (turns.before (6 * attempt))).committed.length + 2 ^ 32

end Interleaving

namespace Writer

variable {image : Image} {records : List DateTimeRecord}

/-- Counts that agree less than 2^32 commits apart are one and the same commit. -/
theorem committed_eq_of_selector_eq {early late : Nat} (le : early ≤ late)
    (few : ((start image records).after late).committed.length
      < ((start image records).after early).committed.length + 2 ^ 32)
    (same : ((start image records).after early).image.bus.selector
      = ((start image records).after late).image.bus.selector) :
    ((start image records).after early).committed
      = ((start image records).after late).committed := by
  -- counts agree modulo 2^32 only, which is where the bound comes in
  have grown := committed_mono (start image records) le
  refine grown.eq_of_length_le ?_
  rw [(sound_after image records early).count, (sound_after image records late).count,
    UInt32.add_right_inj, ← UInt32.toNat_inj, UInt32.toNat_ofNat', UInt32.toNat_ofNat'] at same
  have := grown.length_le
  omega

/-- Between two moments with the same commits, count and active record stand still. -/
theorem still_between {early time late : Nat} (low : early ≤ time) (high : time ≤ late)
    (same : ((start image records).after early).committed
      = ((start image records).after late).committed) :
    ((start image records).after time).image.bus.selector
        = ((start image records).after late).image.bus.selector
      ∧ ((start image records).after time).image.bus.dateTime
        = ((start image records).after late).image.bus.dateTime := by
  have first := committed_mono (start image records) low
  have second := committed_mono (start image records) high
  have between : ((start image records).after time).committed
      = ((start image records).after late).committed := by
    refine second.eq_of_length_le ?_
    rw [← same]
    exact first.length_le
  have now := sound_after image records time
  have then_ := sound_after image records late
  rw [now.count, then_.count, now.active, then_.active, between]
  exact ⟨rfl, rfl⟩

end Writer

/-- A writer with fewer than 2^32 records writes few counts. -/
theorem Interleaving.fewCommits_of_length (turns : Interleaving) (image : Image)
    {records : List DateTimeRecord} (short : records.length < 2 ^ 32) :
    turns.FewCommits (.start image records) := by
  intro attempt
  have whole := congrArg List.length
    (Writer.sound_after image records (turns.before (6 * attempt + 5))).whole
  rw [List.length_append, List.length_append] at whole
  omega

/-! ## §4. What the reader returns. -/

/-- **NO TORN OR STALE READ**: whatever the writer does between the reads, a settled
attempt returns the record that the count selects at its last read.  This is the record
committed last, or the initially active one, and it stays in its place unchanged, selected
by the same count, through the whole attempt. -/
theorem settled_attempt_returns_committed_record (image : Image)
    (records : List DateTimeRecord) (turns : Interleaving)
    (few : turns.FewCommits (.start image records)) (fuel : Nat) {attempt : ReadAttempt}
    (last : (readAttempts (turns.view (.start image records)) fuel).getLast? = some attempt)
    (settled : attempt.settled = true) :
    let writer := Writer.start image records
    let index := (readAttempts (turns.view writer) fuel).length - 1
    let opening := turns.before (6 * index)
    let closing := turns.before (6 * index + 5)
    attempt.record = (writer.after closing).image.bus.recordIn
        (recordAt (writer.after closing).image.bus.selector)
      ∧ attempt.record
        = (writer.after closing).committed.getLast?.getD image.bus.dateTime
      ∧ (writer.after closing).committed <+: records
      ∧ ∀ time, opening ≤ time → time ≤ closing →
        (writer.after time).image.bus.selector = attempt.closing
          ∧ (writer.after time).image.bus.recordIn (recordAt attempt.closing)
            = attempt.record := by
  intro writer index opening closing
  have reads : attempt = ReadAttempt.run fun i => turns.view writer (i + 6 * index) :=
    eq_attemptAt_of_getLast? last
  -- The counts at both ends agree, so nothing is committed in between.
  have counts : (writer.after opening).image.bus.selector
      = (writer.after closing).image.bus.selector := by
    have ends := (attempt.settled_iff).mp settled
    rw [reads] at ends
    simpa only [ReadAttempt.run_eq, Interleaving.view, Nat.zero_add, Nat.add_comm 5] using ends
  have order : opening ≤ closing := turns.mono (Nat.le_add_right _ 5)
  have commits := Writer.committed_eq_of_selector_eq order (few index) counts
  have still (time : Nat) (low : opening ≤ time) (high : time ≤ closing) :=
    Writer.still_between low high commits
  -- So all six reads see the bus as it is at the last of them.
  have result : attempt = ⟨(writer.after closing).image.bus.selector,
      (writer.after closing).image.bus.dateTime,
      (writer.after closing).image.bus.selector⟩ := by
    rw [reads]
    refine ReadAttempt.run_of_quiet fun i hi => ?_
    exact still _ (turns.mono (by omega)) (turns.mono (by omega))
  have sound := Writer.sound_after image records closing
  subst result
  refine ⟨Bus.dateTime_eq _, sound.active, ?_, ?_⟩
  · have whole := sound.whole
    rw [List.append_assoc] at whole
    exact ⟨_, whole⟩
  · intro time low high
    obtain ⟨count, active⟩ := still time low high
    refine ⟨count, ?_⟩
    rw [← active, Bus.dateTime_eq, count]

/-- The first three reads come before any step, all others after six steps: the first
publish falls into the first attempt, and the writer stops for good within the second. -/
def stoppedWithinPublish : Interleaving where
  before i := if i < 3 then 0 else 6
  mono := by
    intro early late le
    split <;> split <;> omega

/-- A first attempt that fails and a second one that returns the first of two records,
with the second one half written beside it. -/
theorem settled_attempt_returns_committed_record_beside_half_written :
    stoppedWithinPublish.FewCommits (.start .empty [⟨100, 1⟩, ⟨200, 2⟩])
      ∧ ∃ attempt,
        (readAttempts (stoppedWithinPublish.view (.start .empty [⟨100, 1⟩, ⟨200, 2⟩])) 2).getLast?
          = some attempt
        ∧ attempt.settled = true ∧ attempt.record = ⟨100, 1⟩ := by
  have few : stoppedWithinPublish.FewCommits (.start .empty [⟨100, 1⟩, ⟨200, 2⟩]) :=
    stoppedWithinPublish.fewCommits_of_length .empty (by decide)
  let view := stoppedWithinPublish.view (.start .empty [⟨100, 1⟩, ⟨200, 2⟩])
  have blank : Image.empty.bus.selector = 0 := Image.word_empty _
  have closing : (ReadAttempt.run view).closing = 1 := by
    refine (Writer.sound_after .empty [⟨100, 1⟩, ⟨200, 2⟩] 6).count.trans ?_
    rw [blank]
    rfl
  have first : (ReadAttempt.run view).settled = false := by
    show (Image.empty.bus.selector == (ReadAttempt.run view).closing) = false
    rw [blank, closing]
    rfl
  have second : (ReadAttempt.run fun i => view (i + 6)).settled = true :=
    beq_self_eq_true _
  have attempts : readAttempts view 2
      = [ReadAttempt.run view, ReadAttempt.run fun i => view (i + 6)] := by
    simp only [readAttempts_succ, first, second, if_true, Bool.false_eq_true, if_false]
  have last : (readAttempts view 2).getLast? = some (ReadAttempt.run fun i => view (i + 6)) := by
    rw [attempts]
    rfl
  refine ⟨few, _, last, second, ?_⟩
  have result := (settled_attempt_returns_committed_record .empty [⟨100, 1⟩, ⟨200, 2⟩]
    stoppedWithinPublish few 2 last second).2.1
  rw [show (readAttempts (stoppedWithinPublish.view (.start .empty [⟨100, 1⟩, ⟨200, 2⟩]))
    2).length = 2 from congrArg List.length attempts] at result
  exact result

end Horizon
