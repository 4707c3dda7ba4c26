/-
  Horizon.Proofs.DateTime.Publish
  ───────────────────────────────
  **WHAT EACH STEP OF A PUBLISH DOES.**

  A publish fills the record that is not selected, in two steps, and then writes the next
  count.  With `s` the count before:

      step        count    record of s    record of s + 1
      storeDate   kept     kept           date written
      storeTick   kept     kept           date kept, tick written
      activate    s + 1    kept           kept

  Everything that readers may rely on follows from this table alone.
-/
import Horizon.DateTime
import Horizon.Proofs.Bus.FlatMemory

namespace Horizon

open Registers

/-! ## §1. The two records. -/

/-- The record at an address. -/
def Bus.recordIn (bus : Bus) (address : UInt32) : DateTimeRecord where
  dateTime := bus.double address
  updateTick := bus.double (address + 8)

/-- The active record is the one that the count selects. -/
theorem Bus.dateTime_eq (bus : Bus) : bus.dateTime = bus.recordIn (recordAt bus.selector) := rfl

/-- The record that a count selects goes by the parity of the count. -/
theorem recordAt_eq (selector : UInt32) :
    recordAt selector = if selector.toNat % 2 = 0 then evenRecordAt else oddRecordAt := by
  have parity : (selector &&& 1).toNat = selector.toNat % 2 := by
    rw [UInt32.toNat_and]
    exact Nat.and_one_is_mod selector.toNat
  simp only [recordAt, ← UInt32.toNat_inj, parity, UInt32.reduceToNat]

theorem recordAt_mem (selector : UInt32) :
    recordAt selector = evenRecordAt ∨ recordAt selector = oddRecordAt := by
  unfold recordAt
  split
  · exact .inl rfl
  · exact .inr rfl

/-- Counts that follow one another select different records. -/
theorem recordAt_succ (selector : UInt32) :
    (recordAt selector = evenRecordAt ∧ recordAt (selector + 1) = oddRecordAt)
      ∨ (recordAt selector = oddRecordAt ∧ recordAt (selector + 1) = evenRecordAt) := by
  have next : (selector + 1).toNat % 2 = (selector.toNat + 1) % 2 := by
    rw [UInt32.toNat_add, Nat.mod_mod_of_dvd _ (by decide)]
    rfl
  rw [recordAt_eq, recordAt_eq, next]
  rcases Nat.mod_two_eq_zero_or_one selector.toNat with even | odd
  · exact .inl ⟨if_pos even, if_neg (by omega)⟩
  · exact .inr ⟨if_neg (by omega), if_pos (by omega)⟩

/-- The record after the next is the same one. -/
theorem recordAt_succ_succ (selector : UInt32) :
    recordAt (selector + 1 + 1) = recordAt selector := by
  rcases recordAt_succ selector with ⟨here, next⟩ | ⟨here, next⟩ <;>
    rcases recordAt_succ (selector + 1) with ⟨next', after⟩ | ⟨next', after⟩
  · exact absurd (next.symm.trans next') (by decide)
  · rw [here, after]
  · rw [here, after]
  · exact absurd (next.symm.trans next') (by decide)

theorem double_congr {bus other : Bus} {address : UInt32}
    (low : bus.word address = other.word address)
    (high : bus.word (address + 4) = other.word (address + 4)) :
    bus.double address = other.double address := by
  rw [Bus.double, Bus.double, low, high]

theorem recordIn_congr {bus other : Bus} {address : UInt32}
    (date : bus.double address = other.double address)
    (tick : bus.double (address + 8) = other.double (address + 8)) :
    bus.recordIn address = other.recordIn address := by
  rw [Bus.recordIn, Bus.recordIn, date, tick]

namespace Image

variable (image : Image) (record : DateTimeRecord)

/-- A 64-bit value written elsewhere leaves a record as it was. -/
theorem recordIn_writeDouble {address slot : UInt32} (value : UInt64)
    (w0 : Apart address 8 slot) (w1 : Apart address 8 (slot + 4))
    (w2 : Apart address 8 (slot + 8)) (w3 : Apart address 8 (slot + 8 + 4)) :
    (image.writeDouble address value).bus.recordIn slot = image.bus.recordIn slot :=
  recordIn_congr
    (double_congr (image.word_writeDouble_of_apart value w0)
      (image.word_writeDouble_of_apart value w1))
    (double_congr (image.word_writeDouble_of_apart value w2)
      (image.word_writeDouble_of_apart value w3))

/-! ## §2. The steps. -/

theorem selector_storeDate (next : UInt32) :
    (image.storeDate next record).bus.selector = image.bus.selector := by
  refine image.word_writeDouble_of_apart record.dateTime ?_
  rcases recordAt_mem next with slot | slot <;> rw [slot] <;> decide

theorem selector_storeTick (next : UInt32) :
    (image.storeTick next record).bus.selector = image.bus.selector := by
  refine image.word_writeDouble_of_apart record.updateTick ?_
  rcases recordAt_mem next with slot | slot <;> rw [slot] <;> decide

@[simp] theorem selector_activate (next : UInt32) : (image.activate next).bus.selector = next :=
  image.word_writeWord selectorAt next

/-- The first step leaves the record of the count before it. -/
theorem recordIn_storeDate (selector : UInt32) :
    (image.storeDate (selector + 1) record).bus.recordIn (recordAt selector)
      = image.bus.recordIn (recordAt selector) := by
  unfold storeDate
  rcases recordAt_succ selector with ⟨here, there⟩ | ⟨here, there⟩ <;> rw [here, there] <;>
    exact image.recordIn_writeDouble _ (by decide) (by decide) (by decide) (by decide)

/-- The second step leaves the record of the count before it. -/
theorem recordIn_storeTick (selector : UInt32) :
    (image.storeTick (selector + 1) record).bus.recordIn (recordAt selector)
      = image.bus.recordIn (recordAt selector) := by
  unfold storeTick
  rcases recordAt_succ selector with ⟨here, there⟩ | ⟨here, there⟩ <;> rw [here, there] <;>
    exact image.recordIn_writeDouble _ (by decide) (by decide) (by decide) (by decide)

/-- The last step leaves both records. -/
theorem recordIn_activate (next selector : UInt32) :
    (image.activate next).bus.recordIn (recordAt selector)
      = image.bus.recordIn (recordAt selector) := by
  have kept {a : UInt32} (apart : Apart selectorAt 4 a) :
      (image.activate next).bus.word a = image.bus.word a :=
    image.word_writeWord_of_apart next apart
  rcases recordAt_mem selector with slot | slot <;> rw [slot] <;>
    exact recordIn_congr (double_congr (kept (by decide)) (kept (by decide)))
      (double_congr (kept (by decide)) (kept (by decide)))

/-- The first step writes the date. -/
theorem date_storeDate (next : UInt32) :
    (image.storeDate next record).bus.double (recordAt next) = record.dateTime :=
  image.double_writeDouble (recordAt next) record.dateTime

/-- The second step completes a record whose date was written. -/
theorem recordIn_storeTick_self (next : UInt32)
    (dated : image.bus.double (recordAt next) = record.dateTime) :
    (image.storeTick next record).bus.recordIn (recordAt next) = record := by
  have date : (image.storeTick next record).bus.double (recordAt next)
      = image.bus.double (recordAt next) := by
    unfold storeTick
    rcases recordAt_mem next with slot | slot <;> rw [slot] <;>
      exact double_congr (image.word_writeDouble_of_apart _ (by decide))
        (image.word_writeDouble_of_apart _ (by decide))
  have tick : (image.storeTick next record).bus.double (recordAt next + 8)
      = record.updateTick :=
    image.double_writeDouble (recordAt next + 8) record.updateTick
  rw [Bus.recordIn, date, dated, tick]

/-! ## §3. Whole publishes. -/

theorem selector_publish :
    (image.publish record).bus.selector = image.bus.selector + 1 :=
  selector_activate _ _

/-- A published record is the active one. -/
theorem dateTime_publish : (image.publish record).bus.dateTime = record := by
  -- the count is written last, beside a record that is complete by then
  rw [Bus.dateTime_eq, selector_publish]
  unfold publish
  rw [recordIn_activate]
  exact recordIn_storeTick_self _ record _ (date_storeDate image record _)

theorem publishAll_cons (records : List DateTimeRecord) :
    image.publishAll (record :: records) = (image.publish record).publishAll records := by
  simp only [publishAll, List.foldl_cons]

theorem selector_publishAll (records : List DateTimeRecord) :
    (image.publishAll records).bus.selector
      = image.bus.selector + UInt32.ofNat records.length := by
  induction records generalizing image with
  | nil => exact (UInt32.add_zero _).symm
  | cons first rest ih =>
      have count : UInt32.ofNat (rest.length + 1) = 1 + UInt32.ofNat rest.length := by
        rw [Nat.add_comm, UInt32.ofNat_add]
        rfl
      rw [publishAll_cons, ih, selector_publish, List.length_cons, count, UInt32.add_assoc]

/-- After publishes the active record is the last of them. -/
theorem dateTime_publishAll (records : List DateTimeRecord) :
    (image.publishAll records).bus.dateTime = records.getLast?.getD image.bus.dateTime := by
  induction records generalizing image with
  | nil => rfl
  | cons first rest ih =>
      rw [publishAll_cons, ih, dateTime_publish, List.getLast?_cons, Option.getD_some]

end Image

end Horizon
