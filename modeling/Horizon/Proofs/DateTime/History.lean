/-
  Horizon.Proofs.DateTime.History
  ───────────────────────────────
  **HISTORIES OF PUBLISHES, BYTE FOR BYTE.**

  A publish fills the slot that is not active and makes it the active one, so after any
  number of publishes the two slots hold the last two records:

      publishes    count      active slot    other slot       other bytes
      none         s          r₀             …                …
      r₁           s + 1      r₁             r₀               kept
      r₁ r₂        s + 2      r₂             r₁               kept
      …            s + n      last           last but one     kept

  Counts are words, so this goes on past the greatest one.  Main statements:

      slot_eq                    the sixteen bytes of a slot spell the record in it
      byte_publish_of_elsewhere  one publish writes nowhere else
      publish_history            all of the table
-/
import Horizon.Proofs.DateTime.Attempts

namespace Horizon

open Registers

/-! ## §1. The bytes of a slot. -/

/-- The bytes at `count` addresses, from one address on. -/
def FlatMemory.bytes (memory : FlatMemory) (address : UInt32) : (count : Nat) → List UInt8
  | 0 => []
  | count + 1 => memory address :: memory.bytes (address + 1) count

/-- The bytes of a stretch are those of its value. -/
theorem FlatMemory.littleEndian_value (memory : FlatMemory) (address : UInt32) (count : Nat) :
    littleEndian count (memory.value address count) = memory.bytes address count := by
  induction count generalizing address with
  | zero => rfl
  | succ count ih =>
      -- to base 256 the first byte is the last digit of the value
      have low : UInt8.ofNat ((memory address).toNat + 256 * memory.value (address + 1) count)
          = memory address := by
        rw [← UInt8.toNat_inj, UInt8.toNat_ofNat']
        have := (memory address).toNat_lt
        omega
      have high : ((memory address).toNat + 256 * memory.value (address + 1) count) / 256
          = memory.value (address + 1) count := by
        have := (memory address).toNat_lt
        omega
      rw [value, littleEndian, low, high, ih, bytes]

/-- Two stretches side by side are one stretch. -/
theorem FlatMemory.bytes_add (memory : FlatMemory) (address : UInt32) (low high : Nat) :
    memory.bytes address (low + high)
      = memory.bytes address low ++ memory.bytes (address + UInt32.ofNat low) high := by
  induction low generalizing address with
  | zero => simp [bytes]
  | succ low ih =>
      rw [Nat.succ_add, bytes, bytes, ih, UInt32.ofNat_add, UInt32.add_comm (UInt32.ofNat low),
        ← UInt32.add_assoc]
      rfl

/-- The bytes of a record: the date and then the tick, each lowest byte first. -/
def DateTimeRecord.bytes (record : DateTimeRecord) : List UInt8 :=
  Image.doubleBytes record.dateTime ++ Image.doubleBytes record.updateTick

namespace Image

variable (image : Image) (record : DateTimeRecord)

/-- The sixteen bytes of the slot at an address. -/
def slot (address : UInt32) : List UInt8 := FlatMemory.bytes image.byte address 16

theorem doubleBytes_double (address : UInt32) :
    doubleBytes (image.bus.double address) = FlatMemory.bytes image.byte address 8 := by
  rw [doubleBytes_eq, toNat_double, FlatMemory.littleEndian_value]

/-- **The bytes of a slot spell the record in it.** -/
theorem slot_eq (address : UInt32) :
    image.slot address = (image.bus.recordIn address).bytes := by
  have halves := FlatMemory.bytes_add image.byte address 8 8
  rw [slot, halves, DateTimeRecord.bytes, Bus.recordIn, doubleBytes_double, doubleBytes_double]
  rfl

/-! ## §2. One publish. -/

/-- The address is one of `count` addresses, from `start` on. -/
def Within (start : UInt32) (count : Nat) (a : UInt32) : Prop := (a - start).toNat < count

instance (start : UInt32) (count : Nat) (a : UInt32) : Decidable (Within start count a) :=
  inferInstanceAs (Decidable ((a - start).toNat < count))

/-- The address lies outside the count and both slots. -/
structure Elsewhere (a : UInt32) : Prop where
  count : ¬Within selectorAt 4 a
  even : ¬Within evenRecordAt 16 a
  odd : ¬Within oddRecordAt 16 a

instance (a : UInt32) : Decidable (Elsewhere a) :=
  decidable_of_iff (¬Within selectorAt 4 a ∧ ¬Within evenRecordAt 16 a ∧ ¬Within oddRecordAt 16 a)
    ⟨fun ⟨h0, h1, h2⟩ => ⟨h0, h1, h2⟩, fun h => ⟨h.count, h.even, h.odd⟩⟩

theorem byte_writeWord_of_beyond {address a : UInt32} (value : UInt32)
    (beyond : ¬Within address 4 a) : (image.writeWord address value).byte a = image.byte a := by
  rw [byte_writeWord]
  exact FlatMemory.storeAll_cellsOf_beyond _ _ _ _ (Nat.le_of_not_lt beyond)

theorem byte_writeDouble_of_beyond {address a : UInt32} (value : UInt64)
    (beyond : ¬Within address 8 a) : (image.writeDouble address value).byte a = image.byte a := by
  rw [byte_writeDouble]
  exact FlatMemory.storeAll_cellsOf_beyond _ _ _ _ (Nat.le_of_not_lt beyond)

/-- An address outside a slot lies outside both of its halves. -/
theorem not_within_halves {start a : UInt32} (beyond : ¬Within start 16 a) :
    ¬Within start 8 a ∧ ¬Within (start + 8) 8 a := by
  unfold Within at *
  have := a.toNat_lt
  have := start.toNat_lt
  simp only [UInt32.toNat_sub, UInt32.toNat_add, UInt32.reduceToNat] at *
  omega

/-- **A publish writes nowhere else** than to the count and one of the slots. -/
theorem byte_publish_of_elsewhere {a : UInt32} (h : Elsewhere a) :
    (image.publish record).byte a = image.byte a := by
  -- whichever of the slots the next count selects
  have slot : ¬Within (recordAt (image.bus.selector + 1)) 16 a := by
    rcases recordAt_mem (image.bus.selector + 1) with here | here
    · rw [here]
      exact h.even
    · rw [here]
      exact h.odd
  obtain ⟨date, tick⟩ := not_within_halves slot
  unfold publish activate storeTick storeDate
  dsimp only
  rw [byte_writeWord_of_beyond _ _ h.count, byte_writeDouble_of_beyond _ _ tick,
    byte_writeDouble_of_beyond _ _ date]

/-- A publish leaves the record that was active before it. -/
theorem recordIn_publish :
    (image.publish record).bus.recordIn (recordAt image.bus.selector) = image.bus.dateTime := by
  unfold publish
  dsimp only
  rw [recordIn_activate, recordIn_storeTick, recordIn_storeDate, Bus.dateTime_eq]

/-! ## §3. Histories. -/

theorem publishAll_concat (earlier : List DateTimeRecord) (last : DateTimeRecord) :
    image.publishAll (earlier ++ [last]) = (image.publishAll earlier).publish last := by
  simp only [publishAll, List.foldl_append, List.foldl_cons, List.foldl_nil]

theorem byte_publishAll_of_elsewhere (records : List DateTimeRecord) {a : UInt32}
    (h : Elsewhere a) : (image.publishAll records).byte a = image.byte a := by
  induction records generalizing image with
  | nil => rfl
  | cons first rest ih => rw [publishAll_cons, ih, byte_publish_of_elsewhere image first h]

theorem toNat_selector_publishAll (records : List DateTimeRecord) :
    (image.publishAll records).bus.selector.toNat
      = (image.bus.selector.toNat + records.length) % 2 ^ 32 := by
  rw [selector_publishAll, UInt32.toNat_add, UInt32.toNat_ofNat', Nat.add_mod_mod]

/-- A reader of a bus at rest makes one attempt and returns the active record. -/
theorem readAttempts_at_rest (bus : Bus) (fuel : Nat) :
    readAttempts (fun _ => bus) (fuel + 1) = [⟨bus.selector, bus.dateTime, bus.selector⟩] := by
  have quiet : ReadAttempt.run (fun _ => bus) = ⟨bus.selector, bus.dateTime, bus.selector⟩ :=
    ReadAttempt.run_of_quiet fun _ _ => ⟨rfl, rfl⟩
  have settled : (ReadAttempt.run fun _ => bus).settled = true := by
    rw [quiet, ReadAttempt.settled_iff]
  rw [readAttempts_succ, if_pos settled, quiet]

/-- **AFTER ANY PUBLISHES**: the count has gone up by their number, modulo 2^32; the slot
that it selects holds the last record and readers return that one; the other slot holds
the record before it, which for a single publish is the one that was active at the
beginning; and nothing else has changed. -/
theorem publish_history (earlier : List DateTimeRecord) (last : DateTimeRecord) :
    let final := image.publishAll (earlier ++ [last])
    final.bus.selector.toNat = (image.bus.selector.toNat + (earlier.length + 1)) % 2 ^ 32
    ∧ final.slot (recordAt final.bus.selector) = last.bytes
    ∧ final.bus.dateTime = last
    ∧ (∀ fuel, readAttempts (fun _ => final.bus) (fuel + 1)
        = [⟨final.bus.selector, last, final.bus.selector⟩])
    ∧ final.slot (recordAt (final.bus.selector + 1))
        = (earlier.getLast?.map (·.bytes)).getD (image.slot (recordAt image.bus.selector))
    ∧ ∀ a, Elsewhere a → final.byte a = image.byte a := by
  intro final
  have shape : final = (image.publishAll earlier).publish last := publishAll_concat _ _ _
  have active : final.bus.dateTime = last := by rw [shape, dateTime_publish]
  refine ⟨?_, ?_, active, fun fuel => ?_, ?_, fun a h => ?_⟩
  · rw [toNat_selector_publishAll, List.length_append]
    rfl
  · rw [slot_eq, ← Bus.dateTime_eq, active]
  · rw [readAttempts_at_rest, active]
  · -- two counts on it is the same slot again, and that one was active before the last publish
    have kept : final.bus.recordIn (recordAt (final.bus.selector + 1))
        = (image.publishAll earlier).bus.dateTime := by
      rw [shape, selector_publish, recordAt_succ_succ, recordIn_publish]
    rw [slot_eq, kept, dateTime_publishAll, slot_eq, ← Bus.dateTime_eq]
    cases earlier.getLast? with
    | none => rfl
    | some previous => rfl
  · exact byte_publishAll_of_elsewhere image _ h

/-- Two publishes past the greatest count, on a page that also holds a byte of its own. -/
theorem publish_history_past_greatest_count :
    let image := (Image.empty.writeByte wifiStrengthAt 3).writeWord selectorAt 0xFFFFFFFF
    let final := image.publishAll ([⟨1, 2⟩] ++ [⟨3913056000000, 0xFFFFFFFFFFFFFFFF⟩])
    Elsewhere wifiStrengthAt
    ∧ final.bus.selector.toNat = 1
    ∧ final.slot (recordAt final.bus.selector)
        = DateTimeRecord.bytes ⟨3913056000000, 0xFFFFFFFFFFFFFFFF⟩
    ∧ final.slot (recordAt (final.bus.selector + 1)) = DateTimeRecord.bytes ⟨1, 2⟩
    ∧ final.byte wifiStrengthAt = image.byte wifiStrengthAt := by
  intro image final
  have elsewhere : Elsewhere wifiStrengthAt := by decide
  have greatest : image.bus.selector = 0xFFFFFFFF := word_writeWord _ selectorAt 0xFFFFFFFF
  obtain ⟨count, active, -, -, other, kept⟩ :=
    publish_history image [⟨1, 2⟩] ⟨3913056000000, 0xFFFFFFFFFFFFFFFF⟩
  rw [greatest] at count
  exact ⟨elsewhere, count, active, other, kept wifiStrengthAt elsewhere⟩

end Image

end Horizon
