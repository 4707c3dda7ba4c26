/-
  Horizon.Proofs.Bus.FlatMemory
  ─────────────────────────────
  **FLAT MEMORY, AND THE IMAGE SEEN AS ONE.**

  Flat memory has a byte at every address and changes one byte at a time.  A value of
  several bytes is a run of cells, lowest byte first, whose addresses wrap at the top of
  the address space:

      image   writeWord, writeDouble      word, double
      flat    runs of cells               values of runs

  Every write of the image stores a run, and every read of it is the value of a run, so
  what is read after a write follows from where the two runs lie.
-/
import Horizon.Bus.Image
import Horizon.Proofs.Word.Fields

namespace Horizon

open Binary (Single)

/-! ## §1. Flat memory. -/

/-- A byte at every address. -/
abbrev FlatMemory := UInt32 → UInt8

/-- A byte and the address it is written to. -/
abbrev Cell := UInt32 × UInt8

/-- A value of `count` bytes as cells from an address on, lowest byte first. -/
def cellsOf (address : UInt32) : (count value : Nat) → List Cell
  | 0, _ => []
  | count + 1, value =>
    (address, UInt8.ofNat value) :: cellsOf (address + 1) count (value / 256)

/-- The byte that was written last at an address, if one was. -/
def lastWritten? (cells : List Cell) (address : UInt32) : Option UInt8 :=
  (cells.reverse.find? (·.1 == address)).map (·.2)

namespace FlatMemory

/-- Nothing has been written. -/
def zero : FlatMemory := fun _ => 0

/-- Write one byte. -/
def store (memory : FlatMemory) (address : UInt32) (byte : UInt8) : FlatMemory :=
  fun a => if a = address then byte else memory a

/-- Write cells one after another. -/
def storeAll (memory : FlatMemory) (cells : List Cell) : FlatMemory :=
  cells.foldl (fun memory cell => memory.store cell.1 cell.2) memory

/-- The value of the `count` bytes from an address on, lowest byte first. -/
def value (memory : FlatMemory) (address : UInt32) : (count : Nat) → Nat
  | 0 => 0
  | count + 1 => (memory address).toNat + 256 * memory.value (address + 1) count

theorem storeAll_append (memory : FlatMemory) (cells more : List Cell) :
    memory.storeAll (cells ++ more) = (memory.storeAll cells).storeAll more := by
  simp only [storeAll, List.foldl_append]

/-- Storing cells leaves at every address the byte written last, or the old one. -/
theorem storeAll_apply (memory : FlatMemory) (cells : List Cell) (address : UInt32) :
    memory.storeAll cells address = (lastWritten? cells address).getD (memory address) := by
  induction cells generalizing memory with
  | nil => rfl
  | cons cell cells ih =>
      show (memory.store cell.1 cell.2).storeAll cells address = _
      rw [ih]
      -- the first cell counts only where none of the later ones was written
      simp only [lastWritten?, List.reverse_cons, List.find?_append, store]
      cases cells.reverse.find? (·.1 == address) with
      | some found => rfl
      | none =>
          by_cases here : address = cell.1
          · simp [here]
          · have there : (cell.1 == address) = false := beq_false_of_ne (Ne.symm here)
            simp [here, there]

/-- Cells leave every other address as it was. -/
theorem storeAll_of_notMem (memory : FlatMemory) {cells : List Cell} {address : UInt32}
    (outside : address ∉ cells.map (·.1)) : memory.storeAll cells address = memory address := by
  have none : cells.reverse.find? (·.1 == address) = none := by
    rw [List.find?_eq_none]
    intro cell member same
    rw [List.mem_reverse] at member
    exact outside (List.mem_map.mpr ⟨cell, member, beq_iff_eq.mp same⟩)
  rw [storeAll_apply, lastWritten?, none]
  rfl

/-! ## §2. Runs of cells. -/

theorem toNat_sub_of_ne {a address : UInt32} (ne : a ≠ address) :
    (a - address).toNat = (a - (address + 1)).toNat + 1 := by
  -- distances wrap as addresses do, so only the distance zero has no predecessor
  have apart : a.toNat ≠ address.toNat := fun h => ne (UInt32.toNat_inj.mp h)
  have := a.toNat_lt
  have := address.toNat_lt
  simp only [UInt32.toNat_sub, UInt32.toNat_add, UInt32.reduceToNat]
  omega

/-- The address before a run comes last when one counts from the run's start. -/
theorem toNat_sub_succ (a : UInt32) : (a - (a + 1)).toNat = 2 ^ 32 - 1 := by
  have := a.toNat_lt
  simp only [UInt32.toNat_sub, UInt32.toNat_add, UInt32.reduceToNat]
  omega

/-- A run leaves the addresses beyond its end as they were. -/
theorem storeAll_cellsOf_beyond (memory : FlatMemory) (address : UInt32) (count value : Nat)
    {a : UInt32} (beyond : count ≤ (a - address).toNat) :
    memory.storeAll (cellsOf address count value) a = memory a := by
  induction count generalizing memory address value with
  | zero => rfl
  | succ count ih =>
      have ne : a ≠ address := by
        intro same
        subst same
        rw [UInt32.sub_self] at beyond
        exact absurd beyond (by simp)
      have step := toNat_sub_of_ne ne
      show (memory.store address _).storeAll (cellsOf (address + 1) count _) a = _
      rw [ih _ _ _ (by omega)]
      exact if_neg ne

/-- A run of cells stays as it was when all of its addresses lie beyond another run. -/
theorem value_congr {memory other : FlatMemory} (address : UInt32) (count : Nat)
    (same : ∀ i < count, memory (address + UInt32.ofNat i) = other (address + UInt32.ofNat i)) :
    memory.value address count = other.value address count := by
  induction count generalizing address with
  | zero => rfl
  | succ count ih =>
      have first := same 0 (Nat.succ_pos count)
      have rest : ∀ i < count, memory (address + 1 + UInt32.ofNat i)
          = other (address + 1 + UInt32.ofNat i) := by
        intro i hi
        have later := same (i + 1) (Nat.succ_lt_succ hi)
        rwa [UInt32.ofNat_add, UInt32.add_comm (UInt32.ofNat i), ← UInt32.add_assoc] at later
      simp only [UInt32.reduceOfNat, UInt32.add_zero] at first
      simp only [value, first, ih _ rest]

/-- A value reads back from the run that it was written to, as far as the run is wide. -/
theorem value_storeAll_cellsOf (memory : FlatMemory) (address : UInt32) {count : Nat}
    (fits : count ≤ 2 ^ 32) (value : Nat) :
    (memory.storeAll (cellsOf address count value)).value address count
      = value % 256 ^ count := by
  induction count generalizing memory address value with
  | zero => simp [FlatMemory.value, Nat.mod_one]
  | succ count ih =>
      -- the rest of the run would have to wrap around all of memory to meet its first cell
      have kept := storeAll_cellsOf_beyond (memory.store address (UInt8.ofNat value))
        (address + 1) count (value / 256) (a := address) (by rw [toNat_sub_succ]; omega)
      have rest := ih (memory.store address (UInt8.ofNat value)) (address + 1) (by omega)
        (value / 256)
      show ((memory.store address _).storeAll (cellsOf (address + 1) count _) address).toNat
          + 256 * ((memory.store address _).storeAll (cellsOf (address + 1) count _)).value
            (address + 1) count = _
      have width : 256 ^ (count + 1) = 256 * 256 ^ count := Nat.pow_succ'
      rw [kept, rest, store, if_pos rfl, UInt8.toNat_ofNat', width, Nat.mod_mul]

/-- Two runs side by side are one run. -/
theorem value_add (memory : FlatMemory) (address : UInt32) (low high : Nat) :
    memory.value address (low + high)
      = memory.value address low
        + 256 ^ low * memory.value (address + UInt32.ofNat low) high := by
  induction low generalizing address with
  | zero => simp [value]
  | succ low ih =>
      rw [Nat.succ_add, value, value, ih, UInt32.ofNat_add, UInt32.add_comm (UInt32.ofNat low),
        ← UInt32.add_assoc, Nat.pow_succ, Nat.mul_comm _ 256, Nat.mul_add, Nat.mul_assoc,
        Nat.add_assoc]
      rfl

end FlatMemory

/-! ## §3. Words and bytes. -/

/-- The `count` low bytes of a number, lowest first. -/
def littleEndian : (count value : Nat) → List UInt8
  | 0, _ => []
  | count + 1, value => UInt8.ofNat value :: littleEndian count (value / 256)

theorem littleEndian_add (low high value : Nat) :
    littleEndian (low + high) value
      = littleEndian low value ++ littleEndian high (value / 256 ^ low) := by
  induction low generalizing value with
  | zero => simp [littleEndian]
  | succ low ih =>
      rw [Nat.succ_add, littleEndian, littleEndian, ih, Nat.div_div_eq_div_mul, Nat.pow_succ,
        Nat.mul_comm 256]
      rfl

theorem littleEndian_mod (count value : Nat) :
    littleEndian count (value % 256 ^ count) = littleEndian count value := by
  induction count generalizing value with
  | zero => rfl
  | succ count ih =>
      have width : 256 ^ (count + 1) = 256 * 256 ^ count := Nat.pow_succ'
      have byte : UInt8.ofNat (value % 256 ^ (count + 1)) = UInt8.ofNat value := by
        rw [← UInt8.toNat_inj, UInt8.toNat_ofNat', UInt8.toNat_ofNat', width]
        exact Nat.mod_mul_right_mod value 256 (256 ^ count)
      rw [littleEndian, littleEndian, byte, width, Nat.mod_mul_right_div_self, ih]

namespace Bus

theorem toNat_joinBytes (b0 b1 b2 b3 : UInt8) :
    (joinBytes b0 b1 b2 b3).toNat
      = b0.toNat + 256 * (b1.toNat + 256 * (b2.toNat + 256 * b3.toNat)) := by
  have h0 := b0.toNat_lt
  have h1 := b1.toNat_lt
  have h2 := b2.toNat_lt
  have h3 := b3.toNat_lt
  simp only [joinBytes, UInt32.toNat_or, UInt32.toNat_shiftLeft, UInt8.toNat_toUInt32,
    UInt32.reduceToNat, Nat.reduceMod]
  rw [Nat.mod_eq_of_lt (a := b1.toNat <<< 8) (by rw [Nat.shiftLeft_eq]; omega),
    Nat.mod_eq_of_lt (a := b2.toNat <<< 16) (by rw [Nat.shiftLeft_eq]; omega),
    Nat.mod_eq_of_lt (a := b3.toNat <<< 24) (by rw [Nat.shiftLeft_eq]; omega),
    or_shiftLeft 8 _ h0, or_shiftLeft 16 _ (by omega), or_shiftLeft 24 _ (by omega)]
  omega

theorem toNat_joinWords (low high : UInt32) :
    (joinWords low high).toNat = low.toNat + 2 ^ 32 * high.toNat := by
  have h0 := low.toNat_lt
  have h1 := high.toNat_lt
  simp only [joinWords, UInt64.toNat_or, UInt64.toNat_shiftLeft, UInt32.toNat_toUInt64,
    UInt64.reduceToNat, Nat.reduceMod]
  rw [Nat.mod_eq_of_lt (by rw [Nat.shiftLeft_eq]; omega), Nat.or_comm, or_shiftLeft 32 _ h0]

end Bus

namespace Image

theorem wordBytes_eq (value : UInt32) : wordBytes value = littleEndian 4 value.toNat := by
  simp only [wordBytes, littleEndian, ← UInt8.toNat_inj, List.cons.injEq, and_true]
  refine ⟨?_, ?_, ?_, ?_⟩ <;> simp [Nat.shiftRight_eq_div_pow, Nat.div_div_eq_div_mul]

theorem doubleBytes_eq (value : UInt64) : doubleBytes value = littleEndian 8 value.toNat := by
  have low : value.toUInt32.toNat = value.toNat % 256 ^ 4 := rfl
  have high : (value >>> 32).toUInt32.toNat = value.toNat / 256 ^ 4 % 256 ^ 4 := by
    simp [Nat.shiftRight_eq_div_pow]
  rw [doubleBytes, wordBytes_eq, wordBytes_eq, low, high, littleEndian_mod, littleEndian_mod]
  exact (littleEndian_add 4 4 value.toNat).symm

@[simp] theorem byte_empty (address : UInt32) : empty.byte address = 0 :=
  Std.HashMap.getD_empty

@[simp] theorem word_empty (address : UInt32) : empty.word address = 0 := by
  simp only [word, byte_empty]
  rfl

theorem byte_writeByte (image : Image) (address : UInt32) (value : UInt8) :
    (image.writeByte address value).byte = FlatMemory.store image.byte address value := by
  funext a
  simp only [writeByte, byte, Std.HashMap.getD_insert, beq_iff_eq, FlatMemory.store,
    eq_comm (a := address)]

theorem byte_writeBytes (image : Image) (address : UInt32) (count value : Nat) :
    (image.writeBytes address (littleEndian count value)).byte
      = FlatMemory.storeAll image.byte (cellsOf address count value) := by
  induction count generalizing image address value with
  | zero => rfl
  | succ count ih =>
      rw [littleEndian, writeBytes, ih, byte_writeByte]
      rfl

theorem byte_writeWord (image : Image) (address value : UInt32) :
    (image.writeWord address value).byte
      = FlatMemory.storeAll image.byte (cellsOf address 4 value.toNat) := by
  rw [writeWord, wordBytes_eq, byte_writeBytes]

theorem byte_writeDouble (image : Image) (address : UInt32) (value : UInt64) :
    (image.writeDouble address value).byte
      = FlatMemory.storeAll image.byte (cellsOf address 8 value.toNat) := by
  rw [writeDouble, doubleBytes_eq, byte_writeBytes]

/-- A word is the value of four bytes. -/
theorem toNat_word (image : Image) (address : UInt32) :
    (image.word address).toNat = FlatMemory.value image.byte address 4 := by
  rw [word, Bus.toNat_joinBytes]
  simp only [FlatMemory.value, UInt32.add_assoc, UInt32.reduceAdd]
  omega

/-- A 64-bit value is the value of eight bytes. -/
theorem toNat_double (image : Image) (address : UInt32) :
    (image.bus.double address).toNat = FlatMemory.value image.byte address 8 := by
  show (Bus.joinWords (image.word address) (image.word (address + 4))).toNat = _
  rw [Bus.toNat_joinWords, toNat_word, toNat_word]
  exact (FlatMemory.value_add image.byte address 4 4).symm

/-! ## §4. Reading back what was written. -/

theorem word_writeWord (image : Image) (address value : UInt32) :
    (image.writeWord address value).word address = value := by
  rw [← UInt32.toNat_inj, toNat_word, byte_writeWord,
    FlatMemory.value_storeAll_cellsOf _ _ (by decide)]
  exact Nat.mod_eq_of_lt value.toNat_lt

theorem double_writeDouble (image : Image) (address : UInt32) (value : UInt64) :
    (image.writeDouble address value).bus.double address = value := by
  rw [← UInt64.toNat_inj, toNat_double, byte_writeDouble,
    FlatMemory.value_storeAll_cellsOf _ _ (by decide)]
  exact Nat.mod_eq_of_lt value.toNat_lt

theorem single_writeSingle (image : Image) (address : UInt32) (value : Single) :
    (image.writeSingle address value).bus.single address = value := by
  show Single.mk ((image.writeWord address value.bits).word address) = value
  rw [word_writeWord]

/-- A run is apart from the word at an address. -/
def Apart (address : UInt32) (count : Nat) (a : UInt32) : Prop :=
  ∀ i < 4, count ≤ (a + UInt32.ofNat i - address).toNat

instance (address : UInt32) (count : Nat) (a : UInt32) : Decidable (Apart address count a) := by
  unfold Apart
  infer_instance

theorem word_writeWord_of_apart (image : Image) {address a : UInt32} (value : UInt32)
    (apart : Apart address 4 a) : (image.writeWord address value).word a = image.word a := by
  rw [← UInt32.toNat_inj, toNat_word, toNat_word, byte_writeWord]
  exact FlatMemory.value_congr a 4 fun i hi =>
    FlatMemory.storeAll_cellsOf_beyond _ _ _ _ (apart i hi)

theorem word_writeDouble_of_apart (image : Image) {address a : UInt32} (value : UInt64)
    (apart : Apart address 8 a) : (image.writeDouble address value).word a = image.word a := by
  rw [← UInt32.toNat_inj, toNat_word, toNat_word, byte_writeDouble]
  exact FlatMemory.value_congr a 4 fun i hi =>
    FlatMemory.storeAll_cellsOf_beyond _ _ _ _ (apart i hi)

end Image

end Horizon
