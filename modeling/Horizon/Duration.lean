/-
  Horizon.Duration
  ────────────────
  **LENGTHS OF TIME.**
-/
namespace Horizon

/-- A length of time: whole nanoseconds, as many as 64 bits of seconds can hold. -/
structure Duration where
  /-- The length in nanoseconds. -/
  nanoseconds : Nat
  /-- The seconds fit 64 bits. -/
  bounded : nanoseconds < 0x1_0000_0000_0000_0000 * 1_000_000_000 := by omega
  deriving DecidableEq

namespace Duration

instance : Repr Duration where
  reprPrec d _ := s!"Duration.mk {d.nanoseconds}"

/-- No time at all. -/
def zero : Duration := ⟨0, by decide⟩

instance : Inhabited Duration := ⟨zero⟩

/-- The duration of so many nanoseconds, if it has that many. -/
def ofNanoseconds? (n : Nat) : Option Duration :=
  if h : n < 0x1_0000_0000_0000_0000 * 1_000_000_000 then some ⟨n, h⟩ else none

/-- The duration of a 64-bit count of nanoseconds. -/
def ofWord (n : UInt64) : Duration :=
  ⟨n.toNat, Nat.lt_of_lt_of_le n.toNat_lt (by decide)⟩

/-- The whole seconds. -/
def seconds (d : Duration) : Nat := d.nanoseconds / 1_000_000_000

/-- The nanoseconds beyond the whole seconds. -/
def subsecond (d : Duration) : Nat := d.nanoseconds % 1_000_000_000

/-- The duration of so many milliseconds. -/
def ofMilliseconds (n : UInt32) : Duration :=
  ⟨n.toNat * 1_000_000, by have := n.toNat_lt; omega⟩

end Duration

end Horizon
