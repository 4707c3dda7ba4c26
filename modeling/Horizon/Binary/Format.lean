/-
  Horizon.Binary.Format
  ─────────────────────
  **BINARY FLOATING POINT AS EXACT ARITHMETIC.**

  A datum of an interchange format is its bits; its value is a sign, a natural
  significand and a power of two.  Every operation works on exact quotients of
  natural numbers and rounds once, to the nearest datum, ties to the even one, so no
  machine arithmetic is involved and every step can be reasoned about.
-/
namespace Horizon.Binary

-- Powers are those of the language itself, also where algebraic structures bring their own.
attribute [local instance (20000)] instPowNat

/-! ## §1. Formats and decoding. -/

/-- An interchange format: how many bits hold the fraction and the exponent. -/
structure Format where
  /-- Bits of the fraction field. -/
  fractionBits : Nat
  /-- Bits of the exponent field. -/
  exponentBits : Nat
  deriving Repr, DecidableEq

/-- The 32-bit format. -/
def Format.single : Format := ⟨23, 8⟩

/-- The 64-bit format. -/
def Format.double : Format := ⟨52, 11⟩

/-- The exponent field of infinities and of what is not a number. -/
def Format.topExponent (f : Format) : Nat := 2 ^ f.exponentBits - 1

/-- The bits of positive infinity. -/
def Format.infinityBits (f : Format) : Nat := f.topExponent * 2 ^ f.fractionBits

/-- The bit that marks a negative datum. -/
def Format.signBit (f : Format) : Nat := 2 ^ (f.fractionBits + f.exponentBits)

/-- The power of two that the last fraction bit of the smallest data counts. -/
def Format.leastExponent (f : Format) : Int :=
  2 - 2 ^ (f.exponentBits - 1) - f.fractionBits

/-- What the bits of a format stand for. -/
inductive Datum where
  /-- Not a number. -/
  | nan (negative : Bool)
  /-- An infinity. -/
  | infinite (negative : Bool)
  /-- The number `significand * 2 ^ exponent`, negated if `negative`. -/
  | finite (negative : Bool) (significand : Nat) (exponent : Int)
  deriving Repr, DecidableEq

/-- Read the fields of a format. -/
def Format.decode (f : Format) (bits : Nat) : Datum :=
  let negative := bits / f.signBit % 2 == 1
  let exponent := bits / 2 ^ f.fractionBits % 2 ^ f.exponentBits
  let fraction := bits % 2 ^ f.fractionBits
  if exponent = f.topExponent then
    if fraction = 0 then .infinite negative else .nan negative
  else if exponent = 0 then .finite negative fraction f.leastExponent
  else .finite negative (2 ^ f.fractionBits + fraction) (f.leastExponent + exponent - 1)

/-! ## §2. Rounding. -/

/-- The natural number nearest to a quotient, the even one of two equally near. -/
def roundQuotient (numerator denominator : Nat) : Nat :=
  let quotient := numerator / denominator
  let doubled := 2 * (numerator % denominator)
  if doubled < denominator then quotient
  else if denominator < doubled then quotient + 1
  else quotient + quotient % 2

/-- `numerator / denominator / 2 ^ exponent` as a quotient of natural numbers. -/
def scaleQuotient (numerator denominator : Nat) (exponent : Int) : Nat × Nat :=
  if 0 ≤ exponent then (numerator, denominator * 2 ^ exponent.toNat)
  else (numerator * 2 ^ (-exponent).toNat, denominator)

/-- The exponent that gives a positive quotient a significand of full width, or the
least exponent of the format. -/
def Format.exponentOf (f : Format) (numerator denominator : Nat) : Int :=
  let estimate : Int := (numerator.log2 : Int) - denominator.log2 - f.fractionBits
  let scaled := scaleQuotient numerator denominator estimate
  let exponent := if scaled.1 / scaled.2 < 2 ^ f.fractionBits then estimate - 1 else estimate
  max exponent f.leastExponent

/-- The bits of the datum nearest to a quotient, ties to even.  A significand that
rounds up to the next power of two carries into the exponent field by itself. -/
def Format.round (f : Format) (negative : Bool) (numerator denominator : Nat) : Nat :=
  let sign := if negative then f.signBit else 0
  if numerator = 0 then sign
  else
    let exponent := f.exponentOf numerator denominator
    let scaled := scaleQuotient numerator denominator exponent
    let significand := roundQuotient scaled.1 scaled.2
    let bits := significand + (exponent - f.leastExponent).toNat * 2 ^ f.fractionBits
    sign + min bits f.infinityBits

/-- The datum nearest to `coefficient * 10 ^ exponent`.  Exponents far outside the
range of the format are settled without forming the power. -/
def Format.ofDecimal (f : Format) (negative : Bool) (coefficient : Nat) (exponent : Int) : Nat :=
  let sign := if negative then f.signBit else 0
  let magnitude : Int := (Nat.toDigits 10 coefficient).length + exponent
  let bound : Int := 2 ^ f.exponentBits
  if coefficient = 0 then sign
  else if bound < magnitude then sign + f.infinityBits
  else if magnitude < -bound then sign
  else if 0 ≤ exponent then f.round negative (coefficient * 10 ^ exponent.toNat) 1
  else f.round negative coefficient (10 ^ (-exponent).toNat)

/-- The datum of one value in another format: one rounding, signs kept. -/
def Format.ofDatum (f : Format) : Datum → Nat
  | .nan negative =>
    (if negative then f.signBit else 0) + f.infinityBits + 2 ^ (f.fractionBits - 1)
  | .infinite negative => (if negative then f.signBit else 0) + f.infinityBits
  | .finite negative significand exponent =>
    if 0 ≤ exponent then f.round negative (significand * 2 ^ exponent.toNat) 1
    else f.round negative significand (2 ^ (-exponent).toNat)

/-! ## §3. Data of the two formats. -/

/-- A 32-bit datum. -/
structure Single where
  /-- The bits. -/
  bits : UInt32
  deriving Repr, DecidableEq, Inhabited

/-- A 64-bit datum. -/
structure Double where
  /-- The bits. -/
  bits : UInt64
  deriving Repr, DecidableEq, Inhabited

/-- What the bits stand for. -/
def Single.datum (x : Single) : Datum := Format.single.decode x.bits.toNat

/-- What the bits stand for. -/
def Double.datum (x : Double) : Datum := Format.double.decode x.bits.toNat

/-- The nearest 32-bit datum of a 64-bit one. -/
def Double.toSingle (x : Double) : Single :=
  ⟨UInt32.ofNat (Format.single.ofDatum x.datum)⟩

/-- The 64-bit datum of a 32-bit one; finite values stay what they are. -/
def Single.toDouble (x : Single) : Double :=
  ⟨UInt64.ofNat (Format.double.ofDatum x.datum)⟩

/-- The nearest 32-bit datum of a whole number. -/
def Single.ofInt (i : Int) : Single :=
  ⟨UInt32.ofNat (Format.single.round (i < 0) i.natAbs 1)⟩

/-- The nearest 64-bit datum of a whole number. -/
def Double.ofNat (n : Nat) : Double :=
  ⟨UInt64.ofNat (Format.double.round false n 1)⟩

/-- The nearest 64-bit datum of a quotient. -/
def Double.ofQuotient (numerator denominator : Nat) : Double :=
  ⟨UInt64.ofNat (Format.double.round false numerator denominator)⟩

/-- The nearest 64-bit datum of `coefficient * 10 ^ exponent`. -/
def Double.ofDecimal (negative : Bool) (coefficient : Nat) (exponent : Int) : Double :=
  ⟨UInt64.ofNat (Format.double.ofDecimal negative coefficient exponent)⟩

/-! ## §4. Exact values. -/

/-- The magnitude of a datum as a quotient; what is not finite counts as zero. -/
def Datum.quotient : Datum → Nat × Nat
  | .finite _ significand exponent =>
    if 0 ≤ exponent then (significand * 2 ^ exponent.toNat, 1)
    else (significand, 2 ^ (-exponent).toNat)
  | _ => (0, 1)

/-- The rounded quotient of two non-negative finite data, the second not zero. -/
def Double.div (x y : Double) : Double :=
  let a := x.datum.quotient
  let b := y.datum.quotient
  .ofQuotient (a.1 * b.2) (a.2 * b.1)

/-- The rounded product of two non-negative finite data. -/
def Double.mul (x y : Double) : Double :=
  let a := x.datum.quotient
  let b := y.datum.quotient
  .ofQuotient (a.1 * b.1) (a.2 * b.2)

/-- The whole part of a non-negative finite datum. -/
def Double.floor (x : Double) : Nat :=
  let a := x.datum.quotient
  a.1 / a.2

/-- The datum lies from 0 to 1, both included; negative zero does, what is not a
number does not. -/
def Single.inUnitInterval (x : Single) : Bool :=
  match x.datum with
  | .finite negative significand exponent =>
    significand == 0 ||
      (!negative && (let a := Datum.quotient (.finite false significand exponent); a.1 ≤ a.2))
  | _ => false

end Horizon.Binary
