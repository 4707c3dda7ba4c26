/-
  Horizon.Binary.Decimal
  ──────────────────────
  **BINARY DATA AS DECIMAL TEXT.**

  Two ways of writing a datum:

      shortest   the fewest digits that read back as the same datum, and of those
                 the ones nearest to it
      fixed      a given number of places, ties to the even digit

  Both are exact.  What differs from one output to the next (where an exponent is
  written, whether a whole number shows a point, which of two equally near digits is
  taken) is a `Style`.
-/
import Horizon.Binary.Format

namespace Horizon.Binary

-- Powers are read as in the module of the formats.
attribute [local instance (20000)] instPowNat

/-! ## §1. The shortest digits. -/

/-- The number `coefficient * 10 ^ exponent`. -/
structure Decimal where
  /-- The digits, as one number. -/
  coefficient : Nat
  /-- The power of ten that the last digit counts. -/
  exponent : Int
  deriving Repr, DecidableEq

/-- `numerator / denominator / 10 ^ exponent` as a quotient of natural numbers. -/
def tenScale (numerator denominator : Nat) (exponent : Int) : Nat × Nat :=
  if 0 ≤ exponent then (numerator, denominator * 10 ^ exponent.toNat)
  else (numerator * 10 ^ (-exponent).toNat, denominator)

/-- The power of ten of the first digit of a positive quotient. -/
def leadingExponent (numerator denominator : Nat) : Int :=
  if denominator ≤ numerator then
    (Nat.toDigits 10 (numerator / denominator)).length - 1
  else
    -(Nat.toDigits 10 ((denominator - 1) / numerator)).length

/-- The open or closed interval of the numbers that round to one datum, all four times
`2 ^ scale`: the datum's own value, the lower end and the upper end. -/
structure Neighbourhood where
  /-- The value of the datum. -/
  value : Nat
  /-- The least number that may round to it. -/
  lower : Nat
  /-- The greatest number that may round to it. -/
  upper : Nat
  /-- The power of two that the three numbers count. -/
  scale : Int
  /-- The two ends round to the datum as well. -/
  closed : Bool
  deriving Repr

/-- The numbers that round to a positive finite datum.  Below a power of two the data
lie twice as close, so the lower end is nearer there. -/
def Format.neighbourhood (f : Format) (significand : Nat) (exponent : Int) : Neighbourhood :=
  let atPower := significand == 2 ^ f.fractionBits && f.leastExponent < exponent
  { value := 4 * significand
    lower := if atPower then 4 * significand - 1 else 4 * significand - 2
    upper := 4 * significand + 2
    scale := exponent - 2
    closed := significand % 2 == 0 }

/-- `candidate * 10 ^ exponent` rounds to the datum. -/
def Neighbourhood.contains (n : Neighbourhood) (candidate : Nat) (exponent : Int) : Bool :=
  let tens := if 0 ≤ exponent then 10 ^ exponent.toNat else 1
  let parts := if 0 ≤ exponent then 1 else 10 ^ (-exponent).toNat
  let twos := if 0 ≤ n.scale then 2 ^ n.scale.toNat else 1
  let halves := if 0 ≤ n.scale then 1 else 2 ^ (-n.scale).toNat
  let number := candidate * tens * halves
  let lower := n.lower * twos * parts
  let upper := n.upper * twos * parts
  if n.closed then lower ≤ number && number ≤ upper else lower < number && number < upper

/-- Which of two digits is taken if both are equally near. -/
inductive Tie where
  /-- The even one. -/
  | toEven
  /-- The greater one. -/
  | up
  deriving Repr, DecidableEq

/-- The part above a digit is nearer to the next digit than to this one: twice that part
compares with the distance of the two as `order` says. -/
def Tie.exceeds (tie : Tie) (digit : Nat) (order : Ordering) : Bool :=
  match order, tie with
  | .lt, _ => false
  | .gt, _ => true
  | .eq, .toEven => digit % 2 == 1
  | .eq, .up => true

/-- The nearer to the datum of the two neighbours on the grid of `10 ^ exponent` that
round to it, if one does. -/
def Neighbourhood.onGrid (n : Neighbourhood) (tie : Tie) (exponent : Int) : Option Decimal :=
  let value := scaleQuotient n.value 1 (-n.scale)
  let scaled := tenScale value.1 value.2 exponent
  let below := scaled.1 / scaled.2
  let above := below + 1
  let nearer :=
    if tie.exceeds below (compare (2 * (scaled.1 % scaled.2)) scaled.2) then [above, below]
    else [below, above]
  (nearer.find? fun candidate => n.contains candidate exponent).map fun c => ⟨c, exponent⟩

/-- Try grids from coarse to fine; the last of them always has a hit. -/
def Neighbourhood.search (n : Neighbourhood) (tie : Tie) (leading : Int) :
    (tries places : Nat) → Decimal
  | 0, _ => ⟨n.value, 0⟩
  | tries + 1, places =>
    match n.onGrid tie (leading - places) with
    | some decimal => decimal
    | none => n.search tie leading tries (places + 1)

/-- Leave out the zeros at the end of the digits. -/
def Decimal.normalize (d : Decimal) : Decimal :=
  go d (Nat.toDigits 10 d.coefficient).length
where
  /-- Drop at most `fuel` zeros. -/
  go (d : Decimal) : Nat → Decimal
    | 0 => d
    | fuel + 1 =>
      if d.coefficient ≠ 0 ∧ d.coefficient % 10 = 0 then
        go ⟨d.coefficient / 10, d.exponent + 1⟩ fuel
      else d

/-- The fewest digits that read back as the positive number `significand * 2 ^ exponent`
of the format.  Seventeen always do for the formats used here. -/
def Format.shortest (f : Format) (tie : Tie) (significand : Nat) (exponent : Int) : Decimal :=
  let value := Datum.quotient (.finite false significand exponent)
  let leading := leadingExponent value.1 value.2
  ((f.neighbourhood significand exponent).search tie leading 17 0).normalize

/-! ## §2. Styles of writing. -/

/-- How digits become text. -/
structure Style where
  /-- A number whose first digit counts a power of ten in this range is written
  without an exponent; without a range every number is. -/
  positional : Option (Int × Int)
  /-- A whole number ends in `.0`. -/
  pointZero : Bool
  /-- The text of what is not a number. -/
  nan : String
  /-- The text of positive infinity. -/
  infinity : String
  /-- Which of two equally near digits is the last one. -/
  tie : Tie
  deriving Repr

/-- Digits without an exponent: zeros are filled in on either side of the point. -/
def Style.positionalText (style : Style) (d : Decimal) : List Char :=
  let digits := Nat.toDigits 10 d.coefficient
  if 0 ≤ d.exponent then
    digits ++ List.replicate d.exponent.toNat '0' ++ (if style.pointZero then ['.', '0'] else [])
  else
    let places := (-d.exponent).toNat
    let whole := digits.take (digits.length - places)
    let fraction := digits.drop (digits.length - places)
    (if whole.isEmpty then ['0'] else whole) ++ '.' ::
      (List.replicate (places - fraction.length) '0' ++ fraction)

/-- Digits with an exponent: one digit before the point, and the exponent with its sign. -/
def exponentText (d : Decimal) : List Char :=
  let digits := Nat.toDigits 10 d.coefficient
  let leading := d.exponent + digits.length - 1
  let fraction := digits.drop 1
  digits.take 1 ++ (if fraction.isEmpty then [] else '.' :: fraction) ++
    'e' :: (if leading < 0 then '-' else '+') :: Nat.toDigits 10 leading.natAbs

/-- A datum of the format in the style. -/
def Style.text (style : Style) (f : Format) : Datum → String
  | .nan _ => style.nan
  | .infinite negative => (if negative then "-" else "") ++ style.infinity
  | .finite negative significand exponent =>
    let d := if significand = 0 then ⟨0, 0⟩ else f.shortest style.tie significand exponent
    let leading := d.exponent + (Nat.toDigits 10 d.coefficient).length - 1
    let positional :=
      match style.positional with
      | none => true
      | some (least, greatest) => least ≤ leading && leading ≤ greatest
    let digits := if positional then style.positionalText d else exponentText d
    (if negative then "-" else "") ++ String.ofList digits

/-- Plain digits, as in messages: `1`, `0.25`, `100000000000000000000`. -/
def Style.plain : Style := ⟨none, false, "NaN", "inf", .up⟩

/-- Plain digits that always show a point. -/
def Style.pointed : Style := ⟨none, true, "NaN", "inf", .up⟩

/-! ## §3. Fixed places. -/

/-- The quotient with `places` decimal places, ties to the even digit. -/
def fixedPlaces (places numerator denominator : Nat) : List Char :=
  let scaled := roundQuotient (numerator * 10 ^ places) denominator
  let digits := Nat.toDigits 10 scaled
  let padded := List.replicate (places + 1 - digits.length) '0' ++ digits
  padded.take (padded.length - places) ++
    (if places = 0 then [] else '.' :: padded.drop (padded.length - places))

/-- A datum with `places` decimal places; the sign of a negative zero is kept. -/
def Datum.fixed (places : Nat) : Datum → String
  | .nan _ => "NaN"
  | .infinite negative => if negative then "-inf" else "inf"
  | .finite negative significand exponent =>
    let value := Datum.quotient (.finite false significand exponent)
    (if negative then "-" else "") ++ String.ofList (fixedPlaces places value.1 value.2)

end Horizon.Binary
