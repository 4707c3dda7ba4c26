/-
  Horizon.Proofs.Duration.RoundTrip
  ─────────────────────────────────
  **DURATIONS READ BACK.**

  The text of a duration spells quantities, each a count and the name of a unit:

      1year 2months 3days 4h 5m 6s 7ms 8us 9ns

  The reader takes one quantity a round and adds it to its total, and no round overflows
  as long as the whole sum is a duration.  The quantities of a duration sum up to it, so
  the text reads back, to the nanosecond and up to the longest duration there is.
-/
import Mathlib.Algebra.Group.Nat.Defs
import Horizon.Proofs.Text.Numeral
import Horizon.Duration.Text

namespace Horizon.Duration

open Text

/-! ## §1. Quantities. -/

/-- The name is made of letters and is one that the unit goes by. -/
structure Names (name : String) (unit : TimeUnit) : Prop where
  found : timeUnit? name = some unit
  nonempty : name.toList ≠ []
  letters : ∀ c ∈ name.toList, isUnitLetter c ∧ digit? c = none ∧ isBlank c = false

theorem names_of_all {name : String} {unit : TimeUnit} (found : timeUnit? name = some unit)
    (nonempty : name.toList ≠ [])
    (letters : name.toList.all (fun c => isUnitLetter c && (digit? c).isNone && !isBlank c)) :
    Names name unit := by
  refine ⟨found, nonempty, fun c hc => ?_⟩
  have hletter := List.all_eq_true.mp letters c hc
  simp only [Bool.and_eq_true, Option.isNone_iff_eq_none, Bool.not_eq_true'] at hletter
  exact ⟨hletter.1.1, hletter.1.2, hletter.2⟩

/-- A count of some unit, with the name that the unit goes by. -/
structure Quantity where
  count : Nat
  name : String
  unit : TimeUnit

namespace Quantity

/-- The number and the name of its unit. -/
def chars (q : Quantity) : List Char := decimal q.count ++ q.name.toList

/-- The nanoseconds of a unit's base. -/
def baseSize : Base → Nat
  | .nanoseconds => 1
  | .seconds => 1_000_000_000

/-- The length in nanoseconds. -/
def nanoseconds (q : Quantity) : Nat := q.count * q.unit.size * baseSize q.unit.base

/-- The name is that of the unit, the count fits a word, and of a unit that counts
nanoseconds there is less than a second. -/
structure Legible (q : Quantity) : Prop where
  named : Names q.name q.unit
  counted : q.count < 2 ^ 64
  small : q.unit.base = .nanoseconds → q.count * q.unit.size < 1_000_000_000

end Quantity

/-- Quantities with single spaces between them. -/
def spell : List Quantity → List Char
  | [] => []
  | [q] => q.chars
  | q :: r :: qs => q.chars ++ ' ' :: spell (r :: qs)

/-- The sum of quantities, in nanoseconds. -/
def total : List Quantity → Nat
  | [] => 0
  | q :: qs => q.nanoseconds + total qs

theorem total_nil : total [] = 0 := rfl

theorem total_cons (q : Quantity) (qs : List Quantity) :
    total (q :: qs) = q.nanoseconds + total qs := rfl

/-! ## §2. Reading one quantity. -/

theorem word_of_lt {n : Nat} (h : n < 2 ^ 64) : word n = .ok n := by
  unfold word
  exact if_pos h

theorem readNumber_append {digits : List Char} (h : AllDigits digits) {value : Nat}
    (hv : Nat.ofDigitChars 10 digits value < 2 ^ 64) {c : Char} (hc : isUnitLetter c)
    (hd : digit? c = none) (hb : isBlank c = false) (rest : List Char) (offset : Nat) :
    ∃ next, readNumber value offset (digits ++ c :: rest)
      = .ok (Nat.ofDigitChars 10 digits value, none, next, c :: rest) := by
  induction digits generalizing value offset with
  | nil => exact ⟨offset, by simp [readNumber, hd, hb, hc]⟩
  | cons d digits ih =>
      have hdigit : digit? d = some (d.toNat - 48) := digitValue?_of_isDigit h.head
      rw [ofDigitChars_step] at hv ⊢
      have hle := ofDigitChars_le digits (value * 10 + (d.toNat - 48))
      have hword := word_of_lt (n := value * 10 + (d.toNat - 48)) (by omega)
      obtain ⟨next, hnext⟩ := ih h.tail hv (offset + d.utf8Size)
      refine ⟨next, ?_⟩
      rw [List.cons_append, readNumber, hdigit]
      simp only [hword]
      exact hnext

theorem readUnit_append {letters : List Char}
    (h : ∀ c ∈ letters, isUnitLetter c ∧ digit? c = none ∧ isBlank c = false)
    {tail rest : List Char} (ht : tail = [] ∧ rest = [] ∨ tail = ' ' :: rest) (offset : Nat) :
    ∃ next, readUnit offset (letters ++ tail) = .ok (letters, next, rest) := by
  induction letters generalizing offset with
  | nil =>
      rcases ht with ⟨rfl, rfl⟩ | rfl
      · exact ⟨offset, rfl⟩
      · exact ⟨offset + ' '.utf8Size, rfl⟩
  | cons c letters ih =>
      obtain ⟨hl, hd, hb⟩ := h c (by simp)
      obtain ⟨next, hnext⟩ := ih (fun d hm => h d (by simp [hm])) (offset + c.utf8Size)
      refine ⟨next, ?_⟩
      simp only [List.cons_append, readUnit, hd, hb, hl, hnext]
      rfl

theorem addAmount_nanoseconds {sum amount : Nat} (hs : sum + amount < 2 ^ 64 * 1_000_000_000)
    (ha : amount < 1_000_000_000) : addAmount sum .nanoseconds amount = .ok (sum + amount) := by
  have hword := word_of_lt (n := sum % 1_000_000_000 + amount) (by omega)
  unfold addAmount
  simp only [hword, bind, Except.bind]
  exact if_pos hs

theorem addAmount_seconds {sum amount : Nat}
    (hs : sum + amount * 1_000_000_000 < 2 ^ 64 * 1_000_000_000) :
    addAmount sum .seconds amount = .ok (sum + amount * 1_000_000_000) := by
  unfold addAmount
  exact if_pos hs

/-- Adding a quantity does not overflow if the sum is a duration. -/
theorem addNumber_quantity {q : Quantity} (h : q.Legible) {sum : Nat}
    (hs : sum + q.nanoseconds < 2 ^ 64 * 1_000_000_000) :
    addNumber sum q.count none q.unit = .ok (sum + q.nanoseconds) := by
  unfold Quantity.nanoseconds at hs ⊢
  -- the two kinds of units are added up in different words, each with its own check
  cases hb : q.unit.base with
  | nanoseconds =>
      have hsmall := h.small hb
      rw [hb, Quantity.baseSize, Nat.mul_one] at hs
      have hword := word_of_lt (n := q.count * q.unit.size) (by omega)
      simp only [addNumber, hb, hword, bind, Except.bind, addAmount_nanoseconds hs hsmall,
        Quantity.baseSize, Nat.mul_one]
  | seconds =>
      rw [hb, Quantity.baseSize] at hs
      have hword := word_of_lt (n := q.count * q.unit.size) (by omega)
      simp only [addNumber, hb, hword, bind, Except.bind, addAmount_seconds hs, Quantity.baseSize]

/-- One round of the reader takes one quantity. -/
theorem readParts_quantity {q : Quantity} (h : q.Legible) {sum : Nat}
    (hs : sum + q.nanoseconds < 2 ^ 64 * 1_000_000_000) {tail rest : List Char}
    (ht : tail = [] ∧ rest = [] ∨ tail = ' ' :: rest) (first : Bool) (offset fuel : Nat) :
    ∃ next, readParts sum first offset (q.chars ++ tail) (fuel + 1)
      = readParts (sum + q.nanoseconds) false next rest fuel := by
  have hall := allDigits_decimal q.count
  have hvalue : Nat.ofDigitChars 10 (decimal q.count) 0 = q.count :=
    Nat.ofDigitChars_ten_toDigits
  obtain ⟨u, us, hu⟩ : ∃ u us, q.name.toList = u :: us :=
    List.exists_cons_of_ne_nil h.named.nonempty
  obtain ⟨hul, hud, hub⟩ := h.named.letters u (by rw [hu]; simp)
  cases hd : decimal q.count with
  | nil => exact absurd hd (decimal_ne_nil _)
  | cons d digits =>
      rw [hd] at hall hvalue
      have hdigit : digit? d = some (d.toNat - 48) := digitValue?_of_isDigit hall.head
      have hvalue : Nat.ofDigitChars 10 digits (d.toNat - 48) = q.count := by
        rw [← hvalue, ofDigitChars_step, Nat.zero_mul, Nat.zero_add]
      -- the three scanners in turn: first digit, further digits, letters
      obtain ⟨behindNumber, hnumber⟩ := readNumber_append hall.tail (by rw [hvalue]; exact h.counted)
        hul hud hub (us ++ tail) (offset + d.utf8Size)
      obtain ⟨behindUnit, hunit⟩ := readUnit_append h.named.letters ht behindNumber
      have htext : q.chars ++ tail = d :: (digits ++ u :: (us ++ tail)) := by
        simp [Quantity.chars, hd, hu]
      have hunit : readUnit behindNumber (u :: (us ++ tail))
          = .ok (q.name.toList, behindUnit, rest) := by
        rw [← hunit, hu, List.cons_append]
      have hnamed : unitNamed q.count q.name.toList = .ok q.unit := by
        unfold unitNamed
        rw [String.ofList_toList, h.named.found]
      refine ⟨behindUnit, ?_⟩
      rw [htext, readParts]
      simp only [firstDigit, hdigit, hnumber, hvalue, hunit, hnamed, addNumber_quantity h hs,
        bind, Except.bind]

/-! ## §3. Reading all of them. -/

/-- **Quantities read back** as what they are in all. -/
theorem readParts_spell {qs : List Quantity}
    (h : ∀ q ∈ qs, q.Legible) {sum : Nat} (hs : sum + total qs < 2 ^ 64 * 1_000_000_000)
    {first : Bool} (hf : first = true → qs ≠ []) (offset : Nat) {fuel : Nat} (hfuel : qs.length < fuel) :
    readParts sum first offset (spell qs) fuel = .ok (sum + total qs) := by
  induction qs generalizing sum first offset fuel with
  | nil =>
      obtain ⟨fuel, rfl⟩ : ∃ f, fuel = f + 1 := ⟨fuel - 1, by omega⟩
      have hfirst : first = false := by
        cases first with
        | false => rfl
        | true => exact absurd rfl (hf rfl)
      simp [readParts, spell, firstDigit, hfirst, total_nil, bind, Except.bind]
  | cons q qs ih =>
      obtain ⟨fuel, rfl⟩ : ∃ f, fuel = f + 1 := ⟨fuel - 1, by omega⟩
      have hq := h q (by simp)
      have htotal : sum + total (q :: qs) = sum + q.nanoseconds + total qs := by
        rw [total_cons, Nat.add_assoc]
      rw [htotal] at hs ⊢
      have ih := @ih (fun r hr => h r (by simp [hr])) (sum + q.nanoseconds) hs false
        (by simp)
      have hlength : qs.length < fuel := by simpa using hfuel
      have hround : sum + q.nanoseconds < 2 ^ 64 * 1_000_000_000 := by omega
      -- a blank follows unless the quantity is the last one
      cases qs with
      | nil =>
          obtain ⟨next, hnext⟩ := readParts_quantity hq hround
            (Or.inl ⟨rfl, rfl⟩) first offset fuel
          rw [List.append_nil] at hnext
          rw [spell, hnext]
          exact ih next hlength
      | cons r qs =>
          obtain ⟨next, hnext⟩ := readParts_quantity hq hround
            (Or.inr rfl) first offset fuel
          rw [spell, hnext]
          exact ih next hlength

/-! ## §4. The quantities of a duration. -/

/-- A quantity whose unit has a plural. -/
def counted (name : String) (count : Nat) (unit : TimeUnit) : Quantity :=
  ⟨count, if count = 1 then name else name ++ "s", unit⟩

/-- From years down to nanoseconds, those that are zero included. -/
def quantities (d : Duration) : List Quantity :=
  let inYear := d.seconds % yearSeconds
  let inMonth := inYear % monthSeconds
  let inDay := inMonth % 86400
  [counted "year" (d.seconds / yearSeconds) timeUnits[9],
   counted "month" (inYear / monthSeconds) timeUnits[8],
   counted "day" (inMonth / 86400) timeUnits[6],
   ⟨inDay / 3600, "h", timeUnits[5]⟩,
   ⟨inDay % 3600 / 60, "m", timeUnits[4]⟩,
   ⟨inDay % 60, "s", timeUnits[3]⟩,
   ⟨d.subsecond / 1_000_000, "ms", timeUnits[2]⟩,
   ⟨d.subsecond / 1000 % 1000, "us", timeUnits[1]⟩,
   ⟨d.subsecond % 1000, "ns", timeUnits[0]⟩]

/-- The quantities that are written: no zeros, unless nothing else is there. -/
def spelled (d : Duration) : List Quantity :=
  if d.nanoseconds = 0 then [⟨0, "s", timeUnits[3]⟩] else d.quantities.filter (·.count ≠ 0)

theorem spell_eq_intercalate (qs : List Quantity) :
    spell qs = [' '].intercalate (qs.map Quantity.chars) := by
  fun_induction spell qs with
  | case1 => rfl
  | case2 q => simp
  | case3 q r qs ih => simp [ih, List.intercalate_cons_cons]

theorem unitPart_eq (name : String) (n : Nat) (unit : TimeUnit) :
    (unitPart name n).map String.toList
      = ([Quantity.mk n name unit].filter (·.count ≠ 0)).map Quantity.chars := by
  have hname : toString name = name := rfl
  by_cases h : n = 0
  · simp [unitPart, h]
  · simp [unitPart, h, hname, Quantity.chars, decimal]

theorem countedPart_eq (name : String) (n : Nat) (unit : TimeUnit) :
    (countedPart name n).map String.toList
      = ([counted name n unit].filter (·.count ≠ 0)).map Quantity.chars := by
  have hname : toString name = name := rfl
  by_cases h : n = 0
  · simp [countedPart, counted, h]
  · by_cases h1 : n = 1
    · simp [countedPart, counted, h1, hname, Quantity.chars, decimal]
    · simp [countedPart, counted, h, h1, hname, Quantity.chars, decimal]

/-- The parts of a text are the quantities that are not zero. -/
theorem parts_eq (d : Duration) :
    d.parts.map String.toList = (d.quantities.filter (·.count ≠ 0)).map Quantity.chars := by
  -- one quantity at a time, so that each meets the part that is written for it
  have cons : ∀ q r : Quantity, ∀ qs : List Quantity,
      ((q :: r :: qs).filter (·.count ≠ 0)).map Quantity.chars
        = ([q].filter (·.count ≠ 0)).map Quantity.chars
          ++ ((r :: qs).filter (·.count ≠ 0)).map Quantity.chars := by
    intro q r qs
    rw [← List.map_append, ← List.filter_append]
    rfl
  simp only [quantities, cons, ← countedPart_eq, ← unitPart_eq, parts, List.map_append,
    List.append_assoc]

theorem toList_text (d : Duration) : d.text.toList = spell d.spelled := by
  unfold text spelled
  by_cases h : d.nanoseconds = 0
  · rw [if_pos h, if_pos h]
    decide
  · rw [if_neg h, if_neg h, String.toList_intercalate, parts_eq, spell_eq_intercalate]
    rfl

/-! ## §5. The round trip. -/

theorem Quantity.legible_of_seconds {name : String} {count : Nat} {unit : TimeUnit}
    (hn : Names name unit) (hu : unit.base = .seconds) (hc : count < 2 ^ 64) :
    (Quantity.mk count name unit).Legible := by
  refine ⟨hn, hc, fun h => ?_⟩
  rw [hu] at h
  exact absurd h (by decide)

theorem Quantity.legible_counted {name : String} {count : Nat} {unit : TimeUnit}
    (one : Names name unit) (more : Names (name ++ "s") unit) (hu : unit.base = .seconds)
    (hc : count < 2 ^ 64) : (counted name count unit).Legible := by
  unfold counted
  split
  · exact legible_of_seconds one hu hc
  · exact legible_of_seconds more hu hc

/-- Every quantity of a duration can be read. -/
theorem legible_quantities (d : Duration) : ∀ q ∈ d.quantities, q.Legible := by
  have hseconds : d.seconds < 2 ^ 64 := by
    have := d.bounded
    unfold seconds
    omega
  have hsubsecond : d.subsecond < 1_000_000_000 := Nat.mod_lt _ (by decide)
  have hmillis : Names "ms" timeUnits[2] := names_of_all rfl (by decide) (by decide)
  have hmicros : Names "us" timeUnits[1] := names_of_all rfl (by decide) (by decide)
  have hnanos : Names "ns" timeUnits[0] := names_of_all rfl (by decide) (by decide)
  unfold quantities yearSeconds monthSeconds
  simp only [List.forall_mem_cons]
  -- only the first six units count whole seconds
  refine ⟨?years, ?months, ?days, ?hours, ?minutes, ?seconds, ⟨hmillis, ?_, ?_⟩,
    ⟨hmicros, ?_, ?_⟩, ⟨hnanos, ?_, ?_⟩, fun q hq => absurd hq (by simp)⟩
  case years | months | days =>
    all_goals
      exact Quantity.legible_counted (names_of_all rfl (by decide) (by decide))
        (names_of_all rfl (by decide) (by decide)) rfl (by omega)
  case hours | minutes | seconds =>
    all_goals
      exact Quantity.legible_of_seconds (names_of_all rfl (by decide) (by decide)) rfl (by omega)
  all_goals
    simp only [timeUnits, List.getElem_cons_zero, List.getElem_cons_succ]
    omega

theorem legible_spelled (d : Duration) : ∀ q ∈ d.spelled, q.Legible := by
  unfold spelled
  split
  · simp only [List.forall_mem_singleton]
    exact Quantity.legible_of_seconds (names_of_all rfl (by decide) (by decide)) rfl
      (by decide)
  · exact fun q hq => legible_quantities d q ((List.mem_filter.mp hq).1)

theorem spelled_ne_nil (d : Duration) (h : total d.spelled = d.nanoseconds) :
    d.spelled ≠ [] := by
  intro hnil
  have hzero : d.nanoseconds = 0 := by
    rw [hnil, total_nil] at h
    exact h.symm
  unfold spelled at hnil
  rw [if_pos hzero] at hnil
  exact absurd hnil (by simp)

theorem total_quantities (d : Duration) : total d.quantities = d.nanoseconds := by
  unfold quantities
  simp only [total_cons, total_nil]
  unfold counted Quantity.nanoseconds
  simp only [timeUnits, Quantity.baseSize, List.getElem_cons_zero, List.getElem_cons_succ]
  -- every unit takes the remainder that the one before it left
  unfold seconds subsecond yearSeconds monthSeconds
  omega

/-- What is written adds up to the duration. -/
theorem total_spelled (d : Duration) : total d.spelled = d.nanoseconds := by
  have skip : ∀ qs : List Quantity, total (qs.filter (·.count ≠ 0)) = total qs := by
    intro qs
    induction qs with
    | nil => rfl
    | cons q qs ih =>
        rw [List.filter_cons]
        by_cases h : q.count = 0
        · rw [if_neg (by simp [h]), ih, total_cons, Quantity.nanoseconds, h]
          simp
        · rw [if_pos (by simp [h]), total_cons, ih, total_cons]
  unfold spelled
  by_cases h : d.nanoseconds = 0
  · rw [if_pos h, h]
    rw [total_cons, total_nil, Quantity.nanoseconds]
    simp
  · rw [if_neg h, skip, total_quantities]

theorem length_spell {qs : List Quantity} (h : ∀ q ∈ qs, q.Legible) :
    2 * qs.length ≤ (spell qs).length := by
  have hchars : ∀ q ∈ qs, 2 ≤ q.chars.length := by
    intro q hq
    have hnumber := List.length_pos_iff.mpr (decimal_ne_nil q.count)
    have hname := List.length_pos_iff.mpr (h q hq).named.nonempty
    rw [Quantity.chars, List.length_append]
    omega
  fun_induction spell qs with
  | case1 => exact Nat.le_refl _
  | case2 q => simpa using hchars
  | case3 q r qs ih =>
      have ih := ih (fun q hq => h q (by simp [hq])) (fun q hq => hchars q (by simp [hq]))
      have hq := hchars q (by simp)
      simp only [List.length_cons, List.length_append] at ih ⊢
      omega

/-- **Every duration reads back from its text**, to the nanosecond. -/
theorem parse_text (d : Duration) : parse d.text = .ok d := by
  have htotal := total_spelled d
  have hne := spelled_ne_nil d htotal
  have hlength := length_spell (legible_spelled d)
  have hpositive := List.length_pos_iff.mpr hne
  -- a bare zero would be read apart, but no text is as short as that
  have hzero : d.text ≠ "0" := by
    intro h
    have := congrArg (fun s => s.toList.length) h
    simp only [toList_text] at this
    have : (spell d.spelled).length = 1 := this
    omega
  have hread : readParts 0 true 0 (spell d.spelled) ((spell d.spelled).length + 1)
      = .ok (0 + total d.spelled) :=
    readParts_spell (legible_spelled d) (by rw [htotal, Nat.zero_add]; exact d.bounded)
      (fun _ => hne) 0 (by omega)
  rw [Nat.zero_add, htotal] at hread
  have hfits : ofNanoseconds? d.nanoseconds = some d := by
    unfold ofNanoseconds?
    rw [dif_pos d.bounded]
  unfold parse
  rw [if_neg hzero, toList_text, hread]
  simp only [bind, Except.bind, hfits]

end Horizon.Duration
