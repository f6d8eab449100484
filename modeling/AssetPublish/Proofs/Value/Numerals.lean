import AssetPublish.Proofs.Number.Shortest
import AssetPublish.Value.Reader
import Mathlib.Data.List.Basic

/-!
# Reading numbers back

Integers are written with all their digits, machine numbers with as few digits as tell them from
all others, with a point, or with a point and a power of ten.  Both are read back.

A machine number is written in one of three forms, for small, moderate and other numbers.  `Numeral`
covers all of them, so that the reader has to be looked at only once, and each form only has to be
shown to be a numeral of the right value.  What is read is then the machine number nearest to that
value, and that this is the number which was written is the theorem on shortest decimals.

## What is here

* `Delimited` — what may stand behind a number.
* `readNumber_toString` — integers are read back.
* `Numeral` — a number as it is written: digits before and behind the point, and a power of ten.
* `readNumber_of_numeral` — what is read for such a number.
* `exists_numeral` — the text of a decimal is one, of the same value.
* `Real.IsFinite`, `readNumber_text` — finite machine numbers are read back.
-/

set_option autoImplicit false

namespace AssetPublish
namespace Value
namespace Reader

variable {c : Char} {cs tail : List Char} {n : Nat}

/-! ## Digits

Reading digits is a fold from the left, and writing them is the inverse of it. -/

/-- What stands behind digits and is none.  Nothing at all is allowed too. -/
def Stops (tail : List Char) : Prop := ∀ c ∈ tail.head?, c.isDigit = false

/-- What may stand behind a number: nothing that goes on with it.  A comma, a bracket, a blank or
the end of the text will do. -/
def Delimited (tail : List Char) : Prop :=
  ∀ c ∈ tail.head?, c.isDigit = false ∧ c ≠ '.' ∧ c ≠ 'e' ∧ c ≠ 'E'

theorem Delimited.stops (h : Delimited tail) : Stops tail := fun c hc => (h c hc).1

theorem stops_cons (h : c.isDigit = false) (cs : List Char) : Stops (c :: cs) := by
  rintro _ ⟨⟩
  exact h

/-- The value as the library has it, so that its lemmas can be used. -/
theorem digitsValue_eq (digits : List Char) :
    digitsValue digits = Nat.ofDigitChars 10 digits 0 := by
  rw [digitsValue, Nat.ofDigitChars]
  congr 1
  funext value c
  rw [Nat.mul_comm]
  rfl

/-- Digits in front count as often as ten to the number of those behind. -/
theorem digitsValue_append (front behind : List Char) :
    digitsValue (front ++ behind) = digitsValue front * 10 ^ behind.length + digitsValue behind := by
  rw [digitsValue_eq, digitsValue_eq, digitsValue_eq, Nat.ofDigitChars_append,
    Nat.ofDigitChars_eq_ofDigitChars_zero, Nat.mul_comm]

theorem digitsValue_zeros (count : Nat) : digitsValue (List.replicate count '0') = 0 := by
  rw [digitsValue_eq, Nat.ofDigitChars_replicate_zero, Nat.mul_zero]

theorem digitsValue_toDigits (n : Nat) : digitsValue (Nat.toDigits 10 n) = n := by
  rw [digitsValue_eq, Nat.ofDigitChars_toDigits (by decide) (by decide)]

/-- All digits are taken up to the first character that is none. -/
theorem readDigits_append {digits : List Char} (hdigits : ∀ c ∈ digits, c.isDigit = true)
    (htail : Stops tail) : readDigits (digits ++ tail) = (digits, tail) := by
  have hend : tail.takeWhile Char.isDigit = [] ∧ tail.dropWhile Char.isDigit = tail := by
    cases tail with
    | nil => exact ⟨rfl, rfl⟩
    | cons c rest =>
      have hc := htail c rfl
      exact ⟨by simp [hc], by simp [hc]⟩
  rw [readDigits, List.takeWhile_append_of_pos hdigits, List.dropWhile_append_of_pos hdigits,
    hend.1, hend.2, List.append_nil]

/-- The digits of a number that is not zero start with another digit. -/
theorem exists_toDigits (h : 0 < n) :
    ∃ first rest, Nat.toDigits 10 n = first :: rest ∧ first ≠ '0' := by
  induction n using Nat.strongRecOn with
  | ind n ih =>
    by_cases hsmall : n < 10
    · have hdigit : ∀ digit < 10, 0 < digit → Nat.digitChar digit ≠ '0' := by decide
      exact ⟨_, [], Nat.toDigits_of_lt_base hsmall, hdigit n hsmall h⟩
    · obtain ⟨first, rest, hfront, hne⟩ := ih (n / 10) (by omega) (by omega)
      refine ⟨first, rest ++ [Nat.digitChar (n % 10)], ?_, hne⟩
      rw [Nat.toDigits_of_base_le (by decide) (by omega), hfront, List.cons_append]

theorem isDigit_of_mem_toDigits (h : c ∈ Nat.toDigits 10 n) : c.isDigit = true :=
  Nat.isDigit_of_mem_toDigits (by decide) (by decide) h

theorem exists_firstDigit (n : Nat) :
    ∃ first rest, Nat.toDigits 10 n = first :: rest ∧ first.isDigit = true := by
  cases hall : Nat.toDigits 10 n with
  | nil => exact absurd (congrArg List.length hall) (Nat.ne_of_gt Nat.length_toDigits_pos)
  | cons first rest =>
    have hmem : first ∈ Nat.toDigits 10 n := by
      rw [hall]
      exact List.mem_cons_self
    exact ⟨first, rest, rfl, isDigit_of_mem_toDigits hmem⟩

/-- The digits of a number before its point: a single zero, or digits of which the first is none.
The reader stops behind a zero, so that no other digits may follow it. -/
def IsWhole (digits : List Char) : Prop :=
  digits = ['0'] ∨
    digits ≠ [] ∧ digits.head? ≠ some '0' ∧ ∀ c ∈ digits, c.isDigit = true

/-- The digits of a number have no zero in front, but for zero itself. -/
theorem isWhole_toDigits (n : Nat) : IsWhole (Nat.toDigits 10 n) := by
  by_cases hzero : n = 0
  · exact Or.inl (by rw [hzero]; rfl)
  · obtain ⟨first, rest, hdigits, hne⟩ := exists_toDigits (Nat.pos_of_ne_zero hzero)
    refine Or.inr ⟨by simp [hdigits], by simpa [hdigits] using hne, fun c hc => ?_⟩
    exact isDigit_of_mem_toDigits hc

theorem IsWhole.isDigit {digits : List Char} (h : IsWhole digits) (hmem : c ∈ digits) :
    c.isDigit = true := by
  rcases h with rfl | ⟨-, -, hdigits⟩
  · exact List.mem_singleton.1 hmem ▸ rfl
  · exact hdigits c hmem

theorem IsWhole.cons {digits : List Char} (h : IsWhole digits) :
    ∃ first rest, digits = first :: rest ∧ first.isDigit = true := by
  rcases h with rfl | ⟨hne, -, hdigits⟩
  · exact ⟨'0', [], rfl, by decide⟩
  · obtain ⟨first, rest, rfl⟩ := List.exists_cons_of_ne_nil hne
    exact ⟨first, rest, rfl, hdigits first List.mem_cons_self⟩

/-- All digits of a number are read, a single zero included. -/
theorem readWhole_append {digits : List Char} (h : IsWhole digits) (htail : Stops tail) :
    readWhole (digits ++ tail) = (digits, tail) := by
  rcases h with rfl | ⟨hne, hzero, hdigits⟩
  · rfl
  · have hall := readDigits_append hdigits htail
    obtain ⟨first, rest, rfl⟩ := List.exists_cons_of_ne_nil hne
    rw [List.cons_append] at hall ⊢
    rw [readWhole, hall]
    exact fun _ h => hzero (congrArg some (List.cons.inj h).1)

/-- Digits have no sign. -/
theorem readSign_append {digits : List Char} (h : IsWhole digits) (tail : List Char) :
    readSign (digits ++ tail) = (false, digits ++ tail) := by
  obtain ⟨first, rest, rfl, hdigit⟩ := h.cons
  rw [List.cons_append, readSign]
  rintro _ heq
  rw [(List.cons.inj heq).1] at hdigit
  exact absurd hdigit (by decide)

/-! ## Integers

An integer has neither a point nor a power of ten, and this is how the reader knows. -/

/-- Nothing behind an integer is read as a power of ten, -/
theorem readExponent_of_delimited (htail : Delimited tail) : readExponent tail = none := by
  cases tail with
  | nil => rfl
  | cons c rest =>
    obtain ⟨-, -, he, hE⟩ := htail c rfl
    simp [readExponent, he, hE]

/-- and nothing as a fraction. -/
theorem readFraction_of_delimited (htail : Delimited tail) : readFraction tail = none := by
  cases tail with
  | nil => rfl
  | cons c rest =>
    obtain ⟨-, hpoint, -⟩ := htail c rfl
    rw [readFraction]
    exact fun _ h => hpoint (List.cons.inj h).1

/-- A number behind its sign is read back. -/
theorem readNumber_of_sign {negative : Bool} {m : Nat} (htail : Delimited tail)
    (hsign : readSign cs = (negative, Nat.toDigits 10 m ++ tail)) :
    readNumber cs = some (int (if negative then -(m : Int) else m), tail) := by
  have hne : (Nat.toDigits 10 m).isEmpty = false := by
    obtain ⟨first, rest, hdigits, -⟩ := (isWhole_toDigits m).cons
    rw [hdigits]
    rfl
  rw [readNumber, hsign]
  simp only [readWhole_append (isWhole_toDigits m) htail.stops, hne,
    readFraction_of_delimited htail, digitsValue_toDigits]
  simp [readExponent_of_delimited htail]

/-- **An integer** is read back.  Integers have no bound here, and so no rounding. -/
theorem readNumber_toString (n : Int) (htail : Delimited tail) :
    readNumber ((toString n).toList ++ tail) = some (int n, tail) := by
  cases n with
  | ofNat m =>
    have hdigits : (toString (Int.ofNat m)).toList = Nat.toDigits 10 m := Nat.toList_repr
    rw [hdigits]
    exact readNumber_of_sign htail (readSign_append (isWhole_toDigits m) tail)
  | negSucc m =>
    have hdigits : (toString (Int.negSucc m)).toList = '-' :: Nat.toDigits 10 (m + 1) := by
      show ("-" ++ (m + 1).repr).toList = _
      rw [String.toList_append, Nat.toList_repr]
      rfl
    rw [hdigits]
    have hsign : readSign ('-' :: (Nat.toDigits 10 (m + 1) ++ tail))
        = (true, Nat.toDigits 10 (m + 1) ++ tail) := rfl
    exact readNumber_of_sign htail hsign

/-! ## Machine numbers as they are written

The parts are read one after the other: the digits before the point, those behind it, and the power
of ten. -/

/-- A machine number as it is written: its digits before the point and behind it, and perhaps a
power of ten with its sign.  The sign of the number is not part of it, since the reader takes it off
first. -/
structure Numeral where
  whole : List Char
  fraction : List Char
  power : Option (Bool × List Char)

namespace Numeral

/-- The characters of the power of ten. -/
def powerChars (numeral : Numeral) : List Char :=
  match numeral.power with
  | none => []
  | some (negative, digits) => 'e' :: (if negative then '-' else '+') :: digits

/-- The characters of a number. -/
def chars (numeral : Numeral) : List Char :=
  numeral.whole ++
    (if numeral.fraction = [] then numeral.powerChars
    else '.' :: (numeral.fraction ++ numeral.powerChars))

/-- The power of ten. -/
def shift (numeral : Numeral) : Int :=
  match numeral.power with
  | none => 0
  | some (true, digits) => -(digitsValue digits : Int)
  | some (false, digits) => digitsValue digits

/-- The place of the last digit. -/
def place (numeral : Numeral) : Int := numeral.shift - numeral.fraction.length

/-- All digits, those behind the point included. -/
def digits (numeral : Numeral) : Nat := digitsValue (numeral.whole ++ numeral.fraction)

/-- A number that is written as machine numbers are.  The last part tells such a number from an
integer, for which the reader has another answer. -/
structure Proper (numeral : Numeral) : Prop where
  whole : IsWhole numeral.whole
  fraction : ∀ c ∈ numeral.fraction, c.isDigit = true
  power : ∀ power ∈ numeral.power, power.2 ≠ [] ∧ ∀ c ∈ power.2, c.isDigit = true
  marked : numeral.fraction ≠ [] ∨ numeral.power ≠ none

/-- A number has digits, a point and a sign, and a mark for its power of ten. -/
theorem Proper.mem_chars {numeral : Numeral} (h : numeral.Proper) (hmem : c ∈ numeral.chars) :
    c.isDigit = true ∨ c ∈ ['.', 'e', '+', '-'] := by
  have hpower : c ∈ numeral.powerChars → c.isDigit = true ∨ c ∈ ['.', 'e', '+', '-'] := by
    intro hc
    rw [powerChars] at hc
    split at hc
    · exact absurd hc List.not_mem_nil
    · rename_i negative digits heq
      rcases List.mem_cons.1 hc with rfl | hc
      · simp
      rcases List.mem_cons.1 hc with rfl | hc
      · cases negative <;> simp
      · exact .inl ((h.power (negative, digits) heq).2 c hc)
  rcases List.mem_append.1 hmem with hmem | hmem
  · exact .inl (h.whole.isDigit hmem)
  split at hmem
  · exact hpower hmem
  rcases List.mem_cons.1 hmem with rfl | hmem
  · simp
  · exact (List.mem_append.1 hmem).elim (fun hc => .inl (h.fraction c hc)) hpower

end Numeral

variable {numeral : Numeral}

theorem stops_powerChars (htail : Stops tail) : Stops (numeral.powerChars ++ tail) := by
  rw [Numeral.powerChars]
  split
  · exact htail
  · exact stops_cons (by decide) _

/-- The power of ten is read. -/
theorem readExponent_powerChars (h : numeral.Proper) (htail : Delimited tail) :
    readExponent (numeral.powerChars ++ tail)
      = numeral.power.map fun power => (power.1, power.2, tail) := by
  rw [Numeral.powerChars]
  cases hpower : numeral.power with
  | none => exact readExponent_of_delimited htail
  | some power =>
    obtain ⟨negative, digits⟩ := power
    obtain ⟨hne, hdigits⟩ := h.power _ hpower
    have hread := readDigits_append hdigits htail.stops
    cases negative <;> simp [readExponent, hread, hne]

/-- The digits behind the point are read. -/
theorem readFraction_append {digits : List Char} (hne : digits ≠ [])
    (hdigits : ∀ c ∈ digits, c.isDigit = true) (htail : Stops tail) :
    readFraction ('.' :: (digits ++ tail)) = some (digits, tail) := by
  simp [readFraction, readDigits_append hdigits htail, hne]

/-- Without a point there is nothing to read. -/
theorem readFraction_powerChars (hpower : numeral.power ≠ none) :
    readFraction (numeral.powerChars ++ tail) = none := by
  rw [Numeral.powerChars]
  split
  · exact absurd ‹_› hpower
  · rw [List.cons_append, readFraction]
    exact fun _ h => absurd (List.cons.inj h).1 (by decide)

/-- **A number that is written as machine numbers are** is read as the nearest of them.  The value
is given to the rounding as a ratio of natural numbers, with the power of ten on one side or on the
other. -/
theorem readNumber_of_numeral {negative : Bool} (h : numeral.Proper) (htail : Delimited tail)
    (hsign : readSign cs = (negative, numeral.chars ++ tail)) :
    readNumber cs = some (real (Real.ofRatio negative
      (numeral.digits * Nat.pow 10 numeral.place.toNat) (Nat.pow 10 (-numeral.place).toNat)), tail) := by
  have hne : numeral.whole.isEmpty = false := by
    obtain ⟨first, rest, hwhole, -⟩ := h.whole.cons
    rw [hwhole]
    rfl
  have hpower := readExponent_powerChars h htail
  have hstops : Stops (numeral.powerChars ++ tail) := stops_powerChars htail.stops
  rw [readNumber, hsign, Numeral.chars, List.append_assoc]
  by_cases hfraction : numeral.fraction = []
  · have hmarked : numeral.power ≠ none := h.marked.resolve_left (absurd hfraction)
    obtain ⟨power, hsome⟩ := Option.ne_none_iff_exists'.1 hmarked
    rw [if_pos hfraction]
    rw [hsome] at hpower
    simp only [readWhole_append h.whole hstops, hne, readFraction_powerChars hmarked,
      Option.map_none, Option.getD_none, hpower, Option.map_some, Option.getD_some]
    obtain ⟨minus, digits⟩ := power
    cases minus <;> simp [Numeral.digits, Numeral.place, Numeral.shift, hfraction, hsome]
  · have hpoint : Stops ('.' :: (numeral.fraction ++ (numeral.powerChars ++ tail))) :=
      stops_cons (by decide) _
    rw [if_neg hfraction, List.cons_append, List.append_assoc]
    simp only [readWhole_append h.whole hpoint, hne,
      readFraction_append hfraction h.fraction hstops, Option.map_some, Option.getD_some, hpower]
    cases hsome : numeral.power with
    | none =>
      simp [Numeral.digits, Numeral.place, Numeral.shift, Numeral.powerChars, hsome]
    | some power =>
      obtain ⟨minus, digits⟩ := power
      cases minus <;> simp [Numeral.digits, Numeral.place, Numeral.shift, hsome]

/-! ## The text of a decimal -/

/-- The value of a number. -/
def Numeral.value (numeral : Numeral) : ℚ := numeral.digits * 10 ^ numeral.place

open Number (Decimal)

/-- The digits of a number, and the zeros at its end apart from the others. -/
theorem exists_kept {digits : List Char} (hne : digits ≠ []) (hzero : digits.head? ≠ some '0') :
    ∃ kept count, (digits.reverse.dropWhile (· == '0')).reverse = kept ∧ kept ≠ [] ∧
      kept.head? ≠ some '0' ∧ digits = kept ++ List.replicate count '0' := by
  have hsplit : digits = (digits.reverse.dropWhile (· == '0')).reverse ++
      (digits.reverse.takeWhile (· == '0')).reverse := by
    rw [← List.reverse_append, List.takeWhile_append_dropWhile, List.reverse_reverse]
  have hzeros : (digits.reverse.takeWhile (· == '0')).reverse
      = List.replicate (digits.reverse.takeWhile (· == '0')).reverse.length '0' :=
    List.eq_replicate_of_mem fun c hc => by
      simpa using List.all_eq_true.1 List.all_takeWhile c (List.mem_reverse.1 hc)
  rw [hzeros] at hsplit
  refine ⟨_, _, rfl, ?_, ?_, hsplit⟩
  · intro hnil
    rw [hnil, List.nil_append] at hsplit
    obtain ⟨first, rest, hcons⟩ := List.exists_cons_of_ne_nil hne
    have hmem : first ∈ List.replicate (digits.reverse.takeWhile (· == '0')).reverse.length '0' := by
      rw [← hsplit, hcons]
      exact List.mem_cons_self
    rw [hcons, List.eq_of_mem_replicate hmem] at hzero
    exact hzero rfl
  · intro hfirst
    refine hzero ?_
    rw [hsplit, List.head?_append, hfirst]
    rfl

/-- **The significant digits of a decimal** have its value. -/
theorem significant_eq {d : Decimal} (hne : d.digits ≠ 0) :
    ∃ kept point, d.significant = (kept, point) ∧ kept ≠ [] ∧ kept.head? ≠ some '0' ∧
      (∀ c ∈ kept, c.isDigit = true) ∧
      d.value = digitsValue kept * 10 ^ (point - (kept.length : ℤ)) := by
  obtain ⟨first, rest, hdigits, hzero⟩ := exists_toDigits (Nat.pos_of_ne_zero hne)
  have hfront : (Nat.toDigits 10 d.digits).head? ≠ some '0' := by simpa [hdigits] using hzero
  obtain ⟨kept, count, hkept, hne', hfirst, hsplit⟩ := exists_kept Nat.toDigits_ne_nil hfront
  refine ⟨kept, ((Nat.toDigits 10 d.digits).length : ℤ) + d.exponent, ?_, hne', hfirst, ?_, ?_⟩
  · rw [Decimal.significant]
    simp only [hkept]
    rw [if_neg (by simpa using hne')]
  · intro c hc
    exact isDigit_of_mem_toDigits (hsplit ▸ List.mem_append_left _ hc)
  · have hvalue := digitsValue_toDigits d.digits
    rw [hsplit, digitsValue_append, digitsValue_zeros, Nat.add_zero, List.length_replicate] at hvalue
    have hlength : ((Nat.toDigits 10 d.digits).length : ℤ) = kept.length + count := by
      rw [hsplit, List.length_append, List.length_replicate, Nat.cast_add]
    rw [hlength, Decimal.value, ← hvalue]
    push_cast
    rw [show (kept.length : ℤ) + count + d.exponent - kept.length = count + d.exponent by ring,
      zpow_add₀ (by norm_num), zpow_natCast, mul_assoc]

/-- A power of ten is written with a sign and at least two digits. -/
theorem exists_exponentText (n : Int) :
    ∃ digits, (Decimal.exponentText n).toList = (if n < 0 then '-' else '+') :: digits ∧
      digits ≠ [] ∧ (∀ c ∈ digits, c.isDigit = true) ∧ digitsValue digits = n.natAbs := by
  have hchars : (toString n.natAbs).toList = Nat.toDigits 10 n.natAbs := Nat.toList_repr
  obtain ⟨digits, htext, hne, hdigits, hvalue⟩ : ∃ digits,
      (if (toString n.natAbs).length < 2 then "0" ++ toString n.natAbs
        else toString n.natAbs).toList = digits ∧
      digits ≠ [] ∧ (∀ c ∈ digits, c.isDigit = true) ∧ digitsValue digits = n.natAbs := by
    refine ⟨_, rfl, ?_⟩
    split
    · rw [String.toList_append, hchars]
      refine ⟨by simp, ?_, ?_⟩
      · rintro c (_ | ⟨_, hc⟩)
        · decide
        · exact isDigit_of_mem_toDigits hc
      · rw [digitsValue_append, digitsValue_toDigits]
        simp [digitsValue]
    · rw [hchars]
      exact ⟨Nat.toDigits_ne_nil, fun c hc => isDigit_of_mem_toDigits hc, digitsValue_toDigits _⟩
  refine ⟨digits, ?_, hne, hdigits, hvalue⟩
  rw [Decimal.exponentText, String.toList_append, htext]
  split <;> rfl

variable {kept : List Char} {point : ℤ}

/-- The number with some digits, the point after so many of them.  The three forms are shown to
denote the same thing, by the digits and by the place of the point. -/
def Denotes (numeral : Numeral) (kept : List Char) (point : ℤ) : Prop :=
  numeral.Proper ∧ numeral.value = digitsValue kept * 10 ^ (point - (kept.length : ℤ))

/-- Small numbers start with zeros. -/
theorem denotes_small (hne : kept ≠ []) (hdigits : ∀ c ∈ kept, c.isDigit = true) (hpoint : point ≤ 0) :
    Denotes ⟨['0'], List.replicate (-point).toNat '0' ++ kept, none⟩ kept point := by
  refine ⟨⟨Or.inl rfl, fun c hc => ?_, by simp, Or.inl (by simp [hne])⟩, ?_⟩
  · rcases List.mem_append.1 hc with hc | hc
    · rw [List.eq_of_mem_replicate hc]
      decide
    · exact hdigits c hc
  · have hvalue : digitsValue (['0'] ++ (List.replicate (-point).toNat '0' ++ kept))
        = digitsValue kept := by
      rw [digitsValue_append, digitsValue_append, digitsValue_zeros,
        show digitsValue ['0'] = 0 from rfl]
      simp
    rw [Numeral.value, Numeral.digits, hvalue, Numeral.place]
    simp only [Numeral.shift, List.length_append, List.length_replicate]
    congr 2
    omega

/-- Moderate numbers have all digits before the point. -/
theorem denotes_moderate (hne : kept ≠ []) (hzero : kept.head? ≠ some '0')
    (hdigits : ∀ c ∈ kept, c.isDigit = true) (hpoint : 0 < point) :
    Denotes ⟨kept.take point.toNat ++
      List.replicate (point.toNat - (kept.take point.toNat).length) '0',
      if kept.drop point.toNat = [] then ['0'] else kept.drop point.toNat, none⟩ kept point := by
  obtain ⟨count, rfl⟩ : ∃ count : ℕ, point = count + 1 := ⟨point.toNat - 1, by omega⟩
  have hcount : ((count : ℤ) + 1).toNat = count + 1 := by omega
  obtain ⟨first, rest, rfl⟩ := List.exists_cons_of_ne_nil hne
  rw [hcount]
  refine ⟨⟨Or.inr ⟨by simp, by simpa using hzero, fun c hc => ?_⟩, fun c hc => ?_, by simp,
    Or.inl ?_⟩, ?_⟩
  · rcases List.mem_append.1 hc with hc | hc
    · exact hdigits c (List.mem_of_mem_take hc)
    · rw [List.eq_of_mem_replicate hc]
      decide
  · dsimp only at hc
    split at hc
    · rw [List.mem_singleton.1 hc]
      decide
    · exact hdigits c (List.mem_of_mem_drop hc)
  · dsimp only
    split
    · simp
    · assumption
  · rw [Numeral.value, Numeral.digits, Numeral.place]
    -- Zeros are appended where the digits end before the point, else a part of them follows it.
    by_cases hdrop : (first :: rest).drop (count + 1) = []
    · have hlength : (first :: rest).length ≤ count + 1 := List.drop_eq_nil_iff.1 hdrop
      rw [if_pos hdrop, List.take_of_length_le hlength, digitsValue_append, digitsValue_append,
        digitsValue_zeros, show digitsValue ['0'] = 0 from rfl]
      simp only [Numeral.shift, List.length_replicate, List.length_singleton]
      obtain ⟨zeros, hzeros⟩ := Nat.exists_eq_add_of_le hlength
      have hplace : (count : ℤ) + 1 - (first :: rest).length = zeros := by omega
      rw [hplace, hzeros, Nat.add_sub_cancel_left, zpow_natCast]
      push_cast
      rw [zpow_neg_one]
      field_simp
      ring
    · have hlength : count + 1 < (first :: rest).length := by
        rw [List.drop_eq_nil_iff] at hdrop
        omega
      have htake : ((first :: rest).take (count + 1)).length = count + 1 := by
        rw [List.length_take]
        omega
      rw [if_neg hdrop, htake, Nat.sub_self, List.replicate_zero, List.append_nil,
        List.take_append_drop]
      simp only [Numeral.shift, List.length_drop]
      congr 2
      omega

/-- Other numbers have one digit before the point, and a power of ten. -/
theorem denotes_scientific (hne : kept ≠ []) (hzero : kept.head? ≠ some '0')
    (hdigits : ∀ c ∈ kept, c.isDigit = true) {power : List Char} (hpower : power ≠ [])
    (hpower' : ∀ c ∈ power, c.isDigit = true) (hvalue : digitsValue power = (point - 1).natAbs) :
    Denotes ⟨kept.take 1, kept.drop 1, some (decide (point - 1 < 0), power)⟩ kept point := by
  obtain ⟨first, rest, rfl⟩ := List.exists_cons_of_ne_nil hne
  refine ⟨⟨Or.inr ⟨by simp, by simpa using hzero, fun c hc => ?_⟩, fun c hc => ?_, ?_,
    Or.inr (by simp)⟩, ?_⟩
  · exact hdigits c (List.mem_of_mem_take hc)
  · exact hdigits c (List.mem_of_mem_drop hc)
  · rintro _ ⟨⟩
    exact ⟨hpower, hpower'⟩
  · have hshift : Numeral.shift ⟨(first :: rest).take 1, (first :: rest).drop 1,
        some (decide (point - 1 < 0), power)⟩ = point - 1 := by
      rw [Numeral.shift]
      by_cases hnegative : point - 1 < 0
      · simp only [hnegative, decide_true, hvalue]
        omega
      · simp only [hnegative, decide_false, hvalue]
        omega
    rw [Numeral.value, Numeral.digits, Numeral.place, hshift, List.take_append_drop]
    congr 2
    simp only [List.length_drop, List.length_cons]
    omega

/-- **The text of a decimal** is a number of the same value. -/
theorem exists_numeral {d : Decimal} (hne : d.digits ≠ 0) :
    ∃ numeral : Numeral, d.text.toList = numeral.chars ∧ numeral.Proper ∧ numeral.value = d.value := by
  obtain ⟨kept, point, hkept, hne', hzero, hdigits, hvalue⟩ := significant_eq hne
  rw [hvalue, Decimal.text, if_neg hne]
  simp only [hkept]
  split
  · split
    · rename_i hpoint
      obtain ⟨hproper, heq⟩ := denotes_small hne' hdigits hpoint
      refine ⟨_, ?_, hproper, heq⟩
      simp [Numeral.chars, Numeral.powerChars, hne']
    · rename_i hpoint
      obtain ⟨hproper, heq⟩ := denotes_moderate hne' hzero hdigits (not_le.1 hpoint)
      refine ⟨_, ?_, hproper, heq⟩
      by_cases hdrop : kept.drop point.toNat = []
      · simp [Numeral.chars, Numeral.powerChars, hdrop]
      · simp [Numeral.chars, Numeral.powerChars, hdrop]
  · obtain ⟨power, hpower, hpowerne, hpowerdigits, hpowervalue⟩ := exists_exponentText (point - 1)
    obtain ⟨hproper, heq⟩ := denotes_scientific hne' hzero hdigits hpowerne hpowerdigits hpowervalue
    refine ⟨_, ?_, hproper, heq⟩
    by_cases hrest : kept.tail = []
    · simp [Numeral.chars, Numeral.powerChars, hrest, hpower]
    · simp [Numeral.chars, Numeral.powerChars, hrest, hpower]

/-- Zero as it is written. -/
def Numeral.zero : Numeral := ⟨['0'], ['0'], none⟩

theorem Numeral.toList_zero : "0.0".toList = Numeral.zero.chars := rfl

theorem Numeral.proper_zero : Numeral.zero.Proper where
  whole := .inl rfl
  fraction _ hc := List.mem_singleton.1 hc ▸ rfl
  power := by simp [Numeral.zero]
  marked := .inl (by simp [Numeral.zero])

/-- The text of a machine number without its sign is a number, whatever its digits are. -/
theorem exists_proper (b : Number.Binary) :
    ∃ numeral : Numeral, b.text.toList = numeral.chars ∧ numeral.Proper := by
  by_cases hmantissa : b.mantissa = 0
  · rw [Number.Binary.text, if_pos hmantissa]
    exact ⟨.zero, Numeral.toList_zero, Numeral.proper_zero⟩
  rw [Number.Binary.text, if_neg hmantissa]
  by_cases hdigits : (Number.shortest b).digits = 0
  · rw [Decimal.text, if_pos hdigits]
    exact ⟨.zero, Numeral.toList_zero, Numeral.proper_zero⟩
  · obtain ⟨numeral, htext, hproper, -⟩ := exists_numeral hdigits
    exact ⟨numeral, htext, hproper⟩

/-- What is read for a number of known value. -/
theorem ofRatio_numeral (negative : Bool) {b : Number.Binary} {digits : Nat} {place : Int}
    (hnearest : Number.nearest (digits * Nat.pow 10 place.toNat) (Nat.pow 10 (-place).toNat) = b)
    (hhuge : b.isHuge = false) :
    Real.ofRatio negative (digits * Nat.pow 10 place.toNat) (Nat.pow 10 (-place).toNat)
      = ⟨negative, some b⟩ := by
  rw [Real.ofRatio, hnearest, if_neg (by rw [hhuge]; exact Bool.false_ne_true)]

end Reader
end Value

/-- A finite machine number: zero, or 53 digits at their place.  Numbers that are too large are
excluded, since they would be read as infinite. -/
def Real.IsFinite (r : Real) : Prop :=
  ∃ b, r.magnitude = some b ∧ (b = ⟨0, 0⟩ ∨ b.IsMachine ∧ b.isHuge = false)

namespace Value
namespace Reader

variable {cs tail : List Char}

/-- The text of a finite machine number without its sign. -/
theorem exists_numeral_text {b : Number.Binary}
    (h : b = ⟨0, 0⟩ ∨ b.IsMachine ∧ b.isHuge = false) :
    ∃ numeral : Numeral, b.text.toList = numeral.chars ∧ numeral.Proper ∧ ∀ negative,
      Real.ofRatio negative (numeral.digits * Nat.pow 10 numeral.place.toNat)
        (Nat.pow 10 (-numeral.place).toNat) = ⟨negative, some b⟩ := by
  rcases h with rfl | ⟨hmachine, hhuge⟩
  · exact ⟨.zero, Numeral.toList_zero, Numeral.proper_zero, fun negative =>
      ofRatio_numeral negative rfl rfl⟩
  · obtain ⟨numeral, htext, hproper, hvalue⟩ :=
      exists_numeral (Number.digits_shortest_ne_zero hmachine)
    refine ⟨numeral, ?_, hproper, fun negative => ?_⟩
    · rw [Number.Binary.text, if_neg (Nat.ne_of_gt hmachine.positive), htext]
    · exact ofRatio_numeral negative (Number.nearest_shortest hmachine hvalue) hhuge

/-- A machine number is written as a number or as a word, with a sign if it is negative. -/
theorem exists_word (r : Real) :
    ∃ word, (r.text "Infinity").toList = (if r.negative then ['-'] else []) ++ word ∧ word ≠ [] ∧
      ∀ c ∈ word, c.isDigit = true ∨ c ∈ ['.', 'e', '+', '-'] ∨
        c ∈ ['I', 'n', 'f', 'i', 'n', 'i', 't', 'y'] := by
  have hsign : ∀ text : String, ((if r.negative then "-" else "") ++ text).toList
      = (if r.negative then ['-'] else []) ++ text.toList := by
    intro text
    rw [String.toList_append]
    split <;> rfl
  refine ⟨_, hsign _, ?_⟩
  split
  · simp
  · rename_i b _
    obtain ⟨numeral, htext, hproper⟩ := exists_proper b
    obtain ⟨first, rest, hwhole, -⟩ := hproper.whole.cons
    rw [htext]
    exact ⟨by simp [Numeral.chars, hwhole], fun c hc => (hproper.mem_chars hc).imp_right .inl⟩

theorem toList_text (infinite : String) (negative : Bool) (b : Number.Binary) :
    (Real.text infinite ⟨negative, some b⟩).toList
      = (if negative then ['-'] else []) ++ b.text.toList := by
  cases negative <;> simp [Real.text]

/-- **A finite machine number** is read back.  Zero keeps its sign. -/
theorem readNumber_text {r : Real} (h : r.IsFinite) (infinite : String) (htail : Delimited tail) :
    readNumber ((r.text infinite).toList ++ tail) = some (real r, tail) := by
  obtain ⟨negative, magnitude⟩ := r
  obtain ⟨b, rfl, hfinite⟩ := h
  obtain ⟨numeral, htext, hproper, hratio⟩ := exists_numeral_text hfinite
  have hsign : readSign ((Real.text infinite ⟨negative, some b⟩).toList ++ tail)
      = (negative, numeral.chars ++ tail) := by
    rw [toList_text, htext, List.append_assoc]
    cases negative with
    | true => rfl
    | false =>
      rw [Numeral.chars, List.append_assoc]
      exact readSign_append hproper.whole _
  rw [readNumber_of_numeral hproper htail hsign, hratio]

/-- The text of a finite machine number starts with a digit or a minus. -/
theorem exists_text {r : Real} (h : r.IsFinite) (infinite : String) :
    ∃ first rest, (r.text infinite).toList = first :: rest ∧
      (first.isDigit = true ∨ first = '-') := by
  obtain ⟨negative, magnitude⟩ := r
  obtain ⟨b, rfl, hfinite⟩ := h
  obtain ⟨numeral, htext, hproper, -⟩ := exists_numeral_text hfinite
  obtain ⟨first, rest, hwhole, hdigit⟩ := hproper.whole.cons
  rw [toList_text, htext, Numeral.chars, hwhole]
  cases negative with
  | true => exact ⟨'-', _, rfl, Or.inr rfl⟩
  | false => exact ⟨first, _, rfl, Or.inl hdigit⟩

end Reader
end Value
end AssetPublish
