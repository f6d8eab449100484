import AssetPublish.Proofs.Number.Nearest

/-!
# Shortest decimals round back

The decimal that is taken for a machine number is found by trying: the multiples of smaller and
smaller powers of ten next to it, until one of them rounds to it.  Seventeen digits are always
enough, and what is found is read as the number again.

That the search finds anything is the harder half.  It goes through powers of ten from the first
digit of the number downwards, and stops at the first multiple that passes the test; it has to be
shown that one does before the search runs out.  The argument compares a power of ten with a unit of
the last binary digit: with seventeen digits the step is smaller than the interval, so that a
multiple lies in it.

## What is here

* `holds_iff` — the test for a decimal says whether it rounds to the number.
* `zpow_firstPlace_le` — where the search starts.
* `rounds_of_near` — where it ends at the latest.
* `shortest_rounds`, `nearest_shortest` — what it finds rounds to the number.
-/

set_option autoImplicit false

namespace AssetPublish
namespace Number

variable {num den : Nat} {b : Binary}

/-! ## Decimals -/

/-- The value of a binary number. -/
def Binary.value (b : Binary) : ℚ := b.mantissa * 2 ^ b.exponent

/-- The value of a decimal. -/
def Decimal.value (d : Decimal) : ℚ := d.digits * 10 ^ d.exponent

/-- The ends of the interval of a machine number.  The search keeps them as whole numbers on a
common scale, so that its tests need no fractions. -/
theorem interval_ends (h : 0 < b.mantissa) :
    ((Interval.ofBinary b).low : ℚ)
        = (4 * b.mantissa - b.below) / 4 * 2 ^ b.exponent * (Interval.ofBinary b).den ∧
      ((Interval.ofBinary b).high : ℚ)
        = (4 * b.mantissa + 2) / 4 * 2 ^ b.exponent * (Interval.ofBinary b).den := by
  have hle : b.below ≤ 4 * b.mantissa := by
    have hbelow := b.below_le
    omega
  have hsplit := pow_toNat (show (2 : ℚ) ≠ 0 by norm_num) (b.exponent - 2)
  rw [neg_sub, zpow_sub₀ (by norm_num)] at hsplit
  have hlow : (Interval.ofBinary b).low
      = (4 * b.mantissa - b.below) * 2 ^ (b.exponent - 2).toNat := rfl
  have hhigh : (Interval.ofBinary b).high
      = (4 * b.mantissa + 2) * 2 ^ (b.exponent - 2).toNat := rfl
  have hden : (Interval.ofBinary b).den = 2 ^ (2 - b.exponent).toNat := rfl
  rw [hlow, hhigh, hden]
  push_cast [hle]
  rw [hsplit]
  constructor
  · ring
  · ring

/-- **The interval of a machine number holds the decimals that round to it.**  So the test of the
search, which compares whole numbers, is the condition under which a decimal is rounded to the
number. -/
theorem holds_iff (h : 0 < b.mantissa) (d : Decimal) :
    (Interval.ofBinary b).holds d = true ↔ Rounds b (d.value / 2 ^ b.exponent) := by
  obtain ⟨hlow, hhigh⟩ := interval_ends h
  have hunit : (0 : ℚ) < 2 ^ b.exponent := by positivity
  have hpos : (0 : ℚ) < 10 ^ (-d.exponent).toNat * (Interval.ofBinary b).den := by
    have hden : (Interval.ofBinary b).den = 2 ^ (2 - b.exponent).toNat := rfl
    rw [hden]
    positivity
  have hvalue : (d.digits * 10 ^ d.exponent.toNat : ℚ) = d.value * 10 ^ (-d.exponent).toNat := by
    rw [pow_toNat (by norm_num), Decimal.value]
    ring
  obtain ⟨ratio, hratio⟩ : ∃ ratio, ratio = d.value / 2 ^ b.exponent := ⟨_, rfl⟩
  have hscaled : d.value = ratio * 2 ^ b.exponent := by rw [hratio, div_mul_cancel₀ _ hunit.ne']
  -- Both sides of each comparison are multiples of the same number.
  have hnum : ((d.digits * 10 ^ d.exponent.toNat * (Interval.ofBinary b).den : ℕ) : ℚ)
      = ratio * (2 ^ b.exponent * (10 ^ (-d.exponent).toNat * (Interval.ofBinary b).den)) := by
    push_cast
    rw [hvalue, hscaled]
    ring
  have hends : (((Interval.ofBinary b).low * 10 ^ (-d.exponent).toNat : ℕ) : ℚ)
        = (4 * b.mantissa - b.below) / 4 *
          (2 ^ b.exponent * (10 ^ (-d.exponent).toNat * (Interval.ofBinary b).den)) ∧
      (((Interval.ofBinary b).high * 10 ^ (-d.exponent).toNat : ℕ) : ℚ)
        = (4 * b.mantissa + 2) / 4 *
          (2 ^ b.exponent * (10 ^ (-d.exponent).toNat * (Interval.ofBinary b).den)) := by
    push_cast
    rw [hlow, hhigh]
    exact ⟨by ring, by ring⟩
  have hmul := mul_pos hunit hpos
  have hclosed : (Interval.ofBinary b).closed = decide (b.mantissa % 2 = 0) := rfl
  rw [← hratio, Interval.holds]
  simp only [Nat.pow_eq, hclosed, decide_eq_true_eq]
  split
  · rename_i heven
    rw [Bool.and_eq_true, decide_eq_true_eq, decide_eq_true_eq, ← Nat.cast_le (α := ℚ),
      ← Nat.cast_le (α := ℚ), hnum, hends.1, hends.2, mul_le_mul_iff_left₀ hmul,
      mul_le_mul_iff_left₀ hmul]
    exact ⟨fun ⟨hl, hh⟩ => ⟨by linarith, by linarith, Or.inl heven⟩,
      fun ⟨hl, hh, _⟩ => ⟨by linarith, by linarith⟩⟩
  · rename_i hodd
    rw [Bool.and_eq_true, decide_eq_true_eq, decide_eq_true_eq, ← Nat.cast_lt (α := ℚ),
      ← Nat.cast_lt (α := ℚ), hnum, hends.1, hends.2, mul_lt_mul_iff_left₀ hmul,
      mul_lt_mul_iff_left₀ hmul]
    exact ⟨fun ⟨hl, hh⟩ => ⟨by linarith, by linarith, Or.inr ⟨by linarith, by linarith⟩⟩,
      fun ⟨_, _, ht⟩ => ht.elim (absurd · hodd) fun ⟨hl, hh⟩ => ⟨by linarith, by linarith⟩⟩

/-! ## The shortest decimal -/

/-- A number with some digits is not below the power of ten with as many zeros, less one. -/
theorem pow_length_toDigits_le {n : Nat} (h : 0 < n) :
    10 ^ ((Nat.toDigits 10 n).length - 1) ≤ n := by
  by_contra hlt
  have hpos : 0 < (Nat.toDigits 10 n).length - 1 := by
    by_contra hzero
    rw [Nat.eq_zero_of_not_pos hzero] at hlt
    omega
  have hle := (Nat.length_toDigits_le_iff (by decide) hpos).2 (Nat.not_le.1 hlt)
  omega

/-- The place of the first decimal digit of a ratio is not above the ratio. -/
theorem zpow_firstPlace_le (hden : 0 < den) (hleast : (10 : ℚ) ^ (-400 : ℤ) ≤ num / den) :
    (10 : ℚ) ^ firstPlace num den ≤ num / den := by
  have hden' : (0 : ℚ) < den := by exact_mod_cast hden
  rw [firstPlace]
  split
  · rename_i hle
    have hpos : 0 < num / den := Nat.div_pos hle hden
    have hlength := Nat.length_toDigits_pos (b := 10) (n := num / den)
    have hpow := pow_length_toDigits_le hpos
    rw [Nat.le_div_iff_mul_le hden] at hpow
    rw [le_div_iff₀ hden', ← Nat.cast_pred hlength, zpow_natCast]
    exact_mod_cast hpow
  · split
    · rename_i j hfind
      have hfound := List.find?_some hfind
      rw [decide_eq_true_eq, Nat.pow_eq] at hfound
      have hfound' : (den : ℚ) ≤ num * 10 ^ (j + 1) := by exact_mod_cast hfound
      rw [le_div_iff₀ hden', ← Nat.cast_succ, zpow_neg, zpow_natCast, inv_mul_le_iff₀ (by positivity),
        mul_comm]
      exact hfound'
    · exact hleast

/-- The ratio with which the search computes is the number itself. -/
theorem ratio_eq_value (b : Binary) : (b.numerator / b.denominator : ℚ) = b.value := by
  have hsplit := pow_toNat (show (2 : ℚ) ≠ 0 by norm_num) b.exponent
  have hpos : (0 : ℚ) < 2 ^ (-b.exponent).toNat := by positivity
  rw [Binary.numerator, Binary.denominator, Binary.value]
  simp only [Nat.pow_eq]
  push_cast
  rw [hsplit, ← mul_assoc, mul_div_assoc, div_self hpos.ne', mul_one]

/-- A machine number is not below the least of them. -/
theorem zpow_le_value (h : b.IsMachine) : (10 : ℚ) ^ (-400 : ℤ) ≤ b.value := by
  have hone : (1 : ℚ) ≤ b.mantissa := by exact_mod_cast h.positive
  have hunit : (0 : ℚ) < 2 ^ b.exponent := by positivity
  have hleast := h.least
  calc (10 : ℚ) ^ (-400 : ℤ) = (10 ^ 400)⁻¹ := by rw [zpow_neg]; norm_cast
    _ ≤ (8 ^ 400)⁻¹ := by gcongr; norm_num
    _ = 2 ^ (-1200 : ℤ) := by
      rw [show (8 : ℚ) = 2 ^ 3 by norm_num, ← pow_mul, ← zpow_natCast, ← zpow_neg]
      rfl
    _ ≤ 2 ^ b.exponent := zpow_le_zpow_right₀ (by norm_num) (by omega)
    _ ≤ b.value := by rw [Binary.value]; nlinarith

/-- One of the two multiples of a power of ten around a ratio is within half of it.  Both are tried,
the nearer one first. -/
theorem exists_neighbour (num : Nat) (hden : 0 < den) (place : ℤ) :
    ∃ d ∈ neighbours num den place, 2 * ((num / den : ℚ) - d.value) ≤ 10 ^ place ∧
      2 * (d.value - (num / den : ℚ)) ≤ 10 ^ place := by
  obtain ⟨ratio, hratio⟩ : ∃ ratio : ℚ, ratio = (num / den : ℚ) / 10 ^ place := ⟨_, rfl⟩
  have hunit : (0 : ℚ) < 10 ^ place := by positivity
  have hscaled : (num / den : ℚ) = ratio * 10 ^ place := by rw [hratio, div_mul_cancel₀ _ hunit.ne']
  -- The ratio as a quotient of natural numbers, which the places tried are the floor of.
  obtain ⟨above, habove⟩ : ∃ above, above = num * Nat.pow 10 (-place).toNat := ⟨_, rfl⟩
  obtain ⟨under, hunder⟩ : ∃ under, under = den * Nat.pow 10 place.toNat := ⟨_, rfl⟩
  have hpos : 0 < under := by
    rw [hunder]
    exact Nat.mul_pos hden (Nat.pow_pos (by decide))
  have hpos' : (0 : ℚ) < under := by exact_mod_cast hpos
  have hquotient : (above : ℚ) = ratio * under := by
    have hden' : (den : ℚ) ≠ 0 := by exact_mod_cast Nat.ne_of_gt hden
    rw [habove, hunder, hratio]
    simp only [Nat.pow_eq, Nat.cast_mul, Nat.cast_pow, Nat.cast_ofNat,
      pow_toNat (show (10 : ℚ) ≠ 0 by norm_num) place]
    field_simp
  have hlow : ((above / under : ℕ) : ℚ) ≤ ratio := by
    have hle : ((above / under * under : ℕ) : ℚ) ≤ above := by
      exact_mod_cast Nat.div_mul_le_self above under
    push_cast at hle
    rw [hquotient] at hle
    exact le_of_mul_le_mul_right hle hpos'
  have hhigh : ratio < ((above / under : ℕ) : ℚ) + 1 := by
    have hlt : (above : ℚ) < ((above / under + 1) * under : ℕ) := by
      exact_mod_cast Nat.lt_mul_of_div_lt (Nat.lt_succ_self _) hpos
    push_cast at hlt
    rw [hquotient] at hlt
    exact lt_of_mul_lt_mul_right hlt hpos'.le
  have hmem : ∀ d : Decimal, d = ⟨above / under, place⟩ ∨ d = ⟨above / under + 1, place⟩ →
      d ∈ neighbours num den place := by
    intro d hd
    rw [neighbours]
    simp only [← habove, ← hunder]
    split
    · simpa using hd
    · simpa using hd.symm
  rw [hscaled]
  -- In the lower half the multiple below is within the distance, else the one above.
  by_cases hhalf : 2 * ratio ≤ 2 * ((above / under : ℕ) : ℚ) + 1
  · refine ⟨_, hmem _ (Or.inl rfl), ?_, ?_⟩
    · rw [Decimal.value]; nlinarith
    · rw [Decimal.value]; nlinarith
  · refine ⟨_, hmem _ (Or.inr rfl), ?_, ?_⟩
    · rw [Decimal.value]; push_cast; nlinarith
    · rw [Decimal.value]; push_cast; nlinarith

/-- What is near enough to a machine number rounds to it: seventeen decimal digits are enough.  The
step is less than a unit of the last binary digit, and less than half of it for a power of two,
whose interval is narrower. -/
theorem rounds_of_near (h : b.IsMachine) {x step : ℚ} (hstep : step * 10 ^ 16 ≤ b.value)
    (hlow : 2 * (b.value - x) ≤ step) (hhigh : 2 * (x - b.value) ≤ step) :
    Rounds b (x / 2 ^ b.exponent) := by
  have hunit : (0 : ℚ) < 2 ^ b.exponent := by positivity
  obtain ⟨ratio, hratio⟩ : ∃ ratio, ratio = x / 2 ^ b.exponent := ⟨_, rfl⟩
  obtain ⟨unit, hunit'⟩ : ∃ unit, unit = step / 2 ^ b.exponent := ⟨_, rfl⟩
  have hx : x = ratio * 2 ^ b.exponent := by rw [hratio, div_mul_cancel₀ _ hunit.ne']
  have hs : step = unit * 2 ^ b.exponent := by rw [hunit', div_mul_cancel₀ _ hunit.ne']
  rw [hs, Binary.value] at hstep
  rw [hs, hx, Binary.value] at hlow hhigh
  have hstep' : unit * 10 ^ 16 ≤ b.mantissa :=
    le_of_mul_le_mul_right (by linarith) hunit
  have hlow' : 2 * (b.mantissa - ratio) ≤ unit := le_of_mul_le_mul_right (by linarith) hunit
  have hhigh' : 2 * (ratio - b.mantissa) ≤ unit := le_of_mul_le_mul_right (by linarith) hunit
  have hdigits : (b.mantissa : ℚ) < 2 ^ 53 := by exact_mod_cast h.digits
  have hsmall : 2 * unit < b.below := by
    rw [Binary.below]
    split
    · rename_i hpower
      have hmantissa : (b.mantissa : ℚ) = 2 ^ 52 := by
        rw [hpower.1]
        norm_num
      rw [hmantissa] at hstep'
      norm_num at hstep' ⊢
      linarith
    · norm_num at hstep' ⊢
      linarith
  have hbelow : (b.below : ℚ) ≤ 2 := by exact_mod_cast b.below_le
  rw [← hratio]
  exact ⟨by linarith, by linarith, Or.inr ⟨by linarith, by linarith⟩⟩

/-- **The shortest decimal of a machine number rounds to it.**  Either the
search has found a decimal that passes the test, or the test has failed at all seventeen places, and
at the last of them it cannot fail. -/
theorem shortest_rounds (h : b.IsMachine) :
    Rounds b ((shortest b).value / 2 ^ b.exponent) := by
  have hden : 0 < b.denominator := Nat.two_pow_pos _
  have hvalue := ratio_eq_value b
  have hfirst := zpow_firstPlace_le hden (hvalue ▸ zpow_le_value h)
  rw [hvalue] at hfirst
  cases hsearch : (List.range 17).findSome? fun (count : Nat) =>
      (neighbours b.numerator b.denominator
        (firstPlace b.numerator b.denominator - (count : Int))).find? (Interval.ofBinary b).holds with
  | some d =>
    obtain ⟨count, -, hfound⟩ := List.exists_of_findSome?_eq_some hsearch
    have hshortest : shortest b = d := by
      rw [shortest]
      simp only [hsearch, Option.getD_some]
    rw [hshortest]
    exact (holds_iff h.positive d).1 (List.find?_some hfound)
  | none =>
    have hnone := List.findSome?_eq_none_iff.1 hsearch 16 (by simp)
    obtain ⟨d, hmem, hlow, hhigh⟩ := exists_neighbour b.numerator hden
      (firstPlace b.numerator b.denominator - ((16 : ℕ) : ℤ))
    rw [hvalue] at hlow hhigh
    have hrounds : Rounds b (d.value / 2 ^ b.exponent) := by
      refine rounds_of_near h ?_ hlow hhigh
      rw [zpow_sub₀ (by norm_num)]
      norm_num
      exact hfirst
    exact absurd ((holds_iff h.positive d).2 hrounds) (List.find?_eq_none.1 hnone d hmem)

/-- The decimal is not zero, since zero does not round to the number. -/
theorem value_shortest_pos (h : b.IsMachine) : 0 < (shortest b).value := by
  have hunit : (0 : ℚ) < 2 ^ b.exponent := by positivity
  have hlow := (shortest_rounds h).low
  have hbelow : (b.below : ℚ) ≤ 2 := by exact_mod_cast b.below_le
  have hone : (1 : ℚ) ≤ b.mantissa := by exact_mod_cast h.positive
  by_contra hle
  have hquotient := div_nonpos_of_nonpos_of_nonneg (not_lt.1 hle) hunit.le
  linarith

theorem digits_shortest_ne_zero (h : b.IsMachine) : (shortest b).digits ≠ 0 := by
  intro hzero
  have hpos := value_shortest_pos h
  rw [Decimal.value, hzero, Nat.cast_zero, zero_mul] at hpos
  exact absurd hpos (lt_irrefl 0)

/-- However the shortest decimal is written as a ratio, it is rounded to the number. -/
theorem nearest_shortest (h : b.IsMachine) {digits : Nat} {place : ℤ}
    (hvalue : (digits : ℚ) * 10 ^ place = (shortest b).value) :
    nearest (digits * Nat.pow 10 place.toNat) (Nat.pow 10 (-place).toNat) = b := by
  have hsplit := pow_toNat (show (10 : ℚ) ≠ 0 by norm_num) place
  have hpos : (0 : ℚ) < 10 ^ (-place).toNat := by positivity
  have hratio : ((digits * Nat.pow 10 place.toNat : ℕ) : ℚ) / (Nat.pow 10 (-place).toNat : ℕ)
      = (shortest b).value := by
    rw [← hvalue]
    simp only [Nat.pow_eq]
    push_cast
    rw [hsplit, ← mul_assoc, mul_div_assoc, div_self hpos.ne', mul_one]
  refine nearest_eq h ?_ (Nat.pow_pos (by decide)) (by rw [hratio]; exact shortest_rounds h)
  rw [Nat.pos_iff_ne_zero]
  intro hzero
  rw [hzero, Nat.cast_zero, zero_div] at hratio
  exact absurd hratio (value_shortest_pos h).ne

end Number
end AssetPublish
