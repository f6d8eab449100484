import AssetPublish.Proofs.Number.Shortest

/-!
# Divisions without a loss

A quotient of two machine numbers is rounded to 53 digits.  Where it has no more digits than that
nothing is lost, and this is so for every division by a power of two that does not lead below the
normal range.  So a whole number can be divided by 1024 again and again, and only the rounding of
the last quotient to decimal places shows.

## What is here

* `near_roundRatio`, `Near.mono` — rounding to a whole number is to the nearest one, a half to the
  even one, and it keeps the order.
* `Binary.over` — the quotient of a machine number, rounded to a machine number.
* `wholeOver n shift` — the 53 digits of `n / 2 ^ shift`.
* `nearest_eq_of_value`, `over_eq_of_value` — an exact quotient is kept.
* `divided n count` — `n` divided by 1024 some times, each quotient rounded.
* `divided_eq` — none of these divisions loses anything.
-/

set_option autoImplicit false

namespace AssetPublish
namespace Number

/-! ## Rounding to whole numbers -/

section Rounding

variable {num den m n : Nat} {ratio x y : ℚ}

/-- The rounded quotient is near to the exact one. -/
theorem near_roundRatio (hden : 0 < den) (hratio : (num : ℚ) = ratio * den) :
    Near (roundRatio num den) ratio := by
  have hden' : (0 : ℚ) < den := by exact_mod_cast hden
  obtain ⟨hlow, hhigh⟩ := roundRatio_near hden num
  -- In the middle between two numbers only the even one is taken.
  have htie : roundRatio num den % 2 = 0 ∨
      2 * (roundRatio num den * den) < 2 * num + den ∧
        2 * num < 2 * (roundRatio num den * den) + den := by
    have hsplit : num / den * den + num % den = num := Nat.div_add_mod' num den
    have hrest : num % den < den := Nat.mod_lt num hden
    have hsucc : (num / den + 1) * den = num / den * den + den := Nat.succ_mul _ _
    rw [roundRatio]
    split_ifs with hless hmore heven
    · exact Or.inr (by omega)
    · exact Or.inr (by omega)
    · exact Or.inl heven
    · exact Or.inl (by omega)
  have hcast : ∀ a b : Nat, (a : ℚ) ≤ b ↔ a ≤ b := fun _ _ => Nat.cast_le
  have hcast' : ∀ a b : Nat, (a : ℚ) < b ↔ a < b := fun _ _ => Nat.cast_lt
  rw [← hcast] at hlow hhigh
  rw [← hcast', ← hcast'] at htie
  push_cast [hratio] at hlow hhigh htie
  refine ⟨by nlinarith, by nlinarith, htie.imp_right fun h => ⟨?_, ?_⟩⟩
  · exact lt_of_mul_lt_mul_right (by linarith [h.1]) hden'.le
  · exact lt_of_mul_lt_mul_right (by linarith [h.2]) hden'.le

/-- Rounding keeps the order. -/
theorem Near.mono (hm : Near m x) (hn : Near n y) (h : x ≤ y) : m ≤ n := by
  by_contra hlt
  have hsucc : (n : ℚ) + 1 ≤ m := by exact_mod_cast (Nat.not_le.1 hlt)
  have hlow := hm.low
  have hhigh := hn.high
  -- Both ratios are in the middle between the two numbers, so that both numbers are even.
  have heven : m % 2 = 0 := hm.tie.resolve_right fun ht => by linarith [ht.1]
  have heven' : n % 2 = 0 := hn.tie.resolve_right fun ht => by linarith [ht.2]
  have hnext : m = n + 1 := by
    have hle : (m : ℚ) ≤ n + 1 := by linarith
    have hle' : m ≤ n + 1 := by exact_mod_cast hle
    omega
  omega

theorem near_self (n : Nat) : Near n n :=
  ⟨by linarith, by linarith, Or.inr ⟨by linarith, by linarith⟩⟩

end Rounding

/-! ## Machine numbers -/

variable {b c : Binary} {num den : Nat}

/-- A machine number is rounded to itself. -/
theorem Rounds.self (b : Binary) : Rounds b b.mantissa := by
  have hbelow : (0 : ℚ) < b.below := by
    rw [Binary.below]
    split <;> norm_num
  exact ⟨by linarith, by linarith, Or.inr ⟨by linarith, by linarith⟩⟩

/-- A ratio that is a machine number is kept. -/
theorem nearest_eq_of_value (h : b.IsMachine) (hden : 0 < den)
    (hvalue : (num / den : ℚ) = b.value) : nearest num den = b := by
  have hunit : (0 : ℚ) < 2 ^ b.exponent := by positivity
  have hpositive : (0 : ℚ) < b.value := by
    have hmantissa : (0 : ℚ) < b.mantissa := by exact_mod_cast h.positive
    rw [Binary.value]
    positivity
  refine nearest_eq h ?_ hden ?_
  · rw [Nat.pos_iff_ne_zero]
    rintro rfl
    rw [← hvalue, Nat.cast_zero, zero_div] at hpositive
    exact lt_irrefl _ hpositive
  · rw [hvalue, Binary.value, mul_div_assoc, div_self hunit.ne', mul_one]
    exact Rounds.self b

/-- A machine number divided by a natural number, as a machine number. -/
def Binary.over (b : Binary) (divisor : Nat) : Binary :=
  nearest b.numerator (b.denominator * divisor)

/-- A quotient that is a machine number is kept. -/
theorem over_eq_of_value {divisor : Nat} (h : c.IsMachine) (hdivisor : 0 < divisor)
    (hvalue : c.value * divisor = b.value) : b.over divisor = c := by
  have hden : 0 < b.denominator := Nat.two_pow_pos _
  have hdivisor' : (divisor : ℚ) ≠ 0 := by exact_mod_cast hdivisor.ne'
  refine nearest_eq_of_value h (Nat.mul_pos hden hdivisor) ?_
  rw [Nat.cast_mul, ← div_div, ratio_eq_value, ← hvalue, mul_div_assoc, div_self hdivisor', mul_one]

/-! ## Whole numbers over powers of two -/

/-- The number `n / 2 ^ shift` with 53 digits, for `n` with no more digits than that.  It is the
machine number itself, and not only one of the same value. -/
def wholeOver (n shift : Nat) : Binary :=
  ⟨n * 2 ^ (52 - n.log2), (n.log2 : ℤ) - 52 - shift⟩

section Whole

variable {n shift : Nat}

theorem log2_le_of_lt (h : n < 2 ^ 53) : n.log2 ≤ 52 := by
  by_cases hzero : n = 0
  · rw [hzero, Nat.log2_zero]
    omega
  · have hlog := (Nat.log2_lt hzero).2 h
    omega

theorem isMachine_wholeOver (hpos : 0 < n) (h : n < 2 ^ 53) (hshift : shift ≤ 1000) :
    (wholeOver n shift).IsMachine := by
  have hlog := log2_le_of_lt h
  have hlow := Nat.log2_self_le hpos.ne'
  have hhigh := Nat.lt_log2_self (n := n)
  have hpow : 0 < 2 ^ (52 - n.log2) := Nat.two_pow_pos _
  have hjoin : 2 ^ n.log2 * 2 ^ (52 - n.log2) = 2 ^ 52 := by
    rw [← Nat.pow_add, Nat.add_sub_cancel' hlog]
  refine ⟨Nat.mul_pos hpos hpow, ?_, ?_, Or.inr ?_⟩
  · calc n * 2 ^ (52 - n.log2) < 2 ^ (n.log2 + 1) * 2 ^ (52 - n.log2) :=
          Nat.mul_lt_mul_of_pos_right hhigh hpow
      _ = 2 * 2 ^ 52 := by rw [Nat.pow_succ', Nat.mul_assoc, hjoin]
      _ = 2 ^ 53 := by rw [← Nat.pow_succ']
  · rw [wholeOver]
    dsimp only
    omega
  · calc 2 ^ 52 = 2 ^ n.log2 * 2 ^ (52 - n.log2) := hjoin.symm
      _ ≤ n * 2 ^ (52 - n.log2) := Nat.mul_le_mul_right _ hlow

theorem value_wholeOver (h : n < 2 ^ 53) (shift : Nat) :
    (wholeOver n shift).value = n / 2 ^ shift := by
  have hlog := log2_le_of_lt h
  have hpow : (2 : ℚ) ^ (52 - n.log2) * 2 ^ ((n.log2 : ℤ) - 52) = 1 := by
    rw [← zpow_natCast, ← zpow_add₀ (by norm_num), Nat.cast_sub hlog]
    norm_num
  rw [wholeOver, Binary.value]
  push_cast
  rw [zpow_sub₀ (by norm_num), zpow_natCast, mul_div_assoc', mul_assoc, hpow, mul_one]

theorem scale_wholeOver (n shift more : Nat) :
    (wholeOver n shift).scale (-more) = wholeOver n (shift + more) := by
  rw [wholeOver, wholeOver, Binary.scale, Nat.cast_add, ← sub_eq_add_neg, sub_sub (_ - _)]

/-- `n` divided by 1024 as often as `count` says, each quotient rounded to a machine number.  This
is the loop that chooses a unit, without its end. -/
def divided (n : Nat) : Nat → Binary
  | 0 => nearest n 1
  | count + 1 => (divided n count).over 1024

/-- **Repeated division by 1024 loses nothing.**  By induction on the count: the quotient so far is
exact, and dividing it by a power of two only changes its exponent. -/
theorem divided_eq (hpos : 0 < n) (h : n < 2 ^ 53) {count : Nat} (hcount : count ≤ 100) :
    divided n count = wholeOver n (10 * count) := by
  induction count with
  | zero =>
    refine nearest_eq_of_value (isMachine_wholeOver hpos h (by omega)) Nat.one_pos ?_
    rw [value_wholeOver h, Nat.cast_one, Nat.mul_zero, pow_zero]
  | succ count ih =>
    rw [divided, ih (by omega)]
    refine over_eq_of_value (isMachine_wholeOver hpos h (by omega)) (by decide) ?_
    rw [value_wholeOver h, value_wholeOver h, Nat.mul_succ, pow_add]
    norm_num
    rw [div_mul_eq_mul_div, mul_div_mul_right _ _ (by norm_num)]

theorem value_divided (hpos : 0 < n) (h : n < 2 ^ 53) {count : Nat} (hcount : count ≤ 100) :
    (divided n count).value = n / 1024 ^ count := by
  rw [divided_eq hpos h hcount, value_wholeOver h, pow_mul]
  norm_num

/-- The decimal places of a number, rounded from its value. -/
theorem near_roundPlaces (b : Binary) (places : Nat) :
    Near (b.roundPlaces places) (10 ^ places * b.value) := by
  have hden : 0 < b.denominator := Nat.two_pow_pos _
  have hden' : (b.denominator : ℚ) ≠ 0 := by exact_mod_cast hden.ne'
  refine near_roundRatio hden ?_
  rw [← ratio_eq_value, Nat.pow_eq]
  push_cast
  rw [mul_assoc, div_mul_cancel₀ _ hden', mul_comm]

end Whole

end Number
end AssetPublish
