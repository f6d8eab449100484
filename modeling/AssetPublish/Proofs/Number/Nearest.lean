import AssetPublish.Number.Shortest
import Mathlib.Algebra.Order.Field.Power
import Mathlib.Algebra.Order.Field.Rat
import Mathlib.Tactic.FieldSimp
import Mathlib.Tactic.Linarith
import Mathlib.Tactic.Ring

/-!
# Rounding to machine numbers

The machine number nearest to a ratio is found with natural numbers only: the place of the first
binary digit, and a quotient rounded at the last one of 53 digits.  Here it is shown which ratios
are rounded to a given number, in units of its last digit.

Rationals appear in the statements only.  The functions that run compute with natural numbers, and
each lemma says of one of them what it finds in terms of a ratio.  The intervals are given in units
of the last digit of the number, and scaled by four, because the interval of a power of two is
narrower below than above: there the next machine number is only half a unit away.

## What is here

* `Near`, `roundRatio_eq` — which ratios are rounded to a natural number.
* `ratioLog2_spec` — the place of the first binary digit of a ratio.
* `Binary.IsMachine` — the machine numbers other than zero.
* `Rounds` — the ratios in the interval of a machine number.
* `nearest_eq` — they are rounded to it.
-/

set_option autoImplicit false

namespace AssetPublish
namespace Number

/-! ## Natural numbers -/

/-- A ratio is rounded to a number within half a unit of it; in the middle between two numbers, to
the even one.  In the middle, the even number is taken, so that the interval holds its ends just if
the number is even. -/
structure Near (n : Nat) (ratio : ℚ) : Prop where
  low : 2 * (n : ℚ) ≤ 2 * ratio + 1
  high : 2 * ratio ≤ 2 * n + 1
  tie : n % 2 = 0 ∨ 2 * (n : ℚ) < 2 * ratio + 1 ∧ 2 * ratio < 2 * n + 1

theorem roundRatio_eq_of_le {num den n : Nat} (hden : 0 < den)
    (hlow : 2 * (n * den) ≤ 2 * num + den) (hhigh : 2 * num ≤ 2 * (n * den) + den)
    (htie : n % 2 = 0 ∨ 2 * (n * den) < 2 * num + den ∧ 2 * num < 2 * (n * den) + den) :
    roundRatio num den = n := by
  have hsplit : num / den * den + num % den = num := Nat.div_add_mod' num den
  have hlt : num % den < den := Nat.mod_lt num hden
  obtain ⟨whole, hwhole⟩ : ∃ whole, whole = num / den := ⟨_, rfl⟩
  rw [← hwhole] at hsplit
  have hcases : n = whole ∨ n = whole + 1 := by
    have hle : whole ≤ n := by
      by_contra hlt'
      have hmul : (n + 1) * den ≤ whole * den := Nat.mul_le_mul_right den (by omega)
      rw [Nat.succ_mul] at hmul
      omega
    have hge : n ≤ whole + 1 := by
      by_contra hlt'
      have hmul : (whole + 2) * den ≤ n * den := Nat.mul_le_mul_right den (by omega)
      rw [Nat.add_mul] at hmul
      omega
    omega
  rw [roundRatio]
  simp only [← hwhole]
  rcases hcases with rfl | rfl
  · rcases htie with heven | hstrict
    · split_ifs <;> omega
    · split_ifs <;> omega
  · have hsucc : (whole + 1) * den = whole * den + den := Nat.succ_mul _ _
    rcases htie with heven | hstrict
    · split_ifs <;> omega
    · split_ifs <;> omega

/-- **Rounding a ratio.** -/
theorem roundRatio_eq {num den n : Nat} {ratio : ℚ} (hden : 0 < den)
    (hratio : (num : ℚ) = ratio * den) (h : Near n ratio) : roundRatio num den = n := by
  have hden' : (0 : ℚ) < den := by exact_mod_cast hden
  obtain ⟨hlow, hhigh, htie⟩ := h
  refine roundRatio_eq_of_le hden ?_ ?_ (htie.imp_right fun h => ⟨?_, ?_⟩)
  · have hle : (2 * (n * den) : ℚ) ≤ 2 * num + den := by rw [hratio]; nlinarith
    exact_mod_cast hle
  · have hle : (2 * num : ℚ) ≤ 2 * (n * den) + den := by rw [hratio]; nlinarith
    exact_mod_cast hle
  · have hlt : (2 * (n * den) : ℚ) < 2 * num + den := by rw [hratio]; nlinarith
    exact_mod_cast hlt
  · have hlt : (2 * num : ℚ) < 2 * (n * den) + den := by rw [hratio]; nlinarith
    exact_mod_cast hlt

/-! ## Powers of two

The exponent may have either sign, while the functions use natural powers on one of the two sides.
-/

/-- A power with a natural exponent, by the one with an exponent of either sign. -/
theorem pow_toNat {base : ℚ} (hbase : base ≠ 0) (k : ℤ) :
    base ^ k.toNat = base ^ k * base ^ (-k).toNat := by
  rw [← zpow_natCast, ← zpow_natCast, ← zpow_add₀ hbase]
  congr 1
  omega

/-- Comparison with a power of two, without fractions. -/
theorem mul_two_pow_le_iff (a b : Nat) (k : Int) :
    a * 2 ^ k.toNat ≤ b * 2 ^ (-k).toNat ↔ (a : ℚ) * 2 ^ k ≤ b := by
  have hpos : (0 : ℚ) < 2 ^ (-k).toNat := by positivity
  rw [← mul_le_mul_iff_left₀ hpos, mul_assoc, ← pow_toNat (by norm_num)]
  norm_cast

variable {num den : Nat}

theorem two_zpow_succ (k : ℤ) : (2 : ℚ) ^ (k + 1) = 2 * 2 ^ k := by
  rw [zpow_add_one₀ (by norm_num), mul_comm]

/-- A natural number lies between two powers of two. -/
theorem zpow_log2_le (h : 0 < num) :
    (2 : ℚ) ^ (num.log2 : ℤ) ≤ num ∧ (num : ℚ) < 2 * 2 ^ (num.log2 : ℤ) := by
  have hlow := Nat.log2_self_le (Nat.ne_of_gt h)
  have hhigh := Nat.lt_log2_self (n := num)
  rw [Nat.pow_succ, Nat.mul_comm] at hhigh
  rw [zpow_natCast]
  exact ⟨by exact_mod_cast hlow, by exact_mod_cast hhigh⟩

/-- **The place of the first binary digit of a ratio.**  The difference of the two logarithms is
right or too large by one, and one comparison decides. -/
theorem ratioLog2_spec (hnum : 0 < num) (hden : 0 < den) :
    (2 : ℚ) ^ ratioLog2 num den ≤ num / den ∧
      (num : ℚ) / den < 2 ^ (ratioLog2 num den + 1) := by
  obtain ⟨hnumlow, hnumhigh⟩ := zpow_log2_le hnum
  obtain ⟨hdenlow, hdenhigh⟩ := zpow_log2_le hden
  have hden' : (0 : ℚ) < den := by exact_mod_cast hden
  rw [ratioLog2]
  simp only [Nat.pow_eq, mul_two_pow_le_iff]
  obtain ⟨guess, hguess⟩ : ∃ guess : ℤ, guess = (num.log2 : ℤ) - den.log2 := ⟨_, rfl⟩
  rw [← hguess]
  have hratio : (2 : ℚ) ^ (num.log2 : ℤ) = 2 ^ guess * 2 ^ (den.log2 : ℤ) := by
    rw [← zpow_add₀ (by norm_num), hguess, sub_add_cancel]
  have hpow : (0 : ℚ) < 2 ^ guess := by positivity
  have hdenpow : (0 : ℚ) < 2 ^ (den.log2 : ℤ) := by positivity
  split
  · rename_i hle
    refine ⟨by rw [le_div_iff₀ hden']; linarith, ?_⟩
    rw [div_lt_iff₀ hden', two_zpow_succ]
    nlinarith
  · rename_i hlt
    have hsucc := two_zpow_succ (guess - 1)
    rw [sub_add_cancel] at hsucc ⊢
    refine ⟨?_, by rw [div_lt_iff₀ hden']; linarith⟩
    rw [le_div_iff₀ hden']
    nlinarith

/-- **Rounding to a multiple of a power of two.** -/
theorem nearestAt_eq {n : Nat} {place : ℤ} (hden : 0 < den)
    (h : Near n ((num / den : ℚ) / 2 ^ place)) : nearestAt num den place = ⟨n, place⟩ := by
  have hsplit := pow_toNat (show (2 : ℚ) ≠ 0 by norm_num) place
  have hden' : (den : ℚ) ≠ 0 := by exact_mod_cast Nat.ne_of_gt hden
  have hpos : 0 < den * Nat.pow 2 place.toNat := Nat.mul_pos hden (Nat.two_pow_pos _)
  rw [nearestAt, Binary.mk.injEq]
  refine ⟨roundRatio_eq hpos ?_ h, rfl⟩
  simp only [Nat.pow_eq, Nat.cast_mul, Nat.cast_pow, Nat.cast_ofNat, hsplit]
  field_simp

/-! ## Machine numbers -/

/-- The machine numbers other than zero: 53 digits, the first of which is no zero unless the number
is among the smallest.  There is no upper end here; numbers that are too large are told apart
elsewhere. -/
structure Binary.IsMachine (b : Binary) : Prop where
  positive : 0 < b.mantissa
  digits : b.mantissa < 2 ^ 53
  least : -1074 ≤ b.exponent
  normal : b.exponent = -1074 ∨ 2 ^ 52 ≤ b.mantissa

/-- How far below a machine number lie the ratios that round to it, in quarters of a unit of its
last digit.  It is one quarter below a power of two and two quarters elsewhere. -/
def Binary.below (b : Binary) : Nat :=
  if b.mantissa = Nat.pow 2 52 ∧ -1074 < b.exponent then 1 else 2

/-- The ratios that round to a machine number, in units of its last digit.  This describes the
interval without saying how a ratio is rounded; that both agree is the last theorem. -/
structure Rounds (b : Binary) (ratio : ℚ) : Prop where
  low : 4 * (b.mantissa : ℚ) ≤ 4 * ratio + b.below
  high : 4 * ratio ≤ 4 * b.mantissa + 2
  tie : b.mantissa % 2 = 0 ∨
    4 * (b.mantissa : ℚ) < 4 * ratio + b.below ∧ 4 * ratio < 4 * b.mantissa + 2

theorem Binary.below_le (b : Binary) : b.below ≤ 2 := by
  rw [Binary.below]
  split <;> decide

variable {b : Binary} {ratio : ℚ}

theorem Rounds.near (h : Rounds b ratio) : Near b.mantissa ratio := by
  have hbelow : (b.below : ℚ) ≤ 2 := by exact_mod_cast b.below_le
  obtain ⟨hlow, hhigh, htie⟩ := h
  exact ⟨by linarith, by linarith, htie.imp_right fun h => ⟨by linarith [h.1], by linarith [h.2]⟩⟩

/-- A number of 53 digits is not rounded further. -/
theorem normal_eq (h : b.IsMachine) : b.normal = b := by
  have hdigits := h.digits
  rw [Binary.normal, if_neg]
  simp only [Nat.pow_eq]
  omega

/-- The place of the first digit of a ratio that rounds to a machine number is that of the number,
unless the ratio is just below the first number with this place. -/
theorem first_of_rounds (h : b.IsMachine) (hrounds : Rounds b ratio) {first : ℤ}
    (hfirst : (2 : ℚ) ^ first ≤ ratio) (hfirst' : ratio < 2 ^ (first + 1)) :
    max (first + b.exponent - 52) (-1074) = b.exponent ∨
      (b.mantissa = 2 ^ 52 ∧ ratio < 2 ^ 52 ∧ b.below = 1 ∧
        max (first + b.exponent - 52) (-1074) = b.exponent - 1) := by
  obtain ⟨hpositive, hdigits, hleast, hnormal⟩ := h
  have hmantissa : (b.mantissa : ℚ) + 1 ≤ 2 ^ 53 := by exact_mod_cast hdigits
  have hbelow : (b.below : ℚ) ≤ 2 := by exact_mod_cast b.below_le
  have hhigh : ratio < (2 : ℚ) ^ (53 : ℤ) := by
    norm_num at hmantissa ⊢
    linarith [hrounds.high]
  have hfirst53 : first < 53 := (zpow_lt_zpow_iff_right₀ (by norm_num)).1 (hfirst.trans_lt hhigh)
  by_cases hsmall : ratio < (2 : ℚ) ^ (52 : ℤ)
  · have hfirst52 : first < 52 :=
      (zpow_lt_zpow_iff_right₀ (by norm_num)).1 (hfirst.trans_lt hsmall)
    -- Less than the mantissas of normal numbers: the ratio is rounded up to the least of them.
    rcases hnormal with hsubnormal | hnormal
    · exact Or.inl (by omega)
    · by_cases hleast' : b.exponent = -1074
      · exact Or.inl (by omega)
      have hpower : b.mantissa = 2 ^ 52 := by
        by_contra hne
        have hlarge : (2 : ℚ) ^ 52 + 1 ≤ b.mantissa := by
          exact_mod_cast (show 2 ^ 52 + 1 ≤ b.mantissa by omega)
        norm_num at hsmall
        linarith [hrounds.low]
      have hone : b.below = 1 := by
        rw [Binary.below, if_pos ⟨hpower, by omega⟩]
      have hlow : (2 : ℚ) ^ (51 : ℤ) ≤ ratio := by
        have hlow := hrounds.low
        rw [hpower, hone] at hlow
        norm_num at hlow ⊢
        linarith
      have hfirst51 : 51 < first + 1 :=
        (zpow_lt_zpow_iff_right₀ (by norm_num)).1 (hlow.trans_lt hfirst')
      exact Or.inr ⟨hpower, by exact_mod_cast hsmall, hone, by omega⟩
  · have hlarge : (52 : ℤ) < first + 1 :=
      (zpow_lt_zpow_iff_right₀ (by norm_num)).1 ((not_lt.1 hsmall).trans_lt hfirst')
    exact Or.inl (by omega)

/-- **What lies in the interval of a machine number is rounded to it.**  A ratio just below a power
of two has its first digit one place lower, and is rounded up to the power; this case is treated by
itself. -/
theorem nearest_eq (h : b.IsMachine) (hnum : 0 < num) (hden : 0 < den)
    (hrounds : Rounds b ((num / den : ℚ) / 2 ^ b.exponent)) : nearest num den = b := by
  obtain ⟨hfirst, hfirst'⟩ := ratioLog2_spec hnum hden
  have hunit : (0 : ℚ) < 2 ^ b.exponent := by positivity
  have hshift : (2 : ℚ) ^ (ratioLog2 num den - b.exponent) ≤ (num / den : ℚ) / 2 ^ b.exponent ∧
      (num / den : ℚ) / 2 ^ b.exponent < 2 ^ (ratioLog2 num den - b.exponent + 1) := by
    rw [sub_add_eq_add_sub, zpow_sub₀ (by norm_num), zpow_sub₀ (by norm_num),
      div_le_div_iff_of_pos_right hunit, div_lt_div_iff_of_pos_right hunit]
    exact ⟨hfirst, hfirst'⟩
  have hplace := first_of_rounds h hrounds hshift.1 hshift.2
  rw [sub_add_cancel] at hplace
  rw [nearest, if_neg (Nat.ne_of_gt hnum)]
  rcases hplace with hplace | ⟨hpower, hsmall, hbelow, hplace⟩
  · rw [hplace, nearestAt_eq hden hrounds.near]
    exact normal_eq h
  · have hnear : Near (2 ^ 53) ((num / den : ℚ) / 2 ^ (b.exponent - 1)) := by
      have hlow := hrounds.low
      rw [zpow_sub_one₀ (by norm_num), div_mul_eq_div_div, div_inv_eq_mul]
      rw [hpower, hbelow] at hlow
      norm_num at hlow hsmall ⊢
      exact ⟨by norm_num; linarith, by norm_num; linarith, Or.inl (by norm_num)⟩
    have hcarry : (Binary.mk (2 ^ 53) (b.exponent - 1)).normal = ⟨2 ^ 52, b.exponent - 1 + 1⟩ :=
      if_pos rfl
    rw [hplace, nearestAt_eq hden hnear, hcarry, sub_add_cancel, ← hpower]

end Number
end AssetPublish
