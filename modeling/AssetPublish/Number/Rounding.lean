/-!
# Rounding a quotient

## What is here

* `roundRatio num den` — the integer nearest to `num / den`, a half going to the even neighbour.
* `roundRatio_mul` — an exact quotient is kept.
* `roundRatio_near` — the result is within half a unit.
-/

set_option autoImplicit false

namespace AssetPublish
namespace Number

/-- The natural number nearest to `num / den`; a half goes to the even neighbour. -/
def roundRatio (num den : Nat) : Nat :=
  let whole := num / den
  let rest := num % den
  if 2 * rest < den then whole
  else if den < 2 * rest then whole + 1
  else if whole % 2 = 0 then whole
  else whole + 1

theorem roundRatio_mul {den : Nat} (hden : 0 < den) (n : Nat) : roundRatio (n * den) den = n := by
  simp [roundRatio, Nat.mul_div_cancel n hden, hden]

/-- The result is within half a unit of the quotient. -/
theorem roundRatio_near {den : Nat} (hden : 0 < den) (num : Nat) :
    2 * num ≤ 2 * (roundRatio num den * den) + den ∧
      2 * (roundRatio num den * den) ≤ 2 * num + den := by
  have hsplit : num / den * den + num % den = num := by
    rw [Nat.mul_comm]; exact Nat.div_add_mod num den
  have hlt : num % den < den := Nat.mod_lt num hden
  have hsucc : (num / den + 1) * den = num / den * den + den := Nat.succ_mul _ _
  unfold roundRatio
  dsimp only
  split
  · omega
  · split
    · omega
    · split <;> omega

end Number
end AssetPublish
