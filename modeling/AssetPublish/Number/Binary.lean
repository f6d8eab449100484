import AssetPublish.Number.Rounding

/-!
# Binary numbers of 53 digits

Measured quantities are computed with binary numbers of 53 significant digits.  Here such a number
is an exact pair of natural number and power of two, so that every step can be reasoned about.

## What is here

* `Binary` — `mantissa · 2 ^ exponent`, with its value as a ratio (`numerator`, `denominator`).
* `nearest num den` — the binary number nearest to a ratio, a half going to the even mantissa.
* `Binary.scale`, `Binary.isHuge` — multiplying by a power of two, and the end of the range.
-/

set_option autoImplicit false

namespace AssetPublish
namespace Number

/-- The number `mantissa · 2 ^ exponent`. -/
structure Binary where
  mantissa : Nat
  exponent : Int
deriving DecidableEq, Repr

namespace Binary

/-- The value is `numerator / denominator`. -/
def numerator (b : Binary) : Nat := b.mantissa * Nat.pow 2 b.exponent.toNat

/-- The value is `numerator / denominator`. -/
def denominator (b : Binary) : Nat := Nat.pow 2 (-b.exponent).toNat

/-- Multiplication by `2 ^ k`. -/
def scale (b : Binary) (k : Int) : Binary := ⟨b.mantissa, b.exponent + k⟩

/-- The value is `2 ^ 1024` or more, which no machine number reaches. -/
def isHuge (b : Binary) : Bool := b.mantissa ≠ 0 && 1024 ≤ (b.mantissa.log2 : Int) + b.exponent

/-- The value rounded to the nearest multiple of a power of ten: how many times `10 ^ -places` it
is, a half going to the even neighbour. -/
def roundPlaces (b : Binary) (places : Nat) : Nat :=
  roundRatio (b.numerator * Nat.pow 10 places) b.denominator

end Binary

/-- The number of binary digits before the point of the ratio `num / den`, less one. -/
def ratioLog2 (num den : Nat) : Int :=
  let guess : Int := (num.log2 : Int) - den.log2
  if den * Nat.pow 2 guess.toNat ≤ num * Nat.pow 2 (-guess).toNat then guess else guess - 1

/-- The ratio `num / den` rounded to a multiple of `2 ^ exponent`. -/
def nearestAt (num den : Nat) (exponent : Int) : Binary :=
  ⟨roundRatio (num * Nat.pow 2 (-exponent).toNat) (den * Nat.pow 2 exponent.toNat), exponent⟩

/-- The same number with 53 digits where rounding up has made a 54th. -/
def Binary.normal (b : Binary) : Binary :=
  if b.mantissa = Nat.pow 2 53 then ⟨Nat.pow 2 52, b.exponent + 1⟩ else b

/-- The binary number of 53 digits nearest to `num / den`.  Below `2 ^ -1022` the digits thin out
down to `2 ^ -1074`. -/
def nearest (num den : Nat) : Binary :=
  if num = 0 then ⟨0, 0⟩
  else (nearestAt num den (max (ratioLog2 num den - 52) (-1074))).normal

end Number
end AssetPublish
