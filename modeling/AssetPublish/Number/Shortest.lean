import AssetPublish.Number.Binary

/-!
# Shortest decimal texts

A binary number is written with the fewest decimal digits that are read back as the same number;
of several such texts the nearest one is taken.

## What is here

* `Decimal` — digits times a power of ten.
* `Interval.ofBinary b` — the ratios that round to `b`.
* `shortest b` — the shortest decimal in that interval.
* `Decimal.text` — positional notation for moderate sizes, scientific notation elsewhere.
-/

set_option autoImplicit false

namespace AssetPublish
namespace Number

/-- The number `digits · 10 ^ exponent`. -/
structure Decimal where
  digits : Nat
  exponent : Int
deriving DecidableEq, Repr

/-- The ratios between `low / den` and `high / den`, the ends belonging to it if `closed`. -/
structure Interval where
  low : Nat
  high : Nat
  den : Nat
  closed : Bool

namespace Interval

/-- The ratios that round to `b`: half a unit of the last digit to both sides, a quarter below a
power of two. -/
def ofBinary (b : Binary) : Interval :=
  let below := if b.mantissa = Nat.pow 2 52 ∧ -1074 < b.exponent then 1 else 2
  { low := (4 * b.mantissa - below) * Nat.pow 2 (b.exponent - 2).toNat
    high := (4 * b.mantissa + 2) * Nat.pow 2 (b.exponent - 2).toNat
    den := Nat.pow 2 (2 - b.exponent).toNat
    closed := b.mantissa % 2 = 0 }

/-- Whether `d` lies in the interval. -/
def holds (i : Interval) (d : Decimal) : Bool :=
  let num := d.digits * Nat.pow 10 d.exponent.toNat * i.den
  let scale := Nat.pow 10 (-d.exponent).toNat
  if i.closed then i.low * scale ≤ num && num ≤ i.high * scale
  else i.low * scale < num && num < i.high * scale

end Interval

/-- The place of the first decimal digit of `num / den`: the `t` with
`10 ^ t ≤ num / den < 10 ^ (t + 1)`. -/
def firstPlace (num den : Nat) : Int :=
  if den ≤ num then ((Nat.toDigits 10 (num / den)).length : Int) - 1
  else
    match (List.range 400).find? fun j => den ≤ num * Nat.pow 10 (j + 1) with
    | some j => -((j : Int) + 1)
    | none => -400

/-- The two multiples of `10 ^ place` around `num / den`, the nearer one first. -/
def neighbours (num den : Nat) (place : Int) : List Decimal :=
  let num := num * Nat.pow 10 (-place).toNat
  let den := den * Nat.pow 10 place.toNat
  let whole := num / den
  if roundRatio num den = whole then [⟨whole, place⟩, ⟨whole + 1, place⟩]
  else [⟨whole + 1, place⟩, ⟨whole, place⟩]

/-- The decimal with the fewest digits among those that round to `b`. -/
def shortest (b : Binary) : Decimal :=
  let interval := Interval.ofBinary b
  let first := firstPlace b.numerator b.denominator
  let candidate := (List.range 17).findSome? fun (count : Nat) =>
    (neighbours b.numerator b.denominator (first - (count : Int))).find? interval.holds
  candidate.getD ⟨b.numerator, 0⟩

namespace Decimal

/-- The significant digits, without zeros at the end, and the place of the point after the first
of them. -/
def significant (d : Decimal) : List Char × Int :=
  let digits := Nat.toDigits 10 d.digits
  let kept := (digits.reverse.dropWhile (· == '0')).reverse
  (if kept.isEmpty then ['0'] else kept, (digits.length : Int) + d.exponent)

/-- A power of ten as it follows the exponent mark: a sign and at least two digits. -/
def exponentText (n : Int) : String :=
  let digits := toString n.natAbs
  (if n < 0 then "-" else "+") ++ (if digits.length < 2 then "0" ++ digits else digits)

/-- The text of a decimal: positional from `0.0001` up to sixteen digits before the point, with at
least one digit after the point, and scientific elsewhere. -/
def text (d : Decimal) : String :=
  if d.digits = 0 then "0.0" else
  let (digits, point) := d.significant
  if -4 < point ∧ point ≤ 16 then
    if point ≤ 0 then "0." ++ String.ofList (List.replicate (-point).toNat '0' ++ digits)
    else
      let whole := digits.take point.toNat
      let fraction := digits.drop point.toNat
      String.ofList (whole ++ List.replicate (point.toNat - whole.length) '0') ++ "." ++
        (if fraction.isEmpty then "0" else String.ofList fraction)
  else
    let head := digits.take 1
    let tail := digits.drop 1
    String.ofList head ++ (if tail.isEmpty then "" else "." ++ String.ofList tail) ++ "e" ++
      exponentText (point - 1)

end Decimal

/-- The shortest text of a binary number. -/
def Binary.text (b : Binary) : String :=
  if b.mantissa = 0 then "0.0" else (shortest b).text

end Number
end AssetPublish
