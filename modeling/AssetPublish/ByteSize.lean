import AssetPublish.Number.Binary

/-!
# Sizes for readers

A number of bytes is shown as it is below 1024, and with one decimal in kilobytes, megabytes or
gigabytes from there on.

## What is here

* `SizeUnit`, `ByteSize` — what is shown: exact bytes, or tenths of a unit.
* `ByteSize.ofBytes?` — the form chosen for a number of bytes; only a size beyond the range of
  machine numbers has none.
* `ByteSize.ofBinary?` — the form chosen for a machine number of bytes, which may be a fraction.
* `sizeText?` — its text.
-/

set_option autoImplicit false

namespace AssetPublish

/-- The units of rounded sizes; each is 1024 of the one before it. -/
inductive SizeUnit
  | kilobyte
  | megabyte
  | gigabyte
deriving DecidableEq, Repr

namespace SizeUnit

/-- The unit is `1024 ^ power` bytes. -/
def power : SizeUnit → Nat
  | kilobyte => 1
  | megabyte => 2
  | gigabyte => 3

/-- The abbreviation behind the number. -/
def symbol : SizeUnit → String
  | kilobyte => "KB"
  | megabyte => "MB"
  | gigabyte => "GB"

/-- The unit for a size of 1024 bytes or more: the largest one of which there is at least one,
gigabytes at most. -/
def ofBytes (n : Nat) : SizeUnit :=
  if n < Nat.pow 1024 2 then kilobyte else if n < Nat.pow 1024 3 then megabyte else gigabyte

end SizeUnit

/-- A size as it is shown. -/
inductive ByteSize
  | exact (bytes : Int)
  | rounded (tenths : Nat) (unit : SizeUnit)
deriving DecidableEq, Repr

namespace ByteSize

/-- The form in which `n` bytes are shown.  The quotient by 1024 is a machine number; further
divisions by 1024 only change its exponent, and tenths are rounded from the result. -/
def ofBytes? (n : Int) : Option ByteSize :=
  if n < 1024 then some (exact n)
  else
    let unit := SizeUnit.ofBytes n.toNat
    let quotient := Number.nearest n.toNat 1024
    if quotient.isHuge then none
    else some (rounded ((quotient.scale (-10 * ((unit.power : Int) - 1))).roundPlaces 1) unit)

/-- The form in which a machine number of bytes is shown if it is 1024 or more. -/
def ofBinary? (b : Number.Binary) : Option ByteSize :=
  if b.numerator < 1024 * b.denominator then none
  else
    let unit := SizeUnit.ofBytes (b.numerator / b.denominator)
    some (rounded ((b.scale (-10 * (unit.power : Int))).roundPlaces 1) unit)

/-- The text of a size. -/
def text : ByteSize → String
  | exact n => toString n ++ " B"
  | rounded tenths unit =>
    toString (tenths / 10) ++ "." ++ toString (tenths % 10) ++ " " ++ unit.symbol

end ByteSize

/-- The text of `n` bytes; none beyond the range of machine numbers. -/
def sizeText? (n : Int) : Option String := (ByteSize.ofBytes? n).map ByteSize.text

end AssetPublish
