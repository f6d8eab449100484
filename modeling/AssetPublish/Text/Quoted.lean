import AssetPublish.Text.Unprintable

/-!
# Quoted text

A text is shown between quotes: single ones, or double ones if the text holds a single quote and
no double quote.  The quote in use and the backslash are escaped, as are characters without a
printed form.

## What is here

* `hexChars width n` — the last `width` hexadecimal digits of `n`, in lower case.
* `quoteMark text` — the quote that is put around a text.
* `quoted text` — the text as it is shown.
-/

set_option autoImplicit false

namespace AssetPublish
namespace Text

/-- The hexadecimal digit of a number below sixteen. -/
def hexDigit (n : Nat) : Char := Char.ofNat (if n < 10 then 48 + n else 87 + n)

/-- The last `width` hexadecimal digits of `n`, the most significant first. -/
def hexChars : Nat → Nat → List Char
  | 0, _ => []
  | width + 1, n => hexChars width (n / 16) ++ [hexDigit (n % 16)]

/-- The quote around a text: single, unless that would need an escape and double would not. -/
def quoteMark (text : List Char) : Char :=
  if '\'' ∈ text ∧ '"' ∉ text then '"' else '\''

/-- The form of one character between quotes `mark`. -/
def quotedChar (mark c : Char) : List Char :=
  if c = mark ∨ c = '\\' then ['\\', c]
  else if c = '\t' then ['\\', 't']
  else if c = '\n' then ['\\', 'n']
  else if c = '\r' then ['\\', 'r']
  else if isPrintable c then [c]
  else if c.toNat < 0x100 then '\\' :: 'x' :: hexChars 2 c.toNat
  else if c.toNat < 0x10000 then '\\' :: 'u' :: hexChars 4 c.toNat
  else '\\' :: 'U' :: hexChars 8 c.toNat

/-- A list of characters as it is shown, with its quotes. -/
def quotedChars (text : List Char) : List Char :=
  let mark := quoteMark text
  mark :: text.flatMap (quotedChar mark) ++ [mark]

/-- A text as it is shown, with its quotes. -/
def quoted (text : String) : String := String.ofList (quotedChars text.toList)

end Text
end AssetPublish
