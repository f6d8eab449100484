import AssetPublish.Console.Wrap
import AssetPublish.Value.Basic

/-!
# Values on the console

A value that is no text is printed as it is quoted.  A list or a record that is too wide for the
console is spread over several lines, an item on each, with an indentation; items that are still too
wide are spread in the same way.

## What is here

* `Row` — what stands around a value on its line.
* `outline` — the lines of a value; `outline_of_fits`: one line where it fits.
* `valueText` — what is printed for a value.
-/

set_option autoImplicit false

namespace AssetPublish
namespace Console

/-- What stands around a value on its line: blanks, the name of a field, and what follows. -/
structure Row where
  indent : Nat
  label : String := ""
  /-- The columns that are kept free behind the value. -/
  reserve : Nat := 0
  ending : String := ""
deriving DecidableEq, Repr

namespace Row

/-- The line with some text on it. -/
def line (row : Row) (text : String) : String :=
  String.ofList (List.replicate row.indent ' ') ++ row.label ++ text ++ row.ending

/-- The line on which a value starts that goes on below. -/
def opening (row : Row) (bracket : String) : String := { row with ending := "" }.line bracket

/-- The line on which such a value ends. -/
def closing (row : Row) (bracket : String) : String := { row with label := "" }.line bracket

/-- Whether some text fits the console. -/
def fits (row : Row) (text : String) : Bool :=
  row.indent + lineWidth row.label.toList + row.reserve + lineWidth text.toList ≤ width

/-- The number of blanks by which items are indented. -/
def step : Nat := 4

/-- The row for an item; a comma follows unless it is the last one, but the last one leaves room for
it too. -/
def item (row : Row) (label : String) (last : Bool) : Row :=
  { indent := row.indent + step, label, reserve := 2, ending := if last then "" else "," }

end Row

mutual

/-- The lines of a value. -/
def outline (row : Row) : Value → List String
  | .list items =>
    let text := (Value.list items).shown
    if items.isEmpty || row.fits text then [row.line text]
    else row.opening "[" :: outlineItems row items ++ [row.closing "]"]
  | .record fields =>
    let text := (Value.record fields).shown
    if fields.isEmpty || row.fits text then [row.line text]
    else row.opening "\x7b" :: outlineFields row fields ++ [row.closing "\x7d"]
  | value => [row.line value.shown]

/-- The lines of the items of a list. -/
def outlineItems (row : Row) : List Value → List String
  | [] => []
  | value :: rest => outline (row.item "" rest.isEmpty) value ++ outlineItems row rest

/-- The lines of the fields of a record. -/
def outlineFields (row : Row) : List (String × Value) → List String
  | [] => []
  | (key, value) :: rest =>
    outline (row.item (Text.quoted key ++ ": ") rest.isEmpty) value ++ outlineFields row rest

end

/-- A value that fits takes one line. -/
theorem outline_of_fits {row : Row} {value : Value} (h : row.fits value.shown) :
    outline row value = [row.line value.shown] := by
  cases value <;> simp [outline, h]

/-- What is printed for a value: a text is a message. -/
def valueText : Value → String
  | .text message => messageText message
  | value => "\n".intercalate (outline { indent := 0 } value) ++ "\n"

end Console
end AssetPublish
