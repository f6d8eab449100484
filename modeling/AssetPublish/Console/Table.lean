import AssetPublish.Console.Title
import AssetPublish.Value.Mismatch

/-!
# Tables on the console

A table has a title and rows of a label and a value.  It is as wide as its texts need, but not wider
than the console; where they need more, the wider column gives way first, and its texts are broken.

## What is here

* `Table` — a title and rows; `Table.ofValues?` makes one from values of any kind.
* `columnWidths` — the widths of the two columns, with `columnWidths_sum_le`: they fit the console.
* `Table.text?` — what is printed for a table.
-/

set_option autoImplicit false

namespace AssetPublish
namespace Console

/-- Why a table cannot be printed. -/
inductive TableFault
  /-- A value cannot be part of a table. -/
  | mismatch (mismatch : Mismatch)
  /-- The markup of a text is at fault. -/
  | markup (fault : MarkupFault)
deriving Repr

/-- The wording of a fault. -/
def TableFault.message : TableFault → String
  | mismatch cause => cause.message
  | markup fault => fault.message

/-- A table: a title, which may be missing, and rows of a label and a value. -/
structure Table where
  title : Value
  rows : List (String × String)

namespace Table

/-- The text of a value that stands in a table. -/
def cell? : Value → Except Mismatch String
  | .null => .ok ""
  | .text s => .ok s
  | value => .error (.notCell value.kindName)

/-- A row from the value that stands for it. -/
def row? (value : Value) : Except Mismatch (String × String) := do
  let (label, content) ← value.pair?
  return (← cell? label, ← cell? content)

/-- The table with a title and with the rows that a value holds. -/
def ofValues? (title rows : Value) : Except TableFault Table :=
  match rows.items? with
  | none => .error (.mismatch (.notItems rows.kindName))
  | some items => (items.mapM row?).mapError .mismatch |>.map fun rows => ⟨title, rows⟩

end Table

/-! ## Widths -/

/-- The blanks on the two sides of a column. -/
def padding : Nat := 2

/-- The characters at which a text is measured line by line. -/
def lineEnds : List Char := ['\n', '\x1c', '\x1d', '\x1e', '\x85', '\u2028', '\u2029']

/-- The width of the widest line of a text; tabs take none. -/
def textWidth (text : List Char) : Nat :=
  ((text.splitOnP fun c => lineEnds.contains c).map lineWidth).foldl max 0

/-- The width that a column with some texts asks for; a column without any asks for all there is. -/
def neededWidth (texts : List (List Char)) : Nat :=
  if texts.isEmpty then width
  else texts.foldl (fun needed text => max needed (min width (textWidth text + padding))) 0

/-- The width of a column that asks for `own` columns beside one that asks for `other`: what is left
by that one, but no less than half of the console, and no more than it asks for. -/
def sharedWidth (own other : Nat) : Nat := min own (max (width / 2) (width - other))

/-- The widths of the two columns. -/
def columnWidths (labels values : List (List Char)) : Nat × Nat :=
  let own := neededWidth labels
  let other := neededWidth values
  (sharedWidth own other, sharedWidth other own)

/-- The two columns fit the console. -/
theorem columnWidths_sum_le (labels values : List (List Char)) :
    (columnWidths labels values).1 + (columnWidths labels values).2 ≤ width := by
  simp only [columnWidths, sharedWidth, width]
  omega

/-! ## Printing -/

/-- The lines of a row, its two texts each between blanks. -/
def rowLines (widths : Nat × Nat) (row : List Char × List Char) : List (List Char) :=
  let label := wrapped (widths.1 - padding) row.1
  let value := wrapped (widths.2 - padding) row.2
  (List.range (max label.length value.length)).map fun i =>
    ' ' :: padded (widths.1 - padding) (label[i]?.getD []) ++ [' ', ' '] ++
      padded (widths.2 - padding) (value[i]?.getD []) ++ [' ']

namespace Table

/-- What is printed for a title over a table of some width, if there is one. -/
def title? (width : Nat) (title : Value) : Except TableFault (List Char) :=
  if !title.isSet then .ok []
  else
    match title with
    | .text s => ((styled? s).mapError .markup).map fun styled => titleText width styled ++ ['\n']
    | value => .error (.mismatch (.notTitle value))

/-- What is printed for a table: the title centred over the rows, and the rows with their labels and
values. -/
def text? (table : Table) : Except TableFault String := do
  let labels ← (table.rows.mapM fun row => plainText? row.1).mapError .markup
  let values ← (table.rows.mapM fun row => plainText? row.2).mapError .markup
  let widths := columnWidths labels values
  let title ← title? (widths.1 + widths.2) table.title
  let body := (labels.zip values).flatMap (rowLines widths)
  return String.ofList (title ++ body.flatMap fun line => line ++ ['\n'])

end Table
end Console
end AssetPublish
