import AssetPublish.Value.Basic

/-!
# Documents as JSON text

The text of a document is in ASCII whatever the document holds, so that it does not depend on how
the output is encoded.  There
are two layouts, and documents that are printed have one item a line.

## What is here

* `escapedChar`, `jsonText` — a text as a JSON string that uses ASCII only.
* `Layout` — on one line, or one item a line with an indentation.
* `Value.toJson` — the text of a document.
-/

set_option autoImplicit false

namespace AssetPublish
namespace Value

/-- One character inside a JSON string: quotes, backslashes and everything outside of printable
ASCII are escaped, characters beyond `U+FFFF` as two units. -/
def escapedChar (c : Char) : List Char :=
  if c = '"' ∨ c = '\\' then ['\\', c]
  else if c = '\n' then ['\\', 'n']
  else if c = '\r' then ['\\', 'r']
  else if c = '\t' then ['\\', 't']
  else if c = '\x08' then ['\\', 'b']
  else if c = '\x0c' then ['\\', 'f']
  else if 0x20 ≤ c.toNat ∧ c.toNat < 0x7F then [c]
  else if c.toNat < 0x10000 then '\\' :: 'u' :: Text.hexChars 4 c.toNat
  else
    let rest := c.toNat - 0x10000
    '\\' :: 'u' :: Text.hexChars 4 (0xD800 + rest / 0x400) ++
      '\\' :: 'u' :: Text.hexChars 4 (0xDC00 + rest % 0x400)

/-- A text as a JSON string. -/
def jsonText (s : String) : String :=
  String.ofList ('"' :: s.toList.flatMap escapedChar ++ ['"'])

/-- How the items of lists and records are laid out. -/
inductive Layout
  | oneLine
  | indented (step : Nat)
deriving DecidableEq, Repr

namespace Layout

/-- What stands before an item at nesting depth `depth`, and before a closing bracket one level
further out. -/
def breakText (layout : Layout) (depth : Nat) : String :=
  match layout with
  | oneLine => ""
  | indented step => "\n" ++ String.ofList (List.replicate (step * depth) ' ')

/-- What stands between two items at nesting depth `depth`. -/
def separator (layout : Layout) (depth : Nat) : String :=
  match layout with
  | oneLine => ", "
  | indented _ => "," ++ layout.breakText depth

/-- The items between brackets; nothing stands between the brackets of an empty group. -/
def group (layout : Layout) (depth : Nat) (opening closing : String) (items : List String) :
    String :=
  if items.isEmpty then opening ++ closing
  else opening ++ layout.breakText (depth + 1) ++
    (layout.separator (depth + 1)).intercalate items ++ layout.breakText depth ++ closing

end Layout

mutual

/-- The JSON text of a document at nesting depth `depth`. -/
def toJsonAt (layout : Layout) (depth : Nat) : Value → String
  | null => "null"
  | bool b => if b then "true" else "false"
  | int n => toString n
  | real r => r.text "Infinity"
  | text s => jsonText s
  | list items => layout.group depth "[" "]" (jsonItems layout (depth + 1) items)
  | record fields => layout.group depth "\x7b" "\x7d" (jsonFields layout (depth + 1) fields)

/-- The JSON texts of the items of a list. -/
def jsonItems (layout : Layout) (depth : Nat) : List Value → List String
  | [] => []
  | item :: rest => item.toJsonAt layout depth :: jsonItems layout depth rest

/-- The JSON texts of the fields of a record. -/
def jsonFields (layout : Layout) (depth : Nat) : List (String × Value) → List String
  | [] => []
  | (key, value) :: rest =>
    (jsonText key ++ ": " ++ value.toJsonAt layout depth) :: jsonFields layout depth rest

end

/-- The JSON text of a document. -/
def toJson (layout : Layout) (value : Value) : String := value.toJsonAt layout 0

end Value
end AssetPublish
