import AssetPublish.Value.Basic

/-!
# Values that do not fit

Documents from outside hold values of any kind.  A value is taken as it is where that has a meaning,
and refused where it has none.

## What is here

* `Mismatch` — why a value is refused, with the word for its kind, and the wording of the refusal.
* `Value.items?` — the items of a value that is gone through one by one.
* `Value.pair?` — the two parts of a value that stands for a pair.
* `Value.fields?` — the fields of a value that stands for a record.
* `Value.increased?` — a value that counts something, some more being counted.
-/

set_option autoImplicit false

namespace AssetPublish

/-- Why a value does not fit where it is used. -/
inductive Mismatch
  /-- It spells no path. -/
  | notPath (kind : String)
  /-- It cannot be searched for a character. -/
  | notSearchable (kind : String)
  /-- It cannot be looked up. -/
  | notKey (kind : String)
  /-- It cannot be compared with an integer. -/
  | notOrdered (kind : String)
  /-- It cannot be added to an integer. -/
  | notAddable (kind : String)
  /-- It is a text, to which no integer is added. -/
  | notJoinable
  /-- It cannot stand in a list of texts. -/
  | notListed (kind : String)
  /-- It holds no items. -/
  | notItems (kind : String)
  /-- It holds no fields. -/
  | notFields (kind : String)
  /-- It lacks a property of texts. -/
  | lacking (kind property : String)
  /-- It cannot be taken apart. -/
  | notParts (kind : String)
  /-- It has fewer parts than expected. -/
  | tooFewParts (expected found : Nat)
  /-- It has more parts than expected. -/
  | tooManyParts (expected : Nat)
  /-- It cannot stand in a table. -/
  | notCell (kind : String)
  /-- It cannot stand above a table. -/
  | notTitle (value : Value)
deriving Repr

/-- The wording of a refusal. -/
def Mismatch.message : Mismatch → String
  | notPath kind => "expected str, bytes or os.PathLike object, not " ++ kind
  | notSearchable kind => "argument of type '" ++ kind ++ "' is not iterable"
  | notKey kind => "unhashable type: '" ++ kind ++ "'"
  | notOrdered kind => "'<' not supported between instances of '" ++ kind ++ "' and 'int'"
  | notAddable kind => "unsupported operand type(s) for +=: '" ++ kind ++ "' and 'int'"
  | notJoinable => "can only concatenate str (not \"int\") to str"
  | notListed kind => "sequence item 0: expected str instance, " ++ kind ++ " found"
  | notItems kind => "'" ++ kind ++ "' object is not iterable"
  | notFields kind =>
    if kind = "str" then "string indices must be integers, not 'str'"
    else if kind = "list" then "list indices must be integers or slices, not str"
    else "'" ++ kind ++ "' object is not subscriptable"
  | lacking kind property => "'" ++ kind ++ "' object has no attribute '" ++ property ++ "'"
  | notParts kind => "cannot unpack non-iterable " ++ kind ++ " object"
  | tooFewParts expected found =>
    "not enough values to unpack (expected " ++ toString expected ++ ", got " ++ toString found ++
      ")"
  | tooManyParts expected => "too many values to unpack (expected " ++ toString expected ++ ")"
  | notCell kind =>
    "unable to render " ++ kind ++ "; a string or other renderable object is required"
  | notTitle value =>
    "Unable to render " ++ value.shown ++
      "; A str, Segment or object with __rich_console__ method is required"

namespace Value

/-- The items of a value, if it can be gone through: those of a list, the characters of a text, the
names of the fields of a record. -/
def items? : Value → Option (List Value)
  | list items => some items
  | text s => some (s.toList.map fun c => text (String.singleton c))
  | record fields => some (fields.map fun field => text field.1)
  | _ => none

/-- The two parts of a value. -/
def pair? (value : Value) : Except Mismatch (Value × Value) :=
  match value.items? with
  | none => .error (.notParts value.kindName)
  | some [first, second] => .ok (first, second)
  | some items => .error (if items.length < 2 then .tooFewParts 2 items.length else .tooManyParts 2)

/-- The fields of a value. -/
def fields? : Value → Except Mismatch (List (String × Value))
  | record fields => .ok fields
  | value => .error (.notFields value.kindName)

/-! ## Counting -/

/-- A value increased by one. -/
def succ? : Value → Except Mismatch Value
  | int n => .ok (int (n + 1))
  | bool b => .ok (int (if b then 2 else 1))
  | real r => .ok (real r.succ)
  | text _ => .error .notJoinable
  | list _ => .error (.notItems "int")
  | value => .error (.notAddable value.kindName)

/-- A value increased by one so many times. -/
def increased? (value : Value) : Nat → Except Mismatch Value
  | 0 => .ok value
  | count + 1 => do increased? (← value.succ?) count

theorem increased?_int (n : Int) (count : Nat) :
    (int n).increased? count = .ok (int (n + count)) := by
  induction count generalizing n with
  | zero => simp [increased?]
  | succ count ih =>
    simp only [increased?, succ?, bind, Except.bind, ih]
    congr 2
    omega

end Value
end AssetPublish
