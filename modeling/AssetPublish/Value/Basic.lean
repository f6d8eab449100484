import AssetPublish.Number.Shortest
import AssetPublish.Text.Quoted

/-!
# Dynamic values

Settings and statistics are exchanged as structured documents.  `Value` is the type of such
documents, with integers of any size and records that keep the order of their fields.

## What is here

* `Real` — a machine number with a fraction: a sign and a magnitude.
* `Value` — the documents.
* `Value.isSet` — whether a value counts as "yes" where a switch is expected.
* `Value.shown` — how a value is quoted in a message.
* `Value.plain` — how a value is shown in running text.
-/

set_option autoImplicit false

namespace AssetPublish

/-- A machine number: a sign and a magnitude, `none` standing for infinity. -/
structure Real where
  negative : Bool
  magnitude : Option Number.Binary
deriving DecidableEq, Repr

namespace Real

/-- The machine number nearest to `± num / den`. -/
def ofRatio (negative : Bool) (num den : Nat) : Real :=
  let nearest := Number.nearest num den
  ⟨negative, if nearest.isHuge then none else some nearest⟩

/-- The text of a machine number, `infinite` being the word for infinity. -/
def text (infinite : String) (r : Real) : String :=
  (if r.negative then "-" else "") ++
    match r.magnitude with
    | none => infinite
    | some m => m.text

/-- Whether the number is zero of either sign. -/
def isZero (r : Real) : Bool := r.magnitude.any (·.mantissa = 0)

/-- The number increased by one. -/
def succ (r : Real) : Real :=
  match r.magnitude with
  | none => r
  | some m =>
    let num : Int := m.numerator
    let sum := (if r.negative then -num else num) + m.denominator
    ofRatio (sum < 0) sum.natAbs m.denominator

end Real

/-- A structured document. -/
inductive Value
  | null
  | bool (b : Bool)
  | int (n : Int)
  | real (r : Real)
  | text (s : String)
  | list (items : List Value)
  | record (fields : List (String × Value))
deriving Repr

namespace Value

instance : Inhabited Value := ⟨null⟩

/-- Whether a value counts as "yes": nothing, zero and whatever is empty do not. -/
def isSet : Value → Bool
  | null => false
  | bool b => b
  | int n => n ≠ 0
  | real r => !r.isZero
  | text s => s ≠ ""
  | list items => !items.isEmpty
  | record fields => !fields.isEmpty

/-- The word for the kind of a value in messages. -/
def kindName : Value → String
  | null => "NoneType"
  | bool _ => "bool"
  | int _ => "int"
  | real _ => "float"
  | text _ => "str"
  | list _ => "list"
  | record _ => "dict"

/-- The first field of that name. -/
def field? (name : String) : List (String × Value) → Option Value
  | [] => none
  | (key, value) :: rest => if key = name then some value else field? name rest

mutual

/-- A value as it is quoted in a message. -/
def shown : Value → String
  | null => "None"
  | bool b => if b then "True" else "False"
  | int n => toString n
  | real r => r.text "inf"
  | text s => Text.quoted s
  | list items => "[" ++ ", ".intercalate (shownItems items) ++ "]"
  | record fields => "\x7b" ++ ", ".intercalate (shownFields fields) ++ "\x7d"

/-- The items of a list as they are quoted. -/
def shownItems : List Value → List String
  | [] => []
  | item :: rest => item.shown :: shownItems rest

/-- The fields of a record as they are quoted. -/
def shownFields : List (String × Value) → List String
  | [] => []
  | (key, value) :: rest => (Text.quoted key ++ ": " ++ value.shown) :: shownFields rest

end

/-- A value in running text: a text as it is, anything else as it is quoted. -/
def plain : Value → String
  | text s => s
  | value => value.shown

end Value
end AssetPublish
