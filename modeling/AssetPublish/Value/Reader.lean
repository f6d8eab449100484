import AssetPublish.Value.Basic

/-!
# Reading JSON text

These readers know nothing about how documents are written: they accept any JSON text, with blanks
wherever they are allowed, any escapes, and numbers in any form.  So it means something that a
printed document is read back.  As in other readers, a number with a point or a power of ten is a
machine number and any other is an integer, and of fields with one name the last one counts.

## What is here

* `readChar`, `readText`, `readNumber`, `readValue` — readers that take a JSON text off the front of
  a list of characters and hand back the rest.
* `Value.ofJson?` — the document that a whole text denotes.
-/

set_option autoImplicit false

namespace AssetPublish
namespace Value
namespace Reader

/-- The rest after blanks between tokens. -/
def skipBlanks (cs : List Char) : List Char :=
  cs.dropWhile fun c => c = ' ' || c = '\n' || c = '\t' || c = '\r'

/-- The value of a hexadecimal digit. -/
def hexValue? (c : Char) : Option Nat :=
  if '0' ≤ c ∧ c ≤ '9' then some (c.toNat - 48)
  else if 'a' ≤ c ∧ c ≤ 'f' then some (c.toNat - 87)
  else if 'A' ≤ c ∧ c ≤ 'F' then some (c.toNat - 55)
  else none

/-- The digit that is written for a number below sixteen has this number as its value. -/
theorem hexValue?_hexDigit {n : Nat} (h : n < 16) : hexValue? (Text.hexDigit n) = some n := by
  have hall : ∀ digit < 16, hexValue? (Text.hexDigit digit) = some digit := by decide
  exact hall n h

/-- The value of four hexadecimal digits. -/
def unit? (a b c d : Char) : Option Nat := do
  let a ← hexValue? a
  let b ← hexValue? b
  let c ← hexValue? c
  let d ← hexValue? d
  return ((a * 16 + b) * 16 + c) * 16 + d

/-- The character of an escape with one letter. -/
def escape? (c : Char) : Option Char :=
  match c with
  | '"' => some '"'
  | '\\' => some '\\'
  | '/' => some '/'
  | 'b' => some '\x08'
  | 'f' => some '\x0c'
  | 'n' => some '\n'
  | 'r' => some '\r'
  | 't' => some '\t'
  | _ => none

/-- The character of an escaped unit; half of a pair that stands alone becomes the replacement
character. -/
def unitChar (n : Nat) : Char :=
  if 0xD800 ≤ n ∧ n < 0xE000 then '\ufffd' else Char.ofNat n

/-- The character of two units that form a pair. -/
def pairChar? (high low : Nat) : Option Char :=
  if 0xD800 ≤ high ∧ high < 0xDC00 ∧ 0xDC00 ≤ low ∧ low < 0xE000 then
    some (Char.ofNat (0x10000 + (high - 0xD800) * 0x400 + (low - 0xDC00)))
  else none

/-- The unit that an escape at the front of the input denotes. -/
def unitAhead? : List Char → Option Nat
  | '\\' :: 'u' :: a :: b :: c :: d :: _ => unit? a b c d
  | _ => none

/-- The character at the front of the input, be it escaped or not, and the rest behind it.  Control
characters have to be escaped. -/
def readChar : List Char → Option (Char × List Char)
  | '\\' :: 'u' :: a :: b :: c :: d :: rest => do
    let high ← unit? a b c d
    match (unitAhead? rest).bind (pairChar? high) with
    | some paired => return (paired, rest.drop 6)
    | none => return (unitChar high, rest)
  | '\\' :: c :: rest => (escape? c).map (·, rest)
  | c :: rest => if c.toNat < 0x20 then none else some (c, rest)
  | [] => none

theorem length_readChar {cs rest : List Char} {c : Char} (h : readChar cs = some (c, rest)) :
    rest.length < cs.length := by
  unfold readChar at h
  split at h
  · rename_i first second third fourth behind
    cases hunit : unit? first second third fourth with
    | none => simp [hunit] at h
    | some high =>
      rw [hunit] at h
      simp only [Option.bind_eq_bind, Option.bind_some] at h
      split at h <;> simp only [Option.pure_def, Option.some.injEq, Prod.mk.injEq] at h <;>
        rw [← h.2] <;> simp only [List.length_drop, List.length_cons] <;> omega
  · obtain ⟨_, -, heq⟩ := Option.map_eq_some_iff.1 h
    rw [← (Prod.mk.inj heq).2]
    simp only [List.length_cons]
    omega
  · split at h <;> simp only [Option.some.injEq, Prod.mk.injEq, reduceCtorEq] at h
    rw [← h.2, List.length_cons]
    exact Nat.lt_succ_self _
  · simp at h

/-- The characters up to the closing quote, and the rest behind it. -/
def readText (cs : List Char) : Option (List Char × List Char) :=
  if cs.head? = some '"' then some ([], cs.tail)
  else
    match _h : readChar cs with
    | some (c, rest) => (readText rest).map fun (more, rest) => (c :: more, rest)
    | none => none
termination_by cs.length
decreasing_by exact length_readChar _h

/-- The number that decimal digits denote. -/
def digitsValue (digits : List Char) : Nat :=
  digits.foldl (fun n c => n * 10 + (c.toNat - 48)) 0

/-- The digits at the front of the input, and the rest. -/
def readDigits (cs : List Char) : List Char × List Char :=
  (cs.takeWhile Char.isDigit, cs.dropWhile Char.isDigit)

/-- The digits of a whole number at the front of the input, and the rest.  A zero stands alone. -/
def readWhole : List Char → List Char × List Char
  | '0' :: rest => (['0'], rest)
  | cs => readDigits cs

/-- An exponent at the front of the input: its sign, its digits and the rest. -/
def readExponent (cs : List Char) : Option (Bool × List Char × List Char) :=
  match cs with
  | c :: rest =>
    if c = 'e' ∨ c = 'E' then
      let (negative, rest) := match rest with
        | '-' :: rest => (true, rest)
        | '+' :: rest => (false, rest)
        | rest => (false, rest)
      let (digits, rest) := readDigits rest
      if digits.isEmpty then none else some (negative, digits, rest)
    else none
  | [] => none

/-- A fraction at the front of the input: its digits and the rest. -/
def readFraction (cs : List Char) : Option (List Char × List Char) :=
  match cs with
  | '.' :: rest =>
    let (digits, rest) := readDigits rest
    if digits.isEmpty then none else some (digits, rest)
  | _ => none

/-- A sign at the front of the input: whether it is a minus, and the rest. -/
def readSign : List Char → Bool × List Char
  | '-' :: rest => (true, rest)
  | cs => (false, cs)

/-- A number; with a fraction or an exponent it is a machine number, else an integer. -/
def readNumber (cs : List Char) : Option (Value × List Char) :=
  let (negative, cs) := readSign cs
  let (whole, rest) := readWhole cs
  if whole.isEmpty then none
  else
    let fraction := readFraction rest
    let rest := (fraction.map Prod.snd).getD rest
    let power := readExponent rest
    let rest := (power.map (·.2.2)).getD rest
    if fraction.isNone ∧ power.isNone then
      let n := digitsValue whole
      some (int (if negative then -(n : Int) else n), rest)
    else
      let fractionDigits := (fraction.map Prod.fst).getD []
      let shift : Int := match power with
        | some (true, digits, _) => -(digitsValue digits : Int)
        | some (false, digits, _) => digitsValue digits
        | none => 0
      let place := shift - fractionDigits.length
      some (real (Real.ofRatio negative
        (digitsValue (whole ++ fractionDigits) * Nat.pow 10 place.toNat)
        (Nat.pow 10 (-place).toNat)), rest)

/-- A field put in its place: a repeated name keeps its first position and takes the last value. -/
def putField (name : String) (value : Value) : List (String × Value) → List (String × Value)
  | [] => [(name, value)]
  | (key, old) :: rest =>
    if key = name then (key, value) :: rest else (key, old) :: putField name value rest

/-- The words of JSON. -/
def readWord (cs : List Char) : Option (Value × List Char) :=
  match cs with
  | 'n' :: 'u' :: 'l' :: 'l' :: rest => some (null, rest)
  | 't' :: 'r' :: 'u' :: 'e' :: rest => some (bool true, rest)
  | 'f' :: 'a' :: 'l' :: 's' :: 'e' :: rest => some (bool false, rest)
  | _ => none

mutual

/-- A value at the front of the input, and the rest.  Every nested value is at least one character
shorter than the one around it, so the length of the input is fuel enough. -/
def readValue : Nat → List Char → Option (Value × List Char)
  | 0, _ => none
  | fuel + 1, cs =>
    match skipBlanks cs with
    | '"' :: rest => (readText rest).map fun (chars, rest) => (text (String.ofList chars), rest)
    | '[' :: rest =>
      match skipBlanks rest with
      | ']' :: rest => some (list [], rest)
      | rest => (readItems fuel rest).map fun (items, rest) => (list items, rest)
    | '\x7b' :: rest =>
      match skipBlanks rest with
      | '\x7d' :: rest => some (record [], rest)
      | rest => (readFields fuel [] rest).map fun (fields, rest) => (record fields, rest)
    | rest => (readWord rest).or (readNumber rest)

/-- The items of a list up to its closing bracket. -/
def readItems : Nat → List Char → Option (List Value × List Char)
  | 0, _ => none
  | fuel + 1, cs => do
    let (item, rest) ← readValue fuel cs
    match skipBlanks rest with
    | ']' :: rest => return ([item], rest)
    | ',' :: rest =>
      let (items, rest) ← readItems fuel rest
      return (item :: items, rest)
    | _ => none

/-- The fields of a record up to its closing brace, added to those read before. -/
def readFields : Nat → List (String × Value) → List Char →
    Option (List (String × Value) × List Char)
  | 0, _, _ => none
  | fuel + 1, fields, cs =>
    match skipBlanks cs with
    | '"' :: rest => do
      let (name, rest) ← readText rest
      match skipBlanks rest with
      | ':' :: rest =>
        let (value, rest) ← readValue fuel rest
        let fields := putField (String.ofList name) value fields
        match skipBlanks rest with
        | '\x7d' :: rest => return (fields, rest)
        | ',' :: rest => readFields fuel fields rest
        | _ => none
      | _ => none
    | _ => none

end

end Reader

/-- The document that a JSON text denotes. -/
def ofJson? (s : String) : Option Value :=
  match Reader.readValue (s.toList.length + 1) s.toList with
  | some (value, rest) => if (Reader.skipBlanks rest).isEmpty then some value else none
  | none => none

end Value
end AssetPublish
