import AssetPublish.Path
import AssetPublish.Text.Sorted
import AssetPublish.Value.Mismatch
import AssetPublish.Wildcard

/-!
# Exclusion rules

A rule says of a path relative to the root of a tree whether the object there, with all that lies
below it, is left out.

## What is here

* `NameSet` — a set of names, as an increasing list.
* `RuleFault` — why a rule cannot be built or asked.
* `Exclusion` — the rules: names of components, wildcard patterns, and unions.
* `Exclusion.matches?` — the answer of a rule for a path.
* `Exclusion.sameAs` — equality of rules that were built apart.
* `Exclusion.shown` — a rule as it is quoted in a message.
-/

set_option autoImplicit false

namespace AssetPublish

/-- A set of names, in increasing order. -/
@[ext]
structure NameSet where
  names : List String
  increasing : names.Pairwise (· < ·)
deriving DecidableEq

/-- The set of the names in a list. -/
def NameSet.ofList (names : List String) : NameSet :=
  ⟨Text.sorted names, Text.sorted_pairwise names⟩

/-- Why a rule cannot be built from a value, or cannot be asked about a path. -/
inductive RuleFault
  /-- The rule has no definition. -/
  | undefined
  /-- This value was given where a rule is expected. -/
  | unsupported (value : Value)
  /-- A value among the items of a rule, or the path asked about, does not fit. -/
  | mismatch (mismatch : Mismatch)
deriving Repr

/-- The wording of a fault. -/
def RuleFault.message : RuleFault → String
  | undefined => ""
  | unsupported value => "Unsupported exclusion value: " ++ value.shown
  | mismatch cause => cause.message

/-- A rule for leaving out parts of a tree. -/
inductive Exclusion
  /-- A component of the path is one of these names. -/
  | names (set : NameSet)
  /-- A component has the form of one of these patterns; a pattern with a slash is held against
  the whole path.  Patterns that are no texts are kept until they are asked. -/
  | patterns (items : List Value)
  /-- One of these rules applies. -/
  | union (rules : List Exclusion)
  /-- A rule without definition. -/
  | undefined

namespace Exclusion

/-- The name of the directories that are left out by default. -/
def defaultName : String := "ignore"

/-- The rule for some names, or for the default name if there are none. -/
def ofNames (names : List String) : Exclusion :=
  .names (NameSet.ofList (if names.isEmpty then [defaultName] else names))

/-- The rule for some patterns. -/
def ofPatterns (patterns : List String) : Exclusion := .patterns (patterns.map Value.text)

/-- The default rule. -/
def default : Exclusion := ofNames []

instance : Inhabited Exclusion := ⟨default⟩

/-- Whether the one-character text `c` is found in a value: as a character of a text, an item of a
list or a field name of a record. -/
def contains? (c : Char) : Value → Except RuleFault Bool
  | .text s => .ok (s.toList.contains c)
  | .list items => .ok <| items.any fun
    | .text s => s == String.singleton c
    | _ => false
  | .record fields => .ok <| fields.any fun field => field.1 == String.singleton c
  | value => .error (.mismatch (.notSearchable value.kindName))

/-- Whether one pattern applies to a path with these components. -/
def patternMatches? (segments : List String) (item : Value) : Except RuleFault Bool := do
  if ← contains? '/' item then
    match item with
    | .text pattern =>
      return wildcardMatch (Text.strip '/' pattern) (Text.joined '/' segments)
    | value => throw (.mismatch (.lacking value.kindName "strip"))
  else
    match item with
    | .text pattern => return segments.any (wildcardMatch pattern)
    | value =>
      if segments.isEmpty then return false else throw (.mismatch (.notKey value.kindName))

/-- Whether some pattern applies; the first that does settles it. -/
def anyPattern? (segments : List String) : List Value → Except RuleFault Bool
  | [] => .ok false
  | item :: rest => do
    if ← patternMatches? segments item then return true
    anyPattern? segments rest

mutual

/-- Whether the rule applies to the object at a path with these components. -/
def applies? (segments : List String) : Exclusion → Except RuleFault Bool
  | names set => .ok (segments.any fun segment => set.names.contains segment)
  | patterns items => anyPattern? segments items
  | union rules => anyApplies? segments rules
  | undefined => .error .undefined

/-- Whether some rule applies; the first that does settles it. -/
def anyApplies? (segments : List String) : List Exclusion → Except RuleFault Bool
  | [] => .ok false
  | rule :: rest => do
    if ← applies? segments rule then return true
    anyApplies? segments rest

end

/-- Whether the rule applies to the object at a relative path.  No rule asks whether the object is
a directory. -/
def matches? (rule : Exclusion) (relativePath : String) : Except RuleFault Bool :=
  rule.applies? (segments relativePath)

mutual

/-- Why a rule cannot be asked about a value of some kind that spells no path, unless it does not
look at the path at all. -/
def refusal? (kind : String) : Exclusion → Option RuleFault
  | names _ | patterns _ => some (.mismatch (.notPath kind))
  | union rules => anyRefusal? kind rules
  | undefined => some .undefined

/-- The same for some rules that are asked one after the other. -/
def anyRefusal? (kind : String) : List Exclusion → Option RuleFault
  | [] => none
  | rule :: rest => (refusal? kind rule).or (anyRefusal? kind rest)

end

/-- Whether the rule applies to the object at the relative path that a value spells. -/
def matchesValue? (rule : Exclusion) : Value → Except RuleFault Bool
  | .text relativePath => rule.matches? relativePath
  | value =>
    match rule.refusal? value.kindName with
    | some fault => .error fault
    | none => .ok false

/-- Rules for names are equal if their sets are; other rules that were built apart differ. -/
def sameAs : Exclusion → Exclusion → Bool
  | names a, names b => a = b
  | _, _ => false

/-- A list of quoted parts behind the name of a rule. -/
def call (name : String) (arguments : List String) : String :=
  name ++ "(" ++ ", ".intercalate arguments ++ ")"

mutual

/-- A rule as it is quoted in a message; a rule without definition has no such form. -/
def shown? : Exclusion → Option String
  | names set => some (call "SegmentExclusion" (set.names.map Text.quoted))
  | patterns items => some (call "GlobExclusion" (items.map Value.shown))
  | union rules => (shownAll? rules).map (call "AnyExclusion")
  | undefined => none

/-- The rules of a union as they are quoted. -/
def shownAll? : List Exclusion → Option (List String)
  | [] => some []
  | rule :: rest => do
    let first ← shown? rule
    let others ← shownAll? rest
    return first :: others

end

end Exclusion
end AssetPublish
