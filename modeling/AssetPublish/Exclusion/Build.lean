import AssetPublish.Exclusion.Basic

/-!
# Rules from settings

A setting names what is left out by one text or a list of texts.  A text with a wildcard character
or a slash is a pattern, any other is a name.

## What is here

* `Exclusion.isPattern?` — how an item of the setting is read.
* `Exclusion.build?` — the rule that a setting asks for.
-/

set_option autoImplicit false

namespace AssetPublish
namespace Exclusion

/-- The characters that make a text a pattern. -/
def patternMarks : List Char := ['*', '?', '[', '/']

/-- Whether one of the marks is found in a value. -/
def anyMark? (value : Value) : List Char → Except RuleFault Bool
  | [] => .ok false
  | mark :: rest => do
    if ← contains? mark value then return true
    anyMark? value rest

/-- Whether an item of a setting is a pattern. -/
def isPattern? (value : Value) : Except RuleFault Bool := anyMark? value patternMarks

/-- The items of a setting as names and patterns, both in order. -/
def sortItems? : List Value → Except RuleFault (List Value × List Value)
  | [] => .ok ([], [])
  | item :: rest => do
    let pattern ← isPattern? item
    let (literal, wild) ← sortItems? rest
    return if pattern then (literal, item :: wild) else (item :: literal, wild)

/-- The texts of items that are used as names. -/
def nameTexts? : List Value → Except RuleFault (List String)
  | [] => .ok []
  | .text name :: rest => return name :: (← nameTexts? rest)
  | value :: _ => .error (.mismatch (.notKey value.kindName))

/-- The rule for a list of items: one for the names, one for the patterns, or the union of both;
an empty list leaves nothing out. -/
def ofItems? (items : List Value) : Except RuleFault Exclusion := do
  let (literal, wild) ← sortItems? items
  let forNames ← if literal.isEmpty then pure [] else do
    let texts ← nameTexts? literal
    pure [ofNames texts]
  let forPatterns := if wild.isEmpty then [] else [Exclusion.patterns wild]
  match forNames ++ forPatterns with
  | [rule] => return rule
  | rules => return union rules

/-- The rule that a setting asks for: the default one if nothing is set. -/
def build? : Value → Except RuleFault Exclusion
  | .null => .ok (ofNames [defaultName])
  | .text s => ofItems? [.text s]
  | .list items => ofItems? items
  | value => .error (.unsupported value)

end Exclusion
end AssetPublish
