import AssetPublish.Exclusion.Build

/-!
# Settings of a run

## What is here

* `Settings` — the two roots, whether to only preview, and what is left out.
* `SettingsFault` — why settings are refused.
* `RawSettings`, `Settings.ofRaw?` — settings from values given one by one.
* `Settings.ofRecord?` — settings from the fields of a document.
* `Settings.ofDocument?` — settings from a document of any kind.
* `Settings.sameAs` — equality of settings that were made apart.
-/

set_option autoImplicit false

namespace AssetPublish

/-- The settings of a run. -/
structure Settings where
  /-- The root of the tree that is copied. -/
  source : Path := Path.ofText "assets"
  /-- The root of the tree that is rebuilt. -/
  destination : Path := Path.ofText "www/public/assets"
  /-- Whether the plan is only shown. -/
  dryRun : Bool := false
  /-- What is left out. -/
  exclusion : Exclusion := Exclusion.default

/-- Why settings are refused. -/
inductive SettingsFault
  /-- The document has fields of these names. -/
  | unknownKeys (keys : List String)
  /-- A value does not fit where it is used. -/
  | mismatch (mismatch : Mismatch)
  /-- The rule is at fault. -/
  | rule (fault : RuleFault)
  /-- Settings are not changed in place. -/
  | frozen (field : String)
deriving Repr

/-- The wording of a fault. -/
def SettingsFault.message : SettingsFault → String
  | unknownKeys keys => "Unknown configuration key(s): " ++ ", ".intercalate keys
  | mismatch cause => cause.message
  | rule fault => fault.message
  | frozen field => "cannot assign to field " ++ Text.quoted field

/-- What a rule is given as: a rule, or a value to build one from. -/
inductive RuleSource
  | rule (rule : Exclusion)
  | value (value : Value)

/-- The rule that is meant. -/
def RuleSource.rule? : RuleSource → Except SettingsFault Exclusion
  | rule given => .ok given
  | value given => (Exclusion.build? given).mapError .rule

/-- Settings as they are given; what is missing takes its default. -/
structure RawSettings where
  source : Option Value := none
  destination : Option Value := none
  dryRun : Option Value := none
  exclusion : Option RuleSource := none

namespace Settings

/-- The path that a value spells. -/
def path? (value : Value) : Except SettingsFault Path := (Path.ofValue? value).mapError .mismatch

/-- The settings that are meant.  The first fault in the order source, destination, rule is the
one that is told. -/
def ofRaw? (raw : RawSettings) : Except SettingsFault Settings := do
  let plain : Settings := {}
  let source ← raw.source.elim (.ok plain.source) path?
  let destination ← raw.destination.elim (.ok plain.destination) path?
  let dryRun := raw.dryRun.elim plain.dryRun Value.isSet
  let exclusion ← raw.exclusion.elim (.ok plain.exclusion) RuleSource.rule?
  return { source, destination, dryRun, exclusion }

/-- The fields that a document may have. -/
def knownKeys : List String := ["source", "destination", "dryRun", "dry_run", "ignore"]

/-- The settings that a document asks for.  Of the two spellings of the preview switch the one
without underscore counts. -/
def ofRecord? (fields : List (String × Value)) : Except SettingsFault Settings :=
  let unknown := Text.sorted ((fields.map Prod.fst).filter fun key => !knownKeys.contains key)
  if unknown.isEmpty then
    ofRaw?
      { source := Value.field? "source" fields
        destination := Value.field? "destination" fields
        dryRun := (Value.field? "dryRun" fields).or (Value.field? "dry_run" fields)
        exclusion := (Value.field? "ignore" fields).map .value }
  else .error (.unknownKeys unknown)

/-- The settings that a list of field names stands for: it has no values for them, so that only the
empty list asks for settings. -/
def ofNames? (names : List String) : Except SettingsFault Settings :=
  let unknown := Text.sorted (names.filter fun name => !knownKeys.contains name)
  if !unknown.isEmpty then .error (.unknownKeys unknown)
  else if names.isEmpty then ofRecord? []
  else if names.all ["dryRun", "dry_run", "ignore"].contains && names.any (· ≠ "ignore") then
    .error (.mismatch (.lacking "list" "get"))
  else .error (.mismatch (.notFields "list"))

/-- The texts of items that are used as names.  Items that hold others are refused first. -/
def names? (items : List Value) : Except Mismatch (List String) :=
  let nested := fun item : Value => item matches .list _ | .record _
  match items.find? nested with
  | some item => .error (.notKey item.kindName)
  | none => items.mapM fun
    | .text name => .ok name
    | item => .error (.notListed item.kindName)

/-- The settings that a document asks for, which should be a record. -/
def ofDocument? : Value → Except SettingsFault Settings
  | .record fields => ofRecord? fields
  | value =>
    match value.items? with
    | none => .error (.mismatch (.notItems value.kindName))
    | some items => do ofNames? (← (names? items).mapError .mismatch)

/-- The same settings with another preview switch. -/
def withDryRun (settings : Settings) (value : Value) : Settings :=
  { settings with dryRun := value.isSet }

/-- Equality of settings that were made apart. -/
def sameAs (a b : Settings) : Bool :=
  a.source = b.source && a.destination = b.destination && a.dryRun = b.dryRun &&
    a.exclusion.sameAs b.exclusion

end Settings
end AssetPublish
