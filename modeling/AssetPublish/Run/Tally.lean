import AssetPublish.Operation.Basic

/-!
# Statistics of a run

## What is here

* `Tally` — the counts of a run.
* `Tally.count` — how a step changes them.
* `Tally.toFields` — the counts as a document.
-/

set_option autoImplicit false

namespace AssetPublish

/-- The counts of a run. -/
structure Tally where
  dryRun : Bool
  removedDestination : Bool := false
  directories : Nat := 0
  files : Nat := 0
  symlinks : Nat := 0
  fifos : Nat := 0
  bytes : Int := 0
  excluded : Nat := 0
deriving DecidableEq, Repr

namespace Tally

/-- The counts after a step. -/
def count (tally : Tally) (operation : Operation) : Tally :=
  match operation.kind with
  | .removeDestination => { tally with removedDestination := true }
  | .createDestination => tally
  | .createDirectory => { tally with directories := tally.directories + 1 }
  | .copyFile =>
    { tally with files := tally.files + 1, bytes := tally.bytes + operation.size }
  | .copySymlink => { tally with symlinks := tally.symlinks + 1 }
  | .copyFifo => { tally with fifos := tally.fifos + 1 }

/-- The counts as the fields of a document. -/
def toFields (tally : Tally) : List (String × Value) :=
  [("dry_run", .bool tally.dryRun),
   ("removed_destination", .bool tally.removedDestination),
   ("directories", .int tally.directories),
   ("files", .int tally.files),
   ("symlinks", .int tally.symlinks),
   ("fifos", .int tally.fifos),
   ("bytes", .int tally.bytes),
   ("excluded", .int tally.excluded)]

/-- The counts as a document. -/
def toValue (tally : Tally) : Value := .record tally.toFields

end Tally
end AssetPublish
