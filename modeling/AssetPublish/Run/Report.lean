import AssetPublish.ByteSize
import AssetPublish.Console.Voice
import AssetPublish.Operation.Basic
import AssetPublish.Run.Tally
import AssetPublish.Settings

/-!
# Reporting a run

The user reads a header, a line for each step, and a summary.

The line for a step can fail for two reasons: its size has no text, or its link cannot be read.  The
link is read again for the line, after the step in a real run and without the step in a dry one,
instead of being taken from the plan.  A quiet program prints no line and reads nothing.

## What is here

* `Report.header` — what is printed when a run starts.
* `Report.describe?` — the line for a planned or applied step.
* `Report.summary` — the closing table of some statistics.
-/

set_option autoImplicit false

namespace AssetPublish
namespace Report

/-- What is printed when a run starts. -/
def header (voice : Voice) (settings : Settings) : Printed :=
  if voice.quiet then .nothing
  else
    (if settings.dryRun then voice.inform "Running in dry-run mode. No files will be changed."
      else .nothing) ++
    voice.inform ("Copying assets from " ++ settings.source.text ++ " to " ++
      settings.destination.text ++ "...")

/-- The text of a number of bytes. -/
def size? (bytes : Int) : Except Fault String :=
  match sizeText? bytes with
  | some text => .ok text
  | none => .error .sizeTooLarge

/-- The path held by the link that a step recreates; empty for all other steps. -/
def linkText? (fs : FileSystem) (caller : Caller) (operation : Operation) :
    Except Fault String :=
  match operation.kind, operation.entry with
  | .copySymlink, some entry => fs.readLink? caller entry.path.text
  | _, _ => .ok ""

/-- The line for a step with the texts that it shows. -/
def line (dryRun : Bool) (operation : Operation) (size link : String) : String :=
  let target := operation.target.text
  let path := operation.relativePath
  match operation.kind with
  | .removeDestination =>
    (if dryRun then "Would remove" else "Removed") ++ " existing destination directory: " ++ target
  | .createDestination =>
    (if dryRun then "Would create" else "Created") ++ " destination directory: " ++ target
  | .createDirectory =>
    (if dryRun then "Would create" else "Created") ++ " directory: " ++ path ++ "/"
  | .copyFile =>
    (if dryRun then "Would copy" else "Copied") ++ ": " ++ path ++ " (" ++ size ++ ")"
  | .copySymlink =>
    (if dryRun then "Would link" else "Linked") ++ ": " ++ path ++ " -> " ++ link
  | .copyFifo =>
    (if dryRun then "Would create" else "Created") ++ " FIFO: " ++ path

/-- The line for a planned or applied step.  A link is read again for it. -/
def describe? (fs : FileSystem) (caller : Caller) (dryRun : Bool) (operation : Operation) :
    Except Fault String := do
  let link ← linkText? fs caller operation
  let size ← size? operation.size
  return line dryRun operation size link

/-- What is printed for a step.  Where nothing is to be printed nothing is looked up. -/
def step (voice : Voice) (fs : FileSystem) (caller : Caller) (dryRun : Bool)
    (operation : Operation) : Except Fault Printed :=
  if voice.quiet then .ok .nothing
  else (describe? fs caller dryRun operation).map voice.inform

/-! ## The summary -/

/-- The text of a machine number of bytes. -/
def realSize (r : Real) : String :=
  match r.negative, r.magnitude with
  | false, some magnitude =>
    match ByteSize.ofBinary? magnitude with
    | some size => size.text
    | none => r.text "inf" ++ " B"
  | false, none => r.text "inf" ++ " " ++ SizeUnit.gigabyte.symbol
  | true, _ => r.text "inf" ++ " B"

/-- The text of a number of bytes that is given as a value. -/
def sizeOf? : Value → Except Fault String
  | .int bytes => size? bytes
  | .real bytes => .ok (realSize bytes)
  | .bool b => .ok ((Value.bool b).shown ++ " B")
  | value => .error (.mismatch (.notOrdered value.kindName))

/-- One of the statistics. -/
def statistic? (statistics : List (String × Value)) (key : String) : Except Fault Value :=
  match Value.field? key statistics with
  | some value => .ok value
  | none => .error (.fieldMissing key)

/-- A row that is shown only if its value counts as "yes". -/
def optionalRow (label unit : String) (value : Value) : List (String × String) :=
  if value.isSet then [(label, value.plain ++ unit)] else []

/-- The rows of the summary: links, pipes and excluded paths only where there are any. -/
def rows? (statistics : List (String × Value)) : Except Fault (List (String × String)) := do
  let directories ← statistic? statistics "directories"
  let files ← statistic? statistics "files"
  let size ← sizeOf? (← statistic? statistics "bytes")
  let symlinks ← statistic? statistics "symlinks"
  let excluded ← statistic? statistics "excluded"
  return [("Directories", directories.plain), ("Files", files.plain), ("Total size", size)] ++
    optionalRow "Symlinks" "" symlinks ++
    (Value.field? "fifos" statistics).elim [] (optionalRow "FIFOs" "") ++
    optionalRow "Excluded" " path(s)" excluded

/-- The table at the end of a run, and the word that follows it. -/
def closing? (statistics : Value) : Except Fault (Console.Table × String) := do
  let statistics ← statistics.fields?.mapError .mismatch
  let rows ← rows? statistics
  if (← statistic? statistics "dry_run").isSet then
    return (⟨.text "Dry-run plan", rows⟩, "Dry-run finished. No changes were made.")
  else return (⟨.text "Copied", rows⟩, "DONE!")

/-- What is printed at the end of a run, and the fault that breaks it off: an empty line, the
table, and a closing word. -/
def summary (voice : Voice) (statistics : Value) : Printed × Except Fault Unit :=
  if voice.quiet then (.nothing, .ok ())
  else
    let blank := voice.inform ""
    let rest : Except Fault Printed := do
      let (table, word) ← closing? statistics
      let printed ← (voice.table table).mapError .table
      return printed ++ voice.inform word
    match rest with
    | .ok printed => (blank ++ printed, .ok ())
    | .error fault => (blank, .error fault)

end Report
end AssetPublish
