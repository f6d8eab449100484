import AssetPublish.CommandLine.Command
import AssetPublish.FileSystem.Snapshot

/-!
# The program

The command, carried out on a tree that is described on the standard input.  The tree as the
command leaves it follows on the standard output, as one line that can serve as the next input.

## What is here

* `main` — the program.
-/

set_option autoImplicit false

namespace AssetPublish

/-- Where the described tree is put. -/
def workplace : Location := ["work"]

/-- The user of the program. -/
def user : Caller := ⟨workplace, true⟩

/-- The tree that a document describes. -/
def described? (document : String) : Option FileSystem := do
  let .list records ← Value.ofJson? document | none
  let objects ← records.mapM NewObject.ofValue?
  let empty := FileSystem.empty.create [] "work" (.directory 0o755)
  return (((Edit.write objects).apply user).perform empty).2

/-- What is left of a progress bar that has ended. -/
def barText (display : Option ProgressDisplay) : String :=
  ((display.bind (·.task)).map fun task => task.description ++ " " ++ task.info ++ "\n").getD ""

/-- All of an input. -/
partial def readAll (input : IO.FS.Stream) (before : String) : IO String := do
  let line ← input.getLine
  if line.isEmpty then return before else readAll input (before ++ line)

end AssetPublish

open AssetPublish in
/-- Reads the tree, carries out the command, prints, and returns the exit code. -/
def main (arguments : List String) : IO UInt32 := do
  let document ← readAll (← IO.getStdin) ""
  match described? document with
  | none =>
    (← IO.getStderr).putStr "Error: the standard input describes no tree\n"
    return 2
  | some fs =>
    let clock : CommandLine.Clock := ⟨toString (← IO.monoMsNow) ++ " ms", "0.00s"⟩
    let outcome := CommandLine.command user (fun _ => none) clock arguments fs
    let output ← IO.getStdout
    output.putStr (outcome.printed.out ++ barText outcome.display)
    output.putStrLn ((outcome.fs.snapshot workplace).toJson .oneLine)
    (← IO.getStderr).putStr
      (outcome.printed.err ++ (outcome.uncaught.map fun e => e.message ++ "\n").getD "")
    return UInt32.ofNat outcome.exitCode
