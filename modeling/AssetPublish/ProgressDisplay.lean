import AssetPublish.Run.Basic

/-!
# The progress display

While a run copies files, a bar shows the bytes copied out of those planned, and beside it the
files.

The counts and the bar are kept apart.  A plan sets what there is to do, a step adds to what is
done, and a bar that is running is changed along with them; without a running bar the counts go on
by themselves.  Drawing is left out: a display is what its bar would show when it is drawn next.

## What is here

* `ProgressTask` — what the bar shows.
* `ProgressDisplay` — the counts, and the bar last shown.
* `enter`, `enter?`, `onPlan`, `onStep`, `leave` — what happens to the display.
* `ProgressDisplay.observer` — the display as the observer of a run.
* `ProgressDisplay.follow`, `ProgressDisplay.during` — the display as a run goes on.
* `Settings.runWithDisplay` — a run with a display around it.
-/

set_option autoImplicit false

namespace AssetPublish

/-- What a bar shows: a word on what is going on, the bytes done, the bytes to do once they are
known, and a text on the files. -/
structure ProgressTask where
  description : String
  completed : Int
  total : Option Int
  info : String
deriving DecidableEq, Repr

/-- The counts of a display, the bar that was shown last, and whether it is still running. -/
structure ProgressDisplay where
  filesDone : Nat := 0
  filesTotal : Nat := 0
  bytesDone : Int := 0
  bytesTotal : Int := 0
  active : Bool := false
  task : Option ProgressTask := none
deriving DecidableEq, Repr

namespace ProgressDisplay

/-- The text on the files: those done out of those planned, and the same for their bytes. -/
def text? (display : ProgressDisplay) : Except Fault String := do
  let done ← Report.size? display.bytesDone
  let total ← Report.size? display.bytesTotal
  return toString display.filesDone ++ "/" ++ toString display.filesTotal ++ " files, " ++ done ++
    "/" ++ total

/-- A bar starts; what it is about is not known yet. -/
def enter (display : ProgressDisplay) : ProgressDisplay :=
  { display with
    active := true
    task := some
      { description := "Scanning assets..."
        completed := 0
        total := none
        info := "0/0 files, 0 B/0 B" } }

/-- A display whose bar has just started. -/
def started : ProgressDisplay := ({} : ProgressDisplay).enter

/-- A bar starts unless one is running. -/
def enter? (display : ProgressDisplay) : Except Fault ProgressDisplay :=
  if display.active then .error .displayBusy else .ok display.enter

/-- The display with its running bar changed. -/
def updateTask (display : ProgressDisplay) (f : ProgressTask → ProgressTask) : ProgressDisplay :=
  if display.active then { display with task := display.task.map f } else display

/-- Whether a step copies a file. -/
def isCopy (operation : Operation) : Bool := operation.kind = .copyFile

/-- The number of bytes that some steps copy. -/
def bytesOf (operations : List Operation) : Int :=
  operations.foldl (fun bytes operation => bytes + operation.size) 0

/-- The counts once the plan is known: what there is to copy. -/
def planned (display : ProgressDisplay) (plan : List Operation) : ProgressDisplay :=
  let copies := plan.filter isCopy
  { display with filesTotal := copies.length, bytesTotal := bytesOf copies }

/-- The counts after a step: what has been copied. -/
def counted (display : ProgressDisplay) (operation : Operation) : ProgressDisplay :=
  if isCopy operation then
    { display with
      filesDone := display.filesDone + 1
      bytesDone := display.bytesDone + operation.size }
  else display

/-- The plan becomes known. -/
def onPlan (display : ProgressDisplay) (plan : List Operation) : Except Fault ProgressDisplay := do
  let display := display.planned plan
  if display.active then
    let info ← display.text?
    return display.updateTask fun _ =>
      { description := "Copying assets", completed := 0, total := some display.bytesTotal, info }
  else return display

/-- A step is taken. -/
def onStep (display : ProgressDisplay) (operation : Operation) :
    Except Fault ProgressDisplay := do
  let display := display.counted operation
  if isCopy operation && display.active then
    let info ← display.text?
    return display.updateTask fun task => { task with completed := display.bytesDone, info }
  else return display

/-- The display once a plan is known and some steps have been taken. -/
def after? (display : ProgressDisplay) (plan steps : List Operation) :
    Except Fault ProgressDisplay := do
  steps.foldlM onStep (← display.onPlan plan)

/-- The display as the observer of a run with a plan.  A run tells the steps of its plan in their
order, so that the number of a step says what has been counted by then.  The tree is not touched,
but a count that has no text breaks the run off. -/
def observer (display : ProgressDisplay) (plan : List Operation) : Observer where
  onPlan _ := .ask fun _ => (display.after? plan []).map fun _ => ()
  onStep index _ := .ask fun _ => (display.after? plan (plan.take (index + 1))).map fun _ => ()

/-- The bar ends, with a word on how. -/
def leave (display : ProgressDisplay) (failed : Bool) : ProgressDisplay :=
  { display.updateTask fun task =>
      { task with description := if failed then "Copy failed" else "Copy complete" } with
    active := false }

/-- The display after an event of a run.  Where the bar cannot be changed the counts still are. -/
def follow (display : ProgressDisplay) (event : RunEvent) : ProgressDisplay :=
  match event with
  | .showed plan => (display.onPlan plan).toOption.getD (display.planned plan)
  | .told operation => (display.onStep operation).toOption.getD (display.counted operation)
  | _ => display

/-- The display of a run that has told some events so far. -/
def during (history : List RunEvent) : ProgressDisplay :=
  history.foldl follow started

end ProgressDisplay

/-- A run with a display around it, and the display that it leaves.  A preview shows none. -/
def Settings.runWithDisplay (settings : Settings) (around : Circumstances) (showProgress : Bool)
    (fs : FileSystem) : Run.Outcome × Option ProgressDisplay :=
  if settings.dryRun || !showProgress then
    (settings.run { around with observer := none } fs, none)
  else
    let plan := (settings.plan fs around.caller).result.toOption.getD []
    let outcome :=
      settings.run { around with observer := some (ProgressDisplay.started.observer plan) } fs
    let display := ProgressDisplay.during outcome.history
    (outcome, some (display.leave (outcome.result matches .error _)))

end AssetPublish
