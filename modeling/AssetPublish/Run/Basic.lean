import AssetPublish.Run.Plan
import AssetPublish.Run.Report

/-!
# A run

A run checks its settings, plans its steps, and then takes them one by one.  The first failure
ends it; nothing is undone.  Everything that happens is told as an event, so that what is printed,
what is logged and what an observer sees are functions of one history.

The history is kept in the state and not in the answer, since a run that fails has told everything
that came before the failure.  For the same reason the procedure is an exception over a state and
not the other way round: what was done to the file system, counted and told stays.

## What is left out

* Printing that fails.  A printed text is any sequence of characters; that the stream is closed, or
  that its encoding lacks a character, is no event of a run.
* Limits on the nesting of calls and on the length of numbers.  Trees of any depth are scanned,
  copied and removed, and every number is written with all its digits.
* Signals at any moment.  The user breaks off at a step, as a `Disturbance` that strikes it.

## What is here

* `RunEvent` — what happens in a run.
* `Observer` — who is told of the plan and of every step taken, and may change the tree then.
* `Run.State`, `Run.perform` — the run as a procedure.
* `Settings.run` — a run in a file system, with its history and its outcome.
-/

set_option autoImplicit false

namespace AssetPublish

/-- What happens in a run, in the finest grain that anybody sees: a step is begun, applied, counted,
reported and told in separate events, so that the history says how far a step that failed has
come. -/
inductive RunEvent
  /-- The settings are accepted; this is printed. -/
  | started (printed : Printed)
  /-- The scan tells something. -/
  | scanned (event : ScanEvent)
  /-- The plan is complete. -/
  | planned (settings : Settings) (steps : Nat)
  /-- The observer is shown the plan. -/
  | showed (plan : List Operation)
  /-- A step is begun. -/
  | began (operation : Operation)
  /-- A step is done. -/
  | applied (operation : Operation)
  /-- A step is counted. -/
  | counted (operation : Operation)
  /-- A step is reported; this is printed. -/
  | reported (operation : Operation) (printed : Printed)
  /-- The observer is told of a step. -/
  | told (operation : Operation)
  /-- All steps are taken. -/
  | finished (dryRun : Bool) (steps : Nat)
  /-- The summary is given; this is printed. -/
  | summarized (printed : Printed)

/-- Who is shown the plan and told of every step taken, the steps counted from zero.  An observer is
any procedure: it may change the tree that the next step finds, and it may fail. -/
structure Observer where
  onPlan : List Operation → Act Unit
  onStep : Nat → Operation → Act Unit

/-- The observer who changes nothing. -/
def Observer.passive : Observer := ⟨fun _ => pure (), fun _ _ => pure ()⟩

/-- The circumstances of a run: who runs it, how it speaks, who observes it and what befalls it.
None of them is part of the settings. -/
structure Circumstances where
  caller : Caller
  voice : Voice := {}
  observer : Option Observer := none
  /-- The failures that strike steps from outside. -/
  disturbance : Operation → Option Disturbance := fun _ => none

namespace Run

/-- The state of a run: the file system, the history and the counts. -/
structure State where
  fs : FileSystem
  history : List RunEvent
  tally : Tally

end Run

/-- The steps of a run as a procedure that keeps its state when it fails. -/
abbrev RunM (α : Type) : Type := ExceptT RunError (StateM Run.State) α

namespace Run

/-- Adds an event to the history. -/
def tell (event : RunEvent) : RunM Unit :=
  modify fun state => { state with history := state.history ++ [event] }

/-- The answer to a question, whose faults end the run. -/
def ask {α : Type} (answer : Except Fault α) : RunM α :=
  match answer with
  | .ok value => return value
  | .error fault => throw (.fault fault)

/-- Lets an observer act; its faults end the run. -/
def letAct (act : Act Unit) : RunM Unit := do
  let state ← get
  let (result, fs) := act.perform state.fs
  set { state with fs }
  ask result

/-- Applies a step. -/
def applyStep (around : Circumstances) (operation : Operation) : RunM Unit := do
  tell (.began operation)
  let state ← get
  let (result, fs) :=
    operation.apply around.caller (around.disturbance operation) state.fs
  set { state with fs }
  match result with
  | .ok () => tell (.applied operation)
  | .error fault => throw (.ofApply fault)

/-- Counts a step. -/
def countStep (operation : Operation) : RunM Unit := do
  modify fun state => { state with tally := state.tally.count operation }
  tell (.counted operation)

/-- Reports a step. -/
def reportStep (around : Circumstances) (dryRun : Bool) (operation : Operation) : RunM Unit := do
  let printed ← ask (Report.step around.voice (← get).fs around.caller dryRun operation)
  tell (.reported operation printed)

/-- Tells the observer of a step. -/
def tellObserver (around : Circumstances) (index : Nat) (operation : Operation) : RunM Unit :=
  match around.observer with
  | none => return ()
  | some observer => do
    tell (.told operation)
    letAct (observer.onStep index operation)

/-- Takes the steps of a plan, the first of them being the one numbered `index`.  A preview takes
the same steps, but applies none of them and tells the observer of none. -/
def takeSteps (around : Circumstances) (dryRun : Bool) (index : Nat) :
    List Operation → RunM Unit
  | [] => return ()
  | operation :: rest => do
    if !dryRun then applyStep around operation
    countStep operation
    reportStep around dryRun operation
    if !dryRun then tellObserver around index operation
    takeSteps around dryRun (index + 1) rest

/-- Plans the run; what the scan tells is kept also if there is no plan. -/
def makePlan (around : Circumstances) (settings : Settings) : RunM (List Operation) := do
  let plan := settings.plan (← get).fs around.caller
  plan.events.forM fun event => tell (.scanned event)
  modify fun state => { state with tally := { state.tally with excluded := plan.excluded } }
  match plan.result with
  | .ok steps =>
    tell (.planned settings steps.length)
    return steps
  | .error error => throw error

/-- Shows the plan to the observer. -/
def showPlan (around : Circumstances) (steps : List Operation) : RunM Unit :=
  match around.observer with
  | none => return ()
  | some observer => do
    tell (.showed steps)
    letAct (observer.onPlan steps)

/-- Gives the summary. -/
def summarize (around : Circumstances) : RunM Unit := do
  let (printed, result) := Report.summary around.voice (← get).tally.toValue
  tell (.summarized printed)
  ask result

/-- A whole run.  Nothing is told before the settings are accepted, and nothing is applied before
the plan is complete. -/
def perform (around : Circumstances) (settings : Settings) : RunM Unit := do
  match settings.check (← get).fs around.caller with
  | .ok () => pure ()
  | .error error => throw error
  tell (.started (Report.header around.voice settings))
  let steps ← makePlan around settings
  showPlan around steps
  takeSteps around settings.dryRun 0 steps
  tell (.finished settings.dryRun steps.length)
  summarize around

/-- What became of a run: its history, its statistics or the reason why it failed, and the file
system that it leaves. -/
structure Outcome where
  history : List RunEvent
  result : Except RunError Tally
  fs : FileSystem

end Run

/-- A run in a file system. -/
def Settings.run (settings : Settings) (around : Circumstances) (fs : FileSystem) : Run.Outcome :=
  let start : Run.State := { fs, history := [], tally := { dryRun := settings.dryRun } }
  let (result, state) := (ExceptT.run (Run.perform around settings)).run start
  { history := state.history
    result := result.map fun _ => state.tally
    fs := state.fs }

end AssetPublish
