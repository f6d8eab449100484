import AssetPublish.FileSystem.Canonical
import AssetPublish.Run.Error
import AssetPublish.Settings

/-!
# Checking settings and planning a run

## What is here

* `Settings.check` — whether the settings can be run: the source is a directory, and neither root
  contains the other.
* `Plan` — the steps of a run, with what the scan of the source told.
* `Settings.plan` — the plan for the current file system.
-/

set_option autoImplicit false

namespace AssetPublish

namespace Settings

/-- A question whose faults end the run. -/
def ask {α : Type} (answer : Except Fault α) : Except RunError α := answer.mapError .fault

/-- Refuses settings that cannot be run; nothing is touched. -/
def check (settings : Settings) (fs : FileSystem) (caller : Caller) : Except RunError Unit := do
  let source := settings.source
  let destination := settings.destination
  if !(← ask (fs.exists? caller source.text)) then throw (.sourceMissing source)
  if !(← ask (fs.isDirectory? caller source.text)) then throw (.sourceNotDirectory source)
  if ← ask (fs.isWithin? caller destination source) then
    throw (.destinationInside destination source)
  if ← ask (fs.isWithin? caller source destination) then
    throw (.sourceInside source destination)

end Settings

/-- A plan in the making: what the scan has told so far, and the steps or the reason why there is
no plan. -/
structure Plan where
  events : List ScanEvent
  result : Except RunError (List Operation)

namespace Plan

/-- The steps that recreate the entries among some events, in order. -/
def stepsFor? (destination : Path) : List ScanEvent → Except Fault (List Operation)
  | [] => .ok []
  | .entry entry :: rest => do
    let operation ← Operation.forEntry? entry destination
    return operation :: (← stepsFor? destination rest)
  | _ :: rest => stepsFor? destination rest

/-- The number of excluded objects that the scan has told. -/
def excluded (plan : Plan) : Nat :=
  plan.events.countP fun
    | .excluded .. => true
    | _ => false

end Plan

namespace Settings

/-- The steps on the destination itself: what is there is removed, even a link that leads nowhere,
and an empty directory is created. -/
def rootSteps? (settings : Settings) (fs : FileSystem) (caller : Caller) :
    Except Fault (List Operation) := do
  let destination := settings.destination
  let occupied ← if ← fs.exists? caller destination.text then pure true
    else fs.isLink? caller destination.text
  return (if occupied then [{ kind := .removeDestination, target := destination }] else []) ++
    [{ kind := .createDestination, target := destination }]

/-- The plan for the current file system.  Nothing is written. -/
def plan (settings : Settings) (fs : FileSystem) (caller : Caller) : Plan :=
  match settings.rootSteps? fs caller with
  | .error fault => ⟨[], .error (.fault fault)⟩
  | .ok rootSteps =>
    let outcome := Scan.all fs caller settings.exclusion.scanRule settings.source
    let result : Except RunError (List Operation) := do
      let entrySteps ← ask (Plan.stepsFor? settings.destination outcome.events)
      match outcome.fault with
      | some fault => throw (.ofScan fault)
      | none => return rootSteps ++ entrySteps
    ⟨outcome.events, result⟩

end Settings
end AssetPublish
