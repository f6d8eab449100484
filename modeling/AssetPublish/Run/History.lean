import AssetPublish.Run.Basic

/-!
# The history of a run as text

## What is here

* `LogRecord`, `RunEvent.logs` — the log records of an event.
* `RunEvent.printed` — what an event prints.
* `Run.Outcome.plan?`, `Run.Outcome.steps`, `Run.Outcome.printed`, `Run.Outcome.warnings` — what an
  observer, the console and the log see of a whole run.
-/

set_option autoImplicit false

namespace AssetPublish

/-- The levels of log records that are used. -/
inductive LogLevel
  | debug
  | warning
deriving DecidableEq, Repr

/-- The word for a level. -/
def LogLevel.word : LogLevel → String
  | debug => "DEBUG"
  | warning => "WARNING"

/-- A log record: who logs, at which level, and the text. -/
structure LogRecord where
  source : String
  level : LogLevel
  text : String
deriving DecidableEq, Repr

namespace LogRecord

/-- A record that only a verbose log shows. -/
def debug (part text : String) : LogRecord := ⟨"assetsync." ++ part, .debug, text⟩

/-- A record that every log shows. -/
def warning (part text : String) : LogRecord := ⟨"assetsync." ++ part, .warning, text⟩

end LogRecord

/-- The log records of an event of a scan. -/
def ScanEvent.logs : ScanEvent → List LogRecord
  | entry _ => []
  | excluded path isDirectory =>
    [.debug "sync.scanner" ("Excluding: " ++ path),
     .debug "sync.reporter" ("Skipping excluded " ++ (if isDirectory then "directory" else "file")
       ++ ": " ++ path)]
  | skipped path => [.warning "sync.scanner" ("Skipping device or socket: " ++ path)]

/-- The log records of an event of a run, `duration` being the time that the run took. -/
def RunEvent.logs (duration : String) : RunEvent → List LogRecord
  | scanned event => event.logs
  | planned settings steps =>
    [.debug "sync.engine" ("Planned " ++ toString steps ++ " operation(s) for " ++
      settings.source.text)]
  | began operation =>
    [.debug "sync.operations" ("Applying " ++ operation.kind.word ++ ": " ++
      operation.target.text)]
  | finished dryRun steps =>
    [.debug "sync.engine" ((if dryRun then "Planned " else "Applied ") ++ toString steps ++
      " operation(s) in " ++ duration)]
  | _ => []

/-- What an event prints. -/
def RunEvent.printed : RunEvent → Printed
  | started printed => printed
  | reported _ printed => printed
  | summarized printed => printed
  | _ => .nothing

namespace Run.Outcome

/-- The plan that the observer was shown. -/
def plan? (outcome : Outcome) : Option (List Operation) :=
  outcome.history.findSome? fun
    | .showed plan => some plan
    | _ => none

/-- The steps that the observer was told of. -/
def steps (outcome : Outcome) : List Operation :=
  outcome.history.filterMap fun
    | .told operation => some operation
    | _ => none

/-- What the run printed. -/
def printed (outcome : Outcome) : Printed :=
  (outcome.history.map RunEvent.printed).foldl (· ++ ·) .nothing

/-- The log of the run, which took the time `duration`. -/
def logs (outcome : Outcome) (duration : String) : List LogRecord :=
  outcome.history.flatMap (RunEvent.logs duration)

/-- The texts of the warnings in a log. -/
def warningTexts (records : List LogRecord) : List String :=
  (records.filter (·.level = .warning)).map LogRecord.text

/-- The texts of the warnings of the run. -/
def warnings (outcome : Outcome) : List String := warningTexts (outcome.logs "")

end Run.Outcome
end AssetPublish
