import AssetPublish.CommandLine.Flags
import AssetPublish.CommandLine.Usage
import AssetPublish.ProgressDisplay
import AssetPublish.Run.History

/-!
# The command

## What is here

* `CommandOutcome` — what a call of the program prints and returns.
* `logLine` — a log record as a line of the error output.
* `command` — a call of the program.
-/

set_option autoImplicit false

namespace AssetPublish
namespace CommandLine

/-- What became of a call of the program. -/
structure CommandOutcome where
  exitCode : Nat
  printed : Printed
  /-- The progress display, where one was shown; its bar comes after all other output. -/
  display : Option ProgressDisplay := none
  /-- A failure that the program does not report itself. -/
  uncaught : Option RunError := none
  fs : FileSystem

/-- How log lines are stamped: the time of day, and the time that the run took. -/
structure Clock where
  time : String
  duration : String

/-- A log record as a line.  Without verbose logging only warnings are shown, and no time. -/
def logLine (verbose : Bool) (time : String) (record : LogRecord) : String :=
  if verbose then
    " - ".intercalate [time, record.source, record.level.word, record.text] ++ "\n"
  else if record.level = .warning then
    ":".intercalate [record.level.word, record.source, record.text] ++ "\n"
  else ""

/-- A log as lines. -/
def logText (verbose : Bool) (time : String) (records : List LogRecord) : String :=
  String.join (records.map (logLine verbose time))

/-- The record of a run that broke off because the system refused a step. -/
def abortRecord : LogRecord := .debug "cli" "Copy aborted"

/-- The exit code of the program when the user broke off. -/
def interruptionExitCode : Nat := 130

/-- What is printed at the end of a run that failed, and the exit code; nothing if the program
does not report the failure itself. -/
def failureReport? (voice : Voice) (settings : Settings) (error : RunError) :
    Option (Printed × Nat) :=
  if error.isRefusal then some (voice.error error.message, RunError.exitCode)
  else if error.cause?.isSome then
    some (voice.error error.message ++
      voice.warn ("Destination may be incomplete: " ++ settings.destination.text), RunError.exitCode)
  else if error matches .fault .interrupted then
    some (voice.warn "\nCopy cancelled by user", interruptionExitCode)
  else none

/-- A run with some switches on. -/
def runCommand (caller : Caller) (disturbance : Operation → Option Disturbance) (clock : Clock)
    (flags : Flags) (fs : FileSystem) : CommandOutcome :=
  let voice : Voice := { quiet := flags.quiet, json := flags.json }
  let settings : Settings := { dryRun := flags.dryRun }
  let (outcome, display) := settings.runWithDisplay { caller, voice, disturbance }
    (!(flags.noProgress || voice.silent)) fs
  let logged := logText flags.verbose clock.time (outcome.logs clock.duration)
  let printed := outcome.printed ++ { err := logged }
  match outcome.result with
  | .ok tally =>
    { exitCode := 0
      printed := printed ++ (if flags.json then voice.document tally.toValue else .nothing)
      display
      fs := outcome.fs }
  | .error error =>
    match failureReport? voice settings error with
    | some (report, exitCode) =>
      let aborted := if error.cause?.isSome then
        logText flags.verbose clock.time [abortRecord] else ""
      { exitCode, printed := printed ++ { err := aborted } ++ report, display, fs := outcome.fs }
    | none => { exitCode := 1, printed, display, uncaught := some error, fs := outcome.fs }

/-- A call of the program with some arguments. -/
def command (caller : Caller) (disturbance : Operation → Option Disturbance) (clock : Clock)
    (tokens : List String) (fs : FileSystem) : CommandOutcome :=
  match Invocation.ofTokens tokens with
  | .help => { exitCode := 0, printed := { out := helpText }, fs }
  | .version => { exitCode := 0, printed := { out := versionText }, fs }
  | .refused argument => { exitCode := refusalExitCode, printed := { err := refusalText argument }, fs }
  | .run flags => runCommand caller disturbance clock flags fs

end CommandLine
end AssetPublish
