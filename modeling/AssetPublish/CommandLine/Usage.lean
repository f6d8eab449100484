import AssetPublish.Console.Control

/-!
# Texts of the command line

## What is here

* `usageLine`, `helpText`, `versionText` — what is shown on request.
* `refusalText` — what is shown for an argument that is refused.
-/

set_option autoImplicit false

namespace AssetPublish
namespace CommandLine

/-- The name that the program goes by. -/
def programName : String := "assetsync"

/-- The version of the program. -/
def programVersion : String := "0.1.0"

/-- Some lines with their ends. -/
def linesText (lines : List String) : String := String.join (lines.map (· ++ "\n"))

/-- How the program is called. -/
def usageLine : String := "Usage: " ++ programName ++ " [OPTIONS]"

/-- The help. -/
def helpText : String := linesText
  [usageLine,
   "",
   "  Copy ./assets to ./www/public/assets, skipping any 'ignore' directory.",
   "",
   "  The destination is deleted and rebuilt from scratch on every run, so nothing",
   "  stale or previously ignored survives. Run it before packaging the web build.",
   "",
   "  Examples:",
   "      " ++ programName ++ "              # Rebuild www/public/assets",
   "      " ++ programName ++ " --dry-run    # Preview the copy",
   "      " ++ programName ++ " -n --json    # Preview as JSON statistics",
   "",
   "Options:",
   "  -n, --dry-run  Show what would be done without making changes",
   "  -q, --quiet    Suppress non-essential output",
   "  -v, --verbose  Enable verbose/debug logging output",
   "  --json         Output statistics as JSON",
   "  --no-progress  Disable the progress bar",
   "  --version      Show the version and exit.",
   "  -h, --help     Show this message and exit."]

/-- The version as it is shown. -/
def versionText : String := linesText [programName ++ ", version " ++ programVersion]

/-- The message for an argument that is refused. -/
def refusalMessage (argument : String) : String := "Unknown argument: " ++ argument

/-- The exit code of the program for an argument that is refused. -/
def refusalExitCode : Nat := 2

/-- What is shown for an argument that is refused. -/
def refusalText (argument : String) : String := linesText
  [usageLine,
   "Try '" ++ programName ++ " -h' for help.",
   "",
   String.ofList (Console.withoutSequences ("Error: " ++ refusalMessage argument).toList)]

end CommandLine
end AssetPublish
