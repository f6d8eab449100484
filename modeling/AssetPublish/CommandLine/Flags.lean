/-!
# The grammar of the command line

The command line consists of flags only.  Flags with one letter can be clustered behind one hyphen.
Help and version are shown whatever else is asked for, as long as every flag is known; anything
that is no flag is refused.

A command line is read in stages, and the order of the stages decides what is refused and how:
a token that would end the options, the option parser, the flags that act at once, and the
arguments that are left over.

## What is here

* `Flag`, `Flags` — the flags, and which of the five switches are on.
* `UsageError` — why the option parser breaks off.
* `matchLong`, `matchShort`, `processOption` — one option.
* `Parsed`, `parseOptions` — the option parser.
* `Invocation`, `Parsed.invocation` — what a command line asks for.
* `UsageError.argument` — the argument that is told when the option parser breaks off.
* `Invocation.ofTokens` — reading a command line.
-/

set_option autoImplicit false

namespace AssetPublish
namespace CommandLine

/-- The flags. -/
inductive Flag
  | dryRun
  | quiet
  | verbose
  | json
  | noProgress
  | version
  | help
deriving DecidableEq, Repr

namespace Flag

/-- All flags. -/
def all : List Flag := [dryRun, quiet, verbose, json, noProgress, version, help]

/-- The long form of a flag. -/
def long : Flag → String
  | dryRun => "--dry-run"
  | quiet => "--quiet"
  | verbose => "--verbose"
  | json => "--json"
  | noProgress => "--no-progress"
  | version => "--version"
  | help => "--help"

/-- The letter of a flag, if it has one. -/
def letter? : Flag → Option Char
  | dryRun => some 'n'
  | quiet => some 'q'
  | verbose => some 'v'
  | help => some 'h'
  | _ => none

/-- The flag with a long form. -/
def ofLong? (text : String) : Option Flag := all.find? (·.long = text)

/-- The flag with a letter. -/
def ofLetter? (c : Char) : Option Flag := all.find? (·.letter? = some c)

end Flag

/-- Which switches are on. -/
structure Flags where
  dryRun : Bool := false
  quiet : Bool := false
  verbose : Bool := false
  json : Bool := false
  noProgress : Bool := false
deriving DecidableEq, Repr

/-- The switches that are on when some flags are given. -/
def Flags.ofList (flags : List Flag) : Flags where
  dryRun := flags.contains .dryRun
  quiet := flags.contains .quiet
  verbose := flags.contains .verbose
  json := flags.contains .json
  noProgress := flags.contains .noProgress

/-! ## The option parser -/

/-- Why the option parser breaks off. -/
inductive UsageError
  | noSuchOption (name : String)
  /-- An option was given a value, and none takes any. -/
  | badOptionUsage (name : String)
  /-- Arguments are left over. -/
  | unexpectedExtra (arguments : List String)
deriving DecidableEq, Repr

/-- Whether a token starts with a hyphen. -/
def startsWithHyphen (token : String) : Bool := token.toList.head? = some '-'

/-- Whether a token is read as an option: it starts with a hyphen and has more than that. -/
def isOptionLike (token : String) : Bool := startsWithHyphen token && 1 < token.length

/-- A token as the long form of a flag, with what follows the first equals sign as its value. -/
def matchLong (token : String) : Except UsageError Flag :=
  let name := String.ofList (token.toList.takeWhile (· ≠ '='))
  match Flag.ofLong? name with
  | none => .error (.noSuchOption name)
  | some flag => if token.toList.contains '=' then .error (.badOptionUsage name) else .ok flag

/-- The flags of a cluster of letters.  The first unknown letter is told with a hyphen. -/
def matchShort : List Char → Except UsageError (List Flag)
  | [] => .ok []
  | c :: rest =>
    match Flag.ofLetter? c with
    | some flag => return flag :: (← matchShort rest)
    | none => .error (.noSuchOption (String.ofList ['-', c]))

/-- The flags of an option.  What is no long form is a cluster, unless it has two hyphens. -/
def processOption (token : String) : Except UsageError (List Flag) :=
  match matchLong token with
  | .ok flag => .ok [flag]
  | .error (.noSuchOption name) =>
    if token.toList.take 2 = ['-', '-'] then .error (.noSuchOption name)
    else matchShort (token.toList.drop 1)
  | .error error => .error error

/-- What the option parser has read: the flags in the order in which they are given, and the
arguments between them. -/
structure Parsed where
  flags : List Flag := []
  extras : List String := []
deriving DecidableEq, Repr

/-- The option parser.  Two hyphens alone end the options. -/
def parseOptions : List String → Parsed → Except UsageError Parsed
  | [], parsed => .ok parsed
  | token :: rest, parsed =>
    if token = "--" then .ok { parsed with extras := parsed.extras ++ rest }
    else if isOptionLike token then do
      let flags ← processOption token
      parseOptions rest { parsed with flags := parsed.flags ++ flags }
    else parseOptions rest { parsed with extras := parsed.extras ++ [token] }

/-! ## Reading a command line -/

/-- What a command line asks for. -/
inductive Invocation
  | help
  | version
  | run (flags : Flags)
  /-- The command line is refused because of this argument. -/
  | refused (argument : String)
deriving DecidableEq, Repr

/-- What a flag that acts at once asks for. -/
def Flag.eager? : Flag → Option Invocation
  | help => some .help
  | version => some .version
  | _ => none

/-- What is asked for by what the option parser has read.  The first flag that acts at once
wins, also over arguments that are left over. -/
def Parsed.invocation (parsed : Parsed) : Except UsageError Invocation :=
  match parsed.flags.findSome? Flag.eager? with
  | some invocation => .ok invocation
  | none =>
    if parsed.extras.isEmpty then .ok (.run (Flags.ofList parsed.flags))
    else .error (.unexpectedExtra parsed.extras)

/-- The message of the option parser about arguments that are left over. -/
def extraMessage (arguments : List String) : String :=
  "Got unexpected extra argument" ++ (if arguments.length = 1 then "" else "s") ++
    " (" ++ " ".intercalate arguments ++ ")"

/-- The argument that is told when the option parser breaks off.  Which arguments were left over
is found out again from the tokens. -/
def UsageError.argument (tokens : List String) : UsageError → String
  | noSuchOption name => name
  | badOptionUsage name => name
  | unexpectedExtra arguments =>
    (tokens.find? fun token => token = "-" || !startsWithHyphen token).getD
      (extraMessage arguments)

/-- What a command line asks for. -/
def Invocation.ofTokens (tokens : List String) : Invocation :=
  -- the option parser would read two hyphens alone as the end of the options
  if tokens.contains "--" then .refused "--"
  else
    match parseOptions tokens {} >>= Parsed.invocation with
    | .ok invocation => invocation
    | .error error => .refused (error.argument tokens)

end CommandLine
end AssetPublish
