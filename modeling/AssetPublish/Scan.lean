import AssetPublish.Entry
import AssetPublish.Text.Sorted

/-!
# Scanning a tree

A tree is scanned depth first.  Within a directory the names come in order, a directory comes
before what it holds, and nothing below an excluded object is looked at.  The scan is lazy: whoever
consumes its events may change the tree between two of them, so it is described one event at a
time.

## What is here

* `Scan`, `ScanEvent`, `ScanFault` — the state of a scan, what it tells, and why it ends early.
* `Scan.next` — the next event in the current file system.
* `Scan.watch` — a whole scan, with changes made at some of its events.
* `Scan.all` — a whole scan of a tree that nobody changes.
-/

set_option autoImplicit false

namespace AssetPublish

/-- The question that a scan asks of every object: its path relative to the root, and whether it
is a directory. -/
abbrev ScanRule : Type := String → Bool → Except Fault Bool

/-- The question that an exclusion rule answers. -/
def Exclusion.scanRule (rule : Exclusion) : ScanRule := fun relativePath _ =>
  (rule.matches? relativePath).mapError .rule

/-- What a scan tells. -/
inductive ScanEvent
  /-- An entry of the tree. -/
  | entry (entry : Entry)
  /-- An object that the rule leaves out, with all that lies below it. -/
  | excluded (relativePath : String) (isDirectory : Bool)
  /-- An object of a kind that is never copied. -/
  | skipped (relativePath : String)
deriving DecidableEq

/-- Why a scan ends early. -/
inductive ScanFault
  /-- A directory cannot be listed. -/
  | unreadable (dir : Path) (error : SystemError)
  /-- An object cannot be inspected. -/
  | uninspectable (item : Path) (error : SystemError)
  /-- Anything else. -/
  | fault (fault : Fault)

/-- The wording of a fault of a scan. -/
def ScanFault.message : ScanFault → String
  | unreadable dir error => "Cannot read directory " ++ dir.text ++ ": " ++ error.message
  | uninspectable item error => "Cannot inspect " ++ item.text ++ ": " ++ error.message
  | fault cause => cause.message

/-- The state of a scan: the root, a directory that is to be listed next, and for the directories
around it, the innermost first, the names that are still to come. -/
structure Scan where
  base : Path
  pending : Option Path
  frames : List (Path × List String)

/-- The outcome of asking for the next event. -/
inductive ScanStep
  | event (event : ScanEvent) (rest : Scan)
  | finished
  | failed (fault : ScanFault)

namespace Scan

/-- A scan that has not begun. -/
def start (root : Path) : Scan := ⟨root, some root, []⟩

/-- What is told about an object. -/
def judge (rule : ScanRule) (entry : Entry) : Except Fault ScanEvent := do
  if ← rule entry.relativePath entry.isDirectory then
    return .excluded entry.relativePath entry.isDirectory
  else if entry.kind = .special then return .skipped entry.relativePath
  else return .entry entry

/-- The directory that is listed after an event: that of an entry that is one. -/
def opened : ScanEvent → Option Path
  | .entry entry => if entry.isDirectory then some entry.path else none
  | _ => none

/-- The next event from the names that are still to come. -/
def visit (fs : FileSystem) (caller : Caller) (rule : ScanRule) (base : Path) :
    List (Path × List String) → ScanStep
  | [] => .finished
  | (_, []) :: frames => visit fs caller rule base frames
  | (dir, name :: names) :: frames =>
    let item := dir.child name
    match Entry.inspect? fs caller item base with
    | .error (.system error) => .failed (.uninspectable item error)
    | .error fault => .failed (.fault fault)
    | .ok entry =>
      match judge rule entry with
      | .error fault => .failed (.fault fault)
      | .ok event => .event event ⟨base, opened event, (dir, names) :: frames⟩

/-- The next event in the current file system. -/
def next (fs : FileSystem) (caller : Caller) (rule : ScanRule) (scan : Scan) : ScanStep :=
  match scan.pending with
  | none => visit fs caller rule scan.base scan.frames
  | some dir =>
    match fs.listNames? caller dir.text with
    | .error (.system error) => .failed (.unreadable dir error)
    | .error fault => .failed (.fault fault)
    | .ok names => visit fs caller rule scan.base ((dir, Text.sorted names) :: scan.frames)

/-- How many events a scan can have left in a file system that nobody changes: the names that are
still to come, and below each of the open directories any object once. -/
def eventBound (fs : FileSystem) (scan : Scan) : Nat :=
  scan.frames.foldr (fun frame bound => frame.2.length + bound)
    ((scan.frames.length + 2) * (fs.objects.length + 1))

/-- What became of a scan: its events, and why it ended early if it did. -/
structure Outcome where
  events : List ScanEvent
  fault : Option ScanFault

/-- An outcome with one more event in front. -/
def Outcome.cons (event : ScanEvent) (outcome : Outcome) : Outcome :=
  { outcome with events := event :: outcome.events }

/-- The rest of a scan.  Those events that `seen` selects are counted from `index`, and `changes`
holds, in increasing order, at which of them something is changed. -/
def watchFrom (caller : Caller) (rule : ScanRule) (seen : ScanEvent → Bool)
    (changes : List (Nat × Act Unit)) (fuel index : Nat) (scan : Scan) (fs : FileSystem) :
    Outcome × FileSystem :=
  match fuel with
  | 0 => (⟨[], none⟩, fs)
  | fuel + 1 =>
    match scan.next fs caller rule with
    | .finished => (⟨[], none⟩, fs)
    | .failed fault => (⟨[], some fault⟩, fs)
    | .event event rest =>
      let index' := if seen event then index + 1 else index
      match changes with
      | [] =>
        let (outcome, fs) := watchFrom caller rule seen [] fuel index' rest fs
        (outcome.cons event, fs)
      | (place, change) :: later =>
        if seen event && place == index then
          match change.perform fs with
          | (.error fault, fs) => (⟨[event], some (.fault fault)⟩, fs)
          | (.ok (), fs) =>
            let (outcome, fs) :=
              watchFrom caller rule seen later (rest.eventBound fs) index' rest fs
            (outcome.cons event, fs)
        else
          let (outcome, fs) :=
            watchFrom caller rule seen ((place, change) :: later) fuel index' rest fs
          (outcome.cons event, fs)
termination_by (changes.length, fuel)

/-- A scan of the tree at `root`, with changes made at some of its events. -/
def watch (fs : FileSystem) (caller : Caller) (rule : ScanRule) (seen : ScanEvent → Bool)
    (changes : List (Nat × Act Unit)) (root : Path) : Outcome × FileSystem :=
  watchFrom caller rule seen changes ((start root).eventBound fs) 0 (start root) fs

/-- The rest of a scan that nobody disturbs. -/
def allFrom (fs : FileSystem) (caller : Caller) (rule : ScanRule) : Nat → Scan → Outcome
  | 0, _ => ⟨[], none⟩
  | fuel + 1, scan =>
    match scan.next fs caller rule with
    | .finished => ⟨[], none⟩
    | .failed fault => ⟨[], some fault⟩
    | .event event rest => (allFrom fs caller rule fuel rest).cons event

/-- A scan of the tree at `root` that nobody disturbs. -/
def all (fs : FileSystem) (caller : Caller) (rule : ScanRule) (root : Path) : Outcome :=
  allFrom fs caller rule ((start root).eventBound fs) (start root)

end Scan
end AssetPublish
