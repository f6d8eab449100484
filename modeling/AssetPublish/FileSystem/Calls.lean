import AssetPublish.FileSystem.Walk

/-!
# Calls of the system

The single steps that the system offers.  Each either is refused and changes nothing, or is done
as a whole; procedures of several steps are built from them in `Act`, which keeps what was done
before a step that failed.

A question asks the file system and leaves it alone.  A change is a function from file systems to
file systems that may be refused, and the refusal names the path as the caller has spelled it.  In
both, a spelling with the zero character in it is refused before the system sees it.

## What is left out

* The mask for new objects is always the usual one, by which group and others cannot write: a new
  directory has the bits `0o755`, a new file or pipe `0o644`.
* Failures of the medium, such as a full or a broken disk.  They do not follow from what is in the
  tree; where they matter they strike a step from outside, as a `Disturbance`.
* Others who change the tree while a call is made.  Between calls the tree changes only where an
  observer is told of a step, or a consumer of a scan acts.
* A working directory that has been removed.  Statements about relative paths suppose that it is a
  directory of the tree.

## What is here

* `Act` — procedures on a file system that may fail half-way.
* `inspect?`, `readLink?`, `listNames?`, `exists?`, `isDirectory?`, `isLink?` — questions.
* `makeDirectory`, `makeLink`, `makeFifo`, `changeMode`, `unlink`, `removeDirectory`, `writeFile` —
  changes.
-/

set_option autoImplicit false

namespace AssetPublish

/-- A procedure on a file system.  If it fails, what it has changed so far stays changed. -/
abbrev Act (α : Type) : Type := ExceptT Fault (StateM FileSystem) α

namespace Act

/-- Asking a question. -/
def ask {α : Type} (question : FileSystem → Except Fault α) : Act α := do
  match question (← get) with
  | .ok answer => return answer
  | .error fault => throw fault

/-- Making a change as a whole. -/
def change (step : FileSystem → Except Fault FileSystem) : Act Unit := do
  match step (← get) with
  | .ok fs => set fs
  | .error fault => throw fault

/-- The outcome of a procedure, and the file system it leaves, whether it has come to its end or
not. -/
def perform {α : Type} (act : Act α) (fs : FileSystem) : Except Fault α × FileSystem :=
  (ExceptT.run act).run fs

end Act

/-- The permission bits of a new directory; it inherits the set-group bit of the one it is in. -/
def newDirectoryMode (dirMode : Nat) : Nat := 0o755 ||| (dirMode &&& 0o2000)

/-- The permission bits of a new file or pipe. -/
def newFileMode : Nat := 0o644

namespace FileSystem

/-! ## Questions -/

/-- The object itself that a spelling denotes, links not followed. -/
def inspect? (fs : FileSystem) (caller : Caller) (text : String) : Except Fault Object :=
  (fs.find? caller .itself text).map Prod.snd

/-- The object that a spelling leads to. -/
def follow? (fs : FileSystem) (caller : Caller) (text : String) :
    Except Fault (Location × Object) :=
  fs.find? caller .followed text

/-- The answer to a question about an object, `false` if the spelling leads to nothing.  Only the
refusals that mean that nothing is there count as "no"; a directory that may not be passed, or a
spelling that is too long, leaves the question open, and whoever asks gets the refusal. -/
def answer? {α : Type} (test : α → Bool) : Except Fault α → Except Fault Bool
  | .ok found => .ok (test found)
  | .error .nullByte => .ok false
  | .error (.system (.refused refusal subject second)) =>
    if refusal.meansAbsent then .ok false
    else .error (.system (.refused refusal subject second))
  | .error fault => .error fault

/-- Whether a spelling leads to an object. -/
def exists? (fs : FileSystem) (caller : Caller) (text : String) : Except Fault Bool :=
  answer? (fun _ => true) (fs.follow? caller text)

/-- Whether a spelling leads to a directory. -/
def isDirectory? (fs : FileSystem) (caller : Caller) (text : String) : Except Fault Bool :=
  answer? (fun found => found.2.isDirectory) (fs.follow? caller text)

/-- Whether a spelling denotes a link. -/
def isLink? (fs : FileSystem) (caller : Caller) (text : String) : Except Fault Bool :=
  answer? Object.isLink (fs.inspect? caller text)

/-- The path that a link holds. -/
def readLink? (fs : FileSystem) (caller : Caller) (text : String) : Except Fault String := do
  match ← fs.inspect? caller text with
  | .link target => return target
  | _ => throw (.refused .invalid text)

/-- The names in the directory that a spelling leads to, the most recently created first.  The
system promises no order; this one only shows where a removal is refused half-way. -/
def listNames? (fs : FileSystem) (caller : Caller) (text : String) :
    Except Fault (List String) := do
  match ← fs.follow? caller text with
  | (location, .directory mode) =>
    if caller.mayRead mode then return fs.names location else throw (.refused .denied text)
  | _ => throw (.refused .notDirectory text)

/-- Whether the caller may create and remove objects in a directory. -/
def mayEdit (fs : FileSystem) (caller : Caller) (dir : Location) : Bool :=
  (fs.get? dir).any fun object => caller.mayWrite object.mode && caller.mayPass object.mode

/-! ## Changes -/

/-- The free place that a spelling denotes, where the caller may create an object.  Slashes behind
the name are accepted for a directory only. -/
def freePlace (fs : FileSystem) (caller : Caller) (forDirectory : Bool) (text : String) :
    Except Refusal (Location × String) := do
  match ← fs.lastStep caller text with
  | (dir, .name name slash) =>
    if (← fs.lookUp dir name).isSome then throw .taken
    if slash && !forDirectory then throw .missing
    if fs.mayEdit caller dir then return (dir, name) else throw .denied
  | _ => throw .taken

/-- A new directory at a free place. -/
def makeDirectory (caller : Caller) (text : String) (fs : FileSystem) :
    Except Fault FileSystem := do
  if '\x00' ∈ text.toList then throw .nullByte
  match fs.freePlace caller true text with
  | .ok (dir, name) =>
    let dirMode := (fs.get? dir).elim 0 Object.mode
    return fs.create dir name (.directory (newDirectoryMode dirMode))
  | .error refusal => throw (.refused refusal text)

/-- A new link at a free place.  The report of a refusal names the link's text first. -/
def makeLink (caller : Caller) (target text : String) (fs : FileSystem) :
    Except Fault FileSystem := do
  if '\x00' ∈ target.toList ∨ '\x00' ∈ text.toList then throw .nullByte
  let refused := fun refusal : Refusal =>
    Fault.system (.refused refusal (some target) (some text))
  match checkSpelling target, fs.freePlace caller false text with
  | .ok (), .ok (dir, name) => return fs.create dir name (.link target)
  | .error refusal, _ | .ok (), .error refusal => throw (refused refusal)

/-- A new pipe at a free place.  The report of a refusal names no path. -/
def makeFifo (caller : Caller) (text : String) (fs : FileSystem) : Except Fault FileSystem := do
  if '\x00' ∈ text.toList then throw .nullByte
  match fs.freePlace caller false text with
  | .ok (dir, name) => return fs.create dir name (.fifo newFileMode)
  | .error refusal => throw (.system (.refused refusal))

/-- Other permission bits for the object that a spelling leads to. -/
def changeMode (caller : Caller) (text : String) (mode : Nat) (fs : FileSystem) :
    Except Fault FileSystem := do
  let (location, _) ← fs.follow? caller text
  return fs.setMode location mode

/-- Another time of change for the object that a spelling leads to. -/
def changeModified (caller : Caller) (text : String) (modified : Int) (fs : FileSystem) :
    Except Fault FileSystem := do
  let (location, _) ← fs.follow? caller text
  return fs.setModified location modified

/-- The directory that an object lies in. -/
def dirOf (location : Location) : Location := location.tail

/-- The system takes away the object at a location, which is no directory. -/
def unlinkAt (fs : FileSystem) (caller : Caller) (location : Location) :
    Except Refusal FileSystem :=
  if !fs.mayEdit caller (dirOf location) then .error .denied
  else if fs.isDirectory location then .error .isDirectory
  else .ok (fs.remove location)

/-- The system takes away the empty directory at a location. -/
def removeDirectoryAt (fs : FileSystem) (caller : Caller) (location : Location) :
    Except Refusal FileSystem :=
  if location.isEmpty then .error .busy
  else if !fs.mayEdit caller (dirOf location) then .error .denied
  else if !fs.isDirectory location then .error .notDirectory
  else if !(fs.names location).isEmpty then .error .notEmpty
  else .ok (fs.remove location)

/-- The system takes away the object that a spelling names, which is no directory. -/
def unlinkNamed (fs : FileSystem) (caller : Caller) (text : String) :
    Except Refusal FileSystem := do
  match ← fs.lastStep caller text with
  | (dir, .name name slash) =>
    match ← fs.lookUp dir name with
    | none => throw .missing
    | some object =>
      if slash then throw (if object.isDirectory then .isDirectory else .notDirectory)
      fs.unlinkAt caller (name :: dir)
  | _ => throw .isDirectory

/-- The system takes away the empty directory that a spelling names.  It cannot be named by one or
two dots. -/
def removeDirectoryNamed (fs : FileSystem) (caller : Caller) (text : String) :
    Except Refusal FileSystem := do
  match ← fs.lastStep caller text with
  | (dir, .name name _) =>
    if (← fs.lookUp dir name).isNone then throw .missing
    fs.removeDirectoryAt caller (name :: dir)
  | (_, .dot) => throw .invalid
  | (_, .dots) => throw .notEmpty
  | (_, .none) => throw .busy

/-- Removing an object that is no directory. -/
def unlink (caller : Caller) (text : String) (fs : FileSystem) : Except Fault FileSystem :=
  if '\x00' ∈ text.toList then .error .nullByte
  else (fs.unlinkNamed caller text).mapError fun refusal => .refused refusal text

/-- Removing an empty directory. -/
def removeDirectory (caller : Caller) (text : String) (fs : FileSystem) :
    Except Fault FileSystem :=
  if '\x00' ∈ text.toList then .error .nullByte
  else (fs.removeDirectoryNamed caller text).mapError fun refusal => .refused refusal text

/-- Opening a file for reading. -/
def readFile? (fs : FileSystem) (caller : Caller) (text : String) :
    Except Fault (Content × Nat × Int) := do
  let (_, object) ← fs.follow? caller text
  if !caller.mayRead object.mode then throw (.refused .denied text)
  match object with
  | .file content mode modified => return (content, mode, modified)
  | .directory _ => throw (.refused .isDirectory text)
  | _ => throw (.refused .noDevice text)

/-- Opening a file for writing, and giving it a content.  A file that does not exist is created,
also through a link that leads to a free place. -/
def writeFile (caller : Caller) (text : String) (content : Content) (fs : FileSystem) :
    Except Fault FileSystem := do
  match ← fs.reach? caller .opened text with
  | .object location =>
    match fs.get? location with
    | some (.file _ mode _) =>
      if caller.mayWrite mode then return fs.setContent location content
      else throw (.refused .denied text)
    | some (.directory _) => throw (.refused .isDirectory text)
    | some object =>
      if caller.mayWrite object.mode then throw (.refused .noDevice text)
      else throw (.refused .denied text)
    | none => throw (.refused .missing text)
  | .free dir name =>
    if fs.mayEdit caller dir then return fs.create dir name (.file content newFileMode 0)
    else throw (.refused .denied text)

end FileSystem
end AssetPublish
