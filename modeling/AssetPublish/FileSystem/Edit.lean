import AssetPublish.FileSystem.Directories
import AssetPublish.FileSystem.Removal

/-!
# Edits by others

While a run is going on, others may change the tree.  Edits are also the way in which a tree is set
up in the first place.

## What is here

* `NewObject`, `Edit` — what is written, removed, renamed, or given other permission bits.
* `Edit.apply` — the edit as a procedure.
* `FileSystem.below` — all objects below a location.
-/

set_option autoImplicit false

namespace AssetPublish

/-- What is written at a path. -/
inductive NewKind
  | directory
  | file (content : Content)
  | link (target : String)
  | fifo
  | socket
deriving DecidableEq, Repr

/-- The permission bits that an object is written with by default. -/
def NewKind.defaultMode : NewKind → Nat
  | directory => 0o755
  | file _ => 0o644
  | link _ => 0o777
  | fifo => 0o644
  | socket => 0o755

/-- An object to be written, with the directories above it where they are missing. -/
structure NewObject where
  path : String
  kind : NewKind
  mode : Option Nat := none
  modified : Option Int := none
deriving DecidableEq, Repr

/-- The time of change that is written by default. -/
def defaultModified : Int := 1000000000000000000

/-- A change made by others. -/
inductive Edit
  | write (objects : List NewObject)
  | remove (path : String)
  | rename (old new : String)
  | changeMode (path : String) (mode : Nat)
deriving DecidableEq, Repr

namespace FileSystem

/-- What leads from `base` down to `location`, innermost first. -/
def relative? (base location : Location) : Option Location :=
  if base.isSuffixOf location then some (location.take (location.length - base.length)) else none

/-- All objects at or below a location, by what leads to them from there, the most recently created
first. -/
def tree (fs : FileSystem) (location : Location) : List (Location × Object) :=
  fs.objects.filterMap fun entry => (relative? location entry.1).map fun names => (names, entry.2)

/-- All objects below a location, by the path that leads to them from there. -/
def below (fs : FileSystem) (location : Location) : List (String × Object) :=
  (fs.tree location).filterMap fun (names, object) =>
    if names.isEmpty then none else some (Text.joined '/' names.reverse, object)

/-- A new socket at a free place. -/
def makeSocket (caller : Caller) (text : String) (fs : FileSystem) : Except Fault FileSystem :=
  match fs.freePlace caller false text with
  | .ok (dir, name) => .ok (fs.create dir name (.socket 0o755))
  | .error refusal => .error (.refused refusal text)

/-- The tree at one location put to another one, which is free. -/
def moveTree (fs : FileSystem) (old new : Location) : FileSystem :=
  let moved := fs.tree old
  let downward := moved.reverse.mergeSort fun a b => a.1.length ≤ b.1.length
  let cleared := downward.reverse.foldl (fun fs entry => fs.remove (entry.1 ++ old)) fs
  downward.foldl (fun fs entry =>
    match entry.1 ++ new with
    | name :: dir => fs.create dir name entry.2
    | [] => fs) cleared

/-- Whether the system gives the object at one location another one: directories only take the
place of empty directories, and other objects only that of other objects. -/
def checkRename (fs : FileSystem) (caller : Caller) (old : Location) (object : Object)
    (new : Location) : Except Refusal Unit := do
  if old.isSuffixOf new then throw .invalid
  if new.isSuffixOf old then throw .notEmpty
  if !fs.mayEdit caller old.tail || !fs.mayEdit caller new.tail then throw .denied
  let replaced := fs.get? new
  if object.isDirectory && replaced.any (!·.isDirectory) then throw .notDirectory
  if !object.isDirectory && replaced.any Object.isDirectory then throw .isDirectory
  if object.isDirectory && old.tail ≠ new.tail && !caller.mayWrite object.mode then throw .denied
  if !(fs.names new).isEmpty then throw .notEmpty

/-- The system gives the object at a location another one. -/
def renameAt (fs : FileSystem) (caller : Caller) (old : Location) (object : Object)
    (new : Location) : Except Refusal FileSystem :=
  if old = new then .ok fs
  else (fs.checkRename caller old object new).map fun _ => (fs.remove new).moveTree old new

/-- The system gives the object that one spelling denotes the place that another one denotes. -/
def moveObject (fs : FileSystem) (caller : Caller) (old new : String) :
    Except Refusal FileSystem := do
  match ← fs.lastStep caller old, ← fs.lastStep caller new with
  | (oldDir, .name oldName oldSlash), (newDir, .name newName newSlash) =>
    match ← fs.lookUp oldDir oldName with
    | none => throw .missing
    | some object =>
      let _ ← fs.lookUp newDir newName
      if !object.isDirectory && (oldSlash || newSlash) then throw .notDirectory
      fs.renameAt caller (oldName :: oldDir) object (newName :: newDir)
  | _, _ => throw .busy

/-- Renaming an object.  The report of a refusal names both paths. -/
def rename (caller : Caller) (old new : String) (fs : FileSystem) : Except Fault FileSystem :=
  if '\x00' ∈ old.toList ∨ '\x00' ∈ new.toList then .error .nullByte
  else (fs.moveObject caller old new).mapError fun refusal =>
    Fault.system (.refused refusal (some old) (some new))

end FileSystem

namespace NewObject

open FileSystem

/-- Creates the directories above an object. -/
def makeParents (caller : Caller) (path : Path) : Act Unit :=
  if path.parts.length ≤ 1 then return ()
  else makeWithParents caller path.parts.length path.parent true

/-- Creates an object with its default permission bits. -/
def put (caller : Caller) (new : NewObject) : Act Unit := do
  let path := Path.ofText new.path
  makeParents caller path
  match new.kind with
  | .directory => makeWithParents caller 0 path true
  | .file content => Act.change (writeFile caller new.path content)
  | .link target => Act.change (makeLink caller target new.path)
  | .fifo => Act.change (makeFifo caller new.path)
  | .socket => Act.change (makeSocket caller new.path)

/-- Gives an object its permission bits and its time of change. -/
def finish (caller : Caller) (new : NewObject) : Act Unit := do
  match new.kind with
  | .link _ => return ()
  | kind =>
    Act.change (FileSystem.changeMode caller new.path (new.mode.getD kind.defaultMode))
    Act.change (changeModified caller new.path (new.modified.getD defaultModified))

end NewObject

/-- An edit as a procedure.  Permission bits and times are set once all objects are there. -/
def Edit.apply (caller : Caller) : Edit → Act Unit
  | write objects => do
    objects.forM (NewObject.put caller)
    objects.forM (NewObject.finish caller)
  | remove path => do
    if ((← get).inspect? caller path).toOption.any Object.isDirectory then
      FileSystem.removeTree caller path
    else Act.change (FileSystem.unlink caller path)
  | rename old new => Act.change (FileSystem.rename caller old new)
  | changeMode path mode => Act.change (FileSystem.changeMode caller path mode)

/-- Some edits in order, up to the first that fails. -/
def Edit.applyAll (caller : Caller) (edits : List Edit) : Act Unit :=
  edits.forM (Edit.apply caller)

end AssetPublish
