import AssetPublish.FileSystem.Basic
import AssetPublish.Fault

/-!
# Following a path

A path is followed from the root or from the working directory, one component at a time.  A link
on the way is replaced by the path that it holds; after forty links the system gives up.

The components that are left to follow are one list: what a link holds is put in front of what
stands behind it.  Going through that list is a recursion on the number of links left and, for each
of them, on the list itself (`walkWith`), since following a link may make the list longer but uses
up a link.

## What is here

* `Caller` — who asks: the working directory, and whether permission bits bind.
* `steps` — the components of a spelling as the system sees them.
* `Reached` — where a path leads: to an object, or to a free place in a directory.
* `Ending` — what becomes of the last component of a path.
* `FileSystem.walk` — following components.
* `FileSystem.reach?` — following a spelling.
* `LastStep`, `FileSystem.lastStep` — following a spelling up to its last component, for calls that
  change what a directory holds.
-/

set_option autoImplicit false

namespace AssetPublish

/-- Who asks the system: relative paths start at the working directory, and permission bits bind
everyone who is not privileged. -/
structure Caller where
  workingDirectory : Location
  privileged : Bool
deriving DecidableEq, Repr

namespace Caller

/-- Whether the owner's permission bit `bit` lets the caller use an object. -/
def may (caller : Caller) (bit : Nat) (mode : Nat) : Bool :=
  caller.privileged || mode.testBit bit

/-- Whether the caller may list a directory or read a file. -/
def mayRead (caller : Caller) (mode : Nat) : Bool := caller.may 8 mode

/-- Whether the caller may change what a directory or a file holds. -/
def mayWrite (caller : Caller) (mode : Nat) : Bool := caller.may 7 mode

/-- Whether the caller may follow a path through a directory. -/
def mayPass (caller : Caller) (mode : Nat) : Bool := caller.may 6 mode

end Caller

/-- How many links are followed on the way to one object. -/
def linkLimit : Nat := 40

/-- The components of a spelling as the system sees them.  Repeated slashes count once; a slash
at the end asks for a directory and is kept as an empty component. -/
def steps (text : String) : List String :=
  let parts := Text.fields '/' text
  let kept := parts.filter fun part => part ≠ ""
  if parts.getLast? = some "" ∧ kept ≠ [] then kept ++ [""] else kept

/-- Whether a spelling starts at the root. -/
def isAbsolute (text : String) : Bool := text.toList.head? == some '/'

/-- How many bytes a spelling can have. -/
def spellingLimit : Nat := 4095

/-- Where a path leads: to an object, or to a free place of an existing directory. -/
inductive Reached
  | object (location : Location)
  | free (dir : Location) (name : String)
deriving DecidableEq, Repr

/-- What becomes of the last component of a path: a link there is met itself, or it is followed.
Where a file is opened that may be a new one, it is followed too, but no slash may stand behind
the name, be it in the spelling or in a link that is followed. -/
inductive Ending
  | itself
  | followed
  | opened
deriving DecidableEq, Repr

/-- Whether nothing but slashes stands behind a component.  Then it is the last one that names
something, and where nothing is there the path leads to a free place. -/
def isLast (rest : List String) : Bool := rest.all (· = "")

namespace FileSystem

/-- Following the components `rest` from the location `here`, where `onward` is how a link is
followed: from the location where what it holds starts, with the components to follow then. -/
def walkWith (fs : FileSystem) (caller : Caller) (ending : Ending)
    (onward : Location → List String → Except Refusal Reached) (here : Location)
    (rest : List String) : Except Refusal Reached :=
  match rest with
  | [] => .ok (.object here)
  | name :: rest =>
    match fs.get? here with
    | some (.directory mode) =>
      if name = "" then fs.walkWith caller ending onward here rest
      else if !caller.mayPass mode then .error .denied
      else if name = "." then fs.walkWith caller ending onward here rest
      else if name = ".." then fs.walkWith caller ending onward here.tail rest
      else if ending = .opened && !rest.isEmpty && isLast rest then .error .isDirectory
      else if nameLimit < name.utf8ByteSize then .error .nameTooLong
      else
        match fs.get? (name :: here) with
        | none => if isLast rest then .ok (.free here name) else .error .missing
        | some (.link target) =>
          if rest.isEmpty && ending = .itself then .ok (.object (name :: here))
          else onward (if isAbsolute target then [] else here) (steps target ++ rest)
        | some _ => fs.walkWith caller ending onward (name :: here) rest
    | _ => .error .notDirectory

/-- Following components from a location, with so many links left to follow. -/
def walk (fs : FileSystem) (caller : Caller) (ending : Ending) :
    Nat → Location → List String → Except Refusal Reached
  | 0 => fs.walkWith caller ending fun _ _ => .error .tooManyLinks
  | links + 1 => fs.walkWith caller ending (fs.walk caller ending links)

theorem walk_nil (fs : FileSystem) (caller : Caller) (ending : Ending) (links : Nat)
    (here : Location) : fs.walk caller ending links here [] = .ok (.object here) := by
  cases links <;> rfl

theorem walk_cons (fs : FileSystem) (caller : Caller) (ending : Ending) (links : Nat)
    (here : Location) (name : String) (rest : List String) :
    fs.walk caller ending links here (name :: rest) =
      match fs.get? here with
      | some (.directory mode) =>
        if name = "" then fs.walk caller ending links here rest
        else if !caller.mayPass mode then .error .denied
        else if name = "." then fs.walk caller ending links here rest
        else if name = ".." then fs.walk caller ending links here.tail rest
        else if ending = .opened && !rest.isEmpty && isLast rest then .error .isDirectory
        else if nameLimit < name.utf8ByteSize then .error .nameTooLong
        else
          match fs.get? (name :: here) with
          | none => if isLast rest then .ok (.free here name) else .error .missing
          | some (.link target) =>
            if rest.isEmpty && ending = .itself then .ok (.object (name :: here))
            else
              match links with
              | 0 => .error .tooManyLinks
              | links + 1 =>
                fs.walk caller ending links (if isAbsolute target then [] else here)
                  (steps target ++ rest)
          | some _ => fs.walk caller ending links (name :: here) rest
      | _ => .error .notDirectory := by
  cases links <;> rfl

/-- Where following a spelling starts. -/
def startOf (caller : Caller) (text : String) : Location :=
  if isAbsolute text then [] else caller.workingDirectory

/-- A spelling that the system accepts: neither empty nor too long. -/
def checkSpelling (text : String) : Except Refusal Unit :=
  if text = "" then .error .missing
  else if spellingLimit < text.utf8ByteSize then .error .nameTooLong
  else .ok ()

/-- Following a spelling. -/
def reach (fs : FileSystem) (caller : Caller) (ending : Ending) (text : String) :
    Except Refusal Reached := do
  checkSpelling text
  fs.walk caller ending linkLimit (startOf caller text) (steps text)

/-- A spelling that is handed to the system must not hold the zero character. -/
def reach? (fs : FileSystem) (caller : Caller) (ending : Ending) (text : String) :
    Except Fault Reached :=
  if '\x00' ∈ text.toList then .error .nullByte
  else (fs.reach caller ending text).mapError fun refusal => .refused refusal text

/-- The location and the object that a spelling leads to. -/
def find? (fs : FileSystem) (caller : Caller) (ending : Ending) (text : String) :
    Except Fault (Location × Object) := do
  match ← fs.reach? caller ending text with
  | .object location =>
    match fs.get? location with
    | some object => return (location, object)
    | none => throw (.refused .missing text)
  | .free .. => throw (.refused .missing text)

end FileSystem

/-! ## The last component -/

/-- The last component of a spelling as it is taken by calls that change what a directory holds:
none for the root, a dot, two dots, or a name with or without slashes behind it. -/
inductive LastStep
  | none
  | dot
  | dots
  | name (name : String) (slash : Bool)
deriving DecidableEq, Repr

/-- The last component among those of a spelling, slashes at the end being kept as an empty one. -/
def LastStep.ofSteps (steps : List String) : LastStep :=
  match steps.filter (· ≠ "") |>.getLast? with
  | Option.none => none
  | some last =>
    if last = "." then dot
    else if last = ".." then dots
    else name last (steps.getLast? = some "")

namespace FileSystem

/-- The directory that a spelling leads to before its last component, and that component.  A link
in last place is not followed. -/
def lastStep (fs : FileSystem) (caller : Caller) (text : String) :
    Except Refusal (Location × LastStep) := do
  checkSpelling text
  let names := (steps text).filter (· ≠ "")
  match ← fs.walk caller .followed linkLimit (startOf caller text) names.dropLast with
  | .free .. => throw .missing
  | .object dir =>
    match fs.get? dir with
    | some (.directory mode) =>
      if caller.mayPass mode then return (dir, .ofSteps (steps text)) else throw .denied
    | _ => throw .notDirectory

/-- The object of that name in a directory, if there is one. -/
def lookUp (fs : FileSystem) (dir : Location) (name : String) :
    Except Refusal (Option Object) :=
  if nameLimit < name.utf8ByteSize then .error .nameTooLong else .ok (fs.get? (name :: dir))

end FileSystem
end AssetPublish
