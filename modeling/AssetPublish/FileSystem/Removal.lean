import AssetPublish.FileSystem.Calls

/-!
# Removing a tree

A directory is removed with all that lies below it, links not followed.  Inside of a directory the
most recently created object goes first, and the first refusal ends the removal; a report from
below the top names the object by its last name only.

## What is here

* `removeBelow` — all that lies below a location.
* `removeTree` — the directory that a spelling denotes, with all that lies below it.
-/

set_option autoImplicit false

namespace AssetPublish
namespace FileSystem

/-- Whether the caller may look into the directory `name` of `dir`. -/
def mayEnter (fs : FileSystem) (caller : Caller) (dir : Location) (name : String) : Bool :=
  (fs.get? dir).any (fun object => caller.mayPass object.mode) &&
    (fs.get? (name :: dir)).any fun object => caller.mayRead object.mode

/-- Removes all that lies below a location.  Nothing lies deeper than there are objects, so their
number is fuel enough. -/
def removeBelow (caller : Caller) : Nat → Location → Act Unit
  | 0, _ => return ()
  | fuel + 1, dir => do
    let names := (← get).names dir
    names.forM fun name => do
      let fs ← get
      if fs.isDirectory (name :: dir) then
        if !fs.mayEnter caller dir name then throw (.refused .denied name)
        removeBelow caller fuel (name :: dir)
        Act.change fun fs => (fs.removeDirectoryAt caller (name :: dir)).mapError
          fun refusal => .refused refusal name
      else
        Act.change fun fs => (fs.unlinkAt caller (name :: dir)).mapError
          fun refusal => .refused refusal name

/-- Removes the directory that a spelling denotes, with all that lies below it. -/
def removeTree (caller : Caller) (text : String) : Act Unit := do
  let (location, object) ← Act.ask fun fs => fs.find? caller .itself text
  if !caller.mayRead object.mode then throw (.refused .denied text)
  if !object.isDirectory then throw (.refused .notDirectory text)
  removeBelow caller ((← get).objects.length + 1) location
  Act.change (removeDirectory caller text)

end FileSystem
end AssetPublish
