import AssetPublish.FileSystem.Calls

/-!
# Creating a directory with its parents

## What is here

* `makeOne` — a single directory, one that exists already being accepted on request.
* `makeWithParents` — a directory, after those that it lies in where they are missing.
-/

set_option autoImplicit false

namespace AssetPublish
namespace FileSystem

/-- Creates one directory.  With `existing`, a directory that is there already is accepted. -/
def makeOne (caller : Caller) (path : Path) (existing : Bool) : Act Unit := do
  match makeDirectory caller path.text (← get) with
  | .ok fs => set fs
  | .error (.system (.refused .missing subject second)) =>
    throw (.system (.refused .missing subject second))
  | .error (.system error) =>
    if !existing then throw (.system error)
    if !(← Act.ask fun fs => fs.isDirectory? caller path.text) then throw (.system error)
  | .error fault => throw fault

/-- Creates a directory; where the one it should lie in is missing, that one is created first, and
so on for at most `depth` levels. -/
def makeWithParents (caller : Caller) : Nat → Path → Bool → Act Unit
  | 0, path, existing => makeOne caller path existing
  | depth + 1, path, existing => do
    match makeDirectory caller path.text (← get) with
    | .error (.system (.refused .missing _ _)) =>
      makeWithParents caller depth path.parent true
      makeOne caller path existing
    | _ => makeOne caller path existing

/-- Creates a directory that does not exist yet, and the missing ones above it. -/
def makeNewDirectory (caller : Caller) (path : Path) : Act Unit :=
  makeWithParents caller path.parts.length path false

end FileSystem
end AssetPublish
