import AssetPublish.FileSystem.Calls

/-!
# Copying a file

A copy has the bytes, the permission bits and the time of change of the file.  A link is made anew
instead of being followed.  Where the place to copy to is a directory, the copy goes into it under
the same name; where it is a link, the copy is written through it.

## What is here

* `CopyTarget` — the place that is meant, and how it is shown in a report.
* `copyFile` — the copy.
-/

set_option autoImplicit false

namespace AssetPublish

/-- A path as it is shown in a report about two paths. -/
def Path.shown (path : Path) : String := "PosixPath(" ++ Text.quoted path.text ++ ")"

/-- The place that a copy goes to: its spelling, and how it is shown. -/
structure CopyTarget where
  text : String
  shown : String

namespace FileSystem

/-- A question that the system refuses counts as answered by "no". -/
def affirmed : Except Fault Bool → Bool
  | .ok answer => answer
  | .error _ => false

/-- The place that is meant: inside of the target if that is a directory. -/
def copyTarget (fs : FileSystem) (caller : Caller) (source target : Path) : CopyTarget :=
  if affirmed (fs.isDirectory? caller target.text) then
    let text := target.text ++ (if target.parts = [] ∧ target.anchor ≠ .relative then "" else "/")
      ++ source.lastName
    ⟨text, Text.quoted text⟩
  else ⟨target.text, target.shown⟩

/-- A file is not copied onto itself, and pipes are not copied at all. -/
def checkCopy (fs : FileSystem) (caller : Caller) (source : Path) (target : CopyTarget) :
    Except Fault Unit := do
  let from? := fs.follow? caller source.text
  let to? := fs.follow? caller target.text
  if from? matches .error .nullByte then throw .nullByte
  if to? matches .error .nullByte then throw .nullByte
  match from?, to? with
  | .ok (a, _), .ok (b, _) =>
    if a = b then throw (.system (.sameFile source.shown target.shown))
  | _, _ => pure ()
  if from? matches .ok (_, .fifo _) then throw (.system (.specialFile source.text))
  if to? matches .ok (_, .fifo _) then throw (.system (.specialFile target.text))

/-- Writes a content to the place of a copy. -/
def writeCopy (caller : Caller) (text : String) (content : Content) : Act Unit := do
  match writeFile caller text content (← get) with
  | .ok fs => set fs
  | .error (.system (.refused .isDirectory subject second)) =>
    if affirmed ((← get).exists? caller text) then
      throw (.system (.refused .isDirectory subject second))
    else throw (.system (.directoryMissing text))
  | .error fault => throw fault

/-- Copies a file, or makes a link anew. -/
def copyFile (caller : Caller) (source target : Path) : Act Unit := do
  let place := (← get).copyTarget caller source target
  Act.ask fun fs => fs.checkCopy caller source place
  if affirmed ((← get).isLink? caller source.text) then
    let held ← Act.ask fun fs => fs.readLink? caller source.text
    Act.change (makeLink caller held place.text)
  else
    let (content, mode, modified) ← Act.ask fun fs => fs.readFile? caller source.text
    writeCopy caller place.text content
    Act.change (changeModified caller place.text modified)
    Act.change (changeMode caller place.text mode)

end FileSystem
end AssetPublish
