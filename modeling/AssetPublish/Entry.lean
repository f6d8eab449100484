import AssetPublish.FileSystem.Calls

/-!
# Entries of a tree

An entry describes one object of a tree as it was found, links not followed.

## What is here

* `EntryKind` — the kinds of objects; sockets and devices are special and never copied.
* `Entry` — path, path relative to the root of the tree, kind, size, permission bits and time.
* `Entry.inspect?` — the entry of the object that a path denotes.
-/

set_option autoImplicit false

namespace AssetPublish

/-- The kinds of objects that are told apart. -/
inductive EntryKind
  | file
  | directory
  | symlink
  | fifo
  | special
deriving DecidableEq, Repr

namespace EntryKind

/-- All kinds. -/
def all : List EntryKind := [file, directory, symlink, fifo, special]

/-- The word for a kind. -/
def word : EntryKind → String
  | file => "file"
  | directory => "directory"
  | symlink => "symlink"
  | fifo => "fifo"
  | special => "special"

/-- The kind that a word stands for. -/
def ofWord? (word : String) : Option EntryKind := all.find? (·.word = word)

/-- The kind that a value stands for. -/
def ofValue? (value : Value) : Except Fault EntryKind :=
  match value with
  | .text word =>
    match ofWord? word with
    | some kind => .ok kind
    | none => .error (.unknownWord value "EntryKind")
  | _ => .error (.unknownWord value "EntryKind")

/-- The kind of an object. -/
def ofObject : Object → EntryKind
  | .file .. => file
  | .directory _ => directory
  | .link _ => symlink
  | .fifo _ => fifo
  | .socket _ => special

end EntryKind

/-- An object of a tree as it was found. -/
structure Entry where
  path : Path
  relativePath : String
  kind : EntryKind
  size : Int := 0
  mode : Int := 0
  /-- The time of the last change in nanoseconds; only files have one. -/
  modified : Int := 0
deriving DecidableEq

namespace Entry

/-- Whether the entry is a directory. -/
def isDirectory (entry : Entry) : Bool := entry.kind = .directory

/-- The number of bytes of an object; only files have any. -/
def sizeOf : Object → Nat
  | .file content _ _ => content.size
  | _ => 0

/-- The time of the last change of an object; only files carry one. -/
def modifiedOf : Object → Int
  | .file _ _ modified => modified
  | _ => 0

/-- The entry of an object found at `path`. -/
def ofObject (path : Path) (relativePath : String) (object : Object) : Entry :=
  { path, relativePath
    kind := EntryKind.ofObject object
    size := sizeOf object
    mode := object.mode
    modified := modifiedOf object }

/-- The entry of the object that a path denotes, relative to `base`. -/
def inspect? (fs : FileSystem) (caller : Caller) (path base : Path) : Except Fault Entry := do
  let object ← fs.inspect? caller path.text
  match path.relativeTo? base with
  | some relative => return ofObject path relative.text object
  | none => throw (.outside path.text base.spelling)

end Entry
end AssetPublish
