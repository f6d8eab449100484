import AssetPublish.Entry

/-!
# Operations

An operation is one planned step of a run: removing or creating the destination, or recreating one
entry of the source below it.

## What is here

* `OperationKind`, `Operation` — the steps.
* `Operation.forEntry?` — the step that recreates an entry.
* `Operation.size` — the number of bytes that a step copies.
-/

set_option autoImplicit false

namespace AssetPublish

/-- What a step does. -/
inductive OperationKind
  | removeDestination
  | createDestination
  | createDirectory
  | copyFile
  | copySymlink
  | copyFifo
deriving DecidableEq, Repr

namespace OperationKind

/-- All kinds. -/
def all : List OperationKind :=
  [removeDestination, createDestination, createDirectory, copyFile, copySymlink, copyFifo]

/-- The words for a kind. -/
def words : OperationKind → List String
  | removeDestination => ["remove", "destination"]
  | createDestination => ["create", "destination"]
  | createDirectory => ["create", "directory"]
  | copyFile => ["copy", "file"]
  | copySymlink => ["copy", "symlink"]
  | copyFifo => ["copy", "fifo"]

/-- The identifier of a kind. -/
def word (kind : OperationKind) : String := "_".intercalate kind.words

/-- The words of a kind as they stand in a sentence. -/
def phrase (kind : OperationKind) : String := " ".intercalate kind.words

/-- The kind that an identifier stands for. -/
def ofWord? (word : String) : Option OperationKind := all.find? (·.word = word)

/-- The kind that a value stands for. -/
def ofValue? (value : Value) : Except Fault OperationKind :=
  match value with
  | .text word =>
    match ofWord? word with
    | some kind => .ok kind
    | none => .error (.unknownWord value "OperationKind")
  | _ => .error (.unknownWord value "OperationKind")

/-- The step that recreates an entry of some kind; there is none for special ones. -/
def ofEntryKind? : EntryKind → Option OperationKind
  | .file => some copyFile
  | .directory => some createDirectory
  | .symlink => some copySymlink
  | .fifo => some copyFifo
  | .special => none

end OperationKind

/-- One planned step. -/
structure Operation where
  kind : OperationKind
  /-- The path that is created or removed. -/
  target : Path
  /-- The path relative to the two roots; empty for a step on the destination itself. -/
  relativePath : String := ""
  /-- The entry that is recreated. -/
  entry : Option Entry := none
deriving DecidableEq

namespace Operation

/-- The number of bytes that a step copies. -/
def size (operation : Operation) : Int :=
  if operation.kind = .copyFile then operation.entry.elim 0 Entry.size else 0

/-- The step that recreates an entry below `destination`. -/
def forEntry? (entry : Entry) (destination : Path) : Except Fault Operation :=
  match OperationKind.ofEntryKind? entry.kind with
  | some kind => .ok
    { kind
      target := destination.append (Text.fields '/' entry.relativePath)
      relativePath := entry.relativePath
      entry := some entry }
  | none => .error .notRecreated

end Operation
end AssetPublish
