import AssetPublish.FileSystem.Edit
import AssetPublish.Value.Json
import AssetPublish.Value.Reader

/-!
# Trees as documents

A tree is described by a list of records, one for each object.  A record holds the path, what is
there, and, where they differ from the default ones, the permission bits as octal digits and the
time of change in nanoseconds.  The bytes of a file are given as a text, as hexadecimal digits, as
hexadecimal digits with a count, or as a number of zeros.

## What is here

* `octalText`, `octal` — permission bits as octal digits.
* `hexOfBytes`, `bytes?` — bytes as hexadecimal digits, with `bytes?_hexOfBytes`: what is written
  can be read.
* `NewObject.ofValue?`, `NewObject.toValue` — the records.
* `FileSystem.snapshot` — the description of all that is below a location.
-/

set_option autoImplicit false

namespace AssetPublish
namespace Snapshot

/-! ## Digits -/

/-- Permission bits as octal digits, at least four. -/
def octalText (mode : Nat) : String :=
  let digits := Nat.toDigits 8 mode
  String.ofList (List.replicate (4 - digits.length) '0' ++ digits)

/-- The permission bits that octal digits stand for. -/
def octal (text : String) : Nat :=
  text.toList.foldl (fun mode c => mode * 8 + (c.toNat - 48)) 0

/-- Bytes as hexadecimal digits. -/
def hexOfBytes : List UInt8 → List Char
  | [] => []
  | byte :: rest =>
    Text.hexDigit (byte.toNat / 16) :: Text.hexDigit (byte.toNat % 16) :: hexOfBytes rest

/-- The bytes that hexadecimal digits stand for. -/
def bytes? : List Char → Option (List UInt8)
  | [] => some []
  | [_] => none
  | a :: b :: rest => do
    let high ← Value.Reader.hexValue? a
    let low ← Value.Reader.hexValue? b
    let bytes ← bytes? rest
    return UInt8.ofNat (high * 16 + low) :: bytes

/-- What is written for bytes is read as these bytes. -/
theorem bytes?_hexOfBytes (bytes : List UInt8) : bytes? (hexOfBytes bytes) = some bytes := by
  induction bytes with
  | nil => rfl
  | cons byte rest ih =>
    have small := byte.toNat_lt
    have high : byte.toNat / 16 < 16 := by omega
    have low : byte.toNat % 16 < 16 := Nat.mod_lt _ (by decide)
    have whole : byte.toNat / 16 * 16 + byte.toNat % 16 = byte.toNat := by omega
    simp only [hexOfBytes, bytes?, Value.Reader.hexValue?_hexDigit high,
      Value.Reader.hexValue?_hexDigit low, ih, Option.bind_eq_bind, Option.bind_some,
      Option.pure_def, whole, UInt8.ofNat_toNat]

/-! ## Records -/

/-- The content of the file that a record describes, if it describes one. -/
def content? (fields : List (String × Value)) : Option Content :=
  let field := fun name => Value.field? name fields
  match field "file", field "hex", field "fill", field "sparse" with
  | some (.text text), _, _, _ => some (.ofText text)
  | _, some (.text digits), _, _ => (bytes? digits.toList).map fun bytes => ⟨bytes, 1⟩
  | _, _, some (.list [.text digits, .int count]), _ =>
    (bytes? digits.toList).map fun bytes => ⟨bytes, count.toNat⟩
  | _, _, _, some (.int size) => some ⟨[0], size.toNat⟩
  | _, _, _, _ => none

/-- What a record says to be there. -/
def kind? (fields : List (String × Value)) : Option NewKind :=
  let isOn := fun name => (Value.field? name fields).any Value.isSet
  match content? fields, Value.field? "link" fields with
  | some content, _ => some (.file content)
  | none, some (.text target) => some (.link target)
  | none, _ =>
    if isOn "fifo" then some .fifo
    else if isOn "socket" then some .socket
    else if isOn "dir" then some .directory
    else none

/-- The fields for what is there. -/
def kindFields : NewKind → List (String × Value)
  | .directory => [("dir", .bool true)]
  | .file content =>
    let digits := Value.text (String.ofList (hexOfBytes content.block))
    if content.count = 1 then [("hex", digits)] else [("fill", .list [digits, .int content.count])]
  | .link target => [("link", .text target)]
  | .fifo => [("fifo", .bool true)]
  | .socket => [("socket", .bool true)]

end Snapshot

namespace NewObject

open Snapshot

/-- The object that a record describes. -/
def ofValue? : Value → Option NewObject
  | .record fields => do
    let .text path ← Value.field? "path" fields | none
    let kind ← kind? fields
    let mode := match Value.field? "mode" fields with
      | some (.text digits) => some (octal digits)
      | _ => none
    let modified := match Value.field? "mtime_ns" fields with
      | some (.int time) => some time
      | _ => none
    return { path, kind, mode, modified }
  | _ => none

/-- The record of an object. -/
def toValue (new : NewObject) : Value :=
  .record (("path", .text new.path) :: kindFields new.kind ++
    (new.mode.map fun mode => ("mode", Value.text (octalText mode))).toList ++
    (new.modified.map fun time => ("mtime_ns", Value.int time)).toList)

/-- An object as it would be written anew at a path. -/
def ofObject (path : String) : Object → NewObject
  | .directory mode => { path, kind := .directory, mode := some mode }
  | .file content mode modified =>
    { path, kind := .file content, mode := some mode, modified := some modified }
  | .link target => { path, kind := .link target }
  | .fifo mode => { path, kind := .fifo, mode := some mode }
  | .socket mode => { path, kind := .socket, mode := some mode }

end NewObject

/-- All that is below a location, in the order of creation, as a document. -/
def FileSystem.snapshot (fs : FileSystem) (location : Location) : Value :=
  .list ((fs.below location).reverse.map fun (path, object) =>
    (NewObject.ofObject path object).toValue)

end AssetPublish
