import AssetPublish.Path

/-!
# Objects and locations

An object is what can stand at a place of a tree, with as much of it as a copy keeps or a call asks
for.  Places are lists of names with the innermost one first, so that going down from a place is
adding a name in front, and everything below a place has it as a suffix.

## What is left out

* Owners and groups.  Objects have permission bits, but of these only the owner's bind, and only a
  caller who is not privileged; a copy keeps the bits, and whose it is cannot be asked.
* Device nodes.  A scan treats them as it treats sockets, which stand for everything that is never
  copied.
* Times other than that of a file's last change, since no other time is copied.
* Several names of one file.  An object has one location, and two files with the same bytes are two
  objects.
* Names that are no text.  Every name of an object is a sequence of characters.
* Files whose size is not the number of their bytes, such as those that a system makes up when they
  are read.

## What is here

* `Content` — the bytes of a file: a block of bytes repeated some number of times.
* `Object` — what can stand at a place of the tree.
* `Location` — a place of the tree, as the list of the names that lead there, the innermost first.
* `IsFileName` — the names that an object can have.
-/

set_option autoImplicit false

namespace AssetPublish

/-- The bytes of a file: `block`, repeated `count` times.  So a file of many gigabytes can be
described, and its size be told, without writing its bytes out. -/
structure Content where
  block : List UInt8
  count : Nat := 1
deriving DecidableEq, Repr

namespace Content

/-- The content without bytes. -/
def empty : Content := ⟨[], 0⟩

/-- The content of a text. -/
def ofText (text : String) : Content := ⟨text.toUTF8.toList, 1⟩

/-- The number of bytes. -/
def size (c : Content) : Nat := c.block.length * c.count

/-- The byte at a place counted from zero. -/
def byteAt? (c : Content) (i : Nat) : Option UInt8 :=
  if i < c.size then c.block[i % c.block.length]? else none

/-- The bytes from place `start` on, at most `length` of them. -/
def slice (c : Content) (start length : Nat) : List UInt8 :=
  (List.range length).filterMap fun i => c.byteAt? (start + i)

/-- The sum of all bytes. -/
def sum (c : Content) : Nat := c.block.foldl (fun sum byte => sum + byte.toNat) 0 * c.count

end Content

/-- An object of the tree.  Permission bits include the set-id and sticky bits; a link has none of
its own.  A file carries the time of its last change in nanoseconds. -/
inductive Object
  | directory (mode : Nat)
  | file (content : Content) (mode : Nat) (modified : Int)
  | link (target : String)
  | fifo (mode : Nat)
  | socket (mode : Nat)
deriving DecidableEq, Repr

namespace Object

/-- Whether the object can hold others. -/
def isDirectory : Object → Bool
  | directory _ => true
  | _ => false

/-- Whether the object is a link. -/
def isLink : Object → Bool
  | link _ => true
  | _ => false

/-- The permission bits; those of a link always read as "everything". -/
def mode : Object → Nat
  | directory mode => mode
  | file _ mode _ => mode
  | link _ => 0o777
  | fifo mode => mode
  | socket mode => mode

/-- The object with other permission bits; a link keeps its own. -/
def withMode (mode : Nat) : Object → Object
  | directory _ => directory mode
  | file content _ modified => file content mode modified
  | link target => link target
  | fifo _ => fifo mode
  | socket _ => socket mode

/-- The object with another content, if it is a file. -/
def withContent (content : Content) : Object → Object
  | file _ mode modified => file content mode modified
  | object => object

/-- The object with another time of change, if it is a file. -/
def withModified (modified : Int) : Object → Object
  | file content mode _ => file content mode modified
  | object => object

/-- What an object can be: its permission bits are twelve, and a link holds a path that can be
handed to the system.  Every object of a file system is proper, so that a link which is read never
leads to an empty path or to one with the zero character in it. -/
def Proper (object : Object) : Prop :=
  object.mode < 0o10000 ∧ ∀ target, object = link target → target ≠ "" ∧ '\x00' ∉ target.toList

instance (object : Object) : Decidable object.Proper :=
  match object with
  | directory mode => decidable_of_iff (mode < 0o10000) (by simp [Proper, Object.mode])
  | file _ mode _ => decidable_of_iff (mode < 0o10000) (by simp [Proper, Object.mode])
  | link target => decidable_of_iff (target ≠ "" ∧ '\x00' ∉ target.toList)
      (by simp [Proper, Object.mode])
  | fifo mode => decidable_of_iff (mode < 0o10000) (by simp [Proper, Object.mode])
  | socket mode => decidable_of_iff (mode < 0o10000) (by simp [Proper, Object.mode])

/-- A change of an object that keeps its kind and its being proper.  Only such changes are made in
place: what lies in a directory would hang in the air if the directory became something else. -/
def Keeps (f : Object → Object) : Prop :=
  ∀ object, (f object).isDirectory = object.isDirectory ∧ (object.Proper → (f object).Proper)

theorem keeps_withMode {mode : Nat} (h : mode < 0o10000) : Keeps (withMode mode) := by
  intro object
  cases object <;> simp_all [withMode, isDirectory, Proper, Object.mode]

theorem keeps_withContent (content : Content) : Keeps (withContent content) := by
  intro object
  cases object <;> simp [withContent, isDirectory, Proper, Object.mode]

theorem keeps_withModified (modified : Int) : Keeps (withModified modified) := by
  intro object
  cases object <;> simp [withModified, isDirectory, Proper, Object.mode]

end Object

/-- A place of the tree: the names that lead there from the root, the innermost first.  The root
itself is the empty list. -/
abbrev Location := List String

/-- The number of bytes that a name can have. -/
def nameLimit : Nat := 255

/-- The names that an object can have: proper components of a path, but not the way up, without
the zero character, and not too long. -/
def IsFileName (name : String) : Prop :=
  IsName name ∧ name ≠ ".." ∧ '\x00' ∉ name.toList ∧ name.utf8ByteSize ≤ nameLimit

instance (name : String) : Decidable (IsFileName name) := by unfold IsFileName; infer_instance

/-- The path from the root to a location. -/
def Location.toPath (location : Location) : Path := ⟨.root, Path.names location.reverse,
  fun _ h => Path.isName_of_mem_names h⟩

end AssetPublish
