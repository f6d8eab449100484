import AssetPublish.Text.Split
import AssetPublish.Value.Mismatch

/-!
# Paths and their normal spelling

A path is kept in its normal spelling: slashes are not repeated, and components that are empty or
a single dot are dropped.  Two dots stay, since only the file system knows where they lead.

## What is here

* `IsName` — what a component of a path can be.
* `Anchor`, `Path` — the start of a path, and its components.
* `Path.ofText`, `Path.ofValue?`, `Path.text` — reading a spelling, and the normal one.
* `Path.spelling` — the components alone, which are nothing for the working directory.
* `Path.append`, `Path.relativeTo?`, `Path.IsWithin` — going down, cutting a path off at its
  front, and the order of paths by containment.
* `segments text` — the components of a relative spelling.
-/

set_option autoImplicit false

namespace AssetPublish

/-- What a component of a path can be: neither empty, nor a single dot, nor with a slash. -/
def IsName (name : String) : Prop := name ≠ "" ∧ name ≠ "." ∧ '/' ∉ name.toList

instance (name : String) : Decidable (IsName name) := by unfold IsName; infer_instance

/-- Where a path starts: at the working directory, at the root, or at the root written with
exactly two slashes. -/
inductive Anchor
  | relative
  | root
  | doubleRoot
deriving DecidableEq, Repr

namespace Anchor

/-- The slashes in front of the components. -/
def text : Anchor → String
  | relative => ""
  | root => "/"
  | doubleRoot => "//"

/-- The anchor of a spelling: exactly two leading slashes are kept, any other number counts as
one. -/
def ofChars : List Char → Anchor
  | '/' :: '/' :: '/' :: _ => root
  | '/' :: '/' :: _ => doubleRoot
  | '/' :: _ => root
  | _ => relative

end Anchor

/-- A path in its normal spelling. -/
@[ext]
structure Path where
  anchor : Anchor
  parts : List String
  isName : ∀ part ∈ parts, IsName part
deriving DecidableEq

namespace Path

/-- The components of a list of spelled ones that name something. -/
def names (parts : List String) : List String := parts.filter fun part => decide (IsName part)

theorem isName_of_mem_names {parts : List String} {part : String} (h : part ∈ names parts) :
    IsName part := by
  simpa using (List.mem_filter.1 h).2

theorem names_eq_self {parts : List String} (h : ∀ part ∈ parts, IsName part) :
    names parts = parts :=
  List.filter_eq_self.2 fun part hpart => by simpa using h part hpart

/-- The path that a text spells. -/
def ofText (text : String) : Path :=
  ⟨Anchor.ofChars text.toList, names (Text.fields '/' text), fun _ h => isName_of_mem_names h⟩

/-- The path that a value spells. -/
def ofValue? : Value → Except Mismatch Path
  | .text text => .ok (ofText text)
  | value => .error (.notPath value.kindName)

/-- The relative path without components: the working directory. -/
def here : Path := ⟨.relative, [], by simp⟩

/-- The anchor and the components with slashes between them. -/
def spelling (path : Path) : String := path.anchor.text ++ Text.joined '/' path.parts

/-- The normal spelling; a path without anchor and components is a dot. -/
def text (path : Path) : String :=
  if path.anchor = .relative ∧ path.parts = [] then "." else path.spelling

/-- The path continued by components; those that name nothing are left out. -/
def append (path : Path) (parts : List String) : Path :=
  ⟨path.anchor, path.parts ++ names parts, fun part h => by
    rcases List.mem_append.1 h with h | h
    · exact path.isName part h
    · exact isName_of_mem_names h⟩

/-- The path continued by one component. -/
def child (path : Path) (name : String) : Path := path.append [name]

/-- `path` is `base` or continues it. -/
def IsWithin (path base : Path) : Prop :=
  path.anchor = base.anchor ∧ List.IsPrefix base.parts path.parts

instance (path base : Path) : Decidable (path.IsWithin base) := by
  unfold IsWithin; infer_instance

/-- What continues `base` in `path`; nothing if `path` does not continue it. -/
def relativeTo? (path base : Path) : Option Path :=
  if path.IsWithin base then
    some ⟨.relative, path.parts.drop base.parts.length, fun part h =>
      path.isName part (List.mem_of_mem_drop h)⟩
  else none

/-- The path without its last component. -/
def parent (path : Path) : Path :=
  ⟨path.anchor, path.parts.dropLast, fun part h =>
    path.isName part ((List.dropLast_sublist path.parts).subset h)⟩

/-- What stands behind the last slash of the normal spelling. -/
def lastName (path : Path) : String :=
  match path.parts.getLast? with
  | some name => name
  | none => if path.anchor = .relative then "." else ""

@[simp] theorem append_anchor (path : Path) (parts : List String) :
    (path.append parts).anchor = path.anchor := rfl

@[simp] theorem append_parts (path : Path) (parts : List String) :
    (path.append parts).parts = path.parts ++ names parts := rfl

theorem IsWithin.refl (path : Path) : path.IsWithin path := ⟨rfl, List.prefix_rfl⟩

theorem append_isWithin (path : Path) (parts : List String) :
    (path.append parts).IsWithin path := ⟨rfl, List.prefix_append _ _⟩

end Path

/-- The components of a spelling, led by its slashes if it has an anchor. -/
def segments (text : String) : List String :=
  let path := Path.ofText text
  match path.anchor with
  | .relative => path.parts
  | anchor => anchor.text :: path.parts

end AssetPublish
