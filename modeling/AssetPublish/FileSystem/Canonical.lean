import AssetPublish.FileSystem.Calls

/-!
# Canonical paths

The canonical form of a path is absolute and goes through no link.  What does not exist is kept as
it is spelled, so every path has one, unless links lead round in a circle.

A path is freed from links by looking at one component after another, always through the trail of
what is free from links already.  This follows the same links as the system does, but not in the
same way: there is no limit on the number of links one after another, a link that has been followed
once is not followed again, and components that do not exist are kept.  Circles are found by
remembering the links that are being followed.

The look at a trail is a parameter of the definitions.  The system looks only where the trail's
spelling is not too long (`linkAt?`); a look that does not care for the length (`linkHeld?`) serves
to say what the canonical form is when no link is missed for that reason.

## What is here

* `Trail` — the part of a path that has been freed from links.
* `FileSystem.unlinked` — the components of a path freed from links one after another.
* `FileSystem.canonical?` — the canonical form.
* `FileSystem.isWithin?` — whether one path leads to or below another.
-/

set_option autoImplicit false

namespace AssetPublish

/-- A path without links, its components innermost first.  A relative one may start with steps up:
it stays relative to the working directory until the very end, and above that directory names are
not known. -/
structure Trail where
  absolute : Bool
  names : List String
deriving DecidableEq, Repr

namespace Trail

/-- One step up.  There is nothing above the root. -/
def up (trail : Trail) : Trail :=
  match trail.names with
  | [] => if trail.absolute then trail else ⟨false, [".."]⟩
  | name :: rest => if name = ".." then ⟨trail.absolute, ".." :: name :: rest⟩
    else ⟨trail.absolute, rest⟩

/-- One step down. -/
def down (trail : Trail) (name : String) : Trail := ⟨trail.absolute, name :: trail.names⟩

/-- The spelling of a trail. -/
def text (trail : Trail) : String :=
  (if trail.absolute then "/" else "") ++ Text.joined '/' trail.names.reverse

/-- Where following a spelling starts: at the root, or where one is. -/
def start (trail : Trail) (text : String) : Trail := if isAbsolute text then ⟨true, []⟩ else trail

end Trail

/-- One spelling continued by another; an absolute one starts over. -/
def continued (text rest : String) : String :=
  if isAbsolute rest then rest
  else if text = "" ∨ text.toList.getLast? = some '/' then text ++ rest
  else text ++ "/" ++ rest

/-- The outcome of freeing a path from links: all of it, or the spelling from which it did not go
on because of a circle. -/
inductive Unlinked
  | done (trail : Trail)
  | stuck (text : String)
deriving DecidableEq, Repr

/-- The spelling of an outcome. -/
def Unlinked.text : Unlinked → String
  | done trail => trail.text
  | stuck text => text

/-- The links met so far: those that are being followed have no trail yet, and meeting one of them
again is a circle. -/
abbrev Met : Type := List (Trail × Option Trail)

namespace FileSystem

/-- The path held by the link at a trail, if there is a link. -/
def linkHeld? (fs : FileSystem) (caller : Caller) (trail : Trail) : Option String :=
  match fs.walk caller .itself linkLimit (if trail.absolute then [] else caller.workingDirectory)
      trail.names.reverse with
  | .ok (.object location) =>
    match fs.get? location with
    | some (.link target) => some target
    | _ => none
  | _ => none

/-- What a look at a trail finds: the path held by a link.  A trail whose spelling is too long for
the system is not looked at. -/
def linkAt? (fs : FileSystem) (caller : Caller) (trail : Trail) : Option String :=
  if spellingLimit < trail.text.utf8ByteSize then none else fs.linkHeld? caller trail

/-- Follows components from a trail without links, where `look` tells what link is at a trail, and
`inside` follows what a link holds, unless links are followed too deep inside of each other. -/
def unlinkedWith (look : Trail → Option String)
    (inside : Met → Trail → String → Option (Except Fault (Unlinked × Met))) (met : Met)
    (trail : Trail) (rest : List String) : Except Fault (Unlinked × Met) :=
  match rest with
  | [] => .ok (.done trail, met)
  | name :: rest =>
    if name = "" ∨ name = "." then unlinkedWith look inside met trail rest
    else if name = ".." then unlinkedWith look inside met trail.up rest
    else if '\x00' ∈ name.toList then .error .nullByte
    else
      let next := trail.down name
      let further := Text.joined '/' rest
      match look next with
      | none => unlinkedWith look inside met next rest
      | some target =>
        match met.lookup next with
        | some (some known) => unlinkedWith look inside met known rest
        | some none => .ok (.stuck (continued next.text further), met)
        | none =>
          match inside ((next, none) :: met) (trail.start target) target with
          | none => .ok (.stuck (continued next.text further), met)
          | some (.error fault) => .error fault
          | some (.ok (.stuck text, met)) => .ok (.stuck (continued text further), met)
          | some (.ok (.done reached, met)) =>
            unlinkedWith look inside ((next, some reached) :: met) reached rest

/-- Follows components from a trail without links, where `look` tells what link is at a trail, and
at most so many links are followed inside of each other. -/
def unlinked (look : Trail → Option String) :
    Nat → Met → Trail → List String → Except Fault (Unlinked × Met)
  | 0 => unlinkedWith look fun _ _ _ => none
  | depth + 1 => unlinkedWith look fun met trail target =>
    some (unlinked look depth met trail (Text.fields '/' target))

/-- Components, innermost first, continued by one more; a step up takes the last one away. -/
def kept (before : List String) (part : String) : List String :=
  if part = ".." then before.tail else part :: before

/-- The components without the steps up, each of which takes away the one before it. -/
def lexical (parts : List String) : List String := (parts.foldl kept []).reverse

/-- A spelling as an absolute path without steps up. -/
def absolutePath (caller : Caller) (text : String) : Path :=
  let path := Path.ofText (continued (Location.toPath caller.workingDirectory).text text)
  ⟨path.anchor, Path.names (lexical path.parts), fun _ h => Path.isName_of_mem_names h⟩

/-- The canonical form of a path, where `look` tells what link is at a trail. -/
def canonicalBy? (fs : FileSystem) (caller : Caller) (look : Trail → Option String) (path : Path) :
    Except Fault Path := do
  let depth := linkLimit + (fs.objects.length + 1) * (caller.workingDirectory.length + 2)
  let (outcome, _) ← unlinked look depth [] (Trail.start ⟨false, []⟩ path.text)
    (Text.fields '/' path.text)
  let form := absolutePath caller outcome.text
  match fs.follow? caller form.text with
  | .error (.system (.refused refusal _ _)) =>
    if refusal.code = Refusal.tooManyLinks.code then throw (.linkLoop form.text) else return form
  | .error .nullByte => throw .nullByte
  | _ => return form

/-- The canonical form of a path. -/
def canonical? (fs : FileSystem) (caller : Caller) (path : Path) : Except Fault Path :=
  fs.canonicalBy? caller (fs.linkAt? caller) path

/-- Whether a path leads to where another one leads, or below that. -/
def isWithin? (fs : FileSystem) (caller : Caller) (path parent : Path) : Except Fault Bool := do
  let form ← fs.canonical? caller path
  let parentForm ← fs.canonical? caller parent
  return form.IsWithin parentForm

end FileSystem
end AssetPublish
