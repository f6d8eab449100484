import AssetPublish.Console.Table
import AssetPublish.Exclusion.Basic

/-!
# Faults

What can go wrong outside of the program's own checks: calls that the system refuses, spellings
that denote nothing, and values that do not fit where they are used.

## What is here

* `Refusal` — the system's reasons, with their number and text.
* `SystemError` — a refused call, or a copy that cannot be made.
* `Fault` — all faults, each with its message.
-/

set_option autoImplicit false

namespace AssetPublish

/-- The reasons for which the system refuses a call. -/
inductive Refusal
  | missing
  | noDevice
  | denied
  | busy
  | taken
  | notDirectory
  | isDirectory
  | invalid
  | nameTooLong
  | notEmpty
  | tooManyLinks
  /-- Any reason, given by its number and text. -/
  | other (code : Int) (text : String)
deriving DecidableEq, Repr

namespace Refusal

/-- The number of a reason. -/
def code : Refusal → Int
  | missing => 2
  | noDevice => 6
  | denied => 13
  | busy => 16
  | taken => 17
  | notDirectory => 20
  | isDirectory => 21
  | invalid => 22
  | nameTooLong => 36
  | notEmpty => 39
  | tooManyLinks => 40
  | other code _ => code

/-- The text of a reason. -/
def text : Refusal → String
  | missing => "No such file or directory"
  | noDevice => "No such device or address"
  | denied => "Permission denied"
  | busy => "Device or resource busy"
  | taken => "File exists"
  | notDirectory => "Not a directory"
  | isDirectory => "Is a directory"
  | invalid => "Invalid argument"
  | nameTooLong => "File name too long"
  | notEmpty => "Directory not empty"
  | tooManyLinks => "Too many levels of symbolic links"
  | other _ text => text

/-- The reasons that mean that a path leads to nothing. -/
def meansAbsent : Refusal → Bool
  | missing | notDirectory | tooManyLinks => true
  | other code _ => code == 2 || code == 20 || code == 40 || code == 9
  | _ => false

end Refusal

/-- What the system reports for a step that failed. -/
inductive SystemError
  /-- A call was refused; it names the one or two paths that it was about. -/
  | refused (refusal : Refusal) (subject : Option String := none) (second : Option String := none)
  /-- A file would be copied onto itself; both paths are given as they are shown. -/
  | sameFile (first second : String)
  /-- The file to copy, or the place to copy to, is a pipe. -/
  | specialFile (name : String)
  /-- The place to copy to would lie in a directory that does not exist. -/
  | directoryMissing (name : String)
deriving DecidableEq, Repr

/-- The wording of a report. -/
def SystemError.message : SystemError → String
  | refused refusal subject second =>
    "[Errno " ++ toString refusal.code ++ "] " ++ refusal.text ++
      (subject.elim "" fun name => ": " ++ Text.quoted name) ++
      (second.elim "" fun name => " -> " ++ Text.quoted name)
  | sameFile first second => first ++ " and " ++ second ++ " are the same file"
  | specialFile name => "\x60" ++ name ++ "\x60 is a named pipe"
  | directoryMissing name => "Directory does not exist: " ++ name

/-- What can go wrong outside of the program's own checks. -/
inductive Fault
  /-- The system reports an error. -/
  | system (error : SystemError)
  /-- A path with a zero character was handed to the system. -/
  | nullByte
  /-- Links on the way to a path lead round in a circle. -/
  | linkLoop (path : String)
  /-- A path does not continue the base that it should be given relative to. -/
  | outside (path base : String)
  /-- A value is none of the words of a family. -/
  | unknownWord (word : Value) (family : String)
  /-- Objects of this kind are never recreated. -/
  | notRecreated
  /-- An operation lacks the entry that it copies. -/
  | entryMissing
  /-- A size is beyond the range of machine numbers. -/
  | sizeTooLarge
  /-- A rule cannot be asked. -/
  | rule (fault : RuleFault)
  /-- A field is not among those given. -/
  | fieldMissing (key : String)
  /-- A value does not fit where it is used. -/
  | mismatch (mismatch : Mismatch)
  /-- A table cannot be printed. -/
  | table (fault : Console.TableFault)
  /-- Permission bits are beyond the range of machine words. -/
  | modeTooLarge
  /-- A progress display is running already. -/
  | displayBusy
  /-- The user broke off. -/
  | interrupted
deriving Repr

/-- The wording of a fault. -/
def Fault.message : Fault → String
  | system error => error.message
  | nullByte => "embedded null byte"
  | linkLoop path => "Symlink loop from " ++ Text.quoted path
  | outside path base => Text.quoted path ++ " is not in the subpath of " ++ Text.quoted base ++
      " OR one path is relative and the other is absolute."
  | unknownWord word family => word.shown ++ " is not a valid " ++ family
  | notRecreated => "<EntryKind.SPECIAL: 'special'>"
  | entryMissing => ""
  | sizeTooLarge => "integer division result too large for a float"
  | rule fault => fault.message
  | fieldMissing key => Text.quoted key
  | mismatch cause => cause.message
  | table fault => fault.message
  | modeTooLarge => "Python int too large to convert to C int"
  | displayBusy => "Only one live display may be active at once"
  | interrupted => ""

/-- A refused call about one path. -/
def Fault.refused (refusal : Refusal) (subject : String) : Fault :=
  .system (.refused refusal (some subject))

end AssetPublish
