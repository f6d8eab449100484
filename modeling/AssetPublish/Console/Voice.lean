import AssetPublish.Console.Outline
import AssetPublish.Console.Table
import AssetPublish.Value.Json

/-!
# What is printed when

Information goes to the standard output unless the program is asked to be quiet or to print
statistics as JSON.  Warnings go to the error output unless it is asked to be quiet, and errors
always do.

Each function takes the voice along and decides by itself whether to print, so that whoever reports
something does not have to ask.

## What is left out

* Colours and other styles.  The output is no terminal, where they leave no trace in the text, and
  messages that differ in their style only are one function here.

## What is here

* `Printed` — what a call has written to the two outputs.
* `Voice` — how talkative the program is, with one function per kind of message.
-/

set_option autoImplicit false

namespace AssetPublish

/-- What has been written to the standard output and to the error output. -/
structure Printed where
  out : String := ""
  err : String := ""
deriving DecidableEq, Repr

namespace Printed

/-- Nothing. -/
def nothing : Printed := {}

/-- One after the other. -/
def append (a b : Printed) : Printed := ⟨a.out ++ b.out, a.err ++ b.err⟩

instance : Append Printed := ⟨append⟩

@[simp] theorem out_append (a b : Printed) : (a ++ b).out = a.out ++ b.out := rfl

@[simp] theorem err_append (a b : Printed) : (a ++ b).err = a.err ++ b.err := rfl

@[simp] theorem out_nothing : nothing.out = "" := rfl

@[simp] theorem err_nothing : nothing.err = "" := rfl

@[simp] theorem append_nothing (a : Printed) : a ++ nothing = a := by
  cases a
  show append _ _ = _
  simp [append]

end Printed

/-- How talkative the program is. -/
structure Voice where
  quiet : Bool := false
  json : Bool := false
deriving DecidableEq, Repr

namespace Voice

/-- Whether information is suppressed. -/
def silent (voice : Voice) : Bool := voice.quiet || voice.json

/-- Prints a value as information. -/
def informValue (voice : Voice) (value : Value) : Printed :=
  if voice.silent then .nothing else { out := Console.valueText value }

/-- Prints information. -/
def inform (voice : Voice) (message : String) : Printed := voice.informValue (.text message)

/-- Prints a value as a warning. -/
def warnValue (voice : Voice) (value : Value) : Printed :=
  if voice.quiet then .nothing else { err := Console.valueText value }

/-- Prints a warning. -/
def warn (voice : Voice) (message : String) : Printed := voice.warnValue (.text message)

/-- Prints an error. -/
def error (_voice : Voice) (message : String) : Printed :=
  { err := Console.messageText ("Error: " ++ message) }

/-- Prints a document. -/
def document (_voice : Voice) (value : Value) : Printed :=
  { out := Console.messageText (value.toJson (.indented 2)) }

/-- Prints a table. -/
def table (voice : Voice) (table : Console.Table) : Except Console.TableFault Printed :=
  if voice.silent then .ok .nothing else table.text?.map fun text => { out := text }

/-- Prints a table that is given as values.  Where nothing is to be printed they are not looked
at. -/
def tableOfValues (voice : Voice) (title rows : Value) : Except Console.TableFault Printed :=
  if voice.silent then .ok .nothing else (Console.Table.ofValues? title rows).bind voice.table

end Voice
end AssetPublish
