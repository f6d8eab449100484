import AssetPublish.FileSystem.Copy
import AssetPublish.FileSystem.Directories
import AssetPublish.FileSystem.Removal
import AssetPublish.Operation.Basic

/-!
# Applying an operation

## What is here

* `Operation.handle` — what each kind of step does.
* `Disturbance` — a failure that strikes a step from outside.
* `ApplyFault`, `Operation.apply` — a step, with every report of the system turned into one that
  names the step.
-/

set_option autoImplicit false

namespace AssetPublish

/-- A failure that strikes a step instead of its work. -/
inductive Disturbance
  /-- The system refuses for any reason. -/
  | refusal (code : Int) (text : String)
  /-- The user breaks off. -/
  | interruption
deriving DecidableEq, Repr

/-- The fault that a disturbance causes. -/
def Disturbance.fault : Disturbance → Fault
  | refusal code text => .system (.refused (.other code text))
  | interruption => .interrupted

/-- Why a step failed. -/
inductive ApplyFault
  /-- The system reports an error. -/
  | system (operation : Operation) (error : SystemError)
  /-- Anything else. -/
  | fault (fault : Fault)

/-- The wording of a failed step. -/
def ApplyFault.message : ApplyFault → String
  | system operation error =>
    "Failed to " ++ operation.kind.phrase ++ " " ++ operation.target.text ++ ": " ++ error.message
  | fault cause => cause.message

namespace Operation

open FileSystem

/-- The entry of a step that needs one. -/
def entry? (operation : Operation) : Act Entry :=
  match operation.entry with
  | some entry => return entry
  | none => throw .entryMissing

/-- Sets permission bits that are given as a machine word. -/
def setBits (caller : Caller) (path : Path) (mode : Int) : Act Unit := do
  if mode < -2147483648 ∨ 2147483647 < mode then throw .modeTooLarge
  Act.change (changeMode caller path.text (mode % 0o10000).toNat)

/-- Removes the destination: a link or a file itself, a directory with all that lies below it. -/
def removeDestination (caller : Caller) (target : Path) : Act Unit := do
  if (← Act.ask fun fs => fs.isLink? caller target.text) then
    Act.change (unlink caller target.text)
  else if (← Act.ask fun fs => fs.isDirectory? caller target.text) then
    removeTree caller target.text
  else Act.change (unlink caller target.text)

/-- The permission bits that the owner keeps on every directory, so that it can be filled. -/
def ownerBits : Nat := 0o700

/-- Permission bits with those that the owner keeps. -/
def withOwnerBits (mode : Int) : Int :=
  mode / 0o10000 * 0o10000 + ((mode % 0o10000).toNat ||| ownerBits : Nat)

/-- What a step does. -/
def handle (caller : Caller) (operation : Operation) : Act Unit :=
  match operation.kind with
  | .removeDestination => removeDestination caller operation.target
  | .createDestination => makeNewDirectory caller operation.target
  | .createDirectory => do
    Act.change (makeDirectory caller operation.target.text)
    match operation.entry with
    | some entry => setBits caller operation.target (withOwnerBits entry.mode)
    | none => return ()
  | .copyFile => do
    let entry ← operation.entry?
    copyFile caller entry.path operation.target
  | .copySymlink => do
    let entry ← operation.entry?
    let held ← Act.ask fun fs => fs.readLink? caller entry.path.text
    Act.change (makeLink caller held operation.target.text)
  | .copyFifo => do
    let entry ← operation.entry?
    Act.change (makeFifo caller operation.target.text)
    setBits caller operation.target entry.mode

/-- A step, or the disturbance that strikes it. -/
def attempt (caller : Caller) (disturbance : Option Disturbance) (operation : Operation) :
    Act Unit :=
  match disturbance with
  | some disturbance => throw disturbance.fault
  | none => operation.handle caller

/-- Applies a step.  What was done before a failure stays done. -/
def apply (caller : Caller) (disturbance : Option Disturbance) (operation : Operation)
    (fs : FileSystem) : Except ApplyFault Unit × FileSystem :=
  match (operation.attempt caller disturbance).perform fs with
  | (.ok (), fs) => (.ok (), fs)
  | (.error (.system error), fs) => (.error (.system operation error), fs)
  | (.error fault, fs) => (.error (.fault fault), fs)

end Operation
end AssetPublish
