import AssetPublish.Operation.Apply
import AssetPublish.Scan

/-!
# Why a run fails

## What is here

* `RunError` — the reasons, with their messages.
* `RunError.isRefusal` — the reasons why settings are refused.
-/

set_option autoImplicit false

namespace AssetPublish

/-- The reasons for which a run fails. -/
inductive RunError
  | sourceMissing (source : Path)
  | sourceNotDirectory (source : Path)
  | destinationInside (destination source : Path)
  | sourceInside (source destination : Path)
  /-- A directory of the source cannot be listed. -/
  | unreadable (dir : Path) (error : SystemError)
  /-- An object of the source cannot be inspected. -/
  | uninspectable (item : Path) (error : SystemError)
  /-- The system reports an error for a step. -/
  | failed (operation : Operation) (error : SystemError)
  /-- Anything else. -/
  | fault (fault : Fault)

namespace RunError

/-- A fault of the scan as a reason. -/
def ofScan : ScanFault → RunError
  | .unreadable dir error => unreadable dir error
  | .uninspectable item error => uninspectable item error
  | .fault cause => fault cause

/-- A failed step as a reason. -/
def ofApply : ApplyFault → RunError
  | .system operation error => failed operation error
  | .fault cause => fault cause

/-- The wording for a source that cannot be used. -/
def sourceMessage (reason : String) (source : Path) : String :=
  "Source directory " ++ reason ++ ": " ++ source.text

/-- Why a source cannot be used if nothing else is said. -/
def absenceReason : String := "does not exist"

/-- The wording of a reason. -/
def message : RunError → String
  | sourceMissing source => sourceMessage absenceReason source
  | sourceNotDirectory source => sourceMessage "is not a directory" source
  | destinationInside destination source =>
    "Destination " ++ destination.text ++ " must not be inside source " ++ source.text
  | sourceInside source destination =>
    "Source " ++ source.text ++ " must not be inside destination " ++ destination.text
  | unreadable dir error => (ScanFault.unreadable dir error).message
  | uninspectable item error => (ScanFault.uninspectable item error).message
  | failed operation error => (ApplyFault.system operation error).message
  | fault cause => cause.message

/-- Whether the reason is the refusal of the settings before anything is done. -/
def isRefusal : RunError → Bool
  | sourceMissing _ | sourceNotDirectory _ | destinationInside .. | sourceInside .. => true
  | _ => false

/-- The exit code of the program for failures that it reports itself. -/
def exitCode : Nat := 1

/-- What the system reported, if that is the reason. -/
def cause? : RunError → Option SystemError
  | unreadable _ error | uninspectable _ error | failed _ error => some error
  | _ => none

end RunError
end AssetPublish
