/-!
# Control sequences of terminals

A terminal takes colours and the like as control sequences: the escape character, an opening
bracket, parameters, and a letter.  Where the output is no terminal they are left out.

## What is here

* `behindSequence?` — the rest behind a control sequence.
* `withoutSequences` — a text without its control sequences.
-/

set_option autoImplicit false

namespace AssetPublish
namespace Console

/-- The characters that parameters of control sequences consist of. -/
def isControlParameter (c : Char) : Bool := c.isDigit || c == ';' || c == '?'

/-- The rest behind a control sequence whose escape character has been read. -/
def behindSequence? : List Char → Option (List Char)
  | '[' :: cs =>
    match cs.dropWhile isControlParameter with
    | c :: after => if c.isAlpha then some after else none
    | [] => none
  | _ => none

theorem behindSequence?_length {cs after : List Char} (h : behindSequence? cs = some after) :
    after.length < cs.length := by
  unfold behindSequence? at h
  split at h
  · rename_i rest
    split at h
    · rename_i c tail heq
      have hsub := (List.dropWhile_sublist (l := rest) isControlParameter).length_le
      rw [heq] at hsub
      split at h
      · simp only [Option.some.injEq] at h
        subst h
        simp only [List.length_cons] at hsub ⊢
        omega
      · simp at h
    · simp at h
  · simp at h

/-- A text without its control sequences. -/
def withoutSequences (cs : List Char) : List Char :=
  match cs with
  | [] => []
  | c :: rest =>
    if c = '\x1b' then
      match _h : behindSequence? rest with
      | some after => withoutSequences after
      | none => c :: withoutSequences rest
    else c :: withoutSequences rest
termination_by cs.length
decreasing_by
  all_goals simp only [List.length_cons]
  all_goals first
    | omega
    | exact Nat.lt_succ_of_lt (behindSequence?_length _h)

end Console
end AssetPublish
