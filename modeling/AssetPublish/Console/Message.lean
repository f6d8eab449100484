import AssetPublish.Console.Pictographs
import AssetPublish.Text.Blank
import AssetPublish.Text.Cells

/-!
# Messages on the console

A message is printed as it is, but for a few things: names of pictographs between colons are
replaced, control characters that would move the cursor are left out, tabs are filled up to columns
of eight, and blanks at the end of a line are cut where they lie beyond the width of the console.

## What is here

* `withPictographs`, `withoutControls`, `expandTabs`, `trimLine` — the steps.
* `messageText` — what is printed for a message.
-/

set_option autoImplicit false

namespace AssetPublish
namespace Console

/-- The number of columns of the console. -/
def width : Nat := 80

/-- The distance of tab stops. -/
def tabSize : Nat := 8

/-! ## Pictographs -/

/-- The name between a colon and the next one; there is none across a blank. -/
def nameAhead? : List Char → Option (List Char × List Char)
  | [] => none
  | c :: rest =>
    if c = ':' then some ([], rest)
    else if Text.isBlank c then none
    else (nameAhead? rest).map fun (name, rest) => (c :: name, rest)

theorem nameAhead?_length {cs name rest : List Char} (h : nameAhead? cs = some (name, rest)) :
    rest.length < cs.length := by
  induction cs generalizing name with
  | nil => simp [nameAhead?] at h
  | cons c cs ih =>
    rw [nameAhead?] at h
    split at h
    · simp only [Option.some.injEq, Prod.mk.injEq] at h
      simp [← h.2]
    · split at h
      · simp at h
      · obtain ⟨⟨inner, after⟩, hb, he⟩ := Option.map_eq_some_iff.1 h
        simp only [Prod.mk.injEq] at he
        have hafter := ih (he.2 ▸ hb)
        simp only [List.length_cons]
        omega

/-- The endings of a name that ask for a plain or a coloured form, with the character that does
so. -/
def variants : List (List Char × Char) :=
  [("-emoji".toList, '\ufe0f'), ("-text".toList, '\ufe0e')]

/-- A name without its ending, and the character for the form that it asks for. -/
def splitVariant (name : List Char) : List Char × List Char :=
  match variants.find? fun variant => variant.1.isSuffixOf name with
  | some (ending, selector) => (name.take (name.length - ending.length), [selector])
  | none => (name, [])

/-- The small letter for a capital, where it is one of the first 256 characters. -/
def smallLetter (c : Char) : Char :=
  let code := c.toNat
  if (0x41 ≤ code ∧ code ≤ 0x5A) ∨ (0xC0 ≤ code ∧ code ≤ 0xDE ∧ code ≠ 0xD7) then
    Char.ofNat (code + 0x20)
  else if code = 0x178 then '\u00ff'
  else if code = 0x1E9E then '\u00df'
  else if code = 0x212A then 'k'
  else if code = 0x212B then '\u00e5'
  else c

/-- What stands for a name between colons: its pictograph, or the name itself if it has none. -/
def pictograph (name : List Char) : List Char :=
  let (base, selector) := splitVariant name
  match pictographs.lookup (base.map smallLetter) with
  | some cs => cs ++ selector
  | none => ':' :: name ++ [':']

/-- A text with its pictographs.  A name that has none is passed over with both its colons. -/
def withPictographs (cs : List Char) : List Char :=
  match cs with
  | [] => []
  | c :: rest =>
    if c = ':' then
      match _h : nameAhead? rest with
      | some (name, after) => pictograph name ++ withPictographs after
      | none => c :: withPictographs rest
    else c :: withPictographs rest
termination_by cs.length
decreasing_by
  all_goals simp only [List.length_cons]
  all_goals first
    | omega
    | exact Nat.lt_succ_of_lt (nameAhead?_length _h)

/-! ## Lines -/

/-- The control characters that are never printed: bell, back space, vertical tab, form feed and
carriage return. -/
def droppedControls : List Char := ['\x07', '\x08', '\x0b', '\x0c', '\x0d']

/-- A text without the control characters that are never printed. -/
def withoutControls (cs : List Char) : List Char := cs.filter fun c => !droppedControls.contains c

/-- A line with its tabs filled up to the next stop, `column` columns being taken before it. -/
def expandTabs (column : Nat) : List Char → List Char
  | [] => []
  | c :: rest =>
    if c = '\t' then
      let next := (column / tabSize + 1) * tabSize
      List.replicate (next - column) ' ' ++ expandTabs next rest
    else c :: expandTabs (column + Text.cells c) rest

/-- A line without those blanks at its end that lie beyond some width. -/
def trimLine (width : Nat) (line : List Char) : List Char :=
  line.take (line.length - min (Text.trailingBlanks line) (line.length - width))

/-- The lines that are printed for a text without the control characters that are never printed. -/
def lines (width : Nat) (text : List Char) : List (List Char) :=
  (Text.splitChars '\n' text).map fun line => trimLine width (expandTabs 0 line)

/-- What is printed for a message, with the end of its last line. -/
def messageText (message : String) : String :=
  let text := withoutControls (withPictographs message.toList)
  String.ofList (Text.joinChars '\n' (lines width text) ++ ['\n'])

end Console
end AssetPublish
