import AssetPublish.Text.Ranges

/-!
# Blank characters

The white space of Unicode together with the four information separators.

## What is here

* `isBlank c` — the class.
* `trailingBlanks cs` — how many characters at the end of a line are blank.
* `trimBlanks cs` — a text without the blanks around it.
* `words cs` — what stands between blanks.
-/

set_option autoImplicit false

namespace AssetPublish
namespace Text

/-- The blank code points. -/
def blankRanges : Array (Nat × Nat) := #[(0x9, 0xD), (0x1C, 0x20), (0x85, 0x85), (0xA0, 0xA0),
  (0x1680, 0x1680), (0x2000, 0x200A), (0x2028, 0x2029), (0x202F, 0x202F), (0x205F, 0x205F),
  (0x3000, 0x3000)]

/-- Whether `c` is blank. -/
def isBlank (c : Char) : Bool := inRanges blankRanges c

/-- The number of blank characters at the end of a line. -/
def trailingBlanks (cs : List Char) : Nat := (cs.reverse.takeWhile isBlank).length

/-- A list of characters without the blanks at its end. -/
def trimEnd (cs : List Char) : List Char := cs.take (cs.length - trailingBlanks cs)

/-- A list of characters without the blanks at its two ends. -/
def trimBlanks (cs : List Char) : List Char := trimEnd (cs.dropWhile isBlank)

/-- The words of a text: the runs of characters without a blank between them. -/
def words : List Char → List (List Char)
  | [] => []
  | c :: rest =>
    if isBlank c then words rest
    else
      match rest, words rest with
      | d :: _, word :: others => if isBlank d then [c] :: word :: others else (c :: word) :: others
      | _, _ => [[c]]

theorem trailingBlanks_le (cs : List Char) : trailingBlanks cs ≤ cs.length := by
  have h := List.IsPrefix.length_le <| List.takeWhile_prefix (l := cs.reverse) isBlank
  simpa [trailingBlanks] using h

end Text
end AssetPublish
