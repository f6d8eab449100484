import AssetPublish.Console.Message

/-!
# Breaking lines

A line that is too wide for its column is broken before words; a word that is too wide on its own is
cut, with an ellipsis in place of what is left out.

## What is here

* `lineWidth` — the number of columns that a line takes.
* `wordsFrom`, `breakLine` — a line as words, and as lines that the words are filled into;
  `flatten_breakLine`: nothing is lost.
* `cut`, `fit` — a line cut or filled up to a number of columns.
* `wrapped` — a text as lines of one width.
-/

set_option autoImplicit false

namespace AssetPublish
namespace Console

/-- The number of columns that a line takes. -/
def lineWidth (line : List Char) : Nat := line.foldr (fun c width => Text.cells c + width) 0

/-! ## Words -/

/-- The rest of a line behind the word at its front and the blanks around that. -/
def behindWord (line : List Char) : List Char :=
  ((line.dropWhile Text.isBlank).dropWhile fun c => !Text.isBlank c).dropWhile Text.isBlank

theorem length_dropWhile_le {α : Type} (p : α → Bool) (xs : List α) :
    (xs.dropWhile p).length ≤ xs.length :=
  (List.dropWhile_sublist (l := xs) p).length_le

/-- What is left behind leading blanks does not start with a blank. -/
theorem isBlank_of_dropWhile {line rest : List Char} {c : Char}
    (h : line.dropWhile Text.isBlank = c :: rest) : Text.isBlank c = false := by
  have hhead := List.head?_dropWhile_not Text.isBlank line
  rwa [h] at hhead

theorem behindWord_length {line : List Char} (h : line.dropWhile Text.isBlank ≠ []) :
    (behindWord line).length < line.length := by
  obtain ⟨c, rest, hfront⟩ := List.exists_cons_of_ne_nil h
  have hc : Text.isBlank c = false := isBlank_of_dropWhile hfront
  have hblanks := length_dropWhile_le Text.isBlank line
  have hword := length_dropWhile_le (fun c => !Text.isBlank c) rest
  have hbehind := length_dropWhile_le Text.isBlank (rest.dropWhile fun c => !Text.isBlank c)
  rw [hfront, List.length_cons] at hblanks
  rw [behindWord, hfront, List.dropWhile_cons_of_pos (by simp [hc])]
  omega

/-- The words of a line, each with the blanks behind it, the first one also with those before it.
A line of blanks has none. -/
def wordsFrom (line : List Char) : List (List Char) :=
  if _h : line.dropWhile Text.isBlank = [] then []
  else line.take (line.length - (behindWord line).length) :: wordsFrom (behindWord line)
termination_by line.length
decreasing_by exact behindWord_length _h

/-- Fills words into lines of some width, `line` being begun.  A word goes to the next line where
it does not fit, the blanks behind it not counted. -/
def fill (width : Nat) (line : List Char) : List (List Char) → List (List Char)
  | [] => [line]
  | word :: rest =>
    if lineWidth line + lineWidth (Text.trimEnd word) ≤ width then fill width (line ++ word) rest
    else line :: fill width word rest

/-- A line broken into lines of some width; words that are too wide stay whole. -/
def breakLine (width : Nat) (line : List Char) : List (List Char) :=
  match wordsFrom line with
  | [] => [line]
  | word :: rest => fill width word rest

theorem behindWord_suffix (line : List Char) : behindWord line <:+ line :=
  ((List.dropWhile_suffix _).trans (List.dropWhile_suffix _)).trans (List.dropWhile_suffix _)

theorem take_append_behindWord (line : List Char) :
    line.take (line.length - (behindWord line).length) ++ behindWord line = line := by
  obtain ⟨front, h⟩ := behindWord_suffix line
  have hlength := congrArg List.length h
  rw [List.length_append] at hlength
  have hfront : line.length - (behindWord line).length = front.length := by omega
  have htake : line.take front.length = front := by
    rw [← h, List.take_left]
  rw [hfront, htake, h]

/-- The blanks behind a word are taken with it, so that a line without words is left only at the
very end. -/
theorem behindWord_eq_nil {line : List Char} (h : wordsFrom (behindWord line) = []) :
    behindWord line = [] := by
  rw [wordsFrom] at h
  split at h
  · rename_i hblank
    cases hrest : behindWord line with
    | nil => rfl
    | cons c rest =>
      have hc : Text.isBlank c = false := isBlank_of_dropWhile hrest
      rw [hrest, List.dropWhile_cons_of_neg (by simp [hc])] at hblank
      exact hblank
  · exact absurd h (List.cons_ne_nil _ _)

theorem flatten_wordsFrom {line : List Char} (h : wordsFrom line ≠ []) :
    (wordsFrom line).flatten = line := by
  induction line using wordsFrom.induct with
  | case1 line hblank => exact absurd (by rw [wordsFrom, dif_pos hblank]) h
  | case2 line hblank ih =>
    rw [wordsFrom, dif_neg hblank, List.flatten_cons]
    by_cases hlast : wordsFrom (behindWord line) = []
    · have hend : behindWord line = [] := behindWord_eq_nil hlast
      rw [hlast, List.flatten_nil, hend, List.append_nil, List.length_nil, Nat.sub_zero,
        List.take_length]
    · rw [ih hlast, take_append_behindWord]

theorem flatten_fill (width : Nat) (line : List Char) (words : List (List Char)) :
    (fill width line words).flatten = line ++ words.flatten := by
  induction words generalizing line with
  | nil => simp [fill]
  | cons word rest ih =>
    rw [fill]
    split
    · rw [ih, List.flatten_cons, List.append_assoc]
    · rw [List.flatten_cons, ih, List.flatten_cons]

/-- Nothing is lost where a line is broken. -/
theorem flatten_breakLine (width : Nat) (line : List Char) :
    (breakLine width line).flatten = line := by
  unfold breakLine
  split
  · simp
  · rename_i word rest h
    rw [flatten_fill, ← List.flatten_cons, ← h]
    exact flatten_wordsFrom (by rw [h]; simp)

/-! ## Widths -/

/-- Looks for the front part of a line that takes `width` columns between two places, halving the
distance; where a wide character lies across the end, a blank takes its place. -/
def search (line : List Char) (width : Nat) : Nat → Nat → Nat → List Char
  | 0, _, _ => line
  | fuel + 1, low, high =>
    let middle := (low + high) / 2
    let front := line.take (middle + 1)
    let taken := lineWidth front
    if taken = width + 1 ∧ (front.getLast?.elim 0 Text.cells) = 2 then front.dropLast ++ [' ']
    else if taken = width then front
    else if width < taken then search line width fuel low middle
    else search line width fuel middle high

/-- A line that takes more than `width` columns, cut to that width. -/
def cut (width : Nat) (line : List Char) : List Char :=
  if width = 0 then [] else search line width (line.length + 1) 0 line.length

/-- A line with blanks up to some width. -/
def padded (width : Nat) (line : List Char) : List Char :=
  line ++ List.replicate (width - lineWidth line) ' '

/-- A line brought to some width: with blanks, or cut, with an ellipsis in last place. -/
def fit (width : Nat) (line : List Char) : List Char :=
  if width < lineWidth line then cut (width - 1) line ++ ['…'] else padded width line

/-- A text as lines of some width; a column without width shows nothing. -/
def wrapped (width : Nat) (text : List Char) : List (List Char) :=
  if width = 0 then [[]]
  else
    (Text.splitChars '\n' text).flatMap fun line =>
      (breakLine width (expandTabs 0 line)).map fun line => fit width (trimLine width line)

end Console
end AssetPublish
