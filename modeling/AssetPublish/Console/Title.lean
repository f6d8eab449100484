import AssetPublish.Console.Markup
import AssetPublish.Console.Wrap

/-!
# Titles of tables

The lines of a title are centred over the table.  A line that is wider than the table begins with
it, but its stretches move to the left by half of what it is too wide.  Stretches that come to lie
before the start of the title are counted from its end, and what they enclose there is printed in
front of it once more.

## What is here

* `stretchesWithin`, `cutStyled`, `joinStyled` — a styled text in parts, and parts as one;
  `text_joinStyled` says what they join to.
* `Styled.lines`, `Styled.tabsFilled`, `Styled.trimmed`, `Styled.centred` — the steps.
* `Styled.overhang` — what is printed once more; `overhang_eq_nil`: nothing if no stretch lies
  before the start.
* `titleText` — what is printed for a title.
-/

set_option autoImplicit false

namespace AssetPublish
namespace Console

/-! ## Parts of styled texts -/

/-- What lies of some stretches in the `length` characters behind a place, counted from there. -/
def stretchesWithin (place length : Nat) (stretches : List Stretch) : List Stretch :=
  stretches.filterMap fun stretch =>
    let start : Int := max 0 (stretch.start - place)
    let stop : Int := min (stretch.stop - place) length
    if start < stop then some ⟨start, stop⟩ else none

/-- Parts of a text with what lies of its stretches in them.  The first part starts at a place, and
between two parts some characters are left out. -/
def cutStyled (gap : Nat) (stretches : List Stretch) (place : Nat) :
    List (List Char) → List Styled
  | [] => []
  | part :: rest =>
    ⟨part, stretchesWithin place part.length stretches⟩ ::
      cutStyled gap stretches (place + part.length + gap) rest

/-- Styled texts one behind the other, with some characters between them. -/
def joinStyled (between : List Char) : List Styled → Styled
  | [] => ⟨[], []⟩
  | [last] => last
  | first :: next :: rest =>
    let behind := joinStyled between (next :: rest)
    let front := first.text ++ between
    ⟨front ++ behind.text, first.stretches ++ behind.stretches.map (·.shift front.length)⟩

theorem text_joinStyled (between : List Char) (parts : List Styled) :
    (joinStyled between parts).text = between.intercalate (parts.map Styled.text) := by
  fun_induction joinStyled between parts with
  | case1 => rfl
  | case2 last => simp [List.intercalate]
  | case3 first next rest behind front ih =>
    simp only [front, behind, ih, List.map_cons]
    simp [List.intercalate]

namespace Styled

/-- The lines of a styled text.  Only where it is cut are stretches without a character lost. -/
def lines (styled : Styled) : List Styled :=
  match Text.splitChars '\n' styled.text with
  | [_] => [styled]
  | parts => cutStyled 1 styled.stretches 0 parts

/-! ## Tabs -/

/-- A line cut behind each of its tabs. -/
def tabParts : List Char → List (List Char)
  | [] => []
  | c :: rest =>
    if c = '\t' then [c] :: tabParts rest
    else
      match tabParts rest with
      | [] => [[c]]
      | part :: others => (c :: part) :: others

/-- Parts with their tabs filled up to the next stop, `column` columns being taken before the first.
A stretch up to the end of a part still reaches it, and each part is a stretch of its own. -/
def filledParts (column : Nat) : List Styled → List Styled
  | [] => []
  | part :: rest =>
    let text := expandTabs column part.text
    let reach := fun stretch : Stretch =>
      if stretch.stop = part.text.length then { stretch with stop := text.length } else stretch
    ⟨text, ⟨0, text.length⟩ :: part.stretches.map reach⟩ ::
      filledParts (column + lineWidth text) rest

/-- A line with its tabs filled up. -/
def tabsFilled (line : Styled) : Styled :=
  if line.text.contains '\t' then
    joinStyled [] (filledParts 0 (cutStyled 0 line.stretches 0 (tabParts line.text)))
  else line

/-! ## Centring -/

/-- A line without the blanks at its end. -/
def trimmed (line : Styled) : Styled :=
  let text := Text.trimEnd line.text
  if text.length = line.text.length then line
  else
    let stop : Int := text.length
    ⟨text, (line.stretches.filter fun stretch => decide (stretch.start < stop)).map fun stretch =>
      { stretch with stop := min stretch.stop stop }⟩

/-- A line in the middle of some columns; an odd blank goes to the right. -/
def centred (width : Nat) (line : Styled) : Styled :=
  let count : Int := ((width : Int) - lineWidth line.text) / 2
  ⟨padded width (List.replicate count.toNat ' ' ++ line.text),
    line.stretches.map (·.shift count)⟩

/-! ## What is printed -/

/-- The places before the start of a text where its stretches begin and end. -/
def placesBefore (styled : Styled) : List Int :=
  (styled.stretches.flatMap fun stretch => [stretch.start, stretch.stop]).filter (· < 0)

/-- The part of a text between the first and the last place before its start, these being counted
from its end. -/
def overhang (styled : Styled) : List Char :=
  match styled.placesBefore.min?, styled.placesBefore.max? with
  | some first, some last =>
    let place := fun before : Int => (styled.text.length + before).toNat
    (styled.text.take (place last)).drop (place first)
  | _, _ => []

/-- Nothing is printed once more if no stretch lies before the start of a text. -/
theorem overhang_eq_nil {styled : Styled}
    (h : ∀ stretch ∈ styled.stretches, 0 ≤ stretch.start ∧ 0 ≤ stretch.stop) :
    styled.overhang = [] := by
  have hnone : styled.placesBefore = [] := by
    unfold placesBefore
    rw [List.filter_eq_nil_iff]
    intro place hplace
    rw [List.mem_flatMap] at hplace
    obtain ⟨stretch, hmem, hplace⟩ := hplace
    have hinside := h stretch hmem
    simp only [List.mem_cons, List.not_mem_nil, or_false] at hplace
    simp only [decide_eq_true_eq]
    omega
  unfold overhang
  rw [hnone]
  rfl

end Styled

/-- What is printed for a title over a table of some width, without the end of its last line. -/
def titleText (width : Nat) (title : Styled) : List Char :=
  let laid := joinStyled ['\n']
    (title.lines.map fun line => (line.tabsFilled.trimmed).centred width)
  laid.overhang ++ laid.text

end Console
end AssetPublish
