/-!
# Wildcard patterns

In a pattern `*` stands for any characters, `?` for one, and `[…]` for one of a set; every other
character stands for itself, the backslash too.  A set lists characters and ranges, and is turned
into its complement by a leading `!`.  A bracket that is never closed stands for itself.

A pattern is read once, into tokens, and the tokens are matched.  Every text is a pattern: what
looks like a mistake, such as a bracket without an end or a range in the wrong order, has a meaning
and is not refused.  Slashes are characters like any other, so that a star can match across them.

The obvious matcher tries all ways to divide the text among the stars, and there can be
exponentially many.  The one here goes through the pattern once and keeps the list of all ends of
the text that can be left.  These ends are nested, and so there are never more of them than the text
has characters, and one.

## What is here

* `CharRange`, `CharSet`, `Token` — the parts of a pattern.
* `SetItem`, `setItems`, `CharSet.ofChars` — reading the inside of a set.
* `tokens` — reading a pattern.
* `Matches` — that a text has the form of a pattern.
* `matchTokens` — the test for it, in a number of steps that grows with the product of both
  lengths; `matchTokens_iff` says that it is right.
* `wildcardMatch pattern text` — both together.
-/

set_option autoImplicit false

namespace AssetPublish
namespace Wildcard

/-- The characters from `first` to `last`; none if they come in the wrong order. -/
structure CharRange where
  first : Char
  last : Char
deriving DecidableEq, Repr

/-- A single character as a range. -/
def CharRange.single (c : Char) : CharRange := ⟨c, c⟩

/-- Whether `c` lies in the range. -/
def CharRange.holds (r : CharRange) (c : Char) : Bool := r.first ≤ c && c ≤ r.last

/-- The characters in some of the ranges, or if `negated` those in none of them. -/
structure CharSet where
  negated : Bool
  ranges : List CharRange
deriving DecidableEq, Repr

/-- Whether `c` belongs to the set. -/
def CharSet.holds (s : CharSet) (c : Char) : Bool := s.ranges.any (·.holds c) != s.negated

/-- The set of all characters. -/
def CharSet.all : CharSet := ⟨true, []⟩

/-- The set of one character. -/
def CharSet.only (c : Char) : CharSet := ⟨false, [CharRange.single c]⟩

/-- A part of a pattern: any characters, or one character of a set. -/
inductive Token
  | star
  | one (set : CharSet)
deriving DecidableEq, Repr

/-! ## Reading a pattern

The reading of sets is the delicate part, since a bracket, a hyphen or an exclamation mark may stand
for itself, depending on where it is. -/

/-- An item between the brackets of a set: one character, or a range with its hyphen. -/
inductive SetItem
  | single (c : Char)
  | range (first last : Char)
deriving DecidableEq, Repr

namespace SetItem

/-- Whether the item is no range in the wrong order. -/
def isOrdered : SetItem → Bool
  | single _ => true
  | range first last => first ≤ last

/-- The characters that the item stands for. -/
def chars : SetItem → CharRange
  | single c => CharRange.single c
  | range first last => ⟨first, last⟩

end SetItem

/-- The items between the brackets of a set.  A hyphen with a character on both sides makes a
range, unless it already ends or follows one. -/
def setItems : List Char → List SetItem
  | a :: '-' :: b :: rest => .range a b :: setItems rest
  | a :: rest => .single a :: setItems rest
  | [] => []

/-- The set between two brackets.  Ranges in the wrong order are dropped first; what is in front
then decides about the complement.  A range that starts with the sign of the complement thereby
loses its start, and its hyphen and its end stand for themselves. -/
def CharSet.ofChars (cs : List Char) : CharSet :=
  let ordered := fun items : List SetItem => items.filter SetItem.isOrdered
  match cs with
  | '!' :: rest => ⟨true, (ordered (setItems rest)).map SetItem.chars⟩
  | cs =>
    match ordered (setItems cs) with
    | .single '!' :: rest => ⟨true, rest.map SetItem.chars⟩
    | .range '!' last :: rest =>
      ⟨true, CharRange.single '-' :: CharRange.single last :: rest.map SetItem.chars⟩
    | items => ⟨false, items.map SetItem.chars⟩

/-- The characters up to the next closing bracket, and the rest behind it. -/
def upToBracket : List Char → Option (List Char × List Char)
  | [] => none
  | ']' :: rest => some ([], rest)
  | c :: rest => (upToBracket rest).map fun (body, rest) => (c :: body, rest)

/-- The inside of a set that starts at the front, and the rest behind its closing bracket.  A
closing bracket in first place, or right behind a leading `!`, belongs to the inside. -/
def setAhead? : List Char → Option (List Char × List Char)
  | '!' :: ']' :: rest =>
    (upToBracket rest).map fun (body, rest) => ('!' :: ']' :: body, rest)
  | ']' :: rest => (upToBracket rest).map fun (body, rest) => (']' :: body, rest)
  | cs => upToBracket cs

theorem upToBracket_length {cs body rest : List Char} (h : upToBracket cs = some (body, rest)) :
    rest.length < cs.length := by
  induction cs generalizing body with
  | nil => simp [upToBracket] at h
  | cons c cs ih =>
    by_cases hc : c = ']'
    · subst hc
      simp only [upToBracket, Option.some.injEq, Prod.mk.injEq] at h
      simp [← h.2]
    · rw [upToBracket.eq_3 c cs (by simpa using hc)] at h
      obtain ⟨⟨body', rest'⟩, hb, he⟩ := Option.map_eq_some_iff.1 h
      simp only [Prod.mk.injEq] at he
      have hrest := ih (he.2 ▸ hb)
      simp only [List.length_cons]
      omega

theorem setAhead?_length {cs body rest : List Char} (h : setAhead? cs = some (body, rest)) :
    rest.length < cs.length := by
  unfold setAhead? at h
  split at h
  · obtain ⟨⟨body', rest'⟩, hb, he⟩ := Option.map_eq_some_iff.1 h
    simp only [Prod.mk.injEq] at he
    have hrest := upToBracket_length (he.2 ▸ hb)
    simp only [List.length_cons]
    omega
  · obtain ⟨⟨body', rest'⟩, hb, he⟩ := Option.map_eq_some_iff.1 h
    simp only [Prod.mk.injEq] at he
    have hrest := upToBracket_length (he.2 ▸ hb)
    simp only [List.length_cons]
    omega
  · exact upToBracket_length h

/-- The parts of a pattern. -/
def tokens (cs : List Char) : List Token :=
  match cs with
  | [] => []
  | '*' :: rest => .star :: tokens rest
  | '?' :: rest => .one .all :: tokens rest
  | '[' :: rest =>
    match _h : setAhead? rest with
    | some (body, after) => .one (.ofChars body) :: tokens after
    | none => .one (.only '[') :: tokens rest
  | c :: rest => .one (.only c) :: tokens rest
termination_by cs.length
decreasing_by
  all_goals simp only [List.length_cons]
  all_goals first
    | omega
    | exact Nat.lt_succ_of_lt (setAhead?_length _h)

/-! ## Matching -/

/-- The ends of a list, the whole list first. -/
def suffixes {α : Type} : List α → List (List α)
  | [] => [[]]
  | a :: rest => (a :: rest) :: suffixes rest

/-- Whether a text has the form that the parts of a pattern describe: a star takes any number of
characters, and every other part takes one.  This says what a match is and not how to find one;
statements about rules are in terms of it. -/
def Matches : List Token → List Char → Prop
  | [], text => text = []
  | .star :: rest, text => ∃ tail, tail <:+ text ∧ Matches rest tail
  | .one set :: rest, text => ∃ c tail, text = c :: tail ∧ set.holds c = true ∧ Matches rest tail

/-- What can be left of the text behind a part, from what can be left before it.  Both lists are
kept with the longest first, so a star leaves every end of the first.  The order is an invariant,
`advance_nested`, and not only a matter of efficiency: it is the reason why the longest end is all
that a star has to look at. -/
def advance (ends : List (List Char)) : Token → List (List Char)
  | .star =>
    match ends with
    | [] => []
    | longest :: _ => suffixes longest
  | .one set => ends.filterMap fun
    | [] => none
    | c :: tail => if set.holds c then some tail else none

/-- Whether nothing can be left of the text behind all parts. -/
def matchTokens (parts : List Token) (text : List Char) : Bool :=
  (parts.foldl advance [text]).contains []

/-! ## Both notions agree

Each part takes the same away on both sides: an end is left behind it just if the rest of the
pattern can begin there. -/

theorem mem_suffixes_iff {α : Type} {tail list : List α} :
    tail ∈ suffixes list ↔ tail <:+ list := by
  induction list with
  | nil => simp [suffixes]
  | cons a rest ih => rw [suffixes, List.mem_cons, ih, List.suffix_cons_iff]

theorem suffixes_nested {α : Type} (list : List α) :
    (suffixes list).Pairwise fun a b => b <:+ a := by
  induction list with
  | nil => simp [suffixes]
  | cons a rest ih =>
    refine List.pairwise_cons.2 ⟨fun tail htail => ?_, ih⟩
    exact (mem_suffixes_iff.1 htail).trans (List.suffix_cons a rest)

theorem advance_nested {ends : List (List Char)} (h : ends.Pairwise fun a b => b <:+ a)
    (part : Token) : (advance ends part).Pairwise fun a b => b <:+ a := by
  cases part with
  | star =>
    cases ends with
    | nil => exact List.Pairwise.nil
    | cons longest _ => exact suffixes_nested longest
  | one set =>
    refine h.filterMap _ fun a b hab x hx y hy => ?_
    cases a with
    | nil => simp at hx
    | cons c s =>
      cases b with
      | nil => simp at hy
      | cons d t =>
        simp only [Option.ite_none_right_eq_some, Option.some.injEq] at hx hy
        rw [← hx.2, ← hy.2]
        rcases List.suffix_cons_iff.1 hab with heq | hsuffix
        · exact (List.cons.inj heq).2 ▸ List.suffix_rfl
        · exact (List.suffix_cons d t).trans hsuffix

theorem exists_matches_cons_iff {ends : List (List Char)} (h : ends.Pairwise fun a b => b <:+ a)
    (part : Token) (rest : List Token) :
    (∃ text ∈ ends, Matches (part :: rest) text) ↔ ∃ text ∈ advance ends part,
      Matches rest text := by
  cases part with
  | star =>
    cases ends with
    | nil => simp [advance]
    | cons longest others =>
      simp only [advance, mem_suffixes_iff, Matches]
      constructor
      · rintro ⟨text, htext, tail, htail, hmatch⟩
        refine ⟨tail, ?_, hmatch⟩
        rcases List.mem_cons.1 htext with rfl | htext
        · exact htail
        · exact htail.trans ((List.pairwise_cons.1 h).1 text htext)
      · rintro ⟨tail, htail, hmatch⟩
        exact ⟨longest, List.mem_cons_self, tail, htail, hmatch⟩
  | one set =>
    simp only [advance, Matches, List.mem_filterMap]
    constructor
    · rintro ⟨text, htext, c, tail, rfl, hc, hmatch⟩
      exact ⟨tail, ⟨c :: tail, htext, by simp [hc]⟩, hmatch⟩
    · rintro ⟨tail, ⟨text, htext, htail⟩, hmatch⟩
      cases text with
      | nil => simp at htail
      | cons c text =>
        simp only [Option.ite_none_right_eq_some, Option.some.injEq] at htail
        exact ⟨c :: text, htext, c, tail, by rw [htail.2], htail.1, hmatch⟩

theorem contains_foldl_advance_iff (parts : List Token) {ends : List (List Char)}
    (h : ends.Pairwise fun a b => b <:+ a) :
    (parts.foldl advance ends).contains [] = true ↔ ∃ text ∈ ends, Matches parts text := by
  induction parts generalizing ends with
  | nil => simp [Matches]
  | cons part rest ih =>
    rw [List.foldl_cons, ih (advance_nested h part), exists_matches_cons_iff h]

/-- **The matcher decides whether a text has the form of a pattern.**  By induction on the parts,
for any nested list of ends. -/
theorem matchTokens_iff {parts : List Token} {text : List Char} :
    matchTokens parts text = true ↔ Matches parts text := by
  rw [matchTokens, contains_foldl_advance_iff parts (List.pairwise_singleton _ _)]
  simp

end Wildcard

/-- Whether `text` as a whole has the form of `pattern`. -/
def wildcardMatch (pattern text : String) : Bool :=
  Wildcard.matchTokens (Wildcard.tokens pattern.toList) text.toList

end AssetPublish
