import AssetPublish.Proofs.RuleDescent
import Mathlib.Logic.ExistsUnique

/-!
# Rules and the spelling of a path

A relative path can be spelled with repeated slashes, with dots, and with a slash at its end.  A
rule sees none of this: it is asked about the components that name something, and about the text
that they make with single slashes between them.  It sees all of these components, however: two
paths that differ in them are told apart by some rule.

The first half is stated against a description of the pieces of a text that does not cut it: pieces
without a slash, which make the text when slashes are put between them.  The second half needs, for
any two lists of components, a rule that tells them apart.  A pattern with a slash in front is held
against the whole path, so a pattern that only one text matches is such a rule, and every text has
one: each of its wildcard characters is put into a set of its own.

## What is here

* `BetweenSlashes` — the pieces of a text that stand between its slashes; `betweenSlashes_iff` says
  that there is one list of them.
* `segments_of_betweenSlashes` — the components are the pieces that are neither empty nor a dot.
* `Wildcard.literal`, `wildcardMatch_literalText` — a pattern for one text alone, whatever it holds.
* `matches?_onlyAt` — a rule for one path alone.
* `rules_see_segments` — the main statement.
-/

set_option autoImplicit false

namespace AssetPublish

/-! ## The pieces of a spelling -/

/-- `parts` are the pieces of a text between its slashes: they hold no slash, and with slashes
between them they are the text. -/
structure BetweenSlashes (text : String) (parts : List String) : Prop where
  ne_nil : parts ≠ []
  slash_not_mem : ∀ part ∈ parts, '/' ∉ part.toList
  intercalate : "/".intercalate parts = text

theorem Text.joined_eq_intercalate (parts : List String) :
    Text.joined '/' parts = "/".intercalate parts := by
  rw [← String.toList_inj, String.toList_intercalate, Text.joined, String.toList_ofList]
  induction parts with
  | nil => rfl
  | cons first rest ih =>
    cases rest with
    | nil => simp [Text.joinChars]
    | cons second rest =>
      rw [List.map_cons] at ih
      rw [List.map_cons, List.map_cons, Text.joinChars, ih, List.intercalate_cons_cons,
        List.append_assoc]
      rfl

/-- A text has exactly one list of pieces. -/
theorem betweenSlashes_iff {text : String} {parts : List String} :
    BetweenSlashes text parts ↔ parts = Text.fields '/' text := by
  constructor
  · rintro ⟨hne, hslash, rfl⟩
    rw [← Text.joined_eq_intercalate, Text.fields_joined hne hslash]
  · rintro rfl
    refine ⟨by simp [Text.fields, Text.splitChars_ne_nil], fun part hpart => ?_, ?_⟩
    · obtain ⟨field, hfield, rfl⟩ := List.mem_map.1 hpart
      rw [String.toList_ofList]
      exact Text.not_mem_of_mem_splitChars hfield
    · rw [← Text.joined_eq_intercalate, Text.joined, Text.fields, List.map_map]
      simp [Function.comp_def, Text.joinChars_splitChars]

/-- The pieces that name something: without a slash in them, only two kinds do not. -/
theorem names_eq_filter {parts : List String} (h : ∀ part ∈ parts, '/' ∉ part.toList) :
    Path.names parts = parts.filter fun part => part ≠ "" ∧ part ≠ "." := by
  refine List.filter_congr fun part hpart => ?_
  have hslash := h part hpart
  simp [IsName, hslash]

theorem segments_of_head? {path : String} (h : path.toList.head? ≠ some '/') :
    segments path = Path.names (Text.fields '/' path) := by
  have hanchor : (Path.ofText path).anchor = .relative := Anchor.ofChars_of_head? h
  rw [segments]
  simp only [hanchor, Path.ofText_parts]

/-- **The components of a relative spelling** are the pieces that are neither empty nor a dot. -/
theorem segments_of_betweenSlashes {path : String} {parts : List String}
    (h : path.toList.head? ≠ some '/') (hparts : BetweenSlashes path parts) :
    segments path = parts.filter fun part => part ≠ "" ∧ part ≠ "." := by
  rw [segments_of_head? h, ← betweenSlashes_iff.1 hparts, names_eq_filter hparts.slash_not_mem]

theorem isName_of_mem_segments {path name : String} (h : path.toList.head? ≠ some '/')
    (hname : name ∈ segments path) : IsName name := by
  rw [segments_of_head? h] at hname
  exact Path.isName_of_mem_names hname

/-- The components, joined and cut again, are the same. -/
theorem segments_joined_segments {path : String} (h : path.toList.head? ≠ some '/') :
    segments (Text.joined '/' (segments path)) = segments path :=
  segments_joined fun _ hname => isName_of_mem_segments h hname

/-! ## A pattern for one text -/

namespace Wildcard

open Exclusion (patternMarks)

/-- One character as a pattern: a mark stands in a set of its own. -/
def literalChar (c : Char) : List Char := if c ∈ patternMarks then ['[', c, ']'] else [c]

/-- A text as a pattern that only it matches. -/
def literal (chars : List Char) : List Char := chars.flatMap literalChar

/-- A character that is written literally is read as itself. -/
theorem tokens_literalChar (c : Char) (rest : List Char) :
    tokens (literalChar c ++ rest) = .one (.only c) :: tokens rest := by
  rw [literalChar]
  split
  · rename_i hmark
    have hahead : setAhead? (c :: ']' :: rest) = some ([c], rest) ∧
        CharSet.ofChars [c] = .only c := by
      simp only [patternMarks, List.mem_cons, List.not_mem_nil, or_false] at hmark
      rcases hmark with rfl | rfl | rfl | rfl <;> exact ⟨rfl, rfl⟩
    rw [List.cons_append, List.cons_append, List.cons_append, List.nil_append, tokens]
    split
    · rename_i body after heq
      rw [hahead.1, Option.some.injEq, Prod.mk.injEq] at heq
      rw [← heq.1, ← heq.2, hahead.2]
    · rename_i heq
      rw [hahead.1] at heq
      exact absurd heq (by simp)
  · rename_i hmark
    simp only [patternMarks, List.mem_cons, List.not_mem_nil, or_false, not_or] at hmark
    rw [List.singleton_append, tokens.eq_5 c rest hmark.1 hmark.2.1 hmark.2.2.1]

theorem tokens_literal_eq (chars : List Char) :
    tokens (literal chars) = chars.map fun c => .one (.only c) := by
  induction chars with
  | nil => rw [literal, List.flatMap_nil, tokens, List.map_nil]
  | cons c rest ih =>
    rw [literal, List.flatMap_cons, tokens_literalChar, List.map_cons, ← ih, literal]

theorem head?_literal (chars : List Char) : (literal chars).head? ≠ some '/' := by
  cases chars with
  | nil => simp [literal]
  | cons c rest =>
    rw [literal, List.flatMap_cons, literalChar]
    split
    · simp
    · rename_i hmark
      simp only [patternMarks, List.mem_cons, List.not_mem_nil, or_false, not_or] at hmark
      simpa using hmark.2.2.2

theorem getLast?_literal (chars : List Char) : (literal chars).getLast? ≠ some '/' := by
  rcases List.eq_nil_or_concat chars with rfl | ⟨front, c, rfl⟩
  · simp [literal]
  · rw [literal, List.concat_eq_append, List.flatMap_append, List.flatMap_singleton, literalChar]
    split
    · simp
    · rename_i hmark
      simp only [patternMarks, List.mem_cons, List.not_mem_nil, or_false, not_or] at hmark
      simpa using hmark.2.2.2

end Wildcard

/-- A text as a pattern is matched by this text alone. -/
theorem wildcardMatch_literalText (text other : String) :
    wildcardMatch (String.ofList (Wildcard.literal text.toList)) other = decide (other = text) := by
  rw [wildcardMatch, String.toList_ofList, Wildcard.tokens_literal_eq, Bool.eq_iff_iff,
    Wildcard.matchTokens_iff, Wildcard.matches_map_only, decide_eq_true_eq, String.toList_inj]

theorem Text.dropWhile_of_head? {sep : Char} {cs : List Char} (h : cs.head? ≠ some sep) :
    cs.dropWhile (· == sep) = cs := by
  cases cs with
  | nil => rfl
  | cons c rest =>
    have hc : c ≠ sep := by simpa using h
    simp [hc]

/-- Only the separator in front is taken from a text that does not have it at its ends. -/
theorem Text.stripChars_cons {sep : Char} {cs : List Char} (hhead : cs.head? ≠ some sep)
    (hlast : cs.getLast? ≠ some sep) : Text.stripChars sep (sep :: cs) = cs := by
  have hreverse : cs.reverse.head? ≠ some sep := by rwa [List.head?_reverse]
  rw [Text.stripChars, List.dropWhile_cons_of_pos (by simp), Text.dropWhile_of_head? hhead,
    Text.dropWhile_of_head? hreverse, List.reverse_reverse]

namespace Exclusion

/-- The rule for one path: a pattern that starts with a slash is held against the whole path. -/
def onlyAt (path : String) : Exclusion :=
  ofPatterns [String.ofList ('/' :: Wildcard.literal path.toList)]

theorem matches?_onlyAt (path other : String) :
    (onlyAt path).matches? other = .ok (decide (Text.joined '/' (segments other) = path)) := by
  have hstrip : Text.strip '/' (String.ofList ('/' :: Wildcard.literal path.toList))
      = String.ofList (Wildcard.literal path.toList) := by
    rw [Text.strip, String.toList_ofList, Text.stripChars_cons (Wildcard.head?_literal _)
      (Wildcard.getLast?_literal _)]
  have happlies : patternApplies (segments other)
      (String.ofList ('/' :: Wildcard.literal path.toList))
        = decide (Text.joined '/' (segments other) = path) := by
    rw [patternApplies, if_pos (by simp), hstrip, wildcardMatch_literalText]
  rw [matches?, onlyAt, ofPatterns, applies?_patterns, List.any_cons, List.any_nil, Bool.or_false,
    happlies]

/-- **Rules see the components of a path and nothing else of its spelling.**  The components of a
relative spelling are the pieces between its slashes that are neither empty nor a dot, in order;
joined with slashes and cut again they stay the same.  Two spellings have the same components
exactly if every rule gives the same answer for both, be it made from names, from patterns with or
without slashes, or a union of other rules. -/
theorem rules_see_segments :
    (∀ path : String, path.toList.head? ≠ some '/' →
      (∃! parts, BetweenSlashes path parts) ∧
      (∀ parts, BetweenSlashes path parts →
        segments path = parts.filter fun part => part ≠ "" ∧ part ≠ ".") ∧
      segments ("/".intercalate (segments path)) = segments path) ∧
    ∀ path other : String, path.toList.head? ≠ some '/' → other.toList.head? ≠ some '/' →
      (segments path = segments other ↔
        ∀ rule : Exclusion, rule.matches? path = rule.matches? other) := by
  refine ⟨fun path hpath => ⟨⟨Text.fields '/' path, betweenSlashes_iff.2 rfl, fun parts hparts =>
    betweenSlashes_iff.1 hparts⟩, fun parts hparts => segments_of_betweenSlashes hpath hparts, ?_⟩,
    fun path other hpath hother => ⟨fun hsame rule => ?_, fun hrules => ?_⟩⟩
  · rw [← Text.joined_eq_intercalate, segments_joined_segments hpath]
  · rw [matches?, matches?, hsame]
  · -- The rule for the joined components of one path tells it apart from all others.
    have honly := hrules (onlyAt (Text.joined '/' (segments path)))
    rw [matches?_onlyAt, matches?_onlyAt, Except.ok.injEq, decide_eq_true rfl, eq_comm,
      decide_eq_true_eq] at honly
    rw [← segments_joined_segments hpath, ← honly, segments_joined_segments hother]

theorem rules_see_segments_dotted :
    "./a//b".toList.head? ≠ some '/' ∧ "a/b/".toList.head? ≠ some '/' ∧
      BetweenSlashes "./a//b" [".", "a", "", "b"] ∧ segments "./a//b" = ["a", "b"] ∧
      ∀ rule : Exclusion, rule.matches? "./a//b" = rule.matches? "a/b/" := by
  have hpath : "./a//b".toList.head? ≠ some '/' := by decide
  have hother : "a/b/".toList.head? ≠ some '/' := by decide
  have hparts : BetweenSlashes "./a//b" [".", "a", "", "b"] := betweenSlashes_iff.2 (by decide)
  obtain ⟨hsegments, hrules⟩ := rules_see_segments
  refine ⟨hpath, hother, hparts, ?_, (hrules _ _ hpath hother).1 (by decide)⟩
  rw [(hsegments _ hpath).2.1 _ hparts]
  decide

end Exclusion
end AssetPublish
