import AssetPublish.Exclusion.Build
import AssetPublish.Proofs.Procedure

/-!
# Rules made from items

A setting may list names and patterns in any order.  The rule that is made from it keeps the names
apart from the patterns, and there are special cases for lists that hold only one of the two kinds,
or nothing.  None of this shows: a path is left out exactly if it would be for one of the items
alone.

So the statements compare the rule that is built from a list with the rules that are built from its
items one at a time.  In between stands `itemApplies`, which says for a single text when it applies
to a path, without any building of rules.

## What is here

* `isWild`, `itemApplies` — how an item is read, and when it applies to a path.
* `build?_texts` — a rule made from texts applies where one of the texts does.
* `wildcardMatch_literal` — a pattern without wildcard characters matches itself and nothing else.
* `asked` — the answer of the rule that a setting asks for.
* `asked_union` — the main statement.
-/

set_option autoImplicit false

namespace AssetPublish

/-! ## Patterns that are literal -/

namespace Wildcard

/-- Characters that stand for themselves are matched one by one. -/
theorem matches_map_only (chars text : List Char) :
    Matches (chars.map fun c => .one (.only c)) text ↔ text = chars := by
  induction chars generalizing text with
  | nil => rfl
  | cons c rest ih =>
    simp only [List.map_cons, Matches, ih]
    constructor
    · rintro ⟨d, tail, rfl, hholds, rfl⟩
      have hboth : c ≤ d ∧ d ≤ c := by
        simpa [CharSet.holds, CharSet.only, CharRange.holds, CharRange.single] using hholds
      rw [Char.le_antisymm hboth.2 hboth.1]
    · rintro rfl
      exact ⟨c, rest, rfl,
        by simp [CharSet.holds, CharSet.only, CharRange.holds, CharRange.single], rfl⟩

/-- A pattern is read as it stands if it has no wildcard character. -/
theorem tokens_literal {chars : List Char} (h : ∀ c ∈ chars, c ≠ '*' ∧ c ≠ '?' ∧ c ≠ '[') :
    tokens chars = chars.map fun c => .one (.only c) := by
  induction chars with
  | nil => rw [tokens, List.map_nil]
  | cons c rest ih =>
    obtain ⟨hstar, hany, hset⟩ := h c List.mem_cons_self
    rw [tokens.eq_5 c rest hstar hany hset, List.map_cons,
      ih fun d hd => h d (List.mem_cons_of_mem _ hd)]

end Wildcard

/-- A pattern without wildcard characters matches itself and nothing else. -/
theorem wildcardMatch_literal {pattern : String}
    (h : ∀ c ∈ pattern.toList, c ≠ '*' ∧ c ≠ '?' ∧ c ≠ '[') (text : String) :
    wildcardMatch pattern text = decide (text = pattern) := by
  rw [wildcardMatch, Wildcard.tokens_literal h, Bool.eq_iff_iff, Wildcard.matchTokens_iff,
    Wildcard.matches_map_only, decide_eq_true_eq, String.toList_inj]

namespace Exclusion

/-! ## How items are read -/

/-- Whether a text is read as a pattern.  One of the marks is enough, a slash among them, since a
name cannot hold one. -/
def isWild (text : String) : Bool := patternMarks.any fun mark => text.toList.contains mark

theorem anyMark?_text (text : String) (marks : List Char) :
    anyMark? (.text text) marks = .ok (marks.any fun mark => text.toList.contains mark) := by
  induction marks with
  | nil => rfl
  | cons mark rest ih =>
    rw [anyMark?, contains?, ok_bind, ih, List.any_cons]
    cases text.toList.contains mark <;> rfl

theorem isPattern?_text (text : String) : isPattern? (.text text) = .ok (isWild text) :=
  anyMark?_text text patternMarks

theorem sortItems?_texts (texts : List String) :
    sortItems? (texts.map .text)
      = .ok ((texts.filter fun text => !isWild text).map .text,
          (texts.filter isWild).map .text) := by
  induction texts with
  | nil => rfl
  | cons text rest ih =>
    rw [List.map_cons, sortItems?, isPattern?_text, ih]
    cases hwild : isWild text <;> simp [hwild]

theorem nameTexts?_texts (texts : List String) : nameTexts? (texts.map .text) = .ok texts := by
  induction texts with
  | nil => rfl
  | cons text rest ih =>
    rw [List.map_cons, nameTexts?, ih]
    rfl

/-! ## When they apply -/

/-- Whether a pattern applies to a path with these components. -/
def patternApplies (segments : List String) (pattern : String) : Bool :=
  if pattern.toList.contains '/' then
    wildcardMatch (Text.strip '/' pattern) (Text.joined '/' segments)
  else segments.any (wildcardMatch pattern)

/-- Whether an item of a setting applies to a path with these components. -/
def itemApplies (segments : List String) (text : String) : Bool :=
  if isWild text then patternApplies segments text else segments.contains text

theorem patternMatches?_text (segments : List String) (pattern : String) :
    patternMatches? segments (.text pattern) = .ok (patternApplies segments pattern) := by
  rw [patternMatches?, contains?, patternApplies]
  cases pattern.toList.contains '/' <;> rfl

theorem applies?_patterns (segments patterns : List String) :
    (Exclusion.patterns (patterns.map .text)).applies? segments
      = .ok (patterns.any (patternApplies segments)) := by
  rw [applies?]
  induction patterns with
  | nil => rfl
  | cons pattern rest ih =>
    rw [List.map_cons, anyPattern?, patternMatches?_text, ok_bind, ih, List.any_cons]
    cases patternApplies segments pattern <;> rfl

theorem applies?_ofNames {names : List String} (hne : names ≠ []) (segments : List String) :
    (ofNames names).applies? segments = .ok (names.any segments.contains) := by
  rw [ofNames, applies?, NameSet.ofList, if_neg (by simpa using hne), Except.ok.injEq,
    Bool.eq_iff_iff]
  simp only [List.any_eq_true, List.contains_iff_mem, Text.mem_sorted]
  constructor
  · rintro ⟨name, hsegment, hname⟩
    exact ⟨name, hname, hsegment⟩
  · rintro ⟨name, hname, hsegment⟩
    exact ⟨name, hsegment, hname⟩

/-- The answers of the rules of a union are taken together. -/
theorem anyApplies?_cons {segments : List String} {rule : Exclusion} {rest : List Exclusion}
    {first others : Bool} (hfirst : rule.applies? segments = .ok first)
    (hothers : anyApplies? segments rest = .ok others) :
    anyApplies? segments (rule :: rest) = .ok (first || others) := by
  rw [anyApplies?, hfirst, ok_bind, hothers]
  cases first <;> rfl

/-- The items apart from each other, as names and as patterns. -/
theorem any_itemApplies (segments texts : List String) :
    texts.any (itemApplies segments)
      = ((texts.filter fun text => !isWild text).any segments.contains ||
          (texts.filter isWild).any (patternApplies segments)) := by
  induction texts with
  | nil => rfl
  | cons text rest ih =>
    rw [List.any_cons, ih, itemApplies]
    cases hwild : isWild text with
    | true => simp [hwild, Bool.or_left_comm]
    | false => simp [hwild, Bool.or_assoc]

/-- **A rule made from texts applies where one of the texts does**, be they names, patterns, both
or none. -/
theorem build?_texts (texts : List String) :
    ∃ rule, build? (.list (texts.map .text)) = .ok rule ∧
      ∀ segments, rule.applies? segments = .ok (texts.any (itemApplies segments)) := by
  rw [build?, ofItems?, sortItems?_texts, ok_bind]
  simp only [List.isEmpty_map, List.isEmpty_iff, nameTexts?_texts, ok_bind, pure_eq_ok]
  by_cases hnames : (texts.filter fun text => !isWild text) = []
  · by_cases hpatterns : texts.filter isWild = []
    · refine ⟨union [], by simp only [hnames, hpatterns, if_true]; rfl, fun segments => ?_⟩
      rw [any_itemApplies, hnames, hpatterns, applies?, anyApplies?]
      rfl
    · refine ⟨_, by simp only [hnames, if_neg hpatterns, if_true]; rfl, fun segments => ?_⟩
      rw [any_itemApplies, hnames, applies?_patterns]
      rfl
  · by_cases hpatterns : texts.filter isWild = []
    · refine ⟨_, by simp only [hpatterns, if_neg hnames, if_true]; rfl, fun segments => ?_⟩
      rw [any_itemApplies, hpatterns, applies?_ofNames hnames, List.any_nil, Bool.or_false]
    · refine ⟨_, by simp only [if_neg hnames, if_neg hpatterns]; rfl, fun segments => ?_⟩
      have hpair := anyApplies?_cons (applies?_ofNames hnames segments)
        (anyApplies?_cons (applies?_patterns segments (texts.filter isWild)) (by rw [anyApplies?]))
      rw [Bool.or_false, ← any_itemApplies] at hpair
      rw [applies?]
      exact hpair

/-! ## The answer of a setting -/

/-- The answer of the rule that a setting asks for.  Building the rule and asking it may both fail,
and it does not matter here which of them did. -/
def asked (setting : Value) (path : String) : Except RuleFault Bool := do
  (← build? setting).matches? path

theorem asked_texts (texts : List String) (path : String) :
    asked (.list (texts.map .text)) path = .ok (texts.any (itemApplies (segments path))) := by
  obtain ⟨rule, hbuild, happlies⟩ := build?_texts texts
  rw [asked, hbuild, ok_bind, matches?, happlies]

/-- A text alone is a list of one item. -/
theorem asked_text (text path : String) :
    asked (.text text) path = .ok (itemApplies (segments path) text) := by
  have hlist : asked (.text text) path = asked (.list ([text].map .text)) path := rfl
  rw [hlist, asked_texts, List.any_cons, List.any_nil, Bool.or_false]

/-- A text without marks applies as a name where it would apply as a pattern. -/
theorem itemApplies_of_not_isWild {text : String} (h : isWild text = false)
    (segments : List String) : itemApplies segments text = patternApplies segments text := by
  have hmark : ∀ mark ∈ patternMarks, mark ∉ text.toList := fun mark hmem => by
    simpa using List.any_eq_false.1 h mark hmem
  have hslash : text.toList.contains '/' = false := by
    simpa using hmark '/' (by decide)
  have hliteral : ∀ c ∈ text.toList, c ≠ '*' ∧ c ≠ '?' ∧ c ≠ '[' := by
    refine fun c hc => ⟨?_, ?_, ?_⟩ <;> rintro rfl
    · exact hmark _ (by decide) hc
    · exact hmark _ (by decide) hc
    · exact hmark _ (by decide) hc
  rw [itemApplies, patternApplies, h, hslash, Bool.eq_iff_iff]
  simp [wildcardMatch_literal hliteral]

/-- **A rule made from a list of texts is the union of its items.**  It always has an answer, which
is that a path is left out exactly if it is for one of the items alone.  So neither order nor
repetition matter, and an empty list leaves nothing out, not even what is left out by default.
Moreover a text without any of the marks leaves out the same as a name and as a pattern. -/
theorem asked_union :
    (∀ (items : List String) path, ∃ answer, asked (.list (items.map .text)) path = .ok answer ∧
      (answer = true ↔ ∃ item ∈ items, asked (.text item) path = .ok true)) ∧
    (∀ items others : List String, (∀ item, item ∈ items ↔ item ∈ others) → ∀ path,
      asked (.list (items.map .text)) path = asked (.list (others.map .text)) path) ∧
    (∀ path, asked (.list []) path = .ok false) ∧
    ∀ item : String, (∀ mark ∈ ['*', '?', '[', '/'], mark ∉ item.toList) → ∀ path, ∃ answer,
      asked (.text item) path = .ok answer ∧ (ofPatterns [item]).matches? path = .ok answer := by
  refine ⟨fun items path => ?_, fun items others hsame path => ?_, fun path => ?_,
    fun item hmarks path => ?_⟩
  · refine ⟨_, asked_texts items path, ?_⟩
    simp only [asked_text, Except.ok.injEq, List.any_eq_true]
  · rw [asked_texts, asked_texts, Except.ok.injEq, Bool.eq_iff_iff, List.any_eq_true,
      List.any_eq_true]
    simp only [hsame]
  · exact asked_texts [] path
  · have hplain : isWild item = false :=
      List.any_eq_false.2 fun mark hmark => by simpa using hmarks mark hmark
    refine ⟨_, asked_text item path, ?_⟩
    rw [matches?, ofPatterns, applies?_patterns, itemApplies_of_not_isWild hplain, List.any_cons,
      List.any_nil, Bool.or_false]

theorem asked_union_mixed :
    (∀ item, item ∈ ["*.psd", "ignore", "ignore"] ↔ item ∈ ["ignore", "*.psd"]) ∧
      (∀ mark ∈ ['*', '?', '[', '/'], mark ∉ "ignore".toList) ∧
      asked (.list (["*.psd", "ignore", "ignore"].map .text)) "art/ignore/x"
        = asked (.list (["ignore", "*.psd"].map .text)) "art/ignore/x" ∧
      ∃ answer, asked (.text "ignore") "art/ignore/x" = .ok answer ∧
        (ofPatterns ["ignore"]).matches? "art/ignore/x" = .ok answer := by
  have hsame : ∀ item, item ∈ ["*.psd", "ignore", "ignore"] ↔ item ∈ ["ignore", "*.psd"] := by
    intro item
    simp [or_comm]
  have hmarks : ∀ mark ∈ ['*', '?', '[', '/'], mark ∉ "ignore".toList := by simp
  obtain ⟨-, hreorder, -, hliteral⟩ := asked_union
  exact ⟨hsame, hmarks, hreorder _ _ hsame _, hliteral _ hmarks _⟩

end Exclusion
end AssetPublish
