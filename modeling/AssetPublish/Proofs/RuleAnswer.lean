import AssetPublish.Proofs.Spelling
import AssetPublish.Scan

/-!
# Rules that always answer

A rule is asked about the path of an object relative to the root of a tree.  Rules that are built
from names, patterns that are texts, and unions always have an answer.

A rule can also be built from values that are no texts, and then asking it may fail.  Statements
about scans suppose that the rule is plain, or say what happens if it is not.  With a plain rule the
question whether an object is left out is a function (`excludes`), and so it can be used to define
which objects lie below one that is left out.

## What is here

* `Exclusion.IsPlain` — the rules that are built in this way.
* `Exclusion.excludes` — the answer for the object at some names below the root.
* `matches?_of_isPlain` — a plain rule always has an answer.
* `Exclusion.Hides`, `Exclusion.Covers` — an object lies below one that is left out, or is left
  out itself or with another one.
-/

set_option autoImplicit false

namespace AssetPublish
namespace Exclusion

mutual

/-- The rules that are built from names, patterns that are texts, and unions of such rules.  A rule
that is left `undefined` answers nothing, and so is not among them. -/
def IsPlain : Exclusion → Prop
  | names _ => True
  | patterns items => ∀ item ∈ items, ∃ text, item = .text text
  | union rules => AllPlain rules
  | undefined => False

/-- The same for all rules of a list. -/
def AllPlain : List Exclusion → Prop
  | [] => True
  | rule :: rest => IsPlain rule ∧ AllPlain rest

end

theorem exists_patternMatches? (segments : List String) (text : String) :
    ∃ answer, patternMatches? segments (.text text) = .ok answer := by
  rw [patternMatches?, contains?]
  cases text.toList.contains '/' with
  | true => exact ⟨_, rfl⟩
  | false => exact ⟨_, rfl⟩

theorem exists_anyPattern? (segments : List String) {items : List Value}
    (h : ∀ item ∈ items, ∃ text, item = .text text) :
    ∃ answer, anyPattern? segments items = .ok answer := by
  induction items with
  | nil => exact ⟨false, rfl⟩
  | cons item rest ih =>
    obtain ⟨text, rfl⟩ := h item List.mem_cons_self
    obtain ⟨first, hfirst⟩ := exists_patternMatches? segments text
    obtain ⟨others, hothers⟩ := ih fun item hitem => h item (List.mem_cons_of_mem _ hitem)
    rw [anyPattern?, hfirst, hothers]
    cases first with
    | true => exact ⟨true, rfl⟩
    | false => exact ⟨others, rfl⟩

mutual

theorem exists_applies? (segments : List String) :
    ∀ rule : Exclusion, rule.IsPlain → ∃ answer, rule.applies? segments = .ok answer
  | names _, _ => ⟨_, rfl⟩
  | patterns items, h => by
    rw [IsPlain] at h
    rw [applies?]
    exact exists_anyPattern? segments h
  | union rules, h => by
    rw [IsPlain] at h
    rw [applies?]
    exact exists_anyApplies? segments rules h
  | undefined, h => by rw [IsPlain] at h; exact h.elim

theorem exists_anyApplies? (segments : List String) :
    ∀ rules : List Exclusion, AllPlain rules → ∃ answer, anyApplies? segments rules = .ok answer
  | [], _ => ⟨false, by rw [anyApplies?]⟩
  | rule :: rest, h => by
    rw [AllPlain] at h
    obtain ⟨first, hfirst⟩ := exists_applies? segments rule h.1
    obtain ⟨others, hothers⟩ := exists_anyApplies? segments rest h.2
    rw [anyApplies?, hfirst, hothers]
    cases first with
    | true => exact ⟨true, rfl⟩
    | false => exact ⟨others, rfl⟩

end

theorem isPlain_default : Exclusion.default.IsPlain := by
  rw [Exclusion.default, ofNames, IsPlain]
  trivial

/-- Whether the rule leaves out the object at some names below the root; where it has no answer it
leaves nothing out. -/
def excludes (rule : Exclusion) (names : List String) : Bool :=
  match rule.matches? (Text.joined '/' names) with
  | .ok answer => answer
  | .error _ => false

theorem excludes_of_matches? {rule : Exclusion} {names : List String} {answer : Bool}
    (h : rule.matches? (Text.joined '/' names) = .ok answer) : rule.excludes names = answer := by
  rw [excludes, h]

/-- A plain rule always has an answer. -/
theorem matches?_of_isPlain {rule : Exclusion} (h : rule.IsPlain) (names : List String) :
    rule.matches? (Text.joined '/' names) = .ok (rule.excludes names) := by
  obtain ⟨answer, hanswer⟩ := exists_applies? (segments (Text.joined '/' names)) rule h
  have hmatches : rule.matches? (Text.joined '/' names) = .ok answer := hanswer
  rw [excludes_of_matches? hmatches, hmatches]

/-- An object above the one at some names is left out.  The object itself is not asked about: a scan
comes to it and finds out, but does not come to what is hidden. -/
def Hides (rule : Exclusion) (names : List String) : Prop :=
  ∃ first, first <+: names ∧ first ≠ [] ∧ first ≠ names ∧ rule.excludes first = true

/-- The object at some names is left out, by itself or with one above it.  These are the objects
that a run does not copy, besides those of a kind that is never copied. -/
def Covers (rule : Exclusion) (names : List String) : Prop :=
  ∃ first, first <+: names ∧ first ≠ [] ∧ rule.excludes first = true

theorem covers_iff {rule : Exclusion} {names : List String} (hne : names ≠ []) :
    rule.Covers names ↔ rule.Hides names ∨ rule.excludes names = true := by
  constructor
  · rintro ⟨first, hfirst, hnil, hexcludes⟩
    by_cases h : first = names
    · subst h; exact Or.inr hexcludes
    · exact Or.inl ⟨first, hfirst, hnil, h, hexcludes⟩
  · rintro (⟨first, hfirst, hnil, -, hexcludes⟩ | hexcludes)
    · exact ⟨first, hfirst, hnil, hexcludes⟩
    · exact ⟨names, List.prefix_rfl, hne, hexcludes⟩

/-- Nothing that lies directly in the root is hidden. -/
theorem not_hides_singleton {rule : Exclusion} {name : String} : ¬ rule.Hides [name] := by
  rintro ⟨first, hfirst, hnil, hproper, -⟩
  have hle := hfirst.length_le
  have hpos := List.length_pos_iff.2 hnil
  rw [List.length_singleton] at hle
  exact hproper (hfirst.eq_of_length (by rw [List.length_singleton]; omega))

end Exclusion
end AssetPublish
