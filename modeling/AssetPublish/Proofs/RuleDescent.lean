import AssetPublish.Proofs.RuleAnswer
import AssetPublish.Proofs.RuleItems

/-!
# Rules that are closed under descent

Rules that look at the components of a path one by one leave out with an object all that lies below
it: a component that is matched is a component of every longer path as well.  A pattern with a slash
is different, since it is held against the path as a whole.

The difference matters because a scan does not go into a directory that is left out.  With a rule
that is closed under descent it might as well: it would leave out everything there one by one.

## What is here

* `Exclusion.IsSegmental` — the rules that look at single components.
* `applies?_append` — such a rule also applies to what continues a path.
* `matches?_continued`, `excludes_of_prefix` — the same for spelled paths and for names.
* `spares`, `spares_names_iff` — the paths that a rule does not match.
-/

set_option autoImplicit false

namespace AssetPublish

/-- The components of a spelling that goes on behind a slash. -/
theorem segments_continued {path : String} (hpath : path.toList.head? ≠ some '/')
    (hne : path ≠ "") (below : String) :
    segments (path ++ "/" ++ below) = segments path ++ Path.names (Text.fields '/' below) := by
  have hrelative : (Path.ofText path).anchor = .relative := Anchor.ofChars_of_head? hpath
  have hcontinued : (Path.ofText (path ++ "/" ++ below)).anchor = .relative := by
    refine Anchor.ofChars_of_head? ?_
    obtain ⟨c, rest, hcons⟩ := List.exists_cons_of_ne_nil (fun h => hne (String.toList_eq_nil_iff.1 h))
    rw [String.toList_append, String.toList_append, hcons]
    rwa [hcons] at hpath
  simp only [segments, hrelative, hcontinued, Path.ofText_parts, Text.fields_append,
    Path.names_append]

namespace Exclusion

mutual

/-- The rules that are built from names, patterns without a slash, and unions of such rules.  The
definition is by the way in which a rule is built and not by what it answers, so that it can be read
off a setting. -/
def IsSegmental : Exclusion → Prop
  | names _ => True
  | patterns items => ∀ item ∈ items, ∃ text : String, item = .text text ∧ '/' ∉ text.toList
  | union rules => AllSegmental rules
  | undefined => False

/-- The same for all rules of a list. -/
def AllSegmental : List Exclusion → Prop
  | [] => True
  | rule :: rest => IsSegmental rule ∧ AllSegmental rest

end

mutual

theorem IsSegmental.isPlain : ∀ {rule : Exclusion}, rule.IsSegmental → rule.IsPlain
  | names _, _ => by rw [IsPlain]; trivial
  | patterns items, h => by
    rw [IsSegmental] at h
    rw [IsPlain]
    intro item hitem
    obtain ⟨text, htext, -⟩ := h item hitem
    exact ⟨text, htext⟩
  | union rules, h => by
    rw [IsSegmental] at h
    rw [IsPlain]
    exact AllSegmental.allPlain h
  | undefined, h => by rw [IsSegmental] at h; exact h.elim

theorem AllSegmental.allPlain : ∀ {rules : List Exclusion}, AllSegmental rules → AllPlain rules
  | [], _ => by rw [AllPlain]; trivial
  | rule :: rest, h => by
    rw [AllSegmental] at h
    rw [AllPlain]
    exact ⟨h.1.isPlain, AllSegmental.allPlain h.2⟩

end

/-! ## The components of a path -/

/-- The texts of patterns that are texts. -/
theorem exists_texts {items : List Value}
    (h : ∀ item ∈ items, ∃ text : String, item = .text text ∧ '/' ∉ text.toList) :
    ∃ texts : List String, items = texts.map .text ∧ ∀ text ∈ texts, '/' ∉ text.toList := by
  induction items with
  | nil => exact ⟨[], rfl, by simp⟩
  | cons item rest ih =>
    obtain ⟨text, rfl, hslash⟩ := h item List.mem_cons_self
    obtain ⟨texts, rfl, hrest⟩ := ih fun item hitem => h item (List.mem_cons_of_mem _ hitem)
    exact ⟨text :: texts, rfl, by simpa using ⟨hslash, hrest⟩⟩

/-- A pattern without a slash applies if it matches a component. -/
theorem patternApplies_of_not_mem {text : String} (h : '/' ∉ text.toList)
    (segments : List String) : patternApplies segments text = segments.any (wildcardMatch text) := by
  rw [patternApplies, if_neg (by simpa using h)]

/-! ## Closure under descent -/

mutual

/-- A rule that applies to a path also applies to what continues it. -/
theorem applies?_append {segments : List String} (below : List String) :
    ∀ {rule : Exclusion}, rule.IsSegmental → rule.applies? segments = .ok true →
      rule.applies? (segments ++ below) = .ok true
  | names set, _, happlies => by
    rw [applies?, Except.ok.injEq] at happlies ⊢
    rw [List.any_append, happlies, Bool.true_or]
  | patterns items, h, happlies => by
    rw [IsSegmental] at h
    obtain ⟨texts, rfl, hslash⟩ := exists_texts h
    rw [applies?_patterns, Except.ok.injEq, List.any_eq_true] at happlies ⊢
    obtain ⟨text, htext, hany⟩ := happlies
    refine ⟨text, htext, ?_⟩
    rw [patternApplies_of_not_mem (hslash text htext)] at hany ⊢
    rw [List.any_append, hany, Bool.true_or]
  | union rules, h, happlies => by
    rw [IsSegmental] at h
    rw [applies?] at happlies ⊢
    exact anyApplies?_append below h happlies
  | undefined, h, _ => by rw [IsSegmental] at h; exact h.elim

theorem anyApplies?_append {segments : List String} (below : List String) :
    ∀ {rules : List Exclusion}, AllSegmental rules → anyApplies? segments rules = .ok true →
      anyApplies? (segments ++ below) rules = .ok true
  | [], _, happlies => by simp [anyApplies?] at happlies
  | rule :: rest, h, happlies => by
    rw [AllSegmental] at h
    obtain ⟨first, hfirst⟩ := exists_applies? segments rule h.1.isPlain
    obtain ⟨others, hothers⟩ := exists_anyApplies? segments rest h.2.allPlain
    obtain ⟨first', hfirst'⟩ := exists_applies? (segments ++ below) rule h.1.isPlain
    obtain ⟨others', hothers'⟩ := exists_anyApplies? (segments ++ below) rest h.2.allPlain
    rw [anyApplies?_cons hfirst hothers, Except.ok.injEq, Bool.or_eq_true] at happlies
    rw [anyApplies?_cons hfirst' hothers', Except.ok.injEq, Bool.or_eq_true]
    rcases happlies with rfl | rfl
    · rw [applies?_append below h.1 hfirst] at hfirst'
      exact Or.inl (Except.ok.inj hfirst').symm
    · rw [anyApplies?_append below h.2 hothers] at hothers'
      exact Or.inr (Except.ok.inj hothers').symm

end

mutual

/-- Without components there is nothing to match. -/
theorem applies?_nil : ∀ {rule : Exclusion}, rule.IsSegmental → rule.applies? [] = .ok false
  | names set, _ => by rw [applies?, List.any_nil]
  | patterns items, h => by
    rw [IsSegmental] at h
    obtain ⟨texts, rfl, hslash⟩ := exists_texts h
    rw [applies?_patterns, Except.ok.injEq, List.any_eq_false]
    intro text htext
    rw [patternApplies_of_not_mem (hslash text htext), List.any_nil]
    exact Bool.false_ne_true
  | union rules, h => by
    rw [IsSegmental] at h
    rw [applies?]
    exact anyApplies?_nil h
  | undefined, h => by rw [IsSegmental] at h; exact h.elim

theorem anyApplies?_nil :
    ∀ {rules : List Exclusion}, AllSegmental rules → anyApplies? [] rules = .ok false
  | [], _ => by rw [anyApplies?]
  | rule :: rest, h => by
    rw [AllSegmental] at h
    exact anyApplies?_cons (applies?_nil h.1) (anyApplies?_nil h.2)

end

variable {rule : Exclusion} {names dir : List String}

/-- **What is matched is matched further down as well**, whatever follows behind the slash. -/
theorem matches?_continued (h : rule.IsSegmental) {path : String}
    (hpath : path.toList.head? ≠ some '/') (below : String) (hmatches : rule.matches? path = .ok true) :
    rule.matches? (path ++ "/" ++ below) = .ok true := by
  by_cases hne : path = ""
  · have hnone : segments "" = [] := by decide
    rw [hne, matches?, hnone, applies?_nil h] at hmatches
    simp at hmatches
  · rw [matches?, segments_continued hpath hne]
    exact applies?_append _ h hmatches

theorem excludes_eq_true_iff (hnames : ∀ name ∈ names, IsName name) :
    rule.excludes names = true ↔ rule.applies? names = .ok true := by
  rw [excludes, matches?, segments_joined hnames]
  cases rule.applies? names <;> simp

/-- What lies below an object that is left out is left out by itself, too. -/
theorem excludes_of_prefix (h : rule.IsSegmental) (hnames : ∀ name ∈ names, IsName name)
    (hdir : dir <+: names) (hexcludes : rule.excludes dir = true) : rule.excludes names = true := by
  obtain ⟨below, rfl⟩ := hdir
  rw [excludes_eq_true_iff fun name hname => hnames name (List.mem_append_left _ hname)] at hexcludes
  rw [excludes_eq_true_iff hnames]
  exact applies?_append below h hexcludes

/-! ## What is not matched -/

/-- Whether the rule answers that it does not match a path.  A rule that has no answer for a path
neither matches nor spares it. -/
def spares (rule : Exclusion) (path : String) : Bool :=
  match rule.matches? path with
  | .ok answer => !answer
  | .error _ => false

/-- A rule for names matches the paths that have a component among them. -/
theorem spares_names_iff (set : NameSet) (path : String) :
    (Exclusion.names set).spares path = true ↔ ∀ segment ∈ segments path, segment ∉ set.names := by
  rw [spares, matches?, applies?]
  simp only [Bool.not_eq_true', List.any_eq_false, List.contains_iff_mem]

end Exclusion
end AssetPublish
