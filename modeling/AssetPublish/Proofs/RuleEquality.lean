import AssetPublish.Exclusion.Hash
import AssetPublish.Proofs.RuleSpelling

/-!
# Equal rules for names

Two rules for names are equal if their sets of names are.  This is what shows from outside: equal
rules give the same answer for every path, and rules that are not equal are told apart by a path,
namely by a name that only one of them has.  Equal rules also have the same hash and the same quoted
form, whatever the order in which a hashed set stores their names.

A path that tells two sets of names apart is one of the names, taken as a path of one component.
This is why the names are supposed to be such that they can be components: a name with a slash in it
matches no relative path at all, and two rules that differ in such names only give the same answers.

## What is here

* `setHash_perm` — the hash of a set does not depend on the order of its members.
* `Exclusion.chosen`, `Exclusion.Stores` — the names of a rule, and the orders in which they can be
  stored.
* `matches?_ofNames`, `sameAs_ofNames_iff` — the answer of a rule for names, and equality by names.
* `hash?_of_stores`, `shown?_of_stores` — the hash and the quoted form from any order.
* `sameAs_iff_same_answers` — the main statement.
-/

set_option autoImplicit false

namespace AssetPublish

/-- The hash of a set does not depend on the order of its members. -/
theorem setHash_perm {hashes others : List UInt64} (h : hashes.Perm others) :
    setHash hashes = setHash others := by
  have hmembers : hashes.foldl (fun word hash => word ^^^ scattered hash) 0
      = others.foldl (fun word hash => word ^^^ scattered hash) 0 := by
    refine h.foldl_eq' (fun a _ b _ word => ?_) 0
    rw [UInt64.xor_assoc, UInt64.xor_comm (scattered a), ← UInt64.xor_assoc]
  rw [setHash, setHash, hmembers, h.length_eq]

namespace Exclusion

/-! ## The names of a rule -/

/-- The names that a rule is made for: those that are given, or the default name if there are none.
-/
def chosen (names : List String) : List String := if names.isEmpty then [defaultName] else names

/-- `stored` lists the names of the rule for `names` once each, in the order in which some hashed
set stores them. -/
structure Stores (names stored : List String) : Prop where
  nodup : stored.Nodup
  mem_iff : ∀ name, name ∈ stored ↔ name ∈ chosen names

theorem ofNames_eq (names : List String) : ofNames names = .names (.ofList (chosen names)) := rfl

theorem isName_of_mem_chosen {names : List String} (h : ∀ name ∈ names, IsName name) :
    ∀ name ∈ chosen names, IsName name := by
  rw [chosen]
  split
  · intro name hname
    rw [List.mem_singleton.1 hname]
    decide
  · exact h

variable {a b names stored : List String}

/-- The answer of a rule for names: one of them is a component of the path. -/
theorem matches?_ofNames (names : List String) (path : String) :
    (ofNames names).matches? path
      = .ok (decide (∃ name ∈ chosen names, name ∈ segments path)) := by
  rw [matches?, ofNames_eq, applies?, Except.ok.injEq, Bool.eq_iff_iff, List.any_eq_true,
    decide_eq_true_eq]
  simp only [List.contains_iff_mem, NameSet.ofList, Text.mem_sorted]
  constructor
  · rintro ⟨name, hsegment, hname⟩
    exact ⟨name, hname, hsegment⟩
  · rintro ⟨name, hname, hsegment⟩
    exact ⟨name, hsegment, hname⟩

/-- Rules for names are equal if they are made for the same names. -/
theorem sameAs_ofNames_iff :
    (ofNames a).sameAs (ofNames b) = true ↔ ∀ name, name ∈ chosen a ↔ name ∈ chosen b := by
  rw [ofNames_eq, ofNames_eq, sameAs, decide_eq_true_eq]
  constructor
  · intro h name
    have hnames : Text.sorted (chosen a) = Text.sorted (chosen b) := congrArg NameSet.names h
    rw [← Text.mem_sorted, hnames, Text.mem_sorted]
  · intro h
    exact NameSet.ext (Text.sorted_eq_of_mem_iff h)

/-- A name is spelled by itself. -/
theorem segments_of_isName {name : String} (h : IsName name) :
    name.toList.head? ≠ some '/' ∧ segments name = [name] := by
  have hsingle : Text.joined '/' [name] = name := by simp [Text.joined, Text.joinChars]
  have hall : ∀ part ∈ [name], IsName part := fun part hpart => by
    rwa [List.mem_singleton.1 hpart]
  have hhead := head?_toList_joined hall
  have hsegments := segments_joined hall
  rw [hsingle] at hhead hsegments
  exact ⟨hhead, hsegments⟩

/-- A name, taken as a path, is matched by the rules that are made for it. -/
theorem matches?_name {name : String} (h : IsName name) (names : List String) :
    (ofNames names).matches? name = .ok (decide (name ∈ chosen names)) := by
  rw [matches?_ofNames, (segments_of_isName h).2]
  simp

/-! ## Hashes and quoted forms -/

/-- A stored order is a rearrangement of the increasing one. -/
theorem Stores.perm (h : Stores names stored) : stored.Perm (Text.sorted (chosen names)) :=
  (List.perm_ext_iff_of_nodup h.nodup (Text.nodup_of_increasing (Text.sorted_pairwise _))).2
    fun name => by rw [h.mem_iff, Text.mem_sorted]

/-- The hash of a rule for names, from any order in which they are stored. -/
theorem hash?_of_stores (h : Stores names stored) (hashOf : String → UInt64) :
    (ofNames names).hash? hashOf = some (setHash (stored.map hashOf)) := by
  rw [ofNames_eq, hash?, setHash_perm (h.perm.map hashOf)]
  rfl

/-- The quoted form of a rule for names, from any order in which they are stored. -/
theorem shown?_of_stores (h : Stores names stored) :
    (ofNames names).shown?
      = some (call "SegmentExclusion" ((Text.sorted stored).map Text.quoted)) := by
  rw [Text.sorted_eq_of_mem_iff h.mem_iff, ofNames_eq, shown?, NameSet.ofList]

/-- What is stored for a rule could be stored for an equal one. -/
theorem Stores.of_sameAs (h : Stores a stored) (hsame : (ofNames a).sameAs (ofNames b) = true) :
    Stores b stored :=
  ⟨h.nodup, fun name => by rw [h.mem_iff, sameAs_ofNames_iff.1 hsame name]⟩

theorem exists_stores (names : List String) : ∃ stored, Stores names stored :=
  ⟨Text.sorted (chosen names), Text.nodup_of_increasing (Text.sorted_pairwise _), fun _ =>
    Text.mem_sorted⟩

/-- **Rules for names are equal exactly if they give the same answers.**  This holds for all names
that can be components of a path, and for the default name in place of none.  The order and the
repetition of names do not matter.  Equal rules have the same hash, however texts are hashed and in
whatever order the sets of both rules store the names, and the same quoted form. -/
theorem sameAs_iff_same_answers (ha : ∀ name ∈ a, IsName name) (hb : ∀ name ∈ b, IsName name) :
    ((ofNames a).sameAs (ofNames b) = true ↔ ∀ path : String, path.toList.head? ≠ some '/' →
      (ofNames a).matches? path = (ofNames b).matches? path) ∧
    ((∀ name, name ∈ a ↔ name ∈ b) → (ofNames a).sameAs (ofNames b) = true) ∧
    ((ofNames a).sameAs (ofNames b) = true →
      (∀ hashOf, ∃ hash, (ofNames a).hash? hashOf = some hash ∧
        (ofNames b).hash? hashOf = some hash ∧
        ∀ stored, Stores a stored ∨ Stores b stored → setHash (stored.map hashOf) = hash) ∧
      ∃ text, (ofNames a).shown? = some text ∧ (ofNames b).shown? = some text ∧
        ∀ stored, Stores a stored ∨ Stores b stored →
          call "SegmentExclusion" ((Text.sorted stored).map Text.quoted) = text) := by
  refine ⟨⟨fun hsame path _ => ?_, fun hanswers => sameAs_ofNames_iff.2 fun name => ?_⟩,
    fun hmem => sameAs_ofNames_iff.2 fun name => ?_, fun hsame => ?_⟩
  · rw [matches?_ofNames, matches?_ofNames]
    simp only [sameAs_ofNames_iff.1 hsame]
  · -- A name of one of the rules is a path that shows whether the other one has it.
    have hdecides : IsName name → (name ∈ chosen a ↔ name ∈ chosen b) := fun hname => by
      have hanswer := hanswers name (segments_of_isName hname).1
      rw [matches?_name hname, matches?_name hname, Except.ok.injEq] at hanswer
      exact decide_eq_decide.1 hanswer
    exact ⟨fun h => (hdecides (isName_of_mem_chosen ha name h)).1 h,
      fun h => (hdecides (isName_of_mem_chosen hb name h)).2 h⟩
  · have hempty : a.isEmpty = b.isEmpty := by
      rw [Bool.eq_iff_iff, List.isEmpty_iff, List.isEmpty_iff, List.eq_nil_iff_forall_not_mem,
        List.eq_nil_iff_forall_not_mem]
      simp only [hmem]
    rw [chosen, chosen, hempty]
    split
    · rfl
    · exact hmem name
  · obtain ⟨stored, hstored⟩ := exists_stores a
    have hboth : ∀ stored, Stores a stored ∨ Stores b stored → Stores a stored := by
      rintro stored (h | h)
      · exact h
      · refine h.of_sameAs ?_
        rw [sameAs_ofNames_iff] at hsame ⊢
        exact fun name => (hsame name).symm
    refine ⟨fun hashOf => ⟨_, hash?_of_stores hstored hashOf,
      hash?_of_stores (hstored.of_sameAs hsame) hashOf, fun other hother => ?_⟩,
      _, shown?_of_stores hstored, shown?_of_stores (hstored.of_sameAs hsame),
      fun other hother => ?_⟩
    · rw [← Option.some.injEq, ← hash?_of_stores hstored, ← hash?_of_stores (hboth other hother)]
    · rw [← Option.some.injEq, ← shown?_of_stores hstored, ← shown?_of_stores (hboth other hother)]

theorem sameAs_iff_same_answers_repeated :
    (∀ name ∈ ["b", "a", "b"], IsName name) ∧ (∀ name ∈ ["a", "b"], IsName name) ∧
      (∀ name, name ∈ ["b", "a", "b"] ↔ name ∈ ["a", "b"]) ∧ "a/x".toList.head? ≠ some '/' ∧
      Stores ["a", "b"] ["b", "a"] ∧
      (ofNames ["b", "a", "b"]).matches? "a/x" = (ofNames ["a", "b"]).matches? "a/x" ∧
      ∀ hashOf, ∃ hash, (ofNames ["b", "a", "b"]).hash? hashOf = some hash ∧
        (ofNames ["a", "b"]).hash? hashOf = some hash ∧ setHash (["b", "a"].map hashOf) = hash := by
  have hnames : ∀ name ∈ ["b", "a", "b"], IsName name := by decide
  have hothers : ∀ name ∈ ["a", "b"], IsName name := by decide
  have hmem : ∀ name, name ∈ ["b", "a", "b"] ↔ name ∈ ["a", "b"] := by
    intro name
    simp only [List.mem_cons, List.not_mem_nil, or_false, or_left_comm, or_self]
  have hpath : "a/x".toList.head? ≠ some '/' := by decide
  have hstores : Stores ["a", "b"] ["b", "a"] := ⟨by decide, fun name => by simp [chosen, or_comm]⟩
  obtain ⟨hanswers, hsame, houtside⟩ := sameAs_iff_same_answers hnames hothers
  refine ⟨hnames, hothers, hmem, hpath, hstores, hanswers.1 (hsame hmem) _ hpath, fun hashOf => ?_⟩
  obtain ⟨hash, hfirst, hsecond, hstored⟩ := (houtside (hsame hmem)).1 hashOf
  exact ⟨hash, hfirst, hsecond, hstored _ (Or.inr hstores)⟩

end Exclusion
end AssetPublish
