import AssetPublish.Proofs.FileSystem.Following
import AssetPublish.Proofs.RuleAnswer
import Mathlib.Data.List.Perm.Subperm

/-!
# What a scan comes to

A scan goes down from its root into every directory that the rule does not leave out, links not
followed.  Here the objects that it comes to are listed, in the order in which it comes to them,
without any spelling or call of the system.

This list is the other side of nearly every statement about scans and plans.  It is defined by
recursion over the tree, with names instead of spellings and with the rule as a function, so that it
has an equation for each directory (`visitedAt_eq`) and a plain condition for membership
(`mem_visited_iff`).  A scan as a machine is then shown to run through it.

## What is here

* `Visit` — an object below the root, with the names that lead to it.
* `FileSystem.visitedAt`, `FileSystem.visited` — the objects that a scan comes to.
* `visitedAt_eq` — the same as a recursion over the tree.
* `mem_visited_iff` — a scan comes to every object that does not lie below one that is left out,
  and to nothing else.
* `pairwise_visited` — what comes later is not above or the same as what came before.
* `length_visited_le_of_get?` — a scan comes to no more objects than there are.
-/

set_option autoImplicit false

namespace AssetPublish

/-- An object below the root of a scan, with the names that lead to it, the outermost first. -/
abbrev Visit : Type := List String × Object

namespace FileSystem

/-- The object at some names below `base`, and what is below it and not left out.  Nothing lies
deeper than there are objects, so their number is fuel enough. -/
def visitedWith (fs : FileSystem) (rule : Exclusion) (base : Location) :
    Nat → List String → List Visit
  | 0, _ => []
  | fuel + 1, names =>
    match fs.get? (names.reverse ++ base) with
    | none => []
    | some object =>
      (names, object) ::
        if object.isDirectory && !rule.excludes names then
          (Text.sorted (fs.names (names.reverse ++ base))).flatMap fun name =>
            visitedWith fs rule base fuel (names ++ [name])
        else []

/-- The object at some names below `base`, and what is below it and not left out. -/
def visitedAt (fs : FileSystem) (rule : Exclusion) (base : Location) (names : List String) :
    List Visit :=
  visitedWith fs rule base (fs.objects.length + 1) names

/-- What is in the directory at some names below `base` and not left out. -/
def visitedIn (fs : FileSystem) (rule : Exclusion) (base : Location) (names : List String) :
    List Visit :=
  (Text.sorted (fs.names (names.reverse ++ base))).flatMap fun name =>
    fs.visitedAt rule base (names ++ [name])

/-- All objects that a scan of the tree at `base` comes to. -/
def visited (fs : FileSystem) (rule : Exclusion) (base : Location) : List Visit :=
  fs.visitedIn rule base []

variable {fs : FileSystem} {rule : Exclusion} {base : Location} {names rest : List String}
  {object : Object} {fuel : Nat}

/-! ## No object lies deeper than there are objects

The recursion over the tree goes by the depth, for which the number of objects is a bound: on the
way to an object there is another one at each level. -/

theorem mem_locations_of_get? {location : Location} (hne : location ≠ [])
    (h : fs.get? location = some object) : location ∈ fs.objects.map Prod.fst := by
  rw [get?, if_neg hne] at h
  exact List.mem_map.2 ⟨_, objectAt?_mem h, rfl⟩

/-- Locations that are distinct and taken are no more than the table has entries. -/
theorem length_le_of_distinct (fs : FileSystem) {locations : List Location}
    (hnodup : locations.Nodup)
    (hfound : ∀ location ∈ locations, location ∈ fs.objects.map Prod.fst) :
    locations.length ≤ fs.objects.length := by
  have hle := (hnodup.subperm hfound).length_le
  rwa [List.length_map] at hle

/-- The locations on the way to an object are as many as it lies deep. -/
theorem exists_locations_above {location : Location} (h : fs.get? location = some object) :
    ∃ above : List Location, above.Nodup ∧ above.length = location.length ∧
      ∀ place ∈ above, place ∈ fs.objects.map Prod.fst ∧ place.length ≤ location.length := by
  induction location generalizing object with
  | nil => exact ⟨[], List.nodup_nil, rfl, by simp⟩
  | cons name dir ih =>
    obtain ⟨mode, hdir⟩ := exists_directory_of_get?_cons h
    obtain ⟨above, hnodup, hlength, hmem⟩ := ih hdir
    refine ⟨(name :: dir) :: above, List.nodup_cons.2 ⟨fun hself => ?_, hnodup⟩, ?_, ?_⟩
    · have hle := (hmem _ hself).2
      rw [List.length_cons] at hle
      omega
    · rw [List.length_cons, List.length_cons, hlength]
    · intro place hplace
      rcases List.mem_cons.1 hplace with rfl | hplace
      · exact ⟨mem_locations_of_get? (by simp) h, Nat.le_refl _⟩
      · obtain ⟨hfound, hle⟩ := hmem place hplace
        exact ⟨hfound, by rw [List.length_cons]; omega⟩

theorem length_le_of_get? {location : Location} (h : fs.get? location = some object) :
    location.length ≤ fs.objects.length := by
  obtain ⟨above, hnodup, hlength, hmem⟩ := exists_locations_above h
  rw [← hlength]
  exact length_le_of_distinct fs hnodup fun place hplace => (hmem place hplace).1

/-! ## The recursion over the tree

With enough fuel the number does not matter, so that from here on there is no fuel in any statement.
-/

/-- With as much fuel as there are objects, one more makes no difference. -/
theorem visitedWith_succ (h : fs.objects.length < fuel + names.length) :
    visitedWith fs rule base (fuel + 1) names = visitedWith fs rule base fuel names := by
  induction fuel generalizing names with
  | zero =>
    rw [visitedWith, visitedWith]
    cases hget : fs.get? (names.reverse ++ base) with
    | none => rfl
    | some object =>
      have hle := length_le_of_get? hget
      rw [List.length_append, List.length_reverse] at hle
      omega
  | succ fuel ih =>
    rw [visitedWith, visitedWith]
    cases fs.get? (names.reverse ++ base) with
    | none => rfl
    | some object =>
      have hbelow : ∀ name, visitedWith fs rule base (fuel + 1) (names ++ [name])
          = visitedWith fs rule base fuel (names ++ [name]) := by
        intro name
        refine ih ?_
        rw [List.length_append, List.length_singleton]
        omega
      simp only [hbelow]

/-- **What a scan comes to, by recursion over the tree.**  This is the equation by which later
proofs go; the definition with its fuel is not opened again. -/
theorem visitedAt_eq (fs : FileSystem) (rule : Exclusion) (base : Location)
    (names : List String) :
    fs.visitedAt rule base names =
      match fs.get? (names.reverse ++ base) with
      | none => []
      | some object =>
        (names, object) ::
          if object.isDirectory && !rule.excludes names then fs.visitedIn rule base names
          else [] := by
  have hbelow : ∀ name, visitedWith fs rule base fs.objects.length (names ++ [name])
      = fs.visitedAt rule base (names ++ [name]) := by
    intro name
    rw [visitedAt, visitedWith_succ]
    rw [List.length_append, List.length_singleton]
    omega
  rw [visitedAt, visitedWith, visitedIn]
  simp only [hbelow]

/-! ## What is visited

Membership is shown by following the names of an object down from the root, one directory after the
other. -/

/-- What is visited from some names on lies at or below them. -/
theorem prefix_of_mem_visitedWith {visit : Visit}
    (h : visit ∈ visitedWith fs rule base fuel names) : names <+: visit.1 := by
  induction fuel generalizing names with
  | zero => rw [visitedWith] at h; simp at h
  | succ fuel ih =>
    rw [visitedWith] at h
    split at h
    · simp at h
    · rcases List.mem_cons.1 h with rfl | h
      · exact List.prefix_rfl
      · split at h
        · obtain ⟨name, -, hname⟩ := List.mem_flatMap.1 h
          exact (List.prefix_append _ _).trans (ih hname)
        · simp at h

theorem prefix_of_mem_visitedAt {visit : Visit} (h : visit ∈ fs.visitedAt rule base names) :
    names <+: visit.1 :=
  prefix_of_mem_visitedWith h

theorem eq_of_append_singleton_prefix {a b : String} {all : List String}
    (ha : names ++ [a] <+: all) (hb : names ++ [b] <+: all) : a = b := by
  have hab : names ++ [a] <+: names ++ [b] := List.prefix_of_prefix_length_le ha hb (by simp)
  simpa using hab

/-- What is visited below a directory is visited from the next name on the way. -/
theorem mem_visitedIn_iff {name : String} :
    (names ++ name :: rest, object) ∈ fs.visitedIn rule base names ↔
      (names ++ name :: rest, object) ∈ fs.visitedAt rule base (names ++ [name]) := by
  rw [visitedIn, List.mem_flatMap]
  constructor
  · rintro ⟨other, -, hmem⟩
    have heq : other = name :=
      eq_of_append_singleton_prefix (prefix_of_mem_visitedAt hmem) ⟨rest, by simp⟩
    rwa [heq] at hmem
  · intro hmem
    refine ⟨name, ?_, hmem⟩
    rw [visitedAt_eq] at hmem
    split at hmem
    · simp at hmem
    · rename_i first hfirst
      rw [List.reverse_append, List.reverse_singleton, List.singleton_append,
        List.cons_append] at hfirst
      rw [Text.mem_sorted, mem_names_iff, hfirst]
      rfl

/-- What lies further down is visited from a directory that is not left out, with the object that
is next on the way. -/
theorem mem_visitedAt_cons_iff {name : String} :
    (names ++ name :: rest, object) ∈ fs.visitedAt rule base names ↔
      (∃ mode, fs.get? (names.reverse ++ base) = some (.directory mode)) ∧
        rule.excludes names = false ∧
        (names ++ name :: rest, object) ∈ fs.visitedAt rule base (names ++ [name]) := by
  rw [visitedAt_eq]
  cases hget : fs.get? (names.reverse ++ base) with
  | none => simp
  | some found =>
    rw [← mem_visitedIn_iff]
    cases found <;> cases rule.excludes names <;> simp [Object.isDirectory]

/-- Below an object, those objects are visited above which nothing is left out. -/
theorem mem_visitedAt_iff :
    (names ++ rest, object) ∈ fs.visitedAt rule base names ↔
      fs.get? ((names ++ rest).reverse ++ base) = some object ∧
        ∀ first, first <+: rest → first ≠ rest → rule.excludes (names ++ first) = false := by
  induction rest generalizing names with
  | nil =>
    rw [List.append_nil, visitedAt_eq]
    cases hget : fs.get? (names.reverse ++ base) with
    | none => simp
    | some found =>
      simp only [List.mem_cons, Prod.mk.injEq, true_and, Option.some.injEq]
      constructor
      · rintro (rfl | hbelow)
        · exact ⟨rfl, fun first hfirst hne => absurd (List.prefix_nil.1 hfirst) hne⟩
        · split at hbelow
          · obtain ⟨name, -, hname⟩ := List.mem_flatMap.1 hbelow
            have hle := (prefix_of_mem_visitedAt hname).length_le
            rw [List.length_append, List.length_singleton] at hle
            exact absurd hle (Nat.not_succ_le_self _)
          · simp at hbelow
      · rintro ⟨rfl, -⟩; exact Or.inl rfl
  | cons name rest ih =>
    have hsplit : names ++ name :: rest = (names ++ [name]) ++ rest := by simp
    rw [mem_visitedAt_cons_iff, hsplit, ih]
    constructor
    · rintro ⟨-, hhead, hget, hrest⟩
      refine ⟨hget, ?_⟩
      intro first hfirst hne
      cases first with
      | nil => rwa [List.append_nil]
      | cons other first =>
        obtain ⟨rfl, hbelow⟩ := List.cons_prefix_cons.1 hfirst
        have hout := hrest first hbelow fun heq => hne (by rw [heq])
        rwa [List.append_assoc, List.singleton_append] at hout
    · rintro ⟨hget, hall⟩
      refine ⟨?_, ?_, hget, fun first hfirst hne => ?_⟩
      · rw [← hsplit, List.reverse_append, List.append_assoc] at hget
        exact exists_directory_of_get?_append (by simp) hget
      · simpa using hall [] List.nil_prefix (by simp)
      · have hout := hall (name :: first) (List.cons_prefix_cons.2 ⟨rfl, hfirst⟩)
          fun heq => hne (List.cons.inj heq).2
        rwa [List.append_assoc, List.singleton_append]

/-- **A scan comes to those objects below its root that do not lie below one that is left out.**
The object that is left out is itself among them, since the scan tells of it. -/
theorem mem_visited_iff :
    (names, object) ∈ fs.visited rule base ↔
      names ≠ [] ∧ fs.get? (names.reverse ++ base) = some object ∧ ¬ rule.Hides names := by
  cases names with
  | nil =>
    rw [visited, visitedIn, List.mem_flatMap]
    constructor
    · rintro ⟨name, -, hmem⟩
      have hle := (prefix_of_mem_visitedAt hmem).length_le
      simp at hle
    · rintro ⟨hne, -⟩; exact absurd rfl hne
  | cons name rest =>
    have hin : ([] ++ name :: rest, object) ∈ fs.visitedIn rule base [] ↔
      ([] ++ name :: rest, object) ∈ fs.visitedAt rule base ([] ++ [name]) := mem_visitedIn_iff
    rw [List.nil_append, List.nil_append] at hin
    have hat : ([name] ++ rest, object) ∈ fs.visitedAt rule base [name] ↔ _ := mem_visitedAt_iff
    rw [List.singleton_append] at hat
    rw [visited, hin, hat]
    constructor
    · rintro ⟨hget, hout⟩
      refine ⟨by simp, hget, ?_⟩
      rintro ⟨first, hfirst, hnil, hne, hexcludes⟩
      cases first with
      | nil => exact hnil rfl
      | cons other first =>
        obtain ⟨rfl, hbelow⟩ := List.cons_prefix_cons.1 hfirst
        have hfalse := hout first hbelow fun heq => hne (by rw [heq])
        rw [List.singleton_append, hexcludes] at hfalse
        simp at hfalse
    · rintro ⟨-, hget, hhides⟩
      refine ⟨hget, ?_⟩
      intro first hfirst hne
      rw [← Bool.not_eq_true]
      exact fun hexcludes => hhides ⟨name :: first, List.cons_prefix_cons.2 ⟨rfl, hfirst⟩,
        by simp, fun heq => hne (List.cons.inj heq).2, hexcludes⟩

/-! ## The order

The names of a directory are gone through in order, and everything below one of them comes before
the next. -/

/-- Different names lead to different branches, of which none is above the other. -/
theorem pairwise_flatMap_names (names : List String) {below : String → List Visit}
    {listed : List String}
    (hlisted : listed.Pairwise (· < ·)) (hfront : ∀ name, ∀ visit ∈ below name,
      names ++ [name] <+: visit.1)
    (hbelow : ∀ name, (below name).Pairwise fun a b => ¬ b.1 <+: a.1) :
    (listed.flatMap below).Pairwise fun a b => ¬ b.1 <+: a.1 := by
  rw [List.pairwise_flatMap]
  refine ⟨fun name _ => hbelow name, hlisted.imp fun {first second} hlt a ha b hb hba => ?_⟩
  have heq : first = second :=
    eq_of_append_singleton_prefix (hfront first a ha) ((hfront second b hb).trans hba)
  rw [heq] at hlt
  exact String.lt_irrefl second hlt

theorem pairwise_visitedWith :
    (visitedWith fs rule base fuel names).Pairwise fun a b => ¬ b.1 <+: a.1 := by
  induction fuel generalizing names with
  | zero => rw [visitedWith]; exact List.Pairwise.nil
  | succ fuel ih =>
    rw [visitedWith]
    split
    · exact List.Pairwise.nil
    · refine List.pairwise_cons.2 ⟨fun visit hvisit hfront => ?_, ?_⟩
      · split at hvisit
        · obtain ⟨name, -, hname⟩ := List.mem_flatMap.1 hvisit
          have hle := ((prefix_of_mem_visitedWith hname).trans hfront).length_le
          rw [List.length_append, List.length_singleton] at hle
          exact absurd hle (Nat.not_succ_le_self _)
        · simp at hvisit
      · split
        · exact pairwise_flatMap_names names (Text.sorted_pairwise _)
            (fun _ _ h => prefix_of_mem_visitedWith h) fun _ => ih
        · exact List.Pairwise.nil

/-- What comes later is neither above nor the same as what came before.  So a directory comes before
what is in it, and nothing comes twice. -/
theorem pairwise_visited : (fs.visited rule base).Pairwise fun a b => ¬ b.1 <+: a.1 :=
  pairwise_flatMap_names [] (Text.sorted_pairwise _) (fun _ _ h => prefix_of_mem_visitedAt h)
    fun _ => pairwise_visitedWith

/-- No object is visited twice. -/
theorem nodup_visited :
    ((fs.visited rule base).map fun visit => visit.1.reverse ++ base).Nodup := by
  rw [List.Nodup, List.pairwise_map]
  refine pairwise_visited.imp fun h heq => h ?_
  have hnames := List.reverse_inj.1 (List.append_cancel_right heq)
  exact hnames ▸ List.prefix_rfl

/-- A scan comes to no more objects than there are in any file system that has them. -/
theorem length_visited_le_of_get? {fs' : FileSystem}
    (h : ∀ names object, (names, object) ∈ fs.visited rule base →
      fs'.get? (names.reverse ++ base) = some object) :
    (fs.visited rule base).length ≤ fs'.objects.length := by
  have hle := length_le_of_distinct fs' nodup_visited fun location hlocation => by
    obtain ⟨⟨names, object⟩, hvisit, rfl⟩ := List.mem_map.1 hlocation
    have hne := (mem_visited_iff.1 hvisit).1
    exact mem_locations_of_get? (by simp [hne]) (h names object hvisit)
  rwa [List.length_map] at hle

theorem length_visited_le : (fs.visited rule base).length ≤ fs.objects.length :=
  length_visited_le_of_get? fun _ _ hvisit => (mem_visited_iff.1 hvisit).2.1

end FileSystem
end AssetPublish
