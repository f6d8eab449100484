import AssetPublish.Proofs.FileSystem.Building
import AssetPublish.Proofs.FileSystem.Clearing
import AssetPublish.Proofs.Run.Planned

/-!
# How the destination grows

Once the destination is an empty directory, one step after the other recreates an object below it.
Every place that a step works on is free and lies in a directory that an earlier step has made, so
that nothing is reached through a link.

The invariant of the steps is `Grown`.  It speaks of three trees: the one in which the destination
is still empty, the one that has grown out of it by now, and, for each copy, the one in which this
copy was made, since the source is read anew for every step.  The last differs from the first only
below the destination, and this is all that is needed of it.

Two properties of the plan keep the invariant going, and `Ordered` names them: no object comes
twice, so that its place is still free; and the directory of an object comes before it, so that its
place lies in a directory that the run itself has made.  The second is what keeps a run from being
led astray, since on the way from the destination to that place there is no link.

## What is here

* `Grown` — the tree after some steps: below the destination are their copies, and elsewhere
  nothing has changed.
* `Grown.vacant`, `Grown.step` — the place of the next step, and the tree after it.
* `taken_frame`, `allTaken_grown` — the tree after a part of the steps, and after all of them.
* `Prepared`, `taken_cases`, `allTaken_parts`, `allTaken_cases` — a whole run: the destination is
  removed, created anew, and filled.
-/

set_option autoImplicit false

namespace AssetPublish

open FileSystem

variable {fs fs₁ fs₂ fs' out : FileSystem} {caller : Caller} {rule : Exclusion}
  {source dest : Path} {base root : Location} {done todo : List Visit} {names : List String}
  {object : Object} {visit : Visit} {operation : Operation} {steps : List Operation}
  {result : Except Fault Unit}

/-- An empty directory that the destination leads to.  This is the state in which creating the
destination leaves it. -/
structure Empty (fs : FileSystem) (caller : Caller) (dest : Path) (root : Location) : Prop where
  leads : fs.PathLeads caller dest root
  directory : ∃ mode, fs.get? root = some (.directory mode)
  nothing : ∀ location, Below root location → fs.get? location = none

/-- The tree `fs` that has grown out of `fs₂`: below `root` stand the copies of the objects in
`done`, and elsewhere nothing has changed.  A copy is made from what the source held then.  That
nothing else stands below the destination is said by names, since the objects of the source are
known by the names that lead to them. -/
structure Grown (fs₂ : FileSystem) (caller : Caller) (source : Path) (root : Location)
    (done : List Visit) (fs : FileSystem) : Prop where
  outside : ∀ location, ¬ Below root location → fs.get? location = fs₂.get? location
  inside : ∀ names, names ≠ [] → fs.get? (names.reverse ++ root) ≠ none →
    names ∈ done.map Prod.fst
  copies : ∀ visit ∈ done, ∃ copy mid, fs.get? (visit.1.reverse ++ root) = some copy ∧
    (∀ location, ¬ Below root location → mid.get? location = fs₂.get? location) ∧
    Copies mid caller (source.append visit.1) visit.2 copy

/-! ## Locations below a directory -/

theorem exists_names_of_below {location : Location} (h : Below root location) :
    ∃ names, names ≠ [] ∧ location = names.reverse ++ root := by
  obtain ⟨⟨rest, rfl⟩, hne⟩ := h
  refine ⟨rest.reverse, fun hnil => hne ?_, by rw [List.reverse_reverse]⟩
  rw [List.reverse_eq_nil_iff.1 hnil, List.nil_append]

theorem below_of_ne_nil (hne : names ≠ []) : Below root (names.reverse ++ root) := by
  refine ⟨List.suffix_append _ _, fun heq => hne ?_⟩
  exact List.reverse_eq_nil_iff.1 (List.append_left_eq_self.1 heq)

theorem not_below_self : ¬ Below root root := fun h => h.2 rfl

/-! ## One step

At the next place there is nothing, and above it there are only directories from here to the
destination.  So the step works at this place, and nowhere else. -/

theorem Empty.grown (h : Empty fs₂ caller dest root) : Grown fs₂ caller source root [] fs₂ where
  outside _ _ := rfl
  inside names hne hget := absurd (h.nothing _ (below_of_ne_nil hne)) hget
  copies visit hvisit := by simp at hvisit

theorem Empty.le (h : Empty fs₂ caller dest root) (hgrown : Grown fs₂ caller source root done fs) :
    fs₂ ≤ fs := by
  intro location object hobject
  rw [hgrown.outside, hobject]
  intro hbelow
  rw [h.nothing location hbelow] at hobject
  simp at hobject

/-- A place to which no step has come yet is free, and lies in a directory if the step for that
directory has been taken.  The directory is one that has been copied, or the destination itself. -/
theorem Grown.vacant (hempty : Empty fs₂ caller dest root)
    (h : Grown fs₂ caller source root done fs) (hne : names ≠ [])
    (hnames : ∀ name ∈ names, IsFileName name) (hnew : names ∉ done.map Prod.fst)
    (hparent : names.dropLast ≠ [] → ∃ mode, (names.dropLast, .directory mode) ∈ done) :
    Vacant fs caller dest root names where
  root := by
    obtain ⟨links, hleads⟩ := hempty.leads
    exact ⟨links, hleads.mono (hempty.le h)⟩
  nonempty := hne
  proper := hnames
  parent := by
    by_cases hnil : names.dropLast = []
    · rw [hnil, List.reverse_nil, List.nil_append, h.outside root not_below_self]
      exact hempty.directory
    · obtain ⟨mode, hmem⟩ := hparent hnil
      obtain ⟨copy, mid, hcopy, -, hcopies⟩ := h.copies _ hmem
      cases hcopies with
      | directory => exact ⟨_, hcopy⟩
  free := by
    cases hget : fs.get? (names.reverse ++ root) with
    | none => rfl
    | some object => exact absurd (h.inside names hne (by rw [hget]; simp)) hnew

/-- Nothing outside of the destination is touched by a step. -/
theorem Grown.outside_of_onlyAt (h : Grown fs₂ caller source root done fs) (hne : names ≠ [])
    (honly : OnlyAt (names.reverse ++ root) fs fs') {location : Location}
    (hlocation : ¬ Below root location) : fs'.get? location = fs₂.get? location := by
  rw [honly location, h.outside location hlocation]
  rintro rfl
  exact hlocation (below_of_ne_nil hne)

/-- **One more object is recreated.** -/
theorem Grown.step (h : Grown fs₂ caller source root done fs) (hne : visit.1 ≠ [])
    (hnew : visit.1 ∉ done.map Prod.fst)
    (hstep : Recreates fs caller (source.append visit.1) (visit.1.reverse ++ root) visit.2 (.ok ())
      fs') :
    Grown fs₂ caller source root (done ++ [visit]) fs' := by
  obtain ⟨honly, hdone⟩ := hstep
  obtain ⟨copy, hcopy, hcopies⟩ := hdone rfl
  refine ⟨fun location hlocation => h.outside_of_onlyAt hne honly hlocation, ?_, ?_⟩
  · intro names hnames hget
    rw [List.map_append, List.mem_append]
    by_cases heq : names = visit.1
    · rw [heq]
      exact Or.inr (by simp)
    · rw [honly] at hget
      · exact Or.inl (h.inside names hnames hget)
      · exact fun hplace => heq (List.reverse_inj.1 (List.append_cancel_right hplace))
  · intro other hother
    rcases List.mem_append.1 hother with hother | hother
    · obtain ⟨found, mid, hfound, hmid, hcopied⟩ := h.copies other hother
      refine ⟨found, mid, ?_, hmid, hcopied⟩
      rw [honly, hfound]
      intro hplace
      have heq : other.1 = visit.1 := List.reverse_inj.1 (List.append_cancel_right hplace)
      exact hnew (heq ▸ List.mem_map_of_mem hother)
    · rw [List.mem_singleton.1 hother]
      exact ⟨copy, fs, hcopy, h.outside, hcopies⟩

/-! ## All steps -/

/-- What is needed of the objects that are recreated: no one comes twice, and the directory that one
lies in comes before it.  The two lists are what has been done and what is still to do, so that one
structure serves for every moment between two steps. -/
structure Ordered (done todo : List Visit) : Prop where
  proper : ∀ visit ∈ todo, visit.1 ≠ [] ∧ (∀ name ∈ visit.1, IsFileName name) ∧ visit.2.Proper
  new : ∀ visit ∈ todo, visit.1 ∉ done.map Prod.fst
  order : todo.Pairwise fun a b => ¬ b.1 <+: a.1
  parent : ∀ visit ∈ todo, visit.1.dropLast ≠ [] →
    ∃ mode, (visit.1.dropLast, .directory mode) ∈ done ++ todo

theorem Ordered.parent_done (h : Ordered done (visit :: todo)) (hne : visit.1.dropLast ≠ []) :
    ∃ mode, (visit.1.dropLast, .directory mode) ∈ done := by
  obtain ⟨mode, hmem⟩ := h.parent visit List.mem_cons_self hne
  refine ⟨mode, (List.mem_append.1 hmem).resolve_right ?_⟩
  intro hlater
  have hprefix : visit.1.dropLast <+: visit.1 := List.dropLast_prefix _
  rcases List.mem_cons.1 hlater with heq | hlater
  · have hnil := (h.proper visit List.mem_cons_self).1
    have hlength := congrArg List.length (congrArg Prod.fst heq)
    have hpos := List.length_pos_iff.2 hnil
    simp only [List.length_dropLast] at hlength
    omega
  · exact (List.pairwise_cons.1 h.order).1 _ hlater hprefix

theorem Ordered.next (h : Ordered done (visit :: todo)) : Ordered (done ++ [visit]) todo where
  proper other hother := h.proper other (List.mem_cons_of_mem _ hother)
  new other hother := by
    rw [List.map_append, List.mem_append, not_or]
    refine ⟨h.new other (List.mem_cons_of_mem _ hother), ?_⟩
    intro heq
    rw [List.map_singleton, List.mem_singleton] at heq
    exact (List.pairwise_cons.1 h.order).1 other hother (heq ▸ List.prefix_rfl)
  order := (List.pairwise_cons.1 h.order).2
  parent other hother hne := by
    obtain ⟨mode, hmem⟩ := h.parent other (List.mem_cons_of_mem _ hother) hne
    exact ⟨mode, by simpa using hmem⟩

/-- The objects that are copied come in such an order. -/
theorem ordered_copied : Ordered [] (fs.copied rule base) where
  proper visit hvisit := by
    obtain ⟨hne, hget, -⟩ := mem_copied_iff.1 hvisit
    refine ⟨hne, fun name hname => ?_, ?_⟩
    · exact isFileName_of_get?_append hget name (List.mem_reverse.2 hname)
    · exact proper_of_get? hget (by simp [hne])
  new visit _ := by simp
  order := pairwise_copied
  parent visit hvisit hne := by
    obtain ⟨mode, hmem⟩ := copied_parent hvisit hne
    exact ⟨mode, by simpa using hmem⟩

/-- What the step for the next object does. -/
theorem Grown.recreates (hempty : Empty fs₂ caller dest root)
    (h : Grown fs₂ caller source root done fs) (hordered : Ordered done (visit :: todo))
    (hoperation : Recreation source dest visit operation)
    (hhandle : outcome (operation.handle caller) fs = (result, fs')) :
    Recreates fs caller (source.append visit.1) (visit.1.reverse ++ root) visit.2 result fs' := by
  obtain ⟨hne, hnames, hproper⟩ := hordered.proper visit List.mem_cons_self
  have hvacant := h.vacant hempty hne hnames (hordered.new visit List.mem_cons_self)
    hordered.parent_done
  exact recreates_handle hvacant hproper hoperation.target hoperation.entry hoperation.kind hhandle

/-- **Steps that recreate objects touch nothing outside of the destination**, wherever they end.
The induction goes along the steps and carries `Grown`, which says where the next step works; where
a step fails, it has worked at that place only. -/
theorem taken_frame (hempty : Empty fs₂ caller dest root)
    (h : Grown fs₂ caller source root done fs) (hordered : Ordered done todo)
    (hsteps : List.Forall₂ (Recreation source dest) todo steps)
    (htaken : Taken caller steps fs out) {location : Location} (hlocation : ¬ Below root location) :
    out.get? location = fs₂.get? location := by
  induction hsteps generalizing done fs with
  | nil =>
    cases htaken with
    | none => exact h.outside location hlocation
  | @cons visit operation todo steps hoperation hsteps ih =>
    obtain ⟨hne, -⟩ := hordered.proper visit List.mem_cons_self
    cases htaken with
    | none => exact h.outside location hlocation
    | last hhandle =>
      exact h.outside_of_onlyAt hne (h.recreates hempty hordered hoperation hhandle).1 hlocation
    | next hhandle hrest =>
      have hstep := h.recreates hempty hordered hoperation hhandle
      exact ih (h.step hne (hordered.new visit List.mem_cons_self) hstep) hordered.next hrest

/-- **All steps that recreate objects leave exactly their copies below the destination.**  By the
same induction, with the step for one object put behind those that are done. -/
theorem allTaken_grown (hempty : Empty fs₂ caller dest root)
    (h : Grown fs₂ caller source root done fs) (hordered : Ordered done todo)
    (hsteps : List.Forall₂ (Recreation source dest) todo steps)
    (htaken : AllTaken caller steps fs out) :
    Grown fs₂ caller source root (done ++ todo) out := by
  induction hsteps generalizing done fs with
  | nil =>
    cases htaken with
    | nil => rwa [List.append_nil]
  | @cons visit operation todo steps hoperation hsteps ih =>
    obtain ⟨hne, -⟩ := hordered.proper visit List.mem_cons_self
    cases htaken with
    | cons hhandle hrest =>
      have hstep := h.recreates hempty hordered hoperation hhandle
      have hgrown := ih (h.step hne (hordered.new visit List.mem_cons_self) hstep) hordered.next
        hrest
      rwa [List.append_assoc, List.singleton_append] at hgrown

/-! ## A whole run

The first steps of a plan are the same for every source: the destination is removed if it is there,
and created. -/

/-- The tree `fs₁` from which the destination has been removed, if it was there.  If it was not
there, nothing has been removed; if it was, its own place is free now. -/
structure Removed (fs : FileSystem) (caller : Caller) (dest : Path) (occupied : Bool)
    (fs₁ : FileSystem) : Prop where
  cleared : Cleared fs caller dest fs₁
  kept : occupied = false → fs₁ = fs
  gone : occupied = true → ∃ location, fs.Names caller dest location ∧ fs₁.get? location = none

/-- The tree `fs₂` in which the destination has been removed and created anew.  The last part says
that the destination itself has been created, and not found there: it is new, so that it is empty.
-/
structure Prepared (fs : FileSystem) (caller : Caller) (dest : Path) (occupied : Bool)
    (fs₁ : FileSystem) (root : Location) (fs₂ : FileSystem) : Prop where
  removed : Removed fs caller dest occupied fs₁
  built : Built fs₁ caller (dest.start caller) dest.parts root fs₂
  new : ∃ mid mode, fs₁ ≤ mid ∧ mid.Names caller dest root ∧ Created mid fs₂ root (.directory mode)

theorem Prepared.empty {occupied : Bool} (h : Prepared fs caller dest occupied fs₁ root fs₂) :
    Empty fs₂ caller dest root where
  leads := h.built.leads
  directory := by
    obtain ⟨mid, mode, -, -, hcreated⟩ := h.new
    exact ⟨mode, hcreated.self⟩
  nothing location hlocation := by
    obtain ⟨mid, mode, -, -, hcreated⟩ := h.new
    obtain ⟨names, hne, rfl⟩ := exists_names_of_below hlocation
    exact hcreated.eq_none_of_below (by simpa using hne)

/-- What comes of the first step, if the destination is removed at all. -/
theorem removed_of_handle
    (h : outcome (({ kind := .removeDestination, target := dest } : Operation).handle caller) fs
      = (.ok (), fs₁)) : Removed fs caller dest true fs₁ := by
  obtain ⟨hcleared, hgone⟩ := removeDestination_cases h
  exact ⟨hcleared, by simp, fun _ => hgone rfl⟩

theorem builds_of_handle
    (h : outcome (({ kind := .createDestination, target := dest } : Operation).handle caller) fs₁
      = (result, fs₂)) : Builds fs₁ caller dest false result fs₂ :=
  builds_makeWithParents h

theorem prepared_of_builds {occupied : Bool} (hremoved : Removed fs caller dest occupied fs₁)
    (hbuilds : Builds fs₁ caller dest false (.ok ()) fs₂) :
    ∃ root, Prepared fs caller dest occupied fs₁ root fs₂ := by
  obtain ⟨root, hbuilt, hnew⟩ := hbuilds.done rfl
  exact ⟨root, hremoved, hbuilt, hnew rfl⟩

/-- What steps on the created destination and in it have done when they end. -/
theorem taken_create {occupied : Bool} (hremoved : Removed fs caller dest occupied fs₁)
    (hsteps : List.Forall₂ (Recreation source dest) (fs.copied rule base) steps)
    (htaken : Taken caller ({ kind := .createDestination, target := dest } :: steps) fs₁ out) :
    out = fs₁ ∨
    (∃ first dir, first <+: dest.parts ∧ Built fs₁ caller (dest.start caller) first dir out) ∨
    (∃ root fs₂, Prepared fs caller dest occupied fs₁ root fs₂ ∧
      ∀ location, ¬ Below root location → out.get? location = fs₂.get? location) := by
  cases htaken with
  | none => exact Or.inl rfl
  | @last _ _ _ _ result hhandle =>
    cases result with
    | error fault => exact Or.inr (Or.inl ((builds_of_handle hhandle).broken fault rfl))
    | ok done =>
      obtain ⟨root, hprepared⟩ := prepared_of_builds hremoved (builds_of_handle hhandle)
      exact Or.inr (Or.inr ⟨root, out, hprepared, fun _ _ => rfl⟩)
  | next hhandle hrest =>
    obtain ⟨root, hprepared⟩ := prepared_of_builds hremoved (builds_of_handle hhandle)
    refine Or.inr (Or.inr ⟨root, _, hprepared, fun location hlocation => ?_⟩)
    exact taken_frame hprepared.empty hprepared.empty.grown ordered_copied hsteps hrest hlocation

/-- **What a run has done when it ends**: it has come to an end while the destination was removed,
while it was created, or with everything done outside of it.  These are the only three cases,
whether a run fails, is interrupted or ends well, so that a property of every run is proved by
looking at each of them. -/
theorem taken_cases {occupied : Bool}
    (hsteps : List.Forall₂ (Recreation source dest) (fs.copied rule base) steps)
    (htaken : Taken caller (rootSteps occupied dest ++ steps) fs out) :
    Cleared fs caller dest out ∨
    (∃ fs₁ first dir, Removed fs caller dest occupied fs₁ ∧ first <+: dest.parts ∧
      Built fs₁ caller (dest.start caller) first dir out) ∨
    (∃ fs₁ root fs₂, Prepared fs caller dest occupied fs₁ root fs₂ ∧
      ∀ location, ¬ Below root location → out.get? location = fs₂.get? location) := by
  have hcreate : ∀ {fs₁}, Removed fs caller dest occupied fs₁ →
      Taken caller ({ kind := .createDestination, target := dest } :: steps) fs₁ out →
      Cleared fs caller dest out ∨
      (∃ fs₁ first dir, Removed fs caller dest occupied fs₁ ∧ first <+: dest.parts ∧
        Built fs₁ caller (dest.start caller) first dir out) ∨
      (∃ fs₁ root fs₂, Prepared fs caller dest occupied fs₁ root fs₂ ∧
        ∀ location, ¬ Below root location → out.get? location = fs₂.get? location) := by
    intro fs₁ hremoved hrest
    rcases taken_create hremoved hsteps hrest with rfl | ⟨first, dir, hfirst, hbuilt⟩ |
      ⟨root, fs₂, hprepared, hframe⟩
    · exact Or.inl hremoved.cleared
    · exact Or.inr (Or.inl ⟨fs₁, first, dir, hremoved, hfirst, hbuilt⟩)
    · exact Or.inr (Or.inr ⟨fs₁, root, fs₂, hprepared, hframe⟩)
  cases occupied with
  | false => exact hcreate ⟨.nothing rfl, fun _ => rfl, by simp⟩ htaken
  | true =>
    cases htaken with
    | none => exact Or.inl (.nothing rfl)
    | last hhandle => exact Or.inl (removeDestination_cases hhandle).1
    | next hhandle hrest => exact hcreate (removed_of_handle hhandle) hrest

/-- The parts of a run that ends well: what is there is removed, the destination is created, and all
objects are recreated in it. -/
theorem allTaken_parts {occupied : Bool}
    (htaken : AllTaken caller (rootSteps occupied dest ++ steps) fs out) :
    ∃ fs₁ root fs₂, Prepared fs caller dest occupied fs₁ root fs₂ ∧
      outcome (makeNewDirectory caller dest) fs₁ = (.ok (), fs₂) ∧
      AllTaken caller steps fs₂ out := by
  have hcreate : ∀ {fs₁}, Removed fs caller dest occupied fs₁ →
      AllTaken caller ({ kind := .createDestination, target := dest } :: steps) fs₁ out →
      ∃ fs₁ root fs₂, Prepared fs caller dest occupied fs₁ root fs₂ ∧
        outcome (makeNewDirectory caller dest) fs₁ = (.ok (), fs₂) ∧
        AllTaken caller steps fs₂ out := by
    intro fs₁ hremoved hrest
    cases hrest with
    | cons hhandle hrest =>
      obtain ⟨root, hprepared⟩ := prepared_of_builds hremoved (builds_of_handle hhandle)
      exact ⟨fs₁, root, _, hprepared, hhandle, hrest⟩
  cases occupied with
  | false => exact hcreate ⟨.nothing rfl, fun _ => rfl, by simp⟩ htaken
  | true =>
    cases htaken with
    | cons hhandle hrest => exact hcreate (removed_of_handle hhandle) hrest

/-- **What a run has done that ends well**: the destination is created anew and holds exactly the
copies. -/
theorem allTaken_cases {occupied : Bool}
    (hsteps : List.Forall₂ (Recreation source dest) (fs.copied rule base) steps)
    (htaken : AllTaken caller (rootSteps occupied dest ++ steps) fs out) :
    ∃ fs₁ root fs₂, Prepared fs caller dest occupied fs₁ root fs₂ ∧
      Grown fs₂ caller source root (fs.copied rule base) out := by
  obtain ⟨fs₁, root, fs₂, hprepared, -, hrest⟩ := allTaken_parts htaken
  exact ⟨fs₁, root, fs₂, hprepared,
    allTaken_grown hprepared.empty hprepared.empty.grown ordered_copied hsteps hrest⟩

end AssetPublish
