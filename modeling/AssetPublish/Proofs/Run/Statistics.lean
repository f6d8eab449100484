import AssetPublish.FileSystem.Edit
import AssetPublish.Proofs.Run.Rebuild
import AssetPublish.Proofs.Scan.Exactness

/-!
# The statistics of a run

A run counts the steps of its plan, and the excluded objects that the scan of the source has told.
Neither looks at what is at the destination afterwards.  Here both accounts are held against the two
trees themselves: the counts are those of what the destination holds in the end, and of what the
source held in the beginning.

`inside` lists the objects below a location by going through the table of the tree, and knows
nothing about scans, rules or plans.  So the two sides of the statement are computed in different
ways, and the proof is a chain of permutations between them: what is below the destination is what
has been copied, and what has been copied is what the scan has come to, less what the rule leaves
out.  Permutations are enough, since counts and sums do not depend on the order.

## What is here

* `FileSystem.inside` — all objects strictly below a location, each of them once.
* `Tally.countOf`, `countOf_foldl_count` — what is counted for each kind of object.
* `inside_perm`, `visited_perm` — what the destination holds, and what the scan comes to.
* `Truthful` — counts that are true of the tree before the run and of the tree after it.
* `run_statistics` — the counts of a run that ends well are true.
-/

set_option autoImplicit false

namespace AssetPublish

open FileSystem

variable {fs fs₁ fs₂ out : FileSystem} {caller : Caller} {settings : Settings} {rule : Exclusion}
  {around : Circumstances} {tally : Tally} {steps : List Operation} {visits : List Visit}
  {names : List String} {object : Object} {base location : Location} {source dest : Path}
  {operation : Operation} {kind : EntryKind}

/-! ## The objects below a location

The table of a tree holds each location once, so that the list has no object twice. -/

namespace FileSystem

/-- All objects strictly below a location, with the names that lead to them from there, the
outermost first.  The location itself is left out, as a scan does not tell of its own root. -/
def inside (fs : FileSystem) (base : Location) : List Visit :=
  (fs.tree base).filterMap fun entry =>
    if entry.1 = [] then none else some (entry.1.reverse, entry.2)

theorem relative?_eq_some_iff {below : Location} :
    relative? base location = some below ↔ location = below ++ base := by
  rw [relative?]
  constructor
  · intro h
    split at h
    · rename_i hsuffix
      obtain ⟨front, rfl⟩ := List.isSuffixOf_iff_suffix.1 hsuffix
      simpa using h
    · simp at h
  · rintro rfl
    rw [if_pos (List.isSuffixOf_iff_suffix.2 (List.suffix_append _ _))]
    simp

theorem nodup_locations (fs : FileSystem) : (fs.objects.map Prod.fst).Nodup :=
  List.pairwise_map.2 fs.valid.1

/-- The table holds what is found. -/
theorem mem_objects_iff (hne : location ≠ []) :
    (location, object) ∈ fs.objects ↔ fs.get? location = some object := by
  rw [get?, if_neg hne]
  refine ⟨fun hmem => ?_, objectAt?_mem⟩
  obtain ⟨found, hfound⟩ := Option.isSome_iff_exists.1 (objectAt?_isSome_of_mem hmem)
  have hsame := List.inj_on_of_nodup_map fs.nodup_locations (objectAt?_mem hfound) hmem rfl
  rw [hfound, (Prod.mk.inj hsame).2]

theorem mem_tree_iff {below : Location} :
    (below, object) ∈ fs.tree base ↔ (below ++ base, object) ∈ fs.objects := by
  simp only [tree, List.mem_filterMap, Option.map_eq_some_iff, relative?_eq_some_iff]
  constructor
  · rintro ⟨⟨location, found⟩, hmem, names, hlocation, heq⟩
    obtain ⟨rfl, rfl⟩ := Prod.mk.inj heq
    rwa [← hlocation]
  · intro hmem
    exact ⟨_, hmem, below, rfl, rfl⟩

theorem mem_inside_iff : (names, object) ∈ fs.inside base ↔
    names ≠ [] ∧ fs.get? (names.reverse ++ base) = some object := by
  rw [inside, List.mem_filterMap]
  constructor
  · rintro ⟨⟨below, found⟩, hmem, hsome⟩
    split at hsome
    · simp at hsome
    · rename_i hne
      obtain ⟨rfl, rfl⟩ := Prod.mk.inj (Option.some.inj hsome)
      rw [mem_tree_iff, mem_objects_iff (by simp [hne])] at hmem
      exact ⟨by simpa using hne, by rwa [List.reverse_reverse]⟩
  · rintro ⟨hne, hget⟩
    refine ⟨(names.reverse, object), mem_tree_iff.2 ?_, by simp [hne]⟩
    exact (mem_objects_iff (by simp [hne])).2 hget

/-- No object is listed twice. -/
theorem nodup_inside (fs : FileSystem) (base : Location) : (fs.inside base).Nodup := by
  have htree : (fs.tree base).Nodup := by
    refine List.Nodup.filterMap ?_ fs.nodup_locations.of_map
    rintro ⟨place, object⟩ ⟨place', object'⟩ ⟨below, found⟩ h h'
    simp only [Option.mem_def, Option.map_eq_some_iff, relative?_eq_some_iff] at h h'
    obtain ⟨_, rfl, heq⟩ := h
    obtain ⟨_, rfl, heq'⟩ := h'
    rw [(Prod.mk.inj (heq.trans heq'.symm)).1, (Prod.mk.inj (heq.trans heq'.symm)).2]
  refine htree.filterMap ?_
  rintro ⟨below, object⟩ ⟨below', object'⟩ visit h h'
  by_cases hnil : below = [] <;> by_cases hnil' : below' = [] <;>
    simp only [hnil, hnil', if_true, if_false, Option.mem_def, Option.some.injEq, reduceCtorEq]
      at h h'
  obtain ⟨hnames, rfl⟩ := Prod.mk.inj (h.trans h'.symm)
  rw [List.reverse_inj.1 hnames]

end FileSystem

/-! ## Counting the steps

Each step counts for one kind, and the counts are sums over the plan.  A plan lists the copied
objects in the order in which the scan has come to them. -/

/-- How many objects of a kind a run has recreated; special ones never are.  One counter for each
kind, so that there is one statement about all of them. -/
def Tally.countOf (tally : Tally) : EntryKind → Nat
  | .directory => tally.directories
  | .file => tally.files
  | .symlink => tally.symlinks
  | .fifo => tally.fifos
  | .special => 0

/-- A step that recreates an object counts for its kind. -/
theorem Recreation.countOf_count {visit : Visit} (h : Recreation source dest visit operation)
    (tally : Tally) (kind : EntryKind) :
    (tally.count operation).countOf kind
      = tally.countOf kind + if EntryKind.ofObject visit.2 = kind then 1 else 0 := by
  have hkind := h.kind
  rw [Tally.count]
  cases hobject : EntryKind.ofObject visit.2 with
  | special => simp [hobject, OperationKind.ofEntryKind?] at hkind
  | _ =>
    rw [hobject, OperationKind.ofEntryKind?, Option.some.injEq] at hkind
    rw [← hkind]
    cases kind <;> rfl

theorem countOf_foldl_count (h : List.Forall₂ (Recreation source dest) visits steps)
    (tally : Tally) (kind : EntryKind) :
    (steps.foldl Tally.count tally).countOf kind = tally.countOf kind
      + visits.countP fun visit => decide (EntryKind.ofObject visit.2 = kind) := by
  induction h generalizing tally with
  | nil => rfl
  | @cons visit operation visits steps hfirst _ ih =>
    rw [List.foldl_cons, ih, hfirst.countOf_count, List.countP_cons]
    simp only [decide_eq_true_eq]
    omega

/-- Steps that recreate objects tell nothing about what was there before. -/
theorem removed_foldl_count (h : List.Forall₂ (Recreation source dest) visits steps)
    (tally : Tally) :
    (steps.foldl Tally.count tally).removedDestination = tally.removedDestination := by
  induction h generalizing tally with
  | nil => rfl
  | @cons visit operation visits steps hfirst _ ih =>
    rw [List.foldl_cons, ih, Tally.count]
    have hkind := hfirst.kind
    cases hobject : EntryKind.ofObject visit.2 <;>
      simp only [hobject, OperationKind.ofEntryKind?, Option.some.injEq, reduceCtorEq] at hkind <;>
      rw [← hkind]

/-- The number of excluded objects is settled before the first step. -/
theorem excluded_foldl_count (steps : List Operation) (tally : Tally) :
    (steps.foldl Tally.count tally).excluded = tally.excluded := by
  induction steps generalizing tally with
  | nil => rfl
  | cons operation rest ih =>
    rw [List.foldl_cons, ih, Tally.count]
    cases operation.kind <;> rfl

/-- The steps on the destination itself only tell whether something was there. -/
theorem foldl_count_rootSteps (occupied : Bool) (dest : Path) (tally : Tally) :
    (rootSteps occupied dest).foldl Tally.count tally
      = { tally with removedDestination := tally.removedDestination || occupied } := by
  cases occupied with
  | false => simp [rootSteps, Tally.count]
  | true => simp [rootSteps, Tally.count]

/-! ## What the destination holds -/

/-- What stands for an object that a scan comes to in a copy of the tree. -/
def Visit.copy (visit : Visit) : Visit := (visit.1, visit.2.mirrored?.getD visit.2)

theorem ofObject_copy (visit : Visit) :
    EntryKind.ofObject visit.copy.2 = EntryKind.ofObject visit.2 := by
  obtain ⟨names, object⟩ := visit
  cases object <;> rfl

theorem sizeOf_copy (visit : Visit) : Entry.sizeOf visit.copy.2 = Entry.sizeOf visit.2 := by
  obtain ⟨names, object⟩ := visit
  cases object <;> rfl

/-- **The destination holds what stands for the copied objects**, each of them once.  Neither list
has anything twice, so that it is enough that both have the same members. -/
theorem Rebuild.inside_perm (h : Rebuild settings caller fs fs₁ fs₂ out steps) :
    (out.inside (settings.destination.place caller)).Perm
      ((fs.copied settings.exclusion (settings.source.place caller)).map Visit.copy) := by
  have hnodup : ((fs.copied settings.exclusion (settings.source.place caller)).map
      Visit.copy).Nodup := by
    rw [List.Nodup, List.pairwise_map]
    refine pairwise_copied.imp ?_
    intro a b hprefix heq
    have hnames : a.copy.1 = b.copy.1 := by rw [heq]
    exact hprefix (show b.copy.1 <+: a.copy.1 from hnames ▸ List.prefix_rfl)
  refine (List.perm_ext_iff_of_nodup (nodup_inside _ _) hnodup).2 ?_
  rintro ⟨names, found⟩
  rw [mem_inside_iff, List.mem_map]
  constructor
  · rintro ⟨hne, hfound⟩
    obtain ⟨object, hmem, hmirrored⟩ := h.mem_copied hne hfound
    exact ⟨(names, object), hmem, by rw [Visit.copy, hmirrored]; rfl⟩
  · rintro ⟨⟨_, object⟩, hmem, heq⟩
    obtain ⟨rfl, rfl⟩ := Prod.mk.inj heq
    obtain ⟨copy, hcopy, hmirrored⟩ := h.copy hmem
    exact ⟨(mem_copied_iff.1 hmem).1, by rw [hcopy, hmirrored]; rfl⟩

/-! ## What the scan has excluded

What a scan comes to is fixed by the tree and the rule alone, though in an order of its own. -/

instance (rule : Exclusion) (names : List String) : Decidable (rule.Hides names) :=
  decidable_of_iff (∃ first ∈ names.inits,
      first ≠ [] ∧ first ≠ names ∧ rule.excludes first = true) (by simp [Exclusion.Hides])

/-- A scan comes to the objects of the tree that the rule does not hide, each of them once.  An
object is hidden if it is below one that is left out; the scan never sees such an object, whether
the rule covers it or not. -/
theorem visited_perm (fs : FileSystem) (rule : Exclusion) (base : Location) :
    (fs.visited rule base).Perm
      ((fs.inside base).filter fun visit => decide ¬ rule.Hides visit.1) := by
  have hnodup : (fs.visited rule base).Nodup := by
    refine pairwise_visited.imp ?_
    intro a b hprefix heq
    exact hprefix (heq ▸ List.prefix_rfl)
  refine (List.perm_ext_iff_of_nodup hnodup ((nodup_inside _ _).filter _)).2 ?_
  rintro ⟨names, object⟩
  rw [mem_visited_iff, List.mem_filter, mem_inside_iff, decide_eq_true_eq, and_assoc]

/-- The objects that are told to be excluded are the topmost ones that the rule leaves out.  What is
below them is not counted, since the scan does not go there. -/
theorem excluded_eq_countP {steps : List Operation} {mode : Nat}
    (hsource : fs.follow? caller settings.source.text = .ok (base, .directory mode))
    (hplan : (settings.plan fs caller).result = .ok steps) :
    (settings.plan fs caller).excluded = (fs.inside base).countP fun visit =>
      decide (settings.exclusion.excludes visit.1 = true ∧ ¬ settings.exclusion.Hides visit.1) := by
  have hevents : (settings.plan fs caller).events
      = (fs.visited settings.exclusion base).map (verdict settings.exclusion settings.source) := by
    rw [← events_of_fault_eq_none hsource (fault_of_plan_eq_ok hplan)]
    rw [Settings.plan] at hplan ⊢
    split
    · rename_i hroot
      simp [hroot] at hplan
    · rfl
  rw [Plan.excluded, hevents, List.countP_map, (visited_perm _ _ _).countP_eq, List.countP_filter]
  refine List.countP_congr fun visit _ => ?_
  obtain ⟨names, object⟩ := visit
  rw [Function.comp_apply, verdict]
  cases settings.exclusion.excludes names with
  | true => simp
  | false => by_cases hspecial : EntryKind.ofObject object = .special <;> simp [hspecial]

/-! ## The whole account -/

/-- Counts that are true of the tree `fs` before a run and of the tree `out` after it, where `base`
is the place of the source and `root` that of the destination: below the destination there are so
many objects of each kind with so many bytes, in the source so many are excluded, and the
destination is said to be removed if anything was there.  Nothing in it speaks of a plan or of a
scan. -/
structure Truthful (rule : Exclusion) (base root : Location) (fs out : FileSystem)
    (tally : Tally) : Prop where
  kinds : ∀ kind, (out.inside root).countP (fun visit =>
    decide (EntryKind.ofObject visit.2 = kind)) = tally.countOf kind
  bytes : tally.bytes = ((out.inside root).map fun visit => Entry.sizeOf visit.2).sum
  excluded : tally.excluded = (fs.inside base).countP fun visit =>
    decide (rule.excludes visit.1 = true ∧ ¬ rule.Hides visit.1)
  removed : tally.removedDestination = true ↔ ∃ object, fs.get? root = some object

/-- **The statistics tell the truth**: the counts of a run that ends well are those of what is below
the destination afterwards, and of what was in the source and at the destination before.  They are
kept while steps are taken, from what each step says of itself, and not by looking at the
destination; that they agree with it is the content of the statement. -/
theorem run_statistics (hidle : around.Idle) (hreal : settings.dryRun = false)
    (hroots : Straight fs around.caller settings.source settings.destination)
    (hok : (settings.run around fs).result = .ok tally) :
    Truthful settings.exclusion (settings.source.place around.caller)
      (settings.destination.place around.caller) fs (settings.run around fs).fs tally := by
  obtain ⟨fs₁, fs₂, steps, hrebuild, rfl⟩ := exists_rebuild hidle hreal hroots hok
  obtain ⟨mode, hsource⟩ := hrebuild.source
  have hperm := hrebuild.inside_perm
  refine ⟨fun kind => ?_, ?_, ?_, ?_⟩
  · rw [finalTally, List.foldl_append, foldl_count_rootSteps,
      countOf_foldl_count hrebuild.recreations, hperm.countP_eq, List.countP_map]
    simp only [Function.comp_def, ofObject_copy]
    cases kind <;> simp [Tally.countOf]
  · rw [finalTally, List.foldl_append, foldl_count_rootSteps, bytes_foldl_count,
      map_size_of_recreations hrebuild.recreations, (hperm.map _).sum_eq, List.map_map]
    simp only [Function.comp_def, sizeOf_copy]
    rw [Nat.cast_list_sum, List.map_map]
    simp only [Function.comp_def, Int.zero_add]
  · rw [finalTally, excluded_foldl_count]
    exact excluded_eq_countP hsource hrebuild.plan
  · rw [finalTally, List.foldl_append, foldl_count_rootSteps,
      removed_foldl_count hrebuild.recreations, ← hrebuild.occupied_iff]
    simp

/-- A directory with objects of several kinds, and a link that leads nowhere beside it. -/
def staleTree : FileSystem := mixedTree.create [] "out" (.link "nowhere")

/-- Settings for copying the directory to where the link is. -/
def staleSettings : Settings :=
  { source := Path.ofText "d", destination := Path.ofText "out" }

theorem run_statistics_staleTree :
    Circumstances.Idle { caller := superuser } ∧ staleSettings.dryRun = false ∧
      Straight staleTree superuser staleSettings.source staleSettings.destination ∧
      ∃ tally, (staleSettings.run { caller := superuser } staleTree).result = .ok tally ∧
        Truthful staleSettings.exclusion (staleSettings.source.place superuser)
          (staleSettings.destination.place superuser) staleTree
          (staleSettings.run { caller := superuser } staleTree).fs tally := by
  have hidle : Circumstances.Idle { caller := superuser } := by simp [Circumstances.Idle]
  have hsource : staleTree.LinkFree superuser.workingDirectory staleSettings.source.parts :=
    linkFree_of_get? (show _ = some (.directory 0o755) by decide +kernel) rfl
  have hroots : Straight staleTree superuser staleSettings.source staleSettings.destination :=
    ⟨by decide, by decide, hsource, LinkFree.nil, by decide⟩
  have hok : (staleSettings.run { caller := superuser } staleTree).result.isOk = true := by
    decide +kernel
  cases hresult : (staleSettings.run { caller := superuser } staleTree).result with
  | error error => rw [hresult] at hok; simp [Except.isOk, Except.toBool] at hok
  | ok tally => exact ⟨hidle, rfl, hroots, tally, rfl, run_statistics hidle rfl hroots hresult⟩

/-- One link, and one file with four bytes; the link in the way of the destination counts too. -/
example : (staleSettings.run { caller := superuser } staleTree).result.toOption = some
    { dryRun := false, removedDestination := true, files := 1, symlinks := 1, bytes := 4,
      excluded := 1 } := by
  decide +kernel

end AssetPublish
