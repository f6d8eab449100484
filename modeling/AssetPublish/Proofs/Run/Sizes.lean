import AssetPublish.Proofs.Reporting
import AssetPublish.Proofs.Run.Planned
import Mathlib.Algebra.BigOperators.Ring.Finset
import Mathlib.Algebra.Order.BigOperators.Group.List
import Mathlib.Algebra.Order.Group.Nat
import Mathlib.Data.List.Perm.Subperm

/-!
# How much a plan copies

The objects that a plan copies lie at different places of the source, so that together they hold no
more bytes than there are below the source.  Where those are fewer than `sizeBound`, every size that
a run reports has a text, the sum at the end included.

The bound comes from the texts and not from the trees: a size is written through a division in
floating point, and what is proved about this holds below `sizeBound`.  A run reports the size of
each step and the sum of all, so that the sum is what has to be below the bound.  No object is
copied twice, and this turns a bound on the source into one on the sum.

## What is here

* `FileSystem.sizeBelow` — the bytes of all files at and below a location.
* `Settings.Fits` — the source holds fewer bytes than `sizeBound`.
* `sum_size_lt`, `size_lt_of_mem` — the steps of a plan copy fewer bytes.
* `bytes_foldl_count`, `foldl_count_dryRun` — what counting steps comes to.
-/

set_option autoImplicit false

namespace AssetPublish

open FileSystem

variable {fs : FileSystem} {caller : Caller} {rule : Exclusion} {source dest : Path}
  {base : Location} {mode : Nat} {visits : List Visit} {steps : List Operation}
  {operation : Operation} {visit : Visit} {settings : Settings}

/-- The number of bytes of all files at and below a location. -/
def FileSystem.sizeBelow (fs : FileSystem) (base : Location) : Nat :=
  ((fs.objects.filter fun entry => decide (base <:+ entry.1)).map fun entry =>
    Entry.sizeOf entry.2).sum

/-- The source, if it is a directory, holds fewer bytes than the bound.  A source that is no
directory is refused, so that nothing has to be said about it. -/
def Settings.Fits (settings : Settings) (fs : FileSystem) (caller : Caller) : Prop :=
  ∀ base mode, fs.follow? caller settings.source.text = .ok (base, .directory mode) →
    fs.sizeBelow base < sizeBound

/-- Every source fits if all that there is does. -/
theorem fits_of_sizeBelow_root (settings : Settings) (caller : Caller)
    (h : fs.sizeBelow [] < sizeBound) : settings.Fits fs caller := by
  intro base mode _
  refine Nat.lt_of_le_of_lt ?_ h
  have hall : fs.objects.filter (fun entry => decide ([] <:+ entry.1)) = fs.objects :=
    List.filter_eq_self.2 fun entry _ => by simp
  rw [FileSystem.sizeBelow, FileSystem.sizeBelow, hall]
  exact (List.filter_sublist.map _).sum_le_sum (by simp)

/-! ## The objects that are copied -/

/-- The copied objects are among those below the source, each at its own place.  Different names
lead to different places, and no names come twice. -/
theorem subperm_copied (fs : FileSystem) (rule : Exclusion) (base : Location) :
    ((fs.copied rule base).map fun visit => (visit.1.reverse ++ base, visit.2)).Subperm
      (fs.objects.filter fun entry => decide (base <:+ entry.1)) := by
  refine List.subperm_of_subset ?_ ?_
  · refine List.Pairwise.map _ ?_ (@pairwise_copied fs rule base)
    intro a b hprefix heq
    have hnames : a.1 = b.1 :=
      List.reverse_inj.1 (List.append_cancel_right (congrArg Prod.fst heq))
    exact hprefix (by rw [hnames])
  · rintro ⟨location, object⟩ hmem
    obtain ⟨⟨names, found⟩, hvisit, heq⟩ := List.mem_map.1 hmem
    obtain ⟨rfl, rfl⟩ := Prod.mk.inj heq
    obtain ⟨hne, hget, -, -⟩ := mem_copied_iff.1 hvisit
    refine List.mem_filter.2 ⟨objectAt?_mem ?_, by simp⟩
    rwa [get?, if_neg (by simp [hne])] at hget

theorem sum_copied_le (fs : FileSystem) (rule : Exclusion) (base : Location) :
    ((fs.copied rule base).map fun visit => Entry.sizeOf visit.2).sum ≤ fs.sizeBelow base := by
  obtain ⟨listed, hperm, hsublist⟩ := subperm_copied fs rule base
  have hsizes := hperm.map fun entry : Location × Object => Entry.sizeOf entry.2
  rw [List.map_map] at hsizes
  calc ((fs.copied rule base).map fun visit => Entry.sizeOf visit.2).sum
      = (listed.map fun entry => Entry.sizeOf entry.2).sum := hsizes.sum_eq.symm
    _ ≤ fs.sizeBelow base := (hsublist.map _).sum_le_sum fun _ _ => Nat.zero_le _

/-! ## The steps of a plan -/

theorem Recreation.size (h : Recreation source dest visit operation) :
    operation.size = (Entry.sizeOf visit.2 : Int) := by
  obtain ⟨names, object⟩ := visit
  obtain ⟨-, hentry, hkind⟩ := h
  rw [Operation.size, hentry]
  cases object with
  | socket mode => simp [EntryKind.ofObject, OperationKind.ofEntryKind?] at hkind
  | _ => rw [← Option.some.inj hkind]; rfl

theorem map_size_of_recreations (h : List.Forall₂ (Recreation source dest) visits steps) :
    steps.map Operation.size = visits.map fun visit => (Entry.sizeOf visit.2 : Int) := by
  induction h with
  | nil => rfl
  | cons hfirst _ ih => rw [List.map_cons, List.map_cons, hfirst.size, ih]

theorem size_of_mem_rootSteps {occupied : Bool} (h : operation ∈ rootSteps occupied dest) :
    operation.size = 0 := by
  rw [rootSteps, List.mem_append] at h
  rcases h with h | h
  · split at h
    · rw [List.mem_singleton.1 h]
      rfl
    · simp at h
  · rw [List.mem_singleton.1 h]
    rfl

/-- The sizes of the steps are natural numbers, with a sum below the bound. -/
theorem exists_sizes (hfits : settings.Fits fs caller)
    (hsource : fs.follow? caller settings.source.text = .ok (base, .directory mode))
    (hplan : (settings.plan fs caller).result = .ok steps) :
    ∃ sizes : List Nat, steps.map Operation.size = sizes.map Nat.cast ∧ sizes.sum < sizeBound := by
  obtain ⟨entrySteps, rfl, hsteps⟩ := plan_cases hsource hplan
  have hroot : ∀ occupied, (rootSteps occupied settings.destination).map Operation.size
      = (rootSteps occupied settings.destination).map fun _ => ((0 : Nat) : Int) :=
    fun occupied => List.map_congr_left fun operation hmem => size_of_mem_rootSteps hmem
  refine ⟨(rootSteps (fs.occupied caller settings.destination) settings.destination).map
      (fun _ => 0) ++
    (fs.copied settings.exclusion base).map fun visit => Entry.sizeOf visit.2, ?_, ?_⟩
  · rw [List.map_append, hroot, map_size_of_recreations hsteps, List.map_append, List.map_map,
      List.map_map]
    rfl
  · have hzero : ∀ listed : List Operation, (listed.map fun _ => 0).sum = 0 := by simp
    rw [List.sum_append, hzero, Nat.zero_add]
    exact Nat.lt_of_le_of_lt (sum_copied_le fs _ base) (hfits base mode hsource)

/-- **The steps of a plan copy fewer bytes than the bound**, all of them and each of them.  The
steps on the destination itself copy nothing. -/
theorem sum_size_lt (hfits : settings.Fits fs caller)
    (hsource : fs.follow? caller settings.source.text = .ok (base, .directory mode))
    (hplan : (settings.plan fs caller).result = .ok steps) :
    (steps.map Operation.size).sum < sizeBound := by
  obtain ⟨sizes, hsizes, hsum⟩ := exists_sizes hfits hsource hplan
  rw [hsizes, ← Nat.cast_list_sum]
  exact_mod_cast hsum

theorem size_lt_of_mem (hfits : settings.Fits fs caller)
    (hsource : fs.follow? caller settings.source.text = .ok (base, .directory mode))
    (hplan : (settings.plan fs caller).result = .ok steps) (hmem : operation ∈ steps) :
    operation.size < sizeBound := by
  obtain ⟨sizes, hsizes, hsum⟩ := exists_sizes hfits hsource hplan
  have hsize : operation.size ∈ sizes.map Nat.cast := by
    rw [← hsizes]
    exact List.mem_map_of_mem hmem
  obtain ⟨size, hsize, heq⟩ := List.mem_map.1 hsize
  rw [← heq]
  exact_mod_cast Nat.lt_of_le_of_lt (List.le_sum_of_mem hsize) hsum

/-! ## Counting -/

theorem bytes_count (tally : Tally) (operation : Operation) :
    (tally.count operation).bytes = tally.bytes + operation.size := by
  rw [Tally.count, Operation.size]
  cases operation.kind <;> simp

/-- The bytes that are counted for some steps are the sum of their sizes. -/
theorem bytes_foldl_count (steps : List Operation) (tally : Tally) :
    (steps.foldl Tally.count tally).bytes = tally.bytes + (steps.map Operation.size).sum := by
  induction steps generalizing tally with
  | nil => simp
  | cons operation rest ih =>
    rw [List.foldl_cons, ih, bytes_count, List.map_cons, List.sum_cons, Int.add_assoc]

theorem count_dryRun (tally : Tally) (dryRun : Bool) (operation : Operation) :
    Tally.count { tally with dryRun } operation = { tally.count operation with dryRun } := by
  rw [Tally.count, Tally.count]
  cases operation.kind <;> rfl

/-- What is counted does not depend on whether the run is a dry one.  So a dry run announces the
counts of the real one. -/
theorem foldl_count_dryRun (steps : List Operation) (tally : Tally) (dryRun : Bool) :
    steps.foldl Tally.count { tally with dryRun }
      = { steps.foldl Tally.count tally with dryRun } := by
  induction steps generalizing tally with
  | nil => rfl
  | cons operation rest ih => rw [List.foldl_cons, count_dryRun, ih, List.foldl_cons]

end AssetPublish
