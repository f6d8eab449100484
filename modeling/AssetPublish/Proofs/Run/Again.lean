import AssetPublish.Proofs.FileSystem.View
import AssetPublish.Proofs.Run.Completion
import AssetPublish.Proofs.Run.Vacated
import AssetPublish.Proofs.Scan.Locality

/-!
# Steps that are taken again

A run that has rebuilt the destination leaves a tree in which it could start again.  The source, and
the directories that it lies in, are as they were, so the second plan has the steps of the first.
The destination is a directory now, and everything in it is open to its owner, so it can be removed;
what is left then is the tree in which it was created, so it is created and filled as before.

The second run is not traced call by call.  A step only depends on what is found at the places that
it visits, so it is enough to show that the second run finds the same there.  Two relations say
this: `SameAlong` that two trees agree on the way to the source and in it, and `SameView` that they
hold the same objects everywhere, in whatever order their tables list them.

Callers whom permission bits bind are not excluded.  The first run has created the destination,
which it could not have done without the right to edit the directory that holds it, and removing an
entry of a directory takes the same right.  What lies inside can be removed, since every directory
that a run creates is open to its owner.

## What is here

* `Rebuild.sameAlong`, `Rebuild.clean` — the source is as it was, and nothing stands in its way.
* `Founded`, `Rebuild.exists_founded` — the call by which the destination was created.
* `Rebuild.opened` — everything in the destination is open to its owner.
* `Rebuild.check_again`, `Rebuild.plan_again` — the second check, and the second plan.
* `Rebuild.allTaken_again` — the steps of the second plan, and what they leave.
-/

set_option autoImplicit false

namespace AssetPublish

open FileSystem

variable {fs fs₁ fs₂ mid left out : FileSystem} {caller : Caller} {source dest path : Path}
  {settings : Settings} {steps : List Operation} {visits : List Visit} {location : Location}
  {object : Object} {mode : Nat}

/-! ## The calls that create a directory -/

/-- A directory that must be new is created by a single call, after those above it. -/
theorem makeDirectory_of_makeOne (h : outcome (makeOne caller path false) fs = (.ok (), left)) :
    makeDirectory caller path.text fs = .ok left := by
  rw [makeOne, outcome_bind_of_ok (outcome_get fs)] at h
  split at h
  · rename_i made hmade
    obtain ⟨-, rfl⟩ := Prod.mk.inj (show _ = _ from h)
    exact hmade
  · obtain ⟨herror, -⟩ := Prod.mk.inj (show _ = _ from h)
    simp at herror
  · obtain ⟨herror, -⟩ := Prod.mk.inj (show _ = _ from h)
    simp at herror
  · obtain ⟨herror, -⟩ := Prod.mk.inj (show _ = _ from h)
    simp at herror

theorem exists_makeDirectory_of_new
    (h : outcome (makeNewDirectory caller path) fs = (.ok (), left)) :
    ∃ mid, makeDirectory caller path.text mid = .ok left := by
  rw [makeNewDirectory] at h
  cases hdepth : path.parts.length with
  | zero =>
    rw [hdepth, makeWithParents] at h
    exact ⟨fs, makeDirectory_of_makeOne h⟩
  | succ depth =>
    rw [hdepth, makeWithParents, outcome_bind_of_ok (outcome_get fs)] at h
    split at h
    · rcases outcome_bind_eq h with ⟨fault, -, hfault⟩ | ⟨⟨⟩, mid, -, hone⟩
      · simp at hfault
      · exact ⟨mid, makeDirectory_of_makeOne hone⟩
    · exact ⟨fs, makeDirectory_of_makeOne h⟩

/-- Where a directory can be created by a single call, no other one is needed. -/
theorem makeNewDirectory_of_makeDirectory (h : makeDirectory caller path.text fs = .ok left) :
    outcome (makeNewDirectory caller path) fs = (.ok (), left) := by
  have hone : outcome (makeOne caller path false) fs = (.ok (), left) := by
    rw [makeOne, outcome_bind_of_ok (outcome_get fs), h]
    rfl
  rw [makeNewDirectory]
  cases path.parts.length with
  | zero => exact hone
  | succ depth =>
    rw [makeWithParents, outcome_bind_of_ok (outcome_get fs), h]
    exact hone

/-- The call by which the destination is created where it is spelled, in a tree in which everything
above it is there.  The tree before this call is one in the middle of the first run, when the
directories above were there already. -/
structure Founded (mid : FileSystem) (caller : Caller) (dest : Path) (fs₂ : FileSystem) :
    Prop where
  made : makeDirectory caller dest.text mid = .ok fs₂
  created : ∃ bits, Created mid fs₂ (dest.place caller) (.directory (newDirectoryMode bits))
  proper : dest.Proper
  entered : mid.Entered caller dest
  edit : mid.mayEdit caller (dest.parent.place caller) = true

/-- What the owner is granted stays granted with more bits. -/
theorem Caller.grants_or (caller : Caller) {owner : Nat} (bits : Nat)
    (howner : owner.testBit 8 = true ∧ owner.testBit 7 = true ∧ owner.testBit 6 = true) :
    caller.mayRead (owner ||| bits) = true ∧ caller.mayWrite (owner ||| bits) = true ∧
      caller.mayPass (owner ||| bits) = true := by
  simp [Caller.mayRead, Caller.mayWrite, Caller.mayPass, Caller.may, howner]

/-- A path that names its own place is entered. -/
theorem entered_of_names (hne : path.parts ≠ []) (h : fs.Names caller path (path.place caller)) :
    fs.Entered caller path := by
  obtain ⟨init, name, links, dir, hparts, -, hleads, hpass, hplace⟩ := h
  have hinit : path.parent.parts = init := by
    show path.parts.dropLast = init
    rw [hparts, List.dropLast_concat]
  rw [Path.place_eq hne, List.cons.injEq] at hplace
  rw [← hplace.2] at hpass
  exact entered_of_leads (hinit ▸ hleads) hpass

/-- Steps that recreate objects can be taken wherever the view is the same. -/
theorem AllTaken.exists_of_sameView (h : AllTaken caller steps fs out)
    (hsteps : List.Forall₂ (Recreation source dest) visits steps) {fs' : FileSystem}
    (hview : SameView fs fs') : ∃ out', AllTaken caller steps fs' out' ∧ SameView out out' := by
  induction hsteps generalizing fs fs' with
  | nil =>
    cases h with
    | nil => exact ⟨fs', .nil, hview⟩
  | cons hfirst _ ih =>
    cases h with
    | cons hhandle hrest =>
      obtain ⟨mid', hhandle', hmid⟩ := (byView_handle hfirst.kind).exists_outcome hview hhandle
      obtain ⟨out', hrest', hout⟩ := ih hrest hmid
      exact ⟨out', .cons hhandle' hrest', hout⟩

namespace Rebuild

variable (h : Rebuild settings caller fs fs₁ fs₂ out steps)

include h

/-- **The destination has been created by a single call**, after those above it.  The call that
first reports a missing directory does not count; it changes nothing. -/
theorem exists_founded : ∃ mid, Founded mid caller settings.destination fs₂ := by
  have hne := h.roots.destDown.2.1
  obtain ⟨mid, hmade⟩ := exists_makeDirectory_of_new h.created
  obtain ⟨dir, name, bits, hfree, hleft⟩ := exists_freePlace_of_makeDirectory hmade
  obtain ⟨hsize, hnames, -, hedit, -⟩ := freePlace_eq_ok hfree
  -- The call has created the root, since that is what the path names afterwards.
  obtain ⟨before, mode, -, hroot, hcreated⟩ := h.prepared.new
  have hplace : name :: dir = settings.destination.place caller :=
    (hnames.mono hleft.le).unique (hroot.mono hcreated.le)
  rw [hplace] at hnames hleft
  have hdir : dir = settings.destination.parent.place caller := by
    rw [Path.place_eq hne, List.cons.injEq] at hplace
    exact hplace.2
  have hproper : settings.destination.Proper := ⟨hne, fun part hpart =>
    isFileName_of_get?_append hleft.self part (List.mem_reverse.2 hpart), hsize⟩
  exact ⟨mid, hmade, ⟨bits, hleft⟩, hproper, entered_of_names hne hnames, hdir ▸ hedit⟩

/-- Outside of the destination the tree is as it was when that was created. -/
theorem get?_eq_of_founded (hmid : Founded mid caller settings.destination fs₂)
    (hout : ¬ settings.destination.place caller <:+ location) :
    out.get? location = mid.get? location := by
  obtain ⟨bits, hcreated⟩ := hmid.created
  rw [h.grown.outside location fun hbelow => hout hbelow.1, hcreated.of_ne]
  rintro rfl
  exact hout List.suffix_rfl

/-! ## The tree that is left -/

theorem exists_directory :
    ∃ bits, out.get? (settings.destination.place caller)
      = some (.directory (newDirectoryMode bits)) := by
  obtain ⟨mid, hmid⟩ := h.exists_founded
  obtain ⟨bits, hcreated⟩ := hmid.created
  exact ⟨bits, (h.grown.outside _ not_below_self).trans hcreated.self⟩

/-- What becomes of a location outside of the destination. -/
theorem spared (hout : ¬ settings.destination.place caller <:+ location) :
    Spared fs caller settings.destination location out := by
  have hlost := h.prepared.removed.cleared.lost_place h.roots.destDown h.roots.destFree
  exact (spared_of_built (hlost.only location hout) List.prefix_rfl h.prepared.built).of_frame
    (h.prepared.empty.le h.grown) (h.grown.outside location fun hbelow => hout hbelow.1)

/-- The destination is reached without a link. -/
theorem linkFree : out.LinkFree caller.workingDirectory settings.destination.parts := by
  obtain ⟨bits, hdir⟩ := h.exists_directory
  rw [Path.place, h.roots.destDown.start_eq] at hdir
  exact linkFree_of_get? hdir rfl

/-- **The source is as it was**, and so are the directories that it lies in.  What is new lies above
the destination or in it, and above the source nothing was missing. -/
theorem sameAlong : SameAlong fs out (settings.source.place caller) := by
  intro location hline
  have hout : ¬ settings.destination.place caller <:+ location := by
    intro hin
    rcases hline with habove | hbelow
    · exact h.outer ((place_suffix_iff h.roots.sourceDown h.roots.destDown).1 (hin.trans habove))
    · rcases List.suffix_or_suffix_of_suffix hin hbelow with hwithin | hwithin
      · exact h.outer ((place_suffix_iff h.roots.sourceDown h.roots.destDown).1 hwithin)
      · exact h.roots.apart ((place_suffix_iff h.roots.destDown h.roots.sourceDown).1 hwithin)
  cases hobject : fs.get? location with
  | some object => exact (h.spared hout).kept object hobject
  | none =>
    cases hnew : out.get? location with
    | none => rfl
    | some object =>
      -- What is new lies above the destination, but nothing was missing above the source.
      exfalso
      obtain ⟨-, front, links, hfront, hleads⟩ := (h.spared hout).new object hobject hnew
      rw [h.roots.destDown.start_eq] at hleads
      obtain ⟨-, rfl⟩ := hleads.straight
        (fun name hname => h.roots.destDown.isName_and_ne name (hfront.subset hname))
        (h.linkFree.left hfront)
      rcases hline with habove | hbelow
      · obtain ⟨mode, hsource⟩ := h.source
        obtain ⟨-, -, hdir⟩ := find?_text_eq_ok_iff.1 hsource
        obtain ⟨other, hother⟩ := exists_object_of_suffix habove hdir
        rw [hobject] at hother
        simp at hother
      · have hwithin : front.reverse ++ caller.workingDirectory
            <:+ settings.destination.place caller := by
          rw [Path.place, h.roots.destDown.start_eq]
          obtain ⟨rest, heq⟩ := List.reverse_suffix.2 hfront
          exact ⟨rest, by rw [← heq, List.append_assoc]⟩
        exact h.roots.apart ((place_suffix_iff h.roots.destDown h.roots.sourceDown).1
          (hbelow.trans hwithin))

/-- The source is found again. -/
theorem source_again : ∃ mode, out.follow? caller settings.source.text
    = .ok (settings.source.place caller, .directory mode) := by
  obtain ⟨mode, hsource⟩ := h.source
  obtain ⟨-, -, hdir⟩ := find?_text_eq_ok_iff.1 hsource
  exact ⟨mode, h.sameAlong.find?_eq_ok h.roots.sourceDown.2.1 List.suffix_rfl hdir (Or.inr rfl)
    hsource⟩

/-- **Nothing stands in the way of the roots any more.**  The tree that a run leaves is cleaner than
the one that it may have found, since the destination is a directory now, and no link. -/
theorem clean : Clean out caller settings.source settings.destination where
  sourceDown := h.roots.sourceDown
  destDown := h.roots.destDown
  names := by
    obtain ⟨mid, hmid⟩ := h.exists_founded
    exact hmid.proper.names
  apart := h.roots.apart
  outer := h.outer
  sourceFree := by
    obtain ⟨mode, hsource⟩ := h.source_again
    obtain ⟨-, -, hdir⟩ := find?_text_eq_ok_iff.1 hsource
    rw [Path.place, h.roots.sourceDown.start_eq] at hdir
    exact linkFree_of_get? hdir rfl
  destFree := h.linkFree
  directory := by
    obtain ⟨mode, hsource⟩ := h.source_again
    exact ⟨mode, (find?_text_eq_ok_iff.1 hsource).2.2⟩
  paved := by
    obtain ⟨mid, hmid⟩ := h.exists_founded
    obtain ⟨bits, hdir⟩ := h.exists_directory
    obtain ⟨mode, hparent⟩ := exists_parent_directory hmid.proper hdir
    exact paved_of_deepest List.suffix_rfl hparent fun further hfurther hlonger =>
      absurd hfurther.length_le (Nat.not_le.2 hlonger)

/-- **Everything in the destination is open to its owner.**  The bits that a copied directory is
given are those of the original and those that its owner needs. -/
theorem opened : out.Opened caller (settings.destination.place caller) := by
  rintro place mode ⟨names, rfl⟩ hdir
  by_cases hnil : names = []
  · subst hnil
    obtain ⟨bits, hroot⟩ := h.exists_directory
    rw [List.nil_append, hroot] at hdir
    cases hdir
    exact caller.grants_or _ (by decide)
  · rw [← List.reverse_reverse names] at hdir
    obtain ⟨object, -, hmirrored⟩ := h.mem_copied (by simpa using hnil) hdir
    cases object with
    | directory bits =>
      cases hmirrored
      rw [Nat.or_comm]
      exact caller.grants_or bits (by decide)
    | _ => simp [Object.mirrored?] at hmirrored

/-! ## The second check and the second plan -/

theorem check_again : settings.check out caller = .ok () := by
  obtain ⟨mode, hsource⟩ := h.source_again
  exact check_of_clean h.clean hsource

/-- The destination can be reached as it could when it was created. -/
theorem entered_again (hmid : Founded mid caller settings.destination fs₂) :
    out.Entered caller settings.destination ∧
      out.mayEdit caller (settings.destination.parent.place caller) = true := by
  have habove : ∀ location, location <:+ settings.destination.parent.place caller →
      out.get? location = mid.get? location := fun location hlocation =>
    h.get?_eq_of_founded hmid fun hin =>
      Path.not_place_suffix_parent hmid.proper.nonempty caller (hin.trans hlocation)
  refine ⟨hmid.entered.congr habove, ?_⟩
  rw [mayEdit, habove _ List.suffix_rfl]
  exact hmid.edit

theorem exists_again : out.exists? caller settings.destination.text = .ok true := by
  obtain ⟨mid, hmid⟩ := h.exists_founded
  obtain ⟨bits, hdir⟩ := h.exists_directory
  rw [exists?, (h.entered_again hmid).1.follow?_eq hmid.proper hdir rfl]
  rfl

/-- **The second plan removes the destination first**; the scan tells the same, and the other steps
are those of the first plan.  It is the plan that the first run would have had if anything had been
at the destination. -/
theorem plan_again : settings.plan out caller
    = ⟨(settings.plan fs caller).events, .ok (rootSteps true settings.destination ++ steps)⟩ := by
  obtain ⟨mode, hsource⟩ := h.source
  have hscan : Scan.all out caller settings.exclusion.scanRule settings.source
      = Scan.all fs caller settings.exclusion.scanRule settings.source :=
    h.sameAlong.scan_eq h.roots.sourceDown.2.1 hsource (fault_of_plan_eq_ok h.plan)
  have hroots : settings.rootSteps? out caller = .ok (rootSteps true settings.destination) := by
    simp [Settings.rootSteps?, h.exists_again, rootSteps]
  have hplans := plans settings fs caller
  rw [h.plan] at hplans
  generalize hall :
    rootSteps (fs.occupied caller settings.destination) settings.destination ++ steps
      = all at hplans
  cases hplans with
  | whole hfirst hsteps hfault =>
    rw [← rootSteps?_eq_ok hfirst, List.append_cancel_left_eq] at hall
    subst hall
    simp [Settings.plan, hroots, hfirst, hscan, Settings.ask, hsteps, hfault]

/-! ## The second run's steps -/

/-- Removing the destination leaves the tree in which it was created. -/
theorem exists_removed_again (hmid : Founded mid caller settings.destination fs₂) :
    ∃ left, outcome (Operation.removeDestination caller settings.destination) out = (.ok (), left) ∧
      SameView mid left := by
  obtain ⟨bits, hdir⟩ := h.exists_directory
  obtain ⟨hentered, hedit⟩ := h.entered_again hmid
  obtain ⟨left, hleft⟩ := exists_removeDestination hmid.proper hentered hedit h.opened hdir
  refine ⟨left, hleft, .of_forall fun location => ?_⟩
  have hoccupied : out.occupied caller settings.destination = true := by
    rw [occupied, h.exists_again]
  have hremoved : Removed out caller settings.destination
      (out.occupied caller settings.destination) left := by
    rw [hoccupied]
    exact removed_of_handle hleft
  rw [hremoved.get?_eq, vacated, if_pos hoccupied,
    ownPlace_eq_place h.roots.destDown (h.linkFree.left (List.dropLast_prefix _)),
    get?_without (hmid.proper.place_ne_nil caller)]
  split
  · rename_i hin
    obtain ⟨bits, hcreated⟩ := hmid.created
    cases hobject : mid.get? location with
    | none => rfl
    | some object =>
      obtain ⟨other, hother⟩ := exists_object_of_suffix hin hobject
      rw [hcreated.free] at hother
      simp at hother
  · rename_i hout
    exact (h.get?_eq_of_founded hmid hout).symm

/-- **All steps of the second plan can be taken**, and leave every object as it was.  Once the
destination has been created again, the tree holds what it held in the first run at that moment, and
from there on the same steps do the same. -/
theorem allTaken_again : ∃ out',
    AllTaken caller (rootSteps true settings.destination ++ steps) out out' ∧
      SameView out out' := by
  obtain ⟨mid, hmid⟩ := h.exists_founded
  obtain ⟨left, hremove, hview⟩ := h.exists_removed_again hmid
  have hmake : AlikeChanges (makeDirectory caller settings.destination.text _)
      (makeDirectory caller settings.destination.text left) := hview.makeDirectory
  rw [hmid.made] at hmake
  generalize hmade : makeDirectory caller settings.destination.text left = answer at hmake
  cases hmake with
  | @made _ created hcreated =>
    obtain ⟨out', hfilled, hsame⟩ := h.filled.exists_of_sameView h.recreations hcreated
    exact ⟨out', .cons hremove (.cons (makeNewDirectory_of_makeDirectory hmade) hfilled), hsame⟩

end Rebuild
end AssetPublish
