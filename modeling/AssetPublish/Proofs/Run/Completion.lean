import AssetPublish.Proofs.FileSystem.Circles
import AssetPublish.Proofs.Run.Rebuild
import AssetPublish.Proofs.Run.Success
import AssetPublish.Proofs.Run.Unhindered
import AssetPublish.Proofs.Scan.Exactness

/-!
# Runs that come to their end

A run can fail for many reasons, but for the privileged nearly all of them lie in the two roots: if
these are clean, nothing that the source holds and nothing that is at the destination stands in the
way.  What remains is that no path is too long.

`Clean` speaks of the two roots and of the tree in front of a run, and `Spelled` of lengths; nothing
is said about what a plan or a step does.  Everything else that a run meets is covered: objects of
all kinds in the source, and at the destination whatever may be there, a file, a tree that nobody
may enter, or nothing.  Such a tree can be removed since the caller is privileged, and what replaces
it can be filled since it is the run that has made it.

The names of the destination have to be asked for.  The names of objects that are there are proper,
as in every tree; but a destination need not be there, and a name with a zero character is one that
no call accepts.

## What is here

* `Clean`, `Spelled` — roots that nothing stands in the way of, and paths that are not too long.
* `Clean.exists_unhindered` — the steps of a plan between clean roots all succeed.
* `check_of_clean`, `exists_plan_of_clean` — clean roots are accepted, and there is a plan.
* `run_completes` — the main statement; `run_unnamable_mixedTree` shows that the names of the
  destination matter.
-/

set_option autoImplicit false

namespace AssetPublish

open FileSystem Run

variable {fs out : FileSystem} {caller : Caller} {source dest : Path} {object : Object} {mode : Nat}
  {names : List String} {settings : Settings} {around : Circumstances} {steps : List Operation}

/-! ## The two roots

What is asked is asked of the tree in front of the run.  That it still holds when the destination
has been removed and created is shown in this section. -/

/-- Roots that nothing stands in the way of.  Both are relative, without steps up, and neither is
spelled below the other; no link is met on the way to them, nor at their own places.  The source is
a directory, and so is whatever is there already above the destination.  In contrast to `Straight`,
it is asked for what has to be there: the source, and the directories from which the destination can
be reached. -/
structure Clean (fs : FileSystem) (caller : Caller) (source dest : Path) : Prop where
  sourceDown : source.IsDownward
  destDown : dest.IsDownward
  names : ∀ name ∈ dest.parts, IsFileName name
  apart : ¬ source.parts <+: dest.parts
  outer : ¬ dest.parts <+: source.parts
  sourceFree : fs.LinkFree caller.workingDirectory source.parts
  destFree : fs.LinkFree caller.workingDirectory dest.parts
  directory : ∃ mode, fs.get? (source.place caller) = some (.directory mode)
  paved : fs.Paved (dest.parent.place caller)

/-- No path that is spelled for an object of the source is too long, and neither is one that a link
of it holds.  The paths of the copies are asked for as well, since they are longer than those of the
originals if the destination's path is. -/
def Spelled (fs : FileSystem) (caller : Caller) (source dest : Path) : Prop :=
  ∀ names object, fs.get? (names.reverse ++ source.place caller) = some object →
    (source.append names).text.utf8ByteSize ≤ spellingLimit ∧
    (dest.append names).text.utf8ByteSize ≤ spellingLimit ∧ object.heldSize ≤ spellingLimit

/-- It is enough to look at the objects that there are. -/
theorem spelled_of_objects (hsource : source.text.utf8ByteSize ≤ spellingLimit)
    (hdest : dest.text.utf8ByteSize ≤ spellingLimit)
    (h : ∀ entry ∈ fs.objects,
      let names := (entry.1.take (entry.1.length - (source.place caller).length)).reverse
      (source.append names).text.utf8ByteSize ≤ spellingLimit ∧
      (dest.append names).text.utf8ByteSize ≤ spellingLimit ∧
      entry.2.heldSize ≤ spellingLimit) :
    Spelled fs caller source dest := by
  intro names object hobject
  rw [get?] at hobject
  split at hobject
  · rename_i hroot
    obtain ⟨hnames, -⟩ := List.append_eq_nil_iff.1 hroot
    obtain rfl := List.reverse_eq_nil_iff.1 hnames
    obtain rfl := Option.some.inj hobject
    rw [Path.append_nil, Path.append_nil]
    exact ⟨hsource, hdest, Nat.zero_le _⟩
  · have hentry := h _ (objectAt?_mem hobject)
    simpa using hentry

namespace Clean

variable (h : Clean fs caller source dest)

include h

theorem straight : Straight fs caller source dest where
  sourceDown := h.sourceDown
  destDown := h.destDown
  sourceFree := h.sourceFree
  destFree := h.destFree.left (List.dropLast_prefix _)
  apart := h.apart

theorem exists_workingDirectory :
    ∃ mode, fs.get? caller.workingDirectory = some (.directory mode) := by
  obtain ⟨mode, hdirectory⟩ := h.directory
  rw [Path.place, h.sourceDown.start_eq] at hdirectory
  exact exists_directory_of_get?_append (by simpa using h.sourceDown.2.1) hdirectory

theorem sourceNames : ∀ name ∈ source.parts, IsFileName name := by
  intro name hname
  obtain ⟨mode, hdirectory⟩ := h.directory
  rw [Path.place] at hdirectory
  exact isFileName_of_get?_append hdirectory name (List.mem_reverse.2 hname)

theorem proper (hspelled : Spelled fs caller source dest) : source.Proper ∧ dest.Proper := by
  obtain ⟨mode, hdirectory⟩ := h.directory
  obtain ⟨hsource, hdest, -⟩ := hspelled [] _ hdirectory
  rw [Path.append_nil] at hsource hdest
  exact ⟨⟨h.sourceDown.2.1, h.sourceNames, hsource⟩, ⟨h.destDown.2.1, h.names, hdest⟩⟩

/-- An object of the source can be recreated as long as it is kept. -/
theorem recreatable (hspelled : Spelled fs caller source dest)
    (hobject : fs.get? (names.reverse ++ source.place caller) = some object) {mid : FileSystem}
    (hkept : mid.get? (names.reverse ++ source.place caller) = some object) :
    Recreatable source dest caller (names, object) mid := by
  obtain ⟨hsource, hdest, hheld⟩ := hspelled names object hobject
  have hnames : ∀ name ∈ names, IsFileName name := fun name hname =>
    isFileName_of_get?_append hobject name (List.mem_reverse.2 hname)
  refine ⟨Path.proper_append h.sourceDown.2.1 h.sourceNames hnames hsource,
    Path.proper_append h.destDown.2.1 h.names hnames hdest, ?_, hheld⟩
  rw [Path.place_append source fun name hname => (hnames name hname).isName]
  exact hkept

theorem not_link (hobject : fs.get? (dest.place caller) = some object) :
    object.isLink = false := by
  rw [Path.place, h.destDown.start_eq] at hobject
  cases object with
  | link target =>
    exact absurd hobject (h.destFree dest.parts List.prefix_rfl h.destDown.2.1 target)
  | _ => rfl

/-- The destination is occupied if anything is where it is spelled. -/
theorem occupied_iff (hcaller : caller.privileged = true) (hdest : dest.Proper) :
    fs.occupied caller dest = true ↔ ∃ object, fs.get? (dest.place caller) = some object := by
  constructor
  · exact exists_of_occupied h.destDown h.destFree
  · rintro ⟨object, hobject⟩
    rw [occupied, exists?, follow?_place hcaller hdest hobject (h.not_link hobject)]
    rfl

theorem ownPlace_eq : fs.ownPlace caller dest = dest.place caller :=
  ownPlace_eq_place h.destDown h.straight.destFree

/-- Whatever is at the destination can be removed. -/
theorem exists_removed (hcaller : caller.privileged = true) (hdest : dest.Proper) :
    ∃ fs₁, Removed fs caller dest (fs.occupied caller dest) fs₁ ∧
      fs₁.get? (dest.place caller) = none ∧ ∀ rest out,
        Unhindered caller ({ kind := .createDestination, target := dest } :: rest) fs₁ out →
        Unhindered caller (rootSteps (fs.occupied caller dest) dest ++ rest) fs out := by
  cases hoccupied : fs.occupied caller dest with
  | false =>
    refine ⟨fs, ⟨.nothing rfl, fun _ => rfl, by simp⟩, ?_, fun rest out hrest => hrest⟩
    cases hobject : fs.get? (dest.place caller) with
    | none => rfl
    | some object =>
      rw [(h.occupied_iff hcaller hdest).2 ⟨object, hobject⟩] at hoccupied
      simp at hoccupied
  | true =>
    obtain ⟨object, hobject⟩ := (h.occupied_iff hcaller hdest).1 hoccupied
    obtain ⟨mode, hdir⟩ := exists_parent_directory hdest hobject
    obtain ⟨fs₁, hhandle⟩ := exists_removeDestination hdest (entered_of_privileged hcaller hdir)
      (mayEdit_of_privileged hcaller hdir) (opened_of_privileged hcaller) hobject
    have hremoved : Removed fs caller dest true fs₁ := removed_of_handle hhandle
    obtain ⟨location, hnames, hgone⟩ := hremoved.gone rfl
    obtain rfl := hnames.eq_ownPlace.trans h.ownPlace_eq
    exact ⟨fs₁, hremoved, hgone, fun rest out hrest =>
      .cons (fun hkind => absurd rfl hkind) hhandle hrest⟩

/-- **The destination can be removed and created anew.**  The steps for this come first in a plan,
so that it is stated for any steps behind them. -/
theorem exists_prepared (hcaller : caller.privileged = true) (hdest : dest.Proper) :
    ∃ fs₁ fs₂, Prepared fs caller dest (fs.occupied caller dest) fs₁ (dest.place caller) fs₂ ∧
      ∀ rest out, Unhindered caller rest fs₂ out →
        Unhindered caller (rootSteps (fs.occupied caller dest) dest ++ rest) fs out := by
  obtain ⟨fs₁, hremoved, hgone, hsteps⟩ := h.exists_removed hcaller hdest
  have hlost := hremoved.cleared.lost_place h.destDown h.straight.destFree
  obtain ⟨mode, hstart⟩ := h.exists_workingDirectory
  have hkept : fs₁.get? (dest.start caller) = some (.directory mode) := by
    rw [h.destDown.start_eq, hlost.only, hstart]
    intro hwithin
    have hle := hwithin.length_le
    have hpos := List.length_pos_iff.2 h.destDown.2.1
    rw [Path.place, h.destDown.start_eq, List.length_append, List.length_reverse] at hle
    omega
  obtain ⟨fs₂, hhandle, -⟩ := exists_makeWithParents hcaller false hdest (Nat.le_refl _) hkept
    (h.paved.mono hlost.le) hgone
  obtain ⟨root, hprepared⟩ := prepared_of_builds hremoved (builds_of_handle hhandle)
  obtain rfl := hprepared.root_eq h.destDown h.straight.destFree
  exact ⟨fs₁, fs₂, hprepared, fun rest out hrest =>
    hsteps rest out (.cons (fun _ hkind => absurd rfl hkind) hhandle hrest)⟩

/-- **Nothing stands in the way of all steps of a plan.**  What the source holds is still there when
its turn comes, since the source is apart from the destination. -/
theorem exists_unhindered (hcaller : caller.privileged = true)
    (hspelled : Spelled fs caller source dest) {rule : Exclusion} {steps : List Operation}
    (hsteps : List.Forall₂ (Recreation source dest) (fs.copied rule (source.place caller)) steps) :
    ∃ out, Unhindered caller (rootSteps (fs.occupied caller dest) dest ++ steps) fs out := by
  obtain ⟨fs₁, fs₂, hprepared, hroots⟩ := h.exists_prepared hcaller (h.proper hspelled).2
  have hempty := hprepared.empty
  obtain ⟨out, hrest⟩ := exists_unhindered_recreations hcaller h.destDown.2.1 hempty hempty.grown
    ordered_copied hsteps fun visit hvisit mid hmid => by
      obtain ⟨names, object⟩ := visit
      obtain ⟨-, hobject, -⟩ := mem_copied_iff.1 hvisit
      exact h.recreatable hspelled hobject
        (hprepared.source_kept h.straight h.outer hmid (List.suffix_append _ _) hobject)
  exact ⟨out, hroots steps out hrest⟩

/-! ### Comparing the roots, and looking them up -/

theorem exists_follow? (hcaller : caller.privileged = true) (hsource : source.Proper) :
    ∃ mode, fs.follow? caller source.text = .ok (source.place caller, .directory mode) := by
  obtain ⟨mode, hdirectory⟩ := h.directory
  exact ⟨mode, follow?_place hcaller hsource hdirectory rfl⟩

/-- Neither root lies within the other. -/
theorem isWithin?_eq : fs.isWithin? caller dest source = .ok false ∧
    fs.isWithin? caller source dest = .ok false := by
  obtain ⟨mode, hstart⟩ := h.exists_workingDirectory
  obtain ⟨form, hform, -, hparts⟩ := exists_canonical?_of_linkFree hstart h.sourceDown.1
    h.sourceDown.2.1 h.sourceNames h.sourceFree
  obtain ⟨destForm, hdestForm, -, hdestParts⟩ := exists_canonical?_of_linkFree hstart
    h.destDown.1 h.destDown.2.1 h.names h.destFree
  have hinside : ¬ destForm.IsWithin form := by
    rintro ⟨-, hprefix⟩
    rw [hparts, hdestParts, List.prefix_append_right_inj] at hprefix
    exact h.apart hprefix
  have haround : ¬ form.IsWithin destForm := by
    rintro ⟨-, hprefix⟩
    rw [hparts, hdestParts, List.prefix_append_right_inj] at hprefix
    exact h.outer hprefix
  simp [isWithin?, hform, hdestForm, hinside, haround]

/-- The destination can be looked up. -/
theorem not_barred (hcaller : caller.privileged = true) (hdest : dest.Proper) :
    ¬ fs.Barred caller dest := by
  rintro ⟨refusal, hrefusal, hfollow⟩
  have hnull : '\x00' ∉ dest.text.toList := hdest.spellable.1
  obtain ⟨refusal', -, heq, hreach⟩ := find?_text_eq_error hnull (by simp) hfollow
  obtain rfl : refusal = refusal' := by simpa [Fault.refused] using heq
  have habsent : refusal.meansAbsent = false := by rcases hrefusal with rfl | rfl <;> rfl
  obtain ⟨other, hother, ⟨hlong, -⟩ | ⟨-, hwalk⟩⟩ := reach?_text_eq_error hnull (hreach habsent)
  · exact absurd hlong (Nat.not_lt.2 hdest.size)
  · obtain rfl : refusal = other := by simpa [Fault.refused] using hother
    rw [Path.steps_text h.destDown.2.1, h.destDown.start_eq] at hwalk
    rcases walk_eq_error_of_linkFree h.names h.destFree hwalk with rfl | rfl | ⟨-, hbound⟩
    · simp at hrefusal
    · simp at hrefusal
    · simp [hcaller] at hbound

end Clean

/-! ## Checking and planning

No rule of the program's own refuses clean roots, and no question to the system about them fails. -/

/-- **Clean roots are accepted** wherever the source is found. -/
theorem check_of_clean (h : Clean fs caller settings.source settings.destination)
    {location : Location}
    (hfollow : fs.follow? caller settings.source.text = .ok (location, .directory mode)) :
    settings.check fs caller = .ok () := by
  have hexists : fs.exists? caller settings.source.text = .ok true := by
    rw [exists?, hfollow]
    rfl
  have hdirectory : fs.isDirectory? caller settings.source.text = .ok true := by
    rw [isDirectory?, hfollow]
    rfl
  obtain ⟨hinside, haround⟩ := h.isWithin?_eq
  simp [Settings.check, Settings.ask, hexists, hdirectory, hinside, haround]

theorem exists_rootSteps? (hcaller : caller.privileged = true)
    (h : Clean fs caller settings.source settings.destination)
    (hdest : settings.destination.Proper) :
    ∃ steps, settings.rootSteps? fs caller = .ok steps := by
  have hnull : '\x00' ∉ settings.destination.text.toList := hdest.spellable.1
  rw [Settings.rootSteps?]
  cases hexists : fs.exists? caller settings.destination.text with
  | error fault =>
    exact absurd ((exists?_eq_error_iff hnull).1 ⟨fault, hexists⟩) (h.not_barred hcaller hdest)
  | ok found =>
    cases found with
    | true => simp
    | false =>
      obtain ⟨answer, hlink⟩ := isLink?_of_exists? hnull hexists
      simp [hlink]

/-- **Clean roots have a plan**, which removes what is at the destination, creates the destination,
and recreates objects of the source in it.  The scan is exact where no spelled path is too long, so
that the plan can be told from the tree. -/
theorem exists_plan_of_clean (hcaller : caller.privileged = true)
    (hplain : settings.exclusion.IsPlain)
    (h : Clean fs caller settings.source settings.destination)
    (hspelled : Spelled fs caller settings.source settings.destination) :
    ∃ entrySteps, (settings.plan fs caller).result
        = .ok (rootSteps (fs.occupied caller settings.destination) settings.destination ++
          entrySteps) ∧
      List.Forall₂ (Recreation settings.source settings.destination)
        (fs.copied settings.exclusion (settings.source.place caller)) entrySteps := by
  obtain ⟨hsource, hdest⟩ := h.proper hspelled
  obtain ⟨mode, hfollow⟩ := h.exists_follow? hcaller hsource
  obtain ⟨first, hfirst⟩ := exists_rootSteps? hcaller h hdest
  obtain ⟨entrySteps, hentries⟩ := exists_stepsFor? settings.exclusion settings.destination hfollow
  have hreadable : ReadableBelow fs settings.exclusion settings.source
      (settings.source.place caller) := fun names object _ hobject _ =>
    (hspelled names object hobject).1
  have hfault := (fault_eq_none_iff hcaller hplain hfollow).2 hreadable
  have hplan : (settings.plan fs caller).result = .ok (first ++ entrySteps) := by
    simp [Settings.plan, hfirst, Settings.ask, hentries, hfault]
  obtain ⟨recreations, hsteps, hrecreations⟩ := plan_cases hfollow hplan
  exact ⟨recreations, by rw [hplan, hsteps], hrecreations⟩

/-! ## Running -/

/-- **A run between clean roots comes to its end.**  For the privileged, if no path is too long and
nothing interferes, it takes all steps of its plan, and each step that recreates something finds
nothing at its target and a directory above it.  That a step finds its target free and in a
directory is part of the statement, since it holds of each step in the tree that this step finds,
and not only of the result. -/
theorem run_completes (hcaller : around.caller.privileged = true)
    (hplain : settings.exclusion.IsPlain) (hneutral : around.Neutral)
    (hcalm : ∀ operation, around.disturbance operation = none) (hreal : settings.dryRun = false)
    (hroots : Clean fs around.caller settings.source settings.destination)
    (hfits : settings.Fits fs around.caller)
    (hspelled : Spelled fs around.caller settings.source settings.destination) :
    ∃ tally steps, (settings.run around fs).result = .ok tally ∧
      (settings.plan fs around.caller).result = .ok steps ∧
      Unhindered around.caller steps fs (settings.run around fs).fs := by
  obtain ⟨entrySteps, hplan, hrecreations⟩ := exists_plan_of_clean hcaller hplain hroots hspelled
  obtain ⟨out, hunhindered⟩ := hroots.exists_unhindered hcaller hspelled hrecreations
  obtain ⟨mode, hfollow⟩ := hroots.exists_follow? hcaller (hroots.proper hspelled).1
  have hcheck := check_of_clean hroots hfollow
  obtain ⟨tally, hresult, hout⟩ :=
    run_of_allTaken hneutral hcalm hreal hfits hcheck hplan hunhindered.allTaken
  refine ⟨tally, _, hresult, hplan, ?_⟩
  rwa [hout]

/-- A tree of odd objects, and a directory that nobody may enter where its copy is to be. -/
def occupiedTree : FileSystem :=
  ((mixedTree.create [] "out" (.directory 0o755)).create ["out"] "copy" (.directory 0)).create
    ["copy", "out"] "stale" (.link "nowhere")

/-- Settings for that tree. -/
def copySettings : Settings :=
  { source := Path.ofText "d", destination := Path.ofText "out/copy" }

theorem run_completes_occupiedTree :
    superuser.privileged = true ∧ copySettings.exclusion.IsPlain ∧
      Circumstances.Neutral { caller := superuser } ∧
      (∀ operation, Circumstances.disturbance { caller := superuser } operation = none) ∧
      copySettings.dryRun = false ∧
      Clean occupiedTree superuser copySettings.source copySettings.destination ∧
      copySettings.Fits occupiedTree superuser ∧
      Spelled occupiedTree superuser copySettings.source copySettings.destination ∧
      ∃ tally steps, (copySettings.run { caller := superuser } occupiedTree).result = .ok tally ∧
        (copySettings.plan occupiedTree superuser).result = .ok steps ∧
        Unhindered superuser steps occupiedTree
          (copySettings.run { caller := superuser } occupiedTree).fs := by
  have hneutral : Circumstances.Neutral { caller := superuser } := by simp [Circumstances.Neutral]
  have hsource : occupiedTree.get? (copySettings.source.place superuser)
      = some (.directory 0o755) := by decide +kernel
  have hparent : occupiedTree.get? (copySettings.destination.parent.place superuser)
      = some (.directory 0o755) := by decide +kernel
  have hpaved : occupiedTree.Paved (copySettings.destination.parent.place superuser) :=
    paved_of_deepest List.suffix_rfl hparent fun further hfurther hlonger =>
      absurd hfurther.length_le (Nat.not_le.2 hlonger)
  have hroots : Clean occupiedTree superuser copySettings.source copySettings.destination :=
    { sourceDown := by decide
      destDown := by decide
      names := by decide
      apart := by decide
      outer := by decide
      sourceFree := linkFree_of_get? (show _ = some (.directory 0o755) by decide +kernel) rfl
      destFree := linkFree_of_get? (show _ = some (.directory 0) by decide +kernel) rfl
      directory := ⟨_, hsource⟩
      paved := hpaved }
  have hfits := fits_of_sizeBelow_root copySettings superuser
    (show occupiedTree.sizeBelow [] < sizeBound by decide +kernel)
  have hspelled : Spelled occupiedTree superuser copySettings.source copySettings.destination :=
    spelled_of_objects (by decide +kernel) (by decide +kernel) (by decide +kernel)
  exact ⟨rfl, Exclusion.isPlain_default, hneutral, fun _ => rfl, rfl, hroots, hfits, hspelled,
    run_completes rfl Exclusion.isPlain_default hneutral (fun _ => rfl) rfl hroots hfits hspelled⟩

/-- A destination with a zero character in its name. -/
def unnamableSettings : Settings :=
  { source := Path.ofText "d", destination := Path.ofText "x\x00y" }

/-- With a zero character in the name of the destination, everything else may be in order. -/
theorem run_unnamable_mixedTree :
    Circumstances.Neutral { caller := superuser } ∧ unnamableSettings.dryRun = false ∧
      unnamableSettings.exclusion.IsPlain ∧
      unnamableSettings.source.IsDownward ∧ unnamableSettings.destination.IsDownward ∧
      (∀ name ∈ unnamableSettings.source.parts ++ unnamableSettings.destination.parts,
        name.utf8ByteSize ≤ nameLimit) ∧
      ¬ unnamableSettings.source.parts <+: unnamableSettings.destination.parts ∧
      ¬ unnamableSettings.destination.parts <+: unnamableSettings.source.parts ∧
      mixedTree.LinkFree superuser.workingDirectory unnamableSettings.source.parts ∧
      mixedTree.LinkFree superuser.workingDirectory unnamableSettings.destination.parts ∧
      (∃ mode, mixedTree.get? (unnamableSettings.source.place superuser)
        = some (.directory mode)) ∧
      mixedTree.Paved (unnamableSettings.destination.parent.place superuser) ∧
      unnamableSettings.Fits mixedTree superuser ∧
      Spelled mixedTree superuser unnamableSettings.source unnamableSettings.destination ∧
      (unnamableSettings.run { caller := superuser } mixedTree).result.isOk = false := by
  have hsource : mixedTree.LinkFree superuser.workingDirectory unnamableSettings.source.parts :=
    linkFree_of_get? (show _ = some (.directory 0o755) by decide +kernel) rfl
  have hdest : mixedTree.LinkFree superuser.workingDirectory
      unnamableSettings.destination.parts := by
    intro first hfirst hne target
    rw [show unnamableSettings.destination.parts = ["x\x00y"] by decide] at hfirst
    rcases List.prefix_cons_iff.1 hfirst with rfl | ⟨rest, rfl, hrest⟩
    · exact absurd rfl hne
    · obtain rfl := List.prefix_nil.1 hrest
      have hnone : mixedTree.get? ["x\x00y"] = none := by decide +kernel
      simp [superuser, hnone]
  have hroot : mixedTree.get? (unnamableSettings.destination.parent.place superuser)
      = some (.directory 0o755) := by decide +kernel
  have hpaved : mixedTree.Paved (unnamableSettings.destination.parent.place superuser) :=
    paved_of_deepest List.suffix_rfl hroot fun further hfurther hlonger =>
      absurd hfurther.length_le (Nat.not_le.2 hlonger)
  refine ⟨by simp [Circumstances.Neutral], rfl, Exclusion.isPlain_default, by decide, by decide,
    by decide, by decide, by decide, hsource, hdest, ⟨0o755, by decide +kernel⟩, hpaved,
    fits_of_sizeBelow_root _ _ (by decide +kernel),
    spelled_of_objects (by decide +kernel) (by decide +kernel) (by decide +kernel),
    by decide +kernel⟩

end AssetPublish
