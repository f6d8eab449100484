import AssetPublish.Proofs.FileSystem.Unlinking
import AssetPublish.Proofs.Run.Containment

/-!
# A run makes a mirror

A run that ends well leaves a copy of the source at the destination: whatever the rule does not
leave out is there again, and nothing else.  Both paths are relative and meet no link, but the
destination itself may be anything before, even a link.

That no link is met is asked of the way to the source and of the way to the directory of the
destination.  Then every path of the run denotes the place where it is spelled, in all trees that
the run goes through, and the statement can be put in terms of spelled places.  Nothing is asked of
the destination itself.  A link there is removed like anything else and is not followed.

One direction of the statement says that everything wanted is there, and the other that nothing else
is.  Both come from the invariant on how the destination grows; what is left to show is that the
source is not touched while this happens, so that the copies are copies of what the run found.

## What is here

* `Object.mirrored?` — what stands for an object in the copy.
* `Path.IsDownward` — the relative paths without steps up.
* `mirrored?_of_copies` — a copy that is made while the source stays as it is.
* `Straight`, `not_isPrefix_of_check` — roots that are spelled apart and meet no link.
* `run_mirrors` — the statement for a whole run.
-/

set_option autoImplicit false

namespace AssetPublish

open FileSystem

/-- What stands for an object in a copy of the tree that it is in: the same object, where a
directory has the permission bits that its owner needs.  Nothing stands for a socket.  A file keeps
its content, its permission bits and its time of change, since they are part of the object; of a
directory there is nothing else to keep but its bits. -/
def Object.mirrored? : Object → Option Object
  | directory mode => some (directory (mode ||| Operation.ownerBits))
  | socket _ => none
  | object => some object

/-- A relative path with at least one component and without steps up.  Of such a path the place is
its components behind the working directory, as far as no link is met. -/
def Path.IsDownward (path : Path) : Prop :=
  path.anchor = .relative ∧ path.parts ≠ [] ∧ ".." ∉ path.parts

instance (path : Path) : Decidable path.IsDownward := by unfold Path.IsDownward; infer_instance

variable {fs fs₁ fs₂ out : FileSystem} {caller : Caller} {source dest path : Path}
  {names : List String} {object copy : Object} {root location : Location} {occupied : Bool}

theorem Object.mirrored?_isSome_iff :
    (∃ copy, object.mirrored? = some copy) ↔ EntryKind.ofObject object ≠ .special := by
  cases object <;> simp [Object.mirrored?, EntryKind.ofObject]

/-! ## Reading the source -/

/-- The start of a path, and all its components as names below that.  A path can so be taken apart
in two ways: as a root, or as what a visit of a scan adds to a start. -/
def Path.origin (path : Path) : Path := { Path.here with anchor := path.anchor }

theorem Path.append_origin (path : Path) (names : List String) :
    path.origin.append (path.parts ++ names) = path.append names := by
  ext1
  · rfl
  · rw [append_parts, append_parts, names_append, names_eq_self path.isName]
    exact List.nil_append _

theorem Path.reverse_append_place (path : Path) (names : List String) :
    (path.parts ++ names).reverse ++ path.origin.start caller
      = names.reverse ++ path.place caller := by
  rw [List.reverse_append, List.append_assoc]
  rfl

/-- The object itself that is found at some names below a path whose place holds it. -/
theorem eq_of_find?_place {found : Location × Object} (hne : names ≠ [])
    (hget : fs.get? (names.reverse ++ path.place caller) = some object)
    (h : fs.find? caller .itself (path.append names).text = .ok found) :
    found = (names.reverse ++ path.place caller, object) := by
  rw [← Path.append_origin] at h
  rw [← Path.reverse_append_place] at hget ⊢
  exact eq_of_find?_append ⟨linkLimit, .done⟩ (by simp [hne]) hget h

/-- The object that is followed to, if it is no link. -/
theorem eq_of_follow?_place {found : Location × Object}
    (hget : fs.get? (names.reverse ++ path.place caller) = some object)
    (hlink : object.isLink = false)
    (h : fs.follow? caller (path.append names).text = .ok found) :
    found = (names.reverse ++ path.place caller, object) := by
  rw [← Path.append_origin] at h
  rw [← Path.reverse_append_place] at hget ⊢
  exact eq_of_follow?_append ⟨linkLimit, .done⟩ hget hlink h

/-- **A copy is what stands for the object**, if the source holds the object when it is made.  The
copy is made from what the path denotes at that moment, and this is the same object as long as
nothing has changed at its place. -/
theorem mirrored?_of_copies (hne : names ≠ [])
    (hget : fs.get? (names.reverse ++ source.place caller) = some object)
    (h : Copies fs caller (source.append names) object copy) : object.mirrored? = some copy := by
  cases h with
  | directory mode => rfl
  | fifo mode => rfl
  | link hread =>
    obtain ⟨place, hfind⟩ := readLink?_eq_ok_iff.1 hread
    obtain ⟨-, heq⟩ := Prod.mk.inj (eq_of_find?_place hne hget hfind)
    rw [← heq]
    rfl
  | file hread =>
    obtain ⟨place, hfollow, -⟩ := readFile?_eq_ok hread
    obtain ⟨-, heq⟩ := Prod.mk.inj (eq_of_follow?_place hget rfl hfollow)
    rw [← heq]
    rfl
  | fileLink hread =>
    obtain ⟨place, hfind⟩ := readLink?_eq_ok_iff.1 hread
    obtain ⟨-, heq⟩ := Prod.mk.inj (eq_of_find?_place hne hget hfind)
    simp at heq

/-! ## The two roots -/

/-- The place of a relative path lies in that of another one only if the path goes on from there. -/
theorem place_suffix_iff (hsource : source.IsDownward) (hdest : dest.IsDownward) :
    dest.place caller <:+ source.place caller ↔ dest.parts <+: source.parts := by
  rw [Path.place, Path.place, Path.start, Path.start, if_pos hsource.1, if_pos hdest.1,
    ← List.reverse_suffix]
  constructor
  · rintro ⟨front, heq⟩
    rw [← List.append_assoc] at heq
    exact ⟨front, List.append_cancel_right heq⟩
  · rintro ⟨front, heq⟩
    exact ⟨front, by rw [← List.append_assoc, heq]⟩

/-- **Accepted roots that meet no link lie apart.**  Where no link is met, canonical forms are
spelled places, so that the test on the first is a test on the second. -/
theorem not_isPrefix_of_check (hsource : source.IsDownward) (hdest : dest.IsDownward)
    (hfree : fs.LinkFree caller.workingDirectory source.parts)
    (h : fs.isWithin? caller source dest = .ok false) : ¬ dest.parts <+: source.parts := by
  intro hbelow
  obtain ⟨form, destForm, hform, hdestForm, hnot⟩ := isWithin?_eq_ok_false h
  obtain ⟨hanchor, hparts⟩ := canonical?_of_linkFree hsource.1 hsource.2.1 hsource.2.2 hfree hform
  obtain ⟨hdestAnchor, hdestParts⟩ := canonical?_of_linkFree hdest.1 hdest.2.1 hdest.2.2
    (hfree.left hbelow) hdestForm
  refine hnot ⟨by rw [hanchor, hdestAnchor], ?_⟩
  rw [hparts, hdestParts]
  exact (List.prefix_append_right_inj _).2 hbelow

/-- Two paths that a run may be given here: both are relative and without steps up, no link is met
on the way to the source or on the way to the directory of the destination, and the destination is
neither the source nor spelled below it.  The last part is asked of the spellings, since these are
what an author of settings sees; accepted settings have the rest. -/
structure Straight (fs : FileSystem) (caller : Caller) (source dest : Path) : Prop where
  sourceDown : source.IsDownward
  destDown : dest.IsDownward
  sourceFree : fs.LinkFree caller.workingDirectory source.parts
  destFree : fs.LinkFree caller.workingDirectory dest.parts.dropLast
  apart : ¬ source.parts <+: dest.parts

theorem Path.IsDownward.isName_and_ne (h : path.IsDownward) :
    ∀ name ∈ path.parts, IsName name ∧ name ≠ ".." :=
  fun name hname => ⟨path.isName name hname, fun heq => h.2.2 (heq ▸ hname)⟩

theorem Path.IsDownward.start_eq (h : path.IsDownward) :
    path.start caller = caller.workingDirectory := by
  rw [Path.start, if_pos h.1]

/-- A path that meets no link before its last component has its own place where it is spelled. -/
theorem ownPlace_eq_place (hpath : path.IsDownward)
    (hfree : fs.LinkFree caller.workingDirectory path.parts.dropLast) :
    fs.ownPlace caller path = path.place caller := by
  have hnames := hpath.isName_and_ne
  have hsplit := (List.dropLast_concat_getLast hpath.2.1).symm
  rw [ownPlace_of_parts hsplit, hpath.start_eq, resolve_straight
    (fun name hname => hnames name (List.dropLast_subset _ hname)) hfree, Path.place, hpath.start_eq,
    reverse_append_eq hpath.2.1]

/-- What clearing such a path removes lies where the path is spelled, or below. -/
theorem FileSystem.Cleared.lost_place {fs' : FileSystem} (h : Cleared fs caller path fs')
    (hpath : path.IsDownward) (hfree : fs.LinkFree caller.workingDirectory path.parts.dropLast) :
    Lost (path.place caller <:+ ·) fs fs' :=
  ownPlace_eq_place hpath hfree ▸ h.lost (not_endless hpath.2.1 hpath.2.2)

/-- The destination is created where it is spelled. -/
theorem Prepared.root_eq (h : Prepared fs caller dest occupied fs₁ root fs₂)
    (hdest : dest.IsDownward)
    (hfree : fs.LinkFree caller.workingDirectory dest.parts.dropLast) :
    root = dest.place caller := by
  have hlost := h.removed.cleared.lost_place hdest hfree
  rw [h.eq_ownPlace]
  exact ownPlace_eq_place hdest fun first hfirst hne target hlink =>
    hfree first hfirst hne target (hlost.le _ _ hlink)

/-! ## A whole run -/

/-- What the source holds stays there while the destination is removed, created and filled.  Its
place and that of the destination are apart, and each part of a run only touches the second. -/
theorem Prepared.source_kept (h : Prepared fs caller dest occupied fs₁ root fs₂)
    (hroots : Straight fs caller source dest) (hapart : ¬ dest.parts <+: source.parts)
    {mid : FileSystem} (hmid : ∀ place, ¬ Below root place → mid.get? place = fs₂.get? place)
    (hbelow : source.place caller <:+ location) (hobject : fs.get? location = some object) :
    mid.get? location = some object := by
  have hlost := h.removed.cleared.lost_place hroots.destDown hroots.destFree
  have hout : ¬ dest.place caller <:+ location := by
    intro hin
    rcases List.suffix_or_suffix_of_suffix hin hbelow with hwithin | hwithin
    · exact hapart ((place_suffix_iff hroots.sourceDown hroots.destDown).1 hwithin)
    · exact hroots.apart ((place_suffix_iff hroots.destDown hroots.sourceDown).1 hwithin)
  rw [hmid]
  · refine h.built.le location object ?_
    rw [hlost.only location hout, hobject]
  · intro hbelowRoot
    rw [h.root_eq hroots.destDown hroots.destFree] at hbelowRoot
    exact hout hbelowRoot.1

/-- **A run that ends well leaves at the destination what stands for the objects of the source**
that the rule does not leave out, by themselves or with a directory above them, and nothing else.
The rule is asked with the names from the source on, so that the same names are used on both sides.
-/
theorem run_mirrors {settings : Settings} {around : Circumstances} {tally : Tally}
    (hidle : around.Idle) (hreal : settings.dryRun = false)
    (hroots : Straight fs around.caller settings.source settings.destination)
    (hok : (settings.run around fs).result = .ok tally) (hne : names ≠ []) :
    (settings.run around fs).fs.get? (names.reverse ++ settings.destination.place around.caller)
        = some copy ↔
      ¬ settings.exclusion.Covers names ∧ ∃ object,
        fs.get? (names.reverse ++ settings.source.place around.caller) = some object ∧
          object.mirrored? = some copy := by
  obtain ⟨-, hrun⟩ := run_cases settings fs hidle
  obtain ⟨steps, hcheck, hplan, htaken⟩ := hrun tally hok hreal
  obtain ⟨⟨base, mode, hsource⟩, -, hnested⟩ := check_eq_ok hcheck
  obtain ⟨entrySteps, rfl, hsteps⟩ := plan_cases hsource hplan
  obtain ⟨fs₁, root, fs₂, hprepared, hgrown⟩ := allTaken_cases hsteps htaken
  have hapart := not_isPrefix_of_check hroots.sourceDown hroots.destDown hroots.sourceFree hnested
  have hbase : base = settings.source.place around.caller := by
    obtain ⟨links, hleads⟩ := pathLeads_of_follow? hsource
    rw [hroots.sourceDown.start_eq] at hleads
    rw [Path.place, hroots.sourceDown.start_eq]
    exact (hleads.straight hroots.sourceDown.isName_and_ne hroots.sourceFree).2
  have hroot := hprepared.root_eq hroots.destDown hroots.destFree
  subst hbase
  rw [← hroot]
  -- Both directions go through this: what is to be copied is found there, and is its copy.
  have hcopied : ∀ object, (names, object) ∈ fs.copied settings.exclusion
      (settings.source.place around.caller) →
      ∃ found, (settings.run around fs).fs.get? (names.reverse ++ root) = some found ∧
        object.mirrored? = some found := by
    intro object hmem
    obtain ⟨-, hget, -, -⟩ := mem_copied_iff.1 hmem
    obtain ⟨found, mid, hfound, hmid, hcopies⟩ := hgrown.copies _ hmem
    refine ⟨found, hfound, mirrored?_of_copies hne ?_ hcopies⟩
    exact hprepared.source_kept hroots hapart hmid (List.suffix_append _ _) hget
  constructor
  · intro hcopy
    -- Nothing but copies is below the new root, so the object there is the copy of one.
    have hmem := hgrown.inside names hne (by rw [hcopy]; simp)
    obtain ⟨⟨_, object⟩, hvisit, rfl⟩ := List.mem_map.1 hmem
    obtain ⟨-, hget, hcovers, -⟩ := mem_copied_iff.1 hvisit
    obtain ⟨found, hfound, hmirrored⟩ := hcopied object hvisit
    rw [hcopy, Option.some.injEq] at hfound
    exact ⟨hcovers, object, hget, by rw [hfound]; exact hmirrored⟩
  · rintro ⟨hcovers, object, hget, hmirrored⟩
    have hmem := mem_copied_iff.2
      ⟨hne, hget, hcovers, Object.mirrored?_isSome_iff.1 ⟨copy, hmirrored⟩⟩
    obtain ⟨found, hfound, hfoundMirrored⟩ := hcopied object hmem
    rw [hmirrored, Option.some.injEq] at hfoundMirrored
    rw [hfound, hfoundMirrored]

/-- Settings whose destination is a link that leads to another directory.  The directory that it
leads to keeps what it holds. -/
def relinkedSettings : Settings :=
  { source := Path.ofText "source", destination := Path.ofText "real/out" }

theorem run_mirrors_linkedTree :
    Circumstances.Idle { caller := superuser } ∧ relinkedSettings.dryRun = false ∧
      Straight linkedTree superuser relinkedSettings.source relinkedSettings.destination ∧
      ["f"] ≠ [] ∧ ∃ tally,
        (relinkedSettings.run { caller := superuser } linkedTree).result = .ok tally ∧
        ((relinkedSettings.run { caller := superuser } linkedTree).fs.get?
            (["f"].reverse ++ relinkedSettings.destination.place superuser)
            = some (.file (.ofText "new") 0o644 3) ↔
          ¬ relinkedSettings.exclusion.Covers ["f"] ∧ ∃ object,
            linkedTree.get? (["f"].reverse ++ relinkedSettings.source.place superuser)
              = some object ∧ object.mirrored? = some (.file (.ofText "new") 0o644 3)) := by
  have hidle : Circumstances.Idle { caller := superuser } := by simp [Circumstances.Idle]
  have hsource : linkedTree.LinkFree superuser.workingDirectory relinkedSettings.source.parts :=
    linkFree_of_get? (show _ = some (.directory 0o755) by decide +kernel) rfl
  have hdest : linkedTree.LinkFree superuser.workingDirectory
      relinkedSettings.destination.parts.dropLast :=
    linkFree_of_get? (show _ = some (.directory 0o755) by decide +kernel) rfl
  have hroots : Straight linkedTree superuser relinkedSettings.source
      relinkedSettings.destination :=
    ⟨by decide, by decide, hsource, hdest, by decide⟩
  have hok : (relinkedSettings.run { caller := superuser } linkedTree).result.isOk = true := by
    decide +kernel
  cases hresult : (relinkedSettings.run { caller := superuser } linkedTree).result with
  | error error => rw [hresult] at hok; simp [Except.isOk, Except.toBool] at hok
  | ok tally =>
    exact ⟨hidle, rfl, hroots, by decide, tally, rfl,
      run_mirrors hidle rfl hroots hresult (by decide)⟩

end AssetPublish
