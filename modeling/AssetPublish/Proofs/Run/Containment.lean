import AssetPublish.Proofs.FileSystem.Physical
import AssetPublish.Proofs.Run.Growth

/-!
# A run stays inside of its destination

The destination has a place of its own, whether there is anything or not.  A run removes what is
there, and creates the destination anew.  Outside of that place it leaves every object as it is, and
nothing is new but directories above the destination that were missing.

Its own place is where the destination is when its last component is not followed, and this place is
defined in every tree.  The statement is about what lies there or below, so that it holds for every
destination without steps up, whatever links its path meets.  Of the three cases in which a run may
end, two are about removing and creating, and the third needs to know where the new destination
lies: that is what most of this module is about.

## What is here

* `Spared` — what becomes of a location outside of the destination.
* `Prepared.eq_ownPlace`, `Prepared.within` — the destination that is created lies at its own place.
* `run_contained` — the statement for a whole run, wherever it ends.
-/

set_option autoImplicit false

namespace AssetPublish

open FileSystem

variable {fs fs₁ fs₂ out : FileSystem} {caller : Caller} {dest : Path} {occupied : Bool}
  {root dir location : Location} {first : List String}

/-- What becomes of a location outside of the destination: an object there stays as it is, and one
that is new there is a directory to which a part of the destination's path leads.  A link, for
instance, is never new there.  A new directory stays where it is if a run fails later, so that this
cannot be left out. -/
structure Spared (fs : FileSystem) (caller : Caller) (dest : Path) (location : Location)
    (out : FileSystem) : Prop where
  kept : ∀ object, fs.get? location = some object → out.get? location = some object
  new : ∀ object, fs.get? location = none → out.get? location = some object →
    (∃ mode, object = .directory mode) ∧ ∃ front links, front <+: dest.parts ∧
      out.Leads caller linkLimit (dest.start caller) front links location

theorem spared_of_eq (h : out.get? location = fs.get? location) :
    Spared fs caller dest location out where
  kept object hobject := by rw [h, hobject]
  new object hnone hobject := by rw [h, hnone] at hobject; simp at hobject

/-- Creating the destination, or a part of its path, spares what removing it has spared. -/
theorem spared_of_built (hremoved : fs₁.get? location = fs.get? location)
    (hfirst : first <+: dest.parts) (h : Built fs₁ caller (dest.start caller) first dir out) :
    Spared fs caller dest location out where
  kept object hobject := h.le location object (by rw [hremoved, hobject])
  new object hnone hobject := by
    obtain ⟨hdirectory, front, links, hfront, hleads⟩ := h.new (by rw [hremoved, hnone]) hobject
    exact ⟨hdirectory, front, links, hfront.trans hfirst, hleads⟩

/-- Filling the destination spares what is not below it.  What is below it is below its own place as
well. -/
theorem Spared.of_frame (h : Spared fs caller dest location fs₂) (hle : fs₂ ≤ out)
    (heq : out.get? location = fs₂.get? location) : Spared fs caller dest location out where
  kept object hobject := by rw [heq, h.kept object hobject]
  new object hnone hobject := by
    rw [heq] at hobject
    obtain ⟨hdirectory, front, links, hfront, hleads⟩ := h.new object hnone hobject
    exact ⟨hdirectory, front, links, hfront, hleads.mono hle⟩

/-! ## The destination that is created -/

/-- The destination is created at its own place in what its removal has left.  No link is left at
its end, since it would have been removed. -/
theorem Prepared.eq_ownPlace (h : Prepared fs caller dest occupied fs₁ root fs₂) :
    root = fs₁.ownPlace caller dest := by
  obtain ⟨mid, mode, hle, hnames, hcreated⟩ := h.new
  rw [hnames.eq_ownPlace]
  refine ownPlace_congr (fun location target => ⟨fun hlink => ?_, hle location _⟩) caller dest
  exact h.built.link_iff.2 (hcreated.le location _ hlink)

/-- Something is always created. -/
theorem Prepared.branch_ne_nil {base : Location} {branch : List String}
    (h : Prepared fs caller dest occupied fs₁ root fs₂) (hne : dest.parts ≠ [])
    (hbranched : Branched fs₁ caller (dest.start caller) dest.parts base branch fs₂)
    (hroot : root = branch.reverse ++ base) : branch ≠ [] := by
  rintro rfl
  obtain ⟨mid, mode, hle, -, hcreated⟩ := h.new
  obtain ⟨front, links, hparts, hleads⟩ := hbranched.split
  rw [List.append_nil] at hparts
  rw [← hparts] at hleads
  obtain ⟨object, hobject, -⟩ := hleads.exists_object hne
  have hfree := hcreated.free
  rw [hroot, List.reverse_nil, List.nil_append, hle _ _ hobject] at hfree
  simp at hfree

/-- **The destination is created at its own place**, or below it where its path leads through that
place.  They differ where links
lead the path through that place on the way to it; once the link there is removed, the path goes
straight on below. -/
theorem Prepared.within (h : Prepared fs caller dest occupied fs₁ root fs₂)
    (hne : dest.parts ≠ []) (hdots : ".." ∉ dest.parts) :
    fs.ownPlace caller dest <:+ root := by
  have hnames : ∀ name ∈ dest.parts, IsName name ∧ name ≠ ".." :=
    fun name hname => ⟨dest.isName name hname, fun heq => hdots (heq ▸ hname)⟩
  have hlost := h.removed.cleared.lost (not_endless hne hdots)
  obtain ⟨base, branch, hbranched, hroot⟩ :=
    h.built.branched dest.isName (steady_of_not_mem hdots)
  have hbranch := h.branch_ne_nil hne hbranched hroot
  obtain ⟨front, links, hparts, hleads⟩ := hbranched.split
  obtain ⟨head, rest, rfl⟩ := List.exists_cons_of_ne_nil hbranch
  have hfree := hbranched.free head rest rfl
  by_cases hold : fs.get? (head :: base) = none
  · -- the branch was missing from the beginning
    have hinit : dest.parts
        = (front ++ (head :: rest).dropLast) ++ [(head :: rest).getLast hbranch] := by
      rw [hparts, List.append_assoc, List.dropLast_concat_getLast]
    have hstraight : fs.resolve links base (head :: rest).dropLast
        = (head :: rest).dropLast.reverse ++ base := by
      refine resolve_straight (fun name hname => hnames name ?_) ?_
      · rw [hparts]
        exact List.mem_append_right _ (List.dropLast_subset _ hname)
      · exact (linkFree_of_free hold).left (List.dropLast_prefix _)
    have hplace : fs.ownPlace caller dest = root := by
      rw [ownPlace_of_parts hinit, resolve_append_of_leads (hleads.mono hlost.le), hstraight, hroot,
        reverse_append_eq hbranch]
    exact hplace ▸ List.suffix_rfl
  · -- it begins where the old destination was
    have hgone : fs.ownPlace caller dest <:+ head :: base := by
      by_contra hout
      rw [hlost.only _ hout] at hfree
      exact hold hfree
    refine hgone.trans ?_
    rw [hroot, List.reverse_cons, List.append_assoc, List.singleton_append]
    exact List.suffix_append _ _

/-! ## A whole run -/

/-- **Outside of the destination's own place a run changes no object**, however it ends, and creates
nothing but directories on the way to the destination.  A destination with steps up is left out,
since its own place says nothing about what is created before the path climbs out again. -/
theorem run_contained {settings : Settings} {around : Circumstances} (hidle : around.Idle)
    (hne : settings.destination.parts ≠ []) (hdots : ".." ∉ settings.destination.parts)
    (hout : ¬ fs.ownPlace around.caller settings.destination <:+ location) :
    Spared fs around.caller settings.destination location (settings.run around fs).fs := by
  obtain ⟨hrun, -⟩ := run_cases settings fs hidle
  rcases hrun with hsame | ⟨steps, hcheck, hplan, -, htaken⟩
  · exact spared_of_eq (by rw [hsame])
  obtain ⟨⟨base, mode, hsource⟩, -, -⟩ := check_eq_ok hcheck
  obtain ⟨entrySteps, rfl, hsteps⟩ := plan_cases hsource hplan
  have hnot := not_endless hne hdots
  rcases taken_cases hsteps htaken with hcleared | ⟨fs₁, first, dir, hremoved, hfirst, hbuilt⟩ |
    ⟨fs₁, root, fs₂, hprepared, hframe⟩
  · exact spared_of_eq ((hcleared.lost hnot).only location hout)
  · exact spared_of_built ((hremoved.cleared.lost hnot).only location hout) hfirst hbuilt
  · have hbuilt := spared_of_built ((hprepared.removed.cleared.lost hnot).only location hout)
      List.prefix_rfl hprepared.built
    have hbelow : ¬ Below root location :=
      fun hbelow => hout ((hprepared.within hne hdots).trans hbelow.1)
    refine hbuilt.of_frame ?_ (hframe location hbelow)
    intro place object hobject
    rw [hframe, hobject]
    intro hplace
    rw [hprepared.empty.nothing place hplace] at hobject
    simp at hobject

/-- A destination that is a link, in a directory that is reached through another link.  Neither the
link on the way nor what the destination leads to is touched. -/
def linkedTree : FileSystem :=
  ((((((empty.create [] "source" (.directory 0o755)).create ["source"] "f"
    (.file (.ofText "new") 0o644 3)).create [] "kept" (.directory 0o755)).create ["kept"] "g"
    (.file (.ofText "old") 0o600 5)).create [] "real" (.directory 0o755)).create ["real"] "out"
    (.link "../kept")).create [] "way" (.link "real")

/-- Settings for that tree. -/
def linkedSettings : Settings :=
  { source := Path.ofText "source", destination := Path.ofText "way/out" }

theorem run_contained_linkedTree :
    Circumstances.Idle { caller := superuser } ∧ linkedSettings.destination.parts ≠ [] ∧
      ".." ∉ linkedSettings.destination.parts ∧
      ¬ linkedTree.ownPlace superuser linkedSettings.destination <:+ ["g", "kept"] ∧
      Spared linkedTree superuser linkedSettings.destination ["g", "kept"]
        (linkedSettings.run { caller := superuser } linkedTree).fs := by
  have hidle : Circumstances.Idle { caller := superuser } := by simp [Circumstances.Idle]
  have hout : ¬ linkedTree.ownPlace superuser linkedSettings.destination <:+ ["g", "kept"] := by
    decide +kernel
  exact ⟨hidle, by decide, by decide, hout, run_contained hidle (by decide) (by decide) hout⟩

end AssetPublish
