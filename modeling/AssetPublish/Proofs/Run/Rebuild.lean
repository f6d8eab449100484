import AssetPublish.Proofs.Run.Courses
import AssetPublish.Proofs.Run.Mirror

/-!
# A run that has rebuilt the destination

A run that ends well, between roots that are spelled apart and meet no link, has gone through four
trees: the one that it finds, the one from which the destination has been removed, the one in which
the destination is an empty directory, and the one in which it is filled.  Here all that is known
about them is put together once.

This is a record of facts and not of conditions.  The statements on mirrors, on statistics and on a
second run all begin with a run that has ended well, and each would otherwise take the run apart
again to reach the tree that it is about.  With the record they name a tree and a field.

## What is here

* `exists_of_occupied` — where a path meets no link, something is there if it is occupied.
* `Rebuild` — the four trees, with the plan and the steps that lead from one to the next.
* `exists_rebuild` — a run that ends well has rebuilt the destination.
* `Rebuild.copy`, `Rebuild.mem_copied` — what is in the destination then.
* `Rebuild.occupied_iff` — the destination is removed first exactly if something is there.
-/

set_option autoImplicit false

namespace AssetPublish

open FileSystem

variable {fs fs₁ fs₂ out : FileSystem} {caller : Caller} {settings : Settings}
  {around : Circumstances} {tally : Tally} {steps : List Operation} {names : List String}
  {object : Object} {location : Location} {dest : Path}

/-! ## Whether something is at a path

The program looks at a path by following it.  Where no link is met, this is the same as looking at
the place where it is spelled. -/

/-- A path that meets no link does not denote one. -/
theorem not_isLink?_of_linkFree (hdown : dest.IsDownward)
    (hfree : fs.LinkFree caller.workingDirectory dest.parts) :
    fs.isLink? caller dest.text ≠ .ok true := by
  intro hlink
  obtain ⟨object, hinspect, hkind⟩ := answer?_eq_ok_true hlink
  obtain ⟨target, rfl⟩ : ∃ target, object = .link target := by
    cases object with
    | link target => exact ⟨target, rfl⟩
    | _ => simp [Object.isLink] at hkind
  have hread : fs.readLink? caller dest.text = .ok target := by
    rw [readLink?, hinspect]
    rfl
  obtain ⟨location, hfind⟩ := readLink?_eq_ok_iff.1 hread
  obtain ⟨-, hwalk, hget⟩ := find?_text_eq_ok_iff.1 hfind
  rw [Path.steps_text hdown.2.1, hdown.start_eq] at hwalk
  exact walk_itself_ne_link hdown.2.1 hdown.isName_and_ne hfree hwalk hget

/-- The place of a path that meets no link is where it is spelled. -/
theorem eq_place_of_follow? (hdown : dest.IsDownward)
    (hfree : fs.LinkFree caller.workingDirectory dest.parts)
    (h : fs.follow? caller dest.text = .ok (location, object)) :
    location = dest.place caller := by
  obtain ⟨links, hleads⟩ := pathLeads_of_follow? h
  rw [hdown.start_eq] at hleads
  rw [Path.place, hdown.start_eq]
  exact (hleads.straight hdown.isName_and_ne hfree).2

/-- **Something is at a path that meets no link, if it is occupied.**  To be occupied is what the
program asks: that following the path leads to something, or that the path denotes a link. -/
theorem exists_of_occupied (hdown : dest.IsDownward)
    (hfree : fs.LinkFree caller.workingDirectory dest.parts)
    (h : fs.occupied caller dest = true) : ∃ object, fs.get? (dest.place caller) = some object := by
  rw [occupied] at h
  split at h
  · rename_i hexists
    obtain ⟨⟨location, object⟩, hfollow, -⟩ := answer?_eq_ok_true hexists
    obtain ⟨-, -, hobject⟩ := find?_text_eq_ok_iff.1 hfollow
    rw [← eq_place_of_follow? hdown hfree hfollow]
    exact ⟨object, hobject⟩
  · split at h
    · rename_i hlink
      exact absurd hlink (not_isLink?_of_linkFree hdown hfree)
    · simp at h

/-- Where nothing is, no link is met that is not met before. -/
theorem linkFree_of_get?_place_eq_none (hdown : dest.IsDownward)
    (hfree : fs.LinkFree caller.workingDirectory dest.parts.dropLast)
    (hnone : fs.get? (dest.place caller) = none) :
    fs.LinkFree caller.workingDirectory dest.parts := by
  rw [Path.place, hdown.start_eq] at hnone
  intro first hfirst hne target hlink
  rw [← List.dropLast_concat_getLast hdown.2.1, List.prefix_concat_iff,
    List.dropLast_concat_getLast hdown.2.1] at hfirst
  rcases hfirst with rfl | hfirst
  · rw [hnone] at hlink
    simp at hlink
  · exact hfree first hfirst hne target hlink

/-! ## A run that ends well -/

/-- What a run has done that ends well: its settings have been accepted, the destination is removed
in `fs₁`, created anew in `fs₂` and filled in `out`, one step for each object that is copied.  The
trees in the middle are arguments and not fields, since statements that go from one tree to the next
have to name them. -/
structure Rebuild (settings : Settings) (caller : Caller) (fs fs₁ fs₂ out : FileSystem)
    (steps : List Operation) : Prop where
  roots : Straight fs caller settings.source settings.destination
  outer : ¬ settings.destination.parts <+: settings.source.parts
  check : settings.check fs caller = .ok ()
  source : ∃ mode, fs.follow? caller settings.source.text
    = .ok (settings.source.place caller, .directory mode)
  plan : (settings.plan fs caller).result
    = .ok (rootSteps (fs.occupied caller settings.destination) settings.destination ++ steps)
  recreations : List.Forall₂ (Recreation settings.source settings.destination)
    (fs.copied settings.exclusion (settings.source.place caller)) steps
  prepared : Prepared fs caller settings.destination (fs.occupied caller settings.destination) fs₁
    (settings.destination.place caller) fs₂
  created : outcome (makeNewDirectory caller settings.destination) fs₁ = (.ok (), fs₂)
  filled : AllTaken caller steps fs₂ out

/-- **A run that ends well has rebuilt the destination**, and has counted the steps of its plan. -/
theorem exists_rebuild (hidle : around.Idle) (hreal : settings.dryRun = false)
    (hroots : Straight fs around.caller settings.source settings.destination)
    (hok : (settings.run around fs).result = .ok tally) :
    ∃ fs₁ fs₂ steps, Rebuild settings around.caller fs fs₁ fs₂ (settings.run around fs).fs steps ∧
      tally = finalTally settings fs around.caller
        (rootSteps (fs.occupied around.caller settings.destination) settings.destination
          ++ steps) := by
  obtain ⟨planned, hcheck, hplan, -, htaken, -, htally⟩ := run_real_eq_ok hidle hreal hok
  obtain ⟨⟨base, mode, hsource⟩, -, hnested⟩ := check_eq_ok hcheck
  obtain ⟨steps, rfl, hsteps⟩ := plan_cases hsource hplan
  obtain rfl := eq_place_of_follow? hroots.sourceDown hroots.sourceFree hsource
  obtain ⟨fs₁, root, fs₂, hprepared, hcreated, hfilled⟩ := allTaken_parts htaken
  obtain rfl := hprepared.root_eq hroots.destDown hroots.destFree
  exact ⟨fs₁, fs₂, steps, ⟨hroots,
    not_isPrefix_of_check hroots.sourceDown hroots.destDown hroots.sourceFree hnested, hcheck,
    ⟨mode, hsource⟩, hplan, hsteps, hprepared, hcreated, hfilled⟩, htally⟩

namespace Rebuild

variable (h : Rebuild settings caller fs fs₁ fs₂ out steps)

include h

/-- The destination as it has grown. -/
theorem grown : Grown fs₂ caller settings.source (settings.destination.place caller)
    (fs.copied settings.exclusion (settings.source.place caller)) out :=
  allTaken_grown h.prepared.empty h.prepared.empty.grown ordered_copied h.recreations h.filled

/-- What stands for a copied object is in the destination. -/
theorem copy (hmem : (names, object) ∈ fs.copied settings.exclusion (settings.source.place caller)) :
    ∃ copy, out.get? (names.reverse ++ settings.destination.place caller) = some copy ∧
      object.mirrored? = some copy := by
  obtain ⟨hne, hget, -, -⟩ := mem_copied_iff.1 hmem
  obtain ⟨copy, mid, hcopy, hmid, hcopies⟩ := h.grown.copies _ hmem
  refine ⟨copy, hcopy, mirrored?_of_copies hne ?_ hcopies⟩
  exact h.prepared.source_kept h.roots h.outer hmid (List.suffix_append _ _) hget

/-- Whatever is in the destination stands for a copied object.  The destination was empty when the
first step was taken. -/
theorem mem_copied {copy : Object} (hne : names ≠ [])
    (hcopy : out.get? (names.reverse ++ settings.destination.place caller) = some copy) :
    ∃ object, (names, object) ∈ fs.copied settings.exclusion (settings.source.place caller) ∧
      object.mirrored? = some copy := by
  have hmem := h.grown.inside names hne (by rw [hcopy]; simp)
  obtain ⟨⟨_, object⟩, hvisit, rfl⟩ := List.mem_map.1 hmem
  obtain ⟨found, hfound, hmirrored⟩ := h.copy hvisit
  rw [hcopy, Option.some.injEq] at hfound
  exact ⟨object, hvisit, by rw [hfound]; exact hmirrored⟩

/-- The destination is removed first exactly if something is there, be it a link that leads
nowhere. -/
theorem occupied_iff : fs.occupied caller settings.destination = true ↔
    ∃ object, fs.get? (settings.destination.place caller) = some object := by
  constructor
  · intro hoccupied
    by_contra hnone
    rw [not_exists, ← Option.eq_none_iff_forall_ne_some] at hnone
    have hfree := linkFree_of_get?_place_eq_none h.roots.destDown h.roots.destFree hnone
    obtain ⟨object, hobject⟩ := exists_of_occupied h.roots.destDown hfree hoccupied
    rw [hnone] at hobject
    simp at hobject
  · rintro ⟨object, hobject⟩
    by_contra hfree
    -- Then nothing is removed, and the destination is created where the object is.
    obtain ⟨mid, mode, hle, -, hcreated⟩ := h.prepared.new
    rw [h.prepared.removed.kept (by simpa using hfree)] at hle
    have hthere := hle _ _ hobject
    rw [hcreated.free] at hthere
    simp at hthere

end Rebuild
end AssetPublish
