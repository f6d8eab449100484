import AssetPublish.Proofs.Run.Containment

/-!
# The tree without the destination

Before the destination is created, what is there is removed.  The tree in which it is created can be
told from the tree that the run finds: it lacks what lies at the destination's own place, if the
destination is occupied at all.

What a path leads to while the destination is being created depends on a tree that exists only in
the middle of a run.  A condition on the tree that a run finds cannot speak of that tree, but it can
speak of this one: `vacated` is computed from the tree that is found, without any step being taken,
and holds the same objects.  So a condition like `Harmless` can be tested before a run, and says
something about its middle.

## What is here

* `FileSystem.without` — a tree without what lies at a place.
* `vacated` — the tree without the destination.
* `Removed.get?_eq` — it is what removing the destination leaves.
-/

set_option autoImplicit false

namespace AssetPublish
namespace FileSystem

/-- The tree without what lies at a place.  It is a tree again: of an object that stays, the
directory that holds it stays as well, since it is above and not at the place or below. -/
def without (fs : FileSystem) (place : Location) : FileSystem :=
  ⟨fs.objects.filter fun entry => !decide (place <:+ entry.1), by
    refine ⟨fs.valid.1.filter _, ?_⟩
    intro entry hentry
    obtain ⟨hmem, hout⟩ := List.mem_filter.1 hentry
    obtain ⟨hproper, name, dir, heq, hname, hdir⟩ := fs.valid.2 entry hmem
    refine ⟨hproper, name, dir, heq, hname, ?_⟩
    have hkeeps : (!decide (place <:+ dir)) = true := by
      rw [Bool.not_eq_true', decide_eq_false_iff_not]
      intro hin
      rw [heq, Bool.not_eq_true', decide_eq_false_iff_not] at hout
      exact hout (hin.trans (List.suffix_cons name dir))
    unfold directoryAt at hdir ⊢
    rwa [objectAt?_filter fs.objects (fun location => !decide (place <:+ location)), if_pos hkeeps]⟩

theorem get?_without {fs : FileSystem} {place : Location} (hne : place ≠ [])
    (location : Location) :
    (fs.without place).get? location
      = if place <:+ location then none else fs.get? location := by
  rw [get?, get?]
  by_cases hroot : location = []
  · rw [if_pos hroot, if_pos hroot, if_neg]
    rw [hroot, List.suffix_nil]
    exact hne
  · rw [if_neg hroot, if_neg hroot, without,
      objectAt?_filter fs.objects (fun location => !decide (place <:+ location))]
    by_cases hin : place <:+ location <;> simp [hin]

end FileSystem

open FileSystem

variable {fs fs₁ : FileSystem} {caller : Caller} {dest : Path}

/-- The tree without what lies at the own place of the destination, if the destination is occupied.
A link at the end of the destination is not followed, since removing the destination removes the
link and not what it leads to. -/
def vacated (fs : FileSystem) (caller : Caller) (dest : Path) : FileSystem :=
  if fs.occupied caller dest then fs.without (fs.ownPlace caller dest) else fs

/-- **Removing the destination leaves the tree without it.**  In a tree that has been cleared, the
place is free, and what is free holds nothing below; everywhere else, nothing has been lost. -/
theorem Removed.get?_eq (h : Removed fs caller dest (fs.occupied caller dest) fs₁)
    (location : Location) : fs₁.get? location = (vacated fs caller dest).get? location := by
  rw [vacated]
  cases hoccupied : fs.occupied caller dest with
  | false => rw [h.kept hoccupied, if_neg Bool.false_ne_true]
  | true =>
    obtain ⟨own, hown, hgone⟩ := h.gone hoccupied
    have hlost := h.cleared.lost fun hendless => not_names_of_endless hendless hown
    obtain rfl := hown.eq_ownPlace
    have hne : fs.ownPlace caller dest ≠ [] := by
      rintro hroot
      rw [hroot] at hgone
      simp [get?] at hgone
    rw [if_pos rfl, get?_without hne]
    split
    · rename_i hin
      cases hget : fs₁.get? location with
      | none => rfl
      | some object =>
        obtain ⟨other, hother⟩ := exists_object_of_suffix hin hget
        rw [hgone] at hother
        simp at hother
    · rename_i hout
      exact hlost.only location hout

theorem Removed.link_iff (h : Removed fs caller dest (fs.occupied caller dest) fs₁)
    (location : Location) (target : String) : fs₁.get? location = some (.link target) ↔
      (vacated fs caller dest).get? location = some (.link target) := by
  rw [h.get?_eq]

end AssetPublish
