import AssetPublish.Proofs.FileSystem.Entering
import AssetPublish.Proofs.Scan.Course

/-!
# Locality of a scan

A scan only looks at its root, at what lies below it, and at the directories that the root lies in.
Where these are the same, a scan that comes to its end tells the same again, whatever has changed
elsewhere.

This is what makes a second run come to the same plan as the first: the first run has changed the
destination, which lies neither above nor below the source.  Only a scan that comes to its end is
known to tell the same again.  One that ends early does so again as well, but this is not needed,
since no run goes on after it.

## What is here

* `SameAlong` — the same objects at a location, above it and below it.
* `SameAlong.find?_eq_ok`, `SameAlong.inspect?_eq_ok`, `SameAlong.listNames?_eq_ok` — what is found
  in the tree is found again.
* `SameAlong.next_eq` — one event is told again.
* `SameAlong.scan_eq` — a whole scan comes to the same end.
-/

set_option autoImplicit false

namespace AssetPublish

open FileSystem

/-- The same objects at a location, above it and below it.  Above it, because whether a path can be
followed depends on the directories that it passes. -/
def SameAlong (fs fs' : FileSystem) (base : Location) : Prop :=
  ∀ location, location <:+ base ∨ base <:+ location → fs'.get? location = fs.get? location

namespace SameAlong

variable {fs fs' : FileSystem} {caller : Caller} {rule : Exclusion} {root path : Path}
  {base location : Location} {names : List String} {object : Object} {ending : Ending}
  {found : Location × Object} {mode : Nat} (h : SameAlong fs fs' base)

include h

/-! ## What is looked up -/

theorem above (hbelow : base <:+ location) {place : Location} (hplace : place <:+ location) :
    fs'.get? place = fs.get? place :=
  h place (List.suffix_or_suffix_of_suffix hplace hbelow)

/-- What is found where a path is spelled is found again, if that is in the tree. -/
theorem find?_eq_ok (hne : path.parts ≠ []) (hbelow : base <:+ path.place caller)
    (hobject : fs.get? (path.place caller) = some object)
    (hlink : ending = .itself ∨ object.isLink = false)
    (hfind : fs.find? caller ending path.text = .ok found) :
    fs'.find? caller ending path.text = .ok found := by
  obtain ⟨hproper, hentered⟩ := entered_of_find? hne hobject hfind
  have hentered' : fs'.Entered caller path := hentered.congr fun location hlocation =>
    h.above hbelow (hlocation.trans (Path.parent_place_suffix hne caller))
  have hobject' : fs'.get? (path.place caller) = some object :=
    (h.above hbelow List.suffix_rfl).trans hobject
  rw [hentered'.find?_eq hproper hobject' hlink, ← hfind, hentered.find?_eq hproper hobject hlink]

/-- The names in a directory of the tree are listed alike. -/
theorem sorted_names_eq (hbelow : base <:+ location) :
    Text.sorted (fs'.names location) = Text.sorted (fs.names location) :=
  Text.sorted_eq_of_mem_iff fun name => by
    rw [mem_names_iff, mem_names_iff, h _ (Or.inr (hbelow.trans (List.suffix_cons name location)))]

end SameAlong

/-! ## One event -/

namespace SameAlong

variable {fs fs' : FileSystem} {caller : Caller} {rule : Exclusion} {root : Path}
  {names : List String} {object : Object} {mode : Nat} (h : SameAlong fs fs' (root.place caller))
  (hne : root.parts ≠ [])

include h hne

/-- An object of the tree is inspected again. -/
theorem inspect?_eq_ok {entry : Entry}
    (hobject : fs.get? (names.reverse ++ root.place caller) = some object)
    (hinspect : Entry.inspect? fs caller (root.append names) root = .ok entry) :
    Entry.inspect? fs' caller (root.append names) root = .ok entry := by
  have hplace := Path.place_append root (isName_of_get?_reverse hobject) caller
  rw [← hplace] at hobject
  have hparts : (root.append names).parts ≠ [] := by
    rw [Path.append_parts]
    exact List.append_ne_nil_of_left_ne_nil hne _
  rw [Entry.inspect?, FileSystem.inspect?] at hinspect ⊢
  cases hfind : fs.find? caller .itself (root.append names).text with
  | error fault => simp [hfind, Except.map] at hinspect
  | ok found =>
    rw [h.find?_eq_ok hparts (hplace ▸ List.suffix_append _ _) hobject (Or.inl rfl) hfind, ← hfind]
    exact hinspect

/-- A directory of the tree is listed again. -/
theorem listNames?_eq_ok {listed : List String}
    (hdir : fs.get? (names.reverse ++ root.place caller) = some (.directory mode))
    (hlist : fs.listNames? caller (root.append names).text = .ok listed) :
    listed = fs.names (names.reverse ++ root.place caller) ∧
      fs'.listNames? caller (root.append names).text
        = .ok (fs'.names (names.reverse ++ root.place caller)) := by
  have hplace := Path.place_append root (isName_of_get?_reverse hdir) caller
  have hbelow : root.place caller <:+ (root.append names).place caller :=
    hplace ▸ List.suffix_append _ _
  rw [← hplace] at hdir ⊢
  have hparts : (root.append names).parts ≠ [] := by
    rw [Path.append_parts]
    exact List.append_ne_nil_of_left_ne_nil hne _
  rw [listNames?] at hlist ⊢
  cases hfollow : fs.follow? caller (root.append names).text with
  | error fault => simp [hfollow] at hlist
  | ok found =>
    obtain ⟨hproper, hentered⟩ := entered_of_find? hparts hdir hfollow
    obtain rfl := Except.ok.inj ((hentered.follow?_eq hproper hdir rfl).symm.trans hfollow)
    have hfollow' : fs'.follow? caller (root.append names).text = _ :=
      h.find?_eq_ok hparts hbelow hdir (Or.inr rfl) hfollow
    rw [hfollow] at hlist
    rw [hfollow']
    simp only [ok_bind] at hlist ⊢
    split at hlist
    · rename_i hread
      rw [if_pos hread]
      exact ⟨(Except.ok.inj hlist).symm, rfl⟩
    · simp at hlist

/-- An event from names that are still to come is told again. -/
theorem visit_eq (frames : List (List String × List String))
    (hfound : Stage.Found fs (root.place caller) frames)
    (hok : ∀ fault, Scan.visit fs caller rule.scanRule root
      (frames.map fun frame => (root.append frame.1, frame.2)) ≠ .failed fault) :
    Scan.visit fs' caller rule.scanRule root
        (frames.map fun frame => (root.append frame.1, frame.2))
      = Scan.visit fs caller rule.scanRule root
        (frames.map fun frame => (root.append frame.1, frame.2)) := by
  induction frames with
  | nil => rfl
  | cons frame frames ih =>
    obtain ⟨dir, listed⟩ := frame
    cases listed with
    | nil => exact ih hfound.drop hok
    | cons name listed =>
      obtain ⟨object, hobject⟩ := hfound _ List.mem_cons_self name List.mem_cons_self
      have hget : fs.get? ((dir ++ [name]).reverse ++ root.place caller) = some object := by
        simpa using hobject
      rw [List.map_cons, Scan.visit, Path.child, Path.append_append] at hok ⊢
      rw [Scan.visit, Path.child, Path.append_append]
      cases hinspect : Entry.inspect? fs caller (root.append (dir ++ [name])) root with
      | ok entry => rw [h.inspect?_eq_ok hne hget hinspect]
      | error fault =>
        rw [hinspect] at hok
        cases fault with
        | system error => exact absurd rfl (hok _)
        | _ => exact absurd rfl (hok _)

/-- **One event is told again**, if the scan does not end early there. -/
theorem next_eq {stage : Stage} (hsound : stage.Sound fs root (root.place caller))
    (hok : ∀ fault, (stage.scan root).next fs caller rule.scanRule ≠ .failed fault) :
    (stage.scan root).next fs' caller rule.scanRule
      = (stage.scan root).next fs caller rule.scanRule := by
  obtain ⟨pending, frames⟩ := stage
  cases pending with
  | none => exact h.visit_eq hne frames hsound.found hok
  | some names =>
    obtain ⟨⟨bits, hdir⟩, -⟩ := hsound.directory names rfl
    rw [Scan.next] at hok ⊢
    rw [Scan.next]
    simp only [Stage.scan, Option.map_some] at hok ⊢
    cases hlist : fs.listNames? caller (root.append names).text with
    | error fault =>
      rw [hlist] at hok
      cases fault with
      | system error => exact absurd rfl (hok _)
      | _ => exact absurd rfl (hok _)
    | ok listed =>
      obtain ⟨rfl, hlist'⟩ := h.listNames?_eq_ok hne hdir hlist
      rw [hlist] at hok
      rw [hlist']
      simp only at hok ⊢
      rw [h.sorted_names_eq (List.suffix_append _ _)]
      exact h.visit_eq hne ((names, Text.sorted _) :: frames) hsound.found.list hok

/-! ## All events -/

/-- A scan that comes to its end does not come to another one. -/
theorem allFrom_eq (hroot : fs.follow? caller root.text = .ok (root.place caller, .directory mode))
    {stage : Stage} (hsound : stage.Sound fs root (root.place caller)) {fuel fuel' : Nat}
    (hfuel : (stage.rest fs rule (root.place caller)).length < fuel)
    (hfuel' : (stage.rest fs rule (root.place caller)).length < fuel')
    (hend : (Scan.allFrom fs caller rule.scanRule fuel (stage.scan root)).fault = none) :
    Scan.allFrom fs' caller rule.scanRule fuel' (stage.scan root)
      = Scan.allFrom fs caller rule.scanRule fuel (stage.scan root) := by
  induction fuel generalizing stage fuel' with
  | zero => exact absurd hfuel (Nat.not_lt_zero _)
  | succ fuel ih =>
    obtain ⟨fuel', rfl⟩ := Nat.exists_eq_succ_of_ne_zero (Nat.ne_zero_of_lt hfuel')
    have hnext : (∀ fault, (stage.scan root).next fs caller rule.scanRule ≠ .failed fault) →
        (stage.scan root).next fs' caller rule.scanRule
          = (stage.scan root).next fs caller rule.scanRule := h.next_eq hne hsound
    rw [Scan.allFrom] at hend ⊢
    rw [Scan.allFrom]
    rcases Stage.next_cases rule hroot hsound with
      ⟨hstep, -⟩ | ⟨visit, stage', hstep, hrest, hsound', -⟩ | ⟨fault, hstep, -⟩
    · rw [hnext (by simp [hstep]), hstep]
    · rw [hnext (by simp [hstep]), hstep]
      rw [hstep] at hend
      rw [hrest, List.length_cons] at hfuel hfuel'
      exact congrArg (Scan.Outcome.cons _) (ih hsound' (by omega) (by omega) hend)
    · rw [hstep] at hend
      simp at hend

/-- **A scan that comes to its end tells the same again** wherever the tree, and the directories
that it lies in, are the same. -/
theorem scan_eq (hroot : fs.follow? caller root.text = .ok (root.place caller, .directory mode))
    (hend : (Scan.all fs caller rule.scanRule root).fault = none) :
    Scan.all fs' caller rule.scanRule root = Scan.all fs caller rule.scanRule root := by
  -- No more objects are in the tree than either file system has.
  have hlength : (fs.visited rule (root.place caller)).length ≤ fs'.objects.length :=
    length_visited_le_of_get? fun names object hmem => by
      obtain ⟨-, hget, -⟩ := mem_visited_iff.1 hmem
      exact (h.above (List.suffix_append _ _) List.suffix_rfl).trans hget
  have hle : (fs.visited rule (root.place caller)).length ≤ fs.objects.length := length_visited_le
  rw [Scan.all, Scan.eventBound_start, ← Stage.scan_start] at hend
  rw [Scan.all, Scan.all, Scan.eventBound_start, Scan.eventBound_start, ← Stage.scan_start]
  refine h.allFrom_eq hne hroot (Stage.sound_start hroot) ?_ ?_ hend
  · rw [Stage.rest_start]
    omega
  · rw [Stage.rest_start]
    omega

end SameAlong
end AssetPublish
