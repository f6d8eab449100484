import AssetPublish.Operation.Apply
import AssetPublish.Proofs.FileSystem.Changes

/-!
# Removing the destination

Whatever stands at the destination is removed: a link itself, and any other object with all that
lies below it.  Links are not followed in this, so that nothing else is lost.

A removal may fail at any object, and then what was removed before is gone.  The statements
therefore say of every outcome where something can be lost (`Lost`), and of a success that nothing
is left at the place.  A removal goes by locations once it is in the tree, so that below the top no
link is followed; only the path to the destination itself is followed as usual, which is why the
region of the loss is given by where the path leads, and not by how it is spelled.

## What is here

* `Below` — what lies below a location.
* `does_removeBelow`, `removeTree_cases` — removing a tree takes nothing away elsewhere.
* `Cleared`, `removeDestination_cases` — what is lost when the destination is removed.
-/

set_option autoImplicit false

namespace AssetPublish
namespace FileSystem

/-- What lies below a location.  The location itself is not below it: a directory is emptied first
and removed afterwards, by another call. -/
def Below (dir location : Location) : Prop := dir <:+ location ∧ location ≠ dir

variable {fs fs' : FileSystem} {caller : Caller} {path : Path} {dir location place : Location}
  {name : String} {region : Location → Prop} {fuel : Nat} {result : Except Fault Unit}

theorem composes_lost (region : Location → Prop) : Composes (Lost region) :=
  ⟨Lost.refl region, Lost.trans⟩

/-- What is at or below an entry of a directory is below the directory. -/
theorem below_cons (h : (name :: dir) <:+ location) : Below dir location := by
  refine ⟨(List.suffix_cons name dir).trans h, ?_⟩
  rintro rfl
  have hle := h.length_le
  rw [List.length_cons] at hle
  omega

theorem unlinkAt_eq_ok (hne : location ≠ []) (h : fs.unlinkAt caller location = .ok fs') :
    Lost (· = location) fs fs' := by
  rw [unlinkAt] at h
  split at h
  · simp at h
  split at h
  · simp at h
  rw [Except.ok.injEq] at h
  subst h
  exact lost_remove hne

/-- **Removing what lies below a location takes nothing away elsewhere.**  By induction on the depth
that may still be gone down to; each round of the loop is a composition of such losses. -/
theorem does_removeBelow (caller : Caller) (fuel : Nat) (dir : Location) :
    Does (Lost (Below dir)) (removeBelow caller fuel dir) := by
  have hchange := composes_lost (Below dir)
  induction fuel generalizing dir with
  | zero => exact Does.pure hchange _
  | succ fuel ih =>
    rw [removeBelow]
    refine Does.get_bind ?_
    intro seen
    refine Does.forM hchange (fun name _ => Does.get_bind fun fs => ?_) seen
    have hself : ∀ fs fs', Lost (· = name :: dir) fs fs' → Lost (Below dir) fs fs' := by
      intro fs fs' hlost
      refine hlost.mono ?_
      intro location heq
      subst heq
      exact below_cons List.suffix_rfl
    split
    · have hdirectory : Does (Lost (Below dir)) (do
          removeBelow caller fuel (name :: dir)
          Act.change fun fs => (fs.removeDirectoryAt caller (name :: dir)).mapError
            fun refusal => .refused refusal name) := by
        refine Does.bind hchange ?_ fun _ => Does.change hchange fun fs fs' hstep => ?_
        · refine (ih (name :: dir) (composes_lost _)).mono ?_
          intro _ _ hlost
          exact hlost.mono fun location hbelow => below_cons hbelow.1
        · cases hremove : fs.removeDirectoryAt caller (name :: dir) with
          | error refusal => rw [hremove] at hstep; simp at hstep
          | ok left =>
            rw [hremove] at hstep
            simp only [mapError_ok, Except.ok.injEq] at hstep
            subst hstep
            exact hself _ _ (removeDirectoryAt_eq_ok hremove).2.2.1
      split
      · exact (Does.throw hchange _).bind hchange (fun _ => hdirectory) fs
      · exact hdirectory fs
    · refine Does.change hchange ?_ fs
      intro fs fs' hstep
      cases hremove : fs.unlinkAt caller (name :: dir) with
      | error refusal => rw [hremove] at hstep; simp at hstep
      | ok left =>
        rw [hremove] at hstep
        simp only [mapError_ok, Except.ok.injEq] at hstep
        subst hstep
        exact hself _ _ (unlinkAt_eq_ok (by simp) hremove)

/-! ## The directory that is removed -/

/-- The path leads to no place that it names, since it ends with a step up or has no components.  A
call that removes such a path is refused at the end, after the directory to which it leads may have
been emptied. -/
def Endless (path : Path) : Prop := path.parts = [] ∨ ∃ init, path.parts = init ++ [".."]

/-- A path without a last component has no place of its own. -/
theorem not_names_of_endless (h : Endless path) : ¬ fs.Names caller path location := by
  rintro ⟨init, name, links, dir, hparts, hdots, -⟩
  rcases h with hnil | ⟨other, hother⟩
  · rw [hnil] at hparts
    simp at hparts
  · obtain ⟨-, heq⟩ := List.append_inj' (hparts.symm.trans hother) rfl
    rw [List.cons.injEq] at heq
    exact hdots heq.1

/-- What a path names, if it is no link, it also leads to. -/
theorem Names.pathLeads {object : Object} (h : fs.Names caller path location)
    (hobject : fs.get? location = some object) (hlink : object.isLink = false) :
    fs.PathLeads caller path location := by
  obtain ⟨init, name, links, dir, hparts, -, hleads, ⟨mode, hdir, hmay⟩, rfl⟩ := h
  refine ⟨links, ?_⟩
  rw [hparts]
  exact hleads.append (.pace (.down hdir hmay hobject hlink) .done)

/-- A path without components leads to its start. -/
theorem eq_start_of_walk {ending : Ending} (hnil : path.parts = [])
    (hwalk : fs.walk caller ending linkLimit (path.start caller) (steps path.text)
      = .ok (.object location)) : location = path.start caller := by
  rw [Path.steps_text_of_nil hnil] at hwalk
  split at hwalk
  · rcases walk_cons_eq_ok hwalk with ⟨links, here, front, hpace, hrest⟩ |
      ⟨-, -, -, hdot, -⟩ | ⟨-, -, -, ⟨target, htarget⟩, -⟩
    · cases hpace with
      | blank heq _ => simp at heq
      | dot _ _ _ =>
        rw [List.nil_append, walk_nil] at hrest
        simpa using hrest.symm
      | up heq _ _ => simp at heq
      | down _ _ hobject _ => exact absurd rfl (ne_of_get?_cons hobject).2.1
      | link _ _ hlink => exact absurd rfl (ne_of_get?_cons hlink).2.1
    · exact absurd rfl hdot
    · exact absurd rfl (ne_of_get?_cons htarget).2.1
  · rw [walk_nil] at hwalk
    simpa using hwalk.symm

/-- The directory itself that a path denotes is the one that it leads to, and names if it ends
with a name. -/
theorem find?_itself_directory {mode : Nat}
    (h : fs.find? caller .itself path.text = .ok (location, .directory mode)) :
    fs.PathLeads caller path location ∧ (fs.Names caller path location ∨ Endless path) := by
  obtain ⟨-, hwalk, hget⟩ := find?_text_eq_ok_iff.1 h
  rcases List.eq_nil_or_concat path.parts with hnil | ⟨init, name, hparts⟩
  · refine ⟨⟨linkLimit, ?_⟩, Or.inr (Or.inl hnil)⟩
    rw [hnil, eq_start_of_walk hnil hwalk]
    exact .done
  · rw [List.concat_eq_append] at hparts
    have hname := path.isName name (by rw [hparts]; simp)
    have hlast : isLast [name] = false := by simp [isLast, hname.1]
    rw [Path.steps_text (by rw [hparts]; simp), hparts] at hwalk
    obtain ⟨links, dir, hleads, hwalk⟩ := exists_leads_of_walk_append hlast hwalk
    rcases walk_cons_eq_ok hwalk with ⟨links', here, front, hpace, hrest⟩ |
      ⟨-, -, -, -, -, -, -, hfree⟩ | ⟨-, -, -, ⟨target, htarget⟩, heq⟩
    · cases hpace with
      | blank heq _ => exact absurd heq hname.1
      | dot heq _ _ => exact absurd heq hname.2.1
      | up heq hdir hmay =>
        rw [List.nil_append, walk_nil] at hrest
        have hplace : location = dir.tail := by simpa using hrest.symm
        refine ⟨⟨links, ?_⟩, Or.inr (Or.inr ⟨init, by rw [hparts, heq]⟩)⟩
        rw [hparts, hplace]
        exact hleads.append (.pace (.up heq hdir hmay) .done)
      | down hdir hmay hobject hlink =>
        rw [List.nil_append, walk_nil] at hrest
        have hplace : location = name :: dir := by simpa using hrest.symm
        have hnames : fs.Names caller path location :=
          ⟨init, name, links, dir, hparts, (ne_of_get?_cons hobject).2.2.1, hleads,
            ⟨_, hdir, hmay⟩, hplace⟩
        exact ⟨hnames.pathLeads hget rfl, Or.inl hnames⟩
      | link hdir hmay hlink =>
        rw [walk_singleton_of_some ⟨_, hdir, hmay⟩ hlink (Or.inl rfl)] at hwalk
        simp only [Except.ok.injEq, Reached.object.injEq] at hwalk
        rw [← hwalk, hlink] at hget
        simp at hget
    · simp at hfree
    · simp only [Reached.object.injEq] at heq
      rw [heq, htarget] at hget
      simp at hget

/-- What is lost below a directory and then with it lies in it. -/
theorem lost_within {fs'' : FileSystem} (hbelow : Lost (Below dir) fs fs')
    (hself : Lost (· = dir) fs' fs'') : Lost (dir <:+ ·) fs fs'' := by
  refine (hbelow.mono fun location hin => hin.1).trans (hself.mono fun location heq => ?_)
  subst heq
  exact List.suffix_rfl

/-- **Removing a tree takes away what lies in the directory that the path leads to**, and where it
succeeds the path names that directory and nothing is left there. -/
theorem removeTree_cases (h : outcome (removeTree caller path.text) fs = (result, fs')) :
    (fs' = fs ∧ ∃ fault, result = .error fault) ∨
    ∃ dir, fs.PathLeads caller path dir ∧ (fs.Names caller path dir ∨ Endless path) ∧
      Lost (dir <:+ ·) fs fs' ∧
      (result = .ok () → fs.Names caller path dir ∧ fs'.get? dir = none) := by
  rw [removeTree] at h
  rcases outcome_ask_bind h with ⟨rfl, fault, rfl⟩ | ⟨⟨place, object⟩, hfind, h⟩
  · exact Or.inl ⟨rfl, fault, rfl⟩
  simp only at h
  split at h
  · obtain ⟨rfl, rfl⟩ := Prod.mk.inj (show _ = _ from h)
    exact Or.inl ⟨rfl, _, rfl⟩
  split at h
  · obtain ⟨rfl, rfl⟩ := Prod.mk.inj (show _ = _ from h)
    exact Or.inl ⟨rfl, _, rfl⟩
  rename_i hdirectory
  rw [outcome_bind_of_ok (outcome_get _)] at h
  have hobject : ∃ mode, object = .directory mode := by
    cases object with
    | directory mode => exact ⟨mode, rfl⟩
    | _ => simp [Object.isDirectory] at hdirectory
  obtain ⟨mode, rfl⟩ := hobject
  obtain ⟨hleads, hnames⟩ := find?_itself_directory hfind
  have hdoes := does_removeBelow caller (fs.objects.length + 1) place
  refine Or.inr ⟨place, hleads, hnames, ?_⟩
  rcases outcome_bind_eq h with ⟨fault, hremove, rfl⟩ | ⟨_, left, hremove, h⟩
  · exact ⟨(hdoes.of_outcome hremove).mono fun location hin => hin.1, fun hok => by simp at hok⟩
  · have hbelow := hdoes.of_outcome hremove
    rcases outcome_change_cases h with ⟨-, hstep⟩ | ⟨rfl, fault, rfl⟩
    · obtain ⟨own, hown, -, -, hlost, hgone⟩ := removeDirectory_eq_ok hstep
      have hown := hown.mono hbelow.le
      have hsame : own = place := by
        rcases hnames with hnames | hendless
        · exact hown.unique hnames
        · exact absurd hown (not_names_of_endless hendless)
      subst hsame
      exact ⟨lost_within hbelow hlost, fun _ => ⟨hown, hgone⟩⟩
    · exact ⟨hbelow.mono fun location hin => hin.1, fun hok => by simp at hok⟩

/-! ## The destination -/

/-- What is lost when the destination is removed: nothing, a link that it names, or what lies in the
place that it leads to.  A link at the destination goes without what it leads to.  In the last case
the region is that of the place to which the path leads, which for a path that ends with a step up
is not a place that the path names. -/
inductive Cleared (fs : FileSystem) (caller : Caller) (path : Path) (fs' : FileSystem) : Prop
  | nothing (h : fs' = fs)
  | link {location : Location} {target : String} (hnames : fs.Names caller path location)
      (hlink : fs.get? location = some (.link target)) (hlost : Lost (· = location) fs fs')
  | place {location : Location} (hleads : fs.PathLeads caller path location)
      (hnames : fs.Names caller path location ∨ Endless path) (hlost : Lost (location <:+ ·) fs fs')

theorem Cleared.le (h : Cleared fs caller path fs') : fs' ≤ fs := by
  cases h with
  | nothing heq => rw [heq]; exact le_refl fs
  | link _ _ hlost => exact hlost.le
  | place _ _ hlost => exact hlost.le

/-- One call takes away a link or a file, whichever the path names. -/
theorem cleared_unlink (h : unlink caller path.text fs = .ok fs') :
    Cleared fs caller path fs' ∧
      ∃ location, fs.Names caller path location ∧ fs'.get? location = none := by
  obtain ⟨location, hnames, -, hfound, hlost, hgone⟩ := unlink_eq_ok h
  refine ⟨?_, location, hnames, hgone⟩
  obtain ⟨object, hobject⟩ := Option.ne_none_iff_exists'.1 hfound
  by_cases hlink : object.isLink = false
  · refine .place (hnames.pathLeads hobject hlink) (Or.inl hnames) (hlost.mono ?_)
    intro other heq
    subst heq
    exact List.suffix_rfl
  · cases object with
    | link target => exact .link hnames hobject hlost
    | _ => simp [Object.isLink] at hlink

/-- **What is lost when the destination is removed**, and that nothing is left at it if this
succeeds. -/
theorem removeDestination_cases
    (h : outcome (Operation.removeDestination caller path) fs = (result, fs')) :
    Cleared fs caller path fs' ∧
      (result = .ok () → ∃ location, fs.Names caller path location ∧ fs'.get? location = none) := by
  have hunlink : ∀ {left : FileSystem}, outcome (Act.change (unlink caller path.text)) fs
      = (result, left) → Cleared fs caller path left ∧
        (result = .ok () → ∃ location, fs.Names caller path location ∧
          left.get? location = none) := by
    intro left hchange
    rcases outcome_change_cases hchange with ⟨-, hstep⟩ | ⟨rfl, fault, rfl⟩
    · obtain ⟨hcleared, hgone⟩ := cleared_unlink hstep
      exact ⟨hcleared, fun _ => hgone⟩
    · exact ⟨.nothing rfl, fun hok => by simp at hok⟩
  rw [Operation.removeDestination] at h
  rcases outcome_ask_bind h with ⟨rfl, fault, rfl⟩ | ⟨isLink, -, h⟩
  · exact ⟨.nothing rfl, fun hok => by simp at hok⟩
  split at h
  · exact hunlink h
  rcases outcome_ask_bind h with ⟨rfl, fault, rfl⟩ | ⟨isDirectory, -, h⟩
  · exact ⟨.nothing rfl, fun hok => by simp at hok⟩
  split at h
  · rcases removeTree_cases h with ⟨rfl, fault, rfl⟩ | ⟨dir, hleads, hnames, hlost, hgone⟩
    · exact ⟨.nothing rfl, fun hok => by simp at hok⟩
    · exact ⟨.place hleads hnames hlost, fun hok => ⟨dir, hgone hok⟩⟩
  · exact hunlink h

end FileSystem
end AssetPublish
