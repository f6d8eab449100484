import AssetPublish.Proofs.FileSystem.Following
import AssetPublish.Proofs.Procedure

/-!
# Where a spelled path leads

A call of the system takes a spelling, checks its length, and follows its components.  For the
spelling of a `Path` this is following the components of the path.

So the statements of this module have a spelling on one side and a way through the tree on the
other.  A spelling can be refused for two reasons that have nothing to do with the tree, the zero
character and its length; `Spellable` keeps these apart from the rest, and once they are out of the
way a question about a path is a question about its components.  What lies below a path is reached
by going on from where the path leads, which is how a scan and a copy come to the objects below
their roots.

## What is here

* `Spellable` — the spellings that the system accepts.
* `reach?_text_eq_ok_iff`, `find?_text_eq_ok_iff` — the object that a path leads to.
* `lastStep_text_eq_ok` — the directory that a path leads to before its last component.
* `eq_of_find?_append`, `eq_of_follow?_append` — the object at some names below a path, and
  `find?_append_of_privileged`, `follow?_append_of_privileged` for those whom nothing stops.
-/

set_option autoImplicit false

namespace AssetPublish
namespace FileSystem

variable {fs : FileSystem} {caller : Caller} {ending : Ending} {path : Path}
  {location dir : Location} {object : Object} {name : String} {init : List String} {slash : Bool}

/-- What a call of the system accepts: a spelling without the zero character, not too long.  The
length counts bytes.  A path and what lies below it can differ in this: the deeper object may have a
spelling that is too long although each of its names is short. -/
def Spellable (text : String) : Prop :=
  '\x00' ∉ text.toList ∧ text.utf8ByteSize ≤ spellingLimit

instance (text : String) : Decidable (Spellable text) := by unfold Spellable; infer_instance

theorem text_ne_empty (path : Path) : path.text ≠ "" := by
  by_cases h : path.parts = []
  · rw [Path.text, Path.spelling, h]
    cases path.anchor <;> simp [Anchor.text, Text.joined, Text.joinChars]
  · intro hempty
    have hsteps := Path.steps_text h
    rw [hempty] at hsteps
    exact h (by rw [← hsteps]; rfl)

/-- Only the length of a spelling can be refused, since a path is never spelled as the empty text.
-/
theorem checkSpelling_text (path : Path) :
    checkSpelling path.text
      = if spellingLimit < path.text.utf8ByteSize then .error .nameTooLong else .ok () := by
  rw [checkSpelling, if_neg (text_ne_empty path)]

/-- A path is reached by following its components if its spelling is accepted. -/
theorem reach?_text_eq_ok_iff {reached : Reached} :
    fs.reach? caller ending path.text = .ok reached ↔
      Spellable path.text ∧
        fs.walk caller ending linkLimit (path.start caller) (steps path.text) = .ok reached := by
  rw [reach?, reach, checkSpelling_text, Path.startOf_text, Spellable]
  by_cases hnull : '\x00' ∈ path.text.toList
  · simp [hnull]
  · by_cases hsize : spellingLimit < path.text.utf8ByteSize
    · have hlong : ¬ path.text.utf8ByteSize ≤ spellingLimit := by omega
      simp [hnull, hsize, hlong]
    · rw [if_neg hnull, if_neg hsize]
      cases hwalk : fs.walk caller ending linkLimit (path.start caller) (steps path.text) with
      | error refusal => simp
      | ok other => simp [hnull, Nat.not_lt.1 hsize]

/-- **What a spelling leads to**: the object at the end of the walk along its components. -/
theorem find?_text_eq_ok_iff :
    fs.find? caller ending path.text = .ok (location, object) ↔
      Spellable path.text ∧
        fs.walk caller ending linkLimit (path.start caller) (steps path.text)
          = .ok (.object location) ∧ fs.get? location = some object := by
  rw [find?]
  constructor
  · intro h
    cases hreach : fs.reach? caller ending path.text with
    | error fault => rw [hreach] at h; simp at h
    | ok reached =>
      rw [hreach] at h
      obtain ⟨hspell, hwalk⟩ := reach?_text_eq_ok_iff.1 hreach
      cases reached with
      | free dir name => simp at h
      | object place =>
        cases hget : fs.get? place with
        | none => simp [hget] at h
        | some found =>
          simp only [ok_bind, hget, pure_eq_ok, Except.ok.injEq, Prod.mk.injEq] at h
          obtain ⟨rfl, rfl⟩ := h
          exact ⟨hspell, hwalk, hget⟩
  · rintro ⟨hspell, hwalk, hget⟩
    rw [reach?_text_eq_ok_iff.2 ⟨hspell, hwalk⟩]
    simp only [ok_bind, hget, pure_eq_ok]

theorem readLink?_eq_ok_iff {held : String} :
    fs.readLink? caller path.text = .ok held ↔
      ∃ location, fs.find? caller .itself path.text = .ok (location, .link held) := by
  rw [readLink?, inspect?]
  cases hfind : fs.find? caller .itself path.text with
  | error fault => simp [Except.map]
  | ok found =>
    obtain ⟨location, object⟩ := found
    cases object <;> simp [Except.map]

/-- Following the components of a path, its spelling being accepted.  How many links are left at the
end does not matter for the place, so it is hidden here. -/
def PathLeads (fs : FileSystem) (caller : Caller) (path : Path) (location : Location) : Prop :=
  ∃ links, fs.Leads caller linkLimit (path.start caller) path.parts links location

/-- Following the spelling of a path is following its components. -/
theorem leads_steps_text_iff {links links' : Nat} {here : Location} (hne : path.parts ≠ []) :
    fs.Leads caller links here (steps path.text) links' location ↔
      fs.Leads caller links here path.parts links' location := by
  rw [Path.steps_text hne]

/-- A dot, or nothing at all, leads nowhere else. -/
theorem eq_of_leads_steps_text {links links' : Nat} {here : Location} (hnil : path.parts = [])
    (h : fs.Leads caller links here (steps path.text) links' location) :
    links' = links ∧ location = here := by
  rw [Path.steps_text_of_nil hnil] at h
  split at h
  · cases h with
    | pace hpace hrest =>
      cases hpace with
      | blank heq _ => simp at heq
      | dot _ _ _ => cases hrest; exact ⟨rfl, rfl⟩
      | up heq _ _ => simp at heq
      | down _ _ hobject _ => exact absurd rfl (ne_of_get?_cons hobject).2.1
      | link _ _ hlink => exact absurd rfl (ne_of_get?_cons hlink).2.1
  · cases h; exact ⟨rfl, rfl⟩

/-- A path that is followed to an object leads there, component by component. -/
theorem pathLeads_of_follow? (h : fs.follow? caller path.text = .ok (location, object)) :
    fs.PathLeads caller path location := by
  obtain ⟨-, hwalk, -⟩ := find?_text_eq_ok_iff.1 h
  obtain ⟨links, hleads⟩ := walk_followed_eq_object_iff.1 hwalk
  by_cases hnil : path.parts = []
  · obtain ⟨-, rfl⟩ := eq_of_leads_steps_text hnil hleads
    exact ⟨linkLimit, by rw [hnil]; exact .done⟩
  · exact ⟨links, (leads_steps_text_iff hnil).1 hleads⟩

/-- What a path is followed to is no link. -/
theorem isLink_of_follow? (h : fs.follow? caller path.text = .ok (location, object)) :
    object.isLink = false := by
  obtain ⟨-, hwalk, hobject⟩ := find?_text_eq_ok_iff.1 h
  obtain ⟨links, hleads⟩ := walk_followed_eq_object_iff.1 hwalk
  by_cases hsteps : steps path.text = []
  · -- only the root has a path without components
    have hnil : path.parts = [] :=
      Decidable.of_not_not fun hne => hne ((Path.steps_text hne).symm.trans hsteps)
    rw [Path.steps_text_of_nil hnil] at hsteps
    have hanchor : path.anchor ≠ .relative := fun hrelative => by simp [hrelative] at hsteps
    rw [Path.steps_text_of_nil hnil, if_neg hanchor, Path.start, if_neg hanchor] at hleads
    cases hleads
    obtain rfl := Option.some.inj hobject
    rfl
  · obtain ⟨found, hfound, hlink⟩ := hleads.exists_object hsteps
    rw [hobject, Option.some.injEq] at hfound
    rwa [hfound]

/-- An affirmative answer is about what the path is followed to. -/
theorem answer?_eq_ok_true {α : Type} {test : α → Bool} {asked : Except Fault α}
    (h : answer? test asked = .ok true) : ∃ found, asked = .ok found ∧ test found = true := by
  rw [answer?.eq_def] at h
  split at h
  · exact ⟨_, rfl, by simpa using h⟩
  · simp at h
  · split at h <;> simp at h
  · simp at h

theorem isDirectory?_eq_ok_true (h : fs.isDirectory? caller path.text = .ok true) :
    ∃ location mode, fs.follow? caller path.text = .ok (location, .directory mode) := by
  obtain ⟨⟨location, object⟩, hfollow, htest⟩ := answer?_eq_ok_true h
  cases object with
  | directory mode => exact ⟨location, mode, hfollow⟩
  | _ => simp [Object.isDirectory] at htest

/-! ## The last component

Calls that create or remove something follow all components but the last one, which they take as a
name in the directory that is reached.  They are refused where it is no name. -/

theorem ofSteps_text_of_append (h : path.parts = init ++ [name]) :
    LastStep.ofSteps (steps path.text) =
      if name = ".." then .dots else .name name false := by
  have hne : path.parts ≠ [] := by rw [h]; simp
  have hname := path.isName name (by rw [h]; simp)
  have hkept : path.parts.filter (· ≠ "") = path.parts :=
    List.filter_eq_self.2 fun part hpart => by simpa using (path.isName part hpart).1
  have hlast : path.parts.getLast? = some name := by rw [h]; simp
  rw [LastStep.ofSteps, Path.steps_text hne, hkept, hlast]
  simp [hname.1, hname.2.1]

theorem ofSteps_text_of_nil (h : path.parts = []) :
    LastStep.ofSteps (steps path.text) = if path.anchor = .relative then .dot else .none := by
  rw [Path.steps_text_of_nil h]
  split <;> rfl

/-- **The directory that a path leads to before its last component.** -/
theorem lastStep_text_eq_ok (h : fs.lastStep caller path.text = .ok (dir, .name name slash)) :
    ∃ init links, path.parts = init ++ [name] ∧ name ≠ ".." ∧ slash = false ∧
      fs.Leads caller linkLimit (path.start caller) init links dir ∧ fs.Passable caller dir := by
  rw [lastStep, checkSpelling_text, Path.startOf_text] at h
  split at h
  · simp at h
  simp only [bind, Except.bind] at h
  split at h
  · simp at h
  rename_i reached hwalk
  cases reached with
  | free place other => simp at h
  | object place =>
    simp only at h
    split at h
    · rename_i mode hdir
      split at h
      · rename_i hmay
        simp only [pure, Except.pure, Except.ok.injEq, Prod.mk.injEq] at h
        obtain ⟨rfl, hlast⟩ := h
        rcases List.eq_nil_or_concat path.parts with hnil | ⟨init, last, hparts⟩
        · rw [ofSteps_text_of_nil hnil] at hlast
          split at hlast <;> simp at hlast
        · rw [List.concat_eq_append] at hparts
          have hne : path.parts ≠ [] := by rw [hparts]; simp
          have hkept : path.parts.filter (· ≠ "") = path.parts :=
            List.filter_eq_self.2 fun part hpart => by simpa using (path.isName part hpart).1
          rw [Path.steps_text hne, hkept, hparts, List.dropLast_concat] at hwalk
          obtain ⟨links, hleads⟩ := walk_followed_eq_object_iff.1 hwalk
          rw [ofSteps_text_of_append hparts] at hlast
          split at hlast
          · simp at hlast
          · rename_i hdots
            simp only [LastStep.name.injEq] at hlast
            obtain ⟨rfl, rfl⟩ := hlast
            exact ⟨init, links, hparts, hdots, rfl, hleads, mode, hdir, hmay⟩
      · simp at h
    · simp at h

/-! ## Below a path -/

theorem parts_append {names : List String} (path : Path) (hnames : ∀ name ∈ names, IsName name) :
    (path.append names).parts = path.parts ++ names := by
  rw [Path.append_parts, Path.names_eq_self hnames]

/-- What the names that lead to an object are. -/
theorem isName_of_get?_reverse {names : List String}
    (h : fs.get? (names.reverse ++ location) = some object) : ∀ name ∈ names, IsName name :=
  fun name hname => (isFileName_of_get?_append h name (List.mem_reverse.2 hname)).1

/-- Whoever looks a name up in a directory must be allowed to pass it. -/
theorem passable_of_walk_cons {links : Nat} {here : Location} {rest : List String}
    {reached : Reached} (hname : IsFileName name)
    (h : fs.walk caller ending links here (name :: rest) = .ok reached) :
    fs.Passable caller here := by
  rcases walk_cons_eq_ok h with ⟨links', here', front, hpace, -⟩ | ⟨-, hpass, -⟩ | ⟨-, -, hpass, -⟩
  · cases hpace with
    | blank heq _ => exact absurd heq hname.1.1
    | dot heq _ _ => exact absurd heq hname.1.2.1
    | up heq _ _ => exact absurd heq hname.2.1
    | down hdir hpass _ _ => exact ⟨_, hdir, hpass⟩
    | link hdir hpass _ => exact ⟨_, hdir, hpass⟩
  · exact hpass
  · exact hpass

variable {base : Location} {names : List String}

/-- Names below a place lead straight down to an object there. -/
theorem PathLeads.below (hroot : fs.PathLeads caller path base)
    (hget : fs.get? (names.reverse ++ base) = some object) (hlink : object.isLink = false)
    (h : fs.PathLeads caller (path.append names) location) :
    location = names.reverse ++ base := by
  obtain ⟨links, hleads⟩ := h
  obtain ⟨rootLinks, hrootLeads⟩ := hroot
  rw [Path.start_append, parts_append path (isName_of_get?_reverse hget)] at hleads
  obtain ⟨mid, here, hfirst, hsecond⟩ := hleads.split
  obtain ⟨rfl, rfl⟩ := hfirst.unique hrootLeads
  exact (hsecond.straight_of_get? hget hlink).2

/-- The object itself that is found at some names below a path.  Since the names are those of
objects, they meet no link before the last one, and whatever the call finds can only be what lies
straight below. -/
theorem eq_of_find?_append {found : Location × Object} (hroot : fs.PathLeads caller path base)
    (hne : names ≠ []) (hget : fs.get? (names.reverse ++ base) = some object)
    (h : fs.find? caller .itself (path.append names).text = .ok found) :
    found = (names.reverse ++ base, object) := by
  obtain ⟨init, last, rfl⟩ : ∃ init last, names = init ++ [last] :=
    ⟨_, _, (List.dropLast_concat_getLast hne).symm⟩
  have hparts := parts_append path (isName_of_get?_reverse hget)
  have hname := isFileName_of_get?_append hget last (by simp)
  rw [List.reverse_append, List.reverse_singleton, List.append_assoc,
    List.singleton_append] at hget ⊢
  obtain ⟨-, hwalk, hfound⟩ := find?_text_eq_ok_iff.1 h
  rw [Path.steps_text (by rw [hparts]; simp), Path.start_append, hparts,
    ← List.append_assoc] at hwalk
  have hlast : isLast [last] = false := by simp [isLast, hname.1.1]
  obtain ⟨links, here, hleads, hwalk⟩ := exists_leads_of_walk_append hlast hwalk
  obtain ⟨mid, place, hfirst, hsecond⟩ := hleads.split
  obtain ⟨rootLinks, hrootLeads⟩ := hroot
  obtain ⟨rfl, rfl⟩ := hfirst.unique hrootLeads
  obtain ⟨mode, hdir⟩ := exists_directory_of_get?_cons hget
  obtain ⟨-, rfl⟩ := hsecond.straight_of_get? hdir rfl
  rw [walk_singleton_of_some (passable_of_walk_cons hname hwalk) hget (Or.inl rfl)] at hwalk
  simp only [Except.ok.injEq, Reached.object.injEq] at hwalk
  rw [← hwalk, hget, Option.some.injEq] at hfound
  exact Prod.ext hwalk.symm hfound.symm

/-- The object that a path with some names behind it is followed to. -/
theorem eq_of_follow?_append {found : Location × Object} (hroot : fs.PathLeads caller path base)
    (hget : fs.get? (names.reverse ++ base) = some object) (hlink : object.isLink = false)
    (h : fs.follow? caller (path.append names).text = .ok found) :
    found = (names.reverse ++ base, object) := by
  have hplace := hroot.below hget hlink (pathLeads_of_follow? h)
  obtain ⟨-, -, hfound⟩ := find?_text_eq_ok_iff.1 h
  rw [hplace, hget, Option.some.injEq] at hfound
  exact Prod.ext hplace hfound.symm

/-- Nothing keeps the privileged from going down. -/
theorem leads_of_privileged {links : Nat} (hcaller : caller.privileged = true)
    (hget : fs.get? (names.reverse ++ base) = some object) (hlink : object.isLink = false) :
    fs.Leads caller links base names links (names.reverse ++ base) := by
  refine leads_straight ?_ hget hlink
  intro first rest heq hrest
  rw [heq, List.reverse_append, List.append_assoc] at hget
  obtain ⟨mode, hdir⟩ := exists_directory_of_get?_append (by simpa using hrest) hget
  exact passable_of_privileged hcaller hdir

/-- The privileged find every object below a path whose spelling is accepted. -/
theorem find?_append_of_privileged (hcaller : caller.privileged = true)
    (hroot : fs.PathLeads caller path base) (hne : names ≠ [])
    (hget : fs.get? (names.reverse ++ base) = some object)
    (hspell : Spellable (path.append names).text) :
    fs.find? caller .itself (path.append names).text = .ok (names.reverse ++ base, object) := by
  obtain ⟨init, last, rfl⟩ : ∃ init last, names = init ++ [last] :=
    ⟨_, _, (List.dropLast_concat_getLast hne).symm⟩
  have hparts := parts_append path (isName_of_get?_reverse hget)
  rw [List.reverse_append, List.reverse_singleton, List.append_assoc,
    List.singleton_append] at hget ⊢
  obtain ⟨mode, hdir⟩ := exists_directory_of_get?_cons hget
  obtain ⟨links, hleads⟩ := hroot
  have hbelow : fs.Leads caller links base init links (init.reverse ++ base) :=
    leads_of_privileged hcaller hdir rfl
  have hway := hleads.append hbelow
  refine find?_text_eq_ok_iff.2 ⟨hspell, ?_, hget⟩
  rw [Path.steps_text (by rw [hparts]; simp), Path.start_append, hparts, ← List.append_assoc,
    walk_append hway (inner_cons (ne_of_get?_cons hget).1 _ _)]
  exact walk_singleton_of_some (passable_of_privileged hcaller hdir) hget (Or.inl rfl)

/-- The privileged follow a path with some names behind it to the directory there. -/
theorem follow?_append_of_privileged {mode : Nat} (hcaller : caller.privileged = true)
    (hroot : fs.PathLeads caller path base) (hne : names ≠ [])
    (hget : fs.get? (names.reverse ++ base) = some (.directory mode))
    (hspell : Spellable (path.append names).text) :
    fs.follow? caller (path.append names).text
      = .ok (names.reverse ++ base, .directory mode) := by
  have hparts := parts_append path (isName_of_get?_reverse hget)
  obtain ⟨links, hleads⟩ := hroot
  refine find?_text_eq_ok_iff.2 ⟨hspell, walk_followed_eq_object_iff.2 ⟨links, ?_⟩, hget⟩
  rw [Path.steps_text (by rw [hparts]; simp [hne]), Path.start_append, hparts]
  exact hleads.append (leads_of_privileged hcaller hget rfl)

/-- The spelling of an object below a path that leads somewhere can only be too long.  Names of
objects are without the zero character, so the other reason is excluded. -/
theorem spellable_append_iff (hroot : Spellable path.text)
    (hget : fs.get? (names.reverse ++ base) = some object) :
    Spellable (path.append names).text ↔
      (path.append names).text.utf8ByteSize ≤ spellingLimit := by
  refine ⟨fun h => h.2, fun hsize => ⟨fun hnull => ?_, hsize⟩⟩
  obtain ⟨part, hpart, hmem⟩ := Path.null_mem_text_iff.1 hnull
  rw [parts_append path (isName_of_get?_reverse hget), List.mem_append] at hpart
  rcases hpart with hpart | hpart
  · exact hroot.1 (Path.null_mem_text_iff.2 ⟨part, hpart, hmem⟩)
  · exact (isFileName_of_get?_append hget part (List.mem_reverse.2 hpart)).2.2.1 hmem

end FileSystem
end AssetPublish
