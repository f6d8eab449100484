import AssetPublish.FileSystem.Directories
import AssetPublish.Proofs.FileSystem.Changes

/-!
# Creating the destination

A directory is created after those above it that are missing.  Every component of its path is
taken care of in turn: it is created, or it leads somewhere already.

The program creates a directory by trying; where the system says that the directory above is
missing, it creates that one first and tries again.  A path with links and steps up in it may lead
to a place in one file system and to another one after directories have been created, so the
components are not simply gone down.  `Built` follows the program: it says for each beginning of the
path whether its last component was created or was found to lead somewhere, in the file system of
that moment.

In most trees this comes to the simple picture of a path that is followed as far as it leads and
then goes straight down through new directories (`Branched`).  It fails only for a path that steps
up from a directory that is not there yet: `missing/../site` creates `missing` and `site` side by
side.  `Steady` excludes just that.

## What is here

* `Built` — what has been created so far, and how far the path leads by now.
* `builds_makeWithParents` — creating a directory with its parents builds its path, or a part of it
  if it fails.
* `Built.le`, `Built.new` — nothing is changed, and what is new are directories on the path.
* `Steady`, `Built.branched` — if all steps up lead on, the path is followed as far as it leads, and
  from there a new branch goes straight down.
-/

set_option autoImplicit false

namespace AssetPublish
namespace FileSystem

variable {fs fs' : FileSystem} {caller : Caller} {path : Path} {start dir location : Location}
  {first init : List String} {name : String} {depth : Nat} {existing : Bool}
  {result : Except Fault Unit}

/-- From the file system `fs`, the components `first` have been taken care of; by now they lead to
`dir`, and the file system is `fs'`.  A component that leads somewhere already may do so because of
what was created for the components before it, so `kept` looks at the file system of the moment and
not at the first one. -/
inductive Built (fs : FileSystem) (caller : Caller) (start : Location) :
    List String → Location → FileSystem → Prop
  | found {first : List String} {links : Nat} {dir : Location}
      (hleads : fs.Leads caller linkLimit start first links dir) : Built fs caller start first dir fs
  | made {init : List String} {name : String} {dir : Location} {mode : Nat} {mid fs' : FileSystem}
      (h : Built fs caller start init dir mid) (hdots : name ≠ "..")
      (hpass : mid.Passable caller dir)
      (hcreated : Created mid fs' (name :: dir) (.directory mode)) :
      Built fs caller start (init ++ [name]) (name :: dir) fs'
  | kept {init : List String} {name : String} {dir there : Location} {links : Nat}
      {mid : FileSystem} (h : Built fs caller start init dir mid)
      (hleads : mid.Leads caller linkLimit start (init ++ [name]) links there) :
      Built fs caller start (init ++ [name]) there mid

/-! ## What the program does -/

/-- A call for one directory makes it, finds it there, or fails and changes nothing. -/
theorem makeOne_cases (h : outcome (makeOne caller path existing) fs = (result, fs')) :
    (result = .ok () ∧ ∃ location mode, fs.Names caller path location ∧
      Created fs fs' location (.directory mode)) ∨
    (result = .ok () ∧ fs' = fs ∧ existing = true ∧
      ∃ location, fs.PathLeads caller path location) ∨
    (fs' = fs ∧ ∃ fault, result = .error fault) := by
  rw [makeOne, outcome_bind_of_ok (outcome_get fs)] at h
  split at h
  · rename_i left hmade
    obtain ⟨rfl, rfl⟩ := Prod.mk.inj (show _ = _ from h)
    exact Or.inl ⟨rfl, makeDirectory_eq_ok hmade⟩
  · obtain ⟨rfl, rfl⟩ := Prod.mk.inj (show _ = _ from h)
    exact Or.inr (Or.inr ⟨rfl, _, rfl⟩)
  · cases existing with
    | false =>
      obtain ⟨rfl, rfl⟩ := Prod.mk.inj (show _ = _ from h)
      exact Or.inr (Or.inr ⟨rfl, _, rfl⟩)
    | true =>
      rcases outcome_ask_bind (show outcome (Act.ask _ >>= _) fs = _ from h) with
        ⟨rfl, fault, rfl⟩ | ⟨isDirectory, hanswer, hlast⟩
      · exact Or.inr (Or.inr ⟨rfl, fault, rfl⟩)
      · cases isDirectory with
        | false =>
          obtain ⟨rfl, rfl⟩ := Prod.mk.inj (show _ = _ from hlast)
          exact Or.inr (Or.inr ⟨rfl, _, rfl⟩)
        | true =>
          obtain ⟨rfl, rfl⟩ := Prod.mk.inj (show _ = _ from hlast)
          obtain ⟨location, mode, hfollow⟩ := isDirectory?_eq_ok_true hanswer
          exact Or.inr (Or.inl ⟨rfl, rfl, rfl, location, pathLeads_of_follow? hfollow⟩)
  · obtain ⟨rfl, rfl⟩ := Prod.mk.inj (show _ = _ from h)
    exact Or.inr (Or.inr ⟨rfl, _, rfl⟩)

/-- What is built leads where it is said to lead. -/
theorem Built.leads (h : Built fs caller start first dir fs') :
    ∃ links, fs'.Leads caller linkLimit start first links dir := by
  induction h with
  | found hleads => exact ⟨_, hleads⟩
  | made h hdots hpass hcreated ih =>
    obtain ⟨links, hleads⟩ := ih
    obtain ⟨mode, hdir, hmay⟩ := hpass
    exact ⟨links, (hleads.mono hcreated.le).append
      (.pace (.down (hcreated.le _ _ hdir) hmay hcreated.self rfl) .done)⟩
  | kept h hleads ih => exact ⟨_, hleads⟩

theorem Built.le (h : Built fs caller start first dir fs') : fs ≤ fs' := by
  induction h with
  | found hleads => exact le_refl fs
  | made h hdots hpass hcreated ih => exact le_trans ih hcreated.le
  | kept h hleads ih => exact ih

/-- What comes of creating the directory at a path: all of the path is built, or a part of it where
this fails.  If the directory must be a new one, it is created last.  A failure leaves a part of the
path built; nothing else can have been created. -/
structure Builds (fs : FileSystem) (caller : Caller) (path : Path) (existing : Bool)
    (result : Except Fault Unit) (fs' : FileSystem) : Prop where
  done : result = .ok () → ∃ dir, Built fs caller (path.start caller) path.parts dir fs' ∧
    (existing = false → ∃ mid mode, fs ≤ mid ∧ mid.Names caller path dir ∧
      Created mid fs' dir (.directory mode))
  broken : ∀ fault, result = .error fault →
    ∃ first dir, first <+: path.parts ∧ Built fs caller (path.start caller) first dir fs'

/-- A call for one directory is building without any directory above. -/
theorem builds_makeOne (h : outcome (makeOne caller path existing) fs = (result, fs')) :
    Builds fs caller path existing result fs' := by
  rcases makeOne_cases h with ⟨rfl, location, mode, hnames, hcreated⟩ |
    ⟨rfl, rfl, hexisting, location, links, hpath⟩ | ⟨rfl, fault, rfl⟩
  · refine ⟨fun _ => ⟨location, ?_, fun _ => ⟨fs, mode, le_refl fs, hnames, hcreated⟩⟩, by simp⟩
    obtain ⟨init, name, links, dir, hparts, hdots, hleads, hpass, rfl⟩ := hnames
    rw [hparts]
    exact .made (.found hleads) hdots hpass hcreated
  · refine ⟨fun _ => ⟨location, .found hpath, fun hnew => ?_⟩, by simp⟩
    rw [hexisting] at hnew
    simp at hnew
  · exact ⟨by simp, fun _ _ => ⟨[], _, List.nil_prefix, .found .done⟩⟩

/-- The directory itself comes after those above it. -/
theorem Builds.makeOne {mid : FileSystem}
    (habove : Builds fs caller path.parent true (.ok ()) mid)
    (h : outcome (FileSystem.makeOne caller path existing) mid = (result, fs')) :
    Builds fs caller path existing result fs' := by
  obtain ⟨dir, hbuilt, -⟩ := habove.done rfl
  have hle := hbuilt.le
  have hstart : path.parent.start caller = path.start caller := rfl
  have hparent : path.parent.parts = path.parts.dropLast := rfl
  rw [hstart, hparent] at hbuilt
  obtain ⟨links, hleads⟩ := hbuilt.leads
  rcases makeOne_cases h with ⟨rfl, location, mode, hnames, hcreated⟩ |
    ⟨rfl, rfl, hexisting, location, links', hpath⟩ | ⟨rfl, fault, rfl⟩
  · refine ⟨fun _ => ⟨location, ?_, fun _ => ⟨mid, mode, hle, hnames, hcreated⟩⟩, by simp⟩
    obtain ⟨init, name, links', dir', hparts, hdots, hleads', hpass, rfl⟩ := hnames
    rw [hparts, List.dropLast_concat] at hbuilt hleads
    obtain ⟨-, rfl⟩ := hleads.unique hleads'
    rw [hparts]
    exact .made hbuilt hdots hpass hcreated
  · refine ⟨fun _ => ⟨location, ?_, fun hnew => ?_⟩, by simp⟩
    · rcases List.eq_nil_or_concat path.parts with hnil | ⟨init, name, hparts⟩
      · rw [hnil] at hpath hbuilt hleads ⊢
        obtain ⟨-, rfl⟩ := hpath.unique hleads
        exact hbuilt
      · rw [List.concat_eq_append] at hparts
        rw [hparts] at hpath hbuilt ⊢
        rw [List.dropLast_concat] at hbuilt
        exact .kept hbuilt hpath
    · rw [hexisting] at hnew
      simp at hnew
  · exact ⟨by simp, fun _ _ => ⟨_, dir, List.dropLast_prefix path.parts, hbuilt⟩⟩

/-- **Creating a directory with its parents builds its path.** -/
theorem builds_makeWithParents
    (h : outcome (makeWithParents caller depth path existing) fs = (result, fs')) :
    Builds fs caller path existing result fs' := by
  induction depth generalizing path existing result fs' with
  | zero => rw [makeWithParents] at h; exact builds_makeOne h
  | succ depth ih =>
    rw [makeWithParents, outcome_bind_of_ok (outcome_get fs)] at h
    split at h
    · rcases outcome_bind_eq h with ⟨fault, habove, rfl⟩ | ⟨⟨⟩, mid, habove, hone⟩
      · obtain ⟨first, dir, hfirst, hbuilt⟩ := (ih habove).broken fault rfl
        exact ⟨by simp, fun _ _ => ⟨first, dir, hfirst.trans (List.dropLast_prefix _), hbuilt⟩⟩
      · exact (ih habove).makeOne hone
    · exact builds_makeOne h

/-! ## What is new -/

/-- Everything that is new lies on the path, and is a directory.  This is why a failed run leaves no
trace outside of the directories above its destination. -/
theorem Built.new {object : Object} (h : Built fs caller start first dir fs')
    (hnone : fs.get? location = none) (hobject : fs'.get? location = some object) :
    (∃ mode, object = .directory mode) ∧
      ∃ front links, front <+: first ∧ fs'.Leads caller linkLimit start front links location := by
  induction h with
  | found hleads => rw [hnone] at hobject; simp at hobject
  | @made init name dir mode mid fs' h hdots hpass hcreated ih =>
    by_cases heq : location = name :: dir
    · subst heq
      rw [hcreated.self, Option.some.injEq] at hobject
      obtain ⟨links, hleads⟩ := (Built.made h hdots hpass hcreated).leads
      exact ⟨⟨mode, hobject.symm⟩, init ++ [name], links, List.prefix_rfl, hleads⟩
    · rw [hcreated.of_ne heq] at hobject
      obtain ⟨hdirectory, front, links, hfront, hleads⟩ := ih hobject
      exact ⟨hdirectory, front, links, hfront.trans (List.prefix_append _ _),
        hleads.mono hcreated.le⟩
  | kept h hleads ih =>
    obtain ⟨hdirectory, front, links, hfront, hfrontLeads⟩ := ih hobject
    exact ⟨hdirectory, front, links, hfront.trans (List.prefix_append _ _), hfrontLeads⟩

/-- No link is new, and none is lost. -/
theorem Built.link_iff {target : String} (h : Built fs caller start first dir fs') :
    fs.get? location = some (.link target) ↔ fs'.get? location = some (.link target) := by
  refine ⟨h.le location _, ?_⟩
  intro hlink
  cases hold : fs.get? location with
  | none =>
    obtain ⟨⟨mode, heq⟩, -⟩ := h.new hold hlink
    simp at heq
  | some object => rw [← h.le location object hold, hlink]

/-- Nothing lies below a directory that has just been created. -/
theorem Created.eq_none_of_below {mid : FileSystem} {mode : Nat} {names : List String}
    (h : Created mid fs' dir (.directory mode)) (hne : names ≠ []) :
    fs'.get? (names ++ dir) = none := by
  rw [h.of_ne fun heq => hne (List.append_left_eq_self.1 heq)]
  cases hget : mid.get? (names ++ dir) with
  | none => rfl
  | some object =>
    obtain ⟨mode, hdir⟩ := exists_directory_of_get?_append hne hget
    rw [h.free] at hdir
    simp at hdir

/-! ## Steps up that lead on -/

/-- Whatever stands in front of a step up leads somewhere.  Without this a step up could come right
behind a directory that is created, and what is built would have a side branch. -/
def Steady (fs : FileSystem) (caller : Caller) (start : Location) (names : List String) : Prop :=
  ∀ front, front ++ [".."] <+: names →
    ∃ links there, fs.Leads caller linkLimit start front links there

theorem steady_of_not_mem {names : List String} (h : ".." ∉ names) :
    Steady fs caller start names :=
  fun front hfront => absurd (hfront.subset (by simp)) h

/-- More objects do not stop a path that goes on. -/
theorem Steady.mono {start : Location} {names : List String} (hle : fs ≤ fs')
    (h : Steady fs caller start names) : Steady fs' caller start names := by
  intro front hfront
  obtain ⟨links, there, hleads⟩ := h front hfront
  exact ⟨links, there, hleads.mono hle⟩

theorem Steady.left {start : Location} {a names : List String} (h : Steady fs caller start names)
    (ha : a <+: names) : Steady fs caller start a :=
  fun front hfront => h front (hfront.trans ha)

/-- The path is followed as far as it leads, to `base`, and `branch` goes straight down from there:
exactly its directories are new.  The branch begins where the path does not lead on, so its first
name is free; and below it nothing was before, so its directories are all that is new. -/
structure Branched (fs : FileSystem) (caller : Caller) (start : Location) (first : List String)
    (base : Location) (branch : List String) (fs' : FileSystem) : Prop where
  split : ∃ front links, first = front ++ branch ∧ fs.Leads caller linkLimit start front links base
  free : ∀ name rest, branch = name :: rest → fs.get? (name :: base) = none
  down : ".." ∉ branch
  old : fs ≤ fs'
  new : ∀ location, fs.get? location = none → fs'.get? location ≠ none →
    ∃ front, front <+: branch ∧ front ≠ [] ∧ location = front.reverse ++ base

/-- Where a branch begins, the path does not lead on. -/
theorem Branched.not_leads {base there : Location} {branch front : List String} {links : Nat}
    (h : Branched fs caller start first base branch fs') (hnames : ∀ name ∈ first, IsName name)
    (hne : branch ≠ []) (hfirst : first <+: front) :
    ¬ fs.Leads caller linkLimit start front links there := by
  intro hleads
  obtain ⟨before, links', rfl, hbefore⟩ := h.split
  obtain ⟨head, rest, rfl⟩ := List.exists_cons_of_ne_nil hne
  obtain ⟨more, rfl⟩ := hfirst
  rw [List.append_assoc] at hleads
  obtain ⟨mid, here, hfront, hlater⟩ := hleads.split
  obtain ⟨-, rfl⟩ := hbefore.unique hfront
  exact not_leads_of_free (hnames head (by simp)) (fun heq => h.down (by simp [heq]))
    (h.free head rest rfl) hlater

/-- From where a branch begins, there are no steps up. -/
theorem Branched.down_append {base : Location} {branch more : List String}
    (h : Branched fs caller start first base branch fs') (hnames : ∀ name ∈ first, IsName name)
    (hne : branch ≠ []) (hsteady : Steady fs caller start (first ++ more)) :
    ".." ∉ branch ++ more := by
  rw [List.mem_append, not_or]
  refine ⟨h.down, ?_⟩
  intro hmem
  obtain ⟨a, b, rfl⟩ := List.append_of_mem hmem
  obtain ⟨links, there, hleads⟩ := hsteady (first ++ a) ⟨b, by simp⟩
  exact h.not_leads hnames hne (List.prefix_append first a) hleads

/-- Something is where a branch begins. -/
theorem Branched.exists_base {base : Location} {branch front : List String} {object : Object}
    (h : Branched fs caller start first base branch fs')
    (hobject : fs'.get? (front.reverse ++ base) = some object) :
    ∃ found, fs.get? base = some found := by
  obtain ⟨other, hother⟩ := exists_object_of_suffix (List.suffix_append _ _) hobject
  cases hold : fs.get? base with
  | some found => exact ⟨found, rfl⟩
  | none =>
    obtain ⟨part, -, hne, heq⟩ := h.new base hold (by rw [hother]; simp)
    exact absurd (List.reverse_eq_nil_iff.1 (List.self_eq_append_left.1 heq)) hne

/-- Nothing lies below the end of a branch. -/
theorem Branched.eq_none_of_below {base : Location} {branch : List String}
    (h : Branched fs caller start first base branch fs') (hne : branch ≠ []) :
    fs'.get? (name :: (branch.reverse ++ base)) = none := by
  have hnone : fs.get? (name :: (branch.reverse ++ base)) = none := by
    obtain ⟨head, rest, hbranch⟩ := List.exists_cons_of_ne_nil hne
    have hfree := h.free head rest hbranch
    cases hold : fs.get? (name :: (branch.reverse ++ base)) with
    | none => rfl
    | some object =>
      rw [hbranch, List.reverse_cons, List.append_assoc, List.singleton_append,
        ← List.cons_append] at hold
      obtain ⟨mode, hdir⟩ := exists_directory_of_get?_append (by simp) hold
      rw [hfree] at hdir
      simp at hdir
  cases hget : fs'.get? (name :: (branch.reverse ++ base)) with
  | none => rfl
  | some object =>
    obtain ⟨front, hfront, -, heq⟩ := h.new _ hnone (by rw [hget]; simp)
    have hle := hfront.length_le
    have hlength := congrArg List.length heq
    rw [List.length_cons, List.length_append, List.length_append, List.length_reverse,
      List.length_reverse] at hlength
    omega

/-- The branch grows by a directory that is created at its end. -/
theorem Branched.made {base : Location} {branch : List String} {mode : Nat} {mid : FileSystem}
    (h : Branched fs caller start init base branch mid) (hdots : name ≠ "..")
    (hcreated : Created mid fs' (name :: (branch.reverse ++ base)) (.directory mode)) :
    Branched fs caller start (init ++ [name]) base (branch ++ [name]) fs' where
  split := by
    obtain ⟨front, links, rfl, hleads⟩ := h.split
    exact ⟨front, links, by simp, hleads⟩
  free := by
    intro head rest heq
    cases branch with
    | nil =>
      rw [List.nil_append, List.cons.injEq] at heq
      rw [← heq.1]
      have hfree := hcreated.free
      cases hold : fs.get? (name :: base) with
      | none => rfl
      | some object =>
        rw [List.reverse_nil, List.nil_append, h.old _ _ hold] at hfree
        simp at hfree
    | cons first more =>
      rw [List.cons_append, List.cons.injEq] at heq
      rw [← heq.1]
      exact h.free first more rfl
  down := by
    rw [List.mem_append, List.mem_singleton, not_or]
    exact ⟨h.down, Ne.symm hdots⟩
  old := le_trans h.old hcreated.le
  new := by
    intro location hnone hsome
    by_cases heq : location = name :: (branch.reverse ++ base)
    · exact ⟨branch ++ [name], List.prefix_rfl, by simp, by rw [heq]; simp⟩
    · rw [hcreated.of_ne heq] at hsome
      obtain ⟨front, hfront, hne, hplace⟩ := h.new location hnone hsome
      exact ⟨front, hfront.trans (List.prefix_append _ _), hne, hplace⟩

/-- While nothing has been created, a component leads where it has led from the beginning. -/
theorem Branched.kept {base there : Location} {links : Nat} {mid : FileSystem}
    (h : Branched fs caller start init base [] mid)
    (hleads : mid.Leads caller linkLimit start (init ++ [name]) links there) :
    Branched fs caller start (init ++ [name]) there [] mid := by
  have hsame : mid ≤ fs := by
    intro location object hobject
    cases hold : fs.get? location with
    | none =>
      obtain ⟨other, hother, hne, -⟩ := h.new location hold (by rw [hobject]; simp)
      exact absurd (List.prefix_nil.1 hother) hne
    | some found => rw [← h.old _ _ hold, hobject]
  refine ⟨⟨init ++ [name], links, by simp, hleads.mono hsame⟩, by simp, by simp, h.old, ?_⟩
  intro location hnone hsome
  obtain ⟨object, hobject⟩ := Option.ne_none_iff_exists'.1 hsome
  rw [hsame _ _ hobject] at hnone
  simp at hnone

/-- **What is built is one branch that goes straight down**, if all steps up lead on. -/
theorem Built.branched (h : Built fs caller start first dir fs')
    (hnames : ∀ name ∈ first, IsName name) (hsteady : Steady fs caller start first) :
    ∃ base branch, Branched fs caller start first base branch fs' ∧ dir = branch.reverse ++ base := by
  induction h with
  | @found first links dir hleads =>
    refine ⟨dir, [], ⟨⟨first, links, by simp, hleads⟩, by simp, by simp, le_refl fs, ?_⟩, rfl⟩
    intro location hnone hsome
    exact absurd hnone hsome
  | @made init name dir mode mid fs' h hdots hpass hcreated ih =>
    obtain ⟨base, branch, hbranched, rfl⟩ :=
      ih (fun other hother => hnames other (List.mem_append_left _ hother))
        (hsteady.left (List.prefix_append _ _))
    exact ⟨base, branch ++ [name], hbranched.made hdots hcreated, by simp⟩
  | @kept init name dir there links mid h hleads ih =>
    have hinitNames : ∀ other ∈ init, IsName other :=
      fun other hother => hnames other (List.mem_append_left _ hother)
    obtain ⟨base, branch, hbranched, rfl⟩ := ih hinitNames (hsteady.left (List.prefix_append _ _))
    by_cases hnil : branch = []
    · subst hnil
      exact ⟨there, [], hbranched.kept hleads, rfl⟩
    · obtain ⟨links', hinit⟩ := h.leads
      obtain ⟨mid', here, hhead, hlast⟩ := hleads.split
      obtain ⟨rfl, rfl⟩ := hhead.unique hinit
      by_cases hdots : name = ".."
      · -- a step up behind the branch would have led on from the beginning
        subst hdots
        obtain ⟨links₀, there₀, hbefore⟩ := hsteady init List.prefix_rfl
        exact absurd hbefore (hbranched.not_leads hinitNames hnil List.prefix_rfl)
      · exact absurd hlast (not_leads_of_free (hnames name (by simp)) hdots
          (hbranched.eq_none_of_below hnil))

end FileSystem
end AssetPublish
