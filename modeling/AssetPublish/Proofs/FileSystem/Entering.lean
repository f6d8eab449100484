import AssetPublish.Proofs.FileSystem.Clearing
import AssetPublish.Proofs.Scan.Visited

/-!
# Going where a path is spelled, and removing what is there

A path whose components are proper names of files is followed straight down to the directory that
its last component is looked up in, if every directory on the way can be passed.  What is at its
place can then be met and taken away; a tree can be taken away if all directories in it are open to
the caller.

Two conditions on the tree stand in the middle: the way to a path is open (`Entered`), and a tree
can be taken away (`Opened`).  For one who is privileged both hold of themselves.  For others they
are what a removal needs, and they are kept by it, because removing an object changes no permission
bits.

The removal of a tree is a loop over names that were listed once, inside of a recursion over the
depth.  `Emptying` is the invariant of the loop: whatever is in the directory now is still to come.

## What is here

* `Path.Proper` — the paths that the system accepts.
* `Entered`, `Entered.find?_eq`, `Entered.lastStep_eq` — what is met at the place of such a path.
* `Opened` — a tree whose directories can be listed, changed and passed.
* `exists_removeBelow`, `exists_removeTree` — such a tree can be removed.
* `exists_removeDestination` — and so can whatever is at the destination.
-/

set_option autoImplicit false

namespace AssetPublish

open FileSystem

/-- A path that the system accepts: its components are names that files can have, and it is not too
long.  Such a path does not step up and has a last component, so its place is where it is spelled,
and its parent is a path of the same kind or a start. -/
structure Path.Proper (path : Path) : Prop where
  nonempty : path.parts ≠ []
  names : ∀ part ∈ path.parts, IsFileName part
  size : path.text.utf8ByteSize ≤ spellingLimit

theorem Path.Proper.spellable {path : Path} (h : path.Proper) : Spellable path.text := by
  refine ⟨fun hnull => ?_, h.size⟩
  obtain ⟨part, hpart, hmem⟩ := Path.null_mem_text_iff.1 hnull
  exact (h.names part hpart).2.2.1 hmem

/-- The last component of a path, and where the rest of it is spelled. -/
theorem Path.place_eq {path : Path} (hne : path.parts ≠ []) (caller : Caller) :
    path.place caller = path.parts.getLast hne :: path.parent.place caller :=
  reverse_append_eq hne _

theorem Path.Proper.place_ne_nil {path : Path} (h : path.Proper) (caller : Caller) :
    path.place caller ≠ [] := by
  rw [Path.place_eq h.nonempty]
  exact List.cons_ne_nil _ _

theorem Path.parts_eq {path : Path} (hne : path.parts ≠ []) :
    path.parts = path.parent.parts ++ [path.parts.getLast hne] :=
  (List.dropLast_concat_getLast hne).symm

/-- The place of a path lies in that of the path above, -/
theorem Path.parent_place_suffix {path : Path} (hne : path.parts ≠ []) (caller : Caller) :
    path.parent.place caller <:+ path.place caller := by
  rw [Path.place_eq hne]
  exact List.suffix_cons _ _

/-- and is another place. -/
theorem Path.not_place_suffix_parent {path : Path} (hne : path.parts ≠ []) (caller : Caller) :
    ¬ path.place caller <:+ path.parent.place caller := by
  rw [Path.place_eq hne]
  intro hsuffix
  have hle := hsuffix.length_le
  rw [List.length_cons] at hle
  omega

/-- The path above one that is accepted is accepted too. -/
theorem Path.Proper.parent {path : Path} (h : path.Proper) (hne : path.parent.parts ≠ []) :
    path.parent.Proper where
  nonempty := hne
  names part hpart := h.names part ((List.dropLast_sublist path.parts).subset hpart)
  size := by
    have hsize := h.size
    have hanchor : path.parent.anchor = path.anchor := rfl
    rw [text_eq_spelling h.nonempty, spelling, String.utf8ByteSize_append,
      Path.parts_eq h.nonempty, Text.size_joined_append hne (by simp)] at hsize
    rw [text_eq_spelling hne, spelling, String.utf8ByteSize_append, hanchor]
    omega

/-- Where a path that goes on from another one is spelled. -/
theorem Path.place_append (path : Path) {names : List String}
    (hnames : ∀ name ∈ names, IsName name) (caller : Caller) :
    (path.append names).place caller = names.reverse ++ path.place caller := by
  rw [Path.place, parts_append path hnames, List.reverse_append, List.append_assoc,
    Path.start_append, Path.place]

theorem Path.parent_place_append (path : Path) {names : List String} (hne : names ≠ [])
    (hnames : ∀ name ∈ names, IsName name) (caller : Caller) :
    (path.append names).parent.place caller = names.dropLast.reverse ++ path.place caller := by
  have hparts : (path.append names).parent.parts = path.parts ++ names.dropLast := by
    show (path.append names).parts.dropLast = _
    rw [parts_append path hnames, List.dropLast_append_of_ne_nil hne]
  rw [Path.place, hparts, List.reverse_append, List.append_assoc]
  rfl

theorem Path.proper_append {path : Path} {names : List String} (hne : path.parts ≠ [])
    (hparts : ∀ name ∈ path.parts, IsFileName name) (hnames : ∀ name ∈ names, IsFileName name)
    (hsize : (path.append names).text.utf8ByteSize ≤ spellingLimit) :
    (path.append names).Proper := by
  have heq := parts_append path fun name hname => (hnames name hname).isName
  refine ⟨?_, fun part hpart => ?_, hsize⟩
  · rw [heq]
    exact List.append_ne_nil_of_left_ne_nil hne _
  · rw [heq] at hpart
    exact (List.mem_append.1 hpart).elim (hparts part) (hnames part)

namespace FileSystem

variable {fs fs' now mid : FileSystem} {caller : Caller} {path : Path} {object : Object}
  {mode links left : Nat} {ending : Ending} {dir location there : Location} {name : String}
  {todo : List String}

/-- Whatever is at a place lies in a directory. -/
theorem exists_parent_directory (hpath : path.Proper)
    (hobject : fs.get? (path.place caller) = some object) :
    ∃ mode, fs.get? (path.parent.place caller) = some (.directory mode) := by
  rw [Path.place_eq hpath.nonempty] at hobject
  exact exists_directory_of_get?_cons hobject

theorem lookUp_place (hpath : path.Proper) :
    fs.lookUp (path.parent.place caller) (path.parts.getLast hpath.nonempty)
      = .ok (fs.get? (path.place caller)) := by
  have hsize := (hpath.names _ (List.getLast_mem hpath.nonempty)).2.2.2
  rw [lookUp, if_neg (Nat.not_lt.2 hsize), Path.place_eq hpath.nonempty]

/-! ## Directories that can be passed

Only the directories before the last component are asked for.  What is at the place itself may be
anything, or nothing. -/

/-- A component that is not blank is followed from a directory that can be passed. -/
theorem Pace.passable {links' : Nat} {here here' : Location} {front : List String}
    (h : fs.Pace caller links here name links' here' front) (hne : name ≠ "") :
    fs.Passable caller here := by
  cases h with
  | blank heq _ => exact absurd heq hne
  | dot _ hdir hpass => exact ⟨_, hdir, hpass⟩
  | up _ hdir hpass => exact ⟨_, hdir, hpass⟩
  | down hdir hpass _ _ => exact ⟨_, hdir, hpass⟩
  | link hdir hpass _ => exact ⟨_, hdir, hpass⟩

/-- Every directory that the last component of a path is below can be passed.  It speaks of
directories by location, so a path that is entered meets no link: what is at these locations are
directories. -/
def Entered (fs : FileSystem) (caller : Caller) (path : Path) : Prop :=
  ∀ first, first <+: path.parent.parts → fs.Passable caller (first.reverse ++ path.start caller)

/-- For the privileged it is enough that the directories are there. -/
theorem entered_of_privileged (hcaller : caller.privileged = true)
    (hdir : fs.get? (path.parent.place caller) = some (.directory mode)) :
    fs.Entered caller path := by
  rintro first ⟨rest, heq⟩
  rw [Path.place, ← heq, List.reverse_append, List.append_assoc] at hdir
  by_cases hrest : rest = []
  · subst hrest
    exact passable_of_privileged hcaller hdir
  · obtain ⟨bits, habove⟩ := exists_directory_of_get?_append (by simpa using hrest) hdir
    exact passable_of_privileged hcaller habove

/-- Whoever follows a path to its last component passes every directory on the way. -/
theorem entered_of_leads
    (h : fs.Leads caller links (path.start caller) path.parent.parts left there)
    (hpass : fs.Passable caller (path.parent.place caller)) : fs.Entered caller path := by
  obtain ⟨mode, hdir, hmay⟩ := hpass
  have hnames : ∀ name ∈ path.parent.parts, IsName name ∧ name ≠ ".." := fun name hname =>
    have hfile := isFileName_of_get?_append hdir name (List.mem_reverse.2 hname)
    ⟨hfile.1, hfile.2.1⟩
  have hfree : fs.LinkFree (path.start caller) path.parent.parts := linkFree_of_get? hdir rfl
  rintro first ⟨rest, heq⟩
  cases rest with
  | nil =>
    rw [List.append_nil] at heq
    subst heq
    exact ⟨mode, hdir, hmay⟩
  | cons next rest =>
    rw [← heq] at h hnames hfree
    obtain ⟨links', here, hfirst, hrest⟩ := h.split
    obtain ⟨-, rfl⟩ := hfirst.straight
      (fun name hname => hnames name (List.mem_append_left _ hname))
      (hfree.left (List.prefix_append _ _))
    cases hrest with
    | pace hpace _ =>
      exact hpace.passable (hnames next (List.mem_append_right _ List.mem_cons_self)).1.1

/-- An object that is found at the place of a path is reached through directories that can be
passed. -/
theorem entered_of_find? {found : Location × Object} (hne : path.parts ≠ [])
    (hobject : fs.get? (path.place caller) = some object)
    (h : fs.find? caller ending path.text = .ok found) : path.Proper ∧ fs.Entered caller path := by
  obtain ⟨location, other⟩ := found
  obtain ⟨hspell, hwalk, -⟩ := find?_text_eq_ok_iff.1 h
  have hproper : path.Proper := ⟨hne, fun part hpart =>
    isFileName_of_get?_append hobject part (List.mem_reverse.2 hpart), hspell.2⟩
  have hlast := hproper.names _ (List.getLast_mem hne)
  obtain ⟨mode, hdir⟩ := exists_parent_directory hproper hobject
  rw [Path.steps_text hne, Path.parts_eq hne] at hwalk
  obtain ⟨links', here, hleads, hwalk⟩ := exists_leads_of_walk_append (by simp [isLast, hlast.1.1])
    hwalk
  obtain ⟨-, rfl⟩ := hleads.straight_of_get? hdir rfl
  refine ⟨hproper, entered_of_leads hleads ?_⟩
  rcases walk_cons_eq_ok hwalk with ⟨links, place, front, hpace, -⟩ | ⟨-, hpass, -⟩ |
    ⟨-, -, hpass, -⟩
  · exact hpace.passable hlast.1.1
  · exact hpass
  · exact hpass

namespace Entered

variable (h : fs.Entered caller path)

include h

/-- Only the directories themselves matter. -/
theorem congr (hsame : ∀ location, location <:+ path.parent.place caller →
      fs'.get? location = fs.get? location) : fs'.Entered caller path := by
  intro first hfirst
  obtain ⟨mode, hdir, hmay⟩ := h first hfirst
  obtain ⟨rest, heq⟩ := hfirst
  refine ⟨mode, ?_, hmay⟩
  rw [hsame _ ⟨rest.reverse, by rw [Path.place, ← heq]; simp; rfl⟩, hdir]

theorem parent : fs.Passable caller (path.parent.place caller) := h _ List.prefix_rfl

/-- Following such a path uses up no links. -/
theorem leads : fs.Leads caller linkLimit (path.start caller) path.parent.parts linkLimit
    (path.parent.place caller) := by
  obtain ⟨mode, hdir, -⟩ := h.parent
  exact leads_straight (fun first rest heq _ => h first ⟨rest, heq.symm⟩) hdir rfl

variable (hpath : path.Proper)

include hpath

/-- What is left to follow behind the directory that the last component is looked up in. -/
theorem walk_eq : fs.walk caller ending linkLimit (path.start caller) (steps path.text)
    = fs.walk caller ending linkLimit (path.parent.place caller)
      [path.parts.getLast hpath.nonempty] := by
  have hlast := hpath.names _ (List.getLast_mem hpath.nonempty)
  rw [Path.steps_text hpath.nonempty]
  conv_lhs => rw [Path.parts_eq hpath.nonempty]
  exact walk_append h.leads (inner_cons hlast.1.1 _ _)

/-- The object itself that a path denotes. -/
theorem find?_eq (hobject : fs.get? (path.place caller) = some object)
    (hlink : ending = .itself ∨ object.isLink = false) :
    fs.find? caller ending path.text = .ok (path.place caller, object) := by
  refine find?_text_eq_ok_iff.2 ⟨hpath.spellable, ?_, hobject⟩
  rw [h.walk_eq hpath, Path.place_eq hpath.nonempty]
  rw [Path.place_eq hpath.nonempty] at hobject
  exact walk_singleton_of_some h.parent hobject hlink

/-- The object that a path leads to. -/
theorem follow?_eq (hobject : fs.get? (path.place caller) = some object)
    (hlink : object.isLink = false) :
    fs.follow? caller path.text = .ok (path.place caller, object) :=
  h.find?_eq hpath hobject (Or.inr hlink)

theorem isLink?_eq (hobject : fs.get? (path.place caller) = some object) :
    fs.isLink? caller path.text = .ok object.isLink := by
  rw [isLink?, inspect?, h.find?_eq hpath hobject (Or.inl rfl)]
  rfl

theorem isDirectory?_eq (hobject : fs.get? (path.place caller) = some object)
    (hlink : object.isLink = false) :
    fs.isDirectory? caller path.text = .ok object.isDirectory := by
  rw [isDirectory?, h.follow?_eq hpath hobject hlink]
  rfl

/-- The last component is looked up in the directory above the place of the path. -/
theorem lastStep_eq : fs.lastStep caller path.text
    = .ok (path.parent.place caller, .name (path.parts.getLast hpath.nonempty) false) := by
  obtain ⟨mode, hdir, hmay⟩ := h.parent
  have hdots := (hpath.names _ (List.getLast_mem hpath.nonempty)).2.1
  have hkept : path.parts.filter (· ≠ "") = path.parts :=
    List.filter_eq_self.2 fun part hpart => by simpa using (hpath.names part hpart).1.1
  have hwalk := walk_followed_eq_object_iff.2 ⟨_, h.leads⟩
  rw [lastStep, checkSpelling_text, if_neg (Nat.not_lt.2 hpath.size), Path.startOf_text,
    ofSteps_text_of_append (Path.parts_eq hpath.nonempty), if_neg hdots,
    Path.steps_text hpath.nonempty, hkept]
  simp only [show path.parts.dropLast = path.parent.parts from rfl, hwalk, ok_bind, hdir, hmay,
    if_true, pure_eq_ok]

end Entered

/-! ## Directories that can be emptied

For one whom permission bits bind, the bits of the directories decide; those of other objects do not
matter for a removal. -/

theorem mayEdit_of_privileged (hcaller : caller.privileged = true)
    (hdir : fs.get? dir = some (.directory mode)) : fs.mayEdit caller dir = true := by
  simp [mayEdit, hdir, Caller.mayWrite, Caller.mayPass, Caller.may, hcaller]

/-- Every directory of the tree at a location can be listed, changed and passed.  A directory must
be listed to know its objects, changed to take them away, and passed to reach them. -/
def Opened (fs : FileSystem) (caller : Caller) (location : Location) : Prop :=
  ∀ place mode, location <:+ place → fs.get? place = some (.directory mode) →
    caller.mayRead mode = true ∧ caller.mayWrite mode = true ∧ caller.mayPass mode = true

theorem opened_of_privileged (hcaller : caller.privileged = true) : fs.Opened caller location := by
  intro place mode _ _
  simp [Caller.mayRead, Caller.mayWrite, Caller.mayPass, Caller.may, hcaller]

/-- Fewer objects leave open what was open, -/
theorem Opened.mono (h : fs.Opened caller location) (hle : now ≤ fs) :
    now.Opened caller location :=
  fun place mode hplace hdir => h place mode hplace (hle _ _ hdir)

/-- and so does looking at a part of the tree only. -/
theorem Opened.below (h : fs.Opened caller location) {place : Location}
    (hplace : location <:+ place) : fs.Opened caller place :=
  fun deeper mode hdeeper hdir => h deeper mode (hplace.trans hdeeper) hdir

theorem Opened.mayEdit (h : fs.Opened caller dir) (hdir : fs.get? dir = some (.directory mode)) :
    fs.mayEdit caller dir = true := by
  obtain ⟨-, hwrite, hpass⟩ := h dir mode List.suffix_rfl hdir
  simp [FileSystem.mayEdit, hdir, Object.mode, hwrite, hpass]

theorem Opened.mayEnter {bits : Nat} (h : fs.Opened caller dir)
    (hdir : fs.get? dir = some (.directory mode))
    (hname : fs.get? (name :: dir) = some (.directory bits)) :
    fs.mayEnter caller dir name = true := by
  obtain ⟨-, -, hpass⟩ := h dir mode List.suffix_rfl hdir
  obtain ⟨hread, -, -⟩ := h (name :: dir) bits (List.suffix_cons _ _) hname
  simp [FileSystem.mayEnter, hdir, hname, Object.mode, hpass, hread]

theorem unlinkAt_of_mayEdit (hedit : fs.mayEdit caller dir = true)
    (hobject : fs.isDirectory (name :: dir) = false) :
    fs.unlinkAt caller (name :: dir) = .ok (fs.remove (name :: dir)) := by
  rw [unlinkAt, show dirOf (name :: dir) = dir from rfl, hedit, hobject]
  rfl

/-- An empty directory is removed by whoever may change the one that it lies in. -/
theorem removeDirectoryAt_of_mayEdit (hedit : fs.mayEdit caller dir = true)
    (hobject : fs.isDirectory (name :: dir) = true) (hempty : fs.names (name :: dir) = []) :
    fs.removeDirectoryAt caller (name :: dir) = .ok (fs.remove (name :: dir)) := by
  rw [removeDirectoryAt, show dirOf (name :: dir) = dir from rfl, hedit, hobject, hempty]
  rfl

/-! ## Emptying a directory

The names are listed when the loop begins.  In its course objects only get fewer, so that no name is
ever missing from the list. -/

/-- What is left to remove of the directory `dir`, while it is emptied.  It says nothing about what
the names stand for, so it survives whatever is done below one of them. -/
structure Emptying (fs : FileSystem) (dir : Location) (mode : Nat) (todo : List String)
    (now : FileSystem) : Prop where
  directory : now.get? dir = some (.directory mode)
  le : now ≤ fs
  names : ∀ name ∈ now.names dir, name ∈ todo

/-- The next object is gone. -/
theorem Emptying.next (h : Emptying fs dir mode (name :: todo) now) (hle : mid ≤ now)
    (hdir : mid.get? dir = now.get? dir) (hempty : mid.names (name :: dir) = []) :
    Emptying fs dir mode todo (mid.remove (name :: dir)) where
  directory := by
    rw [get?_remove hempty (by simp), if_neg (by simp), hdir]
    exact h.directory
  le := le_trans (lost_remove (by simp)).le (le_trans hle h.le)
  names other hother := by
    rw [mem_names_iff, get?_remove hempty (by simp)] at hother
    split at hother
    · simp at hother
    · rename_i hne
      obtain ⟨object, hobject⟩ := Option.isSome_iff_exists.1 hother
      have hlisted := h.names other (mem_names_iff.2 (by rw [hle _ _ hobject]; rfl))
      refine (List.mem_cons.1 hlisted).resolve_left ?_
      rintro rfl
      exact hne rfl

/-- An emptied directory is gone next. -/
theorem Emptying.next_directory (hopen : fs.Opened caller dir) {bits fuel : Nat}
    (h : Emptying fs dir mode (name :: todo) now)
    (hobject : now.get? (name :: dir) = some (.directory bits))
    (hbelow : outcome (removeBelow caller fuel (name :: dir)) now = (.ok ⟨⟩, mid))
    (hempty : mid.names (name :: dir) = []) :
    mid.removeDirectoryAt caller (name :: dir) = .ok (mid.remove (name :: dir)) ∧
      Emptying fs dir mode todo (mid.remove (name :: dir)) := by
  have hlost := (does_removeBelow caller fuel (name :: dir)).of_outcome hbelow
  have hself : mid.get? (name :: dir) = now.get? (name :: dir) :=
    hlost.only _ fun hwithin => hwithin.2 rfl
  have hdir : mid.get? dir = now.get? dir := by
    refine hlost.only dir fun hwithin => ?_
    have hle := hwithin.1.length_le
    rw [List.length_cons] at hle
    omega
  have hedit := (hopen.mono (le_trans hlost.le h.le)).mayEdit (hdir.trans h.directory)
  exact ⟨removeDirectoryAt_of_mayEdit hedit (isDirectory_iff.2 ⟨bits, hself.trans hobject⟩) hempty,
    h.next hlost.le hdir hempty⟩

/-- **All that lies below an open directory is removed**, if it does not lie too deep.  By induction
on the depth that is left, and inside of it on the names that are still to come. -/
theorem exists_removeBelow {fuel : Nat} (hopen : fs.Opened caller dir)
    (hdir : fs.get? dir = some (.directory mode))
    (hdeep : ∀ names object, fs.get? (names ++ dir) = some object → names.length ≤ fuel) :
    ∃ left, outcome (removeBelow caller fuel dir) fs = (.ok ⟨⟩, left) ∧ left.names dir = [] := by
  induction fuel generalizing fs dir mode with
  | zero =>
    refine ⟨fs, rfl, List.eq_nil_iff_forall_not_mem.2 fun name hname => ?_⟩
    obtain ⟨object, hobject⟩ := Option.isSome_iff_exists.1 (mem_names_iff.1 hname)
    exact absurd (hdeep [name] object hobject) (by simp)
  | succ fuel ih =>
    rw [removeBelow, outcome_bind_of_ok (outcome_get fs)]
    -- The names are listed once, and what is in the directory at any turn is still to come.
    have hstart : Emptying fs dir mode (fs.names dir) fs := ⟨hdir, le_refl fs, fun _ hname => hname⟩
    refine (exists_forM (Emptying fs dir mode) ?_ hstart).imp fun left hleft =>
      ⟨hleft.1, List.eq_nil_iff_forall_not_mem.2 fun name hname =>
        absurd (hleft.2.names name hname) (by simp)⟩
    intro name rest now hready
    have hnow := hopen.mono hready.le
    rw [outcome_bind_of_ok (outcome_get now)]
    cases hkind : now.isDirectory (name :: dir) with
    | false =>
      rw [if_neg Bool.false_ne_true, outcome_change,
        unlinkAt_of_mayEdit (hnow.mayEdit hready.directory) hkind]
      exact ⟨_, rfl, hready.next (le_refl now) rfl (names_eq_nil_of_isDirectory hkind)⟩
    | true =>
      obtain ⟨bits, hobject⟩ := isDirectory_iff.1 hkind
      obtain ⟨mid, hbelow, hempty⟩ := ih (hnow.below (List.suffix_cons _ _)) hobject
        fun names object hget => by
          have hle := hdeep (names ++ [name]) object (by simpa using hready.le _ _ hget)
          simpa using hle
      obtain ⟨hremoved, hnext⟩ := hready.next_directory hopen hobject hbelow hempty
      rw [if_pos rfl, hnow.mayEnter hready.directory hobject]
      simp only [Bool.not_true, Bool.false_eq_true, if_false]
      rw [outcome_bind_of_ok hbelow, outcome_change, hremoved]
      exact ⟨_, rfl, hnext⟩

/-! ## Removing what is at a path

Whoever removes something needs the right to change the directory that it lies in, besides what has
been said about the tree itself. -/

section Removing

variable (hpath : path.Proper) (hentered : fs.Entered caller path)
  (hedit : fs.mayEdit caller (path.parent.place caller) = true)

include hpath hentered hedit

/-- An object that is no directory is removed. -/
theorem unlink_place (hobject : fs.get? (path.place caller) = some object)
    (hkind : object.isDirectory = false) :
    unlink caller path.text fs = .ok (fs.remove (path.place caller)) := by
  have hnone : fs.isDirectory (path.place caller) = false := by
    rw [Bool.eq_false_iff]
    intro hdirectory
    obtain ⟨bits, hother⟩ := isDirectory_iff.1 hdirectory
    obtain rfl := Option.some.inj (hobject.symm.trans hother)
    simp [Object.isDirectory] at hkind
  have hremove : fs.unlinkAt caller (path.place caller) = .ok (fs.remove (path.place caller)) := by
    rw [Path.place_eq hpath.nonempty] at hnone ⊢
    exact unlinkAt_of_mayEdit hedit hnone
  rw [Path.place_eq hpath.nonempty] at hremove
  rw [unlink, if_neg hpath.spellable.1, unlinkNamed, hentered.lastStep_eq hpath]
  simp only [ok_bind, lookUp_place hpath, hobject]
  rw [Path.place_eq hpath.nonempty]
  simp [hremove]

/-- An empty directory is removed. -/
theorem removeDirectory_place (hobject : fs.get? (path.place caller) = some (.directory mode))
    (hempty : fs.names (path.place caller) = []) :
    removeDirectory caller path.text fs = .ok (fs.remove (path.place caller)) := by
  have hdirectory := isDirectory_iff.2 ⟨mode, hobject⟩
  have hremove : fs.removeDirectoryAt caller (path.place caller)
      = .ok (fs.remove (path.place caller)) := by
    rw [Path.place_eq hpath.nonempty] at hdirectory hempty ⊢
    exact removeDirectoryAt_of_mayEdit hedit hdirectory hempty
  rw [Path.place_eq hpath.nonempty] at hremove
  rw [removeDirectory, if_neg hpath.spellable.1, removeDirectoryNamed, hentered.lastStep_eq hpath]
  simp only [ok_bind, lookUp_place hpath, hobject]
  rw [Path.place_eq hpath.nonempty]
  simp [hremove]

variable (hopen : fs.Opened caller (path.place caller))

include hopen

/-- **An open directory is removed with all that lies below it.** -/
theorem exists_removeTree (hobject : fs.get? (path.place caller) = some (.directory mode)) :
    ∃ left, outcome (removeTree caller path.text) fs = (.ok ⟨⟩, left) := by
  obtain ⟨hread, -, -⟩ := hopen _ _ List.suffix_rfl hobject
  have hdeep : ∀ names object, fs.get? (names ++ path.place caller) = some object →
      names.length ≤ fs.objects.length + 1 := by
    intro names object hget
    have hle := length_le_of_get? hget
    rw [List.length_append] at hle
    omega
  obtain ⟨mid, hbelow, hempty⟩ := exists_removeBelow hopen hobject hdeep
  have hlost := (does_removeBelow caller _ _).of_outcome hbelow
  have hself := (hlost.only _ fun hwithin => hwithin.2 rfl).trans hobject
  -- The directories above are as they were, so the emptied one is still found.
  have habove : ∀ location, location <:+ path.parent.place caller →
      mid.get? location = fs.get? location := fun location hlocation =>
    hlost.only location fun hwithin =>
      Path.not_place_suffix_parent hpath.nonempty caller (hwithin.1.trans hlocation)
  have hmid : mid.mayEdit caller (path.parent.place caller) = true := by
    rw [mayEdit, habove _ List.suffix_rfl]
    exact hedit
  have hask : outcome (Act.ask fun fs => fs.find? caller .itself path.text) fs
      = (.ok (path.place caller, .directory mode), fs) := by
    rw [outcome_ask, hentered.find?_eq hpath hobject (Or.inl rfl)]
  refine ⟨mid.remove (path.place caller), ?_⟩
  rw [removeTree, outcome_bind_of_ok hask]
  simp only [show (Object.directory mode).mode = mode from rfl, hread, Object.isDirectory,
    Bool.not_true, Bool.false_eq_true, if_false]
  rw [outcome_bind_of_ok (outcome_get fs), outcome_bind_of_ok hbelow, outcome_change,
    removeDirectory_place hpath (hentered.congr habove) hmid hself hempty]

/-- **Whatever is at the destination is removed.**  A link and a file take one call; a directory is
emptied first. -/
theorem exists_removeDestination (hobject : fs.get? (path.place caller) = some object) :
    ∃ left, outcome (Operation.removeDestination caller path) fs = (.ok ⟨⟩, left) := by
  have hlink : outcome (Act.ask fun fs => fs.isLink? caller path.text) fs
      = (.ok object.isLink, fs) := by
    rw [outcome_ask, hentered.isLink?_eq hpath hobject]
  have hunlink : object.isDirectory = false →
      outcome (Act.change (unlink caller path.text)) fs
        = (.ok ⟨⟩, fs.remove (path.place caller)) := by
    intro hkind
    rw [outcome_change, unlink_place hpath hentered hedit hobject hkind]
  rw [Operation.removeDestination, outcome_bind_of_ok hlink]
  cases hkind : object.isLink with
  | true =>
    cases object with
    | link target => exact ⟨_, hunlink rfl⟩
    | _ => simp [Object.isLink] at hkind
  | false =>
    have hdirectory : outcome (Act.ask fun fs => fs.isDirectory? caller path.text) fs
        = (.ok object.isDirectory, fs) := by
      rw [outcome_ask, hentered.isDirectory?_eq hpath hobject hkind]
    rw [if_neg Bool.false_ne_true, outcome_bind_of_ok hdirectory]
    cases object with
    | directory mode => exact exists_removeTree hpath hentered hedit hopen hobject
    | _ => exact ⟨_, hunlink rfl⟩

end Removing

end FileSystem
end AssetPublish
