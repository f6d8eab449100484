import AssetPublish.Proofs.FileSystem.Reaching
import AssetPublish.Proofs.Procedure

/-!
# What a single call changes

Each call of the system that changes the tree is told by what it does to the objects by location:
one object is new, one is gone, or one is replaced.

The statements are inversions: from the fact that a call was not refused they tell where it did
something and what.  Everything that a run does to the tree is put together from these few facts, so
that no later proof opens a call.  The place is given by the path through `Names`: the directory to
which the components before the last one lead, and the last one as a name in it.  For a path that
meets no link this is where it is spelled, but in general it need not be.

## What is here

* `Created`, `OnlyAt` — one object is new; nothing changes but at one location.
* `makeDirectory_eq_ok`, `makeLink_eq_ok`, `makeFifo_eq_ok`, `writeFile_eq_ok` — what the calls do
  that create an object.
* `changeMode_eq_ok`, `changeModified_eq_ok` — what the calls do that change one.
* `Lost`, `unlink_eq_ok`, `removeDirectory_eq_ok` — what the calls do that remove one.
-/

set_option autoImplicit false

namespace AssetPublish
namespace FileSystem

variable {fs fs' fs'' : FileSystem} {caller : Caller} {path : Path} {dir location other : Location}
  {name : String} {object : Object} {init : List String} {links mode : Nat}

/-! ## One object more

What a call creates is one object at one location, whatever its kind. -/

/-- One object is new, and all others are as before.  The place was free, so the file system has
become larger in the order of `≤`, and every path that was followed before is followed to the same
place now. -/
structure Created (fs fs' : FileSystem) (location : Location) (object : Object) : Prop where
  free : fs.get? location = none
  view : ∀ other, fs'.get? other = if other = location then some object else fs.get? other

theorem Created.self (h : Created fs fs' location object) : fs'.get? location = some object := by
  rw [h.view, if_pos rfl]

theorem Created.of_ne (h : Created fs fs' location object) (hne : other ≠ location) :
    fs'.get? other = fs.get? other := by
  rw [h.view, if_neg hne]

theorem Created.le (h : Created fs fs' location object) : fs ≤ fs' := by
  intro other found hfound
  rw [h.of_ne, hfound]
  rintro rfl
  rw [h.free] at hfound
  simp at hfound

theorem created_create (hproper : object.Proper) (hname : IsFileName name)
    (hdir : fs.get? dir = some (.directory mode)) (hfree : fs.get? (name :: dir) = none) :
    Created fs (fs.create dir name object) (name :: dir) object :=
  ⟨hfree, get?_create hproper hname (isDirectory_iff.2 ⟨mode, hdir⟩) hfree⟩

/-- Nothing changes but at one location. -/
def OnlyAt (location : Location) (fs fs' : FileSystem) : Prop :=
  ∀ other, other ≠ location → fs'.get? other = fs.get? other

theorem OnlyAt.refl (location : Location) (fs : FileSystem) : OnlyAt location fs fs :=
  fun _ _ => rfl

theorem OnlyAt.trans (h : OnlyAt location fs fs') (h' : OnlyAt location fs' fs'') :
    OnlyAt location fs fs'' :=
  fun other hne => (h' other hne).trans (h other hne)

theorem Created.onlyAt (h : Created fs fs' location object) : OnlyAt location fs fs' :=
  fun _ hne => h.of_ne hne

/-! ## Free places

The place of a new object is not where its path leads, since the path leads nowhere yet. -/

/-- The place that a path names in the directory that it leads to before its last component.  The
last component is not followed: where it is a link, this is the place of the link itself. -/
def Names (fs : FileSystem) (caller : Caller) (path : Path) (location : Location) : Prop :=
  ∃ init name links dir, path.parts = init ++ [name] ∧ name ≠ ".." ∧
    fs.Leads caller linkLimit (path.start caller) init links dir ∧ fs.Passable caller dir ∧
    location = name :: dir

/-- A path names one place at most. -/
theorem Names.unique (h : fs.Names caller path location) (h' : fs.Names caller path other) :
    location = other := by
  obtain ⟨init, name, links, dir, hparts, -, hleads, -, rfl⟩ := h
  obtain ⟨init', name', links', dir', hparts', -, hleads', -, rfl⟩ := h'
  obtain ⟨rfl, hname⟩ := List.append_inj' (hparts.symm.trans hparts') rfl
  obtain ⟨-, rfl⟩ := hleads.unique hleads'
  rw [List.cons.injEq] at hname
  rw [hname.1]

/-- More objects do not change the place that a path names. -/
theorem Names.mono (hle : fs ≤ fs') (h : fs.Names caller path location) :
    fs'.Names caller path location := by
  obtain ⟨init, name, links, dir, hparts, hdots, hleads, ⟨mode, hdir, hmay⟩, rfl⟩ := h
  exact ⟨init, name, links, dir, hparts, hdots, hleads.mono hle, ⟨mode, hle _ _ hdir, hmay⟩, rfl⟩

/-- A path whose last component is looked up is not too long. -/
theorem size_of_lastStep {found : Location × LastStep}
    (h : fs.lastStep caller path.text = .ok found) : path.text.utf8ByteSize ≤ spellingLimit := by
  refine Nat.not_lt.1 fun hlong => ?_
  rw [lastStep, checkSpelling_text, if_pos hlong] at h
  simp at h

/-- What a call needs to create an object: a place that is free, in a directory that the caller may
change.  This one lemma is behind the calls for directories, links and pipes, which differ in what
they put there. -/
theorem freePlace_eq_ok {forDirectory : Bool}
    (h : fs.freePlace caller forDirectory path.text = .ok (dir, name)) :
    path.text.utf8ByteSize ≤ spellingLimit ∧ fs.Names caller path (name :: dir) ∧
      fs.Passable caller dir ∧ fs.mayEdit caller dir = true ∧ fs.get? (name :: dir) = none ∧
      name ∈ path.parts ∧ name ≠ ".." ∧ name.utf8ByteSize ≤ nameLimit := by
  rw [freePlace] at h
  cases hlast : fs.lastStep caller path.text with
  | error refusal => rw [hlast] at h; simp at h
  | ok found =>
    obtain ⟨place, last⟩ := found
    have hsize := size_of_lastStep hlast
    rw [hlast] at h
    cases last with
    | name other slash =>
      obtain ⟨init, links, hparts, hdots, rfl, hleads, hpass⟩ := lastStep_text_eq_ok hlast
      by_cases hlong : nameLimit < other.utf8ByteSize
      · simp [lookUp, hlong] at h
      · cases hget : fs.get? (other :: place) with
        | some object => simp [lookUp, hlong, hget] at h
        | none =>
          by_cases hedit : fs.mayEdit caller place = true
          · simp [lookUp, hlong, hget, hedit] at h
            obtain ⟨rfl, rfl⟩ := h
            exact ⟨hsize, ⟨init, other, links, place, hparts, hdots, hleads, hpass, rfl⟩, hpass,
              hedit, hget, by rw [hparts]; simp, hdots, Nat.not_lt.1 hlong⟩
          · simp [lookUp, hlong, hget, hedit] at h
    | _ => simp at h

theorem isFileName_of_mem_parts (hnull : '\x00' ∉ path.text.toList) (hmem : name ∈ path.parts)
    (hdots : name ≠ "..") (hsize : name.utf8ByteSize ≤ nameLimit) : IsFileName name :=
  ⟨path.isName name hmem, hdots,
    fun hzero => hnull (Path.null_mem_text_iff.2 ⟨name, hmem, hzero⟩), hsize⟩

/-- An object that is created at a free place is new there. -/
theorem created_of_freePlace {forDirectory : Bool} (hnull : '\x00' ∉ path.text.toList)
    (h : fs.freePlace caller forDirectory path.text = .ok (dir, name)) (hproper : object.Proper) :
    fs.Names caller path (name :: dir) ∧
      Created fs (fs.create dir name object) (name :: dir) object := by
  obtain ⟨-, hnames, ⟨mode, hdir, -⟩, -, hfree, hmem, hdots, hsize⟩ := freePlace_eq_ok h
  exact ⟨hnames, created_create hproper (isFileName_of_mem_parts hnull hmem hdots hsize) hdir hfree⟩

theorem newDirectoryMode_lt (mode : Nat) : newDirectoryMode mode < 0o10000 := by
  rw [newDirectoryMode]
  refine Nat.or_lt_two_pow (n := 12) (by decide) ?_
  exact Nat.lt_of_le_of_lt Nat.and_le_right (by decide)

/-- A directory is created at the free place that is offered. -/
theorem exists_freePlace_of_makeDirectory (h : makeDirectory caller path.text fs = .ok fs') :
    ∃ dir name bits, fs.freePlace caller true path.text = .ok (dir, name) ∧
      Created fs fs' (name :: dir) (.directory (newDirectoryMode bits)) := by
  rw [makeDirectory] at h
  by_cases hnull : '\x00' ∈ path.text.toList
  · simp [hnull] at h
  · cases hfree : fs.freePlace caller true path.text with
    | error refusal => simp [hnull, hfree] at h
    | ok found =>
      obtain ⟨dir, name⟩ := found
      simp [hnull, hfree] at h
      subst h
      have hproper (bits : Nat) : (Object.directory (newDirectoryMode bits)).Proper :=
        ⟨newDirectoryMode_lt bits, fun target htarget => by simp at htarget⟩
      exact ⟨dir, name, _, rfl, (created_of_freePlace hnull hfree (hproper _)).2⟩

/-- **A new directory.** -/
theorem makeDirectory_eq_ok (h : makeDirectory caller path.text fs = .ok fs') :
    ∃ location mode, fs.Names caller path location ∧
      Created fs fs' location (.directory mode) := by
  obtain ⟨dir, name, bits, hfree, hcreated⟩ := exists_freePlace_of_makeDirectory h
  exact ⟨name :: dir, _, (freePlace_eq_ok hfree).2.1, hcreated⟩

/-- **A new link.** -/
theorem makeLink_eq_ok {target : String} (h : makeLink caller target path.text fs = .ok fs') :
    ∃ location, fs.Names caller path location ∧ Created fs fs' location (.link target) := by
  rw [makeLink] at h
  by_cases hnull : '\x00' ∈ target.toList ∨ '\x00' ∈ path.text.toList
  · simp [hnull] at h
  · cases hcheck : checkSpelling target with
    | error refusal => simp [hnull, hcheck] at h
    | ok =>
      cases hfree : fs.freePlace caller false path.text with
      | error refusal => simp [hnull, hcheck, hfree] at h
      | ok found =>
        obtain ⟨dir, name⟩ := found
        simp [hnull, hcheck, hfree] at h
        subst h
        rw [not_or] at hnull
        refine ⟨name :: dir, created_of_freePlace hnull.2 hfree ⟨?_, fun other hother => ?_⟩⟩
        · show 0o777 < 0o10000
          decide
        · rw [Object.link.injEq] at hother
          subst hother
          refine ⟨?_, hnull.1⟩
          intro hempty
          rw [checkSpelling, if_pos hempty] at hcheck
          simp at hcheck

/-- **A new pipe.** -/
theorem makeFifo_eq_ok (h : makeFifo caller path.text fs = .ok fs') :
    ∃ location, fs.Names caller path location ∧
      Created fs fs' location (.fifo newFileMode) := by
  rw [makeFifo] at h
  by_cases hnull : '\x00' ∈ path.text.toList
  · simp [hnull] at h
  · cases hfree : fs.freePlace caller false path.text with
    | error refusal => simp [hnull, hfree] at h
    | ok found =>
      obtain ⟨dir, name⟩ := found
      simp [hnull, hfree] at h
      subst h
      exact ⟨name :: dir, created_of_freePlace hnull hfree
        ⟨by decide, fun target htarget => by simp at htarget⟩⟩

/-- **A new file**, where nothing is at the place that the path names.  A file can be written
through a link as well; the hypothesis rules this out. -/
theorem writeFile_eq_ok {content : Content} (hparts : path.parts = init ++ [name])
    (hdots : name ≠ "..")
    (hfree : ∀ links dir, fs.Leads caller linkLimit (path.start caller) init links dir →
      fs.get? (name :: dir) = none)
    (h : writeFile caller path.text content fs = .ok fs') :
    ∃ location, fs.Names caller path location ∧
      Created fs fs' location (.file content newFileMode 0) := by
  have hname := path.isName name (by rw [hparts]; simp)
  have hlast : isLast [name] = false := by simp [isLast, hname.1]
  rw [writeFile] at h
  cases hreach : fs.reach? caller .opened path.text with
  | error fault => rw [hreach] at h; simp at h
  | ok reached =>
    obtain ⟨hspell, hwalk⟩ := reach?_text_eq_ok_iff.1 hreach
    rw [Path.steps_text (by rw [hparts]; simp), hparts] at hwalk
    obtain ⟨links, dir, hleads, hwalk⟩ := exists_leads_of_walk_append hlast hwalk
    have hnone := hfree links dir hleads
    rcases walk_cons_eq_ok hwalk with ⟨links', here', front, hpace, -⟩ |
      ⟨-, ⟨mode, hdir, hmay⟩, -, -, -, hsize, -, rfl⟩ | ⟨-, hitself, -⟩
    · cases hpace with
      | blank heq _ => exact absurd heq hname.1
      | dot heq _ _ => exact absurd heq hname.2.1
      | up heq _ _ => exact absurd heq hdots
      | down _ _ hobject _ => rw [hnone] at hobject; simp at hobject
      | link _ _ hlink => rw [hnone] at hlink; simp at hlink
    · rw [hreach] at h
      simp only [ok_bind] at h
      by_cases hedit : fs.mayEdit caller dir = true
      · simp only [hedit, if_true, pure_eq_ok, Except.ok.injEq] at h
        subst h
        refine ⟨name :: dir,
          ⟨init, name, links, dir, hparts, hdots, hleads, ⟨mode, hdir, hmay⟩, rfl⟩, ?_⟩
        exact created_create ⟨by show newFileMode < 0o10000; decide, fun target htarget => by
          simp at htarget⟩ (isFileName_of_mem_parts hspell.1 (by rw [hparts]; simp) hdots hsize)
          hdir hnone
      · simp [hedit] at h
    · simp at hitself

/-! ## An object changed

These calls follow links to their end, so that what changes need not be at the place that the path
names. -/

theorem get?_setMode (hroot : location ≠ []) (other : Location) :
    (fs.setMode location mode).get? other =
      if other = location then (fs.get? other).map (Object.withMode (mode % 0o10000))
      else fs.get? other :=
  get?_modify hroot other

theorem get?_setModified {modified : Int} (hroot : location ≠ []) (other : Location) :
    (fs.setModified location modified).get? other =
      if other = location then (fs.get? other).map (Object.withModified modified)
      else fs.get? other :=
  get?_modify hroot other

theorem changeMode_eq_ok (h : changeMode caller path.text mode fs = .ok fs') :
    ∃ location object, fs.follow? caller path.text = .ok (location, object) ∧
      fs' = fs.setMode location mode := by
  rw [changeMode] at h
  cases hfollow : fs.follow? caller path.text with
  | error fault => rw [hfollow] at h; simp at h
  | ok found =>
    rw [hfollow] at h
    exact ⟨found.1, found.2, rfl, by simpa using h.symm⟩

theorem changeModified_eq_ok {modified : Int}
    (h : changeModified caller path.text modified fs = .ok fs') :
    ∃ location object, fs.follow? caller path.text = .ok (location, object) ∧
      fs' = fs.setModified location modified := by
  rw [changeModified] at h
  cases hfollow : fs.follow? caller path.text with
  | error fault => rw [hfollow] at h; simp at h
  | ok found =>
    rw [hfollow] at h
    exact ⟨found.1, found.2, rfl, by simpa using h.symm⟩

/-! ## Objects less

These calls do not follow a link in the last component: what they remove is at the place that the
path names. -/

/-- No object is new, and only what lies in a region may be gone.  The region is a bound and not the
exact loss: a removal that fails half-way has taken away some of what lies in it. -/
structure Lost (region : Location → Prop) (fs fs' : FileSystem) : Prop where
  le : fs' ≤ fs
  only : ∀ location, ¬ region location → fs'.get? location = fs.get? location

variable {region region' : Location → Prop}

theorem Lost.refl (region : Location → Prop) (fs : FileSystem) : Lost region fs fs :=
  ⟨le_refl fs, fun _ _ => rfl⟩

theorem Lost.trans (h : Lost region fs fs') (h' : Lost region fs' fs'') : Lost region fs fs'' :=
  ⟨le_trans h'.le h.le, fun location hout => (h'.only location hout).trans (h.only location hout)⟩

theorem Lost.mono (h : Lost region fs fs') (hregion : ∀ location, region location → region' location) :
    Lost region' fs fs' :=
  ⟨h.le, fun location hout => h.only location fun hin => hout (hregion location hin)⟩

theorem lost_remove (hne : location ≠ []) : Lost (· = location) fs (fs.remove location) := by
  by_cases hnames : fs.names location = []
  · refine ⟨fun other object hobject => ?_, fun other hother => ?_⟩
    · rw [get?_remove hnames hne] at hobject
      split at hobject
      · simp at hobject
      · exact hobject
    · rw [get?_remove hnames hne, if_neg hother]
  · rw [remove, dif_neg hnames]
    exact Lost.refl _ _

/-- Nothing lies in what is no directory. -/
theorem names_eq_nil_of_isDirectory (h : fs.isDirectory location = false) :
    fs.names location = [] := by
  rw [List.eq_nil_iff_forall_not_mem]
  intro name hname
  obtain ⟨object, hobject⟩ := Option.isSome_iff_exists.1 (mem_names_iff.1 hname)
  rw [(exists_of_get?_cons hobject).2.2] at h
  simp at h

/-- The directory that holds a place is found again through the last component. -/
theorem names_of_lastStep {slash : Bool}
    (h : fs.lastStep caller path.text = .ok (dir, .name name slash)) :
    fs.Names caller path (name :: dir) := by
  obtain ⟨init, links, hparts, hdots, -, hleads, hpass⟩ := lastStep_text_eq_ok h
  exact ⟨init, name, links, dir, hparts, hdots, hleads, hpass, rfl⟩

/-- **An object that is no directory is gone.**  A link counts as such an object, wherever it leads.
-/
theorem unlink_eq_ok (h : unlink caller path.text fs = .ok fs') :
    ∃ location, fs.Names caller path location ∧ fs.isDirectory location = false ∧
      fs.get? location ≠ none ∧ Lost (· = location) fs fs' ∧ fs'.get? location = none := by
  rw [unlink] at h
  split at h
  · simp at h
  rw [unlinkNamed] at h
  cases hlast : fs.lastStep caller path.text with
  | error refusal => rw [hlast] at h; simp at h
  | ok found =>
    obtain ⟨dir, last⟩ := found
    rw [hlast] at h
    cases last with
    | name name slash =>
      have hnames := names_of_lastStep hlast
      obtain ⟨-, -, -, -, rfl, -⟩ := lastStep_text_eq_ok hlast
      by_cases hsize : nameLimit < name.utf8ByteSize
      · simp [lookUp, hsize] at h
      cases hget : fs.get? (name :: dir) with
      | none => simp [lookUp, hsize, hget] at h
      | some object =>
        simp only [ok_bind, lookUp, hsize, if_false, hget, unlinkAt, Bool.false_eq_true] at h
        by_cases hedit : fs.mayEdit caller (dirOf (name :: dir)) = true
        · by_cases hdirectory : fs.isDirectory (name :: dir) = true
          · simp [hedit, hdirectory] at h
          · rw [Bool.not_eq_true] at hdirectory
            simp [hedit, hdirectory] at h
            subst h
            refine ⟨name :: dir, hnames, hdirectory, by rw [hget]; simp, lost_remove (by simp), ?_⟩
            rw [get?_remove (names_eq_nil_of_isDirectory hdirectory) (by simp), if_pos rfl]
        · simp [hedit] at h
    | _ => simp at h

/-- The system takes away an empty directory. -/
theorem removeDirectoryAt_eq_ok (h : fs.removeDirectoryAt caller location = .ok fs') :
    fs.isDirectory location = true ∧ fs.names location = [] ∧ Lost (· = location) fs fs' ∧
      fs'.get? location = none := by
  rw [removeDirectoryAt] at h
  split at h
  · simp at h
  rename_i hne
  split at h
  · simp at h
  split at h
  · simp at h
  rename_i hdirectory
  split at h
  · simp at h
  rename_i hempty
  rw [Except.ok.injEq] at h
  subst h
  have hnil : location ≠ [] := by simpa using hne
  have hnames : fs.names location = [] := by simpa using hempty
  refine ⟨by simpa using hdirectory, hnames, lost_remove hnil, ?_⟩
  rw [get?_remove hnames hnil, if_pos rfl]

/-- **An empty directory is gone.** -/
theorem removeDirectory_eq_ok (h : removeDirectory caller path.text fs = .ok fs') :
    ∃ location, fs.Names caller path location ∧ fs.isDirectory location = true ∧
      fs.names location = [] ∧ Lost (· = location) fs fs' ∧ fs'.get? location = none := by
  rw [removeDirectory] at h
  split at h
  · simp at h
  rw [removeDirectoryNamed] at h
  cases hlast : fs.lastStep caller path.text with
  | error refusal => rw [hlast] at h; simp at h
  | ok found =>
    obtain ⟨dir, last⟩ := found
    rw [hlast] at h
    cases last with
    | name name slash =>
      have hnames := names_of_lastStep hlast
      by_cases hsize : nameLimit < name.utf8ByteSize
      · simp [lookUp, hsize] at h
      cases hget : fs.get? (name :: dir) with
      | none => simp [lookUp, hsize, hget] at h
      | some object =>
        cases hremove : fs.removeDirectoryAt caller (name :: dir) with
        | error refusal => simp [lookUp, hsize, hget, hremove] at h
        | ok left =>
          simp [lookUp, hsize, hget, hremove] at h
          subst h
          exact ⟨name :: dir, hnames, removeDirectoryAt_eq_ok hremove⟩
    | _ => simp at h

end FileSystem
end AssetPublish
