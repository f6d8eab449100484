import AssetPublish.FileSystem.Directories
import AssetPublish.Proofs.FileSystem.Entering

/-!
# What the privileged are granted

Permission bits do not bind the privileged.  For a path whose components are proper names of files,
the system then only refuses what does not fit what is there: a place that is taken, or one that no
directory holds.

These statements go the other way round than those on what a call changes: they tell from what is in
the tree that a call is not refused.  They are needed wherever a run is shown to come to its end.
Whoever is privileged passes every directory, so for a path of proper names all that is left to ask
is what is there at its place and above it, and this can be read off the view without following
anything.

## What is here

* `find?_place`, `follow?_place` — what is met where a path is spelled.
* `Offers` — a free place in a directory, and `Offers.exists_makeDirectory` to
  `Offers.exists_writeFile` for what can be created there.
* `exists_makeWithParents` — a directory can be created with all that is missing above it.
-/

set_option autoImplicit false

namespace AssetPublish

open FileSystem

namespace FileSystem

variable {fs left : FileSystem} {caller : Caller} {path : Path} {object : Object} {mode : Nat}
  {ending : Ending} {location : Location} {held : String}

/-! ## What is met where a path is spelled -/

/-- The object itself that a path denotes. -/
theorem find?_place (hcaller : caller.privileged = true) (hpath : path.Proper)
    (hobject : fs.get? (path.place caller) = some object)
    (hlink : ending = .itself ∨ object.isLink = false) :
    fs.find? caller ending path.text = .ok (path.place caller, object) := by
  obtain ⟨mode, hdir⟩ := exists_parent_directory hpath hobject
  exact (entered_of_privileged hcaller hdir).find?_eq hpath hobject hlink

/-- The object that a path leads to. -/
theorem follow?_place (hcaller : caller.privileged = true) (hpath : path.Proper)
    (hobject : fs.get? (path.place caller) = some object) (hlink : object.isLink = false) :
    fs.follow? caller path.text = .ok (path.place caller, object) :=
  find?_place hcaller hpath hobject (Or.inr hlink)

theorem isLink?_place (hcaller : caller.privileged = true) (hpath : path.Proper)
    (hobject : fs.get? (path.place caller) = some object) :
    fs.isLink? caller path.text = .ok object.isLink := by
  obtain ⟨mode, hdir⟩ := exists_parent_directory hpath hobject
  exact (entered_of_privileged hcaller hdir).isLink?_eq hpath hobject

theorem isDirectory?_place (hcaller : caller.privileged = true) (hpath : path.Proper)
    (hobject : fs.get? (path.place caller) = some object) (hlink : object.isLink = false) :
    fs.isDirectory? caller path.text = .ok object.isDirectory := by
  obtain ⟨mode, hdir⟩ := exists_parent_directory hpath hobject
  exact (entered_of_privileged hcaller hdir).isDirectory?_eq hpath hobject hlink

/-! ## Free places -/

/-- The place where a path is spelled is free, and lies in a directory.  This is all that a call for
a new object asks of the tree, if the caller is privileged. -/
structure Offers (fs : FileSystem) (caller : Caller) (path : Path) : Prop where
  parent : ∃ mode, fs.get? (path.parent.place caller) = some (.directory mode)
  free : fs.get? (path.place caller) = none

namespace Offers

variable (h : fs.Offers caller path) (hcaller : caller.privileged = true) (hpath : path.Proper)

include h hcaller hpath

/-- A path to a free place is followed up to its last component. -/
theorem reach?_eq (ending : Ending) :
    fs.reach? caller ending path.text
      = .ok (.free (path.parent.place caller) (path.parts.getLast hpath.nonempty)) := by
  obtain ⟨mode, hdir⟩ := h.parent
  have hfree := h.free
  rw [Path.place_eq hpath.nonempty] at hfree
  obtain ⟨⟨hempty, hdot, -⟩, hdots, -, hsize⟩ := hpath.names _ (List.getLast_mem hpath.nonempty)
  refine reach?_text_eq_ok_iff.2 ⟨hpath.spellable, ?_⟩
  rw [(entered_of_privileged hcaller hdir).walk_eq hpath,
    walk_name (passable_of_privileged hcaller hdir) hempty hdot hdots, if_neg (by simp),
    if_neg (Nat.not_lt.2 hsize), hfree]
  rfl

/-- At an offered place nothing is found, and it is said to be missing and not out of reach. -/
theorem find?_eq (ending : Ending) :
    fs.find? caller ending path.text = .error (.refused .missing path.text) := by
  rw [find?, h.reach?_eq hcaller hpath]
  rfl

theorem exists?_eq : fs.exists? caller path.text = .ok false := by
  rw [exists?, follow?, h.find?_eq hcaller hpath]
  rfl

theorem isLink?_eq : fs.isLink? caller path.text = .ok false := by
  rw [isLink?, inspect?, h.find?_eq hcaller hpath]
  rfl

theorem isDirectory?_eq : fs.isDirectory? caller path.text = .ok false := by
  rw [isDirectory?, follow?, h.find?_eq hcaller hpath]
  rfl

/-- The place is free where it is spelled, so that whatever is created is created there. -/
theorem freePlace_eq (forDirectory : Bool) :
    fs.freePlace caller forDirectory path.text
      = .ok (path.parent.place caller, path.parts.getLast hpath.nonempty) := by
  obtain ⟨mode, hdir⟩ := h.parent
  have hfree := h.free
  rw [Path.place_eq hpath.nonempty] at hfree
  have hsize := (hpath.names _ (List.getLast_mem hpath.nonempty)).2.2.2
  rw [freePlace, (entered_of_privileged hcaller hdir).lastStep_eq hpath]
  simp [lookUp, hfree, Nat.not_lt.2 hsize, mayEdit_of_privileged hcaller hdir]

/-- What a new object at the place is, and that it is there. -/
theorem created (object : Object) (hproper : object.Proper) :
    Created fs (fs.create (path.parent.place caller) (path.parts.getLast hpath.nonempty) object)
      (path.place caller) object := by
  obtain ⟨hnames, hcreated⟩ := created_of_freePlace hpath.spellable.1
    (h.freePlace_eq hcaller hpath true) hproper
  rw [Path.place_eq hpath.nonempty]
  exact hcreated

theorem exists_makeDirectory : ∃ left mode, makeDirectory caller path.text fs = .ok left ∧
    Created fs left (path.place caller) (.directory mode) := by
  have hcreated := h.created hcaller hpath (.directory (newDirectoryMode
    ((fs.get? (path.parent.place caller)).elim 0 Object.mode))) ⟨newDirectoryMode_lt _, by simp⟩
  refine ⟨_, _, ?_, hcreated⟩
  rw [makeDirectory, if_neg hpath.spellable.1, h.freePlace_eq hcaller hpath]
  rfl

/-- What a link is to hold must be a text that the system accepts. -/
theorem exists_makeLink (hempty : held ≠ "") (hspell : Spellable held) :
    ∃ left, makeLink caller held path.text fs = .ok left := by
  have hcheck : checkSpelling held = .ok () := by
    rw [checkSpelling, if_neg hempty, if_neg (Nat.not_lt.2 hspell.2)]
  rw [makeLink, if_neg (not_or.2 ⟨hspell.1, hpath.spellable.1⟩), hcheck,
    h.freePlace_eq hcaller hpath]
  exact ⟨_, rfl⟩

theorem exists_makeFifo : ∃ left, makeFifo caller path.text fs = .ok left ∧
    Created fs left (path.place caller) (.fifo newFileMode) := by
  have hcreated := h.created hcaller hpath (.fifo newFileMode) ⟨by decide, by simp⟩
  refine ⟨_, ?_, hcreated⟩
  rw [makeFifo, if_neg hpath.spellable.1, h.freePlace_eq hcaller hpath]
  rfl

theorem exists_writeFile (content : Content) :
    ∃ left, writeFile caller path.text content fs = .ok left ∧
      Created fs left (path.place caller) (.file content newFileMode 0) := by
  obtain ⟨mode, hdir⟩ := h.parent
  have hcreated := h.created hcaller hpath (.file content newFileMode 0)
    ⟨show newFileMode < 0o10000 by decide, by simp⟩
  refine ⟨_, ?_, hcreated⟩
  rw [writeFile, h.reach?_eq hcaller hpath]
  simp [mayEdit_of_privileged hcaller hdir]

end Offers

/-! ## Creating a directory with those above it -/

/-- Whatever is at a location or above it is a directory.  Where nothing is, nothing is demanded:
the missing directories will be created. -/
def Paved (fs : FileSystem) (location : Location) : Prop :=
  ∀ above object, above <:+ location → fs.get? above = some object → object.isDirectory = true

theorem Paved.mono {fs' : FileSystem} (h : fs.Paved location) (hle : fs' ≤ fs) :
    fs'.Paved location :=
  fun above object habove hobject => h above object habove (hle above object hobject)

theorem Paved.above {above : Location} (h : fs.Paved location) (habove : above <:+ location) :
    fs.Paved above :=
  fun other object hother => h other object (hother.trans habove)

/-- It is enough that the deepest object that is met is a directory. -/
theorem paved_of_deepest {deepest : Location} (habove : deepest <:+ location)
    (hdirectory : fs.get? deepest = some (.directory mode))
    (hnone : ∀ further, further <:+ location → deepest.length < further.length →
      fs.get? further = none) : fs.Paved location := by
  intro above object hother hobject
  rcases List.suffix_or_suffix_of_suffix habove hother with hdeeper | ⟨names, heq⟩
  · rcases Nat.eq_or_lt_of_le hdeeper.length_le with heq | hlt
    · obtain rfl := hdeeper.eq_of_length heq
      rw [hdirectory] at hobject
      exact Option.some.inj hobject ▸ rfl
    · rw [hnone above hother hlt] at hobject
      simp at hobject
  · by_cases hnames : names = []
    · subst hnames
      rw [List.nil_append] at heq
      rw [heq, hdirectory] at hobject
      exact Option.some.inj hobject ▸ rfl
    · rw [← heq] at hdirectory
      obtain ⟨bits, hdir⟩ := exists_directory_of_get?_append hnames hdirectory
      rw [hdir] at hobject
      exact Option.some.inj hobject ▸ rfl

theorem Paved.exists_eq_directory (h : fs.Paved location)
    (hobject : fs.get? location = some object) : ∃ mode, object = .directory mode := by
  have hkind := h location object List.suffix_rfl hobject
  cases object with
  | directory mode => exact ⟨mode, rfl⟩
  | _ => simp [Object.isDirectory] at hkind

/-- Where nothing but directories is met, a path that does not lead to anything is missing. -/
theorem walk_of_paved (hcaller : caller.privileged = true) (links : Nat) {names : List String}
    {here : Location} (hnames : ∀ name ∈ names, IsFileName name)
    (hhere : fs.get? here = some (.directory mode)) (hpaved : fs.Paved (names.reverse ++ here))
    (hnone : fs.get? (names.reverse ++ here) = none) :
    fs.walk caller .followed links here names = .error .missing ∨
      ∃ dir name, fs.walk caller .followed links here names = .ok (.free dir name) := by
  induction names generalizing here mode with
  | nil => rw [List.reverse_nil, List.nil_append, hhere] at hnone; simp at hnone
  | cons name rest ih =>
    obtain ⟨⟨hempty, hdot, -⟩, hdots, -, hsize⟩ := hnames name List.mem_cons_self
    rw [List.reverse_cons, List.append_assoc, List.singleton_append] at hpaved hnone
    rw [walk_name (passable_of_privileged hcaller hhere) hempty hdot hdots, if_neg (by simp),
      if_neg (Nat.not_lt.2 hsize)]
    cases hobject : fs.get? (name :: here) with
    | none =>
      simp only
      split
      · exact Or.inr ⟨here, name, rfl⟩
      · exact Or.inl rfl
    | some object =>
      obtain ⟨bits, rfl⟩ := (hpaved.above (List.suffix_append _ _)).exists_eq_directory hobject
      exact ih (fun other hother => hnames other (List.mem_cons_of_mem _ hother)) hobject hpaved
        hnone

/-- A directory is not created where the one that it should lie in is missing. -/
theorem makeDirectory_of_missing (hcaller : caller.privileged = true) (hpath : path.Proper)
    (hstart : fs.get? (path.start caller) = some (.directory mode))
    (hpaved : fs.Paved (path.parent.place caller))
    (hnone : fs.get? (path.parent.place caller) = none) :
    makeDirectory caller path.text fs = .error (.refused .missing path.text) := by
  have hkept : path.parts.filter (· ≠ "") = path.parts :=
    List.filter_eq_self.2 fun part hpart => by simpa using (hpath.names part hpart).1.1
  have hnames : ∀ name ∈ path.parent.parts, IsFileName name :=
    fun name hname => hpath.names name ((List.dropLast_sublist path.parts).subset hname)
  have hmissing : fs.freePlace caller true path.text = .error .missing := by
    rw [freePlace, lastStep, checkSpelling_text, if_neg (Nat.not_lt.2 hpath.size),
      Path.startOf_text, Path.steps_text hpath.nonempty, hkept]
    have hparts : path.parts.dropLast = path.parent.parts := rfl
    rcases walk_of_paved hcaller linkLimit hnames hstart hpaved hnone with
      hwalk | ⟨dir, name, hwalk⟩
    · simp [hparts, hwalk]
    · simp [hparts, hwalk]
  rw [makeDirectory, if_neg hpath.spellable.1, hmissing]
  rfl

/-- What a directory is after it has been created with those above it: there, with nothing else
changed but what is above it.  What is above it may have changed from missing to a directory, so
nothing is said about these locations but for the directory itself. -/
structure Erected (fs : FileSystem) (caller : Caller) (path : Path) (left : FileSystem) : Prop where
  directory : ∃ mode, left.get? (path.place caller) = some (.directory mode)
  outside : ∀ location, ¬ location <:+ path.place caller → left.get? location = fs.get? location

theorem makeOne_of_offers (hcaller : caller.privileged = true) (hpath : path.Proper)
    (h : fs.Offers caller path) (existing : Bool) :
    ∃ left, outcome (makeOne caller path existing) fs = (.ok (), left) ∧
      Erected fs caller path left := by
  obtain ⟨left, mode, hmade, hcreated⟩ := h.exists_makeDirectory hcaller hpath
  refine ⟨left, ?_, ⟨mode, hcreated.self⟩, fun location hout => hcreated.of_ne ?_⟩
  · rw [makeOne, outcome_bind_of_ok (outcome_get fs), hmade]
    rfl
  · rintro rfl
    exact hout List.suffix_rfl

/-- A directory is created in the one that has been created before it. -/
theorem Erected.makeOne {mid : FileSystem} (h : Erected fs caller path.parent mid)
    (hcaller : caller.privileged = true) (hpath : path.Proper)
    (hplace : fs.get? (path.place caller) = none) (existing : Bool) :
    ∃ left, outcome (FileSystem.makeOne caller path existing) mid = (.ok (), left) ∧
      Erected fs caller path left := by
  have hfree : mid.get? (path.place caller) = none := by
    rw [h.outside _ (Path.not_place_suffix_parent hpath.nonempty caller), hplace]
  obtain ⟨left, hone, hleft⟩ := makeOne_of_offers hcaller hpath ⟨h.directory, hfree⟩ existing
  refine ⟨left, hone, hleft.directory, fun location hout => ?_⟩
  rw [hleft.outside location hout, h.outside]
  exact fun habove => hout (habove.trans (Path.parent_place_suffix hpath.nonempty caller))

/-- **A directory is created with all that is missing above it**, if only directories are met
there. -/
theorem exists_makeWithParents (hcaller : caller.privileged = true) {depth : Nat}
    (existing : Bool) (hpath : path.Proper) (hdepth : path.parts.length ≤ depth)
    (hstart : fs.get? (path.start caller) = some (.directory mode))
    (hpaved : fs.Paved (path.parent.place caller))
    (hplace : fs.get? (path.place caller) = none) :
    ∃ left, outcome (makeWithParents caller depth path existing) fs = (.ok (), left) ∧
      Erected fs caller path left := by
  induction depth generalizing path existing mode with
  | zero => exact absurd (List.length_eq_zero_iff.1 (Nat.le_zero.1 hdepth)) hpath.nonempty
  | succ depth ih =>
    rw [makeWithParents, outcome_bind_of_ok (outcome_get fs)]
    cases hparent : fs.get? (path.parent.place caller) with
    | some object =>
      obtain ⟨bits, rfl⟩ := hpaved.exists_eq_directory hparent
      have hoffers : fs.Offers caller path := ⟨⟨bits, hparent⟩, hplace⟩
      obtain ⟨left, mode, hmade, -⟩ := hoffers.exists_makeDirectory hcaller hpath
      rw [hmade]
      exact makeOne_of_offers hcaller hpath hoffers existing
    | none =>
      -- The directory above is missing too; the start is there, so it is not the start itself.
      have hne : path.parent.parts ≠ [] := by
        intro hnil
        rw [Path.place, hnil, List.reverse_nil, List.nil_append,
          show path.parent.start caller = path.start caller from rfl, hstart] at hparent
        simp at hparent
      have hlength : path.parent.parts.length ≤ depth := by
        rw [Path.parts_eq hpath.nonempty, List.length_append, List.length_singleton] at hdepth
        omega
      obtain ⟨mid, hmade, hmid⟩ := ih true (hpath.parent hne) hlength hstart
        (hpaved.above (Path.parent_place_suffix hne caller)) hparent
      obtain ⟨left, hone, hleft⟩ := hmid.makeOne hcaller hpath hplace existing
      rw [makeDirectory_of_missing hcaller hpath hstart hpaved hparent]
      exact ⟨left, (outcome_bind_of_ok hmade).trans hone, hleft⟩

end FileSystem
end AssetPublish
