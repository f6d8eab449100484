import AssetPublish.FileSystem.Object

/-!
# The file system

A file system is a finite table of objects by location.  Its root is a directory of its own that
is not in the table.  Every object lies in a directory, so the table always describes a tree.

The table is a list and not a function, so that it can be listed, counted and compared, and it keeps
the order in which objects were created.  What a caller can see is the view `get?`; nearly all that
is proved about a file system is proved about the view.  The invariant is part of the type: a change
that would break it is not made, and the equation of each change on the view says when it is.

## What is here

* `FileSystem` — the table with its invariant `Valid`.
* `FileSystem.get?` — the view: the object at a location.
* `FileSystem.names` — the names in a directory, the most recently created first.
* `create`, `remove`, `modify` — the three changes, each with its effect on the view:
  `get?_create`, `get?_remove`, `get?_modify`.
-/

set_option autoImplicit false

namespace AssetPublish

/-- The first object at a location of a table. -/
def objectAt? : List (Location × Object) → Location → Option Object
  | [], _ => none
  | (place, object) :: rest, location =>
    if place = location then some object else objectAt? rest location

/-- Whether there is a directory at a location of a table, the root included. -/
def directoryAt (objects : List (Location × Object)) (location : Location) : Bool :=
  location.isEmpty || (objectAt? objects location).any Object.isDirectory

/-- No location occurs twice, and every object is proper, has a proper name and lies in a
directory. -/
def Valid (objects : List (Location × Object)) : Prop :=
  objects.Pairwise (fun a b => a.1 ≠ b.1) ∧
    ∀ entry ∈ objects, entry.2.Proper ∧ ∃ name dir, entry.1 = name :: dir ∧ IsFileName name ∧
      directoryAt objects dir = true

/-- A file system: the objects by location, the most recently created first. -/
structure FileSystem where
  objects : List (Location × Object)
  valid : Valid objects

namespace FileSystem

/-- The permission bits of the root. -/
def rootMode : Nat := 0o755

/-- The file system without any object. -/
def empty : FileSystem := ⟨[], List.Pairwise.nil, by simp⟩

instance : Inhabited FileSystem := ⟨empty⟩

/-- The object at a location. -/
def get? (fs : FileSystem) (location : Location) : Option Object :=
  if location = [] then some (.directory rootMode) else objectAt? fs.objects location

/-- Whether there is a directory at a location. -/
def isDirectory (fs : FileSystem) (location : Location) : Bool :=
  directoryAt fs.objects location

/-- The name of an entry of the table, if it lies in the directory `dir`. -/
def nameIn? (dir : Location) (entry : Location × Object) : Option String :=
  match entry.1 with
  | name :: place => if place = dir then some name else none
  | [] => none

/-- The names of the objects in a directory, the most recently created first. -/
def names (fs : FileSystem) (dir : Location) : List String := fs.objects.filterMap (nameIn? dir)

/-! ## Look-up

The table is searched from the front.  Since no location occurs twice, it does not matter which
entry is found first. -/

theorem objectAt?_isSome_iff {objects : List (Location × Object)} {location : Location} :
    (objectAt? objects location).isSome ↔ ∃ object, (location, object) ∈ objects := by
  induction objects with
  | nil => simp [objectAt?]
  | cons entry rest ih =>
    obtain ⟨place, object⟩ := entry
    rw [objectAt?]
    split
    · rename_i h; subst h; simp only [Option.isSome_some, true_iff]
      exact ⟨object, List.mem_cons_self⟩
    · rename_i h
      rw [ih]
      constructor
      · rintro ⟨other, hother⟩; exact ⟨other, List.mem_cons_of_mem _ hother⟩
      · rintro ⟨other, hother⟩
        rcases List.mem_cons.1 hother with heq | hother
        · exact absurd (congrArg Prod.fst heq).symm h
        · exact ⟨other, hother⟩

theorem objectAt?_isSome_of_mem {objects : List (Location × Object)}
    {entry : Location × Object} (h : entry ∈ objects) : (objectAt? objects entry.1).isSome :=
  objectAt?_isSome_iff.2 ⟨entry.2, h⟩

theorem objectAt?_mem {objects : List (Location × Object)} {location : Location} {object : Object}
    (h : objectAt? objects location = some object) : (location, object) ∈ objects := by
  induction objects with
  | nil => simp [objectAt?] at h
  | cons entry rest ih =>
    obtain ⟨place, other⟩ := entry
    rw [objectAt?] at h
    split at h
    · rename_i heq
      simp only [Option.some.injEq] at h
      subst heq; subst h; exact List.mem_cons_self
    · exact List.mem_cons_of_mem _ (ih h)

/-- Where some locations are kept, their objects are found and no others. -/
theorem objectAt?_filter (objects : List (Location × Object)) (keeps : Location → Bool)
    (location : Location) :
    objectAt? (objects.filter fun entry => keeps entry.1) location
      = if keeps location then objectAt? objects location else none := by
  induction objects with
  | nil => simp [objectAt?]
  | cons entry rest ih =>
    obtain ⟨place, object⟩ := entry
    rw [objectAt?]
    by_cases hkeeps : keeps place = true
    · rw [List.filter_cons_of_pos (by simpa using hkeeps), objectAt?, ih]
      split
      · rename_i heq
        rw [← heq, if_pos hkeeps]
      · rfl
    · rw [List.filter_cons_of_neg (by simpa using hkeeps), ih]
      split
      · rename_i hlocation
        rw [if_neg fun heq => hkeeps (by rw [heq]; exact hlocation)]
      · rfl

theorem objectAt?_filter_ne {objects : List (Location × Object)} {removed location : Location}
    (h : location ≠ removed) :
    objectAt? (objects.filter fun entry => entry.1 ≠ removed) location
      = objectAt? objects location := by
  have hfilter := objectAt?_filter objects (fun place => decide (place ≠ removed)) location
  rw [hfilter, if_pos (by simpa using h)]

theorem objectAt?_filter_self {objects : List (Location × Object)} {removed : Location} :
    objectAt? (objects.filter fun entry => entry.1 ≠ removed) removed = none := by
  have hfilter := objectAt?_filter objects (fun place => decide (place ≠ removed)) removed
  rw [hfilter, if_neg (by simp)]

/-- The table with the objects at one location replaced by their image. -/
def mapAt (location : Location) (f : Object → Object) (entry : Location × Object) :
    Location × Object :=
  (entry.1, if entry.1 = location then f entry.2 else entry.2)

theorem objectAt?_mapAt {objects : List (Location × Object)} {location other : Location}
    {f : Object → Object} :
    objectAt? (objects.map (mapAt location f)) other
      = if other = location then (objectAt? objects other).map f
        else objectAt? objects other := by
  induction objects with
  | nil => simp [objectAt?]
  | cons entry rest ih =>
    obtain ⟨place, object⟩ := entry
    rw [List.map_cons, mapAt, objectAt?, objectAt?, ih]
    by_cases hp : place = other
    · subst hp
      by_cases hl : place = location <;> simp [hl]
    · simp [hp]

theorem directoryAt_mapAt {objects : List (Location × Object)} {location : Location}
    {f : Object → Object} (hf : Object.Keeps f) (dir : Location) :
    directoryAt (objects.map (mapAt location f)) dir = directoryAt objects dir := by
  unfold directoryAt
  rw [objectAt?_mapAt]
  split
  · congr 1
    cases objectAt? objects dir <;> simp [(hf _).1]
  · rfl

theorem directoryAt_cons {objects : List (Location × Object)} {entry : Location × Object}
    {dir : Location} (hfresh : objectAt? objects entry.1 = none)
    (h : directoryAt objects dir = true) : directoryAt (entry :: objects) dir = true := by
  unfold directoryAt at h ⊢
  rw [Bool.or_eq_true] at h ⊢
  refine h.imp id fun h => ?_
  obtain ⟨place, object⟩ := entry
  rw [objectAt?]
  split
  · rename_i heq
    subst heq
    simp only [hfresh, Option.any_none, Bool.false_eq_true] at h
  · exact h

theorem isDirectory_iff {fs : FileSystem} {location : Location} :
    fs.isDirectory location = true ↔ ∃ mode, fs.get? location = some (.directory mode) := by
  unfold isDirectory directoryAt get?
  by_cases h : location = []
  · simp [h]
  · cases hobject : objectAt? fs.objects location with
    | none => simp [h]
    | some object => cases object <;> simp [h, Object.isDirectory]

/-! ## Creating

Each change is defined for all arguments, and where the invariant would break it changes nothing.
The equation on the view therefore has the conditions of the change as its hypotheses. -/

/-- A new object in a directory.  Where the object or the name is improper, the name is taken, or
there is no such directory, nothing changes. -/
def create (fs : FileSystem) (dir : Location) (name : String) (object : Object) : FileSystem :=
  if h : object.Proper ∧ IsFileName name ∧ fs.isDirectory dir = true ∧
      fs.get? (name :: dir) = none then
    ⟨(name :: dir, object) :: fs.objects, by
      have hfresh : objectAt? fs.objects (name :: dir) = none := by simpa [get?] using h.2.2.2
      refine ⟨List.pairwise_cons.2 ⟨fun entry hentry heq => ?_, fs.valid.1⟩, fun entry hentry => ?_⟩
      · have htaken := objectAt?_isSome_of_mem hentry
        rw [← show name :: dir = entry.1 from heq, hfresh] at htaken
        simp at htaken
      · rcases List.mem_cons.1 hentry with rfl | hentry
        · exact ⟨h.1, name, dir, rfl, h.2.1, directoryAt_cons hfresh h.2.2.1⟩
        · obtain ⟨hproper, other, place, heq, hname, hdir⟩ := fs.valid.2 entry hentry
          exact ⟨hproper, other, place, heq, hname, directoryAt_cons hfresh hdir⟩⟩
  else fs

/-- After creating an object it is found at its location, and all others are as before. -/
theorem get?_create {fs : FileSystem} {dir : Location} {name : String} {object : Object}
    (hproper : object.Proper) (hname : IsFileName name) (hdir : fs.isDirectory dir = true)
    (hfree : fs.get? (name :: dir) = none) (location : Location) :
    (fs.create dir name object).get? location
      = if location = name :: dir then some object else fs.get? location := by
  unfold create
  rw [dif_pos ⟨hproper, hname, hdir, hfree⟩]
  unfold get?
  by_cases h : location = []
  · simp [h]
  · by_cases hl : location = name :: dir
    · simp [hl, objectAt?]
    · simp [h, hl, objectAt?, Ne.symm hl]

/-! ## Removing

Only what holds nothing can be removed, since everything else would be left without its directory.
-/

theorem mem_names_iff {fs : FileSystem} {dir : Location} {name : String} :
    name ∈ fs.names dir ↔ (fs.get? (name :: dir)).isSome := by
  unfold names get?
  rw [if_neg (by simp), objectAt?_isSome_iff, List.mem_filterMap]
  constructor
  · rintro ⟨⟨place, object⟩, hentry, hname⟩
    unfold nameIn? at hname
    split at hname
    · rename_i first rest heq
      dsimp only at heq
      subst heq
      split at hname
      · rename_i hdir
        simp only [Option.some.injEq] at hname
        subst hdir; subst hname
        exact ⟨object, hentry⟩
      · simp at hname
    · simp at hname
  · rintro ⟨object, hentry⟩
    exact ⟨(name :: dir, object), hentry, by simp [nameIn?]⟩

/-- The file system without the object at a location.  The root and a directory that holds
something stay. -/
def remove (fs : FileSystem) (location : Location) : FileSystem :=
  if h : fs.names location = [] then
    ⟨fs.objects.filter fun entry => entry.1 ≠ location, by
      refine ⟨fs.valid.1.filter _, fun entry hentry => ?_⟩
      obtain ⟨hmem, hne⟩ := List.mem_filter.1 hentry
      obtain ⟨hproper, name, dir, heq, hname, hdir⟩ := fs.valid.2 entry hmem
      refine ⟨hproper, name, dir, heq, hname, ?_⟩
      have hdiff : dir ≠ location := by
        rintro rfl
        have hlisted : name ∈ fs.names dir := by
          refine mem_names_iff.2 ?_
          unfold get?
          rw [if_neg (by simp), ← heq]
          exact objectAt?_isSome_of_mem hmem
        rw [h] at hlisted
        simp at hlisted
      unfold directoryAt at hdir ⊢
      rwa [objectAt?_filter_ne hdiff]⟩
  else fs

/-- After removing an object nothing is found at its location, and all others are as before. -/
theorem get?_remove {fs : FileSystem} {removed : Location} (hempty : fs.names removed = [])
    (hroot : removed ≠ []) (location : Location) :
    (fs.remove removed).get? location
      = if location = removed then none else fs.get? location := by
  unfold remove
  rw [dif_pos hempty]
  unfold get?
  by_cases h : location = []
  · subst h; simp [Ne.symm hroot]
  · by_cases hl : location = removed
    · subst hl
      rw [if_neg h, if_pos rfl]
      exact objectAt?_filter_self
    · rw [if_neg h, if_neg h, if_neg hl]
      exact objectAt?_filter_ne hl

/-! ## Modifying

An object may be replaced by another one of its kind; if a directory became a file, what it holds
would have no place. -/

/-- The file system with the object at a location replaced by its image. -/
def modify (fs : FileSystem) (location : Location) (f : Object → Object)
    (hf : Object.Keeps f) : FileSystem :=
  ⟨fs.objects.map (mapAt location f), by
    refine ⟨?_, fun entry hentry => ?_⟩
    · rw [List.pairwise_map]
      exact fs.valid.1.imp fun h => h
    · obtain ⟨before, hbefore, rfl⟩ := List.mem_map.1 hentry
      obtain ⟨hproper, name, dir, heq, hname, hdir⟩ := fs.valid.2 before hbefore
      refine ⟨?_, name, dir, heq, hname, by rw [directoryAt_mapAt hf]; exact hdir⟩
      unfold mapAt
      dsimp only
      split
      · exact (hf _).2 hproper
      · exact hproper⟩

/-- After modifying an object its image is found, and all others are as before. -/
theorem get?_modify {fs : FileSystem} {changed : Location} {f : Object → Object}
    {hf : Object.Keeps f} (hroot : changed ≠ []) (location : Location) :
    (fs.modify changed f hf).get? location
      = if location = changed then (fs.get? location).map f else fs.get? location := by
  unfold modify get?
  by_cases h : location = []
  · subst h; simp [Ne.symm hroot]
  · rw [if_neg h, if_neg h, objectAt?_mapAt]

/-- The file system with other permission bits at a location; only the last twelve count. -/
def setMode (fs : FileSystem) (location : Location) (mode : Nat) : FileSystem :=
  fs.modify location (Object.withMode (mode % 0o10000))
    (Object.keeps_withMode (Nat.mod_lt _ (by decide)))

/-- The file system with another content of the file at a location. -/
def setContent (fs : FileSystem) (location : Location) (content : Content) : FileSystem :=
  fs.modify location (Object.withContent content) (Object.keeps_withContent content)

/-- The file system with another time of change of the file at a location. -/
def setModified (fs : FileSystem) (location : Location) (modified : Int) : FileSystem :=
  fs.modify location (Object.withModified modified) (Object.keeps_withModified modified)

end FileSystem
end AssetPublish
