import AssetPublish.Proofs.Scan.Course

/-!
# Scans are exact

A scan that nobody disturbs, asked by one whom permission bits do not bind, tells of every object
below its root exactly once, unless it lies below one that is left out.  It ends early only where
the path of an object is too long to be handed to the system.

What is to be told is stated about the tree by locations: an object is what is found below the root
by names, one directory inside of the other, so that no link is gone through and no object has two
names.  The classification has one clause for each kind of event, in both directions, so that
neither an event too many nor one too few would satisfy it.

The length of paths cannot be left out.  The system accepts spellings of up to 4095 bytes; a root
whose own spelling is nearly that long can be listed, but what is in it cannot be inspected.
`scan_too_deep` shows such a root, spelled by going in and out of a directory many times.

## What is here

* `Classifies` — what it means that events tell of a tree exactly.
* `classifies_visited` — what is told about the objects that a scan comes to classifies the tree.
* `fault_eq_none_iff` — when a scan does not end early.
* `scan_exact` — the main statement; `scan_too_deep` shows that the length of paths matters.
-/

set_option autoImplicit false

namespace AssetPublish

open FileSystem

/-- The path relative to the root that an event tells of. -/
def ScanEvent.relativePath : ScanEvent → String
  | entry found => found.relativePath
  | excluded relativePath _ => relativePath
  | skipped relativePath => relativePath

/-- **The events tell of the tree at `base` exactly.**  Objects are those that are found below
`base` by their names, so that no link is gone through. -/
structure Classifies (fs : FileSystem) (rule : Exclusion) (root : Path) (base : Location)
    (events : List ScanEvent) : Prop where
  /-- No path is told twice. -/
  once : (events.map ScanEvent.relativePath).Nodup
  /-- An object is told unless it lies below one that is left out. -/
  told : ∀ names object, names ≠ [] → fs.get? (names.reverse ++ base) = some object →
    (Text.joined '/' names ∈ events.map ScanEvent.relativePath ↔ ¬ rule.Hides names)
  /-- Every event tells of an object, which lies in directories. -/
  straight : ∀ event ∈ events, ∃ names, names ≠ [] ∧
    event.relativePath = Text.joined '/' names ∧ (fs.get? (names.reverse ++ base)).isSome ∧
    ∀ first, first <+: names → first ≠ names →
      ∃ mode, fs.get? (first.reverse ++ base) = some (.directory mode)
  /-- Entries are the objects that are not left out, those that are never copied apart. -/
  entry : ∀ entry, .entry entry ∈ events ↔ ∃ names object, names ≠ [] ∧
    fs.get? (names.reverse ++ base) = some object ∧ ¬ rule.Covers names ∧
    EntryKind.ofObject object ≠ .special ∧
    entry = Entry.ofObject (root.append names) (Text.joined '/' names) object
  /-- The topmost objects that are left out are told as such. -/
  excluded : ∀ relativePath isDirectory, .excluded relativePath isDirectory ∈ events ↔
    ∃ names object, names ≠ [] ∧ fs.get? (names.reverse ++ base) = some object ∧
      rule.excludes names = true ∧ ¬ rule.Hides names ∧
      relativePath = Text.joined '/' names ∧ isDirectory = object.isDirectory
  /-- A warning is given for the objects that are never copied and not left out. -/
  skipped : ∀ relativePath, .skipped relativePath ∈ events ↔ ∃ names object, names ≠ [] ∧
    fs.get? (names.reverse ++ base) = some object ∧ ¬ rule.Covers names ∧
    EntryKind.ofObject object = .special ∧ relativePath = Text.joined '/' names

variable {fs : FileSystem} {caller : Caller} {rule : Exclusion} {root : Path} {base : Location}
  {names : List String} {object : Object} {mode : Nat}

/-! ## What is told about one object -/

theorem relativePath_verdict (visit : Visit) :
    (verdict rule root visit).relativePath = Text.joined '/' visit.1 := by
  rw [verdict]
  cases rule.excludes visit.1 with
  | true => rfl
  | false =>
    by_cases h : EntryKind.ofObject visit.2 = .special
    · simp [h, ScanEvent.relativePath]
    · simp [h, ScanEvent.relativePath, Entry.ofObject]

theorem verdict_eq_entry_iff {entry : Entry} :
    verdict rule root (names, object) = .entry entry ↔
      rule.excludes names = false ∧ EntryKind.ofObject object ≠ .special ∧
        entry = Entry.ofObject (root.append names) (Text.joined '/' names) object := by
  rw [verdict]
  cases rule.excludes names with
  | true => simp
  | false => by_cases h : EntryKind.ofObject object = .special <;> simp [h, eq_comm]

theorem verdict_eq_excluded_iff {relativePath : String} {isDirectory : Bool} :
    verdict rule root (names, object) = .excluded relativePath isDirectory ↔
      rule.excludes names = true ∧ relativePath = Text.joined '/' names ∧
        isDirectory = object.isDirectory := by
  rw [verdict]
  cases rule.excludes names with
  | true => simp [eq_comm]
  | false => by_cases h : EntryKind.ofObject object = .special <;> simp [h]

theorem verdict_eq_skipped_iff {relativePath : String} :
    verdict rule root (names, object) = .skipped relativePath ↔
      rule.excludes names = false ∧ EntryKind.ofObject object = .special ∧
        relativePath = Text.joined '/' names := by
  rw [verdict]
  cases rule.excludes names with
  | true => simp
  | false => by_cases h : EntryKind.ofObject object = .special <;> simp [h, eq_comm]

/-! ## What is told about all objects -/

theorem joined_inj {a b : List String} (ha : ∀ name ∈ a, IsName name)
    (hb : ∀ name ∈ b, IsName name) (h : Text.joined '/' a = Text.joined '/' b) : a = b := by
  rw [← segments_joined ha, h, segments_joined hb]

theorem isName_of_mem_visited {visit : Visit} (h : visit ∈ fs.visited rule base) :
    ∀ name ∈ visit.1, IsName name :=
  isName_of_get?_reverse (mem_visited_iff.1 h).2.1

theorem not_covers_iff (hne : names ≠ []) :
    ¬ rule.Covers names ↔ ¬ rule.Hides names ∧ rule.excludes names = false := by
  rw [Exclusion.covers_iff hne, not_or, Bool.not_eq_true]

/-- What a scan tells are the verdicts on the objects that the rule does not hide. -/
theorem mem_verdicts_iff {event : ScanEvent} :
    event ∈ (fs.visited rule base).map (verdict rule root) ↔ ∃ names object, names ≠ [] ∧
      fs.get? (names.reverse ++ base) = some object ∧ ¬ rule.Hides names ∧
      verdict rule root (names, object) = event := by
  rw [List.mem_map]
  constructor
  · rintro ⟨⟨names, object⟩, hvisit, heq⟩
    obtain ⟨hne, hget, hhides⟩ := mem_visited_iff.1 hvisit
    exact ⟨names, object, hne, hget, hhides, heq⟩
  · rintro ⟨names, object, hne, hget, hhides, heq⟩
    exact ⟨(names, object), mem_visited_iff.2 ⟨hne, hget, hhides⟩, heq⟩

/-- **What a scan comes to is the whole tree.** -/
theorem classifies_visited (fs : FileSystem) (rule : Exclusion) (root : Path) (base : Location) :
    Classifies fs rule root base ((fs.visited rule base).map (verdict rule root)) where
  once := by
    rw [List.map_map, List.Nodup, List.pairwise_map]
    refine pairwise_visited.imp_of_mem fun {a b} ha hb h heq => h ?_
    rw [Function.comp_apply, Function.comp_apply, relativePath_verdict,
      relativePath_verdict] at heq
    exact joined_inj (isName_of_mem_visited ha) (isName_of_mem_visited hb) heq ▸ List.prefix_rfl
  told := by
    intro names object hne hget
    rw [List.map_map, List.mem_map]
    constructor
    · rintro ⟨visit, hvisit, heq⟩
      rw [Function.comp_apply, relativePath_verdict] at heq
      rw [← joined_inj (isName_of_mem_visited hvisit) (isName_of_get?_reverse hget) heq]
      exact (mem_visited_iff.1 hvisit).2.2
    · intro hhides
      exact ⟨(names, object), mem_visited_iff.2 ⟨hne, hget, hhides⟩, relativePath_verdict _⟩
  straight := by
    intro event hevent
    obtain ⟨names, object, hne, hget, -, rfl⟩ := mem_verdicts_iff.1 hevent
    refine ⟨names, hne, relativePath_verdict _, by rw [hget]; rfl, ?_⟩
    rintro first ⟨rest, rfl⟩ hfirst
    rw [List.reverse_append, List.append_assoc] at hget
    refine exists_directory_of_get?_append ?_ hget
    intro hnil
    rw [List.reverse_eq_nil_iff] at hnil
    exact hfirst (by rw [hnil, List.append_nil])
  entry := by
    intro entry
    rw [mem_verdicts_iff]
    constructor
    · rintro ⟨names, object, hne, hget, hhides, heq⟩
      obtain ⟨hexcludes, hkind, hentry⟩ := verdict_eq_entry_iff.1 heq
      exact ⟨names, object, hne, hget, (not_covers_iff hne).2 ⟨hhides, hexcludes⟩, hkind, hentry⟩
    · rintro ⟨names, object, hne, hget, hcovers, hkind, hentry⟩
      obtain ⟨hhides, hexcludes⟩ := (not_covers_iff hne).1 hcovers
      exact ⟨names, object, hne, hget, hhides, verdict_eq_entry_iff.2 ⟨hexcludes, hkind, hentry⟩⟩
  excluded := by
    intro relativePath isDirectory
    rw [mem_verdicts_iff]
    constructor
    · rintro ⟨names, object, hne, hget, hhides, heq⟩
      obtain ⟨hexcludes, hpath, hdir⟩ := verdict_eq_excluded_iff.1 heq
      exact ⟨names, object, hne, hget, hexcludes, hhides, hpath, hdir⟩
    · rintro ⟨names, object, hne, hget, hexcludes, hhides, hpath, hdir⟩
      exact ⟨names, object, hne, hget, hhides, verdict_eq_excluded_iff.2 ⟨hexcludes, hpath, hdir⟩⟩
  skipped := by
    intro relativePath
    rw [mem_verdicts_iff]
    constructor
    · rintro ⟨names, object, hne, hget, hhides, heq⟩
      obtain ⟨hexcludes, hkind, hpath⟩ := verdict_eq_skipped_iff.1 heq
      exact ⟨names, object, hne, hget, (not_covers_iff hne).2 ⟨hhides, hexcludes⟩, hkind, hpath⟩
    · rintro ⟨names, object, hne, hget, hcovers, hkind, hpath⟩
      obtain ⟨hhides, hexcludes⟩ := (not_covers_iff hne).1 hcovers
      exact ⟨names, object, hne, hget, hhides, verdict_eq_skipped_iff.2 ⟨hexcludes, hkind, hpath⟩⟩

/-! ## When a scan ends early -/

/-- The paths of all objects that a scan comes to can be handed to the system.  Only the length is
asked for, since names of objects are without the zero character, and what lies below a hidden
directory is not looked at. -/
def ReadableBelow (fs : FileSystem) (rule : Exclusion) (root : Path) (base : Location) : Prop :=
  ∀ names object, names ≠ [] → fs.get? (names.reverse ++ base) = some object →
    ¬ rule.Hides names → (root.append names).text.utf8ByteSize ≤ spellingLimit

/-- **A scan ends early only at a path that is too long.** -/
theorem fault_eq_none_iff (hcaller : caller.privileged = true) (hplain : rule.IsPlain)
    (hroot : fs.follow? caller root.text = .ok (base, .directory mode)) :
    (Scan.all fs caller rule.scanRule root).fault = none ↔ ReadableBelow fs rule root base := by
  obtain ⟨told, later, heq, hcourse⟩ := scan_cases rule hroot
  obtain ⟨hspell, -⟩ := find?_text_eq_ok_iff.1 hroot
  constructor
  · intro hnone names object hne hget hhides
    have hvisit : (names, object) ∈ told := by
      have hmem := mem_visited_iff.2 ⟨hne, hget, hhides⟩
      rwa [heq, hcourse.complete hnone, List.append_nil] at hmem
    exact (hcourse.spellable _ hvisit).2
  · intro hreadable
    by_contra hfault
    obtain ⟨⟨names, object⟩, others, hlater, hlong⟩ := hcourse.failed hfault hcaller hplain
    have hvisit : (names, object) ∈ fs.visited rule base := by rw [heq, hlater]; simp
    obtain ⟨hne, hget, hhides⟩ := mem_visited_iff.1 hvisit
    exact hlong ((spellable_append_iff hspell hget).2 (hreadable names object hne hget hhides))

/-- **A scan of a directory by the privileged goes on to its end exactly if no path on its way is
too long, and has then told of the whole tree.** -/
theorem scan_exact (hcaller : caller.privileged = true) (hplain : rule.IsPlain)
    (hroot : fs.follow? caller root.text = .ok (base, .directory mode)) :
    ((Scan.all fs caller rule.scanRule root).fault = none ↔ ReadableBelow fs rule root base) ∧
      ((Scan.all fs caller rule.scanRule root).fault = none →
        Classifies fs rule root base (Scan.all fs caller rule.scanRule root).events) := by
  refine ⟨fault_eq_none_iff hcaller hplain hroot, ?_⟩
  intro hnone
  rw [events_of_fault_eq_none hroot hnone]
  exact classifies_visited fs rule root base

/-- A directory with a link to itself, a socket, a file, and a directory with another file. -/
def mixedTree : FileSystem :=
  (((((empty.create [] "d" (.directory 0o755)).create ["d"] "again" (.link "../d")).create
    ["d"] "wire" (.socket 0o755)).create ["d"] "f" (.file (.ofText "text") 0o640 7)).create
    ["d"] "ignore" (.directory 0o700)).create ["ignore", "d"] "g" (.file .empty 0o644 0)

theorem scan_exact_mixedTree :
    superuser.privileged = true ∧ Exclusion.default.IsPlain ∧
      mixedTree.follow? superuser (Path.ofText "d").text = .ok (["d"], .directory 0o755) ∧
      ((Scan.all mixedTree superuser Exclusion.default.scanRule (Path.ofText "d")).fault = none ↔
        ReadableBelow mixedTree Exclusion.default (Path.ofText "d") ["d"]) ∧
      ((Scan.all mixedTree superuser Exclusion.default.scanRule (Path.ofText "d")).fault = none →
        Classifies mixedTree Exclusion.default (Path.ofText "d") ["d"]
          (Scan.all mixedTree superuser Exclusion.default.scanRule (Path.ofText "d")).events) := by
  have hroot : mixedTree.follow? superuser (Path.ofText "d").text
      = .ok (["d"], .directory 0o755) := by
    refine find?_text_eq_ok_iff.2 ⟨by decide, ?_, by decide⟩
    refine walk_followed_eq_object_iff.2 ⟨linkLimit, ?_⟩
    rw [Path.steps_text (by decide)]
    exact .pace (.down rfl rfl rfl rfl) .done
  exact ⟨rfl, Exclusion.isPlain_default, hroot, scan_exact rfl Exclusion.isPlain_default hroot⟩

/-! ## A path that is too long -/

/-- A single directory. -/
def oneDirectory : FileSystem := empty.create [] "d" (.directory 0o755)

theorem mem_roundTrip {times : Nat} {part : String}
    (h : part ∈ (List.replicate times ["d", ".."]).flatten) : part = "d" ∨ part = ".." := by
  obtain ⟨pair, hpair, hmem⟩ := List.mem_flatten.1 h
  rw [List.eq_of_mem_replicate hpair] at hmem
  simpa using hmem

/-- A way into a directory and out again, some number of times.  It leads back to where it starts,
with a spelling as long as one likes. -/
def roundTrip (times : Nat) : Path :=
  ⟨.relative, (List.replicate times ["d", ".."]).flatten, by
    intro part hpart
    rcases mem_roundTrip hpart with rfl | rfl
    · decide
    · decide⟩

theorem leads_roundTrip (times : Nat) :
    oneDirectory.Leads superuser linkLimit [] (roundTrip times).parts linkLimit [] := by
  induction times with
  | zero => exact .done
  | succ times ih => exact .pace (.down rfl rfl rfl rfl) (.pace (.up rfl rfl rfl) ih)

theorem size_roundTrip (times : Nat) :
    (roundTrip (times + 1)).text.utf8ByteSize = 5 * times + 4 := by
  rw [Path.text_of_relative rfl (List.cons_ne_nil _ _)]
  induction times with
  | zero => decide
  | succ times ih =>
    have hsplit : (roundTrip (times + 1 + 1)).parts = ["d", ".."] ++ (roundTrip (times + 1)).parts :=
      rfl
    have hpair : (Text.joined '/' ["d", ".."]).utf8ByteSize = 4 := by decide
    have hne : (roundTrip (times + 1)).parts ≠ [] := List.cons_ne_nil _ _
    rw [hsplit, Text.size_joined_append (by simp) hne, ih, hpair]
    omega

/-- What is there is spelled by a path that is longer still. -/
theorem size_roundTrip_append (times : Nat) {names : List String} (hne : names ≠ [])
    (hnames : ∀ name ∈ names, IsName name) :
    ((roundTrip (times + 1)).append names).text.utf8ByteSize
      = 5 * times + 5 + (Text.joined '/' names).utf8ByteSize := by
  have hparts : (roundTrip (times + 1)).parts ≠ [] := List.cons_ne_nil _ _
  have hsize := size_roundTrip times
  rw [Path.text_of_relative rfl hparts] at hsize
  rw [Path.text_of_relative rfl (List.append_ne_nil_of_left_ne_nil hparts _), Path.append_parts,
    Path.names_eq_self hnames, Text.size_joined_append hparts hne, hsize]

/-- As long as the path is accepted, it leads back to where it starts. -/
theorem follow?_roundTrip {fs : FileSystem} (hle : oneDirectory ≤ fs) (times : Nat)
    (hsize : 5 * times + 4 ≤ spellingLimit) :
    fs.follow? superuser (roundTrip (times + 1)).text = .ok ([], .directory rootMode) := by
  have hnull : '\x00' ∉ (roundTrip (times + 1)).text.toList := by
    rw [Path.null_mem_text_iff]
    rintro ⟨part, hpart, hmem⟩
    rcases mem_roundTrip hpart with rfl | rfl
    · exact absurd hmem (by decide)
    · exact absurd hmem (by decide)
  refine find?_text_eq_ok_iff.2 ⟨⟨hnull, by rw [size_roundTrip]; exact hsize⟩, ?_, rfl⟩
  refine walk_followed_eq_object_iff.2 ⟨linkLimit, ?_⟩
  rw [Path.steps_text (List.cons_ne_nil _ _)]
  exact (leads_roundTrip (times + 1)).mono hle

/-- **A directory is not scanned to the end if it is spelled by too long a path**, even by one who
may read everything. -/
theorem scan_too_deep :
    superuser.privileged = true ∧ Exclusion.default.IsPlain ∧
      oneDirectory.follow? superuser (roundTrip 819).text = .ok ([], .directory rootMode) ∧
      (Scan.all oneDirectory superuser Exclusion.default.scanRule (roundTrip 819)).fault ≠ none := by
  have hroot := follow?_roundTrip (le_refl oneDirectory) 818 (by decide)
  refine ⟨rfl, Exclusion.isPlain_default, hroot, ?_⟩
  intro hnone
  have hreadable := (fault_eq_none_iff rfl Exclusion.isPlain_default hroot).1 hnone ["d"]
    (.directory 0o755) (by simp) rfl Exclusion.not_hides_singleton
  have hname : (Text.joined '/' ["d"]).utf8ByteSize = 1 := by decide
  rw [size_roundTrip_append 818 (by simp) (by decide), hname, spellingLimit] at hreadable
  omega

end AssetPublish
