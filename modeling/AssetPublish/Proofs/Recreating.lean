import AssetPublish.Operation.Apply
import AssetPublish.Proofs.FileSystem.Changes

/-!
# Recreating one entry

A step that recreates an entry works on a place that is free, in a directory that is there already.
It changes that place only, and where it succeeds a copy of the object stands there.

Everything that a step reads it reads when it is taken: a file may have become another one since it
was scanned, or a link.  So `Copies` tells what the copy is by what the source path leads to in the
file system of that moment, and says nothing about the object that was planned but for its kind.
That the two are the same when nobody interferes is shown where whole runs are considered.

Where a step fails, what it may have changed is its own place only.  In a place that was free this
is no loss.

## What is here

* `Vacant` — the place for a copy: free, in a directory below the destination.
* `Copies` — what the copy of an object is, told by what the source holds at that moment.
* `recreates_handle` — a step changes its place only, and leaves a copy there if it succeeds.
-/

set_option autoImplicit false

namespace AssetPublish

open FileSystem

variable {fs fs' : FileSystem} {caller : Caller} {path dest source root : Path}
  {base location : Location} {names : List String} {object : Object} {mode : Nat}
  {result : Except Fault Unit}

/-! ## The place for a copy

All that is known of the place comes from this structure, so that the lemmas below hold in any tree
that has it. -/

/-- The place at `names` below the directory `base`, to which `dest` leads, is free, and the one
that it lies in is a directory.  It is given by the directory to which the destination leads, and
names below it, so that it is the same place whether or not there are links on the way to the
destination. -/
structure Vacant (fs : FileSystem) (caller : Caller) (dest : Path) (base : Location)
    (names : List String) : Prop where
  root : fs.PathLeads caller dest base
  nonempty : names ≠ []
  proper : ∀ name ∈ names, IsFileName name
  parent : ∃ mode, fs.get? (names.dropLast.reverse ++ base) = some (.directory mode)
  free : fs.get? (names.reverse ++ base) = none

namespace Vacant

variable (h : Vacant fs caller dest base names)

include h

theorem parts : (dest.append names).parts = dest.parts ++ names :=
  parts_append dest fun name hname => (h.proper name hname).isName

theorem parts_eq :
    (dest.append names).parts = (dest.parts ++ names.dropLast) ++ [names.getLast h.nonempty] := by
  rw [h.parts, List.append_assoc, List.dropLast_concat_getLast]

/-- The directory that the place lies in is the only one that the components before the last lead
to. -/
theorem dir_eq {links : Nat} {dir : Location}
    (hleads : fs.Leads caller linkLimit ((dest.append names).start caller)
      (dest.parts ++ names.dropLast) links dir) :
    dir = names.dropLast.reverse ++ base := by
  obtain ⟨mid, here, hfirst, hsecond⟩ := hleads.split
  obtain ⟨rootLinks, hroot⟩ := h.root
  obtain ⟨rfl, rfl⟩ := hfirst.unique hroot
  obtain ⟨mode, hdir⟩ := h.parent
  exact (hsecond.straight_of_get? hdir rfl).2

/-- The path names the place and no other. -/
theorem eq_of_names (hnames : fs.Names caller (dest.append names) location) :
    location = names.reverse ++ base := by
  obtain ⟨init, name, links, dir, hparts, -, hleads, -, rfl⟩ := hnames
  obtain ⟨rfl, hlast⟩ := List.append_inj' (h.parts_eq.symm.trans hparts) rfl
  rw [List.cons.injEq] at hlast
  rw [h.dir_eq hleads, reverse_append_eq h.nonempty, hlast.1]

theorem get?_eq_none {links : Nat} {dir : Location}
    (hleads : fs.Leads caller linkLimit ((dest.append names).start caller)
      (dest.parts ++ names.dropLast) links dir) :
    fs.get? (names.getLast h.nonempty :: dir) = none := by
  rw [h.dir_eq hleads, ← reverse_append_eq h.nonempty]
  exact h.free

/-- Nothing is found at the place by its path. -/
theorem not_pathLeads : ¬ fs.PathLeads caller (dest.append names) location := by
  rintro ⟨links, hleads⟩
  rw [h.parts_eq] at hleads
  obtain ⟨mid, here, hfirst, hlast⟩ := hleads.split
  have hnone := h.get?_eq_none hfirst
  have hname := h.proper _ (List.getLast_mem h.nonempty)
  cases hlast with
  | pace hpace _ =>
    cases hpace with
    | blank heq _ => exact hname.1.1 heq
    | dot heq _ _ => exact hname.1.2.1 heq
    | up heq _ _ => exact hname.2.1 heq
    | down _ _ hobject _ => rw [hnone] at hobject; simp at hobject
    | link _ _ hlink => rw [hnone] at hlink; simp at hlink

/-- A copy does not go into the place, since it is no directory. -/
theorem copyTarget_text (source : Path) :
    (fs.copyTarget caller source (dest.append names)).text = (dest.append names).text := by
  have hno : affirmed (fs.isDirectory? caller (dest.append names).text) = false := by
    cases hanswer : fs.isDirectory? caller (dest.append names).text with
    | error fault => rfl
    | ok answer =>
      cases answer with
      | false => rfl
      | true =>
        obtain ⟨location, mode, hfollow⟩ := isDirectory?_eq_ok_true hanswer
        exact absurd (pathLeads_of_follow? hfollow) h.not_pathLeads
  rw [copyTarget, hno]
  rfl

end Vacant

/-! ## Changing what has just been created

A second call follows the path again.  It comes to the place, since the directories on the way are
as they were, and what the first call has put there is no link. -/

/-- What is at the place by now is what its path is followed to. -/
theorem Vacant.eq_of_follow? (h : Vacant fs caller dest base names) {now : FileSystem}
    (hle : fs ≤ now) (hobject : now.get? (names.reverse ++ base) = some object)
    (hlink : object.isLink = false) {found : Location × Object}
    (hfollow : now.follow? caller (dest.append names).text = .ok found) :
    found = (names.reverse ++ base, object) := by
  obtain ⟨links, hroot⟩ := h.root
  exact eq_of_follow?_append ⟨links, hroot.mono hle⟩ hobject hlink hfollow

theorem Vacant.place_ne_nil (h : Vacant fs caller dest base names) :
    names.reverse ++ base ≠ [] := by
  simp [h.nonempty]

/-- Nothing that was there is lost if only the place is changed. -/
theorem Vacant.le_of_onlyAt (h : Vacant fs caller dest base names)
    (honly : OnlyAt (names.reverse ++ base) fs fs') : fs ≤ fs' := by
  intro other object hobject
  rw [honly, hobject]
  rintro rfl
  rw [h.free] at hobject
  simp at hobject

/-- Setting permission bits at the path changes the object that is at the place by now. -/
theorem Vacant.of_changeMode (h : Vacant fs caller dest base names) {now : FileSystem} {bits : Nat}
    (hle : fs ≤ now) (hobject : now.get? (names.reverse ++ base) = some object)
    (hlink : object.isLink = false)
    (hchange : changeMode caller (dest.append names).text bits now = .ok fs') :
    OnlyAt (names.reverse ++ base) now fs' ∧
      fs'.get? (names.reverse ++ base) = some (object.withMode (bits % 0o10000)) := by
  obtain ⟨location, found, hfollow, rfl⟩ := changeMode_eq_ok hchange
  obtain ⟨rfl, rfl⟩ := Prod.mk.inj (h.eq_of_follow? hle hobject hlink hfollow)
  constructor
  · intro other hne
    rw [get?_setMode h.place_ne_nil, if_neg hne]
  · rw [get?_setMode h.place_ne_nil, if_pos rfl, hobject]
    rfl

/-- The same for the time of change. -/
theorem Vacant.of_changeModified (h : Vacant fs caller dest base names) {now : FileSystem}
    {modified : Int} (hle : fs ≤ now) (hobject : now.get? (names.reverse ++ base) = some object)
    (hlink : object.isLink = false)
    (hchange : changeModified caller (dest.append names).text modified now = .ok fs') :
    OnlyAt (names.reverse ++ base) now fs' ∧
      fs'.get? (names.reverse ++ base) = some (object.withModified modified) := by
  obtain ⟨location, found, hfollow, rfl⟩ := changeModified_eq_ok hchange
  obtain ⟨rfl, rfl⟩ := Prod.mk.inj (h.eq_of_follow? hle hobject hlink hfollow)
  constructor
  · intro other hne
    rw [get?_setModified h.place_ne_nil, if_neg hne]
  · rw [get?_setModified h.place_ne_nil, if_pos rfl, hobject]
    rfl

/-- Setting the bits of what is at the place by now succeeds, or changes nothing. -/
theorem setBits_cases (h : Vacant fs caller dest base names) {now : FileSystem} (hle : fs ≤ now)
    (hobject : now.get? (names.reverse ++ base) = some object) (hlink : object.isLink = false)
    (hmode : mode < 0o10000)
    (hset : outcome (Operation.setBits caller (dest.append names) mode) now = (result, fs')) :
    OnlyAt (names.reverse ++ base) now fs' ∧
      (result = .ok () → fs'.get? (names.reverse ++ base) = some (object.withMode mode)) := by
  have hbits : ((mode : Int) % 0o10000).toNat % 0o10000 = mode := by omega
  rw [Operation.setBits, if_neg (by omega)] at hset
  rcases outcome_change_cases hset with ⟨-, hchange⟩ | ⟨rfl, fault, rfl⟩
  · obtain ⟨honly, hset⟩ := h.of_changeMode hle hobject hlink hchange
    rw [hbits] at hset
    exact ⟨honly, fun _ => hset⟩
  · exact ⟨OnlyAt.refl _ _, by simp⟩

theorem withOwnerBits_natCast (hmode : mode < 0o10000) :
    Operation.withOwnerBits mode = ((mode ||| Operation.ownerBits : Nat) : Int) := by
  rw [Operation.withOwnerBits, show ((mode : Int) % 0o10000).toNat = mode by omega]
  omega

theorem or_ownerBits_lt (hmode : mode < 0o10000) : mode ||| Operation.ownerBits < 0o10000 :=
  Nat.or_lt_two_pow (n := 12) hmode (by decide)

/-! ## The steps

Each kind of object has its own sequence of calls; what they have in common is `Recreates`. -/

/-- What the copy of an object is.  Links and files are read only then, at the path `source`.  The
owner's bits are added to those of a directory, so that it can be filled; a link that has taken the
place of a file is made anew and not followed. -/
inductive Copies (fs : FileSystem) (caller : Caller) (source : Path) : Object → Object → Prop
  | directory (mode : Nat) :
      Copies fs caller source (.directory mode) (.directory (mode ||| Operation.ownerBits))
  | fifo (mode : Nat) : Copies fs caller source (.fifo mode) (.fifo mode)
  | link {target held : String} (h : fs.readLink? caller source.text = .ok held) :
      Copies fs caller source (.link target) (.link held)
  | file {content found : Content} {mode bits : Nat} {modified time : Int}
      (h : fs.readFile? caller source.text = .ok (found, bits, time)) :
      Copies fs caller source (.file content mode modified) (.file found bits time)
  | fileLink {content : Content} {mode : Nat} {modified : Int} {held : String}
      (h : fs.readLink? caller source.text = .ok held) :
      Copies fs caller source (.file content mode modified) (.link held)

/-- What a step may have done when it ends: nothing is changed but its place, and if it succeeds
there is a copy.  This one notion covers all kinds of steps that recreate something, so that a run
has one case for them. -/
def Recreates (fs : FileSystem) (caller : Caller) (source : Path) (location : Location)
    (object : Object) (result : Except Fault Unit) (fs' : FileSystem) : Prop :=
  OnlyAt location fs fs' ∧ (result = .ok () → ∃ copy, fs'.get? location = some copy ∧
    Copies fs caller source object copy)

/-- Of a step that fails it is only asked that it keeps to its place. -/
theorem recreates_of_error {fault : Fault} {object : Object} (honly : OnlyAt location fs fs') :
    Recreates fs caller source location object (.error fault) fs' :=
  ⟨honly, by simp⟩

theorem recreates_makeLink (h : Vacant fs caller dest base names) {held : String}
    (hcopy : Copies fs caller source object (.link held))
    (hchange : outcome (Act.change (makeLink caller held (dest.append names).text)) fs
      = (result, fs')) :
    Recreates fs caller source (names.reverse ++ base) object result fs' := by
  rcases outcome_change_cases hchange with ⟨-, hmake⟩ | ⟨rfl, fault, rfl⟩
  · obtain ⟨location, hnames, hcreated⟩ := makeLink_eq_ok hmake
    obtain rfl := h.eq_of_names hnames
    exact ⟨hcreated.onlyAt, fun _ => ⟨_, hcreated.self, hcopy⟩⟩
  · exact recreates_of_error (OnlyAt.refl _ _)

/-- Reading a link, and making it anew. -/
theorem recreates_link (h : Vacant fs caller dest base names)
    (hcopy : ∀ held, fs.readLink? caller source.text = .ok held →
      Copies fs caller source object (.link held))
    (hact : outcome (do
        let held ← Act.ask fun fs => fs.readLink? caller source.text
        Act.change (makeLink caller held (dest.append names).text)) fs = (result, fs')) :
    Recreates fs caller source (names.reverse ++ base) object result fs' := by
  rcases outcome_ask_bind hact with ⟨rfl, fault, rfl⟩ | ⟨held, hheld, hchange⟩
  · exact recreates_of_error (OnlyAt.refl _ _)
  · exact recreates_makeLink h (hcopy held hheld) hchange

/-- A file is written, or nothing is changed; the reason of a refusal may be told in other words. -/
theorem writeCopy_cases {text : String} {content : Content}
    (h : outcome (writeCopy caller text content) fs = (result, fs')) :
    (result = .ok () ∧ writeFile caller text content fs = .ok fs') ∨
      (fs' = fs ∧ ∃ fault, result = .error fault) := by
  rw [writeCopy, outcome_bind_of_ok (outcome_get fs)] at h
  split at h
  · rename_i left hwrite
    obtain ⟨rfl, rfl⟩ := Prod.mk.inj (show _ = _ from h)
    exact Or.inl ⟨rfl, hwrite⟩
  · rw [outcome_bind_of_ok (outcome_get fs)] at h
    split at h
    · obtain ⟨rfl, rfl⟩ := Prod.mk.inj (show _ = _ from h)
      exact Or.inr ⟨rfl, _, rfl⟩
    · obtain ⟨rfl, rfl⟩ := Prod.mk.inj (show _ = _ from h)
      exact Or.inr ⟨rfl, _, rfl⟩
  · obtain ⟨rfl, rfl⟩ := Prod.mk.inj (show _ = _ from h)
    exact Or.inr ⟨rfl, _, rfl⟩

/-- Writing a file with its content, its time of change and its permission bits. -/
theorem recreates_file (h : Vacant fs caller dest base names) {content : Content} {bits : Nat}
    {modified : Int} (hbits : bits < 0o10000)
    (hcopy : Copies fs caller source object (.file content bits modified))
    (hact : outcome (do
        writeCopy caller (dest.append names).text content
        Act.change (changeModified caller (dest.append names).text modified)
        Act.change (changeMode caller (dest.append names).text bits)) fs = (result, fs')) :
    Recreates fs caller source (names.reverse ++ base) object result fs' := by
  rcases outcome_bind_eq hact with ⟨fault, hwrite, rfl⟩ | ⟨⟨⟩, written, hwrite, hact⟩
  · rcases writeCopy_cases hwrite with ⟨hok, -⟩ | ⟨rfl, -⟩
    · simp at hok
    · exact recreates_of_error (OnlyAt.refl _ _)
  have hwritten : writeFile caller (dest.append names).text content fs = .ok written := by
    rcases writeCopy_cases hwrite with ⟨-, hwritten⟩ | ⟨-, fault, herror⟩
    · exact hwritten
    · simp at herror
  have hdots := (h.proper _ (List.getLast_mem h.nonempty)).2.1
  obtain ⟨location, hnames, hcreated⟩ := writeFile_eq_ok h.parts_eq hdots
    (fun links dir hleads => h.get?_eq_none hleads) hwritten
  obtain rfl := h.eq_of_names hnames
  rcases outcome_change_bind hact with ⟨rfl, fault, rfl⟩ | ⟨timed, htime, hmode⟩
  · exact recreates_of_error hcreated.onlyAt
  obtain ⟨htimed, hfile⟩ := h.of_changeModified hcreated.le hcreated.self rfl htime
  have honly := hcreated.onlyAt.trans htimed
  rcases outcome_change_cases hmode with ⟨-, hchange⟩ | ⟨rfl, fault, rfl⟩
  · obtain ⟨hmoded, hcopied⟩ := h.of_changeMode (h.le_of_onlyAt honly) hfile rfl hchange
    rw [Nat.mod_eq_of_lt hbits] at hcopied
    exact ⟨honly.trans hmoded, fun _ => ⟨_, hcopied, hcopy⟩⟩
  · exact recreates_of_error honly

/-- What is read of a file has proper permission bits. -/
theorem readFile?_eq_ok {content : Content} {bits : Nat} {modified : Int}
    (h : fs.readFile? caller source.text = .ok (content, bits, modified)) :
    ∃ location, fs.follow? caller source.text = .ok (location, .file content bits modified) ∧
      bits < 0o10000 := by
  rw [readFile?] at h
  cases hfollow : fs.follow? caller source.text with
  | error fault => rw [hfollow] at h; simp at h
  | ok found =>
    obtain ⟨location, object⟩ := found
    rw [hfollow] at h
    obtain ⟨-, -, hget⟩ := find?_text_eq_ok_iff.1 hfollow
    simp only [ok_bind] at h
    split at h
    · simp at h
    · cases object with
      | file content' bits' modified' =>
        simp only [pure_eq_ok, Except.ok.injEq, Prod.mk.injEq] at h
        obtain ⟨rfl, rfl, rfl⟩ := h
        refine ⟨location, rfl, (proper_of_get? hget ?_).1⟩
        rintro rfl
        simp [FileSystem.get?] at hget
      | _ => simp at h

/-- **Copying a file**, or a link that has taken its place. -/
theorem recreates_copyFile (h : Vacant fs caller dest base names) {content : Content}
    {modified : Int}
    (hact : outcome (copyFile caller source (dest.append names)) fs = (result, fs')) :
    Recreates fs caller source (names.reverse ++ base) (.file content mode modified) result fs' := by
  rw [copyFile, outcome_bind_of_ok (outcome_get fs)] at hact
  simp only [h.copyTarget_text] at hact
  rcases outcome_ask_bind hact with ⟨rfl, fault, rfl⟩ | ⟨⟨⟩, -, hact⟩
  · exact recreates_of_error (OnlyAt.refl _ _)
  rw [outcome_bind_of_ok (outcome_get fs)] at hact
  split at hact
  · exact recreates_link h (fun held hheld => .fileLink hheld) hact
  · rcases outcome_ask_bind hact with ⟨rfl, fault, rfl⟩ | ⟨⟨found, bits, time⟩, hfound, hact⟩
    · exact recreates_of_error (OnlyAt.refl _ _)
    · obtain ⟨location, -, hbits⟩ := readFile?_eq_ok hfound
      exact recreates_file h hbits (.file hfound) hact

/-- Making a new object and setting its permission bits. -/
theorem recreates_setBits (h : Vacant fs caller dest base names) {created : Object}
    {now : FileSystem} (hcreated : Created fs now (names.reverse ++ base) created)
    (hlink : created.isLink = false) (hmode : mode < 0o10000)
    (hcopy : Copies fs caller source object (created.withMode mode))
    (hset : outcome (Operation.setBits caller (dest.append names) mode) now = (result, fs')) :
    Recreates fs caller source (names.reverse ++ base) object result fs' := by
  obtain ⟨honly, hdone⟩ := setBits_cases h hcreated.le hcreated.self hlink hmode hset
  exact ⟨hcreated.onlyAt.trans honly, fun hok => ⟨_, hdone hok, hcopy⟩⟩

/-- **Making a directory**, with the permission bits that its owner needs. -/
theorem recreates_directory (h : Vacant fs caller dest base names) (hmode : mode < 0o10000)
    (hact : outcome (do
        Act.change (makeDirectory caller (dest.append names).text)
        Operation.setBits caller (dest.append names) (Operation.withOwnerBits mode)) fs
      = (result, fs')) :
    Recreates fs caller source (names.reverse ++ base) (.directory mode) result fs' := by
  rcases outcome_change_bind hact with ⟨rfl, fault, rfl⟩ | ⟨made, hmake, hset⟩
  · exact recreates_of_error (OnlyAt.refl _ _)
  · obtain ⟨location, bits, hnames, hcreated⟩ := makeDirectory_eq_ok hmake
    obtain rfl := h.eq_of_names hnames
    rw [withOwnerBits_natCast hmode] at hset
    exact recreates_setBits h hcreated rfl (or_ownerBits_lt hmode) (.directory mode) hset

/-- **Making a pipe.** -/
theorem recreates_fifo (h : Vacant fs caller dest base names) (hmode : mode < 0o10000)
    (hact : outcome (do
        Act.change (makeFifo caller (dest.append names).text)
        Operation.setBits caller (dest.append names) mode) fs = (result, fs')) :
    Recreates fs caller source (names.reverse ++ base) (.fifo mode) result fs' := by
  rcases outcome_change_bind hact with ⟨rfl, fault, rfl⟩ | ⟨made, hmake, hset⟩
  · exact recreates_of_error (OnlyAt.refl _ _)
  · obtain ⟨location, hnames, hcreated⟩ := makeFifo_eq_ok hmake
    obtain rfl := h.eq_of_names hnames
    exact recreates_setBits h hcreated rfl hmode (.fifo mode) hset

theorem entry?_bind {operation : Operation} {entry : Entry} (h : operation.entry = some entry)
    (next : Entry → Act Unit) : operation.entry? >>= next = next entry := by
  rw [Operation.entry?, h]
  exact pure_bind entry next

/-- **A step that recreates an object changes its place only, and leaves a copy there if it
succeeds.** -/
theorem recreates_handle {relative : String} {operation : Operation}
    (h : Vacant fs caller dest base names) (hproper : object.Proper)
    (htarget : operation.target = dest.append names)
    (hentry : operation.entry = some (Entry.ofObject source relative object))
    (hkind : OperationKind.ofEntryKind? (EntryKind.ofObject object) = some operation.kind)
    (hact : outcome (operation.handle caller) fs = (result, fs')) :
    Recreates fs caller source (names.reverse ++ base) object result fs' := by
  obtain ⟨kind, target, relativePath, entry⟩ := operation
  simp only at htarget hentry hkind
  subst htarget
  subst hentry
  cases object with
  | directory bits =>
    obtain rfl : OperationKind.createDirectory = kind := Option.some.inj hkind
    exact recreates_directory h hproper.1 hact
  | file content bits modified =>
    obtain rfl : OperationKind.copyFile = kind := Option.some.inj hkind
    rw [Operation.handle, entry?_bind rfl] at hact
    exact recreates_copyFile h hact
  | link target =>
    obtain rfl : OperationKind.copySymlink = kind := Option.some.inj hkind
    rw [Operation.handle, entry?_bind rfl] at hact
    exact recreates_link h (fun held hheld => .link hheld) hact
  | fifo bits =>
    obtain rfl : OperationKind.copyFifo = kind := Option.some.inj hkind
    rw [Operation.handle, entry?_bind rfl] at hact
    exact recreates_fifo h hproper.1 hact
  | socket bits => simp [EntryKind.ofObject, OperationKind.ofEntryKind?] at hkind

end AssetPublish
