import AssetPublish.Proofs.FileSystem.Granting
import AssetPublish.Proofs.FileSystem.Refusing
import AssetPublish.Proofs.Run.Growth

/-!
# Steps that nothing stands in the way of

A step that recreates an object succeeds if the object is still where it was found, the place of the
copy is free, and a directory is above it.  In a plan, an object comes after the directory that it
is in, and no two steps recreate objects at one place; so all steps succeed in an empty directory,
one after the other.

Here a step is shown to succeed, and not only what it has done if it does.  So it has to be said of
each call that nothing can make it fail: the caller is privileged, so that no permission is missing;
no spelling is longer than the system takes; the names are proper.  All but the first are
conditions of `Recreatable`, which are asked of every tree that differs from the first one below the
destination only, since it is in such a tree that a step finds its object.

## What is here

* `exists_handle` — an object is recreated at a free place.
* `Operation.Ready`, `Unhindered` — what a step is to find, and steps that all find it.
* `exists_unhindered_recreations` — nothing stands in the way of recreating objects in an empty
  directory.
-/

set_option autoImplicit false

namespace AssetPublish

open FileSystem

variable {fs fs₁ fs₂ left out : FileSystem} {caller : Caller} {path source target dest : Path}
  {object : Object} {mode : Nat} {visit : Visit} {operation : Operation} {names : List String}

/-- The number of bytes of the path that a link holds. -/
def Object.heldSize : Object → Nat
  | link target => target.utf8ByteSize
  | _ => 0

/-! ## Recreating an object

A step consists of one call or a few.  Behind the first, the place holds what the step has made, so
that the calls that set bits and times find it. -/

theorem changeMode_place (hcaller : caller.privileged = true) (hpath : path.Proper)
    (hobject : fs.get? (path.place caller) = some object) (hlink : object.isLink = false)
    (bits : Nat) :
    changeMode caller path.text bits fs = .ok (fs.setMode (path.place caller) bits) := by
  rw [changeMode, follow?_place hcaller hpath hobject hlink]
  rfl

theorem changeModified_place (hcaller : caller.privileged = true) (hpath : path.Proper)
    (hobject : fs.get? (path.place caller) = some object) (hlink : object.isLink = false)
    (time : Int) :
    changeModified caller path.text time fs = .ok (fs.setModified (path.place caller) time) := by
  rw [changeModified, follow?_place hcaller hpath hobject hlink]
  rfl

theorem exists_setBits (hcaller : caller.privileged = true) (hpath : path.Proper)
    (hobject : fs.get? (path.place caller) = some object) (hlink : object.isLink = false)
    (hmode : mode < 0o10000) :
    ∃ left, outcome (Operation.setBits caller path mode) fs = (.ok (), left) := by
  rw [Operation.setBits, if_neg (by omega), outcome_change,
    changeMode_place hcaller hpath hobject hlink]
  exact ⟨_, rfl⟩

/-- A link is made anew. -/
theorem exists_recreate_link (hcaller : caller.privileged = true) (hsource : source.Proper)
    (htarget : target.Proper) {held : String}
    (hlink : fs.get? (source.place caller) = some (.link held))
    (hheld : held.utf8ByteSize ≤ spellingLimit) (hoffers : fs.Offers caller target) :
    ∃ left, outcome (do
        let held ← Act.ask fun fs => fs.readLink? caller source.text
        Act.change (makeLink caller held target.text)) fs = (.ok (), left) := by
  have hempty := ((proper_of_get? hlink (hsource.place_ne_nil caller)).2 held rfl).1
  obtain ⟨left, hmade⟩ := hoffers.exists_makeLink hcaller htarget hempty
    ⟨null_not_mem_of_get?_link hlink, hheld⟩
  have hread : outcome (Act.ask fun fs => fs.readLink? caller source.text) fs
      = (.ok held, fs) := by
    rw [outcome_ask, readLink?_eq_ok_iff.2 ⟨_, find?_place hcaller hsource hlink (Or.inl rfl)⟩]
  refine ⟨left, ?_⟩
  rw [outcome_bind_of_ok hread, outcome_change, hmade]

/-- A file is written with its content, its time of change and its permission bits. -/
theorem exists_write (hcaller : caller.privileged = true) (htarget : target.Proper)
    (hoffers : fs.Offers caller target) (content : Content) (bits : Nat) (time : Int) :
    ∃ left, outcome (do
        writeCopy caller target.text content
        Act.change (changeModified caller target.text time)
        Act.change (changeMode caller target.text bits)) fs = (.ok (), left) := by
  obtain ⟨written, hwrite, hcreated⟩ := hoffers.exists_writeFile hcaller htarget content
  have hcopy : outcome (writeCopy caller target.text content) fs = (.ok ⟨⟩, written) := by
    rw [writeCopy, outcome_bind_of_ok (outcome_get fs), hwrite]
    rfl
  have htimed : (written.setModified (target.place caller) time).get? (target.place caller)
      = some (.file content newFileMode time) := by
    rw [get?_setModified (htarget.place_ne_nil caller), if_pos rfl, hcreated.self]
    rfl
  have htime : outcome (Act.change (changeModified caller target.text time)) written
      = (.ok ⟨⟩, written.setModified (target.place caller) time) := by
    rw [outcome_change, changeModified_place hcaller htarget hcreated.self rfl]
  rw [outcome_bind_of_ok hcopy, outcome_bind_of_ok htime, outcome_change,
    changeMode_place hcaller htarget htimed rfl]
  exact ⟨_, rfl⟩

/-- A file is copied to a free place. -/
theorem exists_copyFile (hcaller : caller.privileged = true) (hsource : source.Proper)
    (htarget : target.Proper) {content : Content} {time : Int}
    (hfile : fs.get? (source.place caller) = some (.file content mode time))
    (hoffers : fs.Offers caller target) :
    ∃ left, outcome (copyFile caller source target) fs = (.ok (), left) := by
  have hfollow := follow?_place hcaller hsource hfile rfl
  have hplace : fs.copyTarget caller source target = ⟨target.text, target.shown⟩ := by
    rw [copyTarget, hoffers.isDirectory?_eq hcaller htarget]
    rfl
  have hcheck : outcome (Act.ask fun fs => fs.checkCopy caller source ⟨target.text, target.shown⟩)
      fs = (.ok ⟨⟩, fs) := by
    rw [outcome_ask, checkCopy, hfollow, follow?, hoffers.find?_eq hcaller htarget]
    rfl
  have hlink : affirmed (fs.isLink? caller source.text) = false := by
    rw [isLink?_place hcaller hsource hfile]
    rfl
  have hread : outcome (Act.ask fun fs => fs.readFile? caller source.text) fs
      = (.ok (content, mode, time), fs) := by
    rw [outcome_ask, readFile?, hfollow]
    simp [Caller.mayRead, Caller.may, hcaller]
  rw [copyFile, outcome_bind_of_ok (outcome_get fs), hplace, outcome_bind_of_ok hcheck,
    outcome_bind_of_ok (outcome_get fs), hlink, if_neg Bool.false_ne_true, outcome_bind_of_ok hread]
  exact exists_write hcaller htarget hoffers content mode time

/-- A directory is made, with the permission bits that its owner needs. -/
theorem exists_recreate_directory (hcaller : caller.privileged = true) (htarget : target.Proper)
    (hmode : mode < 0o10000) (hoffers : fs.Offers caller target) :
    ∃ left, outcome (do
        Act.change (makeDirectory caller target.text)
        Operation.setBits caller target (Operation.withOwnerBits mode)) fs = (.ok (), left) := by
  obtain ⟨made, bits, hmade, hcreated⟩ := hoffers.exists_makeDirectory hcaller htarget
  have hmake : outcome (Act.change (makeDirectory caller target.text)) fs = (.ok ⟨⟩, made) := by
    rw [outcome_change, hmade]
  rw [outcome_bind_of_ok hmake, withOwnerBits_natCast hmode]
  exact exists_setBits hcaller htarget hcreated.self rfl (or_ownerBits_lt hmode)

/-- A pipe is made. -/
theorem exists_recreate_fifo (hcaller : caller.privileged = true) (htarget : target.Proper)
    (hmode : mode < 0o10000) (hoffers : fs.Offers caller target) :
    ∃ left, outcome (do
        Act.change (makeFifo caller target.text)
        Operation.setBits caller target mode) fs = (.ok (), left) := by
  obtain ⟨made, hmade, hcreated⟩ := hoffers.exists_makeFifo hcaller htarget
  have hmake : outcome (Act.change (makeFifo caller target.text)) fs = (.ok ⟨⟩, made) := by
    rw [outcome_change, hmade]
  rw [outcome_bind_of_ok hmake]
  exact exists_setBits hcaller htarget hcreated.self rfl hmode

/-- **An object is recreated at a free place** whenever it is found where it is read.  One case for
each kind of object, each with the calls that its step makes. -/
theorem exists_handle (hcaller : caller.privileged = true)
    (hstep : Recreation source dest (names, object) operation)
    (hsource : (source.append names).Proper) (htarget : (dest.append names).Proper)
    (hobject : fs.get? ((source.append names).place caller) = some object)
    (hheld : object.heldSize ≤ spellingLimit)
    (hoffers : fs.Offers caller (dest.append names)) :
    ∃ left, outcome (operation.handle caller) fs = (.ok (), left) := by
  have hproper : object.Proper := proper_of_get? hobject (hsource.place_ne_nil caller)
  obtain ⟨kind, target, relativePath, entry⟩ := operation
  obtain ⟨htarget', hentry, hkind⟩ := hstep
  simp only at htarget' hentry hkind
  subst htarget'
  subst hentry
  cases object with
  | directory bits =>
    obtain rfl : OperationKind.createDirectory = kind := Option.some.inj hkind
    exact exists_recreate_directory hcaller htarget hproper.1 hoffers
  | file content bits time =>
    obtain rfl : OperationKind.copyFile = kind := Option.some.inj hkind
    rw [Operation.handle, entry?_bind rfl]
    exact exists_copyFile hcaller hsource htarget hobject hoffers
  | link held =>
    obtain rfl : OperationKind.copySymlink = kind := Option.some.inj hkind
    rw [Operation.handle, entry?_bind rfl]
    exact exists_recreate_link hcaller hsource htarget hobject hheld hoffers
  | fifo bits =>
    obtain rfl : OperationKind.copyFifo = kind := Option.some.inj hkind
    rw [Operation.handle, entry?_bind rfl]
    exact exists_recreate_fifo hcaller htarget hproper.1 hoffers
  | socket bits => simp [EntryKind.ofObject, OperationKind.ofEntryKind?] at hkind

/-! ## Steps that nothing stands in the way of -/

/-- What a step that recreates something is to find: nothing at its target, and a directory above
it.  These are three questions to the system, in the words in which a program would ask them, so
that the statement can be read without the invariant that proves it. -/
structure Operation.Ready (operation : Operation) (fs : FileSystem) (caller : Caller) : Prop where
  absent : fs.exists? caller operation.target.text = .ok false
  unlinked : fs.isLink? caller operation.target.text = .ok false
  directory : fs.isDirectory? caller operation.target.parent.text = .ok true

/-- All steps succeed one after the other, and those that recreate something are ready when their
turn comes.  The steps on the destination itself are exempt, since the first finds the old
destination at its target. -/
inductive Unhindered (caller : Caller) : List Operation → FileSystem → FileSystem → Prop
  | nil {fs : FileSystem} : Unhindered caller [] fs fs
  | cons {operation : Operation} {rest : List Operation} {fs mid fs' : FileSystem}
      (hready : operation.kind ≠ .removeDestination → operation.kind ≠ .createDestination →
        operation.Ready fs caller)
      (h : outcome (operation.handle caller) fs = (.ok (), mid))
      (hrest : Unhindered caller rest mid fs') : Unhindered caller (operation :: rest) fs fs'

theorem Unhindered.allTaken {steps : List Operation} (h : Unhindered caller steps fs out) :
    AllTaken caller steps fs out := by
  induction h with
  | nil => exact .nil
  | cons hready h hrest ih => exact .cons h ih

/-- A vacant place is offered. -/
theorem Vacant.offers (h : Vacant fs caller dest (dest.place caller) names) :
    fs.Offers caller (dest.append names) := by
  have hnames : ∀ name ∈ names, IsName name := fun name hname => (h.proper name hname).isName
  constructor
  · rw [Path.parent_place_append dest h.nonempty hnames]
    exact h.parent
  · rw [Path.place_append dest hnames]
    exact h.free

/-- A step is ready if its target is offered. -/
theorem Operation.ready_of_offers (hcaller : caller.privileged = true)
    (htarget : operation.target.Proper) (habove : operation.target.parent.parts ≠ [])
    (h : fs.Offers caller operation.target) : operation.Ready fs caller where
  absent := h.exists?_eq hcaller htarget
  unlinked := h.isLink?_eq hcaller htarget
  directory := by
    obtain ⟨mode, hdir⟩ := h.parent
    rw [isDirectory?_place hcaller (htarget.parent habove) hdir rfl]
    rfl

/-- What the recreation of an object needs besides a place: it is read where it was found, and no
spelling is too long.  A link is read before it is made again, and what it holds has to fit into the
answer. -/
structure Recreatable (source dest : Path) (caller : Caller) (visit : Visit) (fs : FileSystem) :
    Prop where
  original : (source.append visit.1).Proper
  copy : (dest.append visit.1).Proper
  found : fs.get? ((source.append visit.1).place caller) = some visit.2
  held : visit.2.heldSize ≤ spellingLimit

/-- **Nothing stands in the way of recreating objects** in an empty directory, if all of them can be
read as long as nothing but that directory changes.  By induction on what is still to do, with
`Grown` for the tree and `Ordered` for the lists; the next place is vacant by the same lemma that
keeps the invariant. -/
theorem exists_unhindered_recreations (hcaller : caller.privileged = true) (hdest : dest.parts ≠ [])
    {done todo : List Visit} {steps : List Operation}
    (hempty : Empty fs₂ caller dest (dest.place caller))
    (hgrown : Grown fs₂ caller source (dest.place caller) done fs) (hordered : Ordered done todo)
    (hsteps : List.Forall₂ (Recreation source dest) todo steps)
    (hsound : ∀ visit ∈ todo, ∀ mid : FileSystem,
      (∀ location, ¬ Below (dest.place caller) location →
        mid.get? location = fs₂.get? location) → Recreatable source dest caller visit mid) :
    ∃ out, Unhindered caller steps fs out := by
  induction hsteps generalizing done fs with
  | nil => exact ⟨fs, .nil⟩
  | @cons visit operation todo steps hoperation hsteps ih =>
    -- What is done so far is above the object or beside it, so its place is vacant.
    obtain ⟨hne, hnames, -⟩ := hordered.proper visit List.mem_cons_self
    have hnew := hordered.new visit List.mem_cons_self
    have hvacant := hgrown.vacant hempty hne hnames hnew hordered.parent_done
    have hready := hsound visit List.mem_cons_self fs hgrown.outside
    obtain ⟨left, hhandle⟩ := exists_handle hcaller hoperation hready.original hready.copy
      hready.found hready.held hvacant.offers
    have hstep := hgrown.recreates hempty hordered hoperation hhandle
    obtain ⟨out, hrest⟩ := ih (hgrown.step hne hnew hstep) hordered.next
      fun other hother => hsound other (List.mem_cons_of_mem _ hother)
    refine ⟨out, .cons (fun _ _ => ?_) hhandle hrest⟩
    refine operation.ready_of_offers hcaller ?_ ?_ ?_
    · rw [hoperation.target]
      exact hready.copy
    · rw [hoperation.target]
      show (dest.append visit.1).parts.dropLast ≠ []
      rw [hvacant.parts, List.dropLast_append_of_ne_nil hne]
      exact List.append_ne_nil_of_left_ne_nil hdest _
    · rw [hoperation.target]
      exact hvacant.offers

end AssetPublish
