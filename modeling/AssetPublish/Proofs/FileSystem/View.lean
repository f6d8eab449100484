import AssetPublish.Operation.Apply
import AssetPublish.Proofs.Procedure

/-!
# What depends on the view only

The table of a file system also tells in which order its objects were created.  Emptying a directory
goes by that order; every other call looks objects up by their locations.  So the steps that
recreate something cannot tell file systems apart that have the same objects at the same locations.

The statements come in two kinds, for questions and for changes, and then for procedures put
together from them (`Act.ByView`).  They are what allows a run to be compared with another one that
finds the same tree in a table of another order, as a second run does after a first.

## What is here

* `SameView` — the same object at every location.
* `SameView.walk_eq` to `SameView.readFile?_eq` — questions that are answered alike.
* `AlikeChanges`, `SameView.create` to `SameView.writeFile` — changes that are made alike.
* `Act.ByView` — procedures that do the same wherever the view is the same.
* `byView_handle` — the steps that recreate an object are such procedures.
-/

set_option autoImplicit false

namespace AssetPublish
namespace FileSystem

/-- The same object at every location.  As an equality of functions it can be rewritten with, which
is how all questions are shown to be answered alike. -/
def SameView (fs fs' : FileSystem) : Prop := fs.get? = fs'.get?

variable {fs fs' : FileSystem} {caller : Caller} {ending : Ending} {text : String}
  {location : Location}

theorem SameView.of_forall (h : ∀ location, fs.get? location = fs'.get? location) :
    SameView fs fs' := funext h

theorem SameView.get?_eq (h : SameView fs fs') (location : Location) :
    fs.get? location = fs'.get? location := congrFun h location

/-! ## Questions

A question is a function of what is found at locations.  With the equality of views rewritten, both
sides are the same term. -/

/-- Following a path only asks what is at the locations that it comes to. -/
theorem SameView.walkWith_eq (h : SameView fs fs')
    (onward : Location → List String → Except Refusal Reached) (here : Location)
    (rest : List String) :
    fs.walkWith caller ending onward here rest = fs'.walkWith caller ending onward here rest := by
  induction rest generalizing here with
  | nil => rfl
  | cons name rest ih =>
    rw [walkWith, walkWith]
    simp only [h.get?_eq, ih]

theorem SameView.walk_eq (h : SameView fs fs') (links : Nat) (here : Location)
    (names : List String) :
    fs.walk caller ending links here names = fs'.walk caller ending links here names := by
  induction links generalizing here names with
  | zero => exact h.walkWith_eq _ here names
  | succ links ih =>
    have hwalk : fs.walk caller ending links = fs'.walk caller ending links :=
      funext fun place => funext fun rest => ih place rest
    rw [walk, walk, hwalk]
    exact h.walkWith_eq _ here names

variable (h : SameView fs fs')

include h

theorem SameView.reach?_eq : fs.reach? caller ending text = fs'.reach? caller ending text := by
  simp only [reach?, reach, h.walk_eq]

theorem SameView.find?_eq : fs.find? caller ending text = fs'.find? caller ending text := by
  simp only [find?, h.reach?_eq, h.get?_eq]

theorem SameView.follow?_eq : fs.follow? caller text = fs'.follow? caller text := h.find?_eq

theorem SameView.inspect?_eq : fs.inspect? caller text = fs'.inspect? caller text := by
  rw [inspect?, inspect?, h.find?_eq]

theorem SameView.exists?_eq : fs.exists? caller text = fs'.exists? caller text := by
  rw [exists?, exists?, h.follow?_eq]

theorem SameView.isDirectory?_eq : fs.isDirectory? caller text = fs'.isDirectory? caller text := by
  rw [isDirectory?, isDirectory?, h.follow?_eq]

theorem SameView.isLink?_eq : fs.isLink? caller text = fs'.isLink? caller text := by
  rw [isLink?, isLink?, h.inspect?_eq]

theorem SameView.readLink?_eq : fs.readLink? caller text = fs'.readLink? caller text := by
  rw [readLink?, readLink?, h.inspect?_eq]

theorem SameView.readFile?_eq : fs.readFile? caller text = fs'.readFile? caller text := by
  simp only [readFile?, h.follow?_eq]

theorem SameView.mayEdit_eq : fs.mayEdit caller location = fs'.mayEdit caller location := by
  rw [mayEdit, mayEdit, h.get?_eq]

/-- Whether a place is free is a question too, so that a new object is created at the same place in
both. -/
theorem SameView.freePlace_eq (forDirectory : Bool) :
    fs.freePlace caller forDirectory text = fs'.freePlace caller forDirectory text := by
  simp only [freePlace, lastStep, lookUp, h.walk_eq, h.get?_eq, h.mayEdit_eq]

theorem SameView.isDirectory_eq : fs.isDirectory location = fs'.isDirectory location := by
  rw [Bool.eq_iff_iff, isDirectory_iff, isDirectory_iff, h.get?_eq]

theorem SameView.copyTarget_eq (source target : Path) :
    fs.copyTarget caller source target = fs'.copyTarget caller source target := by
  simp only [copyTarget, h.isDirectory?_eq]

/-- Two spellings lead to one file in one view just if they do in the other. -/
theorem SameView.checkCopy_eq (source : Path) (target : CopyTarget) :
    fs.checkCopy caller source target = fs'.checkCopy caller source target := by
  simp only [checkCopy, h.follow?_eq]

/-! ## Changes

A change adds an object to the table, or replaces one in it.  That the views agree afterwards is
shown for `create` and `modify`, and every call is one of these at a place that a question has
found. -/

/-- A new object is the same one in both views. -/
theorem SameView.create (dir : Location) (name : String) (object : Object) :
    SameView (fs.create dir name object) (fs'.create dir name object) := by
  by_cases hfits : object.Proper ∧ IsFileName name ∧ fs.isDirectory dir = true ∧
      fs.get? (name :: dir) = none
  · have hfits' := hfits
    rw [h.isDirectory_eq, h.get?_eq] at hfits'
    refine .of_forall fun location => ?_
    rw [get?_create hfits.1 hfits.2.1 hfits.2.2.1 hfits.2.2.2,
      get?_create hfits'.1 hfits'.2.1 hfits'.2.2.1 hfits'.2.2.2, h.get?_eq]
  · have hfits' := hfits
    rw [h.isDirectory_eq, h.get?_eq] at hfits'
    rw [FileSystem.create, FileSystem.create, dif_neg hfits, dif_neg hfits']
    exact h

/-- An object that is changed is found at the same location in both. -/
theorem SameView.modify (changed : Location) {f : Object → Object} (hf : Object.Keeps f) :
    SameView (fs.modify changed f hf) (fs'.modify changed f hf) := by
  refine .of_forall fun location => ?_
  by_cases hroot : location = []
  · rw [get?, get?, if_pos hroot, if_pos hroot]
  · have hobject := h.get?_eq location
    rw [get?, get?, if_neg hroot, if_neg hroot] at hobject ⊢
    rw [FileSystem.modify, FileSystem.modify, objectAt?_mapAt, objectAt?_mapAt, hobject]

omit h

/-- Two changes are both refused for the same reason, or both made with the same view.  The file
systems that are left need not be equal, since the table of each grows from a different one. -/
inductive AlikeChanges : Except Fault FileSystem → Except Fault FileSystem → Prop
  | refused (fault : Fault) : AlikeChanges (.error fault) (.error fault)
  | made {left left' : FileSystem} (h : SameView left left') : AlikeChanges (.ok left) (.ok left')

include h

/-- The new directory takes over a bit of the one above, which is the same in both views. -/
theorem SameView.makeDirectory :
    AlikeChanges (makeDirectory caller text fs) (makeDirectory caller text fs') := by
  rw [FileSystem.makeDirectory, FileSystem.makeDirectory, ← h.freePlace_eq]
  split
  · exact .refused _
  · cases fs.freePlace caller true text with
    | error refusal => exact .refused _
    | ok place =>
      simp only [h.get?_eq]
      exact .made (h.create _ _ _)

theorem SameView.makeLink (target : String) :
    AlikeChanges (makeLink caller target text fs) (makeLink caller target text fs') := by
  rw [FileSystem.makeLink, FileSystem.makeLink, ← h.freePlace_eq]
  split
  · exact .refused _
  · cases checkSpelling target with
    | error refusal => exact .refused _
    | ok done =>
      cases fs.freePlace caller false text with
      | error refusal => exact .refused _
      | ok place => exact .made (h.create _ _ _)

theorem SameView.makeFifo :
    AlikeChanges (makeFifo caller text fs) (makeFifo caller text fs') := by
  rw [FileSystem.makeFifo, FileSystem.makeFifo, ← h.freePlace_eq]
  split
  · exact .refused _
  · cases fs.freePlace caller false text with
    | error refusal => exact .refused _
    | ok place => exact .made (h.create _ _ _)

theorem SameView.changeMode (mode : Nat) :
    AlikeChanges (changeMode caller text mode fs) (changeMode caller text mode fs') := by
  rw [FileSystem.changeMode, FileSystem.changeMode, ← h.follow?_eq]
  cases fs.follow? caller text with
  | error fault => exact .refused _
  | ok found => exact .made (h.modify _ _)

theorem SameView.changeModified (modified : Int) :
    AlikeChanges (changeModified caller text modified fs)
      (changeModified caller text modified fs') := by
  rw [FileSystem.changeModified, FileSystem.changeModified, ← h.follow?_eq]
  cases fs.follow? caller text with
  | error fault => exact .refused _
  | ok found => exact .made (h.modify _ _)

/-- Where a file is there already its content is replaced, and otherwise there is a new one. -/
theorem SameView.writeFile (content : Content) :
    AlikeChanges (writeFile caller text content fs) (writeFile caller text content fs') := by
  rw [FileSystem.writeFile, FileSystem.writeFile, ← h.reach?_eq]
  cases fs.reach? caller .opened text with
  | error fault => exact .refused _
  | ok reached =>
    cases reached with
    | free dir name =>
      simp only [ok_bind, h.mayEdit_eq]
      split
      · exact .made (h.create _ _ _)
      · exact .refused _
    | object location =>
      simp only [ok_bind, h.get?_eq]
      split
      · split
        · exact .made (h.modify _ _)
        · exact .refused _
      · exact .refused _
      · split
        · exact .refused _
        · exact .refused _
      · exact .refused _

end FileSystem

open FileSystem

/-! ## Procedures

What removes a tree is not among them, since it goes by the order in which the table lists the
names. -/

/-- A procedure that has the same answer and leaves the same view wherever it finds the same
view. -/
def Act.ByView {α : Type} (act : Act α) : Prop :=
  ∀ fs fs', SameView fs fs' →
    (outcome act fs).1 = (outcome act fs').1 ∧ SameView (outcome act fs).2 (outcome act fs').2

namespace Act.ByView

variable {α β : Type} {act : Act α} {next : α → Act β} {fs fs' left : FileSystem}
  {result : Except Fault α}

/-- What a procedure does in one file system, it does in another one with the same view. -/
theorem exists_outcome (hact : ByView act) (h : SameView fs fs')
    (hout : outcome act fs = (result, left)) :
    ∃ left', outcome act fs' = (result, left') ∧ SameView left left' := by
  obtain ⟨hanswer, hview⟩ := hact fs fs' h
  rw [hout] at hanswer hview
  exact ⟨(outcome act fs').2, Prod.ext hanswer.symm rfl, hview⟩

theorem pure (answer : α) : ByView (Pure.pure answer : Act α) := fun _ _ h => ⟨rfl, h⟩

theorem throw (fault : Fault) : ByView (MonadExcept.throw fault : Act α) := fun _ _ h => ⟨rfl, h⟩

/-- The second procedure is given the same answer, and finds the view that the first has left. -/
theorem bind (hact : ByView act) (hnext : ∀ answer, ByView (next answer)) :
    ByView (act >>= next) := by
  intro fs fs' h
  rw [outcome_bind, outcome_bind]
  rcases hout : outcome act fs with ⟨answer, left⟩
  obtain ⟨left', hout', hview⟩ := hact.exists_outcome h hout
  rw [hout']
  cases answer with
  | error fault => exact ⟨rfl, hview⟩
  | ok answer => exact hnext answer left left' hview

/-- What follows on a look at the file system, if it only takes the view in. -/
theorem get_bind {next : FileSystem → Act β}
    (hsame : ∀ fs fs', SameView fs fs' → next fs = next fs') (hnext : ∀ fs, ByView (next fs)) :
    ByView (get >>= next) := by
  intro fs fs' h
  rw [outcome_bind_of_ok (outcome_get fs), outcome_bind_of_ok (outcome_get fs'), ← hsame fs fs' h]
  exact hnext fs fs fs' h

theorem ask {question : FileSystem → Except Fault α}
    (hsame : ∀ fs fs', SameView fs fs' → question fs = question fs') :
    ByView (Act.ask question) := by
  intro fs fs' h
  rw [outcome_ask, outcome_ask]
  exact ⟨hsame fs fs' h, h⟩

theorem change {step : FileSystem → Except Fault FileSystem}
    (hstep : ∀ fs fs', SameView fs fs' → AlikeChanges (step fs) (step fs')) :
    ByView (Act.change step) := by
  intro fs fs' h
  have halike := hstep fs fs' h
  rw [outcome_change, outcome_change]
  generalize step fs = one at halike ⊢
  generalize step fs' = other at halike ⊢
  cases halike with
  | refused fault => exact ⟨rfl, h⟩
  | made hleft => exact ⟨rfl, hleft⟩

end Act.ByView

variable {caller : Caller}

theorem byView_setBits (path : Path) (mode : Int) :
    (Operation.setBits caller path mode).ByView := by
  rw [Operation.setBits]
  split
  · exact (Act.ByView.throw _).bind fun _ => .change fun _ _ h => h.changeMode _
  · exact .change fun _ _ h => h.changeMode _

/-- Where the system refuses to write, one more question is asked to tell why. -/
theorem byView_writeCopy (text : String) (content : Content) :
    (writeCopy caller text content).ByView := by
  intro fs fs' h
  have halike : AlikeChanges (writeFile caller text content fs)
      (writeFile caller text content fs') := h.writeFile content
  rw [writeCopy, outcome_bind_of_ok (outcome_get fs), outcome_bind_of_ok (outcome_get fs')]
  generalize writeFile caller text content fs = one at halike ⊢
  generalize writeFile caller text content fs' = other at halike ⊢
  cases halike with
  | made hleft => exact ⟨rfl, hleft⟩
  | refused fault =>
    split
    · rename_i heq
      simp at heq
    · exact Act.ByView.get_bind (fun _ _ hsame => by rw [hsame.exists?_eq])
        (fun _ => by split <;> exact .throw _) fs fs' h
    · exact ⟨rfl, h⟩

theorem byView_copyFile (source target : Path) : (copyFile caller source target).ByView := by
  refine .get_bind (fun _ _ h => by rw [h.copyTarget_eq]) fun seen => ?_
  refine (Act.ByView.ask fun _ _ h => h.checkCopy_eq _ _).bind fun _ => ?_
  refine .get_bind (fun _ _ h => by rw [h.isLink?_eq]) fun now => ?_
  split
  · exact (Act.ByView.ask fun _ _ h => h.readLink?_eq).bind fun held =>
      .change fun _ _ h => h.makeLink held
  · exact (Act.ByView.ask fun _ _ h => h.readFile?_eq).bind fun found =>
      (byView_writeCopy _ _).bind fun _ =>
        (Act.ByView.change fun _ _ h => h.changeModified _).bind fun _ =>
          .change fun _ _ h => h.changeMode _

theorem byView_entryOf (operation : Operation) : (operation.entry?).ByView := by
  rw [Operation.entry?]
  split
  · exact .pure _
  · exact .throw _

/-- **The steps that recreate an object go by the view only.** -/
theorem byView_handle {operation : Operation} {kind : EntryKind}
    (hkind : OperationKind.ofEntryKind? kind = some operation.kind) :
    (operation.handle caller).ByView := by
  rw [Operation.handle]
  cases kind with
  | directory =>
    rw [← Option.some.inj hkind]
    refine (Act.ByView.change fun _ _ h => h.makeDirectory).bind fun _ => ?_
    split
    · exact byView_setBits _ _
    · exact .pure _
  | file =>
    rw [← Option.some.inj hkind]
    exact (byView_entryOf operation).bind fun entry => byView_copyFile _ _
  | symlink =>
    rw [← Option.some.inj hkind]
    exact (byView_entryOf operation).bind fun entry =>
      (Act.ByView.ask fun _ _ h => h.readLink?_eq).bind fun held =>
        .change fun _ _ h => h.makeLink held
  | fifo =>
    rw [← Option.some.inj hkind]
    exact (byView_entryOf operation).bind fun entry =>
      (Act.ByView.change fun _ _ h => h.makeFifo).bind fun _ => byView_setBits _ _
  | special => simp [OperationKind.ofEntryKind?] at hkind

end AssetPublish
