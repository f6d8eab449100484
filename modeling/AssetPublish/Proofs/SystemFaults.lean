import AssetPublish.Proofs.FileSystem.Refusing
import AssetPublish.Proofs.Run.Planned

/-!
# Faults that the system reports

A call of the system can fail because its path holds the zero character, or because the system
refuses it.  Paths of objects never hold that character, so the steps of a plan fail only for
reasons that the system reports, whatever has become of the tree by then.

The distinction matters because a fault that the system reports is turned into an error that names
the step, while any other leaves the program as it is.  A call has two ways to fail, so for each of
them the statement is the same, with one hypothesis on its path; it is carried through sequences,
conditions and loops by the lemmas on `BySystem` and `FailsBySystem`, and a procedure is proved by
naming its calls.

## What is here

* `BySystem`, `FailsBySystem` — answers and procedures that fail only because the system says so.
* `bySystem_find?` to `bySystem_writeFile` — the calls, for paths without the zero character.
* `failsBySystem_removeTree`, `failsBySystem_makeWithParents`, `failsBySystem_copyFile` — the
  procedures made of them.
* `failsBySystem_rootStep`, `failsBySystem_recreation` — the steps of a plan.
* `handle_create_null` — a destination with the zero character is refused before anything is done.
-/

set_option autoImplicit false

namespace AssetPublish

open FileSystem

variable {α β : Type} {fs : FileSystem} {caller : Caller} {ending : Ending} {text : String}

/-- An answer that, if it is a fault, is one that the system reports.  It composes: an answer that
is made from such answers is one again. -/
def BySystem (answer : Except Fault α) : Prop :=
  ∀ fault, answer = .error fault → ∃ error, fault = .system error

theorem bySystem_ok (value : α) : BySystem (.ok value) := by
  intro fault h
  simp at h

theorem bySystem_refused (error : SystemError) :
    BySystem (.error (.system error) : Except Fault α) := by
  intro fault h
  rw [Except.error.injEq] at h
  exact ⟨error, h.symm⟩

/-- An answer that is made from another one, and fails where that fails. -/
theorem BySystem.bind {answer : Except Fault α} {next : α → Except Fault β} (h : BySystem answer)
    (hnext : ∀ value, answer = .ok value → BySystem (next value)) : BySystem (answer >>= next) := by
  cases answer with
  | error fault =>
    obtain ⟨error, rfl⟩ := h fault rfl
    exact bySystem_refused error
  | ok value => exact hnext value rfl

theorem BySystem.map {answer : Except Fault α} (h : BySystem answer) (f : α → β) :
    BySystem (answer.map f) := by
  cases answer with
  | error fault =>
    obtain ⟨error, rfl⟩ := h fault rfl
    exact bySystem_refused error
  | ok value => exact bySystem_ok (f value)

theorem bySystem_mapError {ε : Type} (answer : Except ε α) (report : ε → SystemError) :
    BySystem (answer.mapError fun reason => Fault.system (report reason)) := by
  cases answer with
  | error reason => exact bySystem_refused _
  | ok value => exact bySystem_ok value

/-- A refusal in between is one that the system reports. -/
theorem BySystem.unless {c : Prop} [Decidable c] {error : SystemError} {rest : Except Fault α}
    (h : BySystem rest) : BySystem (if c then .error (.system error) else rest) := by
  split
  · exact bySystem_refused error
  · exact h

/-! ## Procedures

An act is a sequence of questions and changes.  For each way in which acts are put together there is
one lemma here, and none of the later proofs looks at how a fault travels through an act. -/

/-- A procedure that fails only for reasons that the system reports.  It speaks of every file
system, so a procedure that changes the tree half-way needs nothing about what it has left. -/
def FailsBySystem (act : Act α) : Prop := ∀ fs, BySystem (outcome act fs).1

theorem FailsBySystem.pure (value : α) : FailsBySystem (pure value : Act α) :=
  fun _ => bySystem_ok value

theorem FailsBySystem.refused (error : SystemError) :
    FailsBySystem (throw (.system error) : Act α) :=
  fun _ => bySystem_refused error

/-- **One procedure after another.**  Of the second it may be supposed that the first has ended with
its answer; what it then finds may be any tree. -/
theorem FailsBySystem.bind {act : Act α} {next : α → Act β} (h : FailsBySystem act)
    (hnext : ∀ fs value left, outcome act fs = (.ok value, left) → FailsBySystem (next value)) :
    FailsBySystem (act >>= next) := by
  intro fs
  have hact := h fs
  rw [outcome_bind]
  rcases hrun : outcome act fs with ⟨answer, left⟩
  rw [hrun] at hact
  cases answer with
  | error fault =>
    obtain ⟨error, rfl⟩ := hact fault rfl
    exact bySystem_refused error
  | ok value => exact hnext fs value left hrun left

/-- Looking at the tree cannot fail, but what follows may depend on what is seen. -/
theorem FailsBySystem.get_bind {next : FileSystem → Act β} (h : ∀ fs, FailsBySystem (next fs)) :
    FailsBySystem (get >>= next) :=
  fun fs => h fs fs

theorem FailsBySystem.ask {question : FileSystem → Except Fault α}
    (h : ∀ fs, BySystem (question fs)) : FailsBySystem (Act.ask question) := by
  intro fs
  rw [outcome_ask]
  exact h fs

/-- A change either is made, or is refused by the answer that says so. -/
theorem FailsBySystem.change {step : FileSystem → Except Fault FileSystem}
    (h : ∀ fs, BySystem (step fs)) : FailsBySystem (Act.change step) := by
  intro fs
  have hstep := h fs
  rw [outcome_change]
  cases hrun : step fs with
  | ok left => exact bySystem_ok ()
  | error fault =>
    rw [hrun] at hstep
    obtain ⟨error, rfl⟩ := hstep fault rfl
    exact bySystem_refused error

/-- By induction on the items.  What one item does to the tree does not matter for the next. -/
theorem FailsBySystem.forM {items : List β} {body : β → Act PUnit}
    (h : ∀ item, FailsBySystem (body item)) : FailsBySystem (items.forM body) := by
  induction items with
  | nil => exact FailsBySystem.pure _
  | cons item rest ih => exact (h item).bind fun _ _ _ _ => ih

/-! ## Questions

Each question looks a path up first, and then asks something of what has been found.  Only the
look-up can fail for the zero character, and the rest refuses by itself. -/

theorem bySystem_reach? (hnull : '\x00' ∉ text.toList) (fs : FileSystem) :
    BySystem (fs.reach? caller ending text) := by
  rw [reach?, if_neg hnull]
  exact bySystem_mapError _ _

/-- A spelling may lead to a place where nothing is, and this is refused by the system as well. -/
theorem bySystem_find? (hnull : '\x00' ∉ text.toList) (fs : FileSystem) :
    BySystem (fs.find? caller ending text) := by
  refine (bySystem_reach? hnull fs).bind ?_
  intro reached _
  cases reached with
  | free dir name => exact bySystem_refused _
  | object location =>
    simp only
    cases fs.get? location with
    | none => exact bySystem_refused _
    | some object => exact bySystem_ok _

/-- A question with yes or no for an answer.  Some refusals count as a no, and all others are passed
on as they are. -/
theorem bySystem_answer? {test : α → Bool} {asked : Except Fault α} (h : BySystem asked) :
    BySystem (answer? test asked) := by
  cases asked with
  | ok found => exact bySystem_ok _
  | error fault =>
    obtain ⟨error, rfl⟩ := h fault rfl
    cases error with
    | refused refusal subject second =>
      rw [answer?]
      split
      · exact bySystem_ok _
      · exact bySystem_refused _
    | _ => exact bySystem_refused _

theorem bySystem_readLink? (hnull : '\x00' ∉ text.toList) (fs : FileSystem) :
    BySystem (fs.readLink? caller text) := by
  refine ((bySystem_find? hnull fs).map Prod.snd).bind ?_
  intro object _
  cases object with
  | link target => exact bySystem_ok _
  | _ => exact bySystem_refused _

theorem bySystem_listNames? (hnull : '\x00' ∉ text.toList) (fs : FileSystem) :
    BySystem (fs.listNames? caller text) := by
  refine (bySystem_find? hnull fs).bind ?_
  rintro ⟨location, object⟩ -
  cases object with
  | directory mode =>
    simp only
    split
    · exact bySystem_ok _
    · exact bySystem_refused _
  | _ => exact bySystem_refused _

theorem bySystem_readFile? (hnull : '\x00' ∉ text.toList) (fs : FileSystem) :
    BySystem (fs.readFile? caller text) := by
  refine (bySystem_find? hnull fs).bind ?_
  rintro ⟨location, object⟩ -
  simp only
  split
  · exact bySystem_refused _
  · cases object with
    | file content mode modified => exact bySystem_ok _
    | _ => exact bySystem_refused _

/-! ## Changes

Changes test their path for the zero character before they do anything, in the same way as look-ups
do. -/

theorem bySystem_makeDirectory (hnull : '\x00' ∉ text.toList) (fs : FileSystem) :
    BySystem (makeDirectory caller text fs) := by
  rw [makeDirectory, if_neg hnull]
  cases hfree : fs.freePlace caller true text with
  | ok place => exact bySystem_ok _
  | error refusal => exact bySystem_refused _

/-- A link has two texts, its own path and the one that it is to hold, and both are tested for the
character. -/
theorem bySystem_makeLink {target : String} (htarget : '\x00' ∉ target.toList)
    (hnull : '\x00' ∉ text.toList) (fs : FileSystem) :
    BySystem (makeLink caller target text fs) := by
  rw [makeLink, if_neg (by simp [htarget, hnull])]
  cases hspell : checkSpelling target with
  | error refusal => exact bySystem_refused _
  | ok =>
    cases hfree : fs.freePlace caller false text with
    | ok place => exact bySystem_ok _
    | error refusal => exact bySystem_refused _

theorem bySystem_makeFifo (hnull : '\x00' ∉ text.toList) (fs : FileSystem) :
    BySystem (makeFifo caller text fs) := by
  rw [makeFifo, if_neg hnull]
  cases hfree : fs.freePlace caller false text with
  | ok place => exact bySystem_ok _
  | error refusal => exact bySystem_refused _

theorem bySystem_changeMode (hnull : '\x00' ∉ text.toList) (mode : Nat) (fs : FileSystem) :
    BySystem (changeMode caller text mode fs) :=
  (bySystem_find? hnull fs).bind fun _ _ => bySystem_ok _

theorem bySystem_changeModified (hnull : '\x00' ∉ text.toList) (modified : Int) (fs : FileSystem) :
    BySystem (changeModified caller text modified fs) :=
  (bySystem_find? hnull fs).bind fun _ _ => bySystem_ok _

theorem bySystem_unlink (hnull : '\x00' ∉ text.toList) (fs : FileSystem) :
    BySystem (unlink caller text fs) := by
  rw [unlink, if_neg hnull]
  exact bySystem_mapError _ _

theorem bySystem_removeDirectory (hnull : '\x00' ∉ text.toList) (fs : FileSystem) :
    BySystem (removeDirectory caller text fs) := by
  rw [removeDirectory, if_neg hnull]
  exact bySystem_mapError _ _

/-- What happens depends on what is at the place; each kind of object has its own refusal or none.
-/
theorem bySystem_writeFile (hnull : '\x00' ∉ text.toList) (content : Content) (fs : FileSystem) :
    BySystem (writeFile caller text content fs) := by
  refine (bySystem_reach? hnull fs).bind ?_
  intro reached _
  cases reached with
  | free dir name =>
    simp only
    split
    · exact bySystem_ok _
    · exact bySystem_refused _
  | object location =>
    simp only
    cases fs.get? location with
    | none => exact bySystem_refused _
    | some object =>
      cases object with
      | file content mode modified =>
        simp only
        split
        · exact bySystem_ok _
        · exact bySystem_refused _
      | directory mode => exact bySystem_refused _
      | _ =>
        simp only
        split
        · exact bySystem_refused _
        · exact bySystem_refused _

/-! ## Procedures made of calls

The proofs follow the text of the procedures, with one lemma for each call and one for each way of
going on. -/

/-- Removing what is below a directory looks objects up by their locations, so that no path is
involved that could hold the character. -/
theorem failsBySystem_removeBelow (caller : Caller) (fuel : Nat) (dir : Location) :
    FailsBySystem (removeBelow caller fuel dir) := by
  induction fuel generalizing dir with
  | zero => exact FailsBySystem.pure _
  | succ fuel ih =>
    refine FailsBySystem.get_bind fun _ => FailsBySystem.forM fun name => ?_
    refine FailsBySystem.get_bind fun fs => ?_
    split
    · have hremove : FailsBySystem (do
          removeBelow caller fuel (name :: dir)
          Act.change fun fs => (fs.removeDirectoryAt caller (name :: dir)).mapError
            fun refusal => .refused refusal name) :=
        (ih (name :: dir)).bind fun _ _ _ _ => FailsBySystem.change fun _ => bySystem_mapError _ _
      split
      · exact (FailsBySystem.refused _).bind fun _ _ _ _ => hremove
      · exact hremove
    · exact FailsBySystem.change fun _ => bySystem_mapError _ _

/-- Here a path is looked up, and after that all goes by locations until the last call. -/
theorem failsBySystem_removeTree (hnull : '\x00' ∉ text.toList) :
    FailsBySystem (removeTree caller text) := by
  refine (FailsBySystem.ask (bySystem_find? hnull)).bind ?_
  rintro _ ⟨location, object⟩ _ -
  have hremove : FailsBySystem (do
      removeBelow caller ((← get).objects.length + 1) location
      Act.change (removeDirectory caller text)) :=
    FailsBySystem.get_bind fun _ => (failsBySystem_removeBelow caller _ location).bind
      fun _ _ _ _ => FailsBySystem.change (bySystem_removeDirectory hnull)
  have hdirectory : FailsBySystem (do
      if !object.isDirectory then throw (.refused .notDirectory text)
      removeBelow caller ((← get).objects.length + 1) location
      Act.change (removeDirectory caller text)) := by
    split
    · exact (FailsBySystem.refused _).bind fun _ _ _ _ => hremove
    · exact hremove
  simp only
  split
  · exact (FailsBySystem.refused _).bind fun _ _ _ _ => hdirectory
  · exact hdirectory

/-- The destination is asked two questions before anything is removed. -/
theorem failsBySystem_removeDestination {target : Path} (hnull : '\x00' ∉ target.text.toList) :
    FailsBySystem (Operation.removeDestination caller target) := by
  refine (FailsBySystem.ask fun fs => bySystem_answer? ((bySystem_find? hnull fs).map _)).bind ?_
  rintro _ isLink _ -
  split
  · exact FailsBySystem.change (bySystem_unlink hnull)
  · refine (FailsBySystem.ask fun fs => bySystem_answer? (bySystem_find? hnull fs)).bind ?_
    rintro _ isDirectory _ -
    split
    · exact failsBySystem_removeTree hnull
    · exact FailsBySystem.change (bySystem_unlink hnull)

/-- A directory that is there already may be accepted, so that the refusal of the first call need
not be the end. -/
theorem failsBySystem_makeOne {path : Path} (hnull : '\x00' ∉ path.text.toList) (existing : Bool) :
    FailsBySystem (makeOne caller path existing) := by
  refine FailsBySystem.get_bind fun fs => ?_
  have hmake : BySystem (makeDirectory caller path.text fs) := bySystem_makeDirectory hnull fs
  cases hstep : makeDirectory caller path.text fs with
  | ok left => exact fun _ => bySystem_ok ()
  | error fault =>
    rw [hstep] at hmake
    obtain ⟨error, rfl⟩ := hmake fault rfl
    have hasked : FailsBySystem (do
        if !(← Act.ask fun fs => fs.isDirectory? caller path.text) then
          throw (Fault.system error)) := by
      refine (FailsBySystem.ask fun fs => bySystem_answer? (bySystem_find? hnull fs)).bind ?_
      rintro _ isDirectory _ -
      split
      · exact FailsBySystem.refused _
      · exact FailsBySystem.pure _
    have hexisting : FailsBySystem (do
        if !existing then throw (Fault.system error)
        if !(← Act.ask fun fs => fs.isDirectory? caller path.text) then
          throw (Fault.system error)) := by
      split
      · exact (FailsBySystem.refused _).bind fun _ _ _ _ => hasked
      · exact hasked
    simp only
    split
    · simp at *
    · exact FailsBySystem.refused _
    · rename_i other heq
      simp only [Except.error.injEq, Fault.system.injEq] at heq
      subst heq
      exact hexisting
    · rename_i hother heq
      simp only [Except.error.injEq] at heq
      exact absurd heq.symm (hother _)

theorem null_not_mem_parent {path : Path} (hnull : '\x00' ∉ path.text.toList) :
    '\x00' ∉ path.parent.text.toList := by
  rw [Path.null_mem_text_iff] at hnull ⊢
  rintro ⟨part, hpart, hmem⟩
  exact hnull ⟨part, (List.dropLast_sublist _).subset hpart, hmem⟩

/-- By induction on the number of directories above that may have to be made; their paths are parts
of the first one. -/
theorem failsBySystem_makeWithParents {path : Path} (hnull : '\x00' ∉ path.text.toList)
    (depth : Nat) (existing : Bool) :
    FailsBySystem (makeWithParents caller depth path existing) := by
  induction depth generalizing path existing with
  | zero => exact failsBySystem_makeOne hnull existing
  | succ depth ih =>
    refine FailsBySystem.get_bind fun fs => ?_
    split
    · exact (ih (null_not_mem_parent hnull) true).bind
        fun _ _ _ _ => failsBySystem_makeOne hnull existing
    · exact failsBySystem_makeOne hnull existing

/-- Permission bits of objects are set by the system. -/
theorem failsBySystem_setBits {path : Path} (hnull : '\x00' ∉ path.text.toList) {mode : Nat}
    (hmode : mode < 0o10000) : FailsBySystem (Operation.setBits caller path mode) := by
  rw [Operation.setBits]
  rw [if_neg (by omega)]
  exact FailsBySystem.change (bySystem_changeMode hnull _)

/-- The target is the path itself or, if that is a directory, the path with the last name of the
source behind it. -/
theorem null_not_mem_copyTarget (fs : FileSystem) (caller : Caller) {source target : Path}
    (hsource : '\x00' ∉ source.text.toList)
    (htarget : '\x00' ∉ target.text.toList) :
    '\x00' ∉ (fs.copyTarget caller source target).text.toList := by
  have hname : '\x00' ∉ source.lastName.toList := by
    rw [Path.lastName]
    split
    · rename_i name hlast
      rw [Path.null_mem_text_iff, not_exists] at hsource
      exact fun hmem => hsource name ⟨List.mem_of_getLast? hlast, hmem⟩
    · split <;> decide
  rw [copyTarget]
  split
  · simp only [String.toList_append, List.mem_append, not_or]
    refine ⟨⟨htarget, ?_⟩, hname⟩
    split <;> decide
  · exact htarget

/-- Whether a pipe has been found. -/
def isPipeFound : Except Fault (Location × Object) → Bool
  | .ok (_, .fifo _) => true
  | _ => false

/-- Whether source and target are one file is asked before either is opened. -/
theorem bySystem_checkCopy {source : Path} {target : CopyTarget}
    (hsource : '\x00' ∉ source.text.toList) (htarget : '\x00' ∉ target.text.toList)
    (fs : FileSystem) : BySystem (fs.checkCopy caller source target) := by
  have hfrom : BySystem (fs.follow? caller source.text) := bySystem_find? hsource fs
  have hto : BySystem (fs.follow? caller target.text) := bySystem_find? htarget fs
  have hpipes : ∀ from? to? : Except Fault (Location × Object), BySystem (do
      if isPipeFound from? then throw (.system (.specialFile source.text))
      if isPipeFound to? then throw (.system (.specialFile target.text))) :=
    fun _ _ => BySystem.unless (BySystem.unless (bySystem_ok ()))
  rw [checkCopy]
  cases hsourceFound : fs.follow? caller source.text with
  | error fault =>
    obtain ⟨first, rfl⟩ := hfrom fault hsourceFound
    cases htargetFound : fs.follow? caller target.text with
    | error fault =>
      obtain ⟨second, rfl⟩ := hto fault htargetFound
      exact hpipes (.error (.system first)) (.error (.system second))
    | ok found => exact hpipes (.error (.system first)) (.ok found)
  | ok found =>
    cases htargetFound : fs.follow? caller target.text with
    | error fault =>
      obtain ⟨second, rfl⟩ := hto fault htargetFound
      exact hpipes (.ok found) (.error (.system second))
    | ok other =>
      by_cases hsame : found.1 = other.1
      · simp only [hsame, if_true]
        exact bySystem_refused _
      · simp only [hsame, if_false]
        exact hpipes (.ok found) (.ok other)

theorem failsBySystem_writeCopy (hnull : '\x00' ∉ text.toList) (content : Content) :
    FailsBySystem (writeCopy caller text content) := by
  refine FailsBySystem.get_bind fun fs => ?_
  have hwrite : BySystem (writeFile caller text content fs) := bySystem_writeFile hnull content fs
  split
  · exact fun _ => bySystem_ok ()
  · refine FailsBySystem.get_bind fun fs => ?_
    split
    · exact FailsBySystem.refused _
    · exact FailsBySystem.refused _
  · rename_i fault _ heq
    obtain ⟨error, rfl⟩ := hwrite fault heq
    exact FailsBySystem.refused _

/-- A link that is read holds no zero character. -/
theorem null_not_mem_of_readLink? {path : Path} {held : String}
    (h : fs.readLink? caller path.text = .ok held) : '\x00' ∉ held.toList := by
  obtain ⟨location, hfind⟩ := readLink?_eq_ok_iff.1 h
  exact null_not_mem_of_get?_link (find?_text_eq_ok_iff.1 hfind).2.2

theorem failsBySystem_copyLink {source : Path} (hsource : '\x00' ∉ source.text.toList)
    (hnull : '\x00' ∉ text.toList) :
    FailsBySystem (do
      let held ← Act.ask fun fs => fs.readLink? caller source.text
      Act.change (makeLink caller held text)) := by
  refine (FailsBySystem.ask (bySystem_readLink? hsource)).bind ?_
  intro fs held left hheld
  rw [outcome_ask, Prod.mk.injEq] at hheld
  exact FailsBySystem.change (bySystem_makeLink (null_not_mem_of_readLink? hheld.1) hnull)

/-- A link in the place of the file is made anew, and anything else is written. -/
theorem failsBySystem_copyFile {source target : Path} (hsource : '\x00' ∉ source.text.toList)
    (htarget : '\x00' ∉ target.text.toList) :
    FailsBySystem (copyFile caller source target) := by
  refine FailsBySystem.get_bind fun fs => ?_
  have hplace := null_not_mem_copyTarget fs caller hsource htarget
  refine (FailsBySystem.ask (bySystem_checkCopy hsource hplace)).bind fun _ _ _ _ => ?_
  refine FailsBySystem.get_bind fun now => ?_
  split
  · exact failsBySystem_copyLink hsource hplace
  · refine (FailsBySystem.ask (bySystem_readFile? hsource)).bind ?_
    rintro _ ⟨content, mode, modified⟩ _ -
    exact (failsBySystem_writeCopy hplace content).bind fun _ _ _ _ =>
      (FailsBySystem.change (bySystem_changeModified hplace modified)).bind fun _ _ _ _ =>
        FailsBySystem.change (bySystem_changeMode hplace mode)

/-! ## The steps of a plan

The path of a step is that of a root with names behind it.  The names come from the
tree, the source has passed a look-up, and of the destination it is supposed that it does not hold
the zero character. -/

variable {source dest : Path} {names : List String} {operation : Operation} {visit : Visit}

theorem null_not_mem_append {path : Path} (hnull : '\x00' ∉ path.text.toList)
    (hnames : ∀ name ∈ names, IsFileName name) : '\x00' ∉ (path.append names).text.toList := by
  rw [Path.null_mem_text_iff] at hnull ⊢
  rw [parts_append path fun name hname => (hnames name hname).isName]
  rintro ⟨part, hpart, hmem⟩
  rcases List.mem_append.1 hpart with hpart | hpart
  · exact hnull ⟨part, hpart, hmem⟩
  · exact (hnames part hpart).2.2.1 hmem

/-- The steps on the destination itself have its own path. -/
theorem failsBySystem_rootStep {occupied : Bool} (hnull : '\x00' ∉ dest.text.toList)
    (hmem : operation ∈ rootSteps occupied dest) : FailsBySystem (operation.handle caller) := by
  rw [rootSteps, List.mem_append] at hmem
  rcases hmem with hmem | hmem
  · split at hmem
    · obtain rfl := List.mem_singleton.1 hmem
      exact failsBySystem_removeDestination hnull
    · simp at hmem
  · obtain rfl := List.mem_singleton.1 hmem
    exact failsBySystem_makeWithParents hnull _ _

/-- **Recreating an object fails only for reasons that the system reports.** -/
theorem failsBySystem_recreation (hoperation : Recreation source dest visit operation)
    (hsource : '\x00' ∉ source.text.toList) (hdest : '\x00' ∉ dest.text.toList)
    (hnames : ∀ name ∈ visit.1, IsFileName name) (hproper : visit.2.Proper) :
    FailsBySystem (operation.handle caller) := by
  obtain ⟨names, object⟩ := visit
  obtain ⟨kind, target, relativePath, entry⟩ := operation
  obtain ⟨htarget, hentry, hkind⟩ := hoperation
  simp only at htarget hentry hkind
  subst htarget hentry
  have hfrom := null_not_mem_append hsource hnames
  have hto := null_not_mem_append hdest hnames
  cases object with
  | directory mode =>
    obtain rfl : OperationKind.createDirectory = kind := Option.some.inj hkind
    refine (FailsBySystem.change (bySystem_makeDirectory hto)).bind fun _ _ _ _ => ?_
    have hmode : mode < 0o10000 := hproper.1
    have hbits : (Entry.ofObject (source.append names) (Text.joined '/' names)
        (.directory mode)).mode = (mode : Int) := rfl
    simp only [hbits, withOwnerBits_natCast hmode]
    exact failsBySystem_setBits hto (or_ownerBits_lt hmode)
  | file content mode modified =>
    obtain rfl : OperationKind.copyFile = kind := Option.some.inj hkind
    rw [Operation.handle, entry?_bind rfl]
    exact failsBySystem_copyFile hfrom hto
  | link target =>
    obtain rfl : OperationKind.copySymlink = kind := Option.some.inj hkind
    rw [Operation.handle, entry?_bind rfl]
    exact failsBySystem_copyLink hfrom hto
  | fifo mode =>
    obtain rfl : OperationKind.copyFifo = kind := Option.some.inj hkind
    rw [Operation.handle, entry?_bind rfl]
    exact (FailsBySystem.change (bySystem_makeFifo hto)).bind fun _ _ _ _ =>
      failsBySystem_setBits hto hproper.1
  | socket mode => simp [EntryKind.ofObject, OperationKind.ofEntryKind?] at hkind

/-- Each step for some objects recreates one of them. -/
theorem exists_recreation {visits : List Visit} {steps : List Operation}
    (h : List.Forall₂ (Recreation source dest) visits steps) (hmem : operation ∈ steps) :
    ∃ visit ∈ visits, Recreation source dest visit operation := by
  induction h with
  | nil => simp at hmem
  | cons hfirst _ ih =>
    rcases List.mem_cons.1 hmem with rfl | hmem
    · exact ⟨_, List.mem_cons_self, hfirst⟩
    · obtain ⟨visit, hvisit, hoperation⟩ := ih hmem
      exact ⟨visit, List.mem_cons_of_mem _ hvisit, hoperation⟩

theorem proper_of_mem_copied {rule : Exclusion} {base : Location}
    (h : visit ∈ fs.copied rule base) :
    (∀ name ∈ visit.1, IsFileName name) ∧ visit.2.Proper := by
  obtain ⟨names, object⟩ := visit
  obtain ⟨hne, hget, -, -⟩ := mem_copied_iff.1 h
  exact ⟨fun name hname => isFileName_of_get?_append hget name (List.mem_reverse.2 hname),
    proper_of_get? hget (by simp [hne])⟩

theorem null_not_mem_of_follow? {path : Path} {found : Location × Object}
    (h : fs.follow? caller path.text = .ok found) : '\x00' ∉ path.text.toList :=
  have hfind : fs.find? caller .followed path.text = .ok (found.1, found.2) := h
  (find?_text_eq_ok_iff.1 hfind).1.1

/-- **The steps of a plan fail only for reasons that the system reports**, in whatever state. -/
theorem failsBySystem_of_plan {settings : Settings} {steps : List Operation} {base : Location}
    {mode : Nat} (hsource : fs.follow? caller settings.source.text = .ok (base, .directory mode))
    (hplan : (settings.plan fs caller).result = .ok steps)
    (hdest : '\x00' ∉ settings.destination.text.toList) (hmem : operation ∈ steps) :
    FailsBySystem (operation.handle caller) := by
  obtain ⟨entrySteps, rfl, hsteps⟩ := plan_cases hsource hplan
  rcases List.mem_append.1 hmem with hroot | hentry
  · exact failsBySystem_rootStep hdest hroot
  · obtain ⟨visit, hvisit, hoperation⟩ := exists_recreation hsteps hentry
    obtain ⟨hnames, hproper⟩ := proper_of_mem_copied hvisit
    exact failsBySystem_recreation hoperation (null_not_mem_of_follow? hsource) hdest hnames hproper

/-! ## Destinations with the zero character

Such a destination has passed no look-up, since one with the zero character counts as a place where
nothing is. -/

/-- Nothing is found at a path with the zero character. -/
theorem occupied_null (hnull : '\x00' ∈ dest.text.toList) : fs.occupied caller dest = false := by
  have hreach : ∀ ending, fs.reach? caller ending dest.text = .error .nullByte := by
    intro ending
    rw [reach?, if_pos hnull]
  have hfollow : fs.follow? caller dest.text = .error .nullByte := by
    rw [follow?, find?, hreach]
    rfl
  have hinspect : fs.inspect? caller dest.text = .error .nullByte := by
    rw [inspect?, find?, hreach]
    rfl
  simp [occupied, exists?, isLink?, hfollow, hinspect, answer?]

/-- A destination with the zero character is refused before anything is done. -/
theorem handle_create_null (hnull : '\x00' ∈ dest.text.toList) (fs : FileSystem) :
    outcome (({ kind := .createDestination, target := dest } : Operation).handle caller) fs
      = (.error .nullByte, fs) := by
  have hmake : makeDirectory caller dest.text fs = .error .nullByte := by
    rw [makeDirectory, if_pos hnull]
    rfl
  have hone : ∀ existing, outcome (makeOne caller dest existing) fs = (.error .nullByte, fs) := by
    intro existing
    rw [makeOne, outcome_bind_of_ok (outcome_get fs), hmake]
    rfl
  rw [Operation.handle, makeNewDirectory]
  cases dest.parts.length with
  | zero => exact hone false
  | succ depth =>
    rw [makeWithParents, outcome_bind_of_ok (outcome_get fs), hmake]
    exact hone false

end AssetPublish
