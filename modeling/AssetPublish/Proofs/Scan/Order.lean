import AssetPublish.Proofs.Scan.Exactness
import AssetPublish.Proofs.SystemFaults
import Mathlib.Data.List.Induction
import Mathlib.Data.List.Nodup

/-!
# The order of a scan that is disturbed

Between two events of a scan anything may become of the tree: whoever consumes the events may add,
remove and exchange objects, also in the directories that the scan is in.  What the names of a
directory are is settled when the scan enters it, and they are gone through in order, so that the
order of the events does not depend on what happens meanwhile.

So the statements of this module suppose nothing about the tree.  They are proved by an abstraction:
from the state of a scan everything is forgotten but the names, and what is left of one event is a
move among names (`Stage.Moves`), which may skip names whose objects have gone but never goes back.
The invariant of these moves is `Nested`; from it follows that what comes after an event is greater
than it in the order of paths (`Moves.lt`), and by induction that all events are in order.  That the
scan really makes such moves, in whatever tree each event is looked for, is a statement of its own.

## What is here

* `Scan.through` — a scan each of whose events is looked for in a file system of its own.
* `Orderly` — what holds of the order of events.
* `Stage.Moves`, `Stage.Runs` — one event, and any number of them, as moves among names.
* `Stage.Runs.orderly` — the events of a run are in order.
* `orderly_through`, `orderly_watch`, `orderly_all` — so are those of scans, disturbed or not.
* `Stage.isNamed_of_through`, `isNamed_of_scan` — a scan ends early only for a reason that it names.
-/

set_option autoImplicit false

namespace AssetPublish

open FileSystem

/-! ## What is to be shown -/

/-- The first events of a scan that is disturbed: each is looked for in the next of these file
systems.  Every disturbance is covered, since between two events the file system may become any
other one. -/
def Scan.through (caller : Caller) (rule : ScanRule) : List FileSystem → Scan → Scan.Outcome
  | [], _ => ⟨[], none⟩
  | fs :: later, scan =>
    match scan.next fs caller rule with
    | .finished => ⟨[], none⟩
    | .failed fault => ⟨[], some fault⟩
    | .event event rest => (through caller rule later rest).cons event

namespace ScanEvent

/-- The components of the path that an event tells of. -/
def names (event : ScanEvent) : List String := segments event.relativePath

/-- Whether an event tells of a directory as an entry, so that the scan goes on below it. -/
def opens : ScanEvent → Bool
  | entry found => found.isDirectory
  | _ => false

end ScanEvent

/-- **What holds of the order of events.**  Components are compared by code points, and a path
comes before those that continue it. -/
structure Orderly (events : List ScanEvent) : Prop where
  /-- A path consists of names that objects can have. -/
  named : ∀ event ∈ events, event.names ≠ [] ∧ ∀ name ∈ event.names, IsFileName name
  /-- The paths increase. -/
  increasing : events.Pairwise fun first later => first.names < later.names
  /-- The directory that a path lies in has been told before, unless it is the root. -/
  parent : ∀ before event after dir name, events = before ++ event :: after →
    event.names = dir ++ [name] → dir ≠ [] →
    ∃ above ∈ before, above.opens = true ∧ above.names = dir
  /-- Nothing is told below what is left out, skipped or no directory. -/
  pruned : ∀ above ∈ events, above.opens = false →
    ∀ event ∈ events, above.names <+: event.names → event = above

/-- A fault of a scan that says what could not be read. -/
def ScanFault.IsNamed : ScanFault → Prop
  | fault _ => False
  | _ => True

/-- A rule that has an answer for every path. -/
def Exclusion.Total (rule : Exclusion) : Prop :=
  ∀ relativePath, ∃ answer, rule.matches? relativePath = .ok answer

theorem Exclusion.IsPlain.total {rule : Exclusion} (h : rule.IsPlain) : rule.Total :=
  fun relativePath => Exclusion.exists_applies? (segments relativePath) rule h

/-- An entry has the path under which it was looked up. -/
theorem Entry.path_of_inspect? {fs : FileSystem} {caller : Caller} {root item : Path}
    {entry : Entry}
    (h : Entry.inspect? fs caller item root = .ok entry) : entry.path = item := by
  rw [Entry.inspect?] at h
  cases hfound : fs.inspect? caller item.text with
  | error fault => simp [hfound] at h
  | ok object =>
    cases hrelative : item.relativeTo? root with
    | none => simp [hfound, hrelative] at h
    | some relative =>
      simp only [hfound, hrelative, ok_bind, pure_eq_ok, Except.ok.injEq] at h
      rw [← h]
      rfl

namespace Scan

variable {fs : FileSystem} {caller : Caller} {scanRule : ScanRule} {root : Path} {scan : Scan}

/-! ## How an event is found

A scan looks at the innermost directory that has a name left, and tells what it finds there. -/

/-- An object is left out, skipped, or told as the entry that it is. -/
theorem judge_cases {entry : Entry} {event : ScanEvent} (h : judge scanRule entry = .ok event) :
    event = .excluded entry.relativePath entry.isDirectory ∨
      event = .skipped entry.relativePath ∨ event = .entry entry := by
  rw [judge] at h
  cases hanswer : scanRule entry.relativePath entry.isDirectory with
  | error fault => simp [hanswer] at h
  | ok answer =>
    simp only [hanswer, ok_bind, pure_eq_ok] at h
    split at h
    · exact Or.inl (Except.ok.inj h).symm
    · split at h
      · exact Or.inr (Or.inl (Except.ok.inj h).symm)
      · exact Or.inr (Or.inr (Except.ok.inj h).symm)

/-- An event tells of the first name that is still to come. -/
theorem visit_eq_event {frames : List (Path × List String)} {event : ScanEvent} {rest : Scan}
    (h : visit fs caller scanRule root frames = .event event rest) :
    ∃ dir name names outer entry, (dir, name :: names) :: outer <:+ frames ∧
      Entry.inspect? fs caller (dir.child name) root = .ok entry ∧
      judge scanRule entry = .ok event ∧ rest = ⟨root, opened event, (dir, names) :: outer⟩ := by
  induction frames with
  | nil => simp [visit] at h
  | cons frame frames ih =>
    obtain ⟨dir, listed⟩ := frame
    cases listed with
    | nil =>
      rw [visit] at h
      obtain ⟨dir', name, names, outer, entry, hsuffix, hrest⟩ := ih h
      exact ⟨dir', name, names, outer, entry, hsuffix.trans (List.suffix_cons _ _), hrest⟩
    | cons name names =>
      rw [visit] at h
      cases hinspect : Entry.inspect? fs caller (dir.child name) root with
      | error fault => cases fault <;> simp [hinspect] at h
      | ok entry =>
        cases hjudge : judge scanRule entry with
        | error fault => simp [hinspect, hjudge] at h
        | ok told =>
          simp only [hinspect, hjudge, ScanStep.event.injEq] at h
          obtain ⟨rfl, rfl⟩ := h
          exact ⟨dir, name, names, frames, entry, List.suffix_rfl, hinspect, hjudge, rfl⟩

/-- A scan ends early at the first name that is still to come. -/
theorem visit_eq_failed {frames : List (Path × List String)} {fault : ScanFault}
    (h : visit fs caller scanRule root frames = .failed fault) :
    ∃ dir name names outer, (dir, name :: names) :: outer <:+ frames ∧
      ((∃ error, Entry.inspect? fs caller (dir.child name) root = .error (.system error) ∧
          fault = .uninspectable (dir.child name) error) ∨
        (∃ cause, Entry.inspect? fs caller (dir.child name) root = .error cause ∧
          ∀ error, cause ≠ .system error) ∨
        ∃ entry cause, judge scanRule entry = .error cause) := by
  induction frames with
  | nil => simp [visit] at h
  | cons frame frames ih =>
    obtain ⟨dir, listed⟩ := frame
    cases listed with
    | nil =>
      rw [visit] at h
      obtain ⟨dir', name, names, outer, hsuffix, hrest⟩ := ih h
      exact ⟨dir', name, names, outer, hsuffix.trans (List.suffix_cons _ _), hrest⟩
    | cons name names =>
      refine ⟨dir, name, names, frames, List.suffix_rfl, ?_⟩
      rw [visit] at h
      cases hinspect : Entry.inspect? fs caller (dir.child name) root with
      | error cause =>
        cases cause with
        | system error =>
          simp only [hinspect, ScanStep.failed.injEq] at h
          exact Or.inl ⟨error, rfl, h.symm⟩
        | _ => exact Or.inr (Or.inl ⟨_, rfl, by simp⟩)
      | ok entry =>
        cases hjudge : judge scanRule entry with
        | error cause => exact Or.inr (Or.inr ⟨entry, cause, hjudge⟩)
        | ok told => simp [hinspect, hjudge] at h

/-- Where a scan looks for its next event: a directory that is to be listed is listed first.  The
names of a directory are sorted when they are listed and never looked up in the tree again. -/
inductive Listed (fs : FileSystem) (caller : Caller) : Scan → List (Path × List String) → Prop
  | resumed {base : Path} {frames : List (Path × List String)} :
      Listed fs caller ⟨base, none, frames⟩ frames
  | listed {base dir : Path} {frames : List (Path × List String)} {names : List String}
      (hlisted : fs.listNames? caller dir.text = .ok names) :
      Listed fs caller ⟨base, some dir, frames⟩ ((dir, Text.sorted names) :: frames)

/-- The next event is found among the names that are still to come, unless a directory cannot be
listed. -/
theorem next_cases (fs : FileSystem) (caller : Caller) (scanRule : ScanRule) (scan : Scan) :
    (∃ frames, Listed fs caller scan frames ∧
      scan.next fs caller scanRule = visit fs caller scanRule scan.base frames) ∨
    ∃ dir cause fault, scan.pending = some dir ∧ fs.listNames? caller dir.text = .error cause ∧
      scan.next fs caller scanRule = .failed fault ∧
      ∀ error, cause = .system error → fault = .unreadable dir error := by
  obtain ⟨base, pending, frames⟩ := scan
  cases pending with
  | none => exact Or.inl ⟨frames, .resumed, rfl⟩
  | some dir =>
    cases hlisted : fs.listNames? caller dir.text with
    | ok names => exact Or.inl ⟨_, .listed hlisted, by rw [next]; simp only [hlisted]⟩
    | error cause =>
      refine Or.inr ?_
      rw [next]
      cases cause with
      | system error =>
        simp only [hlisted]
        refine ⟨dir, _, _, rfl, hlisted, rfl, ?_⟩
        intro other hother
        obtain rfl := Fault.system.inj hother
        rfl
      | _ =>
        simp only [hlisted]
        exact ⟨dir, _, _, rfl, hlisted, rfl, by simp⟩

/-! ## Scans that are disturbed less

A scan of a tree that stays as it is, and one that is changed by whoever is told of its events, are
scans through many trees as well. -/

/-- A scan of a tree that stays as it is looks at the same tree each time. -/
theorem allFrom_eq_through (fs : FileSystem) (caller : Caller) (scanRule : ScanRule) (fuel : Nat)
    (scan : Scan) :
    allFrom fs caller scanRule fuel scan
      = through caller scanRule (List.replicate fuel fs) scan := by
  induction fuel generalizing scan with
  | zero => rfl
  | succ fuel ih =>
    rw [allFrom, List.replicate_succ, through]
    cases scan.next fs caller scanRule with
    | event event rest => simp only [ih]
    | _ => rfl

/-- With changes at some of its events, a scan is one through file systems that differ. -/
theorem exists_watchFrom_eq (caller : Caller) (scanRule : ScanRule) (seen : ScanEvent → Bool)
    (changes : List (Nat × Act Unit)) (fuel index : Nat) (scan : Scan) (fs : FileSystem) :
    ∃ states, (watchFrom caller scanRule seen changes fuel index scan fs).1.events
      = (through caller scanRule states scan).events := by
  fun_induction watchFrom caller scanRule seen changes fuel index scan fs with
  | case1 => exact ⟨[], rfl⟩
  | case2 => exact ⟨[], rfl⟩
  | case3 => exact ⟨[], rfl⟩
  | case5 _ _ fs _ _ _ hstep => exact ⟨[fs], by simp only [through, hstep]; rfl⟩
  | case4 _ _ fs _ _ _ hstep _ _ _ hrest ih
  | case6 _ _ fs _ _ _ hstep _ _ _ _ _ _ _ _ _ hrest ih
  | case7 _ _ fs _ _ _ hstep _ _ _ _ _ _ _ hrest ih =>
    obtain ⟨states, hstates⟩ := ih
    rw [hrest] at hstates
    refine ⟨fs :: states, ?_⟩
    simp only [through, hstep, Outcome.cons]
    exact congrArg _ hstates

end Scan

/-! ## Moves among names

What a stage knows is where it is and which names are still to come; no tree is mentioned from here
to the end of the next two sections. -/

namespace Stage

variable {fs : FileSystem} {caller : Caller} {scanRule : ScanRule} {root : Path}
  {stage stage' : Stage} {frames : List (List String × List String)} {event : ScanEvent}
  {events : List ScanEvent} {names dir : List String} {name : String}

/-- The directories that a scan is in, the innermost first, with the names that are still to come;
of one that is to be listed next these are not known. -/
def stack (stage : Stage) : List (List String × List String) :=
  (stage.pending.map fun dir => (dir, [])).toList ++ stage.frames

/-- The names that are gone through next, once a directory that is to be listed has been. -/
inductive Lists : Stage → List (List String × List String) → Prop
  | resumed {frames : List (List String × List String)} : Lists ⟨none, frames⟩ frames
  | listed {dir listed : List String} {frames : List (List String × List String)}
      (hsorted : listed.Pairwise (· < ·)) (hnames : ∀ name ∈ listed, IsFileName name) :
      Lists ⟨some dir, frames⟩ ((dir, listed) :: frames)

/-- One event, whatever the tree is when it is looked for.  The frames in front of the one in which
the event is found are those that have no name left; they are dropped. -/
inductive Moves : Stage → ScanEvent → Stage → Prop
  | tell {stage : Stage} {frames outer : List (List String × List String)} {dir names : List String}
      {name : String} {event : ScanEvent} (hlists : stage.Lists frames)
      (hsuffix : (dir, name :: names) :: outer <:+ frames) (htold : event.names = dir ++ [name]) :
      Moves stage event ⟨if event.opens then some (dir ++ [name]) else none, (dir, names) :: outer⟩

/-- Any number of events. -/
inductive Runs : Stage → List ScanEvent → Prop
  | stop {stage : Stage} : Runs stage []
  | move {stage stage' : Stage} {event : ScanEvent} {events : List ScanEvent}
      (hmoves : stage.Moves event stage') (hruns : stage'.Runs events) :
      Runs stage (event :: events)

/-- **The invariant of a scan.**  The names that are still to come increase, and each directory lies
below a name of the next outer one that comes before all that are still to come there.  An inner
directory is the one that was told of last in the next outer one, or lies below it, so its name is
smaller than all those that are still to come there. -/
structure Nested (frames : List (List String × List String)) : Prop where
  increasing : ∀ frame ∈ frames, frame.2.Pairwise (· < ·)
  names : ∀ frame ∈ frames, ∀ name ∈ frame.1 ++ frame.2, IsFileName name
  inside : frames.Pairwise fun inner outer =>
    ∃ name rest, inner.1 = outer.1 ++ name :: rest ∧ ∀ later ∈ outer.2, name < later

/-- A path that is still to come: it lies below a directory that is to be listed next, or is or lies
below one of the names.  It need not be the path of an object; the scan may find nothing there when
it comes to it. -/
def Awaits (stage : Stage) (names : List String) : Prop :=
  (∃ dir name rest, stage.pending = some dir ∧ names = dir ++ name :: rest) ∨
    ∃ frame ∈ stage.frames, ∃ name ∈ frame.2, frame.1 ++ [name] <+: names

theorem Nested.suffix {others : List (List String × List String)} (h : Nested frames)
    (hsuffix : others <:+ frames) : Nested others :=
  ⟨fun frame hframe => h.increasing frame (hsuffix.subset hframe),
    fun frame hframe => h.names frame (hsuffix.subset hframe), h.inside.sublist hsuffix.sublist⟩

/-- Before the first event the root is to be listed, and no names are known. -/
theorem nested_start : Nested (stack ⟨some [], []⟩) := by
  constructor
  · simp [stack]
  · simp [stack]
  · exact List.pairwise_singleton _ _

/-- Listing a directory keeps the invariant, since the names that are listed increase and are names
of objects. -/
theorem Lists.nested (h : stage.Lists frames) (hnested : Nested stage.stack) : Nested frames := by
  cases h with
  | resumed => exact hnested
  | @listed dir listed frames hsorted hnames =>
    obtain ⟨hincreasing, hfile, hinside⟩ := hnested
    refine ⟨?_, ?_, ?_⟩
    · rintro frame (_ | ⟨_, hframe⟩)
      · exact hsorted
      · exact hincreasing frame (List.mem_cons_of_mem _ hframe)
    · rintro frame (_ | ⟨_, hframe⟩) name hname
      · rcases List.mem_append.1 hname with hdir | hlisted
        · exact hfile (dir, []) List.mem_cons_self name (List.mem_append_left _ hdir)
        · exact hnames name hlisted
      · exact hfile frame (List.mem_cons_of_mem _ hframe) name hname
    · exact List.pairwise_cons.2 (List.pairwise_cons.1 hinside)

theorem Lists.map_fst (h : stage.Lists frames) :
    frames.map Prod.fst = stage.stack.map Prod.fst := by
  cases h with
  | resumed => rfl
  | listed hsorted hnames => rfl

/-- Whatever is among the names that have been listed was still to come. -/
theorem Lists.awaits (h : stage.Lists frames) {frame : List String × List String}
    (hframe : frame ∈ frames) (hname : name ∈ frame.2) (hbegins : frame.1 ++ [name] <+: names) :
    stage.Awaits names := by
  cases h with
  | resumed => exact Or.inr ⟨frame, hframe, name, hname, hbegins⟩
  | @listed dir listed frames hsorted hnames =>
    rcases List.mem_cons.1 hframe with rfl | hframe
    · obtain ⟨rest, rfl⟩ := hbegins
      exact Or.inl ⟨dir, name, rest, rfl, by simp⟩
    · exact Or.inr ⟨frame, hframe, name, hname, hbegins⟩

/-! ## One event

A move keeps the invariant, and whatever is still to come after it was to come before. -/

theorem Moves.awaits (h : stage.Moves event stage') : stage.Awaits event.names := by
  obtain ⟨hlists, hsuffix, htold⟩ := h
  exact hlists.awaits (hsuffix.subset List.mem_cons_self) List.mem_cons_self
    (htold ▸ List.prefix_rfl)

/-- The directory that the path of an event lies in is one of those that the scan is in. -/
theorem Moves.mem_stack (h : stage.Moves event stage') (hnames : event.names = dir ++ [name]) :
    dir ∈ stage.stack.map Prod.fst := by
  obtain ⟨hlists, hsuffix, htold⟩ := h
  obtain ⟨rfl, -⟩ := List.append_inj' (hnames.symm.trans htold) rfl
  rw [← hlists.map_fst]
  exact List.mem_map_of_mem (hsuffix.subset List.mem_cons_self)

/-- The scan enters a directory only after having told of it. -/
theorem Moves.stack_subset (h : stage.Moves event stage') (hdir : dir ∈ stage'.stack.map Prod.fst) :
    event.opens = true ∧ event.names = dir ∨ dir ∈ stage.stack.map Prod.fst := by
  obtain ⟨hlists, hsuffix, htold⟩ := h
  rw [← hlists.map_fst]
  have hmap := List.map_subset Prod.fst hsuffix.subset
  rw [stack] at hdir
  cases hopens : event.opens with
  | false => simp only [hopens] at hdir; exact Or.inr (hmap hdir)
  | true =>
    simp only [hopens] at hdir
    rcases List.mem_cons.1 hdir with rfl | hdir
    · exact Or.inl ⟨rfl, htold⟩
    · exact Or.inr (hmap hdir)

/-- The path of the next event consists of names that objects can have. -/
theorem Nested.next_names {outer : List (List String × List String)} (h : Nested frames)
    (hsuffix : (dir, name :: names) :: outer <:+ frames) :
    ∀ part ∈ dir ++ [name], IsFileName part := by
  intro part hpart
  refine h.names _ (hsuffix.subset List.mem_cons_self) part ?_
  rcases List.mem_append.1 hpart with hdir | hname
  · exact List.mem_append_left _ hdir
  · exact List.mem_append_right _ (List.mem_singleton.1 hname ▸ List.mem_cons_self)

/-- One name fewer is still to come. -/
theorem Nested.next {outer : List (List String × List String)}
    (h : Nested ((dir, name :: names) :: outer)) : Nested ((dir, names) :: outer) := by
  refine ⟨?_, ?_, List.pairwise_cons.2 (List.pairwise_cons.1 h.inside)⟩
  · rintro frame (_ | ⟨_, hframe⟩)
    · exact (List.pairwise_cons.1 (h.increasing _ List.mem_cons_self)).2
    · exact h.increasing frame (List.mem_cons_of_mem _ hframe)
  · rintro frame (_ | ⟨_, hframe⟩) other hother
    · refine h.names _ List.mem_cons_self other ?_
      rcases List.mem_append.1 hother with hdir | hnames
      · exact List.mem_append_left _ hdir
      · exact List.mem_append_right _ (List.mem_cons_of_mem _ hnames)
    · exact h.names frame (List.mem_cons_of_mem _ hframe) other hother

/-- Going into a directory puts a new frame in front, whose names are not known yet. -/
theorem Nested.enter {outer : List (List String × List String)}
    (h : Nested ((dir, name :: names) :: outer)) :
    Nested ((dir ++ [name], []) :: (dir, names) :: outer) := by
  obtain ⟨hincreasing, hfile, hinside⟩ := h.next
  refine ⟨?_, ?_, List.pairwise_cons.2 ⟨?_, hinside⟩⟩
  · rintro frame (_ | ⟨_, hframe⟩)
    · exact List.Pairwise.nil
    · exact hincreasing frame hframe
  · rintro frame (_ | ⟨_, hframe⟩) other hother
    · rw [List.append_nil] at hother
      exact h.next_names List.suffix_rfl other hother
    · exact hfile frame hframe other hother
  · rintro frame (_ | ⟨_, hframe⟩)
    · exact ⟨name, [], rfl, (List.pairwise_cons.1 (h.increasing _ List.mem_cons_self)).1⟩
    · obtain ⟨first, rest, hdir, hfirst⟩ := (List.pairwise_cons.1 hinside).1 frame hframe
      simp only at hdir
      exact ⟨first, rest ++ [name], by simp [hdir], hfirst⟩

theorem Moves.named (h : stage.Moves event stage') (hnested : Nested stage.stack) :
    event.names ≠ [] ∧ ∀ name ∈ event.names, IsFileName name := by
  obtain ⟨hlists, hsuffix, htold⟩ := h
  rw [htold]
  exact ⟨by simp, (hlists.nested hnested).next_names hsuffix⟩

theorem Moves.nested (h : stage.Moves event stage') (hnested : Nested stage.stack) :
    Nested stage'.stack := by
  obtain ⟨hlists, hsuffix, htold⟩ := h
  have hframes := (hlists.nested hnested).suffix hsuffix
  cases hopens : event.opens with
  | false => exact hframes.next
  | true => exact hframes.enter

/-- Paths are in order as the components are in which they part.  The order of paths is that of
lists of components, and not of their spellings: a slash counts less than any character of a name.
-/
theorem lt_of_branch {first later : String} (h : first < later) (dir rest others : List String) :
    dir ++ first :: rest < dir ++ later :: others :=
  List.append_left_lt (List.Lex.rel h)

/-- **What comes after an event continues its path or is greater**, and was to come before. -/
theorem Moves.lt (h : stage.Moves event stage') (hnested : Nested stage.stack)
    (hawaits : stage'.Awaits names) : event.names < names ∧ stage.Awaits names := by
  obtain @⟨frames, outer, dir, later, name, event, hlists, hsuffix, htold⟩ := h
  have hframes := (hlists.nested hnested).suffix hsuffix
  have hhead := hsuffix.subset List.mem_cons_self
  rw [htold]
  rcases hawaits with ⟨entered, first, rest, hentered, rfl⟩ |
    ⟨frame, hframe, other, hother, hbegins⟩
  · obtain rfl : dir ++ [name] = entered := by
      simp only [Option.ite_none_right_eq_some, Option.some.injEq] at hentered
      exact hentered.2
    refine ⟨?_, hlists.awaits hhead List.mem_cons_self (List.prefix_append _ _)⟩
    have hlt : dir ++ [name] ++ [] < dir ++ [name] ++ first :: rest :=
      List.append_left_lt (List.nil_lt_cons first rest)
    rwa [List.append_nil] at hlt
  · obtain ⟨rest, rfl⟩ := hbegins
    rcases List.mem_cons.1 hframe with rfl | houter
    · refine ⟨?_, hlists.awaits hhead (List.mem_cons_of_mem _ hother) (List.prefix_append _ _)⟩
      have hlt := (List.pairwise_cons.1 (hframes.increasing _ List.mem_cons_self)).1 other hother
      simpa using lt_of_branch hlt dir [] rest
    · refine ⟨?_, hlists.awaits (hsuffix.subset (List.mem_cons_of_mem _ houter)) hother
        (List.prefix_append _ _)⟩
      obtain ⟨first, between, rfl, hfirst⟩ := (List.pairwise_cons.1 hframes.inside).1 frame houter
      simpa using lt_of_branch (hfirst other hother) frame.1 (between ++ [name]) rest

/-! ## Any number of events

By induction on the run, from the stage at which it begins. -/

theorem Runs.named (h : stage.Runs events) (hnested : Nested stage.stack) :
    ∀ event ∈ events, event.names ≠ [] ∧ ∀ name ∈ event.names, IsFileName name := by
  induction h with
  | stop => simp
  | move hmoves hruns ih =>
    rintro event (_ | ⟨_, hevent⟩)
    · exact hmoves.named hnested
    · exact ih (hmoves.nested hnested) event hevent

theorem Runs.awaits (h : stage.Runs events) (hnested : Nested stage.stack) :
    ∀ event ∈ events, stage.Awaits event.names := by
  induction h with
  | stop => simp
  | move hmoves hruns ih =>
    rintro event (_ | ⟨_, hevent⟩)
    · exact hmoves.awaits
    · exact (hmoves.lt hnested (ih (hmoves.nested hnested) event hevent)).2

/-- By induction on the run: what is told later was still to come, and so is greater. -/
theorem Runs.increasing (h : stage.Runs events) (hnested : Nested stage.stack) :
    events.Pairwise fun first later => first.names < later.names := by
  induction h with
  | stop => exact List.Pairwise.nil
  | move hmoves hruns ih =>
    have hnext := hmoves.nested hnested
    exact List.pairwise_cons.2
      ⟨fun event hevent => (hmoves.lt hnested (hruns.awaits hnext event hevent)).1, ih hnext⟩

/-- The directory of an event has been told, or the scan was in it from the beginning. -/
theorem Runs.parent (h : stage.Runs events) {before after : List ScanEvent}
    (heq : events = before ++ event :: after) (hnames : event.names = dir ++ [name]) :
    dir ∈ stage.stack.map Prod.fst ∨ ∃ above ∈ before, above.opens = true ∧ above.names = dir := by
  induction h generalizing before with
  | stop => simp at heq
  | move hmoves hruns ih =>
    cases before with
    | nil =>
      obtain ⟨rfl, -⟩ := List.cons.inj heq
      exact Or.inl (hmoves.mem_stack hnames)
    | cons first before =>
      obtain ⟨rfl, hrest⟩ := List.cons.inj heq
      rcases ih hrest with hstack | ⟨above, habove, htold⟩
      · rcases hmoves.stack_subset hstack with htold | hstack
        · exact Or.inr ⟨_, List.mem_cons_self, htold⟩
        · exact Or.inl hstack
      · exact Or.inr ⟨above, List.mem_cons_of_mem _ habove, htold⟩

/-- From the start on, the directory of an event has been told unless it is the root. -/
theorem Runs.parent_start (h : Runs ⟨some [], []⟩ events) {before after : List ScanEvent}
    (heq : events = before ++ event :: after) (hnames : event.names = dir ++ [name])
    (hdir : dir ≠ []) : ∃ above ∈ before, above.opens = true ∧ above.names = dir := by
  rcases h.parent heq hnames with hstack | habove
  · exact absurd (List.mem_singleton.1 hstack) hdir
  · exact habove

/-- All directories on the way to an event have been told. -/
theorem Runs.opens_above (h : Runs ⟨some [], []⟩ events) {between : List String} (hdir : dir ≠ [])
    (hevent : event ∈ events) (hnames : event.names = dir ++ between ++ [name]) :
    ∃ above ∈ events, above.opens = true ∧ above.names = dir := by
  induction between using List.reverseRecOn generalizing event name with
  | nil =>
    obtain ⟨before, after, rfl⟩ := List.append_of_mem hevent
    rw [List.append_nil] at hnames
    obtain ⟨above, habove, htold⟩ := h.parent_start rfl hnames hdir
    exact ⟨above, List.mem_append_left _ habove, htold⟩
  | append_singleton between last ih =>
    obtain ⟨before, after, rfl⟩ := List.append_of_mem hevent
    obtain ⟨above, habove, -, htold⟩ := h.parent_start rfl hnames (by simp)
    exact ih (List.mem_append_left _ habove) (by rw [htold, List.append_assoc])

theorem eq_of_names_eq (h : events.Pairwise fun first later => first.names < later.names)
    {first second : ScanEvent} (hfirst : first ∈ events) (hsecond : second ∈ events)
    (heq : first.names = second.names) : first = second := by
  have hnodup : (events.map ScanEvent.names).Nodup := by
    refine List.pairwise_map.2 (h.imp fun {first later} hlt hsame => ?_)
    rw [hsame] at hlt
    exact List.lt_irrefl _ hlt
  exact List.inj_on_of_nodup_map hnodup hfirst hsecond heq

/-- **The events of a scan are in order**, whatever the tree is at each of them. -/
theorem Runs.orderly (h : Runs ⟨some [], []⟩ events) : Orderly events := by
  have hnamed := h.named nested_start
  have hincreasing := h.increasing nested_start
  refine ⟨hnamed, hincreasing, fun _ _ _ _ _ heq => h.parent_start heq, ?_⟩
  rintro above habove hopens event hevent ⟨rest, hrest⟩
  rcases List.eq_nil_or_concat rest with rfl | ⟨between, name, rfl⟩
  · exact eq_of_names_eq hincreasing hevent habove (by rw [← hrest, List.append_nil])
  · rw [List.concat_eq_append, ← List.append_assoc] at hrest
    obtain ⟨other, hother, hopened, heq⟩ :=
      h.opens_above (hnamed above habove).1 hevent hrest.symm
    rw [eq_of_names_eq hincreasing hother habove heq, hopens] at hopened
    exact absurd hopened Bool.false_ne_true

/-! ## The scan makes such moves

Here the tree comes back in.  It decides which name is found next, and whether the name stands for a
directory. -/

/-- The entry of an object has the path under which it is looked for. -/
theorem relativePath_of_inspect? {entry : Entry} (hnames : ∀ name ∈ names, IsFileName name)
    (hne : names ≠ []) (h : Entry.inspect? fs caller (root.append names) root = .ok entry) :
    segments entry.relativePath = names := by
  have hisName : ∀ name ∈ names, IsName name := fun name hname => (hnames name hname).isName
  obtain ⟨relative, hrelative, htext⟩ := relativeTo?_append root hne hisName
  rw [Entry.inspect?, hrelative] at h
  cases hfound : fs.inspect? caller (root.append names).text with
  | error fault => simp [hfound] at h
  | ok object =>
    simp only [hfound, ok_bind, pure_eq_ok, Except.ok.injEq] at h
    rw [← h, Entry.ofObject]
    simp only [htext, segments_joined hisName]

theorem names_of_judge {entry : Entry} (h : Scan.judge scanRule entry = .ok event) :
    event.names = segments entry.relativePath := by
  rcases Scan.judge_cases h with rfl | rfl | rfl <;> rfl

theorem opened_of_judge {entry : Entry} (h : Scan.judge scanRule entry = .ok event) :
    Scan.opened event = if event.opens then some entry.path else none := by
  rcases Scan.judge_cases h with rfl | rfl | rfl <;> rfl

/-- What the system lists are names that objects have, so that they can be compared and put together
to paths. -/
theorem isFileName_of_listNames? {text : String} {listed : List String}
    (h : fs.listNames? caller text = .ok listed) : ∀ name ∈ listed, IsFileName name := by
  intro name hname
  rw [listNames?] at h
  cases hfollow : fs.follow? caller text with
  | error fault => simp [hfollow] at h
  | ok found =>
    obtain ⟨location, object⟩ := found
    cases object with
    | directory mode =>
      simp only [hfollow, ok_bind] at h
      split at h
      · obtain rfl := Except.ok.inj h
        obtain ⟨object, hobject⟩ := Option.isSome_iff_exists.1 (mem_names_iff.1 hname)
        exact isFileName_of_get? hobject name List.mem_cons_self
      · simp at h
    | _ => simp [hfollow] at h

theorem exists_lists {found : List (Path × List String)}
    (h : Scan.Listed fs caller (stage.scan root) found) :
    ∃ frames, stage.Lists frames ∧
      found = frames.map fun frame => (root.append frame.1, frame.2) := by
  obtain ⟨pending, frames⟩ := stage
  cases pending with
  | none => cases h; exact ⟨frames, .resumed, rfl⟩
  | some dir =>
    cases h with
    | @listed _ _ _ names hlisted =>
      refine ⟨_, .listed (Text.sorted_pairwise names) ?_, rfl⟩
      intro name hname
      exact isFileName_of_listNames? hlisted name (Text.mem_sorted.1 hname)

/-- **One event of a scan is a move.** -/
theorem moves_of_next {rest : Scan} (hnested : Nested stage.stack)
    (h : (stage.scan root).next fs caller scanRule = .event event rest) :
    ∃ stage', rest = stage'.scan root ∧ stage.Moves event stage' := by
  rcases Scan.next_cases fs caller scanRule (stage.scan root) with
    ⟨found, hlisted, hnext⟩ | ⟨_, _, _, -, -, hnext, -⟩
  · obtain ⟨frames, hlists, rfl⟩ := exists_lists hlisted
    obtain ⟨_, name, names, _, entry, hsuffix, hinspect, hjudge, rfl⟩ :=
      Scan.visit_eq_event (hnext.symm.trans h)
    obtain ⟨others, hothers, hmap⟩ := List.suffix_map_iff.1 hsuffix
    obtain ⟨⟨dir, _⟩, outer, rfl, hframe, rfl⟩ := List.map_eq_cons_iff.1 hmap.symm
    obtain ⟨rfl, rfl⟩ := Prod.mk.inj hframe
    rw [Path.child, Path.append_append] at hinspect
    have hfile := (hlists.nested hnested).next_names hothers
    have hnames : segments entry.relativePath = dir ++ [name] :=
      relativePath_of_inspect? hfile (by simp) hinspect
    refine ⟨_, ?_, .tell hlists hothers ((names_of_judge hjudge).trans hnames)⟩
    rw [opened_of_judge hjudge, Entry.path_of_inspect? hinspect, scan]
    cases event.opens <;> rfl
  · rw [hnext] at h
    simp at h

/-! ## Why a scan ends early

A scan that ends early could not list a directory, could not inspect an object, or had no answer
from its rule. -/

/-- An object is not inspected for a reason that the system reports. -/
theorem bySystem_inspect? (hnull : '\x00' ∉ root.text.toList)
    (hnames : ∀ name ∈ names, IsFileName name) (hne : names ≠ []) :
    BySystem (Entry.inspect? fs caller (root.append names) root) := by
  obtain ⟨relative, hrelative, -⟩ :=
    relativeTo?_append root hne fun name hname => (hnames name hname).isName
  refine ((bySystem_find? (null_not_mem_append hnull hnames) fs).map _).bind ?_
  intro found _
  rw [hrelative]
  exact bySystem_ok _

theorem exists_judge_eq_ok {rule : Exclusion} (htotal : rule.Total) (entry : Entry) :
    ∃ event, Scan.judge rule.scanRule entry = .ok event := by
  obtain ⟨answer, hanswer⟩ := htotal entry.relativePath
  rw [Scan.judge, Exclusion.scanRule, hanswer]
  simp only [mapError_ok, ok_bind]
  split
  · exact ⟨_, rfl⟩
  · split
    · exact ⟨_, rfl⟩
    · exact ⟨_, rfl⟩

theorem isNamed_of_next {rule : Exclusion} (htotal : rule.Total)
    (hnull : '\x00' ∉ root.text.toList) (hnested : Nested stage.stack) {fault : ScanFault}
    (h : (stage.scan root).next fs caller rule.scanRule = .failed fault) : fault.IsNamed := by
  rcases Scan.next_cases fs caller rule.scanRule (stage.scan root) with
    ⟨found, hlisted, hnext⟩ | ⟨dir, cause, other, hpending, hcause, hnext, hother⟩
  · obtain ⟨frames, hlists, rfl⟩ := exists_lists hlisted
    obtain ⟨_, name, names, _, hsuffix, hwhy⟩ := Scan.visit_eq_failed (hnext.symm.trans h)
    obtain ⟨others, hothers, hmap⟩ := List.suffix_map_iff.1 hsuffix
    obtain ⟨⟨dir, _⟩, outer, rfl, hframe, rfl⟩ := List.map_eq_cons_iff.1 hmap.symm
    obtain ⟨rfl, rfl⟩ := Prod.mk.inj hframe
    rcases hwhy with ⟨error, -, rfl⟩ | ⟨cause, hinspect, hcause⟩ | ⟨entry, cause, hjudge⟩
    · trivial
    · rw [Path.child, Path.append_append] at hinspect
      have hfile := (hlists.nested hnested).next_names hothers
      obtain ⟨error, rfl⟩ := bySystem_inspect? hnull hfile (by simp) cause hinspect
      exact absurd rfl (hcause error)
    · obtain ⟨event, hevent⟩ := exists_judge_eq_ok htotal entry
      rw [hevent] at hjudge
      simp at hjudge
  · obtain rfl := ScanStep.failed.inj (hnext.symm.trans h)
    have hdir : '\x00' ∉ dir.text.toList := by
      obtain ⟨pending, frames⟩ := stage
      cases pending with
      | none => simp [scan] at hpending
      | some names =>
        obtain rfl := Option.some.inj hpending
        refine null_not_mem_append hnull fun name hname => ?_
        exact hnested.names (names, []) List.mem_cons_self name (List.mem_append_left _ hname)
    obtain ⟨error, rfl⟩ := bySystem_listNames? hdir fs cause hcause
    rw [hother error rfl]
    trivial

/-! ## Whole scans

A scan begins at its root with no directory listed, and this stage has the invariant. -/

/-- By induction on the trees: each event is a move, in whatever tree it is found. -/
theorem runs_through (states : List FileSystem) (hnested : Nested stage.stack) :
    stage.Runs (Scan.through caller scanRule states (stage.scan root)).events := by
  induction states generalizing stage with
  | nil => exact .stop
  | cons fs states ih =>
    rw [Scan.through]
    cases hstep : (stage.scan root).next fs caller scanRule with
    | finished => exact .stop
    | failed fault => exact .stop
    | event event rest =>
      obtain ⟨stage', rfl, hmoves⟩ := moves_of_next hnested hstep
      exact .move hmoves (ih (hmoves.nested hnested))

theorem isNamed_of_through {rule : Exclusion} (htotal : rule.Total)
    (hnull : '\x00' ∉ root.text.toList) {states : List FileSystem} (hnested : Nested stage.stack)
    {fault : ScanFault}
    (h : (Scan.through caller rule.scanRule states (stage.scan root)).fault = some fault) :
    fault.IsNamed := by
  induction states generalizing stage with
  | nil => simp [Scan.through] at h
  | cons fs states ih =>
    rw [Scan.through] at h
    cases hstep : (stage.scan root).next fs caller rule.scanRule with
    | finished => simp [hstep] at h
    | failed other =>
      rw [hstep] at h
      obtain rfl := Option.some.inj h
      exact isNamed_of_next htotal hnull hnested hstep
    | event event rest =>
      obtain ⟨stage', rfl, hmoves⟩ := moves_of_next hnested hstep
      rw [hstep] at h
      exact ih (hmoves.nested hnested) h

end Stage

variable {fs : FileSystem} {caller : Caller} {scanRule : ScanRule} {rule : Exclusion}
  {root : Path}

theorem orderly_through (states : List FileSystem) :
    Orderly (Scan.through caller scanRule states (.start root)).events := by
  rw [← Stage.scan_start]
  exact (Stage.runs_through states Stage.nested_start).orderly

theorem orderly_watch (fs : FileSystem) (seen : ScanEvent → Bool)
    (changes : List (Nat × Act Unit)) :
    Orderly (Scan.watch fs caller scanRule seen changes root).1.events := by
  obtain ⟨states, hstates⟩ := Scan.exists_watchFrom_eq caller scanRule seen changes
    ((Scan.start root).eventBound fs) 0 (.start root) fs
  rw [Scan.watch, hstates]
  exact orderly_through states

theorem orderly_all (fs : FileSystem) : Orderly (Scan.all fs caller scanRule root).events := by
  rw [Scan.all, Scan.allFrom_eq_through]
  exact orderly_through _

/-- A scan whose rule has all answers ends early only for a reason that it names. -/
theorem isNamed_of_scan (htotal : rule.Total) (hnull : '\x00' ∉ root.text.toList)
    {fault : ScanFault} (h : (Scan.all fs caller rule.scanRule root).fault = some fault) :
    fault.IsNamed := by
  rw [Scan.all, ← Stage.scan_start, Scan.allFrom_eq_through] at h
  exact Stage.isNamed_of_through htotal hnull Stage.nested_start h

end AssetPublish
