import AssetPublish.Proofs.FileSystem.Reaching
import AssetPublish.Proofs.Scan.Visited

/-!
# The course of a scan

A scan is a machine that gives one event after the other.  Here its states are read as lists of the
objects that it still comes to, so that one event is one object taken from such a list.

The state of a scan holds paths.  Read with respect to the root, the same state is a `Stage`, which
holds names, and a stage together with the tree determines the objects that are still to come:
`Stage.rest`, in the order of `FileSystem.visited`.  Asking for the next event takes the first
object off that list, so a scan that nobody disturbs runs through `visited` from its beginning, and
all that can happen on the way is that it stops early.

Reasons to stop early are functions of the object and the caller, and not of the state
(`Scan.unseen?`, `Scan.unlisted?`).  For one who is privileged only one of them is left: the
spelling of the object's path is too long.

## What is here

* `verdict` — what is told about an object.
* `Stage`, `Stage.rest` — the state of a scan by names below its root, and the objects that it
  still comes to.
* `Scan.unseen?`, `Scan.unlisted?` — why a scan ends at an object or at a directory.
* `Stage.visit_eq`, `Stage.next_eq`, `Stage.next_cases` — one event of a scan.
* `Stage.allFrom_cases` — a whole scan: it tells of the objects that it comes to, one after the
  other, up to the first whose path cannot be handed to the system.
* `scan_cases`, `events_of_fault_eq_none` — the same from the start on.
-/

set_option autoImplicit false

namespace AssetPublish

open FileSystem

/-- What is told about an object that a scan comes to.  It depends on the rule and the object alone,
so what a scan tells is a map over what it comes to. -/
def verdict (rule : Exclusion) (root : Path) (visit : Visit) : ScanEvent :=
  let relativePath := Text.joined '/' visit.1
  if rule.excludes visit.1 then .excluded relativePath visit.2.isDirectory
  else if EntryKind.ofObject visit.2 = .special then .skipped relativePath
  else .entry (Entry.ofObject (root.append visit.1) relativePath visit.2)

/-- The state of a scan by names below its root: those of a directory that is to be listed next, and
those of the directories around it, with the names that are still to come.  Unlike a `Scan` it can
be compared with locations of the tree, whatever the root is spelled like. -/
structure Stage where
  pending : Option (List String)
  frames : List (List String × List String)

namespace Scan

/-- Why a scan ends at an object: it cannot be inspected. -/
def unseen? (fs : FileSystem) (caller : Caller) (root item : Path) : Option ScanFault :=
  match Entry.inspect? fs caller item root with
  | .ok _ => none
  | .error (.system error) => some (.uninspectable item error)
  | .error cause => some (.fault cause)

/-- Why a scan ends at a directory: it cannot be listed. -/
def unlisted? (fs : FileSystem) (caller : Caller) (dir : Path) : Option ScanFault :=
  match fs.listNames? caller dir.text with
  | .ok _ => none
  | .error (.system error) => some (.unreadable dir error)
  | .error cause => some (.fault cause)

variable {fs : FileSystem} {caller : Caller} {root item : Path}

/-- The next event, when a directory is to be listed. -/
theorem next_listing (scanRule : ScanRule) (base dir : Path) (frames : List (Path × List String)) :
    next fs caller scanRule ⟨base, some dir, frames⟩ =
      match unlisted? fs caller dir with
      | some fault => .failed fault
      | none => visit fs caller scanRule base
          ((dir, Text.sorted ((fs.listNames? caller dir.text).toOption.getD [])) :: frames) := by
  rw [next, unlisted?]
  cases hlisted : fs.listNames? caller dir.text with
  | ok names => simp only [hlisted]; rfl
  | error cause => cases cause <;> simp only [hlisted]

end Scan

namespace Stage

/-- The state of the scan itself. -/
def scan (root : Path) (stage : Stage) : Scan :=
  ⟨root, stage.pending.map root.append, stage.frames.map fun frame => (root.append frame.1, frame.2)⟩

/-- The objects that a scan comes to from the names that are still to come. -/
def restOf (fs : FileSystem) (rule : Exclusion) (base : Location)
    (frames : List (List String × List String)) : List Visit :=
  frames.flatMap fun frame => frame.2.flatMap fun name => fs.visitedAt rule base (frame.1 ++ [name])

/-- The objects that a scan still comes to. -/
def rest (fs : FileSystem) (rule : Exclusion) (base : Location) (stage : Stage) : List Visit :=
  stage.pending.elim [] (fs.visitedIn rule base) ++ restOf fs rule base stage.frames

/-- The names that are still to come are those of objects.  This holds as long as nobody disturbs
the scan, since the names were listed from the same tree. -/
def Found (fs : FileSystem) (base : Location) (frames : List (List String × List String)) : Prop :=
  ∀ frame ∈ frames, ∀ name ∈ frame.2, ∃ object, fs.get? (name :: (frame.1.reverse ++ base)) = some object

/-- A state that a scan of the tree at `base` can come to.  The path of the directory that is to be
listed has been accepted by the system once, when the directory was inspected; so listing it can
only be refused for permission bits. -/
structure Sound (fs : FileSystem) (root : Path) (base : Location) (stage : Stage) : Prop where
  directory : ∀ names, stage.pending = some names →
    (∃ mode, fs.get? (names.reverse ++ base) = some (.directory mode)) ∧
      Spellable (root.append names).text
  found : Found fs base stage.frames

variable {fs : FileSystem} {caller : Caller} {rule : Exclusion} {root : Path} {base : Location}
  {names : List String} {object : Object} {mode : Nat}

/-! ## One object -/

theorem relativeTo?_append (root : Path) (hne : names ≠ []) (hnames : ∀ name ∈ names, IsName name) :
    ∃ relative, (root.append names).relativeTo? root = some relative ∧
      relative.text = Text.joined '/' names := by
  have hparts := parts_append root hnames
  rw [Path.relativeTo?, if_pos (Path.append_isWithin root names)]
  refine ⟨_, rfl, ?_⟩
  have hdrop : (root.append names).parts.drop root.parts.length = names := by
    rw [hparts, List.drop_left]
  rw [Path.text_eq_spelling (fun hnil => hne (hdrop.symm.trans hnil)), Path.spelling]
  simp only [hdrop, Anchor.text, String.empty_append]

/-- The entry of an object is what is found there, if it is found. -/
theorem inspect?_append (hroot : fs.PathLeads caller root base) (hne : names ≠ [])
    (hget : fs.get? (names.reverse ++ base) = some object) :
    (Entry.inspect? fs caller (root.append names) root
        = .ok (Entry.ofObject (root.append names) (Text.joined '/' names) object) ∧
      Spellable (root.append names).text) ∨
    (∃ fault, Entry.inspect? fs caller (root.append names) root = .error fault ∧
      (caller.privileged = true → ¬ Spellable (root.append names).text)) := by
  obtain ⟨relative, hrelative, htext⟩ :=
    relativeTo?_append root hne (isName_of_get?_reverse hget)
  rw [Entry.inspect?, FileSystem.inspect?]
  cases hfind : fs.find? caller .itself (root.append names).text with
  | ok found =>
    obtain ⟨hspell, -⟩ := find?_text_eq_ok_iff.1 hfind
    obtain rfl := eq_of_find?_append hroot hne hget hfind
    left
    refine ⟨?_, hspell⟩
    rw [hrelative]
    simp only [Except.map, ok_bind, pure_eq_ok, htext]
  | error fault =>
    right
    refine ⟨fault, rfl, ?_⟩
    intro hcaller hspell
    rw [find?_append_of_privileged hcaller hroot hne hget hspell] at hfind
    simp at hfind

/-- The answer of the rule is told, if it has one. -/
theorem judge_ofObject (hnames : rule.IsPlain ∨ ∃ event, Scan.judge rule.scanRule
      (Entry.ofObject (root.append names) (Text.joined '/' names) object) = .ok event) :
    Scan.judge rule.scanRule (Entry.ofObject (root.append names) (Text.joined '/' names) object)
      = .ok (verdict rule root (names, object)) := by
  have hmatches : rule.matches? (Text.joined '/' names) = .ok (rule.excludes names) := by
    rcases hnames with hplain | ⟨event, hevent⟩
    · exact Exclusion.matches?_of_isPlain hplain names
    · rw [Scan.judge, Exclusion.scanRule, Entry.ofObject] at hevent
      cases hanswer : rule.matches? (Text.joined '/' names) with
      | ok answer => rw [Exclusion.excludes_of_matches? hanswer]
      | error fault => simp [hanswer] at hevent
  have hdir : (Entry.ofObject (root.append names) (Text.joined '/' names) object).isDirectory
      = object.isDirectory := by
    cases object <;> rfl
  rw [Scan.judge, Exclusion.scanRule, hdir, verdict]
  simp only [Entry.ofObject, hmatches, mapError_ok, ok_bind, pure_eq_ok]
  cases rule.excludes names with
  | true => rfl
  | false =>
    by_cases hspecial : EntryKind.ofObject object = .special
    · simp [hspecial]
    · simp [hspecial]

/-! ## One event -/

/-- The directory that is listed after an object: the one that it is, if it is not left out. -/
theorem opened_verdict :
    Scan.opened (verdict rule root (names, object))
      = if object.isDirectory && !rule.excludes names then some (root.append names) else none := by
  rw [verdict]
  cases hexcludes : rule.excludes names with
  | true => simp [Scan.opened]
  | false => cases object <;> simp [Scan.opened, EntryKind.ofObject, Entry.ofObject,
      Entry.isDirectory, Object.isDirectory]

/-- The state after the object at `names`, whose neighbours to come are `later` in `frames`. -/
def after (rule : Exclusion) (names : List String) (object : Object)
    (frames : List (List String × List String)) : Stage :=
  ⟨if object.isDirectory && !rule.excludes names then some names else none, frames⟩

theorem rest_after (hget : fs.get? (names.reverse ++ base) = some object)
    (frames : List (List String × List String)) :
    fs.visitedAt rule base names ++ restOf fs rule base frames
      = (names, object) :: (after rule names object frames).rest fs rule base := by
  rw [visitedAt_eq, hget, after, rest]
  cases henters : object.isDirectory && !rule.excludes names with
  | true => simp [henters]
  | false => simp [henters]

theorem restOf_cons {dir listed : List String} {name : String}
    (hget : fs.get? ((dir ++ [name]).reverse ++ base) = some object)
    (frames : List (List String × List String)) :
    restOf fs rule base ((dir, name :: listed) :: frames)
      = (dir ++ [name], object) ::
        (after rule (dir ++ [name]) object ((dir, listed) :: frames)).rest fs rule base := by
  rw [← rest_after hget, restOf, restOf, List.flatMap_cons, List.flatMap_cons, List.flatMap_cons,
    List.append_assoc]

theorem Found.drop {frame : List String × List String} {frames : List (List String × List String)}
    (h : Found fs base (frame :: frames)) : Found fs base frames :=
  fun other hother => h other (List.mem_cons_of_mem _ hother)

theorem Found.next {dir listed : List String} {name : String}
    {frames : List (List String × List String)}
    (h : Found fs base ((dir, name :: listed) :: frames)) : Found fs base ((dir, listed) :: frames) := by
  intro frame hframe other hother
  rcases List.mem_cons.1 hframe with rfl | hframe
  · exact h _ List.mem_cons_self other (List.mem_cons_of_mem _ hother)
  · exact h.drop frame hframe other hother

/-- The names in a directory are names of objects. -/
theorem Found.list {frames : List (List String × List String)} (h : Found fs base frames) :
    Found fs base ((names, Text.sorted (fs.names (names.reverse ++ base))) :: frames) := by
  intro frame hframe name hname
  rcases List.mem_cons.1 hframe with rfl | hframe
  · exact Option.isSome_iff_exists.1 (mem_names_iff.1 (Text.mem_sorted.1 hname))
  · exact h frame hframe name hname

theorem scan_after (frames : List (List String × List String)) :
    (after rule names object frames).scan root = ⟨root, Scan.opened (verdict rule root (names, object)),
      frames.map fun frame => (root.append frame.1, frame.2)⟩ := by
  rw [opened_verdict, after, scan]
  cases object.isDirectory && !rule.excludes names with
  | true => rfl
  | false => rfl

theorem sound_after (hget : fs.get? (names.reverse ++ base) = some object)
    (hspell : Spellable (root.append names).text) {frames : List (List String × List String)}
    (hfound : Found fs base frames) : (after rule names object frames).Sound fs root base := by
  refine ⟨?_, hfound⟩
  intro other hother
  rw [after] at hother
  simp only at hother
  split at hother
  · rename_i henters
    rw [Option.some.injEq] at hother
    subst hother
    refine ⟨?_, hspell⟩
    cases object with
    | directory mode => exact ⟨mode, hget⟩
    | _ => simp [Object.isDirectory] at henters
  · simp at hother

/-- What can come of asking for the next event: nothing is left, the next object is told, or its
path is refused or the rule has no answer for it.  The last case says nothing about what came to be
refused unless the caller is privileged and the rule always answers, because otherwise there are
more reasons than one. -/
def Comes (fs : FileSystem) (caller : Caller) (rule : Exclusion) (root : Path) (base : Location)
    (rest : List Visit) (step : ScanStep) : Prop :=
  (step = .finished ∧ rest = []) ∨
  (∃ (visit : Visit) (stage : Stage), step = .event (verdict rule root visit) (stage.scan root) ∧
    rest = visit :: stage.rest fs rule base ∧ stage.Sound fs root base ∧
    Spellable (root.append visit.1).text) ∨
  (∃ fault, step = .failed fault ∧ (caller.privileged = true → rule.IsPlain →
    ∃ visit later, rest = visit :: later ∧ ¬ Spellable (root.append visit.1).text))

/-- An object can be inspected just when its path can be handed to the system, as far as a
privileged caller goes. -/
theorem unseen?_cases (hroot : fs.PathLeads caller root base) (hne : names ≠ [])
    (hget : fs.get? (names.reverse ++ base) = some object) :
    (Scan.unseen? fs caller root (root.append names) = none ∧ Entry.inspect? fs caller
        (root.append names) root
          = .ok (Entry.ofObject (root.append names) (Text.joined '/' names) object) ∧
      Spellable (root.append names).text) ∨
    ∃ fault, Scan.unseen? fs caller root (root.append names) = some fault ∧
      (caller.privileged = true → ¬ Spellable (root.append names).text) := by
  rw [Scan.unseen?]
  rcases inspect?_append hroot hne hget with ⟨hinspect, hspell⟩ | ⟨fault, hinspect, hlong⟩
  · exact Or.inl ⟨by rw [hinspect], hinspect, hspell⟩
  · rw [hinspect]
    cases fault with
    | system error => exact Or.inr ⟨_, rfl, hlong⟩
    | _ => exact Or.inr ⟨_, rfl, hlong⟩

/-- **One event, when no directory is to be listed**: the first object that the scan still comes
to is told, unless it cannot be inspected or the rule has no answer for it. -/
theorem visit_eq (rule : Exclusion) (hroot : fs.PathLeads caller root base)
    {frames : List (List String × List String)} (hfound : Found fs base frames) :
    (restOf fs rule base frames = [] ∧ Scan.visit fs caller rule.scanRule root
        (frames.map fun frame => (root.append frame.1, frame.2)) = .finished) ∨
    ∃ names object outer, names ≠ [] ∧ fs.get? (names.reverse ++ base) = some object ∧
      Found fs base outer ∧
      restOf fs rule base frames
        = (names, object) :: (after rule names object outer).rest fs rule base ∧
      Scan.visit fs caller rule.scanRule root
          (frames.map fun frame => (root.append frame.1, frame.2)) =
        match Scan.unseen? fs caller root (root.append names) with
        | some fault => .failed fault
        | none =>
          match Scan.judge rule.scanRule
              (Entry.ofObject (root.append names) (Text.joined '/' names) object) with
          | .error fault => .failed (.fault fault)
          | .ok _ => .event (verdict rule root (names, object))
              ((after rule names object outer).scan root) := by
  induction frames with
  | nil => exact Or.inl ⟨rfl, rfl⟩
  | cons frame frames ih =>
    obtain ⟨dir, listed⟩ := frame
    cases listed with
    | nil =>
      rw [List.map_cons, Scan.visit]
      -- A directory that is all told is left, and the one above it goes on.
      exact ih hfound.drop
    | cons name listed =>
      obtain ⟨object, hobject⟩ := hfound _ List.mem_cons_self name List.mem_cons_self
      have hget : fs.get? ((dir ++ [name]).reverse ++ base) = some object := by simpa using hobject
      refine Or.inr ⟨_, object, _, by simp, hget, hfound.next, restOf_cons hget _, ?_⟩
      rw [List.map_cons, Scan.visit, Path.child, Path.append_append, Scan.unseen?, scan_after,
        List.map_cons]
      rcases inspect?_append hroot (by simp) hget with ⟨hinspect, -⟩ | ⟨fault, hinspect, -⟩
      · simp only [hinspect]
        cases hjudge : Scan.judge rule.scanRule (Entry.ofObject (root.append (dir ++ [name]))
            (Text.joined '/' (dir ++ [name])) object) with
        | error fault => rfl
        | ok event =>
          have hverdict := judge_ofObject (Or.inr ⟨event, hjudge⟩)
          rw [hjudge, Except.ok.injEq] at hverdict
          rw [hverdict]
      · rw [hinspect]
        cases fault <;> rfl

theorem visit_cases (hroot : fs.PathLeads caller root base)
    {frames : List (List String × List String)} (hfound : Found fs base frames) :
    Comes fs caller rule root base (restOf fs rule base frames)
      (Scan.visit fs caller rule.scanRule root
        (frames.map fun frame => (root.append frame.1, frame.2))) := by
  rcases visit_eq rule hroot hfound with
    ⟨hnil, hvisit⟩ | ⟨names, object, outer, hne, hget, houter, hcons, hvisit⟩
  · exact Or.inl ⟨hvisit, hnil⟩
  rw [hcons, hvisit]
  rcases unseen?_cases hroot hne hget with ⟨hseen, -, hspell⟩ | ⟨fault, hunseen, hlong⟩
  · rw [hseen]
    cases hjudge : Scan.judge rule.scanRule
        (Entry.ofObject (root.append names) (Text.joined '/' names) object) with
    | error fault =>
      refine Or.inr (Or.inr ⟨_, rfl, fun _ hplain => ?_⟩)
      rw [judge_ofObject (Or.inl hplain)] at hjudge
      simp at hjudge
    | ok event =>
      exact Or.inr (Or.inl ⟨_, _, rfl, rfl, sound_after hget hspell houter, hspell⟩)
  · rw [hunseen]
    exact Or.inr (Or.inr ⟨_, rfl, fun hcaller _ => ⟨_, _, rfl, hlong hcaller⟩⟩)

/-- The names in a directory, when it can be listed. -/
theorem listNames?_append (hroot : fs.follow? caller root.text = .ok (base, .directory mode))
    {bits : Nat} (hdir : fs.get? (names.reverse ++ base) = some (.directory bits))
    (hspell : Spellable (root.append names).text) :
    fs.listNames? caller (root.append names).text = .ok (fs.names (names.reverse ++ base)) ∨
      ((∃ fault, fs.listNames? caller (root.append names).text = .error fault) ∧
        caller.privileged = false) := by
  have hleads := pathLeads_of_follow? hroot
  rw [listNames?]
  cases hfollow : fs.follow? caller (root.append names).text with
  | ok found =>
    obtain rfl := eq_of_follow?_append hleads hdir rfl hfollow
    simp only [ok_bind]
    by_cases hmay : caller.mayRead bits = true
    · left; rw [if_pos hmay]; rfl
    · right
      rw [if_neg hmay]
      rw [Caller.mayRead, Caller.may, Bool.or_eq_true, not_or, Bool.not_eq_true] at hmay
      exact ⟨⟨_, rfl⟩, hmay.1⟩
  | error fault =>
    right
    refine ⟨⟨fault, rfl⟩, ?_⟩
    by_contra hprivileged
    rw [Bool.not_eq_false] at hprivileged
    by_cases hne : names = []
    · subst hne
      rw [Path.append_nil, hroot] at hfollow
      simp at hfollow
    · rw [follow?_append_of_privileged hprivileged hleads hne hdir hspell] at hfollow
      simp at hfollow

/-- **One event.**  A directory that is to be listed is listed first, and only one whom permission
bits bind may fail to do so. -/
theorem next_eq (rule : Exclusion)
    (hroot : fs.follow? caller root.text = .ok (base, .directory mode))
    {stage : Stage} (hsound : stage.Sound fs root base) :
    ∃ frames, Found fs base frames ∧ stage.rest fs rule base = restOf fs rule base frames ∧
      ((stage.pending.map root.append).bind (Scan.unlisted? fs caller) ≠ none →
        caller.privileged = false) ∧
      (stage.scan root).next fs caller rule.scanRule =
        match (stage.pending.map root.append).bind (Scan.unlisted? fs caller) with
        | some fault => .failed fault
        | none => Scan.visit fs caller rule.scanRule root
            (frames.map fun frame => (root.append frame.1, frame.2)) := by
  obtain ⟨pending, frames⟩ := stage
  cases pending with
  | none => exact ⟨frames, hsound.found, rfl, fun hbar => absurd rfl hbar, rfl⟩
  | some names =>
    obtain ⟨⟨bits, hdir⟩, hspell⟩ := hsound.directory names rfl
    have hrest : rest fs rule base ⟨some names, frames⟩
        = restOf fs rule base ((names, Text.sorted (fs.names (names.reverse ++ base))) :: frames) := by
      rw [rest, restOf, restOf, List.flatMap_cons, ← visitedIn]
      rfl
    refine ⟨_, hsound.found.list, hrest, ?_⟩
    rw [scan, Option.map_some, Scan.next_listing, Option.bind_some, List.map_cons, Scan.unlisted?]
    rcases listNames?_append hroot hdir hspell with hlisted | ⟨⟨fault, hfault⟩, hcaller⟩
    · rw [hlisted]
      exact ⟨fun hbar => absurd rfl hbar, rfl⟩
    · rw [hfault]
      refine ⟨fun _ => hcaller, ?_⟩
      cases fault <;> rfl

theorem next_cases (rule : Exclusion)
    (hroot : fs.follow? caller root.text = .ok (base, .directory mode))
    {stage : Stage} (hsound : stage.Sound fs root base) :
    Comes fs caller rule root base (stage.rest fs rule base)
      ((stage.scan root).next fs caller rule.scanRule) := by
  obtain ⟨frames, hfound, hrest, hbound, hnext⟩ := next_eq rule hroot hsound
  rw [hrest, hnext]
  cases hbar : (stage.pending.map root.append).bind (Scan.unlisted? fs caller) with
  | none => exact visit_cases (pathLeads_of_follow? hroot) hfound
  | some fault =>
    refine Or.inr (Or.inr ⟨_, rfl, fun hcaller => ?_⟩)
    rw [hbound (by simp [hbar])] at hcaller
    simp at hcaller

/-! ## All events -/

/-- What a scan tells from a state on: of `told`, but not of `later`.  The objects are cut in two
where the scan ends.  If it ends early, the first object behind the cut is the one to blame. -/
structure Course (caller : Caller) (rule : Exclusion) (root : Path) (told later : List Visit)
    (outcome : Scan.Outcome) : Prop where
  events : outcome.events = told.map (verdict rule root)
  spellable : ∀ visit ∈ told, Spellable (root.append visit.1).text
  complete : outcome.fault = none → later = []
  failed : outcome.fault ≠ none → caller.privileged = true → rule.IsPlain →
    ∃ visit others, later = visit :: others ∧ ¬ Spellable (root.append visit.1).text

/-- **A scan tells of the objects that it comes to, in order, up to the first that it cannot
inspect.**  By induction on the number of events that are allowed; as there are no more objects to
come to than events allowed, the bound is never what ends the scan. -/
theorem allFrom_cases (hroot : fs.follow? caller root.text = .ok (base, .directory mode))
    {fuel : Nat} {stage : Stage} (hsound : stage.Sound fs root base)
    (hfuel : (stage.rest fs rule base).length < fuel) :
    ∃ told later, stage.rest fs rule base = told ++ later ∧
      Course caller rule root told later
        (Scan.allFrom fs caller rule.scanRule fuel (stage.scan root)) := by
  induction fuel generalizing stage with
  | zero => exact absurd hfuel (Nat.not_lt_zero _)
  | succ fuel ih =>
    rw [Scan.allFrom]
    rcases next_cases rule hroot hsound with
      ⟨hstep, hnil⟩ | ⟨visit, stage', hstep, hrest, hsound', hspell⟩ | ⟨fault, hstep, hlast⟩
    · rw [hstep, hnil]
      exact ⟨[], [], rfl, rfl, by simp, fun _ => rfl, fun h => absurd rfl h⟩
    · rw [hstep, hrest]
      rw [hrest, List.length_cons] at hfuel
      obtain ⟨told, later, heq, hcourse⟩ := ih hsound' (by omega)
      refine ⟨visit :: told, later, by rw [heq]; rfl, ?_, ?_, hcourse.complete, hcourse.failed⟩
      · rw [List.map_cons, ← hcourse.events]
        rfl
      · intro other hother
        rcases List.mem_cons.1 hother with rfl | hother
        · exact hspell
        · exact hcourse.spellable other hother
    · rw [hstep]
      exact ⟨[], stage.rest fs rule base, rfl, rfl, by simp, fun h => by simp at h, fun _ => hlast⟩

end Stage

variable {fs : FileSystem} {caller : Caller} {rule : Exclusion} {root : Path} {base : Location}
  {mode : Nat}

theorem Stage.scan_start (root : Path) : Stage.scan root ⟨some [], []⟩ = Scan.start root := by
  rw [Stage.scan, Scan.start, Option.map_some, Path.append_nil]
  rfl

theorem Stage.sound_start (hroot : fs.follow? caller root.text = .ok (base, .directory mode)) :
    Stage.Sound fs root base ⟨some [], []⟩ := by
  obtain ⟨hspell, -, hget⟩ := find?_text_eq_ok_iff.1 hroot
  refine ⟨?_, by simp [Stage.Found]⟩
  intro names hnames
  obtain rfl := Option.some.inj hnames
  exact ⟨⟨mode, hget⟩, by rwa [Path.append_nil]⟩

theorem Stage.rest_start : Stage.rest fs rule base ⟨some [], []⟩ = fs.visited rule base := by
  rw [Stage.rest, Stage.restOf, List.flatMap_nil, List.append_nil, visited]
  rfl

theorem Scan.eventBound_start (fs : FileSystem) (root : Path) :
    (Scan.start root).eventBound fs = 2 * (fs.objects.length + 1) := rfl

/-- **A whole scan.** -/
theorem scan_cases (rule : Exclusion)
    (hroot : fs.follow? caller root.text = .ok (base, .directory mode)) :
    ∃ told later, fs.visited rule base = told ++ later ∧
      Stage.Course caller rule root told later (Scan.all fs caller rule.scanRule root) := by
  rw [Scan.all, ← Stage.scan_start, ← Stage.rest_start]
  refine Stage.allFrom_cases hroot (Stage.sound_start hroot) ?_
  have hle : (fs.visited rule base).length ≤ fs.objects.length := length_visited_le
  rw [Stage.rest_start, Stage.scan_start, Scan.eventBound_start]
  omega

/-- A scan that does not end early has told of all objects that it comes to. -/
theorem events_of_fault_eq_none
    (hroot : fs.follow? caller root.text = .ok (base, .directory mode))
    (hfault : (Scan.all fs caller rule.scanRule root).fault = none) :
    (Scan.all fs caller rule.scanRule root).events
      = (fs.visited rule base).map (verdict rule root) := by
  obtain ⟨told, later, heq, hcourse⟩ := scan_cases rule hroot
  rw [hcourse.complete hfault, List.append_nil] at heq
  rw [hcourse.events, heq]

end AssetPublish
