import AssetPublish.Proofs.Recreating
import AssetPublish.Proofs.Run.Steps
import AssetPublish.Proofs.Scan.Course
import Mathlib.Data.List.Forall2

/-!
# What a plan holds

A plan begins with the steps on the destination itself.  After them comes one step for every object
of the source that is copied, a directory before what it holds.

The program plans by scanning and turning events into steps.  Here the plan is described by the
objects of the tree alone: `copied` is the list of what is copied, and `Recreation` ties an object
to its step.  What a plan refuses, and why, is told by two relations with one case for each way in
which the check and the planning can end; their conditions are answers to questions, so that a
refusal can be traced to the tree.

## What is here

* `FileSystem.copied` — the objects of a tree that are copied.
* `copied_parent` — the directory that a copied object lies in is copied too, or is the root.
* `Recreation` — the step that recreates an object.
* `Checked`, `Plans` — how a check ends, and how planning ends.
* `check_eq_ok` — what is known once the settings are accepted.
* `plan_cases` — the steps of a plan.
-/

set_option autoImplicit false

namespace AssetPublish

open FileSystem

variable {fs : FileSystem} {caller : Caller} {rule : Exclusion} {source dest root : Path}
  {base : Location} {names : List String} {object : Object} {settings : Settings}

/-! ## The objects that are copied -/

/-- Whether an object that a scan comes to is copied: it is neither left out nor special.  Objects
that a scan comes to but that are left out are those which the rule matches topmost. -/
def IsCopied (rule : Exclusion) (visit : Visit) : Bool :=
  !rule.excludes visit.1 && decide (EntryKind.ofObject visit.2 ≠ .special)

/-- The objects of the tree at `base` that are copied, in the order of the scan. -/
def FileSystem.copied (fs : FileSystem) (rule : Exclusion) (base : Location) : List Visit :=
  (fs.visited rule base).filter (IsCopied rule)

theorem mem_copied_iff :
    (names, object) ∈ fs.copied rule base ↔ names ≠ [] ∧
      fs.get? (names.reverse ++ base) = some object ∧ ¬ rule.Covers names ∧
      EntryKind.ofObject object ≠ .special := by
  rw [copied, List.mem_filter, mem_visited_iff, IsCopied]
  constructor
  · rintro ⟨⟨hne, hget, hhides⟩, htest⟩
    rw [Bool.and_eq_true, Bool.not_eq_true', decide_eq_true_eq] at htest
    refine ⟨hne, hget, ?_, htest.2⟩
    rw [Exclusion.covers_iff hne, not_or, Bool.not_eq_true]
    exact ⟨hhides, htest.1⟩
  · rintro ⟨hne, hget, hcovers, hkind⟩
    rw [Exclusion.covers_iff hne, not_or, Bool.not_eq_true] at hcovers
    refine ⟨⟨hne, hget, hcovers.1⟩, ?_⟩
    rw [Bool.and_eq_true, Bool.not_eq_true', decide_eq_true_eq]
    exact ⟨hcovers.2, hkind⟩

theorem pairwise_copied : (fs.copied rule base).Pairwise fun a b => ¬ b.1 <+: a.1 :=
  pairwise_visited.filter _

/-- The directory that a copied object lies in is copied, unless it is the root of the tree. -/
theorem copied_parent (h : (names, object) ∈ fs.copied rule base) (hne : names.dropLast ≠ []) :
    ∃ mode, (names.dropLast, .directory mode) ∈ fs.copied rule base := by
  obtain ⟨hnil, hget, hcovers, -⟩ := mem_copied_iff.1 h
  rw [reverse_append_eq hnil] at hget
  obtain ⟨mode, hdir⟩ := exists_directory_of_get?_cons hget
  refine ⟨mode, mem_copied_iff.2 ⟨hne, hdir, ?_, by simp [EntryKind.ofObject]⟩⟩
  rintro ⟨first, hfirst, hfirstNil, hexcludes⟩
  exact hcovers ⟨first, hfirst.trans (List.dropLast_prefix names), hfirstNil, hexcludes⟩

/-! ## The steps -/

/-- The step that recreates an object of the tree at `source` below `dest`.  The step carries what
the scan has found, among it the kind and the permission bits; it does not carry the content of a
file. -/
structure Recreation (source dest : Path) (visit : Visit) (operation : Operation) : Prop where
  target : operation.target = dest.append visit.1
  entry : operation.entry =
    some (Entry.ofObject (source.append visit.1) (Text.joined '/' visit.1) visit.2)
  kind : OperationKind.ofEntryKind? (EntryKind.ofObject visit.2) = some operation.kind

theorem forEntry?_eq_ok {operation : Operation} (hnames : ∀ name ∈ names, IsName name)
    (h : Operation.forEntry? (Entry.ofObject (source.append names) (Text.joined '/' names) object)
      dest = .ok operation) :
    Recreation source dest (names, object) operation := by
  rw [Operation.forEntry?] at h
  cases hkind : OperationKind.ofEntryKind? (EntryKind.ofObject object) with
  | none => simp [Entry.ofObject, hkind] at h
  | some kind =>
    simp only [Entry.ofObject, hkind, Except.ok.injEq] at h
    subst h
    exact ⟨Path.append_fields hnames dest, rfl, hkind⟩

/-- The steps for what is told about some objects are those for the copied ones among them. -/
theorem stepsFor?_map_verdict {visits : List Visit} {steps : List Operation}
    (hnames : ∀ visit ∈ visits, ∀ name ∈ visit.1, IsName name)
    (h : Plan.stepsFor? dest (visits.map (verdict rule source)) = .ok steps) :
    List.Forall₂ (Recreation source dest) (visits.filter (IsCopied rule)) steps := by
  induction visits generalizing steps with
  | nil =>
    rw [List.map_nil, Plan.stepsFor?, Except.ok.injEq] at h
    subst h
    exact List.Forall₂.nil
  | cons visit rest ih =>
    obtain ⟨names, object⟩ := visit
    have hrest := fun visit hvisit => hnames visit (List.mem_cons_of_mem _ hvisit)
    rw [List.map_cons, verdict] at h
    cases hexcludes : rule.excludes names with
    | true =>
      rw [List.filter_cons_of_neg (by simp [IsCopied, hexcludes])]
      simp only [hexcludes, if_true, Plan.stepsFor?] at h
      exact ih hrest h
    | false =>
      by_cases hkind : EntryKind.ofObject object = .special
      · rw [List.filter_cons_of_neg (by simp [IsCopied, hkind])]
        simp only [hexcludes, hkind, if_true, Bool.false_eq_true, if_false, Plan.stepsFor?] at h
        exact ih hrest h
      · rw [List.filter_cons_of_pos (by simp [IsCopied, hexcludes, hkind])]
        simp only [hexcludes, hkind, Bool.false_eq_true, if_false, Plan.stepsFor?] at h
        cases hfirst : Operation.forEntry?
            (Entry.ofObject (source.append names) (Text.joined '/' names) object) dest with
        | error fault => simp [hfirst] at h
        | ok operation =>
          cases hlater : Plan.stepsFor? dest (rest.map (verdict rule source)) with
          | error fault => simp [hfirst, hlater] at h
          | ok later =>
            simp only [hfirst, hlater, ok_bind, pure_eq_ok, Except.ok.injEq] at h
            subst h
            exact List.Forall₂.cons (forEntry?_eq_ok (hnames _ List.mem_cons_self) hfirst)
              (ih hrest hlater)

/-- The steps on the destination itself. -/
def rootSteps (occupied : Bool) (dest : Path) : List Operation :=
  (if occupied then [{ kind := .removeDestination, target := dest }] else []) ++
    [{ kind := .createDestination, target := dest }]

/-- Whether a path leads to something, or is a link that leads nowhere.  Both are in the way of a
new directory. -/
def FileSystem.occupied (fs : FileSystem) (caller : Caller) (path : Path) : Bool :=
  match fs.exists? caller path.text with
  | .ok true => true
  | _ => fs.isLink? caller path.text matches .ok true

/-- The destination is removed first if there is anything. -/
theorem rootSteps?_eq_ok {steps : List Operation}
    (h : settings.rootSteps? fs caller = .ok steps) :
    steps = rootSteps (fs.occupied caller settings.destination) settings.destination := by
  rw [Settings.rootSteps?] at h
  rw [occupied]
  cases hexists : fs.exists? caller settings.destination.text with
  | error fault => simp [hexists] at h
  | ok found =>
    cases found with
    | true =>
      simp only [hexists, ok_bind, pure_eq_ok, if_true, Except.ok.injEq] at h
      exact h.symm
    | false =>
      cases hlink : fs.isLink? caller settings.destination.text with
      | error fault => simp [hexists, hlink] at h
      | ok occupied =>
        simp only [hexists, hlink, ok_bind, pure_eq_ok, Bool.false_eq_true, if_false,
          Except.ok.injEq] at h
        cases occupied with
        | true => exact h.symm
        | false => exact h.symm

/-! ## How settings are checked -/

/-- How a check ends: at the first question that is not answered, or not as it should be.  The order
of the questions shows in the conditions: each case supposes the answers before it. -/
inductive Checked (settings : Settings) (fs : FileSystem) (caller : Caller) :
    Except RunError Unit → Prop
  | unknown {fault : Fault} (hexists : fs.exists? caller settings.source.text = .error fault) :
      Checked settings fs caller (.error (.fault fault))
  | missing (hexists : fs.exists? caller settings.source.text = .ok false) :
      Checked settings fs caller (.error (.sourceMissing settings.source))
  | unseen {fault : Fault} (hexists : fs.exists? caller settings.source.text = .ok true)
      (hdirectory : fs.isDirectory? caller settings.source.text = .error fault) :
      Checked settings fs caller (.error (.fault fault))
  | notDirectory (hdirectory : fs.isDirectory? caller settings.source.text = .ok false) :
      Checked settings fs caller (.error (.sourceNotDirectory settings.source))
  | incomparable {fault : Fault}
      (hdirectory : fs.isDirectory? caller settings.source.text = .ok true)
      (hwithin : fs.isWithin? caller settings.destination settings.source = .error fault ∨
        fs.isWithin? caller settings.source settings.destination = .error fault) :
      Checked settings fs caller (.error (.fault fault))
  | inside (hinside : fs.isWithin? caller settings.destination settings.source = .ok true) :
      Checked settings fs caller
        (.error (.destinationInside settings.destination settings.source))
  | around (haround : fs.isWithin? caller settings.source settings.destination = .ok true) :
      Checked settings fs caller (.error (.sourceInside settings.source settings.destination))
  | accepted (hdirectory : fs.isDirectory? caller settings.source.text = .ok true)
      (hinside : fs.isWithin? caller settings.destination settings.source = .ok false)
      (haround : fs.isWithin? caller settings.source settings.destination = .ok false) :
      Checked settings fs caller (.ok ())

/-- **The questions of a check** are asked in this order. -/
theorem checked (settings : Settings) (fs : FileSystem) (caller : Caller) :
    Checked settings fs caller (settings.check fs caller) := by
  rw [Settings.check]
  simp only [Settings.ask]
  cases hexists : fs.exists? caller settings.source.text with
  | error fault => exact .unknown hexists
  | ok found =>
    cases found with
    | false => exact .missing hexists
    | true =>
      cases hdirectory : fs.isDirectory? caller settings.source.text with
      | error fault => exact .unseen hexists hdirectory
      | ok directory =>
        cases directory with
        | false => exact .notDirectory hdirectory
        | true =>
          cases hinside : fs.isWithin? caller settings.destination settings.source with
          | error fault => exact .incomparable hdirectory (Or.inl hinside)
          | ok inside =>
            cases inside with
            | true => exact .inside hinside
            | false =>
              cases haround : fs.isWithin? caller settings.source settings.destination with
              | error fault => exact .incomparable hdirectory (Or.inr haround)
              | ok around =>
                cases around with
                | true => exact .around haround
                | false => exact .accepted hdirectory hinside haround

/-- What is known once the settings are accepted: the source is a directory, and neither root
leads to or below the other. -/
theorem check_eq_ok (h : settings.check fs caller = .ok ()) :
    (∃ base mode, fs.follow? caller settings.source.text = .ok (base, .directory mode)) ∧
      fs.isWithin? caller settings.destination settings.source = .ok false ∧
      fs.isWithin? caller settings.source settings.destination = .ok false := by
  have hchecked := checked settings fs caller
  rw [h] at hchecked
  cases hchecked with
  | accepted hdirectory hinside haround =>
    exact ⟨isDirectory?_eq_ok_true hdirectory, hinside, haround⟩

/-! ## How a plan is made -/

/-- How planning ends: at a question that is not answered, with the scan, or with all steps.  Where
the scan ends early, that is what is reported, even if the steps of what it has told could be made.
-/
inductive Plans (settings : Settings) (fs : FileSystem) (caller : Caller) :
    Except RunError (List Operation) → Prop
  | unknown {fault : Fault} (hroot : settings.rootSteps? fs caller = .error fault) :
      Plans settings fs caller (.error (.fault fault))
  | unmatched {fault : Fault} (hsteps : Plan.stepsFor? settings.destination
        (Scan.all fs caller settings.exclusion.scanRule settings.source).events = .error fault) :
      Plans settings fs caller (.error (.fault fault))
  | broken {first : List Operation} {fault : ScanFault} {error : RunError}
      (hroot : settings.rootSteps? fs caller = .ok first)
      (hfault : (Scan.all fs caller settings.exclusion.scanRule settings.source).fault
        = some fault) (herror : error = .ofScan fault) :
      Plans settings fs caller (.error error)
  | whole {first entrySteps : List Operation}
      (hroot : settings.rootSteps? fs caller = .ok first)
      (hsteps : Plan.stepsFor? settings.destination
        (Scan.all fs caller settings.exclusion.scanRule settings.source).events = .ok entrySteps)
      (hfault : (Scan.all fs caller settings.exclusion.scanRule settings.source).fault = none) :
      Plans settings fs caller (.ok (first ++ entrySteps))

/-- **The questions of planning**, the scan among them. -/
theorem plans (settings : Settings) (fs : FileSystem) (caller : Caller) :
    Plans settings fs caller (settings.plan fs caller).result := by
  rw [Settings.plan]
  cases hroot : settings.rootSteps? fs caller with
  | error fault => exact .unknown hroot
  | ok first =>
    simp only [Settings.ask]
    cases hsteps : Plan.stepsFor? settings.destination
        (Scan.all fs caller settings.exclusion.scanRule settings.source).events with
    | error fault => exact .unmatched hsteps
    | ok entrySteps =>
      cases hfault : (Scan.all fs caller settings.exclusion.scanRule settings.source).fault with
      | some fault => exact .broken hroot hfault rfl
      | none => exact .whole hroot hsteps hfault

/-- **The steps of a plan**: those on the destination, and one for each copied object. -/
theorem plan_cases {steps : List Operation} {mode : Nat}
    (hsource : fs.follow? caller settings.source.text = .ok (base, .directory mode))
    (h : (settings.plan fs caller).result = .ok steps) :
    ∃ entrySteps, steps = rootSteps (fs.occupied caller settings.destination)
        settings.destination ++ entrySteps ∧
      List.Forall₂ (Recreation settings.source settings.destination)
        (fs.copied settings.exclusion base) entrySteps := by
  have hplans := plans settings fs caller
  rw [h] at hplans
  cases hplans with
  | whole hroot hsteps hfault =>
    obtain rfl := rootSteps?_eq_ok hroot
    refine ⟨_, rfl, ?_⟩
    rw [events_of_fault_eq_none hsource hfault] at hsteps
    exact stepsFor?_map_verdict
      (fun visit hvisit => isName_of_get?_reverse (mem_visited_iff.1 hvisit).2.1) hsteps

end AssetPublish
