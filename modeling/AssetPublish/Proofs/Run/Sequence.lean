import AssetPublish.Proofs.Scan.Order

/-!
# The sequence of the steps of a plan

The steps of a plan come in the order in which the scan has told of what they recreate.  So every
directory is created before anything is put into it, and no two steps have the same target.

The order comes from the scan, and the plan keeps it.  A plan is a list of steps for some of the
events, in their order, so that what holds of any two events in a row holds of the steps for them.
The paths of the steps are those of the events with another root in front of them, and this does not
change how two of them lie to each other.

## What is here

* `targets_sublist` — the targets of the steps are the paths of events, in their order.
* `Orderly.targets` — no target is told after one that lies below it.
* `scan_orderly` — the main statement, on scans that are disturbed and on plans.
-/

set_option autoImplicit false

namespace AssetPublish

open FileSystem

variable {fs : FileSystem} {caller : Caller} {rule : Exclusion} {root dest : Path}
  {events : List ScanEvent} {steps : List Operation} {settings : Settings}

/-- A spelling whose components are names has no slashes in front of them. -/
theorem append_fields_eq {text : String} (h : ∀ name ∈ segments text, IsName name) (path : Path) :
    path.append (Text.fields '/' text) = path.append (segments text) := by
  have hparts : Path.names (Text.fields '/' text) = segments text := by
    rw [segments] at h ⊢
    cases hanchor : (Path.ofText text).anchor with
    | relative => rfl
    | _ =>
      simp only [hanchor] at h
      exact absurd (h _ List.mem_cons_self) (by decide)
  ext1
  · rfl
  · rw [Path.append_parts, Path.append_parts, hparts, Path.names_eq_self h]

/-- The steps for some events recreate the entries among them, each at its path. -/
theorem targets_sublist (hnamed : ∀ event ∈ events, ∀ name ∈ event.names, IsName name)
    (h : Plan.stepsFor? dest events = .ok steps) :
    (steps.map Operation.target).Sublist (events.map fun event => dest.append event.names) ∧
      ∀ step ∈ steps, step.entry.isSome = true := by
  induction events generalizing steps with
  | nil =>
    rw [Plan.stepsFor?, Except.ok.injEq] at h
    subst h
    exact ⟨List.Sublist.refl _, by simp⟩
  | cons event rest ih =>
    have hrest := fun event hevent => hnamed event (List.mem_cons_of_mem _ hevent)
    cases event with
    | excluded relativePath isDirectory =>
      obtain ⟨htargets, hentries⟩ := ih hrest h
      exact ⟨htargets.cons _, hentries⟩
    | skipped relativePath =>
      obtain ⟨htargets, hentries⟩ := ih hrest h
      exact ⟨htargets.cons _, hentries⟩
    | entry entry =>
      rw [Plan.stepsFor?, Operation.forEntry?] at h
      cases hkind : OperationKind.ofEntryKind? entry.kind with
      | none => simp [hkind] at h
      | some kind =>
        cases hlater : Plan.stepsFor? dest rest with
        | error fault => simp [hkind, hlater] at h
        | ok later =>
          simp only [hkind, hlater, ok_bind, pure_eq_ok, Except.ok.injEq] at h
          subst h
          obtain ⟨htargets, hentries⟩ := ih hrest hlater
          have htarget : dest.append (Text.fields '/' entry.relativePath)
              = dest.append (ScanEvent.entry entry).names :=
            append_fields_eq (hnamed _ List.mem_cons_self) dest
          refine ⟨?_, by simpa using hentries⟩
          rw [List.map_cons, List.map_cons, htarget]
          exact htargets.cons_cons _

/-- Going down the same way from two paths does not change how they lie to each other. -/
theorem append_isWithin_append_iff {above below : List String}
    (habove : ∀ name ∈ above, IsName name) (hbelow : ∀ name ∈ below, IsName name) :
    (dest.append below).IsWithin (dest.append above) ↔ above <+: below := by
  rw [Path.IsWithin, Path.append_parts, Path.append_parts, Path.names_eq_self habove,
    Path.names_eq_self hbelow, List.prefix_append_right_inj]
  exact and_iff_right rfl

/-- **No target is told after one that lies below it.**  The paths increase in the order of their
components, and a path comes before all that lie below it. -/
theorem Orderly.targets (h : Orderly events) (dest : Path) :
    (events.map fun event => dest.append event.names).Pairwise
      fun first later => ¬ first.IsWithin later := by
  have hnames : ∀ event ∈ events, ∀ name ∈ event.names, IsName name :=
    fun event hevent name hname => ((h.named event hevent).2 name hname).isName
  refine List.pairwise_map.2 (h.increasing.imp_of_mem fun {first later} hfirst hlater hlt => ?_)
  rw [append_isWithin_append_iff (hnames later hlater) (hnames first hfirst)]
  exact fun hbegins => hbegins.le hlt

/-- The first steps of a plan are those on the destination; the others recreate entries below it,
and none of them comes after one whose target lies below its own. -/
theorem plan_sequence (h : (settings.plan fs caller).result = .ok steps) :
    ∃ first entrySteps, steps = first ++ entrySteps ∧
      (∀ step ∈ first, step.target = settings.destination ∧ step.entry = none ∧
        step.kind ≠ .createDirectory) ∧
      (∀ step ∈ entrySteps, step.entry.isSome = true ∧
        ¬ settings.destination.IsWithin step.target) ∧
      entrySteps.Pairwise fun earlier later => ¬ earlier.target.IsWithin later.target := by
  have hplans := plans settings fs caller
  rw [h] at hplans
  cases hplans with
  | @whole first entrySteps hroot hsteps hfault =>
    have horderly :
        Orderly (Scan.all fs caller settings.exclusion.scanRule settings.source).events :=
      orderly_all fs
    have hnames := fun event hevent name hname =>
      ((horderly.named event hevent).2 name hname).isName
    obtain ⟨htargets, hentries⟩ := targets_sublist hnames hsteps
    refine ⟨first, entrySteps, rfl, ?_, ?_, ?_⟩
    · obtain rfl := rootSteps?_eq_ok hroot
      intro step hstep
      rw [rootSteps] at hstep
      cases hoccupied : fs.occupied caller settings.destination with
      | true =>
        simp only [hoccupied, if_true, List.cons_append, List.nil_append, List.mem_cons,
          List.not_mem_nil, or_false] at hstep
        rcases hstep with rfl | rfl <;> simp
      | false =>
        simp only [hoccupied, Bool.false_eq_true, if_false, List.nil_append,
          List.mem_singleton] at hstep
        subst hstep
        simp
    · intro step hstep
      refine ⟨hentries step hstep, fun hwithin => ?_⟩
      obtain ⟨event, hevent, htarget⟩ :=
        List.mem_map.1 (htargets.subset (List.mem_map_of_mem hstep))
      obtain ⟨hne, -⟩ := horderly.named event hevent
      rw [← htarget, ← Path.append_nil settings.destination, Path.append_append, List.nil_append,
        append_isWithin_append_iff (hnames event hevent) (by simp)] at hwithin
      exact hne (List.prefix_nil.1 hwithin)
    · exact List.pairwise_map.1 ((horderly.targets settings.destination).sublist htargets)

/-- **A scan keeps its order however it is disturbed**: the paths increase by their components, a
directory is told before what lies in it, and nothing is told below what is not told as a directory.
If it ends early, it names a directory or an object that could not be read.  So in a plan every
directory is created before anything below it, and no target is used twice.  Two kinds of
disturbance are meant: a tree that may be another one each time the scan looks at it, and changes
made by whoever is told of an event. -/
theorem scan_orderly (hplain : rule.IsPlain) (hnull : '\x00' ∉ root.text.toList) (caller : Caller) :
    (∀ states, Orderly (Scan.through caller rule.scanRule states (.start root)).events ∧
      ∀ fault, (Scan.through caller rule.scanRule states (.start root)).fault = some fault →
        fault.IsNamed) ∧
    (∀ fs seen changes,
      Orderly (Scan.watch fs caller rule.scanRule seen changes root).1.events) ∧
    ∀ (settings : Settings) (fs : FileSystem) (steps : List Operation),
      (settings.plan fs caller).result = .ok steps →
      (steps.Pairwise fun earlier later =>
        later.kind = .createDirectory → ¬ earlier.target.IsWithin later.target) ∧
      ((steps.filter fun step => step.entry.isSome).map Operation.target).Nodup := by
  refine ⟨fun states => ⟨orderly_through states, fun fault hfault => ?_⟩,
    fun fs seen changes => orderly_watch fs seen changes, fun settings fs steps hplan => ?_⟩
  · rw [← Stage.scan_start] at hfault
    exact Stage.isNamed_of_through hplain.total hnull Stage.nested_start hfault
  · obtain ⟨first, entrySteps, rfl, hfirst, hentry, hordered⟩ := plan_sequence hplan
    constructor
    · refine List.pairwise_append.2 ⟨?_, hordered.imp (fun hnot => fun _ => hnot), ?_⟩
      · exact List.pairwise_of_forall_mem_list fun _ _ later hlater hkind =>
          absurd hkind (hfirst later hlater).2.2
      · intro earlier hearlier later hlater _
        rw [(hfirst earlier hearlier).1]
        exact (hentry later hlater).2
    · have hfilter : ((first ++ entrySteps).filter fun step => step.entry.isSome) = entrySteps := by
        rw [List.filter_append, List.filter_eq_nil_iff.2, List.filter_eq_self.2, List.nil_append]
        · exact fun step hstep => (hentry step hstep).1
        · exact fun step hstep => by simp [(hfirst step hstep).2.1]
      rw [hfilter]
      refine List.pairwise_map.2 (hordered.imp fun {earlier later} hnot heq => hnot ?_)
      rw [heq]
      exact Path.IsWithin.refl _

/-- A scan of a tree that is emptied when two of its objects have been told. -/
theorem scan_orderly_mixedTree :
    Exclusion.default.IsPlain ∧ '\x00' ∉ (Path.ofText "d").text.toList ∧
      Orderly (Scan.through superuser Exclusion.default.scanRule
        [mixedTree, mixedTree, oneDirectory] (.start (Path.ofText "d"))).events :=
  ⟨Exclusion.isPlain_default, by decide, ((scan_orderly Exclusion.isPlain_default
    (by decide) superuser).1 [mixedTree, mixedTree, oneDirectory]).1⟩

end AssetPublish
