import AssetPublish.Proofs.Run.Sizes
import AssetPublish.Proofs.Run.Trace
import AssetPublish.Proofs.Scan.Told

/-!
# The courses that a run can take

Reports read links again and put sizes into words, and both can fail by themselves.  After a step
that has been taken, and in a dry run of a plan, they never do: a link that was copied is still
there, and a source that fits has no size without a text.  So a run with a plan either comes to its
end, or breaks off at a step that fails.

That reports cannot fail after a real step is a fact about the step: whoever copies a link has just
read it, and the copy is made elsewhere, so that the link can be read once more.  In a dry run
nothing is copied, and the argument is another one.  The link was there when the plan was made, and
nothing has changed the tree since.  The bound on the source takes care of the sizes.

With this, the equations for the parts of a run become statements on whole runs.  There is one for
each way in which a run can end, and what they say about the tree, about the tally and about the
history is what the theorems on single properties begin with.

## What is here

* `linkText?_of_handle`, `linkText?_of_plan` — the links that reports read.
* `Operation.Reportable` — a step whose size can be put into words.
* `exists_report_iff` — a step whose link is read can be reported exactly if it is reportable.
* `run_real_eq_ok` — a run that ends well has taken all steps of its plan.
* `run_of_plan_breaks_off`, `run_real_eq_error` — a run that does not end well, and what it has told
  by then.
* `run_dry_of_plan` — a dry run of a plan.
-/

set_option autoImplicit false

namespace AssetPublish

open FileSystem Run

variable {fs left : FileSystem} {caller : Caller} {operation : Operation} {steps : List Operation}
  {settings : Settings} {around : Circumstances} {base : Location} {mode : Nat} {error : RunError}
  {tally : Tally}

/-! ## Reports of steps

A report of a link reads where the link leads to, and every report of a step that copies something
gives a size. -/

/-- A link that has been copied can be read again. -/
theorem linkText?_of_handle (h : outcome (operation.handle caller) fs = (.ok (), left)) :
    ∃ text, Report.linkText? left caller operation = .ok text := by
  obtain ⟨kind, target, relativePath, entry⟩ := operation
  cases kind with
  | copySymlink =>
    cases entry with
    | none => exact ⟨"", rfl⟩
    | some entry =>
      rw [Operation.handle, entry?_bind rfl] at h
      rcases outcome_ask_bind h with ⟨-, fault, hfault⟩ | ⟨held, hheld, hmake⟩
      · simp at hfault
      · rcases outcome_change_cases hmake with ⟨-, hmake⟩ | ⟨-, fault, hfault⟩
        · obtain ⟨location, -, hcreated⟩ := makeLink_eq_ok hmake
          exact ⟨held, readLink?_mono hcreated.le hheld⟩
        · simp at hfault
  | _ => exact ⟨"", rfl⟩

theorem fault_of_plan_eq_ok (h : (settings.plan fs caller).result = .ok steps) :
    (Scan.all fs caller settings.exclusion.scanRule settings.source).fault = none := by
  have hplans := plans settings fs caller
  rw [h] at hplans
  cases hplans with
  | whole hroot hsteps hfault => exact hfault

/-- A link that is planned to be copied can be read as long as nothing changes. -/
theorem linkText?_of_plan
    (hsource : fs.follow? caller settings.source.text = .ok (base, .directory mode))
    (hplan : (settings.plan fs caller).result = .ok steps) (hmem : operation ∈ steps) :
    ∃ text, Report.linkText? fs caller operation = .ok text := by
  obtain ⟨entrySteps, rfl, hsteps⟩ := plan_cases hsource hplan
  rcases List.mem_append.1 hmem with hroot | hentry
  · rw [rootSteps, List.mem_append] at hroot
    rcases hroot with hroot | hroot
    · split at hroot
      · rw [List.mem_singleton.1 hroot]
        exact ⟨"", rfl⟩
      · simp at hroot
    · rw [List.mem_singleton.1 hroot]
      exact ⟨"", rfl⟩
  · obtain ⟨⟨names, object⟩, hvisit, -, hfound, hkind⟩ := exists_recreation hsteps hentry
    have hfind := find?_of_mem_copied hsource (fault_of_plan_eq_ok hplan) hvisit
    rw [Report.linkText?, hfound]
    cases object with
    | link target =>
      rw [← Option.some.inj hkind]
      exact ⟨target, readLink?_eq_ok_iff.2 ⟨_, hfind⟩⟩
    | socket mode => simp [EntryKind.ofObject, OperationKind.ofEntryKind?] at hkind
    | _ =>
      rw [← Option.some.inj hkind]
      exact ⟨"", rfl⟩

/-- A step whose size can be put into words, if that is asked for at all.  A quiet program does not
put it into words, and so has nothing to fail at. -/
def Operation.Reportable (voice : Voice) (operation : Operation) : Prop :=
  voice.quiet = true ∨ ∃ text, Report.size? operation.size = .ok text

/-- **A step whose link is read can be reported exactly if its size has a text.** -/
theorem exists_report_iff (voice : Voice) (dryRun : Bool)
    (hlink : ∃ text, Report.linkText? fs caller operation = .ok text) :
    (∃ printed, Report.step voice fs caller dryRun operation = .ok printed) ↔
      operation.Reportable voice := by
  obtain ⟨link, hlink⟩ := hlink
  rw [Report.step, Report.describe?, hlink, Operation.Reportable]
  cases hquiet : voice.quiet with
  | true => simp
  | false => cases hsize : Report.size? operation.size <;> simp [Except.map]

/-- A step whose link is read and whose size is below the bound can be reported. -/
theorem exists_report (voice : Voice) (dryRun : Bool) (hsize : operation.size < sizeBound)
    (hlink : ∃ text, Report.linkText? fs caller operation = .ok text) :
    ∃ printed, Report.step voice fs caller dryRun operation = .ok printed := by
  obtain ⟨text, htext, -⟩ := size?_of_lt hsize
  exact (exists_report_iff voice dryRun hlink).2 (.inr ⟨text, htext⟩)

/-! ## The summary of a plan -/

/-- The counts of a run when all steps of its plan have been counted.  They are computed from the
plan, before any step is taken. -/
def finalTally (settings : Settings) (fs : FileSystem) (caller : Caller)
    (steps : List Operation) : Tally :=
  steps.foldl Tally.count
    { dryRun := settings.dryRun, excluded := (settings.plan fs caller).excluded }

theorem finalTally_bytes_lt (hfits : settings.Fits fs caller)
    (hsource : fs.follow? caller settings.source.text = .ok (base, .directory mode))
    (hplan : (settings.plan fs caller).result = .ok steps) :
    (finalTally settings fs caller steps).bytes < sizeBound := by
  have hsum := sum_size_lt hfits hsource hplan
  rw [finalTally, bytes_foldl_count]
  rwa [Int.zero_add]

/-- What is told after the last step. -/
def closingEvents (settings : Settings) (steps : List Operation) : List RunEvent :=
  [.finished settings.dryRun steps.length, .summarized .nothing]

/-- Once all steps are counted, the run comes to its end if the sum of their sizes has a text. -/
theorem outcome_close (around : Circumstances) (settings : Settings) (steps : List Operation)
    {state : State} (h : state.tally.bytes < sizeBound) :
    ∃ state', outcome (do
        tell (.finished settings.dryRun steps.length)
        summarize around) state = (.ok (), state') ∧
      state'.fs = state.fs ∧ state'.tally = state.tally ∧
      Tells (closingEvents settings steps) state state' := by
  rw [outcome_bind_of_ok (outcome_tell _ _), outcome_summarize]
  refine ⟨_, Prod.ext ?_ rfl, rfl, rfl, ?_⟩
  · rw [show (state.add [_]).tally = state.tally from rfl, Report.summary_of_lt _ h]
    rfl
  · simp [Tells, State.add, closingEvents, RunEvent.unprinted]

/-! ## Why there is no plan -/

/-- Settings are refused with a reason of their own, or since a question to the system failed. -/
theorem check_eq_error (h : settings.check fs caller = .error error) :
    error.isRefusal = true ∨ ∃ fault, error = .fault fault := by
  have hchecked := checked settings fs caller
  rw [h] at hchecked
  cases hchecked with
  | unknown hexists => exact Or.inr ⟨_, rfl⟩
  | unseen hexists hdirectory => exact Or.inr ⟨_, rfl⟩
  | incomparable hdirectory hwithin => exact Or.inr ⟨_, rfl⟩
  | _ => exact Or.inl rfl

/-- There is no plan if the scan broke off, or if another question to the system failed. -/
theorem plan_eq_error (h : (settings.plan fs caller).result = .error error) :
    (∃ fault, error = .ofScan fault) ∨ ∃ fault, error = .fault fault := by
  have hplans := plans settings fs caller
  rw [h] at hplans
  cases hplans with
  | broken hroot hfault herror => exact Or.inl ⟨_, herror⟩
  | _ => exact Or.inr ⟨_, rfl⟩

/-! ## Runs that do their work

What is said here of observers is different from case to case: one who fails must leave the tree
alone, and for the failures of a run itself he must not fail either. -/

/-- The state of a run when its plan has been shown.  From here on, a dry run and a real one differ.
-/
def shownState (around : Circumstances) (settings : Settings) (fs : FileSystem)
    (steps : List Operation) : State :=
  (planned around settings fs steps).add
    (if around.observer.isSome then [.showed steps] else [])

/-- The history of a run that starts in `fs`, from what it has told by some state. -/
theorem unprinted_history {events more : List RunEvent} {state : State}
    (htells : Tells more (shownState around settings fs steps) state)
    (hevents : openingEvents around settings (settings.plan fs around.caller).events steps ++ more
      = events) :
    state.history.map RunEvent.unprinted = events := by
  have hall := (tells_opening around settings fs steps).trans htells
  rwa [Tells, List.map_nil, List.nil_append, hevents] at hall

/-- **An observer who fails when the plan is shown** ends the run, be it a dry one or not. -/
theorem run_of_planAnswer_eq_error (hidle : around.Idle)
    (hcheck : settings.check fs around.caller = .ok ())
    (hplan : (settings.plan fs around.caller).result = .ok steps)
    (h : planAnswer around steps fs = .error error) :
    (settings.run around fs).result = .error error ∧ (settings.run around fs).fs = fs ∧
      (settings.run around fs).history.map RunEvent.unprinted
        = openingEvents around settings (settings.plan fs around.caller).events steps := by
  rw [run_of_plan_eq_ok hcheck hplan, conclude, outcome_bind, outcome_showPlan hidle,
    show (planned around settings fs steps).fs = fs from rfl, h]
  exact ⟨rfl, rfl, tells_opening around settings fs steps⟩

/-- Once the observer has seen the plan, its steps are taken and the run is summed up. -/
theorem outcome_conclude (hidle : around.Idle) (h : planAnswer around steps fs = .ok ()) :
    outcome (conclude around settings steps) (planned around settings fs steps) = outcome (do
        takeSteps around settings.dryRun 0 steps
        tell (.finished settings.dryRun steps.length)
        summarize around) (shownState around settings fs steps) := by
  have hshow : outcome (showPlan around steps) (planned around settings fs steps)
      = (.ok (), shownState around settings fs steps) := by
    rw [outcome_showPlan hidle, show (planned around settings fs steps).fs = fs from rfl, h,
      shownState]
  rw [conclude, outcome_bind_of_ok hshow]

/-- **A run that ends well** has had its plan accepted and has taken all steps of it.  Nothing is
asked about disturbances, since none can have struck. -/
theorem run_real_eq_ok (hidle : around.Idle) (hreal : settings.dryRun = false)
    (h : (settings.run around fs).result = .ok tally) :
    ∃ steps, settings.check fs around.caller = .ok () ∧
      (settings.plan fs around.caller).result = .ok steps ∧ planAnswer around steps fs = .ok () ∧
      AllTaken around.caller steps fs (settings.run around fs).fs ∧
      (settings.run around fs).history.map RunEvent.unprinted
        = openingEvents around settings (settings.plan fs around.caller).events steps ++
          steps.flatMap (stepEvents around) ++ closingEvents settings steps ∧
      tally = finalTally settings fs around.caller steps := by
  cases hcheck : settings.check fs around.caller with
  | error error => rw [run_of_check_eq_error hcheck] at h; simp at h
  | ok =>
    cases hplan : (settings.plan fs around.caller).result with
    | error error => rw [run_of_plan_eq_error hcheck hplan] at h; simp at h
    | ok steps =>
      cases hanswer : planAnswer around steps fs with
      | error error =>
        rw [(run_of_planAnswer_eq_error hidle hcheck hplan hanswer).1] at h
        simp at h
      | ok =>
        rw [run_of_plan_eq_ok hcheck hplan, outcome_conclude hidle hanswer] at h ⊢
        rcases hend : outcome (do
            takeSteps around settings.dryRun 0 steps
            tell (.finished settings.dryRun steps.length)
            summarize around) (shownState around settings fs steps) with ⟨result, state⟩
        rw [hend] at h
        cases result with
        | error error => simp [Outcome.ofEnd, Except.map] at h
        | ok done =>
          obtain rfl : state.tally = tally := by simpa [Outcome.ofEnd, Except.map] using h
          rcases outcome_bind_eq hend with ⟨error, -, herror⟩ | ⟨⟨⟩, taken, htake, hend⟩
          · simp at herror
          rw [hreal] at htake
          obtain ⟨hall, htells, htally⟩ := takeSteps_eq_ok hidle htake
          rw [outcome_bind_of_ok (outcome_tell _ _), outcome_summarize] at hend
          obtain ⟨-, rfl⟩ := Prod.mk.inj hend
          refine ⟨steps, rfl, rfl, hanswer, hall, ?_, htally⟩
          refine unprinted_history (htells.trans ((tells_add _ _).trans (tells_add _ _))) ?_
          simp [closingEvents, RunEvent.unprinted]

/-- A run with a plan that does not end well has broken off at a step that failed. -/
theorem run_of_plan_breaks_off (hneutral : around.Neutral) (hreal : settings.dryRun = false)
    (hfits : settings.Fits fs around.caller) (hcheck : settings.check fs around.caller = .ok ())
    (hplan : (settings.plan fs around.caller).result = .ok steps)
    (h : (settings.run around fs).result = .error error) :
    ∃ before operation after mid fault, steps = before ++ operation :: after ∧
      AllTaken around.caller before fs mid ∧
      operation.apply around.caller (around.disturbance operation) mid
        = (.error fault, (settings.run around fs).fs) ∧ error = .ofApply fault ∧
      (settings.run around fs).history.map RunEvent.unprinted
        = openingEvents around settings (settings.plan fs around.caller).events steps ++
          before.flatMap (stepEvents around) ++ [.began operation] := by
  obtain ⟨⟨base, mode, hsource⟩, -⟩ := check_eq_ok hcheck
  rw [run_of_plan_eq_ok hcheck hplan,
    outcome_conclude hneutral.idle (planAnswer_of_neutral hneutral _ _), outcome_bind] at h ⊢
  rcases htake : outcome (takeSteps around settings.dryRun 0 steps)
    (shownState around settings fs steps) with ⟨result, taken⟩
  rw [htake] at h
  rw [hreal] at htake
  cases result with
  | ok done =>
    -- Nothing fails after the last step, since the sum of all sizes has a text.
    obtain ⟨-, -, htally⟩ := takeSteps_eq_ok hneutral.idle htake
    have hbytes : taken.tally.bytes < sizeBound := by
      rw [htally]
      exact finalTally_bytes_lt hfits hsource hplan
    obtain ⟨last, hclose, -⟩ := outcome_close around settings steps hbytes
    simp only [hclose] at h
    simp [Outcome.ofEnd, Except.map] at h
  | error other =>
    obtain rfl : other = error := by simpa [Outcome.ofEnd, Except.map] using h
    have hreports : ∀ operation ∈ steps, ∀ fs left,
        outcome (operation.handle around.caller) fs = (.ok (), left) →
        ∃ printed, Report.step around.voice left around.caller false operation = .ok printed :=
      fun operation hmem _ _ hhandle => exists_report _ _
        (size_lt_of_mem hfits hsource hplan hmem) (linkText?_of_handle hhandle)
    obtain ⟨before, operation, after, mid, fault, rfl, hall, hfault, herror, htells⟩ :=
      takeSteps_eq_error hneutral hreports htake
    exact ⟨before, operation, after, mid, fault, rfl, hall, hfault, herror,
      unprinted_history htells (List.append_assoc _ _ _).symm⟩

/-- **A run that does not end well** has been refused, has had no plan, or has broken off at a step
that failed.  In each case it is said what has been told by then, so that these three histories are
all that there are of such runs. -/
theorem run_real_eq_error (hneutral : around.Neutral) (hreal : settings.dryRun = false)
    (hfits : settings.Fits fs around.caller) (h : (settings.run around fs).result = .error error) :
    (settings.check fs around.caller = .error error ∧
      settings.run around fs = ⟨[], .error error, fs⟩) ∨
    (settings.check fs around.caller = .ok () ∧
      (settings.plan fs around.caller).result = .error error ∧
      settings.run around fs = ⟨.started (Report.header around.voice settings) ::
        (settings.plan fs around.caller).events.map .scanned, .error error, fs⟩) ∨
    ∃ before operation after mid fault, settings.check fs around.caller = .ok () ∧
      (settings.plan fs around.caller).result = .ok (before ++ operation :: after) ∧
      AllTaken around.caller before fs mid ∧
      operation.apply around.caller (around.disturbance operation) mid
        = (.error fault, (settings.run around fs).fs) ∧ error = .ofApply fault ∧
      (settings.run around fs).history.map RunEvent.unprinted
        = openingEvents around settings (settings.plan fs around.caller).events
            (before ++ operation :: after) ++
          before.flatMap (stepEvents around) ++ [.began operation] := by
  cases hcheck : settings.check fs around.caller with
  | error other =>
    rw [run_of_check_eq_error hcheck] at h ⊢
    obtain rfl := Except.error.inj h
    exact Or.inl ⟨rfl, rfl⟩
  | ok =>
    cases hplan : (settings.plan fs around.caller).result with
    | error other =>
      rw [run_of_plan_eq_error hcheck hplan] at h ⊢
      obtain rfl := Except.error.inj h
      exact Or.inr (Or.inl ⟨rfl, rfl, rfl⟩)
    | ok steps =>
      obtain ⟨before, operation, after, mid, fault, rfl, hbreak⟩ :=
        run_of_plan_breaks_off hneutral hreal hfits hcheck hplan h
      exact Or.inr (Or.inr ⟨before, operation, after, mid, fault, rfl, rfl, hbreak⟩)

/-! ## Dry runs -/

/-- **A dry run of a plan** shows it and reports all of its steps, if the observer does not fail.
No step of it can fail, since no step is taken. -/
theorem run_dry_of_plan (hidle : around.Idle) (hdry : settings.dryRun = true)
    (hfits : settings.Fits fs around.caller) (hcheck : settings.check fs around.caller = .ok ())
    (hplan : (settings.plan fs around.caller).result = .ok steps)
    (hanswer : planAnswer around steps fs = .ok ()) :
    (settings.run around fs).result = .ok (finalTally settings fs around.caller steps) ∧
      (settings.run around fs).history.map RunEvent.unprinted
        = openingEvents around settings (settings.plan fs around.caller).events steps ++
          steps.flatMap previewEvents ++ closingEvents settings steps := by
  obtain ⟨⟨base, mode, hsource⟩, -⟩ := check_eq_ok hcheck
  rw [run_of_plan_eq_ok hcheck hplan, outcome_conclude hidle hanswer, hdry]
  obtain ⟨taken, htake, hsame, htells, htally⟩ := takeSteps_dry 0
    (shownState around settings fs steps)
    fun operation hmem => exists_report _ _ (size_lt_of_mem hfits hsource hplan hmem)
      (linkText?_of_plan hsource hplan hmem)
  have hbytes : taken.tally.bytes < sizeBound := by
    rw [htally]
    exact finalTally_bytes_lt hfits hsource hplan
  obtain ⟨last, hclose, -, hlast, htold⟩ := outcome_close around settings steps hbytes
  rw [hdry] at hclose
  rw [outcome_bind_of_ok htake, hclose]
  refine ⟨?_, unprinted_history (htells.trans htold) (List.append_assoc _ _ _).symm⟩
  simp only [Outcome.ofEnd, Except.map]
  rw [hlast, htally]
  rfl

end AssetPublish
