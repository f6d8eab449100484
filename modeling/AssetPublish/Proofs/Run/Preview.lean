import AssetPublish.Proofs.Run.FailFast

/-!
# Dry runs are previews

A dry run and a real run from the same state check, plan and show the same.  Only then their ways
part: the one takes the steps, the other reports them without.  So what they tell differs only after
a plan has been shown, and from there on a dry run does not fail.

The two runs are compared by way of the plan, which does not depend on whether a run is a dry one.
A real run that ends well has taken the steps of this plan, and a dry run reports the steps of it;
so the two lists are the same, in the same order.  That failures agree needs the other part: a dry
run that fails does so before its first step, and up to there the real run does the same.

## What is here

* `Run.Outcome.reported`, `Run.Outcome.applied` — the steps that a run reports, and those it takes.
* `EndsEarly` — why a run ends before its first step, dry or not.
* `run_dry_eq_ok`, `applied_of_real` — the other runs.
* `dry_run_previews` — what a dry run and a real run have in common.
-/

set_option autoImplicit false

namespace AssetPublish

open FileSystem Run

variable {fs : FileSystem} {steps : List Operation} {settings : Settings}
  {around : Circumstances} {error : RunError} {tally : Tally} {events : List ScanEvent}

/-! ## Steps in a history -/

namespace RunEvent

/-- The step that an event reports. -/
def reported? : RunEvent → Option Operation
  | reported operation _ => some operation
  | _ => none

/-- The step that an event says to be done. -/
def applied? : RunEvent → Option Operation
  | applied operation => some operation
  | _ => none

/-- The step that an event tells the observer of. -/
def told? : RunEvent → Option Operation
  | told operation => some operation
  | _ => none

@[simp] theorem reported?_unprinted (event : RunEvent) :
    event.unprinted.reported? = event.reported? := by
  cases event <;> rfl

@[simp] theorem applied?_unprinted (event : RunEvent) :
    event.unprinted.applied? = event.applied? := by
  cases event <;> rfl

@[simp] theorem told?_unprinted (event : RunEvent) : event.unprinted.told? = event.told? := by
  cases event <;> rfl

end RunEvent

namespace Run.Outcome

/-- The steps that the run has reported.  They are read off the history, in the order in which they
were told. -/
def reported (outcome : Outcome) : List Operation :=
  outcome.history.filterMap RunEvent.reported?

/-- The steps that the run has taken.  A step that failed has begun, but is not among them. -/
def applied (outcome : Outcome) : List Operation :=
  outcome.history.filterMap RunEvent.applied?

theorem reported_eq (outcome : Outcome) :
    outcome.reported = (outcome.history.map RunEvent.unprinted).filterMap RunEvent.reported? := by
  simp [reported]

theorem applied_eq (outcome : Outcome) :
    outcome.applied = (outcome.history.map RunEvent.unprinted).filterMap RunEvent.applied? := by
  simp [applied]

theorem steps_eq (outcome : Outcome) :
    outcome.steps = (outcome.history.map RunEvent.unprinted).filterMap RunEvent.told? := by
  have htold : outcome.steps = outcome.history.filterMap RunEvent.told? :=
    List.filterMap_congr fun event _ => by cases event <;> rfl
  simp [htold]

end Run.Outcome

/-- Before the first step no step is reported, done, or told to the observer. -/
theorem mem_openingEvents {event : RunEvent}
    (h : event ∈ openingEvents around settings events steps) :
    event.reported? = none ∧ event.applied? = none ∧ event.told? = none := by
  rw [openingEvents, List.mem_append, List.mem_append, List.mem_cons, List.mem_map,
    List.mem_singleton] at h
  rcases h with ((rfl | ⟨told, -, rfl⟩) | rfl) | hshowed
  · exact ⟨rfl, rfl, rfl⟩
  · exact ⟨rfl, rfl, rfl⟩
  · exact ⟨rfl, rfl, rfl⟩
  · split at hshowed
    · rw [List.mem_singleton.1 hshowed]
      exact ⟨rfl, rfl, rfl⟩
    · simp at hshowed

/-- What is told of each step gives back the steps. -/
theorem filterMap_flatMap_eq {pick : RunEvent → Option Operation}
    {tell : Operation → List RunEvent}
    (h : ∀ operation, (tell operation).filterMap pick = [operation]) (steps : List Operation) :
    (steps.flatMap tell).filterMap pick = steps := by
  induction steps with
  | nil => rfl
  | cons operation rest ih => rw [List.flatMap_cons, List.filterMap_append, h, ih]; rfl

/-! ## Runs that end before their first step -/

/-- The run ends before its first step: its settings are refused, or there is no plan, or the
observer fails when it is shown.  There are these three ways and no others, and in each of them the
reason is the one that this part of the run has given. -/
inductive EndsEarly (settings : Settings) (around : Circumstances) (fs : FileSystem) :
    RunError → Prop
  | refused {error : RunError} (h : settings.check fs around.caller = .error error) :
    EndsEarly settings around fs error
  | unplanned {error : RunError} (hcheck : settings.check fs around.caller = .ok ())
    (h : (settings.plan fs around.caller).result = .error error) :
    EndsEarly settings around fs error
  | unshown {error : RunError} {steps : List Operation}
    (hcheck : settings.check fs around.caller = .ok ())
    (hplan : (settings.plan fs around.caller).result = .ok steps)
    (h : planAnswer around steps fs = .error error) : EndsEarly settings around fs error

theorem endsEarly_or (settings : Settings) (around : Circumstances) (fs : FileSystem) :
    (∃ error, EndsEarly settings around fs error) ∨ ∃ steps,
      settings.check fs around.caller = .ok () ∧
      (settings.plan fs around.caller).result = .ok steps ∧ planAnswer around steps fs = .ok () := by
  cases hcheck : settings.check fs around.caller with
  | error error => exact Or.inl ⟨error, .refused hcheck⟩
  | ok =>
    cases hplan : (settings.plan fs around.caller).result with
    | error error => exact Or.inl ⟨error, .unplanned hcheck hplan⟩
    | ok steps =>
      cases hanswer : planAnswer around steps fs with
      | error error => exact Or.inl ⟨error, .unshown hcheck hplan hanswer⟩
      | ok => exact Or.inr ⟨steps, rfl, rfl, hanswer⟩

/-- Whether a run ends early does not depend on whether it is a dry one. -/
theorem EndsEarly.withDryRun (h : EndsEarly settings around fs error) (value : Value) :
    EndsEarly (settings.withDryRun value) around fs error := by
  cases h with
  | refused hcheck => exact .refused hcheck
  | unplanned hcheck hplan => exact .unplanned hcheck hplan
  | unshown hcheck hplan hanswer => exact .unshown hcheck hplan hanswer

/-- **A run that ends early** has changed nothing, and has told the observer of no step.  This is
true of a dry run and of a real one. -/
theorem EndsEarly.run (hidle : around.Idle) (h : EndsEarly settings around fs error) :
    (settings.run around fs).result = .error error ∧ (settings.run around fs).fs = fs ∧
      (settings.run around fs).steps = [] := by
  cases h with
  | refused hcheck =>
    rw [run_of_check_eq_error hcheck]
    exact ⟨rfl, rfl, rfl⟩
  | unplanned hcheck hplan =>
    rw [run_of_plan_eq_error hcheck hplan]
    refine ⟨rfl, rfl, List.filterMap_eq_nil_iff.2 fun event hmem => ?_⟩
    rcases unplanned_scanned _ _ event hmem with ⟨printed, rfl⟩ | ⟨told, rfl⟩
    · rfl
    · rfl
  | unshown hcheck hplan hanswer =>
    obtain ⟨hresult, hsame, hhistory⟩ := run_of_planAnswer_eq_error hidle hcheck hplan hanswer
    refine ⟨hresult, hsame, ?_⟩
    rw [Outcome.steps_eq, hhistory]
    exact List.filterMap_eq_nil_iff.2 fun event hmem => (mem_openingEvents hmem).2.2

/-! ## Two runs

The same settings are taken once as a dry run and once as a real one. -/

/-- **A dry run that does not end early** reports the steps of its plan. -/
theorem run_dry_eq_ok (hidle : around.Idle) (hdry : settings.dryRun = true)
    (hfits : settings.Fits fs around.caller) (hcheck : settings.check fs around.caller = .ok ())
    (hplan : (settings.plan fs around.caller).result = .ok steps)
    (hanswer : planAnswer around steps fs = .ok ()) :
    (settings.run around fs).result = .ok (finalTally settings fs around.caller steps) ∧
      (settings.run around fs).steps = [] ∧ (settings.run around fs).reported = steps := by
  obtain ⟨hresult, hhistory⟩ := run_dry_of_plan hidle hdry hfits hcheck hplan hanswer
  refine ⟨hresult, ?_, ?_⟩
  · rw [Outcome.steps_eq, hhistory, List.filterMap_eq_nil_iff]
    intro event hmem
    rcases List.mem_append.1 hmem with hmem | hmem
    · rcases List.mem_append.1 hmem with hmem | hmem
      · exact (mem_openingEvents hmem).2.2
      · obtain ⟨operation, -, hmem⟩ := List.mem_flatMap.1 hmem
        simp only [previewEvents, List.mem_cons, List.not_mem_nil, or_false] at hmem
        rcases hmem with rfl | rfl <;> rfl
    · simp only [closingEvents, List.mem_cons, List.not_mem_nil, or_false] at hmem
      rcases hmem with rfl | rfl <;> rfl
  · rw [Outcome.reported_eq, hhistory, List.filterMap_append, List.filterMap_append,
      List.filterMap_eq_nil_iff.2 fun event hmem => (mem_openingEvents hmem).1,
      filterMap_flatMap_eq (fun _ => rfl) steps]
    simp [closingEvents, RunEvent.reported?]

/-- A run that ends well takes the steps of its plan. -/
theorem applied_of_real (hidle : around.Idle) (hreal : settings.dryRun = false)
    (h : (settings.run around fs).result = .ok tally) : ∃ steps,
      settings.check fs around.caller = .ok () ∧
      (settings.plan fs around.caller).result = .ok steps ∧ planAnswer around steps fs = .ok () ∧
      tally = finalTally settings fs around.caller steps ∧
      (settings.run around fs).applied = steps := by
  obtain ⟨steps, hcheck, hplan, hanswer, -, hhistory, htally⟩ := run_real_eq_ok hidle hreal h
  refine ⟨steps, hcheck, hplan, hanswer, htally, ?_⟩
  have hstep : ∀ operation,
      (stepEvents around operation).filterMap RunEvent.applied? = [operation] := by
    intro operation
    rw [stepEvents]
    split <;> rfl
  rw [Outcome.applied_eq, hhistory, List.filterMap_append, List.filterMap_append,
    List.filterMap_eq_nil_iff.2 fun event hmem => (mem_openingEvents hmem).2.1,
    filterMap_flatMap_eq hstep steps]
  simp [closingEvents, RunEvent.applied?]

/-- Only one of the counts depends on whether the run is a dry one. -/
theorem finalTally_withDryRun (settings : Settings) (fs : FileSystem) (caller : Caller)
    (steps : List Operation) (value : Value) :
    finalTally (settings.withDryRun value) fs caller steps
      = { finalTally settings fs caller steps with dryRun := value.isSet } :=
  foldl_count_dryRun steps
    { dryRun := settings.dryRun, excluded := (settings.plan fs caller).excluded } value.isSet

/-- **A dry run is a preview of the real one.**  It changes nothing, and tells the observer of no
step.  If the real run ends well, then so does the dry run, with the same statistics, and it reports
the steps that the real run takes.  If the dry run fails, then so does the real run, for the same
reason and with nothing changed.  A real run can still fail where the dry run does not, at a step,
and nothing is said about this here. -/
theorem dry_run_previews (hidle : around.Idle) (hfits : settings.Fits fs around.caller) :
    ((settings.withDryRun (.bool true)).run around fs).fs = fs ∧
    ((settings.withDryRun (.bool true)).run around fs).steps = [] ∧
    (∀ tally, ((settings.withDryRun (.bool false)).run around fs).result = .ok tally →
      tally.dryRun = false ∧
      ((settings.withDryRun (.bool true)).run around fs).result
        = .ok { tally with dryRun := true } ∧
      ((settings.withDryRun (.bool true)).run around fs).reported
        = ((settings.withDryRun (.bool false)).run around fs).applied) ∧
    (∀ error, ((settings.withDryRun (.bool true)).run around fs).result = .error error →
      ((settings.withDryRun (.bool false)).run around fs).result = .error error ∧
      ((settings.withDryRun (.bool false)).run around fs).fs = fs) := by
  rcases endsEarly_or (settings.withDryRun (.bool true)) around fs with
    ⟨error, hearly⟩ | ⟨steps, hcheck, hplan, hanswer⟩
  · -- Whatever stops a run before its first step stops the other one too.
    obtain ⟨hdry, hsame, hsteps⟩ := hearly.run hidle
    obtain ⟨hreal, hkept, -⟩ := (hearly.withDryRun (.bool false)).run hidle
    refine ⟨hsame, hsteps, fun tally hok => ?_, fun other hother => ?_⟩
    · exact absurd (hreal.symm.trans hok) (by simp)
    · rw [hdry] at hother
      obtain rfl := Except.error.inj hother
      exact ⟨hreal, hkept⟩
  · have hdryRun : (settings.withDryRun (.bool true)).dryRun = true := rfl
    have hdryFits : (settings.withDryRun (.bool true)).Fits fs around.caller := hfits
    obtain ⟨hdry, hsteps, hreported⟩ := run_dry_eq_ok hidle hdryRun hdryFits hcheck hplan hanswer
    refine ⟨?_, hsteps, fun tally hok => ?_, fun other hother => ?_⟩
    · obtain ⟨hsame | ⟨_, -, -, hreal, -⟩, -⟩ :=
        run_cases (settings.withDryRun (.bool true)) fs hidle
      · exact hsame
      · exact absurd (hreal.symm.trans hdryRun) (by decide)
    · obtain ⟨taken, -, htaken, -, rfl, happlied⟩ := applied_of_real hidle rfl hok
      obtain rfl := Except.ok.inj (htaken.symm.trans hplan)
      refine ⟨?_, ?_, hreported.trans happlied.symm⟩
      · rw [finalTally_withDryRun]
        rfl
      · rw [hdry, finalTally_withDryRun, finalTally_withDryRun]
        rfl
    · exact absurd (hdry.symm.trans hother) (by simp)

theorem dry_run_previews_linkedTree :
    Circumstances.Idle watchedCircumstances ∧ linkedSettings.Fits linkedTree superuser ∧
      ((linkedSettings.withDryRun (.bool true)).run watchedCircumstances linkedTree).fs = linkedTree ∧
      ∃ tally, ((linkedSettings.withDryRun (.bool false)).run watchedCircumstances linkedTree).result
          = .ok tally ∧
        ((linkedSettings.withDryRun (.bool true)).run watchedCircumstances linkedTree).result
          = .ok { tally with dryRun := true } ∧
        ((linkedSettings.withDryRun (.bool true)).run watchedCircumstances linkedTree).reported
          = ((linkedSettings.withDryRun (.bool false)).run watchedCircumstances linkedTree).applied := by
  have hidle : watchedCircumstances.Idle := by
    rintro _ ⟨⟩
    exact Observer.idle_passive
  have hfits := fits_of_sizeBelow_root linkedSettings superuser
    (show linkedTree.sizeBelow [] < sizeBound by decide +kernel)
  obtain ⟨hsame, -, hreal, -⟩ := dry_run_previews hidle hfits
  have hok : ((linkedSettings.withDryRun (.bool false)).run watchedCircumstances
      linkedTree).result.isOk = true := by decide +kernel
  cases hresult : ((linkedSettings.withDryRun (.bool false)).run watchedCircumstances
      linkedTree).result with
  | error error => rw [hresult] at hok; simp [Except.isOk, Except.toBool] at hok
  | ok tally =>
    obtain ⟨-, hdry, hreported⟩ := hreal tally hresult
    exact ⟨hidle, hfits, hsame, tally, rfl, hdry, hreported⟩

end AssetPublish
