import AssetPublish.Proofs.Run.Courses

/-!
# When a run ends well

If observers do nothing and no failure strikes from outside, only the work of the run itself can
fail, or putting a size into words.  So whether a run ends well is settled by its check, by its
plan, by whether all steps can be taken, and by the sizes that are reported.

The statement is an equivalence, so that it can be used in both directions: to show that a run ends
well, by giving the steps that can be taken, and to learn from a run that has ended well what its
steps have done.  Whether reports can be made does not depend on the voice alone.  A quiet program
puts no size into words, and so cannot fail where a talkative one does; `Operation.Reportable` and
`Tally.Summable` say for which voice they ask.

## What is here

* `Tally.Summable` — counts of which a summary can be given.
* `exists_takeSteps_iff` — the steps of a run.
* `run_real_eq_ok_iff` — a whole run.
* `run_of_allTaken` — if all sizes are small, it is enough that all steps can be taken.
-/

set_option autoImplicit false

namespace AssetPublish

open FileSystem Run

variable {fs out : FileSystem} {caller : Caller} {operation : Operation} {steps : List Operation}
  {settings : Settings} {around : Circumstances} {tally : Tally} {state : State} {voice : Voice}
  {index : Nat}

/-- Counts of which a summary can be given, if that is asked for at all.  It is one question for the
whole tally, since the sum of the sizes is the only number in it that is divided. -/
def Tally.Summable (voice : Voice) (tally : Tally) : Prop :=
  (Report.summary voice tally.toValue).2 = .ok ()

/-! ## The steps -/

/-- What has been done is settled exactly if it can be reported. -/
theorem exists_settle_iff (hneutral : around.Neutral) (index : Nat) (state : State)
    (hlink : ∃ text, Report.linkText? state.fs around.caller operation = .ok text) :
    (∃ settled, outcome (settle around index operation) state = (.ok (), settled)) ↔
      operation.Reportable around.voice := by
  rw [← exists_report_iff _ false hlink]
  constructor
  · rintro ⟨settled, h⟩
    rw [settle, outcome_bind_of_ok (outcome_countStep _ _)] at h
    rcases outcome_bind_eq h with ⟨error, -, herror⟩ | ⟨⟨⟩, reported, hreport, -⟩
    · simp at herror
    · rw [outcome_reportStep] at hreport
      split at hreport
      · rename_i printed hprinted
        exact ⟨printed, hprinted⟩
      · simp at hreport
  · rintro ⟨printed, hprinted⟩
    exact settle_of_report hneutral index state hprinted

/-- **The steps of a run are taken exactly if they all do their work and can all be reported.**  By
induction on the steps, where applying a step and settling it are looked at one by one. -/
theorem exists_takeSteps_iff (hneutral : around.Neutral)
    (hcalm : ∀ operation, around.disturbance operation = none) (index : Nat)
    (steps : List Operation) (state : State) :
    (∃ state', outcome (takeSteps around false index steps) state = (.ok (), state')) ↔
      (∃ out, AllTaken around.caller steps state.fs out) ∧
        ∀ operation ∈ steps, operation.Reportable around.voice := by
  induction steps generalizing index state with
  | nil => exact ⟨fun _ => ⟨⟨_, .nil⟩, by simp⟩, fun _ => ⟨state, rfl⟩⟩
  | cons operation rest ih =>
    rw [takeSteps_cons]
    constructor
    · rintro ⟨state', h⟩
      rcases outcome_bind_eq h with ⟨error, -, herror⟩ | ⟨⟨⟩, applied, happly, h⟩
      · simp at herror
      rcases outcome_bind_eq h with ⟨error, -, herror⟩ | ⟨⟨⟩, settled, hsettle, hrest⟩
      · simp at herror
      rcases applyStep_cases happly with ⟨-, hhandle⟩ | ⟨⟨error, herror⟩, -⟩
      · obtain ⟨⟨out, hout⟩, hreports⟩ := (ih _ _).1 ⟨state', hrest⟩
        rw [(does_settle hneutral.idle index operation).of_outcome hsettle] at hout
        have hfirst := (exists_settle_iff hneutral index applied
          (linkText?_of_handle hhandle)).1 ⟨settled, hsettle⟩
        exact ⟨⟨out, .cons hhandle hout⟩, List.forall_mem_cons.2 ⟨hfirst, hreports⟩⟩
      · simp at herror
    · rintro ⟨⟨out, hall⟩, hreports⟩
      obtain ⟨hfirst, hlater⟩ := List.forall_mem_cons.1 hreports
      cases hall with
      | @cons _ _ _ mid _ hhandle hrest =>
        have happly : outcome (applyStep around operation) state = (.ok (),
            State.add { state with fs := mid } [.began operation, .applied operation]) := by
          rw [outcome_applyStep, hcalm, apply_none, hhandle]
        have hlink : ∃ text, Report.linkText? mid around.caller operation = .ok text :=
          linkText?_of_handle hhandle
        obtain ⟨settled, hsettle⟩ := (exists_settle_iff hneutral index
          (State.add { state with fs := mid } [.began operation, .applied operation])
          hlink).2 hfirst
        have hsame := (does_settle hneutral.idle index operation).of_outcome hsettle
        rw [outcome_bind_of_ok happly, outcome_bind_of_ok hsettle]
        exact (ih _ _).2 ⟨⟨out, by rw [hsame]; exact hrest⟩, hlater⟩

/-! ## A whole run -/

/-- A run whose steps are taken ends with a summary of what has been counted. -/
theorem run_of_takeSteps (hneutral : around.Neutral)
    (hreal : settings.dryRun = false) (hcheck : settings.check fs around.caller = .ok ())
    (hplan : (settings.plan fs around.caller).result = .ok steps)
    (h : outcome (takeSteps around false 0 steps) (shownState around settings fs steps)
      = (.ok (), state)) (tally : Tally) :
    ((settings.run around fs).result = .ok tally ↔
        tally = state.tally ∧ state.tally.Summable around.voice) ∧
      (settings.run around fs).fs = state.fs := by
  rw [run_of_plan_eq_ok hcheck hplan,
    outcome_conclude hneutral.idle (planAnswer_of_neutral hneutral _ _), hreal,
    outcome_bind_of_ok h, outcome_bind_of_ok (outcome_tell _ _), outcome_summarize, Tally.Summable]
  refine ⟨?_, rfl⟩
  rw [show (state.add [_]).tally = state.tally from rfl]
  cases (Report.summary around.voice state.tally.toValue).2 with
  | error fault => simp [Outcome.ofEnd, Except.map]
  | ok done => simpa [Outcome.ofEnd, Except.map, State.add] using eq_comm

/-- A run whose steps are not all taken fails. -/
theorem run_of_not_takeSteps (hneutral : around.Neutral)
    (hreal : settings.dryRun = false) (hcheck : settings.check fs around.caller = .ok ())
    (hplan : (settings.plan fs around.caller).result = .ok steps)
    (h : ¬ ∃ state, outcome (takeSteps around false 0 steps) (shownState around settings fs steps)
      = (.ok (), state)) : (settings.run around fs).result ≠ .ok tally := by
  rw [run_of_plan_eq_ok hcheck hplan,
    outcome_conclude hneutral.idle (planAnswer_of_neutral hneutral _ _), hreal, outcome_bind]
  rcases htake : outcome (takeSteps around false 0 steps) (shownState around settings fs steps)
    with ⟨error | ⟨⟨⟩⟩, state⟩
  · simp [Outcome.ofEnd, Except.map]
  · exact absurd ⟨state, htake⟩ h

/-- **A real run ends well exactly if** its settings are accepted, there is a plan, all its steps
can be taken and reported, and the counts can be summarized.  What it leaves is what its steps
leave, and its tally is the one that counting them gives. -/
theorem run_real_eq_ok_iff (hneutral : around.Neutral)
    (hcalm : ∀ operation, around.disturbance operation = none) (hreal : settings.dryRun = false) :
    (settings.run around fs).result = .ok tally ∧ (settings.run around fs).fs = out ↔
      settings.check fs around.caller = .ok () ∧ ∃ steps,
        (settings.plan fs around.caller).result = .ok steps ∧
        AllTaken around.caller steps fs out ∧
        (∀ operation ∈ steps, operation.Reportable around.voice) ∧
        tally = finalTally settings fs around.caller steps ∧ tally.Summable around.voice := by
  cases hcheck : settings.check fs around.caller with
  | error error => simp [run_of_check_eq_error hcheck]
  | ok =>
    cases hplan : (settings.plan fs around.caller).result with
    | error error => simp [run_of_plan_eq_error hcheck hplan]
    | ok steps =>
      have htaken := exists_takeSteps_iff hneutral hcalm 0 steps
        (shownState around settings fs steps)
      by_cases htake : ∃ state, outcome (takeSteps around false 0 steps)
          (shownState around settings fs steps) = (.ok (), state)
      · obtain ⟨state, htake⟩ := htake
        obtain ⟨hall, -, htally⟩ := takeSteps_eq_ok hneutral.idle htake
        obtain ⟨hresult, hout⟩ := run_of_takeSteps hneutral hreal hcheck hplan htake tally
        have hfinal : state.tally = finalTally settings fs around.caller steps := htally
        rw [hresult, hout, hfinal]
        constructor
        · rintro ⟨⟨rfl, hsummable⟩, rfl⟩
          exact ⟨rfl, steps, rfl, hall, (htaken.1 ⟨state, htake⟩).2, rfl, hsummable⟩
        · rintro ⟨-, steps', hsteps, hall', -, rfl, hsummable⟩
          obtain rfl := Except.ok.inj hsteps
          exact ⟨⟨rfl, hsummable⟩, hall.unique hall'⟩
      · constructor
        · rintro ⟨hresult, -⟩
          exact absurd hresult (run_of_not_takeSteps hneutral hreal hcheck hplan htake)
        · rintro ⟨-, steps', hsteps, hall, hreports, -⟩
          obtain rfl := Except.ok.inj hsteps
          exact absurd (htaken.2 ⟨⟨out, hall⟩, hreports⟩) htake

/-- **A run whose steps all succeed** ends well, if no size is too large.  Sizes below the bound
have texts for every voice. -/
theorem run_of_allTaken (hneutral : around.Neutral)
    (hcalm : ∀ operation, around.disturbance operation = none) (hreal : settings.dryRun = false)
    (hfits : settings.Fits fs around.caller) (hcheck : settings.check fs around.caller = .ok ())
    (hplan : (settings.plan fs around.caller).result = .ok steps)
    (h : AllTaken around.caller steps fs out) :
    ∃ tally, (settings.run around fs).result = .ok tally ∧ (settings.run around fs).fs = out := by
  obtain ⟨⟨base, mode, hsource⟩, -⟩ := check_eq_ok hcheck
  have hreports : ∀ operation ∈ steps, operation.Reportable around.voice := fun operation hmem =>
    have ⟨text, htext, _⟩ := size?_of_lt (size_lt_of_mem hfits hsource hplan hmem)
    Or.inr ⟨text, htext⟩
  have hsummable : (finalTally settings fs around.caller steps).Summable around.voice := by
    rw [Tally.Summable, Report.summary_of_lt _ (finalTally_bytes_lt hfits hsource hplan)]
  exact ⟨_, (run_real_eq_ok_iff hneutral hcalm hreal).2
    ⟨hcheck, steps, hplan, h, hreports, rfl, hsummable⟩⟩

end AssetPublish
