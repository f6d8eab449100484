import AssetPublish.Proofs.Run.Trace
import AssetPublish.Run.History

/-!
# Watching a run does not change it

An observer who neither fails nor changes anything leaves a run as it would be without one.  The two
runs go the same way procedure by procedure: the watched one tells two more kinds of events, and
everything else is the same, down to the texts that are printed.

Here the second run has fewer events than the first, so that the two are not compared in step but
through a function: `unwatched` takes away what only the observer is told, and a procedure goes the
same way if it commutes with this function.  Equality of texts is kept, since the display is such an
observer and must not change what is printed besides it.

## What is here

* `Circumstances.unwatched` — circumstances without an observer.
* `RunEvent.isForObserver`, `Run.Outcome.unwatched` — a run without what only the observer is told.
* `Run.SameWay` — a procedure that goes the same way when nobody watches.
* `run_unwatched` — a watched run is the unwatched one with more events.
* `Run.Outcome.printed_unwatched`, `Run.Outcome.logs_unwatched` — those events are neither printed
  nor logged.
-/

set_option autoImplicit false

namespace AssetPublish

/-- The same circumstances with nobody watching. -/
def Circumstances.unwatched (around : Circumstances) : Circumstances :=
  { around with observer := none }

/-- Whether it is only the observer for whom something happens.  These are the plan when it is
shown, and the steps that he is told of. -/
def RunEvent.isForObserver : RunEvent → Bool
  | showed _ => true
  | told _ => true
  | _ => false

namespace Run

/-- A history without what only the observer is told. -/
def unwatchedEvents (history : List RunEvent) : List RunEvent :=
  history.filter fun event => !event.isForObserver

/-- A state without what only the observer has been told. -/
def State.unwatched (state : State) : State :=
  { state with history := unwatchedEvents state.history }

/-- A run without what only the observer has been told. -/
def Outcome.unwatched (outcome : Outcome) : Outcome :=
  { outcome with history := unwatchedEvents outcome.history }

/-- One procedure does, where nobody watches, what another one does where somebody may.  It is asked
for all states, so that it can be used wherever the procedure stands in a run. -/
def SameWay {α : Type} (act act' : RunM α) : Prop :=
  ∀ state : State, outcome act' state.unwatched
    = ((outcome act state).1, (outcome act state).2.unwatched)

variable {around : Circumstances} {settings : Settings} {operation : Operation}
  {steps : List Operation}

theorem State.unwatched_add (state : State) (events : List RunEvent) :
    (state.add events).unwatched = state.unwatched.add (unwatchedEvents events) := by
  simp [State.unwatched, State.add, unwatchedEvents]

/-- **Procedures one after the other** go the same way if each of them does.  The answers are equal,
so that both go on with the same procedure. -/
theorem SameWay.bind {α β : Type} {act act' : RunM α} {next next' : α → RunM β}
    (hact : SameWay act act') (hnext : ∀ answer, SameWay (next answer) (next' answer)) :
    SameWay (act >>= next) (act' >>= next') := by
  intro state
  rw [outcome_bind, outcome_bind, hact state]
  rcases outcome act state with ⟨answer, left⟩
  cases answer with
  | error error => rfl
  | ok answer => exact hnext answer left

/-! ## The parts of a run

Only two procedures turn to the observer; for all others the two texts are the same. -/

theorem sameWay_tell {event : RunEvent} (h : event.isForObserver = false) :
    SameWay (tell event) (tell event) := by
  intro state
  rw [outcome_tell, outcome_tell, State.unwatched_add]
  simp [unwatchedEvents, h]

theorem sameWay_applyStep (around : Circumstances) (operation : Operation) :
    SameWay (applyStep around operation) (applyStep around.unwatched operation) := by
  intro state
  rw [outcome_applyStep, outcome_applyStep]
  simp only [Circumstances.unwatched, State.unwatched]
  rcases operation.apply around.caller (around.disturbance operation) state.fs with ⟨answer, fs⟩
  cases answer <;> simp [State.add, unwatchedEvents, RunEvent.isForObserver]

theorem sameWay_countStep (operation : Operation) :
    SameWay (countStep operation) (countStep operation) := by
  intro state
  simp [outcome_countStep, State.unwatched, State.add, unwatchedEvents, RunEvent.isForObserver]

theorem sameWay_reportStep (around : Circumstances) (dryRun : Bool) (operation : Operation) :
    SameWay (reportStep around dryRun operation)
      (reportStep around.unwatched dryRun operation) := by
  intro state
  rw [outcome_reportStep, outcome_reportStep]
  simp only [Circumstances.unwatched, State.unwatched]
  cases Report.step around.voice state.fs around.caller dryRun operation <;>
    simp [State.add, unwatchedEvents, RunEvent.isForObserver]

theorem sameWay_tellObserver (hneutral : around.Neutral) (index : Nat) (operation : Operation) :
    SameWay (tellObserver around index operation)
      (tellObserver around.unwatched index operation) := by
  intro state
  rw [outcome_tellObserver hneutral]
  refine Prod.ext rfl ?_
  rw [State.unwatched_add]
  show state.unwatched = _
  split <;> simp [State.add, unwatchedEvents, RunEvent.isForObserver]

theorem sameWay_showPlan (hneutral : around.Neutral) (steps : List Operation) :
    SameWay (showPlan around steps) (showPlan around.unwatched steps) := by
  intro state
  rw [outcome_showPlan hneutral.idle, planAnswer_of_neutral hneutral]
  refine Prod.ext rfl ?_
  rw [State.unwatched_add]
  show state.unwatched = _
  split <;> simp [State.add, unwatchedEvents, RunEvent.isForObserver]

theorem sameWay_summarize (around : Circumstances) :
    SameWay (summarize around) (summarize around.unwatched) := by
  intro state
  rw [outcome_summarize, outcome_summarize, State.unwatched_add]
  rfl

theorem sameWay_takeSteps (hneutral : around.Neutral) (dryRun : Bool) (index : Nat) :
    SameWay (takeSteps around dryRun index steps)
      (takeSteps around.unwatched dryRun index steps) := by
  induction steps generalizing index with
  | nil => exact fun state => rfl
  | cons operation rest ih =>
    have hend := (sameWay_countStep operation).bind fun _ =>
      (sameWay_reportStep around dryRun operation).bind fun _ => ih (index + 1)
    cases dryRun with
    | true => rwa [takeSteps_dry_cons, takeSteps_dry_cons]
    | false =>
      rw [takeSteps_cons, takeSteps_cons]
      refine (sameWay_applyStep around operation).bind fun _ => ?_
      refine SameWay.bind ?_ fun _ => ih (index + 1)
      exact (sameWay_countStep operation).bind fun _ =>
        (sameWay_reportStep around false operation).bind fun _ =>
          sameWay_tellObserver hneutral index operation

theorem sameWay_conclude (hneutral : around.Neutral) (settings : Settings)
    (steps : List Operation) :
    SameWay (conclude around settings steps) (conclude around.unwatched settings steps) :=
  (sameWay_showPlan hneutral steps).bind fun _ =>
    (sameWay_takeSteps hneutral settings.dryRun 0).bind fun _ =>
      (sameWay_tell rfl).bind fun _ => sameWay_summarize around

/-! ## Whole runs -/

theorem unwatched_planned (around : Circumstances) (settings : Settings) (fs : FileSystem)
    (steps : List Operation) :
    (planned around settings fs steps).unwatched = planned around.unwatched settings fs steps := by
  simp [planned, State.unwatched, unwatchedEvents, Circumstances.unwatched, RunEvent.isForObserver]

end Run

open Run

variable {around : Circumstances} {settings : Settings} {fs : FileSystem}

/-- **A watched run is the run without an observer**, with more events.  That the observer is
neutral matters only once the settings are accepted.  Refused settings end a run before anybody is
told of it. -/
theorem run_unwatched (hneutral : settings.check fs around.caller = .ok () → around.Neutral) :
    (settings.run around fs).unwatched = settings.run around.unwatched fs := by
  cases hcheck : settings.check fs around.caller with
  | error error =>
    have hrun : settings.run around.unwatched fs = ⟨[], .error error, fs⟩ :=
      run_of_check_eq_error hcheck
    rw [run_of_check_eq_error hcheck, hrun]
    rfl
  | ok =>
    cases hplan : (settings.plan fs around.caller).result with
    | error error =>
      have hrun : settings.run around.unwatched fs
          = ⟨.started (Report.header around.voice settings) ::
            (settings.plan fs around.caller).events.map .scanned, .error error, fs⟩ :=
        run_of_plan_eq_error hcheck hplan
      rw [run_of_plan_eq_error hcheck hplan, hrun]
      simp [Outcome.unwatched, unwatchedEvents, RunEvent.isForObserver]
    | ok steps =>
      have hrun : settings.run around.unwatched fs
          = .ofEnd (outcome (conclude around.unwatched settings steps)
            (planned around.unwatched settings fs steps)) :=
        run_of_plan_eq_ok hcheck hplan
      rw [run_of_plan_eq_ok hcheck hplan, hrun, ← unwatched_planned,
        sameWay_conclude (hneutral hcheck)]
      rfl

/-! ## What is printed and logged -/

namespace Run

theorem printed_eq_nothing {event : RunEvent} (h : event.isForObserver = true) :
    event.printed = .nothing := by
  cases event <;> first | rfl | simp [RunEvent.isForObserver] at h

theorem foldl_printed_unwatched (history : List RunEvent) (before : Printed) :
    ((unwatchedEvents history).map RunEvent.printed).foldl (· ++ ·) before
      = (history.map RunEvent.printed).foldl (· ++ ·) before := by
  induction history generalizing before with
  | nil => rfl
  | cons event rest ih =>
    rw [unwatchedEvents, List.filter_cons]
    cases hevent : event.isForObserver with
    | false => exact ih _
    | true =>
      rw [List.map_cons, List.foldl_cons, printed_eq_nothing hevent, Printed.append_nothing]
      exact ih before

/-- Nothing is printed for the observer. -/
theorem Outcome.printed_unwatched (outcome : Outcome) :
    outcome.unwatched.printed = outcome.printed :=
  foldl_printed_unwatched outcome.history .nothing

/-- Nothing is logged for the observer. -/
theorem Outcome.logs_unwatched (outcome : Outcome) (duration : String) :
    outcome.unwatched.logs duration = outcome.logs duration := by
  show (unwatchedEvents outcome.history).flatMap _ = outcome.history.flatMap _
  induction outcome.history with
  | nil => rfl
  | cons event rest ih =>
    rw [unwatchedEvents, List.filter_cons]
    cases event <;> simpa [RunEvent.isForObserver, RunEvent.logs, unwatchedEvents] using ih

end Run

end AssetPublish
