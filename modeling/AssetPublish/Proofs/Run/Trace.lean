import AssetPublish.Proofs.Run.Steps

/-!
# The history of a run

What a run tells is fixed by its plan and by where it breaks off: each step that is taken is begun,
done, counted, reported and told to the observer, in this order and before the next one begins.
Printed texts are left out here, since they depend on how talkative the program is.

A run is one computation that changes a state and may break off, and what is proved about runs is
proved from equations that say what each of its parts does to the state: to the tree, to the tally
and to the history.  The parts are taken here in the order in which they are put together: one step,
all steps, and a whole run.  Callers use these equations and do not open the computation again.

The claims on histories only ask which events come in which order, and this order is the same for a
talkative run and for a quiet one.  `Tells` says what has been added between two states once the
texts are left out; it is closed under composition, so that the history of a run is the histories of
its parts, one after the other.

## What is here

* `Circumstances.Neutral` — observers who do not fail either.
* `RunEvent.unprinted` — an event without the text that it prints.
* `stepEvents`, `previewEvents`, `openingEvents` — what is told of a step, and before all steps.
* `takeSteps_eq_ok`, `takeSteps_eq_error`, `takeSteps_dry` — the steps of a plan.
* `run_of_check_eq_error`, `run_of_plan_eq_error`, `run_of_plan_eq_ok` — the three courses of a run.
* `outcome_showPlan`, `outcome_summarize` — what comes before and after the steps.
-/

set_option autoImplicit false

namespace AssetPublish

/-- Whoever is told of the run neither fails nor changes anything.  Observers are programs of the
caller's own, who may do anything to the tree while they are told.  A statement on what a run does
by itself has to keep them from doing so. -/
def Observer.Neutral (observer : Observer) : Prop :=
  (∀ plan fs, (observer.onPlan plan).perform fs = (.ok (), fs)) ∧
    ∀ index operation fs, (observer.onStep index operation).perform fs = (.ok (), fs)

/-- Observers, if there are any, neither fail nor change anything. -/
def Circumstances.Neutral (around : Circumstances) : Prop :=
  ∀ observer, around.observer = some observer → observer.Neutral

theorem Observer.neutral_passive : Observer.passive.Neutral := ⟨fun _ _ => rfl, fun _ _ _ => rfl⟩

theorem Circumstances.Neutral.idle {around : Circumstances} (h : around.Neutral) : around.Idle := by
  intro observer hobserver
  obtain ⟨hplan, hstep⟩ := h observer hobserver
  exact ⟨fun plan fs => by rw [hplan], fun index operation fs => by rw [hstep]⟩

/-! ## Events

A run and its dry run tell the same of a step where both do something: it is counted and reported.
What only one of them does is told by events of its own. -/

/-- An event without the text that it prints. -/
def RunEvent.unprinted : RunEvent → RunEvent
  | started _ => started .nothing
  | reported operation _ => reported operation .nothing
  | summarized _ => summarized .nothing
  | event => event

/-- What is told of a step that is taken.  The observer comes last: he is told of a step only when
it has been done, counted and reported. -/
def stepEvents (around : Circumstances) (operation : Operation) : List RunEvent :=
  [.began operation, .applied operation, .counted operation, .reported operation .nothing] ++
    if around.observer.isSome then [.told operation] else []

/-- What is told of a step in a dry run.  Nothing is begun or done then, and the observer is not
told either. -/
def previewEvents (operation : Operation) : List RunEvent :=
  [.counted operation, .reported operation .nothing]

/-- What is told before the first step. -/
def openingEvents (around : Circumstances) (settings : Settings) (events : List ScanEvent)
    (steps : List Operation) : List RunEvent :=
  .started .nothing :: events.map .scanned ++ [.planned settings steps.length] ++
    if around.observer.isSome then [.showed steps] else []

namespace Run

variable {around : Circumstances} {settings : Settings} {state state' : State}
  {operation : Operation} {steps : List Operation} {index : Nat} {error : RunError}

/-- From one state to the next, some events are told.  Texts are left out on both sides, so that
histories of the same run with different voices tell the same. -/
def Tells (events : List RunEvent) (state state' : State) : Prop :=
  state'.history.map RunEvent.unprinted = state.history.map RunEvent.unprinted ++ events

theorem Tells.trans {first second : List RunEvent} {state'' : State} (h : Tells first state state')
    (h' : Tells second state' state'') : Tells (first ++ second) state state'' := by
  rw [Tells] at h h' ⊢
  rw [h', h, List.append_assoc]

/-- The state with more events told. -/
def State.add (state : State) (events : List RunEvent) : State :=
  { state with history := state.history ++ events }

theorem tells_add (state : State) (events : List RunEvent) :
    Tells (events.map RunEvent.unprinted) state (state.add events) := by
  rw [Tells, State.add, List.map_append]

theorem outcome_tell (event : RunEvent) (state : State) :
    outcome (tell event) state = (.ok ⟨⟩, state.add [event]) := rfl

theorem outcome_runAsk {α : Type} (answer : Except Fault α) (state : State) :
    outcome (Run.ask answer) state = (answer.mapError .fault, state) := by
  cases answer <;> rfl

theorem outcome_letAct (act : Act Unit) (state : State) :
    outcome (letAct act) state
      = ((act.perform state.fs).1.mapError .fault, { state with fs := (act.perform state.fs).2 }) := by
  rw [letAct, outcome_bind_of_ok (outcome_get state)]
  rcases hperform : act.perform state.fs with ⟨answer, fs⟩
  cases answer <;> rfl

/-! ## One step

A step is applied, then settled: counted, reported and told to the observer.  Only applying it
touches the tree. -/

/-- Applying a step, with what is told of it. -/
theorem outcome_applyStep (around : Circumstances) (operation : Operation) (state : State) :
    outcome (applyStep around operation) state =
      match operation.apply around.caller (around.disturbance operation) state.fs with
      | (.ok (), fs) => (.ok (), State.add { state with fs } [.began operation, .applied operation])
      | (.error fault, fs) =>
        (.error (.ofApply fault), State.add { state with fs } [.began operation]) := by
  rw [applyStep, outcome_bind_of_ok (outcome_tell _ _), outcome_bind_of_ok (outcome_get _)]
  simp only [State.add]
  rcases operation.apply around.caller (around.disturbance operation) state.fs with ⟨answer, fs⟩
  cases answer with
  | error fault => rfl
  | ok done =>
    simp only
    rw [outcome_bind_of_ok (show outcome (set _) _ = (.ok ⟨⟩, _) from rfl), outcome_tell, State.add]
    simp

/-- A step that nothing strikes does its work, and its faults are told apart.  Errors of the system
are told with the step that strikes them; all other faults are passed on as they are. -/
theorem apply_none (caller : Caller) (operation : Operation) (fs : FileSystem) :
    operation.apply caller none fs =
      match outcome (operation.handle caller) fs with
      | (.ok (), left) => (.ok (), left)
      | (.error (.system error), left) => (.error (.system operation error), left)
      | (.error fault, left) => (.error (.fault fault), left) := rfl

/-- A step that the system refuses from outside. -/
theorem apply_refusal (caller : Caller) (operation : Operation) (fs : FileSystem) (code : Int)
    (text : String) : operation.apply caller (some (.refusal code text)) fs
      = (.error (.system operation (.refused (.other code text))), fs) := rfl

theorem apply_interruption (caller : Caller) (operation : Operation) (fs : FileSystem) :
    operation.apply caller (some .interruption) fs = (.error (.fault .interrupted), fs) := rfl

/-- A step that is applied has done its work. -/
theorem apply_eq_ok {caller : Caller} {disturbance : Option Disturbance} {fs left : FileSystem}
    (h : operation.apply caller disturbance fs = (.ok (), left)) :
    outcome (operation.handle caller) fs = (.ok (), left) := by
  cases disturbance with
  | some struck =>
    cases struck with
    | refusal code text => rw [apply_refusal] at h; simp at h
    | interruption => rw [apply_interruption] at h; simp at h
  | none =>
    rw [apply_none] at h
    split at h
    · rename_i heq
      obtain ⟨-, rfl⟩ := Prod.mk.inj h
      exact heq
    · simp at h
    · simp at h

/-- A step that is not applied has struck an error of the system, which is told with the step, or
has failed by itself in another way. -/
theorem apply_eq_error {caller : Caller} {disturbance : Option Disturbance} {fs left : FileSystem}
    {fault : ApplyFault} (hquiet : disturbance ≠ some .interruption)
    (h : operation.apply caller disturbance fs = (.error fault, left)) :
    (∃ error, fault = .system operation error) ∨ ∃ cause, fault = .fault cause ∧
      outcome (operation.handle caller) fs = (.error cause, left) ∧
      ∀ error, cause ≠ .system error := by
  cases disturbance with
  | some struck =>
    cases struck with
    | refusal code text =>
      rw [apply_refusal, Prod.mk.injEq, Except.error.injEq] at h
      exact Or.inl ⟨_, h.1.symm⟩
    | interruption => exact absurd rfl hquiet
  | none =>
    rw [apply_none] at h
    split at h
    · simp at h
    · rw [Prod.mk.injEq, Except.error.injEq] at h
      exact Or.inl ⟨_, h.1.symm⟩
    · rename_i cause _ hother heq
      rw [Prod.mk.injEq, Except.error.injEq] at h
      obtain ⟨rfl, rfl⟩ := h
      exact Or.inr ⟨cause, rfl, heq, fun error herror => hother error herror⟩

theorem outcome_countStep (operation : Operation) (state : State) :
    outcome (countStep operation) state
      = (.ok ⟨⟩, State.add { state with tally := state.tally.count operation }
          [.counted operation]) := rfl

theorem outcome_reportStep (around : Circumstances) (dryRun : Bool) (operation : Operation)
    (state : State) :
    outcome (reportStep around dryRun operation) state =
      match Report.step around.voice state.fs around.caller dryRun operation with
      | .ok printed => (.ok ⟨⟩, state.add [.reported operation printed])
      | .error fault => (.error (.fault fault), state) := by
  rw [reportStep, outcome_bind_of_ok (outcome_get state), outcome_bind, outcome_runAsk]
  cases Report.step around.voice state.fs around.caller dryRun operation <;> rfl

theorem outcome_tellObserver (hneutral : around.Neutral) (index : Nat) (operation : Operation)
    (state : State) :
    outcome (tellObserver around index operation) state
      = (.ok ⟨⟩, state.add (if around.observer.isSome then [.told operation] else [])) := by
  rw [tellObserver]
  cases hobserver : around.observer with
  | none =>
    simp only [Option.isSome_none, Bool.false_eq_true, if_false, State.add, List.append_nil]
    rfl
  | some observer =>
    simp only [Option.isSome_some, if_true]
    rw [outcome_bind_of_ok (outcome_tell _ _), outcome_letAct,
      (hneutral observer hobserver).2 index operation]
    rfl

/-- An observer who leaves the tree alone may fail, but is told of the step before. -/
theorem tellObserver_eq_ok (hidle : around.Idle)
    (h : outcome (tellObserver around index operation) state = (.ok (), state')) :
    state' = state.add (if around.observer.isSome then [.told operation] else []) := by
  rw [tellObserver] at h
  cases hobserver : around.observer with
  | none =>
    rw [hobserver] at h
    obtain ⟨-, rfl⟩ := Prod.mk.inj (show _ = _ from h)
    simp [State.add]
  | some observer =>
    rw [hobserver] at h
    simp only at h
    rw [outcome_bind_of_ok (outcome_tell _ _), outcome_letAct] at h
    obtain ⟨-, rfl⟩ := Prod.mk.inj h
    rw [(hidle observer hobserver).2 index operation]
    rfl

/-- What is told of a step after it has been applied.  This part is the same for every step and
cannot fail by itself, apart from the report and the observer. -/
def settleEvents (around : Circumstances) (operation : Operation) : List RunEvent :=
  .counted operation :: .reported operation .nothing ::
    if around.observer.isSome then [.told operation] else []

theorem stepEvents_eq (around : Circumstances) (operation : Operation) :
    stepEvents around operation
      = [.began operation, .applied operation] ++ settleEvents around operation := rfl

/-- A step that has been applied is counted, reported and told to the observer. -/
theorem settle_eq_ok (hidle : around.Idle)
    (h : outcome (settle around index operation) state = (.ok (), state')) :
    Tells (settleEvents around operation) state state' ∧
      state'.fs = state.fs ∧ state'.tally = state.tally.count operation := by
  rw [settle, outcome_bind_of_ok (outcome_countStep _ _)] at h
  rcases outcome_bind_eq h with ⟨error, -, herror⟩ | ⟨⟨⟩, told, hreport, htell⟩
  · simp at herror
  · rw [outcome_reportStep] at hreport
    obtain rfl := tellObserver_eq_ok hidle htell
    split at hreport
    · obtain ⟨-, rfl⟩ := Prod.mk.inj hreport
      refine ⟨?_, rfl, rfl⟩
      rw [Tells, settleEvents]
      simp only [State.add, List.map_append]
      split <;> simp [RunEvent.unprinted]
    · simp at hreport

/-- A step that can be reported is settled, if the observer does not fail. -/
theorem settle_of_report (hneutral : around.Neutral) (index : Nat) (state : State)
    {printed : Printed}
    (hreport : Report.step around.voice state.fs around.caller false operation = .ok printed) :
    ∃ settled, outcome (settle around index operation) state = (.ok (), settled) := by
  rw [settle, outcome_bind_of_ok (outcome_countStep _ _), outcome_bind, outcome_reportStep]
  simp only [State.add, hreport]
  exact ⟨_, outcome_tellObserver hneutral index operation _⟩

/-! ## All steps

A step that fails ends the run, so that the steps that are taken are always the first ones of the
plan. -/

/-- **Steps that are all taken** have all done their work, and each is told of as a whole.  By
induction on the steps: the state that settling the first leaves is the one from which the rest are
taken, and its tree is the one that the step itself has left. -/
theorem takeSteps_eq_ok (hidle : around.Idle)
    (h : outcome (takeSteps around false index steps) state = (.ok (), state')) :
    AllTaken around.caller steps state.fs state'.fs ∧
      Tells (steps.flatMap (stepEvents around)) state state' ∧
      state'.tally = steps.foldl Tally.count state.tally := by
  induction steps generalizing index state with
  | nil =>
    rw [takeSteps] at h
    obtain ⟨-, rfl⟩ := Prod.mk.inj (show _ = _ from h)
    exact ⟨.nil, by simp [Tells], rfl⟩
  | cons operation rest ih =>
    rw [takeSteps_cons] at h
    rcases outcome_bind_eq h with ⟨error, -, herror⟩ | ⟨⟨⟩, applied, happly, h⟩
    · simp at herror
    rcases outcome_bind_eq h with ⟨error, -, herror⟩ | ⟨⟨⟩, settled, hsettle, h⟩
    · simp at herror
    obtain ⟨hall, htells, htally⟩ := ih h
    obtain ⟨htold, hsame, hcounted⟩ := settle_eq_ok hidle hsettle
    rw [outcome_applyStep] at happly
    split at happly
    · rename_i fs hdone
      obtain ⟨-, rfl⟩ := Prod.mk.inj happly
      have hhandle := apply_eq_ok hdone
      rw [hsame] at hall
      refine ⟨.cons hhandle hall, ?_, ?_⟩
      · rw [List.flatMap_cons, stepEvents_eq]
        exact ((tells_add _ _).trans htold).trans htells
      · rw [htally, hcounted]
        rfl
    · simp at happly

/-- **Steps that are not all taken** break off at one that fails, if all others can be reported: it
is begun, and nothing is told of it or of those behind it any more.  The induction carries the steps
before the failing one along: they are taken, and told of as a whole, while of the failing one it is
only told that it has begun. -/
theorem takeSteps_eq_error (hneutral : around.Neutral)
    (hreports : ∀ operation ∈ steps, ∀ fs left,
      outcome (operation.handle around.caller) fs = (.ok (), left) →
        ∃ printed, Report.step around.voice left around.caller false operation = .ok printed)
    (h : outcome (takeSteps around false index steps) state = (.error error, state')) :
    ∃ before operation after mid fault, steps = before ++ operation :: after ∧
      AllTaken around.caller before state.fs mid ∧
      operation.apply around.caller (around.disturbance operation) mid
        = (.error fault, state'.fs) ∧ error = .ofApply fault ∧
      Tells (before.flatMap (stepEvents around) ++ [.began operation]) state state' := by
  induction steps generalizing index state with
  | nil =>
    rw [takeSteps] at h
    obtain ⟨herror, -⟩ := Prod.mk.inj (show _ = _ from h)
    simp at herror
  | cons operation rest ih =>
    rw [takeSteps_cons, outcome_bind, outcome_applyStep] at h
    rcases happly : operation.apply around.caller (around.disturbance operation) state.fs
      with ⟨answer, fs⟩
    rw [happly] at h
    cases answer with
    | error fault =>
      simp only [Prod.mk.injEq, Except.error.injEq] at h
      obtain ⟨rfl, rfl⟩ := h
      exact ⟨[], operation, rest, state.fs, fault, rfl, .nil, happly, rfl, tells_add _ _⟩
    | ok done =>
      simp only at h
      -- The step has done its work and is reported; what fails comes behind it.
      have hhandle := apply_eq_ok happly
      obtain ⟨printed, hreport⟩ := hreports operation List.mem_cons_self _ _ hhandle
      obtain ⟨settled, hsettle⟩ := settle_of_report hneutral index
        (State.add { state with fs } [.began operation, .applied operation]) hreport
      obtain ⟨htold, hsame, -⟩ := settle_eq_ok hneutral.idle hsettle
      rw [outcome_bind_of_ok hsettle] at h
      obtain ⟨before, failing, after, mid, fault, rfl, hall, hfault, rfl, htells⟩ :=
        ih (fun other hother => hreports other (List.mem_cons_of_mem _ hother)) h
      rw [hsame] at hall
      refine ⟨operation :: before, failing, after, mid, fault, rfl, .cons hhandle hall, hfault, rfl,
        ?_⟩
      rw [List.flatMap_cons, stepEvents_eq, List.append_assoc]
      exact ((tells_add _ _).trans htold).trans htells

theorem takeSteps_dry_cons (index : Nat) (operation : Operation) (rest : List Operation) :
    takeSteps around true index (operation :: rest) = (do
      countStep operation
      reportStep around true operation
      takeSteps around true (index + 1) rest) := by
  rw [takeSteps]
  simp only [Bool.not_true, Bool.false_eq_true, if_false]

/-- **The steps of a dry run** are counted and reported, if they can be reported.  The tree stays
the same from step to step, so that it is enough if the steps can be reported in the tree that the
run finds. -/
theorem takeSteps_dry (index : Nat) (state : State)
    (hreports : ∀ operation ∈ steps,
      ∃ printed, Report.step around.voice state.fs around.caller true operation = .ok printed) :
    ∃ state', outcome (takeSteps around true index steps) state = (.ok (), state') ∧
      state'.fs = state.fs ∧ Tells (steps.flatMap previewEvents) state state' ∧
      state'.tally = steps.foldl Tally.count state.tally := by
  induction steps generalizing index state with
  | nil => exact ⟨state, rfl, rfl, by simp [Tells], rfl⟩
  | cons operation rest ih =>
    obtain ⟨printed, hreport⟩ := hreports operation List.mem_cons_self
    obtain ⟨state', hrest, hsame, htells, htally⟩ :=
      ih (index + 1)
        (State.add { state with tally := state.tally.count operation }
          [.counted operation, .reported operation printed])
        fun other hother => hreports other (List.mem_cons_of_mem _ hother)
    refine ⟨state', ?_, hsame, ?_, htally⟩
    · rw [takeSteps_dry_cons, outcome_bind_of_ok (outcome_countStep _ _), outcome_bind,
        outcome_reportStep]
      simp only [State.add, hreport]
      simpa [State.add] using hrest
    · rw [List.flatMap_cons]
      exact (tells_add _ _).trans htells

/-! ## A whole run

Settings are checked, a plan is made, and its steps are taken.  A run ends in each of these three
parts or comes to its own end, and there is one equation for each. -/

/-- The rest of a run once there is a plan.  Nothing that comes before this changes the tree, so
that a proof on what a run does to the tree begins here. -/
def conclude (around : Circumstances) (settings : Settings) (steps : List Operation) :
    RunM Unit := do
  showPlan around steps
  takeSteps around settings.dryRun 0 steps
  tell (.finished settings.dryRun steps.length)
  summarize around

/-- The state of a run once there is a plan.  The tree is still the one that the run has found. -/
def planned (around : Circumstances) (settings : Settings) (fs : FileSystem)
    (steps : List Operation) : State :=
  let plan := settings.plan fs around.caller
  { fs
    history := .started (Report.header around.voice settings) :: plan.events.map .scanned ++
      [.planned settings steps.length]
    tally := { dryRun := settings.dryRun, excluded := plan.excluded } }

/-- What became of a run that ends in a state. -/
def Outcome.ofEnd (result : Except RunError Unit × State) : Outcome :=
  { history := result.2.history
    result := result.1.map fun _ => result.2.tally
    fs := result.2.fs }

theorem outcome_scanned (events : List ScanEvent) (state : State) :
    outcome (events.forM fun event => tell (.scanned event)) state
      = (.ok ⟨⟩, state.add (events.map .scanned)) := by
  induction events generalizing state with
  | nil =>
    rw [List.map_nil, State.add, List.append_nil]
    rfl
  | cons event rest ih =>
    rw [show (event :: rest).forM (fun event => tell (.scanned event))
        = (tell (.scanned event) >>= fun _ => rest.forM fun event => tell (.scanned event)) from rfl,
      outcome_bind_of_ok (outcome_tell _ _), ih]
    simp [State.add]

/-- The state of a run once the source has been scanned. -/
def scannedState (settings : Settings) (caller : Caller) (state : State) : State :=
  let plan := settings.plan state.fs caller
  { state with
    history := state.history ++ plan.events.map .scanned
    tally := { state.tally with excluded := plan.excluded } }

theorem outcome_makePlan (around : Circumstances) (settings : Settings) (state : State) :
    outcome (makePlan around settings) state =
      outcome (match (settings.plan state.fs around.caller).result with
        | .ok steps => do
          tell (.planned settings steps.length)
          return steps
        | .error error => throw error) (scannedState settings around.caller state) := by
  rw [makePlan, outcome_bind_of_ok (outcome_get state), outcome_bind_of_ok (outcome_scanned _ _),
    outcome_bind_of_ok (outcome_modify _ _)]
  rfl

end Run

open Run

variable {around : Circumstances} {settings : Settings} {fs : FileSystem} {error : RunError}
  {steps : List Operation}

theorem run_eq_ofEnd (settings : Settings) (around : Circumstances) (fs : FileSystem) :
    settings.run around fs = .ofEnd (outcome (perform around settings)
      { fs, history := [], tally := { dryRun := settings.dryRun } }) := rfl

/-- **Refused settings** are all that there is of a run. -/
theorem run_of_check_eq_error (h : settings.check fs around.caller = .error error) :
    settings.run around fs = ⟨[], .error error, fs⟩ := by
  rw [run_eq_ofEnd, perform, outcome_bind_of_ok (outcome_get _), h]
  rfl

/-- Accepted settings are announced, and planned. -/
theorem outcome_perform_of_check (hcheck : settings.check fs around.caller = .ok ())
    (tally : Tally) :
    outcome (perform around settings) { fs, history := [], tally } = outcome (do
        let steps ← makePlan around settings
        conclude around settings steps)
      { fs, history := [.started (Report.header around.voice settings)], tally } := by
  rw [perform, outcome_bind_of_ok (outcome_get _), hcheck]
  rfl

/-- **A run without a plan** has scanned the source, and that is all. -/
theorem run_of_plan_eq_error (hcheck : settings.check fs around.caller = .ok ())
    (h : (settings.plan fs around.caller).result = .error error) :
    settings.run around fs
      = ⟨.started (Report.header around.voice settings) ::
          (settings.plan fs around.caller).events.map .scanned, .error error, fs⟩ := by
  rw [run_eq_ofEnd, outcome_perform_of_check hcheck, outcome_bind, outcome_makePlan]
  simp only [h]
  rfl

/-- **A run with a plan** goes on from the state that is reached then. -/
theorem run_of_plan_eq_ok (hcheck : settings.check fs around.caller = .ok ())
    (h : (settings.plan fs around.caller).result = .ok steps) :
    settings.run around fs
      = .ofEnd (outcome (conclude around settings steps) (planned around settings fs steps)) := by
  rw [run_eq_ofEnd, outcome_perform_of_check hcheck, outcome_bind, outcome_makePlan]
  simp only [h]
  rfl

/-! ## The plan and the summary -/

/-- What the observer answers to the plan.  His answer can end the run before its first step. -/
def planAnswer (around : Circumstances) (steps : List Operation) (fs : FileSystem) :
    Except RunError Unit :=
  match around.observer with
  | none => .ok ()
  | some observer => ((observer.onPlan steps).perform fs).1.mapError .fault

theorem planAnswer_of_neutral (h : around.Neutral) (steps : List Operation) (fs : FileSystem) :
    planAnswer around steps fs = .ok () := by
  rw [planAnswer]
  split
  · rfl
  · rename_i observer hobserver
    rw [(h observer hobserver).1]
    rfl

/-- The plan is shown, whatever the observer answers.  The event is told before he is asked. -/
theorem outcome_showPlan (hidle : around.Idle) (steps : List Operation) (state : State) :
    outcome (showPlan around steps) state = (planAnswer around steps state.fs,
      state.add (if around.observer.isSome then [.showed steps] else [])) := by
  rw [showPlan, planAnswer]
  cases hobserver : around.observer with
  | none =>
    simp only [Option.isSome_none, Bool.false_eq_true, if_false, State.add, List.append_nil]
    rfl
  | some observer =>
    simp only [Option.isSome_some, if_true]
    rw [outcome_bind_of_ok (outcome_tell _ _), outcome_letAct]
    simp only [State.add, (hidle observer hobserver).1]

theorem outcome_summarize (around : Circumstances) (state : State) :
    outcome (summarize around) state
      = ((Report.summary around.voice state.tally.toValue).2.mapError .fault,
        state.add [.summarized (Report.summary around.voice state.tally.toValue).1]) := by
  rw [summarize, outcome_bind_of_ok (outcome_get state)]
  rcases Report.summary around.voice state.tally.toValue with ⟨printed, answer⟩
  cases answer <;> rfl

/-- What is told before the first step. -/
theorem tells_opening (around : Circumstances) (settings : Settings) (fs : FileSystem)
    (steps : List Operation) :
    Tells (openingEvents around settings (settings.plan fs around.caller).events steps)
      { fs, history := [], tally := { dryRun := settings.dryRun } }
      ((planned around settings fs steps).add
        (if around.observer.isSome then [.showed steps] else [])) := by
  rw [Tells, openingEvents, planned, State.add]
  have hscanned : ∀ events : List ScanEvent,
      (events.map RunEvent.scanned).map RunEvent.unprinted = events.map RunEvent.scanned := by
    intro events
    rw [List.map_map]
    rfl
  simp only [List.map_append, List.map_cons, List.map_nil, hscanned, List.nil_append]
  split <;> rfl

end AssetPublish
