import AssetPublish.Proofs.Procedure
import AssetPublish.Run.Basic

/-!
# The steps of a run

A run checks, plans, and takes its steps; only the steps change the tree.  Here a run is reduced to
the steps that it takes, so that what a run does to the tree can be told step by step.

The reduction is used for what a run does to the tree, where printing, counting and telling play no
part, and where observers are supposed to leave the tree alone.  `Taken` is a relation on file
systems: whether a run ended by a failure of a step, by a disturbance or by a report that could not
be given, it has taken some steps of its plan in order.  Statements of the form "whatever becomes of
the run" are then proved by induction on it.

## What is here

* `Circumstances.Idle` — observers, if there are any, who leave the tree alone.
* `Taken`, `AllTaken` — some steps of a plan are taken, or all of them.
* `run_cases` — a run leaves the tree as it is, or takes steps of its plan; if it ends well and is
  no dry run, it takes all of them.
-/

set_option autoImplicit false

namespace AssetPublish

/-- Whoever is told of the run leaves the tree alone.  An observer may still fail and so end the
run; only the tree is meant. -/
def Observer.Idle (observer : Observer) : Prop :=
  (∀ plan fs, ((observer.onPlan plan).perform fs).2 = fs) ∧
    ∀ index operation fs, ((observer.onStep index operation).perform fs).2 = fs

/-- Observers, if there are any, leave the tree alone. -/
def Circumstances.Idle (around : Circumstances) : Prop :=
  ∀ observer, around.observer = some observer → observer.Idle

theorem Observer.idle_passive : Observer.passive.Idle := ⟨fun _ _ => rfl, fun _ _ _ => rfl⟩

/-- Some steps of a plan are taken in order; the last of them may fail, and then keeps what it has
done so far.  A run that ends between two steps is the case in which no step is the last one. -/
inductive Taken (caller : Caller) : List Operation → FileSystem → FileSystem → Prop
  | none {steps : List Operation} {fs : FileSystem} : Taken caller steps fs fs
  | last {operation : Operation} {rest : List Operation} {fs fs' : FileSystem}
      {result : Except Fault Unit} (h : outcome (operation.handle caller) fs = (result, fs')) :
      Taken caller (operation :: rest) fs fs'
  | next {operation : Operation} {rest : List Operation} {fs mid fs' : FileSystem}
      (h : outcome (operation.handle caller) fs = (.ok (), mid)) (hrest : Taken caller rest mid fs') :
      Taken caller (operation :: rest) fs fs'

/-- All steps of a plan are taken in order.  Together with `unique` it says what a run that ends
well has made of the tree. -/
inductive AllTaken (caller : Caller) : List Operation → FileSystem → FileSystem → Prop
  | nil {fs : FileSystem} : AllTaken caller [] fs fs
  | cons {operation : Operation} {rest : List Operation} {fs mid fs' : FileSystem}
      (h : outcome (operation.handle caller) fs = (.ok (), mid))
      (hrest : AllTaken caller rest mid fs') : AllTaken caller (operation :: rest) fs fs'

namespace AllTaken

variable {caller : Caller} {steps : List Operation} {fs out out' : FileSystem}

/-- What taking all steps comes to is determined. -/
theorem unique (h : AllTaken caller steps fs out) (h' : AllTaken caller steps fs out') :
    out = out' := by
  induction h with
  | nil =>
    cases h' with
    | nil => rfl
  | cons hfirst _ ih =>
    cases h' with
    | cons hfirst' hrest' =>
      obtain ⟨-, rfl⟩ := Prod.mk.inj (hfirst.symm.trans hfirst')
      exact ih hrest'

end AllTaken

namespace Run

variable {around : Circumstances} {settings : Settings} {state state' : State}
  {operation : Operation} {steps : List Operation} {index : Nat} {result : Except RunError Unit}

/-- The tree stays as it is. -/
def SameTree (state state' : State) : Prop := state'.fs = state.fs

theorem composes_sameTree : Composes SameTree := ⟨fun _ => rfl, fun h h' => h'.trans h⟩

theorem does_tell (event : RunEvent) : Does SameTree (tell event) := fun _ => rfl

theorem does_ask {α : Type} (answer : Except Fault α) : Does SameTree (Run.ask answer) := by
  cases answer with
  | ok value => exact Does.pure composes_sameTree value
  | error fault => exact Does.throw composes_sameTree _

theorem does_letAct {act : Act Unit} (h : ∀ fs, (act.perform fs).2 = fs) :
    Does SameTree (letAct act) := by
  refine Does.get_bind ?_
  intro seen
  have hperform := h seen.fs
  rcases hact : act.perform seen.fs with ⟨answer, fs⟩
  rw [hact] at hperform
  simp only at hperform
  subst hperform
  exact does_ask answer _

theorem does_countStep (operation : Operation) : Does SameTree (countStep operation) :=
  fun _ => rfl

theorem does_reportStep (around : Circumstances) (dryRun : Bool) (operation : Operation) :
    Does SameTree (reportStep around dryRun operation) :=
  Does.get_bind fun seen =>
    (does_ask _).bind composes_sameTree (fun printed => does_tell (.reported operation printed)) seen

theorem does_tellObserver (hidle : around.Idle) (index : Nat) (operation : Operation) :
    Does SameTree (tellObserver around index operation) := by
  rw [tellObserver]
  cases hobserver : around.observer with
  | none => exact Does.pure composes_sameTree _
  | some observer =>
    exact (does_tell _).bind composes_sameTree fun _ =>
      does_letAct ((hidle observer hobserver).2 index operation)

theorem does_showPlan (hidle : around.Idle) (steps : List Operation) :
    Does SameTree (showPlan around steps) := by
  rw [showPlan]
  cases hobserver : around.observer with
  | none => exact Does.pure composes_sameTree _
  | some observer =>
    exact (does_tell _).bind composes_sameTree fun _ =>
      does_letAct ((hidle observer hobserver).1 steps)

theorem does_summarize (around : Circumstances) : Does SameTree (summarize around) :=
  Does.get_bind fun seen => (does_tell _).bind composes_sameTree (fun _ => does_ask _) seen

/-- An attempt at a step does its work, or a disturbance strikes before. -/
theorem perform_attempt_cases {answer : Except Fault Unit} {fs left : FileSystem}
    (h : (operation.attempt around.caller (around.disturbance operation)).perform fs
      = (answer, left)) :
    ((∃ fault, answer = .error fault) ∧ left = fs) ∨
      outcome (operation.handle around.caller) fs = (answer, left) := by
  cases hdisturbance : around.disturbance operation with
  | none => rw [hdisturbance] at h; exact Or.inr h
  | some disturbance =>
    rw [hdisturbance] at h
    obtain ⟨rfl, rfl⟩ := Prod.mk.inj (show _ = _ from h)
    exact Or.inl ⟨⟨_, rfl⟩, rfl⟩

/-- A step does its work, or it fails, before or while doing it.  A step that fails may have done a
part of its work; what that can be is told by its handler. -/
theorem applyStep_cases
    (h : outcome (applyStep around operation) state = (result, state')) :
    (result = .ok () ∧
      outcome (operation.handle around.caller) state.fs = (.ok (), state'.fs)) ∨
    ((∃ error, result = .error error) ∧ (state'.fs = state.fs ∨
      ∃ answer, outcome (operation.handle around.caller) state.fs = (answer, state'.fs))) := by
  rw [applyStep, outcome_bind_of_ok (show outcome (tell _) state = (.ok ⟨⟩, _) from rfl),
    outcome_bind_of_ok (outcome_get _)] at h
  simp only at h
  rw [Operation.apply] at h
  rcases hperform : (operation.attempt around.caller (around.disturbance operation)).perform
    state.fs with ⟨answer, fs⟩
  rw [hperform] at h
  rcases perform_attempt_cases hperform with ⟨⟨fault, rfl⟩, rfl⟩ | hhandle
  · right
    cases fault with
    | system error =>
      obtain ⟨rfl, rfl⟩ := Prod.mk.inj (show _ = _ from h)
      exact ⟨⟨_, rfl⟩, Or.inl rfl⟩
    | _ =>
      obtain ⟨rfl, rfl⟩ := Prod.mk.inj (show _ = _ from h)
      exact ⟨⟨_, rfl⟩, Or.inl rfl⟩
  · cases answer with
    | ok done =>
      left
      obtain ⟨rfl, rfl⟩ := Prod.mk.inj (show _ = _ from h)
      exact ⟨rfl, hhandle⟩
    | error fault =>
      right
      cases fault with
      | system error =>
        obtain ⟨rfl, rfl⟩ := Prod.mk.inj (show _ = _ from h)
        exact ⟨⟨_, rfl⟩, Or.inr ⟨_, hhandle⟩⟩
      | _ =>
        obtain ⟨rfl, rfl⟩ := Prod.mk.inj (show _ = _ from h)
        exact ⟨⟨_, rfl⟩, Or.inr ⟨_, hhandle⟩⟩

/-- What follows on a step before the next one is taken.  It is given a name since the proofs treat
it as a whole: none of its parts touches the tree. -/
def settle (around : Circumstances) (index : Nat) (operation : Operation) : RunM Unit := do
  countStep operation
  reportStep around false operation
  tellObserver around index operation

theorem takeSteps_cons (index : Nat) (operation : Operation) (rest : List Operation) :
    takeSteps around false index (operation :: rest) = (do
      applyStep around operation
      settle around index operation
      takeSteps around false (index + 1) rest) := by
  rw [takeSteps, settle]
  simp only [Bool.not_false, if_true, bind_assoc]

theorem does_settle (hidle : around.Idle) (index : Nat) (operation : Operation) :
    Does SameTree (settle around index operation) :=
  (does_countStep operation).bind composes_sameTree fun _ =>
    (does_reportStep around false operation).bind composes_sameTree fun _ =>
      does_tellObserver hidle index operation

/-- **The steps of a run are taken one after the other.**  By induction on the steps.  A run that
ends after a step has been applied, because it could not be reported for instance, has taken that
step and no more. -/
theorem takeSteps_cases (hidle : around.Idle)
    (h : outcome (takeSteps around false index steps) state = (result, state')) :
    Taken around.caller steps state.fs state'.fs ∧
      (result = .ok () → AllTaken around.caller steps state.fs state'.fs) := by
  induction steps generalizing index state with
  | nil =>
    rw [takeSteps] at h
    obtain ⟨rfl, rfl⟩ := Prod.mk.inj (show _ = _ from h)
    exact ⟨.none, fun _ => .nil⟩
  | cons operation rest ih =>
    rw [takeSteps_cons] at h
    rcases outcome_bind_eq h with ⟨error, happly, rfl⟩ | ⟨⟨⟩, applied, happly, h⟩
    · rcases applyStep_cases happly with ⟨hok, -⟩ | ⟨-, hsame | ⟨answer, hhandle⟩⟩
      · simp at hok
      · rw [hsame]
        exact ⟨.none, by simp⟩
      · exact ⟨.last hhandle, by simp⟩
    · rcases applyStep_cases happly with ⟨-, hhandle⟩ | ⟨⟨error, herror⟩, -⟩
      · have hsettle := does_settle hidle index operation
        rcases outcome_bind_eq h with ⟨error, hfail, rfl⟩ | ⟨⟨⟩, settled, hdone, h⟩
        · rw [show state'.fs = applied.fs from hsettle.of_outcome hfail]
          exact ⟨.next hhandle .none, by simp⟩
        · obtain ⟨htaken, hall⟩ := ih h
          rw [show settled.fs = applied.fs from hsettle.of_outcome hdone] at htaken hall
          exact ⟨.next hhandle htaken, fun hok => .cons hhandle (hall hok)⟩
      · simp at herror

theorem does_takeSteps_dry (around : Circumstances) (steps : List Operation) (index : Nat) :
    Does SameTree (takeSteps around true index steps) := by
  induction steps generalizing index with
  | nil => exact Does.pure composes_sameTree _
  | cons operation rest ih =>
    rw [takeSteps]
    exact (does_countStep operation).bind composes_sameTree fun _ =>
      (does_reportStep around true operation).bind composes_sameTree fun _ => ih (index + 1)

/-! ## A whole run

The tree from which the plan is made is the one that the steps find, since nothing before the first
step changes it. -/

/-- The plan of a run is the one for the tree that the run finds. -/
theorem makePlan_cases {answer : Except RunError (List Operation)}
    (h : outcome (makePlan around settings) state = (answer, state')) :
    state'.fs = state.fs ∧
      ∀ steps, answer = .ok steps →
        (settings.plan state.fs around.caller).result = .ok steps := by
  rw [makePlan, outcome_bind_of_ok (outcome_get state)] at h
  have htold : Does SameTree ((settings.plan state.fs around.caller).events.forM fun event =>
      tell (.scanned event)) :=
    Does.forM composes_sameTree fun event _ => does_tell _
  rcases outcome_bind_eq h with ⟨error, hfail, rfl⟩ | ⟨⟨⟩, told, hdone, h⟩
  · exact ⟨htold.of_outcome hfail, by simp⟩
  · have hsame := htold.of_outcome hdone
    rw [outcome_bind_of_ok (outcome_modify _ _)] at h
    cases hresult : (settings.plan state.fs around.caller).result with
    | error error =>
      rw [hresult] at h
      obtain ⟨rfl, rfl⟩ := Prod.mk.inj (show _ = _ from h)
      exact ⟨hsame, by simp⟩
    | ok steps =>
      rw [hresult] at h
      obtain ⟨rfl, rfl⟩ := Prod.mk.inj (show _ = _ from h)
      refine ⟨hsame, ?_⟩
      intro other hother
      rw [Except.ok.injEq] at hother
      rw [hother]

end Run

variable {around : Circumstances} {settings : Settings} {fs : FileSystem}

/-- What a run has done when it ends: nothing, a dry run of its plan, or steps of it.  A dry run is
a case of its own, as it has a plan and takes none of its steps. -/
theorem outcome_perform_cases (hidle : around.Idle) {state state' : Run.State}
    {result : Except RunError Unit}
    (h : outcome (Run.perform around settings) state = (result, state')) :
    (state'.fs = state.fs ∧ ∃ error, result = .error error) ∨ ∃ steps,
      settings.check state.fs around.caller = .ok () ∧
      (settings.plan state.fs around.caller).result = .ok steps ∧
      ((settings.dryRun = true ∧ state'.fs = state.fs) ∨ (settings.dryRun = false ∧
        Taken around.caller steps state.fs state'.fs ∧
        (result = .ok () → AllTaken around.caller steps state.fs state'.fs))) := by
  rw [Run.perform, outcome_bind_of_ok (outcome_get state)] at h
  cases hcheck : settings.check state.fs around.caller with
  | error error =>
    rw [hcheck] at h
    obtain ⟨rfl, rfl⟩ := Prod.mk.inj (show _ = _ from h)
    exact Or.inl ⟨rfl, error, rfl⟩
  | ok =>
    rw [hcheck] at h
    have hrest : outcome (do
        Run.tell (.started (Report.header around.voice settings))
        let steps ← Run.makePlan around settings
        Run.showPlan around steps
        Run.takeSteps around settings.dryRun 0 steps
        Run.tell (.finished settings.dryRun steps.length)
        Run.summarize around) state = (result, state') := h
    rw [outcome_bind_of_ok (show outcome (Run.tell _) state = (.ok ⟨⟩, _) from rfl)] at hrest
    rcases outcome_bind_eq hrest with ⟨error, hplan, rfl⟩ | ⟨steps, planned, hplan, hrest⟩
    · exact Or.inl ⟨(Run.makePlan_cases hplan).1, error, rfl⟩
    obtain ⟨hsame, hsteps⟩ := Run.makePlan_cases hplan
    have hsteps := hsteps steps rfl
    rcases outcome_bind_eq hrest with ⟨error, hshow, rfl⟩ | ⟨⟨⟩, shown, hshow, hrest⟩
    · have hshown := (Run.does_showPlan hidle steps).of_outcome hshow
      exact Or.inl ⟨hshown.trans hsame, error, rfl⟩
    have hshown : shown.fs = state.fs :=
      ((Run.does_showPlan hidle steps).of_outcome hshow).trans hsame
    refine Or.inr ⟨steps, rfl, hsteps, ?_⟩
    -- What follows the last step only tells, so it does not matter here whether it fails.
    have hlast : Does Run.SameTree (do
        Run.tell (.finished settings.dryRun steps.length)
        Run.summarize around) :=
      (Run.does_tell _).bind Run.composes_sameTree fun _ => Run.does_summarize around
    cases hdry : settings.dryRun with
    | true =>
      rw [hdry] at hrest hlast
      have hdoes := (Run.does_takeSteps_dry around steps 0).bind Run.composes_sameTree
        fun _ => hlast
      exact Or.inl ⟨rfl, (hdoes.of_outcome hrest).trans hshown⟩
    | false =>
      rw [hdry] at hrest hlast
      rcases outcome_bind_eq hrest with ⟨error, htake, rfl⟩ | ⟨⟨⟩, taken, htake, hrest⟩
      · obtain ⟨htaken, -⟩ := Run.takeSteps_cases hidle htake
        rw [hshown] at htaken
        exact Or.inr ⟨rfl, htaken, by simp⟩
      · obtain ⟨htaken, hall⟩ := Run.takeSteps_cases hidle htake
        rw [hshown, ← show state'.fs = taken.fs from hlast.of_outcome hrest] at htaken hall
        exact Or.inr ⟨rfl, htaken, fun _ => hall rfl⟩

/-- **A run leaves the tree as it is, or takes steps of its plan.**  If it ends well and is no dry
run, it takes all of them.  Most statements about what a run does to the tree begin with this one.
-/
theorem run_cases (settings : Settings) (fs : FileSystem) (hidle : around.Idle) :
    ((settings.run around fs).fs = fs ∨ ∃ steps, settings.check fs around.caller = .ok () ∧
      (settings.plan fs around.caller).result = .ok steps ∧ settings.dryRun = false ∧
      Taken around.caller steps fs (settings.run around fs).fs) ∧
    (∀ tally, (settings.run around fs).result = .ok tally → settings.dryRun = false →
      ∃ steps, settings.check fs around.caller = .ok () ∧
        (settings.plan fs around.caller).result = .ok steps ∧
        AllTaken around.caller steps fs (settings.run around fs).fs) := by
  rw [Settings.run]
  rcases hrun : outcome (Run.perform around settings)
    { fs, history := [], tally := { dryRun := settings.dryRun } } with ⟨result, state'⟩
  have hcases := outcome_perform_cases hidle hrun
  rw [outcome] at hrun
  simp only [hrun]
  rcases hcases with ⟨hsame, error, rfl⟩ | ⟨steps, hcheck, hplan, ⟨hdry, hsame⟩ | ⟨hreal, htaken, hall⟩⟩
  · exact ⟨Or.inl hsame, by simp [Except.map]⟩
  · refine ⟨Or.inl hsame, ?_⟩
    intro tally _ hreal
    rw [hdry] at hreal
    simp at hreal
  · refine ⟨Or.inr ⟨steps, hcheck, hplan, hreal, htaken⟩, fun tally htally _ => ?_⟩
    cases result with
    | error error => simp [Except.map] at htally
    | ok done => exact ⟨steps, hcheck, hplan, hall rfl⟩

end AssetPublish
