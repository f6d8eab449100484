import AssetPublish.Proofs.Run.Containment
import AssetPublish.Proofs.Run.Courses
import AssetPublish.Proofs.SystemFaults
import AssetPublish.Run.History

/-!
# Runs that fail

A run stops at its first failure.  If that is a step that the system refuses, the steps before it
are done and told of, it is begun, and nothing else is heard of.  If it is anything else, no step
has begun, with one exception: a destination whose path holds a zero character passes for one where
nothing is, and the first step, which creates it, is what fails.

There are two kinds of failures, and they are told apart by their reason.  A step that the system
refuses gives a reason that names the step, and from the name alone it can be told how much has been
done: the plan up to this step and nothing after it.  Every other reason comes from the time before
the plan, with the tree untouched.

The exception is a consequence of how the roots are looked at.  A zero character is a matter of the
call and not of the system, so that the fault that it raises is not one that a step reports.
Whether anything is at such a destination is asked with a call that takes the character for a sign
that nothing is there; the first call that does not is the one that creates it.

## What is here

* `Unplanned` — histories that end before there is a plan.
* `run_fails_fast` — what is done and told by a run that fails.
-/

set_option autoImplicit false

namespace AssetPublish

open FileSystem Run

variable {fs mid : FileSystem} {caller : Caller} {operation : Operation}
  {before after : List Operation} {settings : Settings} {around : Circumstances} {base : Location}
  {mode : Nat} {error : RunError}

/-- No plan is made, nothing is reported, and no observer is called.  All that can have been told is
that the run has started, and what the scan has come to. -/
def Unplanned (history : List RunEvent) : Prop :=
  ∀ event ∈ history, (∃ printed, event = .started printed) ∨ ∃ told, event = .scanned told

theorem unplanned_scanned (printed : Printed) (events : List ScanEvent) :
    Unplanned (.started printed :: events.map .scanned) := by
  intro event hmem
  rcases List.mem_cons.1 hmem with rfl | hmem
  · exact Or.inl ⟨printed, rfl⟩
  · obtain ⟨told, -, rfl⟩ := List.mem_map.1 hmem
    exact Or.inr ⟨told, rfl⟩

theorem not_failed_of_check (h : settings.check fs caller = .error error) (operation : Operation)
    (cause : SystemError) : error ≠ .failed operation cause := by
  rintro rfl
  rcases check_eq_error h with hrefusal | ⟨fault, hfault⟩
  · simp [RunError.isRefusal] at hrefusal
  · simp at hfault

theorem not_failed_of_plan (h : (settings.plan fs caller).result = .error error)
    (operation : Operation) (cause : SystemError) : error ≠ .failed operation cause := by
  rintro rfl
  rcases plan_eq_error h with ⟨fault, hfault⟩ | ⟨fault, hfault⟩
  · cases fault <;> simp [RunError.ofScan] at hfault
  · simp at hfault

/-- With a zero character in its path, the destination is to be created first, and this fails. -/
theorem fails_at_creation
    (hsource : fs.follow? caller settings.source.text = .ok (base, .directory mode))
    (hplan : (settings.plan fs caller).result = .ok (before ++ operation :: after))
    (hnull : '\x00' ∈ settings.destination.text.toList) (hall : AllTaken caller before fs mid) :
    before = [] ∧ operation = { kind := .createDestination, target := settings.destination } ∧
      outcome (operation.handle caller) mid = (.error .nullByte, fs) := by
  obtain ⟨entrySteps, hsteps, -⟩ := plan_cases hsource hplan
  rw [occupied_null hnull, rootSteps, if_neg (by simp), List.nil_append, List.singleton_append]
    at hsteps
  cases hall with
  | nil =>
    obtain ⟨rfl, -⟩ := List.cons.inj hsteps
    exact ⟨rfl, rfl, handle_create_null hnull _⟩
  | cons hfirst hrest =>
    rw [List.cons_append] at hsteps
    obtain ⟨rfl, -⟩ := List.cons.inj hsteps
    rw [handle_create_null hnull] at hfirst
    simp at hfirst

/-- **A run that fails** either does so at a step, for a reason that the system reports: then the
steps before it are taken, with all that is told of a step, and of this one it is told only that it
is begun.  Or it fails otherwise, and then nothing is changed, and no step is begun but the creation
of a destination whose path holds a zero character.  The first part follows the plan up to the
failing step; the second rules out that anything is done if the reason is another one. -/
theorem run_fails_fast (hneutral : around.Neutral)
    (hquiet : ∀ operation, around.disturbance operation ≠ some .interruption)
    (hreal : settings.dryRun = false) (hfits : settings.Fits fs around.caller)
    (h : (settings.run around fs).result = .error error) :
    (∀ operation cause, error = .failed operation cause → ∃ before after mid,
      (settings.plan fs around.caller).result = .ok (before ++ operation :: after) ∧
      AllTaken around.caller before fs mid ∧
      operation.apply around.caller (around.disturbance operation) mid
        = (.error (.system operation cause), (settings.run around fs).fs) ∧
      (settings.run around fs).history.map RunEvent.unprinted
        = openingEvents around settings (settings.plan fs around.caller).events
            (before ++ operation :: after) ++
          before.flatMap (stepEvents around) ++ [.began operation]) ∧
    ((∀ operation cause, error ≠ .failed operation cause) →
      (settings.run around fs).fs = fs ∧
      (Unplanned (settings.run around fs).history ∨
        '\x00' ∈ settings.destination.text.toList ∧ error = .fault .nullByte ∧ ∃ creation rest,
          creation = { kind := .createDestination, target := settings.destination } ∧
          (settings.plan fs around.caller).result = .ok (creation :: rest) ∧
          (settings.run around fs).history.map RunEvent.unprinted
            = openingEvents around settings (settings.plan fs around.caller).events
                (creation :: rest) ++ [.began creation])) := by
  rcases run_real_eq_error hneutral hreal hfits h with ⟨hcheck, hrun⟩ | ⟨-, hplan, hrun⟩ |
    ⟨before, operation, after, mid, fault, hcheck, hplan, hall, hfault, herror, hhistory⟩
  · refine ⟨fun operation cause herror => absurd herror (not_failed_of_check hcheck _ _), ?_⟩
    intro _
    rw [hrun]
    exact ⟨rfl, Or.inl (by simp [Unplanned])⟩
  · refine ⟨fun operation cause herror => absurd herror (not_failed_of_plan hplan _ _), ?_⟩
    intro _
    rw [hrun]
    exact ⟨rfl, Or.inl (unplanned_scanned _ _)⟩
  obtain ⟨⟨base, mode, hsource⟩, -⟩ := check_eq_ok hcheck
  rcases apply_eq_error (hquiet operation) hfault with ⟨cause, rfl⟩ | ⟨cause, rfl, hhandle, hother⟩
  · refine ⟨?_, fun hnone => absurd herror (hnone operation cause)⟩
    intro failing reason hfailed
    obtain ⟨rfl, rfl⟩ := RunError.failed.inj (herror.symm.trans hfailed)
    exact ⟨before, after, mid, hplan, hall, hfault, hhistory⟩
  · refine ⟨fun failing reason hfailed => ?_, fun _ => ?_⟩
    · exact absurd (herror.symm.trans hfailed) (by simp [RunError.ofApply])
    -- Without the zero character, the system has a reason for whatever fails.
    have hnull : '\x00' ∈ settings.destination.text.toList := by
      by_contra hnull
      have hmem : operation ∈ before ++ operation :: after := by simp
      obtain ⟨reason, rfl⟩ := failsBySystem_of_plan hsource hplan hnull hmem mid cause
        (by rw [hhandle])
      exact hother reason rfl
    obtain ⟨rfl, hcreation, hnothing⟩ := fails_at_creation hsource hplan hnull hall
    rw [hhandle] at hnothing
    obtain ⟨hcause, hsame⟩ := Prod.mk.inj hnothing
    obtain rfl := Except.error.inj hcause
    refine ⟨hsame, Or.inr ⟨hnull, herror, operation, after, hcreation, hplan, ?_⟩⟩
    simpa using hhistory

/-- Whether a run fails for a reason of some kind.  It can be computed, so that runs on given trees
can be tested for it. -/
def Run.Outcome.failsBy (outcome : Run.Outcome) (kind : RunError → Bool) : Bool :=
  match outcome.result with
  | .ok _ => false
  | .error error => kind error

theorem Run.Outcome.exists_of_failsBy {outcome : Run.Outcome} {kind : RunError → Bool}
    (h : outcome.failsBy kind = true) :
    ∃ error, outcome.result = .error error ∧ kind error = true := by
  rw [failsBy] at h
  split at h
  · simp at h
  · exact ⟨_, by assumption, h⟩

/-- Whether a step is the reason. -/
def RunError.isFailed : RunError → Bool
  | failed _ _ => true
  | _ => false

theorem RunError.exists_of_isFailed (h : error.isFailed = true) :
    ∃ operation cause, error = .failed operation cause := by
  cases error with
  | failed operation cause => exact ⟨operation, cause, rfl⟩
  | _ => simp [isFailed] at h

/-- Whether the reason is none of the program's own. -/
def RunError.isFault : RunError → Bool
  | fault _ => true
  | _ => false

theorem RunError.exists_of_isFault (h : error.isFault = true) : ∃ fault, error = .fault fault := by
  cases error with
  | fault cause => exact ⟨cause, rfl⟩
  | _ => simp [isFault] at h

/-- A file system that has no room for files.  The refusal strikes from outside, at the steps that
copy files, and says what a full disk says. -/
def fullCircumstances : Circumstances where
  caller := superuser
  observer := some .passive
  disturbance operation :=
    if operation.kind = .copyFile then some (.refusal 28 "No space left on device") else none

theorem run_fails_fast_linkedTree :
    fullCircumstances.Neutral ∧
      (∀ operation, fullCircumstances.disturbance operation ≠ some .interruption) ∧
      linkedSettings.dryRun = false ∧ linkedSettings.Fits linkedTree superuser ∧
      ∃ operation cause before after mid,
        (linkedSettings.run fullCircumstances linkedTree).result
          = .error (.failed operation cause) ∧
        (linkedSettings.plan linkedTree superuser).result = .ok (before ++ operation :: after) ∧
        AllTaken superuser before linkedTree mid := by
  have hneutral : fullCircumstances.Neutral := by
    rintro _ ⟨⟩
    exact Observer.neutral_passive
  have hquiet : ∀ operation, fullCircumstances.disturbance operation ≠ some .interruption := by
    intro operation
    rw [fullCircumstances]
    simp only
    split <;> simp
  have hfits := fits_of_sizeBelow_root linkedSettings superuser
    (show linkedTree.sizeBelow [] < sizeBound by decide +kernel)
  have hfails : (linkedSettings.run fullCircumstances linkedTree).failsBy RunError.isFailed
      = true := by decide +kernel
  obtain ⟨error, hresult, hfailed⟩ := Run.Outcome.exists_of_failsBy hfails
  obtain ⟨operation, cause, rfl⟩ := RunError.exists_of_isFailed hfailed
  obtain ⟨hsteps, -⟩ := run_fails_fast hneutral hquiet rfl hfits hresult
  obtain ⟨before, after, mid, hplan, hall, -⟩ := hsteps operation cause rfl
  exact ⟨hneutral, hquiet, rfl, hfits, operation, cause, before, after, mid, hresult, hplan, hall⟩

/-- A link that leads to itself. -/
def loopingTree : FileSystem :=
  ((empty.create [] "assets" (.directory 0o755)).create ["assets"] "f"
    (.file (.ofText "x") 0o644 1)).create [] "loop" (.link "loop")

/-- A destination that climbs out of a component with a zero character, which no look-up reaches
because of the link before it. -/
def nullSettings : Settings :=
  { source := Path.ofText "assets", destination := Path.ofText "loop/x\x00/../../dest" }

/-- The circumstances of a run that somebody watches. -/
def watchedCircumstances : Circumstances := { caller := superuser, observer := some .passive }

/-- A run that fails otherwise than at a refused step can have shown its plan. -/
theorem shows_plan_loopingTree :
    watchedCircumstances.Neutral ∧ nullSettings.dryRun = false ∧
      nullSettings.Fits loopingTree superuser ∧
      (nullSettings.run watchedCircumstances loopingTree).plan?.isSome = true ∧ ∃ error,
        (nullSettings.run watchedCircumstances loopingTree).result = .error error ∧
        ∀ operation cause, error ≠ .failed operation cause := by
  have hneutral : watchedCircumstances.Neutral := by
    rintro _ ⟨⟩
    exact Observer.neutral_passive
  have hfits := fits_of_sizeBelow_root nullSettings superuser
    (show loopingTree.sizeBelow [] < sizeBound by decide +kernel)
  refine ⟨hneutral, rfl, hfits, by decide +kernel, ?_⟩
  have hfails : (nullSettings.run watchedCircumstances loopingTree).failsBy RunError.isFault
      = true := by decide +kernel
  obtain ⟨error, hresult, hfault⟩ := Run.Outcome.exists_of_failsBy hfails
  obtain ⟨fault, rfl⟩ := RunError.exists_of_isFault hfault
  exact ⟨_, hresult, by simp⟩

end AssetPublish
