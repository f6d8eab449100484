import AssetPublish.CommandLine.Command
import AssetPublish.Proofs.FileSystem.Circles
import AssetPublish.Proofs.Run.Display

/-!
# Failures that nobody reports

The program reports refused settings, sources that cannot be scanned and steps that cannot be taken.
The questions that it asks before that, when it compares the roots and looks what is at them, can
fail as well, and then the fault leaves the program as it is.  Here is when this happens: a root
cannot be looked up, or links lead round in a circle on the way to one.

`Escapes` is put in terms of look-ups in the tree that a run finds: `Barred` says that a path cannot
be looked up for a reason of the system's, and `Circular` that following it goes round without end.
The run does not appear in it.  So the statement tells in advance which settings lead to an
unreported fault, and that no others do.

The order of the questions shows in the definition.  The source is looked up first; only if it is a
directory are the roots compared; and the destination is looked up when the settings have been
accepted.  A fault that comes later hides behind one that comes earlier, which is why the later
parts of the definition ask for what makes the program come so far.

## What is here

* `Settings.Escapes` — the settings for which a fault leaves the program.
* `check_eq_fault`, `plan_eq_fault`, `run_eq_fault` — faults come from such settings only.
* `exists_fault_of_escapes` — and such settings lead to a fault.
* `failures_reported_iff` — a failure is reported unless the settings are such, also on the command
  line.
-/

set_option autoImplicit false

namespace AssetPublish

open FileSystem Run

variable {fs : FileSystem} {caller : Caller} {settings : Settings} {around : Circumstances}
  {base : Location} {mode : Nat} {error : RunError} {fault : Fault}

/-- The source is a directory, and links lead round in a circle on the way to one of the roots.  If
the source is no directory, the settings are refused before the roots are compared. -/
def Settings.Circular (settings : Settings) (fs : FileSystem) (caller : Caller) : Prop :=
  (∃ base mode, fs.follow? caller settings.source.text = .ok (base, .directory mode)) ∧
    (fs.Circular caller settings.destination ∨ fs.Circular caller settings.source)

/-- A question that the program asks about the roots is not answered: the source cannot be looked
up, the roots cannot be compared, or, once the settings are accepted, the destination cannot be
looked up.  The parts are in the order in which the questions are asked. -/
def Settings.Escapes (settings : Settings) (fs : FileSystem) (caller : Caller) : Prop :=
  fs.Barred caller settings.source ∨ settings.Circular fs caller ∨
    (settings.check fs caller = .ok () ∧ fs.Barred caller settings.destination)

/-- What a fault is that leaves the program: an error of the system, or links in a circle.  So it is
said of what kind the fault is, and not only that there is one. -/
def Fault.IsLookUp (fault : Fault) : Prop :=
  (∃ error, fault = .system error) ∨ ∃ text, fault = .linkLoop text

/-! ## Checking

The check asks the system twice: whether the source is there and is a directory, and what the
canonical forms of the roots are. -/

theorem isDirectory?_of_exists? (h : fs.exists? caller settings.source.text = .ok true) :
    ∃ answer, fs.isDirectory? caller settings.source.text = .ok answer := by
  obtain ⟨found, hfollow, -⟩ := answer?_eq_ok_true h
  exact ⟨_, by rw [isDirectory?, hfollow]; rfl⟩

theorem isLookUp_of_exists? {path : Path} (hnull : Text.NullFree path.text)
    (h : fs.exists? caller path.text = .error fault) :
    fault.IsLookUp ∧ fs.Barred caller path := by
  have hasked : BySystem (fs.exists? caller path.text) := bySystem_answer? (bySystem_find? hnull fs)
  exact ⟨Or.inl (hasked fault h), (exists?_eq_error_iff hnull).1 ⟨fault, h⟩⟩

/-- **The check fails by a fault** only if the source cannot be looked up, or the roots cannot be
compared.  The converse is `exists_fault_of_check`. -/
theorem check_eq_fault (hcaller : fs.isDirectory caller.workingDirectory = true)
    (hsource : Text.NullFree settings.source.text) (hdest : Text.NullFree settings.destination.text)
    (h : settings.check fs caller = .error (.fault fault)) :
    fault.IsLookUp ∧ (fs.Barred caller settings.source ∨ settings.Circular fs caller) := by
  have hchecked := checked settings fs caller
  rw [h] at hchecked
  cases hchecked with
  | unknown hexists =>
    obtain ⟨hlookUp, hbarred⟩ := isLookUp_of_exists? hsource hexists
    exact ⟨hlookUp, Or.inl hbarred⟩
  | unseen hexists hdirectory =>
    obtain ⟨answer, hanswer⟩ := isDirectory?_of_exists? hexists
    simp [hdirectory] at hanswer
  | incomparable hdirectory hwithin =>
    have hfollow := isDirectory?_eq_ok_true hdirectory
    rcases hwithin with hinside | haround
    · obtain ⟨hloop, hcircle⟩ := isWithin?_eq_error hcaller hdest hsource hinside
      exact ⟨Or.inr hloop, Or.inr ⟨hfollow, hcircle⟩⟩
    · obtain ⟨hloop, hcircle⟩ := isWithin?_eq_error hcaller hsource hdest haround
      exact ⟨Or.inr hloop, Or.inr ⟨hfollow, hcircle.symm⟩⟩

theorem exists_fault_of_check (hsource : Text.NullFree settings.source.text)
    (h : fs.Barred caller settings.source ∨ settings.Circular fs caller) :
    ∃ fault, settings.check fs caller = .error (.fault fault) := by
  rw [Settings.check]
  simp only [Settings.ask]
  rcases h with hbarred | ⟨⟨base, mode, hfollow⟩, hcircle⟩
  · obtain ⟨fault, hfault⟩ := (exists?_eq_error_iff hsource).2 hbarred
    exact ⟨fault, by simp [hfault]⟩
  · have hexists : fs.exists? caller settings.source.text = .ok true := by
      rw [exists?, hfollow]
      rfl
    have hdirectory : fs.isDirectory? caller settings.source.text = .ok true := by
      rw [isDirectory?, hfollow]
      rfl
    obtain ⟨fault, hfault⟩ := exists_error_of_circular hcircle
    exact ⟨fault, by simp [hexists, hdirectory, hfault]⟩

/-! ## Planning

With accepted settings it is asked whether anything is at the destination, which may be a link. -/

theorem rootSteps?_eq_error (hdest : Text.NullFree settings.destination.text)
    (h : settings.rootSteps? fs caller = .error fault) :
    fault.IsLookUp ∧ fs.Barred caller settings.destination := by
  rw [Settings.rootSteps?] at h
  cases hexists : fs.exists? caller settings.destination.text with
  | error other =>
    obtain rfl : other = fault := by simpa [hexists] using h
    exact isLookUp_of_exists? hdest hexists
  | ok found =>
    cases found with
    | true => simp [hexists] at h
    | false =>
      obtain ⟨answer, hlink⟩ := isLink?_of_exists? hdest hexists
      simp [hexists, hlink] at h

/-- **Planning fails by a fault** only if the destination cannot be looked up.  The scan has an
answer for whatever it meets, so that only the destination is left to ask about. -/
theorem plan_eq_fault (hdest : Text.NullFree settings.destination.text)
    (htotal : settings.exclusion.Total)
    (hsource : fs.follow? caller settings.source.text = .ok (base, .directory mode))
    (h : (settings.plan fs caller).result = .error (.fault fault)) :
    fault.IsLookUp ∧ fs.Barred caller settings.destination := by
  have hplans := plans settings fs caller
  rw [h] at hplans
  cases hplans with
  | unknown hroot => exact rootSteps?_eq_error hdest hroot
  | unmatched hsteps =>
    obtain ⟨entrySteps, hentries⟩ := exists_stepsFor? settings.exclusion settings.destination
      hsource
    simp [hsteps] at hentries
  | @broken _ broken _ _ hfault herror =>
    have hnamed := isNamed_of_scan htotal (null_not_mem_of_follow? hsource) hfault
    cases broken with
    | fault cause => exact absurd hnamed id
    | _ => simp [RunError.ofScan] at herror

theorem exists_fault_of_plan (hdest : Text.NullFree settings.destination.text)
    (h : fs.Barred caller settings.destination) :
    ∃ fault, (settings.plan fs caller).result = .error (.fault fault) := by
  obtain ⟨fault, hfault⟩ := (exists?_eq_error_iff hdest).2 h
  exact ⟨fault, by simp [Settings.plan, Settings.rootSteps?, hfault]⟩

/-! ## Running -/

/-- What is taken for granted of a run: it takes place in a directory, the roots are spelled without
the zero character, the rule has an answer for every path, the observers do not interfere, nobody
breaks off, and the source is not beyond all bounds.  Without these, a fault may come from the
caller's own programs, from a text that no call accepts, or from a number that has no text. -/
structure Ordinary (settings : Settings) (around : Circumstances) (fs : FileSystem) : Prop where
  directory : fs.isDirectory around.caller.workingDirectory = true
  source : Text.NullFree settings.source.text
  destination : Text.NullFree settings.destination.text
  total : settings.exclusion.Total
  neutral : around.Neutral
  quiet : ∀ operation, around.disturbance operation ≠ some .interruption
  fits : settings.Fits fs around.caller

theorem EndsEarly.escapes (h : Ordinary settings around fs)
    (hearly : EndsEarly settings around fs (.fault fault)) :
    fault.IsLookUp ∧ settings.Escapes fs around.caller := by
  cases hearly with
  | refused hcheck =>
    obtain ⟨hlookUp, hbarred | hcircle⟩ := check_eq_fault h.directory h.source h.destination hcheck
    · exact ⟨hlookUp, Or.inl hbarred⟩
    · exact ⟨hlookUp, Or.inr (Or.inl hcircle)⟩
  | unplanned hcheck hplan =>
    obtain ⟨⟨base, mode, hsource⟩, -⟩ := check_eq_ok hcheck
    obtain ⟨hlookUp, hbarred⟩ := plan_eq_fault h.destination h.total hsource hplan
    exact ⟨hlookUp, Or.inr (Or.inr ⟨hcheck, hbarred⟩)⟩
  | unshown hcheck hplan hanswer =>
    rw [planAnswer_of_neutral h.neutral] at hanswer
    simp at hanswer

/-- **A run fails by a fault** only if a question about the roots is not answered. -/
theorem run_eq_fault (h : Ordinary settings around fs)
    (hfault : (settings.run around fs).result = .error (.fault fault)) :
    fault.IsLookUp ∧ settings.Escapes fs around.caller := by
  rcases endsEarly_or settings around fs with ⟨error, hearly⟩ | ⟨steps, hcheck, hplan, hanswer⟩
  · obtain ⟨hresult, -⟩ := hearly.run h.neutral.idle
    obtain rfl := Except.error.inj (hresult.symm.trans hfault)
    exact hearly.escapes h
  exfalso
  cases hdry : settings.dryRun with
  | true =>
    obtain ⟨hok, -⟩ := run_dry_eq_ok h.neutral.idle hdry h.fits hcheck hplan hanswer
    exact absurd (hok.symm.trans hfault) (by simp)
  | false =>
    rcases run_real_eq_error h.neutral hdry h.fits hfault with ⟨hrefused, -⟩ | ⟨-, hunplanned, -⟩ |
      ⟨before, operation, after, mid, broken, -, hsteps, -, happly, herror, -⟩
    · exact absurd (hcheck.symm.trans hrefused) (by simp)
    · exact absurd (hplan.symm.trans hunplanned) (by simp)
    · obtain ⟨⟨base, mode, hsource⟩, -⟩ := check_eq_ok hcheck
      rcases apply_eq_error (h.quiet operation) happly with ⟨cause, rfl⟩ |
        ⟨cause, rfl, hhandle, hother⟩
      · simp [RunError.ofApply] at herror
      · have hmem : operation ∈ before ++ operation :: after := by simp
        obtain ⟨reason, hreason⟩ := failsBySystem_of_plan hsource hsteps h.destination hmem mid cause
          (by rw [hhandle])
        exact hother reason hreason

/-- A question about the roots that is not answered makes a run fail by a fault. -/
theorem exists_fault_of_escapes (h : Ordinary settings around fs)
    (hescapes : settings.Escapes fs around.caller) :
    ∃ fault, (settings.run around fs).result = .error (.fault fault) := by
  have hcheck : ∀ fault, settings.check fs around.caller = .error (.fault fault) →
      ∃ fault, (settings.run around fs).result = .error (.fault fault) :=
    fun fault hfault => ⟨fault, by rw [run_of_check_eq_error hfault]⟩
  rcases hescapes with hbarred | hcircle | ⟨haccepted, hbarred⟩
  · obtain ⟨fault, hfault⟩ := exists_fault_of_check h.source (Or.inl hbarred)
    exact hcheck fault hfault
  · obtain ⟨fault, hfault⟩ := exists_fault_of_check h.source (Or.inr hcircle)
    exact hcheck fault hfault
  · obtain ⟨fault, hfault⟩ := exists_fault_of_plan h.destination hbarred
    exact ⟨fault, by rw [run_of_plan_eq_error haccepted hfault]⟩

/-! ## The command line

A call of the program makes one run, prints its failure if it has a message, and gives back an exit
code. -/

namespace CommandLine

variable {disturbance : Operation → Option Disturbance} {flags : Flags} {clock : Clock}

/-- The settings of a call of the program. -/
def Flags.toSettings (flags : Flags) : Settings := { dryRun := flags.dryRun }

/-- The run that a call of the program makes. -/
def commandRun (caller : Caller) (disturbance : Operation → Option Disturbance) (flags : Flags)
    (fs : FileSystem) : Run.Outcome :=
  let voice : Voice := { quiet := flags.quiet, json := flags.json }
  (flags.toSettings.runWithDisplay { caller, voice, disturbance }
    (!(flags.noProgress || voice.silent)) fs).1

/-- The run of a call is watched by nobody, or by somebody who does not interfere. -/
theorem exists_commandRun (caller : Caller) (disturbance : Operation → Option Disturbance)
    {flags : Flags} {fs : FileSystem} (hfits : flags.toSettings.Fits fs caller) :
    ∃ voice observer, Circumstances.Neutral { caller, voice, disturbance, observer } ∧
      commandRun caller disturbance flags fs
        = flags.toSettings.run { caller, voice, disturbance, observer } fs := by
  let voice : Voice := { quiet := flags.quiet, json := flags.json }
  obtain ⟨observer, hneutral, hrun⟩ := @exists_observer_of_display flags.toSettings
    { caller, voice, disturbance } fs (!(flags.noProgress || voice.silent)) hfits
  exact ⟨voice, observer, hneutral, by rw [commandRun]; exact hrun⟩

/-- Every failure but a fault is reported, with the exit code for failures. -/
theorem exists_failureReport (voice : Voice) (settings : Settings)
    (h : ∀ fault, error ≠ .fault fault) : ∃ report rest,
      failureReport? voice settings error = some (report, RunError.exitCode) ∧
      report.err = Console.messageText ("Error: " ++ error.message) ++ rest := by
  cases error with
  | fault fault => exact absurd rfl (h fault)
  | unreadable dir cause => exact ⟨_, _, rfl, rfl⟩
  | uninspectable item cause => exact ⟨_, _, rfl, rfl⟩
  | failed operation cause => exact ⟨_, _, rfl, rfl⟩
  | _ => exact ⟨_, "", rfl, by simp [Voice.error]⟩

/-- Faults of a look-up are not reported. -/
theorem failureReport?_of_isLookUp (voice : Voice) (settings : Settings) (h : fault.IsLookUp) :
    failureReport? voice settings (.fault fault) = none := by
  rcases h with ⟨cause, rfl⟩ | ⟨text, rfl⟩ <;> rfl

theorem ordinary_commandRun {voice : Voice} {observer : Option Observer}
    (h : Ordinary flags.toSettings { caller, disturbance } fs)
    (hneutral : Circumstances.Neutral { caller, voice, disturbance, observer }) :
    Ordinary flags.toSettings { caller, voice, disturbance, observer } fs where
  directory := h.directory
  source := h.source
  destination := h.destination
  total := h.total
  neutral := hneutral
  quiet := h.quiet
  fits := h.fits

theorem runCommand_of_ok {tally : Tally}
    (h : (commandRun caller disturbance flags fs).result = .ok tally) :
    (runCommand caller disturbance clock flags fs).uncaught = none := by
  rw [commandRun] at h
  simp only [runCommand, Flags.toSettings] at h ⊢
  rw [h]

/-- A failure with a report ends the program with its exit code. -/
theorem runCommand_of_report (clock : Clock) {report : Printed} {code : Nat}
    (h : (commandRun caller disturbance flags fs).result = .error error)
    (hreport : failureReport? { quiet := flags.quiet, json := flags.json } flags.toSettings error
      = some (report, code)) :
    (runCommand caller disturbance clock flags fs).uncaught = none ∧
      (runCommand caller disturbance clock flags fs).exitCode = code ∧
      ∃ before, (runCommand caller disturbance clock flags fs).printed.err
        = before ++ report.err := by
  rw [commandRun] at h
  simp only [runCommand, Flags.toSettings] at h hreport ⊢
  rw [h]
  simp only [hreport]
  exact ⟨trivial, trivial, _, rfl⟩

/-- A failure without one leaves the program. -/
theorem runCommand_of_no_report
    (h : (commandRun caller disturbance flags fs).result = .error error)
    (hreport : failureReport? { quiet := flags.quiet, json := flags.json } flags.toSettings error
      = none) :
    (runCommand caller disturbance clock flags fs).uncaught = some error := by
  rw [commandRun] at h
  simp only [runCommand, Flags.toSettings] at h hreport ⊢
  rw [h]
  simp only [hreport]

end CommandLine

open CommandLine

/-- **A run returns or fails for a reason of the program's own**, unless a question about the roots
is not answered.  On the command line such a failure is printed as an error, with the exit code for
failures, and otherwise the fault leaves the program.  The first part is about runs and the second
about the program as it is called, where the display and the printing come in between. -/
theorem failures_reported_iff (fs : FileSystem) :
    (∀ settings around, Ordinary settings around fs →
      ((∃ fault, (settings.run around fs).result = .error (.fault fault)) ↔
        settings.Escapes fs around.caller)) ∧
    (∀ caller disturbance clock flags, Ordinary flags.toSettings { caller, disturbance } fs →
      ((runCommand caller disturbance clock flags fs).uncaught.isSome = true ↔
        flags.toSettings.Escapes fs caller) ∧
      ∀ error, (commandRun caller disturbance flags fs).result = .error error →
        ¬ flags.toSettings.Escapes fs caller →
        (runCommand caller disturbance clock flags fs).exitCode = RunError.exitCode ∧
        ∃ before line rest, (runCommand caller disturbance clock flags fs).printed.err
            = before ++ line ++ rest ∧
          line = Console.messageText ("Error: " ++ error.message) ∧
          ∃ shown, line = "Error: " ++ shown) := by
  have hengine : ∀ settings around, Ordinary settings around fs →
      ((∃ fault, (settings.run around fs).result = .error (.fault fault)) ↔
        settings.Escapes fs around.caller) := by
    intro settings around h
    exact ⟨fun ⟨fault, hfault⟩ => (run_eq_fault h hfault).2, exists_fault_of_escapes h⟩
  refine ⟨hengine, fun caller disturbance clock flags h => ?_⟩
  obtain ⟨voice, observer, hneutral, hrun⟩ := exists_commandRun caller disturbance h.fits
  have hordinary := ordinary_commandRun h hneutral
  -- The display and the printing are observers, so the run that is called is one of these.
  have hiff := hengine _ _ hordinary
  rw [← hrun] at hiff
  cases hresult : (commandRun caller disturbance flags fs).result with
  | ok tally =>
    refine ⟨?_, by simp⟩
    rw [runCommand_of_ok hresult, ← hiff, hresult]
    simp
  | error error =>
    by_cases hfault : ∃ fault, error = .fault fault
    · obtain ⟨fault, rfl⟩ := hfault
      have hlookUp := (run_eq_fault hordinary (by rw [← hrun, hresult])).1
      have hescapes := hiff.1 ⟨fault, hresult⟩
      refine ⟨?_, fun _ _ hnone => absurd hescapes hnone⟩
      rw [runCommand_of_no_report hresult (failureReport?_of_isLookUp _ _ hlookUp)]
      exact ⟨fun _ => hescapes, fun _ => rfl⟩
    · obtain ⟨report, rest, hreport, herr⟩ := exists_failureReport
        { quiet := flags.quiet, json := flags.json } flags.toSettings
        fun fault heq => hfault ⟨fault, heq⟩
      obtain ⟨hcaught, hcode, before, hprinted⟩ := runCommand_of_report clock
        hresult hreport
      refine ⟨?_, fun other hother _ => ?_⟩
      · rw [hcaught, ← hiff]
        refine ⟨by simp, fun ⟨fault, heq⟩ => ?_⟩
        exact absurd ⟨fault, Except.error.inj (hresult.symm.trans heq)⟩ hfault
      · obtain rfl := Except.error.inj hother
        refine ⟨hcode, before, _, rest, ?_, rfl, Console.exists_messageText_error _⟩
        rw [hprinted, herr, String.append_assoc]

/-- A destination that is a link which leads to itself. -/
def circlingSettings : Settings :=
  { source := Path.ofText "assets", destination := Path.ofText "loop" }

theorem ordinary_loopingTree {settings : Settings} (hsource : Text.NullFree settings.source.text)
    (hdest : Text.NullFree settings.destination.text) (hplain : settings.exclusion.IsPlain) :
    Ordinary settings { caller := superuser } loopingTree where
  directory := by decide +kernel
  source := hsource
  destination := hdest
  total := hplain.total
  neutral := by simp [Circumstances.Neutral]
  quiet := by simp
  fits := fits_of_sizeBelow_root settings superuser (by decide +kernel)

theorem ordinary_circlingSettings :
    Ordinary circlingSettings { caller := superuser } loopingTree :=
  ordinary_loopingTree (by decide) (by decide) Exclusion.isPlain_default

theorem exists_fault_circlingSettings : ∃ fault,
    (circlingSettings.run { caller := superuser } loopingTree).result = .error (.fault fault) := by
  have hfails : (circlingSettings.run { caller := superuser } loopingTree).failsBy RunError.isFault
      = true := by decide +kernel
  obtain ⟨error, hresult, hfault⟩ := Run.Outcome.exists_of_failsBy hfails
  obtain ⟨fault, rfl⟩ := RunError.exists_of_isFault hfault
  exact ⟨fault, hresult⟩

theorem failures_reported_iff_loopingTree :
    Ordinary circlingSettings { caller := superuser } loopingTree ∧
      circlingSettings.Escapes loopingTree superuser ∧
      Ordinary (Flags.toSettings {}) { caller := superuser } loopingTree ∧
      ¬ (Flags.toSettings {}).Escapes loopingTree superuser := by
  obtain ⟨hengine, hcommand⟩ := failures_reported_iff loopingTree
  have hflags : Ordinary (Flags.toSettings {}) { caller := superuser } loopingTree :=
    ordinary_loopingTree (by decide) (by decide) Exclusion.isPlain_default
  have hcaught : (runCommand superuser (fun _ => none) ⟨"", ""⟩ {} loopingTree).uncaught.isSome
      = false := by decide +kernel
  refine ⟨ordinary_circlingSettings, ?_, hflags, fun hescapes => ?_⟩
  · exact (hengine _ _ ordinary_circlingSettings).1 exists_fault_circlingSettings
  · obtain ⟨hiff, -⟩ := hcommand superuser (fun _ => none) ⟨"", ""⟩ {} hflags
    rw [hiff.2 hescapes] at hcaught
    simp at hcaught

/-- A link that leads to itself, as the destination, makes a run fail by a fault. -/
theorem fault_loopingTree :
    Ordinary circlingSettings { caller := superuser } loopingTree ∧ ∃ fault,
      (circlingSettings.run { caller := superuser } loopingTree).result = .error (.fault fault) :=
  ⟨ordinary_circlingSettings, exists_fault_circlingSettings⟩

end AssetPublish
