import AssetPublish.Proofs.CommandLine.Grammar
import AssetPublish.Proofs.Console.Verbatim
import AssetPublish.Proofs.Run.Closure

/-!
# What a call of the program writes to the standard output

Many parts of a run write to the standard output: the header, a line for each step, the summary.
Each of them asks the voice for itself whether to write anything.  So a silent program writes
nothing there, step by step and however the run ends, and what is left is the document with the
statistics.

That nothing is printed is a property of every event of a history, so it is enough that each
procedure adds only events that print nothing there.  `Hushed` says this of a change of the state,
and it holds however a procedure ends; thus the induction over the steps does not have to know which
of them fails.  What is told to the observer is no exception, since a silent program shows no
display.

The document is printed through the console like everything else.  That it comes out as it is, and
can be read back, is a fact about documents of numbers, such as statistics are.

## What is here

* `Run.Mute`, `Run.Hushed` — histories, and changes of the state, in which nothing is printed.
* `hushed_takeSteps`, `hushed_perform` — a silent run, whoever watches it.
* `Tally.plain_toValue`, `Tally.exact_toValue` — statistics are printed as they are and read back.
* `flags_of_run` — the switches of a call that is accepted are those among its arguments.
* `standard_output_machine_readable` — what stands on the standard output of a call.
-/

set_option autoImplicit false

namespace AssetPublish

open Run

variable {around : Circumstances} {settings : Settings} {voice : Voice} {fs : FileSystem}
  {caller : Caller} {operation : Operation} {steps : List Operation}

/-! ## Messages of a silent program

The voice decides for each kind of message, and a silent one has an answer for all of them. -/

theorem Voice.inform_of_silent (h : voice.silent = true) (message : String) :
    voice.inform message = .nothing := by
  rw [inform, informValue, if_pos h]

theorem Voice.out_warn (voice : Voice) (message : String) : (voice.warn message).out = "" := by
  rw [warn, warnValue]
  split <;> rfl

namespace Report

/-- A silent program has no header, -/
theorem out_header (h : voice.silent = true) (settings : Settings) :
    (header voice settings).out = "" := by
  rw [header]
  split
  · rfl
  · rw [Voice.inform_of_silent h, Voice.inform_of_silent h, ite_self]
    rfl

/-- no line for a step, however the step is described, -/
theorem out_step (h : voice.silent = true) {dryRun : Bool} {printed : Printed}
    (hstep : step voice fs caller dryRun operation = .ok printed) : printed.out = "" := by
  rw [step] at hstep
  split at hstep
  · obtain rfl := Except.ok.inj hstep
    rfl
  · cases hdescribe : describe? fs caller dryRun operation with
    | error fault => simp [hdescribe, Except.map] at hstep
    | ok text =>
      rw [hdescribe] at hstep
      obtain rfl := Except.ok.inj hstep
      rw [Voice.inform_of_silent h]
      rfl

/-- and no table at the end. -/
theorem out_summary (h : voice.silent = true) (statistics : Value) :
    (summary voice statistics).1.out = "" := by
  rw [summary, Voice.inform_of_silent h]
  split
  · rfl
  · cases closing? statistics with
    | error fault => rfl
    | ok closing =>
      simp [Voice.table, Voice.inform_of_silent h, h]

end Report

/-! ## A silent run

One procedure after the other, in the order in which a run is put together. -/

namespace Run

variable {state state' : State}

/-- Nothing is written to the standard output. -/
def Mute (history : List RunEvent) : Prop := ∀ event ∈ history, event.printed.out = ""

/-- Where nothing has been written to the standard output before, nothing has been after.  The
relation can be put together along a procedure, and is kept by every procedure that prints nothing.
-/
def Hushed (state state' : State) : Prop := Mute state.history → Mute state'.history

theorem composes_hushed : Composes Hushed := ⟨fun _ => id, fun h h' => h' ∘ h⟩

theorem Mute.append {history events : List RunEvent} (h : Mute history) (h' : Mute events) :
    Mute (history ++ events) :=
  fun event hmem => (List.mem_append.1 hmem).elim (h event) (h' event)

theorem hushed_add (state : State) {events : List RunEvent} (h : Mute events) :
    Hushed state (state.add events) :=
  fun hbefore => hbefore.append h

theorem hushed_tell {event : RunEvent} (h : event.printed.out = "") : Does Hushed (tell event) :=
  fun state => hushed_add state (List.forall_mem_singleton.2 h)

/-- What an observer does to the tree is not printed. -/
theorem hushed_letAct (act : Act Unit) : Does Hushed (letAct act) := by
  intro state
  rw [outcome_letAct]
  exact id

/-- A step may fail in the middle; then less has been told. -/
theorem hushed_applyStep (around : Circumstances) (operation : Operation) :
    Does Hushed (applyStep around operation) := by
  intro state
  rw [outcome_applyStep]
  rcases operation.apply around.caller (around.disturbance operation) state.fs with ⟨answer, fs⟩
  cases answer with
  | ok done => exact hushed_add { state with fs } (by simp [Mute, RunEvent.printed])
  | error fault => exact hushed_add { state with fs } (by simp [Mute, RunEvent.printed])

theorem hushed_countStep (operation : Operation) : Does Hushed (countStep operation) := by
  intro state
  rw [outcome_countStep]
  exact hushed_add { state with tally := state.tally.count operation } (by
    simp [Mute, RunEvent.printed])

theorem hushed_reportStep (h : around.voice.silent = true) (dryRun : Bool)
    (operation : Operation) : Does Hushed (reportStep around dryRun operation) := by
  intro state
  rw [outcome_reportStep]
  cases hstep : Report.step around.voice state.fs around.caller dryRun operation with
  | error fault => exact id
  | ok printed => exact hushed_add state (List.forall_mem_singleton.2 (Report.out_step h hstep))

theorem hushed_tellObserver (around : Circumstances) (index : Nat) (operation : Operation) :
    Does Hushed (tellObserver around index operation) := by
  rw [tellObserver]
  cases around.observer with
  | none => exact Does.pure composes_hushed _
  | some observer => exact (hushed_tell rfl).bind composes_hushed fun _ => hushed_letAct _

theorem hushed_showPlan (around : Circumstances) (steps : List Operation) :
    Does Hushed (showPlan around steps) := by
  rw [showPlan]
  cases around.observer with
  | none => exact Does.pure composes_hushed _
  | some observer => exact (hushed_tell rfl).bind composes_hushed fun _ => hushed_letAct _

theorem hushed_makePlan (around : Circumstances) (settings : Settings) :
    Does Hushed (makePlan around settings) := by
  intro state
  have hscanned : Hushed state (scannedState settings around.caller state) :=
    hushed_add state (by simp [Mute, RunEvent.printed])
  rw [outcome_makePlan]
  refine composes_hushed.trans hscanned ?_
  cases (settings.plan state.fs around.caller).result with
  | error error => exact id
  | ok steps => exact hushed_add _ (by simp [Mute, RunEvent.printed])

theorem hushed_summarize (h : around.voice.silent = true) : Does Hushed (summarize around) := by
  intro state
  rw [outcome_summarize]
  exact hushed_add state (List.forall_mem_singleton.2 (Report.out_summary h _))

/-- **The steps of a silent run** print nothing, wherever they break off.  What has been told before
they do has printed nothing either. -/
theorem hushed_takeSteps (h : around.voice.silent = true) (dryRun : Bool) (index : Nat) :
    Does Hushed (takeSteps around dryRun index steps) := by
  induction steps generalizing index with
  | nil => exact Does.pure composes_hushed _
  | cons operation rest ih =>
    have hreport := hushed_reportStep h dryRun operation
    cases dryRun with
    | true =>
      rw [takeSteps_dry_cons]
      exact (hushed_countStep operation).bind composes_hushed fun _ =>
        hreport.bind composes_hushed fun _ => ih (index + 1)
    | false =>
      rw [takeSteps_cons]
      refine (hushed_applyStep around operation).bind composes_hushed fun _ =>
        Does.bind composes_hushed ?_ fun _ => ih (index + 1)
      exact (hushed_countStep operation).bind composes_hushed fun _ =>
        hreport.bind composes_hushed fun _ => hushed_tellObserver around index operation

/-- **A silent run** prints nothing, whether it succeeds or not.  This includes its header and its
summary. -/
theorem hushed_perform (h : around.voice.silent = true) (settings : Settings) :
    Does Hushed (perform around settings) := by
  refine Does.get_bind fun state => ?_
  cases settings.check state.fs around.caller with
  | error error => exact id
  | ok =>
    have hstarted : Does Hushed (tell (.started (Report.header around.voice settings))) :=
      hushed_tell (Report.out_header h settings)
    have hrest : Does Hushed (do
        tell (.started (Report.header around.voice settings))
        let steps ← makePlan around settings
        conclude around settings steps) :=
      hstarted.bind composes_hushed fun _ =>
        (hushed_makePlan around settings).bind composes_hushed fun steps =>
          (hushed_showPlan around steps).bind composes_hushed fun _ =>
            (hushed_takeSteps h settings.dryRun 0).bind composes_hushed fun _ =>
              (hushed_tell rfl).bind composes_hushed fun _ => hushed_summarize h
    exact hrest state

theorem foldl_out {history : List RunEvent} (h : Mute history) (before : Printed) :
    ((history.map RunEvent.printed).foldl (· ++ ·) before).out = before.out := by
  induction history generalizing before with
  | nil => rfl
  | cons event rest ih =>
    obtain ⟨hevent, hrest⟩ := List.forall_mem_cons.1 h
    rw [List.map_cons, List.foldl_cons, ih hrest, Printed.out_append, hevent, String.append_empty]

/-- So a silent run writes nothing there as a whole, however it ends. -/
theorem out_run (h : around.voice.silent = true) (settings : Settings) (fs : FileSystem) :
    (settings.run around fs).printed.out = "" := by
  have hmute : Mute (settings.run around fs).history := by
    rw [run_eq_ofEnd]
    exact hushed_perform h settings _ (by simp [Mute])
  exact foldl_out hmute .nothing

end Run

/-! ## Statistics -/

namespace Tally

variable (tally : Tally)

/-- The names of the fields have no colon, and their values are numbers and truth values. -/
theorem plain_toValue : tally.toValue.Plain := by
  simp [toValue, toFields, Value.Plain, Value.PlainFields]

theorem exact_toValue : tally.toValue.Exact := by
  simp [toValue, toFields, Value.Exact, Value.ExactFields]

/-- The statistics as a document with line ends. -/
def document : String := tally.toValue.toJson (.indented 2)

/-- Statistics are read back, also with a line end behind them. -/
theorem ofJson?_document : Value.ofJson? tally.document = some tally.toValue ∧
    Value.ofJson? (tally.document ++ "\n") = some tally.toValue := by
  have hread : ∀ blanks : String, Value.Reader.Gap blanks.toList →
      Value.ofJson? (tally.document ++ blanks) = some tally.toValue :=
    fun _ => Value.ofJson?_toJson (.indented 2) tally.exact_toValue
  have hnothing := hread "" (by simp [Value.Reader.Gap])
  rw [String.append_empty] at hnothing
  exact ⟨hnothing, hread "\n" (by simp [Value.Reader.Gap])⟩

end Tally

/-! ## A call of the program -/

namespace CommandLine

variable {disturbance : Operation → Option Disturbance} {flags : Flags} {clock : Clock}
  {tokens : List String}

/-- A flag is given somewhere among the arguments, written out or in a cluster.  By the grammar it
does not matter where, or how often. -/
def Given (flag : Flag) (tokens : List String) : Prop := ∃ token ∈ tokens, Occurs flag token

/-- The switches of a call that is accepted are those among its arguments. -/
theorem flags_of_run (h : Invocation.ofTokens tokens = .run flags) :
    (flags.json = true ↔ Given .json tokens) ∧ (flags.quiet = true ↔ Given .quiet tokens) := by
  have hends : "--" ∉ tokens := by
    intro hmem
    simp [Invocation.ofTokens, hmem] at h
  have hvalid : ∀ token ∈ tokens, IsOption token → IsValid token := by
    by_contra hinvalid
    push Not at hinvalid
    obtain ⟨_, _, _, _, _, _, _, _, _, hrefused⟩ := ofTokens_of_invalid hends hinvalid
    simp [h] at hrefused
  have hcalm : ∀ token ∈ tokens, ¬ Occurs .help token ∧ ¬ Occurs .version token := by
    intro token hmem
    rw [← not_or]
    intro heager
    rcases ofTokens_of_eager hends hvalid ⟨token, hmem, heager⟩ with hshown | hshown <;>
      simp [h] at hshown
  have hoptions : ∀ token ∈ tokens, IsOption token := by
    by_contra hextra
    push Not at hextra
    obtain ⟨_, _, _, _, _, _, hrefused⟩ := ofTokens_of_extra hends hvalid hcalm hextra
    simp [h] at hrefused
  obtain ⟨list, hmembers, hread⟩ := ofTokens_of_options hends hvalid hcalm hoptions
  obtain rfl := Invocation.run.inj (h.symm.trans hread)
  simp [Flags.ofList, Given, hmembers]

/-- Failures are reported on the error output. -/
theorem out_failureReport {error : RunError} {report : Printed} {code : Nat}
    (h : failureReport? voice settings error = some (report, code)) : report.out = "" := by
  unfold failureReport? at h
  split at h
  · obtain ⟨rfl, -⟩ := Prod.mk.inj (Option.some.inj h)
    rfl
  split at h
  · obtain ⟨rfl, -⟩ := Prod.mk.inj (Option.some.inj h)
    rw [Printed.out_append, Voice.out_warn]
    rfl
  split at h
  · obtain ⟨rfl, -⟩ := Prod.mk.inj (Option.some.inj h)
    exact Voice.out_warn _ _
  · simp at h

theorem Flags.silent_iff (flags : Flags) :
    Voice.silent { quiet := flags.quiet, json := flags.json } = true ↔
      flags.json = true ∨ flags.quiet = true := by
  rw [Voice.silent, Bool.or_eq_true, or_comm]

/-- A silent call shows no display, and its run prints nothing. -/
theorem commandRun_of_silent (clock : Clock) (fs : FileSystem)
    (h : Voice.silent { quiet := flags.quiet, json := flags.json } = true) :
    (commandRun caller disturbance flags fs).printed.out = "" ∧
      (runCommand caller disturbance clock flags fs).display = none := by
  have hhidden := @runWithDisplay_of_hidden flags.toSettings
    { caller, voice := { quiet := flags.quiet, json := flags.json }, disturbance } fs
    (!(flags.noProgress || Voice.silent { quiet := flags.quiet, json := flags.json })) (by simp [h])
  constructor
  · rw [commandRun]
    simp only [hhidden]
    exact out_run h _ _
  · rw [Flags.toSettings] at hhidden
    simp only [runCommand, hhidden]
    split
    · rfl
    · split <;> rfl

/-- A run that succeeds adds the document to what it has printed itself, if it is asked for. -/
theorem out_runCommand_of_ok (clock : Clock) {tally : Tally}
    (h : (commandRun caller disturbance flags fs).result = .ok tally) :
    (runCommand caller disturbance clock flags fs).exitCode = 0 ∧
      (runCommand caller disturbance clock flags fs).printed.out
        = (commandRun caller disturbance flags fs).printed.out ++
          if flags.json then tally.document ++ "\n" else "" := by
  rw [commandRun] at h
  simp only [runCommand, commandRun, Flags.toSettings] at h ⊢
  rw [h]
  refine ⟨rfl, ?_⟩
  simp only [Printed.out_append, String.append_empty]
  split
  · rw [Console.out_document _ tally.plain_toValue, Tally.document]
  · rfl

/-- A run that fails adds nothing to it, whether its failure is reported or not. -/
theorem out_runCommand_of_error {error : RunError}
    (h : (commandRun caller disturbance flags fs).result = .error error) :
    (runCommand caller disturbance clock flags fs).printed.out
      = (commandRun caller disturbance flags fs).printed.out := by
  rw [commandRun] at h
  simp only [runCommand, commandRun, Flags.toSettings] at h ⊢
  rw [h]
  dsimp only
  split
  · rename_i report code hreport
    simp [out_failureReport hreport]
  · simp

end CommandLine

open CommandLine FileSystem

/-- **The standard output is machine-readable.**  When statistics are asked for, a run that succeeds
writes them as one document with a line end behind it, from which they are read back, and a run that
fails writes nothing; when the program is only asked to be quiet, nothing is written on any outcome.
A progress display, which would be drawn there as well, is shown in neither case.  The document is
read by the reader for JSON texts, which knows nothing about statistics. -/
theorem standard_output_machine_readable (caller : Caller)
    (disturbance : Operation → Option Disturbance) (clock : Clock) {tokens : List String}
    {flags : Flags} (h : Invocation.ofTokens tokens = .run flags) (fs : FileSystem) :
    let called := command caller disturbance clock tokens fs
    let result := (commandRun caller disturbance flags fs).result
    (Given .json tokens →
      (∀ tally, result = .ok tally → called.exitCode = 0 ∧
        called.printed.out = tally.document ++ "\n" ∧
        Value.ofJson? tally.document = some tally.toValue ∧
        Value.ofJson? called.printed.out = some tally.toValue) ∧
      ∀ error, result = .error error → called.printed.out = "") ∧
    (Given .quiet tokens → ¬ Given .json tokens → called.printed.out = "") ∧
    (Given .json tokens ∨ Given .quiet tokens → called.display = none) := by
  obtain ⟨hjson, hquiet⟩ := flags_of_run h
  rw [← hjson, ← hquiet, ← Flags.silent_iff]
  have hcommand : command caller disturbance clock tokens fs
      = runCommand caller disturbance clock flags fs := by rw [command, h]
  simp only [hcommand]
  have hsilent := @commandRun_of_silent caller disturbance flags clock fs
  refine ⟨fun hgiven => ?_, fun hgiven hother => ?_, fun hgiven => (hsilent hgiven).2⟩
  · obtain ⟨hnothing, -⟩ := hsilent (flags.silent_iff.2 (.inl hgiven))
    refine ⟨fun tally hresult => ?_, fun error hresult => ?_⟩
    · obtain ⟨hcode, hout⟩ := out_runCommand_of_ok clock hresult
      rw [hnothing, String.empty_append, if_pos hgiven] at hout
      rw [hout]
      exact ⟨hcode, rfl, tally.ofJson?_document⟩
    · rw [out_runCommand_of_error hresult, hnothing]
  · obtain ⟨hnothing, -⟩ := hsilent (flags.silent_iff.2 (.inr hgiven))
    cases hresult : (commandRun caller disturbance flags fs).result with
    | ok tally =>
      rw [(out_runCommand_of_ok clock hresult).2, hnothing, if_neg hother, String.append_empty]
    | error error => rw [out_runCommand_of_error hresult, hnothing]

/-- A verbose call that asks for statistics. -/
def verboseStatistics : Flags := { verbose := true, json := true }

theorem standard_output_machine_readable_loopingTree :
    Invocation.ofTokens ["-v", "--json"] = .run verboseStatistics ∧
      ∃ tally, (commandRun superuser (fun _ => none) verboseStatistics loopingTree).result
          = .ok tally ∧
        (command superuser (fun _ => none) ⟨"", ""⟩ ["-v", "--json"] loopingTree).printed.out
          = tally.document ++ "\n" := by
  have hrun : Invocation.ofTokens ["-v", "--json"] = .run verboseStatistics := by decide +kernel
  have hgiven : Given .json ["-v", "--json"] := ⟨"--json", by simp, .inl rfl⟩
  have hok : (commandRun superuser (fun _ => none) verboseStatistics loopingTree).result.isOk
      = true := by decide +kernel
  obtain ⟨hjson, -⟩ := standard_output_machine_readable superuser (fun _ => none) ⟨"", ""⟩ hrun
    loopingTree
  refine ⟨hrun, ?_⟩
  cases hresult : (commandRun superuser (fun _ => none) verboseStatistics loopingTree).result with
  | ok tally => exact ⟨tally, rfl, ((hjson hgiven).1 tally hresult).2.1⟩
  | error error => rw [hresult] at hok; simp [Except.isOk, Except.toBool] at hok

end AssetPublish
