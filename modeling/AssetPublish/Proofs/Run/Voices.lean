import AssetPublish.FileSystem.Edit
import AssetPublish.Proofs.Run.Preview

/-!
# What is printed does not steer a run

Two runs that differ only in how talkative the program is go the same way, step by step, as long as
every report can be made: from states that are alike but for printed texts, each step leads to
states that are alike again.  A report looks one thing up, the link that a step recreates.  When a
step has been taken that link has just been read, so it is still there; in a dry run it may have
been lost since the plan was made, through what an observer did when the plan was shown.  Then, and
only then, does it matter whether there are reports.

The two runs are compared in step, by a relation between their states.  `Alike` is kept by every
procedure that does not report, whatever it does to the tree, and `AlikeEnds.bind` puts such
procedures together, also where the second depends on the answer of the first.  So the proof follows
the text of the program, and only reports need an argument.

A report is not a mere text, since it looks up where a link leads.  It is this question to the
system that can fail and end the run.  `LinkLost` is the exact condition for it, and it can be
stated without reports: an observer has to have taken away a link that is planned to be copied, in
the one moment in which he can do so before it is reported.

## What is here

* `Circumstances.withVoice`, `Run.SameCourse` — two runs that differ only in what is printed.
* `Run.Alike`, `Run.AlikeEnds` — states, and ends of procedures, alike but for printed texts.
* `Run.AlikeEnds.bind` — one procedure after another.
* `alikeEnds_takeSteps_real`, `alikeEnds_takeSteps_dry` — the steps of two runs.
* `LinkLost` — a link is lost between the plan of a dry run and its report.
* `same_course_iff` — when it does not matter how talkative the program is.
-/

set_option autoImplicit false

namespace AssetPublish

open FileSystem

/-- The same circumstances, with the program talking in another way. -/
def Circumstances.withVoice (around : Circumstances) (voice : Voice) : Circumstances :=
  { around with voice }

section Circumstances

variable (around : Circumstances) (voice : Voice)

@[simp] theorem Circumstances.withVoice_voice : (around.withVoice voice).voice = voice := rfl

@[simp] theorem Circumstances.withVoice_caller :
    (around.withVoice voice).caller = around.caller := rfl

@[simp] theorem Circumstances.withVoice_observer :
    (around.withVoice voice).observer = around.observer := rfl

@[simp] theorem Circumstances.withVoice_disturbance :
    (around.withVoice voice).disturbance = around.disturbance := rfl

end Circumstances

namespace Run

/-- Two runs have told the same but for printed texts, have come to the same result, and leave the
same file system.  What they print may differ, and nothing else. -/
structure SameCourse (one other : Outcome) : Prop where
  history : one.history.map RunEvent.unprinted = other.history.map RunEvent.unprinted
  result : one.result = other.result
  fs : one.fs = other.fs

/-- Two states are alike but for printed texts.  The trees and tallies are equal and not only
similar, so that whatever is computed from them is equal too. -/
structure Alike (one other : State) : Prop where
  fs : one.fs = other.fs
  history : one.history.map RunEvent.unprinted = other.history.map RunEvent.unprinted
  tally : one.tally = other.tally

/-- Two procedures end with the same answer, in states that are alike.  They may both fail, but then
with the same fault. -/
structure AlikeEnds {α : Type} (one other : Except RunError α × State) : Prop where
  answer : one.1 = other.1
  state : Alike one.2 other.2

variable {around : Circumstances} {settings : Settings} {one other : State}
  {operation : Operation} {steps : List Operation} {voice voice' : Voice} {fs : FileSystem}
  {caller : Caller}

theorem Alike.add (h : Alike one other) {events events' : List RunEvent}
    (hevents : events.map RunEvent.unprinted = events'.map RunEvent.unprinted) :
    Alike (one.add events) (other.add events') := by
  refine ⟨h.fs, ?_, h.tally⟩
  rw [State.add, State.add, List.map_append, List.map_append, h.history, hevents]

/-- **Procedures one after the other** end alike if the first ones do, and the second ones wherever
they go on from there. -/
theorem AlikeEnds.bind {α β : Type} {act act' : RunM α} {next next' : α → RunM β}
    (hact : AlikeEnds (outcome act one) (outcome act' other))
    (hnext : ∀ answer left left', outcome act one = (.ok answer, left) →
      outcome act' other = (.ok answer, left') → Alike left left' →
        AlikeEnds (outcome (next answer) left) (outcome (next' answer) left')) :
    AlikeEnds (outcome (act >>= next) one) (outcome (act' >>= next') other) := by
  obtain ⟨hanswer, hstate⟩ := hact
  rw [outcome_bind, outcome_bind]
  rcases hone : outcome act one with ⟨answer, left⟩
  rcases hother : outcome act' other with ⟨answer', left'⟩
  rw [hone, hother] at hanswer hstate
  obtain rfl : answer = answer' := hanswer
  cases answer with
  | error error => exact ⟨rfl, hstate⟩
  | ok answer => exact hnext answer left left' hone hother hstate

/-! ## The parts of a run

Each procedure keeps two states alike, and its report, if it makes one, is left out of what is
compared. -/

theorem alikeEnds_tell {event event' : RunEvent} (h : Alike one other)
    (hevent : event.unprinted = event'.unprinted) :
    AlikeEnds (outcome (tell event) one) (outcome (tell event') other) :=
  ⟨rfl, h.add (by simp [hevent])⟩

theorem alikeEnds_letAct (act : Act Unit) (h : Alike one other) :
    AlikeEnds (outcome (letAct act) one) (outcome (letAct act) other) := by
  rw [outcome_letAct, outcome_letAct, h.fs]
  exact ⟨rfl, rfl, h.history, h.tally⟩

theorem alikeEnds_applyStep (h : Alike one other) :
    AlikeEnds (outcome (applyStep (around.withVoice voice) operation) one)
      (outcome (applyStep (around.withVoice voice') operation) other) := by
  rw [outcome_applyStep, outcome_applyStep, h.fs]
  simp only [Circumstances.withVoice_caller, Circumstances.withVoice_disturbance]
  rcases operation.apply around.caller (around.disturbance operation) other.fs with ⟨answer, fs⟩
  have hfs : Alike { one with fs } { other with fs } := ⟨rfl, h.history, h.tally⟩
  cases answer with
  | ok done => exact ⟨rfl, hfs.add rfl⟩
  | error fault => exact ⟨rfl, hfs.add rfl⟩

theorem alikeEnds_countStep (h : Alike one other) :
    AlikeEnds (outcome (countStep operation) one) (outcome (countStep operation) other) := by
  rw [outcome_countStep, outcome_countStep, h.tally]
  have hcounted : Alike { one with tally := other.tally.count operation }
      { other with tally := other.tally.count operation } := ⟨h.fs, h.history, rfl⟩
  exact ⟨rfl, hcounted.add rfl⟩

/-- Reports end alike if both are made or neither is, or if they can be made. -/
theorem alikeEnds_reportStep (dryRun : Bool) (h : Alike one other)
    (hreport : voice.quiet = voice'.quiet ∨
      ∃ text, Report.describe? other.fs around.caller dryRun operation = .ok text) :
    AlikeEnds (outcome (reportStep (around.withVoice voice) dryRun operation) one)
      (outcome (reportStep (around.withVoice voice') dryRun operation) other) := by
  rw [outcome_reportStep, outcome_reportStep, h.fs]
  simp only [Circumstances.withVoice_voice, Circumstances.withVoice_caller, Report.step]
  cases hdescribe : Report.describe? other.fs around.caller dryRun operation with
  | ok text =>
    by_cases hvoice : voice.quiet = true <;> by_cases hvoice' : voice'.quiet = true <;>
      simp only [hvoice, hvoice', if_true] <;> exact ⟨rfl, h.add rfl⟩
  | error fault =>
    have hquiet : voice.quiet = voice'.quiet := by simpa [hdescribe] using hreport
    simp only [hquiet]
    by_cases hvoice : voice'.quiet = true
    · simp only [hvoice, if_true]
      exact ⟨rfl, h.add rfl⟩
    · simp only [hvoice]
      exact ⟨rfl, h⟩

theorem alikeEnds_tellObserver (index : Nat) (h : Alike one other) :
    AlikeEnds (outcome (tellObserver (around.withVoice voice) index operation) one)
      (outcome (tellObserver (around.withVoice voice') index operation) other) := by
  simp only [tellObserver, Circumstances.withVoice_observer]
  cases around.observer with
  | none => exact ⟨rfl, h⟩
  | some observer =>
    exact (alikeEnds_tell h rfl).bind fun _ _ _ _ _ hleft => alikeEnds_letAct _ hleft

theorem alikeEnds_showPlan (h : Alike one other) :
    AlikeEnds (outcome (showPlan (around.withVoice voice) steps) one)
      (outcome (showPlan (around.withVoice voice') steps) other) := by
  simp only [showPlan, Circumstances.withVoice_observer]
  cases around.observer with
  | none => exact ⟨rfl, h⟩
  | some observer =>
    exact (alikeEnds_tell h rfl).bind fun _ _ _ _ _ hleft => alikeEnds_letAct _ hleft

theorem alikeEnds_summarize (h : Alike one other) (hbytes : other.tally.bytes < sizeBound) :
    AlikeEnds (outcome (summarize (around.withVoice voice)) one)
      (outcome (summarize (around.withVoice voice')) other) := by
  rw [outcome_summarize, outcome_summarize, h.tally, Report.summary_of_lt _ hbytes,
    Report.summary_of_lt _ hbytes]
  exact ⟨rfl, h.add rfl⟩

/-! ## The steps -/

/-- What a report says can be found out if the link is read and the size is below the bound. -/
theorem exists_description (dryRun : Bool) (hsize : operation.size < sizeBound)
    (hlink : ∃ text, Report.linkText? fs caller operation = .ok text) :
    ∃ text, Report.describe? fs caller dryRun operation = .ok text := by
  obtain ⟨link, hlink⟩ := hlink
  obtain ⟨size, hsize, -⟩ := size?_of_lt hsize
  exact ⟨_, by rw [Report.describe?, hlink, hsize]; rfl⟩

/-- **The steps of two real runs** end alike: a link that has just been copied is still there when
it is reported. -/
theorem alikeEnds_takeSteps_real (hsizes : ∀ operation ∈ steps, operation.size < sizeBound)
    (index : Nat) (h : Alike one other) :
    AlikeEnds (outcome (takeSteps (around.withVoice voice) false index steps) one)
      (outcome (takeSteps (around.withVoice voice') false index steps) other) := by
  induction steps generalizing index one other with
  | nil => exact ⟨rfl, h⟩
  | cons operation rest ih =>
    rw [takeSteps_cons, takeSteps_cons]
    refine (alikeEnds_applyStep h).bind fun _ applied applied' _ happly happlied => ?_
    -- The observer is told of the step after the report, too late to take the link away.
    have hreport : ∃ text,
        Report.describe? applied'.fs around.caller false operation = .ok text := by
      rcases applyStep_cases happly with ⟨-, hhandle⟩ | ⟨⟨error, herror⟩, -⟩
      · exact exists_description _ (hsizes operation List.mem_cons_self)
          (linkText?_of_handle hhandle)
      · simp at herror
    refine AlikeEnds.bind ?_ fun _ settled settled' _ _ hsettled =>
      ih (fun later hlater => hsizes later (List.mem_cons_of_mem _ hlater)) (index + 1) hsettled
    rw [settle, settle]
    refine (alikeEnds_countStep happlied).bind fun _ counted counted' _ hcount hcounted => ?_
    rw [outcome_countStep] at hcount
    obtain ⟨-, rfl⟩ := Prod.mk.inj hcount
    exact (alikeEnds_reportStep false hcounted (.inr hreport)).bind
      fun _ _ _ _ _ hreported => alikeEnds_tellObserver index hreported

/-- **The steps of two dry runs** end alike if both report or neither does, or if all links that
reports read are there.  The tree does not change during the steps, so that it is enough to ask for
all links at once. -/
theorem alikeEnds_takeSteps_dry (index : Nat) (h : Alike one other)
    (hreports : voice.quiet = voice'.quiet ∨ ∀ operation ∈ steps,
      ∃ text, Report.describe? other.fs around.caller true operation = .ok text) :
    AlikeEnds (outcome (takeSteps (around.withVoice voice) true index steps) one)
      (outcome (takeSteps (around.withVoice voice') true index steps) other) := by
  induction steps generalizing index one other with
  | nil => exact ⟨rfl, h⟩
  | cons operation rest ih =>
    rw [takeSteps_dry_cons, takeSteps_dry_cons]
    refine (alikeEnds_countStep h).bind fun _ counted counted' _ hcount hcounted => ?_
    rw [outcome_countStep] at hcount
    obtain ⟨-, rfl⟩ := Prod.mk.inj hcount
    have hfirst := hreports.imp_right fun hall => hall operation List.mem_cons_self
    refine (alikeEnds_reportStep true hcounted hfirst).bind
      fun _ reported reported' _ hreport hreported => ih (index + 1) hreported ?_
    have hsame := (does_reportStep (around.withVoice voice') true operation).of_outcome hreport
    rw [show reported'.fs = other.fs from hsame]
    exact hreports.imp_right fun hall later hlater => hall later (List.mem_cons_of_mem _ hlater)

/-- A dry run that takes all its steps has made all their reports. -/
theorem exists_report_of_takeSteps_dry {index : Nat}
    (h : outcome (takeSteps around true index steps) one = (.ok (), other))
    (hmem : operation ∈ steps) :
    ∃ printed, Report.step around.voice one.fs around.caller true operation = .ok printed := by
  induction steps generalizing index one with
  | nil => cases hmem
  | cons first rest ih =>
    rw [takeSteps_dry_cons, outcome_bind_of_ok (outcome_countStep _ _)] at h
    rcases outcome_bind_eq h with ⟨error, -, herror⟩ | ⟨⟨⟩, reported, hreport, hrest⟩
    · simp at herror
    rw [outcome_reportStep] at hreport
    split at hreport
    · rename_i printed hprinted
      obtain ⟨-, rfl⟩ := Prod.mk.inj hreport
      rcases List.mem_cons.1 hmem with rfl | hlater
      · exact ⟨printed, hprinted⟩
      · have hreported := ih hrest hlater
        exact hreported
    · simp at hreport

/-! ## What is counted

A dry run that ends well has counted its steps, whether they were reported or not. -/

/-- The counts stay as they are. -/
def SameTally (state state' : State) : Prop := state'.tally = state.tally

theorem composes_sameTally : Composes SameTally := ⟨fun _ => rfl, fun h h' => h'.trans h⟩

theorem sameTally_letAct (act : Act Unit) : Does SameTally (letAct act) := by
  intro state
  rw [outcome_letAct]
  rfl

theorem sameTally_applyStep (around : Circumstances) (operation : Operation) :
    Does SameTally (applyStep around operation) := by
  intro state
  rw [outcome_applyStep]
  rcases operation.apply around.caller (around.disturbance operation) state.fs with ⟨answer, fs⟩
  cases answer <;> rfl

theorem sameTally_reportStep (around : Circumstances) (dryRun : Bool) (operation : Operation) :
    Does SameTally (reportStep around dryRun operation) := by
  intro state
  rw [outcome_reportStep]
  split <;> rfl

theorem sameTally_tellObserver (around : Circumstances) (index : Nat) (operation : Operation) :
    Does SameTally (tellObserver around index operation) := by
  rw [tellObserver]
  cases around.observer with
  | none => exact Does.pure composes_sameTally _
  | some observer =>
    exact Does.bind composes_sameTally (fun _ => rfl) fun _ => sameTally_letAct _

theorem sameTally_showPlan (around : Circumstances) (steps : List Operation) :
    Does SameTally (showPlan around steps) := by
  rw [showPlan]
  cases around.observer with
  | none => exact Does.pure composes_sameTally _
  | some observer =>
    exact Does.bind composes_sameTally (fun _ => rfl) fun _ => sameTally_letAct _

/-- All steps are counted, whatever observers do. -/
theorem tally_takeSteps {dryRun : Bool} {index : Nat}
    (h : outcome (takeSteps around dryRun index steps) one = (.ok (), other)) :
    other.tally = steps.foldl Tally.count one.tally := by
  induction steps generalizing index one with
  | nil =>
    obtain ⟨-, rfl⟩ := Prod.mk.inj (show _ = _ from h)
    rfl
  | cons operation rest ih =>
    cases dryRun with
    | true =>
      rw [takeSteps_dry_cons, outcome_bind_of_ok (outcome_countStep _ _)] at h
      rcases outcome_bind_eq h with ⟨error, -, herror⟩ | ⟨⟨⟩, reported, hreport, hrest⟩
      · simp at herror
      · rw [ih hrest, (sameTally_reportStep around true operation).of_outcome hreport]
        rfl
    | false =>
      rw [takeSteps_cons] at h
      rcases outcome_bind_eq h with ⟨error, -, herror⟩ | ⟨⟨⟩, applied, happly, h⟩
      · simp at herror
      rcases outcome_bind_eq h with ⟨error, -, herror⟩ | ⟨⟨⟩, settled, hsettle, hrest⟩
      · simp at herror
      have happlied := (sameTally_applyStep around operation).of_outcome happly
      rw [settle, outcome_bind_of_ok (outcome_countStep _ _)] at hsettle
      have hsettled := ((sameTally_reportStep around false operation).bind composes_sameTally
        fun _ => sameTally_tellObserver around index operation).of_outcome hsettle
      rw [ih hrest, hsettled]
      simp only [State.add]
      rw [happlied]
      rfl

/-! ## Whole runs -/

theorem alike_planned :
    Alike (planned (around.withVoice voice) settings fs steps)
      (planned (around.withVoice voice') settings fs steps) := by
  refine ⟨rfl, ?_, rfl⟩
  simp [planned, RunEvent.unprinted]

theorem AlikeEnds.sameCourse {one other : Except RunError Unit × State} (h : AlikeEnds one other) :
    SameCourse (.ofEnd one) (.ofEnd other) := by
  obtain ⟨hanswer, hfs, hhistory, htally⟩ := h
  exact ⟨hhistory, by rw [Outcome.ofEnd, Outcome.ofEnd, hanswer, htally], hfs⟩

/-- What the observer has left once the plan has been shown. -/
theorem showPlan_eq_ok (h : outcome (showPlan around steps) one = (.ok (), other)) :
    (around.observer = none ∧ other.fs = one.fs) ∨ ∃ observer, around.observer = some observer ∧
      (observer.onPlan steps).perform one.fs = (.ok (), other.fs) := by
  rw [showPlan] at h
  cases hobserver : around.observer with
  | none =>
    rw [hobserver] at h
    obtain ⟨-, rfl⟩ := Prod.mk.inj (show _ = _ from h)
    exact .inl ⟨rfl, rfl⟩
  | some observer =>
    rw [hobserver] at h
    simp only at h
    rw [outcome_bind_of_ok (outcome_tell _ _), outcome_letAct] at h
    obtain ⟨hanswer, rfl⟩ := Prod.mk.inj h
    refine .inr ⟨observer, rfl, ?_⟩
    rcases hperform : (observer.onPlan steps).perform one.fs with ⟨answer, left⟩
    simp only [State.add, hperform] at hanswer ⊢
    cases answer with
    | ok done => rfl
    | error fault => simp at hanswer

/-- The rest of two runs ends alike, if all links that the reports of a dry run read are there. -/
theorem alikeEnds_conclude (hsizes : ∀ operation ∈ steps, operation.size < sizeBound)
    (hbytes : (steps.foldl Tally.count other.tally).bytes < sizeBound) (h : Alike one other)
    (hreports : settings.dryRun = true → voice.quiet = voice'.quiet ∨
      ∀ shown, outcome (showPlan (around.withVoice voice') steps) other = (.ok (), shown) →
        ∀ operation ∈ steps, ∃ text, Report.linkText? shown.fs around.caller operation = .ok text) :
    AlikeEnds (outcome (conclude (around.withVoice voice) settings steps) one)
      (outcome (conclude (around.withVoice voice') settings steps) other) := by
  rw [conclude, conclude]
  refine (alikeEnds_showPlan h).bind fun _ shown shown' _ hshow hshown => ?_
  have htallyShown := (sameTally_showPlan (around.withVoice voice') steps).of_outcome hshow
  have htake : AlikeEnds
      (outcome (takeSteps (around.withVoice voice) settings.dryRun 0 steps) shown)
      (outcome (takeSteps (around.withVoice voice') settings.dryRun 0 steps) shown') := by
    cases hdry : settings.dryRun with
    | false => exact alikeEnds_takeSteps_real hsizes 0 hshown
    | true =>
      refine alikeEnds_takeSteps_dry 0 hshown ((hreports hdry).imp_right fun hall => ?_)
      intro operation hmem
      exact exists_description _ (hsizes operation hmem) (hall shown' hshow operation hmem)
  refine htake.bind fun _ taken taken' _ htaken hlast => ?_
  refine (alikeEnds_tell hlast rfl).bind fun _ told told' _ htold htell => ?_
  refine alikeEnds_summarize htell ?_
  rw [outcome_tell] at htold
  obtain ⟨-, rfl⟩ := Prod.mk.inj htold
  rw [show (taken'.add _).tally = taken'.tally from rfl, tally_takeSteps htaken, htallyShown]
  exact hbytes

end Run

open Run

variable {around : Circumstances} {settings : Settings} {voice voice' : Voice} {fs : FileSystem}

/-- **A link is lost** between the plan of a dry run and its report: the observer to whom the plan
is shown leaves a file system in which a step that is planned has no link to read any more.  In a
real run the step itself would fail on such a link, and this does not depend on whether anything is
reported. -/
def LinkLost (settings : Settings) (around : Circumstances) (fs : FileSystem) : Prop :=
  settings.dryRun = true ∧ settings.check fs around.caller = .ok () ∧
    ∃ steps observer left operation fault,
      (settings.plan fs around.caller).result = .ok steps ∧
      around.observer = some observer ∧ (observer.onPlan steps).perform fs = (.ok (), left) ∧
      operation ∈ steps ∧ Report.linkText? left around.caller operation = .error fault

/-- With no link lost, all links that reports read are there when the plan has been shown. -/
theorem linkText?_of_not_lost {steps : List Operation} (hdry : settings.dryRun = true)
    (hlost : ¬ LinkLost settings around fs) (hcheck : settings.check fs around.caller = .ok ())
    (hplan : (settings.plan fs around.caller).result = .ok steps) {state shown : State}
    (hstate : state.fs = fs) (hshow : outcome (showPlan around steps) state = (.ok (), shown))
    {operation : Operation} (hmem : operation ∈ steps) :
    ∃ text, Report.linkText? shown.fs around.caller operation = .ok text := by
  rcases showPlan_eq_ok hshow with ⟨-, hsame⟩ | ⟨observer, hobserver, hperform⟩
  · obtain ⟨⟨base, mode, hsource⟩, -⟩ := check_eq_ok hcheck
    rw [hsame, hstate]
    exact linkText?_of_plan hsource hplan hmem
  · rw [hstate] at hperform
    cases hlink : Report.linkText? shown.fs around.caller operation with
    | ok text => exact ⟨text, rfl⟩
    | error fault =>
      exact absurd ⟨hdry, hcheck, steps, observer, shown.fs, operation, fault, hplan, hobserver,
        hperform, hmem, hlink⟩ hlost

/-- A run that loses a link shows its plan. -/
theorem exists_showPlan {steps : List Operation} {observer : Observer} {left : FileSystem}
    (hobserver : around.observer = some observer) (state : State)
    (hperform : (observer.onPlan steps).perform state.fs = (.ok (), left)) :
    ∃ shown, outcome (showPlan around steps) state = (.ok (), shown) ∧ shown.fs = left ∧
      shown.tally = state.tally := by
  rw [showPlan, hobserver]
  simp only
  rw [outcome_bind_of_ok (outcome_tell _ _), outcome_letAct]
  simp only [State.add, hperform]
  exact ⟨_, rfl, rfl, rfl⟩

/-- **A run that loses a link** ends well exactly if it makes no reports.  So two runs with
different voices do not end alike then. -/
theorem LinkLost.isOk_iff (hlost : LinkLost settings around fs)
    (hfits : settings.Fits fs around.caller) :
    (∃ tally, (settings.run around fs).result = .ok tally) ↔ around.voice.quiet = true := by
  obtain ⟨hdry, hcheck, steps, observer, left, operation, fault, hplan, hobserver, hperform, hmem,
    hlink⟩ := hlost
  obtain ⟨⟨base, mode, hsource⟩, -⟩ := check_eq_ok hcheck
  obtain ⟨shown, hshow, rfl, htally⟩ :=
    exists_showPlan hobserver (planned around settings fs steps) hperform
  rw [run_of_plan_eq_ok hcheck hplan, conclude, outcome_bind_of_ok hshow, hdry]
  constructor
  · rintro ⟨tally, hok⟩
    rcases htake : outcome (takeSteps around true 0 steps) shown with ⟨answer, taken⟩
    rw [outcome_bind, htake] at hok
    cases answer with
    | error error => simp [Outcome.ofEnd, Except.map] at hok
    | ok done =>
      obtain ⟨printed, hreport⟩ := exists_report_of_takeSteps_dry htake hmem
      by_contra hloud
      rw [Report.step, if_neg hloud, Report.describe?, hlink] at hreport
      simp [Except.map] at hreport
  · intro hquiet
    have hreports : ∀ operation ∈ steps, ∃ printed,
        Report.step around.voice shown.fs around.caller true operation = .ok printed :=
      fun operation _ => ⟨.nothing, by rw [Report.step, if_pos hquiet]⟩
    obtain ⟨taken, htake, -, -, hcounted⟩ := takeSteps_dry 0 shown hreports
    have hbytes : taken.tally.bytes < sizeBound := by
      rw [hcounted, htally]
      exact finalTally_bytes_lt hfits hsource hplan
    obtain ⟨last, hclose, -⟩ := outcome_close around settings steps hbytes
    rw [hdry] at hclose
    rw [outcome_bind_of_ok htake, hclose]
    exact ⟨_, rfl⟩

/-- Two runs with a plan that differ in how talkative the program is. -/
theorem sameCourse_of_plan {steps : List Operation} (hfits : settings.Fits fs around.caller)
    (hcheck : settings.check fs around.caller = .ok ())
    (hplan : (settings.plan fs around.caller).result = .ok steps)
    (hkept : voice.quiet = voice'.quiet ∨ ¬ LinkLost settings around fs) :
    SameCourse (settings.run (around.withVoice voice) fs)
      (settings.run (around.withVoice voice') fs) := by
  obtain ⟨⟨base, mode, hsource⟩, -⟩ := check_eq_ok hcheck
  have hrun (voice : Voice) : settings.run (around.withVoice voice) fs
      = .ofEnd (outcome (conclude (around.withVoice voice) settings steps)
        (planned (around.withVoice voice) settings fs steps)) :=
    run_of_plan_eq_ok hcheck hplan
  rw [hrun voice, hrun voice']
  have hbytes : (steps.foldl Tally.count
      (planned (around.withVoice voice') settings fs steps).tally).bytes < sizeBound :=
    finalTally_bytes_lt hfits hsource hplan
  refine (alikeEnds_conclude (fun operation hmem => size_lt_of_mem hfits hsource hplan hmem)
    hbytes alike_planned fun hdry => ?_).sameCourse
  refine hkept.imp_right fun hlost shown hshow operation hmem => ?_
  have hread : ∃ text, Report.linkText? shown.fs (around.withVoice voice').caller operation
      = .ok text := linkText?_of_not_lost hdry hlost hcheck hplan rfl hshow hmem
  exact hread

/-- **Reports only observe**, apart from links that are lost between the plan of a dry run and its
reports.  Two runs that differ in how talkative the program is tell the same events, come to the
same result and leave the same file system exactly if both or neither make reports, or no link is
lost.  To make no reports is to be quiet: other differences between two voices never matter. -/
theorem same_course_iff (hfits : settings.Fits fs around.caller) (voice voice' : Voice) :
    SameCourse (settings.run (around.withVoice voice) fs)
        (settings.run (around.withVoice voice') fs) ↔
      voice.quiet = voice'.quiet ∨ ¬ LinkLost settings around fs := by
  constructor
  · intro hsame
    by_cases hlost : LinkLost settings around fs
    · left
      have hone : (∃ tally, (settings.run (around.withVoice voice) fs).result = .ok tally) ↔
          voice.quiet = true := LinkLost.isOk_iff hlost hfits
      have hother : (∃ tally, (settings.run (around.withVoice voice') fs).result = .ok tally) ↔
          voice'.quiet = true := LinkLost.isOk_iff hlost hfits
      rw [hsame.result] at hone
      exact Bool.eq_iff_iff.2 (hone.symm.trans hother)
    · exact .inr hlost
  · intro hkept
    cases hcheck : settings.check fs around.caller with
    | error error =>
      have hrun (voice : Voice) :
          settings.run (around.withVoice voice) fs = ⟨[], .error error, fs⟩ :=
        run_of_check_eq_error hcheck
      rw [hrun voice, hrun voice']
      exact ⟨rfl, rfl, rfl⟩
    | ok =>
      cases hplan : (settings.plan fs around.caller).result with
      | error error =>
        have hrun (voice : Voice) : settings.run (around.withVoice voice) fs
            = ⟨.started (Report.header voice settings) ::
              (settings.plan fs around.caller).events.map .scanned, .error error, fs⟩ :=
          run_of_plan_eq_error hcheck hplan
        rw [hrun voice, hrun voice']
        exact ⟨rfl, rfl, rfl⟩
      | ok steps => exact sameCourse_of_plan hfits hcheck hplan hkept

/-- A link in the source, in a tree of its own. -/
def danglingTree : FileSystem :=
  (empty.create [] "assets" (.directory 0o755)).create ["assets"] "l" (.link "x")

/-- Settings for that tree. -/
def danglingSettings (dryRun : Bool) : Settings :=
  { source := Path.ofText "assets", destination := Path.ofText "out", dryRun }

/-- An observer who removes the link when the plan is shown. -/
def removingCircumstances : Circumstances :=
  { caller := superuser
    observer := some
      { onPlan := fun _ => (Edit.remove "assets/l").apply superuser
        onStep := fun _ _ => pure () } }

theorem same_course_iff_danglingTree :
    (danglingSettings false).Fits danglingTree superuser ∧
      SameCourse
        ((danglingSettings false).run (removingCircumstances.withVoice { quiet := true })
          danglingTree)
        ((danglingSettings false).run (removingCircumstances.withVoice { json := true })
          danglingTree) := by
  have hfits : (danglingSettings false).Fits danglingTree removingCircumstances.caller :=
    fits_of_sizeBelow_root (danglingSettings false) superuser
      (show danglingTree.sizeBelow [] < sizeBound by decide +kernel)
  refine ⟨hfits, (same_course_iff hfits _ _).2 (.inr ?_)⟩
  rintro ⟨hdry, -⟩
  exact absurd hdry (by decide)

/-- A dry run fails at the report of a link that is lost, and only with reports. -/
theorem not_same_course_danglingTree :
    (danglingSettings true).Fits danglingTree superuser ∧
      ¬ SameCourse
        ((danglingSettings true).run (removingCircumstances.withVoice { quiet := true })
          danglingTree)
        ((danglingSettings true).run (removingCircumstances.withVoice { json := true })
          danglingTree) := by
  have hfits := fits_of_sizeBelow_root (danglingSettings true) superuser
    (show danglingTree.sizeBelow [] < sizeBound by decide +kernel)
  refine ⟨hfits, fun hsame => ?_⟩
  have hquiet : ((danglingSettings true).run
      (removingCircumstances.withVoice { quiet := true }) danglingTree).result.isOk = true := by
    decide +kernel
  have hloud : ((danglingSettings true).run
      (removingCircumstances.withVoice { json := true }) danglingTree).result.isOk = false := by
    decide +kernel
  rw [hsame.result, hloud] at hquiet
  cases hquiet

end AssetPublish
