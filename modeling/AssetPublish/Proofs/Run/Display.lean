import AssetPublish.ProgressDisplay
import AssetPublish.Proofs.Run.Preview
import AssetPublish.Proofs.Run.Watched

/-!
# The progress display

The statistics of a run and the counts of its display are two accounts of the same steps, kept apart
from each other.  A run counts a step when it has been applied; the display counts it when the
observer is told of it, which comes last, and only then changes the bar.  What ties the two together
is the plan: whatever happens to a run, the observer has been told of the first steps of the plan,
and at most one more has been applied.

A display fails where a count has no text.  With a source below `sizeBound` it never does, so that
the run is the same as without it.

The proof goes in two directions that meet at a list of marks.  From the run it is shown which marks
its history holds: the plan, and then for each step that it was applied and that the observer was
told of it, in turn.  From the display it is shown what such marks make of it, one after the other,
with `Shows` as the invariant.  A moment of the run is a beginning of its history, so that a
statement for all moments is one for all beginnings of a list of marks.

The display follows a history as a function that cannot fail, while the observer that the program
uses can.  That both come to the same where nothing fails is `foldl_follow_of_foldlM`.

## What is here

* `ProgressDisplay.Shows` — what the display shows when some steps of a plan have been taken.
* `ProgressDisplay.Shows.onStep`, `ProgressDisplay.exists_after?` — one step more, and all of them.
* `displayed`, `neutral_displayed` — the display as an observer does not interfere.
* `exists_observer_of_display` — so that a run with a display is a run like others.
* `marks_of_run` — what a run applies and tells the observer, and in which order.
* `ProgressDisplay.Accurate` — a display that agrees with its run all the time, and at its end.
* `display_transparent_and_accurate` — the display changes nothing, and it is accurate.
-/

set_option autoImplicit false

namespace AssetPublish

open FileSystem Run

variable {settings : Settings} {around : Circumstances} {fs : FileSystem} {caller : Caller}
  {tally : Tally}
  {operation : Operation} {plan taken steps : List Operation} {display : ProgressDisplay}
  {event : RunEvent} {history before events : List RunEvent}

/-! ## The steps that copy -/

namespace ProgressDisplay

/-- The number of bytes that the copying ones among some steps copy.  Sizes are integers here as in
the program, so that the bounds below are needed before anything is divided. -/
def copiedBytes (steps : List Operation) : Int := ((steps.filter isCopy).map Operation.size).sum

theorem bytesOf_eq_sum (steps : List Operation) :
    bytesOf steps = (steps.map Operation.size).sum := by
  have hfrom : ∀ bytes : Int, steps.foldl (fun bytes operation => bytes + operation.size) bytes
      = bytes + (steps.map Operation.size).sum := by
    induction steps with
    | nil => simp
    | cons operation rest ih =>
      intro bytes
      rw [List.foldl_cons, ih, List.map_cons, List.sum_cons, Int.add_assoc]
  rw [bytesOf, hfrom, Int.zero_add]

theorem size_eq_zero (h : isCopy operation = false) : operation.size = 0 := by
  rw [Operation.size, if_neg (by simpa [isCopy] using h)]

/-- Steps that do not copy count for nothing. -/
theorem copiedBytes_eq_sum (steps : List Operation) :
    copiedBytes steps = (steps.map Operation.size).sum := by
  induction steps with
  | nil => rfl
  | cons operation rest ih =>
    rw [List.map_cons, List.sum_cons, ← ih, copiedBytes, List.filter_cons]
    cases hcopy : isCopy operation with
    | true => simp [copiedBytes]
    | false => simp [copiedBytes, size_eq_zero hcopy]

/-- The first steps of a plan copy no more than all of them, since no size is negative. -/
theorem copiedBytes_le_of_prefix (hsizes : ∀ operation ∈ plan, 0 ≤ operation.size)
    (htaken : taken <+: plan) : copiedBytes taken ≤ copiedBytes plan := by
  refine ((htaken.sublist.filter isCopy).map Operation.size).sum_le_sum fun bytes hbytes => ?_
  obtain ⟨operation, hmem, rfl⟩ := List.mem_map.1 hbytes
  exact hsizes operation (List.mem_of_mem_filter hmem)

/-- The steps of a plan copy no negative numbers of bytes, and fewer than the bound together.  This
is what makes every count that the display can reach one that has a text. -/
structure Sized (plan : List Operation) : Prop where
  nonneg : ∀ operation ∈ plan, 0 ≤ operation.size
  lt : (plan.map Operation.size).sum < sizeBound

theorem sized_nil : Sized [] := ⟨by simp, Int.natCast_pos.2 sizeBound_pos⟩

theorem Sized.copiedBytes_le (h : Sized plan) (htaken : taken <+: plan) :
    copiedBytes taken ≤ copiedBytes plan :=
  copiedBytes_le_of_prefix h.nonneg htaken

/-- What is shown of a plan has a text as long as only steps of it are counted. -/
theorem Sized.exists_text? (h : Sized plan) (htaken : taken <+: plan)
    (hdone : display.bytesDone = copiedBytes taken)
    (htotal : display.bytesTotal = copiedBytes plan) :
    ∃ info, display.text? = .ok info := by
  have hbound : copiedBytes plan < sizeBound := by
    rw [copiedBytes_eq_sum]
    exact h.lt
  obtain ⟨done, hdoneText, -⟩ :=
    size?_of_lt (show display.bytesDone < sizeBound by have hcopied := h.copiedBytes_le htaken; omega)
  obtain ⟨total, htotalText, -⟩ := size?_of_lt (show display.bytesTotal < sizeBound by omega)
  exact ⟨_, by rw [text?, hdoneText, htotalText]; rfl⟩

/-! ## What is shown

The counts of the display are kept beside the bar, and the bar is changed only by a step that copies
a file. -/

/-- **What a display shows** when a plan is known and some steps of it have been taken: the files
and the bytes that these and all steps copy, on the bar as well as beside it.  It is the invariant
of a run with its display.  The bar repeats the counts, as numbers and as a text, so that its task
is fixed by the counts as well. -/
structure Shows (display : ProgressDisplay) (plan taken : List Operation) : Prop where
  filesDone : display.filesDone = (taken.filter isCopy).length
  bytesDone : display.bytesDone = copiedBytes taken
  filesTotal : display.filesTotal = (plan.filter isCopy).length
  bytesTotal : display.bytesTotal = copiedBytes plan
  files_le : display.filesDone ≤ display.filesTotal
  bytes_le : display.bytesDone ≤ display.bytesTotal
  active : display.active = true
  task : ∃ info, display.text? = .ok info ∧ display.task = some
    { description := "Copying assets"
      completed := display.bytesDone
      total := some display.bytesTotal
      info }

/-- A bar that has just started shows a plan. -/
theorem exists_onPlan (hsized : Sized plan) :
    ∃ display, started.onPlan plan = .ok display ∧ Shows display plan [] := by
  have htotal : (started.planned plan).bytesTotal = copiedBytes plan :=
    bytesOf_eq_sum _
  obtain ⟨info, hinfo⟩ := hsized.exists_text? List.nil_prefix
    (show (started.planned plan).bytesDone = copiedBytes [] from rfl) htotal
  refine ⟨_, by rw [onPlan]; simp only [hinfo]; rfl, ?_⟩
  exact
    { filesDone := rfl
      bytesDone := rfl
      filesTotal := rfl
      bytesTotal := htotal
      files_le := Nat.zero_le _
      bytes_le := by
        show (0 : Int) ≤ bytesOf _
        have hle := hsized.copiedBytes_le (List.nil_prefix : [] <+: plan)
        rw [← htotal] at hle
        exact hle
      active := rfl
      task := ⟨info, hinfo, rfl⟩ }

/-- A step that copies nothing leaves all as it is shown. -/
theorem Shows.skip (h : Shows display plan taken) (hcopy : isCopy operation = false) :
    Shows display plan (taken ++ [operation]) := by
  have hsame : (taken ++ [operation]).filter isCopy = taken.filter isCopy := by
    simp [List.filter_append, hcopy]
  have hbytes : copiedBytes (taken ++ [operation]) = copiedBytes taken := by
    rw [copiedBytes, hsame, copiedBytes]
  exact { h with
    filesDone := by rw [hsame, h.filesDone]
    bytesDone := by rw [hbytes, h.bytesDone] }

/-- The display after a step that copies a file. -/
theorem Shows.onStep_of_isCopy (h : Shows display plan taken) (hcopy : isCopy operation = true)
    {info : String} (hinfo : (display.counted operation).text? = .ok info) :
    display.onStep operation = .ok { display.counted operation with
      task := some
        { description := "Copying assets"
          completed := (display.counted operation).bytesDone
          total := some display.bytesTotal
          info } } := by
  obtain ⟨old, -, htask⟩ := h.task
  have hactive : (display.counted operation).active = true := by simp [counted, hcopy, h.active]
  have hkept : (display.counted operation).task = display.task := by simp [counted, hcopy]
  simp [ProgressDisplay.onStep, hcopy, hactive, hinfo, updateTask, hkept, htask]

/-- **One step more.**  The display counts the next step of the plan, and shows it.  The step must
be the next one of the plan, since otherwise the counts might pass the totals. -/
theorem Shows.onStep (h : Shows display plan taken) (hsized : Sized plan)
    (hnext : taken ++ [operation] <+: plan) :
    ∃ display', display.onStep operation = .ok display' ∧
      Shows display' plan (taken ++ [operation]) := by
  cases hcopy : isCopy operation with
  | false => exact ⟨display, by simp [ProgressDisplay.onStep, counted, hcopy], h.skip hcopy⟩
  | true =>
    have hfiles : (display.counted operation).filesDone
        = ((taken ++ [operation]).filter isCopy).length := by
      simp [counted, hcopy, List.filter_append, h.filesDone]
    have hbytes : (display.counted operation).bytesDone = copiedBytes (taken ++ [operation]) := by
      simp [counted, hcopy, copiedBytes, List.filter_append, h.bytesDone]
    have htotals : (display.counted operation).filesTotal = display.filesTotal ∧
        (display.counted operation).bytesTotal = display.bytesTotal := by
      simp [counted, hcopy]
    have htotal : (display.counted operation).bytesTotal = copiedBytes plan :=
      htotals.2.trans h.bytesTotal
    obtain ⟨info, hinfo⟩ := hsized.exists_text? hnext hbytes htotal
    refine ⟨_, h.onStep_of_isCopy hcopy hinfo, ?_⟩
    exact
      { filesDone := hfiles
        bytesDone := hbytes
        filesTotal := htotals.1.trans h.filesTotal
        bytesTotal := htotal
        files_le := by
          show (display.counted operation).filesDone ≤ (display.counted operation).filesTotal
          rw [hfiles, htotals.1, h.filesTotal]
          exact (hnext.sublist.filter isCopy).length_le
        bytes_le := by
          show (display.counted operation).bytesDone ≤ (display.counted operation).bytesTotal
          rw [hbytes, htotal]
          exact hsized.copiedBytes_le hnext
        active := by simp [counted, hcopy, h.active]
        task := ⟨info, hinfo, by rw [htotals.2]⟩ }

/-- **Some steps of a plan** are all shown. -/
theorem exists_after? (hsized : Sized plan) (htaken : taken <+: plan) :
    ∃ display, started.after? plan taken = .ok display ∧ Shows display plan taken := by
  induction taken using List.reverseRecOn with
  | nil =>
    obtain ⟨display, hplan, hshows⟩ := exists_onPlan hsized
    exact ⟨display, by rw [after?, hplan]; rfl, hshows⟩
  | append_singleton front operation ih =>
    obtain ⟨display, hfront, hshows⟩ := ih ((List.prefix_append _ _).trans htaken)
    obtain ⟨next, hstep, hnext⟩ := hshows.onStep hsized htaken
    refine ⟨next, ?_, hnext⟩
    rw [after?] at hfront ⊢
    cases hplan : started.onPlan plan with
    | error fault => rw [hplan] at hfront; simp at hfront
    | ok shown =>
      rw [hplan, ok_bind] at hfront
      rw [ok_bind, List.foldlM_append, hfront, ok_bind]
      simp [hstep]

/-- A display in whose plan all counts have a text neither fails nor changes anything. -/
theorem neutral_observer (hsized : Sized plan) : (started.observer plan).Neutral := by
  have hanswers : ∀ taken, taken <+: plan → ∀ fs, (Act.ask fun _ =>
      (started.after? plan taken).map fun _ => ()).perform fs = (.ok (), fs) := by
    intro taken htaken fs
    obtain ⟨display, hafter, -⟩ := exists_after? hsized htaken
    exact (outcome_ask fs).trans (by rw [hafter]; rfl)
  exact ⟨fun _ => hanswers [] List.nil_prefix, fun index _ => hanswers _ (List.take_prefix _ _)⟩

/-! ## The display in a history

A display is entered, follows the events, and is left.  Whatever it is told in between, its bar
stays the same one. -/

/-- Whatever happens, a bar that is running goes on.  Only the end of the run ends the bar. -/
structure Running (display : ProgressDisplay) : Prop where
  active : display.active = true
  task : display.task.isSome = true

/-- By cases on the event; only the plan and the steps reach the bar at all. -/
theorem Running.follow (h : Running display) (event : RunEvent) :
    Running (display.follow event) := by
  cases event with
  | showed plan =>
    show Running ((display.onPlan plan).toOption.getD (display.planned plan))
    have hactive : (display.planned plan).active = true := h.active
    rw [onPlan]
    simp only [hactive, if_true]
    cases (display.planned plan).text? with
    | error fault => exact ⟨h.active, h.task⟩
    | ok info =>
      refine ⟨by simp [updateTask, hactive, Except.toOption], ?_⟩
      simp only [updateTask, Except.toOption, pure_eq_ok, ok_bind, hactive, if_true,
        Option.getD_some, Option.isSome_map]
      exact h.task
  | told operation =>
    show Running ((display.onStep operation).toOption.getD (display.counted operation))
    have hcounted : Running (display.counted operation) := by
      rw [counted]
      split
      · exact ⟨h.active, h.task⟩
      · exact h
    rw [onStep]
    simp only [hcounted.active, Bool.and_true]
    cases isCopy operation with
    | false => exact hcounted
    | true =>
      cases (display.counted operation).text? with
      | error fault => exact hcounted
      | ok info => exact ⟨by simp [updateTask, hcounted.active, Except.toOption], by
          simp [updateTask, hcounted.active, Except.toOption, hcounted.task]⟩
  | _ => exact h

/-- The bar runs until the end. -/
theorem running_during (history : List RunEvent) : Running (during history) := by
  rw [during]
  exact List.foldlRecOn history follow ⟨rfl, rfl⟩ fun _ hrunning event _ => hrunning.follow event

/-- A bar that ends says whether the run has failed. -/
theorem Running.leave (h : Running display) (failed : Bool) :
    (display.leave failed).active = false ∧ ∃ task, (display.leave failed).task = some task ∧
      task.description = if failed then "Copy failed" else "Copy complete" := by
  obtain ⟨task, htask⟩ := Option.isSome_iff_exists.1 h.task
  refine ⟨rfl, { task with description := if failed then "Copy failed" else "Copy complete" }, ?_,
    rfl⟩
  simp [ProgressDisplay.leave, updateTask, h.active, htask]

/-- The counts stay as they are when the bar ends. -/
theorem counts_leave (display : ProgressDisplay) (failed : Bool) :
    (display.leave failed).filesDone = display.filesDone ∧
      (display.leave failed).filesTotal = display.filesTotal ∧
      (display.leave failed).bytesDone = display.bytesDone ∧
      (display.leave failed).bytesTotal = display.bytesTotal := by
  rw [leave, updateTask]
  split <;> exact ⟨rfl, rfl, rfl, rfl⟩

end ProgressDisplay

/-! ## What is told of the plan and its steps -/

namespace RunEvent

/-- Whether an event concerns the plan or a step as the observer sees them: the plan is shown, a
step is done, or the observer is told of it.  The other events say nothing about how far the
observer's knowledge has come. -/
def isMark : RunEvent → Bool
  | showed _ => true
  | applied _ => true
  | told _ => true
  | _ => false

end RunEvent

/-- What is told of a step that has been taken, as far as the observer can see. -/
def stepMarks (operation : Operation) : List RunEvent := [.applied operation, .told operation]

/-- What is printed does not concern the observer. -/
theorem filter_isMark_unprinted (history : List RunEvent) :
    (history.map RunEvent.unprinted).filter RunEvent.isMark = history.filter RunEvent.isMark := by
  induction history with
  | nil => rfl
  | cons event rest ih =>
    rw [List.map_cons, List.filter_cons, List.filter_cons, ih]
    cases event <;> rfl

theorem filterMap_told?_filter (history : List RunEvent) :
    (history.filter RunEvent.isMark).filterMap RunEvent.told?
      = history.filterMap RunEvent.told? := by
  rw [List.filterMap_filter]
  exact List.filterMap_congr fun event _ => by cases event <;> rfl

theorem filterMap_applied?_filter (history : List RunEvent) :
    (history.filter RunEvent.isMark).filterMap RunEvent.applied?
      = history.filterMap RunEvent.applied? := by
  rw [List.filterMap_filter]
  exact List.filterMap_congr fun event _ => by cases event <;> rfl

/-- The display takes notice of marks only. -/
theorem during_filter (history : List RunEvent) :
    ProgressDisplay.during (history.filter RunEvent.isMark) = ProgressDisplay.during history := by
  rw [ProgressDisplay.during, ProgressDisplay.during, List.foldl_filter]
  congr 1
  funext display event
  cases event <;> rfl

theorem filter_isMark_openingEvents (hwatched : around.observer.isSome = true)
    (events : List ScanEvent) :
    (openingEvents around settings events steps).filter RunEvent.isMark = [.showed steps] := by
  have hscanned : (events.map RunEvent.scanned).filter RunEvent.isMark = [] := by
    rw [List.filter_map, List.map_eq_nil_iff]
    exact List.filter_eq_nil_iff.2 fun event _ => by simp [RunEvent.isMark]
  rw [openingEvents, if_pos hwatched, List.filter_append, List.filter_append, List.filter_cons,
    hscanned]
  rfl

theorem filter_isMark_stepEvents (hwatched : around.observer.isSome = true)
    (steps : List Operation) :
    (steps.flatMap (stepEvents around)).filter RunEvent.isMark = steps.flatMap stepMarks := by
  rw [List.filter_flatMap]
  congr 1
  funext operation
  rw [stepEvents, if_pos hwatched]
  rfl

/-- A plan of a source that fits has sizes that can be shown. -/
theorem sized_of_plan (hfits : settings.Fits fs around.caller)
    (hcheck : settings.check fs around.caller = .ok ())
    (hplan : (settings.plan fs around.caller).result = .ok steps) :
    ProgressDisplay.Sized steps := by
  obtain ⟨⟨base, mode, hsource⟩, -⟩ := check_eq_ok hcheck
  refine ⟨fun operation hmem => ?_, sum_size_lt hfits hsource hplan⟩
  obtain ⟨sizes, hsizes, -⟩ := exists_sizes hfits hsource hplan
  have hsize : operation.size ∈ sizes.map Nat.cast := by
    rw [← hsizes]
    exact List.mem_map_of_mem hmem
  obtain ⟨size, -, heq⟩ := List.mem_map.1 hsize
  omega

/-- **What the observer sees of a run**: nothing, or the plan and, one after the other, the first
steps of it.  The sizes of such a plan can be shown.  A run that ends well shows all steps of its
plan; one that fails has either not come to its plan or has broken off among the steps, and then
nothing is told of the step that failed. -/
inductive Marks (settings : Settings) (fs : FileSystem) (caller : Caller) :
    List RunEvent → Except RunError Tally → Prop
  | unseen {error : RunError} : Marks settings fs caller [] (.error error)
  | whole {steps : List Operation} (hplan : (settings.plan fs caller).result = .ok steps)
    (hsized : ProgressDisplay.Sized steps) :
    Marks settings fs caller (.showed steps :: steps.flatMap stepMarks)
      (.ok (finalTally settings fs caller steps))
  | broken {steps taken : List Operation} {error : RunError}
    (hplan : (settings.plan fs caller).result = .ok steps)
    (hsized : ProgressDisplay.Sized steps) (htaken : taken <+: steps) :
    Marks settings fs caller (.showed steps :: taken.flatMap stepMarks) (.error error)

/-- **The marks of a run**, by the ways in which it can end. -/
theorem marks_of_run (hwatched : around.observer.isSome = true)
    (hneutral : settings.check fs around.caller = .ok () → around.Neutral)
    (hreal : settings.dryRun = false) (hfits : settings.Fits fs around.caller) :
    Marks settings fs around.caller ((settings.run around fs).history.filter RunEvent.isMark)
      (settings.run around fs).result := by
  cases hcheck : settings.check fs around.caller with
  | error error =>
    rw [run_of_check_eq_error hcheck]
    exact .unseen
  | ok =>
    cases hplan : (settings.plan fs around.caller).result with
    | error error =>
      rw [run_of_plan_eq_error hcheck hplan]
      have hnone : (RunEvent.started (Report.header around.voice settings) ::
          (settings.plan fs around.caller).events.map .scanned).filter RunEvent.isMark = [] := by
        simp [RunEvent.isMark]
      rw [hnone]
      exact .unseen
    | ok steps =>
      have hsized := sized_of_plan hfits hcheck hplan
      rw [← filter_isMark_unprinted]
      cases hresult : (settings.run around fs).result with
      | ok tally =>
        obtain ⟨planned, -, hplanned, -, -, hhistory, rfl⟩ :=
          run_real_eq_ok (hneutral hcheck).idle hreal hresult
        obtain rfl := Except.ok.inj (hplanned.symm.trans hplan)
        rw [hhistory, List.filter_append, List.filter_append, filter_isMark_openingEvents hwatched,
          filter_isMark_stepEvents hwatched,
          show (closingEvents settings planned).filter RunEvent.isMark = [] from rfl,
          List.append_nil]
        exact .whole hplan hsized
      | error error =>
        obtain ⟨before, operation, after, mid, fault, rfl, -, -, -, hhistory⟩ :=
          run_of_plan_breaks_off (hneutral hcheck) hreal hfits hcheck hplan hresult
        rw [hhistory, List.filter_append, List.filter_append, filter_isMark_openingEvents hwatched,
          filter_isMark_stepEvents hwatched,
          show [RunEvent.began operation].filter RunEvent.isMark = [] from rfl, List.append_nil]
        exact .broken hplan hsized (List.prefix_append _ _)

/-! ## The moments of a run -/

/-- A part of the marks of some steps tells of the first of them, each of which has been applied,
and at most one more.  By induction on the steps: the part ends before the first mark of a step,
between its two marks, or behind them. -/
theorem exists_count_of_prefix (h : before <+: taken.flatMap stepMarks) :
    ∃ count, count ≤ taken.length ∧ before.filterMap RunEvent.told? = taken.take count ∧
      (before.filterMap RunEvent.applied? = taken.take count ∨ count < taken.length ∧
        before.filterMap RunEvent.applied? = taken.take (count + 1)) ∧
      ∀ plan, .showed plan ∉ before := by
  induction taken generalizing before with
  | nil =>
    obtain rfl := List.prefix_nil.1 h
    exact ⟨0, Nat.le_refl _, rfl, .inl rfl, by simp⟩
  | cons operation rest ih =>
    rw [List.flatMap_cons, stepMarks, List.cons_append, List.cons_append, List.nil_append,
      List.prefix_cons_iff] at h
    rcases h with rfl | ⟨behind, rfl, hbehind⟩
    · exact ⟨0, Nat.zero_le _, rfl, .inl rfl, by simp⟩
    rcases List.prefix_cons_iff.1 hbehind with rfl | ⟨later, rfl, hlater⟩
    · exact ⟨0, Nat.zero_le _, rfl, .inr ⟨Nat.succ_pos _, rfl⟩, by simp⟩
    obtain ⟨count, hcount, htold, happlied, hshowed⟩ := ih hlater
    refine ⟨count + 1, Nat.succ_le_succ hcount, ?_, ?_, by simpa using hshowed⟩
    · rw [List.take_succ_cons, ← htold]
      rfl
    · refine happlied.imp (fun h => ?_) fun ⟨hlt, h⟩ => ⟨Nat.succ_lt_succ hlt, ?_⟩
      · rw [List.take_succ_cons, ← h]
        rfl
      · rw [List.take_succ_cons, ← h]
        rfl

/-- The marks of the first steps are those of them alone. -/
theorem filterMap_stepMarks (steps : List Operation) :
    (steps.flatMap stepMarks).filterMap RunEvent.told? = steps ∧
      (steps.flatMap stepMarks).filterMap RunEvent.applied? = steps :=
  ⟨filterMap_flatMap_eq (fun _ => rfl) steps, filterMap_flatMap_eq (fun _ => rfl) steps⟩

/-- A beginning of what is picked from a list is picked from a beginning of the list. -/
theorem exists_prefix_filter {α : Type} {p : α → Bool} {marks items : List α}
    (h : marks <+: items.filter p) : ∃ front, front <+: items ∧ front.filter p = marks := by
  induction items generalizing marks with
  | nil =>
    obtain rfl := List.prefix_nil.1 h
    exact ⟨[], List.nil_prefix, rfl⟩
  | cons item rest ih =>
    rw [List.filter_cons] at h
    split at h
    · rename_i hitem
      rcases List.prefix_cons_iff.1 h with rfl | ⟨others, rfl, hothers⟩
      · exact ⟨[], List.nil_prefix, rfl⟩
      · obtain ⟨front, hfront, hpicked⟩ := ih hothers
        exact ⟨item :: front, List.prefix_cons_inj item |>.2 hfront, by
          rw [List.filter_cons, if_pos hitem, hpicked]⟩
    · rename_i hitem
      obtain ⟨front, hfront, hpicked⟩ := ih h
      exact ⟨item :: front, List.prefix_cons_inj item |>.2 hfront, by
        rw [List.filter_cons, if_neg hitem, hpicked]⟩

namespace ProgressDisplay

/-- After the plan only the steps that the observer is told of matter. -/
theorem foldl_follow_eq (hshowed : ∀ plan, .showed plan ∉ events) (display : ProgressDisplay) :
    events.foldl follow display
      = (events.filterMap RunEvent.told?).foldl (fun display operation =>
          display.follow (.told operation)) display := by
  induction events generalizing display with
  | nil => rfl
  | cons event rest ih =>
    have hrest := ih fun plan hmem => hshowed plan (List.mem_cons_of_mem _ hmem)
    cases event with
    | showed plan => exact absurd List.mem_cons_self (hshowed plan)
    | told operation => exact hrest _
    | _ => exact hrest _

/-- A display that does not fail is changed by each step as it should be. -/
theorem foldl_follow_of_foldlM {shown : ProgressDisplay}
    (h : steps.foldlM onStep display = .ok shown) :
    steps.foldl (fun display operation => display.follow (.told operation)) display = shown := by
  induction steps generalizing display with
  | nil => exact Except.ok.inj h
  | cons operation rest ih =>
    rw [List.foldlM_cons] at h
    cases hstep : display.onStep operation with
    | error fault => rw [hstep] at h; simp at h
    | ok next =>
      rw [hstep, ok_bind] at h
      rw [List.foldl_cons, follow, hstep]
      exact ih h

/-- Where the display that can fail does not, the one that follows a history comes to the same. -/
theorem foldl_follow_of_after? {shown : ProgressDisplay}
    (h : started.after? plan steps = .ok shown) :
    steps.foldl (fun display operation => display.follow (.told operation))
      (started.follow (.showed plan)) = shown := by
  rw [after?] at h
  cases hplan : started.onPlan plan with
  | error fault => rw [hplan] at h; simp at h
  | ok first =>
    rw [hplan, ok_bind] at h
    rw [follow, hplan]
    exact foldl_follow_of_foldlM h

/-- **At every moment after the plan has been shown** the display shows the steps that the observer
has been told of, and at most one more has been applied.  One step more may have been applied, since
the observer is told of a step only afterwards. -/
theorem shows_of_marks (hsized : Sized plan) (htaken : taken <+: plan)
    (hmarks : history.filter RunEvent.isMark = .showed plan :: taken.flatMap stepMarks)
    (hbefore : before <+: history) {shown : List Operation} (hshowed : .showed shown ∈ before) :
    shown = plan ∧ ∃ count, before.filterMap RunEvent.told? = plan.take count ∧
      (before.filterMap RunEvent.applied? = plan.take count ∨
        before.filterMap RunEvent.applied? = plan.take (count + 1)) ∧
      Shows (during before) plan (plan.take count) := by
  have hpart := hbefore.filter RunEvent.isMark
  have hmem : RunEvent.showed shown ∈ before.filter RunEvent.isMark :=
    List.mem_filter.2 ⟨hshowed, rfl⟩
  rw [hmarks] at hpart
  rcases List.prefix_cons_iff.1 hpart with hnone | ⟨behind, hseen, hbehind⟩
  · rw [hnone] at hmem
    simp at hmem
  obtain ⟨count, hcount, htold, happlied, hothers⟩ := exists_count_of_prefix hbehind
  have htake : ∀ number ≤ taken.length, taken.take number = plan.take number := by
    obtain ⟨rest, rfl⟩ := htaken
    exact fun number hnumber => (List.take_append_of_le_length hnumber).symm
  rw [htake count hcount] at htold happlied
  refine ⟨?_, count, ?_, ?_, ?_⟩
  · rw [hseen, List.mem_cons] at hmem
    rcases hmem with heq | hbehind
    · exact RunEvent.showed.inj heq
    · exact absurd hbehind (hothers shown)
  · rw [← filterMap_told?_filter, hseen, ← htold]
    rfl
  · rw [← filterMap_applied?_filter, hseen]
    refine happlied.imp (fun h => h) fun ⟨hlt, h⟩ => ?_
    rw [← htake _ hlt]
    exact h
  · obtain ⟨display, hafter, hshows⟩ := exists_after? hsized (List.take_prefix count plan)
    rw [← during_filter, hseen, during, List.foldl_cons, foldl_follow_eq hothers, htold,
      foldl_follow_of_after? hafter]
    exact hshows

/-- **Each number of steps is reached**: there is a moment at which that many have been applied, and
the observer has been told of them.  So the display does not only lag behind: it catches up with
each step. -/
theorem exists_moment (htaken : taken <+: plan)
    (hmarks : history.filter RunEvent.isMark = .showed plan :: taken.flatMap stepMarks)
    {count : Nat} (hcount : count ≤ taken.length) :
    ∃ before, before <+: history ∧ .showed plan ∈ before ∧
      before.filterMap RunEvent.told? = plan.take count ∧
      before.filterMap RunEvent.applied? = plan.take count := by
  have hpart : .showed plan :: (taken.take count).flatMap stepMarks
      <+: history.filter RunEvent.isMark := by
    rw [hmarks, List.prefix_cons_inj]
    exact ⟨(taken.drop count).flatMap stepMarks, by
      rw [← List.flatMap_append, List.take_append_drop]⟩
  obtain ⟨before, hbefore, hseen⟩ := exists_prefix_filter hpart
  have htake : taken.take count = plan.take count := by
    obtain ⟨rest, rfl⟩ := htaken
    exact (List.take_append_of_le_length hcount).symm
  obtain ⟨htold, happlied⟩ := filterMap_stepMarks (taken.take count)
  refine ⟨before, hbefore, ?_, ?_, ?_⟩
  · have hmem : RunEvent.showed plan ∈ before.filter RunEvent.isMark := by
      rw [hseen]
      exact List.mem_cons_self
    exact List.mem_of_mem_filter hmem
  · rw [← filterMap_told?_filter, hseen, ← htake]
    exact htold
  · rw [← filterMap_applied?_filter, hseen, ← htake]
    exact happlied

/-- A display keeps up with its run.  From the moment at which the plan is known it shows the steps
that the observer has been told of, which are the first steps of the plan, while at most one more
has been applied; and every number of steps is reached, with the observer told of all of them.  The
first part alone would leave open whether the observer is ever told of the last step that has been
applied. -/
structure KeepsUp (outcome : Outcome) : Prop where
  moment : ∀ before plan, before <+: outcome.history → .showed plan ∈ before → ∃ count,
    before.filterMap RunEvent.told? = plan.take count ∧
      (before.filterMap RunEvent.applied? = plan.take count ∨
        before.filterMap RunEvent.applied? = plan.take (count + 1)) ∧
      Shows (during before) plan (plan.take count)
  reached : ∀ plan count, .showed plan ∈ outcome.history → count ≤ outcome.applied.length →
    ∃ before, before <+: outcome.history ∧ .showed plan ∈ before ∧
      before.filterMap RunEvent.told? = plan.take count ∧
      before.filterMap RunEvent.applied? = plan.take count ∧
      Shows (during before) plan (plan.take count)

/-- **A display agrees with its run**: it keeps up with it, in the end it has counted what the
statistics say, and its bar has ended with a word on how the run did.  The statistics are those that
the run returns, which are counted without the display. -/
structure Accurate (outcome : Outcome) (display : ProgressDisplay) : Prop
    extends KeepsUp outcome where
  returned : ∀ tally, outcome.result = .ok tally → (∃ plan, .showed plan ∈ outcome.history) ∧
    display.filesDone = tally.files ∧ display.filesTotal = tally.files ∧
    display.bytesDone = tally.bytes ∧ display.bytesTotal = tally.bytes
  inactive : display.active = false
  word : ∃ task, display.task = some task ∧
    (task.description = "Copy complete" ↔ ∃ tally, outcome.result = .ok tally) ∧
    (task.description = "Copy failed" ↔ ∃ error, outcome.result = .error error)

/-- A display keeps up with every history that has such marks. -/
theorem keepsUp_of_marks {outcome : Outcome} (hsized : Sized plan) (htaken : taken <+: plan)
    (hmarks : outcome.history.filter RunEvent.isMark = .showed plan :: taken.flatMap stepMarks) :
    KeepsUp outcome where
  moment before shown hbefore hshowed := by
    obtain ⟨rfl, hmoment⟩ := shows_of_marks hsized htaken hmarks hbefore hshowed
    exact hmoment
  reached shown count hshowed hcount := by
    obtain ⟨rfl, -⟩ := shows_of_marks hsized htaken hmarks List.prefix_rfl hshowed
    have happlied : outcome.applied = taken := by
      rw [Outcome.applied, ← filterMap_applied?_filter, hmarks]
      exact (filterMap_stepMarks taken).2
    rw [happlied] at hcount
    obtain ⟨before, hbefore, hseen, htold, hdone⟩ := exists_moment htaken hmarks hcount
    obtain ⟨-, number, hnumber, -, hshows⟩ := shows_of_marks hsized htaken hmarks hbefore hseen
    rw [← hnumber, htold] at hshows
    exact ⟨before, hbefore, hseen, htold, hdone, hshows⟩

/-- If the plan is never shown there is no moment to speak of. -/
theorem keepsUp_of_unseen {outcome : Outcome}
    (hmarks : outcome.history.filter RunEvent.isMark = []) : KeepsUp outcome := by
  have hnone : ∀ plan, .showed plan ∉ outcome.history := fun plan hmem =>
    List.not_mem_nil (hmarks ▸ List.mem_filter.2 ⟨hmem, rfl⟩)
  exact
    { moment := fun before plan hbefore hshowed => absurd (hbefore.subset hshowed) (hnone plan)
      reached := fun plan count hshowed _ => absurd hshowed (hnone plan) }

end ProgressDisplay

open ProgressDisplay

/-! ## A run with its display

Only a real run that is to show one has a display. -/

/-- The circumstances of a run with its display as the observer.  The display is given the plan in
advance, so that it is an observer like any other. -/
def displayed (settings : Settings) (around : Circumstances) (fs : FileSystem) : Circumstances :=
  { around with
    observer := some
      (started.observer ((settings.plan fs around.caller).result.toOption.getD [])) }

theorem runWithDisplay_eq (hreal : settings.dryRun = false) :
    settings.runWithDisplay around true fs
      = (settings.run (displayed settings around fs) fs,
        some ((during (settings.run (displayed settings around fs) fs).history).leave
          ((settings.run (displayed settings around fs) fs).result matches .error _))) := by
  rw [Settings.runWithDisplay, hreal]
  rfl

theorem runWithDisplay_of_hidden {showProgress : Bool}
    (h : ¬ (settings.dryRun = false ∧ showProgress = true)) :
    settings.runWithDisplay around showProgress fs = (settings.run around.unwatched fs, none) := by
  rw [Settings.runWithDisplay, if_pos]
  · rfl
  · cases hdry : settings.dryRun with
    | true => rfl
    | false => simpa [hdry] using h

/-- **The display does not interfere** with a run that has been accepted.  It fails only where a
count has no text, and with a source that fits all of them have one. -/
theorem neutral_displayed (hfits : settings.Fits fs around.caller)
    (hcheck : settings.check fs around.caller = .ok ()) :
    (displayed settings around fs).Neutral := by
  rintro _ ⟨⟩
  cases hplan : (settings.plan fs around.caller).result with
  | error error => exact neutral_observer sized_nil
  | ok steps => exact neutral_observer (sized_of_plan hfits hcheck hplan)

/-- A run with a display is a run that nobody watches, or somebody who does not interfere. -/
theorem exists_observer_of_display (showProgress : Bool)
    (hfits : settings.Fits fs around.caller) :
    ∃ observer, Circumstances.Neutral { around with observer } ∧
      (settings.runWithDisplay around showProgress fs).1
        = settings.run { around with observer } fs := by
  have hnobody : Circumstances.Neutral { around with observer := none } := by rintro _ ⟨⟩
  by_cases hshown : settings.dryRun = false ∧ showProgress = true
  · obtain ⟨hreal, rfl⟩ := hshown
    rw [runWithDisplay_eq hreal]
    dsimp only
    cases hcheck : settings.check fs around.caller with
    | ok => exact ⟨(displayed settings around fs).observer, neutral_displayed hfits hcheck, rfl⟩
    | error error =>
      have hrun : settings.run (displayed settings around fs) fs = ⟨[], .error error, fs⟩ :=
        run_of_check_eq_error hcheck
      have hplain : settings.run { around with observer := none } fs = ⟨[], .error error, fs⟩ :=
        run_of_check_eq_error hcheck
      exact ⟨none, hnobody, hrun.trans hplain.symm⟩
  · rw [runWithDisplay_of_hidden hshown]
    exact ⟨none, hnobody, rfl⟩

theorem files_foldl_count (steps : List Operation) (tally : Tally) :
    (steps.foldl Tally.count tally).files = tally.files + (steps.filter isCopy).length := by
  induction steps generalizing tally with
  | nil => rfl
  | cons operation rest ih =>
    rw [List.foldl_cons, ih, Tally.count, List.filter_cons]
    cases hkind : operation.kind <;> simp [isCopy, hkind]
    omega

/-- The statistics count the steps that copy, as the display does. -/
theorem finalTally_files_bytes (settings : Settings) (fs : FileSystem) (caller : Caller)
    (steps : List Operation) :
    (finalTally settings fs caller steps).files = (steps.filter isCopy).length ∧
      (finalTally settings fs caller steps).bytes = copiedBytes steps := by
  rw [finalTally, files_foldl_count, bytes_foldl_count, copiedBytes_eq_sum]
  exact ⟨Nat.zero_add _, Int.zero_add _⟩

/-- What the observer sees of a run decides what the display comes to. -/
theorem accurate_of_marks {outcome : Outcome}
    (hmarks : Marks settings fs caller (outcome.history.filter RunEvent.isMark) outcome.result) :
    Accurate outcome ((during outcome.history).leave (outcome.result matches .error _)) := by
  obtain ⟨hinactive, task, htask, hword⟩ :=
    (running_during outcome.history).leave (outcome.result matches .error _)
  have hends : (task.description = "Copy complete" ↔ ∃ tally, outcome.result = .ok tally) ∧
      (task.description = "Copy failed" ↔ ∃ error, outcome.result = .error error) := by
    rw [hword]
    cases outcome.result <;> simp
  suffices h : KeepsUp outcome ∧ ∀ tally, outcome.result = .ok tally →
      (∃ plan, .showed plan ∈ outcome.history) ∧ ∃ plan, Shows (during outcome.history) plan plan ∧
        tally = finalTally settings fs caller plan by
    refine ⟨h.1, fun tally hok => ?_, hinactive, task, htask, hends⟩
    obtain ⟨hshowed, plan, hshows, rfl⟩ := h.2 tally hok
    obtain ⟨hfiles, hbytes⟩ := finalTally_files_bytes settings fs caller plan
    obtain ⟨hdone, htotal, hbytesDone, hbytesTotal⟩ :=
      counts_leave (during outcome.history) (outcome.result matches .error _)
    rw [hfiles, hbytes]
    exact ⟨hshowed, hdone.trans hshows.filesDone, htotal.trans hshows.filesTotal,
      hbytesDone.trans hshows.bytesDone, hbytesTotal.trans hshows.bytesTotal⟩
  generalize hseen : outcome.history.filter RunEvent.isMark = marks at hmarks
  generalize hresult : outcome.result = result at hmarks ⊢
  cases hmarks with
  | unseen => exact ⟨keepsUp_of_unseen hseen, by simp⟩
  | broken hplan hsized htaken => exact ⟨keepsUp_of_marks hsized htaken hseen, by simp⟩
  | @whole steps hplan hsized =>
    refine ⟨keepsUp_of_marks hsized List.prefix_rfl hseen, fun tally htally => ?_⟩
    obtain rfl := Except.ok.inj htally
    have hmark : .showed steps ∈ outcome.history.filter RunEvent.isMark := by
      rw [hseen]
      exact List.mem_cons_self
    have hmem := List.mem_of_mem_filter hmark
    have htold : outcome.history.filterMap RunEvent.told? = steps := by
      rw [← filterMap_told?_filter, hseen]
      exact (filterMap_stepMarks steps).1
    obtain ⟨-, number, hnumber, -, hshows⟩ :=
      shows_of_marks hsized List.prefix_rfl hseen List.prefix_rfl hmem
    rw [← hnumber, htold] at hshows
    exact ⟨⟨steps, hmem⟩, steps, hshows, rfl⟩

/-- The plan that is shown is the plan of the run. -/
theorem plan_of_marks {result : Except RunError Tally}
    (hmarks : Marks settings fs caller (history.filter RunEvent.isMark) result)
    (hshowed : .showed plan ∈ history) : (settings.plan fs caller).result = .ok plan := by
  have hmem : .showed plan ∈ history.filter RunEvent.isMark := List.mem_filter.2 ⟨hshowed, rfl⟩
  have hsteps : ∀ taken : List Operation, .showed plan ∉ taken.flatMap stepMarks := by
    simp [stepMarks]
  generalize history.filter RunEvent.isMark = marks at hmarks hmem
  cases hmarks with
  | unseen => simp at hmem
  | whole hplan hsized =>
    rcases List.mem_cons.1 hmem with heq | hmem
    · rwa [RunEvent.showed.inj heq]
    · exact absurd hmem (hsteps _)
  | broken hplan hsized htaken =>
    rcases List.mem_cons.1 hmem with heq | hmem
    · rwa [RunEvent.showed.inj heq]
    · exact absurd hmem (hsteps _)

/-- Where nobody watches the plan is not shown. -/
theorem not_showed_unwatched (settings : Settings) (around : Circumstances) (fs : FileSystem)
    (plan : List Operation) : .showed plan ∉ (settings.run around.unwatched fs).history := by
  intro hmem
  have hneutral : around.unwatched.Neutral := by rintro _ ⟨⟩
  have hsame : (settings.run around.unwatched fs).unwatched = settings.run around.unwatched fs :=
    run_unwatched fun _ => hneutral
  rw [← hsame] at hmem
  have hkept := (List.mem_filter.1 hmem).2
  cases hkept

/-- **The progress display is transparent and accurate.**  With a source that fits, a run with a
display comes to the same result, leaves the same file system, and prints and logs the same as the
run without: what it tells besides is for the observer only.  There is a display exactly for a real
run that is to show one, and it agrees with the run all the time, over the plan of that run.  The
first parts compare the run with one that nobody watches; the last is about the display itself. -/
theorem display_transparent_and_accurate (settings : Settings) (around : Circumstances)
    (showProgress : Bool) (fs : FileSystem) (hfits : settings.Fits fs around.caller) :
    (settings.runWithDisplay around showProgress fs).1.unwatched
        = settings.run around.unwatched fs ∧
      (settings.runWithDisplay around showProgress fs).1.result
        = (settings.run around.unwatched fs).result ∧
      (settings.runWithDisplay around showProgress fs).1.fs
        = (settings.run around.unwatched fs).fs ∧
      (settings.runWithDisplay around showProgress fs).1.printed
        = (settings.run around.unwatched fs).printed ∧
      (∀ duration, (settings.runWithDisplay around showProgress fs).1.logs duration
        = (settings.run around.unwatched fs).logs duration) ∧
      ((settings.runWithDisplay around showProgress fs).2.isSome = true ↔
        settings.dryRun = false ∧ showProgress = true) ∧
      (∀ plan, .showed plan ∈ (settings.runWithDisplay around showProgress fs).1.history →
        (settings.plan fs around.caller).result = .ok plan) ∧
      ∀ display, (settings.runWithDisplay around showProgress fs).2 = some display →
        Accurate (settings.runWithDisplay around showProgress fs).1 display := by
  by_cases hshown : settings.dryRun = false ∧ showProgress = true
  · obtain ⟨hreal, rfl⟩ := hshown
    have hneutral := @neutral_displayed settings around fs hfits
    have hsame : (settings.run (displayed settings around fs) fs).unwatched
        = settings.run around.unwatched fs := run_unwatched hneutral
    have hmarks : Marks settings fs around.caller _ _ :=
      @marks_of_run settings (displayed settings around fs) fs rfl hneutral hreal hfits
    have haccurate := accurate_of_marks hmarks
    rw [runWithDisplay_eq hreal]
    generalize settings.run (displayed settings around fs) fs = outcome at *
    refine ⟨hsame, by rw [← hsame]; rfl, by rw [← hsame]; rfl, ?_, fun duration => ?_,
      by simp [hreal], fun plan => plan_of_marks hmarks, fun display hdisplay => ?_⟩
    · rw [← hsame, Outcome.printed_unwatched]
    · rw [← hsame, Outcome.logs_unwatched]
    · obtain rfl := Option.some.inj hdisplay
      exact haccurate
  · have hneutral : around.unwatched.Neutral := by rintro _ ⟨⟩
    have hsame : (settings.run around.unwatched fs).unwatched = settings.run around.unwatched fs :=
      run_unwatched fun _ => hneutral
    rw [runWithDisplay_of_hidden hshown]
    exact ⟨hsame, rfl, rfl, rfl, fun _ => rfl, by simpa using hshown,
      fun plan hmem => absurd hmem (not_showed_unwatched settings around fs plan), by simp⟩

theorem display_transparent_and_accurate_linkedTree :
    linkedSettings.Fits linkedTree superuser ∧
      (linkedSettings.runWithDisplay { caller := superuser } true linkedTree).1.result
        = (linkedSettings.run { caller := superuser } linkedTree).result ∧ ∃ display,
        (linkedSettings.runWithDisplay { caller := superuser } true linkedTree).2 = some display ∧
        Accurate (linkedSettings.runWithDisplay { caller := superuser } true linkedTree).1
          display := by
  have hfits := fits_of_sizeBelow_root linkedSettings superuser
    (show linkedTree.sizeBelow [] < sizeBound by decide +kernel)
  obtain ⟨-, hresult, -, -, -, hshown, -, haccurate⟩ :=
    display_transparent_and_accurate linkedSettings { caller := superuser } true linkedTree hfits
  obtain ⟨display, hdisplay⟩ := Option.isSome_iff_exists.1 (hshown.2 ⟨rfl, rfl⟩)
  exact ⟨hfits, hresult, display, hdisplay, haccurate display hdisplay⟩

end AssetPublish
