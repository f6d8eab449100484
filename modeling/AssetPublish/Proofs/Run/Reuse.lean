import AssetPublish.Proofs.Run.Display

/-!
# Displays that are used again

A display may be entered again after its bar has ended.  A new bar starts empty, and a new plan sets
new totals, but what has been counted as done stays: nothing ever sets these counts back.  From the
second round on, the display therefore shows as done what all rounds so far have copied, against the
plan of the last one alone.

A round is described by what reaches the display: a plan, and the steps of it that are taken.  No
run needs to be looked at for this, so that the statement covers all sequences of rounds, those that
fail in the middle included.  `Counts` is the invariant.  It carries the numbers with which the
round has begun along, and with nothing counted before it is `Shows`.

## What is here

* `Round`, `reused`, `inRound` — displays that are used again and again.
* `Counts`, `counts_inRound` — what a display has counted in a round.
* `task_inRound` — what its bar shows then.
* `shows_inRound`, `filesDone_of_shows` — a display agrees with a round if it has counted nothing
  before.
* `reused_shows_iff` — the display agrees with the round that it is in exactly if no earlier round
  has copied a file.
-/

set_option autoImplicit false

namespace AssetPublish
namespace ProgressDisplay

variable {display : ProgressDisplay} {plan taken : List Operation} {operation : Operation}
  {files : Nat} {bytes : Int}

/-! ## Rounds

Between two rounds nothing happens to the display. -/

/-- A run with a display around it: its plan, the steps of it that are taken, and whether it fails.
That the steps taken are the first ones of the plan is kept with them, since no run does otherwise.
-/
structure Round where
  plan : List Operation
  taken : List Operation
  failed : Bool := false
  begins : taken <+: plan

/-- The display in a round, when its plan is known and some steps of it have been taken.  The plan
is shown before the first step, as in every run. -/
def inRound (display : ProgressDisplay) (plan taken : List Operation) : ProgressDisplay :=
  (taken.map RunEvent.told).foldl follow (display.enter.follow (.showed plan))

/-- The display at the end of a round. -/
def afterRound (display : ProgressDisplay) (round : Round) : ProgressDisplay :=
  (display.inRound round.plan round.taken).leave round.failed

/-- A new display that has been used for some rounds. -/
def reused (rounds : List Round) : ProgressDisplay := rounds.foldl afterRound {}

theorem inRound_append (display : ProgressDisplay) (plan taken : List Operation)
    (operation : Operation) :
    display.inRound plan (taken ++ [operation])
      = (display.inRound plan taken).follow (.told operation) := by
  rw [inRound, List.map_append, List.foldl_append, ← inRound]
  rfl

/-! ## What is counted

The counts do not depend on whether the bar can be shown. -/

/-- A plan sets the totals, whatever becomes of the bar. -/
theorem follow_showed (display : ProgressDisplay) (plan : List Operation) :
    ∃ task, display.follow (.showed plan) = { display.planned plan with task } := by
  have hactive : (display.planned plan).active = display.active := rfl
  rw [follow, onPlan]
  simp only
  split
  · rename_i hrunning
    cases (display.planned plan).text? with
    | error fault => exact ⟨_, rfl⟩
    | ok info =>
      simp only [ok_bind, pure_eq_ok, updateTask, hrunning, if_true]
      exact ⟨_, rfl⟩
  · exact ⟨_, rfl⟩

/-- A step is counted, whatever becomes of the bar. -/
theorem follow_told (display : ProgressDisplay) (operation : Operation) :
    ∃ task, display.follow (.told operation) = { display.counted operation with task } := by
  rw [follow, onStep]
  simp only
  split
  · rename_i hcopies
    rw [Bool.and_eq_true] at hcopies
    cases (display.counted operation).text? with
    | error fault => exact ⟨_, rfl⟩
    | ok info =>
      simp only [ok_bind, pure_eq_ok, updateTask, hcopies.2, if_true]
      exact ⟨_, rfl⟩
  · exact ⟨_, rfl⟩

/-- What a running display has counted: as done, some files and bytes and those that some steps
copy, out of those of a plan.  The totals are those of the plan alone, and it is this difference
that a second round shows. -/
structure Counts (display : ProgressDisplay) (files : Nat) (bytes : Int)
    (plan taken : List Operation) : Prop where
  filesDone : display.filesDone = files + (taken.filter isCopy).length
  bytesDone : display.bytesDone = bytes + copiedBytes taken
  filesTotal : display.filesTotal = (plan.filter isCopy).length
  bytesTotal : display.bytesTotal = copiedBytes plan
  active : display.active = true

theorem counts_planned (display : ProgressDisplay) (plan : List Operation) :
    Counts (display.enter.planned plan) display.filesDone display.bytesDone plan [] where
  filesDone := rfl
  bytesDone := (Int.add_zero _).symm
  filesTotal := rfl
  bytesTotal := bytesOf_eq_sum _
  active := rfl

/-- **A step more.**  It is counted if it copies a file. -/
theorem Counts.counted (h : Counts display files bytes plan taken) (operation : Operation) :
    Counts (display.counted operation) files bytes plan (taken ++ [operation]) := by
  cases hcopy : isCopy operation with
  | false =>
    have hsame : (taken ++ [operation]).filter isCopy = taken.filter isCopy := by
      simp [List.filter_append, hcopy]
    have hkept : display.counted operation = display := by simp [ProgressDisplay.counted, hcopy]
    rw [hkept]
    exact { h with
      filesDone := by rw [hsame, h.filesDone]
      bytesDone := by rw [copiedBytes, hsame, h.bytesDone, copiedBytes] }
  | true =>
    exact
      { filesDone := by
          simp [ProgressDisplay.counted, hcopy, List.filter_append, h.filesDone, Nat.add_assoc]
        bytesDone := by
          simp [ProgressDisplay.counted, hcopy, copiedBytes, List.filter_append, h.bytesDone,
            Int.add_assoc]
        filesTotal := by simp [ProgressDisplay.counted, hcopy, h.filesTotal]
        bytesTotal := by simp [ProgressDisplay.counted, hcopy, h.bytesTotal]
        active := by simp [ProgressDisplay.counted, hcopy, h.active] }

theorem Counts.withTask (h : Counts display files bytes plan taken) (task : Option ProgressTask) :
    Counts { display with task } files bytes plan taken :=
  ⟨h.filesDone, h.bytesDone, h.filesTotal, h.bytesTotal, h.active⟩

/-- **In a round all is counted on top of what was counted before it.**  Entering a display again
starts its bar anew and nothing else. -/
theorem counts_inRound (display : ProgressDisplay) (plan taken : List Operation) :
    Counts (display.inRound plan taken) display.filesDone display.bytesDone plan taken := by
  induction taken using List.reverseRecOn with
  | nil =>
    obtain ⟨task, htask⟩ := follow_showed display.enter plan
    rw [inRound, List.map_nil, List.foldl_nil, htask]
    exact (counts_planned display plan).withTask task
  | append_singleton front operation ih =>
    obtain ⟨task, htask⟩ := follow_told (display.inRound plan front) operation
    rw [inRound_append, htask]
    exact (ih.counted operation).withTask task

/-- What some rounds leave is what they have all copied together, and no bar. -/
theorem counts_reused (rounds : List Round) :
    (reused rounds).filesDone = ((rounds.flatMap Round.taken).filter isCopy).length ∧
      (reused rounds).bytesDone = copiedBytes (rounds.flatMap Round.taken) ∧
      (reused rounds).active = false := by
  induction rounds using List.reverseRecOn with
  | nil => exact ⟨rfl, rfl, rfl⟩
  | append_singleton earlier round ih =>
    obtain ⟨hfiles, hbytes, -⟩ := ih
    have hcounts := counts_inRound (reused earlier) round.plan round.taken
    obtain ⟨hleftFiles, -, hleftBytes, -⟩ :=
      counts_leave ((reused earlier).inRound round.plan round.taken) round.failed
    have hlast : reused (earlier ++ [round]) = (reused earlier).afterRound round := by
      rw [reused, List.foldl_append, ← reused]
      rfl
    rw [hlast, afterRound]
    refine ⟨?_, ?_, rfl⟩
    · rw [hleftFiles, hcounts.filesDone, hfiles]
      simp
    · rw [hleftBytes, hcounts.bytesDone, hbytes]
      simp [copiedBytes]

/-! ## What is shown -/

theorem text?_withTask (display : ProgressDisplay) (task : Option ProgressTask) :
    { display with task }.text? = display.text? := rfl

/-- A step that copies nothing leaves all as it is. -/
theorem follow_told_of_not_copy (hcopy : isCopy operation = false) :
    display.follow (.told operation) = display := by
  simp [follow, onStep, counted, hcopy, Except.toOption]

/-- A step that copies changes the bar if the new counts have a text. -/
theorem task_told_of_copy (hactive : display.active = true) (hcopy : isCopy operation = true) :
    (display.follow (.told operation)).task =
      match (display.counted operation).text? with
      | .ok info => display.task.map fun task =>
          { task with completed := (display.counted operation).bytesDone, info }
      | .error _ => display.task := by
  have hrunning : (display.counted operation).active = true := by simp [counted, hcopy, hactive]
  have htask : (display.counted operation).task = display.task := by simp [counted, hcopy]
  rw [follow, onStep]
  simp only [hcopy, hrunning, Bool.and_self, if_true]
  cases (display.counted operation).text? with
  | error fault => exact htask
  | ok info => simp [updateTask, hrunning, htask, Except.toOption]

/-- The bar of a round whose plan has been shown. -/
def bar (plan : List Operation) (completed : Int) (info : String) : ProgressTask :=
  { description := "Copying assets", completed, total := some (copiedBytes plan), info }

theorem text?_inRound_nil (display : ProgressDisplay) (plan : List Operation) :
    (display.inRound plan []).text? = (display.enter.planned plan).text? := by
  obtain ⟨task, htask⟩ := follow_showed display.enter plan
  rw [inRound, List.map_nil, List.foldl_nil, htask, text?_withTask]

theorem task_showed {info : String} (hinfo : (display.inRound plan []).text? = .ok info) :
    (display.inRound plan []).task = some (bar plan 0 info) := by
  have hactive : (display.enter.planned plan).active = true := rfl
  rw [text?_inRound_nil] at hinfo
  rw [inRound, List.map_nil, List.foldl_nil, follow, onPlan]
  simp only [hactive, hinfo, if_true, ok_bind, pure_eq_ok, updateTask, Except.toOption,
    Option.getD_some]
  rw [bar, ← (counts_planned display plan).bytesTotal]
  rfl

/-- Once the plan has been shown the bar goes on, with the total of that plan. -/
theorem exists_task_inRound {info : String}
    (hinfo : (display.inRound plan []).text? = .ok info) (taken : List Operation) :
    ∃ completed latest, (display.inRound plan taken).task = some (bar plan completed latest) := by
  induction taken using List.reverseRecOn with
  | nil => exact ⟨0, info, task_showed hinfo⟩
  | append_singleton front operation ih =>
    obtain ⟨completed, latest, htask⟩ := ih
    rw [inRound_append]
    cases hcopy : isCopy operation with
    | false => exact ⟨completed, latest, by rw [follow_told_of_not_copy hcopy, htask]⟩
    | true =>
      rw [task_told_of_copy (counts_inRound display plan front).active hcopy, htask]
      cases ((display.inRound plan front).counted operation).text? with
      | error fault => exact ⟨completed, latest, rfl⟩
      | ok next => exact ⟨_, next, rfl⟩

/-- **What the bar shows in a round**: the total of its plan, the text of the counts, and as
completed all bytes that have been counted on this display; only before the first step that copies
these are none.  A bar starts with nothing completed, and a step that copies sets it to what has
been counted, with all rounds before. -/
theorem task_inRound {shown info : String}
    (hshown : (display.inRound plan []).text? = .ok shown)
    (hinfo : (display.inRound plan taken).text? = .ok info) :
    (display.inRound plan taken).task = some (bar plan
      (if taken.any isCopy then (display.inRound plan taken).bytesDone else 0) info) := by
  induction taken using List.reverseRecOn generalizing info with
  | nil =>
    rw [task_showed hinfo]
    rfl
  | append_singleton front operation ih =>
    rw [inRound_append] at hinfo ⊢
    cases hcopy : isCopy operation with
    | false =>
      rw [follow_told_of_not_copy hcopy] at hinfo ⊢
      rw [ih hinfo, List.any_append]
      simp [hcopy]
    | true =>
      obtain ⟨completed, latest, htask⟩ := exists_task_inRound hshown front
      obtain ⟨task, hcounted⟩ := follow_told (display.inRound plan front) operation
      have hnext : ((display.inRound plan front).counted operation).text? = .ok info := by
        rw [hcounted, text?_withTask] at hinfo
        exact hinfo
      have hany : (front ++ [operation]).any isCopy = true := by simp [hcopy]
      have hbytes : ((display.inRound plan front).follow (.told operation)).bytesDone
          = ((display.inRound plan front).counted operation).bytesDone := by rw [hcounted]
      rw [task_told_of_copy (counts_inRound display plan front).active hcopy, hnext, htask, hany,
        hbytes]
      rfl

/-! ## When the display agrees with the round that it is in -/

/-- Counts have a text if their bytes do. -/
theorem text?_isOk_iff (display : ProgressDisplay) :
    (∃ text, display.text? = .ok text) ↔
      (∃ text, Report.size? display.bytesDone = .ok text) ∧
        ∃ text, Report.size? display.bytesTotal = .ok text := by
  rw [text?]
  cases Report.size? display.bytesDone with
  | error fault => simp
  | ok done => cases Report.size? display.bytesTotal <;> simp

/-- In a round, a display that has counted nothing before it agrees with the round. -/
theorem shows_inRound (hfiles : display.filesDone = 0) (hbytes : display.bytesDone = 0)
    (hbegins : taken <+: plan) (hdone : ∃ text, Report.size? (copiedBytes taken) = .ok text)
    (htotal : ∃ text, Report.size? (copiedBytes plan) = .ok text)
    (hle : copiedBytes taken ≤ copiedBytes plan) :
    Shows (display.inRound plan taken) plan taken := by
  have hcounts := counts_inRound display plan taken
  rw [hfiles, hbytes] at hcounts
  have hfilesDone : (display.inRound plan taken).filesDone = (taken.filter isCopy).length :=
    hcounts.filesDone.trans (Nat.zero_add _)
  have hbytesDone : (display.inRound plan taken).bytesDone = copiedBytes taken :=
    hcounts.bytesDone.trans (Int.zero_add _)
  obtain ⟨info, hinfo⟩ := (text?_isOk_iff (display.inRound plan taken)).2
    ⟨by rwa [hbytesDone], by rwa [hcounts.bytesTotal]⟩
  obtain ⟨shown, hshown⟩ := (text?_isOk_iff (display.inRound plan [])).2
    ⟨⟨"0 B", by rw [(counts_inRound display plan []).bytesDone, hbytes]; rfl⟩,
      by rwa [(counts_inRound display plan []).bytesTotal]⟩
  -- Before the first step that copies the bar has nothing completed, and nothing is counted.
  have hcompleted : (if taken.any isCopy then (display.inRound plan taken).bytesDone else 0)
      = (display.inRound plan taken).bytesDone := by
    cases hany : taken.any isCopy with
    | true => rfl
    | false =>
      rw [hbytesDone, copiedBytes, List.filter_eq_nil_iff.2 (List.any_eq_false.1 hany)]
      rfl
  exact
    { filesDone := hfilesDone
      bytesDone := hbytesDone
      filesTotal := hcounts.filesTotal
      bytesTotal := hcounts.bytesTotal
      files_le := by
        rw [hfilesDone, hcounts.filesTotal]
        exact (hbegins.sublist.filter isCopy).length_le
      bytes_le := by
        rw [hbytesDone, hcounts.bytesTotal]
        exact hle
      active := hcounts.active
      task := ⟨info, hinfo, by
        rw [task_inRound hshown hinfo, bar, hcounts.bytesTotal, hcompleted]⟩ }

/-- A display that agrees with the round that it is in has counted no file before it.  What was
counted before is counted in the round as well, and would be too much. -/
theorem filesDone_of_shows (hshows : Shows (display.inRound plan taken) plan taken) :
    display.filesDone = 0 := by
  have hcounted := (counts_inRound display plan taken).filesDone
  rw [hshows.filesDone] at hcounted
  omega

theorem filter_taken_eq_nil_iff (rounds : List Round) :
    (rounds.flatMap Round.taken).filter isCopy = [] ↔
      ∀ round ∈ rounds, ∀ operation ∈ round.taken, isCopy operation = false := by
  rw [List.filter_eq_nil_iff]
  constructor
  · intro hnone round hround operation hmem
    simpa using hnone operation (List.mem_flatMap.2 ⟨round, hround, hmem⟩)
  · intro hnone operation hmem
    obtain ⟨round, hround, htaken⟩ := List.mem_flatMap.1 hmem
    simp [hnone round hround operation htaken]

/-- **A display that is used again agrees with the round that it is in exactly if no earlier round
has copied a file**, as long as the bytes have a text at all and no size is negative.  What it shows
as done is what all rounds have copied, and as to be done what the last plan copies; the bar, which
starts with nothing completed, comes to the same with the first step that copies. -/
theorem reused_shows_iff (rounds : List Round) (hbegins : taken <+: plan) :
    (reused rounds).enter? = .ok (reused rounds).enter ∧
      Counts ((reused rounds).inRound plan taken)
        ((rounds.flatMap Round.taken).filter isCopy).length
        (copiedBytes (rounds.flatMap Round.taken)) plan taken ∧
      (∀ shown info, ((reused rounds).inRound plan []).text? = .ok shown →
        ((reused rounds).inRound plan taken).text? = .ok info →
        ((reused rounds).inRound plan taken).task = some
          { description := "Copying assets"
            completed :=
              if taken.any isCopy then ((reused rounds).inRound plan taken).bytesDone else 0
            total := some (copiedBytes plan)
            info }) ∧
      (Shows ((reused rounds).inRound plan taken) plan taken ↔
        (∀ round ∈ rounds, ∀ operation ∈ round.taken, isCopy operation = false) ∧
          (∃ text, Report.size? (copiedBytes taken) = .ok text) ∧
          (∃ text, Report.size? (copiedBytes plan) = .ok text) ∧
          copiedBytes taken ≤ copiedBytes plan) ∧
      ((∀ operation ∈ plan, 0 ≤ operation.size) → copiedBytes taken ≤ copiedBytes plan) := by
  obtain ⟨hfiles, hbytes, hactive⟩ := counts_reused rounds
  have hcounts := counts_inRound (reused rounds) plan taken
  refine ⟨by rw [enter?, if_neg (by simp [hactive])], hfiles ▸ hbytes ▸ hcounts,
    fun _ _ hshown hinfo => task_inRound hshown hinfo, ⟨fun hshows => ?_, ?_⟩,
    fun hsizes => copiedBytes_le_of_prefix hsizes hbegins⟩
  · obtain ⟨info, hinfo, -⟩ := hshows.task
    obtain ⟨hdone, htotal⟩ := (text?_isOk_iff _).1 ⟨info, hinfo⟩
    have hle := hshows.bytes_le
    rw [hshows.bytesDone] at hdone hle
    rw [hcounts.bytesTotal] at htotal hle
    have hnone := filesDone_of_shows hshows
    rw [hfiles, List.length_eq_zero_iff] at hnone
    exact ⟨(filter_taken_eq_nil_iff rounds).1 hnone, hdone, htotal, hle⟩
  · rintro ⟨hnone, hdone, htotal, hle⟩
    have hempty := (filter_taken_eq_nil_iff rounds).2 hnone
    exact shows_inRound (by rw [hfiles, hempty]; rfl) (by rw [hbytes, copiedBytes, hempty]; rfl)
      hbegins hdone htotal hle

/-- A plan that copies one file of three bytes. -/
def oneCopy : List Operation :=
  [{ kind := .copyFile
     target := Path.ofText "out/f"
     relativePath := "f"
     entry := some { path := Path.ofText "in/f", relativePath := "f", kind := .file, size := 3 } }]

/-- A round that goes through such a plan. -/
def oneRound : Round := { plan := oneCopy, taken := oneCopy, begins := List.prefix_rfl }

theorem reused_shows_iff_oneRound :
    [] <+: oneCopy ∧ (∀ operation ∈ oneCopy, 0 ≤ operation.size) ∧
      copiedBytes [] ≤ copiedBytes oneCopy ∧
      (Shows ((reused [oneRound]).inRound oneCopy []) oneCopy [] ↔
        (∀ round ∈ [oneRound], ∀ operation ∈ round.taken, isCopy operation = false) ∧
          (∃ text, Report.size? (copiedBytes []) = .ok text) ∧
          (∃ text, Report.size? (copiedBytes oneCopy) = .ok text) ∧
          copiedBytes [] ≤ copiedBytes oneCopy) := by
  have hsizes : ∀ operation ∈ oneCopy, 0 ≤ operation.size := by decide
  obtain ⟨-, -, -, hiff, hle⟩ := reused_shows_iff [oneRound] (List.nil_prefix : [] <+: oneCopy)
  exact ⟨List.nil_prefix, hsizes, hle hsizes, hiff⟩

/-- **The second round starts with the file of the first one counted as done**, while its bar has
nothing completed. -/
theorem not_shows_secondRound :
    [] <+: oneCopy ∧ ¬ Shows ((reused [oneRound]).inRound oneCopy []) oneCopy [] ∧
      ((reused [oneRound]).inRound oneCopy []).text? = .ok "1/1 files, 3 B/3 B" ∧
      ((reused [oneRound]).inRound oneCopy []).task = some
        { description := "Copying assets"
          completed := 0
          total := some 3
          info := "1/1 files, 3 B/3 B" } := by
  refine ⟨List.nil_prefix, fun hshows => ?_, rfl, by decide +kernel⟩
  exact absurd hshows.filesDone (by decide +kernel)

end ProgressDisplay
end AssetPublish
