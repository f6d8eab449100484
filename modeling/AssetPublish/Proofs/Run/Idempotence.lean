import AssetPublish.Proofs.Run.Again
import AssetPublish.Proofs.Run.Statistics

/-!
# Running once more changes nothing

A run that ends well can be repeated at once.  It ends well again, with the same counts, but for the
destination, which is there to be removed now; and it leaves every object as the first run left it.
Nothing is assumed about the caller: whoever could create the destination can also remove it.

What is compared is what is found at every location.  This includes the permission bits and, for
files, the content and the time of change.  So the second run does not only leave the same names: it
leaves objects that cannot be told from those of the first.

## What is here

* `summary_withRemoved`, `foldl_count_withRemoved` — nothing else depends on whether the destination
  had to be removed.
* `run_idempotent` — the statement for a whole run.
-/

set_option autoImplicit false

namespace AssetPublish

open FileSystem

variable {fs fs₁ fs₂ out : FileSystem} {caller : Caller} {settings : Settings}
  {around : Circumstances} {tally : Tally} {steps : List Operation} {dest : Path}
  {operation : Operation}

/-! ## The counts

The two tallies are computed from the two plans, and these differ in the step that removes the
destination. -/

/-- Counts of a run that has found something at the destination.  No other counter looks at the old
destination, as the lemmas below say. -/
def Tally.withRemoved (tally : Tally) : Tally := { tally with removedDestination := true }

theorem Tally.count_withRemoved (tally : Tally) (operation : Operation) :
    tally.withRemoved.count operation = (tally.count operation).withRemoved := by
  rw [Tally.count, Tally.count]
  cases operation.kind <;> rfl

theorem foldl_count_withRemoved (steps : List Operation) (tally : Tally) :
    steps.foldl Tally.count tally.withRemoved = (steps.foldl Tally.count tally).withRemoved := by
  induction steps generalizing tally with
  | nil => rfl
  | cons operation rest ih => rw [List.foldl_cons, List.foldl_cons, tally.count_withRemoved, ih]

/-- The summary does not tell whether the destination had to be removed. -/
theorem summary_withRemoved (voice : Voice) (tally : Tally) :
    Report.summary voice tally.withRemoved.toValue = Report.summary voice tally.toValue := rfl

/-- The steps on the destination itself have no size. -/
theorem reportable_of_mem_rootSteps (voice : Voice) {occupied : Bool}
    (h : operation ∈ rootSteps occupied dest) : operation.Reportable voice := by
  have hsize : operation.size = 0 := by
    rw [rootSteps, List.mem_append, List.mem_singleton] at h
    rcases h with h | rfl
    · cases occupied with
      | false => simp at h
      | true =>
        obtain rfl := List.mem_singleton.1 h
        rfl
    · rfl
  obtain ⟨text, htext, -⟩ := size?_of_lt (show operation.size < sizeBound by
    rw [hsize]
    exact Int.natCast_pos.2 sizeBound_pos)
  exact Or.inr ⟨text, htext⟩

/-- The second run counts what the first one has counted. -/
theorem Rebuild.finalTally_again (h : Rebuild settings caller fs fs₁ fs₂ out steps) :
    finalTally settings out caller (rootSteps true settings.destination ++ steps)
      = (finalTally settings fs caller
          (rootSteps (fs.occupied caller settings.destination) settings.destination
            ++ steps)).withRemoved := by
  have hexcluded : (settings.plan out caller).excluded = (settings.plan fs caller).excluded := by
    rw [h.plan_again]
    rfl
  rw [finalTally, finalTally, hexcluded, List.foldl_append, List.foldl_append,
    foldl_count_rootSteps, foldl_count_rootSteps, ← foldl_count_withRemoved]
  simp [Tally.withRemoved]

/-! ## A whole run -/

/-- **A run that ends well can be repeated.**  Between roots that are spelled apart and meet no
link, if nothing interferes, the second run ends well too; its counts are those of the first run,
but that the destination has been removed; and it leaves the same objects everywhere.  It is asked
of the first run only that it has ended well, in whatever tree; everything that the second needs has
been left by the first. -/
theorem run_idempotent (hneutral : around.Neutral)
    (hcalm : ∀ operation, around.disturbance operation = none) (hreal : settings.dryRun = false)
    (hroots : Straight fs around.caller settings.source settings.destination)
    (hok : (settings.run around fs).result = .ok tally) :
    (settings.run around (settings.run around fs).fs).result
        = .ok { tally with removedDestination := true } ∧
      ∀ location, (settings.run around (settings.run around fs).fs).fs.get? location
        = (settings.run around fs).fs.get? location := by
  obtain ⟨fs₁, fs₂, steps, h, -⟩ := exists_rebuild hneutral.idle hreal hroots hok
  obtain ⟨-, planned, hplan, -, hreports, rfl, hsummable⟩ :=
    (run_real_eq_ok_iff hneutral hcalm hreal).1 ⟨hok, rfl⟩
  obtain rfl := Except.ok.inj (h.plan.symm.trans hplan)
  obtain ⟨out', hall, hsame⟩ := h.allTaken_again
  have hagain : ∀ operation ∈ rootSteps true settings.destination ++ steps,
      operation.Reportable around.voice := by
    intro operation hmem
    rcases List.mem_append.1 hmem with hroot | hstep
    · exact reportable_of_mem_rootSteps _ hroot
    · exact hreports operation (List.mem_append_right _ hstep)
  have hsummary : (finalTally settings (settings.run around fs).fs around.caller
      (rootSteps true settings.destination ++ steps)).Summable around.voice := by
    rw [h.finalTally_again, Tally.Summable, summary_withRemoved]
    exact hsummable
  obtain ⟨hresult, hout⟩ := (run_real_eq_ok_iff hneutral hcalm hreal).2
    ⟨h.check_again, _, by rw [h.plan_again], hall, hagain, rfl, hsummary⟩
  refine ⟨by rw [hresult, h.finalTally_again]; rfl, fun location => ?_⟩
  rw [hout]
  exact (hsame.get?_eq location).symm

/-- One whom permission bits bind, working at the root.  Such a caller can be refused where the
privileged are not, so that this case tests more than theirs would. -/
def visitor : Caller := ⟨[], false⟩

theorem run_idempotent_mixedTree :
    Circumstances.Neutral { caller := visitor } ∧
      (∀ operation, Circumstances.disturbance { caller := visitor } operation = none) ∧
      staleSettings.dryRun = false ∧
      Straight mixedTree visitor staleSettings.source staleSettings.destination ∧
      ∃ tally, (staleSettings.run { caller := visitor } mixedTree).result = .ok tally ∧
        (staleSettings.run { caller := visitor }
            (staleSettings.run { caller := visitor } mixedTree).fs).result
          = .ok { tally with removedDestination := true } ∧
        ∀ location, (staleSettings.run { caller := visitor }
            (staleSettings.run { caller := visitor } mixedTree).fs).fs.get? location
          = (staleSettings.run { caller := visitor } mixedTree).fs.get? location := by
  have hneutral : Circumstances.Neutral { caller := visitor } := by simp [Circumstances.Neutral]
  have hsource : mixedTree.LinkFree visitor.workingDirectory staleSettings.source.parts :=
    linkFree_of_get? (show _ = some (.directory 0o755) by decide +kernel) rfl
  have hroots : Straight mixedTree visitor staleSettings.source staleSettings.destination :=
    ⟨by decide, by decide, hsource, LinkFree.nil, by decide⟩
  have hok : (staleSettings.run { caller := visitor } mixedTree).result.isOk = true := by
    decide +kernel
  cases hresult : (staleSettings.run { caller := visitor } mixedTree).result with
  | error error => rw [hresult] at hok; simp [Except.isOk, Except.toBool] at hok
  | ok tally =>
    exact ⟨hneutral, fun _ => rfl, rfl, hroots, tally, rfl,
      run_idempotent hneutral (fun _ => rfl) rfl hroots hresult⟩

/-- Nothing is at the destination before the first run, but it is before the second. -/
example : (staleSettings.run { caller := visitor } mixedTree).result.toOption.map
    Tally.removedDestination = some false := by
  decide +kernel

end AssetPublish
