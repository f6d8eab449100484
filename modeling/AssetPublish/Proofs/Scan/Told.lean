import AssetPublish.Proofs.Scan.Order

/-!
# What a scan has told

What a scan has told can be planned, also if it ended early.  The objects that it has told of have
been looked up, so that they can be looked up again as long as nothing changes.

A plan is made from what the scan has told, so both facts are needed to go from a scan to the steps
of a run: every event that asks for a step has one, and the object that the step is about is still
found when the step is taken, if nothing has touched it.

## What is here

* `exists_stepsFor?` — whatever a scan has told can be planned.
* `inspect?_of_mem_events` — an entry is what is found at its path.
* `find?_of_mem_copied` — an object that is copied is found at its path.
-/

set_option autoImplicit false

namespace AssetPublish

open FileSystem

variable {fs : FileSystem} {caller : Caller} {rule : Exclusion} {root dest : Path} {base : Location}
  {names : List String} {object : Object} {mode : Nat}

/-- Whatever is told about some objects can be planned. -/
theorem exists_stepsFor?_map_verdict (visits : List Visit) :
    ∃ steps, Plan.stepsFor? dest (visits.map (verdict rule root)) = .ok steps := by
  induction visits with
  | nil => exact ⟨[], rfl⟩
  | cons visit rest ih =>
    obtain ⟨names, object⟩ := visit
    obtain ⟨steps, hsteps⟩ := ih
    rw [List.map_cons, verdict]
    split
    · exact ⟨steps, hsteps⟩
    · split
      · exact ⟨steps, hsteps⟩
      · rename_i hkind
        have hsome : ∃ kind,
            OperationKind.ofEntryKind? (EntryKind.ofObject object) = some kind := by
          cases object with
          | socket mode => exact absurd rfl hkind
          | _ => exact ⟨_, rfl⟩
        obtain ⟨kind, hsome⟩ := hsome
        exact ⟨_, by
          rw [Plan.stepsFor?, Operation.forEntry?]
          simp only [Entry.ofObject, hsome, ok_bind, hsteps]
          rfl⟩

theorem exists_stepsFor? (rule : Exclusion) (dest : Path)
    (hroot : fs.follow? caller root.text = .ok (base, .directory mode)) :
    ∃ steps, Plan.stepsFor? dest (Scan.all fs caller rule.scanRule root).events = .ok steps := by
  obtain ⟨told, later, -, hcourse⟩ := scan_cases rule hroot
  rw [hcourse.events]
  exact exists_stepsFor?_map_verdict told

theorem inspect?_of_next {scanRule : ScanRule} {scan : Scan} {event : ScanEvent} {rest : Scan}
    (h : scan.next fs caller scanRule = .event event rest) :
    rest.base = scan.base ∧
      ∀ entry, event = .entry entry →
        Entry.inspect? fs caller entry.path scan.base = .ok entry := by
  rcases Scan.next_cases fs caller scanRule scan with
    ⟨frames, -, hnext⟩ | ⟨_, _, _, -, -, hnext, -⟩
  · obtain ⟨dir, name, names, outer, found, -, hinspect, hjudge, rfl⟩ :=
      Scan.visit_eq_event (hnext.symm.trans h)
    refine ⟨rfl, ?_⟩
    rintro entry rfl
    rcases Scan.judge_cases hjudge with heq | heq | heq
    · simp at heq
    · simp at heq
    · obtain rfl := ScanEvent.entry.inj heq
      rw [Entry.path_of_inspect? hinspect, hinspect]
  · rw [hnext] at h
    simp at h

/-- An entry that a scan has told of is what is found at its path. -/
theorem inspect?_of_mem_events {scanRule : ScanRule} {fuel : Nat} {scan : Scan} {entry : Entry}
    (h : .entry entry ∈ (Scan.allFrom fs caller scanRule fuel scan).events) :
    Entry.inspect? fs caller entry.path scan.base = .ok entry := by
  induction fuel generalizing scan with
  | zero => simp [Scan.allFrom] at h
  | succ fuel ih =>
    rw [Scan.allFrom] at h
    cases hstep : scan.next fs caller scanRule with
    | finished => simp [hstep] at h
    | failed fault => simp [hstep] at h
    | event event rest =>
      obtain ⟨hbase, hentry⟩ := inspect?_of_next hstep
      rw [hstep] at h
      rcases List.mem_cons.1 h with heq | hmem
      · exact hentry entry heq.symm
      · rw [← hbase]
        exact ih hmem

/-- **An object that is copied is found at its path**, as the scan has found it. -/
theorem find?_of_mem_copied (hroot : fs.follow? caller root.text = .ok (base, .directory mode))
    (hfault : (Scan.all fs caller rule.scanRule root).fault = none)
    (hmem : (names, object) ∈ fs.copied rule base) :
    fs.find? caller .itself (root.append names).text = .ok (names.reverse ++ base, object) := by
  obtain ⟨hne, hget, hcovers, hkind⟩ := mem_copied_iff.1 hmem
  have hevent : .entry (Entry.ofObject (root.append names) (Text.joined '/' names) object)
      ∈ (Scan.all fs caller rule.scanRule root).events := by
    rw [events_of_fault_eq_none hroot hfault]
    rw [Exclusion.covers_iff hne, not_or, Bool.not_eq_true] at hcovers
    refine List.mem_map.2 ⟨(names, object), mem_visited_iff.2 ⟨hne, hget, hcovers.1⟩, ?_⟩
    simp [verdict, hcovers.2, hkind]
  have hinspect := inspect?_of_mem_events hevent
  rw [Entry.inspect?, FileSystem.inspect?] at hinspect
  cases hfind : fs.find? caller .itself (root.append names).text with
  | error fault => simp [Entry.ofObject, hfind, Except.map] at hinspect
  | ok found => rw [eq_of_find?_append (pathLeads_of_follow? hroot) hne hget hfind]

end AssetPublish
