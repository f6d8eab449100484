import AssetPublish.Proofs.RuleDescent
import AssetPublish.Proofs.Scan.Order

/-!
# Leaving out on the way and leaving out afterwards

A scan does not go into a directory that its rule matches.  With a rule that looks at single
components nothing is lost by that: what lies below would be matched as well, so the entries are
those of a scan that leaves nothing out, without the ones that are matched.

The two scans differ in what they look at.  The one that leaves nothing out also comes to the
objects below what is matched, and may end early at one of them.

This is why the two are compared as they are in `Filters`: what the full scan tells before it ends
is a beginning of what the other tells, and where both come to their end, or end for the same
reason, nothing is missing.  The proof needs a scan as one pass along a list of objects
(`Scan.along`), with every reason to end early attached to an object of the list; the list of the
scan with the rule is a part of the list of the full one (`Prunes`), and the induction is on that.

## What is here

* `Scan.along`, `all_eq_along` — a scan as one pass along the objects that it comes to.
* `Prunes`, `prunes_visited` — what two scans come to, one of which leaves objects out.
* `Filters` — what is to hold of the two scans.
* `filters_along` — it holds of two passes, by induction on what the passes come to.
* `descent_pruning` — the main statement.
-/

set_option autoImplicit false

namespace AssetPublish

open FileSystem

/-! ## A scan as one pass -/

/-- The path that a fault of a scan names. -/
def ScanFault.place : ScanFault → Option Path
  | unreadable dir _ => some dir
  | uninspectable item _ => some item
  | fault _ => none

namespace Scan

/-- An outcome, unless there is a reason to end before it. -/
def Outcome.unless (outcome : Outcome) (bar : Option ScanFault) : Outcome :=
  bar.elim outcome fun fault => ⟨[], some fault⟩

/-- Why a scan ends behind an object: it is a directory that is to be listed and cannot be.  Under a
rule that leaves the directory out it is not listed, so this reason is gone; that is one of the two
differences between the scans. -/
def barred? (fs : FileSystem) (caller : Caller) (rule : Exclusion) (root : Path) (visit : Visit) :
    Option ScanFault :=
  (opened (verdict rule root visit)).bind (unlisted? fs caller)

/-- A scan along some objects.  It is a recursion on the list, so that what two scans tell can be
compared object by object. -/
def along (fs : FileSystem) (caller : Caller) (rule : Exclusion) (root : Path) :
    List Visit → Outcome
  | [] => ⟨[], none⟩
  | visit :: later =>
    (((along fs caller rule root later).unless (barred? fs caller rule root visit)).cons
      (verdict rule root visit)).unless (unseen? fs caller root (root.append visit.1))

@[simp] theorem Outcome.unless_none (outcome : Outcome) : outcome.unless none = outcome := rfl

@[simp] theorem Outcome.unless_some (outcome : Outcome) (fault : ScanFault) :
    outcome.unless (some fault) = ⟨[], some fault⟩ := rfl

variable {fs : FileSystem} {caller : Caller} {root item : Path} {fault : ScanFault}

theorem exists_listNames?_of_unlisted? (h : unlisted? fs caller item = none) :
    ∃ names, fs.listNames? caller item.text = .ok names := by
  rw [unlisted?] at h
  split at h
  · exact ⟨_, ‹_›⟩
  · simp at h
  · simp at h

/-- Only what is a directory can be listed. -/
theorem exists_follow?_of_listNames? {text : String} {names : List String}
    (h : fs.listNames? caller text = .ok names) :
    ∃ base mode, fs.follow? caller text = .ok (base, .directory mode) := by
  rw [listNames?] at h
  cases hfollow : fs.follow? caller text with
  | error fault => simp [hfollow] at h
  | ok found =>
    obtain ⟨base, object⟩ := found
    cases object with
    | directory mode => exact ⟨base, mode, rfl⟩
    | _ => simp [hfollow] at h

/-- A fault that names something names the object that could not be looked at. -/
theorem place_of_unseen? (h : unseen? fs caller root item = some fault) (hnamed : fault.IsNamed) :
    fault.place = some item := by
  rw [unseen?] at h
  split at h
  · simp at h
  · rw [← Option.some.inj h]
    rfl
  · rw [← Option.some.inj h] at hnamed
    exact hnamed.elim

theorem place_of_unlisted? (h : unlisted? fs caller item = some fault) (hnamed : fault.IsNamed) :
    fault.place = some item := by
  rw [unlisted?] at h
  split at h
  · simp at h
  · rw [← Option.some.inj h]
    rfl
  · rw [← Option.some.inj h] at hnamed
    exact hnamed.elim

/-- A scan whose root cannot be listed ends at once, whatever its rule is. -/
theorem all_of_unlisted? (h : unlisted? fs caller root = some fault) (scanRule : ScanRule) :
    all fs caller scanRule root = ⟨[], some fault⟩ := by
  have hbound : (start root).eventBound fs = (2 * fs.objects.length + 1) + 1 := by
    rw [eventBound_start]
    omega
  rw [all, hbound, allFrom, start, next_listing, h]

end Scan

namespace Stage

open Scan

variable {fs : FileSystem} {caller : Caller} {rule : Exclusion} {root : Path} {base : Location}
  {mode : Nat}

/-- What a scan tells from a state on. -/
def outcome (fs : FileSystem) (caller : Caller) (rule : Exclusion) (root : Path) (base : Location)
    (stage : Stage) : Scan.Outcome :=
  (along fs caller rule root (stage.rest fs rule base)).unless
    ((stage.pending.map root.append).bind (unlisted? fs caller))

/-- **A scan is a pass along the objects that it comes to.** -/
theorem allFrom_eq_outcome (hplain : rule.IsPlain)
    (hroot : fs.follow? caller root.text = .ok (base, .directory mode)) {fuel : Nat}
    {stage : Stage} (hsound : stage.Sound fs root base)
    (hfuel : (stage.rest fs rule base).length < fuel) :
    Scan.allFrom fs caller rule.scanRule fuel (stage.scan root)
      = stage.outcome fs caller rule root base := by
  have hleads := pathLeads_of_follow? hroot
  induction fuel generalizing stage with
  | zero => exact absurd hfuel (Nat.not_lt_zero _)
  | succ fuel ih =>
    obtain ⟨frames, hfound, hrest, -, hnext⟩ := next_eq rule hroot hsound
    rw [Scan.allFrom, hnext, outcome]
    cases (stage.pending.map root.append).bind (unlisted? fs caller) with
    | some fault => rfl
    | none =>
      rw [Outcome.unless_none, hrest]
      rw [hrest] at hfuel
      rcases visit_eq rule hleads hfound with
        ⟨hnil, hvisit⟩ | ⟨names, object, outer, hne, hget, houter, hcons, hvisit⟩
      · simp only [hnil, hvisit, along]
      · rw [hcons, List.length_cons] at hfuel
        rw [hcons, along, hvisit, judge_ofObject (Or.inl hplain)]
        rcases unseen?_cases hleads hne hget with ⟨hseen, -, hspell⟩ | ⟨fault, hunseen, -⟩
        · rw [hseen]
          have hsound' : (after rule names object outer).Sound fs root base :=
            sound_after hget hspell houter
          have hopened : (after rule names object outer).pending.map root.append
              = opened (verdict rule root (names, object)) :=
            congrArg Scan.pending (scan_after outer)
          simp only [Outcome.unless_none]
          rw [ih hsound' (by omega), outcome, hopened, barred?]
        · rw [hunseen]
          rfl

end Stage

/-- **A whole scan.** -/
theorem all_eq_along {fs : FileSystem} {caller : Caller} {rule : Exclusion} {root : Path}
    {base : Location} {mode : Nat} (hplain : rule.IsPlain)
    (hroot : fs.follow? caller root.text = .ok (base, .directory mode))
    (hlisted : Scan.unlisted? fs caller root = none) :
    Scan.all fs caller rule.scanRule root
      = Scan.along fs caller rule root (fs.visited rule base) := by
  have hle : (fs.visited rule base).length ≤ fs.objects.length := length_visited_le
  rw [Scan.all, ← Stage.scan_start,
    Stage.allFrom_eq_outcome hplain hroot (Stage.sound_start hroot), Stage.outcome,
    Stage.rest_start]
  · simp only [Option.map_some, Path.append_nil, Option.bind_some, hlisted, Scan.Outcome.unless_none]
  · rw [Stage.rest_start, Stage.scan_start, Scan.eventBound_start]
    omega

/-! ## Two scans of which one leaves objects out -/

/-- Of some objects those are taken out that a rule leaves out, all or some of them.  An object that
is left out may stay, since a scan tells of the topmost object that its rule matches, and takes out
only what lies below. -/
inductive Prunes (rule : Exclusion) : List Visit → List Visit → Prop
  | nil : Prunes rule [] []
  | keep {whole pruned : List Visit} (visit : Visit) (hprunes : Prunes rule whole pruned) :
      Prunes rule (visit :: whole) (visit :: pruned)
  | drop {whole pruned : List Visit} {visit : Visit} (hexcludes : rule.excludes visit.1 = true)
      (hprunes : Prunes rule whole pruned) : Prunes rule (visit :: whole) pruned

namespace Prunes

variable {rule : Exclusion} {whole pruned whole' pruned' : List Visit}

theorem sublist (h : Prunes rule whole pruned) : pruned.Sublist whole := by
  induction h with
  | nil => exact List.Sublist.slnil
  | keep visit hprunes ih => exact ih.cons_cons visit
  | drop hexcludes hprunes ih => exact ih.cons _

/-- Pruning goes through a list piece by piece. -/
theorem append (h : Prunes rule whole pruned) (h' : Prunes rule whole' pruned') :
    Prunes rule (whole ++ whole') (pruned ++ pruned') := by
  induction h with
  | nil => exact h'
  | keep visit hprunes ih => exact ih.keep visit
  | drop hexcludes hprunes ih => exact ih.drop hexcludes

/-- Below each name something else may be pruned. -/
theorem flatMap {below below' : String → List Visit} (h : ∀ name, Prunes rule (below name) (below' name))
    (names : List String) : Prunes rule (names.flatMap below) (names.flatMap below') := by
  induction names with
  | nil => exact .nil
  | cons name rest ih => exact (h name).append ih

/-- Objects that are all left out can all be taken out. -/
theorem all (h : ∀ visit ∈ whole, rule.excludes visit.1 = true) : Prunes rule whole [] := by
  induction whole with
  | nil => exact .nil
  | cons visit rest ih =>
    exact (ih fun other hother => h other (List.mem_cons_of_mem _ hother)).drop
      (h visit List.mem_cons_self)

end Prunes

namespace Exclusion

/-- The empty union leaves nothing out. -/
theorem excludes_nothing (names : List String) : (union []).excludes names = false := by
  rw [excludes, matches?, applies?, anyApplies?]

theorem isSegmental_nothing : (union []).IsSegmental := by
  rw [IsSegmental, AllSegmental]
  trivial

end Exclusion

namespace FileSystem

variable {fs : FileSystem} {rule : Exclusion} {base : Location}

/-- What is visited is in the tree, under the names with which it is visited. -/
theorem get?_of_mem_visitedWith {fuel : Nat} {names : List String} {visit : Visit}
    (h : visit ∈ visitedWith fs rule base fuel names) :
    fs.get? (visit.1.reverse ++ base) = some visit.2 := by
  induction fuel generalizing names with
  | zero => rw [visitedWith] at h; simp at h
  | succ fuel ih =>
    rw [visitedWith] at h
    split at h
    · simp at h
    · rename_i object hget
      rcases List.mem_cons.1 h with rfl | h
      · exact hget
      · split at h
        · obtain ⟨name, -, hname⟩ := List.mem_flatMap.1 h
          exact ih hname
        · simp at h

/-- **A rule that is closed under descent only takes out what it leaves out.** -/
theorem prunes_visitedWith (h : rule.IsSegmental) (fuel : Nat) (names : List String) :
    Prunes rule (visitedWith fs (.union []) base fuel names)
      (visitedWith fs rule base fuel names) := by
  induction fuel generalizing names with
  | zero => exact .nil
  | succ fuel ih =>
    rw [visitedWith, visitedWith]
    cases hget : fs.get? (names.reverse ++ base) with
    | none => exact .nil
    | some object =>
      refine Prunes.keep _ ?_
      rw [Exclusion.excludes_nothing, Bool.not_false, Bool.and_true]
      cases hdirectory : object.isDirectory with
      | false => exact .nil
      | true =>
        cases hexcludes : rule.excludes names with
        | false => exact Prunes.flatMap (fun name => ih (names ++ [name])) _
        | true =>
          refine Prunes.all fun visit hvisit => ?_
          obtain ⟨name, -, hbelow⟩ := List.mem_flatMap.1 hvisit
          have hprefix := (List.prefix_append names [name]).trans (prefix_of_mem_visitedWith hbelow)
          exact Exclusion.excludes_of_prefix h
            (isName_of_get?_reverse (get?_of_mem_visitedWith hbelow)) hprefix hexcludes

/-- The scan with a rule prunes the scan without one. -/
theorem prunes_visited (h : rule.IsSegmental) :
    Prunes rule (fs.visited (.union []) base) (fs.visited rule base) :=
  Prunes.flatMap (fun name => prunes_visitedWith h _ [name]) _

end FileSystem

/-! ## What is told by the two -/

namespace ScanEvent

/-- The entry that an event tells of. -/
def found? : ScanEvent → Option Entry
  | entry found => some found
  | _ => none

theorem found?_eq_some_iff {event : ScanEvent} {found : Entry} :
    event.found? = some found ↔ event = .entry found := by
  cases event <;> simp [found?]

end ScanEvent

namespace Scan

/-- The entries of a scan, in the order in which they are told. -/
def Outcome.entries (outcome : Outcome) : List Entry := outcome.events.filterMap ScanEvent.found?

/-- The entries of a scan that a rule does not match. -/
def Outcome.spared (rule : Exclusion) (outcome : Outcome) : List Entry :=
  outcome.entries.filter fun entry => rule.spares entry.relativePath

/-- **What holds of a scan that leaves nothing out, and one of the same tree with a rule.**  Without
the condition on how the two end, the last clause would be wrong; see `not_filtered_deepTree`. -/
structure Filters (rule : Exclusion) (whole pruned : Outcome) : Prop where
  /-- The entries of the first that are not matched are told by the second, before any other. -/
  first : whole.spared rule <+: pruned.entries
  /-- If the first goes on to its end, so does the second. -/
  complete : whole.fault = none → pruned.fault = none
  /-- If both go on to their end or end early for the same reason, the second tells of no other
  entries. -/
  entries : whole.fault = pruned.fault → pruned.entries = whole.spared rule

variable {rule : Exclusion} {root : Path}

theorem Outcome.entries_cons (event : ScanEvent) (outcome : Outcome) :
    (outcome.cons event).entries = event.found?.toList ++ outcome.entries := by
  rw [entries, cons, List.filterMap_cons, entries]
  cases event.found? <;> rfl

/-- What is told of an object under a rule is what is told of it anyway, unless it is matched. -/
theorem filter_found?_verdict (hplain : rule.IsPlain) (visit : Visit) :
    (verdict (.union []) root visit).found?.toList.filter
        (fun entry => rule.spares entry.relativePath)
      = (verdict rule root visit).found?.toList := by
  obtain ⟨names, object⟩ := visit
  have hspares : rule.spares (Text.joined '/' names) = !rule.excludes names := by
    rw [Exclusion.spares, Exclusion.matches?_of_isPlain hplain]
  rw [verdict, verdict, Exclusion.excludes_nothing, if_neg Bool.false_ne_true]
  by_cases hspecial : EntryKind.ofObject object = .special
  · rw [if_pos hspecial]
    cases rule.excludes names <;> simp [ScanEvent.found?]
  · rw [if_neg hspecial]
    cases hexcludes : rule.excludes names <;>
      simp [ScanEvent.found?, Entry.ofObject, hspares, hexcludes]

/-- An event that the rule covers adds nothing, and any other adds the entry that both scans tell
of. -/
theorem Outcome.spared_cons (hplain : rule.IsPlain) (visit : Visit) (outcome : Outcome) :
    (outcome.cons (verdict (.union []) root visit)).spared rule
      = (verdict rule root visit).found?.toList ++ outcome.spared rule := by
  rw [spared, entries_cons, List.filter_append, filter_found?_verdict hplain, spared]

/-- Nothing is listed behind an object that is left out; behind the others it is the same. -/
theorem barred?_eq (fs : FileSystem) (caller : Caller) (rule : Exclusion) (visit : Visit) :
    barred? fs caller rule root visit
      = if rule.excludes visit.1 then none else barred? fs caller (.union []) root visit := by
  obtain ⟨names, object⟩ := visit
  rw [barred?, barred?, Stage.opened_verdict, Stage.opened_verdict, Exclusion.excludes_nothing]
  cases rule.excludes names <;> simp

theorem place_of_barred? {fs : FileSystem} {caller : Caller} {visit : Visit} {fault : ScanFault}
    (h : barred? fs caller rule root visit = some fault) (hnamed : fault.IsNamed) :
    fault.place = some (root.append visit.1) := by
  obtain ⟨dir, hopened, hunlisted⟩ := Option.bind_eq_some_iff.1 h
  rw [show visit = (visit.1, visit.2) from rfl, Stage.opened_verdict] at hopened
  split at hopened
  · obtain rfl := Option.some.inj hopened
    exact place_of_unlisted? hunlisted hnamed
  · simp at hopened

/-- Nothing is told as an entry that is left out. -/
theorem found?_verdict_of_excludes {visit : Visit} (h : rule.excludes visit.1 = true) :
    (verdict rule root visit).found? = none := by
  rw [verdict, if_pos h]
  rfl

namespace Filters

variable {whole pruned : Outcome} {visit : Visit} {fault : ScanFault}

/-- Both tell of an object, or the second leaves it out. -/
theorem cons (h : Filters rule whole pruned) (hplain : rule.IsPlain) (root : Path) (visit : Visit) :
    Filters rule (whole.cons (verdict (.union []) root visit))
      (pruned.cons (verdict rule root visit)) where
  first := by
    rw [Outcome.spared_cons hplain, Outcome.entries_cons, List.prefix_append_right_inj]
    exact h.first
  complete := h.complete
  entries hfault := by
    rw [Outcome.spared_cons hplain, Outcome.entries_cons, h.entries hfault]

/-- The second does not come to an object that it would leave out. -/
theorem drop (h : Filters rule whole pruned) (hplain : rule.IsPlain) (root : Path)
    (hexcludes : rule.excludes visit.1 = true) :
    Filters rule (whole.cons (verdict (.union []) root visit)) pruned := by
  have hspared : (whole.cons (verdict (.union []) root visit)).spared rule = whole.spared rule := by
    rw [Outcome.spared_cons hplain, found?_verdict_of_excludes hexcludes]
    rfl
  exact ⟨by rw [hspared]; exact h.first, h.complete, by rw [hspared]; exact h.entries⟩

/-- The first ends early, where the second does not, or has told of nothing either. -/
theorem ended (h : pruned.fault = some fault → pruned.entries = []) :
    Filters rule ⟨[], some fault⟩ pruned where
  first := List.nil_prefix
  complete hfault := by simp at hfault
  entries hfault := h hfault.symm

end Filters

variable {fs : FileSystem} {caller : Caller} {whole pruned : List Visit} {fault : ScanFault}

/-- A pass ends early at an object that it comes to. -/
theorem exists_place_of_along (h : (along fs caller rule root whole).fault = some fault)
    (hnamed : fault.IsNamed) : ∃ visit ∈ whole, fault.place = some (root.append visit.1) := by
  induction whole with
  | nil => simp [along] at h
  | cons visit later ih =>
    rw [along] at h
    cases hunseen : unseen? fs caller root (root.append visit.1) with
    | some other =>
      rw [hunseen] at h
      obtain rfl := Option.some.inj h
      exact ⟨visit, List.mem_cons_self, place_of_unseen? hunseen hnamed⟩
    | none =>
      rw [hunseen] at h
      cases hbarred : barred? fs caller rule root visit with
      | some other =>
        rw [hbarred] at h
        obtain rfl := Option.some.inj h
        exact ⟨visit, List.mem_cons_self, place_of_barred? hbarred hnamed⟩
      | none =>
        rw [hbarred] at h
        obtain ⟨other, hother, hplace⟩ := ih h
        exact ⟨other, List.mem_cons_of_mem _ hother, hplace⟩

/-- What ends the first pass at an object does not end the second behind it.  Otherwise both would
end for the same reason while having told different entries.  The paths of the objects are distinct,
and a fault names the path at which it arose. -/
theorem filters_of_place (hnamed : fault.IsNamed) {visit : Visit}
    (hplace : fault.place = some (root.append visit.1))
    (hlater : ∀ later ∈ whole, root.append visit.1 ≠ root.append later.1)
    (hprunes : Prunes rule whole pruned) :
    Filters rule ⟨[], some fault⟩ (along fs caller rule root pruned) := by
  refine .ended fun hfault => ?_
  obtain ⟨later, hmem, hsame⟩ := exists_place_of_along hfault hnamed
  exact absurd (Option.some.inj (hplace.symm.trans hsame)) (hlater later (hprunes.sublist.subset hmem))

/-- **A pass that leaves out on the way tells of the entries that are left after another one that
does not**, by induction on what the two come to. -/
theorem filters_along (hplain : rule.IsPlain) (hprunes : Prunes rule whole pruned)
    (hdistinct : whole.Pairwise fun visit later => root.append visit.1 ≠ root.append later.1)
    (hnamed : ∀ fault, (along fs caller (.union []) root whole).fault = some fault → fault.IsNamed) :
    Filters rule (along fs caller (.union []) root whole) (along fs caller rule root pruned) := by
  induction hprunes with
  | nil => exact ⟨List.nil_prefix, fun _ => rfl, fun _ => rfl⟩
  | @keep whole pruned visit hprunes ih =>
    obtain ⟨hlater, hrest⟩ := List.pairwise_cons.1 hdistinct
    rw [along] at hnamed
    rw [along, along]
    cases hunseen : unseen? fs caller root (root.append visit.1) with
    | some fault => exact .ended fun _ => rfl
    | none =>
      rw [hunseen] at hnamed
      refine Filters.cons ?_ hplain root visit
      rw [barred?_eq fs caller rule]
      cases hbarred : barred? fs caller (.union []) root visit with
      | none =>
        rw [hbarred] at hnamed
        rw [ite_self]
        exact ih hrest hnamed
      | some fault =>
        rw [hbarred] at hnamed
        have hfault := hnamed fault rfl
        cases hexcludes : rule.excludes visit.1 with
        | false => exact .ended fun _ => rfl
        | true => exact filters_of_place hfault (place_of_barred? hbarred hfault) hlater hprunes
  | @drop whole pruned visit hexcludes hprunes ih =>
    obtain ⟨hlater, hrest⟩ := List.pairwise_cons.1 hdistinct
    rw [along] at hnamed ⊢
    cases hunseen : unseen? fs caller root (root.append visit.1) with
    | some fault =>
      rw [hunseen] at hnamed
      have hfault := hnamed fault rfl
      -- The pass that leaves out does not come here: it may not end at this entry, and so the
      -- fault has to be about one that is left out, which its path tells.
      exact filters_of_place hfault (place_of_unseen? hunseen hfault) hlater hprunes
    | none =>
      rw [hunseen] at hnamed
      refine Filters.drop ?_ hplain root hexcludes
      cases hbarred : barred? fs caller (.union []) root visit with
      | none =>
        rw [hbarred] at hnamed
        exact ih hrest hnamed
      | some fault =>
        rw [hbarred] at hnamed
        have hfault := hnamed fault rfl
        exact filters_of_place hfault (place_of_barred? hbarred hfault) hlater hprunes

/-- **With a rule that is closed under descent, a scan filters.** -/
theorem filters_all (h : rule.IsSegmental) (fs : FileSystem) (caller : Caller) (root : Path) :
    Filters rule (all fs caller (Exclusion.union []).scanRule root)
      (all fs caller rule.scanRule root) := by
  cases hlisted : unlisted? fs caller root with
  | some fault =>
    rw [all_of_unlisted? hlisted, all_of_unlisted? hlisted]
    exact .ended fun _ => rfl
  | none =>
    obtain ⟨names, hnames⟩ := exists_listNames?_of_unlisted? hlisted
    obtain ⟨base, mode, hroot⟩ := exists_follow?_of_listNames? hnames
    have hwhole := all_eq_along Exclusion.isSegmental_nothing.isPlain hroot hlisted
    rw [hwhole, all_eq_along h.isPlain hroot hlisted]
    refine filters_along h.isPlain (prunes_visited h) ?_ fun fault hfault => ?_
    · refine pairwise_visited.imp_of_mem fun {visit later} hvisit hlater hprefix hsame => hprefix ?_
      have hparts := congrArg Path.parts hsame
      rw [parts_append root (isName_of_mem_visited hvisit),
        parts_append root (isName_of_mem_visited hlater)] at hparts
      exact List.append_cancel_left hparts ▸ List.prefix_rfl
    · rw [← hwhole] at hfault
      exact isNamed_of_scan Exclusion.isSegmental_nothing.isPlain.total
        (find?_text_eq_ok_iff.1 hroot).1.1 hfault

end Scan

/-- **Rules that look at single components are closed under descent, so that leaving out on the way
is leaving out afterwards.**  A path that such a rule matches is matched with whatever follows
behind a slash.  For every tree, the scan with the rule tells of those entries, in order, that a
scan that leaves nothing out tells of and the rule does not match; if that scan ends early and the
other does not end for the same reason, these are the first of its entries.  A rule for names
matches the entries that have one of the names among their components. -/
theorem descent_pruning {rule : Exclusion} (h : rule.IsSegmental) :
    (∀ path below : String, path.toList.head? ≠ some '/' → rule.matches? path = .ok true →
      rule.matches? (path ++ "/" ++ below) = .ok true) ∧
    (∀ (fs : FileSystem) (caller : Caller) (root : Path),
      Scan.Filters rule (Scan.all fs caller (Exclusion.union []).scanRule root)
        (Scan.all fs caller rule.scanRule root)) ∧
    ∀ set : NameSet, rule = .names set → ∀ path,
      (rule.spares path = true ↔ ∀ segment ∈ segments path, segment ∉ set.names) := by
  refine ⟨fun path below hpath hmatches => Exclusion.matches?_continued h hpath below hmatches,
    fun fs caller root => Scan.filters_all h fs caller root, ?_⟩
  rintro set rfl path
  exact Exclusion.spares_names_iff set path

/-- Names, and a pattern without a slash. -/
def layeredRule : Exclusion := .union [.default, .union [.ofPatterns ["*.psd"]]]

theorem isSegmental_layeredRule : layeredRule.IsSegmental := by
  simp only [layeredRule, Exclusion.default, Exclusion.ofNames, Exclusion.ofPatterns,
    Exclusion.IsSegmental, Exclusion.AllSegmental, true_and, and_true]
  intro item hitem
  exact ⟨"*.psd", List.mem_singleton.1 hitem, by decide⟩

theorem descent_pruning_mixedTree :
    layeredRule.IsSegmental ∧ layeredRule.matches? "art/ignore" = .ok true ∧
      layeredRule.matches? ("art/ignore" ++ "/" ++ "cover.psd") = .ok true ∧
      Scan.Filters layeredRule
        (Scan.all mixedTree superuser (Exclusion.union []).scanRule (Path.ofText "d"))
        (Scan.all mixedTree superuser layeredRule.scanRule (Path.ofText "d")) ∧
      Exclusion.default.IsSegmental ∧
      (Exclusion.default.spares "art/ignore" = true ↔
        ∀ segment ∈ segments "art/ignore", segment ∉ ["ignore"]) := by
  have hmatches : layeredRule.matches? "art/ignore" = .ok true := by
    simp only [layeredRule, Exclusion.default, Exclusion.ofNames, Exclusion.ofPatterns,
      Exclusion.matches?, Exclusion.applies?, Exclusion.anyApplies?]
    rfl
  have hdefault : Exclusion.default.IsSegmental := by
    rw [Exclusion.default, Exclusion.ofNames, Exclusion.IsSegmental]
    trivial
  obtain ⟨hclosed, hfilters, -⟩ := descent_pruning isSegmental_layeredRule
  obtain ⟨-, -, hnames⟩ := descent_pruning hdefault
  exact ⟨isSegmental_layeredRule, hmatches, hclosed _ _ (by decide) hmatches, hfilters _ _ _,
    hdefault, hnames (NameSet.ofList ["ignore"]) rfl "art/ignore"⟩

/-! ## Where the scan that leaves nothing out ends early -/

/-- A directory with a file, and another file beside it.  With a root that is spelled by a path just
short enough, the file in the directory has too long a path, and the one beside it has not. -/
def deepTree : FileSystem :=
  (oneDirectory.create ["d"] "deep" (.file .empty 0o644 0)).create [] "e" (.file .empty 0o644 0)

/-- What is there stays when something is added. -/
theorem FileSystem.le_create {fs : FileSystem} {dir : Location} {name : String} {object : Object}
    (hproper : object.Proper) (hname : IsFileName name) (hdir : fs.isDirectory dir = true)
    (hfree : fs.get? (name :: dir) = none) : fs ≤ fs.create dir name object := by
  intro location found hfound
  rw [get?_create hproper hname hdir hfree, if_neg, hfound]
  rintro rfl
  rw [hfree] at hfound
  simp at hfound

theorem le_deepTree : oneDirectory ≤ deepTree :=
  le_trans (le_create (by decide) (by decide) rfl rfl) (le_create (by decide) (by decide) rfl rfl)

theorem follow?_deepTree :
    deepTree.follow? superuser (roundTrip 818).text = .ok ([], .directory rootMode) :=
  follow?_roundTrip le_deepTree 817 (by decide)

/-- What a scan without a rule comes to; the path of the second object is the one that is too long.
-/
theorem visited_deepTree :
    deepTree.visited (.union []) [] = [(["d"], .directory 0o755),
      (["d", "deep"], .file .empty 0o644 0), (["e"], .file .empty 0o644 0)] := rfl

/-- With the directory left out, what remains can be inspected. -/
theorem mem_entries_deepTree :
    Entry.ofObject ((roundTrip 818).append ["e"]) "e" (.file .empty 0o644 0) ∈
      (Scan.all deepTree superuser (Exclusion.ofNames ["d"]).scanRule (roundTrip 818)).entries := by
  have hvisited : deepTree.visited (.ofNames ["d"]) []
      = [(["d"], .directory 0o755), (["e"], .file .empty 0o644 0)] := rfl
  have hd : (Text.joined '/' ["d"]).utf8ByteSize = 1 := by decide
  have he : (Text.joined '/' ["e"]).utf8ByteSize = 1 := by decide
  have hplain : (Exclusion.ofNames ["d"]).IsPlain := by
    rw [Exclusion.ofNames, Exclusion.IsPlain]
    trivial
  have hnone : (Scan.all deepTree superuser (Exclusion.ofNames ["d"]).scanRule
      (roundTrip 818)).fault = none := by
    refine (fault_eq_none_iff rfl hplain follow?_deepTree).2 fun names object hne hget hhides => ?_
    have hmem := mem_visited_iff.2 ⟨hne, hget, hhides⟩
    simp only [hvisited, List.mem_cons, Prod.mk.injEq, List.not_mem_nil, or_false] at hmem
    rcases hmem with ⟨rfl, -⟩ | ⟨rfl, -⟩
    · rw [size_roundTrip_append 817 hne (by decide), hd, spellingLimit]
      decide
    · rw [size_roundTrip_append 817 hne (by decide), he, spellingLimit]
      decide
  rw [Scan.Outcome.entries, events_of_fault_eq_none follow?_deepTree hnone, hvisited]
  exact List.mem_singleton.2 rfl

/-- **The two scans may differ**: below what is left out there may be an object that cannot be
inspected, and then the scan that leaves nothing out does not come to what is behind. -/
theorem not_filtered_deepTree :
    (Exclusion.ofNames ["d"]).IsSegmental ∧
      (Scan.all deepTree superuser (Exclusion.ofNames ["d"]).scanRule (roundTrip 818)).entries ≠
        (Scan.all deepTree superuser (Exclusion.union []).scanRule (roundTrip 818)).spared
          (.ofNames ["d"]) := by
  refine ⟨by rw [Exclusion.ofNames, Exclusion.IsSegmental]; trivial, fun heq => ?_⟩
  have hbeside := List.mem_of_mem_filter (heq ▸ mem_entries_deepTree)
  obtain ⟨told, later, hvisited, hcourse⟩ := scan_cases (.union []) follow?_deepTree
  rw [Scan.Outcome.entries, hcourse.events, List.mem_filterMap] at hbeside
  obtain ⟨event, hevent, hentry⟩ := hbeside
  obtain ⟨visit, hvisit, rfl⟩ := List.mem_map.1 hevent
  rw [visited_deepTree] at hvisited
  rcases told with _ | ⟨first, _ | ⟨second, others⟩⟩
  · simp at hvisit
  · -- Nothing but the directory has been told, and the entry is not its.
    obtain rfl := List.mem_singleton.1 hvisit
    obtain ⟨rfl, -⟩ := List.cons.inj hvisited
    have hpath := congrArg ScanEvent.relativePath (ScanEvent.found?_eq_some_iff.1 hentry)
    rw [relativePath_verdict] at hpath
    exact absurd hpath (show Text.joined '/' ["d"] ≠ "e" by decide)
  · -- The file in the directory has been told, but its path is too long.
    obtain ⟨-, hsecond⟩ := List.cons.inj hvisited
    obtain ⟨rfl, -⟩ := List.cons.inj hsecond
    have hsize := (hcourse.spellable _ (List.mem_cons_of_mem _ List.mem_cons_self)).2
    have hdeep : (Text.joined '/' ["d", "deep"]).utf8ByteSize = 6 := by decide
    rw [size_roundTrip_append 817 (by simp) (by decide), hdeep, spellingLimit] at hsize
    omega

end AssetPublish
