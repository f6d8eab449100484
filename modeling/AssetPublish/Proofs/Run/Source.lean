import AssetPublish.Proofs.FileSystem.Canonical
import AssetPublish.Proofs.Run.Vacated

/-!
# When a run leaves its source as it is

Accepted settings have roots whose canonical forms are apart.  The destination itself is not what
its canonical form names, though: if it is a link, the link is removed and not what it leads to; and
where its path climbs out of something missing, that is created.  If a run touches its source, it
is in one of these two ways.

A run touches the tree in three parts: it removes the destination, creates it with what leads to it,
and fills it.  The last needs no condition.  What is filled in lies below a directory that has just
been created, and a directory that is new cannot hold the source.  So a run spares its source if the
first two parts do, which `Sparing` says, and the two conditions that imply it are about these two
parts alone.

`Harmless` is the exact condition.  It asks, in the tree without the destination, for each place
that a part of the destination's path leads to, since it is at these places that directories are
created if they are missing.  A place outside of the source may be missing, and one inside may not.
`Steady` is a condition that is easier to see: a destination without steps up has it, for instance,
since only after a step up can the path go on at another place than its canonical form does.

## What is here

* `Intact` — a tree in which nothing has changed.
* `Apart`, `apart_of_check` — what accepted roots have between them.
* `LinkWithin`, `Harmless` — the destination is a link in the source; it is not, and nothing that is
  created for the destination is in the source.
* `Sparing`, `Taken.intact` — it is enough to look at the removal and at the creation.
* `sparing_of_harmless`, `sparing_of_steady`, `Prepared.harmless` — when these leave the source as
  it is.
* `run_source_intact` — the statement for a whole run.
-/

set_option autoImplicit false

namespace AssetPublish

open FileSystem

variable {fs fs₁ fs₂ left out : FileSystem} {caller : Caller} {dest : Path} {occupied : Bool}
  {base root location : Location} {mode : Nat} {settings : Settings}

/-- Nothing at `base` or below has been added, removed or changed.  The place itself is meant, not
what a path leads to, so that links are objects like any other. -/
def Intact (fs : FileSystem) (base : Location) (out : FileSystem) : Prop :=
  ∀ location, base <:+ location → out.get? location = fs.get? location

/-- What the destination leads to is neither in the tree at `base` nor above it.  This is what the
two tests on canonical forms establish.  It says nothing about the destination's own place, which is
another one if the destination is a link. -/
def Apart (fs : FileSystem) (caller : Caller) (dest : Path) (base : Location) : Prop :=
  ∀ location object, fs.PathLeads caller dest location → fs.get? location = some object →
    ¬ base <:+ location ∧ ¬ location <:+ base

/-- The destination is itself a link, and this link is in the tree at `base`.  Removing the
destination then removes this link, although what it leads to may be far from the source. -/
def LinkWithin (fs : FileSystem) (caller : Caller) (dest : Path) (base : Location) : Prop :=
  base <:+ fs.ownPlace caller dest ∧ ∃ target, fs.get? (fs.ownPlace caller dest) = some (.link target)

/-- The destination is no link in the tree at `base`, and wherever a part of its path leads in that
tree, there is something before the destination is created.  The first part is about what is
removed.  The second is about what is created: directories are created where a part of the path
leads to and nothing is there.  Both are asked of the tree before the run, so that they can be seen
in advance, and the second of the tree without the destination, since that is the tree in which the
directories are created. -/
structure Harmless (fs : FileSystem) (caller : Caller) (dest : Path) (base : Location) : Prop where
  noLink : ¬ LinkWithin fs caller dest base
  present : ∀ first, first <+: dest.parts →
    base <:+ (vacated fs caller dest).resolve linkLimit (dest.start caller) first →
    (vacated fs caller dest).get?
      ((vacated fs caller dest).resolve linkLimit (dest.start caller) first) ≠ none

/-! ## Roots that are accepted

The tests compare canonical forms.  That a path leads to the place that its canonical form names is
only certain if no link has been missed while the form was computed. -/

/-- The roots of accepted settings are apart, if no link is missed on the way to their canonical
forms. -/
theorem apart_of_check {object : Object} (hcheck : settings.check fs caller = .ok ())
    (hsource : fs.follow? caller settings.source.text = .ok (base, object))
    (hsourceSeen : Unmissed fs caller settings.source)
    (hdestSeen : Unmissed fs caller settings.destination) :
    Apart fs caller settings.destination base := by
  obtain ⟨-, hwithin, haround⟩ := check_eq_ok hcheck
  obtain ⟨-, -, hbase⟩ := find?_text_eq_ok_iff.1 hsource
  rintro location found ⟨links, hleads⟩ hfound
  exact apart_of_isWithin? hsourceSeen (pathLeads_of_follow? hsource) hbase hdestSeen
    (List.append_nil _).symm hleads hfound (by simp) LinkFree.nil hwithin haround

/-! ## Removing the destination -/

/-- Removing the destination leaves what is in the source, but for the destination itself if that
is a link. -/
theorem FileSystem.Cleared.get?_eq (h : Cleared fs caller dest left) (hapart : Apart fs caller dest base)
    (hbelow : base <:+ location)
    (hlink : location = fs.ownPlace caller dest →
      ∀ target, fs.get? location ≠ some (.link target)) :
    left.get? location = fs.get? location := by
  cases h with
  | nothing heq => rw [heq]
  | link hnames hfound hlost =>
    refine hlost.only location ?_
    rintro rfl
    exact hlink hnames.eq_ownPlace _ hfound
  | place hleads hnames hlost =>
    cases hget : fs.get? location with
    | none =>
      cases hleft : left.get? location with
      | none => rfl
      | some object => rw [hlost.le location object hleft] at hget; simp at hget
    | some object =>
      rw [← hget]
      refine hlost.only location ?_
      intro hin
      obtain ⟨other, hother⟩ := exists_object_of_suffix hin hget
      obtain ⟨hout, hnot⟩ := hapart _ other hleads hother
      rcases List.suffix_or_suffix_of_suffix hin hbelow with habove | hinside
      · exact hnot habove
      · exact hout hinside

/-- Removing the destination spares the source if the destination is no link in it. -/
theorem FileSystem.Cleared.intact (h : Cleared fs caller dest left) (hapart : Apart fs caller dest base)
    (hlink : ¬ LinkWithin fs caller dest base) : Intact fs base left := by
  intro location hbelow
  refine h.get?_eq hapart hbelow fun heq target hfound => hlink ?_
  rw [LinkWithin, ← heq]
  exact ⟨hbelow, target, hfound⟩

/-! ## A part of a run -/

/-- Neither removing the destination nor creating it changes anything in the tree at `base`.  It is
asked of every way in which these may end, and of every part of the path, since a run may also break
off in the middle. -/
structure Sparing (fs : FileSystem) (caller : Caller) (dest : Path) (base : Location) : Prop where
  cleared : ∀ left, Cleared fs caller dest left → Intact fs base left
  built : ∀ left first dir made, Removed fs caller dest (fs.occupied caller dest) left →
    first <+: dest.parts → Built left caller (dest.start caller) first dir made →
    Intact left base made

/-- What is above the destination is not created for it, since it holds the source.  A directory
that is new is empty at first, and the one that holds the source is not. -/
theorem Prepared.not_above {object : Object} (h : Prepared fs caller dest occupied fs₁ root fs₂)
    (hbase : fs₁.get? base = some object) : ¬ root <:+ base := by
  intro habove
  obtain ⟨mid, mode, hle, -, hcreated⟩ := h.new
  obtain ⟨object, hobject⟩ := exists_object_of_suffix habove (hle base _ hbase)
  rw [hcreated.free] at hobject
  simp at hobject

/-- **It is enough to look at the removal and at the creation**: what the destination is filled with
is in it. -/
theorem Taken.intact {rule : Exclusion} {source : Path} {place : Location} {steps : List Operation}
    (h : Sparing fs caller dest base) (hbase : fs.get? base = some (.directory mode))
    (hsteps : List.Forall₂ (Recreation source dest) (fs.copied rule place) steps)
    (htaken : Taken caller (rootSteps (fs.occupied caller dest) dest ++ steps) fs out) :
    Intact fs base out := by
  rcases taken_cases hsteps htaken with hcleared | ⟨fs₁, first, dir, hremoved, hfirst, hbuilt⟩ |
    ⟨fs₁, root, fs₂, hprepared, hframe⟩
  · exact h.cleared out hcleared
  · have hleft := h.cleared fs₁ hremoved.cleared
    have hmade := h.built fs₁ first dir out hremoved hfirst hbuilt
    exact fun location hbelow => (hmade location hbelow).trans (hleft location hbelow)
  · have hleft := h.cleared fs₁ hprepared.removed.cleared
    have hmade := h.built fs₁ _ root fs₂ hprepared.removed List.prefix_rfl hprepared.built
    intro location hbelow
    have hout : ¬ Below root location := by
      rintro ⟨hin, -⟩
      rcases List.suffix_or_suffix_of_suffix hin hbelow with habove | hinside
      · exact hprepared.not_above ((hleft base List.suffix_rfl).trans hbase) habove
      · obtain ⟨mid, bits, hle, -, hcreated⟩ := hprepared.new
        have hself := hcreated.self
        rw [hmade root hinside] at hself
        have hfree := hcreated.free
        rw [hle root _ hself] at hfree
        simp at hfree
    rw [hframe location hout, hmade location hbelow, hleft location hbelow]

/-! ## Ways that do no harm

What is created for the destination forms one branch: it begins where the path first leads to
nothing, and goes on down from there. -/

/-- Where the tree that is built has a part of the path lead, the vacated tree has it lead. -/
theorem resolve_vacated {first front : List String} {dir : Location} (links : Nat) (here : Location)
    (hremoved : Removed fs caller dest (fs.occupied caller dest) left)
    (hbuilt : Built left caller (dest.start caller) first dir out) :
    (vacated fs caller dest).resolve links here front = out.resolve links here front := by
  rw [← resolve_congr hremoved.link_iff, resolve_congr fun location target => hbuilt.link_iff]

/-- What is harmless spares the source: whatever is new in the tree is at a place that a part of the
path leads to, and in the source all of these are taken already. -/
theorem sparing_of_harmless (hapart : Apart fs caller dest base)
    (h : Harmless fs caller dest base) : Sparing fs caller dest base where
  cleared left hcleared := hcleared.intact hapart h.noLink
  built left first dir made hremoved hfirst hbuilt location hbelow := by
    cases hold : left.get? location with
    | some object => exact hbuilt.le location object hold
    | none =>
      cases hnew : made.get? location with
      | none => rfl
      | some object =>
        obtain ⟨-, front, links, hfront, hleads⟩ := hbuilt.new hold hnew
        have hplace := resolve_of_leads hleads
        rw [← resolve_vacated linkLimit (dest.start caller) hremoved hbuilt] at hplace
        have hpresent := h.present front (hfront.trans hfirst)
        rw [hplace, ← hremoved.get?_eq] at hpresent
        exact absurd hold (hpresent hbelow)

/-- **A new branch that reaches into the tree at `base` begins where there never was anything**,
since removing the destination has taken nothing away there. -/
theorem FileSystem.Branched.linkFree {start there : Location} {first branch front more : List String}
    {object : Object} (h : Branched left caller start first there branch out)
    (hintact : Intact fs base left) (hbase : fs.get? base = some object) (hfront : front <+: branch)
    (hne : front ≠ []) (hbelow : base <:+ front.reverse ++ there) :
    fs.LinkFree there (branch ++ more) := by
  obtain ⟨name, rest, rfl⟩ := List.exists_cons_of_ne_nil hne
  obtain ⟨later, rfl⟩ := hfront
  have hfree := h.free name (rest ++ later) rfl
  have hin : name :: there <:+ (name :: rest).reverse ++ there := by
    rw [List.reverse_cons, List.append_assoc, List.singleton_append]
    exact List.suffix_append _ _
  refine linkFree_of_free ?_
  rcases List.suffix_or_suffix_of_suffix hin hbelow with habove | hinside
  · obtain ⟨kept, hkept⟩ := exists_object_of_suffix habove
      ((hintact base List.suffix_rfl).trans hbase)
    rw [hfree] at hkept
    simp at hkept
  · rw [← hintact _ hinside, hfree]

/-- **What is created is not in the source if all steps up lead on.**  The new branch then goes
straight down from a place that was there, and the canonical form of the destination goes on below
it. -/
theorem sparing_of_steady {object : Object} (hcheck : settings.check fs caller = .ok ())
    (hsource : fs.follow? caller settings.source.text = .ok (base, object))
    (hsourceSeen : Unmissed fs caller settings.source)
    (hdestSeen : Unmissed fs caller settings.destination)
    (hlink : ¬ LinkWithin fs caller settings.destination base)
    (hsteady : Steady (vacated fs caller settings.destination) caller
      (settings.destination.start caller) settings.destination.parts) :
    Sparing fs caller settings.destination base where
  cleared left hcleared :=
    hcleared.intact (apart_of_check hcheck hsource hsourceSeen hdestSeen) hlink
  built left first dir made hremoved hfirst hbuilt location hbelow := by
    have hapart := apart_of_check hcheck hsource hsourceSeen hdestSeen
    have hleft := hremoved.cleared.intact hapart hlink
    obtain ⟨-, -, hbase⟩ := find?_text_eq_ok_iff.1 hsource
    have hsteadyLeft : Steady left caller (settings.destination.start caller)
        settings.destination.parts :=
      hsteady.mono fun place found hfound => by rw [hremoved.get?_eq, hfound]
    have hnames : ∀ name ∈ first, IsName name :=
      fun name hname => settings.destination.isName name (hfirst.subset hname)
    obtain ⟨start, branch, hbranched, -⟩ := hbuilt.branched hnames (hsteadyLeft.left hfirst)
    cases hold : left.get? location with
    | some found => exact hbuilt.le location found hold
    | none =>
      -- A new directory in the source would lie on the branch, and the branch goes straight down.
      -- The canonical form of the destination would be in the source, and the check excludes it.
      by_contra hnew
      obtain ⟨front, hfront, hne, rfl⟩ := hbranched.new location hold hnew
      obtain ⟨found, hfound⟩ := Option.ne_none_iff_exists'.1 hnew
      obtain ⟨other, hother⟩ := hbranched.exists_base hfound
      have hbranch : branch ≠ [] := fun hnil => hne (List.prefix_nil.1 (hnil ▸ hfront))
      obtain ⟨before, links, hsplit, hleads⟩ := hbranched.split
      obtain ⟨more, hmore⟩ := hfirst
      rw [← hmore] at hsteadyLeft
      have hdots := hbranched.down_append hnames hbranch hsteadyLeft
      have hparts : settings.destination.parts = before ++ (branch ++ more) := by
        rw [← hmore, hsplit, List.append_assoc]
      have hplace : front.reverse ++ start <:+ (branch ++ more).reverse ++ start := by
        obtain ⟨last, hlast⟩ := List.reverse_suffix.2 (hfront.trans (List.prefix_append _ more))
        exact ⟨last, by rw [← List.append_assoc, hlast]⟩
      have hfree : fs.LinkFree start (branch ++ more) :=
        hbranched.linkFree hleft hbase hfront hne hbelow
      obtain ⟨-, hwithin, haround⟩ := check_eq_ok hcheck
      obtain ⟨hout, -⟩ := apart_of_isWithin? hsourceSeen (pathLeads_of_follow? hsource) hbase
        hdestSeen hparts (hleads.mono hremoved.cleared.le)
        (hremoved.cleared.le start _ hother) hdots hfree hwithin haround
      exact hout (hbelow.trans hplace)

/-! ## Ways that do harm

A run that ends well has removed the link and has created what was missing, and no later step undoes
it. -/

/-- If the source is as it was, the destination was no link in it: nothing has put the link back. -/
theorem Prepared.not_linkWithin (h : Prepared fs caller dest (fs.occupied caller dest) fs₁ root fs₂)
    (hframe : ∀ location, ¬ Below root location → out.get? location = fs₂.get? location)
    (hbase : fs.get? base = some (.directory mode)) (hapart : Apart fs caller dest base)
    (hintact : Intact fs base out) : ¬ LinkWithin fs caller dest base := by
  rintro ⟨hbelow, target, hlink⟩
  obtain ⟨mid, bits, hle, -, hcreated⟩ := h.new
  have hfree : fs₁.get? root = none := by
    cases hget : fs₁.get? root with
    | none => rfl
    | some object => rw [← hcreated.free, hle root object hget]
  cases hoccupied : fs.occupied caller dest with
  | false =>
    rw [h.eq_ownPlace, h.removed.kept hoccupied, hlink] at hfree
    simp at hfree
  | true =>
    obtain ⟨own, hown, hgone⟩ := h.removed.gone hoccupied
    obtain rfl := hown.eq_ownPlace
    have hout := (hintact _ hbelow).trans hlink
    by_cases hin : Below root (fs.ownPlace caller dest)
    · -- then the destination that is created was in the source as well, or is above it
      rcases List.suffix_or_suffix_of_suffix hin.1 hbelow with habove | hinside
      · have hkept := h.removed.cleared.get?_eq hapart (List.suffix_refl base)
          fun _ target => by rw [hbase]; simp
        exact h.not_above (hkept.trans hbase) habove
      · have hkept := h.removed.cleared.get?_eq hapart hinside fun heq => absurd heq.symm hin.2
        rw [hfree, ← hintact root hinside, hframe root not_below_self, hcreated.self] at hkept
        simp at hkept
    · rw [hframe _ hin, ← h.built.link_iff, hgone] at hout
      simp at hout

/-- **If the destination is created and the source is as it was, no harm was to be expected.**  This
is why the condition is exact.  The path has been followed to the new destination, so that every
part of it leads to something then; what of this is in the source was there before, since the source
is as it was. -/
theorem Prepared.harmless (h : Prepared fs caller dest (fs.occupied caller dest) fs₁ root fs₂)
    (hframe : ∀ location, ¬ Below root location → out.get? location = fs₂.get? location)
    (hbase : fs.get? base = some (.directory mode)) (hapart : Apart fs caller dest base)
    (hintact : Intact fs base out) : Harmless fs caller dest base where
  noLink := h.not_linkWithin hframe hbase hapart hintact
  present first hfirst hbelow := by
    have hleft := h.removed.cleared.intact hapart (h.not_linkWithin hframe hbase hapart hintact)
    rw [← h.removed.get?_eq, hleft _ hbelow, ← hintact _ hbelow]
    rw [resolve_vacated linkLimit (dest.start caller) h.removed h.built] at hbelow ⊢
    -- the path has been followed to the new destination, and so has each part of it
    obtain ⟨more, hmore⟩ := hfirst
    obtain ⟨links, hleads⟩ := h.built.leads
    obtain ⟨bits, hroot⟩ := h.empty.directory
    rw [← hmore] at hleads
    obtain ⟨between, there, hfront, hrest⟩ := hleads.split
    obtain ⟨object, hobject⟩ := hrest.exists_start hroot
    rw [resolve_of_leads hfront] at hbelow ⊢
    have hout : ¬ Below root there := by
      intro hin
      rw [h.empty.nothing there hin] at hobject
      simp at hobject
    rw [hframe there hout, hobject]
    simp

/-! ## A whole run -/

/-- A run leaves the source as it is if it may do so whenever its settings are accepted.  Refused
settings and dry runs touch nothing, so that only what accepted settings do for real has to be
looked at. -/
theorem run_intact {around : Circumstances} (hidle : around.Idle)
    (hsource : fs.follow? around.caller settings.source.text = .ok (base, .directory mode))
    (h : settings.check fs around.caller = .ok () → settings.dryRun = false →
      Sparing fs around.caller settings.destination base) :
    Intact fs base (settings.run around fs).fs := by
  obtain ⟨hrun, -⟩ := run_cases settings fs hidle
  rcases hrun with hsame | ⟨steps, hcheck, hplan, hreal, htaken⟩
  · exact fun location _ => by rw [hsame]
  · obtain ⟨-, -, hbase⟩ := find?_text_eq_ok_iff.1 hsource
    obtain ⟨entrySteps, rfl, hsteps⟩ := plan_cases hsource hplan
    exact htaken.intact (h hcheck hreal) hbase hsteps

/-- **When a run leaves its source as it is.**  A dry run does.  Any other does, however it ends, if
the destination is no link in the source and nothing has to be created in the source on the way to
it; a run that ends well does so in no other case.  Nothing has to be created there if all steps up
in the path of the destination lead on.  This is so as long as no link is missed when the roots are
compared. -/
theorem run_source_intact {around : Circumstances} (hidle : around.Idle)
    (hsource : fs.follow? around.caller settings.source.text = .ok (base, .directory mode)) :
    (settings.dryRun = true → Intact fs base (settings.run around fs).fs) ∧
    (Unmissed fs around.caller settings.source → Unmissed fs around.caller settings.destination →
      (Harmless fs around.caller settings.destination base →
        Intact fs base (settings.run around fs).fs) ∧
      (settings.dryRun = false → ∀ tally, (settings.run around fs).result = .ok tally →
        (Intact fs base (settings.run around fs).fs ↔
          Harmless fs around.caller settings.destination base)) ∧
      (¬ LinkWithin fs around.caller settings.destination base →
        Steady (vacated fs around.caller settings.destination) around.caller
          (settings.destination.start around.caller) settings.destination.parts →
        Intact fs base (settings.run around fs).fs)) := by
  refine ⟨?_, fun hsourceSeen hdestSeen => ?_⟩
  · intro hdry
    refine run_intact hidle hsource ?_
    intro _ hreal
    rw [hdry] at hreal
    simp at hreal
  have hharmless : Harmless fs around.caller settings.destination base →
      Intact fs base (settings.run around fs).fs := fun hharmless =>
    run_intact hidle hsource fun hcheck _ =>
      sparing_of_harmless (apart_of_check hcheck hsource hsourceSeen hdestSeen) hharmless
  refine ⟨hharmless, fun hreal tally hok => ⟨?_, hharmless⟩, ?_⟩
  · intro hintact
    obtain ⟨-, hrun⟩ := run_cases settings fs hidle
    obtain ⟨steps, hcheck, hplan, htaken⟩ := hrun tally hok hreal
    obtain ⟨-, -, hbase⟩ := find?_text_eq_ok_iff.1 hsource
    obtain ⟨entrySteps, rfl, hsteps⟩ := plan_cases hsource hplan
    obtain ⟨fs₁, root, fs₂, hprepared, hgrown⟩ := allTaken_cases hsteps htaken
    exact hprepared.harmless hgrown.outside hbase
      (apart_of_check hcheck hsource hsourceSeen hdestSeen) hintact
  · intro hlink hsteady
    exact run_intact hidle hsource fun hcheck _ =>
      sparing_of_steady hcheck hsource hsourceSeen hdestSeen hlink hsteady

theorem run_source_intact_linkedTree :
    Circumstances.Idle { caller := superuser } ∧
      linkedTree.follow? superuser linkedSettings.source.text
        = .ok (["source"], .directory 0o755) ∧
      Unmissed linkedTree superuser linkedSettings.source ∧
      Unmissed linkedTree superuser linkedSettings.destination ∧
      ¬ LinkWithin linkedTree superuser linkedSettings.destination ["source"] ∧
      Steady (vacated linkedTree superuser linkedSettings.destination) superuser
        (linkedSettings.destination.start superuser) linkedSettings.destination.parts ∧
      Intact linkedTree ["source"] (linkedSettings.run { caller := superuser } linkedTree).fs := by
  have hidle : Circumstances.Idle { caller := superuser } := by simp [Circumstances.Idle]
  have hsource : linkedTree.follow? superuser linkedSettings.source.text
      = .ok (["source"], .directory 0o755) :=
    find?_text_eq_ok_iff.2 ⟨by decide, by decide +kernel, by decide +kernel⟩
  have hsourceSeen : Unmissed linkedTree superuser linkedSettings.source :=
    unmissed_of_toOption_eq (by decide +kernel)
  have hdestSeen : Unmissed linkedTree superuser linkedSettings.destination :=
    unmissed_of_toOption_eq (by decide +kernel)
  have hlink : ¬ LinkWithin linkedTree superuser linkedSettings.destination ["source"] := by
    intro hlink
    exact absurd hlink.1 (by decide +kernel)
  have hsteady : Steady (vacated linkedTree superuser linkedSettings.destination) superuser
      (linkedSettings.destination.start superuser) linkedSettings.destination.parts :=
    steady_of_not_mem (by decide)
  obtain ⟨-, hreal⟩ := run_source_intact hidle hsource
  obtain ⟨-, -, hintact⟩ := hreal hsourceSeen hdestSeen
  exact ⟨hidle, hsource, hsourceSeen, hdestSeen, hlink, hsteady, hintact hlink hsteady⟩

/-- A source that holds a link to a directory outside of it.  Its canonical form is apart from the
one of the link, which is where that directory is. -/
def linkingTree : FileSystem :=
  (((empty.create [] "assets" (.directory 0o755)).create ["assets"] "f"
    (.file (.ofText "old") 0o644 3)).create [] "www" (.directory 0o755)).create ["assets"] "link"
    (.link "../www")

/-- Settings for that tree. -/
def linkingSettings (destination : String) : Settings :=
  { source := Path.ofText "assets", destination := Path.ofText destination }

/-- A link in the source is replaced if it is the destination, and what is missing in the source is
created if the destination climbs out of it.  Both settings are accepted, since the canonical forms
of their roots are apart. -/
theorem not_intact_linkingTree :
    ¬ Intact linkingTree ["assets"]
        ((linkingSettings "assets/link").run { caller := superuser } linkingTree).fs ∧
      ¬ Intact linkingTree ["assets"]
        ((linkingSettings "assets/missing/../../out").run { caller := superuser } linkingTree).fs := by
  constructor
  · intro hintact
    have hreplaced := hintact ["link", "assets"] (by decide)
    exact absurd hreplaced (by decide +kernel)
  · intro hintact
    have hnew := hintact ["missing", "assets"] (by decide)
    exact absurd hnew (by decide +kernel)

end AssetPublish
