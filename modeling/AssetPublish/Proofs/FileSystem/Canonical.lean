import AssetPublish.Proofs.FileSystem.Unlinking

/-!
# The canonical form of a path that is followed

Freeing a path from links follows the same links as the system does, but it looks at them through
the part of the path that is free from links already, and it remembers where each of them has led.
For a path that the system follows, this finds the place to which it leads.

The two ways of following links differ in their order and in their limits, so the proof needs more
than an induction along the path.  The system puts the components of a link in front of those behind
it and counts links as it meets them; freeing from links follows a link as a problem of its own,
inside of which the count starts with what is left, and takes a link that it has met before from its
memory.  What ties them together is the cost of a link: how many links the system follows from it to
its end.  The cost does not depend on what stands behind the link, nor on how many links may still
be met (`Leads.cost_unique`).

A link that is being followed cannot be met again on its own way, since then its cost would be
larger than itself.  `Busy` says this of all links that are being followed at once: each costs more
than what is left to spend.  So for a path that the system follows, no circle is reported, and the
memory is right (`Known`).

## What is here

* `Clear` — a trail that is followed without meeting a link.
* `Ends` — where the link at a trail leads, and how many links are followed on the way.
* `Known`, `Busy` — what the links are worth that have been met: those that were followed lead
  where they are said to lead, and those that are being followed cost more than what is left.
* `FreesAll`, `freesAll` — components that are followed are freed from links.
* `Unmissed`, `canonical?_of_leads` — the canonical form of a path spells the place to which it
  leads, if no link is missed for the length of a spelling.
* `apart_of_isWithin?` — paths of which neither is found within the other lead apart.
-/

set_option autoImplicit false

namespace AssetPublish
namespace FileSystem

variable {fs : FileSystem} {caller : Caller} {path : Path} {depth links links' links'' n : Nat}
  {here here' there place : Location} {name target : String}
  {names parts front rest : List String} {trail key known : Trail} {met met' : Met}
  {object : Object}

/-! ## Links left to follow -/

theorem Pace.shift (h : fs.Pace caller links here name links' here' front) (n : Nat) :
    fs.Pace caller (links + n) here name (links' + n) here' front := by
  cases h with
  | blank hname hdir => exact .blank hname hdir
  | dot hname hdir hpass => exact .dot hname hdir hpass
  | up hname hdir hpass => exact .up hname hdir hpass
  | down hdir hpass hobject hlink => exact .down hdir hpass hobject hlink
  | link hdir hpass hlink =>
    rw [Nat.succ_add_eq_add_succ]
    exact .link hdir hpass hlink

/-- Nothing changes if more links may be met. -/
theorem Leads.shift (h : fs.Leads caller links here names links' there) (n : Nat) :
    fs.Leads caller (links + n) here names (links' + n) there := by
  induction h with
  | done => exact .done
  | pace h _ ih => exact .pace (h.shift n) ih

/-- Components lead to the same place at the same cost, however many links may be met.  This makes
the cost a number that belongs to the link and not to the moment. -/
theorem Leads.cost_unique {links₁ links₂ : Nat} {there' : Location}
    (h : fs.Leads caller links here names links' there)
    (h' : fs.Leads caller links₁ here names links₂ there') :
    links + links₂ = links₁ + links' ∧ there = there' := by
  have hleft := h.shift links₁
  have hright := h'.shift links
  rw [Nat.add_comm links₁ links] at hright
  obtain ⟨heq, hplace⟩ := hleft.unique hright
  exact ⟨by omega, hplace⟩

/-- Empty components can be left out. -/
theorem Leads.dropBlanks (h : fs.Leads caller links here names links' there) :
    fs.Leads caller links here (names.filter (· ≠ "")) links' there := by
  induction names generalizing links here with
  | nil => exact h
  | cons name rest ih =>
    rw [← List.singleton_append] at h
    obtain ⟨mid, between, hfirst, hrest⟩ := h.split
    by_cases hname : name = ""
    · rw [List.filter_cons_of_neg (by simp [hname])]
      cases hfirst with
      | pace hpace hdone =>
        cases hpace with
        | blank _ _ => cases hdone; exact ih hrest
        | dot heq _ _ => rw [hname] at heq; simp at heq
        | up heq _ _ => rw [hname] at heq; simp at heq
        | down _ _ hobject _ => exact absurd hname (ne_of_get?_cons hobject).1
        | link _ _ hlink => exact absurd hname (ne_of_get?_cons hlink).1
    · rw [List.filter_cons_of_pos (by simpa using hname), ← List.singleton_append]
      exact hfirst.append (ih hrest)

/-- Objects have names that can be gone down to. -/
theorem nameable_of_get?_cons (h : fs.get? (name :: here) = some object) : Nameable name := by
  obtain ⟨hname, hdots, hnull, -⟩ := (exists_of_get?_cons h).2.1
  exact ⟨hname, hdots, hnull⟩

/-- The components of a spelling are its fields, but for the empty ones. -/
theorem filter_steps (text : String) :
    (steps text).filter (· ≠ "") = (Text.fields '/' text).filter (· ≠ "") := by
  rw [steps]
  split
  · rw [List.filter_append, List.filter_filter]
    simp
  · rw [List.filter_filter]
    simp

/-! ## Trails without links -/

/-- Where a trail starts. -/
def trailStart (caller : Caller) (trail : Trail) : Location :=
  if trail.absolute then [] else caller.workingDirectory

/-- A trail that is followed to `here` without meeting a link.  As many links are left at the end as
at the start, which is how it is said that none was met.  Such a trail may start with steps up. -/
structure Clear (fs : FileSystem) (caller : Caller) (trail : Trail) (here : Location) : Prop where
  proper : ∀ name ∈ trail.names, IsName name
  leads : fs.Leads caller linkLimit (trailStart caller trail) trail.names.reverse linkLimit here

theorem Clear.unique (h : Clear fs caller trail here) (h' : Clear fs caller trail here') :
    here = here' :=
  (h.leads.unique h'.leads).2

theorem Clear.down (h : Clear fs caller trail here) (hpass : fs.Passable caller here)
    (hobject : fs.get? (name :: here) = some object) (hlink : object.isLink = false) :
    Clear fs caller (trail.down name) (name :: here) where
  proper other hother := by
    rcases List.mem_cons.1 hother with rfl | hother
    · exact (exists_of_get?_cons hobject).2.1.isName
    · exact h.proper other hother
  leads := by
    obtain ⟨mode, hdir, hmay⟩ := hpass
    show fs.Leads caller linkLimit (trailStart caller trail) (name :: trail.names).reverse linkLimit _
    rw [List.reverse_cons]
    exact h.leads.append (.pace (.down hdir hmay hobject hlink) .done)

/-- A name that has been followed without meeting a link has been gone down by. -/
theorem Leads.of_append_name {start : Location} {init : List String}
    (h : fs.Leads caller links start (init ++ [name]) links here) (hname : IsName name)
    (hdots : name ≠ "..") : fs.Leads caller links start init links here.tail := by
  obtain ⟨mid, dir, hfirst, hlast⟩ := h.split
  have hmid := hfirst.links_le
  have hlimit := hlast.links_le
  have heq : mid = links := by omega
  subst heq
  cases hlast with
  | pace hpace hdone =>
    cases hpace with
    | blank heq _ => exact absurd heq hname.1
    | dot heq _ _ => exact absurd heq hname.2.1
    | up heq _ _ => exact absurd heq hdots
    | down _ _ _ _ => cases hdone; exact hfirst
    | link _ _ _ =>
      have hfewer := hdone.links_le
      omega

/-- A step up leads to the directory above, since the place on the way is one of the tree and not a
link. -/
theorem Clear.up (h : Clear fs caller trail here) (hpass : fs.Passable caller here) :
    Clear fs caller trail.up here.tail := by
  obtain ⟨mode, hdir, hmay⟩ := hpass
  obtain ⟨absolute, names⟩ := trail
  have hdots : IsName ".." := by decide
  have hup : fs.Leads caller linkLimit here [".."] linkLimit here.tail :=
    .pace (.up rfl hdir hmay) .done
  cases names with
  | nil =>
    have hleads := h.leads
    cases absolute with
    | true =>
      obtain ⟨-, hhere⟩ := hleads.unique Leads.done
      rw [hhere]
      exact ⟨by simp [Trail.up], .done⟩
    | false =>
      refine ⟨?_, hleads.append hup⟩
      intro name hname
      rw [List.mem_singleton.1 hname]
      exact hdots
  | cons name rest =>
    rw [Trail.up]
    simp only
    split
    · rename_i heq
      refine ⟨fun other hother => ?_, ?_⟩
      · rcases List.mem_cons.1 hother with rfl | hother
        · exact hdots
        · exact h.proper other hother
      · show fs.Leads caller linkLimit _ (".." :: name :: rest).reverse linkLimit _
        rw [List.reverse_cons]
        exact h.leads.append hup
    · rename_i hne
      refine ⟨fun other hother => h.proper other (List.mem_cons_of_mem _ hother), ?_⟩
      have hleads := h.leads
      rw [List.reverse_cons] at hleads
      exact hleads.of_append_name (h.proper name List.mem_cons_self) hne

theorem Clear.start (h : Clear fs caller trail here) (target : String) :
    Clear fs caller (trail.start target) (if isAbsolute target then [] else here) := by
  rw [Trail.start]
  split
  · exact ⟨by simp, .done⟩
  · exact h

/-- A look at what is behind a clear trail is a look at the object there. -/
theorem Clear.walk_down (h : Clear fs caller trail here) (hpass : fs.Passable caller here)
    (hobject : fs.get? (name :: here) = some object) :
    fs.walk caller .itself linkLimit
        (if (trail.down name).absolute then [] else caller.workingDirectory)
        (trail.down name).names.reverse = .ok (.object (name :: here)) := by
  have heq : (trail.down name).names.reverse = trail.names.reverse ++ [name] := by
    rw [Trail.down, List.reverse_cons]
  rw [heq]
  change fs.walk caller .itself linkLimit (trailStart caller trail) _ = _
  rw [walk_append h.leads (inner_cons (ne_of_get?_cons hobject).1 _ _)]
  exact walk_singleton_of_some hpass hobject (Or.inl rfl)

/-- A link is seen by the look, -/
theorem Clear.linkHeld?_link (h : Clear fs caller trail here) (hpass : fs.Passable caller here)
    (hlink : fs.get? (name :: here) = some (.link target)) :
    fs.linkHeld? caller (trail.down name) = some target := by
  rw [linkHeld?, h.walk_down hpass hlink]
  simp only [hlink]

/-- and an object that is no link is not taken for one. -/
theorem Clear.linkHeld?_down (h : Clear fs caller trail here) (hpass : fs.Passable caller here)
    (hobject : fs.get? (name :: here) = some object) (hlink : object.isLink = false) :
    fs.linkHeld? caller (trail.down name) = none := by
  rw [linkHeld?, h.walk_down hpass hobject]
  simp only [hobject]
  cases object with
  | link target => simp [Object.isLink] at hlink
  | _ => rfl

/-! ## Links that have been met -/

/-- The link at the trail `key` leads to `place`, and `cost` links are followed on the way.  The
link itself is counted, so the cost is at least one. -/
def Ends (fs : FileSystem) (caller : Caller) (key : Trail) (cost : Nat) (place : Location) :
    Prop :=
  ∃ trail name here links links', key = trail.down name ∧ Clear fs caller trail here ∧
    fs.Leads caller links here [name] links' place ∧ links = links' + cost

/-- A link leads to one place, at one cost. -/
theorem Ends.unique {cost cost' : Nat} {place' : Location} (h : Ends fs caller key cost place)
    (h' : Ends fs caller key cost' place') : cost = cost' ∧ place = place' := by
  obtain ⟨trail, name, here, links, links', hkey, hclear, hleads, hcost⟩ := h
  obtain ⟨trail', name', here', links₁, links₂, hkey', hclear', hleads', hcost'⟩ := h'
  obtain ⟨rfl, rfl⟩ : trail = trail' ∧ name = name' := by
    rw [hkey] at hkey'
    obtain ⟨absolute, names⟩ := trail
    obtain ⟨absolute', names'⟩ := trail'
    simp only [Trail.down, Trail.mk.injEq, List.cons.injEq] at hkey'
    obtain ⟨rfl, rfl, rfl⟩ := hkey'
    exact ⟨rfl, rfl⟩
  obtain rfl := hclear.unique hclear'
  obtain ⟨heq, hplace⟩ := hleads.cost_unique hleads'
  exact ⟨by omega, hplace⟩

/-- The links that have been followed lead where they are said to lead.  The place is reached by a
clear trail, so going on from a remembered trail is going on from that place. -/
def Known (fs : FileSystem) (caller : Caller) (met : Met) : Prop :=
  ∀ key known, met.lookup key = some (some known) →
    ∃ cost place, Ends fs caller key cost place ∧ Clear fs caller known place

/-- The links that are being followed cost more than `left`, so that none of them can be met again
on a way that costs no more.  With `left` for what the components at hand cost altogether, meeting
one of these links would be a contradiction to `Ends.unique`. -/
def Busy (fs : FileSystem) (caller : Caller) (met : Met) (left : Nat) : Prop :=
  ∀ key, met.lookup key = some none → ∃ cost place, Ends fs caller key cost place ∧ left < cost

theorem Busy.mono {left left' : Nat} (h : Busy fs caller met left) (hle : left' ≤ left) :
    Busy fs caller met left' := by
  intro key hkey
  obtain ⟨cost, place, hends, hless⟩ := h key hkey
  exact ⟨cost, place, hends, by omega⟩

theorem lookup_cons_of_ne {entry : Option Trail} {other : Trail} (hne : other ≠ key) :
    List.lookup other ((key, entry) :: met) = met.lookup other := by
  rw [List.lookup_cons, beq_eq_false_iff_ne.2 hne]

theorem lookup_cons_self {entry : Option Trail} :
    List.lookup key ((key, entry) :: met) = some entry := by
  rw [List.lookup_cons, beq_self_eq_true]

/-- A link is begun to be followed. -/
theorem Known.begin (h : Known fs caller met) : Known fs caller ((key, none) :: met) := by
  intro other known hother
  by_cases hne : other = key
  · rw [hne, lookup_cons_self] at hother
    simp at hother
  · rw [lookup_cons_of_ne hne] at hother
    exact h other known hother

/-- A link that is being followed is put into the memory without a trail; it costs more than what is
left, so that it cannot come up inside of itself. -/
theorem Busy.begin {left cost : Nat} (h : Busy fs caller met left)
    (hends : Ends fs caller key cost place) (hcost : left < cost) :
    Busy fs caller ((key, none) :: met) left := by
  intro other hother
  by_cases hne : other = key
  · rw [hne]
    exact ⟨cost, place, hends, hcost⟩
  · rw [lookup_cons_of_ne hne] at hother
    exact h other hother

/-- A link has been followed. -/
theorem Known.finish {cost : Nat} (h : Known fs caller met) (hends : Ends fs caller key cost place)
    (hclear : Clear fs caller known place) : Known fs caller ((key, some known) :: met) := by
  intro other found hother
  by_cases hne : other = key
  · rw [hne, lookup_cons_self] at hother
    simp only [Option.some.injEq] at hother
    rw [hne, ← hother]
    exact ⟨cost, place, hends, hclear⟩
  · rw [lookup_cons_of_ne hne] at hother
    exact h other found hother

/-- No more links are being followed than before.  Links that were being followed and are followed
no longer may have a trail now, so the memory grows while this set stays. -/
def NoBusier (met met' : Met) : Prop :=
  ∀ key, met'.lookup key = some none → met.lookup key = some none

theorem NoBusier.finish (h : NoBusier ((key, none) :: met) met') :
    NoBusier met ((key, some known) :: met') := by
  intro other hother
  by_cases hne : other = key
  · rw [hne, lookup_cons_self] at hother
    simp at hother
  · rw [lookup_cons_of_ne hne] at hother
    have hbegun := h other hother
    rwa [lookup_cons_of_ne hne] at hbegun

theorem NoBusier.busy {left : Nat} (h : NoBusier met met') (hbusy : Busy fs caller met left) :
    Busy fs caller met' left :=
  fun key hkey => hbusy key (h key hkey)

/-! ## Components that are followed -/

/-- What comes of freeing some components from links that lead to `there`: whatever stands behind
them is gone on with from a clear trail.  The equation holds for every `rest`, so that the function
is cut in two at this point: what is behind the components is gone on with, from a trail that leads
to the same place. -/
def Frees (fs : FileSystem) (caller : Caller) (depth : Nat) (met : Met) (trail : Trail)
    (parts : List String) (there : Location) : Prop :=
  ∃ reached met', (∀ rest, unlinked (fs.linkHeld? caller) depth met trail (parts ++ rest)
      = unlinked (fs.linkHeld? caller) depth met' reached rest) ∧
    Clear fs caller reached there ∧ Known fs caller met' ∧ NoBusier met met'

/-- Components can be freed from links one after another. -/
theorem Frees.step {between : Trail} {between' : Met}
    (hstep : ∀ rest, unlinked (fs.linkHeld? caller) depth met trail (name :: rest)
      = unlinked (fs.linkHeld? caller) depth between' between rest)
    (hbusier : NoBusier met between')
    (h : Frees fs caller depth between' between parts there) :
    Frees fs caller depth met trail (name :: parts) there := by
  obtain ⟨reached, met', hrest, hclear, hknown, hno⟩ := h
  refine ⟨reached, met', ?_, hclear, hknown, fun key hkey => hbusier key (hno key hkey)⟩
  intro rest
  rw [List.cons_append, hstep, hrest]

/-- All components that are followed with so many links at most are freed from them.  This is the
statement of the induction.  It is about every memory and every depth that suffices, since inside of
a link both are others. -/
def FreesAll (fs : FileSystem) (caller : Caller) (links : Nat) : Prop :=
  ∀ {depth links' : Nat} {here there : Location} {parts : List String} {trail : Trail} {met : Met},
    fs.Leads caller links here (parts.filter (· ≠ "")) links' there → Clear fs caller trail here →
    Known fs caller met → Busy fs caller met (links - links') → links ≤ depth →
    Frees fs caller depth met trail parts there

/-- A link is followed the first time that it is met, and remembered from then on.  It is not met
while it is followed, as it would cost more than is left. -/
theorem FreesAll.link {mid : Nat} {between : Location}
    (h : ∀ fewer, fewer ≤ links → FreesAll fs caller fewer) (hdir : fs.Passable caller here)
    (hlink : fs.get? (name :: here) = some (.link target))
    (hinside : fs.Leads caller links (if isAbsolute target then [] else here) (steps target) mid
      between)
    (hrest : fs.Leads caller mid between (parts.filter (· ≠ "")) links' there)
    (hclear : Clear fs caller trail here) (hknown : Known fs caller met)
    (hbusy : Busy fs caller met (links + 1 - links')) (hdepth : links + 1 ≤ depth) :
    Frees fs caller depth met trail (name :: parts) there := by
  have hmid := hinside.links_le
  have hleft := hrest.links_le
  have hlook := hclear.linkHeld?_link hdir hlink
  have hnameable := nameable_of_get?_cons hlink
  have hends : Ends fs caller (trail.down name) (links + 1 - mid) between := by
    obtain ⟨mode, hdirectory, hmay⟩ := hdir
    refine ⟨trail, name, here, links + 1, mid, rfl, hclear, ?_, by omega⟩
    exact .pace (.link hdirectory hmay hlink) (by rwa [List.append_nil])
  -- Not yet met: its text is followed first, and then the rest, from what it leads to.
  -- Met and not yet done: this is ruled out by what it costs.  Met and done: the end is known.
  cases hmet : met.lookup (trail.down name) with
  | none =>
    obtain ⟨depth, rfl⟩ : ∃ lower, depth = lower + 1 := ⟨depth - 1, by omega⟩
    have htarget : fs.Leads caller links (if isAbsolute target then [] else here)
        ((Text.fields '/' target).filter (· ≠ "")) mid between := by
      rw [← filter_steps]
      exact hinside.dropBlanks
    obtain ⟨reached, met', hfollowed, hreached, hknown', hno⟩ :=
      h links (Nat.le_refl links) htarget (hclear.start target) hknown.begin
        ((hbusy.mono (by omega)).begin hends (by omega)) (Nat.le_of_succ_le_succ hdepth)
    have hdone := hfollowed []
    rw [List.append_nil, unlinked_nil] at hdone
    have hno' : NoBusier met ((trail.down name, some reached) :: met') := hno.finish
    have hlater : Frees fs caller (depth + 1) ((trail.down name, some reached) :: met') reached
        parts there :=
      h mid hmid hrest hreached (hknown'.finish hends hreached)
        (hno'.busy (hbusy.mono (by omega))) (by omega)
    exact hlater.step (fun rest => unlinked_link hnameable hlook hmet hdone) hno'
  | some entry =>
    cases entry with
    | none =>
      obtain ⟨cost, place, hends', hcost⟩ := hbusy _ hmet
      obtain ⟨hsame, -⟩ := hends.unique hends'
      omega
    | some known =>
      obtain ⟨cost, place, hends', hreached⟩ := hknown _ _ hmet
      obtain ⟨-, rfl⟩ := hends.unique hends'
      have hlater : Frees fs caller depth met known parts there :=
        h mid hmid hrest hreached hknown (hbusy.mono (by omega)) (by omega)
      exact hlater.step (fun rest => unlinked_known hnameable hlook hmet) fun _ hkey => hkey

/-- **Components that are followed are freed from links.** -/
theorem freesAll (fs : FileSystem) (caller : Caller) (links : Nat) : FreesAll fs caller links := by
  -- a link leaves fewer links to follow, any other component leaves fewer components
  induction links using Nat.strongRecOn with
  | ind links ihLinks =>
    intro depth links' here there parts trail met h hclear hknown hbusy hdepth
    induction parts generalizing here trail with
    | nil =>
      cases h
      exact ⟨trail, met, fun rest => rfl, hclear, hknown, fun key hkey => hkey⟩
    | cons name parts ih =>
      by_cases hname : name = ""
      · rw [List.filter_cons_of_neg (by simp [hname])] at h
        exact (ih h hclear).step (fun rest => unlinked_blank (Or.inl hname)) fun _ hkey => hkey
      rw [List.filter_cons_of_pos (by simpa using hname), ← List.singleton_append] at h
      obtain ⟨mid, between, hfirst, hrest⟩ := h.split
      cases hfirst with
      | pace hpace hdone =>
        cases hpace with
        | blank heq _ => exact absurd heq hname
        | dot heq _ _ =>
          cases hdone
          exact (ih hrest hclear).step (fun rest => unlinked_blank (Or.inr heq)) fun _ hkey => hkey
        | up heq hdir hmay =>
          cases hdone
          subst heq
          exact (ih hrest (hclear.up ⟨_, hdir, hmay⟩)).step (fun rest => unlinked_up)
            fun _ hkey => hkey
        | down hdir hmay hobject hlink =>
          cases hdone
          have hnone := hclear.linkHeld?_down ⟨_, hdir, hmay⟩ hobject hlink
          exact (ih hrest (hclear.down ⟨_, hdir, hmay⟩ hobject hlink)).step
            (fun rest => unlinked_down (nameable_of_get?_cons hobject) hnone) fun _ hkey => hkey
        | link hdir hmay hlink =>
          rw [List.append_nil] at hdone
          exact FreesAll.link (fun fewer hfewer => ihLinks fewer (by omega)) ⟨_, hdir, hmay⟩ hlink
            hdone hrest hclear hknown hbusy hdepth

/-! ## Canonical forms -/

/-- Something is where components lead from. -/
theorem Leads.exists_start (h : fs.Leads caller links here names links' there)
    (hobject : fs.get? there = some object) : ∃ object, fs.get? here = some object := by
  cases h with
  | done => exact ⟨_, hobject⟩
  | pace hpace _ =>
    cases hpace with
    | blank _ hdir => exact ⟨_, hdir⟩
    | dot _ hdir _ => exact ⟨_, hdir⟩
    | up _ hdir _ => exact ⟨_, hdir⟩
    | down hdir _ _ _ => exact ⟨_, hdir⟩
    | link hdir _ _ => exact ⟨_, hdir⟩

/-- Where no link is followed, components change a place as they change other components. -/
theorem Leads.foldl_kept (h : fs.Leads caller links here names links there)
    (hnames : ∀ name ∈ names, IsName name) : names.foldl kept here = there := by
  induction names generalizing here with
  | nil => cases h; rfl
  | cons name rest ih =>
    rw [← List.singleton_append] at h
    obtain ⟨mid, between, hfirst, hrest⟩ := h.split
    have hmid := hfirst.links_le
    have hlimit := hrest.links_le
    obtain rfl : mid = links := by omega
    obtain ⟨hempty, hdot, -⟩ := hnames name List.mem_cons_self
    rw [List.foldl_cons, ← ih hrest fun other hother => hnames other (List.mem_cons_of_mem _ hother)]
    congr 1
    cases hfirst with
    | pace hpace hdone =>
      have hinside := hdone.links_le
      cases hpace with
      | blank heq _ => exact absurd heq hempty
      | dot heq _ _ => exact absurd heq hdot
      | up heq _ _ => cases hdone; rw [kept, if_pos heq]
      | down _ _ hobject _ =>
        cases hdone
        rw [kept, if_neg (ne_of_get?_cons hobject).2.2.1]
      | link _ _ _ => omega

/-- A clear trail spells the place to which it leads. -/
theorem Clear.lexical_eq (h : Clear fs caller trail here) (hobject : fs.get? here = some object) :
    lexical (above caller trail ++ trail.names.reverse) = here.reverse := by
  obtain ⟨start, hstart⟩ := h.leads.exists_start hobject
  have habove : above caller trail = (trailStart caller trail).reverse := by
    rw [trailStart] at hstart
    rw [above, trailStart]
    split
    · rfl
    · rename_i hrelative
      rw [if_neg hrelative] at hstart
      exact toPath_parts hstart
  have hdots : ".." ∉ (trailStart caller trail).reverse := by
    intro hmem
    exact (isFileName_of_get? hstart _ (List.mem_reverse.1 hmem)).2.1 rfl
  rw [lexical, habove, List.foldl_append, FileSystem.foldl_kept hdots, List.reverse_reverse,
    List.append_nil, h.leads.foldl_kept fun name hname => h.proper name (List.mem_reverse.1 hname)]

/-- No link is seen where none is met behind a clear trail. -/
theorem Clear.linkHeld?_eq_none (h : Clear fs caller trail here) (hne : names ≠ [])
    (hnames : ∀ name ∈ names, IsName name ∧ name ≠ "..") (hfree : fs.LinkFree here names) :
    fs.linkHeld? caller ⟨trail.absolute, names.reverse ++ trail.names⟩ = none := by
  cases hheld : fs.linkHeld? caller ⟨trail.absolute, names.reverse ++ trail.names⟩ with
  | none => rfl
  | some target =>
    obtain ⟨location, hwalk, hlink⟩ := linkHeld?_eq_some hheld
    obtain ⟨head, rest, rfl⟩ := List.exists_cons_of_ne_nil hne
    have hinner := inner_cons (hnames head List.mem_cons_self).1.1 .itself rest
    rw [List.reverse_append, List.reverse_reverse] at hwalk
    change fs.walk caller .itself linkLimit (trailStart caller trail) _ = _ at hwalk
    rw [walk_append h.leads hinner] at hwalk
    exact absurd hlink (walk_itself_ne_link hne hnames hfree hwalk)

/-- The components of a path that are followed lead a trail there. -/
theorem exists_clear (hdepth : linkLimit ≤ depth) (hparts : path.parts = front ++ names)
    (hleads : fs.Leads caller linkLimit (path.start caller) front links here) :
    ∃ reached before, Clear fs caller reached here ∧
      unlinked (fs.linkHeld? caller) depth [] (Trail.start ⟨false, []⟩ path.text)
          (Text.fields '/' path.text)
        = unlinked (fs.linkHeld? caller) depth before reached names := by
  have hstart : Clear fs caller (Trail.start ⟨false, []⟩ path.text) (path.start caller) := by
    have hclear : Clear fs caller ⟨false, []⟩ caller.workingDirectory := ⟨by simp, .done⟩
    rw [← Path.startOf_text]
    exact hclear.start path.text
  by_cases hnil : path.parts = []
  · obtain ⟨rfl, rfl⟩ := List.append_eq_nil_iff.1 (hparts.symm.trans hnil)
    cases hleads
    refine ⟨_, [], hstart, ?_⟩
    rw [unlinked_nil, unlinked_blanks (Path.fields_text_of_nil hnil)]
  · obtain ⟨blanks, hblanks, hfields⟩ := Path.fields_spelling hnil
    have hfilter : (blanks ++ front).filter (· ≠ "") = front := by
      rw [List.filter_append, List.filter_eq_nil_iff.2 fun part hpart => by simp [hblanks part hpart],
        List.filter_eq_self.2 fun part hpart => ?_, List.nil_append]
      have hname := path.isName part (by rw [hparts]; exact List.mem_append_left _ hpart)
      simpa using hname.1
    have hfront : fs.Leads caller linkLimit (path.start caller)
        ((blanks ++ front).filter (· ≠ "")) links here := by
      rw [hfilter]
      exact hleads
    have hknown : Known fs caller [] := by
      intro key known hkey
      simp at hkey
    have hbusy : Busy fs caller [] (linkLimit - links) := by
      intro key hkey
      simp at hkey
    obtain ⟨reached, met', hrest, hreached, -, -⟩ :=
      freesAll fs caller linkLimit hfront hstart hknown hbusy hdepth
    refine ⟨reached, met', hreached, ?_⟩
    rw [← hrest, Path.text_eq_spelling hnil, hfields, hparts, List.append_assoc]

/-- A clear trail that goes on without a step up spells the place to which it leads, and what it
goes on with. -/
theorem Clear.absolutePath_text (h : Clear fs caller trail here) (names : List String)
    (hobject : fs.get? here = some object) (hnames : ∀ name ∈ names, IsName name ∧ name ≠ "..") :
    (absolutePath caller (Trail.text ⟨trail.absolute, names.reverse ++ trail.names⟩)).anchor = .root ∧
      (absolutePath caller (Trail.text ⟨trail.absolute, names.reverse ++ trail.names⟩)).parts
        = (names.reverse ++ here).reverse := by
  obtain ⟨hanchor, hform⟩ := FileSystem.absolutePath_text caller
    ⟨trail.absolute, names.reverse ++ trail.names⟩ fun name hname => by
      rcases List.mem_append.1 hname with hname | hname
      · exact (hnames name (List.mem_reverse.1 hname)).1
      · exact h.proper name hname
  refine ⟨hanchor, ?_⟩
  have hdots : ".." ∉ names := fun hmem => (hnames _ hmem).2 rfl
  have habove : above caller ⟨trail.absolute, names.reverse ++ trail.names⟩ = above caller trail :=
    rfl
  rw [hform, List.reverse_append, List.reverse_reverse, habove, ← List.append_assoc,
    lexical_append hdots, h.lexical_eq hobject, Path.names_append,
    Path.names_eq_self fun name hname => (hnames name hname).1, List.reverse_append,
    List.reverse_reverse, show Path.names here.reverse = here.reverse from toPath_parts hobject]

/-- **The canonical form of a path spells the place to which it leads**, and goes on from there with
the components that meet no link. -/
theorem canonicalBy?_of_leads {form : Path} (hparts : path.parts = front ++ names)
    (hleads : fs.Leads caller linkLimit (path.start caller) front links here)
    (hobject : fs.get? here = some object) (hdots : ".." ∉ names) (hfree : fs.LinkFree here names)
    (h : fs.canonicalBy? caller (fs.linkHeld? caller) path = .ok form) :
    form.anchor = .root ∧ form.parts = (names.reverse ++ here).reverse := by
  have hnames : ∀ name ∈ names, IsName name ∧ name ≠ ".." := fun name hname =>
    ⟨path.isName name (by rw [hparts]; exact List.mem_append_right _ hname),
      fun heq => hdots (heq ▸ hname)⟩
  obtain ⟨depth, outcome, met, hdepth, hunlinked, rfl⟩ := canonicalBy?_eq_ok h
  obtain ⟨reached, before, hclear, hrest⟩ := exists_clear hdepth hparts hleads
  rw [hrest] at hunlinked
  have houtcome : outcome = .done ⟨reached.absolute, names.reverse ++ reached.names⟩ := by
    refine unlinked_straight hnames ?_ hunlinked
    intro first hfirst hne
    exact hclear.linkHeld?_eq_none hne (fun name hname => hnames name (hfirst.subset hname))
      (hfree.left hfirst)
  rw [houtcome, Unlinked.text]
  exact hclear.absolutePath_text names hobject hnames

/-! ## Paths that lead apart -/

/-- No link is missed for being where no spelling is short enough to look.  The look of the system
refuses spellings of more than 4095 bytes and takes a link behind one for no link.  Where that
happens the canonical form goes through a link, and nothing can be told from comparing it; so
statements about comparing paths carry this condition.  It only speaks of a form that is found: a
path without one is refused anyway. -/
def Unmissed (fs : FileSystem) (caller : Caller) (path : Path) : Prop :=
  ∀ form, fs.canonical? caller path = .ok form →
    fs.canonicalBy? caller (fs.linkHeld? caller) path = .ok form

/-- On a given tree, it can be computed whether a link is missed. -/
theorem unmissed_of_toOption_eq (h : (fs.canonicalBy? caller (fs.linkHeld? caller) path).toOption
    = (fs.canonical? caller path).toOption) : Unmissed fs caller path := by
  intro form hform
  rw [hform] at h
  cases hheld : fs.canonicalBy? caller (fs.linkHeld? caller) path with
  | error fault => rw [hheld] at h; simp [Except.toOption] at h
  | ok held =>
    rw [hheld] at h
    simpa [Except.toOption] using h

theorem canonical?_of_leads {form : Path} (hseen : Unmissed fs caller path)
    (hparts : path.parts = front ++ names)
    (hleads : fs.Leads caller linkLimit (path.start caller) front links here)
    (hobject : fs.get? here = some object) (hdots : ".." ∉ names) (hfree : fs.LinkFree here names)
    (h : fs.canonical? caller path = .ok form) :
    form.anchor = .root ∧ form.parts = (names.reverse ++ here).reverse :=
  canonicalBy?_of_leads hparts hleads hobject hdots hfree (hseen form h)

/-- **Paths of which neither is found within the other lead apart.** -/
theorem apart_of_isWithin? {other : Path} {base : Location} {found : Object}
    (hother : Unmissed fs caller other) (hbase : fs.PathLeads caller other base)
    (hfound : fs.get? base = some found) (hseen : Unmissed fs caller path)
    (hparts : path.parts = front ++ names)
    (hleads : fs.Leads caller linkLimit (path.start caller) front links here)
    (hobject : fs.get? here = some object) (hdots : ".." ∉ names) (hfree : fs.LinkFree here names)
    (hwithin : fs.isWithin? caller path other = .ok false)
    (haround : fs.isWithin? caller other path = .ok false) :
    ¬ base <:+ names.reverse ++ here ∧ ¬ names.reverse ++ here <:+ base := by
  obtain ⟨form, otherForm, hform, hotherForm, hnot⟩ := isWithin?_eq_ok_false hwithin
  obtain ⟨otherForm', form', hotherForm', hform', hnot'⟩ := isWithin?_eq_ok_false haround
  rw [hform, Except.ok.injEq] at hform'
  rw [hotherForm, Except.ok.injEq] at hotherForm'
  subst hform' hotherForm'
  obtain ⟨links', hbase⟩ := hbase
  obtain ⟨hanchor, hplace⟩ := canonical?_of_leads hseen hparts hleads hobject hdots hfree hform
  obtain ⟨hotherAnchor, hotherPlace⟩ := canonical?_of_leads hother (List.append_nil _).symm hbase
    hfound (by simp) LinkFree.nil hotherForm
  have hanchors : form.anchor = otherForm.anchor := by rw [hanchor, hotherAnchor]
  rw [List.reverse_nil, List.nil_append] at hotherPlace
  refine ⟨fun hbelow => hnot ⟨hanchors, ?_⟩, fun habove => hnot' ⟨hanchors.symm, ?_⟩⟩
  · rw [hplace, hotherPlace]
    exact List.reverse_prefix.2 hbelow
  · rw [hplace, hotherPlace]
    exact List.reverse_prefix.2 habove

end FileSystem
end AssetPublish
