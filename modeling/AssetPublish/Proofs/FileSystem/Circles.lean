import AssetPublish.Proofs.FileSystem.Refusing
import AssetPublish.Proofs.FileSystem.Unlinking

/-!
# Paths that go round in circles

Freeing a path from links can go wrong in two ways: a component holds the zero character, or links
lead round in a circle.  Names of objects and paths held by links are without the zero character, so
for a path without it only the second can happen.

The first is kept out by a predicate on every text that plays a part: the components, the trails,
the links remembered.  That it is preserved at each step follows the recursion of the function, with
the limit on the depth of links as a last resort; the limit is chosen so large that it is never met
in a tree with that many objects, but nothing here depends on this, since reaching it is reported in
the same way as a circle.

## What is here

* `Text.NullFree` — texts without the zero character.
* `Met.NullFree`, `exists_unlinked` — components without it are freed from links.
* `Circular`, `canonical?_eq_error` — a path without it has a canonical form unless links lead round
  in a circle.
* `isWithin?_eq_error`, `exists_error_of_circular` — what this means for comparing two paths.
* `exists_canonical?_of_linkFree` — a path that meets no link has a canonical form.
-/

set_option autoImplicit false

namespace AssetPublish

variable {spelled rest name : String} {parts names : List String} {trail : Trail}

/-! ## Texts without the zero character

The predicate is put on texts and not on paths, since components, trails and the paths held by links
are texts. -/

/-- The zero character is not in the text. -/
def Text.NullFree (text : String) : Prop := '\x00' ∉ text.toList

instance (text : String) : Decidable (Text.NullFree text) := by
  unfold Text.NullFree; infer_instance

theorem Text.NullFree.fields (h : Text.NullFree spelled) :
    ∀ name ∈ Text.fields '/' spelled, Text.NullFree name := by
  intro name hname hnull
  obtain ⟨chars, hchars, rfl⟩ := List.mem_map.1 hname
  rw [String.toList_ofList] at hnull
  refine h ?_
  rw [← Text.joinChars_splitChars '/' spelled.toList]
  exact Text.mem_joinChars_of_mem hchars hnull

theorem Text.nullFree_joined (h : ∀ name ∈ names, Text.NullFree name) :
    Text.NullFree (Text.joined '/' names) := by
  intro hnull
  rw [Text.joined, String.toList_ofList] at hnull
  rcases Text.mem_joinChars hnull with hsep | ⟨chars, hchars, hmem⟩
  · exact absurd hsep (by decide)
  · obtain ⟨name, hname, rfl⟩ := List.mem_map.1 hchars
    exact h name hname hmem

theorem nullFree_continued (h : Text.NullFree spelled) (hrest : Text.NullFree rest) :
    Text.NullFree (continued spelled rest) := by
  have hslash : '\x00' ∉ "/".toList := by decide
  rw [continued]
  split
  · exact hrest
  · split <;> simp only [Text.NullFree, String.toList_append, List.mem_append, not_or]
    · exact ⟨h, hrest⟩
    · exact ⟨⟨h, hslash⟩, hrest⟩

theorem Path.nullFree_text_iff {path : Path} :
    Text.NullFree path.text ↔ ∀ part ∈ path.parts, Text.NullFree part := by
  rw [Text.NullFree, Path.null_mem_text_iff]
  simp [Text.NullFree]

/-! ## Trails

A trail grows by names that have passed the test, and by what links have led to. -/

/-- No component of the trail holds the zero character. -/
def Trail.NullFree (trail : Trail) : Prop := ∀ name ∈ trail.names, Text.NullFree name

theorem Trail.NullFree.text (h : trail.NullFree) : Text.NullFree trail.text := by
  have hjoined : Text.NullFree (Text.joined '/' trail.names.reverse) :=
    Text.nullFree_joined fun name hname => h name (List.mem_reverse.1 hname)
  rw [Trail.text, Text.NullFree, String.toList_append, List.mem_append, not_or]
  refine ⟨?_, hjoined⟩
  split <;> decide

theorem Trail.NullFree.down (h : trail.NullFree) (hname : Text.NullFree name) :
    (trail.down name).NullFree := by
  intro other hother
  rcases List.mem_cons.1 hother with rfl | hother
  · exact hname
  · exact h other hother

theorem Trail.NullFree.up (h : trail.NullFree) : trail.up.NullFree := by
  have hdots : Text.NullFree ".." := by unfold Text.NullFree; decide
  rw [Trail.up]
  split
  · split
    · exact h
    · intro name hname
      rwa [List.mem_singleton.1 hname]
  · rename_i name rest hnames
    rw [Trail.NullFree, hnames] at h
    split
    · intro other hother
      rcases List.mem_cons.1 hother with rfl | hother
      · exact hdots
      · exact h other hother
    · exact fun other hother => h other (List.mem_cons_of_mem _ hother)

theorem Trail.NullFree.start (h : trail.NullFree) (text : String) :
    (trail.start text).NullFree := by
  rw [Trail.start]
  split
  · simp [Trail.NullFree]
  · exact h

/-- No text of the outcome holds the zero character. -/
def Unlinked.NullFree : Unlinked → Prop
  | done trail => trail.NullFree
  | stuck text => Text.NullFree text

theorem Unlinked.NullFree.text {outcome : Unlinked} (h : outcome.NullFree) :
    Text.NullFree outcome.text := by
  cases outcome with
  | done trail => exact Trail.NullFree.text h
  | stuck text => exact h

/-- Links that have been followed lead to trails without the zero character.  Those that are being
followed have no trail yet, and nothing is asked of them. -/
def Met.NullFree (met : Met) : Prop :=
  ∀ key known, met.lookup key = some (some known) → known.NullFree

theorem Met.NullFree.begin {met : Met} (h : met.NullFree) (key : Trail) :
    Met.NullFree ((key, none) :: met) := by
  intro other known hlookup
  by_cases heq : other = key
  · subst heq
    simp at hlookup
  · rw [List.lookup_cons, beq_eq_false_iff_ne.2 heq] at hlookup
    exact h other known hlookup

theorem Met.NullFree.finish {met : Met} (h : met.NullFree) (key : Trail) {reached : Trail}
    (hreached : reached.NullFree) : Met.NullFree ((key, some reached) :: met) := by
  intro other known hlookup
  by_cases heq : other = key
  · subst heq
    simp only [List.lookup_cons_self, Option.some.injEq] at hlookup
    rwa [← hlookup]
  · rw [List.lookup_cons, beq_eq_false_iff_ne.2 heq] at hlookup
    exact h other known hlookup

namespace FileSystem

variable {fs : FileSystem} {caller : Caller} {path : Path} {look : Trail → Option String}
  {depth : Nat} {met : Met} {fault : Fault}

/-! ## Freeing from links

The induction is on the depth of links, and inside of it on the components that are left; what is
carried along is that all texts are clean. -/

/-- What comes of freeing components from links: an outcome without the zero character. -/
def FreesClean (freed : Except Fault (Unlinked × Met)) : Prop :=
  ∃ outcome met, freed = .ok (outcome, met) ∧ outcome.NullFree ∧ met.NullFree

/-- Components without the zero character are freed from links if the paths held by links are. -/
theorem freesClean_unlinkedWith
    {inside : Met → Trail → String → Option (Except Fault (Unlinked × Met))}
    (hlook : ∀ trail target, look trail = some target → Text.NullFree target)
    (hinside : ∀ met trail target, met.NullFree → trail.NullFree → Text.NullFree target →
      ∀ freed, inside met trail target = some freed → FreesClean freed)
    (hmet : met.NullFree) (htrail : trail.NullFree) (hnames : ∀ name ∈ names, Text.NullFree name) :
    FreesClean (unlinkedWith look inside met trail names) := by
  induction names generalizing met trail with
  | nil => exact ⟨_, _, rfl, htrail, hmet⟩
  | cons name rest ih =>
    have hrest : ∀ other ∈ rest, Text.NullFree other :=
      fun other hother => hnames other (List.mem_cons_of_mem _ hother)
    have hname : Text.NullFree name := hnames name List.mem_cons_self
    have hstuck : Text.NullFree (continued (trail.down name).text (Text.joined '/' rest)) :=
      nullFree_continued (htrail.down hname).text (Text.nullFree_joined hrest)
    rw [unlinkedWith]
    split
    · exact ih hmet htrail hrest
    split
    · exact ih hmet htrail.up hrest
    rw [if_neg hname]
    simp only
    cases hheld : look (trail.down name) with
    | none => exact ih hmet (htrail.down hname) hrest
    | some target =>
      have htarget := hlook _ _ hheld
      simp only
      cases hlookup : met.lookup (trail.down name) with
      | some entry =>
        cases entry with
        | some known => exact ih hmet (hmet _ _ hlookup) hrest
        | none => exact ⟨_, _, rfl, hstuck, hmet⟩
      | none =>
        simp only
        cases hfreed : inside ((trail.down name, none) :: met) (trail.start target) target with
        | none => exact ⟨_, _, rfl, hstuck, hmet⟩
        | some freed =>
          obtain ⟨outcome, met', rfl, houtcome, hmet'⟩ :=
            hinside _ _ _ (hmet.begin _) (htrail.start target) htarget freed hfreed
          cases outcome with
          | stuck text =>
            exact ⟨_, _, rfl, nullFree_continued houtcome (Text.nullFree_joined hrest), hmet'⟩
          | done reached => exact ih (hmet'.finish _ houtcome) houtcome hrest

theorem freesClean_unlinked
    (hlook : ∀ trail target, look trail = some target → Text.NullFree target)
    (hmet : met.NullFree) (htrail : trail.NullFree) (hnames : ∀ name ∈ names, Text.NullFree name) :
    FreesClean (unlinked look depth met trail names) := by
  induction depth generalizing met trail names with
  | zero => exact freesClean_unlinkedWith hlook (by simp) hmet htrail hnames
  | succ depth ih =>
    refine freesClean_unlinkedWith hlook ?_ hmet htrail hnames
    intro met trail target hmet htrail htarget freed hfreed
    rw [← Option.some.inj hfreed]
    exact ih hmet htrail htarget.fields

/-- Links hold paths without the zero character. -/
theorem nullFree_of_linkAt? {target : String} (h : fs.linkAt? caller trail = some target) :
    Text.NullFree target := by
  rw [linkAt?] at h
  split at h
  · simp at h
  obtain ⟨location, -, hlink⟩ := linkHeld?_eq_some h
  exact null_not_mem_of_get?_link hlink

/-- A path without the zero character is freed from links, or found to go round in a circle. -/
theorem exists_unlinked (fs : FileSystem) (caller : Caller) (hnull : Text.NullFree path.text)
    (depth : Nat) : ∃ outcome met,
      unlinked (fs.linkAt? caller) depth [] (Trail.start ⟨false, []⟩ path.text)
        (Text.fields '/' path.text) = .ok (outcome, met) ∧ outcome.NullFree := by
  have hnone : Met.NullFree [] := by simp [Met.NullFree]
  have hstart : Trail.NullFree (Trail.start ⟨false, []⟩ path.text) :=
    Trail.NullFree.start (by simp [Trail.NullFree]) _
  obtain ⟨outcome, met, hfreed, houtcome, -⟩ :=
    freesClean_unlinked (fun _ _ => nullFree_of_linkAt?) hnone hstart hnull.fields
  exact ⟨outcome, met, hfreed, houtcome⟩

/-! ## Canonical forms

The program looks the form up once it is free of links, and only a refusal for too many links is
taken for a circle. -/

theorem mem_foldl_kept {before : List String} (h : name ∈ parts.foldl kept before) :
    name ∈ before ∨ name ∈ parts := by
  induction parts generalizing before with
  | nil => exact Or.inl h
  | cons part rest ih =>
    rcases ih h with hkept | hrest
    · rw [kept] at hkept
      split at hkept
      · exact Or.inl (List.mem_of_mem_tail hkept)
      · rcases List.mem_cons.1 hkept with rfl | hbefore
        · exact Or.inr List.mem_cons_self
        · exact Or.inl hbefore
    · exact Or.inr (List.mem_cons_of_mem _ hrest)

/-- Without the steps up there are no other components. -/
theorem mem_of_mem_lexical (h : name ∈ lexical parts) : name ∈ parts := by
  rcases mem_foldl_kept (List.mem_reverse.1 h) with hnone | hmem
  · simp at hnone
  · exact hmem

theorem nullFree_workingDirectory (h : fs.isDirectory caller.workingDirectory = true) :
    Text.NullFree (Location.toPath caller.workingDirectory).text := by
  obtain ⟨mode, hdir⟩ := isDirectory_iff.1 h
  rw [Path.nullFree_text_iff]
  intro part hpart
  have hmem : part ∈ caller.workingDirectory :=
    List.mem_reverse.1 (List.mem_filter.1 hpart).1
  exact (isFileName_of_get? hdir part hmem).2.2.1

theorem nullFree_absolutePath (hcaller : fs.isDirectory caller.workingDirectory = true)
    (h : Text.NullFree spelled) : Text.NullFree (absolutePath caller spelled).text := by
  rw [Path.nullFree_text_iff]
  intro part hpart
  have hfields := mem_of_mem_lexical (List.mem_filter.1 hpart).1
  exact (nullFree_continued (nullFree_workingDirectory hcaller) h).fields part
    (List.mem_filter.1 hfields).1

/-- Links lead round in a circle where the path is freed from them.  The report is taken for what it
says: freeing got stuck at a link, and what is left of the path meets too many links when the system
follows it. -/
def Circular (fs : FileSystem) (caller : Caller) (path : Path) : Prop :=
  ∃ text, fs.canonical? caller path = .error (.linkLoop text)

/-- What is left of a path that has been freed from links is its canonical form, unless too many
links are met on it. -/
theorem canonicalBy?_of_unlinked {outcome : Unlinked}
    (hfreed : unlinked look
      (linkLimit + (fs.objects.length + 1) * (caller.workingDirectory.length + 2)) []
      (Trail.start ⟨false, []⟩ path.text) (Text.fields '/' path.text) = .ok (outcome, met))
    (hform : Text.NullFree (absolutePath caller outcome.text).text) :
    fs.canonicalBy? caller look path = .ok (absolutePath caller outcome.text) ∨
      fs.canonicalBy? caller look path
          = .error (.linkLoop (absolutePath caller outcome.text).text) ∧
        fs.follow? caller (absolutePath caller outcome.text).text
          = .error (.refused .tooManyLinks (absolutePath caller outcome.text).text) := by
  rw [canonicalBy?, hfreed]
  simp only [ok_bind]
  cases hfollow : fs.follow? caller (absolutePath caller outcome.text).text with
  | ok found => exact Or.inl rfl
  | error fault =>
    obtain ⟨refusal, hmem, rfl, -⟩ := find?_text_eq_error hform (by simp) hfollow
    simp only [Fault.refused]
    split
    · rename_i hcode
      obtain rfl := (code_eq_tooManyLinks_iff hmem).1 hcode
      exact Or.inr ⟨rfl, rfl⟩
    · exact Or.inl rfl

/-- What remains of a path when its canonical form is not known: a form that is not followed for too
many links. -/
theorem exists_unlinked_of_canonical?_eq_error
    (hcaller : fs.isDirectory caller.workingDirectory = true) (hnull : Text.NullFree path.text)
    (h : fs.canonical? caller path = .error fault) : ∃ depth outcome met form,
      unlinked (fs.linkAt? caller) depth [] (Trail.start ⟨false, []⟩ path.text)
        (Text.fields '/' path.text) = .ok (outcome, met) ∧
      form = absolutePath caller outcome.text ∧ Text.NullFree form.text ∧
      fault = .linkLoop form.text ∧
      fs.follow? caller form.text = .error (.refused .tooManyLinks form.text) := by
  rw [canonical?] at h
  obtain ⟨outcome, met, hfreed, houtcome⟩ := exists_unlinked fs caller hnull
    (linkLimit + (fs.objects.length + 1) * (caller.workingDirectory.length + 2))
  have hform := nullFree_absolutePath hcaller houtcome.text
  refine ⟨_, outcome, met, _, hfreed, rfl, hform, ?_⟩
  rcases canonicalBy?_of_unlinked hfreed hform with hok | ⟨herror, hfollow⟩
  · rw [hok] at h
    simp at h
  · rw [herror] at h
    exact ⟨(Except.error.inj h).symm, hfollow⟩

/-- **A path has a canonical form unless links lead round in a circle.**  So a fault, if there is
one, is known as far as its kind goes; its text is that of the path which is left. -/
theorem canonical?_eq_error (hcaller : fs.isDirectory caller.workingDirectory = true)
    (hnull : Text.NullFree path.text) (h : fs.canonical? caller path = .error fault) :
    ∃ text, fault = .linkLoop text := by
  obtain ⟨depth, outcome, met, form, -, -, -, hfault, -⟩ :=
    exists_unlinked_of_canonical?_eq_error hcaller hnull h
  exact ⟨form.text, hfault⟩

/-- Whether one path lies within another is not known only if one of them is circular. -/
theorem isWithin?_eq_error {parent : Path} (hcaller : fs.isDirectory caller.workingDirectory = true)
    (hnull : Text.NullFree path.text) (hparent : Text.NullFree parent.text)
    (h : fs.isWithin? caller path parent = .error fault) :
    (∃ text, fault = .linkLoop text) ∧ (fs.Circular caller path ∨ fs.Circular caller parent) := by
  rw [isWithin?] at h
  cases hpath : fs.canonical? caller path with
  | error other =>
    obtain rfl : other = fault := by simpa [hpath] using h
    obtain ⟨text, rfl⟩ := canonical?_eq_error hcaller hnull hpath
    exact ⟨⟨text, rfl⟩, Or.inl ⟨text, hpath⟩⟩
  | ok form =>
    cases hforms : fs.canonical? caller parent with
    | error other =>
      obtain rfl : other = fault := by simpa [hpath, hforms] using h
      obtain ⟨text, rfl⟩ := canonical?_eq_error hcaller hparent hforms
      exact ⟨⟨text, rfl⟩, Or.inr ⟨text, hforms⟩⟩
    | ok parentForm => simp [hpath, hforms] at h

theorem exists_error_of_circular {parent : Path}
    (h : fs.Circular caller path ∨ fs.Circular caller parent) :
    ∃ fault, fs.isWithin? caller path parent = .error fault := by
  rw [isWithin?]
  rcases h with ⟨text, hpath⟩ | ⟨text, hparent⟩
  · exact ⟨_, by rw [hpath, error_bind]⟩
  · cases hpath : fs.canonical? caller path with
    | error other => exact ⟨other, rfl⟩
    | ok form => exact ⟨.linkLoop text, by rw [hparent]; rfl⟩

/-! ## Paths that meet no link

Where no link is met, there is nothing to go round in. -/

/-- A look-up is refused for too many links only where they are met.  So on a form that goes
straight down from the root this refusal is excluded, and the form is accepted. -/
theorem walk_of_follow?_eq_tooManyLinks (hnull : Text.NullFree path.text)
    (h : fs.follow? caller path.text = .error (.refused .tooManyLinks path.text)) :
    fs.walk caller .followed linkLimit (path.start caller) (steps path.text)
      = .error .tooManyLinks := by
  rw [follow?, find?] at h
  cases hreach : fs.reach? caller .followed path.text with
  | error fault =>
    obtain rfl : fault = .refused .tooManyLinks path.text := by simpa [hreach] using h
    obtain ⟨refusal, heq, ⟨-, hlong⟩ | ⟨-, hwalk⟩⟩ := reach?_text_eq_error hnull hreach
    · simp [hlong, Fault.refused] at heq
    · obtain rfl : Refusal.tooManyLinks = refusal := by simpa [Fault.refused] using heq
      exact hwalk
  | ok reached =>
    rw [hreach] at h
    cases reached with
    | free dir name => simp [Fault.refused] at h
    | object location => cases hget : fs.get? location <;> simp [hget, Fault.refused] at h

/-- The components of a canonical form that goes on from the working directory. -/
theorem parts_of_workingDirectory {mode : Nat}
    (hstart : fs.get? caller.workingDirectory = some (.directory mode)) :
    Path.names (lexical (Location.toPath caller.workingDirectory).parts)
      = caller.workingDirectory.reverse := by
  have hdots : ".." ∉ caller.workingDirectory.reverse := by
    intro hmem
    exact (isFileName_of_get? hstart _ (List.mem_reverse.1 hmem)).2.1 rfl
  rw [toPath_parts hstart, lexical, foldl_kept hdots, List.append_nil, List.reverse_reverse]
  exact toPath_parts hstart

/-- On a form that goes straight down from the root too many links are not met. -/
theorem follow?_ne_tooManyLinks {form : Path} (hanchor : form.anchor = .root)
    (hnames : ∀ name ∈ form.parts, IsFileName name) (hfree : fs.LinkFree [] form.parts) :
    fs.follow? caller form.text ≠ .error (.refused .tooManyLinks form.text) := by
  intro hfollow
  have hnull : Text.NullFree form.text :=
    Path.nullFree_text_iff.2 fun name hname => (hnames name hname).2.2.1
  have hwalk := walk_of_follow?_eq_tooManyLinks hnull hfollow
  have hsteps : steps form.text = form.parts := by
    by_cases hnil : form.parts = []
    · rw [Path.steps_text_of_nil hnil, hnil, if_neg (by simp [hanchor])]
    · exact Path.steps_text hnil
  rw [hsteps, Path.start, hanchor] at hwalk
  rcases walk_eq_error_of_linkFree hnames hfree hwalk with heq | heq | ⟨heq, -⟩ <;> simp at heq

/-- **A path that meets no link has a canonical form.**  It goes straight on from the working
directory, which is a directory and so has a form of its own. -/
theorem exists_canonical?_of_linkFree {mode : Nat}
    (hstart : fs.get? caller.workingDirectory = some (.directory mode))
    (hrelative : path.anchor = .relative) (hne : path.parts ≠ [])
    (hnames : ∀ name ∈ path.parts, IsFileName name)
    (hfree : fs.LinkFree caller.workingDirectory path.parts) :
    ∃ form, fs.canonical? caller path = .ok form ∧ form.anchor = .root ∧
      form.parts = caller.workingDirectory.reverse ++ path.parts := by
  have hdots : ".." ∉ path.parts := fun hmem => (hnames _ hmem).2.1 rfl
  have hnull : Text.NullFree path.text :=
    Path.nullFree_text_iff.2 fun name hname => (hnames name hname).2.2.1
  have hdirectory : fs.isDirectory caller.workingDirectory = true :=
    isDirectory_iff.2 ⟨mode, hstart⟩
  have hall : ∀ name ∈ caller.workingDirectory.reverse ++ path.parts, IsFileName name := by
    intro name hname
    rcases List.mem_append.1 hname with hmem | hmem
    · exact isFileName_of_get? hstart name (List.mem_reverse.1 hmem)
    · exact hnames name hmem
  have habove : fs.LinkFree [] (caller.workingDirectory.reverse ++ path.parts) := by
    refine LinkFree.append (linkFree_of_get? (by simpa using hstart) rfl) ?_
    rwa [List.reverse_reverse, List.append_nil]
  cases hform : fs.canonical? caller path with
  | ok form =>
    obtain ⟨hanchor, hparts⟩ := canonical?_of_linkFree hrelative hne hdots hfree hform
    rw [parts_of_workingDirectory hstart] at hparts
    exact ⟨form, rfl, hanchor, hparts⟩
  | error fault =>
    exfalso
    obtain ⟨depth, outcome, met, form, hfreed, rfl, -, -, hfollow⟩ :=
      exists_unlinked_of_canonical?_eq_error hdirectory hnull hform
    obtain ⟨hanchor, hparts⟩ := absolutePath_of_linkFree hrelative hne hdots hfree hfreed
    rw [parts_of_workingDirectory hstart] at hparts
    exact follow?_ne_tooManyLinks hanchor (hparts ▸ hall) (hparts ▸ habove) hfollow

end FileSystem
end AssetPublish
