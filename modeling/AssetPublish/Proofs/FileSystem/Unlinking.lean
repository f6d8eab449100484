import AssetPublish.FileSystem.Canonical
import AssetPublish.Proofs.FileSystem.Reaching

/-!
# Freeing a spelling from links

`FileSystem.unlinked` goes through the components of a spelling and replaces each link by what it
holds.  What it does with one component is told here, and what comes of names that are no links.

The function has a case for every kind of component, and a memory of the links that it has met.
Later proofs use one equation for each case, with the look at a trail as a parameter, so that they
hold both for the look of the system and for one that does not care how long a spelling is.

## What is here

* `unlinked_blank`, `unlinked_up`, `unlinked_down`, `unlinked_known`, `unlinked_link` — what one
  component does.
* `unlinked_straight` — names at which no link is seen are gone down.
* `absolutePath_text` — the absolute path that a trail spells.
* `canonical?_of_linkFree` — the canonical form of a path that meets no link.
-/

set_option autoImplicit false

namespace AssetPublish
namespace FileSystem

variable {fs : FileSystem} {caller : Caller} {path : Path} {look : Trail → Option String}
  {depth : Nat} {met : Met} {trail : Trail} {name target : String} {rest names : List String}

/-! ## One component

The trail is where the spelling has led so far, spelled without links.  A component extends it,
shortens it, or sends it along a link. -/

theorem unlinked_nil (look : Trail → Option String) (depth : Nat) (met : Met) (trail : Trail) :
    unlinked look depth met trail [] = .ok (.done trail, met) := by
  cases depth <;> rfl

/-- An empty component or a dot changes nothing. -/
theorem unlinked_blank (hname : name = "" ∨ name = ".") :
    unlinked look depth met trail (name :: rest) = unlinked look depth met trail rest := by
  cases depth with
  | zero => rw [unlinked, unlinkedWith, if_pos hname]
  | succ depth => rw [unlinked, unlinkedWith, if_pos hname]

theorem unlinked_blanks (hnames : ∀ name ∈ names, name = "" ∨ name = ".") :
    unlinked look depth met trail names = .ok (.done trail, met) := by
  induction names with
  | nil => exact unlinked_nil look depth met trail
  | cons name rest ih =>
    rw [unlinked_blank (hnames name List.mem_cons_self)]
    exact ih fun other hother => hnames other (List.mem_cons_of_mem _ hother)

/-- Two dots are a step up. -/
theorem unlinked_up :
    unlinked look depth met trail (".." :: rest) = unlinked look depth met trail.up rest := by
  cases depth with
  | zero => rw [unlinked, unlinkedWith, if_neg (by decide), if_pos rfl]
  | succ depth => rw [unlinked, unlinkedWith, if_neg (by decide), if_pos rfl]

/-- What names an object: it is neither empty nor dots, and does not hold the zero character.  With
such a component, freeing from links looks at the tree; with all others it goes on without looking.
-/
def Nameable (name : String) : Prop := IsName name ∧ name ≠ ".." ∧ '\x00' ∉ name.toList

/-- A name at which no link is seen is gone down to. -/
theorem unlinked_down (hname : Nameable name) (hlook : look (trail.down name) = none) :
    unlinked look depth met trail (name :: rest)
      = unlinked look depth met (trail.down name) rest := by
  obtain ⟨⟨hempty, hdot, -⟩, hdots, hnull⟩ := hname
  cases depth with
  | zero =>
    rw [unlinked, unlinkedWith]
    simp only [hempty, hdot, hdots, hnull, hlook, or_self, if_false]
  | succ depth =>
    rw [unlinked, unlinkedWith]
    simp only [hempty, hdot, hdots, hnull, hlook, or_self, if_false]

/-- A link that has been followed before leads where it has led then.  The tree does not change
meanwhile, so the memory is right; it also means that a path through the same link many times over
is freed from it although the system gives up. -/
theorem unlinked_known {known : Trail} (hname : Nameable name)
    (hlook : look (trail.down name) = some target)
    (hmet : met.lookup (trail.down name) = some (some known)) :
    unlinked look depth met trail (name :: rest) = unlinked look depth met known rest := by
  obtain ⟨⟨hempty, hdot, -⟩, hdots, hnull⟩ := hname
  cases depth with
  | zero =>
    rw [unlinked, unlinkedWith]
    simp only [hempty, hdot, hdots, hnull, hlook, hmet, or_self, if_false]
  | succ depth =>
    rw [unlinked, unlinkedWith]
    simp only [hempty, hdot, hdots, hnull, hlook, hmet, or_self, if_false]

/-- A link that has not been met before is followed. -/
theorem unlinked_link {reached : Trail} {met' : Met} (hname : Nameable name)
    (hlook : look (trail.down name) = some target) (hmet : met.lookup (trail.down name) = none)
    (hinside : unlinked look depth ((trail.down name, none) :: met) (trail.start target)
      (Text.fields '/' target) = .ok (.done reached, met')) :
    unlinked look (depth + 1) met trail (name :: rest)
      = unlinked look (depth + 1) ((trail.down name, some reached) :: met') reached rest := by
  obtain ⟨⟨hempty, hdot, -⟩, hdots, hnull⟩ := hname
  rw [unlinked, unlinkedWith]
  simp only [hempty, hdot, hdots, hnull, hlook, hmet, hinside, or_self, if_false]

/-- The zero character is refused. -/
theorem unlinked_null (hname : IsName name) (hdots : name ≠ "..") (hnull : '\x00' ∈ name.toList) :
    unlinked look depth met trail (name :: rest) = .error .nullByte := by
  obtain ⟨hempty, hdot, -⟩ := hname
  cases depth with
  | zero =>
    rw [unlinked, unlinkedWith]
    simp only [hempty, hdot, hdots, hnull, or_self, if_false, if_true]
  | succ depth =>
    rw [unlinked, unlinkedWith]
    simp only [hempty, hdot, hdots, hnull, or_self, if_false, if_true]

/-- **Names at which no link is seen are gone down.** -/
theorem unlinked_straight {outcome : Unlinked} {met' : Met}
    (hnames : ∀ name ∈ names, IsName name ∧ name ≠ "..")
    (hlook : ∀ first, first <+: names → first ≠ [] →
      look ⟨trail.absolute, first.reverse ++ trail.names⟩ = none)
    (h : unlinked look depth met trail names = .ok (outcome, met')) :
    outcome = .done ⟨trail.absolute, names.reverse ++ trail.names⟩ := by
  induction names generalizing trail with
  | nil =>
    rw [unlinked_nil, Except.ok.injEq, Prod.mk.injEq] at h
    exact h.1.symm
  | cons name rest ih =>
    obtain ⟨hname, hdots⟩ := hnames name List.mem_cons_self
    have hnext : look (trail.down name) = none := hlook [name] ⟨rest, rfl⟩ (by simp)
    by_cases hnull : '\x00' ∈ name.toList
    · rw [unlinked_null hname hdots hnull] at h
      simp at h
    · rw [unlinked_down ⟨hname, hdots, hnull⟩ hnext] at h
      have hrest := ih (fun other hother => hnames other (List.mem_cons_of_mem _ hother)) ?_ h
      · simpa [Trail.down] using hrest
      · intro first hfirst hne
        have hseen := hlook (name :: first) (List.cons_prefix_cons.2 ⟨rfl, hfirst⟩) (by simp)
        simpa [Trail.down] using hseen

/-! ## Absolute paths

A trail may be relative, and a canonical form is not.  The difference is made good at the end, when
nothing is left to look up. -/

/-- The components in front of those of a trail.  A relative trail goes on from the working
directory, whose own path is a canonical one. -/
def above (caller : Caller) (trail : Trail) : List String :=
  if trail.absolute then [] else (Location.toPath caller.workingDirectory).parts

/-- A spelling that is continued has the names of both parts. -/
theorem names_fields_continued {text rest : String} (hrest : isAbsolute rest = false) :
    Path.names (Text.fields '/' (continued text rest))
      = Path.names (Text.fields '/' text) ++ Path.names (Text.fields '/' rest) := by
  rw [continued, if_neg (by simp [hrest])]
  split
  · rename_i hend
    rcases hend with rfl | hlast
    · rw [String.empty_append]
      rfl
    · obtain ⟨front, hfront⟩ : ∃ front, text = front ++ "/" := by
        obtain ⟨cs, hcs⟩ := List.getLast?_eq_some_iff.1 hlast
        exact ⟨String.ofList cs, by rw [← String.toList_inj, hcs]; simp⟩
      have hempty : Text.fields '/' (front ++ "/") = Text.fields '/' front ++ [""] := by
        have happend : front ++ "/" = front ++ "/" ++ "" := by rw [String.append_empty]
        rw [happend, Text.fields_append]
        rfl
      rw [hfront, Text.fields_append, hempty, Path.names_append, Path.names_append]
      simp [Path.names, IsName]
  · rw [Text.fields_append, Path.names_append]

/-- A rooted spelling that is continued is rooted. -/
theorem ofChars_continued {text rest : String} (htext : text.toList.head? ≠ some '/')
    (hrest : rest.toList.head? ≠ some '/') :
    Anchor.ofChars (continued ("/" ++ text) rest).toList = .root := by
  have hslash : "/".toList = ['/'] := by decide
  have habsolute : isAbsolute rest = false := by simpa [isAbsolute] using hrest
  have happend : ∀ more : String, (text = "" → more.toList.head? ≠ some '/') →
      Anchor.ofChars ("/" ++ text ++ more).toList = .root := by
    intro more hmore
    rw [String.toList_append, String.toList_append, hslash, List.append_assoc,
      List.singleton_append]
    refine Anchor.ofChars_rooted ?_
    rw [List.head?_append]
    cases hhead : text.toList.head? with
    | some c => rw [hhead] at htext; simpa using htext
    | none =>
      rw [List.head?_eq_none_iff, String.toList_eq_nil_iff] at hhead
      simpa using hmore hhead
  rw [continued, if_neg (by simp [habsolute])]
  split
  · exact happend rest fun _ => hrest
  · rename_i hend
    rw [String.append_assoc]
    refine happend _ fun hempty => absurd (Or.inr ?_) hend
    rw [hempty]
    decide

/-- **The absolute path that a trail spells.** -/
theorem absolutePath_text (caller : Caller) (trail : Trail)
    (hnames : ∀ name ∈ trail.names, IsName name) :
    (absolutePath caller trail.text).anchor = .root ∧
      (absolutePath caller trail.text).parts
        = Path.names (lexical (above caller trail ++ trail.names.reverse)) := by
  have hreverse : ∀ name ∈ trail.names.reverse, IsName name :=
    fun name hname => hnames name (List.mem_reverse.1 hname)
  have hhead := head?_toList_joined hreverse
  have hfields := Path.names_fields_joined hreverse
  have habove := Path.isName (Location.toPath caller.workingDirectory)
  rw [absolutePath, Trail.text, above]
  simp only
  cases trail.absolute with
  | true =>
    have habsolute : isAbsolute ("/" ++ Text.joined '/' trail.names.reverse) = true := by
      simp [isAbsolute]
    obtain ⟨hanchor, hparts⟩ := ofText_rooted hhead
    rw [if_pos rfl, if_pos rfl, continued, if_pos habsolute, hanchor, hparts, hfields]
    exact ⟨rfl, rfl⟩
  | false =>
    have htext : (Location.toPath caller.workingDirectory).text
        = "/" ++ Text.joined '/' (Location.toPath caller.workingDirectory).parts := by
      rw [Path.text, if_neg (by simp [Location.toPath])]
      rfl
    have habsolute : isAbsolute (Text.joined '/' trail.names.reverse) = false := by
      simpa [isAbsolute] using hhead
    obtain ⟨-, hparts⟩ := ofText_rooted (head?_toList_joined habove)
    rw [if_neg (by simp), if_neg (by simp), String.empty_append, htext]
    refine ⟨ofChars_continued (head?_toList_joined habove) hhead, ?_⟩
    rw [Path.ofText_parts] at hparts
    rw [Path.ofText_parts, names_fields_continued habsolute, hfields, hparts,
      Path.names_fields_joined habove]

theorem foldl_kept (h : ".." ∉ names) (before : List String) :
    names.foldl kept before = names.reverse ++ before := by
  induction names generalizing before with
  | nil => rfl
  | cons name rest ih =>
    rw [List.mem_cons, not_or] at h
    rw [List.foldl_cons, kept, if_neg (Ne.symm h.1), ih h.2]
    simp

/-- Components without steps up stay behind what is before them. -/
theorem lexical_append (h : ".." ∉ names) (front : List String) :
    lexical (front ++ names) = lexical front ++ names := by
  rw [lexical, List.foldl_append, foldl_kept h, List.reverse_append, List.reverse_reverse,
    lexical]

/-! ## Canonical forms

What is left of a path without links is put behind the working directory, and its steps up are taken
away by the spelling. -/

/-- A canonical form is the absolute path of what is left once all links are followed. -/
theorem canonicalBy?_eq_ok {form : Path} (h : fs.canonicalBy? caller look path = .ok form) :
    ∃ depth outcome met, linkLimit ≤ depth ∧
      unlinked look depth [] (Trail.start ⟨false, []⟩ path.text) (Text.fields '/' path.text)
        = .ok (outcome, met) ∧ form = absolutePath caller outcome.text := by
  rw [canonicalBy?] at h
  refine ⟨linkLimit + (fs.objects.length + 1) * (caller.workingDirectory.length + 2), ?_⟩
  cases hunlinked : unlinked look
      (linkLimit + (fs.objects.length + 1) * (caller.workingDirectory.length + 2)) []
      (Trail.start ⟨false, []⟩ path.text) (Text.fields '/' path.text) with
  | error fault => rw [hunlinked] at h; simp at h
  | ok found =>
    obtain ⟨outcome, met⟩ := found
    rw [hunlinked] at h
    refine ⟨outcome, met, Nat.le_add_right _ _, rfl, ?_⟩
    simp only [ok_bind] at h
    split at h
    · split at h
      · simp at h
      · simpa using h.symm
    · simp at h
    · simpa using h.symm

/-- Two paths are compared by their canonical forms, and both have to have one. -/
theorem isWithin?_eq_ok_false {parent : Path}
    (h : fs.isWithin? caller path parent = .ok false) :
    ∃ form parentForm, fs.canonical? caller path = .ok form ∧
      fs.canonical? caller parent = .ok parentForm ∧ ¬ form.IsWithin parentForm := by
  rw [isWithin?] at h
  cases hform : fs.canonical? caller path with
  | error fault => rw [hform] at h; simp at h
  | ok form =>
    cases hparent : fs.canonical? caller parent with
    | error fault => rw [hform, hparent] at h; simp at h
    | ok parentForm =>
      rw [hform, hparent] at h
      refine ⟨form, parentForm, rfl, rfl, ?_⟩
      intro hwithin
      simp [hwithin] at h

/-! ## Where no link is met

In this case the canonical form can be told from the spelling alone, and the tests on the roots
become tests on spellings. -/

/-- The look follows the trail and reads the link that it ends at. -/
theorem linkHeld?_eq_some (h : fs.linkHeld? caller trail = some target) :
    ∃ location, fs.walk caller .itself linkLimit
        (if trail.absolute then [] else caller.workingDirectory) trail.names.reverse
        = .ok (.object location) ∧ fs.get? location = some (.link target) := by
  rw [linkHeld?] at h
  split at h
  · rename_i location hwalk
    split at h
    · rename_i found hlink
      rw [Option.some.injEq] at h
      subst h
      exact ⟨location, hwalk, hlink⟩
    · simp at h
  · simp at h

/-- Names that meet no link do not denote one. -/
theorem walk_itself_ne_link {links : Nat} {here location : Location} (hne : names ≠ [])
    (hnames : ∀ name ∈ names, IsName name ∧ name ≠ "..") (hfree : fs.LinkFree here names)
    (h : fs.walk caller .itself links here names = .ok (.object location)) :
    fs.get? location ≠ some (.link target) := by
  obtain ⟨init, last, rfl⟩ : ∃ init last, names = init ++ [last] :=
    ⟨_, _, (List.dropLast_concat_getLast hne).symm⟩
  obtain ⟨⟨hempty, hdot, -⟩, hdots⟩ := hnames last (by simp)
  have hlast : isLast [last] = false := by simp [isLast, hempty]
  obtain ⟨links', dir, hleads, hwalk⟩ := exists_leads_of_walk_append hlast h
  obtain ⟨-, rfl⟩ := hleads.straight (fun name hname => hnames name (List.mem_append_left _ hname))
    (hfree.left (List.prefix_append _ _))
  have hnolink : ∀ other, fs.get? (last :: (init.reverse ++ here)) ≠ some (.link other) := by
    intro other
    simpa using hfree (init ++ [last]) List.prefix_rfl (by simp) other
  rcases walk_cons_eq_ok hwalk with ⟨links'', here', front, hpace, hrest⟩ |
    ⟨-, -, -, -, -, -, -, heq⟩ | ⟨-, -, -, ⟨other, hother⟩, -⟩
  · cases hpace with
    | blank heq _ => exact absurd heq hempty
    | dot heq _ _ => exact absurd heq hdot
    | up heq _ _ => exact absurd heq hdots
    | down hdir hmay hobject hlink =>
      rw [List.nil_append, walk_nil, Except.ok.injEq, Reached.object.injEq] at hrest
      rw [← hrest]
      exact hnolink target
    | link _ _ hlink => exact absurd hlink (hnolink _)
  · simp at heq
  · exact absurd hother (hnolink other)

/-- A look sees no link where none is met. -/
theorem linkAt?_of_linkFree (hnames : ∀ name ∈ names, IsName name ∧ name ≠ "..")
    (hne : names ≠ []) (hfree : fs.LinkFree caller.workingDirectory names) :
    fs.linkAt? caller ⟨false, names.reverse⟩ = none := by
  rw [linkAt?]
  split
  · rfl
  · cases hheld : fs.linkHeld? caller ⟨false, names.reverse⟩ with
    | none => rfl
    | some target =>
      obtain ⟨location, hwalk, hlink⟩ := linkHeld?_eq_some hheld
      simp only [Bool.false_eq_true, if_false, List.reverse_reverse] at hwalk
      exact absurd hlink (walk_itself_ne_link hne hnames hfree hwalk)

/-- The path from the root to a place where something is goes through all the names of it. -/
theorem toPath_parts {here : Location} {object : Object} (h : fs.get? here = some object) :
    (Location.toPath here).parts = here.reverse := by
  refine Path.names_eq_self ?_
  intro name hname
  exact (isFileName_of_get? h name (List.mem_reverse.1 hname)).1

/-- What is left of a relative path that meets no link goes on from the working directory. -/
theorem absolutePath_of_linkFree {outcome : Unlinked} {met' : Met}
    (hrelative : path.anchor = .relative) (hne : path.parts ≠ []) (hdots : ".." ∉ path.parts)
    (hfree : fs.LinkFree caller.workingDirectory path.parts)
    (h : unlinked (fs.linkAt? caller) depth met (Trail.start ⟨false, []⟩ path.text)
      (Text.fields '/' path.text) = .ok (outcome, met')) :
    (absolutePath caller outcome.text).anchor = .root ∧ (absolutePath caller outcome.text).parts
      = Path.names (lexical (Location.toPath caller.workingDirectory).parts) ++ path.parts := by
  have hnames : ∀ name ∈ path.parts, IsName name ∧ name ≠ ".." :=
    fun name hname => ⟨path.isName name hname, fun heq => hdots (heq ▸ hname)⟩
  have htext := Path.text_of_relative hrelative hne
  have habsolute : isAbsolute path.text = false := by
    rw [Path.isAbsolute_text]
    simp [hrelative]
  have hfields : Text.fields '/' path.text = path.parts := by
    rw [htext, Text.fields_joined hne fun name hname => (path.isName name hname).slash_not_mem]
  rw [Trail.start, habsolute, if_neg Bool.false_ne_true, hfields] at h
  have hstraight : outcome = .done ⟨false, path.parts.reverse ++ []⟩ := by
    refine unlinked_straight hnames ?_ h
    intro first hfirst hfirstNil
    rw [List.append_nil]
    exact linkAt?_of_linkFree (fun name hname => hnames name (hfirst.subset hname)) hfirstNil
      (hfree.left hfirst)
  rw [hstraight, List.append_nil, Unlinked.text]
  obtain ⟨hanchor, hparts⟩ := absolutePath_text caller ⟨false, path.parts.reverse⟩
    (fun name hname => path.isName name (List.mem_reverse.1 hname))
  refine ⟨hanchor, ?_⟩
  rw [hparts, List.reverse_reverse, lexical_append hdots, Path.names_append,
    Path.names_eq_self path.isName, above]
  simp

/-- **The canonical form of a relative path that meets no link** goes on from the working
directory. -/
theorem canonical?_of_linkFree {form : Path} (hrelative : path.anchor = .relative)
    (hne : path.parts ≠ []) (hdots : ".." ∉ path.parts)
    (hfree : fs.LinkFree caller.workingDirectory path.parts)
    (h : fs.canonical? caller path = .ok form) :
    form.anchor = .root ∧ form.parts
      = Path.names (lexical (Location.toPath caller.workingDirectory).parts) ++ path.parts := by
  obtain ⟨depth, outcome, met, -, hunlinked, rfl⟩ := canonicalBy?_eq_ok h
  exact absolutePath_of_linkFree hrelative hne hdots hfree hunlinked

end FileSystem
end AssetPublish
