import AssetPublish.FileSystem.Calls
import AssetPublish.Proofs.Spelling

/-!
# Following a path, component by component

`FileSystem.walk` runs through a whole path at once.  Here the same is said as a relation that is
composed of single steps, so that a path can be cut into a part that is followed first and a part
that is followed from there.

The relation counts links.  The system gives up after forty of them, so that whether a path is
followed depends on how many have been met before; the relation therefore says with how many links
left one starts and how many are left at the end, and two parts of a path can be put together only
if these numbers meet.  It holds of paths that are followed to an object.  What else a path can come
to, a refusal or a free place, is told by `Turn`, which has one case for each branch of `walk`:
everything that is proved about `walk` elsewhere goes through `Turn` or through the relation, and
does not open the definition again.

That a larger file system follows the same way (`Leads.mono`) is what carries over from one step of
a run to the next, since a run that rebuilds a tree only adds objects to it.

## What is here

* `FileSystem.Pace`, `FileSystem.Leads` — following one component, and following a list of them,
  with the number of links that can still be met.
* `Leads.unique`, `Leads.append`, `Leads.split` — where a list of components leads is settled, and
  lists of components can be put together and cut.
* `Leads.mono` — what is followed in a file system is followed in the same way in a larger one.
* `Stop`, `Turn` — why a component is not followed, and what following one component comes to.
* `walk_append`, `exists_leads_of_walk_append`, `walk_followed_eq_object_iff` — the relation says
  what `walk` does.
* `Leads.straight` — without links and steps up, the components are the way.
-/

set_option autoImplicit false

namespace AssetPublish
namespace FileSystem

/-! ## Where objects can be

A location of an object has a directory above it, and so on up to the root.  This is the invariant
of the table, read off the view. -/

/-- The location of an object by the names that lead to it, the last one apart. -/
theorem reverse_append_eq {names : List String} (hne : names ≠ []) (base : Location) :
    names.reverse ++ base = names.getLast hne :: (names.dropLast.reverse ++ base) := by
  have hsplit := congrArg List.reverse (List.dropLast_concat_getLast hne)
  rw [← hsplit, List.reverse_append, List.reverse_singleton, List.singleton_append,
    List.cons_append]

/-- An object has a proper name and lies in a directory. -/
theorem exists_of_get?_cons {fs : FileSystem} {name : String} {dir : Location} {object : Object}
    (h : fs.get? (name :: dir) = some object) :
    object.Proper ∧ IsFileName name ∧ fs.isDirectory dir = true := by
  rw [get?, if_neg (by simp)] at h
  obtain ⟨hproper, other, place, heq, hname, hdir⟩ := fs.valid.2 _ (objectAt?_mem h)
  obtain ⟨rfl, rfl⟩ := List.cons.inj heq
  exact ⟨hproper, hname, hdir⟩

theorem proper_of_get? {fs : FileSystem} {location : Location} {object : Object}
    (h : fs.get? location = some object) (hne : location ≠ []) : object.Proper := by
  obtain ⟨name, dir, rfl⟩ := List.exists_cons_of_ne_nil hne
  exact (exists_of_get?_cons h).1

/-- The path that a link holds is without the zero character. -/
theorem null_not_mem_of_get?_link {fs : FileSystem} {location : Location} {target : String}
    (h : fs.get? location = some (.link target)) : '\x00' ∉ target.toList := by
  have hne : location ≠ [] := by
    rintro rfl
    simp [get?] at h
  exact ((proper_of_get? h hne).2 target rfl).2

theorem exists_directory_of_get?_cons {fs : FileSystem} {name : String} {dir : Location}
    {object : Object} (h : fs.get? (name :: dir) = some object) :
    ∃ mode, fs.get? dir = some (.directory mode) :=
  isDirectory_iff.1 (exists_of_get?_cons h).2.2

/-- What lies below another object lies in a directory. -/
theorem exists_directory_of_get?_append {fs : FileSystem} {names : List String} {dir : Location}
    {object : Object} (hne : names ≠ []) (h : fs.get? (names ++ dir) = some object) :
    ∃ mode, fs.get? dir = some (.directory mode) := by
  induction names generalizing object with
  | nil => exact absurd rfl hne
  | cons name rest ih =>
    rw [List.cons_append] at h
    obtain ⟨mode, hdir⟩ := exists_directory_of_get?_cons h
    by_cases hrest : rest = []
    · subst hrest; exact ⟨mode, hdir⟩
    · exact ih hrest hdir

/-- Something is above wherever something is. -/
theorem exists_object_of_suffix {fs : FileSystem} {above location : Location} {object : Object}
    (habove : above <:+ location) (h : fs.get? location = some object) :
    ∃ other, fs.get? above = some other := by
  obtain ⟨names, rfl⟩ := habove
  by_cases hne : names = []
  · subst hne
    exact ⟨object, h⟩
  · obtain ⟨mode, hdir⟩ := exists_directory_of_get?_append hne h
    exact ⟨_, hdir⟩

theorem isFileName_of_get?_append {fs : FileSystem} {names : List String} {dir : Location}
    {object : Object} (h : fs.get? (names ++ dir) = some object) :
    ∀ name ∈ names, IsFileName name := by
  induction names generalizing object with
  | nil => simp
  | cons name rest ih =>
    rw [List.cons_append] at h
    obtain ⟨mode, hdir⟩ := exists_directory_of_get?_cons h
    intro other hother
    rcases List.mem_cons.1 hother with rfl | hother
    · exact (exists_of_get?_cons h).2.1
    · exact ih hdir other hother

/-- The names that lead to an object are such as objects can have. -/
theorem isFileName_of_get? {fs : FileSystem} {location : Location} {object : Object}
    (h : fs.get? location = some object) : ∀ name ∈ location, IsFileName name := by
  rw [← List.append_nil location] at h
  exact isFileName_of_get?_append h

/-! ## The order of file systems -/

/-- A file system is below another one that has all its objects and perhaps more.  This is the order
in which a run that only creates proceeds; a file system that has other permission bits somewhere is
not above the one before. -/
instance : LE FileSystem :=
  ⟨fun a b => ∀ location object, a.get? location = some object → b.get? location = some object⟩

theorem le_refl (fs : FileSystem) : fs ≤ fs := fun _ _ h => h

theorem le_trans {a b c : FileSystem} (hab : a ≤ b) (hbc : b ≤ c) : a ≤ c :=
  fun location object h => hbc location object (hab location object h)

/-! ## One component -/

/-- Following the component `name` from the location `here`, with `links` links left to follow.
What comes of it is where one is then, how many links are left, and the components that a link puts
in front of those to come.  The cases are those in which a component is followed; that the
constructors do not overlap is `Pace.unique`.  A blank component, which stands for a slash at the
end, asks for a directory but needs no permission to pass it. -/
inductive Pace (fs : FileSystem) (caller : Caller) :
    Nat → Location → String → Nat → Location → List String → Prop
  | blank {links mode : Nat} {here : Location} {name : String} (hname : name = "")
      (hdir : fs.get? here = some (.directory mode)) : Pace fs caller links here name links here []
  | dot {links mode : Nat} {here : Location} {name : String} (hname : name = ".")
      (hdir : fs.get? here = some (.directory mode)) (hpass : caller.mayPass mode = true) :
      Pace fs caller links here name links here []
  | up {links mode : Nat} {here : Location} {name : String} (hname : name = "..")
      (hdir : fs.get? here = some (.directory mode)) (hpass : caller.mayPass mode = true) :
      Pace fs caller links here name links here.tail []
  | down {links mode : Nat} {here : Location} {name : String} {object : Object}
      (hdir : fs.get? here = some (.directory mode)) (hpass : caller.mayPass mode = true)
      (hobject : fs.get? (name :: here) = some object) (hlink : object.isLink = false) :
      Pace fs caller links here name links (name :: here) []
  | link {links mode : Nat} {here : Location} {name target : String}
      (hdir : fs.get? here = some (.directory mode)) (hpass : caller.mayPass mode = true)
      (hlink : fs.get? (name :: here) = some (.link target)) :
      Pace fs caller (links + 1) here name links (if isAbsolute target then [] else here)
        (steps target)

variable {fs fs' : FileSystem} {caller : Caller} {ending : Ending} {links links' links'' : Nat}
  {here here' there there' : Location} {name : String} {front rest a b names : List String}
  {reached : Reached}

theorem Pace.mono (hle : fs ≤ fs') (h : fs.Pace caller links here name links' here' front) :
    fs'.Pace caller links here name links' here' front := by
  cases h with
  | blank hname hdir => exact .blank hname (hle _ _ hdir)
  | dot hname hdir hpass => exact .dot hname (hle _ _ hdir) hpass
  | up hname hdir hpass => exact .up hname (hle _ _ hdir) hpass
  | down hdir hpass hobject hlink => exact .down (hle _ _ hdir) hpass (hle _ _ hobject) hlink
  | link hdir hpass hlink => exact .link (hle _ _ hdir) hpass (hle _ _ hlink)

/-- Objects are not named by dots, nor by nothing. -/
theorem ne_of_get?_cons {object : Object} (h : fs.get? (name :: here) = some object) :
    name ≠ "" ∧ name ≠ "." ∧ name ≠ ".." ∧ ¬ nameLimit < name.utf8ByteSize := by
  obtain ⟨⟨hempty, hdot, -⟩, hdots, -, hsize⟩ := (exists_of_get?_cons h).2.1
  exact ⟨hempty, hdot, hdots, Nat.not_lt.2 hsize⟩

/-- One component leads to one place only.  The cases exclude each other because an object is never
named by a dot, by two dots or by nothing. -/
theorem Pace.unique {here₁ here₂ : Location} {links₁ links₂ : Nat} {front₁ front₂ : List String}
    (h₁ : fs.Pace caller links here name links₁ here₁ front₁)
    (h₂ : fs.Pace caller links here name links₂ here₂ front₂) :
    links₁ = links₂ ∧ here₁ = here₂ ∧ front₁ = front₂ := by
  cases h₁ with
  | blank hname _ =>
    cases h₂ with
    | blank _ _ => exact ⟨rfl, rfl, rfl⟩
    | dot hname' _ _ => simp [hname] at hname'
    | up hname' _ _ => simp [hname] at hname'
    | down _ _ hobject _ => exact absurd hname (ne_of_get?_cons hobject).1
    | link _ _ hlink => exact absurd hname (ne_of_get?_cons hlink).1
  | dot hname _ _ =>
    cases h₂ with
    | blank hname' _ => simp [hname] at hname'
    | dot _ _ _ => exact ⟨rfl, rfl, rfl⟩
    | up hname' _ _ => simp [hname] at hname'
    | down _ _ hobject _ => exact absurd hname (ne_of_get?_cons hobject).2.1
    | link _ _ hlink => exact absurd hname (ne_of_get?_cons hlink).2.1
  | up hname _ _ =>
    cases h₂ with
    | blank hname' _ => simp [hname] at hname'
    | dot hname' _ _ => simp [hname] at hname'
    | up _ _ _ => exact ⟨rfl, rfl, rfl⟩
    | down _ _ hobject _ => exact absurd hname (ne_of_get?_cons hobject).2.2.1
    | link _ _ hlink => exact absurd hname (ne_of_get?_cons hlink).2.2.1
  | down _ _ hobject hlink =>
    cases h₂ with
    | blank hname _ => exact absurd hname (ne_of_get?_cons hobject).1
    | dot hname _ _ => exact absurd hname (ne_of_get?_cons hobject).2.1
    | up hname _ _ => exact absurd hname (ne_of_get?_cons hobject).2.2.1
    | down _ _ _ _ => exact ⟨rfl, rfl, rfl⟩
    | link _ _ hlink' => rw [hobject] at hlink'; cases hlink'; simp [Object.isLink] at hlink
  | link _ _ hlink =>
    cases h₂ with
    | blank hname _ => exact absurd hname (ne_of_get?_cons hlink).1
    | dot hname _ _ => exact absurd hname (ne_of_get?_cons hlink).2.1
    | up hname _ _ => exact absurd hname (ne_of_get?_cons hlink).2.2.1
    | down _ _ hobject hlink' => rw [hlink] at hobject; cases hobject; simp [Object.isLink] at hlink'
    | link _ _ hlink' => rw [hlink] at hlink'; cases hlink'; exact ⟨rfl, rfl, rfl⟩

/-- A component either uses up a link or puts nothing in front of those to come.  So the pair of the
links left and the number of components left gets smaller with each pace, by which inductions along
a path go down. -/
theorem Pace.lt_or_eq (h : fs.Pace caller links here name links' here' front) :
    links' < links ∨ (links' = links ∧ front = []) := by
  cases h with
  | link => exact Or.inl (Nat.lt_succ_self _)
  | _ => exact Or.inr ⟨rfl, rfl⟩

/-! ## A list of components -/

/-- Following components from the location `here` leads to `there`, links included.  The components
that a link holds are followed before those behind it, and count among them: the relation is an
induction on the way that is really gone, not on the list that is given. -/
inductive Leads (fs : FileSystem) (caller : Caller) :
    Nat → Location → List String → Nat → Location → Prop
  | done {links : Nat} {here : Location} : Leads fs caller links here [] links here
  | pace {links links' links'' : Nat} {here here' there : Location} {name : String}
      {front rest : List String} (h : fs.Pace caller links here name links' here' front)
      (hrest : Leads fs caller links' here' (front ++ rest) links'' there) :
      Leads fs caller links here (name :: rest) links'' there

theorem Leads.mono (hle : fs ≤ fs') (h : fs.Leads caller links here names links' there) :
    fs'.Leads caller links here names links' there := by
  induction h with
  | done => exact .done
  | pace h _ ih => exact .pace (h.mono hle) ih

/-- **A list of components leads to one place only.**  By induction on one of the two ways; at each
component the other one has to make the same pace. -/
theorem Leads.unique {links₁ links₂ : Nat} {there₁ there₂ : Location}
    (h₁ : fs.Leads caller links here names links₁ there₁)
    (h₂ : fs.Leads caller links here names links₂ there₂) :
    links₁ = links₂ ∧ there₁ = there₂ := by
  induction h₁ with
  | done => cases h₂; exact ⟨rfl, rfl⟩
  | pace h _ ih =>
    cases h₂ with
    | pace h' hrest' =>
      obtain ⟨rfl, rfl, rfl⟩ := h.unique h'
      exact ih hrest'

theorem Leads.append (ha : fs.Leads caller links here a links' here')
    (hb : fs.Leads caller links' here' b links'' there) :
    fs.Leads caller links here (a ++ b) links'' there := by
  induction ha with
  | done => exact hb
  | pace h _ ih => exact .pace h (List.append_assoc _ _ _ ▸ ih hb)

theorem Leads.split (h : fs.Leads caller links here (a ++ b) links'' there) :
    ∃ links' here', fs.Leads caller links here a links' here' ∧
      fs.Leads caller links' here' b links'' there := by
  generalize hnames : a ++ b = names at h
  induction h generalizing a with
  | @done links here =>
    obtain ⟨rfl, rfl⟩ := List.append_eq_nil_iff.1 hnames
    exact ⟨links, here, .done, .done⟩
  | @pace links links' links'' here here' there name front rest h hrest ih =>
    cases a with
    | nil =>
      rw [List.nil_append] at hnames
      subst hnames
      exact ⟨links, here, .done, .pace h hrest⟩
    | cons first a =>
      rw [List.cons_append] at hnames
      obtain ⟨rfl, rfl⟩ := List.cons.inj hnames
      obtain ⟨mid, place, ha, hb⟩ := ih (a := front ++ a) (by rw [List.append_assoc])
      exact ⟨mid, place, .pace h ha, hb⟩

theorem Leads.links_le (h : fs.Leads caller links here names links' there) : links' ≤ links := by
  induction h with
  | done => exact Nat.le_refl _
  | pace h _ ih =>
    rcases h.lt_or_eq with hlt | ⟨heq, -⟩
    · omega
    · omega

/-- A component leads to something that is no link. -/
theorem Pace.exists_object (h : fs.Pace caller links here name links' here' front) :
    ∃ object, fs.get? here' = some object ∧ object.isLink = false := by
  cases h with
  | blank _ hdir => exact ⟨_, hdir, rfl⟩
  | dot _ hdir _ => exact ⟨_, hdir, rfl⟩
  | @up links mode here name _ hdir _ =>
    cases here with
    | nil => exact ⟨_, hdir, rfl⟩
    | cons first dir =>
      obtain ⟨mode, habove⟩ := exists_directory_of_get?_cons hdir
      exact ⟨_, habove, rfl⟩
  | down _ _ hobject hlink => exact ⟨_, hobject, hlink⟩
  | link hdir _ _ =>
    split
    · exact ⟨.directory rootMode, rfl, rfl⟩
    · exact ⟨_, hdir, rfl⟩

/-- Components lead to something that is no link. -/
theorem Leads.exists_object (h : fs.Leads caller links here names links' there)
    (hne : names ≠ []) : ∃ object, fs.get? there = some object ∧ object.isLink = false := by
  induction h with
  | done => exact absurd rfl hne
  | @pace links links' links'' here here' there name front rest h hrest ih =>
    by_cases hnil : front ++ rest = []
    · rw [hnil] at hrest
      cases hrest
      exact h.exists_object
    · exact ih hnil

/-- A free place leads nowhere. -/
theorem not_leads_of_free (hname : IsName name) (hdots : name ≠ "..")
    (hfree : fs.get? (name :: here) = none) :
    ¬ fs.Leads caller links here (name :: rest) links' there := by
  obtain ⟨hempty, hdot, -⟩ := hname
  intro h
  cases h with
  | pace hpace _ =>
    cases hpace with
    | blank heq _ => exact hempty heq
    | dot heq _ _ => exact hdot heq
    | up heq _ _ => exact hdots heq
    | down _ _ hobject _ => rw [hfree] at hobject; simp at hobject
    | link _ _ hlink => rw [hfree] at hlink; simp at hlink

/-! ## What following a whole path does -/

/-- A directory that the caller may follow a path through.  Passing is asked of the directory in
which a name is looked up, not of the one that is found there. -/
def Passable (fs : FileSystem) (caller : Caller) (here : Location) : Prop :=
  ∃ mode, fs.get? here = some (.directory mode) ∧ caller.mayPass mode = true

/-- Whether a component with `rest` behind it is followed like any other: all are where the whole
path is followed, and otherwise those with a name behind them.  The last name of a path is the one
place where a call can ask for a link itself, or for a place that is free; everything in front of it
is treated alike by all calls. -/
def Inner (ending : Ending) (rest : List String) : Prop := ending = .followed ∨ isLast rest = false

theorem Inner.append (h : Inner ending rest) (front : List String) :
    Inner ending (front ++ rest) := by
  rcases h with h | h
  · exact Or.inl h
  · right
    rw [isLast, List.all_append, ← isLast, ← isLast, h, Bool.and_false]

theorem inner_cons (hname : name ≠ "") (ending : Ending) (rest : List String) :
    Inner ending (name :: rest) := by
  right
  rw [isLast, List.all_cons, decide_eq_false hname, Bool.false_and]

/-- What a component does that is neither empty nor dots. -/
theorem walk_name (hpass : fs.Passable caller here) (hempty : name ≠ "") (hdot : name ≠ ".")
    (hdots : name ≠ "..") :
    fs.walk caller ending links here (name :: rest) =
      if ending = .opened && !rest.isEmpty && isLast rest then .error .isDirectory
      else if nameLimit < name.utf8ByteSize then .error .nameTooLong
      else
        match fs.get? (name :: here) with
        | none => if isLast rest then .ok (.free here name) else .error .missing
        | some (.link target) =>
          if rest.isEmpty && ending = .itself then .ok (.object (name :: here))
          else
            match links with
            | 0 => .error .tooManyLinks
            | links + 1 =>
              fs.walk caller ending links (if isAbsolute target then [] else here)
                (steps target ++ rest)
        | some _ => fs.walk caller ending links (name :: here) rest := by
  obtain ⟨mode, hdir, hmay⟩ := hpass
  rw [walk_cons, hdir]
  exact (if_neg hempty).trans ((if_neg (by simp [hmay])).trans ((if_neg hdot).trans (if_neg hdots)))

/-- No component leads on from what is no directory. -/
theorem walk_of_not_directory (hdir : fs.isDirectory here = false) :
    fs.walk caller ending links here (name :: rest) = .error .notDirectory := by
  rw [walk_cons]
  cases hget : fs.get? here with
  | none => rfl
  | some object =>
    cases object with
    | directory mode =>
      rw [isDirectory_iff.2 ⟨mode, hget⟩] at hdir
      simp at hdir
    | _ => rfl

/-- A component on the way can be taken out of what is left to follow. -/
theorem walk_of_pace (h : fs.Pace caller links here name links' here' front)
    (hrest : Inner ending rest) :
    fs.walk caller ending links here (name :: rest)
      = fs.walk caller ending links' here' (front ++ rest) := by
  have hopened : (decide (ending = .opened) && !rest.isEmpty && isLast rest) = false := by
    rcases hrest with h | h
    · subst h; rfl
    · rw [h, Bool.and_false]
  have hitself : (rest.isEmpty && decide (ending = .itself)) = false := by
    rcases hrest with h | h
    · subst h; simp
    · cases rest with
      | nil => simp [isLast] at h
      | cons => rfl
  cases h with
  | blank hname hdir => rw [walk_cons, hdir, hname]; rfl
  | dot hname hdir hpass => rw [walk_cons, hdir, hname]; simp [hpass]
  | up hname hdir hpass => rw [walk_cons, hdir, hname]; simp [hpass]
  | @down links mode here name object hdir hpass hobject hlink =>
    obtain ⟨hempty, hdot, hdots, hsize⟩ := ne_of_get?_cons hobject
    rw [walk_name ⟨mode, hdir, hpass⟩ hempty hdot hdots, hopened, if_neg Bool.false_ne_true,
      if_neg hsize, hobject]
    cases object with
    | link target => simp [Object.isLink] at hlink
    | _ => rfl
  | @link links mode here name target hdir hpass hlink =>
    obtain ⟨hempty, hdot, hdots, hsize⟩ := ne_of_get?_cons hlink
    rw [walk_name ⟨mode, hdir, hpass⟩ hempty hdot hdots, hopened, if_neg Bool.false_ne_true,
      if_neg hsize, hlink]
    simp only [hitself, Bool.false_eq_true, if_false]

/-- Why the component `name`, with `rest` behind it, is not followed from the location `here`.  The
conditions are written out, so that a refusal can be traced to what is in the tree, and the other
way round. -/
inductive Stop (fs : FileSystem) (caller : Caller) :
    Nat → Location → String → List String → Refusal → Prop
  | notDirectory {links : Nat} {here : Location} {name : String} {rest : List String}
      (hdir : fs.isDirectory here = false) : Stop fs caller links here name rest .notDirectory
  | denied {links mode : Nat} {here : Location} {name : String} {rest : List String}
      (hname : name ≠ "") (hdir : fs.get? here = some (.directory mode))
      (hpass : caller.mayPass mode = false) : Stop fs caller links here name rest .denied
  | nameTooLong {links : Nat} {here : Location} {name : String} {rest : List String}
      (hname : name ≠ "" ∧ name ≠ "." ∧ name ≠ "..") (hpass : fs.Passable caller here)
      (hsize : nameLimit < name.utf8ByteSize) : Stop fs caller links here name rest .nameTooLong
  | missing {links : Nat} {here : Location} {name : String} {rest : List String}
      (hname : name ≠ "" ∧ name ≠ "." ∧ name ≠ "..") (hpass : fs.Passable caller here)
      (hsize : name.utf8ByteSize ≤ nameLimit) (hfree : fs.get? (name :: here) = none)
      (hrest : isLast rest = false) : Stop fs caller links here name rest .missing
  | tooManyLinks {here : Location} {name target : String} {rest : List String}
      (hname : name ≠ "" ∧ name ≠ "." ∧ name ≠ "..") (hpass : fs.Passable caller here)
      (hlink : fs.get? (name :: here) = some (.link target)) :
      Stop fs caller 0 here name rest .tooManyLinks

/-- What following the component `name`, with `rest` behind it, comes to.  Each case comes with the
equation for `walk` that belongs to it, so that a proof about `walk` splits by `Turn` and rewrites,
instead of unfolding the function. -/
inductive Turn (fs : FileSystem) (caller : Caller) (ending : Ending) (links : Nat)
    (here : Location) (name : String) (rest : List String) : Prop
  /-- It is followed, and so it is in every larger file system. -/
  | pace {links' : Nat} {here' : Location} {front : List String}
      (hpace : fs.Pace caller links here name links' here' front)
      (hwalk : ∀ fs', fs ≤ fs' → fs'.walk caller ending links here (name :: rest)
        = fs'.walk caller ending links' here' (front ++ rest))
  /-- It is not followed. -/
  | stop {refusal : Refusal} (hstop : fs.Stop caller links here name rest refusal)
      (hwalk : fs.walk caller ending links here (name :: rest) = .error refusal)
  /-- There is a slash behind the name of a file that is to be opened. -/
  | slash (hopened : ending = .opened)
      (hwalk : fs.walk caller ending links here (name :: rest) = .error .isDirectory)
  /-- Nothing is there yet. -/
  | free (hlast : isLast rest = true) (hpass : fs.Passable caller here)
      (hname : name ≠ "" ∧ name ≠ "." ∧ name ≠ "..") (hsize : name.utf8ByteSize ≤ nameLimit)
      (hfree : fs.get? (name :: here) = none)
      (hwalk : fs.walk caller ending links here (name :: rest) = .ok (.free here name))
  /-- It is a link that is not to be followed. -/
  | itself {target : String} (hrest : rest = []) (hitself : ending = .itself)
      (hpass : fs.Passable caller here) (hlink : fs.get? (name :: here) = some (.link target))
      (hwalk : fs.walk caller ending links here (name :: rest) = .ok (.object (name :: here)))

theorem turn_of_name (hpass : fs.Passable caller here)
    (hname : name ≠ "" ∧ name ≠ "." ∧ name ≠ "..") (ending : Ending) (links : Nat)
    (rest : List String) : fs.Turn caller ending links here name rest := by
  obtain ⟨mode, hdir, hmay⟩ := hpass
  -- For every larger tree, as a pace is one that all of these go too.
  have hwalk : ∀ fs', fs ≤ fs' → _ := fun fs' hle =>
    @walk_name fs' caller ending links here name rest ⟨mode, hle _ _ hdir, hmay⟩ hname.1 hname.2.1
      hname.2.2
  by_cases hopened : (ending = .opened && !rest.isEmpty && isLast rest) = true
  · have hslash : (ending = .opened ∧ rest ≠ []) ∧ isLast rest = true := by
      simpa using hopened
    refine .slash hslash.1.1 ?_
    rw [hwalk fs fs.le_refl, if_pos hopened]
  by_cases hlong : nameLimit < name.utf8ByteSize
  · refine .stop (.nameTooLong hname ⟨mode, hdir, hmay⟩ hlong) ?_
    rw [hwalk fs fs.le_refl, if_neg hopened, if_pos hlong]
  have hsize := Nat.not_lt.1 hlong
  cases hobject : fs.get? (name :: here) with
  | none =>
    cases hlast : isLast rest with
    | true =>
      refine .free hlast ⟨mode, hdir, hmay⟩ hname hsize hobject ?_
      rw [hwalk fs fs.le_refl, if_neg hopened, if_neg hlong, hobject]
      simp [hlast]
    | false =>
      refine .stop (.missing hname ⟨mode, hdir, hmay⟩ hsize hobject hlast) ?_
      rw [hwalk fs fs.le_refl, if_neg hopened, if_neg hlong, hobject]
      simp [hlast]
  | some object =>
    cases object with
    | link target =>
      by_cases hitself : (rest.isEmpty && ending = .itself) = true
      · have hboth : rest = [] ∧ ending = .itself := by simpa using hitself
        refine .itself hboth.1 hboth.2 ⟨mode, hdir, hmay⟩ hobject ?_
        rw [hwalk fs fs.le_refl, if_neg hopened, if_neg hlong, hobject]
        exact if_pos hitself
      · cases links with
        | zero =>
          refine .stop (.tooManyLinks hname ⟨mode, hdir, hmay⟩ hobject) ?_
          rw [hwalk fs fs.le_refl, if_neg hopened, if_neg hlong, hobject]
          exact if_neg hitself
        | succ links =>
          refine .pace (.link hdir hmay hobject) fun fs' hle => ?_
          rw [hwalk fs' hle, if_neg hopened, if_neg hlong, hle _ _ hobject]
          exact if_neg hitself
    | _ =>
      refine .pace (.down hdir hmay hobject rfl) fun fs' hle => ?_
      rw [hwalk fs' hle, if_neg hopened, if_neg hlong, hle _ _ hobject]
      rfl

/-- **A component has one of these outcomes.** -/
theorem turn (fs : FileSystem) (caller : Caller) (ending : Ending) (links : Nat) (here : Location)
    (name : String) (rest : List String) : fs.Turn caller ending links here name rest := by
  have hoff : fs.isDirectory here = false → fs.Turn caller ending links here name rest :=
    fun hdir => .stop (.notDirectory hdir) (walk_of_not_directory hdir)
  cases hdir : fs.get? here with
  | none => exact hoff (by rw [← Bool.not_eq_true, isDirectory_iff, hdir]; simp)
  | some found =>
    cases found with
    | directory mode =>
      by_cases hempty : name = ""
      · refine .pace (.blank hempty hdir) fun fs' hle => ?_
        rw [walk_cons, hle _ _ hdir]
        simp [hempty]
      cases hpass : caller.mayPass mode with
      | false =>
        refine .stop (.denied hempty hdir hpass) ?_
        rw [walk_cons, hdir]
        simp [hempty, hpass]
      | true =>
        by_cases hdot : name = "."
        · refine .pace (.dot hdot hdir hpass) fun fs' hle => ?_
          rw [walk_cons, hle _ _ hdir]
          simp [hdot, hpass]
        by_cases hdots : name = ".."
        · refine .pace (.up hdots hdir hpass) fun fs' hle => ?_
          rw [walk_cons, hle _ _ hdir]
          simp [hdots, hpass]
        exact turn_of_name ⟨mode, hdir, hpass⟩ ⟨hempty, hdot, hdots⟩ ending links rest
    | _ => exact hoff (by rw [← Bool.not_eq_true, isDirectory_iff, hdir]; simp)

/-- **What a path can do at one component**: follow it, end at a free place, or end at a link that
is not to be followed. -/
theorem walk_cons_eq_ok (h : fs.walk caller ending links here (name :: rest) = .ok reached) :
    (∃ links' here' front, fs.Pace caller links here name links' here' front ∧
        fs.walk caller ending links' here' (front ++ rest) = .ok reached) ∨
      (isLast rest = true ∧ fs.Passable caller here ∧ name ≠ "" ∧ name ≠ "." ∧ name ≠ ".." ∧
        name.utf8ByteSize ≤ nameLimit ∧ fs.get? (name :: here) = none ∧
        reached = .free here name) ∨
      (rest = [] ∧ ending = .itself ∧ fs.Passable caller here ∧
        (∃ target, fs.get? (name :: here) = some (.link target)) ∧
        reached = .object (name :: here)) := by
  cases fs.turn caller ending links here name rest with
  | pace hpace hwalk => exact Or.inl ⟨_, _, _, hpace, by rw [← hwalk fs fs.le_refl, h]⟩
  | stop hstop hwalk => simp [h] at hwalk
  | slash hopened hwalk => simp [h] at hwalk
  | free hlast hpass hname hsize hfree hwalk =>
    exact Or.inr (Or.inl ⟨hlast, hpass, hname.1, hname.2.1, hname.2.2, hsize, hfree,
      Except.ok.inj (h.symm.trans hwalk)⟩)
  | itself hrest hitself hpass hlink hwalk =>
    exact Or.inr (Or.inr ⟨hrest, hitself, hpass, ⟨_, hlink⟩,
      Except.ok.inj (h.symm.trans hwalk)⟩)

/-- What is followed first can be taken out of what is left to follow. -/
theorem walk_append (ha : fs.Leads caller links here a links' here') (hb : Inner ending b) :
    fs.walk caller ending links here (a ++ b) = fs.walk caller ending links' here' b := by
  induction ha with
  | done => rfl
  | pace h _ ih =>
    rw [List.cons_append, walk_of_pace h (hb.append _), ← List.append_assoc]
    exact ih

/-- A path that is followed as a whole is followed up to each name on it. -/
theorem exists_leads_of_walk_append {links : Nat} {here : Location} {a b : List String}
    (hb : isLast b = false) (h : fs.walk caller ending links here (a ++ b) = .ok reached) :
    ∃ links' here', fs.Leads caller links here a links' here' ∧
      fs.walk caller ending links' here' b = .ok reached := by
  match a with
  | [] => exact ⟨links, here, .done, h⟩
  | name :: rest =>
    have hrest : isLast (rest ++ b) = false := by
      rw [isLast, List.all_append, ← isLast, ← isLast, hb, Bool.and_false]
    rw [List.cons_append] at h
    rcases walk_cons_eq_ok h with ⟨mid, place, front, hpace, hwalk⟩ | ⟨hlast, -⟩ | ⟨hnil, -⟩
    · rw [← List.append_assoc] at hwalk
      have hless := hpace.lt_or_eq
      obtain ⟨links', here', hleads, hwalk⟩ := exists_leads_of_walk_append hb hwalk
      exact ⟨links', here', .pace hpace hleads, hwalk⟩
    · rw [hrest] at hlast; simp at hlast
    · rw [hnil] at hrest; simp [isLast] at hrest
termination_by (links, a.length)
decreasing_by
  rcases hless with hlt | ⟨heq, hfront⟩
  · exact Prod.Lex.left _ _ hlt
  · subst heq; subst hfront
    exact Prod.Lex.right _ (by simp)

/-- A path leads to an object if each of its components does. -/
theorem walk_followed_eq_object_iff {links : Nat} {here there : Location} {names : List String} :
    fs.walk caller .followed links here names = .ok (.object there) ↔
      ∃ links', fs.Leads caller links here names links' there := by
  constructor
  · intro h
    match names with
    | [] =>
      rw [walk_nil] at h
      simp only [Except.ok.injEq, Reached.object.injEq] at h
      subst h
      exact ⟨links, .done⟩
    | name :: rest =>
      rcases walk_cons_eq_ok h with ⟨mid, place, front, hpace, hwalk⟩ | hfree | ⟨-, hitself, -⟩
      · have hless := hpace.lt_or_eq
        obtain ⟨links', hleads⟩ := walk_followed_eq_object_iff.1 hwalk
        exact ⟨links', .pace hpace hleads⟩
      · simp at hfree
      · simp at hitself
  · rintro ⟨links', h⟩
    have heq := walk_append (b := []) h (Or.inl rfl)
    rw [List.append_nil] at heq
    rw [heq, walk_nil]
termination_by (links, names.length)
decreasing_by
  rcases hless with hlt | ⟨heq, hfront⟩
  · exact Prod.Lex.left _ _ hlt
  · subst heq; subst hfront
    exact Prod.Lex.right _ (by simp)

/-- A name in last place leads to what is there, if that is no link or is not to be followed. -/
theorem walk_singleton_of_some {object : Object} (hpass : fs.Passable caller here)
    (hobject : fs.get? (name :: here) = some object)
    (hlink : ending = .itself ∨ object.isLink = false) :
    fs.walk caller ending links here [name] = .ok (.object (name :: here)) := by
  obtain ⟨hempty, hdot, hdots, hsize⟩ := ne_of_get?_cons hobject
  rw [walk_name hpass hempty hdot hdots, if_neg (by simp), if_neg hsize, hobject]
  cases object with
  | link target =>
    have hitself : ending = .itself := hlink.resolve_right (by simp [Object.isLink])
    simp [hitself]
  | _ => rw [walk_nil]

/-! ## The straight way down -/

/-- No link is met where components are gone down one after another.  It speaks of every beginning
of the list that is not empty, so that it holds of a longer list only if it holds of all of it, and
says nothing about the place where one starts. -/
def LinkFree (fs : FileSystem) (here : Location) (names : List String) : Prop :=
  ∀ first, first <+: names → first ≠ [] →
    ∀ target, fs.get? (first.reverse ++ here) ≠ some (.link target)

theorem LinkFree.nil : fs.LinkFree here [] :=
  fun _ hfirst hne => absurd (List.prefix_nil.1 hfirst) hne

theorem LinkFree.head (h : fs.LinkFree here (name :: rest)) (target : String) :
    fs.get? (name :: here) ≠ some (.link target) := by
  simpa using h [name] ⟨rest, rfl⟩ (by simp) target

theorem LinkFree.tail (h : fs.LinkFree here (name :: rest)) : fs.LinkFree (name :: here) rest := by
  intro first hfirst hne target
  simpa using h (name :: first) (List.cons_prefix_cons.2 ⟨rfl, hfirst⟩) (by simp) target

theorem LinkFree.left (h : fs.LinkFree here names) (ha : a <+: names) :
    fs.LinkFree here a :=
  fun first hfirst hne target => h first (hfirst.trans ha) hne target

/-- No link is met on one way, and none on another one that goes on from its end. -/
theorem LinkFree.append (ha : fs.LinkFree here a) (hb : fs.LinkFree (a.reverse ++ here) b) :
    fs.LinkFree here (a ++ b) := by
  intro first hfirst hne target
  rcases List.prefix_or_prefix_of_prefix hfirst (List.prefix_append a b) with hshort | ⟨more, rfl⟩
  · exact ha first hshort hne target
  · by_cases hmore : more = []
    · subst hmore
      rw [List.append_nil] at hne ⊢
      exact ha a List.prefix_rfl hne target
    · rw [List.reverse_append, List.append_assoc]
      exact hb more ((List.prefix_append_right_inj a).1 hfirst) hmore target

/-- What is above an object is no link. -/
theorem linkFree_of_get? {object : Object} (h : fs.get? (names.reverse ++ here) = some object)
    (hlink : object.isLink = false) : fs.LinkFree here names := by
  rintro first ⟨rest, rfl⟩ hne target hget
  rw [List.reverse_append, List.append_assoc] at h
  by_cases hrest : rest = []
  · subst hrest
    rw [List.reverse_nil, List.nil_append, hget] at h
    cases h
    simp [Object.isLink] at hlink
  · obtain ⟨mode, hdir⟩ := exists_directory_of_get?_append (by simpa using hrest) h
    rw [hget] at hdir
    simp at hdir

/-- **Without links and steps up, a list of components leads straight down.** -/
theorem Leads.straight (h : fs.Leads caller links here names links' there)
    (hnames : ∀ name ∈ names, IsName name ∧ name ≠ "..") (hfree : fs.LinkFree here names) :
    links' = links ∧ there = names.reverse ++ here := by
  induction names generalizing here with
  | nil => cases h; exact ⟨rfl, rfl⟩
  | cons name rest ih =>
    cases h with
    | pace hpace hrest =>
      have hname := hnames name List.mem_cons_self
      cases hpace with
      | blank heq _ => exact absurd heq hname.1.1
      | dot heq _ _ => exact absurd heq hname.1.2.1
      | up heq _ _ => exact absurd heq hname.2
      | down _ _ _ _ =>
        have hres := ih hrest (fun other hother => hnames other (List.mem_cons_of_mem _ hother))
          hfree.tail
        simpa using hres
      | link _ _ hlink => exact absurd hlink (hfree.head _)

theorem Leads.straight_of_get? {object : Object}
    (h : fs.Leads caller links here names links' there)
    (hobject : fs.get? (names.reverse ++ here) = some object) (hlink : object.isLink = false) :
    links' = links ∧ there = names.reverse ++ here := by
  refine h.straight ?_ (linkFree_of_get? hobject hlink)
  intro name hname
  have hfile := isFileName_of_get?_append hobject name (List.mem_reverse.2 hname)
  exact ⟨hfile.1, hfile.2.1⟩

/-- One whom permission bits do not bind, working at the root.  Concrete trees are looked at with
these eyes. -/
def superuser : Caller := ⟨[], true⟩

theorem passable_of_privileged (hcaller : caller.privileged = true) {mode : Nat}
    (hdir : fs.get? here = some (.directory mode)) : fs.Passable caller here :=
  ⟨mode, hdir, by simp [Caller.mayPass, Caller.may, hcaller]⟩

/-- The components above an object lead to it if the directories on the way can be passed. -/
theorem leads_straight {object : Object}
    (hpass : ∀ first rest, names = first ++ rest → rest ≠ [] →
      fs.Passable caller (first.reverse ++ here))
    (hobject : fs.get? (names.reverse ++ here) = some object) (hlink : object.isLink = false) :
    fs.Leads caller links here names links (names.reverse ++ here) := by
  induction names generalizing here with
  | nil => exact .done
  | cons name rest ih =>
    obtain ⟨mode, hdir, hmay⟩ := hpass [] (name :: rest) rfl (by simp)
    rw [List.reverse_nil, List.nil_append] at hdir
    rw [List.reverse_cons, List.append_assoc, List.singleton_append] at hobject ⊢
    have hhead : ∃ first, fs.get? (name :: here) = some first ∧ first.isLink = false := by
      by_cases hrest : rest = []
      · subst hrest; exact ⟨object, hobject, hlink⟩
      · obtain ⟨mode, hfirst⟩ := exists_directory_of_get?_append (by simpa using hrest) hobject
        exact ⟨_, hfirst, rfl⟩
    obtain ⟨first, hfirst, hfirstLink⟩ := hhead
    refine .pace (.down hdir hmay hfirst hfirstLink) (ih ?_ hobject)
    intro before after heq hafter
    have hres := hpass (name :: before) after (by rw [heq]; rfl) hafter
    rwa [List.reverse_cons, List.append_assoc] at hres

end FileSystem
end AssetPublish
