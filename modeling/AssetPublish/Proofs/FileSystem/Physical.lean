import AssetPublish.Proofs.FileSystem.Building
import AssetPublish.Proofs.FileSystem.Clearing

/-!
# The physical location of a path

A path has a location of its own whether or not anything is there: its links are followed, and what
is missing is gone down by name.  The last component of a path may be a link, which is then at the
path's own place and is not followed.

This is used to say where a run may change something before it is known how the run ends.  A path
that is to be created leads nowhere yet, but its place is settled by the links that are on its way;
and links are neither created nor lost on the way to the destination, so the place stays the same
while directories are created (`resolve_congr`).  For a path that is followed, `resolve` agrees with
what the system does.

## What is here

* `FileSystem.resolve` — where components lead, missing ones included.
* `FileSystem.ownPlace` — the own place of a path.
* `resolve_of_leads`, `resolve_straight` — components that are followed lead there, and so do
  components that meet no link.
* `Names.eq_ownPlace`, `Cleared.lost` — what is removed with a path lies at its own place.
-/

set_option autoImplicit false

namespace AssetPublish
namespace FileSystem

/-- Where the components `rest` lead from the location `here`: links are followed by `onward`, if
they can still be, and whatever else a component names is gone down to, be it missing or not. -/
def resolveWith (fs : FileSystem) (onward : Option (Location → List String → Location))
    (here : Location) (rest : List String) : Location :=
  match rest with
  | [] => here
  | name :: rest =>
    if name = "" ∨ name = "." then fs.resolveWith onward here rest
    else if name = ".." then fs.resolveWith onward here.tail rest
    else
      match fs.get? (name :: here) with
      | some (.link target) =>
        onward.elim (fs.resolveWith onward (name :: here) rest) fun onward =>
          onward (if isAbsolute target then [] else here) (steps target ++ rest)
      | _ => fs.resolveWith onward (name :: here) rest

/-- Where components lead from a location, at most so many links being followed.  The function
always has an answer; where the system would refuse, a name is just gone down by. -/
def resolve (fs : FileSystem) : Nat → Location → List String → Location
  | 0 => fs.resolveWith none
  | links + 1 => fs.resolveWith (some (fs.resolve links))

/-- The own place of a path: its last component in the directory to which those before it lead.
This is the place that is emptied and filled, also if a link to somewhere else stands there at
first. -/
def ownPlace (fs : FileSystem) (caller : Caller) (path : Path) : Location :=
  match path.parts.getLast? with
  | some name => name :: fs.resolve linkLimit (path.start caller) path.parts.dropLast
  | none => path.start caller

variable {fs fs' : FileSystem} {caller : Caller} {path : Path} {links links' : Nat}
  {here here' there location : Location} {name : String} {names front rest init : List String}

theorem resolve_nil (fs : FileSystem) (links : Nat) (here : Location) :
    fs.resolve links here [] = here := by
  cases links <;> rfl

theorem resolve_blank (hname : name = "" ∨ name = ".") :
    fs.resolve links here (name :: rest) = fs.resolve links here rest := by
  cases links with
  | zero => rw [resolve, resolveWith, if_pos hname]
  | succ links => rw [resolve, resolveWith, if_pos hname]

theorem resolve_up : fs.resolve links here (".." :: rest) = fs.resolve links here.tail rest := by
  cases links with
  | zero => rw [resolve, resolveWith, if_neg (by decide), if_pos rfl]
  | succ links => rw [resolve, resolveWith, if_neg (by decide), if_pos rfl]

/-- What is no link is gone down to. -/
theorem resolve_name (hname : IsName name) (hdots : name ≠ "..")
    (hlink : ∀ target, fs.get? (name :: here) ≠ some (.link target)) :
    fs.resolve links here (name :: rest) = fs.resolve links (name :: here) rest := by
  obtain ⟨hempty, hdot, -⟩ := hname
  cases links with
  | zero =>
    rw [resolve, resolveWith, if_neg (by simp [hempty, hdot]), if_neg hdots]
    split
    · rename_i target hfound
      exact absurd hfound (hlink target)
    · rfl
  | succ links =>
    rw [resolve, resolveWith, if_neg (by simp [hempty, hdot]), if_neg hdots]
    split
    · rename_i target hfound
      exact absurd hfound (hlink target)
    · rfl

theorem resolve_link {target : String} (hlink : fs.get? (name :: here) = some (.link target)) :
    fs.resolve (links + 1) here (name :: rest)
      = fs.resolve links (if isAbsolute target then [] else here) (steps target ++ rest) := by
  obtain ⟨hempty, hdot, hdots, -⟩ := ne_of_get?_cons hlink
  rw [resolve, resolveWith, if_neg (by simp [hempty, hdot]), if_neg hdots, hlink]
  rfl

theorem resolve_of_pace (h : fs.Pace caller links here name links' here' front) :
    fs.resolve links here (name :: rest) = fs.resolve links' here' (front ++ rest) := by
  cases h with
  | blank hname hdir => exact resolve_blank (Or.inl hname)
  | dot hname hdir hpass => exact resolve_blank (Or.inr hname)
  | up hname hdir hpass => rw [hname]; exact resolve_up
  | down hdir hpass hobject hlink =>
    obtain ⟨-, ⟨hname, hdots, -⟩, -⟩ := exists_of_get?_cons hobject
    refine resolve_name hname hdots ?_
    intro target htarget
    rw [hobject, Option.some.injEq] at htarget
    rw [htarget] at hlink
    simp [Object.isLink] at hlink
  | link hdir hpass hlink => exact resolve_link hlink

/-- **Components that are followed lead where they are followed to.** -/
theorem resolve_append_of_leads (h : fs.Leads caller links here names links' there) :
    fs.resolve links here (names ++ rest) = fs.resolve links' there rest := by
  induction h with
  | done => rfl
  | pace h _ ih =>
    rw [List.cons_append, resolve_of_pace h, ← List.append_assoc]
    exact ih

theorem resolve_of_leads (h : fs.Leads caller links here names links' there) :
    fs.resolve links here names = there := by
  rw [← List.append_nil names, resolve_append_of_leads h, resolve_nil]

/-- Components that meet neither a link nor a step up are gone down. -/
theorem resolve_straight (hnames : ∀ name ∈ names, IsName name ∧ name ≠ "..")
    (hfree : fs.LinkFree here names) : fs.resolve links here names = names.reverse ++ here := by
  induction names generalizing here with
  | nil => exact resolve_nil fs links here
  | cons name rest ih =>
    obtain ⟨hname, hdots⟩ := hnames name List.mem_cons_self
    rw [resolve_name hname hdots hfree.head,
      ih (fun other hother => hnames other (List.mem_cons_of_mem _ hother)) hfree.tail,
      List.reverse_cons, List.append_assoc, List.singleton_append]

theorem resolveWith_congr {onward : Option (Location → List String → Location)}
    (h : ∀ location target, fs.get? location = some (.link target) ↔
      fs'.get? location = some (.link target)) :
    fs.resolveWith onward here rest = fs'.resolveWith onward here rest := by
  induction rest generalizing here with
  | nil => rfl
  | cons name rest ih =>
    rw [resolveWith, resolveWith]
    split
    · exact ih
    split
    · exact ih
    split
    · rename_i target hlink
      rw [(h _ _).1 hlink]
      simp only [ih]
    · rename_i hnone
      split
      · rename_i target hlink
        exact absurd ((h _ _).2 hlink) (hnone target)
      · exact ih

/-- **Where components lead is settled by the links alone.** -/
theorem resolve_congr (h : ∀ location target, fs.get? location = some (.link target) ↔
    fs'.get? location = some (.link target)) (links : Nat) (here : Location) (names : List String) :
    fs.resolve links here names = fs'.resolve links here names := by
  induction links generalizing here names with
  | zero => exact resolveWith_congr h
  | succ links ih =>
    have honward : fs.resolve links = fs'.resolve links := funext fun here => funext (ih here)
    rw [resolve, resolve, honward]
    exact resolveWith_congr h

/-- Nothing is met below a free place. -/
theorem linkFree_of_free (h : fs.get? (name :: here) = none) : fs.LinkFree here (name :: rest) := by
  intro first hfirst hne target hget
  obtain ⟨head, more, rfl⟩ := List.exists_cons_of_ne_nil hne
  obtain ⟨rfl, -⟩ := List.cons_prefix_cons.1 hfirst
  rw [List.reverse_cons, List.append_assoc, List.singleton_append] at hget
  by_cases hmore : more = []
  · subst hmore
    rw [List.reverse_nil, List.nil_append, h] at hget
    simp at hget
  · obtain ⟨mode, hdir⟩ := exists_directory_of_get?_append (by simpa using hmore) hget
    rw [h] at hdir
    simp at hdir

/-! ## The own place -/

theorem ownPlace_of_parts (h : path.parts = init ++ [name]) :
    fs.ownPlace caller path = name :: fs.resolve linkLimit (path.start caller) init := by
  rw [ownPlace, h, List.getLast?_concat, List.dropLast_concat]

theorem ownPlace_congr (h : ∀ location target, fs.get? location = some (.link target) ↔
    fs'.get? location = some (.link target)) (caller : Caller) (path : Path) :
    fs.ownPlace caller path = fs'.ownPlace caller path := by
  rw [ownPlace, ownPlace]
  split
  · rw [resolve_congr h]
  · rfl

/-- What a path names is at its own place. -/
theorem Names.eq_ownPlace (h : fs.Names caller path location) :
    location = fs.ownPlace caller path := by
  obtain ⟨init, name, links, dir, hparts, -, hleads, -, rfl⟩ := h
  rw [ownPlace_of_parts hparts, resolve_of_leads hleads]

theorem not_endless (hne : path.parts ≠ []) (hdots : ".." ∉ path.parts) : ¬ Endless path := by
  rintro (hnil | ⟨init, hparts⟩)
  · exact hne hnil
  · exact hdots (by rw [hparts]; simp)

/-- **Only what lies at the own place of the path is lost** when it is removed. -/
theorem Cleared.lost (h : Cleared fs caller path fs') (hnot : ¬ Endless path) :
    Lost (fs.ownPlace caller path <:+ ·) fs fs' := by
  cases h with
  | nothing heq => rw [heq]; exact Lost.refl _ fs
  | link hnames hlink hlost =>
    obtain rfl := hnames.eq_ownPlace
    refine hlost.mono ?_
    intro location heq
    subst heq
    exact List.suffix_rfl
  | place hleads hnames hlost =>
    obtain rfl := (hnames.resolve_right hnot).eq_ownPlace
    exact hlost

end FileSystem
end AssetPublish
