import AssetPublish.Proofs.FileSystem.Canonical
import AssetPublish.Proofs.FileSystem.Circles
import Mathlib.Order.Basic

/-!
# Whether one path leads below another

Two paths that lead to objects are compared by their canonical forms.  These spell the places of the
objects in the physical tree, so that the answer is about the objects and not about how the paths
are spelled, unless a link is missed: behind a spelling that is too long for the system, freeing a
path from links takes a link for no link.

The relation between two spellings is a comparison of components and knows nothing of the tree; what
makes it a statement about the tree is that both forms are physical, that is, lists of the names
that lead to an object from the root.  The order laws and the independence of spelling then come for
nothing from those of locations.

The condition that no link is missed cannot be left out.  A look at a link asks the system, and the
system refuses a spelling of more than 4095 bytes; such a spelling arises while a path is freed from
links even where the path is short, since a link may hold a long row of steps up.  `highTree` is
such a tree.

## What is here

* `canonicalBy?_of_follow?` — a path that leads to an object has a canonical form, which spells the
  place of the object.
* `Sighted`, `Denotes` — no link is missed, and a path leads to the object at a place.
* `isWithin?_of_denotes` — the answer for two such paths.
* `within_iff_below` — the main statement, with what it means for spellings and for the order of
  places; `not_within_highTree` shows that a link can be missed.
-/

set_option autoImplicit false

namespace AssetPublish
namespace FileSystem

variable {fs : FileSystem} {caller : Caller} {path parent : Path} {here there : Location}
  {object : Object}

/-! ## Paths that lead to objects -/

/-- **A path that leads to an object has a canonical form**, and that spells the place of the
object. -/
theorem canonicalBy?_of_follow? (h : fs.follow? caller path.text = .ok (here, object)) :
    ∃ form, fs.canonicalBy? caller (fs.linkHeld? caller) path = .ok form ∧
      form.anchor = .root ∧ form.parts = here.reverse := by
  obtain ⟨links, hleads⟩ := pathLeads_of_follow? h
  obtain ⟨-, -, hobject⟩ := find?_text_eq_ok_iff.1 h
  obtain ⟨reached, before, hclear, hfreed⟩ :=
    exists_clear (Nat.le_add_right linkLimit _) (List.append_nil _).symm hleads
  rw [unlinked_nil] at hfreed
  obtain ⟨hanchor, hparts⟩ :
      (absolutePath caller reached.text).anchor = .root ∧
        (absolutePath caller reached.text).parts = here.reverse :=
    hclear.absolutePath_text [] hobject (by simp)
  have hnames : ∀ name ∈ here.reverse, IsFileName name :=
    fun name hname => isFileName_of_get? hobject name (List.mem_reverse.1 hname)
  have hnull : Text.NullFree (absolutePath caller reached.text).text :=
    Path.nullFree_text_iff.2 fun name hname => (hnames name (hparts ▸ hname)).2.2.1
  rcases canonicalBy?_of_unlinked hfreed hnull with hform | ⟨-, hloop⟩
  · exact ⟨_, hform, hanchor, hparts⟩
  · -- the form goes straight down to the object, so no link is met on it
    have hfree : fs.LinkFree [] here.reverse :=
      linkFree_of_get? (by simpa using hobject) (isLink_of_follow? h)
    exact absurd hloop (follow?_ne_tooManyLinks hanchor (hparts ▸ hnames) (hparts ▸ hfree))

/-- The canonical form of the path is what it would be if links could be looked at behind spellings
of any length.  It compares outcomes as far as there is a form: for paths that lead to an object the
other side always has one (`canonicalBy?_of_follow?`), so nothing is lost by this. -/
def Sighted (fs : FileSystem) (caller : Caller) (path : Path) : Prop :=
  (fs.canonical? caller path).toOption
    = (fs.canonicalBy? caller (fs.linkHeld? caller) path).toOption

/-- The path leads to the object at `here`, and its canonical form misses no link.  This is what the
caller of the comparison has to bring for each of its two paths; it says nothing about their
spelling, which may go through links, dots and steps up. -/
structure Denotes (fs : FileSystem) (caller : Caller) (path : Path) (here : Location) : Prop where
  leads : ∃ object, fs.follow? caller path.text = .ok (here, object)
  sighted : fs.Sighted caller path

/-- The canonical form of a path spells the place that the path denotes, from the root on. -/
theorem Denotes.exists_canonical? (h : fs.Denotes caller path here) :
    ∃ form, fs.canonical? caller path = .ok form ∧ form.anchor = .root ∧
      form.parts = here.reverse := by
  obtain ⟨object, hfollow⟩ := h.leads
  obtain ⟨form, hform, hspelled⟩ := canonicalBy?_of_follow? hfollow
  have hsighted := h.sighted
  rw [Sighted, hform] at hsighted
  cases hcanonical : fs.canonical? caller path with
  | error fault => rw [hcanonical] at hsighted; simp [Except.toOption] at hsighted
  | ok found =>
    rw [hcanonical] at hsighted
    obtain rfl : found = form := by simpa [Except.toOption] using hsighted
    exact ⟨found, rfl, hspelled⟩

/-- A path is within another one if its object is the object of the other one or lies below it. -/
theorem isWithin?_of_denotes (hpath : fs.Denotes caller path here)
    (hparent : fs.Denotes caller parent there) :
    fs.isWithin? caller path parent = .ok (decide (there <:+ here)) := by
  obtain ⟨form, hform, hanchor, hparts⟩ := hpath.exists_canonical?
  obtain ⟨parentForm, hparentForm, hparentAnchor, hparentParts⟩ := hparent.exists_canonical?
  have hiff : form.IsWithin parentForm ↔ there <:+ here := by
    rw [Path.IsWithin, hanchor, hparentAnchor, hparts, hparentParts, List.reverse_prefix]
    exact and_iff_right rfl
  rw [isWithin?, hform, hparentForm]
  simp only [ok_bind, pure_eq_ok, hiff]

/-- **Whether a path is within another one is a question about their objects.**  The answer says
whether the object of the first is that of the second or lies below it in the physical tree.  So it
does not depend on how the two are spelled, neighbours are not within each other, and on paths that
lead to objects the relation is an order of these. -/
theorem within_iff_below (hpath : fs.Denotes caller path here)
    (hparent : fs.Denotes caller parent there) :
    fs.isWithin? caller path parent = .ok (decide (there <:+ here)) ∧
    (∀ path' parent', fs.Denotes caller path' here → fs.Denotes caller parent' there →
      fs.isWithin? caller path' parent' = fs.isWithin? caller path parent) ∧
    (∀ name other dir, here = name :: dir → there = other :: dir → name ≠ other →
      fs.isWithin? caller path parent = .ok false) ∧
    fs.isWithin? caller path path = .ok true ∧
    (∀ above place, fs.Denotes caller above place → fs.isWithin? caller path parent = .ok true →
      fs.isWithin? caller parent above = .ok true → fs.isWithin? caller path above = .ok true) ∧
    (fs.isWithin? caller path parent = .ok true → fs.isWithin? caller parent path = .ok true →
      here = there) := by
  refine ⟨isWithin?_of_denotes hpath hparent, ?_, ?_, ?_, ?_, ?_⟩
  · intro path' parent' hpath' hparent'
    rw [isWithin?_of_denotes hpath hparent, isWithin?_of_denotes hpath' hparent']
  · rintro name other dir rfl rfl hne
    rw [isWithin?_of_denotes hpath hparent, decide_eq_false]
    intro hsuffix
    have hsame := hsuffix.eq_of_length (by simp)
    exact hne (List.cons.inj hsame).1.symm
  · rw [isWithin?_of_denotes hpath hpath, decide_eq_true List.suffix_rfl]
  · intro above place habove hwithin hbeyond
    rw [isWithin?_of_denotes hpath hparent, Except.ok.injEq, decide_eq_true_eq] at hwithin
    rw [isWithin?_of_denotes hparent habove, Except.ok.injEq, decide_eq_true_eq] at hbeyond
    rw [isWithin?_of_denotes hpath habove, decide_eq_true (hbeyond.trans hwithin)]
  · intro hwithin haround
    rw [isWithin?_of_denotes hpath hparent, Except.ok.injEq, decide_eq_true_eq] at hwithin
    rw [isWithin?_of_denotes hparent hpath, Except.ok.injEq, decide_eq_true_eq] at haround
    exact haround.eq_of_length (Nat.le_antisymm haround.length_le hwithin.length_le)

/-- A directory in another one, and a link to it. -/
def nestedTree : FileSystem :=
  ((empty.create [] "home" (.directory 0o755)).create ["home"] "site" (.directory 0o755)).create []
    "way" (.link "home/site/../site")

theorem within_iff_below_nestedTree :
    nestedTree.Denotes superuser (Path.ofText "way/../site") ["site", "home"] ∧
      nestedTree.Denotes superuser (Path.ofText "/home") ["home"] ∧
      nestedTree.isWithin? superuser (Path.ofText "way/../site") (Path.ofText "/home")
        = .ok true := by
  have hpath : nestedTree.Denotes superuser (Path.ofText "way/../site") ["site", "home"] :=
    ⟨⟨.directory 0o755, find?_text_eq_ok_iff.2 ⟨by decide, by decide +kernel, by decide +kernel⟩⟩,
      by unfold Sighted; decide +kernel⟩
  have hparent : nestedTree.Denotes superuser (Path.ofText "/home") ["home"] :=
    ⟨⟨.directory 0o755, find?_text_eq_ok_iff.2 ⟨by decide, by decide +kernel, by decide +kernel⟩⟩,
      by unfold Sighted; decide +kernel⟩
  exact ⟨hpath, hparent, (within_iff_below hpath hparent).1⟩

/-! ## A link that is missed -/

/-- So many steps up, and one more. -/
def climb (times : Nat) : Path :=
  ⟨.relative, List.replicate (times + 1) "..", fun part hpart => by
    rw [List.eq_of_mem_replicate hpart]
    decide⟩

/-- A directory, a link to it, and a link that leads up again and again.  The steps up of the link
are more than the root has levels, so they lead to the root itself; but written out they are longer
than a spelling may be. -/
def highTree (times : Nat) : FileSystem :=
  ((empty.create [] "up" (.link (climb times).text)).create [] "d" (.directory 0o755)).create [] "l"
    (.link "d")

section Climbing

variable (times : Nat)

theorem text_climb : (climb times).text = Text.joined '/' (List.replicate (times + 1) "..") :=
  Path.text_of_relative rfl (by simp [climb])

/-- The spelling grows by three bytes with each step up. -/
theorem size_climb : (climb times).text.utf8ByteSize = 3 * times + 2 := by
  rw [text_climb]
  induction times with
  | zero => decide
  | succ times ih =>
    have hsplit : List.replicate (times + 1 + 1) ".." = [".."] ++ List.replicate (times + 1) ".." :=
      rfl
    have hone : (Text.joined '/' [".."]).utf8ByteSize = 2 := by decide
    rw [hsplit, Text.size_joined_append (by simp) (by simp), ih, hone]
    omega

theorem get?_highTree (location : Location) :
    (highTree times).get? location
      = if location = ["l"] then some (.link "d")
        else if location = ["d"] then some (.directory 0o755)
        else if location = ["up"] then some (.link (climb times).text)
        else empty.get? location := by
  have hproper : Object.Proper (.link (climb times).text) := by
    refine ⟨by simp [Object.mode], ?_⟩
    rintro target ⟨rfl⟩
    refine ⟨text_ne_empty _, Path.nullFree_text_iff.2 fun part hpart => ?_⟩
    rw [List.eq_of_mem_replicate hpart]
    decide
  have hup : ∀ location, (empty.create [] "up" (.link (climb times).text)).get? location
      = if location = ["up"] then some (.link (climb times).text) else empty.get? location :=
    get?_create hproper (by decide) rfl rfl
  have hdir : ∀ location, ((empty.create [] "up" (.link (climb times).text)).create [] "d"
      (.directory 0o755)).get? location = if location = ["d"] then some (.directory 0o755)
        else if location = ["up"] then some (.link (climb times).text)
        else empty.get? location := by
    intro location
    rw [get?_create (by decide) (by decide) rfl (by rw [hup, if_neg (by decide)]; rfl), hup]
  rw [highTree, get?_create (by decide) (by decide) rfl
    (by rw [hdir, if_neg (by decide), if_neg (by decide)]; rfl), hdir]

theorem get?_up : (highTree times).get? ["up"] = some (.link (climb times).text) := by
  rw [get?_highTree, if_neg (by decide), if_neg (by decide), if_pos rfl]

theorem get?_d : (highTree times).get? ["d"] = some (.directory 0o755) := by
  rw [get?_highTree, if_neg (by decide), if_pos rfl]

theorem get?_l : (highTree times).get? ["l"] = some (.link "d") := by
  rw [get?_highTree, if_pos rfl]

/-- At the root, steps up lead nowhere else. -/
theorem leads_climb (links count : Nat) :
    (highTree times).Leads superuser links [] (List.replicate count "..") links [] := by
  induction count with
  | zero => exact .done
  | succ count ih => exact .pace (.up rfl rfl rfl) ih

theorem leads_l (links : Nat) :
    (highTree times).Leads superuser (links + 1) [] ["l"] links ["d"] :=
  .pace (.link rfl rfl (get?_l times)) (.pace (.down rfl rfl (get?_d times) rfl) .done)

/-- The link behind the steps up leads to the directory. -/
theorem follow?_up_l :
    (highTree times).follow? superuser (Path.ofText "up/l").text
      = .ok (["d"], .directory 0o755) := by
  have hclimb : ∀ links, (highTree times).Pace superuser (links + 1) [] "up" links []
      (List.replicate (times + 1) "..") := by
    intro links
    have hpace : (highTree times).Pace superuser (links + 1) [] "up" links
        (if isAbsolute (climb times).text then [] else []) (steps (climb times).text) :=
      .link rfl rfl (get?_up times)
    rwa [ite_self, Path.steps_text (by simp [climb])] at hpace
  refine find?_text_eq_ok_iff.2 ⟨by decide, walk_followed_eq_object_iff.2 ⟨38, ?_⟩, get?_d times⟩
  rw [Path.steps_text (by decide)]
  exact .pace (hclimb 39) ((leads_climb times 39 (times + 1)).append (leads_l times 38))

/-- Freeing steps up from links keeps all of them. -/
theorem unlinked_climb {look : Trail → Option String} {depth : Nat} {met : Met}
    (kept count : Nat) (rest : List String) :
    unlinked look depth met ⟨false, List.replicate kept ".."⟩ (List.replicate count ".." ++ rest)
      = unlinked look depth met ⟨false, List.replicate (kept + count) ".."⟩ rest := by
  induction count generalizing kept with
  | zero => rfl
  | succ count ih =>
    have hup : Trail.up ⟨false, List.replicate kept ".."⟩
        = ⟨false, List.replicate (kept + 1) ".."⟩ := by
      cases kept with
      | zero => rfl
      | succ kept => rfl
    rw [List.replicate_succ, List.cons_append, unlinked_up, hup, ih, Nat.add_right_comm]
    rfl

/-- Behind so many steps up the link is not seen. -/
theorem linkAt?_climb (htimes : 1364 ≤ times) :
    (highTree times).linkAt? superuser ⟨false, "l" :: List.replicate (times + 1) ".."⟩ = none := by
  have hsize : (Trail.text ⟨false, "l" :: List.replicate (times + 1) ".."⟩).utf8ByteSize
      = 3 * times + 4 := by
    have hclimb := size_climb times
    rw [text_climb] at hclimb
    have hone : (Text.joined '/' ["l"]).utf8ByteSize = 1 := by decide
    rw [Trail.text, if_neg (by simp), String.empty_append, List.reverse_cons,
      List.reverse_replicate, Text.size_joined_append (by simp) (by simp), hclimb, hone]
  rw [linkAt?, if_pos]
  rw [hsize, spellingLimit]
  omega

theorem linkAt?_up :
    (highTree times).linkAt? superuser ⟨false, ["up"]⟩ = some (climb times).text := by
  have hclear : Clear (highTree times) superuser ⟨false, []⟩ [] := ⟨by simp, .done⟩
  rw [linkAt?, if_neg (by decide)]
  exact hclear.linkHeld?_link ⟨rootMode, rfl, rfl⟩ (get?_up times)

/-- The steps up are kept, and the link behind them is passed by. -/
theorem unlinked_up_l (htimes : 1364 ≤ times) (depth : Nat) :
    ∃ met, unlinked ((highTree times).linkAt? superuser) (depth + 1) [] ⟨false, []⟩ ["up", "l"]
      = .ok (.done ⟨false, "l" :: List.replicate (times + 1) ".."⟩, met) := by
  have hstart : Trail.start ⟨false, []⟩ (climb times).text = ⟨false, List.replicate 0 ".."⟩ := by
    rw [Trail.start, Path.isAbsolute_text, if_neg (by simp [climb])]
    rfl
  have hfields : Text.fields '/' (climb times).text = List.replicate (times + 1) ".." := by
    rw [text_climb, Text.fields_joined (by simp)]
    intro part hpart
    rw [List.eq_of_mem_replicate hpart]
    decide
  have hinside : unlinked ((highTree times).linkAt? superuser) depth [(⟨false, ["up"]⟩, none)]
      (Trail.start ⟨false, []⟩ (climb times).text) (Text.fields '/' (climb times).text)
        = .ok (.done ⟨false, List.replicate (times + 1) ".."⟩, [(⟨false, ["up"]⟩, none)]) := by
    rw [hstart, hfields, ← List.append_nil (List.replicate (times + 1) ".."), unlinked_climb,
      unlinked_nil, Nat.zero_add, List.append_nil]
  have hup : (highTree times).linkAt? superuser (Trail.down ⟨false, []⟩ "up")
      = some (climb times).text := linkAt?_up times
  have hl : (highTree times).linkAt? superuser
      (Trail.down ⟨false, List.replicate (times + 1) ".."⟩ "l") = none := linkAt?_climb times htimes
  have hnames : Nameable "up" ∧ Nameable "l" := by unfold Nameable; decide
  exact ⟨_, (unlinked_link hnames.1 hup List.lookup_nil hinside).trans
    ((unlinked_down hnames.2 hl).trans (unlinked_nil _ _ _ _))⟩

theorem lexical_climb (count : Nat) : lexical (List.replicate count "..") = [] := by
  have hfold : (List.replicate count "..").foldl kept [] = [] := by
    induction count with
    | zero => rfl
    | succ count ih => exact ih
  rw [lexical, hfold, List.reverse_nil]

/-- What is left leads to the link as soon as it is written out. -/
theorem absolutePath_l :
    absolutePath superuser (Trail.text ⟨false, "l" :: List.replicate (times + 1) ".."⟩)
      = Path.ofText "/l" := by
  have hnames : ∀ name ∈ "l" :: List.replicate (times + 1) "..", IsName name := by
    intro name hname
    rcases List.mem_cons.1 hname with rfl | hname
    · decide
    · rw [List.eq_of_mem_replicate hname]
      decide
  obtain ⟨hanchor, hparts⟩ := absolutePath_text superuser
    ⟨false, "l" :: List.replicate (times + 1) ".."⟩ hnames
  refine Path.ext (hanchor.trans (by decide)) (hparts.trans ?_)
  have habove : above superuser ⟨false, "l" :: List.replicate (times + 1) ".."⟩ = [] := rfl
  rw [habove, List.nil_append, List.reverse_cons, List.reverse_replicate,
    lexical_append (by decide), lexical_climb]
  decide

theorem follow?_l : (highTree times).follow? superuser (Path.ofText "/l").text
    = .ok (["d"], .directory 0o755) := by
  refine find?_text_eq_ok_iff.2 ⟨by decide, walk_followed_eq_object_iff.2 ⟨39, ?_⟩, get?_d times⟩
  rw [Path.steps_text (by decide)]
  exact leads_l times 39

/-- What is left goes through the link. -/
theorem canonical?_up_l (htimes : 1364 ≤ times) :
    (highTree times).canonical? superuser (Path.ofText "up/l") = .ok (Path.ofText "/l") := by
  have hpositive : linkLimit
      + ((highTree times).objects.length + 1) * (superuser.workingDirectory.length + 2) ≠ 0 := by
    rw [linkLimit]
    omega
  obtain ⟨depth, hdepth⟩ := Nat.exists_eq_succ_of_ne_zero hpositive
  obtain ⟨met, hfreed⟩ := unlinked_up_l times htimes depth
  have hunlinked : unlinked ((highTree times).linkAt? superuser) (linkLimit
      + ((highTree times).objects.length + 1) * (superuser.workingDirectory.length + 2)) []
      (Trail.start ⟨false, []⟩ (Path.ofText "up/l").text)
      (Text.fields '/' (Path.ofText "up/l").text)
        = .ok (.done ⟨false, "l" :: List.replicate (times + 1) ".."⟩, met) := by
    have hstart : Trail.start ⟨false, []⟩ (Path.ofText "up/l").text = ⟨false, []⟩ := by decide
    have hfields : Text.fields '/' (Path.ofText "up/l").text = ["up", "l"] := by decide
    rw [hdepth, hstart, hfields]
    exact hfreed
  rw [canonical?]
  have hform := absolutePath_l times
  rcases canonicalBy?_of_unlinked hunlinked (hform ▸ by decide) with hcanonical | ⟨-, hloop⟩
  · exact hcanonical.trans (congrArg _ hform)
  · change (highTree times).follow? superuser
      (absolutePath superuser (Trail.text _)).text = _ at hloop
    rw [hform, follow?_l] at hloop
    simp at hloop

end Climbing

/-- **A link can be missed**, so that a path is not found to be within another one that leads to the
same object. -/
theorem not_within_highTree :
    (highTree 1364).follow? superuser (Path.ofText "up/l").text = .ok (["d"], .directory 0o755) ∧
      (highTree 1364).follow? superuser (Path.ofText "d").text = .ok (["d"], .directory 0o755) ∧
      (highTree 1364).isWithin? superuser (Path.ofText "up/l") (Path.ofText "d") = .ok false := by
  have hdirectory : (highTree 1364).follow? superuser (Path.ofText "d").text
      = .ok (["d"], .directory 0o755) := by
    refine find?_text_eq_ok_iff.2
      ⟨by decide, walk_followed_eq_object_iff.2 ⟨linkLimit, ?_⟩, get?_d 1364⟩
    rw [Path.steps_text (by decide)]
    exact .pace (.down rfl rfl (get?_d 1364) rfl) .done
  refine ⟨follow?_up_l 1364, hdirectory, ?_⟩
  have hfree : (highTree 1364).LinkFree superuser.workingDirectory (Path.ofText "d").parts :=
    linkFree_of_get? (get?_d 1364) rfl
  obtain ⟨form, hform, hanchor, hparts⟩ : ∃ form,
      (highTree 1364).canonical? superuser (Path.ofText "d") = .ok form ∧ form.anchor = .root ∧
        form.parts = superuser.workingDirectory.reverse ++ (Path.ofText "d").parts :=
    exists_canonical?_of_linkFree rfl (by decide) (by decide) (by decide) hfree
  obtain rfl : form = Path.ofText "/d" :=
    Path.ext (hanchor.trans (by decide)) (hparts.trans (by decide))
  rw [isWithin?, canonical?_up_l 1364 (Nat.le_refl _), hform]
  simp only [ok_bind, pure_eq_ok, Except.ok.injEq, decide_eq_false_iff_not]
  decide

end FileSystem
end AssetPublish
