import AssetPublish.Proofs.FileSystem.Clearing

/-!
# Why a path is not followed

A path that is looked up leads to an object, or the system names a reason.  The reasons are few, and
most of them mean that there is nothing; whoever asks has to be ready for the others.

The reasons matter because a question such as whether a path exists is answered with "no" for some
of them and not at all for the others.  A directory that the caller may not pass and a spelling or a
name that is too long are no answer, and a fault of that kind goes through to whoever asks.  The
statements say exactly when this happens, in terms of what following the path meets, and that a path
whose existence is known is also known to be a link or none.

## What is here

* `walk_cons_eq_error` — the reasons for which a component is not followed (`Stop`): these are
  all.
* `lookRefusals`, `find?_text_eq_error` — the refusals of a look-up.
* `walk_mono`, `readLink?_mono` — what is found is found again where more has been created.
* `Barred`, `exists?_eq_error_iff`, `isLink?_of_exists?` — when a question about a path is not
  answered.
* `walk_eq_error_of_linkFree` — on a path without links, nothing stops the caller but what is
  missing or closed.  -/

set_option autoImplicit false

namespace AssetPublish
namespace FileSystem

variable {fs fs' : FileSystem} {caller : Caller} {ending : Ending} {links : Nat}
  {here there location : Location} {name : String} {rest names : List String} {refusal : Refusal}
  {path : Path} {object : Object} {fault : Fault}

/-! ## Stops -/

/-- A stopped component stops whoever follows the path to its end. -/
theorem Stop.walk_followed (h : fs.Stop caller links here name rest refusal) :
    fs.walk caller .followed links here (name :: rest) = .error refusal := by
  cases h with
  | notDirectory hdir => exact walk_of_not_directory hdir
  | denied hname hdir hpass =>
    rw [walk_cons, hdir]
    simp [hname, hpass]
  | nameTooLong hname hpass hsize =>
    rw [walk_name hpass hname.1 hname.2.1 hname.2.2]
    simp [hsize]
  | missing hname hpass hsize hfree hrest =>
    rw [walk_name hpass hname.1 hname.2.1 hname.2.2]
    simp [Nat.not_lt.2 hsize, hfree, hrest]
  | tooManyLinks hname hpass hlink =>
    have hsize := (ne_of_get?_cons hlink).2.2.2
    rw [walk_name hpass hname.1 hname.2.1 hname.2.2]
    simp [hsize, hlink]

/-- **Where a path is not followed, one of its components stops.** -/
theorem walk_cons_eq_error (hending : ending ≠ .opened)
    (h : fs.walk caller ending links here (name :: rest) = .error refusal) :
    (∃ links' here' front, fs.Pace caller links here name links' here' front ∧
        fs.walk caller ending links' here' (front ++ rest) = .error refusal) ∨
      fs.Stop caller links here name rest refusal := by
  cases fs.turn caller ending links here name rest with
  | pace hpace hwalk => exact Or.inl ⟨_, _, _, hpace, by rw [← hwalk fs fs.le_refl, h]⟩
  | stop hstop hwalk =>
    obtain rfl := Except.error.inj (h.symm.trans hwalk)
    exact Or.inr hstop
  | slash hopened hwalk => exact absurd hopened hending
  | free _ _ _ _ _ hwalk => simp [h] at hwalk
  | itself _ _ _ _ hwalk => simp [h] at hwalk

/-- What holds of components once it holds of what is left behind each pace on them holds of all
components: a pace either follows a link, or leaves fewer components.  The refusals below are traced
to a component by this induction, which does not fit the recursion of `walk` on the list alone. -/
theorem pace_induction (fs : FileSystem) (caller : Caller)
    {motive : Nat → Location → List String → Prop}
    (nil : ∀ links here, motive links here [])
    (cons : ∀ links here name rest, (∀ links' here' front,
        fs.Pace caller links here name links' here' front → motive links' here' (front ++ rest)) →
      motive links here (name :: rest))
    (links : Nat) (here : Location) (names : List String) : motive links here names := by
  match names with
  | [] => exact nil links here
  | name :: rest =>
    refine cons links here name rest ?_
    intro links' here' front hpace
    have hless := hpace.lt_or_eq
    exact pace_induction fs caller nil cons links' here' (front ++ rest)
termination_by (links, names.length)
decreasing_by
  rcases hless with hlt | ⟨heq, hfront⟩
  · exact Prod.Lex.left _ _ hlt
  · subst heq; subst hfront
    exact Prod.Lex.right _ (by simp)

/-- What stops short of a link in last place stops also whoever follows that link. -/
theorem walk_followed_eq_error (hending : ending ≠ .opened)
    (h : fs.walk caller ending links here names = .error refusal) :
    fs.walk caller .followed links here names = .error refusal := by
  induction links, here, names using pace_induction fs caller with
  | nil links here => rw [walk_nil] at h; simp at h
  | cons links here name rest ih =>
    rcases walk_cons_eq_error hending h with ⟨links', here', front, hpace, hwalk⟩ | hstop
    · rw [walk_of_pace hpace (Or.inl rfl)]
      exact ih links' here' front hpace hwalk
    · exact hstop.walk_followed

/-! ## The refusals of a look-up -/

/-- The reasons for which a path is not followed.  The first three mean that there is nothing.  A
list and not a predicate, so that membership of a concrete reason is decided by evaluation. -/
def lookRefusals : List Refusal := [.missing, .notDirectory, .tooManyLinks, .denied, .nameTooLong]

theorem Stop.mem_lookRefusals (h : fs.Stop caller links here name rest refusal) :
    refusal ∈ lookRefusals := by
  cases h <;> decide

theorem mem_lookRefusals_of_walk
    (h : fs.walk caller .followed links here names = .error refusal) :
    refusal ∈ lookRefusals := by
  induction links, here, names using pace_induction fs caller with
  | nil links here => rw [walk_nil] at h; simp at h
  | cons links here name rest ih =>
    rcases walk_cons_eq_error (by simp) h with ⟨links', here', front, hpace, hwalk⟩ | hstop
    · exact ih links' here' front hpace hwalk
    · exact hstop.mem_lookRefusals

/-- The reasons among them that do not mean that there is nothing. -/
theorem meansAbsent_eq_false_iff (h : refusal ∈ lookRefusals) :
    refusal.meansAbsent = false ↔ refusal = .denied ∨ refusal = .nameTooLong := by
  simp only [lookRefusals, List.mem_cons, List.not_mem_nil, or_false] at h
  rcases h with rfl | rfl | rfl | rfl | rfl <;> simp [Refusal.meansAbsent]

theorem code_eq_tooManyLinks_iff (h : refusal ∈ lookRefusals) :
    refusal.code = Refusal.tooManyLinks.code ↔ refusal = .tooManyLinks := by
  simp only [lookRefusals, List.mem_cons, List.not_mem_nil, or_false] at h
  rcases h with rfl | rfl | rfl | rfl | rfl <;> simp [Refusal.code]

/-- A path is not reached because its spelling is too long, or because of one of its components. -/
theorem reach?_text_eq_error (hnull : '\x00' ∉ path.text.toList)
    (h : fs.reach? caller ending path.text = .error fault) :
    ∃ refusal, fault = .refused refusal path.text ∧
      ((spellingLimit < path.text.utf8ByteSize ∧ refusal = .nameTooLong) ∨
        (path.text.utf8ByteSize ≤ spellingLimit ∧
          fs.walk caller ending linkLimit (path.start caller) (steps path.text)
            = .error refusal)) := by
  rw [reach?, if_neg hnull, reach, checkSpelling_text, Path.startOf_text] at h
  by_cases hsize : spellingLimit < path.text.utf8ByteSize
  · rw [if_pos hsize, error_bind, mapError_error, Except.error.injEq] at h
    exact ⟨_, h.symm, Or.inl ⟨hsize, rfl⟩⟩
  · rw [if_neg hsize, ok_bind] at h
    cases hwalk : fs.walk caller ending linkLimit (path.start caller) (steps path.text) with
    | ok reached => rw [hwalk] at h; simp at h
    | error refusal =>
      rw [hwalk, mapError_error, Except.error.injEq] at h
      exact ⟨refusal, h.symm, Or.inr ⟨Nat.not_lt.1 hsize, rfl⟩⟩

theorem reach?_followed_of_itself (hnull : '\x00' ∉ path.text.toList)
    (hending : ending ≠ .opened)
    (h : fs.reach? caller ending path.text = .error (.refused refusal path.text)) :
    fs.reach? caller .followed path.text = .error (.refused refusal path.text) := by
  obtain ⟨other, hfault, hreason⟩ := reach?_text_eq_error hnull h
  obtain rfl : refusal = other := by simpa [Fault.refused] using hfault
  rw [reach?, if_neg hnull, reach, checkSpelling_text, Path.startOf_text]
  rcases hreason with ⟨hsize, rfl⟩ | ⟨hsize, hwalk⟩
  · rw [if_pos hsize]
    rfl
  · rw [if_neg (Nat.not_lt.2 hsize), ok_bind, walk_followed_eq_error hending hwalk]
    rfl

/-- **A look-up is refused for one of few reasons.** -/
theorem find?_text_eq_error (hnull : '\x00' ∉ path.text.toList) (hending : ending ≠ .opened)
    (h : fs.find? caller ending path.text = .error fault) :
    ∃ refusal ∈ lookRefusals, fault = .refused refusal path.text ∧
      (refusal.meansAbsent = false →
        fs.reach? caller ending path.text = .error (.refused refusal path.text)) := by
  rw [find?] at h
  cases hreach : fs.reach? caller ending path.text with
  | error other =>
    rw [hreach, error_bind, Except.error.injEq] at h
    subst h
    obtain ⟨refusal, rfl, hreason⟩ := reach?_text_eq_error hnull hreach
    refine ⟨refusal, ?_, rfl, fun _ => rfl⟩
    rcases hreason with ⟨-, rfl⟩ | ⟨-, hwalk⟩
    · decide
    · exact mem_lookRefusals_of_walk (walk_followed_eq_error hending hwalk)
  | ok reached =>
    rw [hreach, ok_bind] at h
    have hmissing : fault = .refused .missing path.text := by
      cases reached with
      | free dir name => simpa using h.symm
      | object place =>
        cases hget : fs.get? place with
        | none => simpa [hget] using h.symm
        | some object => simp [hget] at h
    exact ⟨.missing, by decide, hmissing, by simp [Refusal.meansAbsent]⟩

/-- Whoever may not look at an object itself may not follow the path to it either. -/
theorem follow?_eq_error_of_find? (hnull : '\x00' ∉ path.text.toList)
    (h : fs.find? caller .itself path.text = .error (.refused refusal path.text))
    (habsent : refusal.meansAbsent = false) :
    fs.follow? caller path.text = .error (.refused refusal path.text) := by
  obtain ⟨other, -, hfault, hreach⟩ := find?_text_eq_error hnull (by simp) h
  obtain rfl : refusal = other := by simpa [Fault.refused] using hfault
  rw [follow?, find?, reach?_followed_of_itself hnull (by simp) (hreach habsent), error_bind]

/-! ## Questions that are not answered -/

/-- A question about a path is not answered if the caller may not look, or if the path is too
long. -/
theorem answer?_eq_error_iff {α : Type} {test : α → Bool} {asked : Except Fault α} {text : String}
    (h : ∀ fault, asked = .error fault → ∃ refusal ∈ lookRefusals, fault = .refused refusal text) :
    answer? test asked = .error fault ↔
      ∃ refusal, (refusal = .denied ∨ refusal = .nameTooLong) ∧ fault = .refused refusal text ∧
        asked = .error (.refused refusal text) := by
  cases asked with
  | ok found => simp [answer?]
  | error other =>
    obtain ⟨refusal, hmem, rfl⟩ := h other rfl
    have hiff := meansAbsent_eq_false_iff hmem
    simp only [answer?, Fault.refused]
    cases habsent : refusal.meansAbsent with
    | true =>
      rw [habsent] at hiff
      simp only [if_true, reduceCtorEq, false_iff]
      rintro ⟨reason, hreason, -, heq⟩
      simp only [Except.error.injEq, Fault.system.injEq, SystemError.refused.injEq] at heq
      rw [← heq.1] at hreason
      simpa using hiff.2 hreason
    | false =>
      simp only [Bool.false_eq_true, if_false, Except.error.injEq]
      constructor
      · intro heq
        exact ⟨refusal, hiff.1 habsent, heq.symm, rfl⟩
      · rintro ⟨reason, -, rfl, heq⟩
        exact heq

/-- A path that cannot be looked up: the caller may not pass a directory on it, or it is too long as
a whole or in one of its names.  Both reasons leave open whether anything is there, so that no
question about the path is answered. -/
def Barred (fs : FileSystem) (caller : Caller) (path : Path) : Prop :=
  ∃ refusal, (refusal = .denied ∨ refusal = .nameTooLong) ∧
    fs.follow? caller path.text = .error (.refused refusal path.text)

theorem exists?_eq_error_iff (hnull : '\x00' ∉ path.text.toList) :
    (∃ fault, fs.exists? caller path.text = .error fault) ↔ fs.Barred caller path := by
  have hreasons : ∀ fault, fs.follow? caller path.text = .error fault →
      ∃ refusal ∈ lookRefusals, fault = .refused refusal path.text := by
    intro fault hfault
    obtain ⟨refusal, hmem, heq, -⟩ := find?_text_eq_error hnull (by simp) hfault
    exact ⟨refusal, hmem, heq⟩
  constructor
  · rintro ⟨fault, hfault⟩
    obtain ⟨refusal, hrefusal, -, hfollow⟩ := (answer?_eq_error_iff hreasons).1 hfault
    exact ⟨refusal, hrefusal, hfollow⟩
  · rintro ⟨refusal, hrefusal, hfollow⟩
    exact ⟨_, (answer?_eq_error_iff hreasons).2 ⟨refusal, hrefusal, rfl, hfollow⟩⟩

/-- Where it is known whether a path leads to an object, it is known whether it is a link. -/
theorem isLink?_of_exists? (hnull : '\x00' ∉ path.text.toList)
    (h : fs.exists? caller path.text = .ok false) :
    ∃ answer, fs.isLink? caller path.text = .ok answer := by
  cases hlink : fs.isLink? caller path.text with
  | ok answer => exact ⟨answer, rfl⟩
  | error fault =>
    rw [isLink?, inspect?] at hlink
    cases hfind : fs.find? caller .itself path.text with
    | ok found => simp [hfind, Except.map, answer?] at hlink
    | error other =>
      obtain ⟨refusal, hmem, rfl, -⟩ := find?_text_eq_error hnull (by simp) hfind
      have hasked : answer? Object.isLink (Except.error (.refused refusal path.text))
          = .error fault := by rw [← hlink, hfind]; rfl
      cases habsent : refusal.meansAbsent with
      | true => simp [answer?, Fault.refused, habsent] at hasked
      | false =>
        have hfollow := follow?_eq_error_of_find? hnull hfind habsent
        rw [exists?, hfollow] at h
        simp [answer?, Fault.refused, habsent] at h

/-! ## Looking again -/

/-- What is reached is reached again where more has been created. -/
theorem walk_mono (hle : fs ≤ fs')
    (h : fs.walk caller ending links here names = .ok (.object there)) :
    fs'.walk caller ending links here names = .ok (.object there) := by
  induction links, here, names using pace_induction fs caller with
  | nil links here => rw [walk_nil] at h ⊢; exact h
  | cons links here name rest ih =>
    cases fs.turn caller ending links here name rest with
    | pace hpace hwalk =>
      rw [hwalk fs' hle]
      exact ih _ _ _ hpace (by rw [← hwalk fs fs.le_refl, h])
    | stop hstop hwalk => simp [h] at hwalk
    | slash hopened hwalk => simp [h] at hwalk
    | free _ _ _ _ _ hwalk => simp [h] at hwalk
    | itself hrest hitself hpass hlink hwalk =>
      obtain ⟨mode, hdir, hmay⟩ := hpass
      subst hrest
      subst hitself
      rw [← h, hwalk]
      exact walk_singleton_of_some ⟨mode, hle _ _ hdir, hmay⟩ (hle _ _ hlink) (Or.inl rfl)

theorem find?_mono (hle : fs ≤ fs')
    (h : fs.find? caller ending path.text = .ok (location, object)) :
    fs'.find? caller ending path.text = .ok (location, object) := by
  obtain ⟨hspell, hwalk, hget⟩ := find?_text_eq_ok_iff.1 h
  exact find?_text_eq_ok_iff.2 ⟨hspell, walk_mono hle hwalk, hle _ _ hget⟩

/-- A link that is read can be read again where more has been created. -/
theorem readLink?_mono {held : String} (hle : fs ≤ fs')
    (h : fs.readLink? caller path.text = .ok held) : fs'.readLink? caller path.text = .ok held := by
  obtain ⟨location, hfind⟩ := readLink?_eq_ok_iff.1 h
  exact readLink?_eq_ok_iff.2 ⟨location, find?_mono hle hfind⟩

/-! ## Paths without links -/

/-- **On a path without links nothing stops the caller but what is missing**, or a directory that
is closed to one whom permission bits bind. -/
theorem walk_eq_error_of_linkFree (hnames : ∀ name ∈ names, IsFileName name)
    (hfree : fs.LinkFree here names)
    (h : fs.walk caller .followed links here names = .error refusal) :
    refusal = .missing ∨ refusal = .notDirectory ∨
      (refusal = .denied ∧ caller.privileged = false) := by
  induction names generalizing here with
  | nil => rw [walk_nil] at h; simp at h
  | cons name rest ih =>
    obtain ⟨⟨hempty, hdot, -⟩, hdots, -, hsize⟩ := hnames name List.mem_cons_self
    rcases walk_cons_eq_error (by simp) h with ⟨links', here', front, hpace, hwalk⟩ | hstop
    · cases hpace with
      | blank heq _ => exact absurd heq hempty
      | dot heq _ _ => exact absurd heq hdot
      | up heq _ _ => exact absurd heq hdots
      | down _ _ _ _ =>
        exact ih (fun other hother => hnames other (List.mem_cons_of_mem _ hother)) hfree.tail hwalk
      | link _ _ hlink => exact absurd hlink (hfree.head _)
    · cases hstop with
      | notDirectory _ => exact Or.inr (Or.inl rfl)
      | denied _ _ hpass =>
        rw [Caller.mayPass, Caller.may, Bool.or_eq_false_iff] at hpass
        exact Or.inr (Or.inr ⟨rfl, hpass.1⟩)
      | nameTooLong _ _ hlong => exact absurd hsize (Nat.not_le.2 hlong)
      | missing _ _ _ _ _ => exact Or.inl rfl
      | tooManyLinks _ _ hlink => exact absurd hlink (hfree.head _)

end FileSystem
end AssetPublish
