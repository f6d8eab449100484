import AssetPublish.FileSystem.Calls

/-!
# Procedures that fail half-way

A procedure changes a state and may fail; what it has changed before stays changed.  Here a
procedure is taken apart into its steps, so that what it leaves can be told from what its steps
leave.

Two kinds of statements are made about procedures.  What they leave in any case, whether they fail
or not, is said with `Does`: a relation between the states before and after, which composes along
the procedure and so is proved step by step.  What they come to when nothing stands in their way is
said with equations for `outcome`, one for each way of putting procedures together.  Neither unfolds
the monad more than once.

## What is here

* `ok_bind`, `error_bind` — the next question is asked only after an answer.
* `mapError_ok`, `mapError_error` — what becomes of faults that are told in another way.
* `outcome` — the answer of a procedure and the state that it leaves.
* `outcome_bind_eq` — the outcome of two procedures, one after the other.
* `Does` — a change of the state that covers all that a procedure does, also when it fails.
* `exists_forM` — a loop that comes to its end.
* `outcome_ask_bind`, `outcome_change_bind` — what follows on a question and on a change.
-/

set_option autoImplicit false

namespace AssetPublish

variable {ε σ α β : Type}

/-! ## Answers that may be faults -/

@[simp] theorem ok_bind (answer : α) (next : α → Except ε β) :
    (Except.ok answer >>= next) = next answer := rfl

@[simp] theorem error_bind (fault : ε) (next : α → Except ε β) :
    (Except.error fault >>= next) = .error fault := rfl

@[simp] theorem throw_eq_error (fault : ε) : (throw fault : Except ε α) = .error fault := rfl

@[simp] theorem pure_eq_ok (answer : α) : (pure answer : Except ε α) = .ok answer := rfl

@[simp] theorem mapError_ok {δ : Type} (change : ε → δ) (answer : α) :
    (Except.ok answer : Except ε α).mapError change = .ok answer := rfl

@[simp] theorem mapError_error {δ : Type} (change : ε → δ) (fault : ε) :
    (Except.error fault : Except ε α).mapError change = .error (change fault) := rfl

/-! ## The outcome of a procedure -/

/-- The answer of a procedure, and the state that it leaves. -/
def outcome (act : ExceptT ε (StateM σ) α) (state : σ) : Except ε α × σ :=
  (ExceptT.run act).run state

variable {act : ExceptT ε (StateM σ) α} {next : α → ExceptT ε (StateM σ) β} {state left : σ}
  {fault : ε} {answer : α} {result : Except ε β}

theorem outcome_get (state : σ) :
    outcome (get : ExceptT ε (StateM σ) σ) state = (.ok state, state) := rfl

theorem outcome_modify (f : σ → σ) (state : σ) :
    outcome (modify f : ExceptT ε (StateM σ) PUnit) state = (.ok ⟨⟩, f state) := rfl

theorem outcome_bind (act : ExceptT ε (StateM σ) α) (next : α → ExceptT ε (StateM σ) β)
    (state : σ) :
    outcome (act >>= next) state =
      match outcome act state with
      | (.ok answer, left) => outcome (next answer) left
      | (.error fault, left) => (.error fault, left) := by
  change (ExceptT.run (act >>= next)).run state = _
  rw [ExceptT.run_bind, StateT.run_bind]
  change (match outcome act state with
    | (answer, left) => StateT.run (match answer with
      | .ok answer => ExceptT.run (next answer)
      | .error fault => pure (.error fault)) left) = _
  rcases outcome act state with ⟨answer | answer, left⟩ <;> rfl

theorem outcome_bind_of_ok (h : outcome act state = (.ok answer, left)) :
    outcome (act >>= next) state = outcome (next answer) left := by
  rw [outcome_bind, h]

/-- **What two procedures leave**: the first fails, or the second goes on where the first ended. -/
theorem outcome_bind_eq {state' : σ} (h : outcome (act >>= next) state = (result, state')) :
    (∃ fault, outcome act state = (.error fault, state') ∧ result = .error fault) ∨
      (∃ answer left, outcome act state = (.ok answer, left) ∧
        outcome (next answer) left = (result, state')) := by
  rw [outcome_bind] at h
  rcases hact : outcome act state with ⟨answer | answer, left⟩
  · rw [hact] at h
    obtain ⟨rfl, rfl⟩ := Prod.mk.inj h
    exact Or.inl ⟨answer, rfl, rfl⟩
  · rw [hact] at h
    exact Or.inr ⟨answer, left, rfl, h⟩

/-! ## Changes that compose -/

/-- Doing nothing is such a change, and so are two of them one after the other.  Where a relation
has these two properties, it holds of a procedure as soon as it holds of the single calls. -/
structure Composes (alters : σ → σ → Prop) : Prop where
  refl : ∀ state, alters state state
  trans : ∀ {first second third}, alters first second → alters second third → alters first third

/-- All that a procedure does, whether it fails or not, is such a change.  It speaks about the state
only and not about the answer, so a failure needs no case of its own. -/
def Does (alters : σ → σ → Prop) (act : ExceptT ε (StateM σ) α) : Prop :=
  ∀ state, alters state (outcome act state).2

variable {alters : σ → σ → Prop}

theorem Does.pure (halters : Composes alters) (answer : α) :
    Does alters (pure answer : ExceptT ε (StateM σ) α) :=
  fun state => halters.refl state

theorem Does.throw (halters : Composes alters) (fault : ε) :
    Does alters (throw fault : ExceptT ε (StateM σ) α) :=
  fun state => halters.refl state

theorem Does.bind (halters : Composes alters) (hact : Does alters act)
    (hnext : ∀ answer, Does alters (next answer)) : Does alters (act >>= next) := by
  intro state
  have hleft := hact state
  rw [outcome_bind]
  rcases hout : outcome act state with ⟨answer | answer, left⟩
  · rw [hout] at hleft
    exact hleft
  · rw [hout] at hleft
    exact halters.trans hleft (hnext answer left)

theorem Does.get_bind {next : σ → ExceptT ε (StateM σ) β}
    (hnext : ∀ seen, alters seen (outcome (next seen) seen).2) : Does alters (get >>= next) := by
  intro state
  rw [outcome_bind_of_ok (outcome_get state)]
  exact hnext state

theorem Does.forM (halters : Composes alters) {items : List β}
    {body : β → ExceptT ε (StateM σ) PUnit} (hbody : ∀ item ∈ items, Does alters (body item)) :
    Does alters (items.forM body) := by
  induction items with
  | nil => exact Does.pure halters _
  | cons item rest ih =>
    show Does alters (body item >>= fun _ => rest.forM body)
    exact (hbody item List.mem_cons_self).bind halters fun _ =>
      ih fun other hother => hbody other (List.mem_cons_of_mem _ hother)

/-- **A loop comes to its end** if every round does, and leaves what the next round needs. -/
theorem exists_forM (ready : List β → σ → Prop) {items : List β}
    {body : β → ExceptT ε (StateM σ) PUnit}
    (hround : ∀ item rest state, ready (item :: rest) state →
      ∃ left, outcome (body item) state = (.ok ⟨⟩, left) ∧ ready rest left)
    (h : ready items state) :
    ∃ left, outcome (items.forM body) state = (.ok ⟨⟩, left) ∧ ready [] left := by
  induction items generalizing state with
  | nil => exact ⟨state, rfl, h⟩
  | cons item rest ih =>
    obtain ⟨mid, hbody, hready⟩ := hround item rest state h
    obtain ⟨left, hrest, hend⟩ := ih hready
    refine ⟨left, ?_, hend⟩
    rw [show (item :: rest).forM body = body item >>= fun _ => rest.forM body from rfl,
      outcome_bind_of_ok hbody]
    exact hrest

/-- What a procedure leaves is such a change of what it finds. -/
theorem Does.of_outcome {result : Except ε α} (h : Does alters act)
    (hact : outcome act state = (result, left)) : alters state left := by
  have hstate := h state
  rw [hact] at hstate
  exact hstate

theorem Does.mono {wider : σ → σ → Prop} (h : Does alters act)
    (hwider : ∀ state left, alters state left → wider state left) : Does wider act :=
  fun state => hwider _ _ (h state)

/-! ## Questions and changes

Questions leave the state alone, and a change that is refused does too; so what follows on either
goes on from a state that is known. -/

theorem outcome_ask {question : FileSystem → Except Fault α} (fs : FileSystem) :
    outcome (Act.ask question) fs = (question fs, fs) := by
  rw [Act.ask, outcome_bind_of_ok (outcome_get fs)]
  cases question fs <;> rfl

theorem outcome_change {step : FileSystem → Except Fault FileSystem} (fs : FileSystem) :
    outcome (Act.change step) fs =
      match step fs with
      | .ok fs' => (.ok ⟨⟩, fs')
      | .error fault => (.error fault, fs) := by
  rw [Act.change, outcome_bind_of_ok (outcome_get fs)]
  cases step fs <;> rfl

/-- A change is made, or it fails and changes nothing. -/
theorem outcome_change_cases {step : FileSystem → Except Fault FileSystem} {fs fs' : FileSystem}
    {result : Except Fault PUnit} (h : outcome (Act.change step) fs = (result, fs')) :
    (result = .ok ⟨⟩ ∧ step fs = .ok fs') ∨ (fs' = fs ∧ ∃ fault, result = .error fault) := by
  rw [outcome_change] at h
  cases hstep : step fs with
  | ok left =>
    rw [hstep] at h
    obtain ⟨rfl, rfl⟩ := Prod.mk.inj h
    exact Or.inl ⟨rfl, rfl⟩
  | error fault =>
    rw [hstep] at h
    obtain ⟨rfl, rfl⟩ := Prod.mk.inj h
    exact Or.inr ⟨rfl, fault, rfl⟩

/-- What follows on a question: the question fails, or the rest goes on with its answer. -/
theorem outcome_ask_bind {question : FileSystem → Except Fault α} {fs fs' : FileSystem}
    {next : α → ExceptT Fault (StateM FileSystem) β} {result : Except Fault β}
    (h : outcome (Act.ask question >>= next) fs = (result, fs')) :
    (fs' = fs ∧ ∃ fault, result = .error fault) ∨
      (∃ answer, question fs = .ok answer ∧ outcome (next answer) fs = (result, fs')) := by
  rcases outcome_bind_eq h with ⟨fault, hask, rfl⟩ | ⟨answer, left, hask, hnext⟩
  · rw [outcome_ask] at hask
    exact Or.inl ⟨(Prod.mk.inj hask).2.symm, fault, rfl⟩
  · rw [outcome_ask] at hask
    obtain ⟨hanswer, rfl⟩ := Prod.mk.inj hask
    exact Or.inr ⟨answer, hanswer, hnext⟩

/-- What follows on a change: the change fails, or the rest goes on with what it has made. -/
theorem outcome_change_bind {step : FileSystem → Except Fault FileSystem} {fs fs' : FileSystem}
    {next : PUnit → ExceptT Fault (StateM FileSystem) β} {result : Except Fault β}
    (h : outcome (Act.change step >>= next) fs = (result, fs')) :
    (fs' = fs ∧ ∃ fault, result = .error fault) ∨
      (∃ left, step fs = .ok left ∧ outcome (next ⟨⟩) left = (result, fs')) := by
  rcases outcome_bind_eq h with ⟨fault, hchange, rfl⟩ | ⟨⟨⟩, left, hchange, hnext⟩
  · rcases outcome_change_cases hchange with ⟨hok, -⟩ | ⟨hsame, -⟩
    · simp at hok
    · exact Or.inl ⟨hsame, fault, rfl⟩
  · rcases outcome_change_cases hchange with ⟨-, hstep⟩ | ⟨-, fault, herror⟩
    · exact Or.inr ⟨left, hstep, hnext⟩
    · simp at herror

theorem Does.change {alters : FileSystem → FileSystem → Prop} (halters : Composes alters)
    {step : FileSystem → Except Fault FileSystem}
    (hstep : ∀ fs fs', step fs = .ok fs' → alters fs fs') : Does alters (Act.change step) := by
  intro fs
  rw [outcome_change]
  cases heq : step fs with
  | ok fs' => exact hstep fs fs' heq
  | error fault => exact halters.refl fs

end AssetPublish
