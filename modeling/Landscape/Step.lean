/-!
# Steps

A step works on a state and answers or fails (`Landscape.Step`). It leaves a state in either case: what was
done before the failure stays done. Steps follow one another until one of them fails
(`Landscape.Step.andThen`). A step on a part of a state is a step on the whole
(`Landscape.Step.within`), and a failure can be looked at instead of passed on
(`Landscape.Step.attempt`).
-/

namespace Landscape

/-- A step on states `σ`, which answers or fails with an `ε`, and leaves a state either way. -/
def Step (ε σ α : Type) : Type :=
  σ → Except ε α × σ

namespace Step

variable {ε ε' σ τ α β : Type}

/-- What a step answers from a state, and the state it leaves. -/
def run (act : Step ε σ α) (s : σ) : Except ε α × σ :=
  act s

/-- A result as a step that changes nothing. -/
def of (r : Except ε α) : Step ε σ α :=
  fun s => (r, s)

/-- One step after the other. If the first fails, the second is not done. -/
def andThen (act : Step ε σ α) (next : α → Step ε σ β) : Step ε σ β := fun s =>
  match act s with
  | (.ok a, s) => next a s
  | (.error e, s) => (.error e, s)

/-- A step, or another one if it fails. What the first did stays done. -/
def orElse (act : Step ε σ α) (other : ε → Step ε σ α) : Step ε σ α := fun s =>
  match act s with
  | (.ok a, s) => (.ok a, s)
  | (.error e, s) => other e s

instance : Monad (Step ε σ) where
  pure a := of (.ok a)
  bind := andThen

instance : MonadStateOf σ (Step ε σ) where
  get := fun s => (.ok s, s)
  set s := fun _ => (.ok (), s)
  modifyGet f := fun s => (.ok (f s).1, (f s).2)

instance : MonadExceptOf ε (Step ε σ) where
  throw e := of (.error e)
  tryCatch := orElse

/-- A step on a part of the state, done on the whole. -/
def within (get : σ → τ) (put : τ → σ → σ) (act : Step ε τ α) : Step ε σ α := fun s =>
  ((act (get s)).1, put (act (get s)).2 s)

/-- The outcome of a step, failure or not, as an answer. -/
def attempt (act : Step ε σ α) : Step ε' σ (Except ε α) := fun s =>
  (.ok (act s).1, (act s).2)

/-- A step with its failures told in other words. -/
def blame (f : ε → ε') (act : Step ε σ α) : Step ε' σ α := fun s =>
  ((act s).1.mapError f, (act s).2)

/-! ### What steps leave -/

@[simp] theorem run_of (r : Except ε α) (s : σ) : (of r : Step ε σ α).run s = (r, s) :=
  rfl

@[simp] theorem run_pure (a : α) (s : σ) : (pure a : Step ε σ α).run s = (.ok a, s) :=
  rfl

@[simp] theorem run_throw (e : ε) (s : σ) : (throw e : Step ε σ α).run s = (.error e, s) :=
  rfl

@[simp] theorem run_get (s : σ) : (get : Step ε σ σ).run s = (.ok s, s) :=
  rfl

@[simp] theorem run_set (s t : σ) : (set t : Step ε σ PUnit).run s = (.ok (), t) :=
  rfl

@[simp] theorem run_modify (f : σ → σ) (s : σ) :
    (modify f : Step ε σ PUnit).run s = (.ok (), f s) :=
  rfl

/-- A step after one that answers goes on from the state it leaves. -/
theorem run_bind_of_ok {act : Step ε σ α} {s t : σ} {a : α} (h : act.run s = (.ok a, t))
    (next : α → Step ε σ β) : (act >>= next).run s = (next a).run t := by
  show andThen act next s = next a t
  simp only [run] at h
  simp [andThen, h]

/-- Nothing is done after a step that fails. -/
theorem run_bind_of_error {act : Step ε σ α} {s t : σ} {e : ε} (h : act.run s = (.error e, t))
    (next : α → Step ε σ β) : (act >>= next).run s = (.error e, t) := by
  show andThen act next s = (.error e, t)
  simp only [run] at h
  simp [andThen, h]

@[simp] theorem run_within (get : σ → τ) (put : τ → σ → σ) (act : Step ε τ α) (s : σ) :
    (within get put act).run s = ((act.run (get s)).1, put (act.run (get s)).2 s) :=
  rfl

@[simp] theorem run_attempt (act : Step ε σ α) (s : σ) :
    (attempt act : Step ε' σ _).run s = (.ok (act.run s).1, (act.run s).2) :=
  rfl

@[simp] theorem run_blame (f : ε → ε') (act : Step ε σ α) (s : σ) :
    (blame f act).run s = ((act.run s).1.mapError f, (act.run s).2) :=
  rfl

instance : LawfulMonad (Step ε σ) := LawfulMonad.mk' (Step ε σ)
  (by
    intro α x
    funext s
    show andThen x (fun a => of (.ok (id a))) s = x s
    simp only [andThen, of]
    split <;> simp_all)
  (by intros; rfl)
  (by
    intro α β γ x f g
    funext s
    show andThen (andThen x f) g s = andThen x (fun a => andThen (f a) g) s
    simp only [andThen]
    split <;> rename_i h <;> split at h <;> simp_all)

end Step

end Landscape
