import Landscape.Fault
import Landscape.Step

/-!
# Failing in some way

Faults are told apart by what follows from them: some end a batch, some are reported as faults of a landscape or of
settings, some are reported as nothing in particular. So what matters of an outcome is often just whether it is a fault
with some property (`Landscape.Fails`), and a sequence fails so if one of its parts does, after those before it answered
(`Landscape.fails_bind`, `Landscape.Step.fails_run_bind`).
-/

namespace Landscape

variable {ε ε' α β : Type} {p : ε → Prop} {p' : ε' → Prop}

/-- An outcome that **fails in some way**: with a fault that has the property. -/
def Fails (p : ε → Prop) (r : Except ε α) : Prop :=
  ∃ e, r = .error e ∧ p e

@[simp] theorem not_fails_ok (a : α) : ¬Fails p (.ok a : Except ε α) := by
  rintro ⟨e, he, -⟩
  cases he

@[simp] theorem fails_error (e : ε) : Fails p (.error e : Except ε α) ↔ p e := by
  constructor
  · rintro ⟨e', he, h⟩
    cases he
    exact h
  · intro h
    exact ⟨e, rfl, h⟩

@[simp] theorem fails_throw (e : ε) : Fails p (throw e : Except ε α) ↔ p e :=
  fails_error e

/-- What does not fail in one way answers or fails in the other. -/
theorem ok_or_fails_iff {q : ε → Bool} {r : Except ε α} :
    (∃ a, r = .ok a) ∨ Fails (q · = true) r ↔ ¬Fails (q · = false) r := by
  cases r with
  | error e => simp
  | ok a => simp

/-- An answer does not depend on how faults are told. -/
theorem mapError_eq_ok_iff {r : Except ε α} {g : ε → ε'} {a : α} : r.mapError g = .ok a ↔ r = .ok a := by
  cases r with
  | error e => exact iff_of_false nofun nofun
  | ok b => exact ⟨fun h => congrArg _ (Except.ok.inj h), fun h => congrArg _ (Except.ok.inj h)⟩

/-- A fault that is told in other words was there before. -/
theorem mapError_eq_error_iff {r : Except ε α} {g : ε → ε'} {e' : ε'} :
    r.mapError g = .error e' ↔ ∃ e, r = .error e ∧ g e = e' := by
  cases r with
  | error e =>
    refine ⟨fun h => ⟨e, rfl, Except.error.inj h⟩, ?_⟩
    rintro ⟨_, ⟨⟩, rfl⟩
    rfl
  | ok b => exact iff_of_false nofun nofun

@[simp] theorem ok_bind (a : α) (next : α → Except ε β) : (Except.ok a >>= next) = next a :=
  rfl

@[simp] theorem error_bind (e : ε) (next : α → Except ε β) : (Except.error e >>= next) = .error e :=
  rfl

/-- One thing after the other answers if both do. -/
theorem bind_eq_ok_iff {r : Except ε α} {next : α → Except ε β} {b : β} :
    (r >>= next) = .ok b ↔ ∃ a, r = .ok a ∧ next a = .ok b := by
  cases r with
  | error e => exact iff_of_false nofun nofun
  | ok a => exact ⟨fun h => ⟨a, rfl, h⟩, fun ⟨_, ha, h⟩ => Except.ok.inj ha ▸ h⟩

/-- **One thing after the other** fails if the first does, or if the second does after the first answered. -/
theorem fails_bind {r : Except ε α} {next : α → Except ε β} :
    Fails p (r >>= next) ↔ Fails p r ∨ ∃ a, r = .ok a ∧ Fails p (next a) := by
  cases r with
  | error e => simp
  | ok a => simp

/-- One thing after the other, if the first fails in no other way, and the second whatever the first answered. -/
theorem fails_bind_of_always {q : Prop} {r : Except ε α} {next : α → Except ε β} (hr : ∀ e, r = .error e → p e)
    (hnext : ∀ a, Fails p (next a) ↔ q) : Fails p (r >>= next) ↔ Fails p r ∨ q := by
  cases r with
  | error e => simp [hr]
  | ok a => simp [hnext]

theorem fails_map {r : Except ε α} {g : α → β} : Fails p (r.map g) ↔ Fails p r := by
  cases r with
  | error e => exact (fails_error _).trans (fails_error _).symm
  | ok a => exact iff_of_false (not_fails_ok _) (not_fails_ok _)

/-- A fault that is told in other words has the property that the words have. -/
theorem fails_mapError {r : Except ε α} {g : ε → ε'} : Fails p' (r.mapError g) ↔ Fails (fun e => p' (g e)) r := by
  cases r with
  | error e => exact (fails_error (g e)).trans (fails_error (p := fun e => p' (g e)) e).symm
  | ok a => exact iff_of_false (not_fails_ok _) (not_fails_ok _)

/-- **One step after the other** fails if the first does, or if the second does from what the first leaves. -/
theorem Step.fails_run_bind {σ : Type} {act : Step ε σ α} {next : α → Step ε σ β} {s : σ} :
    Fails p ((act >>= next).run s).1 ↔
      Fails p (act.run s).1 ∨ ∃ a t, act.run s = (.ok a, t) ∧ Fails p ((next a).run t).1 := by
  rcases hrun : act.run s with ⟨e | a, t⟩
  · rw [run_bind_of_error hrun]
    simp
  · rw [run_bind_of_ok hrun]
    constructor
    · intro h
      exact .inr ⟨a, t, rfl, h⟩
    · rintro (h | ⟨_, _, ⟨⟩, h⟩)
      · exact absurd h (not_fails_ok a)
      · exact h

end Landscape
