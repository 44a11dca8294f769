import Landscape.Proofs.Failing

/-!
# Faults that end a batch

A batch of diagrams goes on after the faults of a diagram and after nothing else
(`Landscape.Fault.isDiagram`). So what matters of an outcome is whether it is a fault of another kind
(`Landscape.Aborts`), and a sequence of steps has such an outcome if one of them has, after those before it answered
(`Landscape.aborts_bind`).
-/

namespace Landscape

/-- Whether a fault is one of a diagram, after which a batch goes on. -/
def Fault.isDiagram : Fault → Bool
  | .diagram _ => true
  | _ => false

/-- An outcome that **ends a batch**: a fault that is none of a diagram. -/
def Aborts {α : Type} (r : Except Fault α) : Prop :=
  ∃ f, r = .error f ∧ f.isDiagram = false

variable {α β : Type}

@[simp] theorem not_aborts_ok (a : α) : ¬Aborts (.ok a : Except Fault α) :=
  not_fails_ok a

@[simp] theorem aborts_error (f : Fault) : Aborts (.error f : Except Fault α) ↔ f.isDiagram = false :=
  fails_error f

/-- **One thing after the other** ends a batch if the first does, or if the second does after the first answered. -/
theorem aborts_bind {r : Except Fault α} {next : α → Except Fault β} :
    Aborts (r >>= next) ↔ Aborts r ∨ ∃ a, r = .ok a ∧ Aborts (next a) :=
  fails_bind

theorem aborts_map {r : Except Fault α} {g : α → β} : Aborts (r.map g) ↔ Aborts r :=
  fails_map

end Landscape
