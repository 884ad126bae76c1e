/-
Hashes that take their input piece by piece.

A hasher has a state, and every piece of the input changes it by a step.  If no step forgets
anything of the state, what two inputs share at their ends neither makes nor breaks a collision
(`collide_append_iff`): whether they collide is decided where the shared end begins.  A step that
mixes the piece into the state and multiplies the result by a unit forgets nothing if the mixing
does not (`Reversible.mul`).
-/
import Mathlib.Algebra.Group.Units.Basic

namespace ExternalPodAutoscaler.Lib

variable {σ β : Type*} {step : σ → β → σ}

/-- For every piece of the input, the state after the step determines the state before. -/
def Reversible (step : σ → β → σ) : Prop := ∀ b, Function.Injective fun s => step s b

/-- A multiplication by a unit forgets nothing. -/
lemma Reversible.mul [Monoid σ] {p : σ} (hp : IsUnit p) (h : Reversible step) :
    Reversible fun s b => step s b * p :=
  fun b _ _ heq => h b (hp.mul_left_injective heq)

/-- The state after an input determines the state before. -/
lemma Reversible.foldl_injective (h : Reversible step) (input : List β) :
    Function.Injective fun s => input.foldl step s := by
  induction input with
  | nil => exact Function.injective_id
  | cons b input ih => exact ih.comp (h b)

/-- **Shared ends.** Two inputs with a shared end collide exactly if they collide without it. -/
theorem Reversible.collide_append_iff (h : Reversible step) {s t : σ} {xs ys : List β}
    (shared : List β) :
    (xs ++ shared).foldl step s = (ys ++ shared).foldl step t ↔
      xs.foldl step s = ys.foldl step t := by
  rw [List.foldl_append, List.foldl_append]
  exact (h.foldl_injective shared).eq_iff

end ExternalPodAutoscaler.Lib
