import SmartErp.Foundations.Runs
import Mathlib.Algebra.BigOperators.Group.Finset.Basic
import Mathlib.Data.Fintype.Basic
import Mathlib.Logic.Function.Basic

/-!
# Interleaved calls

Any number of calls, each with a state of its own, act one step at a time on a state they share. A step
that a call is not ready for changes nothing.
-/

namespace Foundations

structure Pool (κ σ ℓ : Type*) where
  shared : σ
  calls : κ → ℓ

namespace Pool
variable {κ σ ℓ α : Type*} [DecidableEq κ] {act : α → σ → ℓ → Option (σ × ℓ)}

def next (act : α → σ → ℓ → Option (σ × ℓ)) (s : Pool κ σ ℓ) (move : κ × α) : Pool κ σ ℓ :=
  match act move.2 s.shared (s.calls move.1) with
  | none => s
  | some (shared, call) => ⟨shared, Function.update s.calls move.1 call⟩

theorem next_keeps (I : Pool κ σ ℓ → Prop) {s : Pool κ σ ℓ} {i : κ} {a : α} (init : I s)
    (keep : ∀ shared call, act a s.shared (s.calls i) = some (shared, call) →
      I ⟨shared, Function.update s.calls i call⟩) : I (next act s (i, a)) := by
  unfold next
  cases step : act a s.shared (s.calls i) with
  | none => exact init
  | some result => exact keep result.1 result.2 step

theorem update_eq_iff {calls : κ → ℓ} {i : κ} {call c : ℓ} (old : calls i ≠ c) (new : call ≠ c)
    (j : κ) : Function.update calls i call j = c ↔ calls j = c := by
  by_cases here : j = i
  · subst here
    rw [Function.update_self]
    exact iff_of_false new old
  · rw [Function.update_of_ne here]

theorem update_eq_cases {calls : κ → ℓ} {i j : κ} {call c : ℓ}
    (eq : Function.update calls i call j = c) : j = i ∧ call = c ∨ j ≠ i ∧ calls j = c := by
  by_cases here : j = i
  · subst here
    rw [Function.update_self] at eq
    exact .inl ⟨rfl, eq⟩
  · rw [Function.update_of_ne here] at eq
    exact .inr ⟨here, eq⟩

theorem sum_update [Fintype κ] {M : Type*} [AddCommMonoid M] (f : ℓ → M) {calls : κ → ℓ} {i : κ} {call : ℓ}
    {gain : M} (gains : f call = f (calls i) + gain) :
    ∑ j, f (Function.update calls i call j) = ∑ j, f (calls j) + gain := by
  rw [← Finset.add_sum_erase _ _ (Finset.mem_univ i), ← Finset.add_sum_erase _ (fun j => f (calls j)) (Finset.mem_univ i),
    Function.update_self, gains, add_right_comm]
  congr 2
  refine Finset.sum_congr rfl fun j mem => ?_
  rw [Function.update_of_ne (Finset.ne_of_mem_erase mem)]

end Pool
end Foundations
