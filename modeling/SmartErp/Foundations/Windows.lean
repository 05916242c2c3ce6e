import Mathlib.Data.List.Count
import Mathlib.Order.Basic

/-!
# Bursts and gaps

Times of events, the latest one first. Once `burst` events have happened, each further one keeps a distance
of `gap` to all before it; then no window shorter than `gap` holds more than `burst` of them.
-/

namespace Foundations

def Spaced (burst gap : ℕ) : List ℕ → Prop
  | [] => True
  | t :: ts => Spaced burst gap ts ∧ (burst ≤ ts.length → ∀ t' ∈ ts, t' + gap ≤ t)

theorem Spaced.countP_le {burst gap : ℕ} (positive : 0 < burst) {times : List ℕ} (spaced : Spaced burst gap times)
    {a b : ℕ} (short : b < a + gap) : times.countP (fun t => a ≤ t ∧ t ≤ b) ≤ burst := by
  induction times with
  | nil => exact Nat.zero_le _
  | cons t ts ih =>
      obtain ⟨earlier, apart⟩ := spaced
      by_cases inside : a ≤ t ∧ t ≤ b
      · rw [List.countP_cons_of_pos (by simpa using inside)]
        rcases Nat.lt_or_ge ts.length burst with few | many
        · have all := List.countP_le_length (p := fun t => decide (a ≤ t ∧ t ≤ b)) (l := ts)
          omega
        · -- The window has closed before `t`.
          have none : ts.countP (fun t => a ≤ t ∧ t ≤ b) = 0 := by
            rw [List.countP_eq_zero]
            intro t' mem
            have distance := apart many t' mem
            simp only [decide_eq_true_eq]
            omega
          omega
      · rw [List.countP_cons_of_neg (by simpa using inside)]
        exact ih earlier

end Foundations
