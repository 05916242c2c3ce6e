import SmartErp.Foundations.Runs

/-!
# Isolation

Inputs belong to parties. A party is isolated from the others when it is answered as in the run in which
nobody else has done anything. Two states that are alike for a party stay alike when others move, and
answer the party alike: that is enough for whole runs.
-/

namespace Foundations

section
variable {σ ι ο δ : Type*} [DecidableEq δ] (next : σ → ι → σ) (out : σ → ι → ο) (owner : ι → δ) (d : δ)

def answers : σ → List ι → List ο
  | _, [] => []
  | s, i :: is => if owner i = d then out s i :: answers (next s i) is else answers (next s i) is

variable {next out owner d}

theorem answers_unwind {ok : σ → ι → Prop} (Alike : σ → σ → Prop)
    (others : ∀ u v i, Alike u v → ok u i → owner i ≠ d → Alike (next u i) v)
    (own : ∀ u v i, Alike u v → ok u i → owner i = d → Alike (next u i) (next v i) ∧ out u i = out v i)
    {s s' : σ} (alike : Alike s s') {is : List ι} (met : AllMet ok next s is) :
    answers next out owner d s is = answers next out owner d s' (is.filter (owner · = d)) := by
  induction is generalizing s s' with
  | nil => rfl
  | cons i is ih =>
      obtain ⟨met, rest⟩ := met
      by_cases mine : owner i = d
      · obtain ⟨alike', same⟩ := own s s' i alike met mine
        simp only [List.filter_cons, mine, decide_true, ↓reduceIte, answers, same, ih alike' rest]
      · have alike' := others s s' i alike met mine
        simp only [List.filter_cons, mine, decide_false, Bool.false_eq_true, ↓reduceIte, answers,
          ih alike' rest]

end
end Foundations
