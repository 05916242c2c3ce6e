import SmartErp.Foundations.Quantities
import Mathlib.Algebra.Order.BigOperators.Group.List
import Mathlib.Tactic.Linarith

/-!
# Holdings and promises

A holding is a quantity on hand, part of which is reserved, both kept with `s` decimals. A movement relates
the holding before it to the holding that is kept after it.
-/

namespace Foundations

structure Holding where
  onHand : ℚ
  reserved : ℚ

def TakenBack (s : ℕ) (q r r' : ℚ) : Prop := ∃ w, Kept s w (r - q) ∧ r' = max 0 w

namespace Holding
variable (s : ℕ) (q : ℚ) (h h' : Holding)

structure Stored : Prop where
  onHand : Exact s h.onHand
  reserved : Exact s h.reserved

structure Receives : Prop where
  onHand : Kept s h'.onHand (h.onHand + q)
  reserved : h'.reserved = h.reserved

structure Holds : Prop where
  onHand : h'.onHand = h.onHand
  reserved : Kept s h'.reserved (h.reserved + q)

structure Releases : Prop where
  onHand : h'.onHand = h.onHand
  reserved : TakenBack s q h.reserved h'.reserved

structure Fulfils : Prop where
  onHand : Kept s h'.onHand (h.onHand - q)
  reserved : TakenBack s q h.reserved h'.reserved
  alike : h.reserved = h.onHand → h'.reserved = max 0 h'.onHand

structure Safe : Prop where
  nonneg : 0 ≤ h.reserved
  covered : h.reserved ≤ h.onHand

end Holding

section
variable {s : ℕ} {q r r' : ℚ}

theorem TakenBack.of_counts {p : ℕ} {a b : JsNumber} (ha : Counts p s a r) (hb : Counts p s b q) :
    TakenBack s q r (toScale s ((JsNumber.finite 0).maximum (a.minus b)).spelled) := by
  have kept := ha.kept_minus hb
  obtain ⟨d, same, -⟩ := (ha.near_plus hb.neg).1
  rw [show a.minus b = .finite d from same] at kept ⊢
  exact ⟨_, kept, toScale_maximum d⟩

theorem TakenBack.nonneg (back : TakenBack s q r r') : 0 ≤ r' := by
  obtain ⟨w, -, rfl⟩ := back
  exact le_max_left 0 w

theorem TakenBack.eq (back : TakenBack s q r r') (hr : Exact s r) (hq : Exact s q) : r' = max 0 (r - q) := by
  obtain ⟨w, kept, rfl⟩ := back
  rw [kept.eq_of_exact (hr.sub hq)]

theorem TakenBack.le (back : TakenBack s q r r') (hr : Exact s r) (held : 0 ≤ r) (nonneg : 0 ≤ q) : r' ≤ r := by
  obtain ⟨w, kept, rfl⟩ := back
  refine max_le held (kept.le_of_exact hr ?_)
  linarith [mul_nonneg nonneg (scale_pos s).le]

theorem TakenBack.ge (back : TakenBack s q r r') (hr : Exact s r) : r - roundUp s q ≤ r' := by
  obtain ⟨w, kept, rfl⟩ := back
  refine (kept.ge_of_exact (hr.sub (exact_roundUp s q)) ?_).trans (le_max_right 0 w)
  linarith [mul_le_mul_of_nonneg_right (le_roundUp s q) (scale_pos s).le]

end

namespace Holding
variable {s : ℕ} {q : ℚ} {h h' : Holding}

theorem Receives.eq (moves : Receives s q h h') (stored : h.Stored s) (hq : Exact s q) : h'.onHand = h.onHand + q :=
  moves.onHand.eq_of_exact (stored.onHand.add hq)

theorem Receives.ge (moves : Receives s (-q) h h') (stored : h.Stored s) : h.onHand - roundUp s q ≤ h'.onHand := by
  refine moves.onHand.ge_of_exact (stored.onHand.sub (exact_roundUp s q)) ?_
  linarith [mul_le_mul_of_nonneg_right (le_roundUp s q) (scale_pos s).le]

theorem Safe.receives (safe : h.Safe) (stored : h.Stored s) (moves : Receives s q h h')
    (free : (h.reserved - (h.onHand + q)) * 10 ^ s ≤ 1/4) : h'.Safe where
  nonneg := safe.nonneg.trans_eq moves.reserved.symm
  covered := moves.reserved.trans_le (moves.onHand.ge_of_exact stored.reserved free)

theorem Safe.holds (safe : h.Safe) (stored : h.Stored s) (moves : Holds s q h h') (nonneg : 0 ≤ q)
    (available : (q - (h.onHand - h.reserved)) * 10 ^ s ≤ 1/4) : h'.Safe where
  nonneg := by
    refine safe.nonneg.trans (moves.reserved.ge_of_exact stored.reserved ?_)
    linarith [mul_nonneg nonneg (scale_pos s).le]
  covered := by
    rw [moves.onHand]
    exact moves.reserved.le_of_exact stored.onHand (by linarith)

theorem Safe.releases (safe : h.Safe) (stored : h.Stored s) (moves : Releases s q h h') (nonneg : 0 ≤ q) :
    h'.Safe where
  nonneg := moves.reserved.nonneg
  covered := by
    rw [moves.onHand]
    exact (moves.reserved.le stored.reserved safe.nonneg nonneg).trans safe.covered

theorem Safe.fulfils (safe : h.Safe) (stored : h.Stored s) (moves : Fulfils s q h h')
    (enough : (q - h.onHand) * 10 ^ s ≤ 1/4) : h'.Safe where
  nonneg := moves.reserved.nonneg
  covered := by
    have left : 0 ≤ h'.onHand := moves.onHand.ge_of_exact (.zero s) (by linarith)
    rcases safe.covered.eq_or_lt with same | less
    · rw [moves.alike same, max_eq_right left]
    · obtain ⟨w, kept, eq⟩ := moves.reserved
      rw [eq]
      refine max_le left (kept.le_of_unit moves.onHand ?_)
      have unit : h.reserved + 1 / 10 ^ s ≤ h.onHand := by
        obtain ⟨m, hm⟩ := exact_iff.mp stored.reserved
        obtain ⟨n, hn⟩ := exact_iff.mp stored.onHand
        have scaled := mul_lt_mul_of_pos_right less (scale_pos s)
        rw [hm, hn] at scaled
        have whole : (m : ℚ) + 1 ≤ n := by exact_mod_cast scaled
        rw [← mul_le_mul_iff_of_pos_right (scale_pos s), add_mul, div_mul_cancel₀ _ (scale_pos s).ne', hm, hn]
        exact whole
      linarith

end Holding

/-! ## Demands -/

section Demand
variable {κ M : Type*} [DecidableEq κ] [AddCommGroup M]

def demand (k : κ) (entries : List (κ × M)) : M :=
  (entries.map fun e => if e.1 = k then e.2 else 0).sum

@[simp] theorem demand_nil (k : κ) : demand k ([] : List (κ × M)) = 0 := rfl

@[simp] theorem demand_cons (k : κ) (e : κ × M) (entries : List (κ × M)) :
    demand k (e :: entries) = (if e.1 = k then e.2 else 0) + demand k entries := rfl

theorem demand_eq_zero {k : κ} {entries : List (κ × M)} (absent : ∀ e ∈ entries, e.1 ≠ k) :
    demand k entries = 0 := by
  induction entries with
  | nil => rfl
  | cons e entries ih =>
      rw [demand_cons, if_neg (absent e List.mem_cons_self), zero_add]
      exact ih fun e mem => absent e (List.mem_cons_of_mem _ mem)

theorem demand_filter_ne_zero [DecidableEq M] (k : κ) (entries : List (κ × M)) :
    demand k (entries.filter (·.2 ≠ 0)) = demand k entries := by
  induction entries with
  | nil => rfl
  | cons e entries ih =>
      by_cases zero : e.2 = 0
      · have dropped : ((e :: entries).filter (·.2 ≠ 0)) = entries.filter (·.2 ≠ 0) :=
          List.filter_cons_of_neg (by simp [zero])
        rw [dropped, ih, demand_cons, zero, ite_self, zero_add]
      · have kept : ((e :: entries).filter (·.2 ≠ 0)) = e :: entries.filter (·.2 ≠ 0) :=
          List.filter_cons_of_pos (by simp [zero])
        rw [kept, demand_cons, demand_cons, ih]

theorem demand_le_of_nodup [LinearOrder M] {entries : List (κ × M)} {bound : κ → M}
    (nodup : (entries.map Prod.fst).Nodup) (each : ∀ e ∈ entries, e.2 ≤ bound e.1)
    (nonneg : ∀ k, 0 ≤ bound k) (k : κ) : demand k entries ≤ bound k := by
  induction entries with
  | nil => exact nonneg k
  | cons e entries ih =>
      rw [List.map_cons, List.nodup_cons] at nodup
      rw [List.forall_mem_cons] at each
      rw [demand_cons]
      split
      · rename_i here
        subst here
        rw [demand_eq_zero, add_zero]
        · exact each.1
        · intro e' mem same
          exact nodup.1 (same ▸ List.mem_map_of_mem mem)
      · rw [zero_add]
        exact ih nodup.2 each.2

theorem demand_nonneg [LinearOrder M] [IsOrderedAddMonoid M] {entries : List (κ × M)}
    (nonneg : ∀ e ∈ entries, 0 ≤ e.2) (k : κ) : 0 ≤ demand k entries := by
  apply List.sum_nonneg
  intro x mem
  obtain ⟨e, he, rfl⟩ := List.mem_map.mp mem
  split_ifs
  · exact nonneg e he
  · exact le_rfl

end Demand
end Foundations
