import Mathlib.Algebra.BigOperators.Group.List.Basic
import Mathlib.Data.List.Nodup

/-!
# Tables with a unique key

A table is the list of its rows, in the order they were inserted, no two with the same key. `save`
replaces the row with the same key in place, or appends.
-/

namespace Foundations

variable {ρ κ : Type*}

structure Table (key : ρ → κ) where
  rows : List ρ
  nodup : (rows.map key).Nodup

/-! ## Grouping -/

theorem flatMap_filter_perm {α κ : Type*} [DecidableEq κ] (key : α → κ) {keys : List κ} {items : List α}
    (distinct : keys.Nodup) (covered : ∀ a ∈ items, key a ∈ keys) :
    (keys.flatMap fun k => items.filter (key · = k)).Perm items := by
  induction keys generalizing items with
  | nil =>
      have none : items = [] := List.eq_nil_iff_forall_not_mem.mpr fun a mem => nomatch covered a mem
      rw [none]
      exact .nil
  | cons k keys ih =>
      rw [List.nodup_cons] at distinct
      have rest : (keys.flatMap fun k' => items.filter (key · = k')) =
          keys.flatMap fun k' => (items.filter fun a => !decide (key a = k)).filter (key · = k') := by
        apply List.flatMap_congr
        intro k' mem
        have other : k' ≠ k := fun same => distinct.1 (same ▸ mem)
        rw [List.filter_filter]
        apply List.filter_congr
        intro a _
        by_cases here : key a = k' <;> simp [here, other]
      have others : ∀ a ∈ items.filter fun a => !decide (key a = k), key a ∈ keys := by
        intro a mem
        simp only [List.mem_filter, Bool.not_eq_true', decide_eq_false_iff_not] at mem
        exact (List.mem_cons.mp (covered a mem.1)).resolve_left mem.2
      rw [List.flatMap_cons, rest]
      exact ((ih distinct.2 others).append_left _).trans (List.filter_append_perm _ _)

theorem sum_filter_key {α κ M : Type*} [DecidableEq κ] [AddCommMonoid M] (key : α → κ) (f : α → M) {keys : List κ}
    {items : List α} (distinct : keys.Nodup) (covered : ∀ a ∈ items, key a ∈ keys) :
    (keys.map fun k => ((items.filter (key · = k)).map f).sum).sum = (items.map f).sum := by
  rw [← ((flatMap_filter_perm key distinct covered).map f).sum_eq, List.map_flatMap, List.flatMap_def, List.sum_flatten,
    List.map_map]
  rfl

/-! ## Tables -/

namespace Table
section
variable [DecidableEq κ] {key : ρ → κ}

instance : EmptyCollection (Table key) := ⟨⟨[], List.nodup_nil⟩⟩

instance [DecidableEq ρ] : DecidableEq (Table key) := fun s t =>
  decidable_of_iff (s.rows = t.rows) ⟨fun same => by cases s; cases t; cases same; rfl, congrArg rows⟩

def find? (t : Table key) (k : κ) : Option ρ := t.rows.find? (fun r => key r = k)

def upsert (key : ρ → κ) (r : ρ) : List ρ → List ρ
  | [] => [r]
  | x :: xs => if key x = key r then r :: xs else x :: upsert key r xs

theorem mem_upsert_of {r x : ρ} {xs : List ρ} (h : x ∈ upsert key r xs) : x = r ∨ x ∈ xs := by
  induction xs with
  | nil => simpa [upsert] using h
  | cons y ys ih =>
      unfold upsert at h
      split at h
      · rcases List.mem_cons.mp h with rfl | mem
        · exact .inl rfl
        · exact .inr (List.mem_cons_of_mem _ mem)
      · rcases List.mem_cons.mp h with rfl | mem
        · exact .inr List.mem_cons_self
        · exact (ih mem).imp_right (List.mem_cons_of_mem _)

theorem upsert_nodup {r : ρ} {xs : List ρ} (nodup : (xs.map key).Nodup) :
    ((upsert key r xs).map key).Nodup := by
  induction xs with
  | nil => simp [upsert]
  | cons x xs ih =>
      rw [List.map_cons, List.nodup_cons] at nodup
      unfold upsert
      split
      · rename_i same
        rw [List.map_cons, List.nodup_cons, ← same]
        exact nodup
      · rename_i differ
        rw [List.map_cons, List.nodup_cons]
        refine ⟨fun mem => ?_, ih nodup.2⟩
        obtain ⟨y, hy, eq⟩ := List.mem_map.mp mem
        rcases mem_upsert_of hy with rfl | old
        · exact differ eq.symm
        · exact nodup.1 (List.mem_map.mpr ⟨y, old, eq⟩)

def save (t : Table key) (r : ρ) : Table key := ⟨upsert key r t.rows, upsert_nodup t.nodup⟩

omit [DecidableEq κ] in
@[simp] theorem rows_empty : (∅ : Table key).rows = [] := rfl

@[simp] theorem find?_empty (k : κ) : (∅ : Table key).find? k = none := rfl

theorem find?_save (t : Table key) (r : ρ) (k : κ) :
    (t.save r).find? k = if key r = k then some r else t.find? k := by
  simp only [find?, save]
  induction t.rows with
  | nil => by_cases same : key r = k <;> simp [upsert, same]
  | cons x xs ih =>
      by_cases replaced : key x = key r
      · by_cases same : key r = k <;> simp [upsert, replaced, same]
      · simp only [upsert, if_neg replaced, List.find?_cons]
        by_cases here : key x = k
        · have differ : key r ≠ k := fun same => replaced (here.trans same.symm)
          simp [here, differ]
        · simpa [here] using ih

@[simp] theorem find?_save_self (t : Table key) (r : ρ) : (t.save r).find? (key r) = some r := by
  rw [find?_save, if_pos rfl]

theorem find?_save_of_ne (t : Table key) {r : ρ} {k : κ} (ne : key r ≠ k) :
    (t.save r).find? k = t.find? k := by
  rw [find?_save, if_neg ne]

theorem key_of_find? {t : Table key} {k : κ} {r : ρ} (found : t.find? k = some r) : key r = k := by
  simpa using List.find?_some found

theorem mem_of_find? {t : Table key} {k : κ} {r : ρ} (found : t.find? k = some r) : r ∈ t.rows :=
  List.mem_of_find?_eq_some found

theorem find?_of_mem {t : Table key} {r : ρ} (mem : r ∈ t.rows) : t.find? (key r) = some r := by
  cases found : t.find? (key r) with
  | none => simpa using List.find?_eq_none.mp found r mem
  | some x =>
      exact congrArg some
        (List.inj_on_of_nodup_map t.nodup (mem_of_find? found) mem (key_of_find? found))

theorem mem_iff_find? {t : Table key} {r : ρ} : r ∈ t.rows ↔ t.find? (key r) = some r :=
  ⟨find?_of_mem, mem_of_find?⟩

theorem mem_save {t : Table key} {r x : ρ} :
    x ∈ (t.save r).rows ↔ x = r ∨ x ∈ t.rows ∧ key x ≠ key r := by
  rw [mem_iff_find?, find?_save]
  split_ifs with same
  · refine ⟨fun h => .inl (Option.some.inj h).symm, ?_⟩
    rintro (rfl | ⟨-, ne⟩)
    · rfl
    · exact absurd same.symm ne
  · rw [← mem_iff_find?]
    refine ⟨fun h => .inr ⟨h, fun eq => same eq.symm⟩, ?_⟩
    rintro (rfl | ⟨mem, -⟩)
    · exact absurd rfl same
    · exact mem

theorem mem_saves_of {rs : List ρ} {t : Table key} {x : ρ} (mem : x ∈ (rs.foldl save t).rows) : x ∈ rs ∨ x ∈ t.rows := by
  induction rs generalizing t with
  | nil => exact .inr mem
  | cons r rs ih =>
      obtain later | saved := ih mem
      · exact .inl (List.mem_cons_of_mem _ later)
      · obtain rfl | ⟨old, -⟩ := mem_save.mp saved
        · exact .inl List.mem_cons_self
        · exact .inr old

theorem mem_saves {rs : List ρ} {t : Table key} {x : ρ} (distinct : (rs.map key).Nodup) (mem : x ∈ rs) :
    x ∈ (rs.foldl save t).rows := by
  -- A row stays while no other of its key is saved.
  have stays (rs : List ρ) (t : Table key) (there : x ∈ t.rows) (other : key x ∉ rs.map key) :
      x ∈ (rs.foldl save t).rows := by
    induction rs generalizing t with
    | nil => exact there
    | cons r rs ih =>
        rw [List.map_cons, List.mem_cons, not_or] at other
        exact ih (t.save r) (mem_save.mpr (.inr ⟨there, other.1⟩)) other.2
  induction rs generalizing t with
  | nil => cases mem
  | cons r rs ih =>
      rw [List.map_cons, List.nodup_cons] at distinct
      obtain rfl | later := List.mem_cons.mp mem
      · exact stays rs (t.save x) (mem_save.mpr (.inl rfl)) distinct.1
      · exact ih distinct.2 later

theorem rows_save_of_none {t : Table key} {r : ρ} (fresh : t.find? (key r) = none) :
    (t.save r).rows = t.rows ++ [r] := by
  simp only [find?, save] at fresh ⊢
  generalize t.rows = rows at fresh ⊢
  induction rows with
  | nil => rfl
  | cons x xs ih =>
      by_cases here : key x = key r
      · simp [here] at fresh
      · simp only [upsert, if_neg here, List.cons_append]
        rw [ih (by simpa [here] using fresh)]

theorem map_save {β : Type*} (f : ρ → β) {t : Table key} {r r' : ρ} (found : t.find? (key r) = some r')
    (same : f r = f r') : (t.save r).rows.map f = t.rows.map f := by
  simp only [find?, save] at found ⊢
  generalize t.rows = rows at found ⊢
  induction rows with
  | nil => cases found
  | cons x xs ih =>
      by_cases here : key x = key r
      · obtain rfl : x = r' := by simpa [here] using found
        simp [upsert, here, same]
      · simp only [upsert, if_neg here, List.map_cons]
        rw [ih (by simpa [here] using found)]

theorem sum_save {M : Type*} [AddCommMonoid M] (f : ρ → M) (t : Table key) (r : ρ) :
    ((t.save r).rows.map f).sum + ((t.find? (key r)).map f).getD 0 =
      (t.rows.map f).sum + f r := by
  simp only [find?, save]
  induction t.rows with
  | nil => simp [upsert]
  | cons x xs ih =>
      by_cases replaced : key x = key r
      · simp only [upsert, replaced, ↓reduceIte, List.map_cons, List.sum_cons, decide_true,
          List.find?_cons_of_pos, Option.map_some, Option.getD_some]
        rw [add_comm (f r), add_right_comm]
        exact congrArg (· + f r) (add_comm _ _)
      · simp only [upsert, replaced, ↓reduceIte, List.map_cons, List.sum_cons, decide_false,
          Bool.false_eq_true, not_false_eq_true, List.find?_cons_of_neg]
        rw [add_assoc, ih, add_assoc]

/-! ## Some of the rows -/

theorem rows_of_key (t : Table key) (k : κ) : t.rows.filter (fun r => key r = k) = (t.find? k).toList := by
  obtain ⟨rows, nodup⟩ := t
  induction rows with
  | nil => rfl
  | cons x xs ih =>
      rw [List.map_cons, List.nodup_cons] at nodup
      by_cases here : key x = k
      · have others : xs.filter (fun r => key r = k) = [] := by
          rw [List.filter_eq_nil_iff]
          intro r mem same
          rw [decide_eq_true_eq] at same
          exact nodup.1 (here.trans same.symm ▸ List.mem_map_of_mem mem)
        simp [find?, here, others]
      · simpa [find?, here] using ih nodup.2


def filter (t : Table key) (p : ρ → Bool) : Table key where
  rows := t.rows.filter p
  nodup := t.nodup.sublist (List.filter_sublist.map key)

theorem find?_filter (t : Table key) (p : ρ → Bool) (k : κ) :
    (t.filter p).find? k = (t.find? k).filter p := by
  cases found : t.find? k with
  | none =>
      apply List.find?_eq_none.mpr
      intro r mem
      exact List.find?_eq_none.mp found r (List.mem_of_mem_filter mem)
  | some r =>
      have here := key_of_find? found
      by_cases kept : p r = true
      · have mem : r ∈ (t.filter p).rows := List.mem_filter.mpr ⟨mem_of_find? found, kept⟩
        rw [← here, find?_of_mem mem, Option.filter_some, if_pos kept]
      · rw [Option.filter_some, if_neg kept]
        apply List.find?_eq_none.mpr
        intro r' mem same
        obtain ⟨mem', kept'⟩ := List.mem_filter.mp mem
        have found' := find?_of_mem mem'
        rw [decide_eq_true_eq] at same
        rw [same, found] at found'
        rw [Option.some_inj.mp found'] at kept
        exact kept kept'

theorem filter_save {t : Table key} {p : ρ → Bool} {r : ρ} (kept : p r = true)
    (old : ∀ r', t.find? (key r) = some r' → p r' = true) : (t.save r).filter p = (t.filter p).save r := by
  have rows : (upsert key r t.rows).filter p = upsert key r (t.rows.filter p) := by
    unfold find? at old
    generalize t.rows = rows at old ⊢
    induction rows with
    | nil => simp [upsert, kept]
    | cons x xs ih =>
        by_cases here : key x = key r
        · have kept' : p x = true := old x (by simp [here])
          simp [upsert, here, kept, kept']
        · have rest := ih fun r' found => old r' (by simpa [here] using found)
          by_cases kept' : p x = true
          · simp [upsert, here, kept', rest]
          · simp [upsert, here, kept', rest]
  unfold save filter
  congr 1

theorem filter_save_of_not {t : Table key} {p : ρ → Bool} {r : ρ} (dropped : p r = false)
    (old : ∀ r', t.find? (key r) = some r' → p r' = false) : (t.save r).filter p = t.filter p := by
  have rows : (upsert key r t.rows).filter p = t.rows.filter p := by
    unfold find? at old
    generalize t.rows = rows at old ⊢
    induction rows with
    | nil => simp [upsert, dropped]
    | cons x xs ih =>
        by_cases here : key x = key r
        · have dropped' : p x = false := old x (by simp [here])
          simp [upsert, here, dropped, dropped']
        · have rest := ih fun r' found => old r' (by simpa [here] using found)
          simp [upsert, here, List.filter_cons, rest]
  unfold save filter
  congr 1

def restrict {ρ' : Type*} {key' : ρ' → κ} (t : Table key) (f : ρ → ρ') (same : ∀ r, key' (f r) = key r) :
    Table key' where
  rows := t.rows.map f
  nodup := by
    rw [List.map_map, funext (show ∀ r, (key' ∘ f) r = key r from same)]
    exact t.nodup

end
end Table

/-! ## Numbering by a count -/

/-- What has been numbered has the numbers from 0 on, in any order. -/
def Gapless {α : Type*} (number : ℕ → α) (used : List α) : Prop :=
  used.Perm ((List.range used.length).map number)

/-- A count taken at any time before, and a number that nothing has yet: the count is still right. -/
theorem Gapless.insert {α : Type*} {number : ℕ → α} {used : List α} {count : ℕ} (gapless : Gapless number used)
    (stale : count ≤ used.length) (free : number count ∉ used) : Gapless number (used ++ [number count]) := by
  have current : count = used.length := by
    apply Nat.le_antisymm stale
    by_contra less
    apply free
    rw [gapless.mem_iff]
    exact List.mem_map_of_mem (List.mem_range.mpr (Nat.not_le.mp less))
  rw [Gapless, List.length_append, List.length_singleton, List.range_succ, List.map_append, List.map_singleton,
    current]
  exact gapless.append_right _

theorem Gapless.nodup {α : Type*} {number : ℕ → α} {used : List α} (gapless : Gapless number used)
    (inj : Function.Injective number) : used.Nodup :=
  gapless.nodup_iff.mpr (List.nodup_range.map inj)

/-! ## Queries without an order -/

/-- The order in which the database finds the rows of a query. -/
structure Scan (α : Type*) where
  order : List α → List α
  perm : ∀ rows, (order rows).Perm rows

namespace Scan
variable {α : Type*} (scan : Scan α) {xs : List α} {n : ℕ}

def inOrder : Scan α := ⟨id, fun _ => .refl _⟩

theorem mem {x : α} : x ∈ scan.order xs ↔ x ∈ xs := (scan.perm xs).mem_iff

theorem take_eq_nil (pos : 0 < n) : (scan.order xs).take n = [] ↔ xs = [] := by
  rw [List.take_eq_nil_iff, or_iff_right (Nat.ne_of_gt pos), ← List.length_eq_zero_iff, (scan.perm xs).length_eq,
    List.length_eq_zero_iff]

theorem take_eq_singleton (several : 1 < n) {x : α} : (scan.order xs).take n = [x] ↔ xs = [x] := by
  constructor
  · intro single
    have one : (scan.order xs).length = 1 := by
      have := congrArg List.length single
      rw [List.length_take, List.length_singleton] at this
      omega
    rw [List.take_of_length_le (by omega)] at single
    exact List.perm_singleton.mp (single ▸ (scan.perm xs).symm)
  · intro single
    have same : scan.order xs = [x] := List.perm_singleton.mp (single ▸ scan.perm xs)
    rw [same]
    exact List.take_of_length_le (Nat.le_of_lt several)

end Scan
end Foundations
