import Mathlib.Algebra.BigOperators.Group.List.Basic
import Mathlib.Data.List.Nodup
import Mathlib.Data.List.Sort

/-!
# Grouping by a key

A list is read once and collected in a map from keys to what was gathered under them, in the order the
keys came up first.
-/

namespace Foundations

variable {α β γ κ : Type*} [DecidableEq κ]

def adjust (k : κ) (f : Option β → β) : List (κ × β) → List (κ × β)
  | [] => [(k, f none)]
  | (k', b) :: entries => if k' = k then (k', f (some b)) :: entries else (k', b) :: adjust k f entries

def group (key : α → κ) (add : Option β → α → β) (items : List α) : List (κ × β) :=
  items.foldl (fun entries a => adjust (key a) (add · a) entries) []

/-! ## The entry of a key -/

def entryOf (k : κ) (entries : List (κ × β)) : Option β := (entries.find? (·.1 = k)).map (·.2)

theorem entryOf_adjust (k k' : κ) (f : Option β → β) (entries : List (κ × β)) :
    entryOf k' (adjust k f entries) = if k = k' then some (f (entryOf k entries)) else entryOf k' entries := by
  induction entries with
  | nil => by_cases same : k = k' <;> simp [adjust, entryOf, same]
  | cons entry entries ih =>
      by_cases here : entry.1 = k
      · by_cases same : k = k' <;> simp [adjust, entryOf, here, same]
      · by_cases there : entry.1 = k'
        · have differ : k' ≠ k := fun same => here (there.trans same)
          simp [adjust, entryOf, there, differ, differ.symm]
        · simpa [adjust, entryOf, here, there] using ih

theorem keys_adjust (k : κ) (f : Option β → β) (entries : List (κ × β)) :
    (adjust k f entries).map (·.1) = if k ∈ entries.map (·.1) then entries.map (·.1) else entries.map (·.1) ++ [k] := by
  induction entries with
  | nil => simp [adjust]
  | cons entry entries ih =>
      by_cases here : entry.1 = k
      · simp [adjust, here]
      · rw [adjust, if_neg here, List.map_cons, ih]
        have differ : k ≠ entry.1 := fun same => here same.symm
        split_ifs <;> simp_all

theorem nodup_adjust (k : κ) (f : Option β → β) {entries : List (κ × β)}
    (nodup : (entries.map (·.1)).Nodup) : ((adjust k f entries).map (·.1)).Nodup := by
  rw [keys_adjust]
  split_ifs with old
  · exact nodup
  · rw [List.nodup_append]
    refine ⟨nodup, by simp, ?_⟩
    intro a mem b mem' same
    rw [List.mem_singleton] at mem'
    exact old (mem' ▸ same ▸ mem)

theorem entryOf_foldl {key : α → κ} {add : Option β → α → β} (k : κ) (items : List α) (entries : List (κ × β)) :
    entryOf k (items.foldl (fun entries a => adjust (key a) (add · a) entries) entries) =
      (items.filter (key · = k)).foldl (fun b a => some (add b a)) (entryOf k entries) := by
  induction items generalizing entries with
  | nil => rfl
  | cons a items ih =>
      rw [List.foldl_cons, ih, entryOf_adjust]
      by_cases here : key a = k
      · simp [here]
      · simp [here]

theorem entryOf_group {key : α → κ} {add : Option β → α → β} (k : κ) (items : List α) :
    entryOf k (group key add items) = (items.filter (key · = k)).foldl (fun b a => some (add b a)) none :=
  entryOf_foldl k items []

theorem nodup_group (key : α → κ) (add : Option β → α → β) (items : List α) :
    ((group key add items).map (·.1)).Nodup := by
  have general : ∀ entries : List (κ × β), (entries.map (·.1)).Nodup →
      ((items.foldl (fun entries a => adjust (key a) (add · a) entries) entries).map (·.1)).Nodup := by
    induction items with
    | nil => exact fun _ nodup => nodup
    | cons a items ih => exact fun entries nodup => ih _ (nodup_adjust (key a) (add · a) nodup)
  exact general [] List.nodup_nil

theorem mem_iff_entryOf {entries : List (κ × β)} (nodup : (entries.map (·.1)).Nodup) {k : κ} {b : β} :
    (k, b) ∈ entries ↔ entryOf k entries = some b := by
  unfold entryOf
  constructor
  · intro mem
    cases found : entries.find? (·.1 = k) with
    | none => simpa using List.find?_eq_none.mp found (k, b) mem
    | some entry =>
        have here : entry.1 = k := by simpa using List.find?_some found
        have same := List.inj_on_of_nodup_map nodup (List.mem_of_find?_eq_some found) mem here
        rw [same]
        rfl
  · intro found
    obtain ⟨entry, first, rfl⟩ := Option.map_eq_some_iff.mp found
    have here : entry.1 = k := by simpa using List.find?_some first
    rw [← here]
    exact List.mem_of_find?_eq_some first

/-! ## One row a key -/

theorem foldl_some {step : β → α → β} {init : α → β} (a : α) (items : List α) :
    (a :: items).foldl (fun b a => some (step (b.getD (init a)) a)) none = some ((a :: items).foldl step (init a)) := by
  have general (b : β) : items.foldl (fun b a => some (step (b.getD (init a)) a)) (some b) = some (items.foldl step b) := by
    induction items generalizing b with
    | nil => rfl
    | cons a items ih => exact ih (step b a)
  exact general _

theorem mem_group {step : β → α → β} {init : α → β} {key : α → κ} {items : List α} {k : κ} {b : β} :
    (k, b) ∈ group key (fun b a => step (b.getD (init a)) a) items ↔
      ∃ a rest, items.filter (key · = k) = a :: rest ∧ b = (a :: rest).foldl step (init a) := by
  rw [mem_iff_entryOf (nodup_group key _ items), entryOf_group]
  cases shared : items.filter (key · = k) with
  | nil => simp
  | cons a rest =>
      rw [foldl_some, Option.some_inj]
      constructor
      · rintro rfl
        exact ⟨a, rest, rfl, rfl⟩
      · rintro ⟨a', rest', eq, rfl⟩
        obtain ⟨rfl, rfl⟩ := List.cons.inj eq
        rfl

structure Tallies (key : α → κ) (items : List α) (rows : List (κ × β)) (tells : List α → β → Prop) : Prop where
  distinct : (rows.map Prod.fst).Nodup
  keys : ∀ k, k ∈ rows.map Prod.fst ↔ ∃ a ∈ items, key a = k
  tells : ∀ row ∈ rows, tells (items.filter (key · = row.1)) row.2

theorem Tallies.of_group (step : β → α → β) (init : α → β) {key : α → κ} {items : List α} {tells : List α → β → Prop}
    (folds : ∀ a rest, (a :: rest).Sublist items → tells (a :: rest) ((a :: rest).foldl step (init a))) :
    Tallies key items (group key (fun b a => step (b.getD (init a)) a) items) tells where
  distinct := nodup_group key _ items
  keys k := by
    constructor
    · intro mem
      obtain ⟨⟨k, b⟩, row, rfl⟩ := List.mem_map.mp mem
      obtain ⟨a, rest, shared, -⟩ := mem_group.mp row
      have here : a ∈ items.filter (key · = k) := by rw [shared]; exact List.mem_cons_self
      exact ⟨a, (List.mem_filter.mp here).1, of_decide_eq_true (List.mem_filter.mp here).2⟩
    · rintro ⟨a, mem, rfl⟩
      have here : a ∈ items.filter (key · = key a) := List.mem_filter.mpr ⟨mem, decide_eq_true rfl⟩
      obtain ⟨a', rest, shared⟩ := List.exists_cons_of_ne_nil (List.ne_nil_of_mem here)
      exact List.mem_map.mpr ⟨_, mem_group.mpr ⟨a', rest, shared, rfl⟩, rfl⟩
  tells row mem := by
    obtain ⟨a, rest, shared, folded⟩ := mem_group.mp (show (row.1, row.2) ∈ _ from mem)
    rw [shared, folded]
    exact folds a rest (shared ▸ List.filter_sublist)

theorem Tallies.perm {key : α → κ} {items : List α} {rows rows' : List (κ × β)} {tells : List α → β → Prop}
    (tallies : Tallies key items rows tells) (perm : rows'.Perm rows) : Tallies key items rows' tells where
  distinct := (perm.map _).nodup_iff.mpr tallies.distinct
  keys k := (perm.map _).mem_iff.trans (tallies.keys k)
  tells row mem := tallies.tells row (perm.mem_iff.mp mem)

omit [DecidableEq κ] in
theorem sum_move {M : Type*} [AddCommMonoid M] {ks : List κ} (nodup : ks.Nodup) {k : κ} (mem : k ∈ ks) {x : M}
    {f g : κ → M} (here : f k = x + g k) (elsewhere : ∀ k', k' ≠ k → f k' = g k') :
    (ks.map f).sum = x + (ks.map g).sum := by
  induction ks with
  | nil => cases mem
  | cons k' ks ih =>
      obtain ⟨fresh, nodup⟩ := List.nodup_cons.mp nodup
      rw [List.map_cons, List.sum_cons, List.map_cons, List.sum_cons]
      rcases List.mem_cons.mp mem with rfl | mem
      · have same : ks.map f = ks.map g :=
          List.map_congr_left fun k' mem => elsewhere k' (ne_of_mem_of_not_mem mem fresh)
        rw [here, same, add_assoc]
      · rw [elsewhere k' (ne_of_mem_of_not_mem mem fresh).symm, ih nodup mem, add_left_comm]

theorem Tallies.sum {M : Type*} [AddCommMonoid M] {key : α → κ} {items : List α} {rows : List (κ × β)}
    {tells : List α → β → Prop} (tallies : Tallies key items rows tells) (amount : α → M) :
    (rows.map fun row => ((items.filter (key · = row.1)).map amount).sum).sum = (items.map amount).sum := by
  have general (part : List α) (known : ∀ a ∈ part, key a ∈ rows.map Prod.fst) :
      ((rows.map Prod.fst).map fun k => ((part.filter (key · = k)).map amount).sum).sum = (part.map amount).sum := by
    induction part with
    | nil => simp [Function.comp_def]
    | cons a part ih =>
        rw [List.forall_mem_cons] at known
        rw [List.map_cons, List.sum_cons, ← ih known.2]
        refine sum_move tallies.distinct known.1 ?_ fun k' differ => ?_
        · simp
        · simp [differ.symm]
  have all := general items fun a mem => (tallies.keys (key a)).mpr ⟨a, mem, rfl⟩
  rwa [List.map_map] at all

theorem pairwise_of_worth {δ : Type*} [LinearOrder δ] {r : α → α → Prop} [DecidableRel r] (worth : α → δ)
    {items : List α} (compares : ∀ a ∈ items, ∀ b ∈ items, r a b ↔ worth b ≤ worth a) :
    (items.insertionSort r).Pairwise r := by
  let descends (a b : α) : Prop := worth b ≤ worth a
  have total : Std.Total descends := ⟨fun a b => le_total (worth b) (worth a)⟩
  have trans : IsTrans α descends := ⟨fun _ _ _ ab bc => le_trans bc ab⟩
  have sorted : items.insertionSort r = items.insertionSort descends := by
    have mapped := List.map_insertionSort r descends id items compares
    rwa [List.map_id, List.map_id] at mapped
  rw [sorted]
  refine (List.pairwise_insertionSort descends items).imp_of_mem fun ha hb ordered => ?_
  exact (compares _ ((List.mem_insertionSort _).mp ha) _ ((List.mem_insertionSort _).mp hb)).mpr ordered

end Foundations
