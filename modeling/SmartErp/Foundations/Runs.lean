import Mathlib.Algebra.BigOperators.Group.List.Basic
import Mathlib.Order.Basic

/-!
# Runs and fallible folds

`Run ok next s is t`: taking the inputs `is` one after the other from `s` ends in `t`, and each of
them met `ok` in the state it was taken in. Inputs that a state does not admit leave it unchanged,
so `next` is total and an interleaving is a run whose inputs name the process that moves.
-/

namespace Foundations

variable {σ ι : Type*}

inductive Run (ok : σ → ι → Prop) (next : σ → ι → σ) (s : σ) : List ι → σ → Prop
  | nil : Run ok next s [] s
  | snoc {is : List ι} {t : σ} (i : ι) : Run ok next s is t → ok t i →
      Run ok next s (is ++ [i]) (next t i)

namespace Run
variable {ok : σ → ι → Prop} {next : σ → ι → σ} {s t : σ} {is : List ι}

theorem invariant (I : σ → Prop) (init : I s) (keep : ∀ u i, I u → ok u i → I (next u i))
    (run : Run ok next s is t) : I t := by
  induction run with
  | nil => exact init
  | snoc i _ met ih => exact keep _ i ih met

theorem relates (R : σ → σ → Prop) (refl : R s s) (extend : ∀ u i, R s u → ok u i → R s (next u i))
    (run : Run ok next s is t) : R s t :=
  run.invariant (R s) refl extend

theorem eq_foldl (run : Run ok next s is t) : t = is.foldl next s := by
  induction run with
  | nil => rfl
  | snoc i _ _ ih => rw [List.foldl_append, ← ih]; rfl

theorem mono {ok' : σ → ι → Prop} (weaker : ∀ u i, ok u i → ok' u i) (run : Run ok next s is t) :
    Run ok' next s is t := by
  induction run with
  | nil => exact .nil
  | snoc i _ met ih => exact .snoc i ih (weaker _ i met)

theorem strengthen (I : σ → Prop) (init : I s) (keep : ∀ u i, I u → ok u i → I (next u i))
    (run : Run ok next s is t) : Run (fun u i => I u ∧ ok u i) next s is t := by
  induction run with
  | nil => exact .nil
  | snoc i run met ih => exact .snoc i ih ⟨run.invariant I init keep, met⟩

theorem split {before after : List ι} {i : ι} (run : Run ok next s (before ++ i :: after) t) :
    ∃ u, Run ok next s before u ∧ ok u i := by
  generalize whole : before ++ i :: after = is at run
  induction run generalizing after with
  | nil => simp at whole
  | @snoc is u j run met ih =>
      rcases List.eq_nil_or_concat after with rfl | ⟨after, k, rfl⟩
      · obtain ⟨rfl, last⟩ := List.append_inj' whole rfl
        cases last
        exact ⟨u, run, met⟩
      · rw [List.concat_eq_append, ← List.cons_append, ← List.append_assoc] at whole
        exact ih (List.append_inj' whole rfl).1

theorem monotone {α : Type*} [Preorder α] (measure : σ → α)
    (step : ∀ u i, ok u i → measure u ≤ measure (next u i)) (run : Run ok next s is t)
    {before after : List ι} {u : σ} (whole : is = before ++ after) (start : Run ok next s before u) :
    measure u ≤ measure t := by
  induction run generalizing after with
  | nil =>
      obtain ⟨rfl, -⟩ := List.append_eq_nil_iff.mp whole.symm
      rw [start.eq_foldl]
      exact le_rfl
  | @snoc is v i run met ih =>
      rcases List.eq_nil_or_concat after with rfl | ⟨after, j, rfl⟩
      · rw [List.append_nil] at whole
        rw [start.eq_foldl, ← whole, List.foldl_append, ← run.eq_foldl]
        exact le_rfl
      · rw [List.concat_eq_append, ← List.append_assoc] at whole
        exact (ih (List.append_inj' whole rfl).1).trans (step v i met)

theorem logged {α : Type*} (log : σ → List α) (none : log s = []) (run : Run ok next s is t) {a : α}
    (mem : a ∈ log t) : ∃ before i after u, is = before ++ i :: after ∧ Run ok next s before u ∧ ok u i ∧
      a ∉ log u ∧ a ∈ log (next u i) := by
  induction run with
  | nil =>
      rw [none] at mem
      cases mem
  | @snoc is u i run met ih =>
      by_cases old : a ∈ log u
      · obtain ⟨before, j, after, v, rfl, run', met', absent, logged⟩ := ih old
        exact ⟨before, j, after ++ [i], v, by simp, run', met', absent, logged⟩
      · exact ⟨is, i, [], u, rfl, run, met, old, mem⟩

theorem crossing (P : σ → Prop) (before : ¬P s) (run : Run ok next s is t) (after : P t) :
    ∃ is₁ i is₂ u, is = is₁ ++ i :: is₂ ∧ Run ok next s is₁ u ∧ ok u i ∧ ¬P u ∧ P (next u i) ∧
      Run ok next (next u i) is₂ t := by
  induction run with
  | nil => exact absurd after before
  | @snoc is u i run met ih =>
      by_cases already : P u
      · obtain ⟨is₁, j, is₂, v, rfl, run₁, met₁, not, crossed, run₂⟩ := ih already
        exact ⟨is₁, j, is₂ ++ [i], v, by simp, run₁, met₁, not, crossed, .snoc i run₂ met⟩
      · exact ⟨is, i, [], u, rfl, run, met, already, after, .nil⟩

end Run

/-- Each of the inputs `is` meets `ok` in the state it is taken in. -/
def AllMet (ok : σ → ι → Prop) (next : σ → ι → σ) : σ → List ι → Prop
  | _, [] => True
  | s, i :: is => ok s i ∧ AllMet ok next (next s i) is

instance AllMet.decidable (ok : σ → ι → Prop) [∀ s i, Decidable (ok s i)] (next : σ → ι → σ) :
    ∀ s is, Decidable (AllMet ok next s is)
  | _, [] => isTrue trivial
  | s, i :: is =>
      have := AllMet.decidable ok next (next s i) is
      inferInstanceAs (Decidable (ok s i ∧ AllMet ok next (next s i) is))

theorem Run.cons {ok : σ → ι → Prop} {next : σ → ι → σ} {s t : σ} {i : ι} {is : List ι} (met : ok s i)
    (run : Run ok next (next s i) is t) : Run ok next s (i :: is) t := by
  induction run with
  | nil => exact .snoc i .nil met
  | snoc j _ met' ih => exact .snoc j ih met'

theorem Run.ofAllMet {ok : σ → ι → Prop} {next : σ → ι → σ} {s : σ} {is : List ι}
    (met : AllMet ok next s is) : Run ok next s is (is.foldl next s) := by
  induction is generalizing s with
  | nil => exact .nil
  | cons i is ih => exact .cons met.1 (ih met.2)

theorem AllMet.append {ok : σ → ι → Prop} {next : σ → ι → σ} {s : σ} {is js : List ι} :
    AllMet ok next s (is ++ js) ↔ AllMet ok next s is ∧ AllMet ok next (is.foldl next s) js := by
  induction is generalizing s with
  | nil => simp [AllMet]
  | cons i is ih => simp [AllMet, ih, and_assoc]

theorem AllMet.congr {ok ok' : σ → ι → Prop} {next : σ → ι → σ} (I : σ → Prop) {s : σ} (init : I s)
    (keep : ∀ u i, I u → I (next u i)) (iff : ∀ u i, I u → (ok u i ↔ ok' u i)) {is : List ι} :
    AllMet ok next s is ↔ AllMet ok' next s is := by
  induction is generalizing s with
  | nil => exact Iff.rfl
  | cons i is ih => exact and_congr (iff s i init) (ih (keep s i init))

theorem Run.allMet {ok : σ → ι → Prop} {next : σ → ι → σ} {s t : σ} {is : List ι}
    (run : Run ok next s is t) : AllMet ok next s is := by
  induction run with
  | nil => exact trivial
  | snoc i run met ih => exact AllMet.append.mpr ⟨ih, run.eq_foldl ▸ met, trivial⟩

theorem AllMet.every {ok : σ → ι → Prop} {next : σ → ι → σ} (I J : σ → Prop) {s : σ} (init : I s) (start : J s)
    (keep : ∀ u i, I u → I (next u i)) (step : ∀ u i, I u → J u → ok u i → J (next u i)) {is : List ι}
    (met : AllMet ok next s is) : ∀ before after, is = before ++ after → J (before.foldl next s) := by
  induction is generalizing s with
  | nil =>
      intro before after whole
      rw [(List.append_eq_nil_iff.mp whole.symm).1]
      exact start
  | cons i is ih =>
      intro before after whole
      cases before with
      | nil => exact start
      | cons j before =>
          rw [List.cons_append, List.cons.injEq] at whole
          obtain ⟨rfl, rest⟩ := whole
          exact ih (keep s i init) (step s i init start met.1) met.2 before after rest

theorem AllMet.of_every {ok : σ → ι → Prop} {next : σ → ι → σ} (I J : σ → Prop) {s : σ} (init : I s)
    (keep : ∀ u i, I u → I (next u i)) (step : ∀ u i, I u → J u → J (next u i) → ok u i) {is : List ι}
    (every : ∀ before after, is = before ++ after → J (before.foldl next s)) : AllMet ok next s is := by
  induction is generalizing s with
  | nil => exact trivial
  | cons i is ih =>
      refine ⟨step s i init (every [] _ rfl) (every [i] is rfl), ih (keep s i init) ?_⟩
      intro before after whole
      exact every (i :: before) after (by rw [whole, List.cons_append])

theorem AllMet.iff_every {ok : σ → ι → Prop} {next : σ → ι → σ} (I J : σ → Prop) {s : σ} (init : I s) (start : J s)
    (keep : ∀ u i, I u → I (next u i)) (step : ∀ u i, I u → J u → (J (next u i) ↔ ok u i)) {is : List ι} :
    (∀ before after, is = before ++ after → J (before.foldl next s)) ↔ AllMet ok next s is :=
  ⟨AllMet.of_every I J init keep fun u i hI hJ => (step u i hI hJ).mp,
    AllMet.every I J init start keep fun u i hI hJ => (step u i hI hJ).mpr⟩

/-! ## Folds that may fail -/

section Fallible
universe u
variable {ε : Type*} {σ α β : Type u}

@[simp] theorem bind_eq_ok {x : Except ε α} {f : α → Except ε β} {b : β} :
    (x >>= f) = .ok b ↔ ∃ a, x = .ok a ∧ f a = .ok b := by
  cases x <;> simp [bind, Except.bind]

theorem bind_eq_error {x : Except ε α} {f : α → Except ε β} {e : ε} :
    (x >>= f) = .error e ↔ x = .error e ∨ ∃ a, x = .ok a ∧ f a = .error e := by
  cases x <;> simp [bind, Except.bind]

@[simp] theorem pure_eq_ok {a b : α} : (pure a : Except ε α) = .ok b ↔ a = b := by
  simp [pure, Except.pure]

@[simp] theorem throw_ne_ok {e : ε} {a : α} : (throw e : Except ε α) ≠ .ok a := by
  simp [throw, throwThe, MonadExceptOf.throw]

theorem map_of_bind {γ : Type u} {x : Except ε α} {f : α → Except ε β} {g : β → γ} :
    (x >>= f).map g = x >>= fun a => (f a).map g := by
  cases x <;> rfl

theorem map_eq_ok {x : Except ε α} {f : α → β} {b : β} : x.map f = .ok b ↔ ∃ a, x = .ok a ∧ f a = b := by
  cases x <;> simp [Except.map]

theorem foldlM_nil_ok {f : σ → α → Except ε σ} {s t : σ} : [].foldlM f s = .ok t ↔ s = t := by
  simp

theorem foldlM_cons_ok {f : σ → α → Except ε σ} {s t : σ} {a : α} {as : List α} :
    (a :: as).foldlM f s = .ok t ↔ ∃ u, f s a = .ok u ∧ as.foldlM f u = .ok t := by
  simp

theorem foldlM_keeps {f : σ → α → Except ε σ} (I : σ → Prop) {as : List α}
    (keep : ∀ s a t, a ∈ as → I s → f s a = .ok t → I t) {s t : σ} (init : I s)
    (ok : as.foldlM f s = .ok t) : I t := by
  induction as generalizing s with
  | nil => exact foldlM_nil_ok.mp ok ▸ init
  | cons a as ih =>
      obtain ⟨u, first, rest⟩ := foldlM_cons_ok.mp ok
      exact ih (fun s a t mem => keep s a t (List.mem_cons_of_mem _ mem))
        (keep s a u List.mem_cons_self init first) rest

theorem foldlM_prefix {f : σ → α → Except ε σ} (I : List α → σ → Prop) {as : List α}
    (step : ∀ done a s t, I done s → f s a = .ok t → I (done ++ [a]) t) {s t : σ} (init : I [] s)
    (ok : as.foldlM f s = .ok t) : I as t := by
  have general : ∀ (rest : List α) done s, I done s → rest.foldlM f s = .ok t → I (done ++ rest) t := by
    intro rest
    induction rest with
    | nil =>
        intro done s init ok
        rw [List.append_nil]
        exact foldlM_nil_ok.mp ok ▸ init
    | cons a rest ih =>
        intro done s init ok
        obtain ⟨u, first, later⟩ := foldlM_cons_ok.mp ok
        rw [List.append_cons]
        exact ih (done ++ [a]) u (step done a s u init first) later
  exact general as [] s init ok

theorem foldlM_ne_error {f : σ → α → Except ε σ} {e : ε} (I : List α → σ → Prop)
    (avoids : ∀ a as s, I (a :: as) s → f s a ≠ .error e)
    (keep : ∀ a as s t, I (a :: as) s → f s a = .ok t → I as t) {as : List α} {s : σ} (init : I as s) :
    as.foldlM f s ≠ .error e := by
  induction as generalizing s with
  | nil => simp [pure, Except.pure]
  | cons a as ih =>
      intro fails
      rw [List.foldlM_cons, bind_eq_error] at fails
      rcases fails with first | ⟨t, first, rest⟩
      · exact avoids a as s init first
      · exact ih (keep a as s t init first) rest

theorem foldlM_map {f : σ → α → Except ε σ} (g : σ → σ) (I : σ → Prop) {as : List α}
    (commutes : ∀ s a, a ∈ as → I s → f (g s) a = (f s a).map g)
    (keep : ∀ s a t, a ∈ as → I s → f s a = .ok t → I t) {s : σ} (init : I s) :
    as.foldlM f (g s) = (as.foldlM f s).map g := by
  induction as generalizing s with
  | nil => rfl
  | cons a as ih =>
      rw [List.foldlM_cons, List.foldlM_cons, commutes s a List.mem_cons_self init]
      cases first : f s a with
      | error => rfl
      | ok t =>
          exact ih (fun s a mem => commutes s a (List.mem_cons_of_mem _ mem))
            (fun s a t mem => keep s a t (List.mem_cons_of_mem _ mem))
            (keep s a t List.mem_cons_self init first)

theorem foldlM_adds {M : Type*} [AddCommMonoid M] {f : σ → α → Except ε σ} (measure : σ → M)
    (amount : α → M) {as : List α}
    (adds : ∀ s a t, a ∈ as → f s a = .ok t → measure t = measure s + amount a) {s t : σ}
    (ok : as.foldlM f s = .ok t) : measure t = measure s + (as.map amount).sum := by
  induction as generalizing s with
  | nil => simp [foldlM_nil_ok.mp ok]
  | cons a as ih =>
      obtain ⟨u, first, rest⟩ := foldlM_cons_ok.mp ok
      rw [ih (fun s a t mem => adds s a t (List.mem_cons_of_mem _ mem)) rest,
        adds s a u List.mem_cons_self first, List.map_cons, List.sum_cons, add_assoc]

theorem mapM_ok {f : α → Except ε β} {as : List α} {bs : List β} (ok : as.mapM f = .ok bs) :
    bs.length = as.length ∧ ∀ b ∈ bs, ∃ a ∈ as, f a = .ok b := by
  induction as generalizing bs with
  | nil =>
      obtain rfl : [] = bs := by simpa using ok
      exact ⟨rfl, by simp⟩
  | cons a as ih =>
      rw [List.mapM_cons] at ok
      simp only [bind_eq_ok, pure_eq_ok] at ok
      obtain ⟨b, first, bs, rest, rfl⟩ := ok
      obtain ⟨length, each⟩ := ih rest
      refine ⟨by simp [length], ?_⟩
      rw [List.forall_mem_cons]
      refine ⟨⟨a, List.mem_cons_self, first⟩, fun b' mem => ?_⟩
      obtain ⟨a', mem', eq⟩ := each b' mem
      exact ⟨a', List.mem_cons_of_mem _ mem', eq⟩

theorem mapM_isOk {f : α → Except ε β} {as : List α} :
    (∃ bs, as.mapM f = .ok bs) ↔ ∀ a ∈ as, ∃ b, f a = .ok b := by
  induction as with
  | nil => simp [pure, Except.pure]
  | cons a as ih =>
      simp only [List.mapM_cons, bind_eq_ok, pure_eq_ok, List.forall_mem_cons, ← ih]
      constructor
      · rintro ⟨_, b, first, bs, rest, -⟩
        exact ⟨⟨b, first⟩, bs, rest⟩
      · rintro ⟨⟨b, first⟩, bs, rest⟩
        exact ⟨b :: bs, b, first, bs, rest, rfl⟩

theorem mapM_mem {f : α → Except ε β} {as : List α} {bs : List β} (ok : as.mapM f = .ok bs) {b : β} :
    b ∈ bs ↔ ∃ a ∈ as, f a = .ok b := by
  refine ⟨(mapM_ok ok).2 b, ?_⟩
  rintro ⟨a, mem, eq⟩
  induction as generalizing bs with
  | nil => cases mem
  | cons a' as ih =>
      simp only [List.mapM_cons, bind_eq_ok, pure_eq_ok] at ok
      obtain ⟨b', first, bs, rest, rfl⟩ := ok
      obtain rfl | there := List.mem_cons.mp mem
      · rw [first] at eq
        cases eq
        exact List.mem_cons_self
      · exact List.mem_cons_of_mem _ (ih rest there)

theorem mapM_map {γ : Type*} {f : α → Except ε β} {g : β → γ} {h : α → γ} {as : List α} {bs : List β}
    (shows : ∀ a ∈ as, ∀ b, f a = .ok b → g b = h a) (ok : as.mapM f = .ok bs) : bs.map g = as.map h := by
  induction as generalizing bs with
  | nil =>
      obtain rfl : [] = bs := by simpa using ok
      rfl
  | cons a as ih =>
      rw [List.forall_mem_cons] at shows
      rw [List.mapM_cons] at ok
      simp only [bind_eq_ok, pure_eq_ok] at ok
      obtain ⟨b, first, bs, rest, rfl⟩ := ok
      rw [List.map_cons, List.map_cons, shows.1 b first, ih shows.2 rest]

theorem foldlM_flatten {f : σ → α → Except ε σ} {ass : List (List α)} {s : σ} :
    ass.flatten.foldlM f s = ass.foldlM (fun s as => as.foldlM f s) s := by
  induction ass generalizing s with
  | nil => rfl
  | cons as ass ih =>
      rw [List.flatten_cons, List.foldlM_append, List.foldlM_cons]
      congr 1
      funext t
      exact ih

end Fallible

/-! ## Slices of a list -/

section Slices
variable {α : Type*}

/-- Slices of `size`, the last one with what is left, as long as the fuel lasts. -/
def slices (size : ℕ) : ℕ → List α → List (List α)
  | 0, _ => []
  | _ + 1, [] => []
  | fuel + 1, as => as.take size :: slices size fuel (as.drop size)

theorem slices_flatten {size : ℕ} (positive : 0 < size) {fuel : ℕ} {as : List α} (enough : as.length ≤ fuel) :
    (slices size fuel as).flatten = as := by
  induction fuel generalizing as with
  | zero => rw [List.length_eq_zero_iff.mp (Nat.le_zero.mp enough)]; rfl
  | succ fuel ih =>
      cases as with
      | nil => rfl
      | cons a as =>
          have shorter : ((a :: as).drop size).length ≤ fuel := by
            rw [List.length_drop]
            omega
          rw [slices, List.flatten_cons, ih shorter, List.take_append_drop]
          exact List.cons_ne_nil a as

theorem slices_map {β : Type*} (f : α → β) {size fuel : ℕ} {as : List α} :
    slices size fuel (as.map f) = (slices size fuel as).map (List.map f) := by
  induction fuel generalizing as with
  | zero => rfl
  | succ fuel ih =>
      cases as with
      | nil => rfl
      | cons a as =>
          change ((a :: as).map f).take size :: slices size fuel (((a :: as).map f).drop size) =
            ((a :: as).take size).map f :: (slices size fuel ((a :: as).drop size)).map (List.map f)
          rw [← ih, List.map_take, List.map_drop]

end Slices
end Foundations
