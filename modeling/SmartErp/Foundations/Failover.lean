import Mathlib.Data.List.Infix

/-!
# One attempt after another

Candidates are tried in their order. A candidate is tried when nothing was tried before it, or when the one
before it failed with an error that may pass.
-/

namespace Foundations

variable {α β ε : Type*}

structure Tried (α ε β : Type*) where
  calls : List α
  result : Option (Except ε β)

section
variable (transient : ε → Bool) (attempt : α → Except ε β)

def passing : Except ε β → Bool
  | .ok _ => false
  | .error e => transient e

def tryNext (t : Tried α ε β) (a : α) : Tried α ε β :=
  if t.result.all (passing transient) then ⟨t.calls ++ [a], some (attempt a)⟩ else t

def cascade (as : List α) : Tried α ε β := as.foldl (tryNext transient attempt) ⟨[], none⟩

end

namespace Tried
variable {transient : ε → Bool} {attempt : α → Except ε β}

theorem foldl_stopped {t : Tried α ε β} (stopped : t.result.all (passing transient) = false) (as : List α) :
    as.foldl (tryNext transient attempt) t = t := by
  induction as with
  | nil => rfl
  | cons a as ih => rw [List.foldl_cons, tryNext, stopped, if_neg Bool.false_ne_true, ih]

theorem foldl_open {t : Tried α ε β} (going : t.result.all (passing transient) = true) (a : α) (as : List α) :
    (a :: as).foldl (tryNext transient attempt) t =
      as.foldl (tryNext transient attempt) ⟨t.calls ++ [a], some (attempt a)⟩ := by
  rw [List.foldl_cons, tryNext, if_pos going]

theorem foldl_calls {t : Tried α ε β} (going : t.result.all (passing transient) = true) (as : List α) :
    (as.foldl (tryNext transient attempt) t).calls =
      t.calls ++ as.takeWhile (fun a => passing transient (attempt a)) ++
        (as.dropWhile fun a => passing transient (attempt a)).take 1 := by
  induction as generalizing t with
  | nil => simp
  | cons a as ih =>
      rw [foldl_open going]
      cases passes : passing transient (attempt a) with
      | true =>
          rw [ih (t := ⟨t.calls ++ [a], some (attempt a)⟩) (by simpa using passes)]
          simp [passes]
      | false =>
          rw [foldl_stopped (t := ⟨t.calls ++ [a], some (attempt a)⟩) (by simpa using passes)]
          simp [passes]

theorem foldl_result {t : Tried α ε β} (last : t.result = t.calls.getLast?.map attempt) (as : List α) :
    let u := as.foldl (tryNext transient attempt) t
    u.result = u.calls.getLast?.map attempt := by
  induction as generalizing t with
  | nil => exact last
  | cons a as ih =>
      apply ih
      unfold tryNext
      split_ifs
      · simp
      · exact last

end Tried

section
variable (transient : ε → Bool) (attempt : α → Except ε β)

theorem cascade_calls (as : List α) :
    (cascade transient attempt as).calls = as.takeWhile (fun a => passing transient (attempt a)) ++
      (as.dropWhile fun a => passing transient (attempt a)).take 1 := by
  rw [cascade, Tried.foldl_calls (by rfl), List.nil_append]

theorem cascade_begins (as : List α) : (cascade transient attempt as).calls <+: as := by
  rw [cascade_calls]
  conv_rhs => rw [← List.takeWhile_append_dropWhile (p := fun a => passing transient (attempt a)) (l := as)]
  exact (List.prefix_append_right_inj _).mpr (List.take_prefix 1 _)

theorem cascade_result (as : List α) :
    (cascade transient attempt as).result = (cascade transient attempt as).calls.getLast?.map attempt :=
  Tried.foldl_result rfl as

theorem cascade_calls_cons (a : α) (as : List α) :
    (cascade transient attempt (a :: as)).calls =
      a :: if passing transient (attempt a) then (cascade transient attempt as).calls else [] := by
  rw [cascade_calls, cascade_calls]
  cases passes : passing transient (attempt a) <;> simp [passes]

theorem cascade_single (a : α) : cascade transient attempt [a] = ⟨[a], some (attempt a)⟩ := rfl

variable {transient attempt} in
theorem cascade_stops {a : α} (stays : passing transient (attempt a) = false) (as : List α) :
    cascade transient attempt (a :: as) = ⟨[a], some (attempt a)⟩ :=
  Tried.foldl_stopped (t := ⟨[a], some (attempt a)⟩) stays as

variable {transient attempt} in
theorem cascade_continues {a : α} (passes : passing transient (attempt a) = true) (b : α) (as : List α) :
    cascade transient attempt (a :: b :: as) =
      ⟨a :: (cascade transient attempt (b :: as)).calls, (cascade transient attempt (b :: as)).result⟩ := by
  have calls : (cascade transient attempt (a :: b :: as)).calls = a :: (cascade transient attempt (b :: as)).calls := by
    rw [cascade_calls_cons, if_pos passes]
  have nonempty : (cascade transient attempt (b :: as)).calls ≠ [] := by
    rw [cascade_calls_cons]
    exact List.cons_ne_nil _ _
  have result := cascade_result transient attempt (a :: b :: as)
  rw [calls, List.getLast?_cons_of_ne_nil nonempty, ← cascade_result] at result
  rw [← calls, ← result]

/-- A candidate is tried exactly when all before it fail in passing. -/
theorem mem_cascade_iff {before : List α} {a : α} {after : List α} (nodup : (before ++ a :: after).Nodup) :
    a ∈ (cascade transient attempt (before ++ a :: after)).calls ↔
      ∀ b ∈ before, passing transient (attempt b) = true := by
  induction before with
  | nil =>
      rw [List.nil_append, cascade_calls_cons]
      simp
  | cons b before ih =>
      rw [List.cons_append, List.nodup_cons] at nodup
      have other : a ≠ b := by
        rintro rfl
        exact nodup.1 (by simp)
      rw [List.cons_append, cascade_calls_cons, List.forall_mem_cons, ← ih nodup.2]
      cases passes : passing transient (attempt b) <;> simp [other]

theorem cascade_last_iff {before : List α} {a : α} {after : List α} (nodup : (before ++ a :: after).Nodup)
    (tried : ∀ b ∈ before, passing transient (attempt b) = true) :
    (cascade transient attempt (before ++ a :: after)).calls.getLast? = some a ↔
      passing transient (attempt a) = false ∨ after = [] := by
  induction before with
  | nil =>
      rw [List.nil_append] at nodup ⊢
      cases after with
      | nil => simp [cascade_single]
      | cons b after =>
          cases passes : passing transient (attempt a) with
          | false => simp [cascade_stops passes]
          | true =>
              rw [cascade_continues passes]
              have other : (cascade transient attempt (b :: after)).calls.getLast? ≠ some a := by
                intro last
                have mem := (cascade_begins transient attempt (b :: after)).subset (List.mem_of_getLast? last)
                exact (List.nodup_cons.mp nodup).1 mem
              rw [cascade_calls_cons] at other ⊢
              rw [List.getLast?_cons_cons]
              simpa using other
  | cons b before ih =>
      rw [List.cons_append] at nodup ⊢
      rw [List.forall_mem_cons] at tried
      rw [← ih (List.nodup_cons.mp nodup).2 tried.2, cascade_calls_cons, if_pos tried.1]
      cases rest : before ++ a :: after with
      | nil => simp at rest
      | cons c cs => rw [cascade_calls_cons, List.getLast?_cons_cons]

end
end Foundations
