import SmartErp.Webhooks.RetryPolicy

/-!
# Whole deliveries

Attempt after attempt, as long as the policy says so. Only the fourth and the fifth wait are long: with both
of them at their full length one hour is left of the nine for everything else, and the other waits and the
jitter can take more.
-/

namespace SmartErp.Webhooks
open Foundations

inductive Ending where
  | success
  | dlq
  | disableSubscription
  | failed (failure : Failure)
  | unfinished

def deliver (world : ℕ → Exchange) : ℕ → ℕ → List DispatchOutcome × Ending
  | 0, _ => ([], .unfinished)
  | fuel + 1, n =>
      match dispatchOnce n (world n) with
      | .error failure => ([], .failed failure)
      | .ok out =>
          if out.attempt.outcome = .success2xx then ([out], .success)
          else match out.next.action with
            | .dlq => ([out], .dlq)
            | .disableSubscription => ([out], .disableSubscription)
            | .retry =>
                let (outs, ending) := deliver world fuel (n + 1)
                (out :: outs, ending)

def total (ns : List JsNumber) : JsNumber := ns.foldr JsNumber.add (.finite 0)

@[simp] theorem total_nil : total [] = .finite 0 := rfl

@[simp] theorem total_cons (n : JsNumber) (ns : List JsNumber) : total (n :: ns) = n.add (total ns) := rfl

def scheduled (outs : List DispatchOutcome) : JsNumber := total (outs.filterMap (·.next.delayMs))

def retried (world : ℕ → Exchange) (n k : ℕ) : List ℕ := (List.range' n k).takeWhile fun i => (world i).retriable

/-- Every honoured `Retry-After` is a number. If the fifth attempt is retried, and neither it nor the fourth
under a `Retry-After`, then the first three waits and the last two jitters take at most an hour together. -/
def Punctual (world : ℕ → Exchange) : Prop :=
  (∀ n ∈ retried world 1 5, (world n).hint ≠ some .nan) ∧
    (5 ∈ retried world 1 5 → (world 4).hint = none → (world 5).hint = none →
      (world 1).pause 1 + (world 2).pause 2 + (world 3).pause 3 + (world 4).jitter 4 + (world 5).jitter 5 ≤
        60 * 60000)

theorem Exchange.wait_ne_zero {n : ℕ} (first : 1 ≤ n) (slots : n < 6) (e : Exchange) : e.wait n ≠ .finite 0 := by
  unfold wait
  split_ifs with number
  · simp
  · have positive : 0 < e.pause n := by
      cases hinted : e.hint with
      | some seconds =>
          have low := (pause_hinted (n := n) hinted fun nan => number (nan ▸ hinted)).1
          linarith
      | none =>
          have base : 0 < slot BASE_DELAYS_MS n := (by decide : ∀ n < 6, 1 ≤ n → 0 < slot BASE_DELAYS_MS n) n slots first
          have base' : (0 : ℚ) < slot BASE_DELAYS_MS n := by exact_mod_cast base
          rw [pause_unhinted hinted]
          linarith [(e.jitter_bounds slots).1]
    simpa using positive.ne'

structure Concluded (world : ℕ → Exchange) (n k : ℕ) (r : List DispatchOutcome × Ending) : Prop where
  length : r.1.length ≤ k + 1
  ending : r.2 = .success ∨ r.2 = .dlq ∨ r.2 = .disableSubscription
  done : ∀ out ∈ r.1, out.next.delayMs = some (.finite 0) ↔ out.attempt.outcome = .success2xx
  scheduled : scheduled r.1 = total ((retried world n k).map fun i => (world i).wait i)

theorem retried_stop {world : ℕ → Exchange} {n k : ℕ} (final : (world n).retriable = false) :
    retried world n k = [] := by
  cases k <;> simp [retried, List.range'_succ, final]

theorem retried_go {world : ℕ → Exchange} {n k : ℕ} (retriable : (world n).retriable = true) :
    retried world n (k + 1) = n :: retried world (n + 1) k := by
  simp [retried, List.range'_succ, retriable]

theorem retriable_undelivered {e : Exchange} (retriable : e.retriable = true) : e.outcome ≠ .success2xx := by
  rw [Exchange.retriable, decide_eq_true_eq] at retriable
  exact retriable.1

variable {world : ℕ → Exchange} {n fuel : ℕ}

theorem deliver_retry (fuel : ℕ) (first : 1 ≤ n) (slots : n < 6) (retriable : (world n).retriable = true) :
    ∃ out, out.next.delayMs = some ((world n).wait n) ∧ out.attempt.outcome ≠ .success2xx ∧
      deliver world (fuel + 1) n =
        (out :: (deliver world fuel (n + 1)).1, (deliver world fuel (n + 1)).2) := by
  obtain ⟨out, sent, outcome, next⟩ := dispatchOnce_ok (e := world n) first slots.le
  rw [Exchange.decided slots retriable] at next
  have undelivered : out.attempt.outcome ≠ .success2xx := outcome ▸ retriable_undelivered retriable
  refine ⟨out, by rw [next], undelivered, ?_⟩
  simp only [deliver, sent, if_neg undelivered, next]

theorem deliver_final {k : ℕ} (first : 1 ≤ n) (last : n ≤ MAX_ATTEMPTS)
    (final : (world n).retriable = false ∨ MAX_ATTEMPTS ≤ n ∧ k = 0) :
    Concluded world n k (deliver world (fuel + 1) n) := by
  obtain ⟨out, sent, outcome, next⟩ := dispatchOnce_ok (e := world n) first last
  have none_retried : retried world n k = [] := by
    rcases final with final | ⟨-, rfl⟩
    · exact retried_stop final
    · rfl
  by_cases delivered : (world n).outcome = .success2xx
  · rw [Exchange.decided_delivered delivered] at next
    rw [delivered] at outcome
    simp only [deliver, sent, outcome, if_true]
    constructor
    · simp
    · simp
    · simp [next, outcome]
    · simp [none_retried, scheduled, next]
  · have undelivered : out.attempt.outcome ≠ .success2xx := outcome ▸ delivered
    have decision : out.next.action ≠ .retry ∧ out.next.delayMs = none := by
      cases retriable : (world n).retriable with
      | true =>
          have spent := (final.resolve_left (by simp [retriable])).1
          rw [Exchange.decided_last spent retriable] at next
          simp [next]
      | false =>
          obtain ⟨action, delay⟩ := Exchange.decided_refused (n := n) retriable delivered
          rw [next]
          simp [action, delay]
    simp only [deliver, sent, if_neg undelivered]
    cases action : out.next.action with
    | retry => exact absurd action decision.1
    | dlq =>
        constructor
        · simp
        · simp
        · simp [decision.2, undelivered]
        · simp [none_retried, scheduled, decision.2]
    | disableSubscription =>
        constructor
        · simp
        · simp
        · simp [decision.2, undelivered]
        · simp [none_retried, scheduled, decision.2]

theorem deliver_concluded {k : ℕ} (first : 1 ≤ n) (left : n + k = 6) (enough : k < fuel) :
    Concluded world n k (deliver world fuel n) := by
  induction k generalizing n fuel with
  | zero =>
      obtain ⟨fuel, rfl⟩ := Nat.exists_eq_succ_of_ne_zero enough.ne'
      exact deliver_final first left.le (.inr ⟨left.ge, rfl⟩)
  | succ k ih =>
      obtain ⟨fuel, rfl⟩ := Nat.exists_eq_succ_of_ne_zero (Nat.ne_zero_of_lt enough)
      cases retriable : (world n).retriable with
      | false => exact deliver_final first (by simp only [MAX_ATTEMPTS]; omega) (.inl retriable)
      | true =>
          obtain ⟨out, delay, undelivered, delivered⟩ := deliver_retry fuel first (by omega) retriable
          have rest : Concluded world (n + 1) k (deliver world fuel (n + 1)) :=
            ih (by omega) (by omega) (by omega)
          rw [delivered]
          constructor
          · simpa using rest.length
          · exact rest.ending
          · rw [List.forall_mem_cons]
            refine ⟨?_, rest.done⟩
            rw [delay, Option.some_inj]
            exact iff_of_false ((world n).wait_ne_zero first (by omega)) undelivered
          · rw [retried_go retriable, List.map_cons, total_cons, ← rest.scheduled]
            simp [scheduled, delay]

/-! ## The time it takes -/

theorem total_nan {ns : List JsNumber} (mem : .nan ∈ ns) : total ns = .nan := by
  induction ns with
  | nil => cases mem
  | cons n ns ih =>
      rw [total_cons]
      rcases List.mem_cons.mp mem with rfl | mem
      · exact JsNumber.nan_add _
      · rw [ih mem, JsNumber.add_nan]

theorem total_finite (qs : List ℚ) : total (qs.map JsNumber.finite) = .finite qs.sum := by
  induction qs with
  | nil => rfl
  | cons q qs ih => rw [List.map_cons, total_cons, ih, List.sum_cons, JsNumber.add_finite]

def waited (world : ℕ → Exchange) (ns : List ℕ) : ℚ := (ns.map fun n => (world n).pause n).sum

theorem total_waits (ns : List ℕ) :
    total (ns.map fun n => (world n).wait n) =
      if ∀ n ∈ ns, (world n).hint ≠ some .nan then .finite (waited world ns) else .nan := by
  split_ifs with numbers
  · rw [waited, ← total_finite, List.map_map]
    congr 1
    apply List.map_congr_left
    intro n mem
    exact if_neg (numbers n mem)
  · push Not at numbers
    obtain ⟨n, mem, nan⟩ := numbers
    exact total_nan (List.mem_map.mpr ⟨n, mem, if_pos nan⟩)

theorem Exchange.pause_bounds (n : ℕ) (slots : n < 6) (e : Exchange) :
    0 ≤ e.pause n ∧ e.pause n ≤ max 1800000 ((slot BASE_DELAYS_MS n : ℚ) + slot JITTER_WINDOWS_MS n) := by
  cases hinted : e.hint with
  | none =>
      obtain ⟨low, high⟩ := e.jitter_bounds slots
      rw [pause_unhinted hinted]
      exact ⟨by positivity, le_max_of_le_right (by linarith)⟩
  | some seconds =>
      by_cases number : seconds = .nan
      · subst number
        simp [pause, hinted, hintMs]
      · obtain ⟨low, high⟩ := pause_hinted (n := n) hinted number
        exact ⟨by linarith, le_max_of_le_left high⟩

theorem waited_early {ns : List ℕ} (early : ns <+: [1, 2, 3, 4]) : waited world ns ≤ 13800000 := by
  have b1 := (world 1).pause_bounds 1 (by decide)
  have b2 := (world 2).pause_bounds 2 (by decide)
  have b3 := (world 3).pause_bounds 3 (by decide)
  have b4 := (world 4).pause_bounds 4 (by decide)
  have some_of : waited world ns ≤ waited world [1, 2, 3, 4] := by
    apply (early.sublist.map _).sum_le_sum
    simp [b1.1, b2.1, b3.1, b4.1]
  norm_num [slot, BASE_DELAYS_MS, JITTER_WINDOWS_MS] at b1 b2 b3 b4
  have total : waited world [1, 2, 3, 4] = (world 1).pause 1 + ((world 2).pause 2 + ((world 3).pause 3 + (world 4).pause 4)) := by
    simp [waited]
  linarith

theorem waited_all (numbers : ∀ n ∈ [1, 2, 3, 4, 5], (world n).hint ≠ some .nan) :
    waited world [1, 2, 3, 4, 5] ≤ 9 * 60 * 60000 ↔
      ((world 4).hint = none → (world 5).hint = none →
        (world 1).pause 1 + (world 2).pause 2 + (world 3).pause 3 + (world 4).jitter 4 + (world 5).jitter 5 ≤
          60 * 60000) := by
  have sum : waited world [1, 2, 3, 4, 5] = waited world [1, 2, 3, 4] + (world 5).pause 5 := by
    simp [waited]
    ring
  have early : waited world [1, 2, 3, 4] ≤ 13800000 := waited_early (List.prefix_refl [1, 2, 3, 4])
  cases fifth : (world 5).hint with
  | some seconds =>
      have short := (Exchange.pause_hinted (n := 5) fifth fun nan => numbers 5 (by decide) (nan ▸ fifth)).2
      refine iff_of_true ?_ fun _ none => nomatch none
      linarith
  | none =>
      have base : (world 5).pause 5 = 21600000 + (world 5).jitter 5 := Exchange.pause_unhinted fifth
      have jitter := ((world 5).jitter_bounds (n := 5) (by decide)).2
      have b1 := ((world 1).pause_bounds 1 (by decide)).2
      have b2 := ((world 2).pause_bounds 2 (by decide)).2
      have b3 := ((world 3).pause_bounds 3 (by decide)).2
      norm_num [slot, BASE_DELAYS_MS, JITTER_WINDOWS_MS] at jitter b1 b2 b3
      have four : waited world [1, 2, 3, 4] =
          (world 1).pause 1 + (world 2).pause 2 + (world 3).pause 3 + (world 4).pause 4 := by
        simp [waited]
        ring
      cases fourth : (world 4).hint with
      | some seconds =>
          have short := (Exchange.pause_hinted (n := 4) fourth fun nan => numbers 4 (by decide) (nan ▸ fourth)).2
          refine iff_of_true ?_ fun none => nomatch none
          linarith
      | none =>
          have base' : (world 4).pause 4 = 7200000 + (world 4).jitter 4 := Exchange.pause_unhinted fourth
          rw [sum, four, base, base']
          constructor
          · intro within _ _
            linarith
          · intro slack
            linarith [slack rfl rfl]

theorem retried_cases (world : ℕ → Exchange) : retried world 1 5 = [1, 2, 3, 4, 5] ∨ retried world 1 5 <+: [1, 2, 3, 4] := by
  have whole : retried world 1 5 <+: [1, 2, 3, 4] ++ [5] := List.takeWhile_prefix _
  exact List.prefix_concat_iff.mp whole

theorem within_iff_punctual :
    (total ((retried world 1 5).map fun n => (world n).wait n)).le (.finite (9 * 60 * 60000)) = true ↔
      Punctual world := by
  rw [total_waits, Punctual]
  split_ifs with numbers
  · rw [JsNumber.le_finite, and_iff_right numbers]
    rcases retried_cases world with all | early
    · rw [all] at numbers ⊢
      rw [waited_all numbers]
      simp
    · have last : 5 ∉ retried world 1 5 := fun mem => absurd (early.subset mem) (by decide)
      refine iff_of_true ?_ fun mem => absurd mem last
      have fits : waited world (retried world 1 5) ≤ 13800000 := waited_early early
      linarith
  · simp [numbers]

/-- A delivery makes at most six attempts and comes to an end, a delay of 0 means success, and the delays
stay within nine hours exactly for the punctual ones. -/
theorem delivery_concludes {world : ℕ → Exchange} {fuel : ℕ} (enough : 6 ≤ fuel) :
    let r := deliver world fuel 1
    r.1.length ≤ MAX_ATTEMPTS ∧
      (r.2 = .success ∨ r.2 = .dlq ∨ r.2 = .disableSubscription) ∧
      (∀ out ∈ r.1, out.next.delayMs = some (.finite 0) ↔ out.attempt.outcome = .success2xx) ∧
      ((scheduled r.1).le (.finite (9 * 60 * 60000)) = true ↔ Punctual world) := by
  have concluded : Concluded world 1 5 (deliver world fuel 1) := deliver_concluded le_rfl rfl enough
  refine ⟨concluded.length, concluded.ending, concluded.done, ?_⟩
  rw [concluded.scheduled]
  exact within_iff_punctual

namespace Outage

theorem zero_drawn : (0 : ℚ) ∈ Set.Icc (0 : ℚ) 1 := by simp

theorem one_drawn : (1 : ℚ) ∈ Set.Icc (0 : ℚ) 1 := by simp

/-- Every attempt is answered by a 503, and the jitter is drawn at one end of its window. -/
def answers (random : Set.Icc (0 : ℚ) 1) (_ : ℕ) : Exchange where
  deliveryId := 1
  random
  sent := .ok { status := some (.finite 503) }

end Outage

open Outage in
theorem delivery_concludes_calm :
    (scheduled (deliver (answers ⟨0, zero_drawn⟩) 6 1).1).le (.finite (9 * 60 * 60000)) = true :=
  (delivery_concludes (le_refl 6)).2.2.2.mpr
    ⟨by decide +kernel, fun _ _ _ => by decide +kernel⟩

open Outage in
/-- Nine hours, 26 minutes and 40 seconds. -/
theorem delivery_late :
    let delay := scheduled (deliver (answers ⟨1, one_drawn⟩) 6 1).1
    delay = .finite (9 * 60 * 60000 + 1600000) ∧ delay.le (.finite (9 * 60 * 60000)) = false := by
  decide +kernel

end SmartErp.Webhooks
