import SmartErp.Failure
import SmartErp.Foundations.Double
import Mathlib.Order.Interval.Set.Defs

/-!
# One attempt of a webhook delivery

`retry-policy.ts` and `dispatchOnce` of `outbox-dispatcher.ts`. Whatever request is signed and sent, the
transport may answer it in any way, so the request is left out. Numbers are double precision.
-/

namespace SmartErp.Webhooks
open Foundations

inductive NetworkError where
  | timeout
  | connectionRefused
  | tlsError
  | unknown
  deriving DecidableEq

inductive WebhookDeliveryOutcome where
  | success2xx
  | client4xx
  | server5xx
  | timeout
  | connectionRefused
  | tlsError
  | gone410
  | notFound404
  | rateLimited429
  | unknown
  deriving DecidableEq

def NetworkError.outcome : NetworkError → WebhookDeliveryOutcome
  | timeout => .timeout
  | connectionRefused => .connectionRefused
  | tlsError => .tlsError
  | unknown => .unknown

inductive Action where
  | retry
  | dlq
  | disableSubscription
  deriving DecidableEq

structure RetryDecision where
  action : Action
  delayMs : Option JsNumber := none
  disableReason : Option String := none
  deriving DecidableEq

def MAX_ATTEMPTS : ℕ := 6

def BASE_DELAYS_MS : List ℕ := [0, 30000, 5 * 60000, 30 * 60000, 2 * 60 * 60000, 6 * 60 * 60000]

def JITTER_WINDOWS_MS : List ℕ := [0, 10000, 60000, 5 * 60000, 15 * 60000, 30 * 60000]

def slot (table : List ℕ) (attemptIdx : ℕ) : ℕ := table[attemptIdx]?.getD (table.getLastD 0)

def decideRetry (attemptJustExecuted : ℕ) (outcome : WebhookDeliveryOutcome)
    (retryAfterSeconds : Option JsNumber) (random : JsNumber) : RetryDecision :=
  if outcome = .success2xx then { action := .retry, delayMs := some (.finite 0) }
  else if outcome = .gone410 then
    { action := .disableSubscription
      disableReason := some "410 Gone — consumer indicated endpoint is permanently retired." }
  else if outcome = .notFound404 then
    { action := .disableSubscription
      disableReason := some "404 Not Found — consumer endpoint does not exist." }
  else if MAX_ATTEMPTS ≤ attemptJustExecuted then { action := .dlq }
  else match (if outcome = .rateLimited429 then retryAfterSeconds else none) with
    | some seconds =>
        let clamped := (seconds.maximum (.finite 1)).minimum (.finite (30 * 60))
        { action := .retry, delayMs := some (clamped.times (.finite 1000)) }
    | none =>
        let base : JsNumber := .finite (slot BASE_DELAYS_MS attemptJustExecuted)
        let window : JsNumber := .finite (slot JITTER_WINDOWS_MS attemptJustExecuted)
        let jitter := window.minimum (random.times (window.plus (.finite 1))).floor
        { action := .retry, delayMs := some (base.plus jitter) }

def classifyHttpStatus (status : Option JsNumber) : WebhookDeliveryOutcome :=
  match status with
  | some (.finite status) =>
      if status = 410 then .gone410
      else if status = 404 then .notFound404
      else if status = 429 then .rateLimited429
      else if 200 ≤ status ∧ status ≤ 299 then .success2xx
      else if 400 ≤ status ∧ status ≤ 499 then .client4xx
      else if 500 ≤ status ∧ status ≤ 599 then .server5xx
      else .unknown
  | _ => .unknown

structure WebhookHttpResponse where
  status : Option JsNumber
  retryAfterSeconds : Option JsNumber := none
  networkError : Option NetworkError := none
  errorMessage : Option String := none
  durationMs : JsNumber := .finite 0

/-- What an attempt meets: `sent` is the answer of the transport, or the message of what it throws. -/
structure Exchange where
  deliveryId : Uuid
  random : Set.Icc (0 : ℚ) 1
  sent : Except String WebhookHttpResponse

def Exchange.response (e : Exchange) : WebhookHttpResponse :=
  match e.sent with
  | .ok response => response
  | .error message =>
      { status := none
        networkError := some .unknown
        errorMessage := some (String.ofList (message.toList.take 2000)) }

def WebhookHttpResponse.outcome (r : WebhookHttpResponse) : WebhookDeliveryOutcome :=
  match r.networkError with
  | some error => error.outcome
  | none => classifyHttpStatus r.status

structure DeliveryAttempt where
  deliveryId : Uuid
  attemptNumber : ℕ
  outcome : WebhookDeliveryOutcome
  httpStatus : Option JsNumber
  durationMs : JsNumber
  errorMessage : Option String

structure DispatchOutcome where
  attempt : DeliveryAttempt
  next : RetryDecision

def dispatchOnce (attemptJustToExecute : ℕ) (e : Exchange) : Except Failure DispatchOutcome := do
  ensure (1 ≤ attemptJustToExecute) (.error
    s!"attemptJustToExecute must be >= 1 (got {attemptJustToExecute})")
  ensure (attemptJustToExecute ≤ MAX_ATTEMPTS) (.error
    s!"attemptJustToExecute {attemptJustToExecute} exceeds MAX_ATTEMPTS {MAX_ATTEMPTS}")
  let response := e.response
  return {
    attempt := {
      deliveryId := e.deliveryId
      attemptNumber := attemptJustToExecute
      outcome := response.outcome
      httpStatus := response.status
      durationMs := response.durationMs
      errorMessage := response.errorMessage }
    next := decideRetry attemptJustToExecute response.outcome response.retryAfterSeconds (.finite e.random) }

namespace Exchange

def outcome (e : Exchange) : WebhookDeliveryOutcome := e.response.outcome

/-- The `Retry-After` that the policy honours. -/
def hint (e : Exchange) : Option JsNumber :=
  if e.outcome = .rateLimited429 then e.response.retryAfterSeconds else none

def retriable (e : Exchange) : Bool :=
  e.outcome ≠ .success2xx ∧ e.outcome ≠ .gone410 ∧ e.outcome ≠ .notFound404

end Exchange

theorem dispatchOnce_ok {n : ℕ} {e : Exchange} (first : 1 ≤ n) (last : n ≤ MAX_ATTEMPTS) :
    ∃ out, dispatchOnce n e = .ok out ∧ out.attempt.outcome = e.outcome ∧
      out.next = decideRetry n e.outcome e.response.retryAfterSeconds (.finite e.random) := by
  simp only [dispatchOnce, ensure, if_pos first, if_pos last]
  exact ⟨_, rfl, rfl, rfl⟩

/-! ## How long a retry waits -/

def spread (window : ℕ) (random : ℚ) : ℚ := min window ⌊toDouble (random * ((window : ℚ) + 1))⌋

def hintMs : JsNumber → ℚ
  | .finite seconds => toDouble (min (max seconds 1) 1800 * 1000)
  | .infinity negative => if negative then 1000 else 1800000
  | .nan => 0

namespace Exchange

def jitter (n : ℕ) (e : Exchange) : ℚ := spread (slot JITTER_WINDOWS_MS n) e.random

def pause (n : ℕ) (e : Exchange) : ℚ :=
  match e.hint with
  | some seconds => hintMs seconds
  | none => slot BASE_DELAYS_MS n + e.jitter n

end Exchange

theorem slot_small : ∀ n < 6, slot BASE_DELAYS_MS n ≤ 21600000 ∧ slot JITTER_WINDOWS_MS n ≤ 1800000 := by
  decide

theorem spread_eq {window : ℕ} (small : window ≤ 1800000) (random : Set.Icc (0 : ℚ) 1) :
    (JsNumber.finite window).minimum
        (((JsNumber.finite random).times ((JsNumber.finite window).plus (.finite 1))).floor) =
      .finite (spread window random) ∧
    ∃ n : ℕ, spread window random = n ∧ n ≤ window := by
  obtain ⟨r, low, high⟩ := random
  have bound : (window : ℚ) ≤ 1800000 := by exact_mod_cast small
  have nonneg : 0 ≤ r * ((window : ℚ) + 1) := by positivity
  have le : r * ((window : ℚ) + 1) ≤ window + 1 := mul_le_of_le_one_left (by positivity) high
  have drawn := le_toDouble (abs_lt.mpr ⟨by linarith, by linarith⟩) (Int.cast_zero.trans_le nonneg)
  rw [Int.cast_zero] at drawn
  have window' : (JsNumber.finite window).plus (.finite 1) = .finite ((window : ℚ) + 1) := by
    have exact := JsNumber.double_safe (n := window + 1) (abs_lt.mpr ⟨by omega, by omega⟩)
    push_cast at exact
    exact exact
  have product : (JsNumber.finite r).times (.finite ((window : ℚ) + 1)) =
      .finite (toDouble (r * ((window : ℚ) + 1))) := by
    rw [JsNumber.times, JsNumber.mul_finite, JsNumber.double, if_pos]
    exact JsNumber.lt_overflow (by rw [abs_of_nonneg nonneg]; linarith)
  constructor
  · rw [window', product, JsNumber.floor_finite, JsNumber.minimum_finite, spread]
  · obtain ⟨m, hm⟩ := Int.eq_ofNat_of_zero_le (Int.floor_nonneg.mpr drawn)
    refine ⟨min window m, ?_, Nat.min_le_left _ _⟩
    rw [spread, hm]
    push_cast
    rfl

theorem clamp_bounds (q : ℚ) : 1000 ≤ min (max q 1) 1800 * 1000 ∧ min (max q 1) 1800 * 1000 ≤ 1800000 := by
  have low : 1 ≤ min (max q 1) 1800 := le_min (le_max_right q 1) (by norm_num)
  have high : min (max q 1) 1800 ≤ 1800 := min_le_right _ _
  constructor <;> linarith

theorem hint_delay {seconds : JsNumber} (number : seconds ≠ .nan) :
    ((seconds.maximum (.finite 1)).minimum (.finite (30 * 60))).times (.finite 1000) = .finite (hintMs seconds) := by
  cases seconds with
  | nan => exact absurd rfl number
  | infinity negative => cases negative <;> decide +kernel
  | finite q =>
      have clamped : ((JsNumber.finite q).maximum (.finite 1)).minimum (.finite (30 * 60)) =
          .finite (min (max q 1) 1800) := by
        rw [JsNumber.maximum_finite, JsNumber.minimum_finite]
        norm_num
      obtain ⟨low, high⟩ := clamp_bounds q
      rw [clamped, JsNumber.times, JsNumber.mul_finite, JsNumber.double, if_pos, hintMs]
      exact JsNumber.lt_overflow (by rw [abs_of_nonneg (by linarith)]; linarith)

theorem hintMs_bounds {seconds : JsNumber} (number : seconds ≠ .nan) :
    1000 ≤ hintMs seconds ∧ hintMs seconds ≤ 1800000 := by
  cases seconds with
  | nan => exact absurd rfl number
  | infinity negative => cases negative <;> norm_num [hintMs]
  | finite q =>
      obtain ⟨low, high⟩ := clamp_bounds q
      have small : |min (max q 1) 1800 * 1000| < 2 ^ 53 := abs_lt.mpr ⟨by linarith, by linarith⟩
      exact ⟨by exact_mod_cast le_toDouble (n := 1000) small (by exact_mod_cast low),
        by exact_mod_cast toDouble_le (n := 1800000) small (by exact_mod_cast high)⟩

/-! ## What is decided -/

namespace Exchange

def wait (n : ℕ) (e : Exchange) : JsNumber := if e.hint = some .nan then .nan else .finite (e.pause n)

theorem jitter_bounds {n : ℕ} (slots : n < 6) (e : Exchange) :
    0 ≤ e.jitter n ∧ e.jitter n ≤ slot JITTER_WINDOWS_MS n := by
  obtain ⟨-, m, eq, le⟩ := spread_eq (slot_small n slots).2 e.random
  rw [jitter, eq]
  exact ⟨Nat.cast_nonneg _, Nat.cast_le.mpr le⟩

theorem backoff_delay {n : ℕ} (slots : n < 6) (e : Exchange) :
    (JsNumber.finite (slot BASE_DELAYS_MS n)).plus
        ((JsNumber.finite (slot JITTER_WINDOWS_MS n)).minimum
          (((JsNumber.finite e.random).times ((JsNumber.finite (slot JITTER_WINDOWS_MS n)).plus (.finite 1))).floor)) =
      .finite (slot BASE_DELAYS_MS n + e.jitter n) := by
  obtain ⟨drawn, m, eq, le⟩ := spread_eq (slot_small n slots).2 e.random
  obtain ⟨base, window⟩ := slot_small n slots
  have exact := JsNumber.double_safe (n := slot BASE_DELAYS_MS n + m) (abs_lt.mpr ⟨by omega, by omega⟩)
  push_cast at exact
  rw [drawn, jitter, eq, JsNumber.plus, JsNumber.add_finite, exact]

theorem decided {n : ℕ} {e : Exchange} (slots : n < 6) (retriable : e.retriable = true) :
    decideRetry n e.outcome e.response.retryAfterSeconds (.finite e.random) =
      { action := .retry, delayMs := some (e.wait n) } := by
  simp only [Exchange.retriable, decide_eq_true_eq] at retriable
  obtain ⟨undelivered, present, found⟩ := retriable
  unfold decideRetry
  rw [if_neg undelivered, if_neg present, if_neg found, if_neg (show ¬ MAX_ATTEMPTS ≤ n from not_le.mpr slots)]
  change (match e.hint with | some seconds => _ | none => _) = _
  unfold wait pause
  cases hinted : e.hint with
  | none => simp only [backoff_delay slots, reduceCtorEq, if_false]
  | some seconds =>
      by_cases number : seconds = .nan
      · subst number
        rfl
      · simp only [hint_delay number, Option.some.injEq, if_neg number]

theorem decided_last {n : ℕ} {e : Exchange} (last : MAX_ATTEMPTS ≤ n) (retriable : e.retriable = true) :
    decideRetry n e.outcome e.response.retryAfterSeconds (.finite e.random) = { action := .dlq } := by
  simp only [Exchange.retriable, decide_eq_true_eq] at retriable
  obtain ⟨undelivered, present, found⟩ := retriable
  unfold decideRetry
  rw [if_neg undelivered, if_neg present, if_neg found, if_pos last]

theorem decided_delivered {n : ℕ} {e : Exchange} (delivered : e.outcome = .success2xx) :
    decideRetry n e.outcome e.response.retryAfterSeconds (.finite e.random) =
      { action := .retry, delayMs := some (.finite 0) } := by
  unfold decideRetry
  rw [if_pos delivered]

theorem decided_refused {n : ℕ} {e : Exchange} (final : e.retriable = false)
    (undelivered : e.outcome ≠ .success2xx) :
    let next := decideRetry n e.outcome e.response.retryAfterSeconds (.finite e.random)
    next.action = .disableSubscription ∧ next.delayMs = none := by
  have refused : e.outcome = .gone410 ∨ e.outcome = .notFound404 := by
    simpa [Exchange.retriable, undelivered, or_iff_not_imp_left] using final
  rcases refused with gone | absent
  · simp [decideRetry, gone]
  · simp [decideRetry, absent]

theorem pause_hinted {n : ℕ} {e : Exchange} {seconds : JsNumber} (hinted : e.hint = some seconds)
    (number : seconds ≠ .nan) : 1000 ≤ e.pause n ∧ e.pause n ≤ 1800000 := by
  unfold pause
  rw [hinted]
  exact hintMs_bounds number

theorem pause_unhinted {n : ℕ} {e : Exchange} (unhinted : e.hint = none) :
    e.pause n = slot BASE_DELAYS_MS n + e.jitter n := by
  unfold pause
  rw [unhinted]

end Exchange
end SmartErp.Webhooks
