import SmartErp.Foundations.Bytes
import SmartErp.Foundations.Json
import SmartErp.Webhooks.Delivery

/-!
# Signed requests

`hmac-signer.ts`, and the request that `dispatchOnce` of `outbox-dispatcher.ts` builds, signs and hands to the
transport. The code authenticates by HMAC-SHA256, of which nothing is used here.
-/

namespace SmartErp.Webhooks
open Foundations

/-! ## The signer -/

/-- The digest of a message under a key. -/
abbrev Mac := List Byte → List Byte → List Byte

structure SignatureInputs where
  timestamp : String
  rawBody : String
  secret : String

def SignatureInputs.signedString (i : SignatureInputs) : String := i.timestamp ++ "." ++ i.rawBody

def PREFIX : String := "sha256="

def hex (digest : List Byte) : List Char :=
  digest.flatMap fun (b : Byte) => [(b / 16 : ℕ).digitChar, (b % 16 : ℕ).digitChar]

def utf8 (s : String) : List Byte := Utf8.encode s.toList

variable (mac : Mac)

def SignatureInputs.digest (i : SignatureInputs) : List Byte := mac (utf8 i.secret) (utf8 i.signedString)

def sign (i : SignatureInputs) : Except Failure String := do
  ensure (i.secret ≠ "") (.error "HmacSigner.sign: secret is required")
  ensure (i.timestamp ≠ "") (.error "HmacSigner.sign: timestamp is required")
  return PREFIX ++ String.ofList (hex (i.digest mac))

def verify (i : SignatureInputs) (candidateHeader : Option String) : Except Failure Bool := do
  match candidateHeader with
  | none => return false
  | some header =>
      if ¬ PREFIX.toList <+: header.toList then return false
      let expected ← sign mac i
      let a := utf8 expected
      let b := utf8 header
      if a.length ≠ b.length then return false
      return decide (a = b)

theorem utf8_inj {s t : String} : utf8 s = utf8 t ↔ s = t := by
  constructor
  · intro same
    have chars : s.toList = t.toList := by
      rw [← Utf8.decode_encode s.toList, ← Utf8.decode_encode t.toList]
      exact congrArg Utf8.decode same
    exact String.toList_inj.mp chars
  · rintro rfl
    rfl

theorem hex_byte (b c : Byte) (same : [(b / 16 : ℕ).digitChar, (b % 16 : ℕ).digitChar] =
    [(c / 16 : ℕ).digitChar, (c % 16 : ℕ).digitChar]) : b = c := by
  have digits : ∀ m n : Fin 16, (m : ℕ).digitChar = (n : ℕ).digitChar → m = n := by decide
  obtain ⟨high, low⟩ : (b / 16 : ℕ).digitChar = (c / 16 : ℕ).digitChar ∧ (b % 16 : ℕ).digitChar = (c % 16 : ℕ).digitChar := by
    simpa using same
  have high' : (b / 16 : ℕ) = c / 16 := Fin.mk.inj (digits ⟨b / 16, by omega⟩ ⟨c / 16, by omega⟩ high)
  have low' : (b % 16 : ℕ) = c % 16 := Fin.mk.inj (digits ⟨b % 16, by omega⟩ ⟨c % 16, by omega⟩ low)
  exact Fin.ext (by omega)

theorem hex_inj {bs cs : List Byte} (same : hex bs = hex cs) : bs = cs := by
  induction bs generalizing cs with
  | nil =>
      cases cs with
      | nil => rfl
      | cons c cs => cases same
  | cons b bs ih =>
      cases cs with
      | nil => cases same
      | cons c cs =>
          simp only [hex, List.flatMap_cons, List.cons_append, List.nil_append, List.cons.injEq] at same
          rw [hex_byte b c (by simp [same]), ih same.2.2]

section Signer

variable {mac} {i j : SignatureInputs} {header : String}

theorem sign_eq_ok : sign mac i = .ok header ↔
    i.secret ≠ "" ∧ i.timestamp ≠ "" ∧ header = PREFIX ++ String.ofList (hex (i.digest mac)) := by
  simp only [sign, bind_eq_ok, ensure_eq_ok, pure_eq_ok, exists_and_left, exists_const]
  exact and_congr_right fun _ => and_congr_right fun _ => eq_comm

theorem verify_iff : verify mac i (some header) = .ok true ↔ sign mac i = .ok header := by
  by_cases marked : PREFIX.toList <+: header.toList
  · cases signed : sign mac i with
    | error failure => simp [verify, marked, signed]
    | ok expected =>
        by_cases length : (utf8 expected).length = (utf8 header).length
        · simp [verify, marked, signed, length, utf8_inj]
        · have other : expected ≠ header := fun same => length (same ▸ rfl)
          simp [verify, marked, signed, length, other]
  · have unsigned : sign mac i ≠ .ok header := by
      intro signed
      obtain ⟨-, -, rfl⟩ := sign_eq_ok.mp signed
      exact marked (by rw [String.toList_append]; exact List.prefix_append _ _)
    simp [verify, marked, unsigned]

def Collides (mac : Mac) (key m m' : List Byte) : Prop := m ≠ m' ∧ mac key m = mac key m'

theorem append_point_inj {s t u v : List Char} (plain : '.' ∉ s) (plain' : '.' ∉ t) (same : s ++ '.' :: u = t ++ '.' :: v) :
    s = t ∧ u = v := by
  induction s generalizing t with
  | nil =>
      cases t with
      | nil => exact ⟨rfl, (List.cons.inj same).2⟩
      | cons c t => exact absurd ((List.cons.inj same).1 ▸ List.mem_cons_self) plain'
  | cons c s ih =>
      cases t with
      | nil => exact absurd ((List.cons.inj same).1 ▸ List.mem_cons_self) plain
      | cons d t =>
          obtain ⟨rfl, others⟩ := List.cons.inj same
          obtain ⟨rfl, rest⟩ := ih (List.not_mem_of_not_mem_cons plain) (List.not_mem_of_not_mem_cons plain') others
          exact ⟨rfl, rest⟩

theorem signedString_inj (plain : '.' ∉ i.timestamp.toList) (plain' : '.' ∉ j.timestamp.toList)
    (same : i.signedString = j.signedString) : i.timestamp = j.timestamp ∧ i.rawBody = j.rawBody := by
  have framed : i.timestamp.toList ++ '.' :: i.rawBody.toList = j.timestamp.toList ++ '.' :: j.rawBody.toList := by
    have chars := congrArg String.toList same
    simpa [SignatureInputs.signedString] using chars
  obtain ⟨timestamp, body⟩ := append_point_inj plain plain' framed
  exact ⟨String.toList_inj.mp timestamp, String.toList_inj.mp body⟩

/-- Who passes with the header of another message has found two messages with one digest. -/
theorem authentic (signed : sign mac i = .ok header) (secret : j.secret = i.secret)
    (passed : verify mac j (some header) = .ok true) (plain : '.' ∉ i.timestamp.toList) (plain' : '.' ∉ j.timestamp.toList) :
    j.timestamp = i.timestamp ∧ j.rawBody = i.rawBody ∨
      Collides mac (utf8 i.secret) (utf8 j.signedString) (utf8 i.signedString) := by
  obtain ⟨-, -, sent⟩ := sign_eq_ok.mp signed
  obtain ⟨-, -, met⟩ := sign_eq_ok.mp (verify_iff.mp passed)
  have digests : j.digest mac = i.digest mac := by
    have chars := congrArg String.toList (met.symm.trans sent)
    rw [String.toList_append, String.toList_append, List.append_cancel_left_eq, String.toList_ofList,
      String.toList_ofList] at chars
    exact hex_inj chars
  by_cases same : j.signedString = i.signedString
  · exact .inl (signedString_inj plain' plain same)
  · rw [SignatureInputs.digest, SignatureInputs.digest, secret] at digests
    exact .inr ⟨fun bytes => same (utf8_inj.mp bytes), digests⟩

end Signer

/-! ## The request -/

/-- `data` comes from a column of type `jsonb`. -/
structure OutboxRow where
  id : String
  tenantId : Uuid
  eventType : String
  source : String
  eventTime : String
  data : List (List Char × Json)
  stored : Json.PlainMembers data

structure SubscriptionRow where
  id : Uuid
  tenantId : Uuid
  eventType : String
  targetUrl : String
  hmacSecret : String

structure WebhookHttpRequest where
  url : String
  rawBody : String
  headers : List (String × String)
  timeoutMs : ℕ

def DEFAULT_TIMEOUT_MS : ℕ := 10000

/-- The members of the envelope, in their order. -/
def OutboxRow.event (row : OutboxRow) : Json :=
  .object [
    ("specversion".toList, .string "1.0".toList),
    ("id".toList, .string row.id.toList),
    ("type".toList, .string row.eventType.toList),
    ("source".toList, .string row.source.toList),
    ("time".toList, .string row.eventTime.toList),
    ("datacontenttype".toList, .string "application/json".toList),
    ("data".toList, .object row.data)]

def OutboxRow.rawBody (row : OutboxRow) : String := String.ofList row.event.text

structure Circumstances where
  nowIso : String
  deliveryId : Uuid
  random : Set.Icc (0 : ℚ) 1
  transport : WebhookHttpRequest → Except String WebhookHttpResponse

def Circumstances.exchange (c : Circumstances) (r : WebhookHttpRequest) : Exchange where
  deliveryId := c.deliveryId
  random := c.random
  sent := c.transport r

variable (outbox : OutboxRow) (subscription : SubscriptionRow) (timeoutMs : Option ℕ)

def request (attemptJustToExecute : ℕ) (nowIso : String) (deliveryId : Uuid) : Except Failure WebhookHttpRequest := do
  let rawBody := outbox.rawBody
  let signature ← sign mac { timestamp := nowIso, rawBody, secret := subscription.hmacSecret }
  return {
    url := subscription.targetUrl
    rawBody
    headers := [
      ("Content-Type", "application/json"),
      ("X-SmartERP-Event-Id", outbox.id),
      ("X-SmartERP-Event-Type", outbox.eventType),
      ("X-SmartERP-Timestamp", nowIso),
      ("X-SmartERP-Signature", signature),
      ("X-SmartERP-Delivery-Id", uuidText deliveryId),
      ("X-SmartERP-Delivery-Attempt", toString attemptJustToExecute)]
    timeoutMs := timeoutMs.getD DEFAULT_TIMEOUT_MS }

def dispatch (attemptJustToExecute : ℕ) (c : Circumstances) : Except Failure (WebhookHttpRequest × DispatchOutcome) := do
  ensure (1 ≤ attemptJustToExecute) (.error
    s!"attemptJustToExecute must be >= 1 (got {attemptJustToExecute})")
  ensure (attemptJustToExecute ≤ MAX_ATTEMPTS) (.error
    s!"attemptJustToExecute {attemptJustToExecute} exceeds MAX_ATTEMPTS {MAX_ATTEMPTS}")
  let sent ← request mac outbox subscription timeoutMs attemptJustToExecute c.nowIso c.deliveryId
  let out ← dispatchOnce attemptJustToExecute (c.exchange sent)
  return (sent, out)

def send (world : ℕ → Circumstances) : ℕ → ℕ → List (WebhookHttpRequest × DispatchOutcome) × Ending
  | 0, _ => ([], .unfinished)
  | fuel + 1, n =>
      match dispatch mac outbox subscription timeoutMs n (world n) with
      | .error failure => ([], .failed failure)
      | .ok (sent, out) =>
          if out.attempt.outcome = .success2xx then ([(sent, out)], .success)
          else match out.next.action with
            | .dlq => ([(sent, out)], .dlq)
            | .disableSubscription => ([(sent, out)], .disableSubscription)
            | .retry =>
                let (outs, ending) := send world fuel (n + 1)
                ((sent, out) :: outs, ending)

def WebhookHttpRequest.header (r : WebhookHttpRequest) (name : String) : Option String := r.headers.lookup name

/-- The message that a consumer checks, with its own copy of the secret. -/
def WebhookHttpRequest.received (r : WebhookHttpRequest) (secret : String) : SignatureInputs where
  timestamp := (r.header "X-SmartERP-Timestamp").getD ""
  rawBody := r.rawBody
  secret

def WebhookHttpRequest.signature (r : WebhookHttpRequest) : Option String := r.header "X-SmartERP-Signature"

/-- What a consumer can tell from the request of attempt `n`. -/
structure Verifiable (n : ℕ) (c : Circumstances) (r : WebhookHttpRequest) : Prop where
  url : r.url = subscription.targetUrl
  attempt : r.header "X-SmartERP-Delivery-Attempt" = some (toString n)
  delivery : r.header "X-SmartERP-Delivery-Id" = some (uuidText c.deliveryId)
  event : Json.parse r.rawBody.toList = some outbox.event
  verified : verify mac (r.received subscription.hmacSecret) r.signature = .ok true
  authentic : '.' ∉ c.nowIso.toList → ∀ timestamp rawBody, '.' ∉ timestamp.toList →
    verify mac { timestamp, rawBody, secret := subscription.hmacSecret } r.signature = .ok true →
    timestamp = c.nowIso ∧ rawBody = r.rawBody ∨
      Collides mac (utf8 subscription.hmacSecret) (utf8 (timestamp ++ "." ++ rawBody)) (utf8 (c.nowIso ++ "." ++ r.rawBody))

theorem parse_rawBody (row : OutboxRow) : Json.parse row.rawBody.toList = some row.event := by
  rw [OutboxRow.rawBody, String.toList_ofList]
  apply Json.parse_text
  simp [OutboxRow.event, Json.Plain, Json.PlainMembers, row.stored]

variable {mac outbox subscription timeoutMs}

theorem request_verifiable {n : ℕ} {c : Circumstances} {r : WebhookHttpRequest}
    (asked : request mac outbox subscription timeoutMs n c.nowIso c.deliveryId = .ok r) :
    Verifiable mac outbox subscription n c r := by
  obtain ⟨signature, signed, built⟩ := bind_eq_ok.mp asked
  cases pure_eq_ok.mp built
  exact {
    url := rfl
    attempt := rfl
    delivery := rfl
    event := parse_rawBody outbox
    verified := verify_iff.mpr signed
    authentic := fun plain timestamp rawBody plain' passed =>
      SmartErp.Webhooks.authentic signed (j := { timestamp, rawBody, secret := subscription.hmacSecret }) rfl passed plain plain' }

theorem dispatch_asked {n : ℕ} {c : Circumstances} {r : WebhookHttpRequest}
    (asked : request mac outbox subscription timeoutMs n c.nowIso c.deliveryId = .ok r) :
    dispatch mac outbox subscription timeoutMs n c =
      (dispatchOnce n (c.exchange r)).map (r, ·) := by
  by_cases first : 1 ≤ n
  · by_cases last : n ≤ MAX_ATTEMPTS
    · simp only [dispatch, ensure, if_pos first, if_pos last, asked]
      rfl
    · simp only [dispatch, dispatchOnce, ensure, if_pos first, if_neg last]
      rfl
  · simp only [dispatch, dispatchOnce, ensure, if_neg first]
    rfl

theorem dispatch_eq_ok {n : ℕ} {c : Circumstances} {r : WebhookHttpRequest} {out : DispatchOutcome}
    (dispatched : dispatch mac outbox subscription timeoutMs n c = .ok (r, out)) :
    request mac outbox subscription timeoutMs n c.nowIso c.deliveryId = .ok r ∧
      dispatchOnce n (c.exchange r) = .ok out := by
  simp only [dispatch, bind_eq_ok, ensure_eq_ok, pure_eq_ok, Prod.mk.injEq, exists_and_left, exists_const] at dispatched
  obtain ⟨-, -, sent, asked, out', answered, rfl, rfl⟩ := dispatched
  exact ⟨asked, answered⟩

variable {world : ℕ → Circumstances} {fuel n : ℕ}

theorem send_getElem {k : ℕ} {r : WebhookHttpRequest} {out : DispatchOutcome}
    (sent : (send mac outbox subscription timeoutMs world fuel n).1[k]? = some (r, out)) :
    dispatch mac outbox subscription timeoutMs (n + k) (world (n + k)) = .ok (r, out) := by
  induction fuel generalizing n k with
  | zero => cases sent
  | succ fuel ih =>
      unfold send at sent
      cases dispatched : dispatch mac outbox subscription timeoutMs n (world n) with
      | error failure => simp [dispatched] at sent
      | ok done =>
          obtain ⟨r', out'⟩ := done
          have only (last : [(r', out')][k]? = some (r, out)) :
              dispatch mac outbox subscription timeoutMs (n + k) (world (n + k)) = .ok (r, out) := by
            cases k with
            | zero => rw [Nat.add_zero, dispatched, Option.some.inj last]
            | succ k => cases last
          simp only [dispatched] at sent
          split_ifs at sent with delivered
          · exact only sent
          · cases action : out'.next.action with
            | dlq => exact only (by simpa [action] using sent)
            | disableSubscription => exact only (by simpa [action] using sent)
            | retry =>
                simp only [action] at sent
                cases k with
                | zero =>
                    rw [List.getElem?_cons_zero, Option.some_inj] at sent
                    rw [Nat.add_zero, dispatched, sent]
                | succ k =>
                    rw [List.getElem?_cons_succ] at sent
                    have later := ih sent
                    rwa [Nat.add_right_comm, Nat.add_assoc] at later

theorem send_deliver {asked : ℕ → WebhookHttpRequest}
    (signs : ∀ n, request mac outbox subscription timeoutMs n (world n).nowIso (world n).deliveryId = .ok (asked n)) :
    ((send mac outbox subscription timeoutMs world fuel n).1.map Prod.snd,
        (send mac outbox subscription timeoutMs world fuel n).2) =
      deliver (fun n => (world n).exchange (asked n)) fuel n := by
  induction fuel generalizing n with
  | zero => rfl
  | succ fuel ih =>
      unfold send deliver
      rw [dispatch_asked (signs n)]
      cases answered : dispatchOnce n ((world n).exchange (asked n)) with
      | error failure => rfl
      | ok out =>
          simp only [Except.map]
          split_ifs with delivered
          · rfl
          · cases out.next.action with
            | dlq => rfl
            | disableSubscription => rfl
            | retry =>
                simp only [List.map_cons, ← ih]

theorem request_signed (secret : subscription.hmacSecret ≠ "") {nowIso : String} (dated : nowIso ≠ "") (n : ℕ) (id : Uuid) :
    ∃ r, request mac outbox subscription timeoutMs n nowIso id = .ok r := by
  have signed : sign mac { timestamp := nowIso, rawBody := outbox.rawBody, secret := subscription.hmacSecret } = .ok _ :=
    sign_eq_ok.mpr ⟨secret, dated, rfl⟩
  rw [request, signed]
  exact ⟨_, rfl⟩

theorem send_unsigned (secret : subscription.hmacSecret = "") :
    send mac outbox subscription timeoutMs world (fuel + 1) 1 =
      ([], .failed (.error "HmacSigner.sign: secret is required")) := by
  have failed : dispatch mac outbox subscription timeoutMs 1 (world 1) =
      .error (.error "HmacSigner.sign: secret is required") := by
    simp only [dispatch, request, sign, ensure, secret, ne_eq, not_true_eq_false, if_false]
    rfl
  rw [send, failed]

/-- Every request of a delivery carries its number, the event of the outbox row and a signature that the
consumer's copy of the secret confirms, and that confirms no other message but one of the same digest. Without
a secret nothing is sent; with one, the answers alone decide how the delivery goes. -/
theorem deliveries_verifiable (mac : Mac) (outbox : OutboxRow) (subscription : SubscriptionRow) (timeoutMs : Option ℕ)
    (world : ℕ → Circumstances) (fuel : ℕ) :
    let sent := send mac outbox subscription timeoutMs world (fuel + 1) 1
    (∀ k r out, sent.1[k]? = some (r, out) →
      out.attempt.attemptNumber = k + 1 ∧ Verifiable mac outbox subscription (k + 1) (world (k + 1)) r) ∧
    (subscription.hmacSecret = "" → sent = ([], .failed (.error "HmacSigner.sign: secret is required"))) ∧
    (subscription.hmacSecret ≠ "" → (∀ n, (world n).nowIso ≠ "") → ∃ asked : ℕ → WebhookHttpRequest,
      (∀ k r out, sent.1[k]? = some (r, out) → r = asked (k + 1)) ∧
      (sent.1.map Prod.snd, sent.2) = deliver (fun n => (world n).exchange (asked n)) (fuel + 1) 1) := by
  refine ⟨?_, send_unsigned, ?_⟩
  · intro k r out mem
    obtain ⟨asked, answered⟩ := dispatch_eq_ok (send_getElem mem)
    rw [Nat.add_comm 1 k] at asked answered
    simp only [dispatchOnce, bind_eq_ok, ensure_eq_ok, pure_eq_ok, exists_and_left, exists_const] at answered
    obtain ⟨-, -, rfl⟩ := answered
    exact ⟨rfl, request_verifiable asked⟩
  · intro secret dated
    have signed (n : ℕ) : ∃ r, request mac outbox subscription timeoutMs n (world n).nowIso (world n).deliveryId = .ok r :=
      request_signed secret (dated n) n _
    choose asked signs using signed
    refine ⟨asked, ?_, send_deliver signs⟩
    intro k r out mem
    have made := (dispatch_eq_ok (send_getElem mem)).1
    rw [Nat.add_comm 1 k, signs] at made
    exact (Except.ok.inj made).symm

/-! ## A delivery -/

namespace Sample

/-- An invoice of 122.50 euro; the customer's name has a quote and a letter of two bytes. -/
def issued : OutboxRow where
  id := "0b6f"
  tenantId := 1
  eventType := "invoice.issued.v1"
  source := "/smarterp/invoices"
  eventTime := "2026-04-15T09:00:00.000Z"
  data := [("number".toList, .string "2026/7".toList), ("customer".toList, .string "Caff\u00e8 \"Da Ugo\"".toList),
    ("total".toList, .number (.finite (245/2))), ("lines".toList, .array [.bool true, .null])]
  stored := by
    have double : (JsNumber.finite (245/2)).double = .finite (245/2) := by decide +kernel
    simp [Json.PlainMembers, Json.Plain, Json.PlainItems, double]

def endpoint : SubscriptionRow where
  id := 5
  tenantId := 1
  eventType := "invoice.issued.v1"
  targetUrl := "https://hooks.example.it/smarterp"
  hmacSecret := "s3cret"

def checksum : Mac := fun key message => [Byte.of ((key ++ message).map Fin.val).sum]

/-- The first attempt is answered with 503, the second with 200. -/
def answers (n : ℕ) : Circumstances where
  nowIso := "2026-04-15T09:00:01Z"
  deliveryId := 9
  random := ⟨1/2, by norm_num, by norm_num⟩
  transport _ := .ok { status := some (.finite (if n = 1 then 503 else 200)) }

end Sample

open Sample in
/-- The second of two attempts succeeds; a subscription without a secret is sent nothing. -/
theorem deliveries_verifiable_issued :
    let sent := send checksum issued endpoint none answers 6 1
    sent.1.map (fun e => (e.2.attempt.attemptNumber, e.2.attempt.outcome, e.2.next.delayMs)) =
        [(1, .server5xx, some (.finite 35000)), (2, .success2xx, some (.finite 0))] ∧
      (∀ k r out, sent.1[k]? = some (r, out) → Verifiable checksum issued endpoint (k + 1) (answers (k + 1)) r) ∧
      (send checksum issued { endpoint with hmacSecret := "" } none answers 6 1).1 = [] := by
  intro sent
  refine ⟨by decide +kernel, fun k r out mem => ?_, ?_⟩
  · exact ((deliveries_verifiable checksum issued endpoint none answers 5).1 k r out mem).2
  · rw [(deliveries_verifiable checksum issued { endpoint with hmacSecret := "" } none answers 5).2.1 rfl]

end SmartErp.Webhooks
