import SmartErp.Conservazione.Cascade

/-!
# Client errors

A status from 500 on always counts as passing. A status from 400 to 499 does not, but the text of the error is
searched first, and three digits after one another are enough to find a server error in it.
-/

namespace SmartErp.Conservazione
open Foundations

namespace Thrown

def client (e : Thrown) : Bool := e.code.any fun n => (JsNumber.finite 400).le n && n.le (.finite 499)

def server (e : Thrown) : Bool := e.code.any (JsNumber.finite 500).le

def message : Thrown → String
  | object message _ _ => message
  | primitive value => value

end Thrown

theorem server_isTransient {e : Thrown} (server : e.server = true) : isTransient e = true := by
  cases e with
  | primitive value => cases server
  | object message status statusCode =>
      rw [Thrown.server] at server
      rw [isTransient, server, Bool.or_true]

theorem client_isTransient {e : Thrown} (client : e.client = true) : isTransient e = transientHttp e.message := by
  cases e with
  | primitive value => cases client
  | object message status statusCode =>
      have below : (Thrown.object message status statusCode).code.any (JsNumber.finite 500).le = false := by
        rw [Thrown.client] at client
        cases code : (Thrown.object message status statusCode).code with
        | none => rfl
        | some n =>
            rw [code, Option.any_some, Bool.and_eq_true] at client
            cases n with
            | finite q =>
                have high := (JsNumber.le_finite q 499).mp client.2
                rw [Option.any_some, ← Bool.not_eq_true, JsNumber.le_finite]
                linarith
            | nan => simp at client
            | infinity negative => cases negative <;> simp [JsNumber.le] at client
      rw [isTransient, below, Bool.or_false]
      rfl

def misread : Except Thrown VersamentoReceipt → Bool
  | .ok _ => false
  | .error e => e.client && transientHttp e.message

def refusedByServer : Except Thrown VersamentoReceipt → Bool
  | .ok _ => false
  | .error e => e.server

/-- No vendor that is called and has another one after it fails with a client error that is misread, and the
primary does not answer with a server error while only a tertiary is configured beside it. -/
structure Legible (registry : Registry) (request : VersamentoRequest) (settings : ConservazioneSettings) : Prop where
  text : ∀ before v w after, settings.reached = before ++ v :: w :: after →
    (∀ u ∈ before, registry.passes request u = true) → misread (registry.send request v) = false
  reach : given settings.secondary = none ∧ given settings.tertiary ≠ none →
    ∀ p, given settings.primary = some p → refusedByServer (registry.send request p) = false

/-- No further call is made after a client error, and it is thrown again; after a server error the next vendor
there is gets called. -/
structure FailsOver (send : String → Except Thrown VersamentoReceipt) (vendors : List String) (run : Submission) :
    Prop where
  client : ∀ v ∈ run.1, ∀ e, send v = .error e → e.client = true →
    run.1.getLast? = some v ∧ run.2 = .error (.vendor e)
  server : ∀ before v w after, vendors = before ++ v :: w :: after → v ∈ run.1 →
    ∀ e, send v = .error e → e.server = true → w ∈ run.1

section
variable {registry : Registry} {settings : ConservazioneSettings} {tenants : List Tenant} {tenant : Tenant}
  {request : VersamentoRequest}

theorem first_of_pair {p t v w : String} {before after : List String} (split : [p, t] = before ++ v :: w :: after) :
    p = v := by
  cases before with
  | nil => exact (List.cons.inj split).1
  | cons b before =>
      have length := congrArg List.length split
      simp only [List.length_cons, List.length_append, List.length_nil] at length
      omega

theorem Accepted.reached_nodup (valid : Accepted registry settings) : settings.reached.Nodup := by
  obtain ⟨p, primary⟩ := Option.ne_none_iff_exists'.mp valid.primary
  rcases ConservazioneSettings.reached_cases primary with ⟨all, -⟩ | ⟨t, -, reached, -⟩
  · rw [all]
    exact valid.nodup
  · rw [reached]
    simp

theorem client_last_iff {before after : List String} {v : String} {e : Thrown} (nodup : (before ++ v :: after).Nodup)
    (called : ∀ u ∈ before, registry.passes request u = true) (failed : registry.send request v = .error e)
    (client : e.client = true) :
    (cascade isTransient (registry.send request) (before ++ v :: after)).calls.getLast? = some v ↔
      misread (registry.send request v) = false ∨ after = [] := by
  rw [cascade_last_iff _ _ nodup called, failed]
  simp only [passing, misread, client, client_isTransient client, Bool.true_and]

theorem FailsOver.legible {policy : Policy} (valid : Accepted registry settings)
    (failsOver : FailsOver (registry.send request) settings.vendors
      (conclude policy (cascade isTransient (registry.send request) settings.reached))) :
    Legible registry request settings where
  text before v w after split called := by
    have nodup := valid.reached_nodup
    rw [split] at nodup failsOver
    have mem := (mem_cascade_iff isTransient (registry.send request) nodup).mpr called
    cases sent : registry.send request v with
    | ok receipt => rfl
    | error e =>
        by_contra wrong
        have read : e.client = true ∧ transientHttp e.message = true := by
          simpa [misread] using wrong
        have last := (client_last_iff nodup called sent read.1).mp (failsOver.client v mem e sent read.1).1
        rw [sent] at last
        exact last.elim wrong (List.cons_ne_nil _ _)
  reach alone p primary := by
    rcases ConservazioneSettings.reached_cases primary with ⟨-, other⟩ | ⟨t, -, reached, vendors⟩
    · exact absurd alone other
    · have nodup := valid.nodup
      rw [vendors] at nodup failsOver
      rw [reached, cascade_single] at failsOver
      cases sent : registry.send request p with
      | ok receipt => rfl
      | error e =>
          by_contra refused
          have server : e.server = true := by simpa [refusedByServer] using refused
          have mem := failsOver.server [] p t [] rfl (by simp [conclude]) e sent server
          simp only [conclude, List.mem_singleton] at mem
          simp [mem] at nodup

theorem Legible.failsOver {policy : Policy} (valid : Accepted registry settings)
    (legible : Legible registry request settings) :
    FailsOver (registry.send request) settings.vendors
      (conclude policy (cascade isTransient (registry.send request) settings.reached)) where
  client v mem e sent client := by
    have within := (cascade_begins isTransient (registry.send request) settings.reached).subset mem
    obtain ⟨before, after, split⟩ := List.append_of_mem within
    have nodup := valid.reached_nodup
    have result := cascade_result isTransient (registry.send request) settings.reached
    have last : (cascade isTransient (registry.send request) settings.reached).calls.getLast? = some v := by
      rw [split] at nodup
      simp only [conclude, split] at mem ⊢
      have called := (mem_cascade_iff isTransient (registry.send request) nodup).mp mem
      rw [client_last_iff nodup called sent client]
      cases after with
      | nil => exact .inr rfl
      | cons w after => exact .inl (legible.text before v w after split called)
    refine ⟨last, ?_⟩
    rw [last, Option.map_some, sent] at result
    simp only [conclude, result]
  server before v w after split mem e sent server := by
    obtain ⟨p, primary⟩ := Option.ne_none_iff_exists'.mp valid.primary
    rcases ConservazioneSettings.reached_cases primary with ⟨all, -⟩ | ⟨t, alone, -, vendors⟩
    · have nodup := valid.nodup
      simp only [conclude, all, split] at mem ⊢
      rw [split] at nodup
      have called := (mem_cascade_iff isTransient (registry.send request) nodup).mp mem
      rw [List.append_cons] at nodup ⊢
      refine (mem_cascade_iff isTransient (registry.send request) nodup).mpr ?_
      intro u member
      rcases List.mem_append.mp member with old | new
      · exact called u old
      · rw [List.mem_singleton.mp new, sent]
        exact server_isTransient server
    · rw [vendors] at split
      have refused := legible.reach alone p primary
      rw [first_of_pair split, sent] at refused
      rw [refusedByServer, server] at refused
      cases refused

/-- Client errors stop the cascade and server errors carry it on exactly where the texts are legible. -/
theorem fails_over_iff (found : tenants.find? (·.id = request.tenantId) = some tenant)
    (accepted : validateForTier registry tenant.plan tenant.settings = .ok ()) :
    FailsOver (registry.send request) tenant.settings.vendors (submit registry tenants request) ↔
      Legible registry request tenant.settings := by
  have valid := validateForTier_ok accepted
  rw [submit_eq found accepted]
  exact ⟨FailsOver.legible valid, Legible.failsOver valid⟩

end

open Sample in
theorem unavailable_legible : Legible (registry unavailable) request (tenant (some "infocert") none).settings where
  text before v w after split _ := by
    rw [← first_of_pair (show ["aruba", "infocert"] = before ++ v :: w :: after from split)]
    decide +kernel
  reach alone := nomatch alone.1

open Sample in
theorem fails_over_unavailable :
    FailsOver ((registry unavailable).send request) (tenant (some "infocert") none).settings.vendors
      (submit (registry unavailable) [tenant (some "infocert") none] request) :=
  (fails_over_iff rfl rfl).mpr unavailable_legible

open Sample in
/-- The amount in the text of the error looks like a server error. -/
theorem client_error_fails_over :
    let refused : Thrown := .object "Fattura da 1500,00 EUR: IdPaese mancante" (.number (.finite 400)) .undefined
    let run := submit (registry refused) [tenant (some "infocert") none] request
    refused.client = true ∧ (registry refused).send request "aruba" = .error refused ∧
      run = (["aruba", "infocert"], .ok (tag (receipt "infocert") (some "aruba") .dual)) := by
  refine ⟨by decide +kernel, rfl, ?_⟩
  decide +kernel

end SmartErp.Conservazione
