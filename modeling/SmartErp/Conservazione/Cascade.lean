import SmartErp.Conservazione.Orchestrator

/-!
# The cascade

The nested branches try one vendor after another, except that a tertiary vendor without a secondary one is
accepted and never tried.
-/

namespace SmartErp.Conservazione
open Foundations

def Registry.send (registry : Registry) (request : VersamentoRequest) (vendorId : String) :
    Except Thrown VersamentoReceipt :=
  match registry.find vendorId with
  | some adapter => adapter.send request
  | none => .error (.primitive "not registered")

namespace ConservazioneSettings

def vendors (settings : ConservazioneSettings) : List String :=
  (given settings.primary).toList ++ (given settings.secondary).toList ++ (given settings.tertiary).toList

def reached (settings : ConservazioneSettings) : List String :=
  if given settings.secondary = none then (given settings.primary).toList else settings.vendors

def policy (settings : ConservazioneSettings) : Policy :=
  if (given settings.tertiary).isSome then .triple
  else if (given settings.secondary).isSome then .dual else .single

end ConservazioneSettings

def conclude (policy : Policy) (t : Tried String Thrown VersamentoReceipt) : Submission :=
  (t.calls, match t.result with
    | some (.ok receipt) => .ok (tag receipt t.calls.dropLast.getLast? policy)
    | some (.error err) => .error (.vendor err)
    | none => .error (.refused (.error "no vendor")))

theorem given_eq_some {vendor : Option String} {v : String} (eq : given vendor = some v) : vendor = some v := by
  rw [given, Option.filter_eq_some_iff] at eq
  exact eq.1

structure Accepted (registry : Registry) (settings : ConservazioneSettings) : Prop where
  primary : given settings.primary ≠ none
  registered : ∀ v ∈ settings.vendors, ∃ adapter, registry.find v = some adapter
  nodup : settings.vendors.Nodup

section
variable {registry : Registry} {plan : SubscriptionPlan} {settings : ConservazioneSettings}
  {tenants : List Tenant} {tenant : Tenant} {request : VersamentoRequest}

theorem assertVendorRegistered_ok {v : String} {u : Unit} (ok : assertVendorRegistered registry v = .ok u) :
    ∃ adapter, registry.find v = some adapter := by
  simp only [assertVendorRegistered, Registry.get, bind_eq_ok, require_eq_ok] at ok
  obtain ⟨adapter, found, -⟩ := ok
  exact ⟨adapter, found⟩

theorem whenGiven_ok {vendor : Option String} {check : String → Except Failure Unit} {u : Unit}
    (ok : whenGiven vendor check = .ok u) {v : String} (eq : given vendor = some v) : check v = .ok () := by
  rw [whenGiven, eq] at ok
  exact ok

theorem validateForTier_ok (accepted : validateForTier registry plan settings = .ok ()) :
    Accepted registry settings := by
  simp only [validateForTier, bind_eq_ok, require_eq_ok, ensure_eq_ok] at accepted
  obtain ⟨p, primary, _, isPrimary, -, -, -, -, _, secondary, tertiary⟩ := accepted
  have second {s : String} (eq : given settings.secondary = some s) :
      (∃ adapter, registry.find s = some adapter) ∧ s ≠ p := by
    have checked := whenGiven_ok secondary eq
    simp only [bind_eq_ok, ensure_eq_ok] at checked
    obtain ⟨_, registered, differ⟩ := checked
    exact ⟨assertVendorRegistered_ok registered, differ⟩
  have third {t : String} (eq : given settings.tertiary = some t) :
      (∃ adapter, registry.find t = some adapter) ∧ t ≠ p ∧ some t ≠ settings.secondary := by
    have checked := whenGiven_ok tertiary eq
    simp only [bind_eq_ok, ensure_eq_ok] at checked
    obtain ⟨_, registered, differ⟩ := checked
    exact ⟨assertVendorRegistered_ok registered, differ⟩
  refine ⟨by simp [primary], ?_, ?_⟩
  · intro v mem
    simp only [ConservazioneSettings.vendors, List.mem_append, Option.mem_toList, primary,
      Option.some.injEq] at mem
    rcases mem with (rfl | eq) | eq
    · exact assertVendorRegistered_ok isPrimary
    · exact (second eq).1
    · exact (third eq).1
  · cases eq : given settings.secondary with
    | none =>
        cases eq' : given settings.tertiary with
        | none => simp [ConservazioneSettings.vendors, primary, eq, eq']
        | some t => simp [ConservazioneSettings.vendors, primary, eq, eq', (third eq').2.1.symm]
    | some s =>
        cases eq' : given settings.tertiary with
        | none => simp [ConservazioneSettings.vendors, primary, eq, eq', (second eq).2.symm]
        | some t =>
            have differ : s ≠ t := by
              rintro rfl
              exact (third eq').2.2 (given_eq_some eq).symm
            simp [ConservazioneSettings.vendors, primary, eq, eq', (second eq).2.symm, (third eq').2.1.symm, differ]

theorem Registry.get_eq {v : String} {adapter : ConservazioneAdapter} (found : registry.find v = some adapter) :
    registry.get v = .ok adapter := by
  rw [Registry.get, found]
  rfl

theorem Registry.send_eq {v : String} {adapter : ConservazioneAdapter} (found : registry.find v = some adapter) :
    registry.send request v = adapter.send request := by
  rw [Registry.send, found]

/-- The branches are the cascade over the vendors they reach. -/
theorem submitWithConfig_eq (accepted : Accepted registry settings) {p : String}
    (primary : given settings.primary = some p) (policy : Policy) :
    submitWithConfig registry request ⟨p, settings.secondary, settings.tertiary, policy⟩ =
      conclude policy (cascade isTransient (registry.send request) settings.reached) := by
  have registered (v : String) (mem : v ∈ settings.vendors) :
      ∃ adapter, registry.get v = .ok adapter ∧ adapter.send request = registry.send request v := by
    obtain ⟨adapter, found⟩ := accepted.registered v mem
    exact ⟨adapter, Registry.get_eq found, (Registry.send_eq found).symm⟩
  obtain ⟨first, gotFirst, sentFirst⟩ := registered p (by simp [ConservazioneSettings.vendors, primary])
  unfold submitWithConfig ConservazioneSettings.reached ConservazioneSettings.vendors
  simp only [gotFirst, sentFirst, primary, Option.toList_some]
  cases secondary : given settings.secondary with
  | none =>
      rw [if_pos rfl, cascade_single]
      cases sent : registry.send request p with
      | ok receipt => rfl
      | error err => simp [conclude, ite_self]
  | some s =>
      obtain ⟨second, gotSecond, sentSecond⟩ := registered s (by simp [ConservazioneSettings.vendors, secondary])
      rw [if_neg (Option.some_ne_none s), Option.toList_some, List.append_assoc, List.singleton_append,
        List.singleton_append]
      cases sent : registry.send request p with
      | ok receipt =>
          rw [cascade_stops (by rw [sent]; rfl)]
          simp [conclude, sent]
      | error err =>
          cases passes : isTransient err with
          | false =>
              rw [cascade_stops (by rw [sent]; exact passes)]
              simp [conclude, sent, passes]
          | true =>
              rw [cascade_continues (by rw [sent]; exact passes)]
              simp only [passes, gotSecond, sentSecond, Bool.not_true, Bool.false_eq_true, if_false]
              cases sent' : registry.send request s with
              | ok receipt =>
                  rw [cascade_stops (by rw [sent']; rfl)]
                  simp [conclude, sent']
              | error err' =>
                  cases tertiary : given settings.tertiary with
                  | none =>
                      rw [Option.toList_none, cascade_single]
                      simp [conclude, sent']
                  | some t =>
                      obtain ⟨third, gotThird, sentThird⟩ :=
                        registered t (by simp [ConservazioneSettings.vendors, tertiary])
                      rw [Option.toList_some]
                      cases passes' : isTransient err' with
                      | false =>
                          rw [cascade_stops (by rw [sent']; exact passes')]
                          simp [conclude, sent', passes']
                      | true =>
                          rw [cascade_continues (by rw [sent']; exact passes'), cascade_single]
                          cases sent'' : registry.send request t <;>
                          · simp [conclude, passes', gotThird, sentThird, sent'']

theorem submit_eq (found : tenants.find? (·.id = request.tenantId) = some tenant)
    (accepted : validateForTier registry tenant.plan tenant.settings = .ok ()) :
    submit registry tenants request = conclude tenant.settings.policy
      (cascade isTransient (registry.send request) tenant.settings.reached) := by
  have valid := validateForTier_ok accepted
  obtain ⟨p, primary⟩ := Option.ne_none_iff_exists'.mp valid.primary
  rw [← submitWithConfig_eq valid primary]
  have resolved : resolveConfig registry tenants request.tenantId =
      .ok ⟨p, tenant.settings.secondary, tenant.settings.tertiary, tenant.settings.policy⟩ := by
    have name : (tenant.conservazione.getD {}).primary.getD "aruba" = p :=
      Option.some_inj.mp (given_eq_some primary)
    rw [Tenant.settings, name] at accepted
    simp only [resolveConfig, bind_eq_ok, require_eq_ok]
    refine ⟨tenant, found, (), ?_, ?_⟩
    · rw [name]
      exact accepted
    · rw [name]
      rfl
  rw [submit, resolved]

def Registry.passes (registry : Registry) (request : VersamentoRequest) (v : String) : Bool :=
  passing isTransient (registry.send request v)

theorem ConservazioneSettings.reached_cases {p : String} (primary : given settings.primary = some p) :
    (settings.reached = settings.vendors ∧ ¬ (given settings.secondary = none ∧ given settings.tertiary ≠ none)) ∨
      ∃ t, (given settings.secondary = none ∧ given settings.tertiary ≠ none) ∧ settings.reached = [p] ∧
        settings.vendors = [p, t] := by
  unfold reached vendors
  rw [primary]
  cases secondary : given settings.secondary with
  | some s => simp
  | none =>
      cases tertiary : given settings.tertiary with
      | none => simp
      | some t => simp

theorem conclude_reached_iff (valid : Accepted registry settings) (policy : Policy) :
    conclude policy (cascade isTransient (registry.send request) settings.reached) =
        conclude policy (cascade isTransient (registry.send request) settings.vendors) ↔
      (given settings.secondary = none ∧ given settings.tertiary ≠ none →
        ∀ p, given settings.primary = some p → registry.passes request p = false) := by
  obtain ⟨p, primary⟩ := Option.ne_none_iff_exists'.mp valid.primary
  rcases ConservazioneSettings.reached_cases primary with ⟨all, other⟩ | ⟨t, alone, reached, vendors⟩
  · rw [all]
    exact iff_of_true rfl fun alone => absurd alone other
  · rw [reached, vendors, primary, cascade_single]
    cases passes : registry.passes request p with
    | false =>
        rw [cascade_stops passes]
        refine iff_of_true rfl fun _ q eq => ?_
        rw [← Option.some_inj.mp eq, passes]
    | true =>
        rw [cascade_continues passes, cascade_single]
        refine iff_of_false ?_ fun none => ?_
        · intro same
          simpa [conclude] using congrArg Prod.fst same
        · have stays := none alone p rfl
          rw [passes] at stays
          cases stays

/-- For an accepted configuration the submission is the cascade over the configured vendors, unless the primary
fails in passing and only a tertiary is configured beside it. -/
theorem submit_cascades_iff (found : tenants.find? (·.id = request.tenantId) = some tenant)
    (accepted : validateForTier registry tenant.plan tenant.settings = .ok ()) :
    let settings := tenant.settings
    let tried := cascade isTransient (registry.send request) settings.vendors
    settings.vendors.Nodup ∧ tried.calls <+: settings.vendors ∧
      (∀ before v after, settings.vendors = before ++ v :: after →
        (v ∈ tried.calls ↔ ∀ u ∈ before, registry.passes request u = true)) ∧
      tried.result = tried.calls.getLast?.map (registry.send request) ∧
      (submit registry tenants request = conclude settings.policy tried ↔
        (given settings.secondary = none ∧ given settings.tertiary ≠ none →
          ∀ p, given settings.primary = some p → registry.passes request p = false)) := by
  intro settings tried
  have valid : Accepted registry settings := validateForTier_ok accepted
  refine ⟨valid.nodup, cascade_begins _ _ _, ?_, cascade_result _ _ _, ?_⟩
  · intro before v after split
    have nodup := valid.nodup
    rw [split] at nodup
    rw [show tried = cascade isTransient (registry.send request) settings.vendors from rfl, split]
    exact mem_cascade_iff _ _ nodup
  · rw [submit_eq found accepted]
    exact conclude_reached_iff valid settings.policy

end

namespace Sample

def request : VersamentoRequest := ⟨1, "<xml>fake</xml>"⟩

def receipt (vendorId : String) : VersamentoReceipt := ⟨vendorId, "v-1", "0", "2026-04-15T10:00:00Z", "https://r/1"⟩

def unavailable : Thrown := .object "SOAP fault: 503 Service Unavailable" (.number (.finite 503)) .undefined

/-- The first vendor fails with the given error, the other one takes every document. -/
def registry (err : Thrown) : Registry :=
  [⟨"aruba", fun _ => .error err⟩, ⟨"infocert", fun _ => .ok (receipt "infocert")⟩]

def tenant (secondary tertiary : Option String) : Tenant :=
  ⟨1, .enterprise, some ⟨some "aruba", secondary, tertiary⟩⟩

end Sample

open Sample in
theorem submit_cascades_dual :
    let settings := (tenant (some "infocert") none).settings
    submit (registry unavailable) [tenant (some "infocert") none] request =
      conclude settings.policy (cascade isTransient ((registry unavailable).send request) settings.vendors) :=
  (submit_cascades_iff rfl rfl).2.2.2.2.mpr fun alone => nomatch alone.1

open Sample in
/-- A tertiary vendor without a secondary one is left untried. -/
theorem submit_leaves_tertiary :
    let settings := (tenant none (some "infocert")).settings
    failureOf (validateForTier (registry unavailable) .enterprise settings) = none ∧
      settings.vendors = ["aruba", "infocert"] ∧
      submit (registry unavailable) [tenant none (some "infocert")] request =
        (["aruba"], .error (.vendor unavailable)) ∧
      conclude settings.policy (cascade isTransient ((registry unavailable).send request) settings.vendors) =
        (["aruba", "infocert"], .ok (tag (receipt "infocert") (some "aruba") .triple)) := by
  refine ⟨rfl, rfl, rfl, rfl⟩

end SmartErp.Conservazione
