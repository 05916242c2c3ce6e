import SmartErp.Failure
import SmartErp.Foundations.Failover
import SmartErp.Foundations.Numerals

/-!
# Deposits with up to three vendors

`conservazione.orchestrator.ts` over the registry of adapters. A vendor id is a text, as the tenant settings
hold it; the empty one counts as not given. A submission is followed by the vendors it calls.
-/

namespace SmartErp.Conservazione
open Foundations

inductive SubscriptionPlan where
  | base
  | professionale
  | enterprise
  deriving DecidableEq

inductive Policy where
  | single
  | dual
  | triple
  deriving DecidableEq

structure VersamentoRequest where
  tenantId : Uuid
  documentBody : String

structure VersamentoReceipt where
  vendorId : String
  versamentoId : String
  bundleHashSha256 : String
  acknowledgedAt : String
  rapportoDiVersamentoUrl : String
  deriving DecidableEq

structure OrchestratedReceipt extends VersamentoReceipt where
  failoverFrom : Option String
  tierPolicy : Policy
  deriving DecidableEq

/-- What an adapter throws: an object, with what `messageOf` makes of it, or any other value. A property that
is `null` is read like one that is missing. -/
inductive Thrown where
  | object (message : String) (status statusCode : JsValue)
  | primitive (value : String)
  deriving DecidableEq

structure ConservazioneAdapter where
  vendorId : String
  send : VersamentoRequest → Except Thrown VersamentoReceipt

abbrev Registry := List ConservazioneAdapter

def Registry.find (registry : Registry) (vendorId : String) : Option ConservazioneAdapter :=
  registry.find? (·.vendorId = vendorId)

def Registry.get (registry : Registry) (vendorId : String) : Except Failure ConservazioneAdapter :=
  require (registry.find vendorId) (.notFound
    s!"No Conservazione adapter registered for vendorId '{vendorId}'")

structure ConservazioneSettings where
  primary : Option String := none
  secondary : Option String := none
  tertiary : Option String := none

structure Tenant where
  id : Uuid
  plan : SubscriptionPlan
  conservazione : Option ConservazioneSettings

structure ResolvedConfig where
  primary : String
  secondary : Option String
  tertiary : Option String
  policy : Policy

def given (vendor : Option String) : Option String := vendor.filter (· ≠ "")

/-! ## Which errors may pass -/

/-- `/5\\d{2}/` at the start of a text. -/
def serverError : List Char → Bool
  | '5' :: a :: b :: _ => a.isDigit && b.isDigit
  | _ => false

def networkErrors : List String := ["ETIMEDOUT", "ECONNRESET", "ECONNREFUSED", "ENETUNREACH"]

/-- `TRANSIENT_HTTP_RX.test(message)` -/
def transientHttp (message : String) : Bool :=
  message.toList.tails.any fun rest =>
    serverError rest || networkErrors.any fun word => word.toList.isPrefixOf (rest.map Char.toUpper)

/-- `status ?? statusCode`, if it is a number. -/
def Thrown.code : Thrown → Option JsNumber
  | object _ .undefined (.number n) => some n
  | object _ (.number n) _ => some n
  | object .. | primitive _ => none

def isTransient : Thrown → Bool
  | .primitive _ => false
  | .object message status statusCode =>
      transientHttp message || (Thrown.code (.object message status statusCode)).any (JsNumber.finite 500).le

/-! ## The configuration -/

def assertVendorRegistered (registry : Registry) (vendor : String) : Except Failure Unit := do
  let _ ← registry.get vendor

def whenGiven (vendor : Option String) (check : String → Except Failure Unit) : Except Failure Unit :=
  match given vendor with
  | some v => check v
  | none => .ok ()

def validateForTier (registry : Registry) (plan : SubscriptionPlan) (settings : ConservazioneSettings) :
    Except Failure Unit := do
  let primary ← require (given settings.primary)
    (.unprocessable "A primary Conservatore must be configured for every tenant")
  assertVendorRegistered registry primary
  ensure (plan = .base → given settings.secondary = none ∧ given settings.tertiary = none) (.unprocessable
    "Base tier does not allow a secondary or tertiary Conservatore (ADR-025); upgrade the tenant to Professionale or higher to enable dual-vendor.")
  ensure (plan = .professionale → given settings.tertiary = none) (.unprocessable
    "Tertiary Conservatore is reserved for the Enterprise tier (ADR-025)")
  whenGiven settings.secondary fun secondary => do
    assertVendorRegistered registry secondary
    ensure (secondary ≠ primary) (.unprocessable "Secondary Conservatore must differ from primary")
  whenGiven settings.tertiary fun tertiary => do
    assertVendorRegistered registry tertiary
    ensure (tertiary ≠ primary ∧ some tertiary ≠ settings.secondary) (.unprocessable
      "Tertiary Conservatore must differ from primary and secondary")

def Tenant.settings (tenant : Tenant) : ConservazioneSettings :=
  let conservazione := tenant.conservazione.getD {}
  { conservazione with primary := some (conservazione.primary.getD "aruba") }

def resolveConfig (registry : Registry) (tenants : List Tenant) (tenantId : Uuid) :
    Except Failure ResolvedConfig := do
  let tenant ← require (tenants.find? (·.id = tenantId))
    (.unprocessable s!"No Tenant {tenantId} for Conservazione lookup")
  let conservazione := tenant.conservazione.getD {}
  let primary := conservazione.primary.getD "aruba"
  validateForTier registry tenant.plan ⟨some primary, conservazione.secondary, conservazione.tertiary⟩
  let policy := if (given conservazione.tertiary).isSome then .triple
    else if (given conservazione.secondary).isSome then .dual else .single
  return ⟨primary, conservazione.secondary, conservazione.tertiary, policy⟩

/-! ## Submissions -/

inductive SubmitError where
  | refused (failure : Failure)
  | vendor (error : Thrown)
  deriving DecidableEq

abbrev Submission := List String × Except SubmitError OrchestratedReceipt

def tag (receipt : VersamentoReceipt) (failoverFrom : Option String) (policy : Policy) : OrchestratedReceipt :=
  { receipt with failoverFrom, tierPolicy := policy }

def submitWithConfig (registry : Registry) (request : VersamentoRequest) (config : ResolvedConfig) : Submission :=
  match registry.get config.primary with
  | .error failure => ([], .error (.refused failure))
  | .ok primaryAdapter =>
      match primaryAdapter.send request with
      | .ok receipt => ([config.primary], .ok (tag receipt none config.policy))
      | .error err =>
          if !isTransient err then ([config.primary], .error (.vendor err))
          else match given config.secondary with
            | none => ([config.primary], .error (.vendor err))
            | some secondaryId =>
                match registry.get secondaryId with
                | .error failure => ([config.primary], .error (.refused failure))
                | .ok secondary =>
                    match secondary.send request with
                    | .ok receipt =>
                        ([config.primary, secondaryId], .ok (tag receipt (some config.primary) config.policy))
                    | .error errSecondary =>
                        match given config.tertiary with
                        | none => ([config.primary, secondaryId], .error (.vendor errSecondary))
                        | some tertiaryId =>
                            if !isTransient errSecondary then
                              ([config.primary, secondaryId], .error (.vendor errSecondary))
                            else match registry.get tertiaryId with
                              | .error failure => ([config.primary, secondaryId], .error (.refused failure))
                              | .ok tertiary =>
                                  match tertiary.send request with
                                  | .ok receipt => ([config.primary, secondaryId, tertiaryId],
                                      .ok (tag receipt (some secondaryId) config.policy))
                                  | .error errTertiary =>
                                      ([config.primary, secondaryId, tertiaryId], .error (.vendor errTertiary))

def submit (registry : Registry) (tenants : List Tenant) (request : VersamentoRequest) : Submission :=
  match resolveConfig registry tenants request.tenantId with
  | .error failure => ([], .error (.refused failure))
  | .ok config => submitWithConfig registry request config

end SmartErp.Conservazione
