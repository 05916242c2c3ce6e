import SmartErp.Accounting.Invoices
import SmartErp.Procurement.Orders
import Mathlib.Data.Prod.Lex

/-!
# Intrastat declarations

`intrastat.service.ts`. The aggregation reads the invoices, customers and supplier invoices of the moment, so
each call of `generate` comes with its own. Values are numbers until they are saved.
-/

namespace SmartErp.Intrastat
open Foundations Accounting Procurement.Sourcing

abbrev Time := ℤ

inductive IntrastatDeclarationType where
  | cessioni
  | acquisti
  deriving DecidableEq

inductive IntrastatDeclarationStatus where
  | draft
  | generated
  | submitted
  | accepted
  | rejected
  deriving DecidableEq

def IntrastatDeclarationStatus.text : IntrastatDeclarationStatus → String
  | draft => "draft"
  | generated => "generated"
  | submitted => "submitted"
  | accepted => "accepted"
  | rejected => "rejected"

inductive IntrastatPeriodicity where
  | monthly
  | quarterly
  deriving DecidableEq

structure IntrastatDeclaration where
  id : Uuid
  tenantId : Uuid
  type : IntrastatDeclarationType
  periodicity : IntrastatPeriodicity := .monthly
  periodYear : ℤ
  periodMonth : Option ℤ
  periodQuarter : Option ℤ := none
  status : IntrastatDeclarationStatus := .draft
  totalValueCents : ℤ := 0
  lineCount : ℕ := 0
  admProtocollo : Option String := none
  generatedAt : Option Time := none
  submittedAt : Option Time := none
  acceptedAt : Option Time := none
  rejectedAt : Option Time := none
  rejectionReason : Option String := none
  generatedBy : Option Uuid := none
  submittedBy : Option Uuid := none
  deriving DecidableEq

inductive SourceDocType where
  | invoice
  | supplierInvoice
  deriving DecidableEq

/-- A line without its declaration, with values of type `ν`. -/
structure LineOf (ν : Type) where
  tenantId : Uuid
  position : ℕ
  partnerCountry : String
  partnerVatNumber : Option String
  nc8Code : Option String := none
  netMassKg : Option (Numeric 12 3) := none
  supplementaryUnits : Option (Numeric 14 4) := none
  valueCents : ν
  statisticalValueCents : Option ν
  currency : String := "EUR"
  naturaTransazione : Option String := some "11"
  modalitaTrasporto : Option String := none
  regimeStatistico : Option String := none
  paeseDestinazioneProvenienza : Option String
  paeseOrigine : Option String
  sourceDocType : SourceDocType
  sourceDocId : Uuid
  deriving DecidableEq

structure IntrastatLine extends LineOf ℤ where
  declarationId : Uuid
  deriving DecidableEq

structure Db where
  declarations : Table IntrastatDeclaration.id
  lines : List IntrastatLine
  deriving DecidableEq

/-! ## The status machine -/

def transitions : IntrastatDeclarationStatus → List IntrastatDeclarationStatus
  | .draft => [.generated]
  | .generated => [.submitted, .draft]
  | .submitted => [.accepted, .rejected]
  | .accepted => []
  | .rejected => []

def canIntrastatTransition (source target : IntrastatDeclarationStatus) : Bool := target ∈ transitions source

def assertIntrastatTransition (source target : IntrastatDeclarationStatus) : Except Failure Unit :=
  ensure (canIntrastatTransition source target)
    (.error s!"Invalid Intrastat transition: {source.text} → {target.text}")

/-! ## Aggregation -/

structure SupplierInvoice where
  id : Uuid
  tenantId : Uuid
  supplierInvoiceDate : Date
  totalCents : ℤ
  partnerCountry : Option String
  partnerVatNumber : Option String
  deriving DecidableEq

structure Sources where
  invoices : Table Invoice.id := ∅
  customers : Table Customer.id := ∅
  supplierInvoices : Table SupplierInvoice.id := ∅

def EU_MEMBER_STATES_EXCL_IT : List String :=
  ["AT", "BE", "BG", "HR", "CY", "CZ", "DK", "EE", "FI", "FR", "DE", "GR", "HU", "IE", "LV", "LT", "LU", "MT",
    "NL", "PL", "PT", "RO", "SK", "SI", "ES", "SE"]

/-- What `toUpperCase` makes of one character, if that is plain letters: some letters outside the alphabet
become letters of it, and other characters of the kind stay outside it. -/
def upperCase (c : Char) : List Char :=
  match c with
  | 'ı' => ['I']
  | 'ſ' => ['S']
  | 'ß' => ['S', 'S']
  | 'ﬀ' => ['F', 'F']
  | 'ﬁ' => ['F', 'I']
  | 'ﬂ' => ['F', 'L']
  | 'ﬃ' => ['F', 'F', 'I']
  | 'ﬄ' => ['F', 'F', 'L']
  | 'ﬅ' | 'ﬆ' => ['S', 'T']
  | c => [c.toUpper]

def toUpperCase (s : String) : String := String.ofList (s.toList.flatMap upperCase)

def isIntraEuPartner (country : Option String) : Bool :=
  match country.filter (· ≠ "") with
  | none => false
  | some country => EU_MEMBER_STATES_EXCL_IT.contains (toUpperCase country)

abbrev Day := ℤ ×ₗ ℤ ×ₗ ℤ

def day (d : Date) : Day := toLex ((d.year : ℤ), toLex ((d.month : ℤ), (d.day : ℤ)))

/-- `Date.UTC` takes months past the year's end or before its start, and two digits for a year of the 1900s. -/
def startOfMonth (year month : ℤ) : Day :=
  let year := if 0 ≤ year ∧ year ≤ 99 then 1900 + year else year
  toLex (year + (month - 1) / 12, toLex ((month - 1) % 12 + 1, 1))

/-- `Math.round(Number(amount) * 100)` of a decimal column. -/
def roundedCents (amount : Numeric 12 2) : JsNumber := ((JsNumber.finite amount.val).double.times (.finite 100)).round

def cessione (tenantId : Uuid) (customer : Customer) (inv : Invoice) (position : ℕ) : LineOf JsNumber where
  tenantId := tenantId
  position := position
  partnerCountry := toUpperCase (customer.country.getD "")
  partnerVatNumber := (customer.vatNumber.filter (· ≠ "")).map (toUpperCase (customer.country.getD "") ++ ·)
  valueCents := roundedCents inv.totalAmount
  statisticalValueCents := some (roundedCents inv.totalAmount)
  paeseDestinazioneProvenienza := some (toUpperCase (customer.country.getD ""))
  paeseOrigine := none
  sourceDocType := .invoice
  sourceDocId := inv.id

def acquisto (tenantId : Uuid) (si : SupplierInvoice) (position : ℕ) : LineOf JsNumber where
  tenantId := tenantId
  position := position
  partnerCountry := toUpperCase (si.partnerCountry.getD "")
  partnerVatNumber := si.partnerVatNumber
  valueCents := (JsNumber.finite si.totalCents).double
  statisticalValueCents := some (JsNumber.finite si.totalCents).double
  paeseDestinazioneProvenienza := some (toUpperCase (si.partnerCountry.getD ""))
  paeseOrigine := some (toUpperCase (si.partnerCountry.getD ""))
  sourceDocType := .supplierInvoice
  sourceDocId := si.id

def numbered {α : Type} (line : α → ℕ → LineOf JsNumber) (as : List α) : List (LineOf JsNumber) :=
  as.mapIdx fun i a => line a (i + 1)

def aggregateCessioni (sources : Sources) (tenantId : Uuid) (fromDate toDate : Day) : List (LineOf JsNumber) :=
  let invoices := sources.invoices.rows.filter fun i =>
    i.tenantId = tenantId ∧ fromDate ≤ day i.invoiceDate ∧ day i.invoiceDate < toDate
  let customerIds := (invoices.map (·.customerId)).dedup
  let customers := sources.customers.rows.filter fun c => c.tenantId = tenantId ∧ c.id ∈ customerIds
  let selected := invoices.filterMap fun inv =>
    match customers.find? (·.id = inv.customerId) with
    | none => none
    | some c => if isIntraEuPartner c.country then some (c, inv) else none
  numbered (fun (c, inv) => cessione tenantId c inv) selected

def aggregateAcquisti (sources : Sources) (tenantId : Uuid) (fromDate toDate : Day) : List (LineOf JsNumber) :=
  let supplierInvoices := sources.supplierInvoices.rows.filter fun si =>
    si.tenantId = tenantId ∧ si.partnerCountry ≠ none ∧ fromDate ≤ day si.supplierInvoiceDate ∧
      day si.supplierInvoiceDate < toDate
  numbered (acquisto tenantId) (supplierInvoices.filter fun si => isIntraEuPartner si.partnerCountry)

def aggregateLines (sources : Sources) (tenantId : Uuid) (type : IntrastatDeclarationType)
    (periodYear periodMonth : ℤ) : List (LineOf JsNumber) :=
  let fromDate := startOfMonth periodYear periodMonth
  let toDate := startOfMonth periodYear (periodMonth + 1)
  match type with
  | .cessioni => aggregateCessioni sources tenantId fromDate toDate
  | .acquisti => aggregateAcquisti sources tenantId fromDate toDate

/-! ## Operations -/

def Db.save (db : Db) (decl : IntrastatDeclaration) : Db := { db with declarations := db.declarations.save decl }

def createOrFindDraft (db : Db) (tenantId id : Uuid) (type : IntrastatDeclarationType) (periodYear periodMonth : ℤ) :
    Except Failure Db := do
  ensure (1 ≤ periodMonth ∧ periodMonth ≤ 12) (.badRequest "periodMonth must be 1..12")
  match db.declarations.rows.find? fun d => d.tenantId = tenantId ∧ d.type = type ∧
      d.periodYear = periodYear ∧ d.periodMonth = some periodMonth with
  | some _ => return db
  | none =>
      ensure (db.declarations.find? id = none) (.database "intrastat_declarations_pkey")
      return db.save { id, tenantId, type, periodYear, periodMonth := some periodMonth }

def findDeclaration (db : Db) (tenantId declarationId : Uuid) : Except Failure IntrastatDeclaration :=
  require ((db.declarations.find? declarationId).filter (·.tenantId = tenantId))
    (.notFound s!"IntrastatDeclaration {declarationId} not found")

def lineEntity (declarationId : Uuid) (candidate : LineOf JsNumber) : Except Failure IntrastatLine := do
  let valueCents ← bigintColumn candidate.valueCents
  let statisticalValueCents ← candidate.statisticalValueCents.mapM bigintColumn
  return { candidate with declarationId, valueCents, statisticalValueCents }

def generate (db : Db) (tenantId declarationId : Uuid) (actorUserId : Option Uuid) (sources : Sources) (now : Time) :
    Except Failure Db := do
  let decl ← findDeclaration db tenantId declarationId
  ensure (canIntrastatTransition decl.status .generated)
    (.unprocessable s!"Cannot generate from status '{decl.status.text}'")
  assertIntrastatTransition decl.status .generated
  let fresh := aggregateLines sources tenantId decl.type decl.periodYear (decl.periodMonth.getD 0)
  let kept := db.lines.filter fun l => !decide (l.tenantId = tenantId ∧ l.declarationId = declarationId)
  let persisted ← fresh.mapM (lineEntity declarationId)
  let totalValueCents ← bigintColumn (sumOf (fresh.map (·.valueCents)))
  return Db.save { db with lines := kept ++ persisted } { decl with
    status := .generated
    generatedAt := some now
    generatedBy := actorUserId
    totalValueCents
    lineCount := persisted.length }

def transitionStatus (db : Db) (tenantId declarationId : Uuid) (next : IntrastatDeclarationStatus)
    (apply : IntrastatDeclaration → Except Failure IntrastatDeclaration) : Except Failure Db := do
  let decl ← findDeclaration db tenantId declarationId
  ensure (canIntrastatTransition decl.status next)
    (.unprocessable s!"Invalid Intrastat transition: {decl.status.text} → {next.text}")
  let decl ← apply { decl with status := next }
  return db.save decl

def submit (db : Db) (tenantId declarationId : Uuid) (admProtocollo : String) (actorUserId : Option Uuid)
    (now : Time) : Except Failure Db :=
  transitionStatus db tenantId declarationId .submitted fun decl => do
    ensure (admProtocollo ≠ "")
      (.badRequest "admProtocollo is required to mark Intrastat declaration as submitted")
    return { decl with
      admProtocollo := some admProtocollo
      submittedAt := some now
      submittedBy := actorUserId }

def accept (db : Db) (tenantId declarationId : Uuid) (now : Time) : Except Failure Db :=
  transitionStatus db tenantId declarationId .accepted fun decl => return { decl with acceptedAt := some now }

def reject (db : Db) (tenantId declarationId : Uuid) (reason : String) (now : Time) : Except Failure Db :=
  transitionStatus db tenantId declarationId .rejected fun decl => return { decl with
    rejectedAt := some now
    rejectionReason := some reason }

def reopen (db : Db) (tenantId declarationId : Uuid) : Except Failure Db :=
  transitionStatus db tenantId declarationId .draft fun decl => return { decl with
    generatedAt := none
    totalValueCents := 0
    lineCount := 0 }

inductive Operation where
  | createOrFindDraft (tenantId id : Uuid) (type : IntrastatDeclarationType) (periodYear periodMonth : ℤ)
  | generate (tenantId declarationId : Uuid) (actorUserId : Option Uuid) (sources : Sources) (now : Time)
  | submit (tenantId declarationId : Uuid) (admProtocollo : String) (actorUserId : Option Uuid) (now : Time)
  | accept (tenantId declarationId : Uuid) (now : Time)
  | reject (tenantId declarationId : Uuid) (reason : String) (now : Time)
  | reopen (tenantId declarationId : Uuid)

def perform (db : Db) : Operation → Except Failure Db
  | .createOrFindDraft tenantId id type periodYear periodMonth =>
      createOrFindDraft db tenantId id type periodYear periodMonth
  | .generate tenantId declarationId actorUserId sources now =>
      generate db tenantId declarationId actorUserId sources now
  | .submit tenantId declarationId admProtocollo actorUserId now =>
      submit db tenantId declarationId admProtocollo actorUserId now
  | .accept tenantId declarationId now => accept db tenantId declarationId now
  | .reject tenantId declarationId reason now => reject db tenantId declarationId reason now
  | .reopen tenantId declarationId => reopen db tenantId declarationId

def next (db : Db) (op : Operation) : Db := settle db (perform db op)

end SmartErp.Intrastat
