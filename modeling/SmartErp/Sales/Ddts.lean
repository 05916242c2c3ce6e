import SmartErp.Sales.Orders
import SmartErp.Procurement.SupplierInvoices
import Mathlib.Data.List.Dedup
import Mathlib.Data.List.Perm.Subperm

/-!
# Delivery notes

The DDT part of `sales-depth.service.ts`. Dates are texts, and addresses the texts of their JSON. An id that is
no uuid is refused by the database, like any value that does not fit its column.
-/

namespace SmartErp.Sales.Ddts
open Foundations

inductive DdtStatus where
  | draft
  | issued
  | inTransit
  | delivered
  | invoiced
  | returned
  | lost
  | disputed
  | cancelled
  deriving DecidableEq

def DdtStatus.text : DdtStatus → String
  | draft => "draft"
  | issued => "issued"
  | inTransit => "in_transit"
  | delivered => "delivered"
  | invoiced => "invoiced"
  | returned => "returned"
  | lost => "lost"
  | disputed => "disputed"
  | cancelled => "cancelled"

inductive DdtCausale where
  | vendita
  | contoVisione
  | contoLavorazione
  | reso
  | tentataVendita
  | campionatura
  | altro
  deriving DecidableEq

structure Ddt where
  id : Uuid
  tenantId : Uuid
  ddtNumber : String
  customerId : Uuid
  salesOrderId : Option Uuid
  issueDate : String
  shippedAt : Option String := none
  deliveredAt : Option String := none
  status : DdtStatus
  causaleTrasporto : DdtCausale
  carrierId : Option Uuid
  trackingNumber : Option String := none
  packageCount : ℕ
  totalWeightKg : Option (Numeric 10 3)
  shipFromAddress : String
  shipToAddress : String
  invoiceId : Option Uuid := none
  notes : Option String
  deriving DecidableEq

structure DdtLine where
  tenantId : Uuid
  ddtId : Uuid
  productId : Uuid
  salesOrderLineId : Option Uuid
  description : String
  quantity : Numeric 14 4
  unitOfMeasure : String
  serialIds : List String
  lotId : Option Uuid
  deriving DecidableEq

structure Db where
  ddts : Table Ddt.id
  lines : List DdtLine

structure DdtLineInputDto where
  productId : Uuid
  salesOrderLineId : Option Uuid := none
  description : String
  quantity : String
  unitOfMeasure : Option String := none
  serialIds : Option (List String) := none
  lotId : Option Uuid := none
  isNumberString : (Procurement.numericString quantity).isSome

structure CreateDdtDto where
  customerId : Uuid
  salesOrderId : Option Uuid := none
  issueDate : String
  causaleTrasporto : Option DdtCausale := none
  carrierId : Option Uuid := none
  packageCount : Option ℕ := none
  totalWeightKg : Option String := none
  shipFromAddress : Option String := none
  shipToAddress : Option String := none
  notes : Option String := none
  lines : List DdtLineInputDto
  arrayMinSize : lines ≠ []

structure IssueDdtDto where
  carrierId : Option Uuid := none
  trackingNumber : Option String := none

structure MarkInTransitDdtDto where
  trackingNumber : Option String := none
  shippedAt : Option String := none

structure MarkDeliveredDdtDto where
  deliveredAt : Option String := none

/-! ## The status machine -/

def transitions : DdtStatus → List DdtStatus
  | .draft => [.issued, .cancelled]
  | .issued => [.inTransit, .delivered, .cancelled]
  | .inTransit => [.delivered, .returned, .lost, .disputed]
  | .delivered => [.invoiced, .disputed]
  | .disputed => [.delivered, .returned, .lost]
  | .invoiced => []
  | .returned => []
  | .lost => []
  | .cancelled => []

def canDdtTransition (source target : DdtStatus) : Bool := target ∈ transitions source

/-! ## Operations -/

def nextDdtNumber (db : Db) (tenantId : Uuid) (year : ℕ) : String :=
  let count := db.ddts.rows.countP (·.tenantId = tenantId)
  s!"DDT-{year}-{padStart (toString (count + 1)) 5}"

def numericColumn (p s : ℕ) (text : String) : Except Failure (Numeric p s) := do
  let value ← require (Procurement.numericString text) (.database "invalid input syntax for type numeric")
  column p s value

def lineEntity (tenantId ddtId : Uuid) (l : DdtLineInputDto) : Except Failure DdtLine := do
  let quantity ← numericColumn 14 4 l.quantity
  return {
    tenantId, ddtId, quantity
    productId := l.productId
    salesOrderLineId := l.salesOrderLineId
    description := l.description
    unitOfMeasure := l.unitOfMeasure.getD "pz"
    serialIds := l.serialIds.getD []
    lotId := l.lotId }

def createDdt (db : Db) (tenantId id : Uuid) (year : ℕ) (dto : CreateDdtDto) : Except Failure Db := do
  let ddtNumber := nextDdtNumber db tenantId year
  let totalWeightKg ← dto.totalWeightKg.mapM (numericColumn 10 3)
  ensure (db.ddts.find? id = none) (.database "ddts_pkey")
  ensure (∀ d ∈ db.ddts.rows, d.tenantId = tenantId → d.ddtNumber ≠ ddtNumber)
    (.database "duplicate key value violates unique constraint")
  let ddt : Ddt := {
    id, tenantId, ddtNumber, totalWeightKg
    customerId := dto.customerId
    salesOrderId := dto.salesOrderId
    issueDate := dto.issueDate
    status := .draft
    causaleTrasporto := dto.causaleTrasporto.getD .vendita
    carrierId := dto.carrierId
    packageCount := dto.packageCount.getD 1
    shipFromAddress := dto.shipFromAddress.getD "\x7b\x7d"
    shipToAddress := dto.shipToAddress.getD "\x7b\x7d"
    notes := dto.notes }
  let lineEntities ← dto.lines.mapM (lineEntity tenantId id)
  return ⟨db.ddts.save ddt, db.lines ++ lineEntities⟩

def getDdt (db : Db) (tenantId id : Uuid) : Except Failure Ddt :=
  require ((db.ddts.find? id).filter (·.tenantId = tenantId)) (.notFound s!"DDT {id} not found")

def transitionDdt (db : Db) (tenantId id : Uuid) (next : DdtStatus) (mutator : Ddt → Ddt) : Except Failure Db := do
  let d ← getDdt db tenantId id
  ensure (canDdtTransition d.status next) (.badRequest s!"Invalid DDT transition: {d.status.text} → {next.text}")
  return { db with ddts := db.ddts.save (mutator { d with status := next }) }

def issueDdt (db : Db) (tenantId id : Uuid) (dto : IssueDdtDto) : Except Failure Db :=
  transitionDdt db tenantId id .issued fun d => { d with
    trackingNumber := dto.trackingNumber.or d.trackingNumber
    carrierId := dto.carrierId.or d.carrierId }

def markDdtInTransit (db : Db) (tenantId id : Uuid) (dto : MarkInTransitDdtDto) (now : String) :
    Except Failure Db :=
  transitionDdt db tenantId id .inTransit fun d => { d with
    shippedAt := some (dto.shippedAt.getD now)
    trackingNumber := dto.trackingNumber.or d.trackingNumber }

def markDdtDelivered (db : Db) (tenantId id : Uuid) (dto : MarkDeliveredDdtDto) (now : String) :
    Except Failure Db :=
  transitionDdt db tenantId id .delivered fun d => { d with deliveredAt := some (dto.deliveredAt.getD now) }

def cancelDdt (db : Db) (tenantId ddtId : Uuid) : Except Failure Db := transitionDdt db tenantId ddtId .cancelled id
def returnDdt (db : Db) (tenantId ddtId : Uuid) : Except Failure Db := transitionDdt db tenantId ddtId .returned id
def markDdtLost (db : Db) (tenantId ddtId : Uuid) : Except Failure Db := transitionDdt db tenantId ddtId .lost id
def disputeDdt (db : Db) (tenantId ddtId : Uuid) : Except Failure Db := transitionDdt db tenantId ddtId .disputed id

def invoiceDdt (db : Db) (tenantId id invoiceId : Uuid) : Except Failure Db :=
  transitionDdt db tenantId id .invoiced fun d => { d with invoiceId := some invoiceId }

/-! ## Bundles for an invoice -/

structure InvoiceLine where
  productId : Uuid
  description : String
  quantity : String
  unitOfMeasure : String
  ddtRef : String
  deriving DecidableEq

structure DdtReference where
  id : Uuid
  ddtNumber : String
  issueDate : String
  deriving DecidableEq

structure InvoicePayload where
  customerId : Uuid
  ddts : List DdtReference
  lines : List InvoiceLine
  deriving DecidableEq

def linesOf (db : Db) (d : Ddt) : List DdtLine := db.lines.filter (·.ddtId = d.id)

def invoiceLine (d : Ddt) (line : DdtLine) : InvoiceLine :=
  ⟨line.productId, line.description, line.quantity.text, line.unitOfMeasure, d.ddtNumber⟩

def prepareInvoiceFromDdts (db : Db) (tenantId : Uuid) (ddtIds : List Uuid) : Except Failure InvoicePayload := do
  ensure (ddtIds.length ≠ 0) (.badRequest "At least one DDT id is required")
  let ddts := db.ddts.rows.filter fun d => d.tenantId = tenantId ∧ d.id ∈ ddtIds
  ensure (ddts.length = ddtIds.length) (.notFound
    s!"Found {ddts.length} of {ddtIds.length} DDT ids; some are missing or wrong tenant")
  let customerIds := (ddts.map (·.customerId)).dedup
  ensure (¬ 1 < customerIds.length)
    (.badRequest "All DDTs must belong to the same customer to bundle into a single invoice")
  ddts.forM fun d => ensure (d.status = .delivered)
    (.badRequest s!"DDT {d.id} is in status {d.status.text}; must be 'delivered' to invoice")
  let customerId ← require customerIds.head? (.error "customerIds is empty")
  return {
    customerId
    ddts := ddts.map fun d => ⟨d.id, d.ddtNumber, d.issueDate⟩
    lines := ddts.flatMap fun d => (linesOf db d).map (invoiceLine d) }

inductive Operation where
  | createDdt (tenantId id : Uuid) (year : ℕ) (dto : CreateDdtDto)
  | issueDdt (tenantId id : Uuid) (dto : IssueDdtDto)
  | markDdtInTransit (tenantId id : Uuid) (dto : MarkInTransitDdtDto) (now : String)
  | markDdtDelivered (tenantId id : Uuid) (dto : MarkDeliveredDdtDto) (now : String)
  | cancelDdt (tenantId id : Uuid)
  | returnDdt (tenantId id : Uuid)
  | markDdtLost (tenantId id : Uuid)
  | disputeDdt (tenantId id : Uuid)
  | invoiceDdt (tenantId id invoiceId : Uuid)
  | prepareInvoiceFromDdts (tenantId : Uuid) (ddtIds : List Uuid)

def perform (db : Db) : Operation → Except Failure Db
  | .createDdt tenantId id year dto => createDdt db tenantId id year dto
  | .issueDdt tenantId id dto => issueDdt db tenantId id dto
  | .markDdtInTransit tenantId id dto now => markDdtInTransit db tenantId id dto now
  | .markDdtDelivered tenantId id dto now => markDdtDelivered db tenantId id dto now
  | .cancelDdt tenantId id => cancelDdt db tenantId id
  | .returnDdt tenantId id => returnDdt db tenantId id
  | .markDdtLost tenantId id => markDdtLost db tenantId id
  | .disputeDdt tenantId id => disputeDdt db tenantId id
  | .invoiceDdt tenantId id invoiceId => invoiceDdt db tenantId id invoiceId
  | .prepareInvoiceFromDdts tenantId ddtIds => (prepareInvoiceFromDdts db tenantId ddtIds).map fun _ => db

def next (db : Db) (op : Operation) : Db := settle db (perform db op)

/-! ## The invoice of a delivery note -/

section
variable {db t : Db} {tenantId id : Uuid} {d d' : Ddt}

/-- How an operation that goes through can change the delivery notes. -/
inductive Change (db : Db) : Db → Prop
  | none : Change db db
  | created {d : Ddt} {lines : List DdtLine} (fresh : db.ddts.find? d.id = Option.none) (status : d.status = .draft)
      (invoiceId : d.invoiceId = Option.none) : Change db ⟨db.ddts.save d, lines⟩
  | moved {d d' : Ddt} (found : db.ddts.find? d.id = some d) (id : d'.id = d.id) (unlinked : d.status ≠ .invoiced)
      (linked : d'.status ≠ .invoiced ∧ d'.invoiceId = d.invoiceId ∨ d'.status = .invoiced ∧ d'.invoiceId.isSome) :
      Change db { db with ddts := db.ddts.save d' }

/-- An invoice is linked exactly to the delivery notes that are invoiced. -/
def Linked (db : Db) : Prop := ∀ d ∈ db.ddts.rows, d.invoiceId.isSome ↔ d.status = .invoiced

theorem Change.linked (change : Change db t) (linked : Linked db) : Linked t := by
  cases change with
  | none => exact linked
  | created fresh status invoiceId =>
      intro x mem
      rcases Table.mem_save.mp mem with rfl | ⟨old, -⟩
      · simp [status, invoiceId]
      · exact linked x old
  | @moved d d' found id unlinked moved =>
      intro x mem
      rcases Table.mem_save.mp mem with rfl | ⟨old, -⟩
      · have before := linked d (Table.mem_of_find? found)
        rcases moved with ⟨status, invoiceId⟩ | ⟨status, invoiceId⟩
        · rw [invoiceId, before]
          exact iff_of_false unlinked status
        · exact iff_of_true invoiceId status
      · exact linked x old

theorem Change.keeps (change : Change db t) (found : db.ddts.find? d.id = some d) (invoiced : d.status = .invoiced) :
    t.ddts.find? d.id = some d := by
  cases change with
  | none => exact found
  | created fresh _ _ =>
      rw [Table.find?_save_of_ne, found]
      intro same
      rw [same, found] at fresh
      cases fresh
  | moved found' id unlinked _ =>
      rw [Table.find?_save_of_ne, found]
      intro same
      rw [← id, same, found, Option.some_inj] at found'
      exact unlinked (found' ▸ invoiced)

end

/-! ## What a bundle holds -/

end SmartErp.Sales.Ddts
