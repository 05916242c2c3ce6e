import SmartErp.Foundations.Double
import SmartErp.Procurement.GoodsReceipts

/-!
# Requisitions, requests for quote and purchase orders

The sourcing half of `procurement.service.ts`. An entity is loaded and saved with its lines, so a row holds
them. A quantity is a text in memory and a `numeric(14, 4)` in its column; here it is the number that the
text denotes. Amounts are computed in double precision. Row ids, the year and the clock come from outside,
and columns that no operation here reads are left out.
-/

namespace SmartErp.Procurement.Sourcing
open Foundations

inductive PurchaseRequisitionStatus where
  | draft
  | submitted
  | approved
  | rejected
  | converted
  | cancelled
  deriving DecidableEq

namespace PurchaseRequisitionStatus

def text : PurchaseRequisitionStatus → String
  | draft => "draft"
  | submitted => "submitted"
  | approved => "approved"
  | rejected => "rejected"
  | converted => "converted"
  | cancelled => "cancelled"

def TRANSITIONS : PurchaseRequisitionStatus → List PurchaseRequisitionStatus
  | draft => [submitted, cancelled]
  | submitted => [approved, rejected, cancelled]
  | approved => [converted, cancelled]
  | rejected => [cancelled]
  | converted => []
  | cancelled => []

end PurchaseRequisitionStatus

inductive RequestForQuoteStatus where
  | draft
  | sent
  | quotesReceived
  | awarded
  | converted
  | expired
  | cancelled
  deriving DecidableEq

namespace RequestForQuoteStatus

def text : RequestForQuoteStatus → String
  | draft => "draft"
  | sent => "sent"
  | quotesReceived => "quotes_received"
  | awarded => "awarded"
  | converted => "converted"
  | expired => "expired"
  | cancelled => "cancelled"

def TRANSITIONS : RequestForQuoteStatus → List RequestForQuoteStatus
  | draft => [sent, cancelled]
  | sent => [quotesReceived, expired, cancelled]
  | quotesReceived => [awarded, expired, cancelled]
  | awarded => [converted, cancelled]
  | expired => [cancelled]
  | converted => []
  | cancelled => []

end RequestForQuoteStatus

def canPurchaseRequisitionTransition (before after : PurchaseRequisitionStatus) : Bool :=
  after ∈ before.TRANSITIONS

def assertPurchaseRequisitionTransition (before after : PurchaseRequisitionStatus) : Except Failure Unit :=
  let allowed := String.intercalate ", " (before.TRANSITIONS.map (·.text))
  let listed := if allowed = "" then "(terminal)" else allowed
  ensure (canPurchaseRequisitionTransition before after) (.error
    s!"Invalid PurchaseRequisition transition: {before.text} → {after.text}. Allowed from {before.text}: [{listed}]")

def canRequestForQuoteTransition (before after : RequestForQuoteStatus) : Bool :=
  after ∈ before.TRANSITIONS

inductive ApprovalRole where
  | manager
  | admin
  | founder
  deriving DecidableEq

inductive ApprovalStatus where
  | pending
  | approved
  | rejected
  deriving DecidableEq

/-- Nobody is the user of a step that is pending. -/
structure ApprovalStep where
  userId : Option Uuid
  role : ApprovalRole
  status : ApprovalStatus
  approvedAt : Option ℕ := none
  rejectedAt : Option ℕ := none
  comment : Option String := none
  deriving DecidableEq

structure PurchaseRequisitionLine where
  productId : Uuid
  quantity : Numeric 14 4
  estimatedUnitCostCents : ℤ
  deriving DecidableEq

structure PurchaseRequisition where
  id : Uuid
  tenantId : Uuid
  requisitionNumber : String
  status : PurchaseRequisitionStatus
  approverChain : List ApprovalStep
  totalEstimateCents : ℤ
  convertedToPurchaseOrderId : Option Uuid
  lines : List PurchaseRequisitionLine
  deriving DecidableEq

structure RequestForQuoteLine where
  id : Uuid
  productId : Uuid
  quantity : Numeric 14 4
  deriving DecidableEq

structure RequestForQuote where
  id : Uuid
  tenantId : Uuid
  rfqNumber : String
  status : RequestForQuoteStatus
  awardedQuoteId : Option Uuid
  awardedAt : Option ℕ
  convertedToPurchaseOrderId : Option Uuid
  lines : List RequestForQuoteLine
  deriving DecidableEq

inductive QuoteStatus where
  | pending
  | received
  | declined
  deriving DecidableEq

def QuoteStatus.text : QuoteStatus → String
  | pending => "pending"
  | received => "received"
  | declined => "declined"

structure RfqQuoteLineCost where
  rfqLineId : Uuid
  unitCostCents : ℕ
  deriving DecidableEq

structure RequestForQuoteQuote where
  id : Uuid
  tenantId : Uuid
  rfqId : Uuid
  supplierId : Uuid
  status : QuoteStatus
  totalCents : Option ℤ
  currency : String
  perLineCosts : List RfqQuoteLineCost
  receivedAt : Option ℕ
  deriving DecidableEq

structure PurchaseOrderLine where
  productId : Uuid
  quantity : Numeric 14 4
  unitCostCents : ℤ
  lineTotalCents : ℤ
  taxRate : ℕ
  taxAmountCents : ℤ
  deriving DecidableEq

structure PurchaseOrder where
  id : Uuid
  tenantId : Uuid
  poNumber : String
  supplierId : Uuid
  requisitionId : Option Uuid
  status : PurchaseOrderStatus
  currency : String
  subtotalCents : ℤ
  taxCents : ℤ
  totalCents : ℤ
  lines : List PurchaseOrderLine
  deriving DecidableEq

structure Db where
  requisitions : Table PurchaseRequisition.id
  rfqs : Table RequestForQuote.id
  quotes : Table RequestForQuoteQuote.id
  purchaseOrders : Table PurchaseOrder.id
  deriving DecidableEq

/-! ## Requests -/

abbrev NumberString := {s : String // (numericString s).isSome}

def NumberString.value (s : NumberString) : ℚ := (numericString s.val).get s.property

/-- `Number(s)` -/
def NumberString.number (s : NumberString) : JsNumber := (JsNumber.finite s.value).double

structure PurchaseRequisitionLineInputDto where
  productId : Uuid
  quantity : NumberString
  estimatedUnitCostCents : Option ℕ := none

structure CreatePurchaseRequisitionDto where
  lines : List PurchaseRequisitionLineInputDto
  arrayMinSize : lines ≠ []

structure ApprovePurchaseRequisitionDto where
  approverUserId : Uuid
  comment : Option String := none

structure RejectPurchaseRequisitionDto where
  approverUserId : Uuid
  comment : String

structure ConvertPurchaseRequisitionDto where
  supplierId : Uuid

structure PurchaseOrderLineInputDto where
  productId : Uuid
  quantity : NumberString
  unitCostCents : ℕ
  taxRate : Option ℕ := none
  taxRate_range : ∀ r ∈ taxRate, r ≤ 99

structure CreatePurchaseOrderDto where
  supplierId : Uuid
  requisitionId : Option Uuid := none
  currency : Option String := none
  lines : List PurchaseOrderLineInputDto
  arrayMinSize : lines ≠ []

structure RecordSupplierQuoteDto where
  supplierId : Uuid
  totalCents : ℕ
  currency : Option String := none
  perLineCosts : List RfqQuoteLineCost
  arrayMinSize : perLineCosts ≠ []

structure AwardRfqDto where
  quoteId : Uuid

/-! ## Columns -/

def bigint (n : ℕ) : Except Failure ℤ :=
  require (if n < 2 ^ 63 then some (n : ℤ) else none)
    (.database s!"value \"{n}\" is out of range for type bigint")

@[simp] theorem bigint_eq_ok {n : ℕ} {z : ℤ} : bigint n = .ok z ↔ n < 2 ^ 63 ∧ (n : ℤ) = z := by
  simp [bigint]

/-- A `bigint` column takes the texts of whole numbers in its range. -/
def bigintColumn : JsNumber → Except Failure ℤ
  | .finite q =>
      if q.den = 1 then
        require (if -2 ^ 63 ≤ q.num ∧ q.num < 2 ^ 63 then some q.num else none)
          (.database "value is out of range for type bigint")
      else .error (.database "invalid input syntax for type bigint")
  | .nan | .infinity _ => .error (.database "invalid input syntax for type bigint")

def padded (count : ℕ) : String := String.ofList ((Nat.toDigits 10 (count + 1)).leftpad 5 '0')

/-! ## Orders in memory -/

structure LineEntity where
  productId : Uuid
  quantity : ℚ
  unitCostCents : ℤ
  lineTotalCents : JsNumber
  taxRate : ℕ
  taxAmountCents : JsNumber

structure OrderEntity where
  id : Uuid
  tenantId : Uuid
  poNumber : String
  supplierId : Uuid
  requisitionId : Option Uuid
  currency : String
  lines : List LineEntity

/-- `reduce((s, x) => s + x, 0)` -/
def sumOf (ns : List JsNumber) : JsNumber := ns.foldl JsNumber.plus (.finite 0)

namespace OrderEntity

def subtotalCents (e : OrderEntity) : JsNumber := sumOf (e.lines.map (·.lineTotalCents))

def taxCents (e : OrderEntity) : JsNumber := sumOf (e.lines.map (·.taxAmountCents))

def totalCents (e : OrderEntity) : JsNumber := e.subtotalCents.plus e.taxCents

end OrderEntity

def LineEntity.stored (l : LineEntity) : Except Failure PurchaseOrderLine := do
  let quantity ← column 14 4 l.quantity
  let unitCostCents ← bigintColumn (.finite l.unitCostCents)
  let lineTotalCents ← bigintColumn l.lineTotalCents
  let taxAmountCents ← bigintColumn l.taxAmountCents
  return { productId := l.productId, quantity, unitCostCents, lineTotalCents, taxRate := l.taxRate, taxAmountCents }

/-- The writes of one transaction: the order, its lines, and the order again with its sums. -/
def savePurchaseOrder (db : Db) (e : OrderEntity) : Except Failure Db := do
  ensure (db.purchaseOrders.find? e.id = none) (.database "purchase_orders_pkey")
  ensure (∀ po ∈ db.purchaseOrders.rows, ¬ (po.tenantId = e.tenantId ∧ po.poNumber = e.poNumber))
    (.database "ux_po_tenant_number")
  let lines ← e.lines.mapM (·.stored)
  let subtotalCents ← bigintColumn e.subtotalCents
  let taxCents ← bigintColumn e.taxCents
  let totalCents ← bigintColumn e.totalCents
  return { db with
    purchaseOrders := db.purchaseOrders.save {
      id := e.id
      tenantId := e.tenantId
      poNumber := e.poNumber
      supplierId := e.supplierId
      requisitionId := e.requisitionId
      status := .draft
      currency := e.currency
      subtotalCents, taxCents, totalCents, lines } }

def nextPoNumber (db : Db) (tenantId : Uuid) (year : ℕ) : String :=
  s!"PO-{year}-{padded (db.purchaseOrders.rows.countP (·.tenantId = tenantId))}"

/-! ## Requisitions -/

def AUTO_APPROVE_THRESHOLD_CENTS : JsNumber := .finite 50000
def MANAGER_THRESHOLD_CENTS : JsNumber := .finite 500000
def ADMIN_THRESHOLD_CENTS : JsNumber := .finite 2500000

def pendingStep (role : ApprovalRole) : ApprovalStep := { userId := none, role, status := .pending }

def buildApprovalChain (totalEstimateCents : JsNumber) : List ApprovalStep :=
  if totalEstimateCents.lt AUTO_APPROVE_THRESHOLD_CENTS then []
  else if totalEstimateCents.le MANAGER_THRESHOLD_CENTS then [pendingStep .manager]
  else if totalEstimateCents.le ADMIN_THRESHOLD_CENTS then [pendingStep .admin]
  else [pendingStep .admin, pendingStep .founder]

def isApprovalChainComplete (chain : List ApprovalStep) : Bool :=
  !chain.isEmpty && chain.all (·.status = .approved)

def nextPendingApprovalRole (chain : List ApprovalStep) : Option ApprovalStep :=
  chain.find? (·.status = .pending)

/-- The chain with its first pending step changed, as the service changes it in place. -/
def changeNext (f : ApprovalStep → ApprovalStep) : List ApprovalStep → List ApprovalStep
  | [] => []
  | step :: steps => if step.status = .pending then f step :: steps else step :: changeNext f steps

namespace PurchaseRequisitionLineInputDto

def estimateCents (l : PurchaseRequisitionLineInputDto) : JsNumber :=
  (JsNumber.finite (l.estimatedUnitCostCents.getD 0)).times l.quantity.number

def stored (l : PurchaseRequisitionLineInputDto) : Except Failure PurchaseRequisitionLine := do
  let quantity ← column 14 4 l.quantity.value
  let estimatedUnitCostCents ← bigint (l.estimatedUnitCostCents.getD 0)
  return { productId := l.productId, quantity, estimatedUnitCostCents }

end PurchaseRequisitionLineInputDto

def CreatePurchaseRequisitionDto.totalEstimateCents (dto : CreatePurchaseRequisitionDto) : JsNumber :=
  sumOf (dto.lines.map (·.estimateCents))

def nextRequisitionNumber (db : Db) (tenantId : Uuid) (year : ℕ) : String :=
  s!"PR-{year}-{padded (db.requisitions.rows.countP (·.tenantId = tenantId))}"

def createRequisition (db : Db) (tenantId id : Uuid) (year : ℕ) (dto : CreatePurchaseRequisitionDto) :
    Except Failure Db := do
  let totalEstimateCents := dto.totalEstimateCents
  let requisitionNumber := nextRequisitionNumber db tenantId year
  ensure (db.requisitions.find? id = none) (.database "purchase_requisitions_pkey")
  ensure (∀ r ∈ db.requisitions.rows, ¬ (r.tenantId = tenantId ∧ r.requisitionNumber = requisitionNumber))
    (.database "ux_pr_tenant_number")
  let total ← bigintColumn totalEstimateCents
  let lines ← dto.lines.mapM (·.stored)
  return { db with
    requisitions := db.requisitions.save {
      id, tenantId, requisitionNumber, lines
      status := .draft
      approverChain := buildApprovalChain totalEstimateCents
      totalEstimateCents := total
      convertedToPurchaseOrderId := none } }

def getRequisition (db : Db) (tenantId id : Uuid) : Except Failure PurchaseRequisition :=
  require ((db.requisitions.find? id).filter (·.tenantId = tenantId)) (.notFound s!"Requisition {id} not found")

def transitionRequisition (db : Db) (tenantId id : Uuid) (next : PurchaseRequisitionStatus)
    (mutator : PurchaseRequisition → PurchaseRequisition) : Except Failure Db := do
  let req ← getRequisition db tenantId id
  ensure (canPurchaseRequisitionTransition req.status next)
    (.badRequest s!"Invalid transition: {req.status.text} → {next.text}")
  return { db with requisitions := db.requisitions.save (mutator { req with status := next }) }

def submitRequisition (db : Db) (tenantId id : Uuid) : Except Failure Db :=
  transitionRequisition db tenantId id .submitted fun req =>
    if req.approverChain = [] then { req with status := .approved } else req

def ApprovalStep.approvedBy (step : ApprovalStep) (dto : ApprovePurchaseRequisitionDto) (now : ℕ) :
    ApprovalStep :=
  { step with
    userId := some dto.approverUserId
    status := .approved
    approvedAt := some now
    -- An empty comment is not taken over.
    comment := if dto.comment.getD "" = "" then step.comment else dto.comment }

def approveRequisition (db : Db) (tenantId id : Uuid) (dto : ApprovePurchaseRequisitionDto) (now : ℕ) :
    Except Failure Db := do
  let req ← getRequisition db tenantId id
  ensure (req.status = .submitted ∨ req.status = .approved)
    (.badRequest s!"Cannot approve a requisition in status {req.status.text}")
  ensure (nextPendingApprovalRole req.approverChain ≠ none)
    (.badRequest "Approval chain is already complete; no pending approval expected")
  let approverChain := changeNext (·.approvedBy dto now) req.approverChain
  if isApprovalChainComplete approverChain then do
    assertPurchaseRequisitionTransition req.status .approved
    return { db with requisitions := db.requisitions.save { req with approverChain, status := .approved } }
  else
    return { db with requisitions := db.requisitions.save { req with approverChain } }

def rejectRequisition (db : Db) (tenantId id : Uuid) (dto : RejectPurchaseRequisitionDto) (now : ℕ) :
    Except Failure Db :=
  transitionRequisition db tenantId id .rejected fun req =>
    { req with
      approverChain := changeNext (fun step => { step with
        userId := some dto.approverUserId
        status := .rejected
        rejectedAt := some now
        comment := some dto.comment }) req.approverChain }

def cancelRequisition (db : Db) (tenantId id : Uuid) : Except Failure Db :=
  transitionRequisition db tenantId id .cancelled fun req => req

/-! ## Conversion of a requisition -/

/-- `Math.round(lineTotalCents * 0.22)` -/
def standardTax (lineTotalCents : JsNumber) : JsNumber :=
  (lineTotalCents.times (JsNumber.finite (22/100)).double).round

def PurchaseRequisitionLine.entity (rl : PurchaseRequisitionLine) : LineEntity :=
  let qty := (JsNumber.finite rl.quantity.val).double
  let lineTotalCents := (JsNumber.finite rl.estimatedUnitCostCents).double.times qty
  { productId := rl.productId
    quantity := rl.quantity.val
    unitCostCents := rl.estimatedUnitCostCents
    lineTotalCents
    taxRate := 22
    taxAmountCents := standardTax lineTotalCents }

def convertibleRequisition (db : Db) (tenantId id : Uuid) : Except Failure PurchaseRequisition := do
  let req ← getRequisition db tenantId id
  ensure (req.status = .approved)
    (.badRequest s!"Cannot convert a requisition in status {req.status.text}; must be 'approved'")
  ensure (req.convertedToPurchaseOrderId = none)
    (.conflict s!"Requisition already converted to PO {req.convertedToPurchaseOrderId.getD 0}")
  return req

def requisitionOrder (req : PurchaseRequisition) (poId : Uuid) (poNumber : String)
    (dto : ConvertPurchaseRequisitionDto) : OrderEntity where
  id := poId
  tenantId := req.tenantId
  poNumber := poNumber
  supplierId := dto.supplierId
  requisitionId := some req.id
  currency := "EUR"
  lines := req.lines.map (·.entity)

def saveConvertedRequisition (db : Db) (req : PurchaseRequisition) (poId : Uuid) (poNumber : String)
    (dto : ConvertPurchaseRequisitionDto) : Except Failure Db := do
  let db ← savePurchaseOrder db (requisitionOrder req poId poNumber dto)
  assertPurchaseRequisitionTransition req.status .converted
  return { db with
    requisitions := db.requisitions.save
      { req with status := .converted, convertedToPurchaseOrderId := some poId } }

def convertRequisitionToPo (db : Db) (tenantId id poId : Uuid) (year : ℕ)
    (dto : ConvertPurchaseRequisitionDto) : Except Failure Db := do
  let req ← convertibleRequisition db tenantId id
  saveConvertedRequisition db req poId (nextPoNumber db tenantId year) dto

/-! ## Orders without a source -/

def PurchaseOrderLineInputDto.entity (l : PurchaseOrderLineInputDto) : LineEntity :=
  let qty := l.quantity.number
  let lineTotalCents := (JsNumber.finite l.unitCostCents).times qty
  let taxRate := l.taxRate.getD 22
  { productId := l.productId
    quantity := l.quantity.value
    unitCostCents := l.unitCostCents
    lineTotalCents
    taxRate
    taxAmountCents := ((lineTotalCents.times (.finite taxRate)).dividedBy (.finite 100)).round }

def directOrder (tenantId id : Uuid) (poNumber : String) (dto : CreatePurchaseOrderDto) : OrderEntity where
  id := id
  tenantId := tenantId
  poNumber := poNumber
  supplierId := dto.supplierId
  requisitionId := dto.requisitionId
  currency := dto.currency.getD "EUR"
  lines := dto.lines.map (·.entity)

def createPurchaseOrder (db : Db) (tenantId id : Uuid) (year : ℕ) (dto : CreatePurchaseOrderDto) :
    Except Failure Db :=
  savePurchaseOrder db (directOrder tenantId id (nextPoNumber db tenantId year) dto)

/-! ## Requests for quote -/

def getRfq (db : Db) (tenantId id : Uuid) : Except Failure RequestForQuote :=
  require ((db.rfqs.find? id).filter (·.tenantId = tenantId)) (.notFound s!"RFQ {id} not found")

/-- The quote of a supplier: the unique index leaves at most one. -/
def quoteOf (db : Db) (tenantId rfqId supplierId : Uuid) : Option RequestForQuoteQuote :=
  db.quotes.rows.find? fun q => q.rfqId = rfqId ∧ q.supplierId = supplierId ∧ q.tenantId = tenantId

def recordSupplierQuote (db : Db) (tenantId rfqId : Uuid) (dto : RecordSupplierQuoteDto) (now : ℕ) :
    Except Failure Db := do
  let rfq ← getRfq db tenantId rfqId
  ensure (rfq.status = .sent ∨ rfq.status = .quotesReceived)
    (.badRequest s!"Cannot record a quote on RFQ in status {rfq.status.text}")
  let quote ← require (quoteOf db tenantId rfqId dto.supplierId)
    (.notFound s!"Supplier {dto.supplierId} was not solicited for RFQ {rfqId}")
  let totalCents ← bigint dto.totalCents
  let saved := { db with
    quotes := db.quotes.save { quote with
      status := .received
      totalCents := some totalCents
      currency := dto.currency.getD "EUR"
      perLineCosts := dto.perLineCosts
      receivedAt := some now } }
  if rfq.status = .sent then
    return { saved with rfqs := saved.rfqs.save { rfq with status := .quotesReceived } }
  else
    return saved

def awardRfq (db : Db) (tenantId rfqId : Uuid) (dto : AwardRfqDto) (now : ℕ) : Except Failure Db := do
  let rfq ← getRfq db tenantId rfqId
  ensure (canRequestForQuoteTransition rfq.status .awarded)
    (.badRequest s!"Invalid transition: {rfq.status.text} → awarded")
  let quote ← require ((db.quotes.find? dto.quoteId).filter fun q => q.rfqId = rfqId ∧ q.tenantId = tenantId)
    (.notFound s!"Quote {dto.quoteId} not found on RFQ {rfqId}")
  ensure (quote.status = .received)
    (.badRequest s!"Cannot award a quote in status {quote.status.text}; must be 'received'")
  return { db with
    rfqs := db.rfqs.save { rfq with
      status := .awarded
      awardedQuoteId := some quote.id
      awardedAt := some now } }

/-! ## Conversion of a request for quote -/

/-- `quote.perLineCosts.find((c) => c.rfqLineId === rl.id)?.unitCostCents` -/
def RequestForQuoteQuote.costOf (quote : RequestForQuoteQuote) (rl : RequestForQuoteLine) : Option ℕ :=
  (quote.perLineCosts.find? (·.rfqLineId = rl.id)).map (·.unitCostCents)

def RequestForQuoteLine.entity (rl : RequestForQuoteLine) (quote : RequestForQuoteQuote) : LineEntity :=
  let unitCostCents := (quote.costOf rl).getD 0
  let qty := (JsNumber.finite rl.quantity.val).double
  let lineTotalCents := (JsNumber.finite unitCostCents).times qty
  { productId := rl.productId
    quantity := rl.quantity.val
    unitCostCents
    lineTotalCents
    taxRate := 22
    taxAmountCents := standardTax lineTotalCents }

def convertibleRfq (db : Db) (tenantId rfqId : Uuid) : Except Failure (RequestForQuote × RequestForQuoteQuote) := do
  let rfq ← getRfq db tenantId rfqId
  ensure (rfq.status = .awarded)
    (.badRequest s!"Cannot convert RFQ in status {rfq.status.text}; must be 'awarded'")
  let awardedQuoteId ← require rfq.awardedQuoteId (.badRequest "RFQ has no awardedQuoteId")
  ensure (rfq.convertedToPurchaseOrderId = none)
    (.conflict s!"RFQ already converted to PO {rfq.convertedToPurchaseOrderId.getD 0}")
  let quote ← require ((db.quotes.find? awardedQuoteId).filter (·.tenantId = tenantId))
    (.notFound "Awarded quote no longer exists")
  return (rfq, quote)

def rfqOrder (rfq : RequestForQuote) (quote : RequestForQuoteQuote) (poId : Uuid) (poNumber : String) :
    OrderEntity where
  id := poId
  tenantId := rfq.tenantId
  poNumber := poNumber
  supplierId := quote.supplierId
  requisitionId := none
  currency := quote.currency
  lines := rfq.lines.map (·.entity quote)

def saveConvertedRfq (db : Db) (rfq : RequestForQuote) (quote : RequestForQuoteQuote) (poId : Uuid)
    (poNumber : String) : Except Failure Db := do
  let db ← savePurchaseOrder db (rfqOrder rfq quote poId poNumber)
  return { db with
    rfqs := db.rfqs.save { rfq with status := .converted, convertedToPurchaseOrderId := some poId } }

def convertRfqToPo (db : Db) (tenantId rfqId poId : Uuid) (year : ℕ) : Except Failure Db := do
  let (rfq, quote) ← convertibleRfq db tenantId rfqId
  saveConvertedRfq db rfq quote poId (nextPoNumber db tenantId year)

end SmartErp.Procurement.Sourcing
