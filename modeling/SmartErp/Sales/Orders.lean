import SmartErp.Inventory.Stock

/-!
# Sales orders

`sales.service.ts`. Texts and dates that are stored and never read again are left out.
-/

namespace SmartErp.Sales
open Foundations Inventory

inductive SalesOrderStatus where
  | draft
  | confirmed
  | partiallyShipped
  | shipped
  | invoiced
  | cancelled
  deriving DecidableEq

def SalesOrderStatus.text : SalesOrderStatus → String
  | draft => "draft"
  | confirmed => "confirmed"
  | partiallyShipped => "partially_shipped"
  | shipped => "shipped"
  | invoiced => "invoiced"
  | cancelled => "cancelled"

structure Customer where
  id : Uuid
  tenantId : Uuid
  splitPayment : Bool
  deriving DecidableEq

structure SalesOrderLineDto where
  productId : Option Uuid
  quantity : ℚ
  unitPrice : ℚ
  discountPct : Option ℚ := none
  ivaRate : ℕ
  warehouseId : Option Uuid := none
  quantity_nonneg : 0 ≤ quantity
  unitPrice_nonneg : 0 ≤ unitPrice
  discountPct_range : ∀ d ∈ discountPct, 0 ≤ d ∧ d ≤ 100
  ivaRate_range : ivaRate ≤ 100

structure SalesOrderLine where
  productId : Option Uuid
  quantity : ℚ
  unitPrice : ℚ
  discountPct : Option ℚ
  ivaRate : ℕ
  warehouseId : Option Uuid
  lineTotal : ℚ
  deriving DecidableEq

structure CreateSalesOrderDto where
  customerId : Uuid
  lines : List SalesOrderLineDto

structure SalesOrder where
  id : Uuid
  tenantId : Uuid
  orderNumber : String
  customerId : Uuid
  status : SalesOrderStatus
  subtotalAmount : Numeric 12 2
  taxAmount : Numeric 12 2
  totalAmount : Numeric 12 2
  lines : List SalesOrderLine
  deriving DecidableEq

structure Db where
  stock : Inventory.Db
  customers : Table Customer.id
  salesOrders : Table SalesOrder.id

/-! ## Totals -/

namespace SalesOrderLineDto

/-- `unitPrice * (1 - (discountPct ?? 0) / 100)` -/
def netPrice (l : SalesOrderLineDto) : JsNumber :=
  (JsNumber.finite l.unitPrice).double.times
    ((JsNumber.finite 1).minus ((JsNumber.finite (l.discountPct.getD 0)).double.dividedBy (.finite 100)))

def lineTotal (l : SalesOrderLineDto) : JsNumber :=
  ((JsNumber.finite l.quantity).double.times l.netPrice).fixed 2

def tax (l : SalesOrderLineDto) : JsNumber :=
  ((l.lineTotal.times (.finite l.ivaRate)).dividedBy (.finite 100)).fixed 2

def line (l : SalesOrderLineDto) : SalesOrderLine where
  productId := l.productId
  quantity := l.quantity
  unitPrice := l.unitPrice
  discountPct := l.discountPct
  ivaRate := l.ivaRate
  warehouseId := l.warehouseId
  lineTotal := l.lineTotal.decimal

end SalesOrderLineDto

def subtotal (lines : List SalesOrderLineDto) : JsNumber := .added (lines.map (·.lineTotal))

def tax (lines : List SalesOrderLineDto) : JsNumber := .added (lines.map (·.tax))

/-! ## Operations -/

def padStart (s : String) (n : ℕ) : String :=
  String.ofList (List.replicate (n - s.length) '0' ++ s.toList)

def nextOrderNumber (db : Db) (tenantId : Uuid) (year : ℕ) : String :=
  let count := (db.salesOrders.rows.filter (·.tenantId = tenantId)).length
  s!"SO-{year}-{padStart (toString (count + 1)) 5}"

def createSalesOrder (db : Db) (tenantId id : Uuid) (year : ℕ) (dto : CreateSalesOrderDto) :
    Except Failure Db := do
  let customer ← require
    ((db.customers.find? dto.customerId).filter (·.tenantId = tenantId))
    (.notFound s!"Customer {dto.customerId} not found")
  let orderNumber := nextOrderNumber db tenantId year
  let lines := dto.lines.map (·.line)
  let taxAmount := if customer.splitPayment then .finite 0 else (tax dto.lines).fixed 2
  let totalAmount := ((subtotal dto.lines).plus taxAmount).fixed 2
  let subtotalAmount ← numericParam 12 2 ((subtotal dto.lines).fixed 2)
  let taxAmount ← numericParam 12 2 taxAmount
  let totalAmount ← numericParam 12 2 totalAmount
  ensure (db.salesOrders.find? id = none) (.database "sales_orders_pkey")
  ensure (∀ o ∈ db.salesOrders.rows, o.tenantId = tenantId → o.orderNumber ≠ orderNumber)
    (.database "ux_so_tenant_number")
  let order : SalesOrder := {
    id, tenantId, orderNumber, status := .draft, customerId := dto.customerId, lines
    subtotalAmount, taxAmount, totalAmount }
  return { db with salesOrders := db.salesOrders.save order }

def findSalesOrder (db : Db) (tenantId id : Uuid) : Except Failure SalesOrder :=
  require ((db.salesOrders.find? id).filter (·.tenantId = tenantId))
    (.notFound s!"Sales order {id} not found")

def pickDefaultWarehouseId (precedes : String → String → Bool) (db : Db) (tenantId : Uuid) :
    Except Failure Uuid :=
  require ((firstActiveWarehouse precedes db.stock tenantId).map (·.id)) (.badRequest
    "Tenant has no active warehouse; cannot reserve/ship stock. Create a warehouse first.")

def SalesOrder.stockRequests (order : SalesOrder) (defaultWarehouseId : Uuid) :
    List ReservationRequest :=
  order.lines.filterMap fun l => l.productId.map fun productId =>
    ⟨productId, l.warehouseId.getD defaultWarehouseId, l.quantity, s!"SO:{order.orderNumber}"⟩

def setStatus (db : Db) (order : SalesOrder) (status : SalesOrderStatus) : Db :=
  { db with salesOrders := db.salesOrders.save { order with status } }

def confirmSalesOrder (precedes : String → String → Bool) (db : Db) (tenantId id : Uuid) :
    Except Failure Db := do
  let order ← findSalesOrder db tenantId id
  ensure (order.status = .draft) (.badRequest
    s!"Only DRAFT orders can be confirmed; current status: {order.status.text}")
  let defaultWarehouseId ← pickDefaultWarehouseId precedes db tenantId
  let stock ← reserveStock db.stock tenantId (order.stockRequests defaultWarehouseId)
  return setStatus { db with stock } order .confirmed

def cancelSalesOrder (precedes : String → String → Bool) (db : Db) (tenantId id : Uuid) :
    Except Failure Db := do
  let order ← findSalesOrder db tenantId id
  ensure (order.status ≠ .shipped ∧ order.status ≠ .invoiced) (.badRequest
    s!"Cannot cancel {order.orderNumber}: already shipped/invoiced")
  if order.status = .confirmed ∨ order.status = .partiallyShipped then
    let defaultWarehouseId ← pickDefaultWarehouseId precedes db tenantId
    let stock ← releaseReservation db.stock tenantId (order.stockRequests defaultWarehouseId)
    return setStatus { db with stock } order .cancelled
  else
    return setStatus db order .cancelled

def shipSalesOrder (precedes : String → String → Bool) (db : Db) (tenantId id : Uuid) :
    Except Failure Db := do
  let order ← findSalesOrder db tenantId id
  ensure (order.status = .confirmed) (.badRequest
    s!"Only CONFIRMED orders can be shipped; status: {order.status.text}")
  let defaultWarehouseId ← pickDefaultWarehouseId precedes db tenantId
  let stock ← shipReservation db.stock tenantId (order.stockRequests defaultWarehouseId)
  return setStatus { db with stock } order .shipped

/-! ## One tenant's requests -/

inductive Op where
  | createSalesOrder (id : Uuid) (year : ℕ) (dto : CreateSalesOrderDto)
  | confirmSalesOrder (id : Uuid)
  | cancelSalesOrder (id : Uuid)
  | shipSalesOrder (id : Uuid)
  | createWarehouse (id : Uuid) (dto : WarehouseDto)
  | updateWarehouse (id : Uuid) (dto : WarehousePatch)
  | recordStockMovement (dto : StockMovementRequest)

def perform (precedes : String → String → Bool) (tenantId : Uuid) (db : Db) :
    Op → Except Failure Db
  | .createSalesOrder id year dto => createSalesOrder db tenantId id year dto
  | .confirmSalesOrder id => confirmSalesOrder precedes db tenantId id
  | .cancelSalesOrder id => cancelSalesOrder precedes db tenantId id
  | .shipSalesOrder id => shipSalesOrder precedes db tenantId id
  | .createWarehouse id dto => do
      let stock ← createWarehouse db.stock tenantId id dto
      return { db with stock }
  | .updateWarehouse id dto => do
      let stock ← updateWarehouse db.stock tenantId id dto
      return { db with stock }
  | .recordStockMovement dto => do
      let stock ← recordStockMovement db.stock tenantId dto
      return { db with stock }

end SmartErp.Sales
