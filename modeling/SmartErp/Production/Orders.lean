import SmartErp.Inventory.Safety
import SmartErp.Foundations.Interleaving

/-!
# Production orders

`updateProductionOrderStatus` of `production.service.ts`: a transaction reads the order, the materials are
consumed in a transaction of their own, and last the order is saved as it was read, with the new status.
-/

namespace SmartErp.Production
open Foundations

abbrev Time := ℤ

inductive ProductionOrderStatus where
  | draft
  | planned
  | confirmed
  | inProgress
  | completed
  | cancelled
  deriving DecidableEq

def ProductionOrderStatus.text : ProductionOrderStatus → String
  | draft => "draft"
  | planned => "planned"
  | confirmed => "confirmed"
  | inProgress => "in_progress"
  | completed => "completed"
  | cancelled => "cancelled"

structure BomEntry where
  materialId : Uuid
  quantityRequired : ℚ
  deriving DecidableEq

structure Plan where
  id : Uuid
  tenantId : Uuid
  orderNumber : String
  quantityPlanned : Numeric 12 2
  billOfMaterials : Option (List BomEntry)
  deriving DecidableEq

structure ProductionOrder extends Plan where
  status : ProductionOrderStatus
  actualStartDate : Option Time := none
  actualEndDate : Option Time := none
  deriving DecidableEq

def ProductionOrder.key (o : ProductionOrder) : Uuid := o.id

structure Db where
  stock : Inventory.Db
  orders : Table ProductionOrder.key

/-! ## The operation -/

def validTransitions : ProductionOrderStatus → List ProductionOrderStatus
  | .draft => [.planned, .cancelled]
  | .planned => [.confirmed, .cancelled]
  | .confirmed => [.inProgress, .cancelled]
  | .inProgress => [.completed, .cancelled]
  | .completed => []
  | .cancelled => []

namespace Plan

def bom (p : Plan) : List BomEntry := p.billOfMaterials.getD []

/-- `Number(b.quantityRequired) * Number(order.quantityPlanned)` -/
def quantity (p : Plan) (b : BomEntry) : JsNumber :=
  (JsNumber.finite b.quantityRequired).double.times p.quantityPlanned.number

def line (p : Plan) (b : BomEntry) : Inventory.BomLine where
  materialId := b.materialId
  quantityRequired := (p.quantity b).decimal

def consumption (p : Plan) : Inventory.ConsumeOptions where
  reference := s!"PO:{p.orderNumber}"
  bom := p.bom.map p.line

/-- The materials are consumed when an order with a bill of materials is started. -/
def consume (precedes : String → String → Bool) (stock : Inventory.Db) (p : Plan)
    (newStatus : ProductionOrderStatus) : Except Failure Inventory.Db :=
  if newStatus = .inProgress ∧ p.bom ≠ [] then
    Inventory.consumeBomForProductionOrder precedes stock p.tenantId p.consumption
  else .ok stock

end Plan

def loadOrder (db : Db) (tenantId orderId : Uuid) (newStatus : ProductionOrderStatus) :
    Except Failure ProductionOrder := do
  let order ← require ((db.orders.find? orderId).filter (·.tenantId = tenantId))
    (.notFound s!"Production order {orderId} not found")
  ensure (newStatus ∈ validTransitions order.status)
    (.badRequest s!"Cannot transition from {order.status.text} to {newStatus.text}")
  return order

def ProductionOrder.moved (order : ProductionOrder) (newStatus : ProductionOrderStatus) (now : Time) :
    ProductionOrder :=
  { order with
    status := newStatus
    actualStartDate := if newStatus = .inProgress ∧ order.actualStartDate = none then some now
      else order.actualStartDate
    actualEndDate := if newStatus = .completed then some now else order.actualEndDate }

def updateProductionOrderStatus (precedes : String → String → Bool) (db : Db) (tenantId orderId : Uuid)
    (newStatus : ProductionOrderStatus) (now : Time) : Except Failure Db := do
  let order ← loadOrder db tenantId orderId newStatus
  let stock ← order.consume precedes db.stock newStatus
  return { stock, orders := db.orders.save (order.moved newStatus now) }

/-! ## Its steps -/

inductive Update where
  | called (tenantId orderId : Uuid) (newStatus : ProductionOrderStatus)
  | read (order : ProductionOrder) (newStatus : ProductionOrderStatus)
  | consumed (order : ProductionOrder) (newStatus : ProductionOrderStatus)
  | returned
  | failed (failure : Failure)

inductive Step where
  | read
  | consume
  | save (now : Time)
  | saveFails

/-- The tables, and the orders that have reached `inProgress`. -/
structure Ledger where
  db : Db
  started : List Uuid := []

def act (precedes : String → String → Bool) : Step → Ledger → Update → Option (Ledger × Update)
  | .read, l, .called tenantId orderId newStatus =>
      match loadOrder l.db tenantId orderId newStatus with
      | .ok order => some (l, .read order newStatus)
      | .error failure => some (l, .failed failure)
  | .consume, l, .read order newStatus =>
      match order.consume precedes l.db.stock newStatus with
      | .ok stock => some ({ l with db := { l.db with stock } }, .consumed order newStatus)
      | .error failure => some (l, .failed failure)
  | .save now, l, .consumed order newStatus =>
      some (⟨{ l.db with orders := l.db.orders.save (order.moved newStatus now) },
        if newStatus = .inProgress then l.started ++ [order.id] else l.started⟩, .returned)
  | .saveFails, l, .consumed _ _ => some (l, .failed (.database "production_orders"))
  | _, _, _ => none

theorem updateProductionOrderStatus_steps {κ : Type} [DecidableEq κ] {precedes : String → String → Bool}
    (s : Pool κ Ledger Update) {i : κ} {tenantId orderId : Uuid} {newStatus : ProductionOrderStatus} (now : Time)
    (called : s.calls i = .called tenantId orderId newStatus) :
    ([(i, .read), (i, .consume), (i, .save now)].foldl (Pool.next (act precedes)) s).shared.db =
      settle s.shared.db (updateProductionOrderStatus precedes s.shared.db tenantId orderId newStatus now) := by
  cases load : loadOrder s.shared.db tenantId orderId newStatus with
  | error failure =>
      simp [Pool.next, act, called, load, settle, updateProductionOrderStatus, bind, Except.bind]
  | ok order =>
      cases consume : order.consume precedes s.shared.db.stock newStatus with
      | error failure =>
          simp [Pool.next, act, called, load, consume, settle, updateProductionOrderStatus, bind, Except.bind]
      | ok stock =>
          simp [Pool.next, act, called, load, consume, settle, updateProductionOrderStatus, bind, Except.bind, pure,
            Except.pure]

end SmartErp.Production
