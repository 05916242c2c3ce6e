import SmartErp.Production.Orders
import SmartErp.Sales.Orders
import Mathlib.Data.List.Sort

/-!
# Work orders

`createWorkOrder` and `updateWorkOrderStatus` of `production.service.ts`, one call after the other. A column of
numbers is read back as a text, so that a stored 0 counts as a value there.
-/

namespace SmartErp.Production.WorkOrders
open Foundations

structure ProductionOrder extends Production.ProductionOrder where
  quantityProduced : Numeric 12 2
  deriving DecidableEq

inductive WorkOrderStatus where
  | pending
  | ready
  | inProgress
  | paused
  | completed
  | cancelled
  deriving DecidableEq

structure CheckResult where
  checkName : String
  passed : Bool
  value : Option String := none
  deriving DecidableEq

structure QualityCheck extends CheckResult where
  timestamp : Time
  deriving DecidableEq

structure WorkOrder where
  id : Uuid
  tenantId : Uuid
  productionOrderId : Uuid
  workOrderNumber : String
  operationName : String
  workCenter : String
  sequenceNumber : ℤ
  estimatedDurationHours : Option (Numeric 8 2) := none
  assignedTo : Option String := none
  instructions : Option String := none
  status : WorkOrderStatus := .pending
  startedAt : Option Time := none
  completedAt : Option Time := none
  actualDurationHours : Option (Numeric 8 2) := none
  quantityProduced : Option (Numeric 12 2) := none
  quantityRejected : Option (Numeric 12 2) := none
  notes : Option String := none
  qualityChecks : Option (List QualityCheck) := none
  deriving DecidableEq

def ProductionOrder.key (o : ProductionOrder) : Uuid := o.id

structure Db where
  orders : Table ProductionOrder.key
  workOrders : Table WorkOrder.id

structure CreateWorkOrderInput where
  operationName : String
  workCenter : String
  sequenceNumber : ℤ
  estimatedDurationHours : Option ℚ := none
  assignedTo : Option String := none
  instructions : Option String := none

/-- A quantity is absent, null or a number. -/
structure UpdateWorkOrderStatusInput where
  status : WorkOrderStatus
  quantityProduced : Option (Option ℚ) := none
  quantityRejected : Option (Option ℚ) := none
  notes : Option String := none
  qualityChecks : Option (List CheckResult) := none

inductive Call where
  | createWorkOrder (tenantId productionOrderId id : Uuid) (year : ℕ) (dto : CreateWorkOrderInput)
  | updateWorkOrderStatus (tenantId workOrderId : Uuid) (dto : UpdateWorkOrderStatusInput) (now : Time)

/-! ## The operations -/

def getProductionOrderById (db : Db) (tenantId orderId : Uuid) : Except Failure ProductionOrder :=
  require ((db.orders.find? orderId).filter (·.tenantId = tenantId))
    (.notFound s!"Production order {orderId} not found")

def generateWorkOrderNumber (db : Db) (tenantId : Uuid) (year : ℕ) : String :=
  let count := db.workOrders.rows.countP (·.tenantId = tenantId)
  s!"WO-{year}-{Sales.padStart (toString (count + 1)) 5}"

def nullable {p s : ℕ} (value : Option ℚ) : Except Failure (Option (Numeric p s)) :=
  match value with
  | none => .ok none
  | some q => (column p s q).map some

def createWorkOrder (db : Db) (tenantId productionOrderId id : Uuid) (year : ℕ) (dto : CreateWorkOrderInput) :
    Except Failure Db := do
  let _ ← getProductionOrderById db tenantId productionOrderId
  let workOrderNumber := generateWorkOrderNumber db tenantId year
  ensure (-2 ^ 31 ≤ dto.sequenceNumber ∧ dto.sequenceNumber < 2 ^ 31) (.database "integer out of range")
  let estimatedDurationHours ← nullable dto.estimatedDurationHours
  ensure ((db.workOrders.find? id).isNone ∧
      ∀ w ∈ db.workOrders.rows, (w.tenantId, w.workOrderNumber) ≠ (tenantId, workOrderNumber))
    (.database "duplicate key value violates unique constraint")
  return { db with
    workOrders := db.workOrders.save {
      id, tenantId, productionOrderId, workOrderNumber, estimatedDurationHours
      operationName := dto.operationName
      workCenter := dto.workCenter
      sequenceNumber := dto.sequenceNumber
      assignedTo := dto.assignedTo
      instructions := dto.instructions } }

/-- `if (dto.quantity !== undefined) workOrder.quantity = dto.quantity` -/
def assign {p s : ℕ} (current : Option (Numeric p s)) (value : Option (Option ℚ)) :
    Except Failure (Option (Numeric p s)) :=
  match value with
  | none => .ok current
  | some value => nullable value

/-- `(workOrder.completedAt.getTime() - workOrder.startedAt.getTime()) / (1000 * 60 * 60)` -/
def duration (workOrder : WorkOrder) (status : WorkOrderStatus) (now : Time) : Except Failure (Option (Numeric 8 2)) :=
  match status, workOrder.startedAt with
  | .completed, some startedAt => nullable (some ((now - startedAt : ℚ) / (1000 * 60 * 60)))
  | _, _ => .ok workOrder.actualDurationHours

def revised (workOrder : WorkOrder) (dto : UpdateWorkOrderStatusInput) (now : Time) : Except Failure WorkOrder := do
  let actualDurationHours ← duration workOrder dto.status now
  let quantityProduced ← assign workOrder.quantityProduced dto.quantityProduced
  let quantityRejected ← assign workOrder.quantityRejected dto.quantityRejected
  return { workOrder with
    actualDurationHours, quantityProduced, quantityRejected
    status := dto.status
    startedAt := if dto.status = .inProgress ∧ workOrder.startedAt = none then some now else workOrder.startedAt
    completedAt := if dto.status = .completed then some now else workOrder.completedAt
    notes := if dto.notes.getD "" ≠ "" then dto.notes else workOrder.notes
    qualityChecks := match dto.qualityChecks with
      | some checks => some (checks.map fun qc => { toCheckResult := qc, timestamp := now })
      | none => workOrder.qualityChecks }

/-- `dto.status === WorkOrderStatus.COMPLETED && dto.quantityProduced` -/
def UpdateWorkOrderStatusInput.refreshes (dto : UpdateWorkOrderStatusInput) : Bool :=
  dto.status = .completed ∧ (dto.quantityProduced.join).getD 0 ≠ 0

section
variable (scan : Scan WorkOrder)

def completed (db : Db) (tenantId productionOrderId : Uuid) : List WorkOrder :=
  db.workOrders.rows.filter fun w =>
    w.tenantId = tenantId ∧ w.productionOrderId = productionOrderId ∧ w.status = .completed

def lastWorkOrder (db : Db) (tenantId productionOrderId : Uuid) : Option WorkOrder :=
  ((scan.order (completed db tenantId productionOrderId)).insertionSort
    fun a b => b.sequenceNumber ≤ a.sequenceNumber).head?

def updateProductionOrderQuantity (db : Db) (tenantId productionOrderId : Uuid) : Db :=
  match (lastWorkOrder scan db tenantId productionOrderId).bind (·.quantityProduced),
      db.orders.find? productionOrderId with
  | some quantityProduced, some order => { db with orders := db.orders.save { order with quantityProduced } }
  | _, _ => db

def loadWorkOrder (db : Db) (tenantId workOrderId : Uuid) : Except Failure WorkOrder :=
  require ((db.workOrders.find? workOrderId).filter (·.tenantId = tenantId))
    (.notFound s!"Work order {workOrderId} not found")

def updateWorkOrderStatus (db : Db) (tenantId workOrderId : Uuid) (dto : UpdateWorkOrderStatusInput) (now : Time) :
    Except Failure Db := do
  let workOrder ← loadWorkOrder db tenantId workOrderId
  let saved ← revised workOrder dto now
  let db := { db with workOrders := db.workOrders.save saved }
  return if dto.refreshes then updateProductionOrderQuantity scan db tenantId workOrder.productionOrderId else db

def next (db : Db) : Call → Db
  | .createWorkOrder tenantId productionOrderId id year dto =>
      settle db (createWorkOrder db tenantId productionOrderId id year dto)
  | .updateWorkOrderStatus tenantId workOrderId dto now =>
      settle db (updateWorkOrderStatus scan db tenantId workOrderId dto now)

/-! ## The law -/

def Owned (db : Db) : Prop :=
  ∀ w ∈ db.workOrders.rows, ∃ o, db.orders.find? w.productionOrderId = some o ∧ o.tenantId = w.tenantId

/-- Each order shows the quantity of its last completed work order. -/
def Follows (db : Db) : Prop :=
  ∀ o ∈ db.orders.rows, ∀ w, lastWorkOrder scan db o.tenantId o.id = some w →
    o.quantityProduced = w.quantityProduced.getD 0

/-- The quantity of the last completed work order; as long as none is, what the order shows. -/
def lastQuantity (db : Db) (o : ProductionOrder) : Numeric 12 2 :=
  (lastWorkOrder scan db o.tenantId o.id).elim o.quantityProduced fun w => w.quantityProduced.getD 0

/-- A call that writes a work order refreshes the order from a recorded quantity, or leaves the quantity of the
last completed work order as it was. -/
def Keeps (db : Db) : Call → Prop
  | .createWorkOrder .. => True
  | .updateWorkOrderStatus tenantId workOrderId dto now => ∀ w, loadWorkOrder db tenantId workOrderId = .ok w →
      ∀ w', revised w dto now = .ok w' → ∀ o, db.orders.find? w.productionOrderId = some o →
        let after : Db := { db with workOrders := db.workOrders.save w' }
        (dto.refreshes ∧ ∃ l, lastWorkOrder scan after o.tenantId o.id = some l ∧ l.quantityProduced.isSome) ∨
          lastQuantity scan after o = lastQuantity scan db o

local instance decidableReturned {α : Type} (x : Except Failure α) (p : α → Prop) [DecidablePred p] :
    Decidable (∀ a, x = .ok a → p a) :=
  match x with
  | .ok a => decidable_of_iff (p a) (by simp)
  | .error _ => isTrue (by rintro a ⟨⟩)

local instance decidableFound {α : Type} (x : Option α) (p : α → Prop) [DecidablePred p] :
    Decidable (∀ a, x = some a → p a) :=
  decidable_of_iff (∀ a ∈ x, p a) (by simp)

local instance decidableLast {α : Type} (x : Option α) (p : α → Prop) [DecidablePred p] :
    Decidable (∃ a, x = some a ∧ p a) :=
  decidable_of_iff (∃ a ∈ x, p a) (by simp)

instance (db : Db) (call : Call) : Decidable (Keeps scan db call) := by
  unfold Keeps
  split <;> infer_instance

variable {scan} {db : Db}

/-! ## The last work order -/

theorem lastWorkOrder_highest {tenantId productionOrderId : Uuid} {w : WorkOrder}
    (last : lastWorkOrder scan db tenantId productionOrderId = some w) :
    w ∈ completed db tenantId productionOrderId ∧
      ∀ w' ∈ completed db tenantId productionOrderId, w'.sequenceNumber ≤ w.sequenceNumber := by
  obtain ⟨rest, sorted⟩ := List.head?_eq_some_iff.mp last
  have mem (w' : WorkOrder) : w' ∈ completed db tenantId productionOrderId ↔ w' ∈ w :: rest := by
    rw [← sorted, List.mem_insertionSort, scan.mem]
  have ordered := List.pairwise_insertionSort (fun a b : WorkOrder => b.sequenceNumber ≤ a.sequenceNumber)
    (scan.order (completed db tenantId productionOrderId))
  rw [sorted, List.pairwise_cons] at ordered
  refine ⟨(mem w).mpr List.mem_cons_self, ?_⟩
  intro w' there
  obtain rfl | behind := List.mem_cons.mp ((mem w').mp there)
  · exact le_rfl
  · exact ordered.1 w' behind

theorem lastQuantity_eq {o : ProductionOrder} : lastQuantity scan db o = o.quantityProduced ↔
    ∀ w, lastWorkOrder scan db o.tenantId o.id = some w → o.quantityProduced = w.quantityProduced.getD 0 := by
  rw [lastQuantity]
  cases lastWorkOrder scan db o.tenantId o.id with
  | none => simp
  | some w => simp [eq_comm]

theorem follows_iff : Follows scan db ↔ ∀ o ∈ db.orders.rows, lastQuantity scan db o = o.quantityProduced := by
  simp only [Follows, lastQuantity_eq]

theorem completed_save {w : WorkOrder} {tenantId productionOrderId : Uuid}
    (dropped : ¬ (w.tenantId = tenantId ∧ w.productionOrderId = productionOrderId ∧ w.status = .completed))
    (old : ∀ w', db.workOrders.find? w.id = some w' →
      ¬ (w'.tenantId = tenantId ∧ w'.productionOrderId = productionOrderId ∧ w'.status = .completed)) :
    completed { db with workOrders := db.workOrders.save w } tenantId productionOrderId =
      completed db tenantId productionOrderId := by
  have same := Table.filter_save_of_not (t := db.workOrders) (r := w)
    (p := fun w => w.tenantId = tenantId ∧ w.productionOrderId = productionOrderId ∧ w.status = .completed)
    (decide_eq_false dropped) fun w' found => decide_eq_false (old w' found)
  exact congrArg Table.rows same

theorem lastQuantity_congr {db' : Db} {o : ProductionOrder}
    (same : completed db' o.tenantId o.id = completed db o.tenantId o.id) :
    lastQuantity scan db' o = lastQuantity scan db o := by
  rw [lastQuantity, lastWorkOrder, same]
  rfl

/-! ## One call -/

theorem loadWorkOrder_ok {tenantId workOrderId : Uuid} {w : WorkOrder} :
    loadWorkOrder db tenantId workOrderId = .ok w ↔
      db.workOrders.find? workOrderId = some w ∧ w.tenantId = tenantId := by
  simp [loadWorkOrder, Option.filter_eq_some_iff]

theorem revised_same {w w' : WorkOrder} {dto : UpdateWorkOrderStatusInput} {now : Time}
    (ok : revised w dto now = .ok w') :
    w'.id = w.id ∧ w'.tenantId = w.tenantId ∧ w'.productionOrderId = w.productionOrderId := by
  simp only [revised, bind_eq_ok, pure_eq_ok] at ok
  obtain ⟨_, -, _, -, _, -, rfl⟩ := ok
  exact ⟨rfl, rfl, rfl⟩

theorem createWorkOrder_ok {tenantId productionOrderId id : Uuid} {year : ℕ} {dto : CreateWorkOrderInput} {db' : Db}
    (ok : createWorkOrder db tenantId productionOrderId id year dto = .ok db') :
    (∃ o, db.orders.find? productionOrderId = some o ∧ o.tenantId = tenantId) ∧
      ∃ w, w.tenantId = tenantId ∧ w.productionOrderId = productionOrderId ∧ w.status = .pending ∧
        db.workOrders.find? w.id = none ∧ db' = { db with workOrders := db.workOrders.save w } := by
  simp only [createWorkOrder, getProductionOrderById, bind_eq_ok, require_eq_ok, ensure_eq_ok, pure_eq_ok,
    Option.filter_eq_some_iff, Option.isNone_iff_eq_none, decide_eq_true_eq] at ok
  obtain ⟨o, found, _, -, _, -, _, ⟨fresh, -⟩, rfl⟩ := ok
  exact ⟨⟨o, found⟩, _, rfl, rfl, rfl, fresh, rfl⟩

theorem updateWorkOrderStatus_ok {tenantId workOrderId : Uuid} {dto : UpdateWorkOrderStatusInput} {now : Time}
    {db' : Db} : updateWorkOrderStatus scan db tenantId workOrderId dto now = .ok db' ↔
      ∃ w, loadWorkOrder db tenantId workOrderId = .ok w ∧ ∃ w', revised w dto now = .ok w' ∧
        (if dto.refreshes then
          updateProductionOrderQuantity scan { db with workOrders := db.workOrders.save w' } tenantId w.productionOrderId
        else { db with workOrders := db.workOrders.save w' }) = db' := by
  rw [updateWorkOrderStatus]
  simp only [bind_eq_ok, pure_eq_ok]

theorem refresh_workOrders (tenantId productionOrderId : Uuid) :
    (updateProductionOrderQuantity scan db tenantId productionOrderId).workOrders = db.workOrders := by
  unfold updateProductionOrderQuantity
  split <;> rfl

theorem refresh_find? (scan : Scan WorkOrder) (tenantId productionOrderId : Uuid) {id : Uuid} {o : ProductionOrder}
    (found : db.orders.find? id = some o) :
    ∃ o', (updateProductionOrderQuantity scan db tenantId productionOrderId).orders.find? id = some o' ∧
      o'.tenantId = o.tenantId := by
  unfold updateProductionOrderQuantity
  split
  · rename_i quantityProduced order _ there
    rw [Table.find?_save]
    split_ifs with same
    · have eq : order = o := by
        have here := Table.key_of_find? there
        have key : order.key = id := same
        rw [← key, here, there] at found
        exact Option.some.inj found
      exact ⟨_, rfl, congrArg (·.tenantId) eq⟩
    · exact ⟨o, found, rfl⟩
  · exact ⟨o, found, rfl⟩

theorem Owned.save {w : WorkOrder} (owned : Owned db)
    (own : ∃ o, db.orders.find? w.productionOrderId = some o ∧ o.tenantId = w.tenantId) :
    Owned { db with workOrders := db.workOrders.save w } := by
  intro w' mem
  obtain rfl | ⟨old, -⟩ := Table.mem_save.mp mem
  · exact own
  · exact owned w' old

theorem Owned.refresh (owned : Owned db) (tenantId productionOrderId : Uuid) :
    Owned (updateProductionOrderQuantity scan db tenantId productionOrderId) := by
  intro w mem
  rw [refresh_workOrders] at mem
  obtain ⟨o, found, tenant⟩ := owned w mem
  obtain ⟨o', found', tenant'⟩ := refresh_find? scan tenantId productionOrderId found
  exact ⟨o', found', tenant'.trans tenant⟩

theorem Owned.next (owned : Owned db) (call : Call) : Owned (next scan db call) := by
  cases call with
  | createWorkOrder tenantId productionOrderId id year dto =>
      apply settle_keeps owned
      intro db' ok
      obtain ⟨⟨o, found, tenant⟩, w, rfl, rfl, -, -, rfl⟩ := createWorkOrder_ok ok
      exact owned.save ⟨o, found, tenant⟩
  | updateWorkOrderStatus tenantId workOrderId dto now =>
      apply settle_keeps owned
      intro db' ok
      obtain ⟨w, load, w', revision, rfl⟩ := updateWorkOrderStatus_ok.mp ok
      obtain ⟨-, tenant, order⟩ := revised_same revision
      have own := owned w (Table.mem_of_find? (loadWorkOrder_ok.mp load).1)
      rw [← tenant, ← order] at own
      have saved := owned.save own
      split_ifs
      · exact saved.refresh tenantId w.productionOrderId
      · exact saved

theorem follows_create {tenantId productionOrderId id : Uuid} {year : ℕ} {dto : CreateWorkOrderInput} {db' : Db}
    (follows : Follows scan db) (ok : createWorkOrder db tenantId productionOrderId id year dto = .ok db') :
    Follows scan db' := by
  obtain ⟨-, w, -, -, pending, fresh, rfl⟩ := createWorkOrder_ok ok
  rw [follows_iff] at follows ⊢
  intro o mem
  rw [← follows o mem]
  apply lastQuantity_congr
  apply completed_save
  · rw [pending]
    rintro ⟨-, -, absurd⟩
    cases absurd
  · intro w' found
    rw [fresh] at found
    cases found

section
variable {w w' : WorkOrder} {o : ProductionOrder} {dto : UpdateWorkOrderStatusInput} {now : Time}

theorem lastQuantity_save (found : db.workOrders.find? w.id = some w) (revision : revised w dto now = .ok w')
    (other : o.id ≠ w.productionOrderId) :
    lastQuantity scan { db with workOrders := db.workOrders.save w' } o = lastQuantity scan db o := by
  obtain ⟨id, -, order⟩ := revised_same revision
  apply lastQuantity_congr
  apply completed_save
  · rw [order]
    rintro ⟨-, there, -⟩
    exact other there.symm
  · intro w'' found'
    rw [id, found] at found'
    obtain rfl := Option.some.inj found'
    rintro ⟨-, there, -⟩
    exact other there.symm

theorem eq_of_order {id : Uuid} {o' : ProductionOrder} (found : db.orders.find? id = some o)
    (mem : o' ∈ db.orders.rows) (same : o'.id = id) : o' = o := by
  have found' := Table.find?_of_mem mem
  have key : o'.key = id := same
  rw [key, found] at found'
  exact (Option.some.inj found').symm

theorem follows_save (follows : Follows scan db) (found : db.workOrders.find? w.id = some w)
    (own : db.orders.find? w.productionOrderId = some o) (revision : revised w dto now = .ok w') :
    Follows scan { db with workOrders := db.workOrders.save w' } ↔
      lastQuantity scan { db with workOrders := db.workOrders.save w' } o = lastQuantity scan db o := by
  rw [follows_iff] at follows ⊢
  have mem := Table.mem_of_find? own
  constructor
  · intro after
    exact (after o mem).trans (follows o mem).symm
  · intro same o' mem'
    by_cases here : o'.id = w.productionOrderId
    · rw [eq_of_order own mem' here]
      exact same.trans (follows o mem)
    · exact (lastQuantity_save found revision here).trans (follows o' mem')

/-- A refresh from a recorded quantity makes the order right, whatever it showed. -/
theorem follows_refresh (follows : Follows scan db) (found : db.workOrders.find? w.id = some w)
    (own : db.orders.find? w.productionOrderId = some o) (revision : revised w dto now = .ok w') {l : WorkOrder}
    (last : lastWorkOrder scan { db with workOrders := db.workOrders.save w' } o.tenantId o.id = some l)
    (recorded : l.quantityProduced.isSome) :
    Follows scan (updateProductionOrderQuantity scan { db with workOrders := db.workOrders.save w' } o.tenantId
      w.productionOrderId) := by
  have id : o.key = w.productionOrderId := Table.key_of_find? own
  change o.id = w.productionOrderId at id
  obtain ⟨quantity, eq⟩ := Option.isSome_iff_exists.mp recorded
  rw [follows_iff] at follows
  rw [id] at last
  simp only [updateProductionOrderQuantity, last, Option.bind_some, eq, own]
  intro o' mem l' last'
  obtain rfl | ⟨old, ne⟩ := Table.mem_save.mp mem
  · change lastWorkOrder scan _ o.tenantId o.id = some l' at last'
    rw [id] at last'
    obtain rfl := Option.some.inj (last.symm.trans last')
    rw [eq]
    rfl
  · have other : o'.id ≠ w.productionOrderId := id ▸ ne
    exact lastQuantity_eq.mp ((lastQuantity_save found revision other).trans (follows o' old)) l' last'

theorem refresh_nothing
    (none : ¬ ∃ l, lastWorkOrder scan db o.tenantId o.id = some l ∧ l.quantityProduced.isSome) :
    updateProductionOrderQuantity scan db o.tenantId o.id = db := by
  have nothing : (lastWorkOrder scan db o.tenantId o.id).bind (·.quantityProduced) = Option.none := by
    rw [Option.bind_eq_none_iff]
    intro l last
    by_contra recorded
    exact none ⟨l, last, Option.isSome_iff_ne_none.mpr recorded⟩
  rw [updateProductionOrderQuantity, nothing]

theorem follows_next (owned : Owned db) (follows : Follows scan db) (call : Call) :
    Follows scan (next scan db call) ↔ Keeps scan db call := by
  cases call with
  | createWorkOrder tenantId productionOrderId id year dto =>
      exact iff_of_true (settle_keeps follows fun db' ok => follows_create follows ok) trivial
  | updateWorkOrderStatus tenantId workOrderId dto now =>
      rw [next]
      cases result : updateWorkOrderStatus scan db tenantId workOrderId dto now with
      | error failure =>
          -- Nothing is written.
          refine iff_of_true follows ?_
          intro w load w' revision
          have ok : updateWorkOrderStatus scan db tenantId workOrderId dto now = .ok _ :=
            updateWorkOrderStatus_ok.mpr ⟨w, load, w', revision, rfl⟩
          rw [result] at ok
          cases ok
      | ok db' =>
          obtain ⟨w, load, w', revision, rfl⟩ := updateWorkOrderStatus_ok.mp result
          obtain ⟨there, rfl⟩ := loadWorkOrder_ok.mp load
          have found : db.workOrders.find? w.id = some w := Table.find?_of_mem (Table.mem_of_find? there)
          obtain ⟨o, own, tenant⟩ := owned w (Table.mem_of_find? there)
          have id : o.key = w.productionOrderId := Table.key_of_find? own
          change o.id = w.productionOrderId at id
          -- The condition is about this one row.
          have keeps : Keeps scan db (.updateWorkOrderStatus w.tenantId workOrderId dto now) ↔
              (dto.refreshes ∧ ∃ l, lastWorkOrder scan { db with workOrders := db.workOrders.save w' } o.tenantId o.id =
                some l ∧ l.quantityProduced.isSome) ∨
              lastQuantity scan { db with workOrders := db.workOrders.save w' } o = lastQuantity scan db o := by
            constructor
            · intro all
              exact all w load w' revision o own
            · intro met w₁ load₁ w₂ revision₁ o₁ own₁
              obtain rfl := Except.ok.inj (load.symm.trans load₁)
              obtain rfl := Except.ok.inj (revision.symm.trans revision₁)
              obtain rfl := Option.some.inj (own.symm.trans own₁)
              exact met
          rw [keeps, settle, ← tenant, ← id]
          by_cases refreshes : dto.refreshes = true
          · rw [if_pos refreshes]
            by_cases recorded : ∃ l, lastWorkOrder scan { db with workOrders := db.workOrders.save w' } o.tenantId o.id =
                some l ∧ l.quantityProduced.isSome
            · obtain ⟨l, last, some⟩ := recorded
              have right := follows_refresh follows found own revision last some
              rw [← id] at right
              exact iff_of_true right (.inl ⟨refreshes, l, last, some⟩)
            · rw [refresh_nothing recorded, or_iff_right fun both => recorded both.2]
              exact follows_save follows found own revision
          · rw [if_neg refreshes, or_iff_right fun both => refreshes both.1]
            exact follows_save follows found own revision

end

/-- In every state of a run the orders show the quantities of their last completed work orders, if and only if
each call keeps them. -/
theorem quantity_follows (owned : Owned db) (follows : Follows scan db) (calls : List Call) :
    (∀ before after, calls = before ++ after → Follows scan (before.foldl (next scan) db)) ↔
      AllMet (Keeps scan) (next scan) db calls :=
  AllMet.iff_every Owned (Follows scan) owned follows (fun _ call owned => owned.next call)
    fun _ call owned follows => follows_next owned follows call

end

def frames : ProductionOrder where
  id := 1
  tenantId := 1
  orderNumber := "PO-2026-00001"
  quantityPlanned := ⟨1000, by decide⟩
  billOfMaterials := none
  status := .inProgress
  quantityProduced := 0

def oneOrder : Db := ⟨⟨[frames], by decide⟩, ∅⟩

/-- A welding operation that is completed with five pieces. -/
def welding : List Call :=
  [.createWorkOrder 1 1 7 2026 { operationName := "Saldatura", workCenter := "WC-1", sequenceNumber := 10 },
    .updateWorkOrderStatus 1 7 { status := .completed, quantityProduced := some (some 5) } 0]

def scrapped : Call := .updateWorkOrderStatus 1 7 { status := .completed, quantityProduced := some (some 0) } 1

theorem oneOrder_owned : Owned oneOrder := fun _ mem => absurd mem List.not_mem_nil

theorem oneOrder_follows : Follows .inOrder oneOrder := by
  intro o mem w last
  exact absurd (lastWorkOrder_highest last).1 List.not_mem_nil

/-- Painting comes after welding; a later count of the welded pieces does not concern the order. -/
def painting : List Call := welding ++
  [.createWorkOrder 1 1 8 2026 { operationName := "Verniciatura", workCenter := "WC-2", sequenceNumber := 20 },
    .updateWorkOrderStatus 1 8 { status := .inProgress } 1,
    .updateWorkOrderStatus 1 8 { status := .completed, quantityProduced := some (some 4) } 2,
    .updateWorkOrderStatus 1 7 { status := .completed, quantityProduced := some (some 6) } 3]

theorem welding_follows :
    (∀ before after, painting = before ++ after → Follows .inOrder (before.foldl (next .inOrder) oneOrder)) ∧
      (welding.foldl (next .inOrder) oneOrder).orders.rows.map (·.quantityProduced.units) = [500] ∧
      (painting.foldl (next .inOrder) oneOrder).orders.rows.map (·.quantityProduced.units) = [400] ∧
      (painting.foldl (next .inOrder) oneOrder).workOrders.rows.map (·.quantityProduced.map (·.units)) =
        [some 600, some 400] := by
  refine ⟨(quantity_follows oneOrder_owned oneOrder_follows painting).mpr ?_, ?_, ?_, ?_⟩ <;> decide +kernel

/-- The correction to zero does not reach the order. -/
theorem scrapped_follows_not : ¬ ∀ before after, welding ++ [scrapped] = before ++ after →
    Follows .inOrder (before.foldl (next .inOrder) oneOrder) := by
  intro every
  have final := every (welding ++ [scrapped]) [] (by simp)
  have shown : ((welding ++ [scrapped]).foldl (next .inOrder) oneOrder).orders.rows =
      [{ frames with quantityProduced := ⟨500, by decide⟩ }] := by decide +kernel
  have recorded : (lastWorkOrder .inOrder ((welding ++ [scrapped]).foldl (next .inOrder) oneOrder) 1 1).map
      (·.quantityProduced) = some (some 0) := by decide +kernel
  obtain ⟨w, last, zero⟩ := Option.map_eq_some_iff.mp recorded
  have same := final { frames with quantityProduced := ⟨500, by decide⟩ } (by rw [shown]; simp) w last
  rw [zero] at same
  exact absurd same (by decide)

end SmartErp.Production.WorkOrders
