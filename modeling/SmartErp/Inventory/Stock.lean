import SmartErp.Failure
import SmartErp.Foundations.Table

/-!
# Stock levels and movements

`inventory.service.ts` over the tables of `inventory.entity.ts`. A quantity of a request is the decimal that
its number spells; what is computed from it is computed in doubles. Row ids come from the database, so
`createWarehouse` takes the new one. `precedes` is the collation `ORDER BY code` uses. Columns that
no operation here reads are left out.
-/

namespace SmartErp.Inventory
open Foundations

inductive StockMovementType where
  | inbound
  | outbound
  | transfer
  | adjustment
  | productionConsumption
  | productionOutput
  | «return»
  | scrap
  deriving DecidableEq

structure Product where
  id : Uuid
  tenantId : Uuid
  unitCost : Numeric 10 2
  deriving DecidableEq

structure Warehouse where
  id : Uuid
  tenantId : Uuid
  code : String
  name : String
  isActive : Bool
  deriving DecidableEq

structure StockLevel where
  tenantId : Uuid
  productId : Uuid
  warehouseId : Uuid
  quantityOnHand : Numeric 12 2
  quantityReserved : Numeric 12 2
  quantityOnOrder : Numeric 12 2
  deriving DecidableEq

/-- Tenant, product and warehouse: the unique index of `stock_levels`. -/
abbrev StockKey := Uuid × Uuid × Uuid

def StockLevel.key (row : StockLevel) : StockKey := (row.tenantId, row.productId, row.warehouseId)

structure StockMovement where
  tenantId : Uuid
  productId : Uuid
  movementType : StockMovementType
  quantity : Numeric 12 2
  sourceWarehouseId : Option Uuid
  destinationWarehouseId : Option Uuid
  referenceNumber : Option String
  notes : Option String
  performedBy : Option String
  unitCostAtTime : Option (Numeric 10 2)
  deriving DecidableEq

structure Db where
  products : Table Product.id
  warehouses : Table Warehouse.id
  stockLevels : Table StockLevel.key
  stockMovements : List StockMovement

structure StockMovementRequest where
  productId : Uuid
  movementType : StockMovementType
  quantity : ℚ
  sourceWarehouseId : Option Uuid := none
  destinationWarehouseId : Option Uuid := none
  referenceNumber : Option String := none
  notes : Option String := none
  performedBy : Option String := none

def StockMovementRequest.number (dto : StockMovementRequest) : JsNumber := (JsNumber.finite dto.quantity).double

def StockMovementRequest.movement (dto : StockMovementRequest) (tenantId : Uuid)
    (quantity : Numeric 12 2) (unitCostAtTime : Option (Numeric 10 2)) : StockMovement where
  tenantId
  productId := dto.productId
  movementType := dto.movementType
  quantity
  sourceWarehouseId := dto.sourceWarehouseId
  destinationWarehouseId := dto.destinationWarehouseId
  referenceNumber := dto.referenceNumber
  notes := dto.notes
  performedBy := dto.performedBy
  unitCostAtTime

structure ReservationRequest where
  productId : Uuid
  warehouseId : Uuid
  quantity : ℚ
  reference : String

def ReservationRequest.number (r : ReservationRequest) : JsNumber := (JsNumber.finite r.quantity).double

structure BomLine where
  materialId : Uuid
  quantityRequired : ℚ
  warehouseId : Option Uuid := none

def BomLine.number (line : BomLine) : JsNumber := (JsNumber.finite line.quantityRequired).double

structure ConsumeOptions where
  reference : String
  bom : List BomLine
  fallbackWarehouseId : Option Uuid := none

/-! ## Warehouses -/

structure WarehouseDto where
  code : String
  name : String

structure WarehousePatch where
  code : Option String := none
  name : Option String := none
  isActive : Option Bool := none

def createWarehouse (db : Db) (tenantId id : Uuid) (dto : WarehouseDto) : Except Failure Db := do
  let existing := db.warehouses.rows.find? (fun w => w.tenantId = tenantId ∧ w.code = dto.code)
  ensure (existing = none) (.badRequest s!"Warehouse with code {dto.code} already exists")
  ensure (db.warehouses.find? id = none) (.database "warehouses_pkey")
  return { db with
    warehouses := db.warehouses.save ⟨id, tenantId, dto.code, dto.name, true⟩ }

def updateWarehouse (db : Db) (tenantId warehouseId : Uuid) (dto : WarehousePatch) :
    Except Failure Db := do
  let warehouse ← require
    ((db.warehouses.find? warehouseId).filter (fun w => w.tenantId = tenantId))
    (.notFound s!"Warehouse {warehouseId} not found")
  let updated := { warehouse with
    code := dto.code.getD warehouse.code
    name := dto.name.getD warehouse.name
    isActive := dto.isActive.getD warehouse.isActive }
  ensure (∀ w ∈ db.warehouses.rows,
    w.tenantId = tenantId → w.code = updated.code → w.id = warehouseId)
    (.database "ux_wh_tenant_code")
  return { db with warehouses := db.warehouses.save updated }

def firstActiveWarehouse (precedes : String → String → Bool) (db : Db) (tenantId : Uuid) :
    Option Warehouse :=
  (db.warehouses.rows.filter (fun w => w.tenantId = tenantId && w.isActive)).foldl
    (fun first w => match first with
      | none => some w
      | some v => if precedes w.code v.code then some w else some v) none

/-! ## Rows -/

namespace Db

def onHand (db : Db) (k : StockKey) : ℚ :=
  ((db.stockLevels.find? k).map (·.quantityOnHand.val)).getD 0

def reserved (db : Db) (k : StockKey) : ℚ :=
  ((db.stockLevels.find? k).map (·.quantityReserved.val)).getD 0

/-- `Number(stock?.quantityOnHand ?? 0)` -/
def onHandNumber (db : Db) (k : StockKey) : JsNumber := (JsNumber.finite (db.onHand k)).double

/-- `Number(stock?.quantityReserved ?? 0)` -/
def reservedNumber (db : Db) (k : StockKey) : JsNumber := (JsNumber.finite (db.reserved k)).double

/-- Saves a stock level whose two quantities were set; only an inserted row has its foreign keys
checked. -/
def saveStockLevel (db : Db) (row : StockLevel) (onHand reserved : JsNumber) : Except Failure Db := do
  let quantityOnHand ← numericParam 12 2 onHand
  let quantityReserved ← numericParam 12 2 reserved
  ensure (db.stockLevels.find? row.key = none → db.products.find? row.productId ≠ none)
    (.database "fk_sl_product")
  ensure (db.stockLevels.find? row.key = none → db.warehouses.find? row.warehouseId ≠ none)
    (.database "fk_sl_warehouse")
  return { db with
    stockLevels := db.stockLevels.save { row with quantityOnHand, quantityReserved } }

def saveMovement (db : Db) (tenantId : Uuid) (dto : StockMovementRequest)
    (unitCostAtTime : Option (Numeric 10 2)) : Except Failure Db := do
  let quantity ← numericParam 12 2 dto.number
  ensure (db.products.find? dto.productId ≠ none) (.database "fk_sm_product")
  return { db with
    stockMovements := db.stockMovements ++ [dto.movement tenantId quantity unitCostAtTime] }

end Db

def StockLevel.create (tenantId productId warehouseId : Uuid) : StockLevel :=
  ⟨tenantId, productId, warehouseId, 0, 0, 0⟩

/-! ## Movements -/

def adjustStock (db : Db) (tenantId productId warehouseId : Uuid) (quantityDelta : ℚ) :
    Except Failure Db := do
  let stockLevel := (db.stockLevels.find? (tenantId, productId, warehouseId)).getD
    (StockLevel.create tenantId productId warehouseId)
  let delta := (JsNumber.finite quantityDelta).double
  let next := stockLevel.quantityOnHand.number.plus delta
  ensure (¬ next.lt (.finite 0)) (.badRequest
    s!"Insufficient stock. Available: {numberText stockLevel.quantityOnHand.number}, Requested: {numberText delta.abs}")
  db.saveStockLevel stockLevel next stockLevel.quantityReserved.number

def applyMovementToLevels (db : Db) (tenantId : Uuid) (dto : StockMovementRequest) :
    Except Failure Db :=
  match dto.movementType with
  | .inbound | .productionOutput | .«return» | .adjustment =>
      match dto.destinationWarehouseId with
      | some destination => adjustStock db tenantId dto.productId destination dto.quantity
      | none => return db
  | .outbound | .productionConsumption | .scrap =>
      match dto.sourceWarehouseId with
      | some source => adjustStock db tenantId dto.productId source (-dto.quantity)
      | none => return db
  | .transfer =>
      match dto.sourceWarehouseId, dto.destinationWarehouseId with
      | some source, some destination => do
          let db ← adjustStock db tenantId dto.productId source (-dto.quantity)
          adjustStock db tenantId dto.productId destination dto.quantity
      | _, _ => return db

def recordStockMovement (db : Db) (tenantId : Uuid) (dto : StockMovementRequest) :
    Except Failure Db := do
  let product ← require ((db.products.find? dto.productId).filter (fun p => p.tenantId = tenantId))
    (.notFound s!"Product {dto.productId} not found")
  let db ← db.saveMovement tenantId dto (some product.unitCost)
  applyMovementToLevels db tenantId dto

/-! ## Reservations -/

namespace ReservationRequest

def key (tenantId : Uuid) (r : ReservationRequest) : StockKey := (tenantId, r.productId, r.warehouseId)

def reserving (r : ReservationRequest) : StockMovementRequest where
  productId := r.productId
  movementType := .adjustment
  quantity := r.quantity
  destinationWarehouseId := some r.warehouseId
  referenceNumber := some r.reference
  notes := some s!"Reservation for {r.reference}"

def releasing (r : ReservationRequest) : StockMovementRequest where
  productId := r.productId
  movementType := .adjustment
  quantity := r.quantity
  destinationWarehouseId := some r.warehouseId
  referenceNumber := some r.reference
  notes := some s!"Reservation release for {r.reference}"

def shipping (r : ReservationRequest) : StockMovementRequest where
  productId := r.productId
  movementType := .outbound
  quantity := r.quantity
  sourceWarehouseId := some r.warehouseId
  referenceNumber := some r.reference
  notes := some s!"Shipment for {r.reference}"

end ReservationRequest

def reserveLine (tenantId : Uuid) (db : Db) (r : ReservationRequest) : Except Failure Db := do
  let available := (db.onHandNumber (r.key tenantId)).minus (db.reservedNumber (r.key tenantId))
  ensure (¬ available.lt r.number) (.badRequest
    s!"Insufficient available stock for product {r.productId}: requested {numberText r.number}, available {numberText available}")
  let target := (db.stockLevels.find? (r.key tenantId)).getD
    (StockLevel.create tenantId r.productId r.warehouseId)
  let db ← db.saveStockLevel target target.quantityOnHand.number
    (target.quantityReserved.number.plus r.number)
  db.saveMovement tenantId r.reserving none

def reserveStock (db : Db) (tenantId : Uuid) (requests : List ReservationRequest) :
    Except Failure Db :=
  requests.foldlM (reserveLine tenantId) db

def releaseLine (tenantId : Uuid) (db : Db) (r : ReservationRequest) : Except Failure Db :=
  match db.stockLevels.find? (r.key tenantId) with
  | none => return db
  | some stock => do
      let db ← db.saveStockLevel stock stock.quantityOnHand.number
        ((JsNumber.finite 0).maximum (stock.quantityReserved.number.minus r.number))
      db.saveMovement tenantId r.releasing none

def releaseReservation (db : Db) (tenantId : Uuid) (requests : List ReservationRequest) :
    Except Failure Db :=
  requests.foldlM (releaseLine tenantId) db

def insufficientToShip (onHand requested : JsNumber) : Failure := .badRequest
  s!"Insufficient on-hand stock to ship: on-hand {numberText onHand}, requested {numberText requested}"

def shipLine (tenantId : Uuid) (db : Db) (r : ReservationRequest) : Except Failure Db := do
  let stock ← require (db.stockLevels.find? (r.key tenantId)) (.badRequest
    s!"Cannot ship: no stock record for product {r.productId} in warehouse {r.warehouseId}")
  let onHand := stock.quantityOnHand.number
  ensure (¬ onHand.lt r.number) (insufficientToShip onHand r.number)
  let db ← db.saveStockLevel stock (onHand.minus r.number)
    ((JsNumber.finite 0).maximum (stock.quantityReserved.number.minus r.number))
  db.saveMovement tenantId r.shipping none

def shipReservation (db : Db) (tenantId : Uuid) (requests : List ReservationRequest) :
    Except Failure Db :=
  requests.foldlM (shipLine tenantId) db

/-! ## Bills of materials -/

namespace BomLine

def key (tenantId defaultWarehouseId : Uuid) (line : BomLine) : StockKey :=
  (tenantId, line.materialId, line.warehouseId.getD defaultWarehouseId)

def consuming (defaultWarehouseId : Uuid) (reference : String) (line : BomLine) :
    StockMovementRequest where
  productId := line.materialId
  movementType := .productionConsumption
  quantity := line.quantityRequired
  sourceWarehouseId := some (line.warehouseId.getD defaultWarehouseId)
  referenceNumber := some reference
  notes := some s!"BOM consumption for {reference}"

end BomLine

def consumeLine (tenantId defaultWarehouseId : Uuid) (reference : String) (db : Db) (line : BomLine) :
    Except Failure Db := do
  let key := line.key tenantId defaultWarehouseId
  let onHand := db.onHandNumber key
  ensure (¬ onHand.lt line.number) (.badRequest
    s!"BOM expansion failed: material {line.materialId} short by {numberText (line.number.minus onHand)}")
  -- `stock!` asserts nothing at run time: a missing row is written to, which throws.
  let stock ← require (db.stockLevels.find? key) (.typeError "Cannot set properties of null")
  let db ← db.saveStockLevel stock (onHand.minus line.number) stock.quantityReserved.number
  db.saveMovement tenantId (line.consuming defaultWarehouseId reference) none

def bomWarehouse (precedes : String → String → Bool) (db : Db) (tenantId : Uuid)
    (opts : ConsumeOptions) : Option Uuid :=
  opts.fallbackWarehouseId.or ((firstActiveWarehouse precedes db tenantId).map (·.id))

def consumeBomForProductionOrder (precedes : String → String → Bool) (db : Db) (tenantId : Uuid)
    (opts : ConsumeOptions) : Except Failure Db := do
  let defaultWarehouseId ← require (bomWarehouse precedes db tenantId opts)
    (.badRequest "Cannot expand BOM: no warehouse available for tenant")
  opts.bom.foldlM (consumeLine tenantId defaultWarehouseId opts.reference) db

/-! ## The service as a machine -/

inductive Op where
  | recordStockMovement (tenantId : Uuid) (dto : StockMovementRequest)
  | reserveStock (tenantId : Uuid) (requests : List ReservationRequest)
  | releaseReservation (tenantId : Uuid) (requests : List ReservationRequest)
  | shipReservation (tenantId : Uuid) (requests : List ReservationRequest)
  | consumeBomForProductionOrder (tenantId : Uuid) (opts : ConsumeOptions)

def perform (precedes : String → String → Bool) (db : Db) : Op → Except Failure Db
  | .recordStockMovement tenantId dto => recordStockMovement db tenantId dto
  | .reserveStock tenantId requests => reserveStock db tenantId requests
  | .releaseReservation tenantId requests => releaseReservation db tenantId requests
  | .shipReservation tenantId requests => shipReservation db tenantId requests
  | .consumeBomForProductionOrder tenantId opts =>
      consumeBomForProductionOrder precedes db tenantId opts

def next (precedes : String → String → Bool) (db : Db) (op : Op) : Db :=
  settle db (perform precedes db op)

/-! ## A shop with one product and one warehouse -/

namespace Sample

def byCode (a b : String) : Bool := a < b

def shop : Db where
  products := ⟨[⟨7, 1, 0⟩], by simp⟩
  warehouses := ⟨[⟨3, 1, "MAIN", "Main", true⟩], by simp⟩
  stockLevels := ∅
  stockMovements := []

def receipt (quantity : ℚ) : Op := .recordStockMovement 1
  { productId := 7, movementType := .inbound, quantity, destinationWarehouseId := some 3 }

def removal (quantity : ℚ) : Op := .recordStockMovement 1
  { productId := 7, movementType := .outbound, quantity, sourceWarehouseId := some 3 }

def order (quantity : ℚ) : ReservationRequest := ⟨7, 3, quantity, "SO-1"⟩

end Sample
end SmartErp.Inventory
