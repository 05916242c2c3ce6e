import SmartErp.Inventory.Levels
import SmartErp.Foundations.Classes
import Mathlib.Data.List.Sort

/-!
# Products, warehouses and what is shown of the stock

The part of `inventory.service.ts` that a tenant's requests reach. Rows are selected by tenant and then
joined by id alone. Answers hold rows as they are stored; `precedes` is the collation of `ORDER BY code`.
-/

namespace SmartErp.Inventory.Catalogue
open Foundations

inductive ProductCategory where
  | rawMaterial
  | semiFinished
  | finishedProduct
  | consumable
  | packaging
  | sparePart
  deriving DecidableEq

structure Product extends Inventory.Product where
  sku : String
  name : String
  category : ProductCategory
  isActive : Bool
  deriving DecidableEq

structure ProductDto where
  sku : String
  name : String
  category : ProductCategory
  unitCost : Option ℚ := none

structure ProductPatch where
  sku : Option String := none
  name : Option String := none
  category : Option ProductCategory := none
  unitCost : Option ℚ := none
  isActive : Option Bool := none

structure Store where
  products : Table fun p : Product => p.id
  warehouses : Table Warehouse.id
  stockLevels : Table StockLevel.key
  stockMovements : List StockMovement
  /-- `updatedAt` of the stock levels. -/
  updatedAt : StockKey → ℕ

inductive Request where
  | createProduct (tenantId id : Uuid) (dto : ProductDto)
  | updateProduct (tenantId productId : Uuid) (dto : ProductPatch)
  | createWarehouse (tenantId id : Uuid) (dto : WarehouseDto)
  | updateWarehouse (tenantId warehouseId : Uuid) (dto : WarehousePatch)
  | recordStockMovement (tenantId : Uuid) (dto : StockMovementRequest) (now : ℕ)
  | getWarehouses (tenantId : Uuid)
  | getWarehouseById (tenantId warehouseId : Uuid)
  | getStockLevels (tenantId : Uuid) (warehouseId : Option Uuid)
  | getInventoryValuation (tenantId : Uuid)

def Request.tenantId : Request → Uuid
  | createProduct tenantId _ _ | updateProduct tenantId _ _ | createWarehouse tenantId _ _
  | updateWarehouse tenantId _ _ | recordStockMovement tenantId _ _ | getWarehouses tenantId
  | getWarehouseById tenantId _ | getStockLevels tenantId _ | getInventoryValuation tenantId => tenantId

structure Valuation where
  totalValue : JsNumber
  byCategory : List (ProductCategory × JsNumber)
  byWarehouse : List (String × JsNumber)
  deriving DecidableEq

/-- A row with its relations; `none` where no row has the id. -/
inductive Response where
  | product (product : Product) (stockLevels : List (StockLevel × Option Warehouse))
      (movements : List StockMovement)
  | warehouse (warehouse : Warehouse) (stockLevels : List (StockLevel × Option Product))
  | warehouses (warehouses : List (Warehouse × List StockLevel))
  | stockLevels (stockLevels : List (StockLevel × Option Product × Option Warehouse))
  | movement (movement : Option StockMovement)
  | valuation (valuation : Valuation)
  deriving DecidableEq

namespace Store

def db (s : Store) : Db where
  products := s.products.restrict Product.toProduct fun _ => rfl
  warehouses := s.warehouses
  stockLevels := s.stockLevels
  stockMovements := s.stockMovements

/-! ## Relations -/

def levelsOfProduct (s : Store) (p : Product) : List (StockLevel × Option Warehouse) :=
  (s.stockLevels.rows.filter (·.productId = p.id)).map fun l => (l, s.warehouses.find? l.warehouseId)

def levelsOfWarehouse (s : Store) (w : Warehouse) : List StockLevel :=
  s.stockLevels.rows.filter (·.warehouseId = w.id)

def productOf (s : Store) (l : StockLevel) : Option Product := s.products.find? l.productId

def joined (s : Store) (l : StockLevel) : StockLevel × Option Product × Option Warehouse :=
  (l, s.productOf l, s.warehouses.find? l.warehouseId)

def showWarehouse (s : Store) (w : Warehouse) : Response :=
  .warehouse w ((s.levelsOfWarehouse w).map fun l => (l, s.productOf l))

/-! ## Products -/

def createProduct (s : Store) (tenantId id : Uuid) (dto : ProductDto) :
    Except Failure (Store × Response) := do
  let existing := s.products.rows.find? fun p => p.tenantId = tenantId ∧ p.sku = dto.sku
  ensure (existing = none) (.badRequest s!"Product with SKU {dto.sku} already exists")
  let unitCost ← numericParam 10 2 (JsNumber.finite (dto.unitCost.getD 0)).double
  ensure (s.products.find? id = none) (.database "products_pkey")
  let product : Product := {
    id, tenantId, unitCost, sku := dto.sku, name := dto.name, category := dto.category, isActive := true }
  return ({ s with products := s.products.save product }, .product product [] [])

def getProductById (s : Store) (tenantId productId : Uuid) : Except Failure Product :=
  require ((s.products.find? productId).filter fun p => p.tenantId = tenantId)
    (.notFound s!"Product {productId} not found")

def updateProduct (s : Store) (tenantId productId : Uuid) (dto : ProductPatch) :
    Except Failure (Store × Response) := do
  let product ← s.getProductById tenantId productId
  let unitCost ← numericParam 10 2 (JsNumber.finite (dto.unitCost.getD product.unitCost.val)).double
  let updated : Product := { product with
    unitCost
    sku := dto.sku.getD product.sku
    name := dto.name.getD product.name
    category := dto.category.getD product.category
    isActive := dto.isActive.getD product.isActive }
  ensure (∀ p ∈ s.products.rows, p.tenantId = tenantId → p.sku = updated.sku → p.id = productId)
    (.database "ux_products_tenant_sku")
  return ({ s with products := s.products.save updated },
    .product updated (s.levelsOfProduct product) (s.stockMovements.filter (·.productId = product.id)))

/-! ## Warehouses -/

def createWarehouse (s : Store) (tenantId id : Uuid) (dto : WarehouseDto) :
    Except Failure (Store × Response) := do
  let db ← Inventory.createWarehouse s.db tenantId id dto
  return ({ s with warehouses := db.warehouses }, .warehouse ⟨id, tenantId, dto.code, dto.name, true⟩ [])

def findWarehouse (s : Store) (tenantId warehouseId : Uuid) : Except Failure Warehouse :=
  require ((s.warehouses.find? warehouseId).filter fun w => w.tenantId = tenantId)
    (.notFound s!"Warehouse {warehouseId} not found")

def updateWarehouse (s : Store) (tenantId warehouseId : Uuid) (dto : WarehousePatch) :
    Except Failure (Store × Response) := do
  let db ← Inventory.updateWarehouse s.db tenantId warehouseId dto
  let s : Store := { s with warehouses := db.warehouses }
  let saved ← s.findWarehouse tenantId warehouseId
  return (s, s.showWarehouse saved)

def getWarehouses (precedes : String → String → Bool) (s : Store) (tenantId : Uuid) : Response :=
  .warehouses (((s.warehouses.rows.filter fun w => w.tenantId = tenantId ∧ w.isActive).insertionSort
    fun v w => ¬ precedes w.code v.code).map fun w => (w, s.levelsOfWarehouse w))

/-! ## Stock -/

/-- A saved row gets a new `updatedAt` if it has changed. -/
def recordStockMovement (s : Store) (tenantId : Uuid) (dto : StockMovementRequest) (now : ℕ) :
    Except Failure (Store × Response) := do
  let db ← Inventory.recordStockMovement s.db tenantId dto
  return ({ s with
    stockLevels := db.stockLevels
    stockMovements := db.stockMovements
    updatedAt := fun k =>
      if db.stockLevels.find? k = s.stockLevels.find? k then s.updatedAt k else now },
    .movement db.stockMovements.getLast?)

def levelsOf (s : Store) (tenantId : Uuid) : List (StockLevel × Option Product × Option Warehouse) :=
  (s.stockLevels.rows.filter (·.tenantId = tenantId)).map s.joined

def getStockLevels (s : Store) (tenantId : Uuid) (warehouseId : Option Uuid) : Response :=
  let selected := (s.levelsOf tenantId).filter fun e => ∀ id ∈ warehouseId, e.1.warehouseId = id
  .stockLevels (selected.insertionSort fun a b => s.updatedAt b.1.key ≤ s.updatedAt a.1.key)

/-- `Number(sl.quantityOnHand) * Number(sl.product?.unitCost || 0)` -/
def levelValue (e : StockLevel × Option Product × Option Warehouse) : JsNumber :=
  e.1.quantityOnHand.number.times ((e.2.1.map (·.unitCost.number)).getD (.finite 0))

/-- `(totals[key] || 0) + value` -/
def plusValue {κ : Type} (total : Option JsNumber) (e : κ × JsNumber) : JsNumber :=
  (total.getD (.finite 0)).plus e.2

def getInventoryValuation (s : Store) (tenantId : Uuid) : Response :=
  let stockLevels := s.levelsOf tenantId
  .valuation {
    totalValue := (JsNumber.added (stockLevels.map levelValue)).fixed 2
    byCategory := group (·.1) plusValue
      (stockLevels.filterMap fun e => e.2.1.map fun p => (p.category, levelValue e))
    byWarehouse := group (·.1) plusValue
      (stockLevels.filterMap fun e => (e.2.2.filter (·.name ≠ "")).map fun w => (w.name, levelValue e)) }

/-! ## The service as a machine -/

def perform (precedes : String → String → Bool) (s : Store) : Request → Except Failure (Store × Response)
  | .createProduct tenantId id dto => s.createProduct tenantId id dto
  | .updateProduct tenantId productId dto => s.updateProduct tenantId productId dto
  | .createWarehouse tenantId id dto => s.createWarehouse tenantId id dto
  | .updateWarehouse tenantId warehouseId dto => s.updateWarehouse tenantId warehouseId dto
  | .recordStockMovement tenantId dto now => s.recordStockMovement tenantId dto now
  | .getWarehouses tenantId => return (s, s.getWarehouses precedes tenantId)
  | .getWarehouseById tenantId warehouseId => do
      let warehouse ← s.findWarehouse tenantId warehouseId
      return (s, s.showWarehouse warehouse)
  | .getStockLevels tenantId warehouseId => return (s, s.getStockLevels tenantId warehouseId)
  | .getInventoryValuation tenantId => return (s, s.getInventoryValuation tenantId)

def next (precedes : String → String → Bool) (s : Store) (request : Request) : Store :=
  settle s ((s.perform precedes request).map Prod.fst)

def answer (precedes : String → String → Bool) (s : Store) (request : Request) : Except Failure Response :=
  (s.perform precedes request).map Prod.snd

end Store
end SmartErp.Inventory.Catalogue
