import SmartErp.Inventory.Stock
import SmartErp.Foundations.Holdings

/-!
# What one line of a request does

Each line that succeeds moves one holding and appends one movement; everything else it leaves alone.
The later modules use only these laws.
-/

namespace SmartErp.Inventory
open Foundations

def Db.level (db : Db) (k : StockKey) : Holding := ⟨db.onHand k, db.reserved k⟩

theorem Db.level_stored (db : Db) (k : StockKey) : (db.level k).Stored 2 := by
  unfold level onHand reserved
  cases db.stockLevels.find? k with
  | none => exact ⟨.zero 2, .zero 2⟩
  | some row => exact ⟨row.quantityOnHand.exact_val, row.quantityReserved.exact_val⟩

theorem Db.exact_onHand (db : Db) (k : StockKey) : Exact 2 (db.onHand k) := (db.level_stored k).onHand

theorem Db.exact_reserved (db : Db) (k : StockKey) : Exact 2 (db.reserved k) := (db.level_stored k).reserved

theorem Db.onHand_of_find? {db : Db} {k : StockKey} {row : StockLevel}
    (found : db.stockLevels.find? k = some row) : db.onHand k = row.quantityOnHand.val := by
  simp [onHand, found]

theorem Db.reserved_of_find? {db : Db} {k : StockKey} {row : StockLevel}
    (found : db.stockLevels.find? k = some row) : db.reserved k = row.quantityReserved.val := by
  simp [reserved, found]

theorem Db.loaded (db : Db) (tenantId productId warehouseId : Uuid) :
    let row := (db.stockLevels.find? (tenantId, productId, warehouseId)).getD
      (StockLevel.create tenantId productId warehouseId)
    row.key = (tenantId, productId, warehouseId) ∧
      row.quantityOnHand.val = db.onHand (tenantId, productId, warehouseId) ∧
      row.quantityReserved.val = db.reserved (tenantId, productId, warehouseId) := by
  cases found : db.stockLevels.find? (tenantId, productId, warehouseId) with
  | none => simp [StockLevel.create, StockLevel.key, onHand, reserved, found]
  | some row =>
      exact ⟨Table.key_of_find? found, (onHand_of_find? found).symm, (reserved_of_find? found).symm⟩

theorem toScale_number (x : Numeric 12 2) : toScale 2 x.number.spelled = x.val := by
  rw [x.spelled_number (by norm_num) (by norm_num), toScale_of_exact x.exact_val]

theorem counts_number (x : Numeric 12 2) : Counts 12 2 x.number x.val := .number (by norm_num) (by norm_num) x

theorem Db.counts_onHand (db : Db) (k : StockKey) : Counts 12 2 (db.onHandNumber k) (db.onHand k) := by
  obtain ⟨key, onHand, -⟩ := db.loaded k.1 k.2.1 k.2.2
  rw [onHandNumber, ← onHand]
  exact counts_number _

theorem Db.counts_reserved (db : Db) (k : StockKey) : Counts 12 2 (db.reservedNumber k) (db.reserved k) := by
  obtain ⟨key, -, reserved⟩ := db.loaded k.1 k.2.1 k.2.2
  rw [reservedNumber, ← reserved]
  exact counts_number _

theorem firstActiveWarehouse_congr {precedes : String → String → Bool} {db db' : Db} {tenantId : Uuid}
    (same : db'.warehouses = db.warehouses) :
    firstActiveWarehouse precedes db' tenantId = firstActiveWarehouse precedes db tenantId := by
  rw [firstActiveWarehouse, firstActiveWarehouse, same]

/-- `db'` is `db` with the holding `h` at `k` and the movements `ms` appended. -/
structure Posted (db db' : Db) (k : StockKey) (h : Holding) (ms : List StockMovement) : Prop where
  level : db'.level = Function.update db.level k h
  movements : db'.stockMovements = db.stockMovements ++ ms
  products : db'.products = db.products
  warehouses : db'.warehouses = db.warehouses

theorem Posted.onHand {db db' : Db} {k : StockKey} {h : Holding} {ms : List StockMovement}
    (posted : Posted db db' k h ms) : db'.onHand = Function.update db.onHand k h.onHand := by
  funext k'
  have level := congrArg Holding.onHand (congrFun posted.level k')
  rw [Function.update_apply] at level ⊢
  refine level.trans ?_
  split <;> rfl

theorem Posted.reserved {db db' : Db} {k : StockKey} {h : Holding} {ms : List StockMovement}
    (posted : Posted db db' k h ms) : db'.reserved = Function.update db.reserved k h.reserved := by
  funext k'
  have level := congrArg Holding.reserved (congrFun posted.level k')
  rw [Function.update_apply] at level ⊢
  refine level.trans ?_
  split <;> rfl

theorem saveStockLevel_posted {db db' : Db} {row : StockLevel} {k : StockKey} {onHand reserved : JsNumber}
    (key : row.key = k) (ok : db.saveStockLevel row onHand reserved = .ok db') :
    Posted db db' k ⟨toScale 2 onHand.spelled, toScale 2 reserved.spelled⟩ [] := by
  simp only [Db.saveStockLevel, bind_eq_ok, ensure_eq_ok, pure_eq_ok] at ok
  obtain ⟨quantityOnHand, storedOnHand, quantityReserved, storedReserved, -, -, -, -, rfl⟩ := ok
  refine ⟨?_, (List.append_nil _).symm, rfl, rfl⟩
  funext k'
  rw [← (numericParam_val storedOnHand).2, ← (numericParam_val storedReserved).2, Function.update_apply, ← key]
  have saved := Table.find?_save db.stockLevels { row with quantityOnHand, quantityReserved } k'
  change _ = if row.key = k' then _ else _ at saved
  unfold Db.level Db.onHand Db.reserved
  rw [saved]
  by_cases same : row.key = k'
  · simp [same]
  · rw [if_neg same, if_neg (Ne.symm same)]

theorem saveMovement_posted {db db' : Db} {tenantId : Uuid} {dto : StockMovementRequest}
    {cost : Option (Numeric 10 2)} (ok : db.saveMovement tenantId dto cost = .ok db') :
    ∃ quantity, numericParam 12 2 dto.number = .ok quantity ∧
      db' = { db with stockMovements := db.stockMovements ++ [dto.movement tenantId quantity cost] } := by
  simp only [Db.saveMovement, bind_eq_ok, ensure_eq_ok, pure_eq_ok] at ok
  obtain ⟨quantity, stored, -, -, rfl⟩ := ok
  exact ⟨quantity, stored, rfl⟩

theorem Posted.withMovement {db mid db' : Db} {k : StockKey} {h : Holding} {tenantId : Uuid}
    {dto : StockMovementRequest} {cost : Option (Numeric 10 2)}
    (posted : Posted db mid k h []) (ok : mid.saveMovement tenantId dto cost = .ok db') :
    ∃ quantity, numericParam 12 2 dto.number = .ok quantity ∧
      Posted db db' k h [dto.movement tenantId quantity cost] := by
  obtain ⟨quantity, stored, rfl⟩ := saveMovement_posted ok
  refine ⟨quantity, stored, posted.level, ?_, posted.products, posted.warehouses⟩
  simp [posted.movements]

/-! ## Movements -/

theorem counts_stored {n : JsNumber} {q : ℚ} {quantity : Numeric 12 2} (double : n.double = n) (means : n.Means q)
    (stored : numericParam 12 2 n = .ok quantity) : Counts 12 2 n q ∧ Kept 2 quantity.val q :=
  Counts.of_column (by norm_num) (by norm_num) double (numericParam_val stored).1 (numericParam_val stored).2 means

theorem StockMovementRequest.counts {dto : StockMovementRequest} {quantity : Numeric 12 2}
    (stored : numericParam 12 2 dto.number = .ok quantity) :
    Counts 12 2 dto.number dto.quantity ∧ Kept 2 quantity.val dto.quantity :=
  counts_stored (JsNumber.double_double _) (JsNumber.means_double _) stored

theorem adjustStock_posted {db db' : Db} {tenantId productId warehouseId : Uuid} {delta : ℚ}
    (ok : adjustStock db tenantId productId warehouseId delta = .ok db') :
    let next := (db.onHandNumber (tenantId, productId, warehouseId)).plus (JsNumber.finite delta).double
    ¬ next.lt (.finite 0) = true ∧ Posted db db' (tenantId, productId, warehouseId)
      ⟨toScale 2 next.spelled, db.reserved (tenantId, productId, warehouseId)⟩ [] := by
  simp only [adjustStock, bind_eq_ok, ensure_eq_ok] at ok
  obtain ⟨-, enough, saved⟩ := ok
  obtain ⟨key, onHand, reserved⟩ := db.loaded tenantId productId warehouseId
  have posted := saveStockLevel_posted key saved
  rw [toScale_number, reserved] at posted
  simp only [Numeric.number, onHand] at enough posted
  exact ⟨enough, posted⟩

theorem adjustStock_receives {db db' : Db} {tenantId productId warehouseId : Uuid} {delta : ℚ}
    (counts : Counts 12 2 (JsNumber.finite delta).double delta)
    (ok : adjustStock db tenantId productId warehouseId delta = .ok db') :
    -(db.onHand (tenantId, productId, warehouseId) + delta) * 10 ^ 2 ≤ 1/64 ∧
      ∃ h, Posted db db' (tenantId, productId, warehouseId) h [] ∧
        Holding.Receives 2 delta (db.level (tenantId, productId, warehouseId)) h := by
  obtain ⟨enough, posted⟩ := adjustStock_posted ok
  have here := db.counts_onHand (tenantId, productId, warehouseId)
  exact ⟨here.nonneg_of_not_lt counts enough, _, posted, here.kept_plus counts, rfl⟩

def StockMovementRequest.adjustments (dto : StockMovementRequest) : List (Uuid × ℚ) :=
  match dto.movementType with
  | .inbound | .productionOutput | .«return» | .adjustment =>
      (dto.destinationWarehouseId.map (·, dto.quantity)).toList
  | .outbound | .productionConsumption | .scrap =>
      (dto.sourceWarehouseId.map (·, -dto.quantity)).toList
  | .transfer =>
      match dto.sourceWarehouseId, dto.destinationWarehouseId with
      | some source, some destination => [(source, -dto.quantity), (destination, dto.quantity)]
      | _, _ => []

theorem applyMovementToLevels_eq (db : Db) (tenantId : Uuid) (dto : StockMovementRequest) :
    applyMovementToLevels db tenantId dto =
      dto.adjustments.foldlM (fun db a => adjustStock db tenantId dto.productId a.1 a.2) db := by
  unfold applyMovementToLevels StockMovementRequest.adjustments
  cases dto.movementType with
  | inbound | productionOutput | «return» | adjustment =>
      cases dto.destinationWarehouseId <;> simp
  | outbound | productionConsumption | scrap => cases dto.sourceWarehouseId <;> simp
  | transfer => cases dto.sourceWarehouseId <;> cases dto.destinationWarehouseId <;> simp

theorem StockMovementRequest.adjustments_counts {dto : StockMovementRequest}
    (counts : Counts 12 2 dto.number dto.quantity) :
    ∀ a ∈ dto.adjustments, Counts 12 2 (JsNumber.finite a.2).double a.2 := by
  have out : Counts 12 2 (JsNumber.finite (-dto.quantity)).double (-dto.quantity) := by
    rw [JsNumber.double_neg]
    exact counts.neg
  have into : Counts 12 2 (JsNumber.finite dto.quantity).double dto.quantity := counts
  unfold adjustments
  cases dto.movementType with
  | inbound | productionOutput | «return» | adjustment => cases dto.destinationWarehouseId <;> simp [into]
  | outbound | productionConsumption | scrap => cases dto.sourceWarehouseId <;> simp [out]
  | transfer => cases dto.sourceWarehouseId <;> cases dto.destinationWarehouseId <;> simp [into, out]

theorem recordStockMovement_ok {db db' : Db} {tenantId : Uuid} {dto : StockMovementRequest}
    (ok : recordStockMovement db tenantId dto = .ok db') :
    ∃ product quantity, db.products.find? dto.productId = some product ∧
      product.tenantId = tenantId ∧ numericParam 12 2 dto.number = .ok quantity ∧
      dto.adjustments.foldlM (fun db a => adjustStock db tenantId dto.productId a.1 a.2)
        { db with stockMovements :=
          db.stockMovements ++ [dto.movement tenantId quantity (some product.unitCost)] } = .ok db' := by
  simp only [recordStockMovement, bind_eq_ok, require_eq_ok, Option.filter_eq_some_iff,
    decide_eq_true_eq, applyMovementToLevels_eq] at ok
  obtain ⟨product, ⟨found, owner⟩, mid, recorded, applied⟩ := ok
  obtain ⟨quantity, stored, rfl⟩ := saveMovement_posted recorded
  exact ⟨product, quantity, found, owner, stored, applied⟩

/-! ## Lines -/

theorem reserveLine_posted {db db' : Db} {tenantId : Uuid} {r : ReservationRequest}
    (ok : reserveLine tenantId db r = .ok db') :
    (r.quantity - (db.onHand (r.key tenantId) - db.reserved (r.key tenantId))) * 10 ^ 2 ≤ 1/64 ∧
      ∃ quantity h, Posted db db' (r.key tenantId) h [r.reserving.movement tenantId quantity none] ∧
        Holding.Holds 2 r.quantity (db.level (r.key tenantId)) h := by
  simp only [reserveLine, bind_eq_ok, ensure_eq_ok] at ok
  obtain ⟨-, available, mid, saved, recorded⟩ := ok
  obtain ⟨key, onHand, reserved⟩ := db.loaded tenantId r.productId r.warehouseId
  rw [← ReservationRequest.key] at key onHand reserved
  obtain ⟨quantity, stored, posted⟩ := (saveStockLevel_posted key saved).withMovement recorded
  have counts := (StockMovementRequest.counts stored).1
  have here := db.counts_onHand (r.key tenantId)
  have held := db.counts_reserved (r.key tenantId)
  rw [toScale_number, onHand] at posted
  refine ⟨here.le_sub_of_not_lt held counts available, quantity, _, posted, rfl, ?_⟩
  have kept := held.kept_plus counts
  rw [Db.reservedNumber, ← reserved] at kept
  rw [Db.level, ← reserved]
  exact kept

theorem releaseLine_posted {db db' : Db} {tenantId : Uuid} {r : ReservationRequest}
    (ok : releaseLine tenantId db r = .ok db') :
    (db.stockLevels.find? (r.key tenantId) = none ∧ db' = db) ∨
      ∃ quantity h, Posted db db' (r.key tenantId) h [r.releasing.movement tenantId quantity none] ∧
        Holding.Releases 2 r.quantity (db.level (r.key tenantId)) h := by
  unfold releaseLine at ok
  split at ok
  · rename_i missing
    exact .inl ⟨missing, (pure_eq_ok.mp ok).symm⟩
  · rename_i stock found
    obtain ⟨mid, saved, recorded⟩ := bind_eq_ok.mp ok
    obtain ⟨quantity, stored, posted⟩ := (saveStockLevel_posted (Table.key_of_find? found) saved).withMovement recorded
    have back := TakenBack.of_counts (counts_number stock.quantityReserved) (StockMovementRequest.counts stored).1
    rw [← Db.reserved_of_find? found] at back
    rw [toScale_number, ← Db.onHand_of_find? found] at posted
    exact .inr ⟨quantity, _, posted, rfl, back⟩

theorem shipLine_posted {db db' : Db} {tenantId : Uuid} {r : ReservationRequest}
    (ok : shipLine tenantId db r = .ok db') :
    (r.quantity - db.onHand (r.key tenantId)) * 10 ^ 2 ≤ 1/64 ∧
      ∃ quantity h, Posted db db' (r.key tenantId) h [r.shipping.movement tenantId quantity none] ∧
        Kept 2 quantity.val r.quantity ∧ Holding.Fulfils 2 r.quantity (db.level (r.key tenantId)) h := by
  simp only [shipLine, bind_eq_ok, require_eq_ok, ensure_eq_ok] at ok
  obtain ⟨stock, found, -, enough, mid, saved, recorded⟩ := ok
  obtain ⟨quantity, stored, posted⟩ := (saveStockLevel_posted (Table.key_of_find? found) saved).withMovement recorded
  obtain ⟨counts, logged⟩ := StockMovementRequest.counts stored
  have here := counts_number stock.quantityOnHand
  have back := TakenBack.of_counts (counts_number stock.quantityReserved) counts
  have left := here.kept_minus counts
  have covers := here.le_of_not_lt counts enough
  rw [← Db.onHand_of_find? found] at left covers
  rw [← Db.reserved_of_find? found] at back
  refine ⟨covers, quantity, _, posted, logged, left, back, fun same => ?_⟩
  -- The same number less the same quantity.
  have number : stock.quantityReserved.number = stock.quantityOnHand.number := by
    rw [Numeric.number, ← Db.reserved_of_find? found, Numeric.number, ← Db.onHand_of_find? found]
    exact congrArg (fun q => (JsNumber.finite q).double) same
  obtain ⟨d, finite, -⟩ := (here.near_plus counts.neg).1
  rw [number, show stock.quantityOnHand.number.minus r.number = .finite d from finite]
  exact toScale_maximum d

theorem consumeLine_posted {db db' : Db} {tenantId defaultWarehouseId : Uuid} {reference : String}
    {line : BomLine} {q : ℚ} (means : line.number.Means q)
    (ok : consumeLine tenantId defaultWarehouseId reference db line = .ok db') :
    (q - db.onHand (line.key tenantId defaultWarehouseId)) * 10 ^ 2 ≤ 1/64 ∧
      ∃ quantity h, Posted db db' (line.key tenantId defaultWarehouseId) h
          [(line.consuming defaultWarehouseId reference).movement tenantId quantity none] ∧
        Kept 2 quantity.val q ∧ Holding.Receives 2 (-q) (db.level (line.key tenantId defaultWarehouseId)) h := by
  simp only [consumeLine, bind_eq_ok, require_eq_ok, ensure_eq_ok] at ok
  obtain ⟨-, enough, stock, found, mid, saved, recorded⟩ := ok
  obtain ⟨quantity, stored, posted⟩ := (saveStockLevel_posted (Table.key_of_find? found) saved).withMovement recorded
  obtain ⟨counts, logged⟩ := counts_stored (JsNumber.double_double _) means stored
  have here := db.counts_onHand (line.key tenantId defaultWarehouseId)
  rw [toScale_number, ← Db.reserved_of_find? found] at posted
  refine ⟨here.le_of_not_lt counts enough, quantity, _, posted, logged, ?_, rfl⟩
  exact here.kept_plus counts.neg

end SmartErp.Inventory
