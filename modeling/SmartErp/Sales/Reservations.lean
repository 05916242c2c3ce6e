import SmartErp.Sales.Orders
import SmartErp.Inventory.Reserved

/-!
# What confirmed orders hold

A confirmation reserves its lines at the default warehouse of that moment, where they name none. A
cancellation or a shipment looks the default warehouse up again.
-/

namespace SmartErp.Sales
open Foundations Inventory

variable {precedes : String → String → Bool} {tenantId : Uuid}

def SalesOrder.asks (order : SalesOrder) (tenantId defaultWarehouseId : Uuid) : List (StockKey × ℚ) :=
  (order.stockRequests defaultWarehouseId).map (·.asks tenantId)

def SalesOrder.UsesDefault (order : SalesOrder) : Prop :=
  ∃ l ∈ order.lines, l.productId ≠ none ∧ l.warehouseId = none ∧ l.quantity ≠ 0

def SalesOrder.Hundredths (order : SalesOrder) : Prop :=
  ∀ l ∈ order.lines, l.productId ≠ none → Exact 2 l.quantity

structure Traced where
  db : Db
  confirmedAt : Uuid → Uuid

def next (precedes : String → String → Bool) (tenantId : Uuid) (s : Traced) (op : Op) : Traced :=
  match perform precedes tenantId s.db op with
  | .error _ => s
  | .ok db => { db, confirmedAt :=
      match op, firstActiveWarehouse precedes s.db.stock tenantId with
      | .confirmSalesOrder id, some w => Function.update s.confirmedAt id w.id
      | _, _ => s.confirmedAt }

def heldBy (tenantId : Uuid) (confirmedAt : Uuid → Uuid) (k : StockKey) (order : SalesOrder) : ℚ :=
  if order.status = .confirmed then demand k (order.asks tenantId (confirmedAt order.id)) else 0

def Traced.confirmedQuantity (s : Traced) (tenantId : Uuid) (k : StockKey) : ℚ :=
  (s.db.salesOrders.rows.map (heldBy tenantId s.confirmedAt k)).sum

/-- A confirmation is in hundredths; a cancellation or a shipment of a confirmed order that uses the
default warehouse still finds the one it was confirmed at. -/
def Keeps (precedes : String → String → Bool) (tenantId : Uuid) (s : Traced) : Op → Prop
  | .confirmSalesOrder id => ∀ order ∈ s.db.salesOrders.find? id, order.Hundredths
  | .cancelSalesOrder id | .shipSalesOrder id =>
      ∀ order ∈ s.db.salesOrders.find? id, order.status = .confirmed → order.UsesDefault →
        ∀ w ∈ firstActiveWarehouse precedes s.db.stock tenantId, w.id = s.confirmedAt id
  | _ => True

instance (order : SalesOrder) : Decidable order.UsesDefault := by
  unfold SalesOrder.UsesDefault
  infer_instance

instance (order : SalesOrder) : Decidable order.Hundredths := by
  unfold SalesOrder.Hundredths
  infer_instance

instance (s : Traced) (op : Op) : Decidable (Keeps precedes tenantId s op) := by
  cases op <;> unfold Keeps <;> infer_instance

/-! ## What each operation does -/

theorem findSalesOrder_ok {db : Db} {id : Uuid} {order : SalesOrder}
    (ok : findSalesOrder db tenantId id = .ok order) :
    db.salesOrders.find? id = some order ∧ order.id = id := by
  rw [findSalesOrder, require_eq_ok, Option.filter_eq_some_iff] at ok
  exact ⟨ok.1, Table.key_of_find? ok.1⟩

theorem createSalesOrder_ok {db db' : Db} {id : Uuid} {year : ℕ} {dto : CreateSalesOrderDto}
    (ok : createSalesOrder db tenantId id year dto = .ok db') :
    ∃ order : SalesOrder, db.salesOrders.find? order.id = none ∧ order.status = .draft ∧
      order.lines = dto.lines.map (·.line) ∧
      db' = { db with salesOrders := db.salesOrders.save order } := by
  simp only [createSalesOrder, bind_eq_ok, ensure_eq_ok, pure_eq_ok] at ok
  obtain ⟨_, -, subtotalAmount, -, taxAmount, -, totalAmount, -, -, fresh, -, -, rfl⟩ := ok
  exact ⟨_, fresh, rfl, rfl, rfl⟩

theorem confirmSalesOrder_ok {db db' : Db} {id : Uuid}
    (ok : confirmSalesOrder precedes db tenantId id = .ok db') :
    ∃ order w stock, db.salesOrders.find? id = some order ∧ order.id = id ∧ order.status = .draft ∧
      firstActiveWarehouse precedes db.stock tenantId = some w ∧
      reserveStock db.stock tenantId (order.stockRequests w.id) = .ok stock ∧
      db' = setStatus { db with stock } order .confirmed := by
  simp only [confirmSalesOrder, bind_eq_ok, ensure_eq_ok, pure_eq_ok, pickDefaultWarehouseId,
    require_eq_ok, Option.map_eq_some_iff] at ok
  obtain ⟨order, found, -, draft, _, ⟨w, first, rfl⟩, stock, reserved, rfl⟩ := ok
  obtain ⟨found, same⟩ := findSalesOrder_ok found
  exact ⟨order, w, stock, found, same, draft, first, reserved, rfl⟩

theorem cancelSalesOrder_ok {db db' : Db} {id : Uuid}
    (ok : cancelSalesOrder precedes db tenantId id = .ok db') :
    ∃ order, db.salesOrders.find? id = some order ∧ order.id = id ∧
      ((order.status ≠ .confirmed ∧ db' = setStatus db order .cancelled) ∨
        ((order.status = .confirmed ∨ order.status = .partiallyShipped) ∧
          ∃ w stock, firstActiveWarehouse precedes db.stock tenantId = some w ∧
            releaseReservation db.stock tenantId (order.stockRequests w.id) = .ok stock ∧
            db' = setStatus { db with stock } order .cancelled)) := by
  simp only [cancelSalesOrder, bind_eq_ok, ensure_eq_ok] at ok
  obtain ⟨order, found, -, -, rest⟩ := ok
  obtain ⟨found, same⟩ := findSalesOrder_ok found
  refine ⟨order, found, same, ?_⟩
  split at rest
  · rename_i holds
    simp only [bind_eq_ok, pure_eq_ok, pickDefaultWarehouseId, require_eq_ok,
      Option.map_eq_some_iff] at rest
    obtain ⟨_, ⟨w, first, rfl⟩, stock, released, rfl⟩ := rest
    exact .inr ⟨holds, w, stock, first, released, rfl⟩
  · rename_i holds
    exact .inl ⟨fun confirmed => holds (.inl confirmed), (pure_eq_ok.mp rest).symm⟩

theorem shipSalesOrder_ok {db db' : Db} {id : Uuid}
    (ok : shipSalesOrder precedes db tenantId id = .ok db') :
    ∃ order w stock, db.salesOrders.find? id = some order ∧ order.id = id ∧
      order.status = .confirmed ∧ firstActiveWarehouse precedes db.stock tenantId = some w ∧
      shipReservation db.stock tenantId (order.stockRequests w.id) = .ok stock ∧
      db' = setStatus { db with stock } order .shipped := by
  simp only [shipSalesOrder, bind_eq_ok, ensure_eq_ok, pure_eq_ok, pickDefaultWarehouseId,
    require_eq_ok, Option.map_eq_some_iff] at ok
  obtain ⟨order, found, -, confirmed, _, ⟨w, first, rfl⟩, stock, shipped, rfl⟩ := ok
  obtain ⟨found, same⟩ := findSalesOrder_ok found
  exact ⟨order, w, stock, found, same, confirmed, first, shipped, rfl⟩

/-! ## Orders and their requests -/

theorem SalesOrder.mem_stockRequests {order : SalesOrder} {w : Uuid} {r : ReservationRequest}
    (mem : r ∈ order.stockRequests w) :
    ∃ l ∈ order.lines, l.productId ≠ none ∧ r.quantity = l.quantity := by
  obtain ⟨l, hl, eq⟩ := List.mem_filterMap.mp mem
  obtain ⟨productId, some, rfl⟩ := Option.map_eq_some_iff.mp eq
  exact ⟨l, hl, by simp [some], rfl⟩

theorem SalesOrder.demand_asks {order : SalesOrder} {w w' : Uuid} (same : order.UsesDefault → w = w')
    (k : StockKey) : demand k (order.asks tenantId w) = demand k (order.asks tenantId w') := by
  by_cases uses : order.UsesDefault
  · rw [same uses]
  · have fixed : ∀ l ∈ order.lines, l.productId ≠ none → l.warehouseId = none → l.quantity = 0 := by
      intro l mem product warehouse
      by_contra nonzero
      exact uses ⟨l, mem, product, warehouse, nonzero⟩
    unfold asks stockRequests
    generalize order.lines = lines at fixed
    induction lines with
    | nil => rfl
    | cons l lines ih =>
        rw [List.forall_mem_cons] at fixed
        have rest := ih fixed.2
        rw [List.filterMap_cons, List.filterMap_cons]
        cases product : l.productId with
        | none => exact rest
        | some p =>
            simp only [Option.map_some, List.map_cons, demand_cons, ReservationRequest.asks,
              ReservationRequest.key]
            cases warehouse : l.warehouseId with
            | none =>
                have zero : l.quantity = 0 := fixed.1 (by simp [product]) warehouse
                simp only [zero, ite_self]
                exact congrArg (0 + ·) rest
            | some own => exact congrArg (_ + ·) rest

/-! ## The invariant -/

structure Consistent (tenantId : Uuid) (s : Traced) : Prop where
  reserved : ∀ k, s.db.stock.reserved k = s.confirmedQuantity tenantId k
  nonneg : ∀ o ∈ s.db.salesOrders.rows, ∀ l ∈ o.lines, 0 ≤ l.quantity
  hundredths : ∀ o ∈ s.db.salesOrders.rows, o.status = .confirmed → o.Hundredths
  whole : ∀ o ∈ s.db.salesOrders.rows, o.status ≠ .partiallyShipped

theorem heldBy_nonneg {confirmedAt : Uuid → Uuid} {order : SalesOrder}
    (nonneg : ∀ l ∈ order.lines, 0 ≤ l.quantity) (k : StockKey) :
    0 ≤ heldBy tenantId confirmedAt k order := by
  unfold heldBy
  split
  · apply demand_nonneg
    intro e mem
    obtain ⟨r, hr, rfl⟩ := List.mem_map.mp mem
    obtain ⟨l, hl, -, eq⟩ := SalesOrder.mem_stockRequests hr
    show 0 ≤ r.quantity
    rw [eq]
    exact nonneg l hl
  · exact le_rfl

theorem Consistent.held {s : Traced} (consistent : Consistent tenantId s) {order : SalesOrder}
    (mem : order ∈ s.db.salesOrders.rows) (k : StockKey) :
    heldBy tenantId s.confirmedAt k order ≤ s.db.stock.reserved k := by
  rw [consistent.reserved k]
  apply List.single_le_sum
  · intro x hx
    obtain ⟨o, ho, rfl⟩ := List.mem_map.mp hx
    exact heldBy_nonneg (consistent.nonneg o ho) k
  · exact List.mem_map_of_mem mem

theorem sum_setStatus {db : Db} {order : SalesOrder} (tenantId : Uuid) (status : SalesOrderStatus)
    (confirmedAt : Uuid → Uuid) (found : db.salesOrders.find? order.id = some order) (k : StockKey) :
    (((setStatus db order status).salesOrders.rows).map (heldBy tenantId confirmedAt k)).sum =
      (db.salesOrders.rows.map (heldBy tenantId confirmedAt k)).sum -
        heldBy tenantId confirmedAt k order + heldBy tenantId confirmedAt k { order with status } := by
  have total := Table.sum_save (heldBy tenantId confirmedAt k) db.salesOrders { order with status }
  change _ + ((db.salesOrders.find? order.id).map _).getD 0 = _ at total
  rw [found] at total
  exact eq_sub_of_add_eq total |>.trans (sub_add_eq_add_sub _ _ _).symm

theorem mem_setStatus {db : Db} {order o : SalesOrder} {status : SalesOrderStatus}
    (mem : o ∈ (setStatus db order status).salesOrders.rows) :
    o = { order with status } ∨ o ∈ db.salesOrders.rows :=
  (Table.mem_save.mp mem).imp_right And.left

theorem Consistent.setStatus {s : Traced} (consistent : Consistent tenantId s) {order : SalesOrder}
    (found : s.db.salesOrders.find? order.id = some order) {stock : Inventory.Db}
    {status : SalesOrderStatus} {confirmedAt : Uuid → Uuid}
    (same : ∀ o ∈ s.db.salesOrders.rows, ∀ k,
      heldBy tenantId confirmedAt k o = heldBy tenantId s.confirmedAt k o)
    (moved : ∀ k, stock.reserved k = s.db.stock.reserved k - heldBy tenantId confirmedAt k order +
      heldBy tenantId confirmedAt k { order with status })
    (hundredths : status = .confirmed → order.Hundredths) (whole : status ≠ .partiallyShipped) :
    Consistent tenantId ⟨Sales.setStatus { s.db with stock } order status, confirmedAt⟩ where
  reserved k := by
    have unmoved : (s.db.salesOrders.rows.map (heldBy tenantId confirmedAt k)).sum =
        s.confirmedQuantity tenantId k :=
      congrArg List.sum (List.map_congr_left fun o mem => same o mem k)
    have total := sum_setStatus tenantId status confirmedAt found k
    rw [unmoved, ← consistent.reserved k, ← moved k] at total
    exact total.symm
  nonneg o mem := by
    rcases mem_setStatus mem with rfl | mem
    · exact consistent.nonneg order (Table.mem_of_find? found)
    · exact consistent.nonneg o mem
  hundredths o mem := by
    rcases mem_setStatus mem with rfl | mem
    · exact hundredths
    · exact consistent.hundredths o mem
  whole o mem := by
    rcases mem_setStatus mem with rfl | mem
    · exact whole
    · exact consistent.whole o mem

theorem Consistent.withStock {s : Traced} (consistent : Consistent tenantId s) {stock : Inventory.Db}
    (kept : stock.reserved = s.db.stock.reserved) :
    Consistent tenantId ⟨{ s.db with stock }, s.confirmedAt⟩ :=
  { consistent with reserved := fun k => (congrFun kept k).trans (consistent.reserved k) }

theorem createSalesOrder_consistent {s : Traced} (consistent : Consistent tenantId s) {db : Db}
    {id : Uuid} {year : ℕ} {dto : CreateSalesOrderDto}
    (ok : createSalesOrder s.db tenantId id year dto = .ok db) :
    Consistent tenantId ⟨db, s.confirmedAt⟩ := by
  obtain ⟨order, fresh, draft, lines, rfl⟩ := createSalesOrder_ok ok
  constructor
  · intro k
    have total := Table.sum_save (heldBy tenantId s.confirmedAt k) s.db.salesOrders order
    have nothing : heldBy tenantId s.confirmedAt k order = 0 := by simp [heldBy, draft]
    rw [fresh, nothing, add_zero] at total
    exact (consistent.reserved k).trans (total.symm.trans (add_zero _))
  · intro o mem l hl
    rcases Table.mem_save.mp mem with rfl | ⟨mem, -⟩
    · rw [lines] at hl
      obtain ⟨dtoLine, -, rfl⟩ := List.mem_map.mp hl
      exact dtoLine.quantity_nonneg
    · exact consistent.nonneg o mem l hl
  · intro o mem confirmed
    rcases Table.mem_save.mp mem with rfl | ⟨mem, -⟩
    · simp [draft] at confirmed
    · exact consistent.hundredths o mem confirmed
  · intro o mem
    rcases Table.mem_save.mp mem with rfl | ⟨mem, -⟩
    · simp [draft]
    · exact consistent.whole o mem

theorem confirmSalesOrder_consistent {s : Traced} (consistent : Consistent tenantId s) {db : Db}
    {id : Uuid} (keeps : Keeps precedes tenantId s (.confirmSalesOrder id))
    (ok : confirmSalesOrder precedes s.db tenantId id = .ok db) :
    ∃ w, firstActiveWarehouse precedes s.db.stock tenantId = some w ∧
      Consistent tenantId ⟨db, Function.update s.confirmedAt id w.id⟩ := by
  obtain ⟨order, w, stock, found, rfl, draft, first, reserved, rfl⟩ := confirmSalesOrder_ok ok
  have hundredths := keeps order found
  have whole : ∀ r ∈ order.stockRequests w.id, Exact 2 r.quantity := by
    intro r mem
    obtain ⟨l, hl, product, eq⟩ := SalesOrder.mem_stockRequests mem
    exact eq ▸ hundredths l hl product
  refine ⟨w, first, consistent.setStatus found ?_ ?_ (fun _ => hundredths) (by simp)⟩
  · intro o mem k
    by_cases this : o.id = order.id
    · obtain rfl : o = order := by
        rw [← Option.some_inj, ← found, ← this]
        exact (Table.find?_of_mem mem).symm
      simp [heldBy, draft]
    · simp only [heldBy, Function.update_of_ne this]
  · intro k
    have before : heldBy tenantId (Function.update s.confirmedAt order.id w.id) k order = 0 := by
      simp [heldBy, draft]
    have after : heldBy tenantId (Function.update s.confirmedAt order.id w.id) k
        { order with status := .confirmed } = demand k (order.asks tenantId w.id) := by
      rw [heldBy, if_pos rfl, Function.update_self]
      rfl
    rw [reserveStock_reserved whole reserved k, before, after, sub_zero]
    rfl

theorem takesBack_order {s : Traced} (consistent : Consistent tenantId s) {order : SalesOrder}
    (found : s.db.salesOrders.find? order.id = some order) (confirmed : order.status = .confirmed)
    {w : Warehouse} (same : order.UsesDefault → w.id = s.confirmedAt order.id)
    {f : Inventory.Db → ReservationRequest → Except Failure Inventory.Db} (line : TakesBack tenantId f)
    {stock : Inventory.Db} (ok : (order.stockRequests w.id).foldlM f s.db.stock = .ok stock)
    (k : StockKey) :
    stock.reserved k =
      s.db.stock.reserved k - demand k (order.asks tenantId (s.confirmedAt order.id)) := by
  have mem := Table.mem_of_find? found
  rw [← SalesOrder.demand_asks same k]
  apply line.foldlM _ _ _ ok
  · intro r hr
    obtain ⟨l, hl, -, eq⟩ := SalesOrder.mem_stockRequests hr
    exact eq ▸ consistent.nonneg order mem l hl
  · intro r hr
    obtain ⟨l, hl, product, eq⟩ := SalesOrder.mem_stockRequests hr
    exact eq ▸ consistent.hundredths order mem confirmed l hl product
  · intro k
    have held := consistent.held mem k
    rw [heldBy, if_pos confirmed, ← SalesOrder.demand_asks same k] at held
    exact held

theorem cancelSalesOrder_takesBack {s : Traced} (consistent : Consistent tenantId s) {db : Db}
    {id : Uuid} (keeps : Keeps precedes tenantId s (.cancelSalesOrder id))
    (ok : cancelSalesOrder precedes s.db tenantId id = .ok db) :
    ∃ order stock, s.db.salesOrders.find? id = some order ∧ order.id = id ∧
      db = setStatus { s.db with stock } order .cancelled ∧
      ∀ k, stock.reserved k = s.db.stock.reserved k - heldBy tenantId s.confirmedAt k order := by
  obtain ⟨order, found, rfl, ⟨unheld, rfl⟩ | ⟨held, w, stock, first, released, rfl⟩⟩ :=
    cancelSalesOrder_ok ok
  · refine ⟨order, s.db.stock, found, rfl, rfl, fun k => ?_⟩
    rw [heldBy, if_neg unheld, sub_zero]
  · have confirmed := held.resolve_right (consistent.whole order (Table.mem_of_find? found))
    refine ⟨order, stock, found, rfl, rfl, fun k => ?_⟩
    rw [heldBy, if_pos confirmed]
    exact takesBack_order consistent found confirmed
      (fun uses => keeps order found confirmed uses w first) (releaseLine_takesBack tenantId) released k

theorem shipSalesOrder_takesBack {s : Traced} (consistent : Consistent tenantId s) {db : Db}
    {id : Uuid} (keeps : Keeps precedes tenantId s (.shipSalesOrder id))
    (ok : shipSalesOrder precedes s.db tenantId id = .ok db) :
    ∃ order stock, s.db.salesOrders.find? id = some order ∧ order.id = id ∧
      db = setStatus { s.db with stock } order .shipped ∧
      ∀ k, stock.reserved k = s.db.stock.reserved k - heldBy tenantId s.confirmedAt k order := by
  obtain ⟨order, w, stock, found, rfl, confirmed, first, shipped, rfl⟩ := shipSalesOrder_ok ok
  refine ⟨order, stock, found, rfl, rfl, fun k => ?_⟩
  rw [heldBy, if_pos confirmed]
  exact takesBack_order consistent found confirmed
    (fun uses => keeps order found confirmed uses w first) (shipLine_takesBack tenantId) shipped k

/-! ## Runs -/

theorem Consistent.taken {s : Traced} (consistent : Consistent tenantId s) {order : SalesOrder}
    (found : s.db.salesOrders.find? order.id = some order) {stock : Inventory.Db}
    {status : SalesOrderStatus} (ended : status = .cancelled ∨ status = .shipped)
    (takes : ∀ k, stock.reserved k =
      s.db.stock.reserved k - heldBy tenantId s.confirmedAt k order) :
    Consistent tenantId ⟨Sales.setStatus { s.db with stock } order status, s.confirmedAt⟩ := by
  apply consistent.setStatus found (fun _ _ _ => rfl)
  · intro k
    have nothing : heldBy tenantId s.confirmedAt k { order with status } = 0 := by
      rcases ended with rfl | rfl <;> simp [heldBy]
    rw [takes k, nothing, add_zero]
  · rcases ended with rfl | rfl <;> simp
  · rcases ended with rfl | rfl <;> simp

theorem next_consistent {s : Traced} {op : Op} (consistent : Consistent tenantId s)
    (keeps : Keeps precedes tenantId s op) :
    Consistent tenantId (next precedes tenantId s op) := by
  unfold next
  cases result : perform precedes tenantId s.db op with
  | error => exact consistent
  | ok db =>
      cases op with
      | createSalesOrder id year dto => exact createSalesOrder_consistent consistent result
      | confirmSalesOrder id =>
          obtain ⟨w, first, confirmed⟩ := confirmSalesOrder_consistent consistent keeps result
          simp only [first]
          exact confirmed
      | cancelSalesOrder id =>
          obtain ⟨order, stock, found, rfl, rfl, takes⟩ :=
            cancelSalesOrder_takesBack consistent keeps result
          exact consistent.taken found (.inl rfl) takes
      | shipSalesOrder id =>
          obtain ⟨order, stock, found, rfl, rfl, takes⟩ :=
            shipSalesOrder_takesBack consistent keeps result
          exact consistent.taken found (.inr rfl) takes
      | createWarehouse id dto =>
          obtain ⟨stock, created, saved⟩ := bind_eq_ok.mp result
          cases pure_eq_ok.mp saved
          apply consistent.withStock
          unfold Inventory.Db.reserved
          rw [createWarehouse_stockLevels created]
      | updateWarehouse id dto =>
          obtain ⟨stock, updated, saved⟩ := bind_eq_ok.mp result
          cases pure_eq_ok.mp saved
          apply consistent.withStock
          unfold Inventory.Db.reserved
          rw [updateWarehouse_stockLevels updated]
      | recordStockMovement dto =>
          obtain ⟨stock, recorded, saved⟩ := bind_eq_ok.mp result
          cases pure_eq_ok.mp saved
          exact consistent.withStock (recordStockMovement_reserved recorded)

theorem start_consistent {s : Traced} (noOrders : s.db.salesOrders = ∅)
    (noneReserved : ∀ row ∈ s.db.stock.stockLevels.rows, row.quantityReserved = 0) :
    Consistent tenantId s where
  reserved k := by
    rw [Traced.confirmedQuantity, noOrders]
    cases found : s.db.stock.stockLevels.find? k with
    | none => simp only [Inventory.Db.reserved, found]; rfl
    | some row =>
        rw [Inventory.Db.reserved_of_find? found, noneReserved row (Table.mem_of_find? found)]
        exact Numeric.val_zero
  nonneg := by rw [noOrders]; intro o mem; cases mem
  hundredths := by rw [noOrders]; intro o mem; cases mem
  whole := by rw [noOrders]; intro o mem; cases mem

theorem run_consistent {s t : Traced} {ops : List Op} (noOrders : s.db.salesOrders = ∅)
    (noneReserved : ∀ row ∈ s.db.stock.stockLevels.rows, row.quantityReserved = 0)
    (run : Run (Keeps precedes tenantId) (next precedes tenantId) s ops t) : Consistent tenantId t :=
  run.invariant (Consistent tenantId) (start_consistent noOrders noneReserved)
    fun _ _ => next_consistent

/-- The reserved quantity of a product in a warehouse is what the confirmed orders hold there, and a
cancellation or a shipment takes back what its order holds. -/
theorem reserved_eq_confirmedQuantity {s t : Traced} {ops : List Op} (noOrders : s.db.salesOrders = ∅)
    (noneReserved : ∀ row ∈ s.db.stock.stockLevels.rows, row.quantityReserved = 0)
    (run : Run (Keeps precedes tenantId) (next precedes tenantId) s ops t) :
    (∀ k, t.db.stock.reserved k = t.confirmedQuantity tenantId k) ∧
      ∀ id order op, op = .cancelSalesOrder id ∨ op = .shipSalesOrder id →
        t.db.salesOrders.find? id = some order → order.status = .confirmed →
        Keeps precedes tenantId t op → ∀ db, perform precedes tenantId t.db op = .ok db →
        ∀ k, db.stock.reserved k =
          t.db.stock.reserved k - demand k (order.asks tenantId (t.confirmedAt id)) := by
  have consistent := run_consistent noOrders noneReserved run
  refine ⟨consistent.reserved, ?_⟩
  rintro id order op ends found confirmed keeps db ok k
  have holds : ∀ o (stock : Inventory.Db), t.db.salesOrders.find? id = some o → o.id = id →
      (∀ k, stock.reserved k = t.db.stock.reserved k - heldBy tenantId t.confirmedAt k o) →
      stock.reserved k = t.db.stock.reserved k - demand k (order.asks tenantId (t.confirmedAt id)) := by
    intro o stock found' same takes
    obtain rfl : o = order := Option.some_inj.mp (found'.symm.trans found)
    rw [takes k, heldBy, if_pos confirmed, same]
  rcases ends with rfl | rfl
  · obtain ⟨o, stock, found', same, rfl, takes⟩ := cancelSalesOrder_takesBack consistent keeps ok
    exact holds o stock found' same takes
  · obtain ⟨o, stock, found', same, rfl, takes⟩ := shipSalesOrder_takesBack consistent keeps ok
    exact holds o stock found' same takes

/-! ## A default warehouse that changes -/

section
open Sample

def tenPieces : Traced where
  db := { stock := shop, customers := ⟨[⟨5, 1, false⟩], by simp⟩, salesOrders := ∅ }
  confirmedAt _ := 0

def pieces (quantity : ℕ) (warehouseId : Option Uuid) : SalesOrderLineDto where
  productId := some 7
  quantity := quantity
  unitPrice := 1
  ivaRate := 22
  warehouseId := warehouseId
  quantity_nonneg := Nat.cast_nonneg quantity
  unitPrice_nonneg := by decide
  discountPct_range := by simp
  ivaRate_range := by decide

def delivery : Op := .recordStockMovement
  { productId := 7, movementType := .inbound, quantity := 10, destinationWarehouseId := some 3 }

theorem reserved_eq_confirmedQuantity_tenPieces :
    let ops := [delivery, .createSalesOrder 20 2026 ⟨5, [pieces 4 none, pieces 2 (some 3)]⟩,
      .createSalesOrder 21 2026 ⟨5, [pieces 3 none]⟩, .confirmSalesOrder 20, .confirmSalesOrder 21,
      .cancelSalesOrder 20]
    let t := ops.foldl (next byCode 1) tenPieces
    t.db.stock.reserved (1, 7, 3) = 3 ∧
      t.db.stock.reserved (1, 7, 3) = t.confirmedQuantity 1 (1, 7, 3) := by
  intro ops t
  have run : Run (Keeps byCode 1) (next byCode 1) tenPieces ops t := .ofAllMet (by decide +kernel)
  refine ⟨by decide +kernel, (reserved_eq_confirmedQuantity rfl ?_ run).1 (1, 7, 3)⟩
  intro row mem
  cases mem

/-- A warehouse with an earlier code is opened between the confirmation and the cancellation. -/
theorem cancel_leaves_reserved :
    let ops := [delivery, .createSalesOrder 20 2026 ⟨5, [pieces 5 none]⟩, .confirmSalesOrder 20,
      .createWarehouse 4 ⟨"ANNEX", "Annex"⟩, .cancelSalesOrder 20]
    let t := ops.foldl (next byCode 1) tenPieces
    tenPieces.db.salesOrders = ∅ ∧ tenPieces.db.stock.stockLevels = ∅ ∧
      t.db.salesOrders.rows.map (·.status) = [.cancelled] ∧
      t.db.stock.reserved (1, 7, 3) = 5 ∧ t.confirmedQuantity 1 (1, 7, 3) = 0 := by
  refine ⟨rfl, rfl, ?_, ?_, ?_⟩ <;> decide +kernel

end
end SmartErp.Sales
