import SmartErp.Inventory.Catalogue

/-!
# The rows of one tenant

What a tenant has on its own is the store without the rows of everyone else. As long as stock is moved only
in the tenant's own warehouses, its requests write the same there as in the whole store, and nothing outside.
-/

namespace SmartErp.Inventory
open Foundations

/-! ## Movements -/

def Db.own (db : Db) (tenantId : Uuid) : Db where
  products := db.products.filter (·.tenantId = tenantId)
  warehouses := db.warehouses.filter (·.tenantId = tenantId)
  stockLevels := db.stockLevels.filter (·.tenantId = tenantId)
  stockMovements := db.stockMovements.filter (·.tenantId = tenantId)

def Mine {ρ : Type} (tenant : ρ → Uuid) (tenantId : Uuid) (found : Option ρ) : Prop :=
  ∀ row, found = some row → tenant row = tenantId

instance {ρ : Type} (tenant : ρ → Uuid) (tenantId : Uuid) (found : Option ρ) :
    Decidable (Mine tenant tenantId found) :=
  decidable_of_iff (found.all fun row => tenant row = tenantId) (by simp [Mine, Option.all_eq_true])

theorem mine_of_none {ρ : Type} {tenant : ρ → Uuid} {tenantId : Uuid} {found : Option ρ}
    (none : found = none) : Mine tenant tenantId found := by
  intro row here
  rw [none] at here
  cases here

theorem mine_of_find? {ρ κ : Type} [DecidableEq κ] {key : ρ → κ} (tenant : ρ → Uuid) {t : Table key} {k : κ}
    {row : ρ} (found : t.find? k = some row) : Mine tenant (tenant row) (t.find? (key row)) := by
  intro row' here
  rw [Table.key_of_find? found, found] at here
  exact Option.some_inj.mp here ▸ rfl

theorem filter_mine {ρ : Type} {tenant : ρ → Uuid} {tenantId : Uuid} {found : Option ρ}
    (mine : Mine tenant tenantId found) : found.filter (fun r => tenant r = tenantId) = found := by
  cases found with
  | none => rfl
  | some row => rw [Option.filter_some, if_pos (decide_eq_true (mine row rfl))]

variable {db db' : Db} {tenantId productId warehouseId : Uuid}

theorem find?_own {ρ κ : Type} [DecidableEq κ] {key : ρ → κ} {tenant : ρ → Uuid} {t : Table key} {k : κ}
    (mine : Mine tenant tenantId (t.find? k)) :
    (t.filter fun r => tenant r = tenantId).find? k = t.find? k :=
  (Table.find?_filter _ _ _).trans (filter_mine mine)

theorem level_mine {k : StockKey} (own : k.1 = tenantId) :
    Mine (·.tenantId) tenantId (db.stockLevels.find? k) := by
  intro row found
  exact (congrArg Prod.fst (Table.key_of_find? found)).trans own

theorem level_foreign {k : StockKey} (foreign : k.1 ≠ tenantId) :
    (db.own tenantId).stockLevels.find? k = none := by
  change (db.stockLevels.filter _).find? k = none
  rw [Table.find?_filter, Option.filter_eq_none_iff]
  intro row found
  have owner : row.tenantId = k.1 := level_mine rfl row found
  simpa [owner] using foreign

theorem saveStockLevel_own {row : StockLevel} (own : row.tenantId = tenantId)
    (product : Mine (·.tenantId) tenantId (db.products.find? row.productId))
    (warehouse : db.stockLevels.find? row.key = none →
      Mine (·.tenantId) tenantId (db.warehouses.find? row.warehouseId)) (onHand reserved : JsNumber) :
    (db.own tenantId).saveStockLevel row onHand reserved =
      (db.saveStockLevel row onHand reserved).map (·.own tenantId) := by
  have level : (db.own tenantId).stockLevels.find? row.key = db.stockLevels.find? row.key :=
    find?_own (level_mine own)
  have products : (db.own tenantId).products.find? row.productId = db.products.find? row.productId :=
    find?_own product
  have placed : (db.stockLevels.find? row.key = none →
        (db.own tenantId).warehouses.find? row.warehouseId ≠ none) ↔
      (db.stockLevels.find? row.key = none → db.warehouses.find? row.warehouseId ≠ none) := by
    apply imp_congr_right
    intro absent
    have warehouses : (db.own tenantId).warehouses.find? row.warehouseId =
        db.warehouses.find? row.warehouseId := find?_own (warehouse absent)
    rw [warehouses]
  unfold Db.saveStockLevel
  simp only [level, products, ensure_congr placed, map_of_bind]
  congr 1
  funext quantityOnHand
  congr 1
  funext quantityReserved
  have saved : ((db.stockLevels.save { row with quantityOnHand, quantityReserved }).filter
      (·.tenantId = tenantId)) =
        (db.own tenantId).stockLevels.save { row with quantityOnHand, quantityReserved } := by
    refine Table.filter_save ?_ fun r' found => ?_
    · exact decide_eq_true own
    · exact decide_eq_true (level_mine own r' found)
  rw [← saved]
  rfl

theorem Db.plus_of_absent {k : StockKey} (absent : db.stockLevels.find? k = none) (delta : ℚ) :
    (db.onHandNumber k).plus (JsNumber.finite delta).double = (JsNumber.finite delta).double := by
  rw [onHandNumber, onHand, absent, Option.map_none, Option.getD_none, JsNumber.double_zero,
    JsNumber.zero_plus (JsNumber.double_double _)]

/-- The warehouse has to be the tenant's when a level is to be inserted, which takes a delta not below zero. -/
theorem adjustStock_own {delta : ℚ} (product : Mine (·.tenantId) tenantId (db.products.find? productId))
    (warehouse : ¬ (JsNumber.finite delta).double.lt (.finite 0) →
      Mine (·.tenantId) tenantId (db.warehouses.find? warehouseId)) :
    adjustStock (db.own tenantId) tenantId productId warehouseId delta =
      (adjustStock db tenantId productId warehouseId delta).map (·.own tenantId) := by
  have level : (db.own tenantId).stockLevels.find? (tenantId, productId, warehouseId) =
      db.stockLevels.find? (tenantId, productId, warehouseId) := find?_own (level_mine rfl)
  obtain ⟨key, onHand, -⟩ := db.loaded tenantId productId warehouseId
  unfold adjustStock
  simp only [level]
  generalize (db.stockLevels.find? (tenantId, productId, warehouseId)).getD
    (StockLevel.create tenantId productId warehouseId) = row at key onHand ⊢
  by_cases enough : ¬ (row.quantityOnHand.number.plus (JsNumber.finite delta).double).lt (.finite 0)
  · obtain ⟨own, parts⟩ := Prod.mk.inj key
    obtain ⟨same, same'⟩ := Prod.mk.inj parts
    simp only [ensure, if_pos enough]
    refine saveStockLevel_own own (same ▸ product) (fun absent => ?_) _ _
    rw [key] at absent
    rw [Numeric.number, onHand, ← Db.onHandNumber, db.plus_of_absent absent] at enough
    exact same' ▸ warehouse enough
  · simp only [ensure, if_neg enough]
    rfl

structure Moved (tenantId productId : Uuid) (named : List Uuid) (db db' : Db) : Prop where
  products : db'.products = db.products
  warehouses : db'.warehouses = db.warehouses
  levels : ∀ l ∈ db'.stockLevels.rows, (∃ l₀ ∈ db.stockLevels.rows, l₀.key = l.key) ∨
    l.tenantId = tenantId ∧ l.productId = productId ∧ l.warehouseId ∈ named ∧
      db.warehouses.find? l.warehouseId ≠ none
  others : ∀ other, other ≠ tenantId → (db'.own other).stockLevels = (db.own other).stockLevels

theorem Moved.refl (tenantId productId : Uuid) (named : List Uuid) (db : Db) :
    Moved tenantId productId named db db :=
  ⟨rfl, rfl, fun l mem => .inl ⟨l, mem, rfl⟩, fun _ _ => rfl⟩

theorem Moved.trans {named : List Uuid} {mid : Db} (first : Moved tenantId productId named db mid)
    (second : Moved tenantId productId named mid db') : Moved tenantId productId named db db' where
  products := second.products.trans first.products
  warehouses := second.warehouses.trans first.warehouses
  levels l mem := by
    rcases second.levels l mem with ⟨l₀, mem₀, key⟩ | new
    · obtain ⟨tenant, product, warehouse⟩ := (by simpa [StockLevel.key] using key :
        l₀.tenantId = l.tenantId ∧ l₀.productId = l.productId ∧ l₀.warehouseId = l.warehouseId)
      rcases first.levels l₀ mem₀ with ⟨l₁, mem₁, key'⟩ | new
      · exact .inl ⟨l₁, mem₁, key'.trans key⟩
      · rw [tenant, product, warehouse] at new
        exact .inr new
    · rw [first.warehouses] at new
      exact .inr new
  others other ne := (second.others other ne).trans (first.others other ne)

theorem adjustStock_moved {named : List Uuid} {delta : ℚ}
    (listed : ¬ (JsNumber.finite delta).double.lt (.finite 0) → warehouseId ∈ named)
    (ok : adjustStock db tenantId productId warehouseId delta = .ok db') :
    Moved tenantId productId named db db' := by
  have enough := (adjustStock_posted ok).1
  simp only [adjustStock, bind_eq_ok, ensure_eq_ok] at ok
  obtain ⟨-, -, saves⟩ := ok
  obtain ⟨key, -⟩ := db.loaded tenantId productId warehouseId
  generalize (db.stockLevels.find? (tenantId, productId, warehouseId)).getD
    (StockLevel.create tenantId productId warehouseId) = row at key saves
  simp only [Db.saveStockLevel, bind_eq_ok, ensure_eq_ok, pure_eq_ok] at saves
  obtain ⟨quantityOnHand, -, quantityReserved, -, -, -, -, warehouse, rfl⟩ := saves
  obtain ⟨tenant, product, same⟩ := (by simpa [StockLevel.key] using key :
    row.tenantId = tenantId ∧ row.productId = productId ∧ row.warehouseId = warehouseId)
  refine ⟨rfl, rfl, fun l mem => ?_, fun other ne => ?_⟩
  · rcases Table.mem_save.mp mem with rfl | ⟨old, -⟩
    · cases found : db.stockLevels.find? row.key with
      | none =>
          rw [db.plus_of_absent (key ▸ found)] at enough
          exact .inr ⟨tenant, product, same ▸ listed enough, warehouse found⟩
      | some l₀ => exact .inl ⟨l₀, Table.mem_of_find? found, Table.key_of_find? found⟩
    · exact .inl ⟨l, old, rfl⟩
  · refine Table.filter_save_of_not ?_ fun r' found => ?_
    · exact decide_eq_false fun eq => ne (eq.symm.trans tenant)
    · have mine := level_mine tenant r' found
      exact decide_eq_false fun eq => ne (eq.symm.trans mine)

/-- The warehouses that a movement does not take from. -/
def StockMovementRequest.receivers (dto : StockMovementRequest) : List Uuid :=
  (dto.adjustments.filter fun a => ¬ (JsNumber.finite a.2).double.lt (.finite 0)).map (·.1)

theorem mem_receivers {dto : StockMovementRequest} {a : Uuid × ℚ} (mem : a ∈ dto.adjustments)
    (more : ¬ (JsNumber.finite a.2).double.lt (.finite 0)) : a.1 ∈ dto.receivers :=
  List.mem_map_of_mem (List.mem_filter.mpr ⟨mem, decide_eq_true more⟩)

theorem recordStockMovement_moved {dto : StockMovementRequest}
    (ok : recordStockMovement db tenantId dto = .ok db') :
    ∃ product m, db.products.find? dto.productId = some product ∧ product.tenantId = tenantId ∧
      m.tenantId = tenantId ∧ m.productId = dto.productId ∧
      db'.stockMovements = db.stockMovements ++ [m] ∧
      Moved tenantId dto.productId dto.receivers db db' := by
  obtain ⟨product, quantity, found, owner, -, applied⟩ := recordStockMovement_ok ok
  set m := dto.movement tenantId quantity (some product.unitCost)
  have kept : db'.stockMovements = db.stockMovements ++ [m] ∧
      Moved tenantId dto.productId dto.receivers db db' := by
    refine foldlM_keeps (fun u : Db => u.stockMovements = db.stockMovements ++ [m] ∧
      Moved tenantId dto.productId dto.receivers db u) ?_ ?_ applied
    · intro u a u' mem kept adjusts
      refine ⟨?_, kept.2.trans (adjustStock_moved (mem_receivers mem) adjusts)⟩
      rw [(adjustStock_posted adjusts).2.movements, List.append_nil, kept.1]
    · exact ⟨rfl, rfl, rfl, fun l mem => .inl ⟨l, mem, rfl⟩, fun _ _ => rfl⟩
  exact ⟨product, m, found, owner, rfl, rfl, kept⟩

theorem saveMovement_own (product : Mine (·.tenantId) tenantId (db.products.find? productId))
    {dto : StockMovementRequest} (same : dto.productId = productId) (cost : Option (Numeric 10 2)) :
    (db.own tenantId).saveMovement tenantId dto cost =
      (db.saveMovement tenantId dto cost).map (·.own tenantId) := by
  subst same
  have products : (db.own tenantId).products.find? dto.productId = db.products.find? dto.productId :=
    find?_own product
  unfold Db.saveMovement
  simp only [products, map_of_bind]
  congr 1
  funext quantity
  congr 1
  funext _
  simp [Db.own, StockMovementRequest.movement, pure, Except.pure, Except.map]

theorem recordStockMovement_own {dto : StockMovementRequest}
    (confined : (db.products.find? dto.productId).map (·.tenantId) = some tenantId →
      ∀ id ∈ dto.receivers, Mine (·.tenantId) tenantId (db.warehouses.find? id)) :
    recordStockMovement (db.own tenantId) tenantId dto =
      (recordStockMovement db tenantId dto).map (·.own tenantId) := by
  have selected : ((db.own tenantId).products.find? dto.productId).filter (·.tenantId = tenantId) =
      (db.products.find? dto.productId).filter (·.tenantId = tenantId) := by
    rw [Db.own, Table.find?_filter, Option.filter_filter]
    simp
  unfold recordStockMovement
  rw [selected]
  cases selected : (db.products.find? dto.productId).filter (·.tenantId = tenantId) with
  | none => rfl
  | some product =>
      obtain ⟨found, owner⟩ := Option.filter_eq_some_iff.mp selected
      have warehouses := confined (Option.map_eq_some_iff.mpr ⟨product, found, of_decide_eq_true owner⟩)
      have mine : Mine (·.tenantId) tenantId (db.products.find? dto.productId) := by
        intro row found'
        rw [found] at found'
        exact Option.some_inj.mp found' ▸ of_decide_eq_true owner
      show ((db.own tenantId).saveMovement tenantId dto _ >>= _) =
        (db.saveMovement tenantId dto _ >>= _).map _
      rw [saveMovement_own mine rfl]
      cases saved : db.saveMovement tenantId dto (some product.unitCost) with
      | error => rfl
      | ok mid =>
          obtain ⟨quantity, -, rfl⟩ := saveMovement_posted saved
          show applyMovementToLevels _ tenantId dto = (applyMovementToLevels _ tenantId dto).map _
          rw [applyMovementToLevels_eq, applyMovementToLevels_eq]
          refine foldlM_map (fun u : Db => u.own tenantId)
            (fun u : Db => u.products = db.products ∧ u.warehouses = db.warehouses) ?_ ?_ ?_
          · intro u a mem kept
            refine adjustStock_own (kept.1 ▸ mine) fun more => ?_
            exact kept.2 ▸ warehouses a.1 (mem_receivers mem more)
          · intro u a u' mem kept adjusts
            have posted := (adjustStock_posted adjusts).2
            exact ⟨posted.products.trans kept.1, posted.warehouses.trans kept.2⟩
          · exact ⟨rfl, rfl⟩

/-! ## Warehouses -/

theorem selected_own {ρ κ : Type} [DecidableEq κ] {key : ρ → κ} {tenant : ρ → Uuid} {t : Table key} (k : κ) :
    ((t.filter fun r => tenant r = tenantId).find? k).filter (fun r => tenant r = tenantId) =
      (t.find? k).filter fun r => tenant r = tenantId := by
  rw [Table.find?_filter, Option.filter_filter]
  simp

theorem forall_own {ρ : Type} {tenant : ρ → Uuid} {rows : List ρ} {p : ρ → Prop} :
    (∀ r ∈ rows.filter (fun r => tenant r = tenantId), tenant r = tenantId → p r) ↔
      ∀ r ∈ rows, tenant r = tenantId → p r := by
  simp only [List.mem_filter, decide_eq_true_eq, and_imp]
  exact forall_congr' fun r => ⟨fun each mem owner => each mem owner owner, fun each mem owner _ => each mem owner⟩

theorem createWarehouse_own {id : Uuid} (fresh : db.warehouses.find? id = none) (dto : WarehouseDto) :
    createWarehouse (db.own tenantId) tenantId id dto =
      (createWarehouse db tenantId id dto).map (·.own tenantId) := by
  have existing : (db.own tenantId).warehouses.rows.find? (fun w => w.tenantId = tenantId ∧ w.code = dto.code) =
      db.warehouses.rows.find? (fun w => w.tenantId = tenantId ∧ w.code = dto.code) := by
    simp [Db.own, Table.filter, List.find?_filter]
  have unused : (db.own tenantId).warehouses.find? id = none := by
    rw [Db.own, Table.find?_filter, fresh, Option.filter_none]
  have saved : (db.warehouses.save ⟨id, tenantId, dto.code, dto.name, true⟩).filter (·.tenantId = tenantId) =
      (db.own tenantId).warehouses.save ⟨id, tenantId, dto.code, dto.name, true⟩ := by
    refine Table.filter_save (decide_eq_true rfl) fun r' found => ?_
    exact decide_eq_true (mine_of_none fresh r' found)
  unfold createWarehouse
  simp only [existing, unused, fresh, map_of_bind]
  congr 1
  funext _
  rw [← saved]
  rfl

theorem updateWarehouse_own (warehouseId : Uuid) (dto : WarehousePatch) :
    updateWarehouse (db.own tenantId) tenantId warehouseId dto =
      (updateWarehouse db tenantId warehouseId dto).map (·.own tenantId) := by
  have selected : ((db.own tenantId).warehouses.find? warehouseId).filter (·.tenantId = tenantId) =
      (db.warehouses.find? warehouseId).filter (·.tenantId = tenantId) := selected_own warehouseId
  unfold updateWarehouse
  rw [selected]
  cases found : (db.warehouses.find? warehouseId).filter (·.tenantId = tenantId) with
  | none => rfl
  | some warehouse =>
      obtain ⟨found, owner⟩ := Option.filter_eq_some_iff.mp found
      set updated : Warehouse := { warehouse with
        code := dto.code.getD warehouse.code
        name := dto.name.getD warehouse.name
        isActive := dto.isActive.getD warehouse.isActive }
      have unique : ensure (∀ w ∈ (db.own tenantId).warehouses.rows,
          w.tenantId = tenantId → w.code = updated.code → w.id = warehouseId) (.database "ux_wh_tenant_code") =
          ensure (∀ w ∈ db.warehouses.rows,
            w.tenantId = tenantId → w.code = updated.code → w.id = warehouseId)
              (.database "ux_wh_tenant_code") := ensure_congr forall_own _
      have saved : (db.warehouses.save updated).filter (·.tenantId = tenantId) =
          (db.own tenantId).warehouses.save updated := by
        refine Table.filter_save owner fun r' found' => ?_
        exact decide_eq_true ((mine_of_find? (·.tenantId) found r' found').trans (of_decide_eq_true owner))
      change (ensure _ _ >>= _) = (ensure _ _ >>= _).map _
      rw [unique, map_of_bind]
      congr 1
      funext _
      rw [← saved]
      rfl

/-! ## The store of one tenant -/

namespace Catalogue

namespace Store
variable {s s' : Store}

def own (s : Store) (tenantId : Uuid) : Store where
  products := s.products.filter (·.tenantId = tenantId)
  warehouses := s.warehouses.filter (·.tenantId = tenantId)
  stockLevels := s.stockLevels.filter (·.tenantId = tenantId)
  stockMovements := s.stockMovements.filter (·.tenantId = tenantId)
  updatedAt k := if k.1 = tenantId then s.updatedAt k else 0

theorem own_updatedAt (s : Store) (tenantId : Uuid) (k : StockKey) :
    (s.own tenantId).updatedAt k = if k.1 = tenantId then s.updatedAt k else 0 := rfl

structure Apart (s : Store) : Prop where
  product : ∀ l ∈ s.stockLevels.rows, ∃ p, s.products.find? l.productId = some p ∧ p.tenantId = l.tenantId
  warehouse : ∀ l ∈ s.stockLevels.rows,
    ∃ w, s.warehouses.find? l.warehouseId = some w ∧ w.tenantId = l.tenantId
  movement : ∀ m ∈ s.stockMovements,
    ∃ p, s.products.find? m.productId = some p ∧ p.tenantId = m.tenantId

def Fresh (s : Store) : Request → Prop
  | .createProduct _ id _ => s.products.find? id = none
  | .createWarehouse _ id _ => s.warehouses.find? id = none
  | _ => True

/-- A product of the caller is moved into warehouses that are not somebody else's. -/
def Confined (s : Store) : Request → Prop
  | .recordStockMovement tenantId dto _ =>
      (s.products.find? dto.productId).map (·.tenantId) = some tenantId →
        ∀ id ∈ dto.receivers, Mine (·.tenantId) tenantId (s.warehouses.find? id)
  | _ => True

instance (s : Store) (r : Request) : Decidable (s.Fresh r) := by
  unfold Fresh
  split <;> infer_instance

instance (s : Store) (r : Request) : Decidable (s.Confined r) := by
  unfold Confined
  split <;> infer_instance

theorem own_db (s : Store) (tenantId : Uuid) : (s.own tenantId).db = s.db.own tenantId := by
  simp [own, db, Db.own, Table.filter, Table.restrict, List.filter_map, Function.comp_def]

theorem db_product (s : Store) (id : Uuid) :
    s.db.products.find? id = (s.products.find? id).map Product.toProduct := by
  change (s.products.rows.map Product.toProduct).find? _ = _
  rw [List.find?_map]
  rfl

/-! ## What a request writes -/

def Kept {ρ : Type} {key : ρ → Uuid} (tenant : ρ → Uuid) (t t' : Table key) : Prop :=
  ∀ id row, t.find? id = some row → ∃ row', t'.find? id = some row' ∧ tenant row' = tenant row

theorem Kept.refl {ρ : Type} {key : ρ → Uuid} (tenant : ρ → Uuid) (t : Table key) : Kept tenant t t :=
  fun _ row found => ⟨row, found, rfl⟩

theorem Kept.save {ρ : Type} {key : ρ → Uuid} {tenant : ρ → Uuid} {t : Table key} {r : ρ}
    (mine : Mine tenant (tenant r) (t.find? (key r))) : Kept tenant t (t.save r) := by
  intro id row found
  rw [Table.find?_save]
  split_ifs with same
  · subst same
    exact ⟨r, rfl, (mine row found).symm⟩
  · exact ⟨row, found, rfl⟩

structure Wrote (tenantId : Uuid) (s s' : Store) : Prop where
  products : Kept (·.tenantId) s.products s'.products
  warehouses : Kept (·.tenantId) s.warehouses s'.warehouses
  levels : ∀ l ∈ s'.stockLevels.rows, (∃ l₀ ∈ s.stockLevels.rows, l₀.key = l.key) ∨ l.tenantId = tenantId ∧
    (∃ p, s.products.find? l.productId = some p ∧ p.tenantId = tenantId) ∧
      ∃ w, s.warehouses.find? l.warehouseId = some w ∧ w.tenantId = tenantId
  movements : ∀ m ∈ s'.stockMovements, m ∈ s.stockMovements ∨ m.tenantId = tenantId ∧
    ∃ p, s.products.find? m.productId = some p ∧ p.tenantId = tenantId
  others : ∀ other, other ≠ tenantId → s'.own other = s.own other

theorem Wrote.refl (tenantId : Uuid) (s : Store) : Wrote tenantId s s where
  products := .refl _ _
  warehouses := .refl _ _
  levels l mem := .inl ⟨l, mem, rfl⟩
  movements _ mem := .inl mem
  others _ _ := rfl

theorem Wrote.apart {tenantId : Uuid} (apart : s.Apart) (wrote : Wrote tenantId s s') : s'.Apart where
  product l mem := by
    rcases wrote.levels l mem with ⟨l₀, mem₀, key⟩ | ⟨owner, ⟨p, found, mine⟩, -⟩
    · obtain ⟨tenant, product, -⟩ := (by simpa [StockLevel.key] using key :
        l₀.tenantId = l.tenantId ∧ l₀.productId = l.productId ∧ l₀.warehouseId = l.warehouseId)
      obtain ⟨p, found, same⟩ := apart.product l₀ mem₀
      obtain ⟨p', found', same'⟩ := wrote.products _ p found
      exact ⟨p', product ▸ found', same'.trans (same.trans tenant)⟩
    · obtain ⟨p', found', same'⟩ := wrote.products _ p found
      exact ⟨p', found', same'.trans (mine.trans owner.symm)⟩
  warehouse l mem := by
    rcases wrote.levels l mem with ⟨l₀, mem₀, key⟩ | ⟨owner, -, w, found, mine⟩
    · obtain ⟨tenant, -, warehouse⟩ := (by simpa [StockLevel.key] using key :
        l₀.tenantId = l.tenantId ∧ l₀.productId = l.productId ∧ l₀.warehouseId = l.warehouseId)
      obtain ⟨w, found, same⟩ := apart.warehouse l₀ mem₀
      obtain ⟨w', found', same'⟩ := wrote.warehouses _ w found
      exact ⟨w', warehouse ▸ found', same'.trans (same.trans tenant)⟩
    · obtain ⟨w', found', same'⟩ := wrote.warehouses _ w found
      exact ⟨w', found', same'.trans (mine.trans owner.symm)⟩
  movement m mem := by
    rcases wrote.movements m mem with old | ⟨owner, p, found, mine⟩
    · obtain ⟨p, found, same⟩ := apart.movement m old
      obtain ⟨p', found', same'⟩ := wrote.products _ p found
      exact ⟨p', found', same'.trans same⟩
    · obtain ⟨p', found', same'⟩ := wrote.products _ p found
      exact ⟨p', found', same'.trans (mine.trans owner.symm)⟩

theorem saveProduct_wrote {tenantId : Uuid} {p : Product} (owner : p.tenantId = tenantId)
    (mine : Mine (·.tenantId) p.tenantId (s.products.find? p.id)) :
    Wrote tenantId s { s with products := s.products.save p } := by
  subst owner
  refine { Wrote.refl p.tenantId s with products := Kept.save mine, others := fun other ne => ?_ }
  have same : (s.products.save p).filter (·.tenantId = other) = s.products.filter (·.tenantId = other) := by
    refine Table.filter_save_of_not (decide_eq_false ne.symm) fun r' found => ?_
    exact decide_eq_false fun eq => ne (eq.symm.trans (mine r' found))
  simp only [own, same]

theorem saveWarehouse_wrote {tenantId : Uuid} {w : Warehouse} (owner : w.tenantId = tenantId)
    (mine : Mine (·.tenantId) w.tenantId (s.warehouses.find? w.id)) :
    Wrote tenantId s { s with warehouses := s.warehouses.save w } := by
  subst owner
  refine { Wrote.refl w.tenantId s with warehouses := Kept.save mine, others := fun other ne => ?_ }
  have same : (s.warehouses.save w).filter (·.tenantId = other) =
      s.warehouses.filter (·.tenantId = other) := by
    refine Table.filter_save_of_not (decide_eq_false ne.symm) fun r' found => ?_
    exact decide_eq_false fun eq => ne (eq.symm.trans (mine r' found))
  simp only [own, same]

theorem level_own {db db' : Db} {k : StockKey}
    (same : (db'.own k.1).stockLevels = (db.own k.1).stockLevels) :
    db'.stockLevels.find? k = db.stockLevels.find? k := by
  have before : (db.own k.1).stockLevels.find? k = db.stockLevels.find? k := find?_own (level_mine rfl)
  have after : (db'.own k.1).stockLevels.find? k = db'.stockLevels.find? k := find?_own (level_mine rfl)
  rw [← before, ← after, same]

theorem recordStockMovement_wrote {tenantId : Uuid} {dto : StockMovementRequest} {now : ℕ} {a : Response}
    (confined : s.Confined (.recordStockMovement tenantId dto now))
    (ok : s.recordStockMovement tenantId dto now = .ok (s', a)) : Wrote tenantId s s' := by
  simp only [recordStockMovement, bind_eq_ok, pure_eq_ok, Prod.mk.injEq] at ok
  obtain ⟨db', recorded, rfl, -⟩ := ok
  obtain ⟨product, m, found, owner, tenant, same, movements, moved⟩ := recordStockMovement_moved recorded
  rw [db_product, Option.map_eq_some_iff] at found
  obtain ⟨p, found, rfl⟩ := found
  have mine := confined (Option.map_eq_some_iff.mpr ⟨p, found, owner⟩)
  refine ⟨.refl _ _, .refl _ _, fun l mem => ?_, fun m' mem => ?_, fun other ne => ?_⟩
  · rcases moved.levels l mem with old | ⟨tenant, product, named, exists'⟩
    · exact .inl old
    · obtain ⟨w, here⟩ := Option.ne_none_iff_exists'.mp exists'
      exact .inr ⟨tenant, ⟨p, product ▸ found, owner⟩, w, here, mine _ named w here⟩
  · rw [movements, List.mem_append, List.mem_singleton] at mem
    rcases mem with old | rfl
    · exact .inl old
    · exact .inr ⟨tenant, p, same ▸ found, owner⟩
  · have levels : db'.stockLevels.filter (·.tenantId = other) = s.stockLevels.filter (·.tenantId = other) :=
      moved.others other ne
    have kept : db'.stockMovements.filter (·.tenantId = other) =
        s.stockMovements.filter (·.tenantId = other) := by
      rw [movements, List.filter_append, List.filter_singleton, tenant, decide_eq_false ne.symm]
      exact List.append_nil _
    simp only [own, levels, kept, Store.mk.injEq, true_and]
    funext k
    by_cases theirs : k.1 = other
    · have same : db'.stockLevels.find? k = s.stockLevels.find? k := level_own (theirs ▸ moved.others other ne)
      rw [if_pos theirs, if_pos theirs, if_pos same]
    · rw [if_neg theirs, if_neg theirs]

theorem perform_wrote {precedes : String → String → Bool} {r : Request} {a : Response}
    (fresh : s.Fresh r) (confined : s.Confined r) (ok : s.perform precedes r = .ok (s', a)) :
    Wrote r.tenantId s s' := by
  cases r with
  | createProduct tenantId id dto =>
      simp only [perform, createProduct, bind_eq_ok, pure_eq_ok, Prod.mk.injEq] at ok
      obtain ⟨-, -, unitCost, -, -, -, rfl, -⟩ := ok
      exact saveProduct_wrote rfl (mine_of_none fresh)
  | updateProduct tenantId productId dto =>
      simp only [perform, updateProduct, getProductById, bind_eq_ok, require_eq_ok, Option.filter_eq_some_iff,
        decide_eq_true_eq, pure_eq_ok, Prod.mk.injEq] at ok
      obtain ⟨product, ⟨found, rfl⟩, unitCost, -, -, -, rfl, -⟩ := ok
      exact saveProduct_wrote rfl (mine_of_find? (·.tenantId) found)
  | createWarehouse tenantId id dto =>
      simp only [perform, createWarehouse, Inventory.createWarehouse, bind_eq_ok, pure_eq_ok,
        Prod.mk.injEq] at ok
      obtain ⟨-, ⟨-, -, -, -, rfl⟩, rfl, -⟩ := ok
      exact saveWarehouse_wrote rfl (mine_of_none fresh)
  | updateWarehouse tenantId warehouseId dto =>
      simp only [perform, updateWarehouse, Inventory.updateWarehouse, bind_eq_ok, require_eq_ok,
        Option.filter_eq_some_iff, decide_eq_true_eq, pure_eq_ok, Prod.mk.injEq] at ok
      obtain ⟨-, ⟨warehouse, ⟨found, rfl⟩, -, -, rfl⟩, -, -, rfl, -⟩ := ok
      exact saveWarehouse_wrote rfl (mine_of_find? (·.tenantId) found)
  | recordStockMovement tenantId dto now => exact recordStockMovement_wrote confined ok
  | getWarehouseById tenantId warehouseId =>
      simp only [perform, bind_eq_ok, pure_eq_ok, Prod.mk.injEq] at ok
      obtain ⟨-, -, rfl, -⟩ := ok
      exact .refl _ _
  | getWarehouses tenantId | getStockLevels tenantId warehouseId | getInventoryValuation tenantId =>
      simp only [perform, pure_eq_ok, Prod.mk.injEq] at ok
      obtain ⟨rfl, -⟩ := ok
      exact .refl _ _

end Store
end Catalogue
end SmartErp.Inventory
