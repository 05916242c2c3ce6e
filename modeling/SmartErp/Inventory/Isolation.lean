import SmartErp.Inventory.Ownership
import SmartErp.Foundations.Isolation

/-!
# Tenants and each other's stock

A request is answered from the rows of its tenant, so what other tenants do does not show. The exception is
a movement into somebody else's warehouse: levels are joined to warehouses by id alone.
-/

namespace SmartErp.Inventory.Catalogue
open Foundations

namespace Store
variable {s s' : Store} {tenantId : Uuid} {precedes : String → String → Bool}

/-! ## Relations -/

theorem levels_filter_own (p : StockLevel → Bool) (mine : ∀ l ∈ s.stockLevels.rows, p l → l.tenantId = tenantId) :
    (s.own tenantId).stockLevels.rows.filter p = s.stockLevels.rows.filter p := by
  change (s.stockLevels.rows.filter _).filter p = _
  rw [List.filter_filter]
  apply List.filter_congr
  intro l mem
  by_cases picked : p l
  · rw [picked, mine l mem picked]
    simp
  · simp [picked]

theorem Apart.mine_of_product (apart : s.Apart) {l : StockLevel} (mem : l ∈ s.stockLevels.rows) {p : Product}
    (found : s.products.find? l.productId = some p) : l.tenantId = p.tenantId := by
  obtain ⟨p', found', same⟩ := apart.product l mem
  rw [found] at found'
  exact Option.some_inj.mp found' ▸ same.symm

theorem Apart.mine_of_warehouse (apart : s.Apart) {l : StockLevel} (mem : l ∈ s.stockLevels.rows) {w : Warehouse}
    (found : s.warehouses.find? l.warehouseId = some w) : l.tenantId = w.tenantId := by
  obtain ⟨w', found', same⟩ := apart.warehouse l mem
  rw [found] at found'
  exact Option.some_inj.mp found' ▸ same.symm

theorem Apart.productOf_own (apart : s.Apart) {l : StockLevel} (mem : l ∈ s.stockLevels.rows) :
    (s.own l.tenantId).productOf l = s.productOf l := by
  refine find?_own fun p found => ?_
  exact (apart.mine_of_product mem found).symm

theorem Apart.warehouseOf_own (apart : s.Apart) {l : StockLevel} (mem : l ∈ s.stockLevels.rows) :
    (s.own l.tenantId).warehouses.find? l.warehouseId = s.warehouses.find? l.warehouseId := by
  refine find?_own fun w found => ?_
  exact (apart.mine_of_warehouse mem found).symm

theorem Apart.levelsOfWarehouse_own (apart : s.Apart) {w : Warehouse}
    (found : s.warehouses.find? w.id = some w) :
    (s.own w.tenantId).levelsOfWarehouse w = s.levelsOfWarehouse w := by
  refine levels_filter_own _ fun l mem here => ?_
  rw [decide_eq_true_eq] at here
  exact apart.mine_of_warehouse mem (here ▸ found)

theorem Apart.showWarehouse_own (apart : s.Apart) {w : Warehouse} (found : s.warehouses.find? w.id = some w) :
    (s.own w.tenantId).showWarehouse w = s.showWarehouse w := by
  unfold showWarehouse
  rw [apart.levelsOfWarehouse_own found]
  congr 1
  apply List.map_congr_left
  intro l mem
  obtain ⟨stored, here⟩ := List.mem_filter.mp mem
  have owner : l.tenantId = w.tenantId := apart.mine_of_warehouse stored (of_decide_eq_true here ▸ found)
  rw [← owner, apart.productOf_own stored]

theorem Apart.levelsOfProduct_own (apart : s.Apart) {p : Product} (found : s.products.find? p.id = some p) :
    (s.own p.tenantId).levelsOfProduct p = s.levelsOfProduct p := by
  have mine : ∀ l ∈ s.stockLevels.rows, l.productId = p.id → l.tenantId = p.tenantId := by
    intro l mem here
    exact apart.mine_of_product mem (here ▸ found)
  unfold levelsOfProduct
  rw [levels_filter_own _ fun l mem here => mine l mem (of_decide_eq_true here)]
  apply List.map_congr_left
  intro l mem
  obtain ⟨stored, here⟩ := List.mem_filter.mp mem
  rw [← mine l stored (of_decide_eq_true here), apart.warehouseOf_own stored]

theorem Apart.movementsOf_own (apart : s.Apart) {p : Product} (found : s.products.find? p.id = some p) :
    (s.own p.tenantId).stockMovements.filter (·.productId = p.id) =
      s.stockMovements.filter (·.productId = p.id) := by
  change (s.stockMovements.filter _).filter _ = _
  rw [List.filter_filter]
  apply List.filter_congr
  intro m mem
  by_cases here : m.productId = p.id
  · obtain ⟨p', found', same⟩ := apart.movement m mem
    rw [here, found] at found'
    rw [← same, ← Option.some_inj.mp found']
    simp
  · simp [here]

theorem Apart.levelsOf_own (apart : s.Apart) (tenantId : Uuid) :
    (s.own tenantId).levelsOf tenantId = s.levelsOf tenantId := by
  unfold levelsOf
  rw [levels_filter_own _ fun l mem here => of_decide_eq_true here]
  apply List.map_congr_left
  intro l mem
  obtain ⟨stored, here⟩ := List.mem_filter.mp mem
  rw [← of_decide_eq_true here, joined, apart.productOf_own stored, apart.warehouseOf_own stored]
  rfl

/-! ## Requests -/

def ofTenant (tenantId : Uuid) (result : Except Failure (Store × Response)) : Except Failure (Store × Response) :=
  result.map (Prod.map (·.own tenantId) id)

theorem saveProduct_own {p : Product} (mine : Mine (·.tenantId) p.tenantId (s.products.find? p.id)) :
    (s.products.save p).filter (·.tenantId = p.tenantId) = (s.own p.tenantId).products.save p := by
  refine Table.filter_save (decide_eq_true rfl) fun r' found => ?_
  exact decide_eq_true (mine r' found)

theorem createProduct_own {id : Uuid} (fresh : s.products.find? id = none) (dto : ProductDto) :
    (s.own tenantId).createProduct tenantId id dto = ofTenant tenantId (s.createProduct tenantId id dto) := by
  have existing : (s.own tenantId).products.rows.find? (fun p => p.tenantId = tenantId ∧ p.sku = dto.sku) =
      s.products.rows.find? (fun p => p.tenantId = tenantId ∧ p.sku = dto.sku) := by
    simp [own, Table.filter, List.find?_filter]
  have unused : (s.own tenantId).products.find? id = none := by
    rw [own, Table.find?_filter, fresh, Option.filter_none]
  unfold createProduct ofTenant
  simp only [existing, unused, fresh, map_of_bind]
  congr 1
  funext _
  congr 1
  funext unitCost
  congr 1
  funext _
  have saved := saveProduct_own (s := s) (p := ⟨⟨id, tenantId, unitCost⟩, dto.sku, dto.name, dto.category, true⟩)
    (mine_of_none fresh)
  rw [← saved]
  rfl

theorem updateProduct_own (apart : s.Apart) (productId : Uuid) (dto : ProductPatch) :
    (s.own tenantId).updateProduct tenantId productId dto =
      ofTenant tenantId (s.updateProduct tenantId productId dto) := by
  have selected : ((s.own tenantId).products.find? productId).filter (·.tenantId = tenantId) =
      (s.products.find? productId).filter (·.tenantId = tenantId) := selected_own productId
  unfold updateProduct getProductById ofTenant
  rw [selected]
  cases mine : (s.products.find? productId).filter (·.tenantId = tenantId) with
  | none => rfl
  | some product =>
      obtain ⟨found, owner⟩ := Option.filter_eq_some_iff.mp mine
      obtain rfl := of_decide_eq_true owner
      have here : s.products.find? product.id = some product := (Table.key_of_find? found).symm ▸ found
      change (numericParam _ _ _ >>= _) = (numericParam _ _ _ >>= _).map _
      rw [map_of_bind]
      congr 1
      funext unitCost
      set updated : Product := { product with
        unitCost
        sku := dto.sku.getD product.sku
        name := dto.name.getD product.name
        category := dto.category.getD product.category
        isActive := dto.isActive.getD product.isActive }
      have unique : ensure (∀ p ∈ (s.own product.tenantId).products.rows,
          p.tenantId = product.tenantId → p.sku = updated.sku → p.id = productId)
            (.database "ux_products_tenant_sku") =
          ensure (∀ p ∈ s.products.rows,
            p.tenantId = product.tenantId → p.sku = updated.sku → p.id = productId)
              (.database "ux_products_tenant_sku") := ensure_congr forall_own _
      have saved := saveProduct_own (s := s) (p := updated) (mine_of_find? (·.tenantId) found)
      rw [apart.levelsOfProduct_own here, apart.movementsOf_own here]
      change (ensure _ _ >>= _) = (ensure _ _ >>= _).map _
      rw [unique, map_of_bind]
      congr 1
      funext _
      rw [← saved]
      rfl

theorem createWarehouse_own {id : Uuid} (fresh : s.warehouses.find? id = none) (dto : WarehouseDto) :
    (s.own tenantId).createWarehouse tenantId id dto = ofTenant tenantId (s.createWarehouse tenantId id dto) := by
  unfold createWarehouse
  rw [own_db, Inventory.createWarehouse_own fresh]
  cases Inventory.createWarehouse s.db tenantId id dto <;> rfl

theorem findWarehouse_own (s : Store) (tenantId warehouseId : Uuid) :
    (s.own tenantId).findWarehouse tenantId warehouseId = s.findWarehouse tenantId warehouseId :=
  congrArg (require · _) (selected_own warehouseId)

theorem showFound_own (apart : s.Apart) (tenantId warehouseId : Uuid) :
    ((s.own tenantId).findWarehouse tenantId warehouseId >>= fun w =>
      return (s.own tenantId, (s.own tenantId).showWarehouse w)) =
      ofTenant tenantId (s.findWarehouse tenantId warehouseId >>= fun w => return (s, s.showWarehouse w)) := by
  rw [findWarehouse_own]
  cases loaded : s.findWarehouse tenantId warehouseId with
  | error => rfl
  | ok w =>
      rw [findWarehouse, require_eq_ok, Option.filter_eq_some_iff] at loaded
      obtain ⟨found, owner⟩ := loaded
      obtain rfl := of_decide_eq_true owner
      have here : s.warehouses.find? w.id = some w := (Table.key_of_find? found).symm ▸ found
      exact congrArg (fun a => Except.ok (s.own w.tenantId, a)) (apart.showWarehouse_own here)

theorem updateWarehouse_own (apart : s.Apart) (warehouseId : Uuid) (dto : WarehousePatch) :
    (s.own tenantId).updateWarehouse tenantId warehouseId dto =
      ofTenant tenantId (s.updateWarehouse tenantId warehouseId dto) := by
  unfold updateWarehouse
  rw [own_db, Inventory.updateWarehouse_own]
  cases renamed : Inventory.updateWarehouse s.db tenantId warehouseId dto with
  | error => rfl
  | ok db =>
      have apart' : { s with warehouses := db.warehouses }.Apart := by
        simp only [Inventory.updateWarehouse, bind_eq_ok, require_eq_ok, Option.filter_eq_some_iff,
          decide_eq_true_eq, pure_eq_ok] at renamed
        obtain ⟨w, ⟨found, rfl⟩, -, -, rfl⟩ := renamed
        exact (saveWarehouse_wrote rfl (mine_of_find? (·.tenantId) found)).apart apart
      exact showFound_own apart' tenantId warehouseId

theorem recordStockMovement_own {dto : StockMovementRequest} {now : ℕ}
    (confined : s.Confined (.recordStockMovement tenantId dto now)) :
    (s.own tenantId).recordStockMovement tenantId dto now =
      ofTenant tenantId (s.recordStockMovement tenantId dto now) := by
  have confined' : (s.db.products.find? dto.productId).map (·.tenantId) = some tenantId →
      ∀ id ∈ dto.receivers, Mine (·.tenantId) tenantId (s.db.warehouses.find? id) := by
    rw [db_product, Option.map_map]
    exact confined
  unfold recordStockMovement
  rw [own_db, Inventory.recordStockMovement_own confined']
  cases recorded : Inventory.recordStockMovement s.db tenantId dto with
  | error => rfl
  | ok db =>
      obtain ⟨-, m, -, -, tenant, -, movements, -⟩ := recordStockMovement_moved recorded
      have shown : (db.own tenantId).stockMovements.getLast? = db.stockMovements.getLast? := by
        rw [Db.own, movements, List.filter_append, List.filter_singleton, tenant]
        simp
      have times : (fun k => if (db.own tenantId).stockLevels.find? k = (s.db.own tenantId).stockLevels.find? k
          then (s.own tenantId).updatedAt k else now) = fun k => if k.1 = tenantId then
            (if db.stockLevels.find? k = s.stockLevels.find? k then s.updatedAt k else now) else 0 := by
        funext k
        by_cases owner : k.1 = tenantId
        · have before : (s.db.own tenantId).stockLevels.find? k = s.stockLevels.find? k :=
            find?_own (level_mine owner)
          have after : (db.own tenantId).stockLevels.find? k = db.stockLevels.find? k :=
            find?_own (level_mine owner)
          rw [before, after, if_pos owner, own_updatedAt, if_pos owner]
        · rw [level_foreign owner, level_foreign owner, if_pos rfl, if_neg owner, own_updatedAt, if_neg owner]
      change Except.ok _ = Except.ok _
      congr 1
      exact Prod.ext (congrArg (Store.mk _ _ _ _) times) (congrArg Response.movement shown)

theorem getWarehouses_own (apart : s.Apart) (tenantId : Uuid) :
    (s.own tenantId).getWarehouses precedes tenantId = s.getWarehouses precedes tenantId := by
  have selected : (s.own tenantId).warehouses.rows.filter (fun w => w.tenantId = tenantId ∧ w.isActive) =
      s.warehouses.rows.filter fun w => w.tenantId = tenantId ∧ w.isActive := by
    change (s.warehouses.rows.filter _).filter _ = _
    rw [List.filter_filter]
    simp [Bool.and_comm, Bool.and_left_comm]
  unfold getWarehouses
  rw [selected]
  congr 1
  apply List.map_congr_left
  intro w mem
  rw [List.mem_insertionSort, List.mem_filter, decide_eq_true_eq] at mem
  obtain ⟨stored, rfl, -⟩ := mem
  rw [apart.levelsOfWarehouse_own (Table.find?_of_mem stored)]

theorem getStockLevels_own (apart : s.Apart) (tenantId : Uuid) (warehouseId : Option Uuid) :
    (s.own tenantId).getStockLevels tenantId warehouseId = s.getStockLevels tenantId warehouseId := by
  have mine : ∀ e ∈ s.levelsOf tenantId, (s.own tenantId).updatedAt e.1.key = s.updatedAt e.1.key := by
    intro e mem
    obtain ⟨l, listed, rfl⟩ := List.mem_map.mp mem
    exact if_pos (of_decide_eq_true (List.mem_filter.mp listed).2)
  unfold getStockLevels
  rw [apart.levelsOf_own]
  generalize selected : (s.levelsOf tenantId).filter _ = es
  have each : ∀ e ∈ es, (s.own tenantId).updatedAt e.1.key = s.updatedAt e.1.key := by
    rintro e mem
    rw [← selected] at mem
    exact mine e (List.mem_filter.mp mem).1
  have sorted := List.map_insertionSort
    (fun a b => (s.own tenantId).updatedAt b.1.key ≤ (s.own tenantId).updatedAt a.1.key)
    (fun a b : StockLevel × Option Product × Option Warehouse => s.updatedAt b.1.key ≤ s.updatedAt a.1.key) id es
    fun a memA b memB => by rw [each a memA, each b memB]; rfl
  rw [List.map_id, List.map_id] at sorted
  exact congrArg Response.stockLevels sorted

theorem getInventoryValuation_own (apart : s.Apart) (tenantId : Uuid) :
    (s.own tenantId).getInventoryValuation tenantId = s.getInventoryValuation tenantId := by
  unfold getInventoryValuation
  rw [apart.levelsOf_own]

theorem perform_own (apart : s.Apart) {r : Request} (fresh : s.Fresh r) (confined : s.Confined r) :
    (s.own r.tenantId).perform precedes r = ofTenant r.tenantId (s.perform precedes r) := by
  cases r with
  | createProduct tenantId id dto => exact createProduct_own fresh dto
  | updateProduct tenantId productId dto => exact updateProduct_own apart productId dto
  | createWarehouse tenantId id dto => exact createWarehouse_own fresh dto
  | updateWarehouse tenantId warehouseId dto => exact updateWarehouse_own apart warehouseId dto
  | recordStockMovement tenantId dto now => exact recordStockMovement_own confined
  | getWarehouses tenantId => exact congrArg (fun a => Except.ok (_, a)) (getWarehouses_own apart tenantId)
  | getWarehouseById tenantId warehouseId => exact showFound_own apart tenantId warehouseId
  | getStockLevels tenantId warehouseId =>
      exact congrArg (fun a => Except.ok (_, a)) (getStockLevels_own apart tenantId warehouseId)
  | getInventoryValuation tenantId =>
      exact congrArg (fun a => Except.ok (_, a)) (getInventoryValuation_own apart tenantId)

/-! ## Runs -/

theorem answer_own (apart : s.Apart) {r : Request} (fresh : s.Fresh r) (confined : s.Confined r) :
    (s.own r.tenantId).answer precedes r = s.answer precedes r := by
  unfold answer
  rw [perform_own apart fresh confined]
  cases s.perform precedes r <;> rfl

theorem next_own (apart : s.Apart) {r : Request} (fresh : s.Fresh r) (confined : s.Confined r) :
    (s.own r.tenantId).next precedes r = (s.next precedes r).own r.tenantId := by
  unfold next
  rw [perform_own apart fresh confined]
  cases s.perform precedes r <;> rfl

theorem next_wrote {r : Request} (fresh : s.Fresh r) (confined : s.Confined r) :
    Wrote r.tenantId s (s.next precedes r) := by
  refine settle_keeps (Wrote.refl r.tenantId s) fun t ok => ?_
  obtain ⟨⟨t, a⟩, performed, rfl⟩ := map_eq_ok.mp ok
  exact perform_wrote fresh confined performed

/-- Stores that the tenant cannot tell apart; an id that is free in the first is free in the second. -/
structure Alike (tenantId : Uuid) (u v : Store) : Prop where
  same : u.own tenantId = v.own tenantId
  products : ∀ id, u.products.find? id = none → v.products.find? id = none
  warehouses : ∀ id, u.warehouses.find? id = none → v.warehouses.find? id = none
  apart : u.Apart
  apart' : v.Apart

theorem Kept.unused {ρ : Type} {key tenant : ρ → Uuid} {t t' : Table key} (kept : Kept tenant t t') {id : Uuid}
    (unused : t'.find? id = none) : t.find? id = none := by
  cases found : t.find? id with
  | none => rfl
  | some row =>
      obtain ⟨row', found', -⟩ := kept id row found
      rw [unused] at found'
      cases found'

theorem Kept.free {ρ : Type} {key tenant : ρ → Uuid} {t t' v v' : Table key} (kept : Kept tenant t t')
    (free : ∀ id, t.find? id = none → v.find? id = none)
    (mine : t'.filter (fun r => tenant r = tenantId) = v'.filter fun r => tenant r = tenantId)
    (others : ∀ other, other ≠ tenantId →
      v'.filter (fun r => tenant r = other) = v.filter fun r => tenant r = other) {id : Uuid}
    (unused : t'.find? id = none) : v'.find? id = none := by
  cases found : v'.find? id with
  | none => rfl
  | some row =>
      have shown : (v'.filter fun r => tenant r = tenant row).find? id = some row := by
        rw [Table.find?_filter, found, Option.filter_some, if_pos (decide_eq_true rfl)]
      by_cases owner : tenant row = tenantId
      · rw [owner, ← mine, Table.find?_filter, unused] at shown
        cases shown
      · rw [others _ owner, Table.find?_filter, free id (kept.unused unused)] at shown
        cases shown

variable {u v : Store} {r : Request}

theorem Alike.fresh (alike : Alike tenantId u v) (fresh : u.Fresh r) : v.Fresh r := by
  cases r with
  | createProduct tenantId id dto => exact alike.products id fresh
  | createWarehouse tenantId id dto => exact alike.warehouses id fresh
  | _ => trivial

theorem find?_of_own {ρ : Type} {key tenant : ρ → Uuid} {t t' : Table key}
    (same : (t.filter fun r => tenant r = tenantId) = t'.filter fun r => tenant r = tenantId) {id : Uuid} {row : ρ}
    (found : t.find? id = some row) (owner : tenant row = tenantId) : t'.find? id = some row := by
  have shown : (t.filter fun r => tenant r = tenantId).find? id = some row := by
    rw [Table.find?_filter, found, Option.filter_some, if_pos (decide_eq_true owner)]
  rw [same, Table.find?_filter, Option.filter_eq_some_iff] at shown
  exact shown.1

theorem Alike.confined (alike : Alike r.tenantId u v) (confined : u.Confined r) : v.Confined r := by
  cases r with
  | recordStockMovement tenantId dto now =>
      intro owned id named w found'
      obtain ⟨p, found, owner⟩ := Option.map_eq_some_iff.mp owned
      have product := find?_of_own (congrArg Store.products alike.same).symm found owner
      cases here : u.warehouses.find? id with
      | none =>
          rw [alike.warehouses id here] at found'
          cases found'
      | some w' =>
          have owner' := confined (Option.map_eq_some_iff.mpr ⟨p, product, owner⟩) id named w' here
          rw [find?_of_own (congrArg Store.warehouses alike.same) here owner'] at found'
          exact Option.some_inj.mp found' ▸ owner'
  | _ => trivial

theorem Alike.others (alike : Alike tenantId u v) (fresh : u.Fresh r) (confined : u.Confined r)
    (other : r.tenantId ≠ tenantId) : Alike tenantId (u.next precedes r) v := by
  have wrote : Wrote r.tenantId u (u.next precedes r) := next_wrote fresh confined
  exact {
    same := (wrote.others tenantId other.symm).trans alike.same
    products id unused := alike.products id (wrote.products.unused unused)
    warehouses id unused := alike.warehouses id (wrote.warehouses.unused unused)
    apart := wrote.apart alike.apart
    apart' := alike.apart' }

theorem Alike.both (alike : Alike r.tenantId u v) (fresh : u.Fresh r) (confined : u.Confined r) :
    Alike r.tenantId (u.next precedes r) (v.next precedes r) ∧ u.answer precedes r = v.answer precedes r := by
  have fresh' := alike.fresh fresh
  have confined' := alike.confined confined
  have wrote : Wrote r.tenantId u (u.next precedes r) := next_wrote fresh confined
  have wrote' : Wrote r.tenantId v (v.next precedes r) := next_wrote fresh' confined'
  have same : (u.next precedes r).own r.tenantId = (v.next precedes r).own r.tenantId := by
    rw [← next_own alike.apart fresh confined, alike.same, next_own alike.apart' fresh' confined']
  refine ⟨⟨same, fun id unused => ?_, fun id unused => ?_, wrote.apart alike.apart,
    wrote'.apart alike.apart'⟩, ?_⟩
  · exact wrote.products.free alike.products (congrArg Store.products same)
      (fun other ne => congrArg Store.products (wrote'.others other ne)) unused
  · exact wrote.warehouses.free alike.warehouses (congrArg Store.warehouses same)
      (fun other ne => congrArg Store.warehouses (wrote'.others other ne)) unused
  · rw [← answer_own alike.apart fresh confined, alike.same, answer_own alike.apart' fresh' confined']

theorem Apart.own (apart : s.Apart) (tenantId : Uuid) : (s.own tenantId).Apart where
  product l mem := by
    obtain ⟨stored, owner⟩ := List.mem_filter.mp mem
    obtain ⟨p, found, same⟩ := apart.product l stored
    obtain rfl := of_decide_eq_true owner
    exact ⟨p, (apart.productOf_own stored).trans found, same⟩
  warehouse l mem := by
    obtain ⟨stored, owner⟩ := List.mem_filter.mp mem
    obtain ⟨w, found, same⟩ := apart.warehouse l stored
    obtain rfl := of_decide_eq_true owner
    exact ⟨w, (apart.warehouseOf_own stored).trans found, same⟩
  movement m mem := by
    obtain ⟨stored, owner⟩ := List.mem_filter.mp mem
    obtain ⟨p, found, same⟩ := apart.movement m stored
    refine ⟨p, ?_, same⟩
    refine (find?_own (t := s.products) fun p' found' => ?_).trans found
    rw [found] at found'
    exact (Option.some_inj.mp found' ▸ same).trans (of_decide_eq_true owner)

theorem own_own (s : Store) (tenantId : Uuid) : (s.own tenantId).own tenantId = s.own tenantId := by
  have times : (fun k : StockKey => if k.1 = tenantId then (s.own tenantId).updatedAt k else 0) =
      (s.own tenantId).updatedAt := by
    funext k
    by_cases owner : k.1 = tenantId <;> simp [own_updatedAt, owner]
  rw [Store.own, times]
  simp [Store.own, Table.filter]

theorem Alike.own (apart : s.Apart) (tenantId : Uuid) : Alike tenantId s (s.own tenantId) where
  same := (own_own s tenantId).symm
  products id unused := by rw [Store.own, Table.find?_filter, unused, Option.filter_none]
  warehouses id unused := by rw [Store.own, Table.find?_filter, unused, Option.filter_none]
  apart := apart
  apart' := apart.own tenantId

def answersTo (precedes : String → String → Bool) (tenantId : Uuid) (s : Store) (rs : List Request) :
    List (Except Failure Response) :=
  answers (next precedes) (answer precedes) Request.tenantId tenantId s rs

theorem answersTo_alike (alike : Alike tenantId u v) {rs : List Request}
    (met : AllMet (fun s r => s.Fresh r ∧ s.Confined r) (next precedes) u rs) :
    answersTo precedes tenantId u rs = answersTo precedes tenantId v (rs.filter (·.tenantId = tenantId)) := by
  refine answers_unwind (Alike tenantId) ?_ ?_ alike met
  · rintro u v r alike ⟨fresh, confined⟩ other
    exact alike.others fresh confined other
  · rintro u v r alike ⟨fresh, confined⟩ rfl
    exact alike.both fresh confined

/-- In a run that moves stock only in the caller's warehouses, a tenant is answered as if alone, on a store
that holds no rows but its own. -/
theorem answersTo_alone (apart : s.Apart) {rs : List Request} {t : Store}
    (run : Run (fun u r => u.Fresh r ∧ u.Confined r) (next precedes) s rs t) (tenantId : Uuid) :
    answersTo precedes tenantId s rs = answersTo precedes tenantId s (rs.filter (·.tenantId = tenantId)) ∧
      answersTo precedes tenantId s rs =
        answersTo precedes tenantId (s.own tenantId) (rs.filter (·.tenantId = tenantId)) :=
  ⟨answersTo_alike ⟨rfl, fun _ => id, fun _ => id, apart, apart⟩ run.allMet,
    answersTo_alike (.own apart tenantId) run.allMet⟩

/-! ## Two tenants from the start -/

namespace Sample

def nothing : Store := ⟨∅, ∅, ∅, [], fun _ => 0⟩

def opening : List Request :=
  [.createProduct 1 7 ⟨"B-10", "Bolt", .sparePart, some 2⟩, .createWarehouse 2 3 ⟨"MAIN", "Main"⟩,
    .createWarehouse 1 4 ⟨"MAIN", "Depot"⟩]

def receipt (warehouseId : Uuid) : Request := .recordStockMovement 1
  { productId := 7, movementType := .inbound, quantity := 5, destinationWarehouseId := some warehouseId } 10

def reads : List Request := [.getWarehouses 2, .getStockLevels 1 none]

end Sample

theorem answersTo_own_depot :
    answersTo Sample.byCode 2 Sample.nothing (Sample.opening ++ Sample.receipt 4 :: Sample.reads) =
        answersTo Sample.byCode 2 Sample.nothing
          ((Sample.opening ++ Sample.receipt 4 :: Sample.reads).filter (·.tenantId = 2)) ∧
      answersTo Sample.byCode 2 Sample.nothing (Sample.opening ++ Sample.receipt 4 :: Sample.reads) =
        answersTo Sample.byCode 2 (Sample.nothing.own 2)
          ((Sample.opening ++ Sample.receipt 4 :: Sample.reads).filter (·.tenantId = 2)) := by
  have apart : Sample.nothing.Apart := by constructor <;> simp [Sample.nothing]
  exact answersTo_alone apart (.ofAllMet (by decide +kernel)) 2

theorem answersTo_foreign_warehouse :
    answersTo Sample.byCode 2 Sample.nothing (Sample.opening ++ Sample.receipt 3 :: Sample.reads) ≠
        answersTo Sample.byCode 2 Sample.nothing
          ((Sample.opening ++ Sample.receipt 3 :: Sample.reads).filter (·.tenantId = 2)) ∧
      answersTo Sample.byCode 1 Sample.nothing (Sample.opening ++ Sample.receipt 3 :: Sample.reads) ≠
        answersTo Sample.byCode 1 Sample.nothing
          ((Sample.opening ++ Sample.receipt 3 :: Sample.reads).filter (·.tenantId = 1)) := by
  decide +kernel

end Store
end SmartErp.Inventory.Catalogue
