import SmartErp.Procurement.Sourcing

/-!
# What is stored of an order

Every path that creates an order ends in the same writes. A line of the order is stored from the line in
memory at its place, and the three amounts of the header are those of the lines in memory.
-/

namespace SmartErp.Procurement.Sourcing
open Foundations

theorem bigintColumn_ok {n : JsNumber} {z : ℤ} (ok : bigintColumn n = .ok z) : n = .finite z := by
  cases n with
  | nan => cases ok
  | infinity => cases ok
  | finite q =>
      by_cases whole : q.den = 1
      · rw [bigintColumn, if_pos whole, require_eq_ok] at ok
        split_ifs at ok
        obtain rfl := Option.some_inj.mp ok
        rw [Rat.coe_int_num_of_den_eq_one whole]
      · rw [bigintColumn, if_neg whole] at ok
        cases ok

structure LineEntity.Stored (l : LineEntity) (stored : PurchaseOrderLine) : Prop where
  productId : stored.productId = l.productId
  quantity : Numeric.ofRat 14 4 l.quantity = some stored.quantity
  unitCostCents : stored.unitCostCents = l.unitCostCents
  lineTotalCents : l.lineTotalCents = .finite stored.lineTotalCents
  taxAmountCents : l.taxAmountCents = .finite stored.taxAmountCents

theorem LineEntity.Stored.quantity_eq {l : LineEntity} {stored : PurchaseOrderLine} (same : l.Stored stored)
    {quantity : Numeric 14 4} (copied : l.quantity = quantity.val) : stored.quantity = quantity := by
  have column := same.quantity
  rw [copied, Numeric.ofRat_self] at column
  exact (Option.some_inj.mp column).symm

theorem LineEntity.stored_ok {l : LineEntity} {stored : PurchaseOrderLine} (ok : l.stored = .ok stored) :
    l.Stored stored := by
  simp only [LineEntity.stored, bind_eq_ok, column_eq_ok, pure_eq_ok] at ok
  obtain ⟨_, quantity, unitCost, unitCost', _, lineTotal, _, taxAmount, rfl⟩ := ok
  have same : unitCost = l.unitCostCents := by
    have equal := JsNumber.finite.inj (bigintColumn_ok unitCost')
    exact_mod_cast equal.symm
  exact ⟨rfl, quantity, same, bigintColumn_ok lineTotal, bigintColumn_ok taxAmount⟩

structure OrderEntity.Stored (e : OrderEntity) (po : PurchaseOrder) : Prop where
  id : po.id = e.id
  tenantId : po.tenantId = e.tenantId
  poNumber : po.poNumber = e.poNumber
  supplierId : po.supplierId = e.supplierId
  requisitionId : po.requisitionId = e.requisitionId
  currency : po.currency = e.currency
  lines : e.lines.mapM (·.stored) = .ok po.lines
  subtotalCents : e.subtotalCents = .finite po.subtotalCents
  taxCents : e.taxCents = .finite po.taxCents
  totalCents : e.totalCents = .finite po.totalCents

theorem savePurchaseOrder_ok {db db' : Db} {e : OrderEntity} (ok : savePurchaseOrder db e = .ok db') :
    ∃ po, e.Stored po ∧ db.purchaseOrders.find? po.id = none ∧
      (∀ po' ∈ db.purchaseOrders.rows, ¬ (po'.tenantId = e.tenantId ∧ po'.poNumber = e.poNumber)) ∧
      db' = { db with purchaseOrders := db.purchaseOrders.save po } := by
  simp only [savePurchaseOrder, bind_eq_ok, ensure_eq_ok, pure_eq_ok] at ok
  obtain ⟨-, fresh, -, free, lines, stored, _, subtotal, _, tax, _, total, rfl⟩ := ok
  refine ⟨_, ⟨rfl, rfl, rfl, rfl, rfl, rfl, stored, ?_, ?_, ?_⟩, fresh, free, rfl⟩
  · exact bigintColumn_ok subtotal
  · exact bigintColumn_ok tax
  · exact bigintColumn_ok total

theorem OrderEntity.Stored.map {α γ : Type} {e : OrderEntity} {po : PurchaseOrder} (stored : e.Stored po)
    {as : List α} {entity : α → LineEntity} (lines : e.lines = as.map entity) {g : PurchaseOrderLine → γ} {h : α → γ}
    (shows : ∀ a l, (entity a).Stored l → g l = h a) : po.lines.map g = as.map h := by
  have saved := stored.lines
  rw [lines, List.mapM_map] at saved
  exact mapM_map (fun a _ l ok => shows a l (LineEntity.stored_ok ok)) saved

theorem sumOf_safe {zs : List ℤ} (safe : (zs.map (|·|)).sum < 2 ^ 53) :
    sumOf (zs.map fun z : ℤ => .finite z) = .finite zs.sum := by
  have general : ∀ acc : ℤ, |acc| + (zs.map (|·|)).sum < 2 ^ 53 →
      (zs.map fun z : ℤ => JsNumber.finite z).foldl JsNumber.plus (.finite acc) = .finite (acc + zs.sum : ℤ) := by
    clear safe
    induction zs with
    | nil =>
        intro acc _
        simp
    | cons z zs ih =>
        intro acc safe
        rw [List.map_cons, List.sum_cons] at safe
        have triangle := abs_add_le acc z
        have nonneg : 0 ≤ (zs.map (|·|)).sum := List.sum_nonneg (by simp)
        have step : (JsNumber.finite acc).plus (.finite z) = .finite (acc + z : ℤ) := by
          rw [JsNumber.plus, JsNumber.add_finite, ← Int.cast_add]
          exact JsNumber.double_safe (by omega)
        rw [List.map_cons, List.foldl_cons, step, ih (acc + z) (by omega), List.sum_cons, add_assoc]
  have total := general 0 (by simpa using safe)
  rw [zero_add] at total
  exact_mod_cast total

end SmartErp.Procurement.Sourcing
