import SmartErp.Procurement.Awards

/-!
# Whole cents

Taxes are rounded and line totals are not, so a fraction of a cent reaches a `bigint` column as soon as a unit
cost times a quantity is no whole number. Sums of whole amounts are exact below `2 ^ 53`.
-/

namespace SmartErp.Procurement.Sourcing
open Foundations

/-- The amounts of the order that go to `bigint` columns. -/
def OrderEntity.written (e : OrderEntity) : List JsNumber :=
  e.lines.flatMap (fun l => [.finite l.unitCostCents, l.lineTotalCents, l.taxAmountCents]) ++
    [e.subtotalCents, e.taxCents, e.totalCents]

def OrderEntity.Safe (e : OrderEntity) : Prop :=
  (∀ l ∈ e.lines, l.taxAmountCents.isFinite = true) ∧
    (e.lines.map fun l => l.lineTotalCents.magnitude).sum + (e.lines.map fun l => l.taxAmountCents.magnitude).sum <
      2 ^ 53

instance (e : OrderEntity) : Decidable e.Safe := inferInstanceAs (Decidable (_ ∧ _))

theorem OrderEntity.Safe.sums {e : OrderEntity} (safe : e.Safe) {totals taxes : List ℤ}
    (lineTotals : e.lines.map (·.lineTotalCents) = totals.map fun z : ℤ => .finite z)
    (taxAmounts : e.lines.map (·.taxAmountCents) = taxes.map fun z : ℤ => .finite z) :
    e.subtotalCents = .finite totals.sum ∧ e.taxCents = .finite taxes.sum ∧
      e.totalCents = .finite (totals.sum + taxes.sum : ℤ) := by
  have bound : (totals.map (|·|)).sum + (taxes.map (|·|)).sum < 2 ^ 53 := by
    have small := safe.2
    have split (f : LineEntity → JsNumber) : (e.lines.map fun l => (f l).magnitude) =
        (e.lines.map f).map JsNumber.magnitude := by rw [List.map_map]; rfl
    rw [split (·.lineTotalCents), split (·.taxAmountCents), lineTotals, taxAmounts, JsNumber.sum_magnitude,
      JsNumber.sum_magnitude] at small
    exact_mod_cast small
  have nonneg (zs : List ℤ) : 0 ≤ (zs.map (|·|)).sum := List.sum_nonneg (by simp)
  have subtotal : e.subtotalCents = .finite totals.sum := by
    rw [OrderEntity.subtotalCents, lineTotals]
    exact sumOf_safe (by linarith [nonneg taxes])
  have tax : e.taxCents = .finite taxes.sum := by
    rw [OrderEntity.taxCents, taxAmounts]
    exact sumOf_safe (by linarith [nonneg totals])
  refine ⟨subtotal, tax, ?_⟩
  rw [OrderEntity.totalCents, subtotal, tax, JsNumber.plus, JsNumber.add_finite, ← Int.cast_add]
  apply JsNumber.double_safe
  have triangle := abs_add_le totals.sum taxes.sum
  linarith [abs_sum_le totals, abs_sum_le taxes]

theorem OrderEntity.written_whole {e : OrderEntity} (safe : e.Safe)
    (rounded : ∀ l ∈ e.lines, ∃ n : JsNumber, l.taxAmountCents = n.round)
    (whole : ∀ l ∈ e.lines, l.lineTotalCents.isInteger = true) : ∀ n ∈ e.written, n.isInteger = true := by
  have taxes : ∀ l ∈ e.lines, l.taxAmountCents.isInteger = true := by
    intro l mem
    have finite := safe.1 l mem
    obtain ⟨n, eq⟩ := rounded l mem
    rw [eq] at finite ⊢
    cases n with
    | finite q => simp [JsNumber.isInteger]
    | nan => cases finite
    | infinity => cases finite
  have listed {f : LineEntity → JsNumber} (whole : ∀ l ∈ e.lines, (f l).isInteger = true) :
      ∃ zs : List ℤ, e.lines.map f = zs.map fun z : ℤ => .finite z := by
    apply JsNumber.exists_integers
    simpa using whole
  obtain ⟨totals, lineTotals⟩ := listed whole
  obtain ⟨taxed, taxAmounts⟩ := listed taxes
  obtain ⟨subtotal, tax, total⟩ := safe.sums lineTotals taxAmounts
  intro n mem
  rw [OrderEntity.written, List.mem_append, List.mem_flatMap] at mem
  rcases mem with ⟨l, mem, value⟩ | value
  · simp only [List.mem_cons, List.not_mem_nil, or_false] at value
    rcases value with rfl | rfl | rfl
    · simp [JsNumber.isInteger]
    · exact whole l mem
    · exact taxes l mem
  · simp only [List.mem_cons, List.not_mem_nil, or_false] at value
    rw [JsNumber.isInteger_iff]
    rcases value with rfl | rfl | rfl
    · exact ⟨_, subtotal⟩
    · exact ⟨_, tax⟩
    · exact ⟨_, total⟩

structure PurchaseOrder.Adds (po : PurchaseOrder) : Prop where
  subtotal : po.subtotalCents = (po.lines.map (·.lineTotalCents)).sum
  tax : po.taxCents = (po.lines.map (·.taxAmountCents)).sum
  total : po.totalCents = po.subtotalCents + po.taxCents

theorem OrderEntity.Stored.adds {e : OrderEntity} {po : PurchaseOrder} (stored : e.Stored po) (safe : e.Safe) :
    po.Adds := by
  have lineTotals : e.lines.map (·.lineTotalCents) =
      (po.lines.map (·.lineTotalCents)).map fun z : ℤ => .finite z := by
    rw [List.map_map]
    exact (stored.map (List.map_id e.lines).symm fun _ _ same => same.lineTotalCents.symm).symm
  have taxAmounts : e.lines.map (·.taxAmountCents) =
      (po.lines.map (·.taxAmountCents)).map fun z : ℤ => .finite z := by
    rw [List.map_map]
    exact (stored.map (List.map_id e.lines).symm fun _ _ same => same.taxAmountCents.symm).symm
  obtain ⟨subtotal, tax, total⟩ := safe.sums lineTotals taxAmounts
  have subtotal' : po.subtotalCents = (po.lines.map (·.lineTotalCents)).sum := by
    exact_mod_cast JsNumber.finite.inj (stored.subtotalCents.symm.trans subtotal)
  have tax' : po.taxCents = (po.lines.map (·.taxAmountCents)).sum := by
    exact_mod_cast JsNumber.finite.inj (stored.taxCents.symm.trans tax)
  refine ⟨subtotal', tax', ?_⟩
  rw [subtotal', tax']
  exact_mod_cast JsNumber.finite.inj (stored.totalCents.symm.trans total)

/-! ## The four paths -/

/-- The calls that write amounts, with the number of the order or requisition still to be counted. -/
inductive Creation where
  | createRequisition (tenantId id : Uuid) (year : ℕ) (dto : CreatePurchaseRequisitionDto)
  | convertRequisitionToPo (tenantId id poId : Uuid) (year : ℕ) (dto : ConvertPurchaseRequisitionDto)
  | createPurchaseOrder (tenantId id : Uuid) (year : ℕ) (dto : CreatePurchaseOrderDto)
  | convertRfqToPo (tenantId rfqId poId : Uuid) (year : ℕ)

namespace Creation

def perform (db : Db) : Creation → Except Failure Db
  | createRequisition tenantId id year dto => Sourcing.createRequisition db tenantId id year dto
  | convertRequisitionToPo tenantId id poId year dto => Sourcing.convertRequisitionToPo db tenantId id poId year dto
  | createPurchaseOrder tenantId id year dto => Sourcing.createPurchaseOrder db tenantId id year dto
  | convertRfqToPo tenantId rfqId poId year => Sourcing.convertRfqToPo db tenantId rfqId poId year

def order (db : Db) : Creation → Except Failure (Option OrderEntity)
  | createRequisition .. => return none
  | convertRequisitionToPo tenantId id poId year dto => do
      let req ← convertibleRequisition db tenantId id
      return requisitionOrder req poId (nextPoNumber db tenantId year) dto
  | createPurchaseOrder tenantId id year dto => return directOrder tenantId id (nextPoNumber db tenantId year) dto
  | convertRfqToPo tenantId rfqId poId year => do
      let (rfq, quote) ← convertibleRfq db tenantId rfqId
      return rfqOrder rfq quote poId (nextPoNumber db tenantId year)

def written (db : Db) : Creation → List JsNumber
  | createRequisition _ _ _ dto =>
      dto.totalEstimateCents :: dto.lines.map fun l => .finite (l.estimatedUnitCostCents.getD 0)
  | c =>
      match c.order db with
      | .ok (some e) => e.written
      | _ => []

def products (db : Db) : Creation → List JsNumber
  | createRequisition _ _ _ dto =>
      [sumOf (dto.lines.map fun l => (JsNumber.finite (l.estimatedUnitCostCents.getD 0)).times l.quantity.number)]
  | convertRequisitionToPo tenantId id _ _ _ =>
      match convertibleRequisition db tenantId id with
      | .ok req => req.lines.map fun l =>
          (JsNumber.finite l.estimatedUnitCostCents).double.times (JsNumber.finite l.quantity.val).double
      | .error _ => []
  | createPurchaseOrder _ _ _ dto =>
      dto.lines.map fun l => (JsNumber.finite l.unitCostCents).times l.quantity.number
  | convertRfqToPo tenantId rfqId _ _ =>
      match convertibleRfq db tenantId rfqId with
      | .ok (rfq, quote) => rfq.lines.map quote.lineCents
      | .error _ => []

variable {db : Db} {c : Creation} {e : OrderEntity}

theorem order_ok (ok : c.order db = .ok (some e)) :
    e.lines.map (·.lineTotalCents) = c.products db ∧ ∀ l ∈ e.lines, ∃ n : JsNumber, l.taxAmountCents = n.round := by
  cases c with
  | createRequisition => simp [order] at ok
  | convertRequisitionToPo tenantId id poId year dto =>
      simp only [order, bind_eq_ok, pure_eq_ok, Option.some_inj] at ok
      obtain ⟨req, read, rfl⟩ := ok
      simp only [products, read, requisitionOrder, List.map_map, List.forall_mem_map]
      exact ⟨rfl, fun _ _ => ⟨_, rfl⟩⟩
  | createPurchaseOrder tenantId id year dto =>
      simp only [order, pure_eq_ok, Option.some_inj] at ok
      obtain rfl := ok
      simp only [products, directOrder, List.map_map, List.forall_mem_map]
      exact ⟨rfl, fun _ _ => ⟨_, rfl⟩⟩
  | convertRfqToPo tenantId rfqId poId year =>
      simp only [order, bind_eq_ok, pure_eq_ok, Option.some_inj] at ok
      obtain ⟨⟨rfq, quote⟩, read, rfl⟩ := ok
      simp only [products, read, rfqOrder, List.map_map, List.forall_mem_map]
      exact ⟨rfl, fun _ _ => ⟨_, rfl⟩⟩

theorem written_cases (db : Db) (c : Creation) :
    (∃ e, c.order db = .ok (some e) ∧ c.written db = e.written) ∨
      (∃ costs : List ℕ, c.written db = c.products db ++ costs.map fun n : ℕ => .finite n) ∨
      c.written db = [] ∧ c.products db = [] := by
  cases c with
  | createRequisition tenantId id year dto =>
      refine .inr (.inl ⟨dto.lines.map fun l => l.estimatedUnitCostCents.getD 0, ?_⟩)
      rw [List.map_map]
      rfl
  | convertRequisitionToPo tenantId id poId year dto =>
      cases read : convertibleRequisition db tenantId id with
      | error => exact .inr (.inr (by simp [written, products, order, read, bind, Except.bind]))
      | ok req => exact .inl ⟨_, by rw [order, read]; rfl, by simp only [written, order, read]; rfl⟩
  | createPurchaseOrder tenantId id year dto => exact .inl ⟨_, rfl, rfl⟩
  | convertRfqToPo tenantId rfqId poId year =>
      cases read : convertibleRfq db tenantId rfqId with
      | error => exact .inr (.inr (by simp [written, products, order, read, bind, Except.bind]))
      | ok found => exact .inl ⟨_, by rw [order, read]; rfl, by simp only [written, order, read]; rfl⟩

theorem perform_ok {db' : Db} (ok : c.perform db = .ok db') :
    db'.purchaseOrders = db.purchaseOrders ∨
      ∃ e po, c.order db = .ok (some e) ∧ e.Stored po ∧ db'.purchaseOrders = db.purchaseOrders.save po := by
  cases c with
  | createRequisition tenantId id year dto =>
      simp only [perform, Sourcing.createRequisition, bind_eq_ok, pure_eq_ok] at ok
      obtain ⟨_, -, _, -, _, -, _, -, rfl⟩ := ok
      exact .inl rfl
  | convertRequisitionToPo tenantId id poId year dto =>
      simp only [perform, Sourcing.convertRequisitionToPo, saveConvertedRequisition, bind_eq_ok, pure_eq_ok] at ok
      obtain ⟨req, read, _, saved, _, -, rfl⟩ := ok
      obtain ⟨po, stored, -, -, rfl⟩ := savePurchaseOrder_ok saved
      refine .inr ⟨_, po, ?_, stored, rfl⟩
      rw [order, read]
      rfl
  | createPurchaseOrder tenantId id year dto =>
      obtain ⟨po, stored, -, -, rfl⟩ := savePurchaseOrder_ok ok
      exact .inr ⟨_, po, rfl, stored, rfl⟩
  | convertRfqToPo tenantId rfqId poId year =>
      simp only [perform, Sourcing.convertRfqToPo, saveConvertedRfq, bind_eq_ok, pure_eq_ok] at ok
      obtain ⟨⟨rfq, quote⟩, read, _, saved, rfl⟩ := ok
      obtain ⟨po, stored, -, -, rfl⟩ := savePurchaseOrder_ok saved
      refine .inr ⟨_, po, ?_, stored, rfl⟩
      rw [order, read]
      rfl

structure Sound (db : Db) (c : Creation) : Prop where
  whole : ∀ n ∈ c.written db, n.isInteger = true
  headers : ∀ db', c.perform db = .ok db' → ∀ po ∈ db'.purchaseOrders.rows, po ∈ db.purchaseOrders.rows ∨ po.Adds

def Whole (db : Db) (c : Creation) : Prop := ∀ n ∈ c.products db, n.isInteger = true

instance (db : Db) (c : Creation) : Decidable (Whole db c) := inferInstanceAs (Decidable (∀ n ∈ _, _))

def Safe (db : Db) (c : Creation) : Prop := ∀ e, c.order db = .ok (some e) → e.Safe

theorem Whole.sound (whole : c.Whole db) (safe : c.Safe db) : Sound db c where
  whole := by
    rcases written_cases db c with ⟨e, ok, written⟩ | ⟨costs, written⟩ | ⟨written, -⟩
    · obtain ⟨products, rounded⟩ := order_ok ok
      rw [written]
      apply OrderEntity.written_whole (safe e ok) rounded
      rw [Whole, ← products, List.forall_mem_map] at whole
      exact whole
    · intro n mem
      rw [written, List.mem_append] at mem
      rcases mem with product | cost
      · exact whole n product
      · obtain ⟨k, -, rfl⟩ := List.mem_map.mp cost
        simp [JsNumber.isInteger]
    · simp [written]
  headers db' ok po mem := by
    rcases perform_ok ok with same | ⟨e, po', ordered, stored, saved⟩
    · exact .inl (same ▸ mem)
    · rw [saved, Table.mem_save] at mem
      rcases mem with rfl | ⟨old, -⟩
      · exact .inr (stored.adds (safe e ordered))
      · exact .inl old

theorem Sound.isWhole (sound : Sound db c) : c.Whole db := by
  intro n mem
  rcases written_cases db c with ⟨e, ok, written⟩ | ⟨costs, written⟩ | ⟨-, products⟩
  · apply sound.whole
    rw [← (order_ok ok).1, List.mem_map] at mem
    obtain ⟨l, mem, rfl⟩ := mem
    rw [written, OrderEntity.written, List.mem_append, List.mem_flatMap]
    exact .inl ⟨l, mem, by simp⟩
  · apply sound.whole
    rw [written]
    exact List.mem_append_left _ mem
  · simp [products] at mem

end Creation

/-- Amounts that are whole line by line give whole cents everywhere and a header that adds up, as long as
they are safe; and only such amounts give whole cents. -/
theorem cents_sound (db : Db) (c : Creation) :
    (c.Whole db → c.Safe db → Creation.Sound db c) ∧ (Creation.Sound db c → c.Whole db) :=
  ⟨Creation.Whole.sound, Creation.Sound.isWhole⟩

/-! ## A metre and a half of hose -/

namespace Hose

def order (quantity : String) (numeric : (numericString quantity).isSome) (unitCostCents : ℕ) : Creation :=
  .createPurchaseOrder 1 9 2026
    ⟨3, none, none, [⟨7, ⟨quantity, numeric⟩, unitCostCents, some 10, by decide⟩], by simp⟩

def noOrders : Db := ⟨∅, ∅, ∅, ∅⟩

end Hose

open Hose in
theorem cents_sound_hose : Creation.Sound noOrders (order "1.5" (by decide) 334) := by
  refine (cents_sound noOrders _).1 (by decide +kernel) ?_
  intro e ok
  obtain rfl := Option.some_inj.mp (Except.ok.inj ok)
  decide +kernel

open Hose in
/-- Half a cent, and a fraction that only double precision adds to 110 times 1.1. -/
theorem cents_fractional :
    (order "1.5" (by decide) 333).written noOrders = [.finite 333, .finite (999/2), .finite 50, .finite (999/2), .finite 50,
        .finite (1099/2)] ∧
      failureOf ((order "1.5" (by decide) 333).perform noOrders) =
        some (.database "invalid input syntax for type bigint") ∧
      .finite (8514618045497345/70368744177664) ∈ (order "1.1" (by decide) 110).written noOrders := by
  decide +kernel

end SmartErp.Procurement.Sourcing
