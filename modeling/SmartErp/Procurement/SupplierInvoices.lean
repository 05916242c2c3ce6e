import SmartErp.Procurement.ThreeWayMatch
import SmartErp.Foundations.Table

/-!
# Supplier invoices

`procurement.service.ts`. The driver returns `bigint` and `numeric` columns as texts and `int` columns as
numbers, so what `runMatch` reads is not what `createSupplierInvoice` was given.
-/

namespace SmartErp.Procurement
open Foundations

inductive SupplierInvoiceStatus where
  | received
  | matched
  | approved
  | disputed
  | rejected
  | paid
  | cancelled
  deriving DecidableEq

def SupplierInvoiceStatus.text : SupplierInvoiceStatus → String
  | received => "received"
  | matched => "matched"
  | approved => "approved"
  | disputed => "disputed"
  | rejected => "rejected"
  | paid => "paid"
  | cancelled => "cancelled"

structure SupplierInvoiceLineInputDto where
  quantity : String
  unitCostCents : ℕ
  lineTotalCents : ℕ
  taxRate : Option ℕ := none
  taxAmountCents : Option ℕ := none
  poLineId : Option Uuid := none
  isNumberString : (numericString quantity).isSome
  taxRate_range : ∀ r ∈ taxRate, r ≤ 99

structure CreateSupplierInvoiceDto where
  supplierId : Uuid
  supplierInvoiceNumber : String
  subtotalCents : ℕ
  taxCents : ℕ
  totalCents : ℕ
  poIds : Option (List Uuid) := none
  lines : List SupplierInvoiceLineInputDto
  arrayMinSize : lines ≠ []

/-- Each field may be absent; a field that is there is a whole number up to 100. -/
structure RunMatchDto where
  quantityPct : Option (Fin 101) := none
  pricePct : Option (Fin 101) := none
  totalPct : Option (Fin 101) := none

structure PurchaseOrderLine where
  id : Uuid
  tenantId : Uuid
  purchaseOrderId : Uuid
  productId : Uuid
  quantity : Numeric 14 4
  unitCostCents : ℤ
  taxRate : ℤ
  deriving DecidableEq

structure GoodsReceiptLine where
  id : Uuid
  tenantId : Uuid
  poLineId : Uuid
  acceptedQuantity : Numeric 14 4
  deriving DecidableEq

structure SupplierInvoiceLine where
  id : Uuid
  tenantId : Uuid
  supplierInvoiceId : Uuid
  quantity : Numeric 14 4
  unitCostCents : ℤ
  lineTotalCents : ℤ
  taxRate : ℤ
  taxAmountCents : ℤ
  poLineId : Option Uuid
  deriving DecidableEq

structure SupplierInvoice where
  id : Uuid
  tenantId : Uuid
  supplierId : Uuid
  supplierInvoiceNumber : String
  subtotalCents : ℤ
  taxCents : ℤ
  totalCents : ℤ
  status : SupplierInvoiceStatus
  poIds : List Uuid
  discrepancies : Option (List SupplierInvoiceDiscrepancy)
  matchedAt : Option ℕ
  deriving DecidableEq

structure Db where
  purchaseOrderLines : Table PurchaseOrderLine.id
  goodsReceiptLines : Table GoodsReceiptLine.id
  supplierInvoices : Table SupplierInvoice.id
  supplierInvoiceLines : Table SupplierInvoiceLine.id
  fk_sil_si : ∀ l ∈ supplierInvoiceLines.rows, (supplierInvoices.find? l.supplierInvoiceId).isSome
  deriving DecidableEq

def Db.saveInvoice (db : Db) (si : SupplierInvoice) : Db where
  purchaseOrderLines := db.purchaseOrderLines
  goodsReceiptLines := db.goodsReceiptLines
  supplierInvoices := db.supplierInvoices.save si
  supplierInvoiceLines := db.supplierInvoiceLines
  fk_sil_si l mem := by
    rw [Table.find?_save]
    split
    · rfl
    · exact db.fk_sil_si l mem

/-! ## Creation -/

def SupplierInvoiceLineInputDto.computedTax (l : SupplierInvoiceLineInputDto) : JsNumber :=
  (((JsNumber.finite l.lineTotalCents).times (.finite (l.taxRate.getD 22))).dividedBy (.finite 100)).round

def lineEntity (tenantId supplierInvoiceId id : Uuid) (l : SupplierInvoiceLineInputDto) :
    Except Failure SupplierInvoiceLine := do
  let value ← require (numericString l.quantity) (.database "invalid input syntax for type numeric")
  let quantity ← column 14 4 value
  let unitCostCents ← bigintParam (.finite l.unitCostCents)
  let lineTotalCents ← bigintParam (.finite l.lineTotalCents)
  let taxAmountCents ← bigintParam (l.taxAmountCents.elim l.computedTax fun n => .finite n)
  return {
    id, tenantId, supplierInvoiceId, quantity, unitCostCents, lineTotalCents, taxAmountCents
    taxRate := l.taxRate.getD 22
    poLineId := l.poLineId }

def insertLine (db : Db) (l : SupplierInvoiceLine) : Except Failure Db :=
  if db.supplierInvoiceLines.find? l.id ≠ none then
    .error (.database "supplier_invoice_lines_pkey")
  else if exists' : (db.supplierInvoices.find? l.supplierInvoiceId).isSome then
    .ok { db with
      supplierInvoiceLines := db.supplierInvoiceLines.save l
      fk_sil_si := fun l' mem => (Table.mem_save.mp mem).elim
        (fun same => same ▸ exists') fun old => db.fk_sil_si l' old.1 }
  else .error (.database "fk_sil_si")

def createSupplierInvoice (db : Db) (tenantId id : Uuid) (lineIds : ℕ → Uuid)
    (dto : CreateSupplierInvoiceDto) : Except Failure Db := do
  let sum := (JsNumber.finite dto.subtotalCents).plus (.finite dto.taxCents)
  ensure (sum = .finite dto.totalCents)
    (.badRequest s!"subtotal+tax ({numberText sum}) != total ({showNumber dto.totalCents})")
  ensure (∀ si ∈ db.supplierInvoices.rows, ¬ (si.tenantId = tenantId ∧
      si.supplierId = dto.supplierId ∧ si.supplierInvoiceNumber = dto.supplierInvoiceNumber)) (.conflict
    s!"Supplier invoice {dto.supplierInvoiceNumber} from supplier {dto.supplierId} already exists")
  let subtotalCents ← bigintParam (.finite dto.subtotalCents)
  let taxCents ← bigintParam (.finite dto.taxCents)
  let totalCents ← bigintParam (.finite dto.totalCents)
  ensure (db.supplierInvoices.find? id = none) (.database "supplier_invoices_pkey")
  let si : SupplierInvoice := {
    id, tenantId, subtotalCents, taxCents, totalCents
    supplierId := dto.supplierId
    supplierInvoiceNumber := dto.supplierInvoiceNumber
    status := .received
    poIds := dto.poIds.getD []
    discrepancies := none
    matchedAt := none }
  let lineEntities ← dto.lines.zipIdx.mapM fun (l, i) => lineEntity tenantId id (lineIds i) l
  lineEntities.foldlM insertLine (db.saveInvoice si)

/-! ## Matching -/

def getSupplierInvoice (db : Db) (tenantId id : Uuid) : Except Failure SupplierInvoice :=
  require ((db.supplierInvoices.find? id).filter (·.tenantId = tenantId))
    (.notFound s!"Supplier invoice {id} not found")

def Db.linesOf (db : Db) (supplierInvoiceId : Uuid) : List SupplierInvoiceLine :=
  db.supplierInvoiceLines.rows.filter (·.supplierInvoiceId = supplierInvoiceId)

def bigintText (n : ℤ) : JsValue := .string (intText n)

def PurchaseOrderLine.snapshot (pol : PurchaseOrderLine) : PoLineSnapshot :=
  ⟨pol.id, pol.productId, pol.quantity.text, bigintText pol.unitCostCents, num pol.taxRate⟩

def GoodsReceiptLine.snapshot (grl : GoodsReceiptLine) : GrLineSnapshot :=
  ⟨grl.poLineId, grl.acceptedQuantity.text⟩

def SupplierInvoiceLine.snapshot (l : SupplierInvoiceLine) : SiLineSnapshot :=
  ⟨l.id, l.poLineId, l.quantity.text, bigintText l.unitCostCents, num l.taxRate,
    bigintText l.lineTotalCents⟩

/-- A field of the request, `undefined` when it is absent. -/
def pctValue (pct : Option (Fin 101)) : JsValue := pct.elim .undefined (fun p => num p)

/-- Every field is present, and may be `undefined`. -/
def RunMatchDto.tolerances (dto : RunMatchDto) : MatchTolerances where
  quantityPct := some (pctValue dto.quantityPct)
  pricePct := some (pctValue dto.pricePct)
  totalPct := some (pctValue dto.totalPct)

def poLineIdsOf (lines : List SupplierInvoiceLine) : List Uuid := (lines.filterMap (·.poLineId)).dedup

def poLinesOf (db : Db) (tenantId : Uuid) (poLineIds : List Uuid) : List PurchaseOrderLine :=
  db.purchaseOrderLines.rows.filter fun pol => pol.tenantId = tenantId ∧ pol.id ∈ poLineIds

def grLinesOf (db : Db) (tenantId : Uuid) (poLineIds : List Uuid) : List GoodsReceiptLine :=
  db.goodsReceiptLines.rows.filter fun grl => grl.tenantId = tenantId ∧ grl.poLineId ∈ poLineIds

def storedInput (db : Db) (tenantId : Uuid) (si : SupplierInvoice) (dto : RunMatchDto) :
    ThreeWayMatchInput where
  poLines := (poLinesOf db tenantId (poLineIdsOf (db.linesOf si.id))).map (·.snapshot)
  grLines := (grLinesOf db tenantId (poLineIdsOf (db.linesOf si.id))).map (·.snapshot)
  siLines := (db.linesOf si.id).map (·.snapshot)
  siTotalCents := bigintText si.totalCents
  tolerances := some dto.tolerances

def SupplierInvoice.concluded (si : SupplierInvoice) (result : ThreeWayMatchResult)
    (poLines : List PurchaseOrderLine) (now : ℕ) : SupplierInvoice where
  id := si.id
  tenantId := si.tenantId
  supplierId := si.supplierId
  supplierInvoiceNumber := si.supplierInvoiceNumber
  subtotalCents := si.subtotalCents
  taxCents := si.taxCents
  totalCents := si.totalCents
  discrepancies := if result.discrepancies.isEmpty then none else some result.discrepancies
  status := if result.matched then .matched else .disputed
  matchedAt := if result.matched then some now else si.matchedAt
  poIds := if poLines.isEmpty then si.poIds else (poLines.map (·.purchaseOrderId)).dedup

def runMatch (db : Db) (tenantId siId : Uuid) (dto : RunMatchDto) (now : ℕ) : Except Failure Db := do
  let si ← getSupplierInvoice db tenantId siId
  ensure (si.status = .received) (.badRequest
    s!"Cannot run match on SI in status {si.status.text}; must be 'received'")
  let poLines := poLinesOf db tenantId (poLineIdsOf (db.linesOf si.id))
  let result := runThreeWayMatch (storedInput db tenantId si dto)
  return db.saveInvoice (si.concluded result poLines now)

/-! ## What a created invoice holds -/

structure SupplierInvoiceLine.Stored (l : SupplierInvoiceLine) : Prop where
  unitCostCents : 0 ≤ l.unitCostCents ∧ l.unitCostCents < 2 ^ 63
  lineTotalCents : 0 ≤ l.lineTotalCents ∧ l.lineTotalCents < 2 ^ 63
  taxRate : 0 ≤ l.taxRate

theorem lineEntity_ok {tenantId supplierInvoiceId id : Uuid} {dto : SupplierInvoiceLineInputDto}
    {l : SupplierInvoiceLine} (ok : lineEntity tenantId supplierInvoiceId id dto = .ok l) :
    l.Stored ∧ l.supplierInvoiceId = supplierInvoiceId := by
  simp only [lineEntity, bind_eq_ok, require_eq_ok, column_eq_ok, bigintParam_natCast, pure_eq_ok] at ok
  obtain ⟨_, _, _, _, _, ⟨cost, rfl⟩, _, ⟨total, rfl⟩, _, _, rfl⟩ := ok
  have nonneg (n : ℕ) : 0 ≤ JsNumber.shortest n := JsNumber.shortest_nonneg n.cast_nonneg
  exact ⟨⟨⟨nonneg _, cost⟩, ⟨nonneg _, total⟩, by positivity⟩, rfl⟩

theorem insertLine_ok {db db' : Db} {l : SupplierInvoiceLine} (ok : insertLine db l = .ok db') :
    db'.supplierInvoices = db.supplierInvoices ∧
      db'.supplierInvoiceLines = db.supplierInvoiceLines.save l := by
  unfold insertLine at ok
  split_ifs at ok
  cases ok
  exact ⟨rfl, rfl⟩

structure Created (db : Db) (tenantId id : Uuid) (si : SupplierInvoice) : Prop where
  found : db.supplierInvoices.find? id = some si
  tenant : si.tenantId = tenantId
  received : si.status = .received
  totalCents : 0 ≤ si.totalCents ∧ si.totalCents < 2 ^ 63
  lines : ∀ l ∈ db.linesOf id, l.Stored
  nonempty : db.linesOf id ≠ []

theorem Created.runMatch {db : Db} {tenantId id : Uuid} {si : SupplierInvoice}
    (created : Created db tenantId id si) (dto : RunMatchDto) (now : ℕ) :
    runMatch db tenantId id dto now = .ok (db.saveInvoice (si.concluded
      (runThreeWayMatch (storedInput db tenantId si dto))
      (poLinesOf db tenantId (poLineIdsOf (db.linesOf si.id))) now)) := by
  simp only [Procurement.runMatch, bind_eq_ok, pure_eq_ok, ensure_eq_ok, getSupplierInvoice,
    require_eq_ok]
  refine ⟨si, ?_, (), created.received, rfl⟩
  rw [created.found, Option.filter_some, created.tenant]
  simp

theorem insertLines_ok {entities : List SupplierInvoiceLine} {db db' : Db} {id : Uuid}
    (ok : entities.foldlM insertLine db = .ok db')
    (own : ∀ l ∈ entities, l.Stored ∧ l.supplierInvoiceId = id)
    (stored : ∀ l ∈ db.linesOf id, l.Stored) :
    db'.supplierInvoices = db.supplierInvoices ∧ (∀ l ∈ db'.linesOf id, l.Stored) ∧
      (entities ≠ [] → db'.linesOf id ≠ []) := by
  induction entities generalizing db with
  | nil => exact foldlM_nil_ok.mp ok ▸ ⟨rfl, stored, fun absent => absurd rfl absent⟩
  | cons l entities ih =>
      obtain ⟨db₁, inserted, rest⟩ := foldlM_cons_ok.mp ok
      obtain ⟨headers, lines⟩ := insertLine_ok inserted
      rw [List.forall_mem_cons] at own
      have mem_lines : ∀ l', l' ∈ db₁.linesOf id ↔
          (l' = l ∨ l' ∈ db.supplierInvoiceLines.rows ∧ l'.id ≠ l.id) ∧ l'.supplierInvoiceId = id := by
        intro l'
        rw [Db.linesOf, lines, List.mem_filter, Table.mem_save, decide_eq_true_iff]
      have step : ∀ l' ∈ db₁.linesOf id, l'.Stored := by
        intro l' listed
        obtain ⟨rfl | old, invoice⟩ := (mem_lines l').mp listed
        · exact own.1.1
        · exact stored l' (List.mem_filter.mpr ⟨old.1, decide_eq_true invoice⟩)
      obtain ⟨headers', lines', more⟩ := ih rest own.2 step
      refine ⟨headers'.trans headers, lines', fun _ => ?_⟩
      by_cases last : entities = []
      · subst last
        obtain rfl := foldlM_nil_ok.mp rest
        exact List.ne_nil_of_mem ((mem_lines l).mpr ⟨.inl rfl, own.1.2⟩)
      · exact more last

theorem createSupplierInvoice_ok {db db' : Db} {tenantId id : Uuid} {lineIds : ℕ → Uuid}
    {dto : CreateSupplierInvoiceDto}
    (ok : createSupplierInvoice db tenantId id lineIds dto = .ok db') :
    ∃ si, Created db' tenantId id si := by
  simp only [createSupplierInvoice, bind_eq_ok, ensure_eq_ok, bigintParam_natCast] at ok
  obtain ⟨_, _, _, _, subtotal, ⟨_, rfl⟩, tax, ⟨_, rfl⟩, total, ⟨small, rfl⟩, _, fresh, entities, mapped,
    inserted⟩ := ok
  obtain ⟨length, each⟩ := mapM_ok mapped
  have own : ∀ l ∈ entities, l.Stored ∧ l.supplierInvoiceId = id := by
    intro l mem
    obtain ⟨_, -, entity⟩ := each l mem
    exact lineEntity_ok entity
  have some' : entities ≠ [] := by
    intro empty
    rw [empty, List.length_zipIdx] at length
    exact dto.arrayMinSize (List.length_eq_zero_iff.mp length.symm)
  -- No line refers to an invoice that is not there yet.
  have before : db.linesOf id = [] := by
    rw [Db.linesOf, List.filter_eq_nil_iff]
    intro l mem invoice
    have := db.fk_sil_si l mem
    rw [of_decide_eq_true invoice, fresh] at this
    cases this
  obtain ⟨headers, lines, nonempty⟩ := insertLines_ok inserted own
    (show ∀ l ∈ db.linesOf id, l.Stored by simp [before])
  obtain ⟨si, found, tenant, received, total⟩ : ∃ si, db'.supplierInvoices.find? id = some si ∧
      si.tenantId = tenantId ∧ si.status = .received ∧ si.totalCents = JsNumber.shortest dto.totalCents := by
    rw [headers]
    exact ⟨_, Table.find?_save_self db.supplierInvoices _, rfl, rfl, rfl⟩
  have nonneg : 0 ≤ JsNumber.shortest dto.totalCents := JsNumber.shortest_nonneg dto.totalCents.cast_nonneg
  exact ⟨si, found, tenant, received, total ▸ ⟨nonneg, small⟩, lines, nonempty some'⟩

end SmartErp.Procurement
