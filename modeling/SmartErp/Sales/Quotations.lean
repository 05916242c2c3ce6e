import SmartErp.Foundations.Interleaving
import SmartErp.Sales.Orders
import SmartErp.Foundations.Trim
import Mathlib.Data.Fin.VecNotation

/-!
# Quotations

The quotation part of `sales-depth.service.ts`. A conversion reads the quotation and checks its status, then
counts the orders of the tenant, and writes the order and the quotation in one transaction; a transition reads
the quotation and writes back all of it. No step locks the row.
-/

namespace SmartErp.Sales.Quotations
open Foundations

inductive QuotationStatus where
  | draft
  | sent
  | revised
  | accepted
  | rejected
  | expired
  | converted
  deriving DecidableEq

def QuotationStatus.text : QuotationStatus → String
  | draft => "draft"
  | sent => "sent"
  | revised => "revised"
  | accepted => "accepted"
  | rejected => "rejected"
  | expired => "expired"
  | converted => "converted"

structure QuotationLine where
  productId : Option Uuid
  quantity : Numeric 14 4
  unitPriceCents : ℤ
  discountPct : Numeric 5 2
  taxRate : ℕ
  lineTotalCents : ℤ
  deriving DecidableEq

structure Quotation where
  id : Uuid
  tenantId : Uuid
  customerId : Uuid
  status : QuotationStatus
  subtotalCents : ℤ
  taxCents : ℤ
  totalCents : ℤ
  notes : Option String := none
  sentAt : Option ℕ := none
  acceptedAt : Option ℕ := none
  rejectedAt : Option ℕ := none
  rejectionReason : Option String := none
  convertedToSalesOrderId : Option Uuid := none
  lines : List QuotationLine
  deriving DecidableEq

structure Db where
  customers : Table Customer.id
  quotations : Table Quotation.id
  salesOrders : Table SalesOrder.id

/-! ## The status machine -/

def transitions : QuotationStatus → List QuotationStatus
  | .draft => [.sent, .expired]
  | .sent => [.revised, .accepted, .rejected, .expired]
  | .revised => [.sent, .expired]
  | .accepted => [.converted, .expired]
  | .converted => []
  | .rejected => []
  | .expired => []

def canQuotationTransition (source target : QuotationStatus) : Bool := target ∈ transitions source

/-- The calls of `transitionQuotation`, with what they set. -/
inductive Transition where
  | sendQuotation (now : ℕ)
  | reviseQuotation (note : Option String)
  | acceptQuotation (now : ℕ)
  | rejectQuotation (now : ℕ) (reason : String)
  | expireQuotation
  deriving DecidableEq

namespace Transition

def next : Transition → QuotationStatus
  | sendQuotation _ => .sent
  | reviseQuotation _ => .revised
  | acceptQuotation _ => .accepted
  | rejectQuotation _ _ => .rejected
  | expireQuotation => .expired

def revision (notes : Option String) (note : String) : String :=
  String.ofList (trim (notes.getD "" ++ "\n[REVISION] " ++ note).toList)

def mutator (q : Quotation) : Transition → Quotation
  | sendQuotation now => { q with sentAt := some now }
  | reviseQuotation none | reviseQuotation (some "") => q
  | reviseQuotation (some note) => { q with notes := some (revision q.notes note) }
  | acceptQuotation now => { q with acceptedAt := some now }
  | rejectQuotation now reason => { q with rejectedAt := some now, rejectionReason := some reason }
  | expireQuotation => q

end Transition

/-! ## Operations -/

def getQuotation (db : Db) (tenantId id : Uuid) : Except Failure Quotation :=
  require ((db.quotations.find? id).filter (·.tenantId = tenantId)) (.notFound s!"Quotation {id} not found")

def readTransition (db : Db) (tenantId id : Uuid) (next : QuotationStatus) : Except Failure Quotation := do
  let q ← getQuotation db tenantId id
  ensure (canQuotationTransition q.status next)
    (.badRequest s!"Invalid Quotation transition: {q.status.text} → {next.text}")
  ensure (next = .converted → q.convertedToSalesOrderId.isSome)
    (.conflict "Quotation can transition to converted only via convertToSalesOrder()")
  return q

def saveTransition (db : Db) (q : Quotation) (t : Transition) : Db :=
  { db with quotations := db.quotations.save (t.mutator { q with status := t.next }) }

def transitionQuotation (db : Db) (tenantId id : Uuid) (t : Transition) : Except Failure Db := do
  let q ← readTransition db tenantId id t.next
  return saveTransition db q t

/-- An order that is there already, or the quotation to convert. -/
def readConversion (db : Db) (tenantId quotationId : Uuid) : Except Failure (SalesOrder ⊕ Quotation) := do
  let q ← getQuotation db tenantId quotationId
  ensure (q.status = .accepted)
    (.badRequest s!"Cannot convert a Quotation in status {q.status.text}; must be 'accepted'")
  match q.convertedToSalesOrderId with
  | none => return .inr q
  | some orderId =>
      let existing ← require ((db.salesOrders.find? orderId).filter (·.tenantId = tenantId)) (.conflict
        s!"Quotation {quotationId} marked converted to {orderId} but SalesOrder is missing")
      return .inl existing

def nextSalesOrderNumber (db : Db) (tenantId : Uuid) (year : ℕ) : String :=
  let count := db.salesOrders.rows.countP (·.tenantId = tenantId)
  s!"SO-{year}-{padStart (toString (count + 1)) 5}"

def QuotationLine.orderLine (l : QuotationLine) : SalesOrderLine where
  productId := l.productId
  quantity := l.quantity.val
  unitPrice := l.unitPriceCents / 100
  discountPct := some l.discountPct.val
  ivaRate := l.taxRate
  warehouseId := none
  lineTotal := l.lineTotalCents / 100

def saveOrder (db : Db) (tenantId : Uuid) (q : Quotation) (orderId : Uuid) (orderNumber : String) :
    Except Failure SalesOrder := do
  let subtotalAmount ← column 12 2 (q.subtotalCents / 100)
  let taxAmount ← column 12 2 (q.taxCents / 100)
  let totalAmount ← column 12 2 (q.totalCents / 100)
  ensure (db.salesOrders.find? orderId = none) (.database "sales_orders_pkey")
  ensure (∀ o ∈ db.salesOrders.rows, o.tenantId = tenantId → o.orderNumber ≠ orderNumber)
    (.database "ux_so_tenant_number")
  ensure ((db.customers.find? q.customerId).isSome) (.database "fk_so_customer")
  return {
    tenantId, orderNumber, subtotalAmount, taxAmount, totalAmount
    id := orderId
    customerId := q.customerId
    status := .draft
    lines := q.lines.map (·.orderLine) }

def saveConversion (db : Db) (tenantId : Uuid) (q : Quotation) (orderId : Uuid) (orderNumber : String) :
    Except Failure (Db × SalesOrder) := do
  let order ← saveOrder db tenantId q orderId orderNumber
  let q := { q with convertedToSalesOrderId := some order.id, status := .converted }
  return ({ db with quotations := db.quotations.save q, salesOrders := db.salesOrders.save order }, order)

def convertQuotationToSalesOrder (db : Db) (tenantId quotationId orderId : Uuid) (year : ℕ) :
    Except Failure (Db × SalesOrder) := do
  match ← readConversion db tenantId quotationId with
  | .inl existing => return (db, existing)
  | .inr q => saveConversion db tenantId q orderId (nextSalesOrderNumber db tenantId year)

/-! ## Calls -/

inductive Call where
  | conversion (tenantId quotationId orderId : Uuid)
  | convertible (tenantId : Uuid) (q : Quotation) (orderId : Uuid)
  | numbered (tenantId : Uuid) (q : Quotation) (orderId : Uuid) (orderNumber : String)
  | converted (order : SalesOrder)
  | transition (tenantId id : Uuid) (t : Transition)
  | transitioning (q : Quotation) (t : Transition)
  | transitioned
  | failed (failure : Failure)
  deriving DecidableEq

inductive Step where
  | read
  | number (year : ℕ)
  | write
  deriving DecidableEq

structure Ledger where
  db : Db
  origins : List (Uuid × Uuid)

def act : Step → Ledger → Call → Option (Ledger × Call)
  | .read, l, .conversion tenantId quotationId orderId =>
      match readConversion l.db tenantId quotationId with
      | .ok (.inl existing) => some (l, .converted existing)
      | .ok (.inr q) => some (l, .convertible tenantId q orderId)
      | .error failure => some (l, .failed failure)
  | .read, l, .transition tenantId id t =>
      match readTransition l.db tenantId id t.next with
      | .ok q => some (l, .transitioning q t)
      | .error failure => some (l, .failed failure)
  | .number year, l, .convertible tenantId q orderId =>
      some (l, .numbered tenantId q orderId (nextSalesOrderNumber l.db tenantId year))
  | .write, l, .numbered tenantId q orderId orderNumber =>
      match saveConversion l.db tenantId q orderId orderNumber with
      | .ok (db, order) => some (⟨db, l.origins ++ [(q.id, order.id)]⟩, .converted order)
      | .error failure => some (l, .failed failure)
  | .write, l, .transitioning q t => some ({ l with db := saveTransition l.db q t }, .transitioned)
  | _, _, _ => none

/-! ## The order of a conversion -/

section
variable {db db' : Db} {tenantId id orderId : Uuid} {q : Quotation} {orderNumber : String} {order : SalesOrder}

theorem getQuotation_ok :
    getQuotation db tenantId id = .ok q ↔
      db.quotations.find? q.id = some q ∧ q.id = id ∧ q.tenantId = tenantId := by
  simp only [getQuotation, require_eq_ok, Option.filter_eq_some_iff, decide_eq_true_eq]
  constructor
  · rintro ⟨found, tenant⟩
    have here : q.id = id := Table.key_of_find? found
    exact ⟨here ▸ found, here, tenant⟩
  · rintro ⟨found, rfl, tenant⟩
    exact ⟨found, tenant⟩

/-- A line for each line of the quotation, with its quantity and price, and the totals. -/
structure Carries (order : SalesOrder) (q : Quotation) : Prop where
  lines : order.lines.map (fun l => (l.quantity, l.unitPrice)) =
    q.lines.map fun l => (l.quantity.val, (l.unitPriceCents / 100 : ℚ))
  subtotal : order.subtotalAmount.val = q.subtotalCents / 100
  tax : order.taxAmount.val = q.taxCents / 100
  total : order.totalAmount.val = q.totalCents / 100

theorem column_cents {p : ℕ} {cents : ℤ} {x : Numeric p 2} (ok : column p 2 (cents / 100) = .ok x) :
    x.val = cents / 100 := by
  rw [Numeric.ofRat_val (column_eq_ok.mp ok)]
  apply toScale_of_exact
  rw [exact_iff]
  exact ⟨cents, by norm_num⟩

theorem saveOrder_ok (ok : saveOrder db tenantId q orderId orderNumber = .ok order) :
    Carries order q ∧ order.id = orderId ∧ db.salesOrders.find? order.id = none ∧
      ∀ o ∈ db.salesOrders.rows, o.tenantId = tenantId → o.orderNumber ≠ orderNumber := by
  simp only [saveOrder, bind_eq_ok, ensure_eq_ok, pure_eq_ok] at ok
  obtain ⟨_, subtotal, _, tax, _, total, _, fresh, _, free, _, -, rfl⟩ := ok
  refine ⟨?_, rfl, fresh, free⟩
  constructor
  · simp only [List.map_map]
    rfl
  · exact column_cents subtotal
  · exact column_cents tax
  · exact column_cents total

theorem saveConversion_ok (ok : saveConversion db tenantId q orderId orderNumber = .ok (db', order)) :
    saveOrder db tenantId q orderId orderNumber = .ok order ∧
      db'.quotations = db.quotations.save
        { q with convertedToSalesOrderId := some order.id, status := .converted } ∧
      db'.salesOrders = db.salesOrders.save order := by
  simp only [saveConversion, bind_eq_ok, pure_eq_ok] at ok
  obtain ⟨order', saved, eq⟩ := ok
  cases eq
  exact ⟨saved, rfl, rfl⟩

@[simp] theorem mutator_id (q : Quotation) (t : Transition) : (t.mutator q).id = q.id := by
  cases t with
  | reviseQuotation note =>
      unfold Transition.mutator
      split <;> rfl
  | _ => rfl

theorem convertQuotationToSalesOrder_refused (found : db.quotations.find? id = some q)
    (status : q.status ≠ .accepted) (orderId : Uuid) (year : ℕ) :
    convertQuotationToSalesOrder db q.tenantId id orderId year =
      .error (.badRequest s!"Cannot convert a Quotation in status {q.status.text}; must be 'accepted'") := by
  have got : getQuotation db q.tenantId id = .ok q :=
    getQuotation_ok.mpr ⟨by rw [Table.key_of_find? found, found], Table.key_of_find? found, rfl⟩
  have read : readConversion db q.tenantId id = .error (.badRequest
      s!"Cannot convert a Quotation in status {q.status.text}; must be 'accepted'") := by
    rw [readConversion, got]
    simp only [bind, Except.bind, ensure, if_neg status]
  rw [convertQuotationToSalesOrder, read]
  rfl

end

/-! ## Runs -/

def Db.isConverted (db : Db) (quotationId : Uuid) : Bool :=
  (db.quotations.find? quotationId).any (·.status = .converted)

structure Traced (l : Ledger) : Prop where
  once : (l.origins.map Prod.fst).Nodup
  closed : ∀ p ∈ l.origins, ∃ q order, l.db.quotations.find? p.1 = some q ∧ q.status = .converted ∧
    q.convertedToSalesOrderId = some p.2 ∧ l.db.salesOrders.find? p.2 = some order ∧ Carries order q

namespace Traced
variable {l : Ledger} {q : Quotation}

theorem isConverted (traced : Traced l) {quotationId : Uuid} (mem : quotationId ∈ l.origins.map Prod.fst) :
    l.db.isConverted quotationId = true := by
  obtain ⟨p, origin, rfl⟩ := List.mem_map.mp mem
  obtain ⟨q, order, found, converted, -⟩ := traced.closed p origin
  simp [Db.isConverted, found, converted]

theorem unused (traced : Traced l) (unconverted : l.db.isConverted q.id = false) :
    q.id ∉ l.origins.map Prod.fst := by
  intro mem
  have converted := traced.isConverted mem
  rw [unconverted] at converted
  cases converted

theorem transition (traced : Traced l) (t : Transition) (unconverted : l.db.isConverted q.id = false) :
    Traced { l with db := saveTransition l.db q t } := by
  constructor
  · exact traced.once
  · intro p mem
    obtain ⟨q', order, found, rest⟩ := traced.closed p mem
    have other : q.id ≠ p.1 := by
      intro same
      exact traced.unused unconverted (same ▸ List.mem_map_of_mem mem)
    refine ⟨q', order, ?_, rest⟩
    simpa [saveTransition] using (Table.find?_save_of_ne l.db.quotations (by simpa using other)).trans found

theorem conversion (traced : Traced l) {tenantId orderId : Uuid} {orderNumber : String} {db : Db}
    {order : SalesOrder} (unconverted : l.db.isConverted q.id = false)
    (ok : saveConversion l.db tenantId q orderId orderNumber = .ok (db, order)) :
    Traced ⟨db, l.origins ++ [(q.id, order.id)]⟩ := by
  obtain ⟨saved, quotations, orders⟩ := saveConversion_ok ok
  obtain ⟨carries, rfl, fresh, -⟩ := saveOrder_ok saved
  have unused := traced.unused unconverted
  constructor
  · rw [List.map_append, List.map_singleton]
    exact traced.once.append (List.nodup_singleton _) (by simpa using unused)
  · intro p mem
    rw [quotations, orders]
    rw [List.mem_append, List.mem_singleton] at mem
    rcases mem with old | rfl
    · obtain ⟨q', order', found, converted, origin, kept, carries⟩ := traced.closed p old
      have other : q.id ≠ p.1 := by
        intro same
        exact unused (same ▸ List.mem_map_of_mem old)
      have others : order.id ≠ p.2 := by
        intro same
        rw [same, kept] at fresh
        cases fresh
      refine ⟨q', order', ?_, converted, origin, (Table.find?_save_of_ne _ others).trans kept, carries⟩
      rw [Table.find?_save, if_neg other, found]
    · refine ⟨_, order, Table.find?_save_self _ _, rfl, rfl, Table.find?_save_self _ _, ?_⟩
      exact ⟨carries.lines, carries.subtotal, carries.tax, carries.total⟩

end Traced

section
variable {κ : Type} [DecidableEq κ] {s t : Pool κ Ledger Call} {moves : List (κ × Step)}

/-- No call saves a quotation that is converted by then, unless the number of its order is taken. -/
def Careful (s : Pool κ Ledger Call) (move : κ × Step) : Prop :=
  match move.2, s.calls move.1 with
  | .write, .numbered tenantId q _ orderNumber => s.shared.db.isConverted q.id = false ∨
      ∃ o ∈ s.shared.db.salesOrders.rows, o.tenantId = tenantId ∧ o.orderNumber = orderNumber
  | .write, .transitioning q _ => s.shared.db.isConverted q.id = false
  | _, _ => True

instance (s : Pool κ Ledger Call) (move : κ × Step) : Decidable (Careful s move) := by
  unfold Careful
  split <;> infer_instance

theorem next_traced (traced : Traced s.shared) {move : κ × Step} (careful : Careful s move) :
    Traced (Pool.next act s move).shared := by
  obtain ⟨i, step⟩ := move
  apply Pool.next_keeps (fun s => Traced s.shared) traced
  intro l call acts
  cases step with
  | read =>
      have same : l = s.shared := by
        cases state : s.calls i with
        | conversion tenantId quotationId orderId =>
            rw [state, act] at acts
            split at acts <;>
            · cases acts
              rfl
        | transition tenantId id t =>
            rw [state, act] at acts
            split at acts <;>
            · cases acts
              rfl
        | _ => simp [state, act] at acts
      rw [same]
      exact traced
  | number year =>
      cases state : s.calls i with
      | convertible tenantId q orderId =>
          rw [state, act] at acts
          cases acts
          exact traced
      | _ => simp [state, act] at acts
  | write =>
      cases state : s.calls i with
      | numbered tenantId q orderId orderNumber =>
          rw [state, act] at acts
          simp only [Careful, state] at careful
          cases result : saveConversion s.shared.db tenantId q orderId orderNumber with
          | error =>
              rw [result] at acts
              cases acts
              exact traced
          | ok saved =>
              rw [result] at acts
              cases acts
              have free := (saveOrder_ok (saveConversion_ok result).1).2.2.2
              rcases careful with unconverted | ⟨o, mem, tenant, taken⟩
              · exact traced.conversion unconverted result
              · exact absurd taken (free o mem tenant)
      | transitioning q t =>
          rw [state, act] at acts
          simp only [Careful, state] at careful
          cases acts
          exact traced.transition t careful
      | _ => simp [state, act] at acts

theorem conversion_undisturbed {i : κ} {tenantId quotationId orderId : Uuid} {year : ℕ}
    (call : s.calls i = .conversion tenantId quotationId orderId) :
    ([(i, .read), (i, .number year), (i, .write)].foldl (Pool.next act) s).shared.db =
      settle s.shared.db
        ((convertQuotationToSalesOrder s.shared.db tenantId quotationId orderId year).map Prod.fst) := by
  simp only [List.foldl_cons, List.foldl_nil, convertQuotationToSalesOrder]
  cases read : readConversion s.shared.db tenantId quotationId with
  | error failure => simp [Pool.next, act, call, read, settle, bind, Except.bind, Except.map]
  | ok result =>
      cases result with
      | inl existing => simp [Pool.next, act, call, read, settle, bind, Except.bind, Except.map, pure, Except.pure]
      | inr q =>
          simp only [Pool.next, act, call, read, Function.update_self, bind, Except.bind]
          cases saveConversion s.shared.db tenantId q orderId (nextSalesOrderNumber s.shared.db tenantId year) <;> rfl

/-- Converting the quotation again gives its order and changes nothing. -/
def Recalled (db : Db) (q : Quotation) : Prop :=
  ∀ orderId year, ∃ order, q.convertedToSalesOrderId = some order.id ∧
    convertQuotationToSalesOrder db q.tenantId q.id orderId year = .ok (db, order)

/-- As long as no call saves a quotation that another one has converted since it was read, no quotation gets a
second order, and each order carries its quotation. A converted quotation never gives its order again. -/
theorem one_order_per_quotation (traced : Traced s.shared) (run : Run Careful (Pool.next act) s moves t) :
    (t.shared.origins.map Prod.fst).Nodup ∧
    (∀ p ∈ t.shared.origins, ∃ q order, t.shared.db.quotations.find? p.1 = some q ∧ q.status = .converted ∧
      q.convertedToSalesOrderId = some p.2 ∧ t.shared.db.salesOrders.find? p.2 = some order ∧ Carries order q) ∧
    ∀ q ∈ t.shared.db.quotations.rows,
      (q.status = .converted → Recalled t.shared.db q) ↔ q.status ≠ .converted := by
  have traced : Traced t.shared :=
    run.invariant (fun u => Traced u.shared) traced fun _ _ traced careful => next_traced traced careful
  refine ⟨traced.once, traced.closed, ?_⟩
  intro q mem
  constructor
  · intro recalled converted
    obtain ⟨order, -, again⟩ := recalled converted 0 0
    rw [convertQuotationToSalesOrder_refused (Table.find?_of_mem mem) (by simp [converted])] at again
    cases again
  · intro unconverted converted
    exact absurd converted unconverted

end

/-! ## Two clerks at one quotation -/

namespace Overlap

theorem quantity_fits : (25000 : ℤ).natAbs < 10 ^ 14 := by decide
theorem discount_fits : (0 : ℤ).natAbs < 10 ^ 5 := by decide

def quotation (id : Uuid) : Quotation where
  id := id
  tenantId := 1
  customerId := 3
  status := .accepted
  subtotalCents := 10000
  taxCents := 2200
  totalCents := 12200
  lines := [⟨some 7, ⟨25000, quantity_fits⟩, 4000, ⟨0, discount_fits⟩, 22, 10000⟩]

def db : Db where
  customers := Table.save ∅ ⟨3, 1, false⟩
  quotations := (Table.save ∅ (quotation 4)).save (quotation 5)
  salesOrders := ∅

def starting (calls : Fin 3 → Call) : Pool (Fin 3) Ledger Call := ⟨⟨db, []⟩, calls⟩

theorem traced (calls : Fin 3 → Call) : Traced (starting calls).shared where
  once := List.nodup_nil
  closed _ mem := nomatch mem

end Overlap

open Overlap in
/-- Two quotations are converted at a time, and the second order's number is taken; a third call finds it expired. -/
theorem one_order_per_quotation_collided :
    let moves : List (Fin 3 × Step) := [(0, .read), (1, .read), (0, .number 2026), (1, .number 2026), (0, .write),
      (1, .write), (2, .read), (2, .write)]
    let t := moves.foldl (Pool.next act)
      (starting ![.conversion 1 4 9, .conversion 1 5 10, .transition 1 5 .expireQuotation])
    t.shared.origins = [(4, 9)] ∧ (t.shared.db.quotations.find? 5).map (·.status) = some .expired ∧
      ∀ q ∈ t.shared.db.quotations.rows,
        (q.status = .converted → Recalled t.shared.db q) ↔ q.status ≠ .converted :=
  ⟨by decide +kernel, by decide +kernel, (one_order_per_quotation (traced _) (.ofAllMet (by decide +kernel))).2.2⟩

open Overlap in
/-- Two calls convert one quotation, and a later third one is refused. -/
theorem quotation_converted_twice :
    let moves : List (Fin 3 × Step) := [(0, .read), (1, .read), (0, .number 2026), (0, .write), (1, .number 2026),
      (1, .write), (2, .read)]
    let t := moves.foldl (Pool.next act) (starting ![.conversion 1 4 9, .conversion 1 4 10, .conversion 1 4 11])
    t.shared.origins = [(4, 9), (4, 10)] ∧
      t.shared.db.salesOrders.rows.map (fun o => (o.id, o.orderNumber)) = [(9, "SO-2026-00001"), (10, "SO-2026-00002")] ∧
      t.calls 2 = .failed (.badRequest "Cannot convert a Quotation in status converted; must be 'accepted'") := by
  decide +kernel

end SmartErp.Sales.Quotations
