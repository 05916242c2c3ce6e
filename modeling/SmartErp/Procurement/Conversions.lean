import SmartErp.Foundations.Interleaving
import SmartErp.Procurement.Orders
import Mathlib.Data.Fin.VecNotation

/-!
# One order for one document

A conversion reads its requisition or request for quote and checks the status, then counts the orders of
the tenant, and writes the order and the document in one transaction. No step locks the document, so other
calls may convert it in between.
-/

namespace SmartErp.Procurement.Sourcing
open Foundations

inductive Source where
  | requisition (id : Uuid)
  | rfq (id : Uuid)
  deriving DecidableEq

/-- Only an order for a requisition says what it was made from. -/
def Source.requisitionId : Source → Option Uuid
  | requisition id => some id
  | rfq _ => none

inductive Document where
  | requisition (req : PurchaseRequisition) (dto : ConvertPurchaseRequisitionDto)
  | rfq (rfq : RequestForQuote) (quote : RequestForQuoteQuote)

namespace Document

def source : Document → Source
  | .requisition req _ => .requisition req.id
  | .rfq r _ => .rfq r.id

def tenantId : Document → Uuid
  | .requisition req _ => req.tenantId
  | .rfq r _ => r.tenantId

def save (db : Db) (poId : Uuid) (poNumber : String) : Document → Except Failure Db
  | .requisition req dto => saveConvertedRequisition db req poId poNumber dto
  | .rfq r quote => saveConvertedRfq db r quote poId poNumber

end Document

inductive Request where
  | convertRequisitionToPo (tenantId id : Uuid) (dto : ConvertPurchaseRequisitionDto)
  | convertRfqToPo (tenantId rfqId : Uuid)

def Request.read (db : Db) : Request → Except Failure Document
  | convertRequisitionToPo tenantId id dto => return .requisition (← convertibleRequisition db tenantId id) dto
  | convertRfqToPo tenantId rfqId => do
      let (rfq, quote) ← convertibleRfq db tenantId rfqId
      return .rfq rfq quote

inductive Call where
  | requested (request : Request) (poId : Uuid)
  | checked (document : Document) (poId : Uuid)
  | numbered (document : Document) (poId : Uuid) (poNumber : String)
  | returned
  | failed (failure : Failure)

inductive Step where
  | read
  | number (year : ℕ)
  | commit
  deriving DecidableEq

structure Ledger where
  db : Db
  origins : List (Source × Uuid)

def act : Step → Ledger → Call → Option (Ledger × Call)
  | .read, l, .requested request poId =>
      match request.read l.db with
      | .ok document => some (l, .checked document poId)
      | .error failure => some (l, .failed failure)
  | .number year, l, .checked document poId =>
      some (l, .numbered document poId (nextPoNumber l.db document.tenantId year))
  | .commit, l, .numbered document poId poNumber =>
      match document.save l.db poId poNumber with
      | .ok db => some (⟨db, l.origins ++ [(document.source, poId)]⟩, .returned)
      | .error failure => some (l, .failed failure)
  | _, _, _ => none

/-! ## What a conversion leaves -/

structure View where
  converted : Bool
  convertedToPurchaseOrderId : Option Uuid
  lines : List (Uuid × Numeric 14 4)

def PurchaseRequisition.view (r : PurchaseRequisition) : View :=
  ⟨r.status = .converted, r.convertedToPurchaseOrderId, r.lines.map fun l => (l.productId, l.quantity)⟩

def RequestForQuote.view (r : RequestForQuote) : View :=
  ⟨r.status = .converted, r.convertedToPurchaseOrderId, r.lines.map fun l => (l.productId, l.quantity)⟩

def Db.view (db : Db) : Source → Option View
  | .requisition id => (db.requisitions.find? id).map (·.view)
  | .rfq id => (db.rfqs.find? id).map (·.view)

def PurchaseOrder.items (po : PurchaseOrder) : List (Uuid × Numeric 14 4) :=
  po.lines.map fun l => (l.productId, l.quantity)

theorem Document.save_ok {db db' : Db} {document : Document} {poId : Uuid} {poNumber : String}
    (ok : document.save db poId poNumber = .ok db') :
    ∃ po, po.id = poId ∧ po.requisitionId = document.source.requisitionId ∧
      db.purchaseOrders.find? po.id = none ∧
      (∀ po' ∈ db.purchaseOrders.rows, ¬ (po'.tenantId = document.tenantId ∧ po'.poNumber = poNumber)) ∧
      db'.purchaseOrders = db.purchaseOrders.save po ∧
      ∀ source, db'.view source =
        if document.source = source then some ⟨true, some poId, po.items⟩ else db.view source := by
  cases document with
  | requisition req dto =>
      simp only [Document.save, saveConvertedRequisition, bind_eq_ok, pure_eq_ok] at ok
      obtain ⟨_, saved, _, -, rfl⟩ := ok
      obtain ⟨po, stored, fresh, free, rfl⟩ := savePurchaseOrder_ok saved
      have items : po.items = req.lines.map fun l => (l.productId, l.quantity) := by
        apply stored.map rfl
        intro a l same
        rw [same.productId, same.quantity_eq rfl]
        rfl
      refine ⟨po, stored.id, stored.requisitionId, fresh, free, rfl, ?_⟩
      intro source
      cases source with
      | requisition id =>
          simp only [Db.view, Document.source, Source.requisition.injEq, Table.find?_save]
          split_ifs with here
          · simp [PurchaseRequisition.view, items]
          · rfl
      | rfq id => rfl
  | rfq rfq quote =>
      simp only [Document.save, saveConvertedRfq, bind_eq_ok, pure_eq_ok] at ok
      obtain ⟨_, saved, rfl⟩ := ok
      obtain ⟨po, stored, fresh, free, rfl⟩ := savePurchaseOrder_ok saved
      have items : po.items = rfq.lines.map fun l => (l.productId, l.quantity) := by
        apply stored.map rfl
        intro a l same
        rw [same.productId, same.quantity_eq rfl]
        rfl
      refine ⟨po, stored.id, stored.requisitionId, fresh, free, rfl, ?_⟩
      intro source
      cases source with
      | requisition id => rfl
      | rfq id =>
          simp only [Db.view, Document.source, Source.rfq.injEq, Table.find?_save]
          split_ifs with here
          · simp [RequestForQuote.view, items]
          · rfl

/-! ## Runs -/

/-- Since `before`, every order comes from a document of its own, and a converted document has its order. -/
structure Traced (before : List PurchaseOrder) (l : Ledger) : Prop where
  once : (l.origins.map Prod.fst).Nodup
  accounted : ∀ po ∈ l.db.purchaseOrders.rows, po ∈ before ∨
    ∃ source, (source, po.id) ∈ l.origins ∧ po.requisitionId = source.requisitionId
  closed : ∀ p ∈ l.origins, ∃ view, l.db.view p.1 = some view ∧ view.converted = true
  covered : ∀ source view, l.db.view source = some view → view.converted = true →
    ∃ po ∈ l.db.purchaseOrders.rows, view.convertedToPurchaseOrderId = some po.id ∧ po.items = view.lines

def Db.isConverted (db : Db) (source : Source) : Bool := (db.view source).any (·.converted)

/-- The document is not converted yet, or the unique index refuses the number of the order. -/
def Db.Guards (db : Db) (document : Document) (poNumber : String) : Prop :=
  db.isConverted document.source = false ∨
    ∃ po ∈ db.purchaseOrders.rows, po.tenantId = document.tenantId ∧ po.poNumber = poNumber

instance (db : Db) (document : Document) (poNumber : String) : Decidable (db.Guards document poNumber) :=
  inferInstanceAs (Decidable (_ ∨ _))

theorem Traced.commit {before : List PurchaseOrder} {l : Ledger} (traced : Traced before l)
    {document : Document} {poId : Uuid} {poNumber : String} {db : Db}
    (guarded : l.db.Guards document poNumber)
    (ok : document.save l.db poId poNumber = .ok db) :
    Traced before ⟨db, l.origins ++ [(document.source, poId)]⟩ := by
  obtain ⟨po, rfl, requisitionId, fresh, free, orders, view⟩ := Document.save_ok ok
  have rows : db.purchaseOrders.rows = l.db.purchaseOrders.rows ++ [po] := by
    rw [orders, Table.rows_save_of_none fresh]
  have unconverted : l.db.isConverted document.source = false := by
    rcases guarded with unconverted | ⟨po', mem, taken⟩
    · exact unconverted
    · exact absurd taken (free po' mem)
  constructor
  · -- A document that has an order is converted.
    have unused : document.source ∉ l.origins.map Prod.fst := by
      intro mem
      obtain ⟨p, mem, eq⟩ := List.mem_map.mp mem
      obtain ⟨view, found, converted⟩ := traced.closed p mem
      rw [eq] at found
      simp [Db.isConverted, found, converted] at unconverted
    rw [List.map_append, List.map_singleton]
    exact traced.once.append (List.nodup_singleton _) (by simpa using unused)
  · intro po' mem
    rw [rows, List.mem_append, List.mem_singleton] at mem
    rcases mem with old | rfl
    · refine (traced.accounted po' old).imp_right ?_
      intro ⟨source, mem, eq⟩
      exact ⟨source, List.mem_append_left _ mem, eq⟩
    · exact .inr ⟨document.source, by simp, requisitionId⟩
  · intro p mem
    rw [view]
    split_ifs with here
    · exact ⟨_, rfl, rfl⟩
    · rw [List.mem_append, List.mem_singleton] at mem
      rcases mem with old | rfl
      · exact traced.closed p old
      · exact absurd rfl here
  · intro source v found converted
    rw [view] at found
    rw [rows]
    split_ifs at found with here
    · obtain rfl := Option.some_inj.mp found
      exact ⟨po, by simp, rfl, rfl⟩
    · obtain ⟨po', mem, eq⟩ := traced.covered source v found converted
      exact ⟨po', List.mem_append_left _ mem, eq⟩

def Call.pending : Call → Option (Document × String)
  | numbered document _ poNumber => some (document, poNumber)
  | requested .. | checked .. | returned | failed _ => none

section
variable {κ : Type} [DecidableEq κ] {s t : Pool κ Ledger Call} {moves : List (κ × Step)}

def Guarded (s : Pool κ Ledger Call) (move : κ × Step) : Prop :=
  move.2 = .commit → ∀ p ∈ (s.calls move.1).pending, s.shared.db.Guards p.1 p.2

instance : ∀ (s : Pool κ Ledger Call) (move : κ × Step), Decidable (Guarded s move) :=
  fun _ _ => inferInstanceAs (Decidable (_ → _))

theorem next_traced {before : List PurchaseOrder} (traced : Traced before s.shared) {move : κ × Step}
    (guarded : Guarded s move) : Traced before (Pool.next act s move).shared := by
  obtain ⟨i, step⟩ := move
  apply Pool.next_keeps (fun s => Traced before s.shared) traced
  intro l call acts
  cases step with
  | read =>
      cases state : s.calls i with
      | requested request poId =>
          rw [state, act] at acts
          cases result : request.read s.shared.db <;>
          · rw [result] at acts
            cases acts
            exact traced
      | _ => simp [state, act] at acts
  | number year =>
      cases state : s.calls i with
      | checked document poId =>
          rw [state, act] at acts
          cases acts
          exact traced
      | _ => simp [state, act] at acts
  | commit =>
      cases state : s.calls i with
      | numbered document poId poNumber =>
          rw [state, act] at acts
          cases result : document.save s.shared.db poId poNumber with
          | error =>
              rw [result] at acts
              cases acts
              exact traced
          | ok db =>
              rw [result] at acts
              cases acts
              exact traced.commit (guarded rfl (document, poNumber) (by rw [state]; rfl)) result
      | _ => simp [state, act] at acts

/-- Whatever conversions overlap, no document gets a second order and every converted one has an order with
its lines, as long as no transaction writes for a document that another call has converted since it was read. -/
theorem one_order_per_document (traced : Traced s.shared.db.purchaseOrders.rows s.shared)
    (run : Run Guarded (Pool.next act) s moves t) :
    let db := t.shared.db
    (∀ source, ∀ po ∈ db.purchaseOrders.rows, ∀ po' ∈ db.purchaseOrders.rows,
      (source, po.id) ∈ t.shared.origins → (source, po'.id) ∈ t.shared.origins → po = po') ∧
    (∀ po ∈ db.purchaseOrders.rows, po ∈ s.shared.db.purchaseOrders.rows ∨
      ∃ source, (source, po.id) ∈ t.shared.origins ∧ po.requisitionId = source.requisitionId) ∧
    (∀ r ∈ db.requisitions.rows, r.status = .converted → ∃ po ∈ db.purchaseOrders.rows,
      r.convertedToPurchaseOrderId = some po.id ∧
      po.lines.map (fun l => (l.productId, l.quantity)) = r.lines.map fun l => (l.productId, l.quantity)) ∧
    (∀ r ∈ db.rfqs.rows, r.status = .converted → ∃ po ∈ db.purchaseOrders.rows,
      r.convertedToPurchaseOrderId = some po.id ∧
      po.lines.map (fun l => (l.productId, l.quantity)) = r.lines.map fun l => (l.productId, l.quantity)) := by
  intro db
  have traced : Traced s.shared.db.purchaseOrders.rows t.shared :=
    run.invariant (fun u => Traced s.shared.db.purchaseOrders.rows u.shared) traced
      fun _ _ traced guarded => next_traced traced guarded
  refine ⟨?_, traced.accounted, ?_, ?_⟩
  · intro source po mem po' mem' origin origin'
    have same := List.inj_on_of_nodup_map traced.once origin origin' rfl
    have found := Table.find?_of_mem mem
    rw [(Prod.mk.inj same).2, Table.find?_of_mem mem'] at found
    exact (Option.some_inj.mp found).symm
  · intro r mem converted
    apply traced.covered (.requisition r.id) r.view
    · rw [Db.view, Table.find?_of_mem mem, Option.map_some]
    · simp [PurchaseRequisition.view, converted]
  · intro r mem converted
    apply traced.covered (.rfq r.id) r.view
    · rw [Db.view, Table.find?_of_mem mem, Option.map_some]
    · simp [RequestForQuote.view, converted]

end

/-! ## Two clerks at one document -/

namespace Overlap

theorem two_fits : (20000 : ℤ).natAbs < 10 ^ 14 := by decide

def requisition : PurchaseRequisition where
  id := 4
  tenantId := 1
  requisitionNumber := "PR-2026-00001"
  status := .approved
  approverChain := []
  totalEstimateCents := 40000
  convertedToPurchaseOrderId := none
  lines := [⟨7, ⟨20000, two_fits⟩, 20000⟩]

def rfq : RequestForQuote where
  id := 5
  tenantId := 1
  rfqNumber := "RFQ-2026-00001"
  status := .awarded
  awardedQuoteId := some 6
  awardedAt := some 0
  convertedToPurchaseOrderId := none
  lines := [⟨8, 7, ⟨20000, two_fits⟩⟩]

def quote : RequestForQuoteQuote where
  id := 6
  tenantId := 1
  rfqId := 5
  supplierId := 3
  status := .received
  totalCents := some 36000
  currency := "EUR"
  perLineCosts := [⟨8, 18000⟩]
  receivedAt := some 0

def calls : Pool (Fin 4) Ledger Call where
  shared := ⟨⟨Table.save ∅ requisition, Table.save ∅ rfq, Table.save ∅ quote, ∅⟩, []⟩
  calls := ![.requested (.convertRequisitionToPo 1 4 ⟨3⟩) 9, .requested (.convertRequisitionToPo 1 4 ⟨3⟩) 10,
    .requested (.convertRfqToPo 1 5) 11, .requested (.convertRfqToPo 1 5) 12]

/-- All calls count before the first one writes. -/
def colliding : List (Fin 4 × Step) :=
  [(0, .read), (1, .read), (2, .read), (3, .read), (0, .number 2026), (1, .number 2026), (2, .number 2026),
    (3, .number 2026), (0, .commit), (1, .commit), (2, .commit), (3, .commit)]

/-- All calls read before the first one writes, and each counts when its turn comes. -/
def queued : List (Fin 4 × Step) :=
  [(0, .read), (1, .read), (2, .read), (3, .read), (0, .number 2026), (0, .commit), (1, .number 2026),
    (1, .commit), (2, .number 2026), (2, .commit), (3, .number 2026), (3, .commit)]

theorem traced : Traced [] calls.shared where
  once := List.nodup_nil
  accounted _ mem := nomatch mem
  closed _ mem := nomatch mem
  covered source view found converted := by
    have unconverted : view.converted = false := by
      cases source <;>
      · simp only [Db.view, calls, Table.find?_save, Table.find?_empty] at found
        split_ifs at found <;> cases found
        rfl
    rw [unconverted] at converted
    cases converted

end Overlap

open Overlap in
theorem one_order_per_document_colliding :
    let t := colliding.foldl (Pool.next act) calls
    t.shared.origins = [(.requisition 4, 9)] ∧
      ∀ r ∈ t.shared.db.requisitions.rows, r.status = .converted → ∃ po ∈ t.shared.db.purchaseOrders.rows,
        r.convertedToPurchaseOrderId = some po.id ∧
        po.lines.map (fun l => (l.productId, l.quantity)) = r.lines.map fun l => (l.productId, l.quantity) :=
  ⟨by decide +kernel, (one_order_per_document traced (.ofAllMet (by decide +kernel))).2.2.1⟩

open Overlap in
/-- The second order of each document. -/
theorem documents_ordered_twice :
    let l := (queued.foldl (Pool.next act) calls).shared
    l.origins = [(.requisition 4, 9), (.requisition 4, 10), (.rfq 5, 11), (.rfq 5, 12)] ∧
      l.db.purchaseOrders.rows.map (fun po => (po.id, po.poNumber, po.requisitionId)) =
        [(9, "PO-2026-00001", some 4), (10, "PO-2026-00002", some 4), (11, "PO-2026-00003", none),
          (12, "PO-2026-00004", none)] := by
  decide +kernel

end SmartErp.Procurement.Sourcing
