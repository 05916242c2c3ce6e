import SmartErp.Procurement.Orders

/-!
# From a recorded quote to an order

Suppliers quote, some of them more than once, one quote is awarded and becomes an order. The order takes
the costs of the awarded quote line by line, and the quote's own total plays no part in it.
-/

namespace SmartErp.Procurement.Sourcing
open Foundations

/-- The columns of the unique index on quotes. -/
def RequestForQuoteQuote.solicitation (quote : RequestForQuoteQuote) : Uuid × Uuid × Uuid :=
  (quote.tenantId, quote.rfqId, quote.supplierId)

def RequestForQuoteQuote.Records (quote : RequestForQuoteQuote) (dto : RecordSupplierQuoteDto) : Prop :=
  quote.totalCents = some (dto.totalCents : ℤ) ∧ quote.perLineCosts = dto.perLineCosts

theorem getRfq_ok {db : Db} {tenantId id : Uuid} {rfq : RequestForQuote} (ok : getRfq db tenantId id = .ok rfq) :
    db.rfqs.find? id = some rfq ∧ rfq.id = id ∧ rfq.tenantId = tenantId := by
  rw [getRfq, require_eq_ok, Option.filter_eq_some_iff] at ok
  exact ⟨ok.1, Table.key_of_find? ok.1, by simpa using ok.2⟩

theorem recordSupplierQuote_ok {db db' : Db} {tenantId rfqId : Uuid} {dto : RecordSupplierQuoteDto} {now : ℕ}
    (ok : recordSupplierQuote db tenantId rfqId dto now = .ok db') :
    ∃ quote quote', quote ∈ db.quotes.rows ∧ quote.solicitation = (tenantId, rfqId, dto.supplierId) ∧
      db'.quotes = db.quotes.save quote' ∧ quote'.id = quote.id ∧ quote'.solicitation = quote.solicitation ∧
      quote'.Records dto ∧ (db'.rfqs.find? rfqId).map (·.lines) = (db.rfqs.find? rfqId).map (·.lines) := by
  simp only [recordSupplierQuote, bind_eq_ok, ensure_eq_ok, require_eq_ok, bigint_eq_ok] at ok
  obtain ⟨rfq, got, -, -, quote, found, _, ⟨-, rfl⟩, saved⟩ := ok
  obtain ⟨got, rfl, -⟩ := getRfq_ok got
  have owner := List.find?_some found
  rw [decide_eq_true_eq] at owner
  have solicited : quote.solicitation = (tenantId, rfq.id, dto.supplierId) := by
    simp [RequestForQuoteQuote.solicitation, owner]
  have mem := List.mem_of_find?_eq_some found
  split_ifs at saved <;> cases saved
  · refine ⟨quote, _, mem, solicited, rfl, rfl, rfl, ⟨rfl, rfl⟩, ?_⟩
    rw [got, Table.find?_save, if_pos rfl]
    rfl
  · exact ⟨quote, _, mem, solicited, rfl, rfl, rfl, ⟨rfl, rfl⟩, rfl⟩

/-! ## Quotes one after the other -/

structure Bidding where
  db : Db
  index : (db.quotes.rows.map (·.solicitation)).Nodup
  recorded : List RecordSupplierQuoteDto

namespace Bidding

def last (b : Bidding) (supplierId : Uuid) : Option RecordSupplierQuoteDto :=
  b.recorded.reverse.find? (·.supplierId = supplierId)

theorem index_recorded {db db' : Db} {tenantId rfqId : Uuid} {dto : RecordSupplierQuoteDto} {now : ℕ}
    (ok : recordSupplierQuote db tenantId rfqId dto now = .ok db')
    (index : (db.quotes.rows.map (·.solicitation)).Nodup) : (db'.quotes.rows.map (·.solicitation)).Nodup := by
  obtain ⟨quote, quote', mem, -, saved, id, same, -⟩ := recordSupplierQuote_ok ok
  have found := Table.find?_of_mem mem
  rw [← id] at found
  rw [saved, Table.map_save _ found same]
  exact index

def record (tenantId rfqId : Uuid) (b : Bidding) (call : RecordSupplierQuoteDto × ℕ) : Bidding :=
  match result : recordSupplierQuote b.db tenantId rfqId call.1 call.2 with
  | .ok db => ⟨db, index_recorded result b.index, b.recorded ++ [call.1]⟩
  | .error _ => b

structure Follows (tenantId rfqId : Uuid) (start b : Bidding) : Prop where
  lines : (b.db.rfqs.find? rfqId).map (·.lines) = (start.db.rfqs.find? rfqId).map (·.lines)
  quotes : ∀ q ∈ b.db.quotes.rows, ∀ supplierId, q.solicitation = (tenantId, rfqId, supplierId) →
    ∀ dto, b.last supplierId = some dto → q.Records dto

theorem Follows.record {tenantId rfqId : Uuid} {start b : Bidding} (follows : Follows tenantId rfqId start b)
    (call : RecordSupplierQuoteDto × ℕ) : Follows tenantId rfqId start (b.record tenantId rfqId call) := by
  unfold Bidding.record
  split
  · rename_i db result
    obtain ⟨quote, quote', mem, solicited, saved, id, same, records, lines⟩ := recordSupplierQuote_ok result
    refine ⟨lines.trans follows.lines, ?_⟩
    intro q mem' supplierId own dto latest
    rw [last, List.reverse_concat, List.find?_cons] at latest
    rw [saved, Table.mem_save] at mem'
    rcases mem' with rfl | ⟨old, other⟩
    · have supplier : call.1.supplierId = supplierId := by
        rw [same, solicited] at own
        exact (Prod.mk.inj (Prod.mk.inj own).2).2
      simp only [supplier, decide_true] at latest
      exact Option.some_inj.mp latest ▸ records
    · by_cases supplier : call.1.supplierId = supplierId
      · -- The index has no room for a second quote of the supplier.
        have unique := List.inj_on_of_nodup_map b.index old mem (by rw [own, solicited, supplier])
        exact absurd (by rw [unique, id]) other
      · simp only [supplier, decide_false] at latest
        exact follows.quotes q old supplierId own dto latest
  · exact follows

end Bidding

/-! ## The award and the order -/

def RequestForQuoteQuote.lineCents (quote : RequestForQuoteQuote) (rl : RequestForQuoteLine) : JsNumber :=
  (JsNumber.finite ((quote.costOf rl).getD 0)).times (JsNumber.finite rl.quantity.val).double

namespace Tender

theorem hose_fits : (20000 : ℤ).natAbs < 10 ^ 14 := by decide

theorem gauge_fits : (10000 : ℤ).natAbs < 10 ^ 14 := by decide

def request : RequestForQuote where
  id := 5
  tenantId := 1
  rfqNumber := "RFQ-2026-00001"
  status := .sent
  awardedQuoteId := none
  awardedAt := none
  convertedToPurchaseOrderId := none
  lines := [⟨8, 7, ⟨20000, hose_fits⟩⟩, ⟨9, 11, ⟨10000, gauge_fits⟩⟩]

def solicited (id supplierId : Uuid) : RequestForQuoteQuote where
  id := id
  tenantId := 1
  rfqId := 5
  supplierId := supplierId
  status := .pending
  totalCents := none
  currency := "EUR"
  perLineCosts := []
  receivedAt := none

def start : Bidding where
  db := ⟨∅, Table.save ∅ request, Table.save (Table.save ∅ (solicited 6 3)) (solicited 7 4), ∅⟩
  index := by decide
  recorded := []

/-- The first supplier quotes everything, then forgets the gauge. -/
def calls : List (RecordSupplierQuoteDto × ℕ) :=
  [(⟨3, 52000, none, [⟨8, 20000⟩, ⟨9, 12000⟩], by simp⟩, 10), (⟨4, 55000, none, [⟨8, 21000⟩, ⟨9, 13000⟩], by simp⟩, 11),
    (⟨3, 50000, none, [⟨8, 18000⟩], by simp⟩, 12)]

def bids : Bidding := calls.foldl (Bidding.record 1 5) start

def awarded : Db := settle bids.db (awardRfq bids.db 1 5 ⟨6⟩ 13)

def converted : Db := settle awarded (convertRfqToPo awarded 1 5 20 2026)

end Tender

end SmartErp.Procurement.Sourcing
