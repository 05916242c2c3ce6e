import SmartErp.Procurement.MatchEndpoint
import Mathlib.Algebra.BigOperators.Ring.Finset

/-!
# Goods receipts

The life of a goods receipt in `procurement.service.ts`, and what a match counts as accepted. The match
reads the lines of all receipts of an order line, whatever has become of their receipts.
-/

namespace SmartErp.Procurement
open Foundations

inductive GoodsReceiptStatus where
  | draft
  | confirmed
  | partiallyInspected
  | inspected
  | rejected
  deriving DecidableEq

namespace GoodsReceiptStatus

def text : GoodsReceiptStatus → String
  | draft => "draft"
  | confirmed => "confirmed"
  | partiallyInspected => "partially_inspected"
  | inspected => "inspected"
  | rejected => "rejected"

def TRANSITIONS : GoodsReceiptStatus → List GoodsReceiptStatus
  | draft => [confirmed, rejected]
  | confirmed => [partiallyInspected, inspected, rejected]
  | partiallyInspected => [partiallyInspected, inspected, rejected]
  | inspected => []
  | rejected => []

def payable : GoodsReceiptStatus → Bool
  | confirmed | partiallyInspected | inspected => true
  | draft | rejected => false

end GoodsReceiptStatus

def canGoodsReceiptTransition (before after : GoodsReceiptStatus) : Bool := after ∈ before.TRANSITIONS

inductive PurchaseOrderStatus where
  | draft
  | sent
  | acknowledged
  | partiallyReceived
  | received
  | invoiced
  | closed
  | cancelled
  deriving DecidableEq

def PurchaseOrderStatus.text : PurchaseOrderStatus → String
  | draft => "draft"
  | sent => "sent"
  | acknowledged => "acknowledged"
  | partiallyReceived => "partially_received"
  | received => "received"
  | invoiced => "invoiced"
  | closed => "closed"
  | cancelled => "cancelled"

structure PurchaseOrder where
  id : Uuid
  tenantId : Uuid
  status : PurchaseOrderStatus
  deriving DecidableEq

structure GoodsReceipt where
  id : Uuid
  tenantId : Uuid
  grNumber : String
  poId : Uuid
  status : GoodsReceiptStatus
  confirmedAt : Option ℕ
  inspectedAt : Option ℕ
  deriving DecidableEq

/-- A line with quantities as the columns hold them, or as the texts that the service handles. -/
structure ReceiptLine (Quantity : Type) where
  id : Uuid
  tenantId : Uuid
  goodsReceiptId : Uuid
  poLineId : Uuid
  receivedQuantity : Quantity
  acceptedQuantity : Quantity
  rejectedQuantity : Quantity
  rejectReason : Option String
  inspectionId : Option Uuid
  deriving DecidableEq

structure GoodsReceiptLineInputDto where
  poLineId : Uuid
  receivedQuantity : {s : String // (numericString s).isSome}
  acceptedQuantity : Option {s : String // (numericString s).isSome} := none
  rejectedQuantity : Option {s : String // (numericString s).isSome} := none
  rejectReason : Option String := none

structure CreateGoodsReceiptDto where
  poId : Uuid
  lines : List GoodsReceiptLineInputDto
  arrayMinSize : lines ≠ []

structure InspectGoodsReceiptLineDto where
  goodsReceiptLineId : Uuid
  acceptedQuantity : {s : String // (numericString s).isSome}
  rejectedQuantity : {s : String // (numericString s).isSome}
  rejectReason : Option String := none
  inspectionId : Option Uuid := none

structure InspectGoodsReceiptDto where
  lines : List InspectGoodsReceiptLineDto
  arrayMinSize : lines ≠ []

structure Receiving where
  purchaseOrders : Table PurchaseOrder.id
  goodsReceipts : Table GoodsReceipt.id
  goodsReceiptLines : Table fun l : ReceiptLine (Numeric 14 4) => l.id
  fk_grl_gr : ∀ l ∈ goodsReceiptLines.rows, (goodsReceipts.find? l.goodsReceiptId).isSome

namespace Receiving

def saveReceipt (s : Receiving) (gr : GoodsReceipt) : Receiving where
  purchaseOrders := s.purchaseOrders
  goodsReceipts := s.goodsReceipts.save gr
  goodsReceiptLines := s.goodsReceiptLines
  fk_grl_gr l mem := by
    rw [Table.find?_save]
    split
    · rfl
    · exact s.fk_grl_gr l mem

def saveRow (s : Receiving) (l : ReceiptLine (Numeric 14 4)) : Except Failure Receiving :=
  if receipt : (s.goodsReceipts.find? l.goodsReceiptId).isSome then
    .ok { s with
      goodsReceiptLines := s.goodsReceiptLines.save l
      fk_grl_gr := fun l' mem => (Table.mem_save.mp mem).elim
        (fun same => same ▸ receipt) fun old => s.fk_grl_gr l' old.1 }
  else .error (.database "fk_grl_gr")

end Receiving

/-! ## Creation -/

def numericColumn (text : String) : Except Failure (Numeric 14 4) := do
  let value ← require (numericString text) (.database "invalid input syntax for type numeric")
  column 14 4 value

namespace ReceiptLine

def loaded (l : ReceiptLine (Numeric 14 4)) : ReceiptLine String where
  id := l.id
  tenantId := l.tenantId
  goodsReceiptId := l.goodsReceiptId
  poLineId := l.poLineId
  receivedQuantity := l.receivedQuantity.text
  acceptedQuantity := l.acceptedQuantity.text
  rejectedQuantity := l.rejectedQuantity.text
  rejectReason := l.rejectReason
  inspectionId := l.inspectionId

def stored (l : ReceiptLine String) : Except Failure (ReceiptLine (Numeric 14 4)) := do
  let receivedQuantity ← numericColumn l.receivedQuantity
  let acceptedQuantity ← numericColumn l.acceptedQuantity
  let rejectedQuantity ← numericColumn l.rejectedQuantity
  return {
    receivedQuantity, acceptedQuantity, rejectedQuantity
    id := l.id
    tenantId := l.tenantId
    goodsReceiptId := l.goodsReceiptId
    poLineId := l.poLineId
    rejectReason := l.rejectReason
    inspectionId := l.inspectionId }

end ReceiptLine

def GoodsReceiptLineInputDto.entity (l : GoodsReceiptLineInputDto) (tenantId goodsReceiptId id : Uuid) :
    ReceiptLine String where
  id := id
  tenantId := tenantId
  goodsReceiptId := goodsReceiptId
  poLineId := l.poLineId
  receivedQuantity := l.receivedQuantity
  acceptedQuantity := (l.acceptedQuantity.getD l.receivedQuantity).val
  rejectedQuantity := (l.rejectedQuantity.map (·.val)).getD "0"
  rejectReason := l.rejectReason
  inspectionId := none

namespace Receiving

/-- `count` and `String(count + 1).padStart(5, '0')` -/
def nextGrNumber (s : Receiving) (tenantId : Uuid) (year : ℕ) : String :=
  let count := s.goodsReceipts.rows.countP (·.tenantId = tenantId)
  let number := String.ofList ((Nat.toDigits 10 (count + 1)).leftpad 5 '0')
  s!"GR-{year}-{number}"

def insertLine (s : Receiving) (l : ReceiptLine String) : Except Failure Receiving := do
  ensure (s.goodsReceiptLines.find? l.id = none) (.database "goods_receipt_lines_pkey")
  let row ← l.stored
  s.saveRow row

def createGoodsReceipt (s : Receiving) (tenantId id : Uuid) (lineIds : ℕ → Uuid) (year : ℕ)
    (dto : CreateGoodsReceiptDto) : Except Failure Receiving := do
  let po ← require ((s.purchaseOrders.find? dto.poId).filter (·.tenantId = tenantId))
    (.notFound s!"Purchase order {dto.poId} not found")
  ensure (¬ (po.status = .cancelled ∨ po.status = .closed))
    (.badRequest s!"Cannot receive against PO in status {po.status.text}")
  let gr : GoodsReceipt := {
    id, tenantId
    grNumber := s.nextGrNumber tenantId year
    poId := dto.poId
    status := .draft
    confirmedAt := none
    inspectedAt := none }
  ensure (s.goodsReceipts.find? id = none) (.database "goods_receipts_pkey")
  ensure (∀ r ∈ s.goodsReceipts.rows, ¬ (r.tenantId = tenantId ∧ r.grNumber = gr.grNumber))
    (.database "ux_gr_tenant_number")
  let lineEntities := dto.lines.zipIdx.map fun (l, i) => l.entity tenantId id (lineIds i)
  lineEntities.foldlM insertLine (s.saveReceipt gr)

/-! ## Confirmation, inspection, rejection -/

def getGoodsReceipt (s : Receiving) (tenantId id : Uuid) : Except Failure GoodsReceipt :=
  require ((s.goodsReceipts.find? id).filter (·.tenantId = tenantId))
    (.notFound s!"Goods receipt {id} not found")

def linesOf (s : Receiving) (goodsReceiptId : Uuid) : List (ReceiptLine (Numeric 14 4)) :=
  s.goodsReceiptLines.rows.filter (·.goodsReceiptId = goodsReceiptId)

def transitionGoodsReceipt (s : Receiving) (tenantId id : Uuid) (next : GoodsReceiptStatus)
    (mutator : GoodsReceipt → GoodsReceipt) : Except Failure Receiving := do
  let gr ← s.getGoodsReceipt tenantId id
  ensure (canGoodsReceiptTransition gr.status next)
    (.badRequest s!"Invalid transition: {gr.status.text} → {next.text}")
  return s.saveReceipt (mutator { gr with status := next })

def confirmGoodsReceipt (s : Receiving) (tenantId id : Uuid) (now : ℕ) : Except Failure Receiving :=
  s.transitionGoodsReceipt tenantId id .confirmed fun gr => { gr with confirmedAt := some now }

def rejectGoodsReceipt (s : Receiving) (tenantId id : Uuid) : Except Failure Receiving :=
  s.transitionGoodsReceipt tenantId id .rejected fun gr => gr

/-- What an inspection says of a line is no more than was received. -/
def Fits (li : InspectGoodsReceiptLineDto) (receivedQuantity : String) : Prop :=
  ¬ ((parseNumber receivedQuantity).plus (JsNumber.finite (1/10000)).double).lt
    ((parseNumber li.acceptedQuantity).plus (parseNumber li.rejectedQuantity))

instance (li : InspectGoodsReceiptLineDto) (receivedQuantity : String) : Decidable (Fits li receivedQuantity) :=
  inferInstanceAs (Decidable (¬ _))

/-- One line of the request, with the lines of the receipt as they are in memory. -/
def inspectLine (id : Uuid) (state : Receiving × List (ReceiptLine String))
    (li : InspectGoodsReceiptLineDto) : Except Failure (Receiving × List (ReceiptLine String)) := do
  let grl ← require (state.2.find? (·.id = li.goodsReceiptLineId))
    (.notFound s!"GR line {li.goodsReceiptLineId} not found on GR {id}")
  let acc := parseNumber li.acceptedQuantity
  let rej := parseNumber li.rejectedQuantity
  let recv := parseNumber grl.receivedQuantity
  ensure (Fits li grl.receivedQuantity) (.badRequest
    s!"Line {grl.id}: accepted+rejected ({numberText (acc.plus rej)}) > received ({numberText recv})")
  let inspected : ReceiptLine String := { grl with
    acceptedQuantity := li.acceptedQuantity
    rejectedQuantity := li.rejectedQuantity
    rejectReason := li.rejectReason <|> grl.rejectReason
    inspectionId := li.inspectionId <|> grl.inspectionId }
  let row ← inspected.stored
  let saved ← state.1.saveRow row
  return (saved, state.2.map fun l => if l.id = grl.id then inspected else l)

def settled (l : ReceiptLine String) : Bool :=
  (((parseNumber l.acceptedQuantity).plus (parseNumber l.rejectedQuantity)).minus
    (parseNumber l.receivedQuantity)).abs.lt (JsNumber.finite (1/10000)).double

def inspectGoodsReceipt (s : Receiving) (tenantId id : Uuid) (now : ℕ) (dto : InspectGoodsReceiptDto) :
    Except Failure Receiving := do
  let gr ← s.getGoodsReceipt tenantId id
  ensure (gr.status = .confirmed ∨ gr.status = .partiallyInspected) (.badRequest
    s!"Cannot inspect a GR in status {gr.status.text}; must be confirmed or partially_inspected")
  let (s, lines) ← dto.lines.foldlM (inspectLine id) (s, (s.linesOf gr.id).map (·.loaded))
  let next : GoodsReceiptStatus := if lines.all settled then .inspected else .partiallyInspected
  return s.saveReceipt { gr with
    status := next
    inspectedAt := if next = .inspected then some now else gr.inspectedAt }

/-! ## Runs -/

inductive ReceiptOp where
  | createGoodsReceipt (tenantId id : Uuid) (lineIds : ℕ → Uuid) (year : ℕ) (dto : CreateGoodsReceiptDto)
  | confirmGoodsReceipt (tenantId id : Uuid) (now : ℕ)
  | inspectGoodsReceipt (tenantId id : Uuid) (now : ℕ) (dto : InspectGoodsReceiptDto)
  | rejectGoodsReceipt (tenantId id : Uuid)

def perform (s : Receiving) : ReceiptOp → Except Failure Receiving
  | .createGoodsReceipt tenantId id lineIds year dto => s.createGoodsReceipt tenantId id lineIds year dto
  | .confirmGoodsReceipt tenantId id now => s.confirmGoodsReceipt tenantId id now
  | .inspectGoodsReceipt tenantId id now dto => s.inspectGoodsReceipt tenantId id now dto
  | .rejectGoodsReceipt tenantId id => s.rejectGoodsReceipt tenantId id

def next (s : Receiving) (op : ReceiptOp) : Receiving := settle s (s.perform op)

def opening (purchaseOrders : Table PurchaseOrder.id) : Receiving :=
  ⟨purchaseOrders, ∅, ∅, by simp⟩

def Owned (s : Receiving) : Prop :=
  ∀ l ∈ s.goodsReceiptLines.rows, ∀ gr, s.goodsReceipts.find? l.goodsReceiptId = some gr →
    gr.tenantId = l.tenantId

theorem saveReceipt_owned {s : Receiving} (owned : s.Owned) {gr : GoodsReceipt}
    (same : ∀ old, s.goodsReceipts.find? gr.id = some old → old.tenantId = gr.tenantId) :
    (s.saveReceipt gr).Owned := by
  intro l mem gr' found
  obtain ⟨old, found'⟩ := Option.isSome_iff_exists.mp (s.fk_grl_gr l mem)
  have tenant := owned l mem old found'
  simp only [saveReceipt, Table.find?_save] at found
  split_ifs at found with here
  · obtain rfl := Option.some_inj.mp found
    rw [← here] at found'
    rw [← tenant, same old found']
  · rw [found'] at found
    exact Option.some_inj.mp found ▸ tenant

theorem saveRow_ok {s s' : Receiving} {row : ReceiptLine (Numeric 14 4)} (ok : s.saveRow row = .ok s') :
    s'.goodsReceipts = s.goodsReceipts ∧ s'.goodsReceiptLines = s.goodsReceiptLines.save row := by
  unfold saveRow at ok
  split at ok
  · cases ok
    exact ⟨rfl, rfl⟩
  · cases ok

theorem stored_ok {l : ReceiptLine String} {row : ReceiptLine (Numeric 14 4)} (ok : l.stored = .ok row) :
    row.goodsReceiptId = l.goodsReceiptId ∧ row.tenantId = l.tenantId := by
  simp only [ReceiptLine.stored, bind_eq_ok, pure_eq_ok] at ok
  obtain ⟨_, _, _, _, _, _, rfl⟩ := ok
  exact ⟨rfl, rfl⟩

theorem saveRow_owned {s s' : Receiving} (owned : s.Owned) {l : ReceiptLine String}
    {row : ReceiptLine (Numeric 14 4)} (writes : l.stored = .ok row) (ok : s.saveRow row = .ok s')
    {gr : GoodsReceipt} (found : s.goodsReceipts.find? l.goodsReceiptId = some gr)
    (tenant : gr.tenantId = l.tenantId) : s'.Owned := by
  obtain ⟨headers, lines⟩ := saveRow_ok ok
  obtain ⟨receipt, same⟩ := stored_ok writes
  intro l' mem gr' found'
  rw [headers] at found'
  rw [lines, Table.mem_save] at mem
  rcases mem with rfl | ⟨mem, -⟩
  · rw [receipt, found] at found'
    rw [← Option.some_inj.mp found', same, tenant]
  · exact owned l' mem gr' found'

theorem getGoodsReceipt_ok {s : Receiving} {tenantId id : Uuid} {gr : GoodsReceipt}
    (ok : s.getGoodsReceipt tenantId id = .ok gr) :
    s.goodsReceipts.find? gr.id = some gr ∧ gr.tenantId = tenantId := by
  rw [getGoodsReceipt, require_eq_ok, Option.filter_eq_some_iff] at ok
  exact ⟨(Table.key_of_find? ok.1).symm ▸ ok.1, by simpa using ok.2⟩

theorem createGoodsReceipt_owned {s s' : Receiving} (owned : s.Owned) {tenantId id : Uuid}
    {lineIds : ℕ → Uuid} {year : ℕ} {dto : CreateGoodsReceiptDto}
    (ok : s.createGoodsReceipt tenantId id lineIds year dto = .ok s') : s'.Owned := by
  simp only [createGoodsReceipt, bind_eq_ok, ensure_eq_ok] at ok
  obtain ⟨po, -, -, -, -, fresh, -, -, inserts⟩ := ok
  refine (foldlM_keeps (fun u => u.Owned ∧ ∃ gr, u.goodsReceipts.find? id = some gr ∧
    gr.tenantId = tenantId) ?_ ?_ inserts).1
  · rintro u l u' mem ⟨owned', gr, found, tenant⟩ inserted
    simp only [insertLine, bind_eq_ok, ensure_eq_ok] at inserted
    obtain ⟨-, -, row, writes, saves⟩ := inserted
    obtain ⟨⟨dtoLine, i⟩, -, rfl⟩ := List.mem_map.mp mem
    exact ⟨saveRow_owned owned' writes saves found tenant, gr, (saveRow_ok saves).1 ▸ found, tenant⟩
  · refine ⟨saveReceipt_owned owned ?_, _, Table.find?_save_self _ _, rfl⟩
    intro old found
    rw [show s.goodsReceipts.find? id = some old from found] at fresh
    cases fresh

theorem transitionGoodsReceipt_owned {s s' : Receiving} (owned : s.Owned) {tenantId id : Uuid}
    {status : GoodsReceiptStatus} {mutator : GoodsReceipt → GoodsReceipt}
    (keeps : ∀ gr, (mutator gr).id = gr.id ∧ (mutator gr).tenantId = gr.tenantId)
    (ok : s.transitionGoodsReceipt tenantId id status mutator = .ok s') : s'.Owned := by
  simp only [transitionGoodsReceipt, bind_eq_ok, ensure_eq_ok, pure_eq_ok] at ok
  obtain ⟨gr, got, -, -, rfl⟩ := ok
  apply saveReceipt_owned owned
  intro old found
  rw [(keeps _).1, (getGoodsReceipt_ok got).1] at found
  rw [(keeps _).2, ← Option.some_inj.mp found]

theorem inspectGoodsReceipt_owned {s s' : Receiving} (owned : s.Owned) {tenantId id : Uuid} {now : ℕ}
    {dto : InspectGoodsReceiptDto} (ok : s.inspectGoodsReceipt tenantId id now dto = .ok s') :
    s'.Owned := by
  simp only [inspectGoodsReceipt, bind_eq_ok, ensure_eq_ok, pure_eq_ok] at ok
  obtain ⟨gr, got, -, -, ⟨u, lines⟩, inspects, rfl⟩ := ok
  obtain ⟨found, -⟩ := getGoodsReceipt_ok got
  have kept : u.Owned ∧ u.goodsReceipts = s.goodsReceipts ∧
      ∀ l ∈ lines, l.goodsReceiptId = gr.id ∧ l.tenantId = gr.tenantId := by
    refine foldlM_keeps (fun state => state.1.Owned ∧ state.1.goodsReceipts = s.goodsReceipts ∧
      ∀ l ∈ state.2, l.goodsReceiptId = gr.id ∧ l.tenantId = gr.tenantId) ?_ ?_ inspects
    · rintro state li state' - ⟨owned', headers, own⟩ inspected
      simp only [inspectLine, bind_eq_ok, ensure_eq_ok, pure_eq_ok, require_eq_ok] at inspected
      obtain ⟨grl, listed, -, -, row, writes, u', saves, rfl⟩ := inspected
      obtain ⟨receipt, tenant⟩ := own grl (List.mem_of_find?_eq_some listed)
      refine ⟨saveRow_owned owned' writes saves (by rw [headers, receipt, found]) tenant.symm,
        (saveRow_ok saves).1.trans headers, ?_⟩
      simp only [List.forall_mem_map]
      intro l mem
      split
      · exact ⟨receipt, tenant⟩
      · exact own l mem
    · refine ⟨owned, rfl, ?_⟩
      simp only [List.forall_mem_map, linesOf, List.mem_filter, decide_eq_true_eq]
      rintro l ⟨mem, receipt⟩
      exact ⟨receipt, (owned l mem gr (receipt ▸ found)).symm⟩
  apply saveReceipt_owned kept.1
  intro old found'
  rw [kept.2.1, found] at found'
  rw [← Option.some_inj.mp found']

theorem next_owned {s : Receiving} (owned : s.Owned) (op : ReceiptOp) : (s.next op).Owned := by
  apply settle_keeps owned
  intro s' ok
  cases op with
  | createGoodsReceipt tenantId id lineIds year dto => exact createGoodsReceipt_owned owned ok
  | confirmGoodsReceipt tenantId id now =>
      simp only [perform, confirmGoodsReceipt] at ok
      refine transitionGoodsReceipt_owned owned ?_ ok
      exact fun _ => ⟨rfl, rfl⟩
  | inspectGoodsReceipt tenantId id now dto => exact inspectGoodsReceipt_owned owned ok
  | rejectGoodsReceipt tenantId id =>
      simp only [perform, rejectGoodsReceipt] at ok
      exact transitionGoodsReceipt_owned owned (fun _ => ⟨rfl, rfl⟩) ok

theorem run_owned {purchaseOrders : Table PurchaseOrder.id} {ops : List ReceiptOp} {s : Receiving}
    (run : Run (fun _ _ => True) next (opening purchaseOrders) ops s) : s.Owned := by
  refine run.invariant Owned ?_ fun _ op owned _ => next_owned owned op
  intro l mem
  cases mem

/-! ## What a match counts -/

def ReceiptLine.accepted (l : ReceiptLine (Numeric 14 4)) : GoodsReceiptLine :=
  ⟨l.id, l.tenantId, l.poLineId, l.acceptedQuantity⟩

/-- The lines in the order in which the database finds them. -/
def read (s : Receiving) (scan : Scan (ReceiptLine (Numeric 14 4))) :
    Table fun l : ReceiptLine (Numeric 14 4) => l.id where
  rows := scan.order s.goodsReceiptLines.rows
  nodup := ((scan.perm _).map _).nodup_iff.mpr s.goodsReceiptLines.nodup

/-- The orders and invoices of `books` with these receipts. -/
def db (s : Receiving) (scan : Scan (ReceiptLine (Numeric 14 4))) (books : Db) : Db :=
  { books with goodsReceiptLines := (s.read scan).restrict ReceiptLine.accepted fun _ => rfl }

variable (scan : Scan (ReceiptLine (Numeric 14 4)))

def linesFor (s : Receiving) (tenantId poLineId : Uuid) : List (ReceiptLine (Numeric 14 4)) :=
  (s.read scan).rows.filter fun l => l.tenantId = tenantId ∧ l.poLineId = poLineId

def payable (s : Receiving) (tenantId : Uuid) (l : ReceiptLine (Numeric 14 4)) : Bool :=
  (s.goodsReceipts.find? l.goodsReceiptId).any fun gr => gr.tenantId = tenantId ∧ gr.status.payable

def quantitySum (lines : List (ReceiptLine (Numeric 14 4))) : JsNumber :=
  (lines.map fun l => (JsNumber.finite l.acceptedQuantity.val).double).foldl JsNumber.plus (.finite 0)

def payableSum (s : Receiving) (tenantId poLineId : Uuid) : JsNumber :=
  quantitySum ((s.read scan).rows.filter fun l => l.poLineId = poLineId ∧ s.payable tenantId l)

theorem acceptedSum_db (s : Receiving) (books : Db) (tenantId poLineId : Uuid) :
    acceptedSum (s.db scan books) tenantId poLineId = quantitySum (s.linesFor scan tenantId poLineId) := by
  simp only [acceptedSum, acceptedQuantities, db, Table.restrict, List.filter_map, List.map_map]
  rfl

theorem payableSum_eq {s : Receiving} (owned : s.Owned) (tenantId poLineId : Uuid) :
    s.payableSum scan tenantId poLineId =
      quantitySum ((s.linesFor scan tenantId poLineId).filter (s.payable tenantId)) := by
  rw [payableSum, linesFor, List.filter_filter]
  congr 1
  apply List.filter_congr
  intro l mem
  cases paid : s.payable tenantId l with
  | false => simp
  | true =>
      obtain ⟨gr, found, own⟩ := (Option.any_eq_true ..).mp paid
      have tenant := owned l (scan.mem.mp mem) gr found
      rw [decide_eq_true_eq] at own
      simp [← tenant, own.1]

/-- Whole quantities whose sum doubles add up exactly. -/
def Pieces (lines : List (ReceiptLine (Numeric 14 4))) : Prop :=
  (∀ l ∈ lines, l.acceptedQuantity.val.den = 1) ∧ (lines.map fun l => |l.acceptedQuantity.val|).sum < 2 ^ 53

instance (lines : List (ReceiptLine (Numeric 14 4))) : Decidable (Pieces lines) := inferInstanceAs (Decidable (_ ∧ _))

theorem Pieces.filter {lines : List (ReceiptLine (Numeric 14 4))} (pieces : Pieces lines)
    (p : ReceiptLine (Numeric 14 4) → Bool) : Pieces (lines.filter p) := by
  refine ⟨fun l mem => pieces.1 l (List.mem_of_mem_filter mem), lt_of_le_of_lt ?_ pieces.2⟩
  apply (List.filter_sublist.map _).sum_le_sum
  simp

theorem Pieces.quantitySum {lines : List (ReceiptLine (Numeric 14 4))} (pieces : Pieces lines) :
    quantitySum lines = .finite (lines.map (·.acceptedQuantity.val)).sum := by
  obtain ⟨zs, values⟩ : ∃ zs : List ℤ, lines.map (·.acceptedQuantity.val) = zs.map (fun z : ℤ => (z : ℚ)) := by
    refine ⟨lines.map (·.acceptedQuantity.val.num), ?_⟩
    rw [List.map_map]
    exact List.map_congr_left fun l mem => (Rat.coe_int_num_of_den_eq_one (pieces.1 l mem)).symm
  have bound : (zs.map (|·|)).sum < 2 ^ 53 := by
    have small := pieces.2
    rw [show (lines.map fun l => |l.acceptedQuantity.val|) = (lines.map (·.acceptedQuantity.val)).map (|·|) by
      rw [List.map_map]; rfl, values, List.map_map] at small
    have cast : (zs.map ((|·|) ∘ fun z : ℤ => (z : ℚ))).sum = ((zs.map (|·|)).sum : ℤ) := by
      rw [Int.cast_list_sum, List.map_map]
      congr 1
      apply List.map_congr_left
      intro z _
      simp
    rw [cast] at small
    exact_mod_cast small
  have exact : (zs.map fun z : ℤ => (JsNumber.finite z).double) = zs.map fun z : ℤ => .finite z := by
    apply List.map_congr_left
    intro z mem
    apply JsNumber.double_safe
    exact (List.single_le_sum (by simp) _ (List.mem_map_of_mem mem)).trans_lt bound
  have folded := JsNumber.foldl_plus_safe (show |0| + (zs.map (|·|)).sum < 2 ^ 53 by simpa using bound)
  rw [zero_add, ← exact, Int.cast_zero] at folded
  rw [Receiving.quantitySum, values, ← Int.cast_list_sum, ← folded]
  congr 1
  have doubles := congrArg (List.map fun q => (JsNumber.finite q).double) values
  simpa only [List.map_map, Function.comp_def] using doubles

/-- What a match counts for an order line is what was accepted on receipts that are confirmed or inspected, as
long as the lines of drafts and rejected receipts have nothing accepted; for whole pieces, exactly as long as
these lines add up to nothing. -/
theorem runMatch_counts_payable {purchaseOrders : Table PurchaseOrder.id} {ops : List ReceiptOp}
    {s : Receiving} (run : Run (fun _ _ => True) next (opening purchaseOrders) ops s) (books : Db)
    (tenantId : Uuid) (si : SupplierInvoice) (dto : RunMatchDto) :
    ∀ pol ∈ poLinesOf (s.db scan books) tenantId (poLineIdsOf ((s.db scan books).linesOf si.id)),
      let counted := acceptedQty (storedInput (s.db scan books) tenantId si dto).grLines pol.id
      let unpayable := (s.linesFor scan tenantId pol.id).filter (!s.payable tenantId ·)
      ((∀ l ∈ unpayable, l.acceptedQuantity.val = 0) → counted = s.payableSum scan tenantId pol.id) ∧
        (Pieces (s.linesFor scan tenantId pol.id) →
          (counted = s.payableSum scan tenantId pol.id ↔ (unpayable.map (·.acceptedQuantity.val)).sum = 0)) := by
  intro pol mem counted unpayable
  have listed : pol.id ∈ poLineIdsOf ((s.db scan books).linesOf si.id) := by
    have selected := (List.mem_filter.mp mem).2
    exact (of_decide_eq_true selected).2
  have counts : counted = quantitySum (s.linesFor scan tenantId pol.id) := by
    show acceptedQty ((grLinesOf (s.db scan books) tenantId _).map (·.snapshot)) pol.id = _
    rw [acceptedQty_stored _ _ listed, acceptedSum_db]
  rw [counts, payableSum_eq scan (run_owned run)]
  constructor
  · intro none
    apply JsNumber.foldl_plus_filter _ (JsNumber.double_safe (n := 0) (by norm_num))
    intro l mem paid
    rw [none l (List.mem_filter.mpr ⟨mem, by simp [paid]⟩)]
    exact JsNumber.double_safe (n := 0) (by norm_num)
  · intro pieces
    have parts : ((s.linesFor scan tenantId pol.id).map (·.acceptedQuantity.val)).sum =
        (((s.linesFor scan tenantId pol.id).filter (s.payable tenantId)).map (·.acceptedQuantity.val)).sum +
          (unpayable.map (·.acceptedQuantity.val)).sum := by
      rw [← List.sum_append, ← List.map_append]
      exact ((List.filter_append_perm _ _).map _).sum_eq.symm
    rw [pieces.quantitySum, (pieces.filter _).quantitySum, JsNumber.finite.injEq, parts, add_eq_left]

/-! ## Ten pieces received -/

end Receiving
namespace Sample

def orders : Table PurchaseOrder.id := ⟨[⟨5, 1, .sent⟩], by simp⟩

theorem ten_numeric : (numericString "10").isSome := by decide +kernel

def tenDelivered : Receiving.ReceiptOp :=
  .createGoodsReceipt 1 40 (50 + ·) 2026
    ⟨5, [{ poLineId := 1, receivedQuantity := ⟨"10", ten_numeric⟩ }], List.cons_ne_nil _ _⟩

def received (ops : List Receiving.ReceiptOp) : Receiving := ops.foldl Receiving.next (.opening orders)

end Sample
namespace Receiving

open Sample in
theorem runMatch_payable_confirmed :
    let s := received [tenDelivered, .confirmGoodsReceipt 1 40 0]
    ∀ pol ∈ poLinesOf (s.db .inOrder tenStored) 1 (poLineIdsOf ((s.db .inOrder tenStored).linesOf tenHeader.id)),
      acceptedQty (storedInput (s.db .inOrder tenStored) 1 tenHeader {}).grLines pol.id =
        s.payableSum .inOrder 1 pol.id := by
  intro s pol mem
  have run : Run (fun _ _ => True) next (opening orders) [tenDelivered, .confirmGoodsReceipt 1 40 0] s :=
    Run.ofAllMet ⟨trivial, trivial, trivial⟩
  have all : ∀ pol ∈ poLinesOf (s.db .inOrder tenStored) 1 (poLineIdsOf ((s.db .inOrder tenStored).linesOf tenHeader.id)),
      ∀ l ∈ (s.linesFor .inOrder 1 pol.id).filter (!s.payable 1 ·), l.acceptedQuantity.val = 0 := by decide +kernel
  exact (runMatch_counts_payable .inOrder run tenStored 1 tenHeader {} pol mem).1 (all pol mem)

open Sample in
/-- Ten pieces on a draft, or on a receipt that was rejected, are paid. -/
theorem runMatch_pays_rejected :
    let draft := received [tenDelivered]
    let rejected := received [tenDelivered, .confirmGoodsReceipt 1 40 0, .rejectGoodsReceipt 1 40]
    let paid := fun s : Receiving =>
      (s.goodsReceipts.rows.map fun gr => (gr.id, gr.status.payable)) = [(40, false)] ∧
        1 ∈ poLineIdsOf ((s.db .inOrder tenStored).linesOf tenHeader.id) ∧
        acceptedQty (storedInput (s.db .inOrder tenStored) 1 tenHeader {}).grLines 1 = .finite 10 ∧
        s.payableSum .inOrder 1 1 = .finite 0 ∧
        Accepted 21 (runMatch (s.db .inOrder tenStored) 1 21 ⟨some 2, some 1, some 100⟩ 0)
    paid draft ∧ paid rejected := by
  constructor
  · decide +kernel
  · decide +kernel

end Receiving
end SmartErp.Procurement
