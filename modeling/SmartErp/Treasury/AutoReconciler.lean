import SmartErp.Accounting.Posting
import SmartErp.Foundations.Hundredths
import SmartErp.Procurement.SupplierInvoices
import Mathlib.Data.List.Infix
import Mathlib.Data.List.Sort

/-!
# Proposals for bank transactions

`auto-reconciler.service.ts`
-/

namespace SmartErp.Treasury.AutoReconciler
open Foundations Accounting Procurement

inductive ReconciliationStatus where
  | unmatched
  | matched
  | partlyMatched
  | ignored
  deriving DecidableEq

structure BankTransaction where
  id : Uuid
  tenantId : Uuid
  valueDate : Date
  amountCents : ℤ
  description : String
  reconciliationStatus : ReconciliationStatus
  bigint : -2 ^ 63 ≤ amountCents ∧ amountCents < 2 ^ 63
  deriving DecidableEq

structure Invoice where
  id : Uuid
  tenantId : Uuid
  number : String
  fiscalYear : ℤ
  status : InvoiceStatus
  totalAmount : Numeric 12 2
  deriving DecidableEq

/-- `invoiceStatusEnum` has the labels of `invoice_status_enum`, the type of the column `status`. -/
structure Db where
  transactions : Table BankTransaction.id
  invoices : Table Invoice.id
  supplierInvoices : Table SupplierInvoice.id
  invoiceStatusEnum : List String

/-- The labels that the initial schema creates. -/
def invoice_status_enum : List String :=
  ["draft", "queued", "sent", "received", "accepted", "rejected", "not_delivered", "expired", "cancelled"]

/-- One for the transactions, and one for the query of each transaction. -/
structure Scans where
  transactions : Scan BankTransaction
  invoices : Uuid → Scan Invoice
  supplierInvoices : Uuid → Scan SupplierInvoice

inductive DocumentType where
  | invoice
  | supplierInvoice
  deriving DecidableEq

inductive Confidence where
  | low
  | medium
  | high
  deriving DecidableEq

structure ReconciliationProposal where
  bankTransactionId : Uuid
  proposedDocumentType : DocumentType
  proposedDocumentId : Uuid
  reason : String
  confidence : Confidence
  deriving DecidableEq

/-! ## The queries -/

def day (d : Date) : ℕ := d.year * 10000 + d.month * 100 + d.day

/-- The first `limit` of the unmatched transactions, the latest ones first. -/
def txs (db : Db) (scans : Scans) (tenantId : Uuid) (limit : ℕ) : List BankTransaction :=
  ((scans.transactions.order (db.transactions.rows.filter fun t =>
    t.tenantId = tenantId ∧ t.reconciliationStatus = .unmatched)).insertionSort
      fun a b => day b.valueDate ≤ day a.valueDate).take limit

def openSupplierInvoice (tenantId : Uuid) (si : SupplierInvoice) : Bool :=
  si.tenantId = tenantId ∧ si.status ∉ [.paid, .cancelled, .rejected]

def supplierCandidates (db : Db) (scan : Scan SupplierInvoice) (tenantId : Uuid) (cents : JsNumber) :
    Except Failure (List SupplierInvoice) := do
  let cents ← bigintParam cents
  return (scan.order (db.supplierInvoices.rows.filter fun si =>
    openSupplierInvoice tenantId si ∧ si.totalCents = cents)).take 5

def openInvoice (tenantId : Uuid) (i : Invoice) : Bool :=
  i.tenantId = tenantId ∧ i.status.text ∉ ["paid", "cancelled"]

/-- A literal that is compared with a column of the type `invoice_status_enum`. -/
def enumLiteral (db : Db) (label : String) : Except Failure Unit :=
  ensure (label ∈ db.invoiceStatusEnum) (.database
    s!"invalid input value for enum invoice_status_enum: \"{label}\"")

def page (db : Db) (scan : Scan Invoice) (tenantId : Uuid) : List Invoice :=
  (scan.order (db.invoices.rows.filter (openInvoice tenantId))).take 50

/-- The literals are read before any row is. -/
def invoiceCandidates (db : Db) (scan : Scan Invoice) (tenantId : Uuid) : Except Failure (List Invoice) := do
  enumLiteral db "paid"
  enumLiteral db "cancelled"
  return page db scan tenantId

/-! ## The proposals -/

def includes (s t : String) : Bool := t.toList <:+: s.toList

def outgoing (tx : BankTransaction) (cents : JsNumber) (candidates : List SupplierInvoice) :
    Option ReconciliationProposal :=
  match candidates with
  | [] => none
  | [si] => some ⟨tx.id, .supplierInvoice, si.id,
      s!"Exact amount match ({cents.wholeText} cents) on a single open SI", .high⟩
  | si :: _ => some ⟨tx.id, .supplierInvoice, si.id,
      s!"Exact amount match ({cents.wholeText} cents) — {candidates.length} candidates; first proposed", .low⟩

def exact (cents : JsNumber) (c : Invoice) : Bool :=
  ((JsNumber.finite c.totalAmount.val).double.times (.finite 100)).round = cents

def incoming (tx : BankTransaction) (cents : JsNumber) (candidates : List Invoice) :
    Option ReconciliationProposal :=
  (candidates.find? (exact cents)).map fun c => ⟨tx.id, .invoice, c.id,
    s!"Exact amount match ({cents.wholeText} cents) on open invoice {c.number}/{c.fiscalYear}",
    if includes tx.description c.number then .high else .medium⟩

def amount (tx : BankTransaction) : JsNumber := (JsNumber.finite tx.amountCents).double

def proposal (db : Db) (scans : Scans) (tenantId : Uuid) (tx : BankTransaction) :
    Except Failure (Option ReconciliationProposal) := do
  let cents := (amount tx).abs
  if (amount tx).lt (.finite 0) then
    let candidates ← supplierCandidates db (scans.supplierInvoices tx.id) tenantId cents
    return outgoing tx cents candidates
  else
    let candidates ← invoiceCandidates db (scans.invoices tx.id) tenantId
    return incoming tx cents candidates

def propose (db : Db) (scans : Scans) (tenantId : Uuid) (limit : ℕ) :
    Except Failure (List ReconciliationProposal) := do
  let proposals ← (txs db scans tenantId limit).mapM (proposal db scans tenantId)
  return proposals.filterMap id

/-! ## The law -/

/-- An open document of the right side with exactly the amount of the transaction. -/
def Matches (db : Db) (tenantId : Uuid) (tx : BankTransaction) : DocumentType → Uuid → Prop
  | .invoice, id => 0 ≤ tx.amountCents ∧ ∃ i ∈ db.invoices.rows,
      i.id = id ∧ openInvoice tenantId i ∧ i.totalAmount.units = tx.amountCents
  | .supplierInvoice, id => tx.amountCents < 0 ∧ ∃ si ∈ db.supplierInvoices.rows,
      si.id = id ∧ openSupplierInvoice tenantId si ∧ si.totalCents = -tx.amountCents

structure Reconciled (db : Db) (tenantId : Uuid) (considered : List BankTransaction)
    (proposals : List ReconciliationProposal) : Prop where
  complete : ∀ tx ∈ considered, (∃ type id, Matches db tenantId tx type id) →
    ∃ p ∈ proposals, p.bankTransactionId = tx.id
  sound : ∀ p ∈ proposals, ∃ tx ∈ considered, tx.id = p.bankTransactionId ∧
    Matches db tenantId tx p.proposedDocumentType p.proposedDocumentId
  exclusive : ∀ p ∈ proposals, ∀ q ∈ proposals, p.confidence = .high → q.confidence = .high →
    p.proposedDocumentType = q.proposedDocumentType → p.proposedDocumentId = q.proposedDocumentId →
      p.bankTransactionId = q.bankTransactionId

section
variable (db : Db) (scans : Scans) (tenantId : Uuid)

/-- The document is the only open one of the amount, or the first one of the page and the description names it. -/
def Sole (tx : BankTransaction) : DocumentType → Uuid → Prop
  | .invoice, id => 0 ≤ tx.amountCents ∧ ∃ i,
      (page db (scans.invoices tx.id) tenantId).find? (fun i => i.totalAmount.units = tx.amountCents) = some i ∧
        i.id = id ∧ includes tx.description i.number
  | .supplierInvoice, id => tx.amountCents < 0 ∧ (db.supplierInvoices.rows.filter fun si =>
      openSupplierInvoice tenantId si ∧ si.totalCents = -tx.amountCents).map (·.id) = [id]

/-- The database takes the query, and its page has an invoice of the amount where there is one. -/
structure Paged (tx : BankTransaction) : Prop where
  paid : "paid" ∈ db.invoiceStatusEnum
  cancelled : "cancelled" ∈ db.invoiceStatusEnum
  found : ∀ i ∈ db.invoices.rows, openInvoice tenantId i → i.totalAmount.units = tx.amountCents →
    ∃ j ∈ page db (scans.invoices tx.id) tenantId, j.totalAmount.units = tx.amountCents

/-- The parameter is the amount, or no open supplier invoice has either. -/
def Spelled (tx : BankTransaction) : Prop :=
  ∃ cents, bigintParam (amount tx).abs = .ok cents ∧ (cents = -tx.amountCents ∨
    ∀ si ∈ db.supplierInvoices.rows, openSupplierInvoice tenantId si →
      si.totalCents ≠ cents ∧ si.totalCents ≠ -tx.amountCents)

structure Reconcilable (considered : List BankTransaction) : Prop where
  paged : ∀ tx ∈ considered, 0 ≤ tx.amountCents → Paged db scans tenantId tx
  spelled : ∀ tx ∈ considered, tx.amountCents < 0 → Spelled db tenantId tx
  sole : ∀ tx ∈ considered, ∀ tx' ∈ considered, ∀ type id,
    Sole db scans tenantId tx type id → Sole db scans tenantId tx' type id → tx.id = tx'.id

/-! ## One transaction -/

theorem amount_eq (tx : BankTransaction) : amount tx = .finite (toDouble tx.amountCents) := by
  have size : |(tx.amountCents : ℚ)| ≤ 2 ^ 63 := by
    rw [abs_le]
    exact ⟨by exact_mod_cast tx.bigint.1, by exact_mod_cast tx.bigint.2.le⟩
  rw [amount, JsNumber.double, if_pos (JsNumber.lt_overflow (size.trans (by norm_num)))]

theorem amount_lt (tx : BankTransaction) : (amount tx).lt (.finite 0) = true ↔ tx.amountCents < 0 := by
  have sign : toDouble tx.amountCents < 0 ↔ tx.amountCents < 0 := by
    constructor
    · contrapose!
      intro nonneg
      exact toDouble_nonneg (by exact_mod_cast nonneg)
    · intro neg
      apply toDouble_neg_of_le
      exact_mod_cast Int.le_sub_one_of_lt neg
  simp [amount_eq, JsNumber.lt, JsNumber.le, ← sign]
  exact le_of_lt

theorem exact_iff {tx : BankTransaction} (nonneg : 0 ≤ tx.amountCents) (c : Invoice) :
    exact (amount tx).abs c = true ↔ c.totalAmount.units = tx.amountCents := by
  have small : |c.totalAmount.units| < 2 ^ 53 := by
    rw [Int.abs_eq_natAbs]
    exact_mod_cast c.totalAmount.fits.trans (by norm_num)
  have cast : (0 : ℚ) ≤ tx.amountCents := by exact_mod_cast nonneg
  rw [exact, decide_eq_true_eq, JsNumber.round_column (by norm_num), amount_eq, JsNumber.abs_finite,
    abs_of_nonneg (toDouble_nonneg cast), JsNumber.finite.injEq]
  by_cases safe : tx.amountCents < 2 ^ 53
  · rw [toDouble_safe (abs_lt.mpr ⟨by omega, safe⟩), Int.cast_inj]
  · have double : IsDouble (2 ^ 53 : ℚ) := ⟨1, 53, by norm_num, by norm_num, by norm_num⟩
    have large : (2 ^ 53 : ℚ) ≤ tx.amountCents := by exact_mod_cast not_lt.mp safe
    have rounded := double.le_toDouble (by linarith) large
    have below : (c.totalAmount.units : ℚ) < 2 ^ 53 := by exact_mod_cast (abs_lt.mp small).2
    constructor
    · intro same
      linarith
    · intro same
      rw [same] at below
      linarith

theorem outgoing_eq_some {tx : BankTransaction} {cents : JsNumber} {candidates : List SupplierInvoice}
    {p : ReconciliationProposal} (proposed : outgoing tx cents candidates = some p) :
    p.bankTransactionId = tx.id ∧ p.proposedDocumentType = .supplierInvoice ∧
      ∃ si ∈ candidates, p.proposedDocumentId = si.id ∧ (p.confidence = .high ↔ candidates = [si]) := by
  match candidates with
  | [] => cases proposed
  | [si] => obtain rfl := Option.some.inj proposed; simp
  | si :: si' :: rest => obtain rfl := Option.some.inj proposed; simp

theorem outgoing_eq_none {tx : BankTransaction} {cents : JsNumber} {candidates : List SupplierInvoice} :
    outgoing tx cents candidates = none ↔ candidates = [] := by
  match candidates with
  | [] => simp [outgoing]
  | [_] | _ :: _ :: _ => simp [outgoing]

def equals (tx : BankTransaction) : List SupplierInvoice :=
  ((scans.supplierInvoices tx.id).order (db.supplierInvoices.rows.filter fun si =>
    openSupplierInvoice tenantId si ∧ si.totalCents = -tx.amountCents)).take 5

variable {db scans tenantId} {tx : BankTransaction}

theorem proposal_outgoing (neg : tx.amountCents < 0) : proposal db scans tenantId tx =
    (bigintParam (amount tx).abs).map fun cents => outgoing tx (amount tx).abs
      (((scans.supplierInvoices tx.id).order (db.supplierInvoices.rows.filter fun si =>
        openSupplierInvoice tenantId si ∧ si.totalCents = cents)).take 5) := by
  rw [proposal]
  simp only [(amount_lt tx).mpr neg, if_true, supplierCandidates]
  cases bigintParam (amount tx).abs <;> rfl

theorem proposal_incoming (nonneg : 0 ≤ tx.amountCents) : proposal db scans tenantId tx =
    (invoiceCandidates db (scans.invoices tx.id) tenantId).map (incoming tx (amount tx).abs) := by
  have sign : ¬ (amount tx).lt (.finite 0) = true := by
    rw [amount_lt]
    omega
  rw [proposal]
  simp only [if_neg sign]
  cases invoiceCandidates db (scans.invoices tx.id) tenantId <;> rfl

theorem invoiceCandidates_ok {scan : Scan Invoice} {candidates : List Invoice} :
    invoiceCandidates db scan tenantId = .ok candidates ↔
      "paid" ∈ db.invoiceStatusEnum ∧ "cancelled" ∈ db.invoiceStatusEnum ∧ page db scan tenantId = candidates := by
  rw [invoiceCandidates]
  simp only [enumLiteral, bind_eq_ok, ensure_eq_ok, pure_eq_ok, exists_const]

theorem proposal_transaction {p : ReconciliationProposal} (ok : proposal db scans tenantId tx = .ok (some p)) :
    p.bankTransactionId = tx.id := by
  by_cases neg : tx.amountCents < 0
  · rw [proposal_outgoing neg, map_eq_ok] at ok
    obtain ⟨cents, -, proposed⟩ := ok
    exact (outgoing_eq_some proposed).1
  · rw [proposal_incoming (not_lt.mp neg), map_eq_ok] at ok
    obtain ⟨candidates, -, proposed⟩ := ok
    obtain ⟨c, -, rfl⟩ := Option.map_eq_some_iff.mp proposed
    rfl

structure Settled (db : Db) (tenantId : Uuid) (tx : BankTransaction) (found : Option ReconciliationProposal) : Prop where
  complete : (∃ type id, Matches db tenantId tx type id) → found.isSome
  sound : ∀ p, found = some p → Matches db tenantId tx p.proposedDocumentType p.proposedDocumentId

theorem mem_order {cents : ℤ} {si : SupplierInvoice} (scan : Scan SupplierInvoice) :
    si ∈ scan.order (db.supplierInvoices.rows.filter fun si => openSupplierInvoice tenantId si ∧ si.totalCents = cents) ↔
      si ∈ db.supplierInvoices.rows ∧ openSupplierInvoice tenantId si = true ∧ si.totalCents = cents := by
  rw [scan.mem, List.mem_filter, decide_eq_true_eq]

theorem proposal_spelled (neg : tx.amountCents < 0) (spelled : Spelled db tenantId tx) :
    proposal db scans tenantId tx = .ok (outgoing tx (amount tx).abs (equals db scans tenantId tx)) := by
  obtain ⟨cents, param, rfl | none⟩ := spelled
  · rw [proposal_outgoing neg, param]
    rfl
  -- Neither query finds a row.
  · have empty (n : ℤ) (apart : n = cents ∨ n = -tx.amountCents) : (db.supplierInvoices.rows.filter fun si =>
        openSupplierInvoice tenantId si ∧ si.totalCents = n) = [] := by
      rw [List.filter_eq_nil_iff]
      intro si mem
      rw [decide_eq_true_eq]
      rintro ⟨isOpen, total⟩
      obtain ⟨one, two⟩ := none si mem isOpen
      obtain rfl | rfl := apart
      · exact one total
      · exact two total
    rw [proposal_outgoing neg, param, equals, empty _ (.inr rfl)]
    simp only [Except.map]
    rw [empty _ (.inl rfl)]

theorem spelled_of_settled (neg : tx.amountCents < 0) {found : Option ReconciliationProposal}
    (ok : proposal db scans tenantId tx = .ok found) (settled : Settled db tenantId tx found) :
    Spelled db tenantId tx := by
  rw [proposal_outgoing neg, map_eq_ok] at ok
  obtain ⟨cents, param, rfl⟩ := ok
  refine ⟨cents, param, ?_⟩
  by_cases same : cents = -tx.amountCents
  · exact .inl same
  right
  -- What another parameter finds would be proposed.
  have none : outgoing tx (amount tx).abs (((scans.supplierInvoices tx.id).order
      (db.supplierInvoices.rows.filter fun si => openSupplierInvoice tenantId si ∧ si.totalCents = cents)).take 5) =
        none := by
    rw [Option.eq_none_iff_forall_ne_some]
    intro p proposed
    obtain ⟨-, type, si, mem, id, -⟩ := outgoing_eq_some proposed
    obtain ⟨row, -, total⟩ := (mem_order _).mp (List.mem_of_mem_take mem)
    have matched := settled.sound p proposed
    rw [type] at matched
    obtain ⟨-, si', row', id', -, total'⟩ := matched
    have eq : si' = si := List.inj_on_of_nodup_map db.supplierInvoices.nodup row' row (id'.trans id)
    rw [eq, total] at total'
    exact same total'
  intro si mem isOpen
  constructor
  · intro total
    rw [outgoing_eq_none, (scans.supplierInvoices tx.id).take_eq_nil (by norm_num)] at none
    have there := (mem_order (scans.supplierInvoices tx.id)).mpr ⟨mem, isOpen, total⟩
    rw [(scans.supplierInvoices tx.id).mem, none] at there
    cases there
  · intro total
    have some := settled.complete ⟨.supplierInvoice, si.id, neg, si, mem, rfl, isOpen, total⟩
    rw [none] at some
    cases some

theorem mem_equals {si : SupplierInvoice} (mem : si ∈ equals db scans tenantId tx) :
    si ∈ db.supplierInvoices.rows ∧ openSupplierInvoice tenantId si = true ∧ si.totalCents = -tx.amountCents :=
  (mem_order _).mp (List.mem_of_mem_take mem)

theorem settled_equals (neg : tx.amountCents < 0) :
    Settled db tenantId tx (outgoing tx (amount tx).abs (equals db scans tenantId tx)) where
  complete := by
    rintro ⟨type, id, matched⟩
    rw [Option.isSome_iff_ne_none, Ne, outgoing_eq_none, equals, Scan.take_eq_nil _ (by norm_num)]
    intro empty
    cases type with
    | invoice => exact absurd matched.1 (not_le.mpr neg)
    | supplierInvoice =>
        obtain ⟨-, si, mem, -, isOpen, total⟩ := matched
        have there := (mem_order (scans.supplierInvoices tx.id)).mpr ⟨mem, isOpen, total⟩
        rw [Scan.mem, empty] at there
        cases there
  sound := by
    intro p proposed
    obtain ⟨-, type, si, mem, id, -⟩ := outgoing_eq_some proposed
    obtain ⟨row, isOpen, total⟩ := mem_equals mem
    rw [type]
    exact ⟨neg, si, row, id.symm, isOpen, total⟩

theorem settled_incoming (nonneg : 0 ≤ tx.amountCents) :
    Settled db tenantId tx (incoming tx (amount tx).abs (page db (scans.invoices tx.id) tenantId)) ↔
      ∀ i ∈ db.invoices.rows, openInvoice tenantId i → i.totalAmount.units = tx.amountCents →
        ∃ j ∈ page db (scans.invoices tx.id) tenantId, j.totalAmount.units = tx.amountCents := by
  constructor
  · intro settled i mem isOpen units
    have some := settled.complete ⟨.invoice, i.id, nonneg, i, mem, rfl, isOpen, units⟩
    rw [incoming, Option.isSome_map, List.find?_isSome] at some
    obtain ⟨j, paged, same⟩ := some
    exact ⟨j, paged, (exact_iff nonneg j).mp same⟩
  · intro found
    constructor
    · rintro ⟨type, id, matched⟩
      cases type with
      | supplierInvoice => exact absurd matched.1 (not_lt.mpr nonneg)
      | invoice =>
          obtain ⟨-, i, mem, -, isOpen, units⟩ := matched
          obtain ⟨j, paged, same⟩ := found i mem isOpen units
          rw [incoming, Option.isSome_map, List.find?_isSome]
          exact ⟨j, paged, (exact_iff nonneg j).mpr same⟩
    · intro p proposed
      obtain ⟨c, first, rfl⟩ := Option.map_eq_some_iff.mp proposed
      have mem := List.mem_of_mem_take (List.mem_of_find?_eq_some first)
      rw [Scan.mem, List.mem_filter] at mem
      exact ⟨nonneg, c, mem.1, rfl, mem.2, (exact_iff nonneg c).mp (List.find?_some first)⟩

def Fits (db : Db) (scans : Scans) (tenantId : Uuid) (tx : BankTransaction) : Prop :=
  (0 ≤ tx.amountCents → Paged db scans tenantId tx) ∧ (tx.amountCents < 0 → Spelled db tenantId tx)

theorem fits_iff : Fits db scans tenantId tx ↔
    ∃ found, proposal db scans tenantId tx = .ok found ∧ Settled db tenantId tx found := by
  by_cases neg : tx.amountCents < 0
  · rw [Fits, and_iff_right fun nonneg => absurd neg (not_lt.mpr nonneg)]
    constructor
    · intro spelled
      exact ⟨_, proposal_spelled neg (spelled neg), settled_equals neg⟩
    · rintro ⟨found, ok, settled⟩ -
      exact spelled_of_settled neg ok settled
  · have nonneg := not_lt.mp neg
    rw [Fits, and_iff_left fun h => absurd h neg, proposal_incoming nonneg]
    constructor
    · intro paged
      obtain ⟨paid, cancelled, found⟩ := paged nonneg
      exact ⟨_, map_eq_ok.mpr ⟨_, invoiceCandidates_ok.mpr ⟨paid, cancelled, rfl⟩, rfl⟩,
        (settled_incoming nonneg).mpr found⟩
    · rintro ⟨found, ok, settled⟩ -
      obtain ⟨candidates, taken, rfl⟩ := map_eq_ok.mp ok
      obtain ⟨paid, cancelled, rfl⟩ := invoiceCandidates_ok.mp taken
      exact ⟨paid, cancelled, (settled_incoming nonneg).mp settled⟩

theorem sole_outgoing (neg : tx.amountCents < 0) {type : DocumentType} {id : Uuid} :
    Sole db scans tenantId tx type id ↔
      ∃ p, outgoing tx (amount tx).abs (equals db scans tenantId tx) = some p ∧
        p.proposedDocumentType = type ∧ p.proposedDocumentId = id ∧ p.confidence = .high := by
  have single (si : SupplierInvoice) : equals db scans tenantId tx = [si] ↔
      (db.supplierInvoices.rows.filter fun si => openSupplierInvoice tenantId si ∧ si.totalCents = -tx.amountCents) = [si] :=
    Scan.take_eq_singleton _ (by norm_num)
  constructor
  · intro sole
    cases type with
    | invoice => exact absurd sole.1 (not_le.mpr neg)
    | supplierInvoice =>
        obtain ⟨si, rows, rfl⟩ := List.map_eq_singleton_iff.mp sole.2
        rw [(single si).mpr rows]
        exact ⟨_, rfl, rfl, rfl, rfl⟩
  · rintro ⟨p, proposed, rfl, rfl, high⟩
    obtain ⟨-, type, si, -, id, sure⟩ := outgoing_eq_some proposed
    rw [type, id]
    refine ⟨neg, ?_⟩
    rw [(single si).mp (sure.mp high), List.map_singleton]

theorem sole_incoming (nonneg : 0 ≤ tx.amountCents) {type : DocumentType} {id : Uuid} :
    Sole db scans tenantId tx type id ↔
      ∃ p, incoming tx (amount tx).abs (page db (scans.invoices tx.id) tenantId) = some p ∧
        p.proposedDocumentType = type ∧ p.proposedDocumentId = id ∧ p.confidence = .high := by
  have same : (fun i : Invoice => decide (i.totalAmount.units = tx.amountCents)) = exact (amount tx).abs := by
    funext i
    rw [Bool.eq_iff_iff, exact_iff nonneg, decide_eq_true_eq]
  constructor
  · intro sole
    cases type with
    | supplierInvoice => exact absurd sole.1 (not_lt.mpr nonneg)
    | invoice =>
        obtain ⟨-, i, first, id, named⟩ := sole
        rw [same] at first
        rw [incoming, first]
        exact ⟨_, rfl, rfl, id, if_pos named⟩
  · rintro ⟨p, proposed, rfl, rfl, high⟩
    obtain ⟨i, first, rfl⟩ := Option.map_eq_some_iff.mp proposed
    rw [← same] at first
    refine ⟨nonneg, i, first, rfl, ?_⟩
    by_contra unnamed
    simp [unnamed] at high

theorem sole_iff (fits : Fits db scans tenantId tx) {type : DocumentType} {id : Uuid} :
    Sole db scans tenantId tx type id ↔ ∃ p, proposal db scans tenantId tx = .ok (some p) ∧
      p.proposedDocumentType = type ∧ p.proposedDocumentId = id ∧ p.confidence = .high := by
  by_cases neg : tx.amountCents < 0
  · simp only [sole_outgoing neg, proposal_spelled neg (fits.2 neg), Except.ok.injEq]
  · have nonneg := not_lt.mp neg
    obtain ⟨paid, cancelled, -⟩ := fits.1 nonneg
    simp only [sole_incoming nonneg, proposal_incoming nonneg,
      invoiceCandidates_ok.mpr ⟨paid, cancelled, rfl⟩, Except.map, Except.ok.injEq]

/-! ## All transactions -/

theorem mem_propose {limit : ℕ} {proposals : List ReconciliationProposal}
    (ok : propose db scans tenantId limit = .ok proposals) {p : ReconciliationProposal} :
    p ∈ proposals ↔ ∃ tx ∈ txs db scans tenantId limit, proposal db scans tenantId tx = .ok (some p) := by
  rw [propose, bind_eq_ok] at ok
  obtain ⟨found, run, ok⟩ := ok
  obtain rfl := pure_eq_ok.mp ok
  simp [List.mem_filterMap, mapM_mem run]

theorem propose_isOk {limit : ℕ} : (∃ proposals, propose db scans tenantId limit = .ok proposals) ↔
    ∀ tx ∈ txs db scans tenantId limit, ∃ found, proposal db scans tenantId tx = .ok found := by
  rw [← mapM_isOk]
  simp only [propose, bind_eq_ok, pure_eq_ok]
  constructor
  · rintro ⟨_, found, run, -⟩
    exact ⟨found, run⟩
  · rintro ⟨found, run⟩
    exact ⟨_, found, run, rfl⟩

theorem mem_txs {limit : ℕ} (mem : tx ∈ txs db scans tenantId limit) : tx ∈ db.transactions.rows := by
  have sorted := List.mem_of_mem_take mem
  rw [List.mem_insertionSort, Scan.mem] at sorted
  exact List.mem_of_mem_filter sorted

theorem eq_of_id {limit : ℕ} {tx' : BankTransaction} (mem : tx ∈ txs db scans tenantId limit)
    (mem' : tx' ∈ txs db scans tenantId limit) (same : tx.id = tx'.id) : tx = tx' :=
  List.inj_on_of_nodup_map db.transactions.nodup (mem_txs mem) (mem_txs mem') same

theorem settled_of_reconciled {limit : ℕ} {proposals : List ReconciliationProposal}
    (ok : propose db scans tenantId limit = .ok proposals)
    (reconciled : Reconciled db tenantId (txs db scans tenantId limit) proposals)
    (mem : tx ∈ txs db scans tenantId limit) {found : Option ReconciliationProposal}
    (run : proposal db scans tenantId tx = .ok found) : Settled db tenantId tx found := by
  constructor
  · intro matched
    obtain ⟨p, proposed, id⟩ := reconciled.complete tx mem matched
    obtain ⟨tx', mem', run'⟩ := (mem_propose ok).mp proposed
    obtain rfl := eq_of_id mem mem' (id.symm.trans (proposal_transaction run'))
    obtain rfl := Except.ok.inj (run.symm.trans run')
    rfl
  · rintro p rfl
    obtain ⟨tx', mem', id, matched⟩ := reconciled.sound p ((mem_propose ok).mpr ⟨tx, mem, run⟩)
    rwa [eq_of_id mem mem' ((proposal_transaction run).symm.trans id.symm)]

theorem propose_schema (schema : db.invoiceStatusEnum = invoice_status_enum) {limit : ℕ}
    (mem : tx ∈ txs db scans tenantId limit) (nonneg : 0 ≤ tx.amountCents) :
    ¬ ∃ proposals, propose db scans tenantId limit = .ok proposals := by
  rw [propose_isOk]
  intro runs
  obtain ⟨found, run⟩ := runs tx mem
  rw [proposal_incoming nonneg, map_eq_ok] at run
  obtain ⟨candidates, taken, -⟩ := run
  obtain ⟨paid, -, -⟩ := invoiceCandidates_ok.mp taken
  rw [schema] at paid
  exact absurd paid (by decide)

theorem propose_reconciled (db : Db) (scans : Scans) (tenantId : Uuid) (limit : ℕ) :
    (∃ proposals, propose db scans tenantId limit = .ok proposals ∧
      Reconciled db tenantId (txs db scans tenantId limit) proposals) ↔
        Reconcilable db scans tenantId (txs db scans tenantId limit) := by
  constructor
  · rintro ⟨proposals, ok, reconciled⟩
    have fits : ∀ tx ∈ txs db scans tenantId limit, Fits db scans tenantId tx := by
      intro tx mem
      obtain ⟨found, run⟩ := propose_isOk.mp ⟨proposals, ok⟩ tx mem
      exact fits_iff.mpr ⟨found, run, settled_of_reconciled ok reconciled mem run⟩
    refine ⟨fun tx mem => (fits tx mem).1, fun tx mem => (fits tx mem).2, ?_⟩
    intro tx mem tx' mem' type id sole sole'
    obtain ⟨p, run, rfl, rfl, high⟩ := (sole_iff (fits tx mem)).mp sole
    obtain ⟨q, run', type, id, high'⟩ := (sole_iff (fits tx' mem')).mp sole'
    have same := reconciled.exclusive p ((mem_propose ok).mpr ⟨tx, mem, run⟩)
      q ((mem_propose ok).mpr ⟨tx', mem', run'⟩) high high' type.symm id.symm
    rwa [proposal_transaction run, proposal_transaction run'] at same
  · rintro ⟨paged, spelled, sole⟩
    have fits (tx : BankTransaction) (mem : tx ∈ txs db scans tenantId limit) : Fits db scans tenantId tx :=
      ⟨paged tx mem, spelled tx mem⟩
    obtain ⟨proposals, ok⟩ : ∃ proposals, propose db scans tenantId limit = .ok proposals := by
      rw [propose_isOk]
      intro tx mem
      obtain ⟨found, run, -⟩ := fits_iff.mp (fits tx mem)
      exact ⟨found, run⟩
    refine ⟨proposals, ok, ?_, ?_, ?_⟩
    · intro tx mem matched
      obtain ⟨found, run, settled⟩ := fits_iff.mp (fits tx mem)
      obtain ⟨p, rfl⟩ := Option.isSome_iff_exists.mp (settled.complete matched)
      exact ⟨p, (mem_propose ok).mpr ⟨tx, mem, run⟩, proposal_transaction run⟩
    · intro p proposed
      obtain ⟨tx, mem, run⟩ := (mem_propose ok).mp proposed
      obtain ⟨found, run', settled⟩ := fits_iff.mp (fits tx mem)
      obtain rfl := Except.ok.inj (run'.symm.trans run)
      exact ⟨tx, mem, (proposal_transaction run).symm, settled.sound p rfl⟩
    · intro p proposed q proposed' high high' type id
      obtain ⟨tx, mem, run⟩ := (mem_propose ok).mp proposed
      obtain ⟨tx', mem', run'⟩ := (mem_propose ok).mp proposed'
      rw [proposal_transaction run, proposal_transaction run']
      exact sole tx mem tx' mem' q.proposedDocumentType q.proposedDocumentId
        ((sole_iff (fits tx mem)).mpr ⟨p, run, type, id, high⟩)
        ((sole_iff (fits tx' mem')).mpr ⟨q, run', rfl, rfl, high'⟩)

end

def rent (id : Uuid) : BankTransaction where
  id := id
  tenantId := 1
  valueDate := ⟨2026, 4, 1, Sample.fifteenthOfApril.year_digits, Sample.fifteenthOfApril.month_range, by decide⟩
  amountCents := -12200
  description := "CANONE"
  reconciliationStatus := .unmatched
  bigint := by decide

def rentInvoice : SupplierInvoice where
  id := 7
  tenantId := 1
  supplierId := 3
  supplierInvoiceNumber := "12/2026"
  subtotalCents := 10000
  taxCents := 2200
  totalCents := 12200
  status := .approved
  poIds := []
  discrepancies := none
  matchedAt := none

/-- The rent that is paid twice is proposed for its one invoice twice. -/
theorem propose_twice :
    let db : Db := ⟨⟨[rent 1, rent 2], by decide⟩, ∅, ⟨[rentInvoice], by decide⟩, invoice_status_enum⟩
    let scans : Scans := ⟨.inOrder, fun _ => .inOrder, fun _ => .inOrder⟩
    ¬ ∃ proposals, propose db scans 1 100 = .ok proposals ∧ Reconciled db 1 (txs db scans 1 100) proposals := by
  intro db scans
  rintro ⟨proposals, ok, reconciled⟩
  have run : propose db scans 1 100 = .ok ([1, 2].map fun tx => ⟨tx, .supplierInvoice, 7,
      "Exact amount match (12200 cents) on a single open SI", .high⟩) := by decide +kernel
  obtain rfl := Except.ok.inj (run.symm.trans ok)
  have same := reconciled.exclusive _ List.mem_cons_self _ (List.mem_cons_of_mem _ List.mem_cons_self)
    rfl rfl rfl rfl
  exact absurd same (by decide)

end SmartErp.Treasury.AutoReconciler
