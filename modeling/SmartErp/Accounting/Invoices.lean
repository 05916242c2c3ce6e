import SmartErp.Failure
import SmartErp.Foundations.Classes
import SmartErp.Foundations.Table

/-!
# Invoices and the journal

`accounting.service.ts` over the tables of `accounting.entity.ts`. Row ids and the clock come from
outside. Columns that no operation here reads are left out.
-/

namespace SmartErp.Accounting
open Foundations

inductive InvoiceDocumentType where
  | TD01
  | TD02
  | TD04
  | TD05
  | TD17
  | TD18
  | TD19
  | TD24
  | TD26
  deriving DecidableEq

inductive InvoiceStatus where
  | draft
  | queued
  | sent
  | received
  | accepted
  | rejected
  | notDelivered
  | expired
  | cancelled
  deriving DecidableEq

def InvoiceStatus.text : InvoiceStatus → String
  | draft => "draft"
  | queued => "queued"
  | sent => "sent"
  | received => "received"
  | accepted => "accepted"
  | rejected => "rejected"
  | notDelivered => "not_delivered"
  | expired => "expired"
  | cancelled => "cancelled"

def daysInMonth (year month : ℕ) : ℕ :=
  if month = 2 then (if year % 4 = 0 ∧ (year % 100 ≠ 0 ∨ year % 400 = 0) then 29 else 28)
  else if month = 4 ∨ month = 6 ∨ month = 9 ∨ month = 11 then 30 else 31

/-- A `date` column, with the four digits that a JSON date has for the year. -/
structure Date where
  year : ℕ
  month : ℕ
  day : ℕ
  year_digits : year < 10000
  month_range : 1 ≤ month ∧ month ≤ 12
  day_range : 1 ≤ day ∧ day ≤ daysInMonth year month
  deriving DecidableEq

inductive CustomerType where
  | business
  | publicAdministration
  | individual
  | foreign
  deriving DecidableEq

structure Customer where
  id : Uuid
  tenantId : Uuid
  name : String
  customerType : CustomerType
  vatNumber : Option String
  fiscalCode : Option String
  sdiDestinationCode : Option String
  pecEmail : Option String
  address : Option String
  city : Option String
  postalCode : Option String
  province : Option String
  country : Option String
  splitPayment : Bool
  deriving DecidableEq

structure InvoiceLineDto where
  description : String
  quantity : Amount
  unitPrice : Amount
  ivaRate : Amount
  ivaNature : Option String := none
  ivaRate_max : ivaRate.value ≤ 100

structure CreateInvoiceDto where
  documentType : Option InvoiceDocumentType := none
  invoiceDate : Date
  customerId : Uuid
  customerName : String
  lines : List InvoiceLineDto
  notes : Option String := none

structure InvoiceLine where
  description : String
  quantity : ℚ
  unitPrice : ℚ
  ivaRate : ℚ
  ivaNature : Option String
  lineTotal : ℚ
  deriving DecidableEq

structure Invoice where
  id : Uuid
  tenantId : Uuid
  documentType : InvoiceDocumentType
  number : String
  fiscalYear : ℕ
  invoiceDate : Date
  customerId : Uuid
  customerName : String
  status : InvoiceStatus
  subtotalAmount : Numeric 12 2
  taxAmount : Numeric 12 2
  totalAmount : Numeric 12 2
  lines : List InvoiceLine
  submittedAt : Option ℕ
  notes : Option String
  deriving DecidableEq

structure JournalLine where
  accountId : String
  accountCode : String
  debit : JsNumber
  credit : JsNumber
  description : Option String
  deriving DecidableEq

structure JournalEntry where
  tenantId : Uuid
  reference : String
  entryDate : ℕ
  journal : String
  description : String
  lines : List JournalLine
  totalDebit : Numeric 12 2
  totalCredit : Numeric 12 2
  isPosted : Bool
  deriving DecidableEq

structure Db where
  customers : Table Customer.id
  invoices : Table Invoice.id
  journalEntries : List JournalEntry
  deriving DecidableEq

/-! ## Creation -/

/-- `!line.ivaNature`: neither `undefined` nor the empty text names a natura. -/
def noNature (ivaNature : Option String) : Bool := ivaNature.getD "" = ""

namespace InvoiceLineDto

def total (l : InvoiceLineDto) : JsNumber := (l.quantity.number.times l.unitPrice.number).fixed 2

def roundedTax (l : InvoiceLineDto) : JsNumber :=
  ((l.total.times l.ivaRate.number).dividedBy (.finite 100)).fixed 2

def line (l : InvoiceLineDto) : InvoiceLine where
  description := l.description
  quantity := l.quantity.value
  unitPrice := l.unitPrice.value
  ivaRate := l.ivaRate.value
  ivaNature := l.ivaNature
  -- An infinite total is refused with the subtotal.
  lineTotal := l.total.value

end InvoiceLineDto

def Db.countInvoices (db : Db) (tenantId : Uuid) (fiscalYear : ℕ) : ℕ :=
  db.invoices.rows.countP fun i => i.tenantId = tenantId ∧ i.fiscalYear = fiscalYear

/-- `String(count + 1).padStart(6, '0')` -/
def invoiceNumber (count : ℕ) : String :=
  String.ofList ((Nat.toDigits 10 (count + 1)).leftpad 6 '0')

def draftInvoice (tenantId id : Uuid) (number : String) (dto : CreateInvoiceDto) :
    Except Failure Invoice := do
  let subtotal := JsNumber.added (dto.lines.map (·.total))
  let tax := JsNumber.added ((dto.lines.filter (noNature ·.ivaNature)).map (·.roundedTax))
  let subtotalAmount ← numericParam 12 2 (subtotal.fixed 2)
  let taxAmount ← numericParam 12 2 (tax.fixed 2)
  let totalAmount ← numericParam 12 2 ((subtotal.plus tax).fixed 2)
  return {
    id, tenantId, number, subtotalAmount, taxAmount, totalAmount
    lines := dto.lines.map (·.line)
    documentType := dto.documentType.getD .TD01
    fiscalYear := dto.invoiceDate.year
    invoiceDate := dto.invoiceDate
    customerId := dto.customerId
    customerName := dto.customerName
    status := .draft
    submittedAt := none
    notes := dto.notes }

def insertInvoice (db : Db) (invoice : Invoice) : Except Failure Db := do
  ensure (db.invoices.find? invoice.id = none) (.database "invoices_pkey")
  ensure (∀ i ∈ db.invoices.rows, ¬ (i.tenantId = invoice.tenantId ∧ i.number = invoice.number ∧
    i.fiscalYear = invoice.fiscalYear)) (.database "ux_inv_tenant_num_year")
  return { db with invoices := db.invoices.save invoice }

def createInvoice (db : Db) (tenantId id : Uuid) (dto : CreateInvoiceDto) : Except Failure Db := do
  let number := invoiceNumber (db.countInvoices tenantId dto.invoiceDate.year)
  let invoice ← draftInvoice tenantId id number dto
  insertInvoice db invoice

def getInvoice (db : Db) (tenantId id : Uuid) : Except Failure Invoice :=
  require ((db.invoices.find? id).filter (·.tenantId = tenantId)) (.notFound s!"Invoice {id} not found")

/-! ## Posting -/

namespace ACC

def CREDITI_CLIENTI : String := "01.04"
def IVA_DEBITO : String := "02.02.001"
def RICAVI_VENDITA : String := "04.01.001"

end ACC

def invoiceReference (number : String) (fiscalYear : ℕ) : String := s!"INV-{number}-{fiscalYear}"

namespace Invoice

def reference (invoice : Invoice) : String := invoiceReference invoice.number invoice.fiscalYear

def receivable (invoice : Invoice) (splitPayment : Bool) : Numeric 12 2 :=
  if splitPayment then invoice.subtotalAmount else invoice.totalAmount

def journalLines (invoice : Invoice) (splitPayment : Bool) : List JournalLine :=
  [{ accountId := ""
     accountCode := ACC.CREDITI_CLIENTI
     debit := (invoice.receivable splitPayment).number.fixed 2
     credit := .finite 0
     description := some s!"Fattura {invoice.number}/{invoice.fiscalYear} verso {invoice.customerName}" },
   { accountId := ""
     accountCode := ACC.RICAVI_VENDITA
     debit := .finite 0
     credit := invoice.subtotalAmount.number.fixed 2
     description := some s!"Ricavi fattura {invoice.number}/{invoice.fiscalYear}" }] ++
  if ¬ splitPayment ∧ (JsNumber.finite 0).lt invoice.taxAmount.number then
    [{ accountId := ""
       accountCode := ACC.IVA_DEBITO
       debit := .finite 0
       credit := invoice.taxAmount.number.fixed 2
       description := some s!"IVA fattura {invoice.number}/{invoice.fiscalYear}" }]
  else []

end Invoice

def Db.customer (db : Db) (invoice : Invoice) : Option Customer :=
  (db.customers.find? invoice.customerId).filter (·.tenantId = invoice.tenantId)

/-- `customer?.splitPayment === true` -/
def splits (customer : Option Customer) : Bool := (customer.map (·.splitPayment)).getD false

/-- `Math.abs(totalDebit - totalCredit) > 0.001` -/
def unbalanced (totalDebit totalCredit : JsNumber) : Bool :=
  (JsNumber.finite (1/1000)).double.lt (totalDebit.minus totalCredit).abs

/-- The two writes of one transaction. -/
def postInvoice (db : Db) (invoice : Invoice) (splitPayment : Bool) (now : ℕ) : Except Failure Db := do
  let lines := invoice.journalLines splitPayment
  let totalDebit := JsNumber.added (lines.map (·.debit))
  let totalCredit := JsNumber.added (lines.map (·.credit))
  ensure (¬ unbalanced totalDebit totalCredit) (.badRequest
    s!"Auto-generated journal unbalanced: debit {totalDebit.toFixed 2} vs credit {totalCredit.toFixed 2}")
  let debitColumn ← numericParam 12 2 (totalDebit.fixed 2)
  let creditColumn ← numericParam 12 2 (totalCredit.fixed 2)
  return { db with
    journalEntries := db.journalEntries ++ [{
      lines
      tenantId := invoice.tenantId
      reference := invoice.reference
      entryDate := now
      journal := "vendite"
      description := s!"Registrazione fattura {invoice.number}/{invoice.fiscalYear}"
      totalDebit := debitColumn
      totalCredit := creditColumn
      isPosted := true }]
    invoices := db.invoices.save { invoice with status := .accepted } }

def acceptInvoice (db : Db) (tenantId id : Uuid) (now : ℕ) : Except Failure Db := do
  let invoice ← getInvoice db tenantId id
  if invoice.status = .accepted then return db
  postInvoice db invoice (splits (db.customer invoice)) now

def onlyDraft (invoice : Invoice) : Except Failure Unit :=
  ensure (invoice.status = .draft) (.badRequest
    s!"Only DRAFT invoices can be queued for SDI; current status: {invoice.status.text}")

def saveQueued (db : Db) (invoice : Invoice) (now : ℕ) : Db :=
  { db with invoices := db.invoices.save { invoice with status := .queued, submittedAt := some now } }

def queueInvoiceForSdi (db : Db) (tenantId id : Uuid) (now : ℕ) : Except Failure Db := do
  let invoice ← getInvoice db tenantId id
  onlyDraft invoice
  return saveQueued db invoice now

/-! ## What an operation that succeeds has done -/

theorem getInvoice_ok {db : Db} {tenantId id : Uuid} {invoice : Invoice}
    (ok : getInvoice db tenantId id = .ok invoice) :
    db.invoices.find? id = some invoice ∧ invoice.id = id ∧ invoice.tenantId = tenantId := by
  rw [getInvoice, require_eq_ok, Option.filter_eq_some_iff] at ok
  exact ⟨ok.1, Table.key_of_find? ok.1, by simpa using ok.2⟩

theorem insertInvoice_ok {db db' : Db} {invoice : Invoice} (ok : insertInvoice db invoice = .ok db') :
    db.invoices.find? invoice.id = none ∧
      (∀ i ∈ db.invoices.rows, ¬ (i.tenantId = invoice.tenantId ∧ i.number = invoice.number ∧
        i.fiscalYear = invoice.fiscalYear)) ∧
      db' = { db with invoices := db.invoices.save invoice } := by
  simp only [insertInvoice, bind_eq_ok, ensure_eq_ok, pure_eq_ok] at ok
  obtain ⟨-, fresh, -, free, rfl⟩ := ok
  exact ⟨fresh, free, rfl⟩

namespace InvoiceLine

def taxed (l : InvoiceLine) : Bool := noNature l.ivaNature

def total (l : InvoiceLine) : JsNumber := .finite l.lineTotal

def tax (l : InvoiceLine) : JsNumber := (l.total.times (.finite l.ivaRate)).dividedBy (.finite 100)

end InvoiceLine

def subtotal (lines : List InvoiceLine) : JsNumber := .added (lines.map (·.total))

def roundedTax (lines : List InvoiceLine) : JsNumber := .added ((lines.filter (·.taxed)).map fun l => l.tax.fixed 2)

/-- What `createInvoice` stores and nothing changes later. -/
structure Drafted (dto : CreateInvoiceDto) (invoice : Invoice) : Prop where
  documentType : invoice.documentType = dto.documentType.getD .TD01
  invoiceDate : invoice.invoiceDate = dto.invoiceDate
  customerId : invoice.customerId = dto.customerId
  lines : invoice.lines = dto.lines.map (·.line)
  totals : ∀ l ∈ dto.lines, l.total = l.line.total
  subtotalAmount : (subtotal invoice.lines).Rounds 2 invoice.subtotalAmount.val
  taxAmount : (roundedTax invoice.lines).Rounds 2 invoice.taxAmount.val
  totalAmount : ((subtotal invoice.lines).plus (roundedTax invoice.lines)).Rounds 2 invoice.totalAmount.val

theorem draftInvoice_ok {tenantId id : Uuid} {number : String} {dto : CreateInvoiceDto}
    {invoice : Invoice} (ok : draftInvoice tenantId id number dto = .ok invoice) :
    invoice.status = .draft ∧ Drafted dto invoice := by
  simp only [draftInvoice, bind_eq_ok, pure_eq_ok] at ok
  obtain ⟨net, hnet, tax, htax, gross, hgross, rfl⟩ := ok
  rw [numericParam_fixed (JsNumber.double_added _) (by norm_num) (by norm_num)] at hnet htax
  rw [numericParam_fixed (JsNumber.double_plus _ _) (by norm_num) (by norm_num)] at hgross
  have totals : ∀ l ∈ dto.lines, l.total = l.line.total := by
    obtain ⟨q, sum, -⟩ := hnet
    intro l mem
    obtain ⟨x, value⟩ := (JsNumber.finite_of_foldl_plus sum).2 l.total (List.mem_map_of_mem mem)
    simp only [InvoiceLine.total, InvoiceLineDto.line, value, JsNumber.value]
  have net' : subtotal (dto.lines.map (·.line)) = .added (dto.lines.map (·.total)) := by
    rw [subtotal, List.map_map]
    exact congrArg JsNumber.added (List.map_congr_left fun l mem => (totals l mem).symm)
  have tax' : roundedTax (dto.lines.map (·.line)) =
      .added ((dto.lines.filter (noNature ·.ivaNature)).map (·.roundedTax)) := by
    rw [roundedTax, List.filter_map, List.map_map]
    refine congrArg JsNumber.added (List.map_congr_left fun l mem => ?_)
    have tax : l.line.tax = (l.line.total.times l.ivaRate.number).dividedBy (.finite 100) := rfl
    rw [InvoiceLineDto.roundedTax, totals l (List.mem_of_mem_filter mem), ← tax, Function.comp_apply]
  rw [← net'] at hnet hgross
  rw [← tax'] at htax hgross
  exact ⟨rfl, rfl, rfl, rfl, rfl, totals, hnet, htax, hgross⟩

namespace JournalEntry

/-- The amounts are kept as decimals in a `jsonb` column. -/
def debits (e : JournalEntry) : ℚ := (e.lines.map (·.debit.spelled)).sum

def credits (e : JournalEntry) : ℚ := (e.lines.map (·.credit.spelled)).sum

structure Totalled (e : JournalEntry) : Prop where
  totalDebit : (JsNumber.added (e.lines.map (·.debit))).Rounds 2 e.totalDebit.val
  totalCredit : (JsNumber.added (e.lines.map (·.credit))).Rounds 2 e.totalCredit.val

end JournalEntry

theorem postInvoice_ok {db db' : Db} {invoice : Invoice} {splitPayment : Bool} {now : ℕ}
    (ok : postInvoice db invoice splitPayment now = .ok db') :
    ∃ e : JournalEntry, e.tenantId = invoice.tenantId ∧ e.reference = invoice.reference ∧
      (e.lines = invoice.journalLines splitPayment ∧ e.Totalled ∧
        unbalanced (.added (e.lines.map (·.debit))) (.added (e.lines.map (·.credit))) = false) ∧
      db' = ⟨db.customers, db.invoices.save { invoice with status := .accepted },
        db.journalEntries ++ [e]⟩ := by
  simp only [postInvoice, bind_eq_ok, ensure_eq_ok, pure_eq_ok, Bool.not_eq_true] at ok
  obtain ⟨-, close, debit, hdebit, credit, hcredit, rfl⟩ := ok
  rw [numericParam_fixed (JsNumber.double_added _) (by norm_num) (by norm_num)] at hdebit hcredit
  refine ⟨_, rfl, rfl, ⟨rfl, ?_, ?_⟩, rfl⟩
  · exact ⟨hdebit, hcredit⟩
  · exact close

end SmartErp.Accounting
