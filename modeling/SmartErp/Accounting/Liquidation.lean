import SmartErp.Accounting.Posting

/-!
# The periodic settlement of output VAT

`ivaLiquidation` adds up the unrounded tax of the lines, the journal the rounded tax of the invoices that
are not under split payment.
-/

namespace SmartErp.Accounting
open Foundations

/-- Months counted from January of the year 0. -/
def Date.monthIndex (d : Date) : ℤ := d.year * 12 + (d.month - 1)

/-- `new Date(year, ..)` reads years below 100 as of the twentieth century. -/
def fullYear (year : ℕ) : ℤ := if year < 100 then 1900 + year else year

/-- The first and the last month of a period. `new Date(y, m, 1)` is the first day of a month and
`new Date(y, m, 0)` the last one of the month before, so the days between them are whole months. -/
def periodMonths (period : String) : Option (ℤ × ℤ) :=
  let year (ds : List Char) : ℤ := fullYear (Nat.ofDigitChars 10 ds 0) * 12
  match period.toList with
  | [a, b, c, d, '-', m, n] =>
      if [a, b, c, d].all Char.isDigit ∧ m = 'Q' ∧ n ∈ ['1', '2', '3', '4'] then
        let q : ℤ := Nat.ofDigitChars 10 [n] 0
        some (year [a, b, c, d] + (q - 1) * 3, year [a, b, c, d] + q * 3 - 1)
      else if [a, b, c, d, m, n].all Char.isDigit then
        let m : ℤ := Nat.ofDigitChars 10 [m, n] 0
        some (year [a, b, c, d] + (m - 1), year [a, b, c, d] + (m - 1))
      else none
  | _ => none

structure RateTotals where
  taxable : JsNumber
  iva : JsNumber
  deriving DecidableEq

structure IvaLiquidation where
  period : String
  totalTaxable : JsNumber
  totalIva : JsNumber
  byRate : List (String × RateTotals)
  deriving DecidableEq

def rateKey (l : InvoiceLine) : String := s!"{showNumber l.ivaRate}%"

def noTotals : RateTotals := ⟨.finite 0, .finite 0⟩

def addRate (totals : RateTotals) (l : InvoiceLine) : RateTotals :=
  ⟨totals.taxable.plus l.total, totals.iva.plus l.tax⟩

def taxedLines (invoices : List Invoice) : List InvoiceLine :=
  (invoices.flatMap (·.lines)).filter (·.taxed)

def Db.acceptedBetween (db : Db) (tenantId : Uuid) (first last : ℤ) : List Invoice :=
  db.invoices.rows.filter fun i => i.tenantId = tenantId ∧
    (first ≤ i.invoiceDate.monthIndex ∧ i.invoiceDate.monthIndex ≤ last) ∧ i.status = .accepted

def liquidation (period : String) (lines : List InvoiceLine) : IvaLiquidation where
  period
  totalTaxable := (JsNumber.added (lines.map (·.total))).fixed 2
  totalIva := (JsNumber.added (lines.map (·.tax))).fixed 2
  byRate := group rateKey (fun totals l => addRate (totals.getD noTotals) l) lines

def ivaLiquidation (scan : Scan Invoice) (db : Db) (tenantId : Uuid) (period : String) :
    Except Failure IvaLiquidation := do
  let (first, last) ← require (periodMonths period) (.badRequest s!"Invalid period format: {period}")
  return liquidation period (taxedLines (scan.order (db.acceptedBetween tenantId first last)))

/-! ## Months and quarters -/

inductive Period where
  | month (year : {y : ℕ // 1000 ≤ y ∧ y < 10000}) (month : Fin 12)
  | quarter (year : {y : ℕ // 1000 ≤ y ∧ y < 10000}) (quarter : Fin 4)

namespace Period

def yearDigits (y : ℕ) : List Char :=
  [(y / 1000).digitChar, (y / 100 % 10).digitChar, (y / 10 % 10).digitChar, (y % 10).digitChar]

/-- `YYYY-MM` or `YYYY-Qq`. -/
def text : Period → String
  | month y m => String.ofList
      (yearDigits y ++ ['-', ((m + 1 : ℕ) / 10).digitChar, ((m + 1 : ℕ) % 10).digitChar])
  | quarter y q => String.ofList (yearDigits y ++ ['-', 'Q', (q + 1 : ℕ).digitChar])

def Covers : Period → Date → Prop
  | month y m, d => d.year = y ∧ d.month = m + 1
  | quarter y q, d => d.year = y ∧ (d.month - 1) / 3 = q

instance (p : Period) (d : Date) : Decidable (p.Covers d) :=
  match p with
  | month y m => inferInstanceAs (Decidable (d.year = y ∧ d.month = m + 1))
  | quarter y q => inferInstanceAs (Decidable (d.year = y ∧ (d.month - 1) / 3 = q))

theorem ofDigitChars_cons_digitChar {n : ℕ} (digit : n < 10) (ds : List Char) (init : ℕ) :
    Nat.ofDigitChars 10 (n.digitChar :: ds) init = Nat.ofDigitChars 10 ds (10 * init + n) := by
  rw [Nat.ofDigitChars_cons, Nat.toNat_digitChar_of_lt_ten digit]
  simp

theorem ofDigitChars_yearDigits {y : ℕ} (four : y < 10000) :
    Nat.ofDigitChars 10 (yearDigits y) 0 = y := by
  unfold yearDigits
  rw [ofDigitChars_cons_digitChar (by omega), ofDigitChars_cons_digitChar (by omega),
    ofDigitChars_cons_digitChar (by omega), ofDigitChars_cons_digitChar (by omega), Nat.ofDigitChars_nil]
  omega

theorem all_yearDigits {y : ℕ} (four : y < 10000) : (yearDigits y).all Char.isDigit = true := by
  simp [yearDigits, Nat.isDigit_digitChar]
  omega

theorem fullYear_year (y : {y : ℕ // 1000 ≤ y ∧ y < 10000}) : fullYear y = y := by
  have four := y.2.1
  exact if_neg (by omega)

theorem periodMonths_month (y : {y : ℕ // 1000 ≤ y ∧ y < 10000}) (m : Fin 12) :
    periodMonths (month y m).text = some ((y : ℤ) * 12 + m, (y : ℤ) * 12 + m) := by
  have value := ofDigitChars_yearDigits y.2.2
  have digits := all_yearDigits y.2.2
  have value' : Nat.ofDigitChars 10 [((m + 1 : ℕ) / 10).digitChar, ((m + 1 : ℕ) % 10).digitChar] 0 = m + 1 := by
    rw [ofDigitChars_cons_digitChar (by omega), ofDigitChars_cons_digitChar (by omega), Nat.ofDigitChars_nil]
    omega
  have notQ : ((m + 1 : ℕ) / 10).digitChar ≠ 'Q' := by
    intro eq
    have digit : ((m + 1 : ℕ) / 10).digitChar.isDigit = _ := Nat.isDigit_digitChar
    rw [eq, decide_eq_true (by omega)] at digit
    exact absurd digit (by decide)
  have digits' : ((m + 1 : ℕ) / 10).digitChar.isDigit = true ∧ ((m + 1 : ℕ) % 10).digitChar.isDigit = true := by
    rw [Nat.isDigit_digitChar, Nat.isDigit_digitChar]
    simp
    omega
  unfold yearDigits at value digits
  simp only [periodMonths, text, String.toList_ofList, yearDigits, List.cons_append, List.nil_append]
  rw [if_neg (fun h => notQ h.2.1)]
  simp only [List.all_cons, List.all_nil, Bool.and_true, Bool.and_eq_true] at digits ⊢
  rw [if_pos ⟨digits.1, digits.2.1, digits.2.2.1, digits.2.2.2, digits'⟩, value, value', fullYear_year]
  simp

theorem periodMonths_quarter (y : {y : ℕ // 1000 ≤ y ∧ y < 10000}) (q : Fin 4) :
    periodMonths (quarter y q).text = some ((y : ℤ) * 12 + q * 3, (y : ℤ) * 12 + q * 3 + 2) := by
  have value := ofDigitChars_yearDigits y.2.2
  have digits := all_yearDigits y.2.2
  have value' : Nat.ofDigitChars 10 [(q + 1 : ℕ).digitChar] 0 = q + 1 := by
    rw [ofDigitChars_cons_digitChar (by omega), Nat.ofDigitChars_nil]
    omega
  have listed : (q + 1 : ℕ).digitChar ∈ ['1', '2', '3', '4'] := by
    revert q
    decide
  unfold yearDigits at value digits
  simp only [periodMonths, text, String.toList_ofList, yearDigits, List.cons_append, List.nil_append]
  rw [if_pos ⟨digits, trivial, listed⟩, value, value', fullYear_year]
  push_cast
  congr 2 <;> ring

theorem covers_iff (p : Period) : ∃ first last, periodMonths p.text = some (first, last) ∧
    ∀ d : Date, (first ≤ d.monthIndex ∧ d.monthIndex ≤ last) ↔ p.Covers d := by
  cases p with
  | month y m =>
      refine ⟨_, _, periodMonths_month y m, fun d => ?_⟩
      have := d.month_range
      simp only [Date.monthIndex, Covers]
      omega
  | quarter y q =>
      refine ⟨_, _, periodMonths_quarter y q, fun d => ?_⟩
      have := d.month_range
      simp only [Date.monthIndex, Covers]
      omega

end Period

/-! ## The books after a run -/

inductive Op where
  | createInvoice (tenantId id : Uuid) (dto : CreateInvoiceDto)
  | queueInvoiceForSdi (tenantId id : Uuid) (now : ℕ)
  | acceptInvoice (tenantId id : Uuid) (now : ℕ)

def perform (db : Db) : Op → Except Failure Db
  | .createInvoice tenantId id dto => createInvoice db tenantId id dto
  | .queueInvoiceForSdi tenantId id now => queueInvoiceForSdi db tenantId id now
  | .acceptInvoice tenantId id now => acceptInvoice db tenantId id now

def next (db : Db) (op : Op) : Db := settle db (perform db op)

def opening (customers : Table Customer.id) : Db := ⟨customers, ∅, []⟩

def expectedLines (customers : Table Customer.id) (invoice : Invoice) : List JournalLine :=
  invoice.journalLines (splits ((opening customers).customer invoice))

structure Books (customers : Table Customer.id) (db : Db) : Prop where
  sameCustomers : db.customers = customers
  booked : Booked (·.lines) (expectedLines customers) db
  drafted : ∀ inv ∈ db.invoices.rows, ∃ dto, Drafted dto inv

theorem opening_books (customers : Table Customer.id) : Books customers (opening customers) where
  sameCustomers := rfl
  booked := ⟨by simp [opening], by simp [opening], by simp [opening, Db.entriesFor]⟩
  drafted := by simp [opening]

theorem drafted_save {invoices : Table Invoice.id} {inv : Invoice} (new : ∃ dto, Drafted dto inv)
    (old : ∀ i ∈ invoices.rows, ∃ dto, Drafted dto i) :
    ∀ i ∈ (invoices.save inv).rows, ∃ dto, Drafted dto i := by
  intro i mem
  rcases Table.mem_save.mp mem with rfl | ⟨mem, -⟩
  · exact new
  · exact old i mem

theorem Drafted.restated {dto : CreateInvoiceDto} {invoice : Invoice} (drafted : Drafted dto invoice)
    (status : InvoiceStatus) (submittedAt : Option ℕ) :
    Drafted dto { invoice with status, submittedAt } :=
  ⟨drafted.1, drafted.2, drafted.3, drafted.4, drafted.5, drafted.6, drafted.7, drafted.8⟩

theorem perform_drafted {db db' : Db} {op : Op} (drafted : ∀ inv ∈ db.invoices.rows, ∃ dto, Drafted dto inv)
    (ok : perform db op = .ok db') : ∀ inv ∈ db'.invoices.rows, ∃ dto, Drafted dto inv := by
  cases op with
  | createInvoice tenantId id dto =>
      obtain ⟨invoice, drafts, inserts⟩ := bind_eq_ok.mp ok
      obtain ⟨fresh, free, rfl⟩ := insertInvoice_ok inserts
      exact drafted_save ⟨dto, (draftInvoice_ok drafts).2⟩ drafted
  | queueInvoiceForSdi tenantId id now =>
      simp only [perform, queueInvoiceForSdi, bind_eq_ok, pure_eq_ok] at ok
      obtain ⟨invoice, got, -, -, rfl⟩ := ok
      obtain ⟨dto, draft⟩ := drafted invoice (Table.mem_of_find? (getInvoice_ok got).1)
      exact drafted_save ⟨dto, draft.restated .queued (some now)⟩ drafted
  | acceptInvoice tenantId id now =>
      obtain ⟨invoice, got, posts⟩ := bind_eq_ok.mp ok
      split at posts
      · exact pure_eq_ok.mp posts ▸ drafted
      · obtain ⟨e, -, -, -, rfl⟩ := postInvoice_ok posts
        obtain ⟨dto, draft⟩ := drafted invoice (Table.mem_of_find? (getInvoice_ok got).1)
        exact drafted_save ⟨dto, draft.restated .accepted invoice.submittedAt⟩ drafted

theorem next_books {customers : Table Customer.id} {db : Db} (books : Books customers db) (op : Op) :
    Books customers (next db op) := by
  apply settle_keeps books
  intro db' ok
  have drafted := perform_drafted books.drafted ok
  cases op with
  | createInvoice tenantId id dto =>
      obtain ⟨invoice, drafts, inserts⟩ := bind_eq_ok.mp ok
      have draft := (draftInvoice_ok drafts).1
      obtain ⟨fresh, free, rfl⟩ := insertInvoice_ok inserts
      exact ⟨books.sameCustomers, books.booked.insert fresh free (by simp [draft]), drafted⟩
  | queueInvoiceForSdi tenantId id now =>
      simp only [perform, queueInvoiceForSdi, bind_eq_ok, pure_eq_ok, onlyDraft, ensure_eq_ok] at ok
      obtain ⟨invoice, got, -, draft, rfl⟩ := ok
      obtain ⟨found, rfl, -⟩ := getInvoice_ok got
      have same := SameInvoice.restated invoice .queued (some now)
      exact ⟨books.sameCustomers,
        books.booked.save (Table.mem_of_find? found) same (by simp [draft]) (by simp), drafted⟩
  | acceptInvoice tenantId id now =>
      obtain ⟨invoice, got, posts⟩ := bind_eq_ok.mp ok
      obtain ⟨found, rfl, -⟩ := getInvoice_ok got
      split at posts
      · exact pure_eq_ok.mp posts ▸ books
      · rename_i open'
        obtain ⟨e, tenant, reference, ⟨lines, -⟩, rfl⟩ := postInvoice_ok posts
        have customer : db.customer invoice = (opening customers).customer invoice := by
          rw [Db.customer, books.sameCustomers]
          rfl
        rw [customer] at lines
        have same := SameInvoice.restated invoice .accepted invoice.submittedAt
        exact ⟨books.sameCustomers,
          books.booked.post (Table.mem_of_find? found) same open' rfl tenant reference lines, drafted⟩

theorem run_books {customers : Table Customer.id} {db : Db} {ops : List Op}
    (run : Run (fun _ _ => True) next (opening customers) ops db) : Books customers db :=
  run.invariant (Books customers) (opening_books customers) fun _ op books _ => next_books books op

/-! ## What is posted -/

def Db.postings (db : Db) (tenantId : Uuid) (invoices : List Invoice) : List JournalLine :=
  invoices.flatMap fun i => (db.entriesFor tenantId i.reference).flatMap (·.lines)

def netCredit (account : String) (lines : List JournalLine) : ℚ :=
  ((lines.filter (·.accountCode = account)).map fun l => l.credit.spelled - l.debit.spelled).sum

theorem Books.netCredit_postings {customers : Table Customer.id} {db : Db} (books : Books customers db)
    {tenantId : Uuid} {invoices : List Invoice}
    (rows : ∀ i ∈ invoices, i ∈ db.invoices.rows ∧ i.tenantId = tenantId) (account : String) :
    netCredit account (db.postings tenantId invoices) =
      ((invoices.filter (·.status = .accepted)).map fun i =>
        netCredit account (expectedLines customers i)).sum := by
  induction invoices with
  | nil => rfl
  | cons i invoices ih =>
      rw [List.forall_mem_cons] at rows
      obtain ⟨⟨mem, rfl⟩, rest⟩ := rows
      have entries := books.booked.entries i mem
      have lines : (db.entriesFor i.tenantId i.reference).flatMap (·.lines) =
          if i.status = .accepted then expectedLines customers i else [] := by
        rw [List.flatMap_def, entries]
        split <;> simp
      rw [Db.postings, List.flatMap_cons, lines]
      have split : netCredit account ((if i.status = .accepted then expectedLines customers i else []) ++
          db.postings i.tenantId invoices) =
        netCredit account (if i.status = .accepted then expectedLines customers i else []) +
          netCredit account (db.postings i.tenantId invoices) := by simp [netCredit]
      rw [← Db.postings, split, ih rest]
      by_cases closed : i.status = .accepted <;> simp [closed, netCredit]

theorem InvoiceLineDto.nonneg_total (l : InvoiceLineDto) :
    l.total.double = l.total ∧ (JsNumber.finite 0).le l.total = true := by
  have product : (JsNumber.finite 0).le (l.quantity.number.times l.unitPrice.number) = true :=
    JsNumber.nonneg_double (mul_nonneg l.quantity.nonneg l.unitPrice.nonneg)
  have double : (l.quantity.number.times l.unitPrice.number).double = l.quantity.number.times l.unitPrice.number :=
    JsNumber.double_double _
  exact ⟨JsNumber.double_fixed double 2, JsNumber.nonneg_fixed double product 2⟩

namespace Drafted
variable {dto : CreateInvoiceDto} {inv : Invoice} (drafted : Drafted dto inv) {l : InvoiceLine} (mem : l ∈ inv.lines)
include drafted

theorem cents : ∀ n ∈ inv.lines.map (·.total), ∃ x, Exact 2 x ∧ 0 ≤ x ∧ n = (JsNumber.finite x).double := by
  simp only [List.forall_mem_map]
  intro l mem
  obtain ⟨d, listed, rfl⟩ := List.mem_map.mp (drafted.lines ▸ mem)
  have value := drafted.totals d listed
  have least : ∀ n ∈ inv.lines.map (·.total), n.double = n ∧ (JsNumber.finite 0).le n = true := by
    rw [drafted.lines]
    simp only [List.forall_mem_map]
    intro d' mem'
    rw [← drafted.totals d' mem']
    exact d'.nonneg_total
  obtain ⟨q, sum, small, -⟩ := drafted.subtotalAmount
  have below := JsNumber.le_added least (List.mem_map_of_mem mem)
  rw [← subtotal, sum] at below
  rw [← value] at below ⊢
  have product : (JsNumber.finite 0).le (d.quantity.number.times d.unitPrice.number) = true :=
    JsNumber.nonneg_double (mul_nonneg d.quantity.nonneg d.unitPrice.nonneg)
  have double : (d.quantity.number.times d.unitPrice.number).double = d.quantity.number.times d.unitPrice.number :=
    JsNumber.double_double _
  unfold InvoiceLineDto.total at below value ⊢
  cases result : d.quantity.number.times d.unitPrice.number with
  | nan => rw [result, JsNumber.fixed_nan] at value; cases value
  | infinity negative => rw [result, JsNumber.fixed_infinity] at value; cases value
  | finite v =>
      rw [result] at below product double
      have nonneg := (JsNumber.le_finite _ _).mp product
      by_cases few : |v| < 10 ^ 21
      · exact ⟨toScale 2 v, exact_toScale 2 v, toScale_nonneg nonneg, JsNumber.fixed_small few 2⟩
      · rw [JsNumber.fixed_large few double, JsNumber.le_finite] at below
        rw [abs_of_nonneg nonneg] at few
        linarith [le_abs_self q]

theorem total_nonneg : ∀ n ∈ inv.lines.map (·.total), n.double = n ∧ (JsNumber.finite 0).le n = true := by
  intro n mem
  obtain ⟨x, -, nonneg, rfl⟩ := drafted.cents n mem
  exact ⟨JsNumber.double_double _, JsNumber.nonneg_double nonneg⟩

include mem

theorem line_nonneg : 0 ≤ l.lineTotal ∧ 0 ≤ l.ivaRate := by
  have total := (drafted.total_nonneg _ (List.mem_map_of_mem mem)).2
  rw [drafted.lines] at mem
  obtain ⟨d, -, rfl⟩ := List.mem_map.mp mem
  exact ⟨(JsNumber.le_finite _ _).mp total, d.ivaRate.nonneg⟩

theorem tax_nonneg : (JsNumber.finite 0).le l.tax = true := by
  obtain ⟨total, rate⟩ := drafted.line_nonneg mem
  exact JsNumber.nonneg_dividedBy (JsNumber.nonneg_double (mul_nonneg total rate)) (by norm_num)

omit mem

theorem roundedTax_nonneg : (JsNumber.finite 0).le (roundedTax inv.lines) = true := by
  apply JsNumber.nonneg_added
  simp only [List.forall_mem_map]
  intro l mem
  exact JsNumber.nonneg_fixed (JsNumber.double_double _) (drafted.tax_nonneg (List.mem_of_mem_filter mem)) 2

end Drafted

theorem spelled_amount (x : Numeric 12 2) : (x.number.fixed 2).spelled = x.val := by
  rw [x.fixed_number (by norm_num) (by norm_num), x.spelled_number (by norm_num) (by norm_num)]

/-- The tax of the invoices that are not under split payment. -/
def Db.charged (db : Db) (invoices : List Invoice) : ℚ :=
  ((invoices.filter fun i => !splits (db.customer i)).map (·.taxAmount.val)).sum

def byRate (f : InvoiceLine → JsNumber) (lines : List InvoiceLine) : JsNumber :=
  .added ((lines.map rateKey).eraseDups.map fun rate => .added ((lines.filter (rateKey · = rate)).map f))

def Db.datedIn (db : Db) (tenantId : Uuid) (p : Period) : List Invoice :=
  db.invoices.rows.filter fun i => i.tenantId = tenantId ∧ p.Covers i.invoiceDate

theorem liquidation_totalTaxable (period : String) (lines : List InvoiceLine) :
    (liquidation period lines).totalTaxable = (JsNumber.added (lines.map (·.total))).fixed 2 := rfl

theorem liquidation_totalIva (period : String) (lines : List InvoiceLine) :
    (liquidation period lines).totalIva = (JsNumber.added (lines.map (·.tax))).fixed 2 := rfl

theorem ivaLiquidation_ok (scan : Scan Invoice) (db : Db) (tenantId : Uuid) (p : Period) :
    ivaLiquidation scan db tenantId p.text =
      .ok (liquidation p.text (taxedLines (scan.order ((db.datedIn tenantId p).filter (·.status = .accepted))))) := by
  obtain ⟨first, last, months, covers⟩ := Period.covers_iff p
  have selected : db.acceptedBetween tenantId first last =
      (db.datedIn tenantId p).filter (·.status = .accepted) := by
    unfold Db.acceptedBetween Db.datedIn
    rw [List.filter_filter]
    congr 1
    funext i
    simp only [covers, Bool.decide_and]
    cases decide (i.tenantId = tenantId) <;> cases decide (i.status = .accepted) <;> simp
  rw [ivaLiquidation, months, ← selected]
  rfl

theorem mem_datedIn {db : Db} {tenantId : Uuid} {p : Period} {i : Invoice}
    (mem : i ∈ db.datedIn tenantId p) : i ∈ db.invoices.rows ∧ i.tenantId = tenantId := by
  have := List.mem_filter.mp mem
  simp only [decide_eq_true_eq] at this
  exact ⟨this.1, this.2.1⟩

theorem Books.customer {customers : Table Customer.id} {db : Db} (books : Books customers db)
    (invoice : Invoice) : db.customer invoice = (opening customers).customer invoice := by
  rw [Db.customer, books.sameCustomers]
  rfl

/-- What is reported is the tax credited by the journal, and the rates add up to it. -/
structure IvaLiquidation.Agrees (r : IvaLiquidation) (credited : ℚ) : Prop where
  totalIva : r.totalIva = (JsNumber.finite credited).double
  byRateIva : JsNumber.added (r.byRate.map (·.2.iva)) = r.totalIva
  byRateTaxable : JsNumber.added (r.byRate.map (·.2.taxable)) = r.totalTaxable

namespace Sample

def school : Customer where
  id := 3
  tenantId := 1
  name := "Istituto Comprensivo"
  customerType := .publicAdministration
  vatNumber := none
  fiscalCode := some "80022190233"
  sdiDestinationCode := some "UFXE7W"
  pecEmail := none
  address := none
  city := none
  postalCode := none
  province := none
  country := some "IT"
  splitPayment := true

def clients : Table Customer.id := ⟨[school], by simp⟩

def item (unitPrice ivaRate : Amount) (rate : ivaRate.value ≤ 100) : InvoiceLineDto where
  description := "Valvola A100"
  quantity := ⟨1, by decide +kernel, by norm_num⟩
  unitPrice
  ivaRate
  ivaRate_max := rate

def valve : InvoiceLineDto :=
  item ⟨100, by decide +kernel, by norm_num⟩ ⟨22, by decide +kernel, by norm_num⟩ (by norm_num)

def issue (customerId id : Uuid) (lines : List InvoiceLineDto)
    (documentType : Option InvoiceDocumentType) : List Op :=
  [.createInvoice 1 id ⟨documentType, fifteenthOfApril, customerId, "Cliente", lines, none⟩,
    .acceptInvoice 1 id 0]

def april : Period := .month ⟨2026, by decide⟩ 3

end Sample

end SmartErp.Accounting
