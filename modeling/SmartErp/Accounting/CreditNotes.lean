import SmartErp.Accounting.Liquidation

/-!
# Credit notes

`acceptInvoice` and `ivaLiquidation` never look at the document type: a credit note is posted and
settled as one more invoice.
-/

namespace SmartErp.Accounting
open Foundations

namespace Invoice

/-- A credit note counts against the documents it credits. -/
def sign (invoice : Invoice) : ℚ := if invoice.documentType = .TD04 then -1 else 1

end Invoice

def signedSum (f : Invoice → ℚ) (invoices : List Invoice) : ℚ := (invoices.map fun i => i.sign * f i).sum

def Db.issued (db : Db) (tenantId : Uuid) : List Invoice :=
  db.invoices.rows.filter fun i => i.tenantId = tenantId

def addedUp (f : InvoiceLine → JsNumber) (invoices : List Invoice) : JsNumber := .added ((taxedLines invoices).map f)

def lessCreditNotes (f : InvoiceLine → JsNumber) (invoices : List Invoice) : JsNumber :=
  (addedUp f (invoices.filter (·.documentType ≠ .TD04))).minus (addedUp f (invoices.filter (·.documentType = .TD04)))

structure Signed (db : Db) (tenantId : Uuid) : Prop where
  receivables : -netCredit ACC.CREDITI_CLIENTI (db.postings tenantId (db.issued tenantId)) =
    signedSum (fun i => (i.receivable (splits (db.customer i))).val)
      ((db.issued tenantId).filter (·.status = .accepted))
  revenue : netCredit ACC.RICAVI_VENDITA (db.postings tenantId (db.issued tenantId)) =
    signedSum (·.subtotalAmount.val) ((db.issued tenantId).filter (·.status = .accepted))
  settled : ∀ (scan : Scan Invoice) (p : Period),
    let accepted := scan.order ((db.datedIn tenantId p).filter (·.status = .accepted))
    ∃ r, ivaLiquidation scan db tenantId p.text = .ok r ∧
      r.totalTaxable = (lessCreditNotes (·.total) accepted).fixed 2 ∧
      r.totalIva = (lessCreditNotes (·.tax) accepted).fixed 2

theorem netCredit_receivable {inv : Invoice} (splitPayment : Bool) :
    -netCredit ACC.CREDITI_CLIENTI (inv.journalLines splitPayment) = (inv.receivable splitPayment).val := by
  have others : ACC.RICAVI_VENDITA ≠ ACC.CREDITI_CLIENTI ∧ ACC.IVA_DEBITO ≠ ACC.CREDITI_CLIENTI := by
    decide
  unfold netCredit Invoice.journalLines
  split <;> simp [others, spelled_amount, JsNumber.spelled_zero]

theorem netCredit_revenue {inv : Invoice} (splitPayment : Bool) :
    netCredit ACC.RICAVI_VENDITA (inv.journalLines splitPayment) = inv.subtotalAmount.val := by
  have others : ACC.CREDITI_CLIENTI ≠ ACC.RICAVI_VENDITA ∧ ACC.IVA_DEBITO ≠ ACC.RICAVI_VENDITA := by
    decide
  unfold netCredit Invoice.journalLines
  split <;> simp [others, spelled_amount, JsNumber.spelled_zero]

theorem sum_eq_signedSum_iff {f : Invoice → ℚ} {invoices : List Invoice}
    (nonneg : ∀ i ∈ invoices, 0 ≤ f i) :
    (invoices.map f).sum = signedSum f invoices ↔ ∀ i ∈ invoices, i.documentType = .TD04 → f i = 0 := by
  unfold signedSum
  induction invoices with
  | nil => simp
  | cons i invoices ih =>
      rw [List.forall_mem_cons] at nonneg ⊢
      have smaller : (invoices.map fun i => i.sign * f i).sum ≤ (invoices.map f).sum := by
        apply List.sum_le_sum
        intro j mem
        have := nonneg.2 j mem
        unfold Invoice.sign
        split <;> linarith
      rw [← ih nonneg.2, List.map_cons, List.sum_cons, List.map_cons, List.sum_cons]
      by_cases credit : i.documentType = .TD04
      · rw [Invoice.sign, if_pos credit]
        constructor
        · intro same
          exact ⟨fun _ => by linarith [nonneg.1], by linarith [nonneg.1]⟩
        · rintro ⟨zero, same⟩
          rw [zero credit, same]
          ring
      · rw [Invoice.sign, if_neg credit]
        constructor
        · intro same
          exact ⟨fun c => absurd c credit, by linarith⟩
        · rintro ⟨-, same⟩
          rw [same]
          ring

theorem InvoiceLine.tax_eq_zero {l : InvoiceLine} (nothing : l.total = .finite 0) : l.tax = .finite 0 := by
  rw [tax, nothing, JsNumber.times, JsNumber.mul_finite, zero_mul, JsNumber.double_zero, JsNumber.dividedBy,
    JsNumber.div_finite 0 (by norm_num), zero_div, JsNumber.double_zero]

/-- An invoice whose amounts are not negative, and whose lines are worth nothing when its subtotal is. -/
structure Proper (inv : Invoice) : Prop where
  subtotal : 0 ≤ inv.subtotalAmount.val
  receivable : ∀ splitPayment, 0 ≤ (inv.receivable splitPayment).val
  nothing : inv.subtotalAmount.val = 0 →
    (∀ splitPayment, (inv.receivable splitPayment).val = 0) ∧ ∀ l ∈ inv.lines, l.total = .finite 0

theorem Drafted.proper {dto : CreateInvoiceDto} {inv : Invoice} (drafted : Drafted dto inv) :
    Proper inv := by
  have totals : (JsNumber.finite 0).le (Accounting.subtotal inv.lines) = true :=
    JsNumber.nonneg_added fun n mem => (drafted.total_nonneg n mem).2
  have subtotal : 0 ≤ inv.subtotalAmount.val := drafted.subtotalAmount.nonneg totals
  refine ⟨subtotal, fun splitPayment => ?_, fun zero => ?_⟩
  · unfold Invoice.receivable
    split
    · exact subtotal
    · exact drafted.totalAmount.nonneg (JsNumber.nonneg_plus (JsNumber.double_added _) totals drafted.roundedTax_nonneg)
  · have nothing : ∀ l ∈ inv.lines, l.total = .finite 0 := by
      intro l mem
      have rounds := drafted.subtotalAmount
      rw [zero] at rounds
      exact JsNumber.zero_of_added (by norm_num) drafted.cents rounds (List.mem_map_of_mem mem)
    have net : Accounting.subtotal inv.lines = .finite 0 :=
      JsNumber.added_zeros (by simpa only [List.forall_mem_map] using nothing)
    have tax : roundedTax inv.lines = .finite 0 := by
      apply JsNumber.added_zeros
      simp only [List.forall_mem_map]
      intro l mem
      rw [InvoiceLine.tax_eq_zero (nothing l (List.mem_of_mem_filter mem)), JsNumber.fixed_zero]
    have total := drafted.totalAmount
    rw [net, tax, JsNumber.plus_zero JsNumber.double_zero] at total
    refine ⟨fun splitPayment => ?_, nothing⟩
    unfold Invoice.receivable
    split
    · exact zero
    · exact total.unique ⟨0, rfl, by norm_num, toScale_of_exact (.zero 2)⟩

theorem foldl_taxedLines (f : InvoiceLine → JsNumber) {p : Invoice → Bool} {invoices : List Invoice}
    (zeros : ∀ i ∈ invoices, p i = false → ∀ l ∈ i.lines, f l = .finite 0) {d : JsNumber} (double : d.double = d) :
    ((taxedLines invoices).map f).foldl JsNumber.plus d =
      ((taxedLines (invoices.filter p)).map f).foldl JsNumber.plus d := by
  induction invoices generalizing d with
  | nil => rfl
  | cons i invoices ih =>
      rw [List.forall_mem_cons] at zeros
      have split (i : Invoice) (invoices : List Invoice) :
          taxedLines (i :: invoices) = i.lines.filter (·.taxed) ++ taxedLines invoices := by simp [taxedLines]
      cases kept : p i with
      | true =>
          rw [List.filter_cons_of_pos kept, split, split, List.map_append, List.map_append, List.foldl_append,
            List.foldl_append]
          exact ih zeros.2 (JsNumber.double_foldl_plus double _)
      | false =>
          have none : ∀ n ∈ (i.lines.filter (·.taxed)).map f, n = .finite 0 := by
            simp only [List.forall_mem_map]
            exact fun l mem => zeros.1 kept l (List.mem_of_mem_filter mem)
          rw [List.filter_cons_of_neg (by simp [kept]), split, List.map_append, List.foldl_append,
            JsNumber.foldl_plus_zeros double none]
          exact ih zeros.2 double

theorem lessCreditNotes_of_zeros {f : InvoiceLine → JsNumber} {invoices : List Invoice}
    (zeros : ∀ i ∈ invoices, i.documentType = .TD04 → ∀ l ∈ i.lines, f l = .finite 0) :
    lessCreditNotes f invoices = addedUp f invoices := by
  have notes : addedUp f (invoices.filter (·.documentType = .TD04)) = .finite 0 := by
    apply JsNumber.added_zeros
    simp only [List.forall_mem_map]
    intro l mem
    obtain ⟨i, listed, line⟩ := List.mem_flatMap.mp (List.mem_of_mem_filter mem)
    obtain ⟨mem', credit⟩ := List.mem_filter.mp listed
    exact zeros i mem' (of_decide_eq_true credit) l line
  have rest : addedUp f invoices = addedUp f (invoices.filter (·.documentType ≠ .TD04)) :=
    foldl_taxedLines f (fun i mem credit => zeros i mem (by simpa using credit)) JsNumber.double_zero
  rw [lessCreditNotes, notes, ← rest]
  exact JsNumber.minus_zero (JsNumber.double_added _)

theorem mem_issued {db : Db} {tenantId : Uuid} {i : Invoice} (mem : i ∈ db.issued tenantId) :
    i ∈ db.invoices.rows ∧ i.tenantId = tenantId := by
  simpa [Db.issued] using mem

theorem issued_of_datedIn {db : Db} {tenantId : Uuid} {p : Period} {i : Invoice}
    (mem : i ∈ (db.datedIn tenantId p).filter (·.status = .accepted)) :
    i ∈ (db.issued tenantId).filter (·.status = .accepted) := by
  obtain ⟨dated, accepted⟩ := List.mem_filter.mp mem
  obtain ⟨row, tenant⟩ := mem_datedIn dated
  exact List.mem_filter.mpr ⟨List.mem_filter.mpr ⟨row, decide_eq_true tenant⟩, accepted⟩

/-- Credit notes are taken off exactly when there is nothing to take off. -/
theorem creditNotes_reduce_iff {customers : Table Customer.id} {db : Db} {ops : List Op}
    (run : Run (fun _ _ => True) next (opening customers) ops db) (tenantId : Uuid) :
    Signed db tenantId ↔ ∀ i ∈ (db.issued tenantId).filter (·.status = .accepted),
      i.documentType = .TD04 → i.subtotalAmount.val = 0 := by
  have books := run_books run
  have proper : ∀ i ∈ (db.issued tenantId).filter (·.status = .accepted), Proper i := by
    intro i mem
    obtain ⟨dto, drafted⟩ := books.drafted i (mem_issued (List.mem_of_mem_filter mem)).1
    exact drafted.proper
  have posted := books.netCredit_postings (fun i (mem : i ∈ db.issued tenantId) => mem_issued mem)
  have revenue : netCredit ACC.RICAVI_VENDITA (db.postings tenantId (db.issued tenantId)) =
      (((db.issued tenantId).filter (·.status = .accepted)).map (·.subtotalAmount.val)).sum := by
    rw [posted]
    simp only [expectedLines, netCredit_revenue]
  constructor
  · intro signed
    have same := revenue.symm.trans signed.revenue
    exact (sum_eq_signedSum_iff fun i mem => (proper i mem).subtotal).mp same
  · intro nothing
    have zeros : ∀ i ∈ (db.issued tenantId).filter (·.status = .accepted), i.documentType = .TD04 →
        (∀ splitPayment, (i.receivable splitPayment).val = 0) ∧ ∀ l ∈ i.lines, l.total = .finite 0 :=
      fun i mem credit => (proper i mem).nothing (nothing i mem credit)
    refine ⟨?_, ?_, fun scan p => ?_⟩
    · have debits : -(netCredit ACC.CREDITI_CLIENTI (db.postings tenantId (db.issued tenantId))) =
          (((db.issued tenantId).filter (·.status = .accepted)).map fun i =>
            (i.receivable (splits (db.customer i))).val).sum := by
        rw [posted, List.sum_neg, List.map_map]
        simp only [Function.comp_def, expectedLines, netCredit_receivable, books.customer]
      rw [debits]
      refine (sum_eq_signedSum_iff fun i mem => (proper i mem).receivable _).mpr ?_
      exact fun i mem credit => (zeros i mem credit).1 _
    · rw [revenue]
      exact (sum_eq_signedSum_iff fun i mem => (proper i mem).subtotal).mpr nothing
    · refine ⟨_, ivaLiquidation_ok scan db tenantId p, ?_, ?_⟩
      · rw [lessCreditNotes_of_zeros fun i mem credit => (zeros i (issued_of_datedIn (scan.mem.mp mem)) credit).2,
          liquidation_totalTaxable, addedUp]
      · rw [lessCreditNotes_of_zeros fun i mem credit l line =>
          InvoiceLine.tax_eq_zero ((zeros i (issued_of_datedIn (scan.mem.mp mem)) credit).2 l line),
          liquidation_totalIva, addedUp]

open Sample in
theorem creditNotes_reduce_valve :
    Signed ((issue 4 7 [valve] none).foldl next (opening clients)) 1 := by
  have run : Run (fun _ _ => True) next (opening clients) (issue 4 7 [valve] none)
      ((issue 4 7 [valve] none).foldl next (opening clients)) := Run.ofAllMet (by decide)
  exact (creditNotes_reduce_iff run 1).mpr (by decide +kernel)

open Sample in
/-- A credit note of 100 is one more invoice of 100. -/
theorem creditNotes_add :
    let db := (issue 4 8 [valve] (some .TD04)).foldl next (opening clients)
    signedSum (·.subtotalAmount.val) ((db.issued 1).filter (·.status = .accepted)) = -100 ∧
      netCredit ACC.RICAVI_VENDITA (db.postings 1 (db.issued 1)) = 100 ∧
      netCredit ACC.CREDITI_CLIENTI (db.postings 1 (db.issued 1)) = -122 ∧
      ivaLiquidation .inOrder db 1 "2026-04" = .ok ⟨"2026-04", .finite 100, .finite 22, [("22%", ⟨.finite 100, .finite 22⟩)]⟩ ∧
      ¬ Signed db 1 := by
  intro db
  have reversed : signedSum (·.subtotalAmount.val) ((db.issued 1).filter (·.status = .accepted)) = -100 ∧
      netCredit ACC.RICAVI_VENDITA (db.postings 1 (db.issued 1)) = 100 := by decide +kernel
  refine ⟨reversed.1, reversed.2, by decide +kernel, by decide +kernel, fun signed => ?_⟩
  have same := signed.revenue
  rw [reversed.1, reversed.2] at same
  norm_num at same

end SmartErp.Accounting
