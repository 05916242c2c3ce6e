import SmartErp.Accounting.Posting
import SmartErp.Foundations.Hundredths
import SmartErp.Intrastat.Declarations

/-!
# The invoices that are declared

`aggregateCessioni` selects by date and by the customer's country, and leaves the status of an invoice aside.
-/

namespace SmartErp.Intrastat
open Foundations Accounting Procurement.Sourcing

def abroad (sources : Sources) (inv : Invoice) : Bool :=
  ((sources.customers.find? inv.customerId).filter (·.tenantId = inv.tenantId)).any (isIntraEuPartner ·.country)

def issued (status : InvoiceStatus) : Bool := status ≠ .draft ∧ status ≠ .cancelled ∧ status ≠ .rejected

def inMonth (year month : ℤ) (d : Date) : Bool := (d.year : ℤ) = year ∧ (d.month : ℤ) = month
def inYear (year : ℤ) (d : Date) : Bool := (d.year : ℤ) = year

/-- The invoices of the days `dated` for customers abroad, in any state. -/
def dated (sources : Sources) (tenantId : Uuid) (days : Date → Bool) : List Invoice :=
  sources.invoices.rows.filter fun inv => inv.tenantId = tenantId ∧ days inv.invoiceDate ∧ abroad sources inv

def declared (sources : Sources) (tenantId : Uuid) (days : Date → Bool) : List Invoice :=
  (dated sources tenantId days).filter (issued ·.status)

structure MonthDeclared (sources : Sources) (tenantId : Uuid) (year month : ℤ) : Prop where
  positions : (aggregateLines sources tenantId .cessioni year month).map (·.position) =
    List.range' 1 (aggregateLines sources tenantId .cessioni year month).length
  documents : ((aggregateLines sources tenantId .cessioni year month).map fun l =>
      (l.sourceDocId, l.valueCents)).Perm
    ((declared sources tenantId (inMonth year month)).map fun inv =>
      (inv.id, .finite (inv.totalAmount.val * 100)))

/-- The months of a year, from 1 to 12, have each of its declared invoices once. -/
def YearPartitioned (sources : Sources) (tenantId : Uuid) (year : ℤ) : Prop :=
  ((List.range' 1 12).flatMap fun month =>
      (aggregateLines sources tenantId .cessioni year (month : ℕ)).map (·.sourceDocId)).Perm
    ((declared sources tenantId (inYear year)).map (·.id))

def OnlyIssued (sources : Sources) (tenantId : Uuid) (days : Date → Bool) : Prop :=
  ∀ inv ∈ sources.invoices.rows, inv.tenantId = tenantId → days inv.invoiceDate → abroad sources inv →
    issued inv.status

/-! ## The selection -/

theorem numbered_map {α β : Type} {line : α → ℕ → LineOf JsNumber} {g : LineOf JsNumber → β} {h : α → β}
    (same : ∀ a i, g (line a i) = h a) (as : List α) : (numbered line as).map g = as.map h := by
  apply List.ext_getElem
  · simp [numbered]
  · intro i _ _
    simp [numbered, same]

theorem numbered_positions {α : Type} {line : α → ℕ → LineOf JsNumber} (own : ∀ a i, (line a i).position = i)
    (as : List α) : (numbered line as).map (·.position) = List.range' 1 (numbered line as).length := by
  apply List.ext_getElem
  · simp [numbered]
  · intro i _ _
    simp [numbered, own]
    omega

theorem roundedCents_eq (amount : Numeric 12 2) : roundedCents amount = .finite (amount.val * 100) := by
  have hundredths : amount.val * 100 = amount.units := by
    rw [Numeric.val]
    norm_num
  rw [roundedCents, JsNumber.round_column (by norm_num), hundredths]

variable {sources : Sources} {tenantId : Uuid} {year month : ℤ}

theorem window_iff (four : 100 ≤ year) (first : 1 ≤ month) (last : month ≤ 12) (d : Date) :
    startOfMonth year month ≤ day d ∧ day d < startOfMonth year (month + 1) ↔ inMonth year month d = true := by
  have digits : ¬ (0 ≤ year ∧ year ≤ 99) := by omega
  have months := d.month_range
  have days := d.day_range
  simp only [startOfMonth, day, Prod.Lex.toLex_le_toLex, Prod.Lex.toLex_lt_toLex, inMonth,
    decide_eq_true_eq]
  omega

theorem find?_customers {ids : List Uuid} {inv : Invoice} (own : inv.tenantId = tenantId)
    (mem : inv.customerId ∈ ids) :
    (sources.customers.rows.filter fun c => c.tenantId = tenantId ∧ c.id ∈ ids).find? (·.id = inv.customerId) =
      (sources.customers.find? inv.customerId).filter (·.tenantId = inv.tenantId) := by
  have table := sources.customers.find?_filter (fun c => c.tenantId = tenantId ∧ c.id ∈ ids) inv.customerId
  rw [Table.find?, Table.filter] at table
  rw [table]
  cases found : sources.customers.find? inv.customerId with
  | none => rfl
  | some c =>
    have here : c.id = inv.customerId := Table.key_of_find? found
    simp [Option.filter, here, mem, own]

theorem aggregateCessioni_map {β : Type} {g : LineOf JsNumber → β} {h : Invoice → β}
    (same : ∀ c inv i, g (cessione tenantId c inv i) = h inv) {fromDate toDate : Day} {days : Date → Bool}
    (window : ∀ d, fromDate ≤ day d ∧ day d < toDate ↔ days d = true) :
    (aggregateCessioni sources tenantId fromDate toDate).map g = (dated sources tenantId days).map h := by
  have here : dated sources tenantId days =
      (sources.invoices.rows.filter fun i =>
        i.tenantId = tenantId ∧ fromDate ≤ day i.invoiceDate ∧ day i.invoiceDate < toDate).filter
          (abroad sources) := by
    rw [List.filter_filter, dated]
    apply List.filter_congr
    intro inv _
    rw [Bool.eq_iff_iff]
    simp only [window, decide_eq_true_eq, Bool.and_eq_true]
    tauto
  rw [aggregateCessioni, numbered_map (h := h ∘ Prod.snd) (fun pair i => same pair.1 pair.2 i), ← List.map_map,
    List.map_filterMap, here, ← List.filterMap_eq_filter (p := abroad sources)]
  congr 1
  apply List.filterMap_congr
  intro inv mem
  have own : inv.tenantId = tenantId := by
    simp only [List.mem_filter, decide_eq_true_eq] at mem
    exact mem.2.1
  rw [find?_customers own (List.mem_dedup.mpr (List.mem_map_of_mem mem)), Option.guard, abroad]
  cases (sources.customers.find? inv.customerId).filter (·.tenantId = inv.tenantId) with
  | none => rfl
  | some c => by_cases eu : isIntraEuPartner c.country = true <;> simp [eu]

/-! ## Months and years -/

theorem aggregateLines_map (four : 100 ≤ year) (first : 1 ≤ month) (last : month ≤ 12) {β : Type}
    {g : LineOf JsNumber → β} {h : Invoice → β} (same : ∀ c inv i, g (cessione tenantId c inv i) = h inv) :
    (aggregateLines sources tenantId .cessioni year month).map g =
      (dated sources tenantId (inMonth year month)).map h :=
  aggregateCessioni_map same (window_iff four first last)

theorem mem_dated {days : Date → Bool} {inv : Invoice} :
    inv ∈ dated sources tenantId days ↔
      inv ∈ sources.invoices.rows ∧ inv.tenantId = tenantId ∧ days inv.invoiceDate ∧ abroad sources inv := by
  simp [dated]

theorem onlyIssued_iff {days : Date → Bool} :
    OnlyIssued sources tenantId days ↔ declared sources tenantId days = dated sources tenantId days := by
  simp only [OnlyIssued, declared, List.filter_eq_self, mem_dated, and_imp]

theorem onlyIssued_of_perm {days : Date → Bool} {β : Type} {h : Invoice → β}
    (perm : ((dated sources tenantId days).map h).Perm ((declared sources tenantId days).map h)) :
    OnlyIssued sources tenantId days := by
  rw [onlyIssued_iff, declared]
  apply List.filter_sublist.eq_of_length
  simpa [declared] using perm.length_eq.symm

theorem dated_nodup (days : Date → Bool) : ((dated sources tenantId days).map (·.id)).Nodup :=
  sources.invoices.nodup.sublist (List.filter_sublist.map _)

theorem months_perm (sources : Sources) (tenantId : Uuid) (year : ℤ) :
    ((List.range' 1 12).flatMap fun month => (dated sources tenantId (inMonth year (month : ℕ))).map (·.id)).Perm
      ((dated sources tenantId (inYear year)).map (·.id)) := by
  rw [List.perm_ext_iff_of_nodup _ (dated_nodup _)]
  · intro id
    simp only [List.mem_flatMap, List.mem_map, mem_dated, inMonth, inYear, decide_eq_true_eq, List.mem_range'_1]
    constructor
    · rintro ⟨month, -, inv, ⟨row, own, days, eu⟩, rfl⟩
      exact ⟨inv, ⟨row, own, days.1, eu⟩, rfl⟩
    · rintro ⟨inv, ⟨row, own, days, eu⟩, rfl⟩
      have months := inv.invoiceDate.month_range
      exact ⟨inv.invoiceDate.month, by omega, inv, ⟨row, own, ⟨days, rfl⟩, eu⟩, rfl⟩
  · rw [List.nodup_flatMap]
    refine ⟨fun _ _ => dated_nodup _, (List.nodup_range' (n := 12)).imp fun {a b} differ => ?_⟩
    rw [Function.onFun, List.disjoint_left]
    intro id here there
    obtain ⟨inv, mem, rfl⟩ := List.mem_map.mp here
    obtain ⟨inv', mem', same⟩ := List.mem_map.mp there
    rw [mem_dated] at mem mem'
    have twin : inv' = inv := List.inj_on_of_nodup_map sources.invoices.nodup mem'.1 mem.1 same
    subst twin
    have months := mem.2.2.1
    have months' := mem'.2.2.1
    simp only [inMonth, decide_eq_true_eq] at months months'
    omega

theorem monthDeclared_iff (four : 100 ≤ year) (first : 1 ≤ month) (last : month ≤ 12) :
    MonthDeclared sources tenantId year month ↔ OnlyIssued sources tenantId (inMonth year month) := by
  have documents : (aggregateLines sources tenantId .cessioni year month).map (fun l => (l.sourceDocId, l.valueCents)) =
      (dated sources tenantId (inMonth year month)).map fun inv => (inv.id, .finite (inv.totalAmount.val * 100)) :=
    aggregateLines_map four first last fun _ inv _ => congrArg (Prod.mk inv.id) (roundedCents_eq inv.totalAmount)
  constructor
  · intro month
    have perm := month.documents
    rw [documents] at perm
    exact onlyIssued_of_perm perm
  · intro only
    refine ⟨numbered_positions (fun _ _ => rfl) _, ?_⟩
    rw [documents, onlyIssued_iff.mp only]

theorem yearPartitioned_iff (four : 100 ≤ year) :
    YearPartitioned sources tenantId year ↔ OnlyIssued sources tenantId (inYear year) := by
  have months : ((List.range' 1 12).flatMap fun month =>
      (aggregateLines sources tenantId .cessioni year (month : ℕ)).map (·.sourceDocId)) =
      (List.range' 1 12).flatMap fun month => (dated sources tenantId (inMonth year (month : ℕ))).map (·.id) := by
    apply List.flatMap_congr
    intro month mem
    rw [List.mem_range'_1] at mem
    exact aggregateLines_map four (by omega) (by omega) fun _ _ _ => rfl
  rw [YearPartitioned, months]
  constructor
  · intro partition
    exact onlyIssued_of_perm ((months_perm sources tenantId year).symm.trans partition)
  · intro only
    rw [onlyIssued_iff.mp only]
    exact months_perm sources tenantId year

/-- The cessioni of the months and of the year are the issued invoices just where no other invoice for the EU
is dated in them. -/
theorem cessioni_issued (sources : Sources) (tenantId : Uuid) {year : ℤ} (four : 100 ≤ year) :
    (∀ month, 1 ≤ month → month ≤ 12 →
      (MonthDeclared sources tenantId year month ↔ OnlyIssued sources tenantId (inMonth year month))) ∧
    (YearPartitioned sources tenantId year ↔ OnlyIssued sources tenantId (inYear year)) :=
  ⟨fun _ first last => monthDeclared_iff four first last, yearPartitioned_iff four⟩

def maschinenbau : Customer where
  id := 3
  tenantId := 1
  name := "Maschinenbau Ulm GmbH"
  customerType := .foreign
  vatNumber := some "811907980"
  fiscalCode := none
  sdiDestinationCode := none
  pecEmail := none
  address := none
  city := some "Ulm"
  postalCode := none
  province := none
  country := some "DE"
  splitPayment := false

def valves : Invoice where
  id := 7
  tenantId := 1
  documentType := .TD01
  number := "000001"
  fiscalYear := 2026
  invoiceDate := Sample.fifteenthOfApril
  customerId := 3
  customerName := "Maschinenbau Ulm GmbH"
  status := .sent
  subtotalAmount := Sample.draft.subtotalAmount
  taxAmount := ⟨0, by decide⟩
  totalAmount := Sample.draft.subtotalAmount
  lines := []
  submittedAt := none
  notes := none

def oneInvoice (status : InvoiceStatus) : Sources where
  invoices := ⟨[{ valves with status }], List.nodup_singleton _⟩
  customers := ⟨[maschinenbau], List.nodup_singleton _⟩

theorem june_range : 1 ≤ 6 ∧ 6 ≤ 12 := by decide

def officine : Customer := { maschinenbau with id := 4, name := "Officine Orobiche SPA", country := some "IT" }

/-- Two invoices to Ulm, in April and in June; the third one is at home, and a draft. -/
def threeInvoices : Sources where
  invoices := ⟨[valves,
    { valves with id := 8, invoiceDate := { Sample.fifteenthOfApril with month := 6, month_range := june_range } },
    { valves with id := 9, customerId := 4, status := .draft }], by decide⟩
  customers := ⟨[maschinenbau, officine], by decide⟩

theorem cessioni_sent : MonthDeclared threeInvoices 1 2026 4 ∧ MonthDeclared threeInvoices 1 2026 6 ∧
    YearPartitioned threeInvoices 1 2026 ∧
      (aggregateLines threeInvoices 1 .cessioni 2026 4).map (·.sourceDocId) = [7] ∧
      (aggregateLines threeInvoices 1 .cessioni 2026 6).map (·.sourceDocId) = [8] := by
  have law := cessioni_issued threeInvoices 1 (show 100 ≤ (2026 : ℤ) by norm_num)
  have only {days : Date → Bool} : OnlyIssued threeInvoices 1 days := by
    have sent : ∀ inv ∈ threeInvoices.invoices.rows, abroad threeInvoices inv → issued inv.status := by decide +kernel
    exact fun inv mem _ _ eu => sent inv mem eu
  refine ⟨(law.1 4 (by norm_num) (by norm_num)).mpr only, (law.1 6 (by norm_num) (by norm_num)).mpr only,
    law.2.mpr only, ?_, ?_⟩ <;> decide +kernel

theorem cessioni_cancelled : ¬ MonthDeclared (oneInvoice .cancelled) 1 2026 4 := by
  intro month
  have lines : (aggregateLines (oneInvoice .cancelled) 1 .cessioni 2026 4).map (·.sourceDocId) = [7] := by
    decide +kernel
  have none : declared (oneInvoice .cancelled) 1 (inMonth 2026 4) = [] := by decide +kernel
  have size := month.documents.length_eq
  rw [none, List.length_map, ← List.length_map (f := (·.sourceDocId)), lines] at size
  cases size

end SmartErp.Intrastat
