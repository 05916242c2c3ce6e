import SmartErp.Accounting.FatturaPa
import SmartErp.Foundations.Classes
import SmartErp.MultiCompany.Consolidation

/-!
# Projections of the books

`monthly-invoice-totals`, `monthly-supplier-invoice-totals`, `customer-revenue-ranking` and `supplier-spend-ranking`.
Each of them runs through the documents of a tenant and a window and gathers numbers under a key; the number of
documents is a natural number, all amounts are numbers of the language. `precedes` is the collation of
`localeCompare`.
-/

namespace SmartErp.Bi.Books
open Foundations Accounting

structure SupplierInvoice extends MultiCompany.SupplierInvoice where
  supplierId : Uuid
  subtotalCents : ℤ
  taxCents : ℤ
  deriving DecidableEq

/-- The days of the two bounds; the second one is left out. -/
structure Window where
  tenantId : Uuid
  fromDate : Option Date
  toDate : Option Date

/-! ## Documents -/

structure Amounts where
  subtotal : JsNumber
  tax : JsNumber
  total : JsNumber
  deriving DecidableEq

structure Book (α : Type) where
  tenantId : α → Uuid
  date : α → Date
  party : α → Uuid
  name : α → Option String
  amounts : α → Amounts

/-- `Math.round(Number(amount) * 100)` -/
def roundedCents (amount : Numeric 12 2) : JsNumber := ((JsNumber.finite amount.val).double.times (.finite 100)).round

/-- `Number(cents)` -/
def readCents (cents : ℤ) : JsNumber := (JsNumber.finite cents).double

def sales : Book Invoice where
  tenantId := (·.tenantId)
  date := (·.invoiceDate)
  party := (·.customerId)
  name i := some i.customerName
  amounts i := ⟨roundedCents i.subtotalAmount, roundedCents i.taxAmount, roundedCents i.totalAmount⟩

def purchases : Book SupplierInvoice where
  tenantId := (·.tenantId)
  date := (·.supplierInvoiceDate)
  party := (·.supplierId)
  name _ := none
  amounts si := ⟨readCents si.subtotalCents, readCents si.taxCents, readCents si.totalCents⟩

def day (d : Date) : ℕ := d.year * 10000 + d.month * 100 + d.day

/-- `${d.getUTCFullYear()}-${String(d.getUTCMonth() + 1).padStart(2, '0')}` -/
def month (d : Date) : String := s!"{d.year}-{FatturaPaAdapter.padded d.month}"

section
variable {α : Type} (book : Book α) (docs : List α) (window : Window)

def Book.selected : List α := docs.filter fun d => book.tenantId d = window.tenantId ∧
  (∀ a ∈ window.fromDate, day a ≤ day (book.date d)) ∧ ∀ b ∈ window.toDate, day (book.date d) < day b

/-! ## Months and parties -/

structure Totals where
  count : ℕ
  subtotalCents : JsNumber
  taxCents : JsNumber
  totalCents : JsNumber
  deriving DecidableEq

def Totals.add (cur : Totals) (a : Amounts) : Totals where
  count := cur.count + 1
  subtotalCents := cur.subtotalCents.plus a.subtotal
  taxCents := cur.taxCents.plus a.tax
  totalCents := cur.totalCents.plus a.total

def Totals.zero : Totals := ⟨0, .finite 0, .finite 0, .finite 0⟩

def Book.monthlyTotals (precedes : String → String → Bool) : List (String × Totals) :=
  (group (fun d => month (book.date d)) (fun cur d => (cur.getD .zero).add (book.amounts d))
    (book.selected docs window)).insertionSort fun a b => precedes a.1 b.1

/-- The name is that of the first document; suppliers have none. The ISO texts of days are in the order of the days. -/
structure Ranked where
  name : Option String
  count : ℕ
  totalCents : JsNumber
  lastInvoiceAt : Option Date
  deriving DecidableEq

def later (last : Option Date) (d : Date) : Date :=
  match last with
  | none => d
  | some last => if day last < day d then d else last

def Book.rank (cur : Option Ranked) (d : α) : Ranked :=
  let cur := cur.getD ⟨book.name d, 0, .finite 0, none⟩
  { cur with
    count := cur.count + 1
    totalCents := cur.totalCents.plus (book.amounts d).total
    lastInvoiceAt := some (later cur.lastInvoiceAt (book.date d)) }

def Book.ranking : List (Uuid × Ranked) :=
  (group book.party book.rank (book.selected docs window)).insertionSort fun a b => b.2.totalCents.le a.2.totalCents

end

def monthlyInvoiceTotals := sales.monthlyTotals

def monthlySupplierInvoiceTotals := purchases.monthlyTotals

def customerRevenueRanking := sales.ranking

def supplierSpendRanking := purchases.ranking

/-! ## What the rows tell -/

structure Cents where
  subtotal : ℤ
  tax : ℤ
  total : ℤ

def Cents.magnitude (c : Cents) : ℤ := |c.subtotal| + |c.tax| + |c.total|

def Cents.amounts (c : Cents) : Amounts := ⟨.finite c.subtotal, .finite c.tax, .finite c.total⟩

def saleCents (i : Invoice) : Cents := ⟨i.subtotalAmount.units, i.taxAmount.units, i.totalAmount.units⟩

def purchaseCents (si : SupplierInvoice) : Cents := ⟨si.subtotalCents, si.taxCents, si.totalCents⟩

section
variable {α : Type} {book : Book α} {cents : α → Cents} {docs : List α}

def total (f : Cents → ℤ) (cents : α → Cents) (docs : List α) : ℤ := (docs.map fun d => f (cents d)).sum

def magnitude (cents : α → Cents) (docs : List α) : ℤ := total Cents.magnitude cents docs

/-- The amounts are read exactly, and no sum of them leaves the whole numbers that a double can hold. -/
structure Safe (book : Book α) (cents : α → Cents) (docs : List α) : Prop where
  read : ∀ d ∈ docs, book.amounts d = (cents d).amounts
  bound : magnitude cents docs < 2 ^ 53

def TotalsOf (cents : α → Cents) (docs : List α) (t : Totals) : Prop :=
  t = ⟨docs.length, .finite (total Cents.subtotal cents docs), .finite (total Cents.tax cents docs),
    .finite (total Cents.total cents docs)⟩

structure RankedOf (book : Book α) (cents : α → Cents) (docs : List α) (r : Ranked) : Prop where
  name : ∀ d ∈ docs.head?, r.name = book.name d
  count : r.count = docs.length
  totalCents : r.totalCents = .finite (total Cents.total cents docs)
  last : ∃ d ∈ docs, r.lastInvoiceAt = some (book.date d) ∧ ∀ d' ∈ docs, day (book.date d') ≤ day (book.date d)

theorem Cents.magnitude_nonneg (c : Cents) : 0 ≤ c.magnitude := by
  unfold magnitude
  positivity

theorem Safe.sublist (safe : Safe book cents docs) {some : List α} (sub : some.Sublist docs) : Safe book cents some where
  read d mem := safe.read d (sub.subset mem)
  bound := by
    refine lt_of_le_of_lt ?_ safe.bound
    exact (sub.map _).sum_le_sum fun _ mem => by
      obtain ⟨d, -, rfl⟩ := List.mem_map.mp mem
      exact (cents d).magnitude_nonneg

theorem Safe.foldl_plus (safe : Safe book cents docs) {f : Cents → ℤ} (part : ∀ c : Cents, |f c| ≤ c.magnitude)
    {g : Amounts → JsNumber} (same : ∀ c : Cents, g c.amounts = .finite (f c)) :
    (docs.map fun d => g (book.amounts d)).foldl JsNumber.plus (.finite 0) = .finite (total f cents docs) := by
  have read : (docs.map fun d => g (book.amounts d)) = ((docs.map fun d => f (cents d)).map fun z : ℤ => JsNumber.finite z) := by
    rw [List.map_map]
    refine List.map_congr_left fun d mem => ?_
    rw [safe.read d mem, same]
    rfl
  have bound : |(0 : ℤ)| + ((docs.map fun d => f (cents d)).map (|·|)).sum < 2 ^ 53 := by
    rw [abs_zero, zero_add, List.map_map]
    exact lt_of_le_of_lt (List.sum_le_sum fun d _ => part (cents d)) safe.bound
  have exact' := JsNumber.foldl_plus_safe bound
  rw [Int.cast_zero, zero_add] at exact'
  rw [read, exact']
  rfl

theorem abs_subtotal_le (c : Cents) : |c.subtotal| ≤ c.magnitude := by
  unfold Cents.magnitude
  linarith [abs_nonneg c.tax, abs_nonneg c.total]

theorem abs_tax_le (c : Cents) : |c.tax| ≤ c.magnitude := by
  unfold Cents.magnitude
  linarith [abs_nonneg c.subtotal, abs_nonneg c.total]

theorem abs_total_le (c : Cents) : |c.total| ≤ c.magnitude := by
  unfold Cents.magnitude
  linarith [abs_nonneg c.tax, abs_nonneg c.subtotal]

theorem magnitude_le {d : α} (mem : d ∈ docs) : (cents d).magnitude ≤ magnitude cents docs := by
  refine List.single_le_sum ?_ _ (List.mem_map_of_mem mem)
  intro z mem
  obtain ⟨d, -, rfl⟩ := List.mem_map.mp mem
  exact (cents d).magnitude_nonneg

theorem abs_total_sum_le (docs : List α) : |total Cents.total cents docs| ≤ magnitude cents docs := by
  refine (abs_sum_le _).trans ?_
  rw [List.map_map]
  exact List.sum_le_sum fun d _ => abs_total_le (cents d)

theorem foldl_add (amounts : α → Amounts) (docs : List α) (t : Totals) :
    docs.foldl (fun cur d => cur.add (amounts d)) t =
      ⟨t.count + docs.length, (docs.map fun d => (amounts d).subtotal).foldl JsNumber.plus t.subtotalCents,
        (docs.map fun d => (amounts d).tax).foldl JsNumber.plus t.taxCents,
        (docs.map fun d => (amounts d).total).foldl JsNumber.plus t.totalCents⟩ := by
  induction docs generalizing t with
  | nil => rfl
  | cons d docs ih =>
      rw [List.foldl_cons, ih]
      simp only [Totals.add, List.length_cons, List.map_cons, List.foldl_cons, Nat.add_assoc, Nat.add_comm 1]

theorem Safe.totalsOf (safe : Safe book cents docs) :
    TotalsOf cents docs (docs.foldl (fun cur d => cur.add (book.amounts d)) .zero) := by
  rw [TotalsOf, foldl_add, Totals.zero, safe.foldl_plus abs_subtotal_le fun _ => rfl,
    safe.foldl_plus abs_tax_le fun _ => rfl, safe.foldl_plus abs_total_le fun _ => rfl, Nat.zero_add]

theorem monthly_tallies {precedes : String → String → Bool} {window : Window}
    (safe : Safe book cents (book.selected docs window)) :
    Tallies (fun d => month (book.date d)) (book.selected docs window) (book.monthlyTotals docs window precedes)
      (TotalsOf cents) := by
  refine Tallies.perm ?_ (List.perm_insertionSort _ _)
  exact Tallies.of_group (fun (cur : Totals) d => cur.add (book.amounts d)) (fun _ => Totals.zero)
    fun d rest sub => (safe.sublist sub).totalsOf

/-! ## Rankings -/

def Ranked.next (book : Book α) (cur : Ranked) (d : α) : Ranked := book.rank (some cur) d

def unranked (book : Book α) (d : α) : Ranked := ⟨book.name d, 0, .finite 0, none⟩

theorem rank_eq (cur : Option Ranked) (d : α) : book.rank cur d = Ranked.next book (cur.getD (unranked book d)) d := by
  cases cur <;> rfl

theorem foldl_rank (docs : List α) (r : Ranked) : (docs.foldl (Ranked.next book) r).name = r.name ∧
    (docs.foldl (Ranked.next book) r).count = r.count + docs.length ∧
    (docs.foldl (Ranked.next book) r).totalCents =
      (docs.map fun d => (book.amounts d).total).foldl JsNumber.plus r.totalCents := by
  induction docs generalizing r with
  | nil => exact ⟨rfl, rfl, rfl⟩
  | cons d docs ih =>
      obtain ⟨name, count, cents⟩ := ih (Ranked.next book r d)
      rw [List.foldl_cons, name, count, cents, List.length_cons, List.map_cons, List.foldl_cons]
      refine ⟨rfl, ?_, rfl⟩
      simp only [Ranked.next, Book.rank, Option.getD_some]
      omega

theorem foldl_latest (docs : List α) {r : Ranked} {first : Date} (some' : r.lastInvoiceAt = some first) :
    ∃ last, (docs.foldl (Ranked.next book) r).lastInvoiceAt = some last ∧
      (last = first ∨ ∃ d ∈ docs, last = book.date d) ∧ day first ≤ day last ∧ ∀ d ∈ docs, day (book.date d) ≤ day last := by
  induction docs generalizing r first with
  | nil => exact ⟨first, some', .inl rfl, le_rfl, List.forall_mem_nil _⟩
  | cons d docs ih =>
      have next : (Ranked.next book r d).lastInvoiceAt = some (later (some first) (book.date d)) := by
        rw [← some']
        rfl
      obtain ⟨last, eq, reached, above, all⟩ := ih next
      refine ⟨last, eq, ?_, ?_, ?_⟩
      · rcases reached with rfl | ⟨d', mem, there⟩
        · dsimp only [later]
          split_ifs
          · exact .inr ⟨d, List.mem_cons_self, rfl⟩
          · exact .inl rfl
        · exact .inr ⟨d', List.mem_cons_of_mem _ mem, there⟩
      all_goals
        have least : day first ≤ day (later (some first) (book.date d)) ∧
            day (book.date d) ≤ day (later (some first) (book.date d)) := by
          dsimp only [later]
          split_ifs with newer
          · exact ⟨newer.le, le_rfl⟩
          · exact ⟨le_rfl, not_lt.mp newer⟩
      · exact least.1.trans above
      · intro d' mem
        rcases List.mem_cons.mp mem with rfl | mem
        · exact least.2.trans above
        · exact all d' mem

theorem Safe.rankedOf {d : α} (safe : Safe book cents (d :: docs)) :
    RankedOf book cents (d :: docs) ((d :: docs).foldl (Ranked.next book) (unranked book d)) := by
  obtain ⟨name, count, total⟩ := @foldl_rank _ book (d :: docs) (unranked book d)
  have first : (Ranked.next book (unranked book d) d).lastInvoiceAt = some (book.date d) := rfl
  obtain ⟨last, eq, reached, above, all⟩ := foldl_latest docs first
  constructor
  · rintro d' ⟨⟩
    exact name
  · rw [count]
    exact Nat.zero_add _
  · rw [total]
    exact safe.foldl_plus abs_total_le fun _ => rfl
  · rcases reached with here | ⟨d', mem, there⟩
    · exact ⟨d, List.mem_cons_self, eq.trans (congrArg some here), List.forall_mem_cons.mpr ⟨le_rfl, here ▸ all⟩⟩
    · exact ⟨d', List.mem_cons_of_mem _ mem, eq.trans (congrArg some there),
        List.forall_mem_cons.mpr ⟨there ▸ above, there ▸ all⟩⟩

theorem ranking_tallies {window : Window} (safe : Safe book cents (book.selected docs window)) :
    Tallies book.party (book.selected docs window) (book.ranking docs window) (RankedOf book cents) := by
  refine Tallies.perm ?_ (List.perm_insertionSort _ _)
  have rank : book.rank = fun cur d => Ranked.next book (cur.getD (unranked book d)) d := funext₂ rank_eq
  rw [rank]
  exact Tallies.of_group (Ranked.next book) (unranked book) fun d rest sub => (safe.sublist sub).rankedOf

theorem ranking_descending {window : Window} (safe : Safe book cents (book.selected docs window)) :
    (book.ranking docs window).Pairwise fun a b => b.2.totalCents.le a.2.totalCents := by
  refine pairwise_of_worth
    (fun row => total Cents.total cents ((book.selected docs window).filter (book.party · = row.1))) ?_
  intro a ha b hb
  have reads (row : Uuid × Ranked) (mem : row ∈ group book.party book.rank (book.selected docs window)) :=
    ((ranking_tallies safe).tells row ((List.perm_insertionSort _ _).mem_iff.mpr mem)).totalCents
  rw [reads a ha, reads b hb]
  simp [JsNumber.le]

/-! ## One total -/

theorem Safe.column {κ β : Type} [DecidableEq κ] {key : α → κ} {rows : List (κ × β)} {tells : List α → β → Prop}
    (safe : Safe book cents docs) (tallies : Tallies key docs rows tells) {column : β → JsNumber}
    (reads : ∀ part b, tells part b → column b = .finite (total Cents.total cents part)) :
    (rows.map fun row => column row.2).foldl JsNumber.plus (.finite 0) = .finite (total Cents.total cents docs) := by
  have read : (rows.map fun row => column row.2) =
      (rows.map fun row => total Cents.total cents (docs.filter (key · = row.1))).map fun z : ℤ => JsNumber.finite z := by
    rw [List.map_map]
    exact List.map_congr_left fun row mem => reads _ _ (tallies.tells row mem)
  have bound : |(0 : ℤ)| + ((rows.map fun row => total Cents.total cents (docs.filter (key · = row.1))).map (|·|)).sum
      < 2 ^ 53 := by
    rw [abs_zero, zero_add, List.map_map]
    calc (rows.map ((|·|) ∘ fun row => total Cents.total cents (docs.filter (key · = row.1)))).sum
        ≤ (rows.map fun row => magnitude cents (docs.filter (key · = row.1))).sum :=
          List.sum_le_sum fun row _ => abs_total_sum_le _
      _ = magnitude cents docs := tallies.sum fun d => (cents d).magnitude
      _ < 2 ^ 53 := safe.bound
  have exact' := JsNumber.foldl_plus_safe bound
  rw [Int.cast_zero, zero_add] at exact'
  rw [read, exact']
  exact congrArg (fun z : ℤ => JsNumber.finite z) (tallies.sum fun d => (cents d).total)

/-- What the two reports over the same documents say: a row for each month and each party, with the exact sums of
its documents, the parties in descending order, and one total for both. -/
structure Agrees (book : Book α) (cents : α → Cents) (docs : List α) (months : List (String × Totals))
    (parties : List (Uuid × Ranked)) : Prop where
  byMonth : Tallies (fun d => month (book.date d)) docs months (TotalsOf cents)
  byParty : Tallies book.party docs parties (RankedOf book cents)
  descending : parties.Pairwise fun a b => b.2.totalCents.le a.2.totalCents
  total : (months.map (·.2.totalCents)).foldl JsNumber.plus (.finite 0) =
    (parties.map (·.2.totalCents)).foldl JsNumber.plus (.finite 0)

theorem Safe.agrees {window : Window} (precedes : String → String → Bool)
    (safe : Safe book cents (book.selected docs window)) :
    Agrees book cents (book.selected docs window) (book.monthlyTotals docs window precedes)
      (book.ranking docs window) where
  byMonth := monthly_tallies safe
  byParty := ranking_tallies safe
  descending := ranking_descending safe
  total := by
    rw [safe.column (monthly_tallies safe) fun part t tells => congrArg Totals.totalCents tells,
      safe.column (ranking_tallies safe) fun part r tells => tells.totalCents]

end

theorem safe_sales {docs : List Invoice} (bound : magnitude saleCents docs < 2 ^ 53) : Safe sales saleCents docs where
  read i _ := by
    have cents (amount : Numeric 12 2) : roundedCents amount = .finite amount.units :=
      JsNumber.round_column (by norm_num) amount
    simp only [sales, cents, Cents.amounts, saleCents]
  bound := bound

theorem safe_purchases {docs : List SupplierInvoice} (bound : magnitude purchaseCents docs < 2 ^ 53) :
    Safe purchases purchaseCents docs where
  read si mem := by
    have small : (purchaseCents si).magnitude < 2 ^ 53 := (magnitude_le mem).trans_lt bound
    have subtotal := (abs_subtotal_le (purchaseCents si)).trans_lt small
    have tax := (abs_tax_le (purchaseCents si)).trans_lt small
    have total := (abs_total_le (purchaseCents si)).trans_lt small
    have read {z : ℤ} (small : |z| < 2 ^ 53) : readCents z = .finite z := JsNumber.double_safe small
    change (⟨readCents (purchaseCents si).subtotal, readCents (purchaseCents si).tax,
      readCents (purchaseCents si).total⟩ : Amounts) = _
    rw [read subtotal, read tax, read total]
    rfl
  bound := bound

/-- The reports on a window tell of its documents and of nothing else, exactly to the cent, as long as the cents of the
documents stay within what a double can hold. -/
theorem books_agree (precedes : String → String → Bool) (invoices : List Invoice)
    (supplierInvoices : List SupplierInvoice) (window : Window)
    (sold : magnitude saleCents (sales.selected invoices window) < 2 ^ 53)
    (bought : magnitude purchaseCents (purchases.selected supplierInvoices window) < 2 ^ 53) :
    Agrees sales saleCents (sales.selected invoices window) (monthlyInvoiceTotals invoices window precedes)
        (customerRevenueRanking invoices window) ∧
      Agrees purchases purchaseCents (purchases.selected supplierInvoices window)
        (monthlySupplierInvoiceTotals supplierInvoices window precedes)
        (supplierSpendRanking supplierInvoices window) :=
  ⟨(safe_sales sold).agrees precedes, (safe_purchases bought).agrees precedes⟩

/-! ## A spring -/

namespace Sample
open Accounting.Sample

theorem june : 1 ≤ 6 ∧ 6 ≤ 12 := by decide

def fifteenthOfJune : Date := { fifteenthOfApril with month := 6, month_range := june }

def sale (id customerId : Uuid) (customerName : String) (invoiceDate : Date) (euros : ℕ) : Invoice :=
  { draft with
    id, customerId, customerName, invoiceDate
    subtotalAmount := ⟨(euros * 100 % 10 ^ 12 : ℕ), by omega⟩
    taxAmount := ⟨(euros * 22 % 10 ^ 12 : ℕ), by omega⟩
    totalAmount := ⟨(euros * 122 % 10 ^ 12 : ℕ), by omega⟩ }

def bill (id supplierId : Uuid) (supplierInvoiceDate : Date) (euros : ℤ) : SupplierInvoice where
  id
  tenantId := 1
  supplierId
  supplierInvoiceDate
  subtotalCents := euros * 100
  taxCents := euros * 22
  totalCents := euros * 122

/-- Two customers in April, the first of them again in June; the last invoice is another tenant's. -/
def invoices : List Invoice :=
  [draft, sale 8 4 "Officine Orobiche SPA" fifteenthOfApril 500, sale 9 3 "Meccanica Scaligera" fifteenthOfJune 300,
    { sale 10 4 "Officine Orobiche SPA" fifteenthOfJune 700 with tenantId := 2 }]

/-- Two suppliers, one of which takes something back in June. -/
def bills : List SupplierInvoice :=
  [bill 11 21 fifteenthOfApril 400, bill 12 22 fifteenthOfJune 350, bill 13 21 fifteenthOfJune (-100)]

def all : Window := ⟨1, none, none⟩

end Sample

open Books.Sample in
theorem books_agree_spring :
    Agrees sales saleCents (sales.selected invoices all) (monthlyInvoiceTotals invoices all fun a b => a ≤ b)
        (customerRevenueRanking invoices all) ∧
      Agrees purchases purchaseCents (purchases.selected bills all)
        (monthlySupplierInvoiceTotals bills all fun a b => a ≤ b) (supplierSpendRanking bills all) ∧
      (monthlyInvoiceTotals invoices all fun a b => a ≤ b).map (fun row => (row.1, row.2.count, row.2.totalCents)) =
        [("2026-04", 2, .finite 73200), ("2026-06", 1, .finite 36600)] ∧
      (customerRevenueRanking invoices all).map (fun row => (row.1, row.2.name, row.2.count, row.2.totalCents)) =
        [(4, some "Officine Orobiche SPA", 1, .finite 61000), (3, some "Meccanica Scaligera SRL", 2, .finite 48800)] ∧
      (supplierSpendRanking bills all).map (fun row => (row.1, row.2.totalCents)) =
        [(22, .finite 42700), (21, .finite 36600)] := by
  have agree := books_agree (fun a b => a ≤ b) invoices bills all (by decide +kernel) (by decide +kernel)
  refine ⟨agree.1, agree.2, ?_, ?_, ?_⟩ <;> decide +kernel

end SmartErp.Bi.Books
