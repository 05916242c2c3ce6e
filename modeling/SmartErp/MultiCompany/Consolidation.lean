import SmartErp.Accounting.Posting
import SmartErp.Foundations.Hundredths
import SmartErp.MultiCompany.Companies

/-!
# Consolidation

`consolidation.service.ts`. The amounts are numbers, also those of a bigint column, and the loops add them up
one by one. `precedes` is the collation of `localeCompare`.
-/

namespace SmartErp.MultiCompany
open Foundations Accounting

structure SalesInvoice where
  id : Uuid
  tenantId : Uuid
  invoiceDate : Date
  customerVatNumber : Option String
  totalAmount : Numeric 12 2
  deriving DecidableEq

structure SupplierInvoice where
  id : Uuid
  tenantId : Uuid
  supplierInvoiceDate : Date
  totalCents : ℤ
  deriving DecidableEq

structure Documents where
  companies : Companies
  invoices : List SalesInvoice
  supplierInvoices : List SupplierInvoice

structure ConsolidationLine where
  companyId : Uuid
  companyCode : String
  companyName : String
  salesCents : JsNumber
  purchasesCents : JsNumber
  netCents : JsNumber
  deriving DecidableEq

structure Rollup where
  salesCents : JsNumber
  purchasesCents : JsNumber
  netCents : JsNumber
  deriving DecidableEq

structure ConsolidationResult where
  fiscalYear : ℕ
  perCompany : List ConsolidationLine
  rollup : Rollup
  computedAtIso : String
  deriving DecidableEq

/-- From the first of January to that of the next year. -/
def inFiscalYear (fiscalYear : ℕ) (d : Date) : Bool := fiscalYear ≤ d.year ∧ d.year < fiscalYear + 1

namespace Documents
variable (db : Documents) (tenantId : Uuid) (fiscalYear : ℕ)

def active : List Company := db.companies.rows.filter fun c => c.tenantId = tenantId ∧ c.isActive

def sales : List SalesInvoice :=
  db.invoices.filter fun i => i.tenantId = tenantId ∧ inFiscalYear fiscalYear i.invoiceDate

def purchases : List SupplierInvoice :=
  db.supplierInvoices.filter fun si => si.tenantId = tenantId ∧ inFiscalYear fiscalYear si.supplierInvoiceDate

end Documents

/-- `Math.round(Number(inv.totalAmount) * 100)` -/
def SalesInvoice.cents (inv : SalesInvoice) : JsNumber :=
  ((JsNumber.finite inv.totalAmount.val).double.times (.finite 100)).round

/-- `Number(si.totalCents)` -/
def SupplierInvoice.cents (si : SupplierInvoice) : JsNumber := (JsNumber.finite si.totalCents).double

def primary (companies : List Company) : Option Company := (companies.find? (·.isPrimary)).or companies.head?

def companyOf (companies : List Company) (inv : SalesInvoice) : Option Company :=
  (companies.find? fun c => c.vatNumber.any (· ≠ "") ∧ c.vatNumber = inv.customerVatNumber).or (primary companies)

def emptyLine (c : Company) : ConsolidationLine := ⟨c.id, c.code, c.name, .finite 0, .finite 0, .finite 0⟩

def addSale (companies : List Company) (lines : List ConsolidationLine) (inv : SalesInvoice) :
    List ConsolidationLine :=
  match companyOf companies inv with
  | none => lines
  | some company => lines.map fun line =>
      if line.companyId = company.id then { line with salesCents := line.salesCents.plus inv.cents } else line

def addPurchase (companies : List Company) (lines : List ConsolidationLine) (si : SupplierInvoice) :
    List ConsolidationLine :=
  match primary companies with
  | none => lines
  | some target => lines.map fun line =>
      if line.companyId = target.id then { line with purchasesCents := line.purchasesCents.plus si.cents } else line

def net (line : ConsolidationLine) : ConsolidationLine :=
  { line with netCents := (line.salesCents.sub line.purchasesCents).double }

def rollup (lines : List ConsolidationLine) : Rollup :=
  let rollupSales := (lines.map (·.salesCents)).foldl JsNumber.plus (.finite 0)
  let rollupPurchases := (lines.map (·.purchasesCents)).foldl JsNumber.plus (.finite 0)
  ⟨rollupSales, rollupPurchases, (rollupSales.sub rollupPurchases).double⟩

def consolidate (precedes : String → String → Bool) (db : Documents) (tenantId : Uuid) (fiscalYear : ℕ)
    (computedAtIso : String) : ConsolidationResult :=
  let companies := db.active tenantId
  let lines := (db.sales tenantId fiscalYear).foldl (addSale companies) (companies.map emptyLine)
  let lines := (db.purchases tenantId fiscalYear).foldl (addPurchase companies) lines
  let lines := lines.map net
  { fiscalYear
    perCompany := lines.insertionSort fun a b => precedes a.companyCode b.companyCode
    rollup := rollup lines
    computedAtIso }

/-! ## The law -/

def AddsUp (column : List JsNumber) (total : ℤ) : Prop :=
  ∃ cents : List ℤ, column = cents.map (fun c : ℤ => .finite c) ∧ cents.sum = total

def salesTotal (invoices : List SalesInvoice) : ℤ := (invoices.map (·.totalAmount.units)).sum

def purchasesTotal (supplierInvoices : List SupplierInvoice) : ℤ := (supplierInvoices.map (·.totalCents)).sum

structure Conserved (companies : List Company) (invoices : List SalesInvoice) (supplierInvoices : List SupplierInvoice)
    (result : ConsolidationResult) : Prop where
  lines : (result.perCompany.map (·.companyId)).Perm (companies.map (·.id))
  counted : ∃ share : Uuid → List SalesInvoice,
    (result.perCompany.flatMap fun line => share line.companyId).Perm invoices ∧
      ∀ line ∈ result.perCompany, line.salesCents = .finite (salesTotal (share line.companyId))
  sales : AddsUp (result.perCompany.map (·.salesCents)) (salesTotal invoices)
  purchases : AddsUp (result.perCompany.map (·.purchasesCents)) (purchasesTotal supplierInvoices)
  net : ∀ line ∈ result.perCompany, line.netCents = line.salesCents.sub line.purchasesCents
  nets : AddsUp (result.perCompany.map (·.netCents)) (salesTotal invoices - purchasesTotal supplierInvoices)
  rollup : result.rollup = ⟨.finite (salesTotal invoices), .finite (purchasesTotal supplierInvoices),
    .finite (salesTotal invoices - purchasesTotal supplierInvoices : ℤ)⟩

def magnitude (invoices : List SalesInvoice) (supplierInvoices : List SupplierInvoice) : ℤ :=
  (invoices.map (|·.totalAmount.units|)).sum + (supplierInvoices.map (|·.totalCents|)).sum

/-! ## What the loops leave on a line -/

theorem foldl_pointed {ρ α κ : Type} [DecidableEq κ] (key : ρ → κ) (target : α → Option κ) (add : ρ → α → ρ)
    (keeps : ∀ r a, key (add r a) = key r) (items : List α) (rows : List ρ) :
    items.foldl (fun rows a => rows.map fun r => if target a = some (key r) then add r a else r) rows =
      rows.map fun r => (items.filter (target · = some (key r))).foldl add r := by
  induction items generalizing rows with
  | nil => simp
  | cons a items ih =>
      rw [List.foldl_cons, ih, List.map_map]
      apply List.map_congr_left
      intro r _
      by_cases here : target a = some (key r) <;> simp [here, keeps]

def salesKey (companies : List Company) (inv : SalesInvoice) : Option Uuid := (companyOf companies inv).map (·.id)

def share (companies : List Company) (invoices : List SalesInvoice) (id : Uuid) : List SalesInvoice :=
  invoices.filter (salesKey companies · = some id)

def purchaseShare (companies : List Company) (supplierInvoices : List SupplierInvoice) (id : Uuid) :
    List SupplierInvoice :=
  supplierInvoices.filter fun _ => (primary companies).map (·.id) = some id

variable {companies : List Company} {invoices : List SalesInvoice} {supplierInvoices : List SupplierInvoice}

theorem foldl_addSale (lines : List ConsolidationLine) :
    invoices.foldl (addSale companies) lines = lines.map fun line => { line with
      salesCents := ((share companies invoices line.companyId).map SalesInvoice.cents).foldl JsNumber.plus
        line.salesCents } := by
  have pointed : addSale companies = fun lines inv => lines.map fun line =>
      if salesKey companies inv = some line.companyId then
        { line with salesCents := line.salesCents.plus inv.cents } else line := by
    funext lines inv
    unfold addSale salesKey
    cases companyOf companies inv with
    | none => simp
    | some company => simp [eq_comm]
  rw [pointed]
  refine (foldl_pointed (·.companyId) (salesKey companies) (fun (line : ConsolidationLine) inv =>
    { line with salesCents := line.salesCents.plus inv.cents }) (fun _ _ => rfl) invoices lines).trans ?_
  apply List.map_congr_left
  intro line mem
  clear mem
  unfold share
  generalize invoices.filter (salesKey companies · = some line.companyId) = mine
  induction mine generalizing line with
  | nil => rfl
  | cons inv mine ih => exact ih _

theorem foldl_addPurchase (lines : List ConsolidationLine) :
    supplierInvoices.foldl (addPurchase companies) lines = lines.map fun line => { line with
      purchasesCents := ((purchaseShare companies supplierInvoices line.companyId).map
        SupplierInvoice.cents).foldl JsNumber.plus line.purchasesCents } := by
  have pointed : addPurchase companies = fun lines si => lines.map fun line =>
      if (primary companies).map (·.id) = some line.companyId then
        { line with purchasesCents := line.purchasesCents.plus si.cents } else line := by
    funext lines si
    unfold addPurchase
    cases primary companies with
    | none => simp
    | some target => simp [eq_comm]
  rw [pointed]
  refine (foldl_pointed (·.companyId) (fun _ => (primary companies).map (·.id)) (fun (line : ConsolidationLine) si =>
    { line with purchasesCents := line.purchasesCents.plus si.cents }) (fun _ _ => rfl) supplierInvoices lines).trans ?_
  apply List.map_congr_left
  intro line mem
  clear mem
  unfold purchaseShare
  generalize supplierInvoices.filter (fun _ => (primary companies).map (·.id) = some line.companyId) = mine
  induction mine generalizing line with
  | nil => rfl
  | cons si mine ih => exact ih _

/-! ## Below the safe integers -/

def exactLine (companies : List Company) (invoices : List SalesInvoice) (supplierInvoices : List SupplierInvoice)
    (c : Company) : ConsolidationLine :=
  let sales := salesTotal (share companies invoices c.id)
  let purchases := purchasesTotal (purchaseShare companies supplierInvoices c.id)
  ⟨c.id, c.code, c.name, .finite sales, .finite purchases, .finite (sales - purchases : ℤ)⟩

theorem sum_abs_le {α : Type} (f : α → ℤ) {mine items : List α} (sub : mine.Sublist items) :
    (mine.map (|f ·|)).sum ≤ (items.map (|f ·|)).sum := by
  apply (sub.map _).sum_le_sum
  intro n mem
  obtain ⟨a, -, rfl⟩ := List.mem_map.mp mem
  exact abs_nonneg _

theorem sum_abs_nonneg {α : Type} (f : α → ℤ) (items : List α) : 0 ≤ (items.map (|f ·|)).sum :=
  List.sum_nonneg (by simp)

theorem foldl_cents {α : Type} (cents : α → JsNumber) {f : α → ℤ} {mine items : List α}
    (safe : (items.map (|f ·|)).sum < 2 ^ 53) (exact : ∀ a, |f a| < 2 ^ 53 → cents a = .finite (f a))
    (sub : mine.Sublist items) :
    (mine.map cents).foldl JsNumber.plus (.finite 0) = .finite ((mine.map f).sum : ℤ) := by
  have bound := (sum_abs_le f sub).trans_lt safe
  have each : mine.map cents = (mine.map f).map fun z : ℤ => JsNumber.finite z := by
    rw [List.map_map]
    apply List.map_congr_left
    intro a mem
    apply exact
    exact (List.single_le_sum (by simp) _ (List.mem_map_of_mem (f := (|f ·|)) mem)).trans_lt bound
  have sum := @JsNumber.foldl_plus_safe 0 (mine.map f) (by simpa [Function.comp_def] using bound)
  rw [each]
  simpa using sum

theorem abs_sum_map_le {α : Type} (f : α → ℤ) (items : List α) : |(items.map f).sum| ≤ (items.map (|f ·|)).sum := by
  simpa [Function.comp_def] using abs_sum_le (items.map f)

theorem SalesInvoice.cents_eq (inv : SalesInvoice) : inv.cents = .finite inv.totalAmount.units :=
  JsNumber.round_column (by norm_num) inv.totalAmount

section Safe
variable (safe : magnitude invoices supplierInvoices < 2 ^ 53)
include safe

theorem sales_safe : (invoices.map (|·.totalAmount.units|)).sum < 2 ^ 53 := by
  have rest := sum_abs_nonneg (·.totalCents) supplierInvoices
  unfold magnitude at safe
  omega

theorem purchases_safe : (supplierInvoices.map (|·.totalCents|)).sum < 2 ^ 53 := by
  have rest := sum_abs_nonneg (·.totalAmount.units) invoices
  unfold magnitude at safe
  omega

theorem net_safe (mine : List SalesInvoice) (bought : List SupplierInvoice) (sub : mine.Sublist invoices)
    (sub' : bought.Sublist supplierInvoices) :
    ((JsNumber.finite (salesTotal mine)).sub (.finite (purchasesTotal bought))).double =
      .finite (salesTotal mine - purchasesTotal bought : ℤ) := by
  have sales := (abs_sum_map_le (·.totalAmount.units) mine).trans (sum_abs_le (·.totalAmount.units) sub)
  have purchases := (abs_sum_map_le (·.totalCents) bought).trans (sum_abs_le (·.totalCents) sub')
  have triangle := abs_sub (salesTotal mine) (purchasesTotal bought)
  rw [JsNumber.sub_finite, ← Int.cast_sub, JsNumber.double_safe]
  unfold magnitude at safe
  unfold salesTotal purchasesTotal at *
  omega

theorem lines_safe :
    (supplierInvoices.foldl (addPurchase companies)
      (invoices.foldl (addSale companies) (companies.map emptyLine))).map net =
        companies.map (exactLine companies invoices supplierInvoices) := by
  rw [foldl_addSale, foldl_addPurchase]
  simp only [List.map_map]
  apply List.map_congr_left
  intro c _
  let mine := share companies invoices (emptyLine c).companyId
  let bought := purchaseShare companies supplierInvoices (emptyLine c).companyId
  have sales : (mine.map SalesInvoice.cents).foldl JsNumber.plus (emptyLine c).salesCents = .finite (salesTotal mine) :=
    foldl_cents _ (sales_safe safe) (fun inv _ => inv.cents_eq) List.filter_sublist
  have purchases : (bought.map SupplierInvoice.cents).foldl JsNumber.plus (emptyLine c).purchasesCents =
      .finite (purchasesTotal bought) :=
    foldl_cents _ (purchases_safe safe) (fun _ small => JsNumber.double_safe small) List.filter_sublist
  simp only [Function.comp_apply, MultiCompany.net]
  rw [sales, purchases]
  exact congrArg _ (net_safe safe mine bought List.filter_sublist List.filter_sublist)

end Safe

/-! ## Conservation -/

theorem primary_mem {c : Company} (eq : primary companies = some c) : c ∈ companies := by
  obtain flagged | ⟨-, first⟩ := Option.or_eq_some_iff.mp eq
  · exact List.mem_of_find?_eq_some flagged
  · exact List.mem_of_head? first

theorem primary_isSome (nonempty : companies ≠ []) : (primary companies).isSome := by
  cases companies with
  | nil => exact absurd rfl nonempty
  | cons c cs => simp [primary]

theorem companyOf_mem {inv : SalesInvoice} {c : Company} (eq : companyOf companies inv = some c) : c ∈ companies := by
  obtain own | ⟨-, fallback⟩ := Option.or_eq_some_iff.mp eq
  · exact List.mem_of_find?_eq_some own
  · exact primary_mem fallback

theorem companyOf_isSome (nonempty : companies ≠ []) (inv : SalesInvoice) : (companyOf companies inv).isSome := by
  rw [companyOf, Option.isSome_or, primary_isSome nonempty, Bool.or_true]

def keys (companies : List Company) : List (Option Uuid) := companies.map fun c => some c.id

theorem keys_nodup (distinct : (companies.map (·.id)).Nodup) : (keys companies).Nodup := by
  have keys := distinct.map (Option.some_injective Uuid)
  rwa [List.map_map] at keys

theorem salesKey_mem (nonempty : companies ≠ []) (inv : SalesInvoice) : salesKey companies inv ∈ keys companies := by
  obtain ⟨c, eq⟩ := Option.isSome_iff_exists.mp (companyOf_isSome nonempty inv)
  rw [salesKey, eq]
  exact List.mem_map_of_mem (companyOf_mem eq)

theorem primary_mem_keys (nonempty : companies ≠ []) : (primary companies).map (·.id) ∈ keys companies := by
  obtain ⟨c, eq⟩ := Option.isSome_iff_exists.mp (primary_isSome nonempty)
  rw [eq]
  exact List.mem_map_of_mem (primary_mem eq)

section Groups
variable (distinct : (companies.map (·.id)).Nodup) (nonempty : companies ≠ [])
include distinct nonempty

theorem shares_perm (invoices : List SalesInvoice) :
    (companies.flatMap fun c => share companies invoices c.id).Perm invoices := by
  have groups := flatMap_filter_perm (salesKey companies) (keys_nodup distinct)
    fun inv (_ : inv ∈ invoices) => salesKey_mem nonempty inv
  rwa [keys, List.flatMap_map] at groups

theorem shares_sum (f : SalesInvoice → ℤ) (invoices : List SalesInvoice) :
    (companies.map fun c => ((share companies invoices c.id).map f).sum).sum = (invoices.map f).sum := by
  have sums := sum_filter_key (salesKey companies) f (keys_nodup distinct)
    fun inv (_ : inv ∈ invoices) => salesKey_mem nonempty inv
  rwa [keys, List.map_map] at sums

theorem purchaseShares_sum (f : SupplierInvoice → ℤ) (supplierInvoices : List SupplierInvoice) :
    (companies.map fun c => ((purchaseShare companies supplierInvoices c.id).map f).sum).sum =
      (supplierInvoices.map f).sum := by
  have sums := sum_filter_key (fun _ => (primary companies).map (·.id)) f (keys_nodup distinct)
    fun si (_ : si ∈ supplierInvoices) => primary_mem_keys nonempty
  rwa [keys, List.map_map] at sums

end Groups

theorem column_safe {α : Type} {f : α → ℤ} {part : Company → List α} {items : List α}
    (parts : (companies.map fun c => ((part c).map (|f ·|)).sum).sum = (items.map (|f ·|)).sum)
    (sums : (companies.map fun c => ((part c).map f).sum).sum = (items.map f).sum)
    (safe : (items.map (|f ·|)).sum < 2 ^ 53) :
    (companies.map fun c => JsNumber.finite (((part c).map f).sum : ℤ)).foldl JsNumber.plus (.finite 0) =
      .finite ((items.map f).sum : ℤ) := by
  have small : (companies.map fun c => |((part c).map f).sum|).sum ≤
      (companies.map fun c => ((part c).map (|f ·|)).sum).sum :=
    List.sum_le_sum fun c _ => abs_sum_map_le f (part c)
  have exact := @JsNumber.foldl_plus_safe 0 (companies.map fun c => ((part c).map f).sum) (by
    rw [List.map_map, abs_zero, zero_add]
    exact (small.trans_eq parts).trans_lt safe)
  rw [List.map_map, zero_add, sums, Int.cast_zero] at exact
  exact exact

theorem rollup_safe (distinct : (companies.map (·.id)).Nodup) (nonempty : companies ≠ [])
    (safe : magnitude invoices supplierInvoices < 2 ^ 53) :
    rollup (companies.map (exactLine companies invoices supplierInvoices)) =
      ⟨.finite (salesTotal invoices), .finite (purchasesTotal supplierInvoices),
        .finite (salesTotal invoices - purchasesTotal supplierInvoices : ℤ)⟩ := by
  have sales : ((companies.map (exactLine companies invoices supplierInvoices)).map (·.salesCents)).foldl
      JsNumber.plus (.finite 0) = .finite (salesTotal invoices) := by
    rw [List.map_map]
    exact column_safe (shares_sum distinct nonempty _ _) (shares_sum distinct nonempty _ _) (sales_safe safe)
  have purchases : ((companies.map (exactLine companies invoices supplierInvoices)).map (·.purchasesCents)).foldl
      JsNumber.plus (.finite 0) = .finite (purchasesTotal supplierInvoices) := by
    rw [List.map_map]
    exact column_safe (purchaseShares_sum distinct nonempty _ _) (purchaseShares_sum distinct nonempty _ _)
      (purchases_safe safe)
  have net := net_safe safe invoices supplierInvoices (List.Sublist.refl _) (List.Sublist.refl _)
  simp only [rollup, sales, purchases, net]

theorem addsUp_map {α : Type} {column : α → JsNumber} {f : α → ℤ} {as bs : List α}
    (whole : ∀ a, column a = .finite (f a)) (perm : as.Perm bs) : AddsUp (as.map column) (bs.map f).sum :=
  ⟨as.map f, by simp [whole], (perm.map f).sum_eq⟩

theorem sum_map_sub {α : Type} (f g : α → ℤ) (as : List α) :
    (as.map fun a => f a - g a).sum = (as.map f).sum - (as.map g).sum := by
  induction as with
  | nil => rfl
  | cons a as ih =>
      simp only [List.map_cons, List.sum_cons, ih]
      ring

theorem conserved_safe {precedes : String → String → Bool} {fiscalYear : ℕ} {computedAtIso : String}
    {companies : List Company} (distinct : (companies.map (·.id)).Nodup) (nonempty : companies ≠ [])
    (safe : magnitude invoices supplierInvoices < 2 ^ 53) :
    Conserved companies invoices supplierInvoices
      { fiscalYear
        perCompany := (companies.map (exactLine companies invoices supplierInvoices)).insertionSort
          fun a b => precedes a.companyCode b.companyCode
        rollup := rollup (companies.map (exactLine companies invoices supplierInvoices))
        computedAtIso } := by
  have sorted := List.map_insertionSort (fun a b : Company => precedes a.code b.code = true)
    (fun a b : ConsolidationLine => precedes a.companyCode b.companyCode = true)
    (exactLine companies invoices supplierInvoices) companies fun _ _ _ _ => Iff.rfl
  have perm := List.perm_insertionSort (fun a b : Company => precedes a.code b.code = true) companies
  rw [← sorted]
  set cs := companies.insertionSort fun a b => precedes a.code b.code = true
  constructor
  · rw [List.map_map]
    exact perm.map _
  · refine ⟨share companies invoices, ?_, ?_⟩
    · rw [List.flatMap_map]
      exact (perm.flatMap_right _).trans (shares_perm distinct nonempty invoices)
    · intro line mem
      obtain ⟨c, -, rfl⟩ := List.mem_map.mp mem
      rfl
  · rw [List.map_map, salesTotal, ← shares_sum distinct nonempty]
    exact addsUp_map (fun _ => rfl) perm
  · rw [List.map_map, purchasesTotal, ← purchaseShares_sum distinct nonempty]
    exact addsUp_map (fun _ => rfl) perm
  · intro line mem
    obtain ⟨c, -, rfl⟩ := List.mem_map.mp mem
    simp [exactLine]
  · rw [List.map_map, salesTotal, purchasesTotal, ← shares_sum distinct nonempty, ← purchaseShares_sum distinct nonempty,
      ← sum_map_sub]
    exact addsUp_map (fun _ => rfl) perm
  · exact rollup_safe distinct nonempty safe

/-- Amounts are conserved as long as all of them together are numbers that a double holds. -/
theorem consolidate_conserves (precedes : String → String → Bool) {db : Documents} {tenantId : Uuid} {fiscalYear : ℕ}
    (computedAtIso : String) (nonempty : db.active tenantId ≠ [])
    (safe : magnitude (db.sales tenantId fiscalYear) (db.purchases tenantId fiscalYear) < 2 ^ 53) :
    Conserved (db.active tenantId) (db.sales tenantId fiscalYear) (db.purchases tenantId fiscalYear)
      (consolidate precedes db tenantId fiscalYear computedAtIso) := by
  have distinct : ((db.active tenantId).map (·.id)).Nodup := db.companies.nodup.sublist (List.filter_sublist.map _)
  unfold consolidate
  simp only [lines_safe safe]
  exact conserved_safe distinct nonempty safe

def holding : Company where
  id := 4
  tenantId := 1
  code := "HQ"
  name := "Macena Holding SRL"
  vatNumber := some "01234567890"
  fiscalCode := none
  sdiDestinationCode := none
  pecEmail := none
  address := "\x7b\x7d"
  isPrimary := true
  isActive := true

def group (totalCents : ℤ) : Documents where
  companies := ⟨[holding], List.nodup_singleton _⟩
  invoices := [⟨7, 1, Sample.fifteenthOfApril, none, Sample.draft.totalAmount⟩]
  supplierInvoices := [⟨9, 1, ⟨2026, 5, 2, Sample.fifteenthOfApril.year_digits, by decide, by decide⟩, totalCents⟩]

def foundry : Company :=
  { holding with id := 5, code := "BG", name := "Macena Fonderia SRL", vatNumber := some "09876543210", isPrimary := false }

def sold (id : Uuid) (customerVatNumber : Option String) (cents : ℕ) : SalesInvoice :=
  ⟨id, 1, Sample.fifteenthOfApril, customerVatNumber, ⟨(cents % 10 ^ 12 : ℕ), by omega⟩⟩

def nextApril : Date :=
  ⟨2027, 4, 15, by decide, Sample.fifteenthOfApril.month_range, Sample.fifteenthOfApril.day_range⟩

/-- Sales under the number of the one company and of the other, under a foreign one and under none; the last two
are of another tenant and of another year. -/
def twoCompanies : Documents where
  companies := ⟨[holding, foundry], by decide⟩
  invoices := [sold 7 (some "01234567890") 12200, sold 8 (some "09876543210") 6105, sold 9 (some "DE811907980") 50,
    sold 10 none 1, sold 11 (some "09876543210") 300, { sold 12 none 99 with tenantId := 2 },
    { sold 13 none 98 with invoiceDate := nextApril }]
  supplierInvoices := [⟨14, 1, Sample.fifteenthOfApril, 5000⟩, ⟨15, 1, Sample.fifteenthOfApril, -20⟩]

def yearEnd : ConsolidationResult :=
  consolidate (fun a b => a ≤ b) twoCompanies 1 2026 "2026-12-31T00:00:00.000Z"

/-- The holding, which is primary, has what no company's number stands on. -/
theorem consolidate_small :
    Conserved (twoCompanies.active 1) (twoCompanies.sales 1 2026) (twoCompanies.purchases 1 2026) yearEnd ∧
      yearEnd.perCompany.map (fun line => (line.companyCode, line.salesCents, line.purchasesCents, line.netCents)) =
        [("BG", .finite 6405, .finite 0, .finite 6405), ("HQ", .finite 12251, .finite 4980, .finite 7271)] := by
  have amounts : magnitude (twoCompanies.sales 1 2026) (twoCompanies.purchases 1 2026) < 2 ^ 53 := by decide +kernel
  exact ⟨consolidate_conserves _ _ (by decide) amounts, by decide +kernel⟩

/-- A supplier invoice that no double stands for. -/
theorem consolidate_rounds :
    ¬ Conserved ((group (2 ^ 53 + 1)).active 1) ((group (2 ^ 53 + 1)).sales 1 2026)
      ((group (2 ^ 53 + 1)).purchases 1 2026)
      (consolidate (fun a b => a ≤ b) (group (2 ^ 53 + 1)) 1 2026 "2026-12-31T00:00:00.000Z") := by
  intro conserved
  have column : (consolidate (fun a b => a ≤ b) (group (2 ^ 53 + 1)) 1 2026
      "2026-12-31T00:00:00.000Z").rollup.purchasesCents = .finite (2 ^ 53) := by
    decide +kernel
  rw [conserved.rollup] at column
  have total : purchasesTotal ((group (2 ^ 53 + 1)).purchases 1 2026) = 2 ^ 53 + 1 := by decide +kernel
  rw [total] at column
  norm_num at column

end SmartErp.MultiCompany
