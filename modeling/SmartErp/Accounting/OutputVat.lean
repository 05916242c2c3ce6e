import SmartErp.Accounting.Liquidation
import SmartErp.Auth.Memberships
import SmartErp.Procurement.SupplierInvoices

/-!
# Three views of the output VAT of a month

The snapshot of `commercialista.service.ts` and the projection `iva_periodic_balance` add up the stored tax
of the invoices, whatever their status; `ivaLiquidation` adds up the tax of the lines of accepted ones.
-/

namespace SmartErp.Accounting
open Foundations

inductive SubscriptionPlan where
  | base
  | professionale
  | enterprise
  deriving DecidableEq

inductive TenantStatus where
  | trial
  | active
  | pastDue
  | suspended
  | cancelled
  deriving DecidableEq

structure Tenant where
  id : Uuid
  name : String
  plan : SubscriptionPlan
  status : TenantStatus
  deriving DecidableEq

/-- The columns of a supplier invoice that the views read. -/
structure Purchase where
  tenantId : Uuid
  supplierInvoiceDate : Date
  status : Procurement.SupplierInvoiceStatus
  taxCents : ℤ
  deriving DecidableEq

structure Portal where
  memberships : Table Auth.Membership.key
  tenants : Table Tenant.id
  accounting : Db
  supplierInvoices : List Purchase

/-- `Math.round(Number(r.taxAmount ?? 0) * 100)` -/
def Invoice.taxCents (i : Invoice) : JsNumber := (i.taxAmount.number.times (.finite 100)).round

/-- `Number(si.taxCents ?? 0)` -/
def Purchase.number (si : Purchase) : JsNumber := (JsNumber.finite si.taxCents).double

/-! ## The snapshot -/

namespace IvaPeriodicBalance

/-- The bounds are the days that the driver sends for the timestamps. -/
structure ProjectionContext where
  tenantId : Uuid
  fromTimestamp : Option Date
  toTimestamp : Option Date

def rank (d : Date) : ℤ := d.monthIndex * 31 + d.day

def ProjectionContext.admits (ctx : ProjectionContext) (d : Date) : Bool :=
  ctx.fromTimestamp.all (rank · ≤ rank d) && ctx.toTimestamp.all (rank d < rank ·)

structure Sums where
  ivaSalesCents : JsNumber
  ivaPurchasesCents : JsNumber
  deriving DecidableEq

structure ProjectionRow where
  key : String
  ivaSalesCents : JsNumber
  ivaPurchasesCents : JsNumber
  balanceCents : JsNumber
  deriving DecidableEq

def monthKey (year month : ℕ) : String :=
  let mm := String.ofList ((Nat.toDigits 10 month).leftpad 2 '0')
  s!"{year}-{mm}"

def k (d : Date) : String := monthKey d.year d.month

def noSums : Sums := ⟨.finite 0, .finite 0⟩

def addSale (cur : Option Sums) (r : Invoice) : Sums :=
  let cur := cur.getD noSums
  { cur with ivaSalesCents := cur.ivaSalesCents.plus r.taxCents }

def addPurchase (cur : Option Sums) (r : Purchase) : Sums :=
  let cur := cur.getD noSums
  { cur with ivaPurchasesCents := cur.ivaPurchasesCents.plus r.number }

def row (key : String) (sums : Sums) : ProjectionRow :=
  ⟨key, sums.ivaSalesCents, sums.ivaPurchasesCents, sums.ivaSalesCents.minus sums.ivaPurchasesCents⟩

def entries (invoices : List Invoice) (sis : List Purchase) : List (String × Sums) :=
  sis.foldl (fun m r => adjust (k r.supplierInvoiceDate) (addPurchase · r) m)
    (invoices.foldl (fun m r => adjust (k r.invoiceDate) (addSale · r) m) [])

/-- `localeCompare` is the collation of the host. -/
def run (localeCompare : String → String → Bool) (portal : Portal) (ctx : ProjectionContext) :
    List ProjectionRow :=
  let invoices := portal.accounting.invoices.rows.filter fun i =>
    i.tenantId = ctx.tenantId ∧ ctx.admits i.invoiceDate
  let sis := portal.supplierInvoices.filter fun si =>
    si.tenantId = ctx.tenantId ∧ ctx.admits si.supplierInvoiceDate
  ((entries invoices sis).map fun e => row e.1 e.2).mergeSort fun a b => localeCompare a.key b.key

/-- What is read for a period, as by the tool `summarise_iva`, that takes a missing row for zero. -/
def ivaSalesCents (rows : List ProjectionRow) (period : String) : JsNumber :=
  ((rows.find? (·.key = period)).map (·.ivaSalesCents)).getD (.finite 0)

/-! ## The row of a month -/

end IvaPeriodicBalance

/-! ## Agreement -/

def taxAmounts (invoices : List Invoice) : ℚ := (invoices.map (·.taxAmount.val)).sum

namespace Sample

def issued (lines : List InvoiceLineDto) : Db := (issue 4 7 lines none).foldl next (opening clients)

def pending : Db := ((issue 4 7 [valve] none).take 1).foldl next (opening clients)

end Sample

end SmartErp.Accounting
