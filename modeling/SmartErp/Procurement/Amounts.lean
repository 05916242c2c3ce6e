import SmartErp.Procurement.Figures

/-!
# What a matched invoice may charge

The checks bound each line's quantity and unit cost by the order and the receipts, and the header total
by the invoice's own line totals. No check relates a line total to its line's quantity and unit cost.
-/

namespace SmartErp.Procurement
open Foundations

variable {orderLines : List OrderLine} {grLines : List GrLineSnapshot} {siLines : List InvoiceLine}

structure NonNegative (orderLines : List OrderLine) (grLines : List GrLineSnapshot)
    (siLines : List InvoiceLine) : Prop where
  order : ∀ pol ∈ orderLines, 0 ≤ pol.unitCostCents ∧ 0 ≤ pol.taxRate
  receipts : ∀ g ∈ grLines, ∃ q ∈ numericString g.acceptedQuantity, 0 ≤ q
  invoice : ∀ l ∈ siLines, 0 ≤ l.unitCostCents ∧ 0 ≤ l.taxRate ∧ ∃ q ∈ numericString l.quantity, 0 ≤ q

def InvoiceLine.roundedTax (l : InvoiceLine) : JsNumber :=
  (((JsNumber.finite l.lineTotalCents).times (.finite l.taxRate)).dividedBy (.finite 100)).round

def charged (lines : List InvoiceLine) : JsNumber :=
  lines.foldl (fun s l => (s.plus (.finite l.lineTotalCents)).plus l.roundedTax) (.finite 0)

def Cents (z : ℤ) : Prop := (JsNumber.finite z).double = .finite z

instance (z : ℤ) : Decidable (Cents z) := inferInstanceAs (Decidable (_ = _))

def totalTolerance (expected : JsNumber) : JsNumber :=
  (expected.times ((JsNumber.finite 1).dividedBy (.finite 100))).abs.plus (.finite (1/2))

/-- No number of cents up to the invoice's own total and its tolerance exceeds the bound. Of a total beyond all
doubles every number is within tolerance, and of one that is none, no number. -/
def Covered (expected : JsNumber) (bound : ℚ) : Prop :=
  match expected with
  | .finite t => ∀ z : ℤ, Cents z → (JsNumber.finite (z - t)).le (totalTolerance expected) = true → z ≤ bound
  | .infinity _ => ∀ z : ℤ, Cents z → z ≤ bound
  | .nan => True

section
variable (orderLines grLines siLines)

instance : Decidable (NonNegative orderLines grLines siLines) :=
  decidable_of_iff ((∀ pol ∈ orderLines, 0 ≤ pol.unitCostCents ∧ 0 ≤ pol.taxRate) ∧
    (∀ g ∈ grLines, ∃ q ∈ numericString g.acceptedQuantity, 0 ≤ q) ∧
    ∀ l ∈ siLines, 0 ≤ l.unitCostCents ∧ 0 ≤ l.taxRate ∧ ∃ q ∈ numericString l.quantity, 0 ≤ q)
    ⟨fun h => ⟨h.1, h.2.1, h.2.2⟩, fun h => ⟨h.1, h.2, h.3⟩⟩

end

/-! ## Ten pieces at ten euros -/

end SmartErp.Procurement
