import SmartErp.Procurement.ThreeWayMatch

/-!
# Matching on numbers

What the checks say when the cents are whole numbers and the quantities are decimals of four digits, as the
columns hold them.
-/

namespace SmartErp.Procurement
open Foundations

structure OrderLine where
  poLineId : Uuid
  productId : Uuid
  quantity : String
  unitCostCents : ℤ
  taxRate : ℚ

structure InvoiceLine where
  invoiceLineId : Uuid
  poLineId : Option Uuid
  quantity : String
  unitCostCents : ℤ
  taxRate : ℚ
  lineTotalCents : ℤ

def OrderLine.snapshot (l : OrderLine) : PoLineSnapshot :=
  ⟨l.poLineId, l.productId, l.quantity, num l.unitCostCents, num l.taxRate⟩

def InvoiceLine.snapshot (l : InvoiceLine) : SiLineSnapshot :=
  ⟨l.invoiceLineId, l.poLineId, l.quantity, num l.unitCostCents, num l.taxRate, num l.lineTotalCents⟩

def decimalOf (s : String) : ℚ := (numericString s).getD 0

/-- A text of a column of four decimals. -/
def Quantity (s : String) : Prop := ∃ q ∈ numericString s, Exact 4 q

instance (s : String) : Decidable (Quantity s) := inferInstanceAs (Decidable (∃ q ∈ numericString s, Exact 4 q))

theorem Quantity.parseNumber {s : String} (quantity : Quantity s) :
    parseNumber s = (JsNumber.finite (decimalOf s)).double := by
  obtain ⟨q, numeric, -⟩ := quantity
  rw [Option.mem_def] at numeric
  rw [parseNumber_numericString numeric, decimalOf, numeric, Option.getD_some]

theorem Quantity.exact {s : String} (quantity : Quantity s) : Exact 4 (decimalOf s) := by
  obtain ⟨q, numeric, exact⟩ := quantity
  rw [Option.mem_def] at numeric
  rwa [decimalOf, numeric, Option.getD_some]

def receipts (grLines : List GrLineSnapshot) (poLineId : Uuid) : List ℚ :=
  (grLines.filter (·.poLineId = poLineId)).map fun g => decimalOf g.acceptedQuantity

def accepted (grLines : List GrLineSnapshot) (poLineId : Uuid) : ℚ := (receipts grLines poLineId).sum

theorem acceptedQty_receipts {grLines : List GrLineSnapshot} (quantities : ∀ g ∈ grLines, Quantity g.acceptedQuantity)
    (poLineId : Uuid) : acceptedQty grLines poLineId =
      ((receipts grLines poLineId).map fun q => (JsNumber.finite q).double).foldl JsNumber.plus (.finite 0) := by
  rw [acceptedQty_eq, receipts, List.map_map]
  congr 1
  apply List.map_congr_left
  intro g mem
  exact (quantities g (List.mem_of_mem_filter mem)).parseNumber

/-! ## The quantity check -/

theorem percent_le (p : Fin 101) : (p.val : ℚ) / 100 ≤ 1 := by
  have : (p.val : ℚ) ≤ 100 := by exact_mod_cast Nat.le_of_lt_succ p.isLt
  linarith

theorem near_percent (p : Fin 101) :
    ((JsNumber.finite p.val).dividedBy (.finite 100)).Near (p.val / 100) (1 / 2 ^ 53) := by
  rw [JsNumber.dividedBy, JsNumber.div_finite _ (by norm_num)]
  apply JsNumber.near_rounded (normal_of_le (by norm_num)) (by norm_num)
  rw [abs_of_nonneg (by positivity)]
  exact percent_le p

theorem near_tenThousandth : (JsNumber.finite (1/10000)).double.Near (1/10000) (1 / 2 ^ 66) := by
  have normal : (2 : ℚ) ^ (-1022 : ℤ) ≤ 1 / 2 ^ 13 := normal_of_le (by norm_num)
  exact (JsNumber.near_rounded normal (by norm_num) (by norm_num)).mono (by norm_num)

theorem le_of_lt_millionth {q e : ℚ} (exact : Exact 4 q) (exact' : Exact 4 e) (p : ℕ)
    (near : q < e * (1 + p / 100) + 1/10000 + 1/1000000) : q ≤ e * (1 + p / 100) + 1/10000 := by
  obtain ⟨m, hm⟩ := exact_iff.mp exact
  obtain ⟨n, hn⟩ := exact_iff.mp exact'
  have q_eq : q = m / 10000 := by linarith
  have e_eq : e = n / 10000 := by linarith
  rw [q_eq, e_eq] at near ⊢
  have scaled : ((m * 100 : ℤ) : ℚ) < (n * (100 + p) + 100 + 1 : ℤ) := by
    push_cast
    linarith
  have whole : ((m * 100 : ℤ) : ℚ) ≤ (n * (100 + p) + 100 : ℤ) := by
    exact_mod_cast Int.le_of_lt_add_one (by exact_mod_cast scaled)
  push_cast at whole
  linarith

/-- The check on numbers that are near two quantities, the first of which was added up with an error of `e`. -/
theorem le_of_within_tolerance {accepted invoiced : JsNumber} {s q e size : ℚ} (p : Fin 101)
    (least : 1/2500 ≤ size) (most : size ≤ 2 ^ 64) (near : accepted.Near s e) (near' : invoiced.Near q (size / 2 ^ 53))
    (nonneg : 0 ≤ s) (error : 0 ≤ e) (small : e ≤ size / 8) (room : 4 * (s + |q|) ≤ size)
    (within : (invoiced.minus accepted).abs.le ((accepted.times ((JsNumber.finite p.val).dividedBy (.finite 100))).abs.plus
      (JsNumber.finite (1/10000)).double) = true) :
    q ≤ s * (1 + p.val / 100) + 1/10000 + 2 * e + 4 * (size / 2 ^ 52) := by
  have normal : (2 : ℚ) ^ (-1022 : ℤ) ≤ size := normal_of_le (by linarith)
  have single := abs_nonneg q
  obtain ⟨unit, unit_eq⟩ : ∃ unit, unit = size / 2 ^ 52 := ⟨_, rfl⟩
  have half : size / 2 ^ 53 = unit / 2 := by
    rw [unit_eq]
    ring
  have unit_le : unit * 2 ^ 50 = size / 4 := by
    rw [unit_eq]
    ring
  have percent := percent_le p
  have rate : 0 ≤ (p.val : ℚ) / 100 := by positivity
  have scaled : 0 ≤ s * (p.val / 100 : ℚ) := mul_nonneg nonneg rate
  have scaled_le : s * (p.val / 100 : ℚ) ≤ s := mul_le_of_le_one_right nonneg percent
  have part : e * (|(p.val : ℚ) / 100| + 1 / 2 ^ 53) + |s| * (1 / 2 ^ 53) ≤ e + unit := by
    rw [abs_of_nonneg nonneg, abs_of_nonneg rate]
    have whole : e * (p.val / 100 : ℚ) ≤ e := mul_le_of_le_one_right error percent
    linarith
  rw [half] at near'
  have product := near.times normal most (near_percent p) (by rw [abs_of_nonneg scaled]; linarith)
  have tolerance := product.abs.plus normal most near_tenThousandth
    (by rw [abs_of_nonneg scaled, abs_of_nonneg (by linarith), half]; linarith)
  have difference := (near'.minus normal most near (by
    have apart := abs_sub q s
    rw [abs_of_nonneg nonneg] at apart
    linarith)).abs
  have upper := difference.le tolerance within
  rw [abs_of_nonneg scaled, half] at upper
  have last : (1 : ℚ) / 2 ^ 66 ≤ unit / 2 := by
    rw [unit_eq, div_div, le_div_iff₀ (by norm_num)]
    linarith
  rw [← unit_eq]
  linarith [le_abs_self (q - s)]

/-- What the rounding of doubles can add: a part in `2 ^ 50` of the size of the quantities, and as much again for
every receipt. -/
theorem withinPctDecimal_near {expected actual : String} {qs : List ℚ} {q size : ℚ} (p : Fin 101)
    (sum : parseNumber expected = (qs.map fun q => (JsNumber.finite q).double).foldl JsNumber.plus (.finite 0))
    (given : parseNumber actual = (JsNumber.finite q).double) (nonneg : 0 ≤ qs.sum)
    (size_eq : size = 4 * ((qs.map (|·|)).sum + |q|)) (least : 1/2500 ≤ size) (most : size ≤ 2 ^ 64)
    (few : (qs.length : ℚ) ≤ 2 ^ 49) (within : withinPctDecimal expected actual (num p.val) = true) :
    q ≤ qs.sum * (1 + p.val / 100) + 1/10000 + (2 * qs.length + 4) * (size / 2 ^ 52) := by
  have normal : (2 : ℚ) ^ (-1022 : ℤ) ≤ size := normal_of_le (by linarith)
  have single := abs_nonneg q
  have total := abs_sum_le qs
  rw [abs_of_nonneg nonneg] at total
  have small : qs.length * (size / 2 ^ 52) ≤ size / 8 := by
    rw [mul_div_assoc', div_le_div_iff₀ (by norm_num) (by norm_num)]
    have := mul_le_mul_of_nonneg_right few (by linarith : (0 : ℚ) ≤ size)
    linarith
  have error : 0 ≤ qs.length * (size / 2 ^ 52) := by positivity
  have accepted := (JsNumber.Near.exact 0).mono (by simp) |>.foldl_plus (s := qs) (k := 0) normal most
    (by push_cast; rw [abs_zero]; linarith)
  rw [zero_add, zero_add] at accepted
  have invoiced := JsNumber.near_rounded normal most (show |q| ≤ size by linarith)
  unfold withinPctDecimal at within
  dsimp only at within
  rw [sum, given] at within
  split_ifs at within with zero
  · -- Against nothing accepted, only nothing passes.
    rw [decide_eq_true_eq] at within
    obtain ⟨d, rounded, close⟩ := invoiced
    rw [within, JsNumber.finite.injEq] at rounded
    rw [← rounded, abs_le] at close
    have scaled : 0 ≤ qs.sum * (p.val / 100 : ℚ) := mul_nonneg nonneg (by positivity)
    linarith
  · have upper := le_of_within_tolerance p least most accepted invoiced nonneg error small (by linarith) within
    linarith

theorem ten_thousandth_le {q : ℚ} (exact : Exact 4 q) (nonzero : q ≠ 0) : 1/10000 ≤ |q| := by
  obtain ⟨n, hn⟩ := exact_iff.mp exact
  have positive : 1 ≤ |n| := Int.one_le_abs fun zero => nonzero (by simpa [zero] using hn)
  have scaled : |q| * 10 ^ 4 = |(n : ℚ)| := by rw [← hn, abs_mul, abs_of_pos (scale_pos 4)]
  have whole : (1 : ℚ) ≤ |(n : ℚ)| := by exact_mod_cast positive
  linarith

/-- The quantity is no more than what was accepted, or doubles are fine enough for the check of these quantities. -/
def Measured (grLines : List GrLineSnapshot) (poLineId : Uuid) (q : ℚ) : Prop :=
  q ≤ accepted grLines poLineId ∨
    ((receipts grLines poLineId).length + 2) * (((receipts grLines poLineId).map (|·|)).sum + |q|) < 2 ^ 29

instance (grLines : List GrLineSnapshot) (poLineId : Uuid) (q : ℚ) : Decidable (Measured grLines poLineId q) :=
  inferInstanceAs (Decidable (_ ∨ _))

theorem withinPctDecimal_le {grLines : List GrLineSnapshot} {poLineId : Uuid} {actual : String} {p : Fin 101}
    (quantities : ∀ g ∈ grLines, Quantity g.acceptedQuantity) (quantity : Quantity actual)
    (nonneg : 0 ≤ accepted grLines poLineId) (measured : Measured grLines poLineId (decimalOf actual))
    (within : withinPctDecimal (numberText (acceptedQty grLines poLineId)) actual (num p.val) = true) :
    decimalOf actual ≤ accepted grLines poLineId * (1 + p.val / 100) + 1/10000 := by
  have tolerance : 0 ≤ accepted grLines poLineId * (p.val / 100 : ℚ) := by positivity
  rcases measured with covered | small
  · linarith
  by_cases zero : decimalOf actual = 0
  · rw [zero]
    linarith
  have least := ten_thousandth_le quantity.exact zero
  obtain ⟨sum, sum_eq⟩ : ∃ sum, sum = ((receipts grLines poLineId).map (|·|)).sum := ⟨_, rfl⟩
  have magnitudes : 0 ≤ sum := by
    rw [sum_eq]
    exact List.sum_nonneg (by simp)
  rw [← sum_eq] at small
  have count : ((receipts grLines poLineId).length + 2 : ℚ) * (1/10000) < 2 ^ 29 := by
    refine lt_of_le_of_lt ?_ small
    gcongr
    linarith
  have size : 2 * (sum + |decimalOf actual|) < 2 ^ 29 := by
    refine lt_of_le_of_lt ?_ small
    gcongr
    linarith [(Nat.cast_nonneg (receipts grLines poLineId).length : (0 : ℚ) ≤ _)]
  have exact : Exact 4 (accepted grLines poLineId) := by
    apply Exact.sum
    intro q mem
    obtain ⟨g, hg, rfl⟩ := List.mem_map.mp mem
    exact (quantities g (List.mem_of_mem_filter hg)).exact
  apply le_of_lt_millionth quantity.exact exact
  have near := withinPctDecimal_near p
    ((parseNumber_acceptedQty _ _).trans (acceptedQty_receipts quantities _)) quantity.parseNumber nonneg
    (show 4 * (sum + |decimalOf actual|) = _ by rw [sum_eq]) (by linarith) (by linarith) (by linarith) within
  have error : (2 * (receipts grLines poLineId).length + 4 : ℚ) * (4 * (sum + |decimalOf actual|) / 2 ^ 52) < 1 / 1000000 := by
    calc (2 * (receipts grLines poLineId).length + 4 : ℚ) * (4 * (sum + |decimalOf actual|) / 2 ^ 52)
        = ((receipts grLines poLineId).length + 2) * (sum + |decimalOf actual|) / 2 ^ 49 := by ring
      _ < 2 ^ 29 / 2 ^ 49 := by gcongr
      _ < 1 / 1000000 := by norm_num
  exact near.trans_lt (add_lt_add_right error _)

/-! ## Lines of the order -/

namespace Sample

def tenOrdered : OrderLine := ⟨1, 7, "10.0000", 1000, 22⟩

def tenReceived : GrLineSnapshot := ⟨1, "10.0000"⟩

def tenInvoiced (lineTotalCents : ℤ) : InvoiceLine := ⟨11, some 1, "10.0000", 1000, 22, lineTotalCents⟩

end Sample

end SmartErp.Procurement
