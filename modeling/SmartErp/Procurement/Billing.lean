import SmartErp.Procurement.Figures
import SmartErp.Foundations.Runs

/-!
# What invoice after invoice bills

Each invoice line is compared on its own with the whole accepted quantity of its order line. The code
keeps no account of what earlier lines billed.
-/

namespace SmartErp.Procurement
open Foundations

structure Invoice where
  lines : List InvoiceLine
  siTotalCents : ℤ
  quantityPct : Fin 101
  pricePct : Fin 101
  totalPct : Fin 101

def Invoice.poLineIds (invoice : Invoice) : List Uuid := invoice.lines.filterMap (·.poLineId)

/-- The input `runMatch` makes: the order lines the invoice refers to, and their receipts. -/
def matchInput (orderLines : List OrderLine) (grLines : List GrLineSnapshot) (invoice : Invoice) :
    ThreeWayMatchInput where
  poLines := (orderLines.filter (·.poLineId ∈ invoice.poLineIds)).map (·.snapshot)
  grLines := grLines.filter (·.poLineId ∈ invoice.poLineIds)
  siLines := invoice.lines.map (·.snapshot)
  siTotalCents := num invoice.siTotalCents
  tolerances := some {
    quantityPct := some (num invoice.quantityPct.val)
    pricePct := some (num invoice.pricePct.val)
    totalPct := some (num invoice.totalPct.val) }

def evaluate (orderLines : List OrderLine) (grLines : List GrLineSnapshot) (matched : List Invoice)
    (invoice : Invoice) : List Invoice :=
  if (runThreeWayMatch (matchInput orderLines grLines invoice)).matched then matched ++ [invoice]
  else matched

def Invoice.bills (invoice : Invoice) : List (Uuid × ℚ) :=
  invoice.lines.filterMap fun l => l.poLineId.map fun id => (id, decimalOf l.quantity)

def billed (matched : List Invoice) (poLineId : Uuid) : ℚ := demand poLineId (matched.flatMap (·.bills))

def Invoice.charges (invoice : Invoice) : List (Uuid × ℚ) := invoice.bills.filter (·.2 ≠ 0)

def Invoice.WellFormed (largest : Fin 101) (invoice : Invoice) : Prop :=
  (∀ l ∈ invoice.lines, Quantity l.quantity) ∧ invoice.quantityPct ≤ largest

/-- No line bills an order line that another line of the invoice bills, or an earlier matched invoice, and doubles
are fine enough for the check of its quantity. -/
def BillsAfresh (grLines : List GrLineSnapshot) (matched : List Invoice) (invoice : Invoice) : Prop :=
  (invoice.charges.map Prod.fst).Nodup ∧
    (∀ c ∈ invoice.charges, ∀ earlier ∈ matched, c.1 ∉ earlier.charges.map Prod.fst) ∧
    ∀ c ∈ invoice.charges, Measured grLines c.1 c.2

instance (largest : Fin 101) (invoice : Invoice) : Decidable (invoice.WellFormed largest) := by
  unfold Invoice.WellFormed
  infer_instance

instance (grLines : List GrLineSnapshot) (matched : List Invoice) (invoice : Invoice) :
    Decidable (BillsAfresh grLines matched invoice) := by
  unfold BillsAfresh
  infer_instance

variable {orderLines : List OrderLine} {grLines : List GrLineSnapshot}

theorem receipts_filter {ids : List Uuid} {poLineId : Uuid} (mem : poLineId ∈ ids) :
    receipts (grLines.filter (·.poLineId ∈ ids)) poLineId = receipts grLines poLineId := by
  unfold receipts
  rw [List.filter_filter]
  congr 1
  apply List.filter_congr
  intro g _
  by_cases here : g.poLineId = poLineId
  · simp [here, mem]
  · simp [here]

theorem charges_le {invoice : Invoice} {matched : List Invoice} {largest : Fin 101} (wellFormed : invoice.WellFormed largest)
    (quantities : ∀ g ∈ grLines, Quantity g.acceptedQuantity) (nonneg : ∀ id, 0 ≤ accepted grLines id)
    (afresh : BillsAfresh grLines matched invoice)
    (matches' : (runThreeWayMatch (matchInput orderLines grLines invoice)).matched = true)
    {charge : Uuid × ℚ} (mem : charge ∈ invoice.charges) :
    charge.2 ≤ accepted grLines charge.1 * (1 + largest.val / 100) + 1/10000 := by
  have measured := afresh.2.2 charge mem
  obtain ⟨l, hl, eq⟩ := List.mem_filterMap.mp (List.mem_of_mem_filter mem)
  obtain ⟨id, linked, rfl⟩ := Option.map_eq_some_iff.mp eq
  have agrees := (runThreeWayMatch_matched.mp matches').1 l.snapshot (List.mem_map_of_mem hl)
  obtain ⟨pol, linked', -, quantity, -⟩ := agrees
  obtain rfl : id = pol.poLineId := Option.some_inj.mp (linked.symm.trans linked')
  have listed : pol.poLineId ∈ invoice.poLineIds := List.mem_filterMap.mpr ⟨l, hl, linked⟩
  have same : receipts (grLines.filter (·.poLineId ∈ invoice.poLineIds)) pol.poLineId = receipts grLines pol.poLineId :=
    receipts_filter listed
  have received : ∀ g ∈ (matchInput orderLines grLines invoice).grLines, Quantity g.acceptedQuantity :=
    fun g hg => quantities g (List.mem_of_mem_filter hg)
  have upper := withinPctDecimal_le (p := invoice.quantityPct) received (wellFormed.1 l hl)
    (by rw [accepted, matchInput, same]; exact nonneg _) (by rw [Measured, accepted, matchInput, same]; exact measured) quantity
  rw [accepted, matchInput, same] at upper
  have wider : accepted grLines pol.poLineId * (1 + invoice.quantityPct.val / 100) ≤
      accepted grLines pol.poLineId * (1 + largest.val / 100) := by
    have := nonneg pol.poLineId
    have : invoice.quantityPct.val ≤ largest.val := wellFormed.2
    gcongr
  exact upper.trans (add_le_add_left wider _)

theorem billed_eq_charges (matched : List Invoice) (poLineId : Uuid) :
    billed matched poLineId = demand poLineId (matched.flatMap (·.charges)) := by
  rw [billed, ← demand_filter_ne_zero, List.filter_flatMap]
  rfl

theorem evaluate_charges {matched : List Invoice} {invoice : Invoice} {largest : Fin 101}
    (quantities : ∀ g ∈ grLines, Quantity g.acceptedQuantity)
    (nonneg : ∀ id, 0 ≤ accepted grLines id) (wellFormed : invoice.WellFormed largest)
    (afresh : BillsAfresh grLines matched invoice)
    (apart : ((matched.flatMap (·.charges)).map Prod.fst).Nodup)
    (bounded : ∀ c ∈ matched.flatMap (·.charges),
      c.2 ≤ accepted grLines c.1 * (1 + largest.val / 100) + 1/10000) :
    (((evaluate orderLines grLines matched invoice).flatMap (·.charges)).map Prod.fst).Nodup ∧
      ∀ c ∈ (evaluate orderLines grLines matched invoice).flatMap (·.charges),
        c.2 ≤ accepted grLines c.1 * (1 + largest.val / 100) + 1/10000 := by
  unfold evaluate
  split
  · rename_i matches'
    rw [List.flatMap_append, List.flatMap_singleton, List.map_append]
    constructor
    · rw [List.nodup_append]
      refine ⟨apart, afresh.1, ?_⟩
      rintro id old id' new rfl
      obtain ⟨c, hc, rfl⟩ := List.mem_map.mp new
      obtain ⟨c', hc', same⟩ := List.mem_map.mp old
      obtain ⟨earlier, hearlier, charged⟩ := List.mem_flatMap.mp hc'
      exact afresh.2.1 c hc earlier hearlier (same ▸ List.mem_map_of_mem charged)
    · intro c mem
      rcases List.mem_append.mp mem with old | new
      · exact bounded c old
      · exact charges_le wellFormed quantities nonneg afresh matches' new
  · exact ⟨apart, bounded⟩

/-- As long as no order line is billed twice, no order line is billed beyond what was accepted. -/
theorem billed_le_accepted {largest : Fin 101} (quantities : ∀ g ∈ grLines, Quantity g.acceptedQuantity)
    (nonneg : ∀ id, 0 ≤ accepted grLines id) {invoices matched : List Invoice}
    (run : Run (fun s invoice => invoice.WellFormed largest ∧ BillsAfresh grLines s invoice)
      (evaluate orderLines grLines) [] invoices matched) (poLineId : Uuid) :
    billed matched poLineId ≤ accepted grLines poLineId * (1 + largest.val / 100) + 1/10000 := by
  obtain ⟨apart, bounded⟩ : ((matched.flatMap (·.charges)).map Prod.fst).Nodup ∧
      ∀ c ∈ matched.flatMap (·.charges),
        c.2 ≤ accepted grLines c.1 * (1 + largest.val / 100) + 1/10000 := by
    apply run.invariant fun s => ((s.flatMap (·.charges)).map Prod.fst).Nodup ∧
      ∀ c ∈ s.flatMap (·.charges), c.2 ≤ accepted grLines c.1 * (1 + largest.val / 100) + 1/10000
    · exact ⟨List.nodup_nil, by simp⟩
    · rintro s invoice ⟨apart, bounded⟩ ⟨wellFormed, afresh⟩
      exact evaluate_charges quantities nonneg wellFormed afresh apart bounded
  rw [billed_eq_charges]
  apply demand_le_of_nodup apart bounded
  intro id
  have := nonneg id
  positivity

/-! ## An order of ten pieces -/

section
open Sample

def tenBilled : Invoice := ⟨[tenInvoiced 10000], 12200, 2, 1, 1⟩

theorem billed_le_accepted_ten :
    evaluate [tenOrdered] [tenReceived] [] tenBilled = [tenBilled] ∧
      billed [tenBilled] 1 ≤ accepted [tenReceived] 1 * (1 + 2/100) + 1/10000 := by
  have matches' : evaluate [tenOrdered] [tenReceived] [] tenBilled = [tenBilled] := by
    unfold evaluate
    rw [if_pos (by decide +kernel)]
    rfl
  have run : Run (fun s invoice => invoice.WellFormed 2 ∧ BillsAfresh [tenReceived] s invoice)
      (evaluate [tenOrdered] [tenReceived]) [] [tenBilled] [tenBilled] := by
    have met : AllMet (fun s invoice => invoice.WellFormed 2 ∧ BillsAfresh [tenReceived] s invoice)
        (evaluate [tenOrdered] [tenReceived]) [] [tenBilled] := by decide +kernel
    have run := Run.ofAllMet met
    rwa [List.foldl_cons, List.foldl_nil, matches'] at run
  refine ⟨matches', ?_⟩
  have bounded := billed_le_accepted (by decide +kernel) ?_ run 1
  · exact_mod_cast bounded
  · intro id
    apply List.sum_nonneg
    intro q mem
    obtain ⟨g, listed, rfl⟩ := List.mem_map.mp mem
    obtain rfl := List.mem_singleton.mp (List.mem_of_mem_filter listed)
    decide +kernel

/-- The whole order is billed by two invoices, and both match. -/
theorem billed_twice :
    let matched := [tenBilled, tenBilled].foldl (evaluate [tenOrdered] [tenReceived]) []
    matched.length = 2 ∧ billed matched 1 = 20 ∧ accepted [tenReceived] 1 = 10 ∧
      ¬ billed matched 1 ≤ accepted [tenReceived] 1 * (1 + 2/100) + 1/10000 := by
  decide +kernel

end
end SmartErp.Procurement
