import SmartErp.Foundations.Numerals
import SmartErp.Foundations.Holdings
import SmartErp.Failure

/-!
# Purchase order, goods receipt and supplier invoice

`three-way-match.ts`. Amounts are script values, since the rows they come from may hold texts where the
types say numbers.
-/

namespace SmartErp.Procurement
open Foundations

structure PoLineSnapshot where
  poLineId : Uuid
  productId : Uuid
  quantity : String
  unitCostCents : JsValue
  taxRate : JsValue
  deriving DecidableEq

structure GrLineSnapshot where
  poLineId : Uuid
  acceptedQuantity : String
  deriving DecidableEq

structure SiLineSnapshot where
  invoiceLineId : Uuid
  poLineId : Option Uuid
  quantity : String
  unitCostCents : JsValue
  taxRate : JsValue
  lineTotalCents : JsValue
  deriving DecidableEq

/-- `none` is an absent field; a field that is present may still be `undefined`. -/
structure MatchTolerances where
  quantityPct : Option JsValue := none
  pricePct : Option JsValue := none
  totalPct : Option JsValue := none

structure ThreeWayMatchInput where
  poLines : List PoLineSnapshot
  grLines : List GrLineSnapshot
  siLines : List SiLineSnapshot
  siTotalCents : JsValue
  tolerances : Option MatchTolerances := none

inductive DiscrepancyType where
  | quantity
  | price
  | total
  | unmatchedLine
  | missingPo
  deriving DecidableEq

structure SupplierInvoiceDiscrepancy where
  type : DiscrepancyType
  poLineId : Option Uuid := none
  invoiceLineId : Option Uuid := none
  expectedCents : Option JsValue := none
  actualCents : Option JsValue := none
  expectedQuantity : Option String := none
  actualQuantity : Option String := none
  message : String
  deriving DecidableEq

structure ThreeWayMatchResult where
  matched : Bool
  discrepancies : List SupplierInvoiceDiscrepancy

def num (q : ℚ) : JsValue := .number (.finite q)

def numericString (s : String) : Option ℚ :=
  match s.toList with
  | '-' :: cs => (parseUnsigned cs).map (-·)
  | '+' :: cs => parseUnsigned cs
  | cs => parseUnsigned cs

structure Tolerances where
  quantityPct : JsValue
  pricePct : JsValue
  totalPct : JsValue

def defaultTolerances : Tolerances := ⟨num 2, num (1/2), num 1⟩

def mergeTolerances (given : Option MatchTolerances) : Tolerances where
  quantityPct := ((given.bind (·.quantityPct)).getD defaultTolerances.quantityPct)
  pricePct := ((given.bind (·.pricePct)).getD defaultTolerances.pricePct)
  totalPct := ((given.bind (·.totalPct)).getD defaultTolerances.totalPct)

def withinPct (expected actual pct : JsValue) : Bool :=
  if expected.isNumber 0 then actual.isNumber 0 else
    let tolerance := (expected.toNumber.times (pct.toNumber.dividedBy (.finite 100))).abs
    (actual.toNumber.minus expected.toNumber).abs.le (tolerance.plus (.finite (1/2)))

def withinPctDecimal (expected actual : String) (pct : JsValue) : Bool :=
  let e := parseNumber expected
  let a := parseNumber actual
  if e = .finite 0 then a = .finite 0 else
    let tolerance := (e.times (pct.toNumber.dividedBy (.finite 100))).abs
    (a.minus e).abs.le (tolerance.plus (JsNumber.finite (1/10000)).double)

def addReceipt (accepted : Uuid → Option JsNumber) (grl : GrLineSnapshot) : Uuid → Option JsNumber :=
  Function.update accepted grl.poLineId
    (some (((accepted grl.poLineId).getD (.finite 0)).plus (parseNumber grl.acceptedQuantity)))

def acceptedByPoLine (grLines : List GrLineSnapshot) : Uuid → Option JsNumber :=
  grLines.foldl addReceipt fun _ => none

def acceptedQty (grLines : List GrLineSnapshot) (poLineId : Uuid) : JsNumber :=
  (acceptedByPoLine grLines poLineId).getD (.finite 0)

def quantityDiscrepancies (tol : Tolerances) (acceptedQty : JsNumber) (pol : PoLineSnapshot)
    (sil : SiLineSnapshot) : List SupplierInvoiceDiscrepancy :=
  if withinPctDecimal (numberText acceptedQty) sil.quantity tol.quantityPct then [] else [{
    type := .quantity
    poLineId := some pol.poLineId
    invoiceLineId := some sil.invoiceLineId
    expectedQuantity := some (numberText acceptedQty)
    actualQuantity := some sil.quantity
    message := s!"Invoiced quantity {sil.quantity} outside ±{tol.quantityPct.toText}% of accepted {numberText acceptedQty}." }]

def priceDiscrepancies (tol : Tolerances) (pol : PoLineSnapshot) (sil : SiLineSnapshot) :
    List SupplierInvoiceDiscrepancy :=
  if withinPct pol.unitCostCents sil.unitCostCents tol.pricePct then [] else [{
    type := .price
    poLineId := some pol.poLineId
    invoiceLineId := some sil.invoiceLineId
    expectedCents := some pol.unitCostCents
    actualCents := some sil.unitCostCents
    message := s!"Invoiced unit cost {sil.unitCostCents.toText} cents outside ±{tol.pricePct.toText}% of PO {pol.unitCostCents.toText} cents." }]

def lineDiscrepancies (poLines : List PoLineSnapshot) (grLines : List GrLineSnapshot)
    (tol : Tolerances) (sil : SiLineSnapshot) : List SupplierInvoiceDiscrepancy :=
  match sil.poLineId with
  | none => [{
      type := .unmatchedLine
      invoiceLineId := some sil.invoiceLineId
      message := "Invoice line has no matching PO line." }]
  | some poLineId =>
      match poLines.find? (·.poLineId = poLineId) with
      | none => [{
          type := .missingPo
          invoiceLineId := some sil.invoiceLineId
          poLineId := some poLineId
          message := s!"PO line {poLineId} not found." }]
      | some pol =>
          quantityDiscrepancies tol (acceptedQty grLines pol.poLineId) pol sil ++
            priceDiscrepancies tol pol sil

def taxAmt (l : SiLineSnapshot) : JsNumber :=
  ((l.lineTotalCents.toNumber.times l.taxRate.toNumber).dividedBy (.finite 100)).round

def expectedTotal (siLines : List SiLineSnapshot) : JsValue :=
  siLines.foldl (fun s l => (s.add l.lineTotalCents).add (.number (taxAmt l))) (num 0)

def totalDiscrepancies (input : ThreeWayMatchInput) (tol : Tolerances) :
    List SupplierInvoiceDiscrepancy :=
  let expected := expectedTotal input.siLines
  if withinPct expected input.siTotalCents tol.totalPct then [] else [{
    type := .total
    expectedCents := some expected
    actualCents := some input.siTotalCents
    message := s!"Invoice total {input.siTotalCents.toText} cents outside ±{tol.totalPct.toText}% of expected {expected.toText} cents." }]

def runThreeWayMatch (input : ThreeWayMatchInput) : ThreeWayMatchResult :=
  let tol := mergeTolerances input.tolerances
  let discrepancies :=
    input.siLines.flatMap (lineDiscrepancies input.poLines input.grLines tol) ++
      totalDiscrepancies input tol
  ⟨discrepancies.isEmpty, discrepancies⟩

/-! ## Quantities as texts -/

theorem parseNumber_numericString {s : String} {q : ℚ} (numeric : numericString s = some q) :
    parseNumber s = (JsNumber.finite q).double := by
  unfold numericString at numeric
  rw [← String.ofList_toList (s := s)]
  split at numeric
  · rename_i cs front
    obtain ⟨r, parsed, rfl⟩ := Option.map_eq_some_iff.mp numeric
    obtain ⟨literal, visible⟩ := decimalLiteral_unsigned parsed
    rw [front, parseNumber_minus visible literal]
  · rename_i cs front
    obtain ⟨literal, visible⟩ := decimalLiteral_unsigned numeric
    rw [front, parseNumber_plus visible literal]
  · obtain ⟨literal, visible⟩ := decimalLiteral_unsigned numeric
    exact parseNumber_literal visible literal

theorem numericString_fixedText (negative : Bool) (m k : Nat) :
    numericString (fixedText negative m k) = some ((if negative then -1 else 1) * ((m : ℚ) / 10 ^ k)) := by
  obtain ⟨c, cs, spelled, digit, parsed⟩ := toList_fixedText_digits negative m k
  unfold numericString
  rw [spelled]
  cases negative with
  | true => simp [parsed]
  | false =>
      simp only [Bool.false_eq_true, ↓reduceIte, List.nil_append, one_mul]
      split
      · rename_i heq
        obtain rfl := (List.cons.inj heq).1
        cases digit
      · rename_i heq
        obtain rfl := (List.cons.inj heq).1
        cases digit
      · exact parsed

theorem numericString_text {p s : ℕ} (x : Numeric p s) : numericString x.text = some x.val := by
  rw [Numeric.text, numericString_fixedText, Numeric.val, Nat.cast_natAbs]
  by_cases negative : x.units < 0
  · simp [negative, abs_of_neg negative, neg_div]
  · simp [negative, abs_of_nonneg (not_lt.mp negative)]

theorem acceptedQty_eq (grLines : List GrLineSnapshot) (poLineId : Uuid) :
    acceptedQty grLines poLineId = ((grLines.filter (·.poLineId = poLineId)).map
      fun g => parseNumber g.acceptedQuantity).foldl JsNumber.plus (.finite 0) := by
  have general : ∀ m : Uuid → Option JsNumber, (grLines.foldl addReceipt m poLineId).getD (.finite 0) =
      ((grLines.filter (·.poLineId = poLineId)).map fun g => parseNumber g.acceptedQuantity).foldl JsNumber.plus
        ((m poLineId).getD (.finite 0)) := by
    induction grLines with
    | nil => exact fun m => rfl
    | cons g grLines ih =>
        intro m
        rw [List.foldl_cons, ih]
        by_cases here : g.poLineId = poLineId
        · rw [List.filter_cons_of_pos (by simpa using here), List.map_cons, List.foldl_cons, addReceipt, here,
            Function.update_self, Option.getD_some]
        · rw [List.filter_cons_of_neg (by simpa using here), addReceipt, Function.update_of_ne (Ne.symm here)]
  exact general fun _ => none

theorem acceptedQty_double (grLines : List GrLineSnapshot) (poLineId : Uuid) :
    (acceptedQty grLines poLineId).double = acceptedQty grLines poLineId := by
  rw [acceptedQty_eq]
  exact JsNumber.double_foldl_plus (JsNumber.double_safe (n := 0) (by norm_num)) _

theorem parseNumber_acceptedQty (grLines : List GrLineSnapshot) (poLineId : Uuid) :
    parseNumber (numberText (acceptedQty grLines poLineId)) = acceptedQty grLines poLineId :=
  parseNumber_spelling (acceptedQty_double grLines poLineId)

/-! ## When an invoice matches -/

def LineAgrees (poLines : List PoLineSnapshot) (grLines : List GrLineSnapshot) (tol : Tolerances)
    (sil : SiLineSnapshot) : Prop :=
  ∃ pol, sil.poLineId = some pol.poLineId ∧
    poLines.find? (·.poLineId = pol.poLineId) = some pol ∧
    withinPctDecimal (numberText (acceptedQty grLines pol.poLineId)) sil.quantity tol.quantityPct ∧
    withinPct pol.unitCostCents sil.unitCostCents tol.pricePct

theorem lineDiscrepancies_eq_nil {poLines : List PoLineSnapshot} {grLines : List GrLineSnapshot}
    {tol : Tolerances} {sil : SiLineSnapshot} :
    lineDiscrepancies poLines grLines tol sil = [] ↔ LineAgrees poLines grLines tol sil := by
  unfold lineDiscrepancies LineAgrees
  cases linked : sil.poLineId with
  | none => simp
  | some poLineId =>
      dsimp only
      cases found : poLines.find? (·.poLineId = poLineId) with
      | none =>
          simp only [List.cons_ne_nil, false_iff, not_exists, not_and, Option.some.injEq]
          rintro pol rfl same
          rw [found] at same
          cases same
      | some pol =>
          obtain rfl : pol.poLineId = poLineId := by simpa using List.find?_some found
          have quantity : ∀ tol qty, quantityDiscrepancies tol qty pol sil = [] ↔
              withinPctDecimal (numberText qty) sil.quantity tol.quantityPct = true := by
            intro tol qty
            unfold quantityDiscrepancies
            split <;> simp_all
          have price : ∀ tol, priceDiscrepancies tol pol sil = [] ↔
              withinPct pol.unitCostCents sil.unitCostCents tol.pricePct = true := by
            intro tol
            unfold priceDiscrepancies
            split <;> simp_all
          simp only [List.append_eq_nil_iff, quantity, price]
          constructor
          · intro agrees
            exact ⟨pol, rfl, found, agrees⟩
          · rintro ⟨pol', same, found', agrees⟩
            rw [← Option.some_inj.mp same, found] at found'
            cases Option.some_inj.mp found'
            exact agrees

theorem runThreeWayMatch_matched {input : ThreeWayMatchInput} :
    (runThreeWayMatch input).matched = true ↔
      (∀ sil ∈ input.siLines,
        LineAgrees input.poLines input.grLines (mergeTolerances input.tolerances) sil) ∧
        withinPct (expectedTotal input.siLines) input.siTotalCents
          (mergeTolerances input.tolerances).totalPct = true := by
  have total : totalDiscrepancies input (mergeTolerances input.tolerances) = [] ↔
      withinPct (expectedTotal input.siLines) input.siTotalCents
        (mergeTolerances input.tolerances).totalPct = true := by
    unfold totalDiscrepancies
    dsimp only
    split <;> simp_all
  simp only [runThreeWayMatch, List.isEmpty_iff, List.append_eq_nil_iff, List.flatMap_eq_nil_iff,
    lineDiscrepancies_eq_nil, total]

theorem runThreeWayMatch_discrepancies (input : ThreeWayMatchInput) :
    (runThreeWayMatch input).matched = true ↔ (runThreeWayMatch input).discrepancies = [] :=
  List.isEmpty_iff

end SmartErp.Procurement
