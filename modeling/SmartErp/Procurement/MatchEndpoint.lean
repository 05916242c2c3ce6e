import SmartErp.Procurement.SupplierInvoices
import SmartErp.Procurement.Figures
import Mathlib.Data.List.Dedup

/-!
# Which invoices the endpoint accepts

An invoice that agrees with its order and its receipts in every figure. A tolerance that the request
leaves out arrives as `undefined` and replaces the default, and the expected total is the text of the
line totals and taxes put one after another.
-/

namespace SmartErp.Procurement
open Foundations

def acceptedQuantities (db : Db) (tenantId poLineId : Uuid) : List ℚ :=
  (db.goodsReceiptLines.rows.filter fun grl => grl.tenantId = tenantId ∧ grl.poLineId = poLineId).map
    (·.acceptedQuantity.val)

def acceptedQuantity (db : Db) (tenantId poLineId : Uuid) : ℚ := (acceptedQuantities db tenantId poLineId).sum

def acceptedSum (db : Db) (tenantId poLineId : Uuid) : JsNumber :=
  ((acceptedQuantities db tenantId poLineId).map fun q => (JsNumber.finite q).double).foldl JsNumber.plus (.finite 0)

/-- The tax of a line, from its own total and rate. -/
def SupplierInvoiceLine.roundedTax (l : SupplierInvoiceLine) : JsNumber :=
  (((JsNumber.finite l.lineTotalCents).double.times (.finite l.taxRate)).dividedBy (.finite 100)).round

def SupplierInvoiceLine.taxCents (l : SupplierInvoiceLine) : ℤ :=
  match l.roundedTax with
  | .finite q => q.num
  | .nan | .infinity _ => 0

/-- A line refers to an order line, at its unit cost, for its accepted quantity. -/
def SupplierInvoiceLine.Agrees (l : SupplierInvoiceLine) (db : Db) (tenantId : Uuid) : Prop :=
  (∃ pol ∈ db.purchaseOrderLines.rows, pol.tenantId = tenantId ∧ l.poLineId = some pol.id ∧
    l.unitCostCents = pol.unitCostCents ∧ l.quantity.val = acceptedQuantity db tenantId pol.id) ∧
  (l.lineTotalCents : ℚ) = l.quantity.val * l.unitCostCents

def SupplierInvoice.Agrees (si : SupplierInvoice) (db : Db) (tenantId : Uuid) : Prop :=
  (∀ l ∈ db.linesOf si.id, l.Agrees db tenantId) ∧
    si.totalCents = ((db.linesOf si.id).map fun l => l.lineTotalCents + l.taxCents).sum

def written (lines : List SupplierInvoiceLine) : String :=
  lines.foldl (fun s l => s ++ intText l.lineTotalCents ++ numberText l.roundedTax) "0"

/-- `actual` differs from `expected` by a percentage and a slack at most, as doubles see it. -/
def WithinPct (expected actual slack : JsNumber) (p : Fin 101) : Prop :=
  (actual.minus expected).abs.le
    ((expected.times ((JsNumber.finite p.val).dividedBy (.finite 100))).abs.plus slack) = true

instance (expected actual slack : JsNumber) (p : Fin 101) : Decidable (WithinPct expected actual slack p) :=
  inferInstanceAs (Decidable (_ = true))

/-- The quantity is the sum of the receipts up to the tolerance, or both are zero. -/
def SupplierInvoiceLine.Weighs (l : SupplierInvoiceLine) (db : Db) (tenantId : Uuid) (quantityPct : Option (Fin 101)) : Prop :=
  ∀ poLineId ∈ l.poLineId, if acceptedSum db tenantId poLineId = .finite 0 then l.quantity.val = 0
    else ∃ p ∈ quantityPct, WithinPct (acceptedSum db tenantId poLineId) (JsNumber.finite l.quantity.val).double
      (JsNumber.finite (1/10000)).double p

/-- The request gives the price and the total tolerance, each line weighs what was accepted, and the total tolerance
covers the amounts written one after another as one number. -/
def RunMatchDto.Covers (dto : RunMatchDto) (db : Db) (tenantId : Uuid) (lines : List SupplierInvoiceLine)
    (totalCents : ℤ) : Prop :=
  dto.pricePct.isSome ∧ (∀ l ∈ lines, l.Weighs db tenantId dto.quantityPct) ∧
    ∃ p ∈ dto.totalPct, WithinPct (parseNumber (written lines)) (JsNumber.finite totalCents).double (.finite (1/2)) p

def Accepted (id : Uuid) (result : Except Failure Db) : Prop :=
  ∃ db si, result = .ok db ∧ db.supplierInvoices.find? id = some si ∧
    si.status = .matched ∧ si.discrepancies = none

/-! ## Texts in the checks -/

theorem bigintText_toNumber (n : ℤ) : (bigintText n).toNumber = (JsNumber.finite n).double :=
  parseNumber_intText n

theorem toNumber_pctValue (p : Fin 101) : (pctValue (some p)).toNumber = .finite p.val := rfl

theorem withinPct_string {s : String} {total : ℤ} (pct : Option (Fin 101)) :
    withinPct (.string s) (bigintText total) (pctValue pct) = true ↔
      ∃ p ∈ pct, WithinPct (parseNumber s) (JsNumber.finite total).double (.finite (1/2)) p := by
  have text : (JsValue.string s).isNumber 0 = false := rfl
  unfold withinPct
  rw [text, bigintText_toNumber]
  cases pct with
  | none => simp [pctValue, JsValue.toNumber, JsNumber.dividedBy, JsNumber.times, JsNumber.plus, JsNumber.double]
  | some p =>
      simp only [toNumber_pctValue, Option.mem_def, Option.some.injEq, exists_eq_left']
      rfl

theorem withinPct_same {n : ℤ} (range : 0 ≤ n ∧ n < 2 ^ 63) (pct : Option (Fin 101)) :
    withinPct (bigintText n) (bigintText n) (pctValue pct) = true ↔ pct.isSome := by
  have least : (0 : ℚ) ≤ n := by exact_mod_cast range.1
  have most : (n : ℚ) ≤ (2 ^ 63 : ℤ) := by exact_mod_cast range.2.le
  have price : (JsNumber.finite n).double = .finite (toDouble n) :=
    JsNumber.double_of_le (by rw [abs_of_nonneg least]; exact most.trans (by norm_num))
  have nonneg := toDouble_nonneg least
  have bound : toDouble n ≤ (2 ^ 63 : ℤ) := IsDouble.toDouble_le_of_le ⟨1, 63, by norm_num⟩ most
  have always (p : Fin 101) : WithinPct (.finite (toDouble n)) (.finite (toDouble n)) (.finite (1/2)) p := by
    have none : (JsNumber.finite (toDouble n)).minus (.finite (toDouble n)) = .finite 0 := by
      rw [JsNumber.minus, JsNumber.sub_finite, sub_self]
      exact JsNumber.double_safe (n := 0) (by norm_num)
    have part := mul_le_of_le_one_right nonneg (percent_le p)
    have rate : 0 ≤ toDouble n * (p.val / 100 : ℚ) := by positivity
    push_cast at bound
    have normal : (2 : ℚ) ^ (-1022 : ℤ) ≤ 2 ^ 64 := normal_of_le (by norm_num)
    obtain ⟨r, product, close⟩ := (JsNumber.Near.exact (toDouble n)).times normal le_rfl (near_percent p)
      (by rw [abs_of_nonneg nonneg, abs_of_nonneg rate]; linarith)
    have size : |r| + 1/2 ≤ 2 ^ 64 := by
      have triangle := abs_sub_abs_le_abs_sub r (toDouble n * (p.val / 100))
      rw [abs_of_nonneg rate] at triangle
      rw [abs_of_nonneg nonneg] at close
      linarith
    rw [WithinPct, none, product, JsNumber.abs_finite, JsNumber.abs_finite, JsNumber.plus, JsNumber.add_finite,
      JsNumber.double_of_le (by rwa [abs_of_nonneg (by positivity)]), JsNumber.le_finite, abs_zero]
    exact toDouble_nonneg (by positivity)
  show withinPct (.string (intText n)) (bigintText n) (pctValue pct) = true ↔ _
  rw [withinPct_string, parseNumber_intText, price]
  cases pct with
  | none => simp
  | some p => exact ⟨fun _ => rfl, fun _ => ⟨p, rfl, always p⟩⟩

theorem withinPctDecimal_weighs {expected : JsNumber} (double : expected.double = expected) (x : Numeric 14 4)
    (pct : Option (Fin 101)) :
    withinPctDecimal (numberText expected) x.text (pctValue pct) = true ↔
      if expected = .finite 0 then x.val = 0
      else ∃ p ∈ pct, WithinPct expected (JsNumber.finite x.val).double (JsNumber.finite (1/10000)).double p := by
  have rounded : (JsNumber.finite x.val).double = .finite (toDouble x.val) :=
    JsNumber.double_of_le (x.abs_val_le.trans (by norm_num))
  unfold withinPctDecimal
  dsimp only
  rw [numberText, parseNumber_spelling double, Numeric.parseNumber_text]
  split_ifs with zero
  · rw [decide_eq_true_eq, rounded, JsNumber.finite.injEq]
    constructor
    · intro none
      by_contra some
      exact toDouble_ne_zero (le_trans (by norm_num) (ten_thousandth_le x.exact_val some)) none
    · intro none
      rw [none, toDouble_zero]
  · cases pct with
    | none => simp [pctValue, JsValue.toNumber, JsNumber.dividedBy, JsNumber.times, JsNumber.plus, JsNumber.double]
    | some p =>
        simp only [toNumber_pctValue, Option.mem_def, Option.some.injEq, exists_eq_left']
        rfl

/-! ## The expected total -/

theorem taxAmt_stored (l : SupplierInvoiceLine) : taxAmt l.snapshot = l.roundedTax := by
  show (((bigintText l.lineTotalCents).toNumber.times (.finite l.taxRate)).dividedBy (.finite 100)).round = _
  rw [bigintText_toNumber]
  rfl

/-- The zero that the sum starts from is a number, and the first text turns it into a digit. -/
theorem expectedTotal_written {lines : List SupplierInvoiceLine} (nonempty : lines ≠ []) :
    expectedTotal (lines.map (·.snapshot)) = .string (written lines) := by
  have general (s : String) : (lines.map (·.snapshot)).foldl
      (fun (s : JsValue) (l : SiLineSnapshot) => (s.add l.lineTotalCents).add (.number (taxAmt l))) (.string s) =
        .string (lines.foldl (fun s l => s ++ intText l.lineTotalCents ++ numberText l.roundedTax) s) := by
    clear nonempty
    induction lines generalizing s with
    | nil => rfl
    | cons l lines ih =>
        rw [List.map_cons, List.foldl_cons, taxAmt_stored]
        exact ih _
  obtain ⟨l, lines, rfl⟩ := List.exists_cons_of_ne_nil nonempty
  rw [written, ← general]
  rfl

/-! ## The lines -/

theorem acceptedQty_stored (db : Db) (tenantId : Uuid) {ids : List Uuid} {k : Uuid} (mem : k ∈ ids) :
    acceptedQty ((grLinesOf db tenantId ids).map (·.snapshot)) k = acceptedSum db tenantId k := by
  have same : ((grLinesOf db tenantId ids).map (·.snapshot)).filter (·.poLineId = k) =
      (db.goodsReceiptLines.rows.filter fun grl => grl.tenantId = tenantId ∧ grl.poLineId = k).map (·.snapshot) := by
    rw [grLinesOf, List.filter_map, List.filter_filter]
    congr 1
    apply List.filter_congr
    intro grl _
    by_cases here : grl.poLineId = k
    · simp [GoodsReceiptLine.snapshot, here, mem]
    · simp [GoodsReceiptLine.snapshot, here]
  rw [acceptedQty_eq, same, acceptedSum, acceptedQuantities, List.map_map, List.map_map]
  congr 1
  exact List.map_congr_left fun grl _ => grl.acceptedQuantity.parseNumber_text

theorem find?_stored {db : Db} {tenantId : Uuid} {ids : List Uuid} {pol : PurchaseOrderLine}
    (mem : pol ∈ db.purchaseOrderLines.rows) (tenant : pol.tenantId = tenantId) (listed : pol.id ∈ ids) :
    ((poLinesOf db tenantId ids).map (·.snapshot)).find? (·.poLineId = pol.id) = some pol.snapshot := by
  rw [List.find?_map, Option.map_eq_some_iff]
  refine ⟨pol, ?_, rfl⟩
  have selected : pol ∈ poLinesOf db tenantId ids := List.mem_filter.mpr ⟨mem, by simp [tenant, listed]⟩
  cases found : (poLinesOf db tenantId ids).find? ((fun p => p.poLineId = pol.id) ∘ (·.snapshot)) with
  | none => simpa [PurchaseOrderLine.snapshot] using List.find?_eq_none.mp found pol selected
  | some other =>
      have same := List.find?_some found
      rw [Function.comp_apply, decide_eq_true_eq] at same
      have row := List.mem_of_mem_filter (List.mem_of_find?_eq_some found)
      rw [List.inj_on_of_nodup_map db.purchaseOrderLines.nodup row mem same]

theorem lineAgrees_iff {db : Db} {tenantId : Uuid} {si : SupplierInvoice} {l : SupplierInvoiceLine}
    (mem : l ∈ db.linesOf si.id) (stored : l.Stored) (agrees : l.Agrees db tenantId) (dto : RunMatchDto) :
    LineAgrees (storedInput db tenantId si dto).poLines (storedInput db tenantId si dto).grLines
      (mergeTolerances (some dto.tolerances)) l.snapshot ↔
      dto.pricePct.isSome ∧ l.Weighs db tenantId dto.quantityPct := by
  obtain ⟨⟨pol, row, tenant, linked, cost, -⟩, -⟩ := agrees
  have listed : pol.id ∈ poLineIdsOf (db.linesOf si.id) :=
    List.mem_dedup.mpr (List.mem_filterMap.mpr ⟨l, mem, linked⟩)
  have found := find?_stored row tenant listed
  have double : (acceptedSum db tenantId pol.id).double = acceptedSum db tenantId pol.id := by
    rw [← acceptedQty_stored db tenantId listed]
    exact acceptedQty_double _ _
  have checks : (withinPctDecimal (numberText (acceptedQty (storedInput db tenantId si dto).grLines pol.id))
        l.snapshot.quantity (mergeTolerances (some dto.tolerances)).quantityPct = true ∧
      withinPct pol.snapshot.unitCostCents l.snapshot.unitCostCents
        (mergeTolerances (some dto.tolerances)).pricePct = true) ↔
      dto.pricePct.isSome ∧ l.Weighs db tenantId dto.quantityPct := by
    rw [storedInput, acceptedQty_stored db tenantId listed]
    show withinPctDecimal (numberText (acceptedSum db tenantId pol.id)) l.quantity.text
        (pctValue dto.quantityPct) = true ∧
      withinPct (bigintText pol.unitCostCents) (bigintText l.unitCostCents) (pctValue dto.pricePct) = true ↔ _
    rw [withinPctDecimal_weighs double, ← cost, withinPct_same stored.unitCostCents, and_comm]
    simp [SupplierInvoiceLine.Weighs, linked]
  constructor
  · rintro ⟨other, linked', found', quantity', price'⟩
    have same : other.poLineId = pol.id := Option.some_inj.mp (linked'.symm.trans linked)
    rw [same] at found' quantity'
    obtain rfl := Option.some_inj.mp (found.symm.trans found')
    exact checks.mp ⟨quantity', price'⟩
  · intro given
    exact ⟨pol.snapshot, linked, found, checks.mpr given⟩

/-! ## The endpoint -/

theorem accepted_iff_matched {db : Db} {tenantId id : Uuid} {si : SupplierInvoice}
    (created : Created db tenantId id si) (dto : RunMatchDto) (now : ℕ) :
    Accepted id (runMatch db tenantId id dto now) ↔
      (runThreeWayMatch (storedInput db tenantId si dto)).matched = true := by
  have key : si.id = id := Table.key_of_find? created.found
  have reported := runThreeWayMatch_discrepancies (storedInput db tenantId si dto)
  have saved : ∀ si' : SupplierInvoice, si'.id = id →
      (db.saveInvoice si').supplierInvoices.find? id = some si' := by
    intro si' same
    rw [← same]
    exact Table.find?_save_self _ _
  unfold Accepted
  rw [created.runMatch]
  constructor
  · rintro ⟨_, si', ok, found, status, -⟩
    obtain rfl := Except.ok.inj ok
    rw [saved (si.concluded _ _ _) key] at found
    obtain rfl := Option.some_inj.mp found
    by_contra differs
    simp [SupplierInvoice.concluded, differs] at status
  · intro matched
    refine ⟨_, _, rfl, saved _ key, ?_, ?_⟩
    · simp [SupplierInvoice.concluded, matched]
    · simp [SupplierInvoice.concluded, reported.mp matched]

theorem accepted_iff_covers {db : Db} {tenantId id : Uuid} {si : SupplierInvoice}
    (created : Created db tenantId id si) (agrees : si.Agrees db tenantId) (dto : RunMatchDto) (now : ℕ) :
    Accepted id (runMatch db tenantId id dto now) ↔ dto.Covers db tenantId (db.linesOf id) si.totalCents := by
  obtain rfl : si.id = id := Table.key_of_find? created.found
  have each : (∀ sil ∈ (storedInput db tenantId si dto).siLines,
      LineAgrees (storedInput db tenantId si dto).poLines (storedInput db tenantId si dto).grLines
        (mergeTolerances (some dto.tolerances)) sil) ↔
      dto.pricePct.isSome ∧ ∀ l ∈ db.linesOf si.id, l.Weighs db tenantId dto.quantityPct := by
    have line : ∀ l ∈ db.linesOf si.id, _ := fun l mem =>
      lineAgrees_iff mem (created.lines l mem) (agrees.1 l mem) dto
    show (∀ sil ∈ (db.linesOf si.id).map (·.snapshot), _) ↔ _
    rw [List.forall_mem_map]
    constructor
    · intro all
      obtain ⟨l, mem⟩ := List.exists_mem_of_ne_nil _ created.nonempty
      exact ⟨((line l mem).mp (all l mem)).1, fun l mem => ((line l mem).mp (all l mem)).2⟩
    · rintro ⟨price, weighs⟩ l mem
      exact (line l mem).mpr ⟨price, weighs l mem⟩
  rw [accepted_iff_matched created, runThreeWayMatch_matched]
  show (∀ sil ∈ (storedInput db tenantId si dto).siLines, LineAgrees _ _
      (mergeTolerances (some dto.tolerances)) sil) ∧
    withinPct (expectedTotal ((db.linesOf si.id).map (·.snapshot))) (bigintText si.totalCents)
      (pctValue dto.totalPct) = true ↔ _
  rw [each, expectedTotal_written created.nonempty, withinPct_string, and_assoc]
  rfl

/-- Of an invoice that nobody touched since its creation, and that agrees with the order and the receipts
as they are now. -/
theorem runMatch_accepted_iff {db stored later : Db} {tenantId id : Uuid} {lineIds : ℕ → Uuid}
    {dto : CreateSupplierInvoiceDto} {si : SupplierInvoice}
    (created : createSupplierInvoice db tenantId id lineIds dto = .ok stored)
    (header : later.supplierInvoices.find? id = stored.supplierInvoices.find? id)
    (lines : (later.linesOf id).Perm (stored.linesOf id))
    (found : later.supplierInvoices.find? id = some si) (agrees : si.Agrees later tenantId)
    (request : RunMatchDto) (now : ℕ) :
    Accepted id (runMatch later tenantId id request now) ↔
      request.Covers later tenantId (later.linesOf id) si.totalCents := by
  obtain ⟨si', created⟩ := createSupplierInvoice_ok created
  obtain rfl : si = si' := Option.some_inj.mp (found.symm.trans (header.trans created.found))
  apply accepted_iff_covers _ agrees
  exact {
    found, tenant := created.tenant, received := created.received, totalCents := created.totalCents
    lines := fun l mem => created.lines l (lines.mem_iff.mp mem)
    nonempty := fun empty => created.nonempty (List.Perm.eq_nil (empty ▸ lines.symm)) }

/-! ## Ten pieces at ten euros -/

instance (id : Uuid) (result : Except Failure Db) : Decidable (Accepted id result) :=
  match result with
  | .error _ => isFalse fun ⟨_, _, ok, _⟩ => nomatch ok
  | .ok db => decidable_of_iff (∃ si ∈ db.supplierInvoices.find? id,
        si.status = .matched ∧ si.discrepancies = none)
      ⟨fun ⟨si, found, rest⟩ => ⟨db, si, rfl, found, rest⟩,
        fun ⟨_, si, ok, found, rest⟩ => ⟨si, Except.ok.inj ok ▸ found, rest⟩⟩

instance (si : SupplierInvoice) (db : Db) (tenantId : Uuid) : Decidable (si.Agrees db tenantId) := by
  unfold SupplierInvoice.Agrees SupplierInvoiceLine.Agrees
  infer_instance

instance (l : SupplierInvoiceLine) (db : Db) (tenantId : Uuid) (quantityPct : Option (Fin 101)) :
    Decidable (l.Weighs db tenantId quantityPct) := by
  unfold SupplierInvoiceLine.Weighs
  infer_instance

instance (dto : RunMatchDto) (db : Db) (tenantId : Uuid) (lines : List SupplierInvoiceLine) (totalCents : ℤ) :
    Decidable (dto.Covers db tenantId lines totalCents) := by
  unfold RunMatchDto.Covers
  infer_instance

namespace Sample

def tenPieces : Numeric 14 4 := ⟨100000, by decide⟩

def acceptedOrder : Db where
  purchaseOrderLines := (∅ : Table _).save ⟨1, 1, 5, 7, tenPieces, 1000, 22⟩
  goodsReceiptLines := (∅ : Table _).save ⟨2, 1, 1, tenPieces⟩
  supplierInvoices := ∅
  supplierInvoiceLines := ∅
  fk_sil_si _ mem := absurd mem List.not_mem_nil

def tenInvoicedDto : CreateSupplierInvoiceDto where
  supplierId := 3
  supplierInvoiceNumber := "F-1"
  subtotalCents := 10000
  taxCents := 2200
  totalCents := 12200
  lines := [{
    quantity := "10", unitCostCents := 1000, lineTotalCents := 10000, poLineId := some 1
    isNumberString := by decide +kernel, taxRate_range := by simp }]
  arrayMinSize := List.cons_ne_nil _ _

def tenStored : Db := settle acceptedOrder (createSupplierInvoice acceptedOrder 1 21 (30 + ·) tenInvoicedDto)

def tenHeader : SupplierInvoice := ⟨21, 1, 3, "F-1", 10000, 2200, 12200, .received, [], none, none⟩

end Sample

open Sample in
theorem runMatch_accepted_iff_ten :
    Accepted 21 (runMatch tenStored 1 21 ⟨some 2, some 1, some 100⟩ 0) := by
  have created : createSupplierInvoice acceptedOrder 1 21 (30 + ·) tenInvoicedDto = .ok tenStored := by
    decide +kernel
  have found : tenStored.supplierInvoices.find? 21 = some tenHeader := by decide +kernel
  have agrees : tenHeader.Agrees tenStored 1 := by decide +kernel
  apply (runMatch_accepted_iff created rfl (List.Perm.refl _) found agrees _ _).mpr
  decide +kernel

open Sample in
/-- With no tolerance given, and with all three given at their defaults rounded up. -/
theorem agreeing_invoice_disputed :
    createSupplierInvoice acceptedOrder 1 21 (30 + ·) tenInvoicedDto = .ok tenStored ∧
      tenStored.supplierInvoices.find? 21 = some tenHeader ∧ tenHeader.Agrees tenStored 1 ∧
      ¬ Accepted 21 (runMatch tenStored 1 21 {} 0) ∧
      ¬ Accepted 21 (runMatch tenStored 1 21 ⟨some 2, some 1, some 1⟩ 0) := by
  decide +kernel

end SmartErp.Procurement
