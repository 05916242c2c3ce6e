import SmartErp.Procurement.GoodsReceipts

/-!
# What inspections establish

Only an inspection checks its quantities, and none of the checks asks for a sign. A receipt is inspected once
the quantities of all its lines add up, also of those that no inspection has named.
-/

namespace SmartErp.Procurement
open Foundations

/-! ## Texts of quantities -/

def quantityOf (s : {s : String // (numericString s).isSome}) : ℚ := (numericString s.val).get s.property

theorem numericString_eq (s : {s : String // (numericString s).isSome}) : numericString s.val = some (quantityOf s) :=
  (Option.some_get s.property).symm

theorem numericColumn_text (x : Numeric 14 4) : numericColumn x.text = .ok x := by
  simp only [numericColumn, bind_eq_ok, require_eq_ok, column_eq_ok]
  exact ⟨x.val, numericString_text x, x.ofRat_self⟩

theorem numericColumn_val {s : {s : String // (numericString s).isSome}} {x : Numeric 14 4}
    (ok : numericColumn s.val = .ok x) : x.val = toScale 4 (quantityOf s) := by
  simp only [numericColumn, bind_eq_ok, require_eq_ok, column_eq_ok] at ok
  obtain ⟨q, value, stored⟩ := ok
  rw [numericString_eq, Option.some_inj] at value
  rw [Numeric.ofRat_val stored, value]

/-! ## What a request does to a line in memory -/

def GoodsReceiptLineInputDto.rejected (l : GoodsReceiptLineInputDto) : ℚ := (l.rejectedQuantity.map quantityOf).getD 0

def GoodsReceiptLineInputDto.accepted (l : GoodsReceiptLineInputDto) : ℚ :=
  quantityOf (l.acceptedQuantity.getD l.receivedQuantity)

namespace InspectGoodsReceiptLineDto

def onto (li : InspectGoodsReceiptLineDto) (l : ReceiptLine String) : ReceiptLine String :=
  if l.id = li.goodsReceiptLineId then
    { l with
      acceptedQuantity := li.acceptedQuantity
      rejectedQuantity := li.rejectedQuantity
      rejectReason := li.rejectReason <|> l.rejectReason
      inspectionId := li.inspectionId <|> l.inspectionId }
  else l

structure Wrote (li : InspectGoodsReceiptLineDto) (l : ReceiptLine (Numeric 14 4)) : Prop where
  line : li.goodsReceiptLineId = l.id
  accepted : numericColumn li.acceptedQuantity = .ok l.acceptedQuantity
  rejected : numericColumn li.rejectedQuantity = .ok l.rejectedQuantity

variable (li : InspectGoodsReceiptLineDto) (l : ReceiptLine String)

theorem onto_of_ne {li : InspectGoodsReceiptLineDto} {l : ReceiptLine String} (other : l.id ≠ li.goodsReceiptLineId) :
    li.onto l = l := if_neg other

theorem onto_quantities {li : InspectGoodsReceiptLineDto} {l : ReceiptLine String}
    (named : l.id = li.goodsReceiptLineId) :
    (li.onto l).acceptedQuantity = li.acceptedQuantity ∧ (li.onto l).rejectedQuantity = li.rejectedQuantity := by
  rw [onto, if_pos named]
  exact ⟨rfl, rfl⟩

@[simp] theorem onto_id : (li.onto l).id = l.id := by
  unfold onto
  split <;> rfl

@[simp] theorem onto_goodsReceiptId : (li.onto l).goodsReceiptId = l.goodsReceiptId := by
  unfold onto
  split <;> rfl

@[simp] theorem onto_receivedQuantity : (li.onto l).receivedQuantity = l.receivedQuantity := by
  unfold onto
  split <;> rfl

end InspectGoodsReceiptLineDto

def afterEntries (entries : List InspectGoodsReceiptLineDto) (l : ReceiptLine String) : ReceiptLine String :=
  entries.foldl (fun l li => li.onto l) l

section
variable (entries : List InspectGoodsReceiptLineDto) (l : ReceiptLine String)

theorem afterEntries_same : (afterEntries entries l).id = l.id ∧
    (afterEntries entries l).goodsReceiptId = l.goodsReceiptId ∧
    (afterEntries entries l).receivedQuantity = l.receivedQuantity := by
  unfold afterEntries
  induction entries generalizing l with
  | nil => exact ⟨rfl, rfl, rfl⟩
  | cons li entries ih =>
      have rest := ih (li.onto l)
      rw [li.onto_id, li.onto_goodsReceiptId, li.onto_receivedQuantity] at rest
      exact rest

@[simp] theorem afterEntries_concat (li : InspectGoodsReceiptLineDto) :
    afterEntries (entries ++ [li]) l = li.onto (afterEntries entries l) := by
  simp [afterEntries]

end

theorem settled_congr {l l' : ReceiptLine String} (received : l.receivedQuantity = l'.receivedQuantity)
    (accepted : l.acceptedQuantity = l'.acceptedQuantity) (rejected : l.rejectedQuantity = l'.rejectedQuantity) :
    Receiving.settled l = Receiving.settled l' := by
  rw [Receiving.settled, Receiving.settled, received, accepted, rejected]

namespace Receiving

/-- Nothing negative, and not more than was received. -/
def Balanced (received accepted rejected : ℚ) : Prop :=
  0 ≤ accepted ∧ 0 ≤ rejected ∧ accepted + rejected ≤ received + 1/10000

instance (received accepted rejected : ℚ) : Decidable (Balanced received accepted rejected) :=
  inferInstanceAs (Decidable (_ ∧ _ ∧ _))

structure Audit where
  receiving : Receiving
  log : List InspectGoodsReceiptLineDto

def ReceiptOp.entries : ReceiptOp → List InspectGoodsReceiptLineDto
  | inspectGoodsReceipt _ _ _ dto => dto.lines
  | createGoodsReceipt .. | confirmGoodsReceipt .. | rejectGoodsReceipt .. => []

def Audit.next (a : Audit) (op : ReceiptOp) : Audit :=
  match a.receiving.perform op with
  | .ok s => ⟨s, a.log ++ op.entries⟩
  | .error _ => a

/-- The quantities of a request have four decimals at most, and those of a creation are in balance, while those of an
inspection are only not negative. An inspection that leaves every line of a receipt adding up has named each of them,
or earlier ones have. -/
def Prudent (a : Audit) : ReceiptOp → Prop
  | .createGoodsReceipt _ _ _ _ dto => ∀ l ∈ dto.lines,
      (Exact 4 (quantityOf l.receivedQuantity) ∧ Exact 4 l.accepted ∧ Exact 4 l.rejected) ∧
        Balanced (quantityOf l.receivedQuantity) l.accepted l.rejected
  | .inspectGoodsReceipt _ id _ dto =>
      (∀ li ∈ dto.lines, Exact 4 (quantityOf li.acceptedQuantity) ∧ Exact 4 (quantityOf li.rejectedQuantity) ∧
        0 ≤ quantityOf li.acceptedQuantity ∧ 0 ≤ quantityOf li.rejectedQuantity) ∧
      ((∀ l ∈ a.receiving.linesOf id, settled (afterEntries dto.lines l.loaded) = true) →
        ∀ l ∈ a.receiving.linesOf id, ∃ li ∈ a.log ++ dto.lines, li.goodsReceiptLineId = l.id)
  | .confirmGoodsReceipt .. | .rejectGoodsReceipt .. => True

instance (a : Audit) : ∀ op, Decidable (Prudent a op)
  | .createGoodsReceipt .. => inferInstanceAs (Decidable (∀ _ ∈ _, _))
  | .inspectGoodsReceipt .. => inferInstanceAs (Decidable (_ ∧ (_ → _)))
  | .confirmGoodsReceipt .. | .rejectGoodsReceipt .. => isTrue trivial

def Audit.Settled (a : Audit) (l : ReceiptLine (Numeric 14 4)) : Prop :=
  ∃ li ∈ a.log, li.Wrote l ∧ (settled l.loaded = true ∨ settled (li.onto l.loaded) = true)

structure Audited (a : Audit) : Prop where
  balanced : ∀ l ∈ a.receiving.goodsReceiptLines.rows,
    Balanced l.receivedQuantity.val l.acceptedQuantity.val l.rejectedQuantity.val
  known : ∀ li ∈ a.log, (a.receiving.goodsReceiptLines.find? li.goodsReceiptLineId).isSome
  wrote : ∀ l ∈ a.receiving.goodsReceiptLines.rows, (∃ li ∈ a.log, li.goodsReceiptLineId = l.id) →
    ∃ li ∈ a.log, li.Wrote l
  inspected : ∀ gr ∈ a.receiving.goodsReceipts.rows, gr.status = .inspected →
    ∀ l ∈ a.receiving.linesOf gr.id, a.Settled l

/-! ## The check of an inspection -/

/-- Columns hold less than `10 ^ 10`, and doubles of that size tell ten-thousandths apart. -/
theorem Fits.le {li : InspectGoodsReceiptLineDto} {received accepted rejected : Numeric 14 4} (fits : Fits li received.text)
    (acceptedColumn : numericColumn li.acceptedQuantity = .ok accepted)
    (rejectedColumn : numericColumn li.rejectedQuantity = .ok rejected)
    (exact : Exact 4 (quantityOf li.acceptedQuantity)) (exact' : Exact 4 (quantityOf li.rejectedQuantity)) :
    accepted.val + rejected.val ≤ received.val + 1/10000 := by
  have acceptedVal := numericColumn_val acceptedColumn
  have rejectedVal := numericColumn_val rejectedColumn
  rw [toScale_of_exact exact] at acceptedVal
  rw [toScale_of_exact exact'] at rejectedVal
  have limit (x : Numeric 14 4) : |x.val| ≤ 10 ^ 10 := x.abs_val_le_div.trans (by norm_num)
  have normal : (2 : ℚ) ^ (-1022 : ℤ) ≤ 2 ^ 36 := normal_of_le (by norm_num)
  have near (x : Numeric 14 4) : (JsNumber.finite x.val).double.Near x.val (2 ^ 36 / 2 ^ 53) :=
    JsNumber.near_rounded normal (by norm_num) ((limit x).trans (by norm_num))
  have total := abs_add_le accepted.val rejected.val
  have slackened := abs_add_le received.val (1/10000)
  rw [abs_of_pos (show (0 : ℚ) < 1/10000 by norm_num)] at slackened
  have sum := (near accepted).plus normal (by norm_num) (near rejected)
    (by linarith [limit accepted, limit rejected])
  have most := (near received).plus normal (by norm_num) near_tenThousandth
    (by linarith [limit received])
  rw [Fits, Numeric.parseNumber_text, parseNumber_numericString (numericString_eq _),
    parseNumber_numericString (numericString_eq _), ← acceptedVal, ← rejectedVal] at fits
  have upper := sum.le_of_not_lt most fits
  -- The three quantities are whole numbers of ten-thousandths.
  have units (x : Numeric 14 4) : x.val = x.units / 10000 := by
    rw [Numeric.val]
    norm_num
  rw [units, units, units] at upper ⊢
  have scaled : ((accepted.units + rejected.units : ℤ) : ℚ) < (received.units + 1 + 1 : ℤ) := by
    push_cast
    linarith
  have whole : ((accepted.units + rejected.units : ℤ) : ℚ) ≤ (received.units + 1 : ℤ) := by
    exact_mod_cast Int.le_of_lt_add_one (by exact_mod_cast scaled)
  push_cast at whole
  linarith

/-! ## What each request writes -/

theorem stored_columns {l : ReceiptLine String} {row : ReceiptLine (Numeric 14 4)} (ok : l.stored = .ok row) :
    row.id = l.id ∧ row.goodsReceiptId = l.goodsReceiptId ∧ numericColumn l.receivedQuantity = .ok row.receivedQuantity ∧
      numericColumn l.acceptedQuantity = .ok row.acceptedQuantity ∧
      numericColumn l.rejectedQuantity = .ok row.rejectedQuantity := by
  simp only [ReceiptLine.stored, bind_eq_ok, pure_eq_ok] at ok
  obtain ⟨_, received, _, accepted, _, rejected, rfl⟩ := ok
  exact ⟨rfl, rfl, received, accepted, rejected⟩

theorem rejected_column {l : GoodsReceiptLineInputDto} {x : Numeric 14 4}
    (ok : numericColumn ((l.rejectedQuantity.map (·.val)).getD "0") = .ok x) : x.val = toScale 4 l.rejected := by
  unfold GoodsReceiptLineInputDto.rejected
  cases given : l.rejectedQuantity with
  | none =>
      rw [given] at ok
      have zero : quantityOf ⟨"0", by decide⟩ = 0 := by decide +kernel
      exact (numericColumn_val (s := ⟨"0", by decide⟩) ok).trans (by rw [zero]; rfl)
  | some s =>
      rw [given] at ok
      exact numericColumn_val ok

theorem createGoodsReceipt_ok {s s' : Receiving} {tenantId id : Uuid} {lineIds : ℕ → Uuid} {year : ℕ}
    {dto : CreateGoodsReceiptDto} (ok : s.createGoodsReceipt tenantId id lineIds year dto = .ok s') :
    (∃ gr, gr.id = id ∧ gr.status = .draft ∧ s.goodsReceipts.find? id = none ∧
      s'.goodsReceipts = s.goodsReceipts.save gr) ∧
    (∀ l ∈ s.goodsReceiptLines.rows, l ∈ s'.goodsReceiptLines.rows) ∧
    ∀ l ∈ s'.goodsReceiptLines.rows, l ∈ s.goodsReceiptLines.rows ∨
      s.goodsReceiptLines.find? l.id = none ∧ l.goodsReceiptId = id ∧ ∃ i ∈ dto.lines,
        l.receivedQuantity.val = toScale 4 (quantityOf i.receivedQuantity) ∧
        l.acceptedQuantity.val = toScale 4 i.accepted ∧ l.rejectedQuantity.val = toScale 4 i.rejected := by
  simp only [createGoodsReceipt, bind_eq_ok, ensure_eq_ok] at ok
  obtain ⟨po, -, -, -, -, fresh, -, -, inserts⟩ := ok
  generalize header : (GoodsReceipt.mk id tenantId (s.nextGrNumber tenantId year) dto.poId .draft none none) = gr
    at inserts
  have kept := foldlM_keeps (fun u => u.goodsReceipts = s.goodsReceipts.save gr ∧
    (∀ l ∈ s.goodsReceiptLines.rows, l ∈ u.goodsReceiptLines.rows) ∧
    ∀ l ∈ u.goodsReceiptLines.rows, l ∈ s.goodsReceiptLines.rows ∨
      s.goodsReceiptLines.find? l.id = none ∧ l.goodsReceiptId = id ∧ ∃ i ∈ dto.lines,
        l.receivedQuantity.val = toScale 4 (quantityOf i.receivedQuantity) ∧
        l.acceptedQuantity.val = toScale 4 i.accepted ∧ l.rejectedQuantity.val = toScale 4 i.rejected)
    ?_ ⟨rfl, fun _ mem => mem, fun _ mem => .inl mem⟩ inserts
  · obtain ⟨receipts, old, new⟩ := kept
    exact ⟨⟨gr, header ▸ rfl, header ▸ rfl, fresh, receipts⟩, old, new⟩
  · intro u l u' mem ⟨receipts, old, new⟩ inserted
    simp only [insertLine, bind_eq_ok, ensure_eq_ok] at inserted
    obtain ⟨-, free, row, writes, saves⟩ := inserted
    obtain ⟨receipts', lines⟩ := saveRow_ok saves
    obtain ⟨⟨i, k⟩, listed, rfl⟩ := List.mem_map.mp mem
    obtain ⟨id', receipt, received, accepted, rejected⟩ := stored_columns writes
    rw [← id'] at free
    have rows : u'.goodsReceiptLines.rows = u.goodsReceiptLines.rows ++ [row] := by
      rw [lines, Table.rows_save_of_none free]
    refine ⟨receipts'.trans receipts, ?_, ?_⟩
    · intro l mem
      rw [rows]
      exact List.mem_append_left _ (old l mem)
    · intro l mem
      rw [rows, List.mem_append, List.mem_singleton] at mem
      rcases mem with mem | rfl
      · exact new l mem
      · refine .inr ⟨?_, receipt, i, List.fst_mem_of_mem_zipIdx listed, numericColumn_val received,
          numericColumn_val accepted, rejected_column rejected⟩
        cases found : s.goodsReceiptLines.find? l.id with
        | none => rfl
        | some l' =>
            have mem' := old l' (Table.mem_of_find? found)
            rw [← Table.key_of_find? found, Table.find?_of_mem mem'] at free
            cases free

structure Inspecting (s : Receiving) (id : Uuid) (done : List InspectGoodsReceiptLineDto)
    (state : Receiving × List (ReceiptLine String)) : Prop where
  receipts : state.1.goodsReceipts = s.goodsReceipts
  memory : state.2 = (s.linesOf id).map fun l => afterEntries done l.loaded
  kept : ∀ l ∈ s.goodsReceiptLines.rows, (state.1.goodsReceiptLines.find? l.id).isSome
  named : ∀ li ∈ done, ∃ l ∈ s.goodsReceiptLines.rows, l.id = li.goodsReceiptLineId
  rows : ∀ l ∈ state.1.goodsReceiptLines.rows, ∃ l₀ ∈ s.goodsReceiptLines.rows, l.id = l₀.id ∧
    l.goodsReceiptId = l₀.goodsReceiptId ∧ l.receivedQuantity = l₀.receivedQuantity ∧
    (l = l₀ ∧ (∀ li ∈ done, li.goodsReceiptLineId ≠ l.id) ∨
      l₀.goodsReceiptId = id ∧ ∃ li ∈ done, li.Wrote l ∧ Fits li l₀.receivedQuantity.text ∧
        settled (afterEntries done l₀.loaded) = settled (li.onto l.loaded))

theorem mem_linesOf {s : Receiving} {id : Uuid} {l : ReceiptLine (Numeric 14 4)} :
    l ∈ s.linesOf id ↔ l ∈ s.goodsReceiptLines.rows ∧ l.goodsReceiptId = id := by
  rw [linesOf, List.mem_filter, decide_eq_true_eq]

theorem inspectLine_ok {id : Uuid} {state state' : Receiving × List (ReceiptLine String)}
    {li : InspectGoodsReceiptLineDto} (ok : inspectLine id state li = .ok state') :
    ∃ grl row, grl ∈ state.2 ∧ grl.id = li.goodsReceiptLineId ∧ Fits li grl.receivedQuantity ∧
      (li.onto grl).stored = .ok row ∧
      state.1.saveRow row = .ok state'.1 ∧
      state'.2 = state.2.map fun l => if l.id = grl.id then li.onto grl else l := by
  simp only [inspectLine, bind_eq_ok, ensure_eq_ok, pure_eq_ok, require_eq_ok] at ok
  obtain ⟨grl, found, -, fits, row, writes, saved, saves, rfl⟩ := ok
  have named : grl.id = li.goodsReceiptLineId := by simpa using List.find?_some found
  have onto : li.onto grl = { grl with
      acceptedQuantity := li.acceptedQuantity
      rejectedQuantity := li.rejectedQuantity
      rejectReason := li.rejectReason <|> grl.rejectReason
      inspectionId := li.inspectionId <|> grl.inspectionId } := if_pos named
  rw [← onto] at writes
  refine ⟨grl, row, List.mem_of_find?_eq_some found, named, fits, writes, saves, ?_⟩
  rw [onto]

theorem map_afterEntries_concat {s : Receiving} {id : Uuid} {done : List InspectGoodsReceiptLineDto}
    {li : InspectGoodsReceiptLineDto} {l₀ : ReceiptLine (Numeric 14 4)} (mem : l₀ ∈ s.goodsReceiptLines.rows)
    (named : l₀.id = li.goodsReceiptLineId) :
    ((s.linesOf id).map fun l => afterEntries done l.loaded).map (fun l =>
        if l.id = (afterEntries done l₀.loaded).id then li.onto (afterEntries done l₀.loaded) else l) =
      (s.linesOf id).map fun l => afterEntries (done ++ [li]) l.loaded := by
  rw [List.map_map]
  apply List.map_congr_left
  intro l listed
  obtain ⟨listed, -⟩ := mem_linesOf.mp listed
  simp only [Function.comp_apply, (afterEntries_same _ _).1, afterEntries_concat]
  by_cases here : l.id = l₀.id
  · have same : l = l₀ := List.inj_on_of_nodup_map s.goodsReceiptLines.nodup listed mem here
    rw [same]
    exact if_pos rfl
  · have other : (afterEntries done l.loaded).id ≠ li.goodsReceiptLineId := by
      rw [(afterEntries_same _ _).1, ← named]
      exact here
    rw [InspectGoodsReceiptLineDto.onto_of_ne other]
    exact if_neg here

theorem Inspecting.step {s : Receiving} {id : Uuid} {done : List InspectGoodsReceiptLineDto}
    {state state' : Receiving × List (ReceiptLine String)} (inspecting : Inspecting s id done state)
    {li : InspectGoodsReceiptLineDto} (ok : inspectLine id state li = .ok state') :
    Inspecting s id (done ++ [li]) state' := by
  obtain ⟨grl, row, mem, named, fits, writes, saves, memory⟩ := inspectLine_ok ok
  rw [inspecting.memory, List.mem_map] at mem
  obtain ⟨l₀, own, rfl⟩ := mem
  obtain ⟨mem₀, own⟩ := mem_linesOf.mp own
  obtain ⟨receipts, lines⟩ := saveRow_ok saves
  obtain ⟨id', receipt, received⟩ := afterEntries_same done l₀.loaded
  obtain ⟨rowId, rowReceipt, rowReceived, rowAccepted, rowRejected⟩ := stored_columns writes
  rw [li.onto_id, id'] at rowId
  rw [li.onto_goodsReceiptId, receipt] at rowReceipt
  rw [li.onto_receivedQuantity, received] at rowReceived
  have sameReceived : row.receivedQuantity = l₀.receivedQuantity := by
    have column : numericColumn l₀.receivedQuantity.text = .ok row.receivedQuantity := rowReceived
    rw [numericColumn_text] at column
    exact (Except.ok.inj column).symm
  rw [id'] at named
  rw [received] at fits
  obtain ⟨accepted, rejected⟩ := InspectGoodsReceiptLineDto.onto_quantities (id'.trans named)
  rw [accepted] at rowAccepted
  rw [rejected] at rowRejected
  refine ⟨receipts.trans inspecting.receipts, ?_, ?_, ?_, ?_⟩
  · rw [memory, inspecting.memory, map_afterEntries_concat mem₀ named]
  · intro l listed
    rw [lines, Table.find?_save]
    split_ifs
    · rfl
    · exact inspecting.kept l listed
  · intro li' listed
    rw [List.mem_append, List.mem_singleton] at listed
    rcases listed with old | rfl
    · exact inspecting.named li' old
    · exact ⟨l₀, mem₀, named⟩
  · intro l listed
    rw [lines, Table.mem_save] at listed
    rcases listed with rfl | ⟨listed, other⟩
    · refine ⟨l₀, mem₀, rowId, rowReceipt, sameReceived, .inr ⟨own, li, by simp, ⟨?_, rowAccepted, rowRejected⟩, fits, ?_⟩⟩
      · exact (rowId.trans named).symm
      · have inMemory : l.loaded.id = li.goodsReceiptLineId := rowId.trans named
        obtain ⟨accepted', rejected'⟩ := InspectGoodsReceiptLineDto.onto_quantities inMemory
        rw [afterEntries_concat]
        apply settled_congr
        · rw [li.onto_receivedQuantity, li.onto_receivedQuantity, received]
          exact congrArg (·.text) sameReceived.symm
        · rw [accepted, accepted']
        · rw [rejected, rejected']
    · have unnamed : li.goodsReceiptLineId ≠ l.id := by
        rw [← named]
        intro same
        exact other (same.symm.trans rowId.symm)
      obtain ⟨l₁, mem₁, id₁, receipt₁, received₁, unchanged | ⟨own₁, li', mem', wrote, fits', settles⟩⟩ :=
        inspecting.rows l listed
      · refine ⟨l₁, mem₁, id₁, receipt₁, received₁, .inl ⟨unchanged.1, ?_⟩⟩
        intro li' mem'
        rw [List.mem_append, List.mem_singleton] at mem'
        rcases mem' with old | rfl
        · exact unchanged.2 li' old
        · exact unnamed
      · refine ⟨l₁, mem₁, id₁, receipt₁, received₁,
          .inr ⟨own₁, li', List.mem_append_left _ mem', wrote, fits', ?_⟩⟩
        rw [afterEntries_concat, InspectGoodsReceiptLineDto.onto_of_ne, settles]
        rw [(afterEntries_same _ _).1]
        exact fun same => unnamed (same.symm.trans id₁.symm)

theorem Audited.create {a : Audit} (audited : Audited a) {tenantId id : Uuid} {lineIds : ℕ → Uuid} {year : ℕ}
    {dto : CreateGoodsReceiptDto} (prudent : Prudent a (.createGoodsReceipt tenantId id lineIds year dto))
    {s : Receiving} (ok : a.receiving.createGoodsReceipt tenantId id lineIds year dto = .ok s) :
    Audited ⟨s, a.log⟩ := by
  obtain ⟨⟨gr, rfl, draft, fresh, receipts⟩, old, new⟩ := createGoodsReceipt_ok ok
  constructor
  · intro l mem
    rcases new l mem with mem | ⟨-, -, i, listed, received, accepted, rejected⟩
    · exact audited.balanced l mem
    · obtain ⟨⟨exact, exact', exact''⟩, balanced⟩ := prudent i listed
      rw [received, accepted, rejected, toScale_of_exact exact, toScale_of_exact exact', toScale_of_exact exact'']
      exact balanced
  · intro li mem
    obtain ⟨l, found⟩ := Option.isSome_iff_exists.mp (audited.known li mem)
    have kept := Table.find?_of_mem (old l (Table.mem_of_find? found))
    rw [Table.key_of_find? found] at kept
    rw [kept]
    rfl
  · intro l mem ⟨li, logged, named⟩
    rcases new l mem with mem | ⟨free, -⟩
    · exact audited.wrote l mem ⟨li, logged, named⟩
    · have known := audited.known li logged
      rw [named, free] at known
      cases known
  · intro gr' mem inspected l own
    obtain ⟨listed, own⟩ := mem_linesOf.mp own
    rw [receipts, Table.mem_save] at mem
    rcases mem with rfl | ⟨mem, other⟩
    · rw [draft] at inspected
      cases inspected
    · rcases new l listed with listed | ⟨-, receipt, -⟩
      · exact audited.inspected gr' mem inspected l (mem_linesOf.mpr ⟨listed, own⟩)
      · exact absurd (own.symm.trans receipt) other

theorem Audited.transition {a : Audit} (audited : Audited a) {tenantId id : Uuid} {status : GoodsReceiptStatus}
    {mutator : GoodsReceipt → GoodsReceipt} {s : Receiving}
    (ok : a.receiving.transitionGoodsReceipt tenantId id status mutator = .ok s) (uninspected : status ≠ .inspected)
    (keeps : ∀ gr, (mutator gr).status = gr.status) : Audited ⟨s, a.log⟩ := by
  simp only [transitionGoodsReceipt, bind_eq_ok, ensure_eq_ok, pure_eq_ok] at ok
  obtain ⟨gr, -, -, -, rfl⟩ := ok
  refine ⟨audited.balanced, audited.known, audited.wrote, ?_⟩
  intro gr' mem inspected
  simp only [saveReceipt, Table.mem_save] at mem
  rcases mem with rfl | ⟨mem, -⟩
  · rw [keeps] at inspected
    exact absurd inspected uninspected
  · exact audited.inspected gr' mem inspected

end Receiving
namespace Sample

def piecesOf (received : String) (accepted rejected : Option String)
    (numeric : (numericString received).isSome ∧ (∀ s ∈ accepted, (numericString s).isSome) ∧
      ∀ s ∈ rejected, (numericString s).isSome) : GoodsReceiptLineInputDto where
  poLineId := 1
  receivedQuantity := ⟨received, numeric.1⟩
  acceptedQuantity := accepted.pmap Subtype.mk numeric.2.1
  rejectedQuantity := rejected.pmap Subtype.mk numeric.2.2

def delivered : Receiving.ReceiptOp :=
  .createGoodsReceipt 1 40 (50 + ·) 2026
    ⟨5, [piecesOf "10" none none (by decide), piecesOf "5" none none (by decide)], List.cons_ne_nil _ _⟩

def counted (lineId : Uuid) (accepted rejected : String)
    (numeric : (numericString accepted).isSome ∧ (numericString rejected).isSome) : InspectGoodsReceiptLineDto where
  goodsReceiptLineId := lineId
  acceptedQuantity := ⟨accepted, numeric.1⟩
  rejectedQuantity := ⟨rejected, numeric.2⟩

def audit (ops : List Receiving.ReceiptOp) : Receiving.Audit := ops.foldl Receiving.Audit.next ⟨.opening orders, []⟩

end Sample
namespace Receiving

end Receiving
end SmartErp.Procurement
