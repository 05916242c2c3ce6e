import SmartErp.Foundations.Revisions
import SmartErp.Procurement.SupplierInvoices

/-!
# Control of supplier invoices

Creation, match, approval, dispute, rejection and cancellation of supplier invoices in `procurement.service.ts`,
by calls that overlap. A match reads the order lines and the goods-receipt lines of its moment.
-/

namespace SmartErp.Procurement.InvoiceControl
open Foundations Foundations.Editing

/-! ## The status machine -/

def TRANSITIONS : SupplierInvoiceStatus → List SupplierInvoiceStatus
  | .received => [.matched, .disputed, .rejected, .cancelled]
  | .matched => [.approved, .disputed, .cancelled]
  | .disputed => [.approved, .rejected, .cancelled]
  | .approved => [.paid, .cancelled]
  | .paid => []
  | .rejected => []
  | .cancelled => []

def canSupplierInvoiceTransition (source target : SupplierInvoiceStatus) : Bool := target ∈ TRANSITIONS source

/-! ## Operations -/

structure SupplierInvoiceEntity extends SupplierInvoice where
  lines : List SupplierInvoiceLine
  notes : Option String
  approvedAt : Option ℕ := none
  approvedBy : Option Uuid := none
  deriving DecidableEq

def SupplierInvoiceEntity.key (si : SupplierInvoiceEntity) : Uuid := si.id

/-- The supplier's number is unique in the tenant. -/
def SupplierInvoiceEntity.index (si : SupplierInvoiceEntity) : Uuid × Uuid × String :=
  (si.tenantId, si.supplierId, si.supplierInvoiceNumber)

abbrev Rows := Table SupplierInvoiceEntity.key

/-- What is inserted in one transaction. -/
def createSupplierInvoice (tenantId id : Uuid) (lineIds : ℕ → Uuid) (dto : CreateSupplierInvoiceDto)
    (notes : Option String) (rows : Rows) : Except Failure SupplierInvoiceEntity := do
  let sum := (JsNumber.finite dto.subtotalCents).plus (.finite dto.taxCents)
  ensure (sum = .finite dto.totalCents)
    (.badRequest s!"subtotal+tax ({numberText sum}) != total ({showNumber dto.totalCents})")
  ensure (∀ si ∈ rows.rows, si.index ≠ (tenantId, dto.supplierId, dto.supplierInvoiceNumber)) (.conflict
    s!"Supplier invoice {dto.supplierInvoiceNumber} from supplier {dto.supplierId} already exists")
  let subtotalCents ← bigintParam (.finite dto.subtotalCents)
  let taxCents ← bigintParam (.finite dto.taxCents)
  let totalCents ← bigintParam (.finite dto.totalCents)
  let lines ← dto.lines.zipIdx.mapM fun (l, i) => lineEntity tenantId id (lineIds i) l
  return {
    id, tenantId, subtotalCents, taxCents, totalCents, lines, notes
    supplierId := dto.supplierId
    supplierInvoiceNumber := dto.supplierInvoiceNumber
    status := .received
    poIds := dto.poIds.getD []
    discrepancies := none
    matchedAt := none }

structure Sources where
  purchaseOrderLines : Table PurchaseOrderLine.id
  goodsReceiptLines : Table GoodsReceiptLine.id

section
variable (si : SupplierInvoiceEntity) (sources : Sources)

def Sources.poLines : List PurchaseOrderLine :=
  sources.purchaseOrderLines.rows.filter fun pol => pol.tenantId = si.tenantId ∧ pol.id ∈ poLineIdsOf si.lines

def Sources.grLines : List GoodsReceiptLine :=
  sources.goodsReceiptLines.rows.filter fun grl => grl.tenantId = si.tenantId ∧ grl.poLineId ∈ poLineIdsOf si.lines

def Sources.input (dto : RunMatchDto) : ThreeWayMatchInput where
  poLines := (sources.poLines si).map (·.snapshot)
  grLines := (sources.grLines si).map (·.snapshot)
  siLines := si.lines.map (·.snapshot)
  siTotalCents := bigintText si.totalCents
  tolerances := some dto.tolerances

def SupplierInvoiceEntity.examined (dto : RunMatchDto) (now : ℕ) : SupplierInvoiceEntity :=
  let poLines := sources.poLines si
  let result := runThreeWayMatch (sources.input si dto)
  { si with toSupplierInvoice := si.concluded result poLines now }

end

def runMatch (dto : RunMatchDto) (sources : Sources) (now : ℕ) (si : SupplierInvoiceEntity) :
    Except Failure SupplierInvoiceEntity := do
  ensure (si.status = .received) (.badRequest
    s!"Cannot run match on SI in status {si.status.text}; must be 'received'")
  return si.examined sources dto now

def transitionSupplierInvoice (next : SupplierInvoiceStatus) (si : SupplierInvoiceEntity) :
    Except Failure SupplierInvoiceEntity := do
  ensure (canSupplierInvoiceTransition si.status next)
    (.badRequest s!"Invalid transition: {si.status.text} → {next.text}")
  return { si with status := next }

def approveSupplierInvoice (approverUserId : Uuid) (now : ℕ) (si : SupplierInvoiceEntity) :
    Except Failure SupplierInvoiceEntity := do
  let si ← transitionSupplierInvoice .approved si
  return { si with approvedAt := some now, approvedBy := some approverUserId }

def disputeNote (notes : Option String) (reason : String) : String :=
  match notes with
  | none | some "" => s!"[DISPUTE] {reason}"
  | some notes => s!"{notes}\n[DISPUTE] {reason}"

def disputeSupplierInvoice (reason : String) (si : SupplierInvoiceEntity) : Except Failure SupplierInvoiceEntity := do
  let si ← transitionSupplierInvoice .disputed si
  return { si with notes := some (disputeNote si.notes reason) }

def rejectSupplierInvoice : SupplierInvoiceEntity → Except Failure SupplierInvoiceEntity :=
  transitionSupplierInvoice .rejected

def cancelSupplierInvoice : SupplierInvoiceEntity → Except Failure SupplierInvoiceEntity :=
  transitionSupplierInvoice .cancelled

/-! ## Calls -/

inductive Decision where
  | runMatch (dto : RunMatchDto) (sources : Sources) (now : ℕ)
  | approve (approverUserId : Uuid) (now : ℕ)
  | dispute (reason : String)
  | reject
  | cancel

def Decision.perform : Decision → SupplierInvoiceEntity → Except Failure SupplierInvoiceEntity
  | .runMatch dto sources now => InvoiceControl.runMatch dto sources now
  | .approve approverUserId now => approveSupplierInvoice approverUserId now
  | .dispute reason => disputeSupplierInvoice reason
  | .reject => rejectSupplierInvoice
  | .cancel => cancelSupplierInvoice

/-- `getSupplierInvoice`, then the decision, for a row with the id. -/
def conclude (decision : Uuid × Decision) (si : SupplierInvoiceEntity) : Except Failure SupplierInvoiceEntity := do
  ensure (si.tenantId = decision.1) (.notFound s!"Supplier invoice {si.id} not found")
  decision.2.perform si

theorem transition_eq_ok {next : SupplierInvoiceStatus} {si si' : SupplierInvoiceEntity} :
    transitionSupplierInvoice next si = .ok si' ↔
      canSupplierInvoiceTransition si.status next = true ∧ { si with status := next } = si' := by
  simp only [transitionSupplierInvoice, bind_eq_ok, ensure_eq_ok, pure_eq_ok, exists_const]

structure Agree (si si' : SupplierInvoiceEntity) : Prop where
  id : si'.id = si.id
  index : si'.index = si.index
  subtotalCents : si'.subtotalCents = si.subtotalCents
  taxCents : si'.taxCents = si.taxCents
  totalCents : si'.totalCents = si.totalCents
  lines : si'.lines = si.lines

theorem agree_of_perform {decision : Decision} {si si' : SupplierInvoiceEntity} (ok : decision.perform si = .ok si') :
    Agree si si' := by
  cases decision with
  | runMatch dto sources now =>
      simp only [Decision.perform, runMatch, bind_eq_ok, pure_eq_ok] at ok
      obtain ⟨-, -, rfl⟩ := ok
      exact ⟨rfl, rfl, rfl, rfl, rfl, rfl⟩
  | approve approverUserId now =>
      simp only [Decision.perform, approveSupplierInvoice, bind_eq_ok, transition_eq_ok, pure_eq_ok] at ok
      obtain ⟨-, ⟨-, rfl⟩, rfl⟩ := ok
      exact ⟨rfl, rfl, rfl, rfl, rfl, rfl⟩
  | dispute reason =>
      simp only [Decision.perform, disputeSupplierInvoice, bind_eq_ok, transition_eq_ok, pure_eq_ok] at ok
      obtain ⟨-, ⟨-, rfl⟩, rfl⟩ := ok
      exact ⟨rfl, rfl, rfl, rfl, rfl, rfl⟩
  | reject =>
      obtain ⟨-, rfl⟩ := transition_eq_ok.mp ok
      exact ⟨rfl, rfl, rfl, rfl, rfl, rfl⟩
  | cancel =>
      obtain ⟨-, rfl⟩ := transition_eq_ok.mp ok
      exact ⟨rfl, rfl, rfl, rfl, rfl, rfl⟩

theorem conclude_eq_ok {decision : Uuid × Decision} {si si' : SupplierInvoiceEntity} :
    conclude decision si = .ok si' ↔ si.tenantId = decision.1 ∧ decision.2.perform si = .ok si' := by
  simp [conclude, bind_eq_ok]

def desk : Editing (Uuid × Decision) Failure SupplierInvoiceEntity.key where
  edit decision _ := conclude decision
  key_edit ok := (agree_of_perform (conclude_eq_ok.mp ok).2).id
  missing id := .notFound s!"Supplier invoice {id} not found"
  apart si si' := si.index ≠ si'.index
  apart_comm si si' := by simp only [ne_eq, eq_comm]
  collision := .database "duplicate key value violates unique constraint"

inductive Call where
  | create (tenantId id : Uuid) (lineIds : ℕ → Uuid) (dto : CreateSupplierInvoiceDto) (notes : Option String)
  | decide (tenantId id : Uuid) (decision : Decision)

def Call.request : Call → Request (Uuid × Decision) Failure SupplierInvoiceEntity.key
  | create tenantId id lineIds dto notes => .insert (createSupplierInvoice tenantId id lineIds dto notes)
  | decide tenantId id decision => .edit id (tenantId, decision)

/-! ## What an approval rests on -/

/-- The decision, made on an invoice with the notes, explains the columns. -/
def Explains (decision : Decision) (notes : Option String) (si : SupplierInvoiceEntity) : Prop :=
  match decision with
  | .runMatch dto sources now =>
      if (runThreeWayMatch (sources.input si dto)).matched then si.matchedAt = some now
      else si.discrepancies = some (runThreeWayMatch (sources.input si dto)).discrepancies
  | .dispute reason => si.notes = some (disputeNote notes reason)
  | _ => False

def Story (notes : Option String) (decisions : List (Uuid × Decision)) (si : SupplierInvoiceEntity) : Prop :=
  match si.status with
  | .received => decisions = [] ∧ si.notes = notes
  | .matched => si.notes = notes ∧ ∃ decision, decisions = [(si.tenantId, decision)] ∧ Explains decision notes si
  | .disputed => ∃ before decision, decisions = before ++ [(si.tenantId, decision)] ∧ Explains decision notes si
  | .approved => ∃ before decision approverUserId now,
      decisions = before ++ [(si.tenantId, decision), (si.tenantId, .approve approverUserId now)] ∧
        Explains decision notes si ∧ si.approvedBy = some approverUserId ∧ si.approvedAt = some now
  | .rejected => True
  | .paid => False
  | .cancelled => True

theorem story_runMatch {notes : Option String} {decisions : List (Uuid × Decision)} {si si' : SupplierInvoiceEntity}
    {dto : RunMatchDto} {sources : Sources} {now : ℕ} (story : Story notes decisions si)
    (ok : runMatch dto sources now si = .ok si') :
    Story notes (decisions ++ [(si.tenantId, .runMatch dto sources now)]) si' := by
  simp only [runMatch, bind_eq_ok, ensure_eq_ok, pure_eq_ok, exists_const] at ok
  obtain ⟨received, rfl⟩ := ok
  rw [Story, received] at story
  obtain ⟨rfl, same⟩ := story
  have columns : (si.examined sources dto now).discrepancies =
      if (runThreeWayMatch (sources.input si dto)).discrepancies.isEmpty then none
      else some (runThreeWayMatch (sources.input si dto)).discrepancies := rfl
  have explains : Explains (.runMatch dto sources now) notes (si.examined sources dto now) := by
    change if (runThreeWayMatch (sources.input si dto)).matched = true then _ else _
    split_ifs with matched
    · exact if_pos matched
    · exact columns.trans (if_neg (by rwa [List.isEmpty_iff, ← runThreeWayMatch_discrepancies]))
  have status : (si.examined sources dto now).status =
      if (runThreeWayMatch (sources.input si dto)).matched then .matched else .disputed := rfl
  by_cases matched : (runThreeWayMatch (sources.input si dto)).matched = true
  · rw [Story, status, if_pos matched]
    exact ⟨same, _, rfl, explains⟩
  · rw [Story, status, if_neg matched]
    exact ⟨[], _, rfl, explains⟩

theorem disputed_source {source : SupplierInvoiceStatus} (can : canSupplierInvoiceTransition source .disputed = true) :
    source = .received ∨ source = .matched := by
  cases source <;> simp_all [canSupplierInvoiceTransition, TRANSITIONS]

theorem approved_source {source : SupplierInvoiceStatus} (can : canSupplierInvoiceTransition source .approved = true) :
    source = .matched ∨ source = .disputed := by
  cases source <;> simp_all [canSupplierInvoiceTransition, TRANSITIONS]

theorem story_step {notes : Option String} {decisions : List (Uuid × Decision)} {si si' : SupplierInvoiceEntity}
    {decision : Uuid × Decision} (story : Story notes decisions si) (ok : conclude decision si = .ok si') :
    Story notes (decisions ++ [decision]) si' := by
  obtain ⟨tenantId, decision⟩ := decision
  rw [conclude_eq_ok] at ok
  obtain ⟨rfl, ok⟩ := ok
  cases decision with
  | runMatch dto sources now => exact story_runMatch story ok
  | reject =>
      obtain ⟨-, rfl⟩ := transition_eq_ok.mp ok
      exact trivial
  | cancel =>
      obtain ⟨-, rfl⟩ := transition_eq_ok.mp ok
      exact trivial
  | dispute reason =>
      simp only [Decision.perform, disputeSupplierInvoice, bind_eq_ok, transition_eq_ok, pure_eq_ok] at ok
      obtain ⟨-, ⟨can, rfl⟩, rfl⟩ := ok
      have same : si.notes = notes := by
        rcases disputed_source can with source | source <;> rw [Story, source] at story
        · exact story.2
        · exact story.1
      exact ⟨decisions, .dispute reason, rfl, congrArg (fun notes => some (disputeNote notes reason)) same⟩
  | approve approverUserId now =>
      simp only [Decision.perform, approveSupplierInvoice, bind_eq_ok, transition_eq_ok, pure_eq_ok] at ok
      obtain ⟨-, ⟨can, rfl⟩, rfl⟩ := ok
      -- What explains the columns before the approval explains them after it.
      obtain ⟨before, decision, rfl, explains⟩ : ∃ before decision,
          decisions = before ++ [(si.tenantId, decision)] ∧ Explains decision notes si := by
        rcases approved_source can with source | source <;> rw [Story, source] at story
        · obtain ⟨-, decision, rfl, explains⟩ := story
          exact ⟨[], decision, rfl, explains⟩
        · exact story
      refine ⟨before, decision, approverUserId, now, by simp, ?_, rfl, rfl⟩
      cases decision <;> exact explains

/-! ## Runs -/

section
variable {ι : Type} {calls : ι → Call}

/-- The invoice was approved by name, on the ground of a match that passed, of the discrepancies of one that did
not, or of a dispute; `log` has the calls that were saved. -/
def Grounded (calls : ι → Call) (log : List ι) (si : SupplierInvoiceEntity) : Prop :=
  ∃ i j notes decision approverUserId now, [i, j].Sublist log ∧ calls i = .decide si.tenantId si.id decision ∧
    Explains decision notes si ∧ calls j = .decide si.tenantId si.id (.approve approverUserId now) ∧
    si.approvedBy = some approverUserId ∧ si.approvedAt = some now

structure Controlled (calls : ι → Call) (log : List ι) (si : SupplierInvoiceEntity) : Prop where
  received : ∃ i ∈ log, ∃ lineIds dto notes rows si₀, calls i = .create si.tenantId si.id lineIds dto notes ∧
    createSupplierInvoice si.tenantId si.id lineIds dto notes rows = .ok si₀ ∧ Agree si₀ si
  addsUp : si.totalCents < 2 ^ 53 → si.subtotalCents + si.taxCents = si.totalCents
  approved : si.status = .approved → Grounded calls log si
  unpaid : si.status ≠ .paid

theorem request_eq_edit {call : Call} {id : Uuid} {decision : Uuid × Decision}
    (request : call.request = .edit id decision) : call = .decide decision.1 id decision.2 := by
  cases call with
  | create => cases request
  | decide => cases request; rfl

theorem request_eq_insert {call : Call} {make : Rows → Except Failure SupplierInvoiceEntity}
    (request : call.request = .insert make) : ∃ tenantId id lineIds dto notes,
      call = .create tenantId id lineIds dto notes ∧ make = createSupplierInvoice tenantId id lineIds dto notes := by
  cases call with
  | create tenantId id lineIds dto notes => cases request; exact ⟨_, _, _, _, _, rfl, rfl⟩
  | decide => cases request

/-- Below `2 ^ 53` the sum of whole numbers is the one that doubles show. -/
theorem add_of_plus {a b c : ℕ} (sum : (JsNumber.finite a).plus (.finite b) = .finite c) (safe : c < 2 ^ 53) : a + b = c := by
  have small : a + b < 2 ^ 53 := by
    by_contra! large
    have least : ((2 ^ 53 : ℤ) : ℚ) ≤ a + b := by exact_mod_cast large
    rw [JsNumber.plus, JsNumber.add_finite, JsNumber.double] at sum
    split_ifs at sum
    have rounded := (isDouble_intCast (n := 2 ^ 53) (by norm_num)).le_toDouble_of_le least
    rw [JsNumber.finite.inj sum] at rounded
    have : 2 ^ 53 ≤ c := by exact_mod_cast rounded
    omega
  have exact : (JsNumber.finite a).plus (.finite b) = .finite (a + b : ℤ) := by
    rw [JsNumber.plus, JsNumber.add_finite]
    have safe' := JsNumber.double_safe (n := a + b) (by rw [abs_of_nonneg (by positivity)]; exact_mod_cast small)
    push_cast at safe' ⊢
    exact safe'
  rw [exact] at sum
  exact_mod_cast JsNumber.finite.inj sum

theorem createSupplierInvoice_eq_ok {tenantId id : Uuid} {lineIds : ℕ → Uuid} {dto : CreateSupplierInvoiceDto}
    {notes : Option String} {rows : Rows} {si : SupplierInvoiceEntity}
    (ok : createSupplierInvoice tenantId id lineIds dto notes rows = .ok si) :
    si.tenantId = tenantId ∧ si.id = id ∧ si.status = .received ∧ si.notes = notes ∧
      (si.totalCents < 2 ^ 53 → si.subtotalCents + si.taxCents = si.totalCents) := by
  simp only [createSupplierInvoice, bind_eq_ok, ensure_eq_ok, bigintParam_natCast, pure_eq_ok] at ok
  obtain ⟨-, total, -, -, _, ⟨-, rfl⟩, _, ⟨-, rfl⟩, _, ⟨-, rfl⟩, lines, -, rfl⟩ := ok
  refine ⟨rfl, rfl, rfl, rfl, fun safe => ?_⟩
  have small := JsNumber.safe_of_shortest safe
  have sum := add_of_plus total small
  have same {n : ℕ} (le : n ≤ dto.totalCents) : JsNumber.shortest n = n := by
    have text := JsNumber.shortest_safe (n := n) (by rw [abs_of_nonneg (by positivity)]; exact_mod_cast le.trans_lt small)
    exact_mod_cast text
  change JsNumber.shortest dto.subtotalCents + JsNumber.shortest dto.taxCents = JsNumber.shortest dto.totalCents
  rw [same (by omega), same (by omega), same le_rfl]
  exact_mod_cast sum

theorem agree_of_replays {si₀ si : SupplierInvoiceEntity} {decisions : List (Uuid × Decision)}
    (replays : desk.Replays si₀ decisions si) : Agree si₀ si := by
  refine replays.invariant (Agree si₀) (fun decision si si' agree edits => ?_) ⟨rfl, rfl, rfl, rfl, rfl, rfl⟩
  obtain ⟨_, ok⟩ := edits
  have agree' := agree_of_perform (conclude_eq_ok.mp ok).2
  exact ⟨agree'.id.trans agree.id, agree'.index.trans agree.index, agree'.subtotalCents.trans agree.subtotalCents,
    agree'.taxCents.trans agree.taxCents, agree'.totalCents.trans agree.totalCents, agree'.lines.trans agree.lines⟩

theorem story_of_replays {si₀ si : SupplierInvoiceEntity} {decisions : List (Uuid × Decision)}
    (replays : desk.Replays si₀ decisions si) (received : si₀.status = .received) :
    Story si₀.notes decisions si := by
  induction replays with
  | nil =>
      rw [Story, received]
      exact ⟨rfl, rfl⟩
  | snoc _ last ih =>
      obtain ⟨_, ok⟩ := last
      exact story_step ih ok

def Stands (decision : Decision) (si : SupplierInvoiceEntity) : Prop :=
  match decision with
  | .runMatch _ _ _ => si.status ≠ .received
  | .approve approverUserId now => si.status ∈ [SupplierInvoiceStatus.approved, .cancelled] ∧
      si.approvedBy = some approverUserId ∧ si.approvedAt = some now
  | .dispute _ => si.status ∉ [SupplierInvoiceStatus.received, .matched]
  | .reject => si.status = .rejected
  | .cancel => si.status = .cancelled

theorem stands_of_perform {decision : Decision} {si si' : SupplierInvoiceEntity} (ok : decision.perform si = .ok si') :
    Stands decision si' := by
  cases decision with
  | runMatch dto sources now =>
      simp only [Decision.perform, runMatch, bind_eq_ok, pure_eq_ok] at ok
      obtain ⟨-, -, rfl⟩ := ok
      change (if _ then SupplierInvoiceStatus.matched else .disputed) ≠ .received
      split_ifs <;> simp
  | approve approverUserId now =>
      simp only [Decision.perform, approveSupplierInvoice, bind_eq_ok, transition_eq_ok, pure_eq_ok] at ok
      obtain ⟨-, ⟨-, rfl⟩, rfl⟩ := ok
      exact ⟨List.mem_cons_self, rfl, rfl⟩
  | dispute reason =>
      simp only [Decision.perform, disputeSupplierInvoice, bind_eq_ok, transition_eq_ok, pure_eq_ok] at ok
      obtain ⟨-, ⟨-, rfl⟩, rfl⟩ := ok
      simp [Stands]
  | reject =>
      obtain ⟨-, rfl⟩ := transition_eq_ok.mp ok
      rfl
  | cancel =>
      obtain ⟨-, rfl⟩ := transition_eq_ok.mp ok
      rfl

structure Moves (si si' : SupplierInvoiceEntity) : Prop where
  can : canSupplierInvoiceTransition si.status si'.status = true
  unpaid : si'.status ≠ .paid
  signed : si'.status ≠ .approved → si'.approvedBy = si.approvedBy ∧ si'.approvedAt = si.approvedAt

theorem moves_of_perform {decision : Decision} {si si' : SupplierInvoiceEntity} (ok : decision.perform si = .ok si') :
    Moves si si' := by
  cases decision with
  | runMatch dto sources now =>
      simp only [Decision.perform, runMatch, bind_eq_ok, ensure_eq_ok, pure_eq_ok, exists_const] at ok
      obtain ⟨received, rfl⟩ := ok
      have status : (si.examined sources dto now).status = .matched ∨ (si.examined sources dto now).status = .disputed := by
        change (if _ then SupplierInvoiceStatus.matched else .disputed) = _ ∨
          (if _ then SupplierInvoiceStatus.matched else .disputed) = _
        split_ifs <;> simp
      refine ⟨?_, ?_, fun _ => ⟨rfl, rfl⟩⟩
      · rcases status with status | status <;> rw [received, status] <;> rfl
      · rcases status with status | status <;> simp [status]
  | approve approverUserId now =>
      simp only [Decision.perform, approveSupplierInvoice, bind_eq_ok, transition_eq_ok, pure_eq_ok] at ok
      obtain ⟨-, ⟨can, rfl⟩, rfl⟩ := ok
      exact ⟨can, by simp, fun other => absurd rfl other⟩
  | dispute reason =>
      simp only [Decision.perform, disputeSupplierInvoice, bind_eq_ok, transition_eq_ok, pure_eq_ok] at ok
      obtain ⟨-, ⟨can, rfl⟩, rfl⟩ := ok
      exact ⟨can, by simp, fun _ => ⟨rfl, rfl⟩⟩
  | reject =>
      obtain ⟨can, rfl⟩ := transition_eq_ok.mp ok
      exact ⟨can, by simp, fun _ => ⟨rfl, rfl⟩⟩
  | cancel =>
      obtain ⟨can, rfl⟩ := transition_eq_ok.mp ok
      exact ⟨can, by simp, fun _ => ⟨rfl, rfl⟩⟩

theorem stands_step {decision decision' : Decision} {si si' : SupplierInvoiceEntity} (stands : Stands decision si)
    (ok : decision'.perform si = .ok si') : Stands decision si' := by
  obtain ⟨can, unpaid, signed⟩ := moves_of_perform ok
  have targets : si'.status ∈ TRANSITIONS si.status := of_decide_eq_true can
  cases decision with
  | runMatch =>
      intro received
      rw [received] at targets
      cases status : si.status <;> simp [status, TRANSITIONS] at targets
  | approve approverUserId now =>
      obtain ⟨status, by', at'⟩ := stands
      have cancelled : si'.status = .cancelled := by
        simp only [List.mem_cons, List.not_mem_nil, or_false] at status
        rcases status with status | status <;> simp [status, TRANSITIONS] at targets
        exact targets.resolve_left unpaid
      have same := signed (by simp [cancelled])
      exact ⟨by simp [cancelled], same.1.trans by', same.2.trans at'⟩
  | dispute =>
      have closed : ∀ s ∉ [SupplierInvoiceStatus.received, .matched], ∀ s' ∈ TRANSITIONS s,
          s' ∉ [SupplierInvoiceStatus.received, .matched] := by
        intro s
        cases s <;> simp [TRANSITIONS]
      exact closed _ stands _ targets
  | reject =>
      rw [Stands] at stands
      simp [stands, TRANSITIONS] at targets
  | cancel =>
      rw [Stands] at stands
      simp [stands, TRANSITIONS] at targets

theorem stands_of_replays {si₀ si : SupplierInvoiceEntity} {decisions : List (Uuid × Decision)}
    (replays : desk.Replays si₀ decisions si) :
    ∀ decision ∈ decisions, si.tenantId = decision.1 ∧ Stands decision.2 si := by
  induction replays with
  | nil => exact List.forall_mem_nil _
  | snoc _ last ih =>
      obtain ⟨_, ok⟩ := last
      obtain ⟨tenant, ok⟩ := conclude_eq_ok.mp ok
      have same := congrArg Prod.fst (agree_of_perform ok).index
      intro decision mem
      rcases List.mem_append.mp mem with old | new
      · exact ⟨same.trans (ih decision old).1, stands_step (ih decision old).2 ok⟩
      · rw [List.mem_singleton.mp new]
        exact ⟨same.trans tenant, stands_of_perform ok⟩

theorem controlled_of_lineage {log : List ι} {si : SupplierInvoiceEntity} {decisions : List (Uuid × Decision)}
    (lineage : desk.Lineage (fun i => (calls i).request) log si decisions) : Controlled calls log si := by
  obtain ⟨before, i, after, si₀, rfl, ⟨make, rows, request, made⟩, -, sub, replays⟩ := lineage
  obtain ⟨tenantId, id, lineIds, dto, notes, call, rfl⟩ := request_eq_insert request
  obtain ⟨rfl, rfl, received, -, addsUp⟩ := createSupplierInvoice_eq_ok made
  have agree := agree_of_replays replays
  have story := story_of_replays replays received
  have tenant : si.tenantId = si₀.tenantId := congrArg Prod.fst agree.index
  refine ⟨⟨i, by simp, lineIds, dto, notes, rows, si₀, ?_, ?_, agree⟩, ?_, ?_, ?_⟩
  · rw [call, tenant, agree.id]
  · rw [tenant, agree.id]
    exact made
  · rwa [agree.subtotalCents, agree.taxCents, agree.totalCents]
  · intro approved
    rw [Story, approved] at story
    obtain ⟨earlier, decision, approverUserId, now, rfl, explains, by', at'⟩ := story
    obtain ⟨js, sub', eq⟩ := calls_of_sublist ((List.sublist_append_right _ _).trans sub)
    obtain ⟨i', j, rfl⟩ : ∃ i' j, js = [i', j] := by
      have length := congrArg List.length eq
      simpa [List.length_eq_two] using length
    simp only [List.map_cons, List.map_nil, List.cons.injEq, and_true] at eq
    exact ⟨i', j, si₀.notes, decision, approverUserId, now,
      sub'.trans ((List.sublist_cons_self i after).trans (List.sublist_append_right _ _)), request_eq_edit eq.1, explains,
      request_eq_edit eq.2, by', at'⟩
  · intro paid
    rw [Story, paid] at story
    exact story

variable [DecidableEq ι]

variable (calls) in
def after (moves : List (ι × Option Failure)) : Desk ι Failure SupplierInvoiceEntity.key :=
  moves.foldl (desk.next fun i => (calls i).request) opening

/-- Calls that do not overlap: nothing that was decided is undone. -/
theorem stands_of_timely {moves : List (ι × Option Failure)}
    (timely : AllMet Timely (desk.next fun i => (calls i).request) opening moves) {i : ι} {tenantId id : Uuid}
    {decision : Decision} (saved : i ∈ (after calls moves).shared.log) (call : calls i = .decide tenantId id decision) :
    ∃ si ∈ (after calls moves).shared.rows.rows, si.id = id ∧ si.tenantId = tenantId ∧ Stands decision si := by
  have request : (calls i).request = .edit id (tenantId, decision) := by rw [call]; rfl
  have mem : (tenantId, decision) ∈ editsOf (fun i => (calls i).request) id (after calls moves).shared.log :=
    mem_editsOf.mpr ⟨i, saved, request⟩
  have found := (sound_run (E := desk) (fun i => (calls i).request) moves).edited id (List.ne_nil_of_mem mem)
  obtain ⟨si, found⟩ := Option.ne_none_iff_exists'.mp found
  have row := Table.mem_of_find? found
  have here : si.key = id := Table.key_of_find? found
  obtain ⟨-, -, -, si₀, -, -, -, -, replays⟩ := complete_run timely si row
  rw [here] at replays
  exact ⟨si, row, here, stands_of_replays replays _ mem⟩

theorem supplier_invoices_controlled (calls : ι → Call) (moves : List (ι × Option Failure)) :
    (∀ si ∈ (after calls moves).shared.rows.rows, Controlled calls (after calls moves).shared.log si) ∧
      (∀ si ∈ (after calls moves).shared.rows.rows, ∀ si' ∈ (after calls moves).shared.rows.rows,
        si.index = si'.index → si.id = si'.id) ∧
      (AllMet Timely (desk.next fun i => (calls i).request) opening moves →
        ∀ i ∈ (after calls moves).shared.log, ∀ tenantId id decision, calls i = .decide tenantId id decision →
          ∃ si ∈ (after calls moves).shared.rows.rows, si.id = id ∧ si.tenantId = tenantId ∧ Stands decision si) := by
  have sound := sound_run (E := desk) (fun i => (calls i).request) moves
  refine ⟨fun si mem => ?_, fun si mem si' mem' same => ?_, fun timely i saved tenantId id decision call =>
    stands_of_timely timely saved call⟩
  · obtain ⟨es, lineage⟩ := sound.rows si mem
    exact controlled_of_lineage lineage
  · by_contra ne
    exact of_decide_eq_true (sound.apart si mem si' mem' ne) same

end

end SmartErp.Procurement.InvoiceControl
