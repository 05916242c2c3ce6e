import SmartErp.Procurement.Orders
import SmartErp.Foundations.Amounts

/-!
# No approval without its chain

A requisition is approved or converted only after exactly the calls that its chain asks for. The chain is
the one of the total taken in doubles over the quantities as they are written, and a line is stored with its
quantity rounded to the column. So the chain answers for the lines only where the two totals ask for the same.
-/

namespace SmartErp.Procurement.Sourcing
open Foundations

inductive Op where
  | createRequisition (tenantId id : Uuid) (year : ℕ) (dto : CreatePurchaseRequisitionDto)
  | submitRequisition (tenantId id : Uuid)
  | approveRequisition (tenantId id : Uuid) (dto : ApprovePurchaseRequisitionDto) (now : ℕ)
  | rejectRequisition (tenantId id : Uuid) (dto : RejectPurchaseRequisitionDto) (now : ℕ)
  | cancelRequisition (tenantId id : Uuid)
  | convertRequisitionToPo (tenantId id poId : Uuid) (year : ℕ) (dto : ConvertPurchaseRequisitionDto)

def Op.requisition : Op → Uuid
  | createRequisition _ id _ _ | submitRequisition _ id | approveRequisition _ id _ _
  | rejectRequisition _ id _ _ | cancelRequisition _ id | convertRequisitionToPo _ id _ _ _ => id

def perform (db : Db) : Op → Except Failure Db
  | .createRequisition tenantId id year dto => createRequisition db tenantId id year dto
  | .submitRequisition tenantId id => submitRequisition db tenantId id
  | .approveRequisition tenantId id dto now => approveRequisition db tenantId id dto now
  | .rejectRequisition tenantId id dto now => rejectRequisition db tenantId id dto now
  | .cancelRequisition tenantId id => cancelRequisition db tenantId id
  | .convertRequisitionToPo tenantId id poId year dto => convertRequisitionToPo db tenantId id poId year dto

structure Session where
  db : Db
  log : List Op

def next (s : Session) (op : Op) : Session :=
  match perform s.db op with
  | .ok db => ⟨db, s.log ++ [op]⟩
  | .error _ => s

def Session.history (s : Session) (id : Uuid) : List Op := s.log.filter (·.requisition = id)

/-! ## What the lines are worth -/

def PurchaseRequisitionLine.worth (l : PurchaseRequisitionLine) : ℚ := l.quantity.val * l.estimatedUnitCostCents

def worth (lines : List PurchaseRequisitionLine) : ℚ := (lines.map (·.worth)).sum

def PurchaseRequisitionLineInputDto.worth (l : PurchaseRequisitionLineInputDto) : ℚ :=
  toScale 4 l.quantity.value * (l.estimatedUnitCostCents.getD 0 : ℕ)

def CreatePurchaseRequisitionDto.worth (dto : CreatePurchaseRequisitionDto) : ℚ := (dto.lines.map (·.worth)).sum

theorem worth_stored {dto : CreatePurchaseRequisitionDto} {lines : List PurchaseRequisitionLine}
    (stored : dto.lines.mapM (·.stored) = .ok lines) : worth lines = dto.worth := by
  refine congrArg List.sum (mapM_map (fun l _ stored ok => ?_) stored)
  simp only [PurchaseRequisitionLineInputDto.stored, bind_eq_ok, column_eq_ok, bigint_eq_ok, pure_eq_ok] at ok
  obtain ⟨quantity, rounded, _, ⟨-, rfl⟩, rfl⟩ := ok
  rw [PurchaseRequisitionLine.worth, PurchaseRequisitionLineInputDto.worth, Numeric.ofRat_val rounded]
  push_cast
  rfl

/-- The chain of the total holds, in their order, the steps that the lines ask for. -/
def CreatePurchaseRequisitionDto.Covered (dto : CreatePurchaseRequisitionDto) : Prop :=
  (buildApprovalChain (.finite dto.worth)).Sublist (buildApprovalChain dto.totalEstimateCents)

instance (dto : CreatePurchaseRequisitionDto) : Decidable dto.Covered :=
  inferInstanceAs (Decidable (List.Sublist _ _))

def Op.Covered : Op → Prop
  | createRequisition _ _ _ dto => dto.Covered
  | _ => True

instance : (op : Op) → Decidable op.Covered
  | .createRequisition _ _ _ dto => inferInstanceAs (Decidable dto.Covered)
  | .submitRequisition .. | .approveRequisition .. | .rejectRequisition .. | .cancelRequisition ..
  | .convertRequisitionToPo .. => isTrue trivial

theorem estimateCents_stored {l : PurchaseRequisitionLineInputDto} {stored : PurchaseRequisitionLine}
    (ok : l.stored = .ok stored) (decimals : Exact 4 l.quantity.value) :
    ∃ x : ℚ, l.estimateCents = (JsNumber.finite x).double ∧ |x - l.worth| ≤ |l.worth| / 2 ^ 53 := by
  simp only [PurchaseRequisitionLineInputDto.stored, bind_eq_ok, column_eq_ok] at ok
  obtain ⟨quantity, rounded, -⟩ := ok
  have value : quantity.val = l.quantity.value := by rw [Numeric.ofRat_val rounded, toScale_of_exact decimals]
  have small : |l.quantity.value| ≤ 2 ^ 64 := by
    rw [← value]
    exact quantity.abs_val_le.trans (by norm_num)
  have error := decimals.abs_toDouble_sub_le (by norm_num)
  obtain ⟨cost, hcost⟩ : ∃ cost : ℕ, cost = l.estimatedUnitCostCents.getD 0 := ⟨_, rfl⟩
  refine ⟨cost * toDouble l.quantity.value, ?_, ?_⟩
  · rw [PurchaseRequisitionLineInputDto.estimateCents, NumberString.number, JsNumber.double_of_le small, ← hcost]
    rfl
  · rw [PurchaseRequisitionLineInputDto.worth, toScale_of_exact decimals, ← hcost, mul_comm l.quantity.value, ← mul_sub,
      abs_mul, abs_mul, mul_div_assoc]
    exact mul_le_mul_of_nonneg_left error (abs_nonneg _)

theorem CreatePurchaseRequisitionDto.exact_worth (dto : CreatePurchaseRequisitionDto) : Exact 4 dto.worth := by
  refine .sum fun q mem => ?_
  obtain ⟨l, -, rfl⟩ := List.mem_map.mp mem
  obtain ⟨n, hn⟩ := exact_iff.mp (exact_toScale 4 l.quantity.value)
  refine exact_iff.mpr ⟨n * (l.estimatedUnitCostCents.getD 0 : ℕ), ?_⟩
  rw [PurchaseRequisitionLineInputDto.worth, mul_right_comm, hn]
  push_cast
  rfl

theorem totalEstimateCents_near {dto : CreatePurchaseRequisitionDto} {x : PurchaseRequisitionLineInputDto → ℚ}
    (estimate : ∀ l ∈ dto.lines, l.estimateCents = (JsNumber.finite (x l)).double)
    (error : ∀ l ∈ dto.lines, |x l - l.worth| ≤ |l.worth| / 2 ^ 53)
    (moderate : dto.lines.length * ((dto.lines.map fun l => |l.worth|).sum + 1) ≤ 2 ^ 38) :
    dto.totalEstimateCents.Near dto.worth (3 / 2 ^ 15) := by
  obtain ⟨size, hsize⟩ : ∃ size, size = (dto.lines.map fun l => |l.worth|).sum + 1 := ⟨_, rfl⟩
  rw [← hsize] at moderate
  have nonneg : 0 ≤ (dto.lines.map fun l => |l.worth|).sum := List.sum_nonneg (by simp)
  have count : (1 : ℚ) ≤ dto.lines.length := by
    exact_mod_cast List.length_pos_iff.mpr dto.arrayMinSize
  have most : size ≤ 2 ^ 38 := (le_mul_of_one_le_left (by linarith) count).trans moderate
  have share : (dto.lines.map fun l => |l.worth| / 2 ^ 53).sum ≤ 1 / 2 ^ 15 := by
    have total := List.sum_map_mul_right dto.lines (fun l => |l.worth|) (2 ^ 53)⁻¹
    simp only [← div_eq_mul_inv] at total
    rw [total, div_le_div_iff₀ (by norm_num) (by norm_num)]
    linarith
  have apart : |(dto.lines.map x).sum - dto.worth| ≤ 1 / 2 ^ 15 := (abs_sum_sub_le error).trans share
  have length : ((dto.lines.map x).map (|·|)).sum ≤ (dto.lines.map fun l => |l.worth|).sum + 1 / 2 ^ 15 := by
    have close := abs_sum_sub_le fun l mem => (abs_abs_sub_abs_le (x l) l.worth).trans (error l mem)
    rw [List.map_map]
    exact sub_le_iff_le_add'.mp ((le_abs_self _).trans (close.trans share))
  have rounding : dto.lines.length * (size / 2 ^ 52) ≤ 1 / 2 ^ 14 := by
    rw [← mul_div_assoc, div_le_div_iff₀ (by norm_num) (by norm_num)]
    linarith
  have near := JsNumber.Near.foldl_plus (normal_of_le (show 1 / 2 ^ 64 ≤ size by rw [hsize]; linarith))
    (most.trans (by norm_num)) (s := dto.lines.map x) (k := 0) (a := .finite 0) (x := 0)
    (by simpa using JsNumber.Near.exact 0)
    (by rw [List.length_map, abs_zero]; push_cast; linarith)
  have sum : dto.totalEstimateCents =
      ((dto.lines.map x).map fun q => (JsNumber.finite q).double).foldl JsNumber.plus (.finite 0) := by
    rw [List.map_map]
    exact congrArg sumOf (List.map_congr_left estimate)
  rw [zero_add, zero_add, ← sum, List.length_map] at near
  obtain ⟨total, same, close⟩ := near
  refine ⟨total, same, ?_⟩
  have triangle := abs_sub_le total (dto.lines.map x).sum dto.worth
  norm_num at close rounding apart triangle ⊢
  linarith

theorem totalEstimateCents_of_decimals {db db' : Db} {tenantId id : Uuid} {year : ℕ} {dto : CreatePurchaseRequisitionDto}
    (ok : createRequisition db tenantId id year dto = .ok db') (decimals : ∀ l ∈ dto.lines, Exact 4 l.quantity.value)
    (moderate : dto.lines.length * ((dto.lines.map fun l => |l.worth|).sum + 1) ≤ 2 ^ 38) :
    dto.totalEstimateCents = .finite dto.worth := by
  simp only [createRequisition, bind_eq_ok, ensure_eq_ok] at ok
  obtain ⟨-, -, -, -, total, column, lines, stored, -⟩ := ok
  have each (l : PurchaseRequisitionLineInputDto) (mem : l ∈ dto.lines) :
      ∃ x : ℚ, l.estimateCents = (JsNumber.finite x).double ∧ |x - l.worth| ≤ |l.worth| / 2 ^ 53 := by
    obtain ⟨line, okLine⟩ := mapM_isOk.mp ⟨lines, stored⟩ l mem
    exact estimateCents_stored okLine (decimals l mem)
  choose! x estimate error using each
  obtain ⟨d, same, close⟩ := totalEstimateCents_near estimate error moderate
  -- The column takes whole cents only.
  have taken := bigintColumn_ok column
  have whole : Exact 4 (total : ℚ) := exact_iff.mpr ⟨total * 10 ^ 4, by push_cast; rfl⟩
  rw [taken, JsNumber.finite.injEq] at same
  rw [← same] at close
  rw [taken, eq_of_exact whole dto.exact_worth]
  norm_num at close ⊢
  linarith

theorem covered_of_decimals {db db' : Db} {tenantId id : Uuid} {year : ℕ} {dto : CreatePurchaseRequisitionDto}
    (ok : createRequisition db tenantId id year dto = .ok db') (decimals : ∀ l ∈ dto.lines, Exact 4 l.quantity.value)
    (moderate : dto.lines.length * ((dto.lines.map fun l => |l.worth|).sum + 1) ≤ 2 ^ 38) : dto.Covered := by
  rw [CreatePurchaseRequisitionDto.Covered, totalEstimateCents_of_decimals ok decimals moderate]

/-! ## Chains -/

structure Approval where
  dto : ApprovePurchaseRequisitionDto
  now : ℕ

def stamp : List ApprovalStep → List Approval → List ApprovalStep
  | [], _ => []
  | steps, [] => steps
  | step :: steps, a :: as => step.approvedBy a.dto a.now :: stamp steps as

theorem pending_buildApprovalChain (total : JsNumber) : ∀ step ∈ buildApprovalChain total, step.status = .pending := by
  unfold buildApprovalChain
  split_ifs <;> simp [pendingStep]

theorem stamp_nil (steps : List ApprovalStep) : stamp steps [] = steps := by
  cases steps <;> rfl

theorem changeNext_stamp {steps : List ApprovalStep} (pending : ∀ step ∈ steps, step.status = .pending)
    {as : List Approval} (more : as.length < steps.length) (a : Approval) :
    changeNext (·.approvedBy a.dto a.now) (stamp steps as) = stamp steps (as ++ [a]) := by
  induction steps generalizing as with
  | nil => cases more
  | cons step steps ih =>
      rw [List.forall_mem_cons] at pending
      cases as with
      | nil => simp [stamp, changeNext, pending.1, stamp_nil]
      | cons b as => simpa [stamp, changeNext, ApprovalStep.approvedBy] using ih pending.2 (by simpa using more)

theorem all_approved_stamp {steps : List ApprovalStep} (pending : ∀ step ∈ steps, step.status = .pending)
    (as : List Approval) :
    (∀ step ∈ stamp steps as, step.status = .approved) ↔ steps.length ≤ as.length := by
  induction steps generalizing as with
  | nil => simp [stamp]
  | cons step steps ih =>
      rw [List.forall_mem_cons] at pending
      cases as with
      | nil => simp [stamp, pending.1]
      | cons a as => simp [stamp, ApprovalStep.approvedBy, ih pending.2]

theorem isApprovalChainComplete_stamp {steps : List ApprovalStep}
    (pending : ∀ step ∈ steps, step.status = .pending) (as : List Approval) :
    isApprovalChainComplete (stamp steps as) = true ↔ steps ≠ [] ∧ steps.length ≤ as.length := by
  have empty : stamp steps as = [] ↔ steps = [] := by
    cases steps <;> cases as <;> simp [stamp]
  simp [isApprovalChainComplete, ← all_approved_stamp pending, empty]

theorem nextPendingApprovalRole_stamp {steps : List ApprovalStep}
    (pending : ∀ step ∈ steps, step.status = .pending) (as : List Approval) :
    nextPendingApprovalRole (stamp steps as) ≠ none ↔ as.length < steps.length := by
  induction steps generalizing as with
  | nil => simp [stamp, nextPendingApprovalRole]
  | cons step steps ih =>
      rw [List.forall_mem_cons] at pending
      cases as with
      | nil => simp [stamp, nextPendingApprovalRole, pending.1]
      | cons a as =>
          have later := ih pending.2 as
          simpa [stamp, nextPendingApprovalRole, ApprovalStep.approvedBy] using later

/-! ## What the calls have done to a requisition -/

def Op.approve (r : PurchaseRequisition) (a : Approval) : Op := .approveRequisition r.tenantId r.id a.dto a.now

def Explained (history : List Op) (r : PurchaseRequisition) : Prop :=
  ∃ year dto, dto.totalEstimateCents = .finite r.totalEstimateCents ∧ (worth r.lines = dto.worth ∧ dto.Covered) ∧
    let chain := buildApprovalChain dto.totalEstimateCents
    let created := Op.createRequisition r.tenantId r.id year dto
    let submitted := Op.submitRequisition r.tenantId r.id
    match r.status with
    | .draft => history = [created] ∧ r.approverChain = chain
    | .submitted => ∃ as : List Approval, as.length < chain.length ∧ r.approverChain = stamp chain as ∧
        history = created :: submitted :: as.map (Op.approve r)
    | .approved => ∃ as : List Approval, as.length = chain.length ∧ r.approverChain = stamp chain as ∧
        history = created :: submitted :: as.map (Op.approve r)
    | .converted => ∃ as : List Approval, as.length = chain.length ∧ r.approverChain = stamp chain as ∧
        ∃ poId year' dto', history = created :: submitted :: as.map (Op.approve r) ++
          [.convertRequisitionToPo r.tenantId r.id poId year' dto']
    | .rejected | .cancelled => True

structure Orderly (s : Session) : Prop where
  explained : ∀ id r, s.db.requisitions.find? id = some r → Explained (s.history id) r
  unborn : ∀ id, s.db.requisitions.find? id = none → s.history id = []

theorem getRequisition_ok {db : Db} {tenantId id : Uuid} {req : PurchaseRequisition}
    (ok : getRequisition db tenantId id = .ok req) :
    db.requisitions.find? id = some req ∧ req.id = id ∧ req.tenantId = tenantId := by
  rw [getRequisition, require_eq_ok, Option.filter_eq_some_iff] at ok
  exact ⟨ok.1, Table.key_of_find? ok.1, by simpa using ok.2⟩

theorem transitionRequisition_ok {db db' : Db} {tenantId id : Uuid} {next : PurchaseRequisitionStatus}
    {mutator : PurchaseRequisition → PurchaseRequisition}
    (ok : transitionRequisition db tenantId id next mutator = .ok db') :
    ∃ req, db.requisitions.find? id = some req ∧ req.id = id ∧ req.tenantId = tenantId ∧
      next ∈ req.status.TRANSITIONS ∧
      db'.requisitions = db.requisitions.save (mutator { req with status := next }) := by
  simp only [transitionRequisition, bind_eq_ok, ensure_eq_ok, pure_eq_ok] at ok
  obtain ⟨req, got, -, can, rfl⟩ := ok
  obtain ⟨found, same, tenant⟩ := getRequisition_ok got
  exact ⟨req, found, same, tenant, by simpa [canPurchaseRequisitionTransition] using can, rfl⟩

theorem Orderly.save {s : Session} (orderly : Orderly s) {op : Op} {db : Db} {r : PurchaseRequisition}
    (saved : db.requisitions = s.db.requisitions.save r) (own : r.id = op.requisition)
    (explained : Explained (s.history r.id ++ [op]) r) : Orderly ⟨db, s.log ++ [op]⟩ := by
  have history (id : Uuid) : Session.history ⟨db, s.log ++ [op]⟩ id =
      s.history id ++ if op.requisition = id then [op] else [] := by
    simp [Session.history, List.filter_append, List.filter_singleton]
  constructor
  · intro id r' found
    rw [saved, Table.find?_save] at found
    rw [history]
    split_ifs at found with here
    · obtain rfl := Option.some_inj.mp found
      rw [if_pos (own.symm.trans here), ← here]
      exact explained
    · rw [if_neg (fun eq => here (own.trans eq)), List.append_nil]
      exact orderly.explained id r' found
  · intro id absent
    rw [saved, Table.find?_save] at absent
    split_ifs at absent with here
    rw [history, if_neg (fun eq => here (own.trans eq)), List.append_nil]
    exact orderly.unborn id absent

theorem Orderly.created {s : Session} (orderly : Orderly s) {tenantId id : Uuid} {year : ℕ}
    {dto : CreatePurchaseRequisitionDto} {db : Db} (ok : createRequisition s.db tenantId id year dto = .ok db)
    (covered : dto.Covered) : Orderly ⟨db, s.log ++ [.createRequisition tenantId id year dto]⟩ := by
  simp only [createRequisition, bind_eq_ok, ensure_eq_ok, pure_eq_ok] at ok
  obtain ⟨-, fresh, -, -, total, column, lines, stored, rfl⟩ := ok
  refine orderly.save rfl rfl ⟨year, dto, bigintColumn_ok column, ⟨worth_stored stored, covered⟩, ?_⟩
  rw [orderly.unborn id fresh]
  exact ⟨rfl, rfl⟩

theorem Orderly.submitted {s : Session} (orderly : Orderly s) {tenantId id : Uuid} {db : Db}
    (ok : submitRequisition s.db tenantId id = .ok db) :
    Orderly ⟨db, s.log ++ [.submitRequisition tenantId id]⟩ := by
  obtain ⟨req, found, rfl, rfl, can, saved⟩ := transitionRequisition_ok ok
  have draft : req.status = .draft := by
    cases status : req.status <;> simp [status, PurchaseRequisitionStatus.TRANSITIONS] at can ⊢
  obtain ⟨year, dto, total, lines, state⟩ := orderly.explained req.id req found
  simp only [draft] at state
  obtain ⟨history, chain⟩ := state
  by_cases empty : req.approverChain = []
  · simp only [empty, ↓reduceIte] at saved
    refine orderly.save saved rfl ⟨year, dto, total, lines, [], ?_, ?_, ?_⟩
    · rw [← chain, empty]
      rfl
    · rw [stamp_nil, ← chain, empty]
    · rw [history]
      rfl
  · simp only [empty, ↓reduceIte] at saved
    refine orderly.save saved rfl ⟨year, dto, total, lines, [], ?_, ?_, ?_⟩
    · rw [← chain]
      exact List.length_pos_iff.mpr empty
    · rw [stamp_nil, ← chain]
    · rw [history]
      rfl

theorem Orderly.approved {s : Session} (orderly : Orderly s) {tenantId id : Uuid}
    {approval : ApprovePurchaseRequisitionDto} {now : ℕ} {db : Db}
    (ok : approveRequisition s.db tenantId id approval now = .ok db) :
    Orderly ⟨db, s.log ++ [.approveRequisition tenantId id approval now]⟩ := by
  simp only [approveRequisition, bind_eq_ok, ensure_eq_ok] at ok
  obtain ⟨req, got, -, status, -, pendingStep, stored⟩ := ok
  obtain ⟨found, rfl, rfl⟩ := getRequisition_ok got
  obtain ⟨year, dto, total, lines, state⟩ := orderly.explained req.id req found
  have pending := pending_buildApprovalChain dto.totalEstimateCents
  obtain ⟨a, rfl, rfl⟩ : ∃ a : Approval, a.dto = approval ∧ a.now = now := ⟨⟨approval, now⟩, rfl, rfl⟩
  rcases status with submitted | approved
  · simp only [submitted] at state
    obtain ⟨as, more, chain, history⟩ := state
    have stamped := changeNext_stamp pending more a
    have history' : s.history req.id ++ [.approveRequisition req.tenantId req.id a.dto a.now] =
        .createRequisition req.tenantId req.id year dto :: .submitRequisition req.tenantId req.id ::
          (as ++ [a]).map (Op.approve req) := by
      rw [history, List.map_append]
      rfl
    rw [chain, stamped] at stored
    split_ifs at stored with complete
    · -- The last step of the chain.
      simp only [bind_eq_ok, pure_eq_ok] at stored
      obtain ⟨-, -, rfl⟩ := stored
      have enough := ((isApprovalChainComplete_stamp pending _).mp complete).2
      refine orderly.save rfl rfl ⟨year, dto, total, lines, as ++ [a], ?_, rfl, history'⟩
      simp only [List.length_append, List.length_singleton] at enough ⊢
      omega
    · rw [pure_eq_ok] at stored
      subst stored
      have some' : buildApprovalChain dto.totalEstimateCents ≠ [] := List.length_pos_iff.mp (by omega)
      have less : (as ++ [a]).length < (buildApprovalChain dto.totalEstimateCents).length := by
        by_contra enough
        exact complete ((isApprovalChainComplete_stamp pending _).mpr ⟨some', not_lt.mp enough⟩)
      refine orderly.save rfl rfl ⟨year, dto, total, lines, ?_⟩
      simp only [submitted]
      exact ⟨as ++ [a], less, rfl, history'⟩
  · -- Nothing is pending once the requisition is approved.
    simp only [approved] at state
    obtain ⟨as, enough, chain, -⟩ := state
    rw [chain, nextPendingApprovalRole_stamp pending] at pendingStep
    omega

theorem Orderly.converted {s : Session} (orderly : Orderly s) {tenantId id poId : Uuid} {year : ℕ}
    {conversion : ConvertPurchaseRequisitionDto} {db : Db}
    (ok : convertRequisitionToPo s.db tenantId id poId year conversion = .ok db) :
    Orderly ⟨db, s.log ++ [.convertRequisitionToPo tenantId id poId year conversion]⟩ := by
  simp only [convertRequisitionToPo, convertibleRequisition, saveConvertedRequisition, savePurchaseOrder,
    bind_eq_ok, ensure_eq_ok, pure_eq_ok] at ok
  obtain ⟨req, ⟨_, got, -, approved, -, -, rfl⟩, _, ⟨-, -, -, -, _, -, _, -, _, -, _, -, rfl⟩, -, -, rfl⟩ := ok
  obtain ⟨found, rfl, rfl⟩ := getRequisition_ok got
  obtain ⟨year', dto, total, lines, state⟩ := orderly.explained _ _ found
  simp only [approved] at state
  obtain ⟨as, enough, chain, history⟩ := state
  refine orderly.save rfl rfl ⟨year', dto, total, lines, as, enough, chain, poId, year, conversion, ?_⟩
  rw [history]
  rfl

theorem Orderly.closed {s : Session} (orderly : Orderly s) {tenantId id : Uuid} {db : Db} {op : Op}
    {status : PurchaseRequisitionStatus} {mutator : PurchaseRequisition → PurchaseRequisition}
    (ok : transitionRequisition s.db tenantId id status mutator = .ok db) (own : op.requisition = id)
    (terminal : status = .rejected ∨ status = .cancelled)
    (same : ∀ r, (mutator r).id = r.id ∧ (mutator r).status = r.status ∧
      (mutator r).totalEstimateCents = r.totalEstimateCents ∧ (mutator r).lines = r.lines) : Orderly ⟨db, s.log ++ [op]⟩ := by
  obtain ⟨req, found, rfl, rfl, -, saved⟩ := transitionRequisition_ok ok
  obtain ⟨year, dto, total, lines, -⟩ := orderly.explained req.id req found
  obtain ⟨id', status', total', lines'⟩ := same { req with status }
  refine orderly.save saved (id'.trans own.symm) ⟨year, dto, total.trans (by rw [total']), by rwa [lines'], ?_⟩
  rcases terminal with rfl | rfl <;> simp [status']

theorem next_orderly {s : Session} {op : Op} (orderly : Orderly s) (covered : op.Covered) : Orderly (next s op) := by
  unfold next
  cases result : perform s.db op with
  | error => exact orderly
  | ok db =>
      cases op with
      | createRequisition tenantId id year dto => exact orderly.created result covered
      | submitRequisition tenantId id => exact orderly.submitted result
      | approveRequisition tenantId id dto now => exact orderly.approved result
      | rejectRequisition tenantId id dto now =>
          simp only [perform, rejectRequisition] at result
          exact orderly.closed result rfl (.inl rfl) fun _ => ⟨rfl, rfl, rfl, rfl⟩
      | cancelRequisition tenantId id =>
          simp only [perform, cancelRequisition] at result
          exact orderly.closed result rfl (.inr rfl) fun _ => ⟨rfl, rfl, rfl, rfl⟩
      | convertRequisitionToPo tenantId id poId year dto => exact orderly.converted result

namespace Samples

def valves : CreatePurchaseRequisitionDto := ⟨[⟨7, ⟨"2", by decide⟩, some 30000⟩], by simp⟩

/-- Six hundred euros, so the manager decides. -/
def ops : List Op :=
  [.createRequisition 1 4 2026 valves, .convertRequisitionToPo 1 4 9 2026 ⟨5⟩, .submitRequisition 1 4,
    .approveRequisition 1 4 ⟨6, none⟩ 100, .rejectRequisition 1 4 ⟨6, "troppo"⟩ 101,
    .convertRequisitionToPo 1 4 9 2026 ⟨5⟩]

def nothing : Db := ⟨∅, ∅, ∅, ∅⟩

def bought : PurchaseRequisition where
  id := 4
  tenantId := 1
  requisitionNumber := "PR-2026-00001"
  status := .converted
  approverChain := [⟨some 6, .manager, .approved, some 100, none, none⟩]
  totalEstimateCents := 60000
  convertedToPurchaseOrderId := some 9
  lines := [⟨7, ⟨20000, by decide⟩, 30000⟩]

end Samples

end SmartErp.Procurement.Sourcing
