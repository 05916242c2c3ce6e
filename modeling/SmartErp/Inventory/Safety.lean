import SmartErp.Inventory.Levels

/-!
# Reserved stock stays on hand

`reserveStock` promises no more than what is on hand and not yet promised. The movements and the bills
of materials look at the stock on hand alone, so they can take away what a reservation counts on.
-/

namespace SmartErp.Inventory
open Foundations

def Db.Safe (db : Db) : Prop := ∀ k, (db.level k).Safe

theorem Posted.safe {db db' : Db} {k : StockKey} {h : Holding} {ms : List StockMovement}
    (posted : Posted db db' k h ms) (safe : db.Safe) (moved : h.Safe) : db'.Safe := by
  intro k'
  rw [posted.level, Function.update_apply]
  split
  · exact moved
  · exact safe k'

/-! ## Reservations and shipments -/

theorem reserveLine_safe {db db' : Db} {tenantId : Uuid} {r : ReservationRequest}
    (nonneg : 0 ≤ r.quantity) (safe : db.Safe) (ok : reserveLine tenantId db r = .ok db') : db'.Safe := by
  obtain ⟨available, _, h, posted, holds⟩ := reserveLine_posted ok
  apply posted.safe safe
  exact (safe _).holds (db.level_stored _) holds nonneg (available.trans (by norm_num))

theorem releaseLine_safe {db db' : Db} {tenantId : Uuid} {r : ReservationRequest}
    (nonneg : 0 ≤ r.quantity) (safe : db.Safe) (ok : releaseLine tenantId db r = .ok db') : db'.Safe := by
  rcases releaseLine_posted ok with ⟨-, rfl⟩ | ⟨_, h, posted, releases⟩
  · exact safe
  · exact posted.safe safe ((safe _).releases (db.level_stored _) releases nonneg)

theorem shipLine_safe {db db' : Db} {tenantId : Uuid} {r : ReservationRequest}
    (safe : db.Safe) (ok : shipLine tenantId db r = .ok db') : db'.Safe := by
  obtain ⟨enough, _, h, posted, -, fulfils⟩ := shipLine_posted ok
  apply posted.safe safe
  exact (safe _).fulfils (db.level_stored _) fulfils (enough.trans (by norm_num))

/-! ## Movements -/

theorem adjustStock_deposit_safe {db db' : Db} {tenantId productId warehouseId : Uuid} {q : ℚ}
    (counts : Counts 12 2 (JsNumber.finite q).double q) (nonneg : 0 ≤ q) (safe : db.Safe)
    (ok : adjustStock db tenantId productId warehouseId q = .ok db') : db'.Safe := by
  obtain ⟨-, h, posted, receives⟩ := adjustStock_receives counts ok
  apply posted.safe safe
  apply (safe _).receives (db.level_stored _) receives
  linarith [(safe (tenantId, productId, warehouseId)).covered]

/-- A quantity with the decimals of the column is taken whole or refused. -/
theorem adjustStock_enough {db db' : Db} {tenantId productId warehouseId : Uuid} {q : ℚ}
    (counts : Counts 12 2 (JsNumber.finite (-q)).double (-q)) (whole : Exact 2 q)
    (ok : adjustStock db tenantId productId warehouseId (-q) = .ok db') :
    q ≤ db.onHand (tenantId, productId, warehouseId) := by
  obtain ⟨enough, -⟩ := adjustStock_receives counts ok
  exact le_of_exact whole (db.exact_onHand _) (by linarith)

theorem adjustStock_withdraw_safe {db db' : Db} {tenantId productId warehouseId : Uuid} {q : ℚ}
    (counts : Counts 12 2 (JsNumber.finite (-q)).double (-q))
    (spared : (Exact 2 q → q ≤ db.onHand (tenantId, productId, warehouseId)) →
      roundUp 2 q ≤ db.onHand (tenantId, productId, warehouseId) -
        db.reserved (tenantId, productId, warehouseId))
    (safe : db.Safe) (ok : adjustStock db tenantId productId warehouseId (-q) = .ok db') :
    db'.Safe := by
  obtain ⟨-, h, posted, receives⟩ := adjustStock_receives counts ok
  have free := spared fun whole => adjustStock_enough counts whole ok
  apply posted.safe safe
  refine ⟨(safe _).nonneg.trans_eq receives.reserved.symm, receives.reserved.trans_le ?_⟩
  exact (le_sub_comm.mp free).trans (receives.ge (db.level_stored _))

theorem adjustStock_back_safe {db mid db' : Db} {tenantId productId warehouseId : Uuid} {q : ℚ}
    (out : Counts 12 2 (JsNumber.finite (-q)).double (-q)) (into : Counts 12 2 (JsNumber.finite q).double q)
    (whole : Exact 2 q) (safe : db.Safe)
    (taken : adjustStock db tenantId productId warehouseId (-q) = .ok mid)
    (back : adjustStock mid tenantId productId warehouseId q = .ok db') : db'.Safe := by
  obtain ⟨-, h, posted, receives⟩ := adjustStock_receives out taken
  obtain ⟨-, h', posted', receives'⟩ := adjustStock_receives into back
  have onHand := receives'.eq (mid.level_stored _) whole
  have onHand' := receives.eq (db.level_stored _) whole.neg
  have reserved := receives'.reserved
  rw [posted.level, Function.update_self] at onHand reserved
  rw [onHand', neg_add_cancel_right] at onHand
  rw [receives.reserved] at reserved
  intro k
  rw [posted'.level, posted.level, Function.update_idem, Function.update_apply]
  split
  · refine ⟨(safe _).nonneg.trans_eq reserved.symm, ?_⟩
    rw [reserved, onHand]
    exact (safe _).covered
  · exact safe k

def StockMovementRequest.withdrawsFrom (dto : StockMovementRequest) : Option Uuid :=
  match dto.movementType with
  | .outbound | .productionConsumption | .scrap => dto.sourceWarehouseId
  | .transfer =>
      if dto.sourceWarehouseId = dto.destinationWarehouseId ∧ Exact 2 dto.quantity then none
      else dto.destinationWarehouseId.bind fun _ => dto.sourceWarehouseId
  | _ => none

theorem StockMovementRequest.adjustments_cases (dto : StockMovementRequest) :
    dto.adjustments = [] ∨ (∃ w, dto.adjustments = [(w, dto.quantity)]) ∨
      (∃ w, Exact 2 dto.quantity ∧ dto.adjustments = [(w, -dto.quantity), (w, dto.quantity)]) ∨
      ∃ source ∈ dto.withdrawsFrom, dto.adjustments = [(source, -dto.quantity)] ∨
        ∃ w, dto.adjustments = [(source, -dto.quantity), (w, dto.quantity)] := by
  unfold adjustments withdrawsFrom
  cases dto.movementType with
  | inbound | productionOutput | «return» | adjustment => cases dto.destinationWarehouseId <;> simp
  | outbound | productionConsumption | scrap => cases dto.sourceWarehouseId <;> simp
  | transfer =>
      cases dto.sourceWarehouseId with
      | none => simp
      | some source =>
          cases dto.destinationWarehouseId with
          | none => simp
          | some destination =>
              by_cases back : source = destination ∧ Exact 2 dto.quantity
              · obtain ⟨rfl, whole⟩ := back
                exact .inr (.inr (.inl ⟨source, whole, rfl⟩))
              · exact .inr (.inr (.inr ⟨source, by simp [back], .inr ⟨destination, rfl⟩⟩))

theorem recordStockMovement_safe {db db' : Db} {tenantId : Uuid} {dto : StockMovementRequest}
    (nonneg : 0 ≤ dto.quantity)
    (spared : ∀ source ∈ dto.withdrawsFrom,
      (Exact 2 dto.quantity → dto.quantity ≤ db.onHand (tenantId, dto.productId, source)) →
        roundUp 2 dto.quantity ≤ db.onHand (tenantId, dto.productId, source) -
          db.reserved (tenantId, dto.productId, source))
    (safe : db.Safe) (ok : recordStockMovement db tenantId dto = .ok db') : db'.Safe := by
  obtain ⟨product, quantity, -, -, stored, applied⟩ := recordStockMovement_ok ok
  have counts := StockMovementRequest.adjustments_counts (StockMovementRequest.counts stored).1
  -- The record is appended first; it moves no level.
  let recorded := { db with
    stockMovements := db.stockMovements ++ [dto.movement tenantId quantity (some product.unitCost)] }
  have safe : recorded.Safe := safe
  rcases dto.adjustments_cases with none | ⟨w, into⟩ | ⟨w, whole, back⟩ | ⟨source, out, only | ⟨w, both⟩⟩
  · rw [none, foldlM_nil_ok] at applied
    exact applied ▸ safe
  · rw [into, foldlM_cons_ok] at applied
    obtain ⟨mid, deposited, rest⟩ := applied
    rw [← foldlM_nil_ok.mp rest]
    exact adjustStock_deposit_safe (counts (w, _) (by simp [into])) nonneg safe deposited
  · simp only [back, foldlM_cons_ok, foldlM_nil_ok] at applied
    obtain ⟨mid, withdrawn, _, deposited, rfl⟩ := applied
    exact adjustStock_back_safe (counts (w, _) (by simp [back])) (counts (w, _) (by simp [back])) whole safe
      withdrawn deposited
  · rw [only, foldlM_cons_ok] at applied
    obtain ⟨mid, withdrawn, rest⟩ := applied
    rw [← foldlM_nil_ok.mp rest]
    refine adjustStock_withdraw_safe (counts (source, _) (by simp [only])) ?_ safe withdrawn
    exact spared source out
  · simp only [both, foldlM_cons_ok, foldlM_nil_ok] at applied
    obtain ⟨mid, withdrawn, _, deposited, rfl⟩ := applied
    refine adjustStock_deposit_safe (counts (w, _) (by simp [both])) nonneg ?_ deposited
    refine adjustStock_withdraw_safe (counts (source, _) (by simp [both])) ?_ safe withdrawn
    exact spared source out

/-! ## Bills of materials -/

theorem consumeLine_least {db db' : Db} {tenantId defaultWarehouseId : Uuid} {reference : String}
    {line : BomLine} (ok : consumeLine tenantId defaultWarehouseId reference db line = .ok db')
    (k : StockKey) :
    db.onHand k - demand k [(line.key tenantId defaultWarehouseId, roundUp 2 line.quantityRequired)] ≤ db'.onHand k ∧
      db'.reserved k = db.reserved k := by
  obtain ⟨-, _, h, posted, -, receives⟩ := consumeLine_posted (JsNumber.means_double _) ok
  rw [posted.onHand, posted.reserved, Function.update_apply, Function.update_apply]
  by_cases here : k = line.key tenantId defaultWarehouseId
  · subst here
    simp only [↓reduceIte, demand_cons, demand_nil, add_zero]
    exact ⟨receives.ge (db.level_stored _), receives.reserved⟩
  · simp [here, Ne.symm here]

theorem consumeLines_least {tenantId defaultWarehouseId : Uuid} {reference : String}
    {lines : List BomLine} {db db' : Db}
    (ok : lines.foldlM (consumeLine tenantId defaultWarehouseId reference) db = .ok db') (k : StockKey) :
    db.onHand k - demand k (lines.map fun l => (l.key tenantId defaultWarehouseId, roundUp 2 l.quantityRequired)) ≤
        db'.onHand k ∧ db'.reserved k = db.reserved k := by
  induction lines generalizing db with
  | nil =>
      cases foldlM_nil_ok.mp ok
      simp
  | cons line lines ih =>
      obtain ⟨mid, first, rest⟩ := foldlM_cons_ok.mp ok
      obtain ⟨onHand, reserved⟩ := consumeLine_least first k
      obtain ⟨onHand', reserved'⟩ := ih rest
      refine ⟨?_, reserved'.trans reserved⟩
      rw [demand_cons, demand_nil] at onHand
      rw [List.map_cons, demand_cons]
      linarith

theorem consumeLine_takes {db db' : Db} {tenantId defaultWarehouseId : Uuid} {reference : String}
    {line : BomLine} {q : ℚ} (means : line.number.Means q) (whole : Exact 2 q)
    (ok : consumeLine tenantId defaultWarehouseId reference db line = .ok db') (k : StockKey) :
    db'.onHand k = db.onHand k - demand k [(line.key tenantId defaultWarehouseId, q)] ∧
      (0 ≤ db.onHand k → 0 ≤ db'.onHand k) := by
  obtain ⟨enough, _, h, posted, -, receives⟩ := consumeLine_posted means ok
  have left := receives.eq (db.level_stored _) whole.neg
  have covers := le_of_exact whole (db.exact_onHand _) (enough.trans_lt (by norm_num))
  rw [posted.onHand, Function.update_apply]
  by_cases here : k = line.key tenantId defaultWarehouseId
  · subst here
    simp only [↓reduceIte, demand_cons, demand_nil, add_zero, left, ← sub_eq_add_neg]
    exact ⟨rfl, fun _ => sub_nonneg.mpr covers⟩
  · simp [here, Ne.symm here]

theorem consumeLines_take {α : Type} {line : α → BomLine} {q : α → ℚ} {tenantId defaultWarehouseId : Uuid}
    {reference : String} {as : List α} {db db' : Db} (means : ∀ a ∈ as, (line a).number.Means (q a))
    (whole : ∀ a ∈ as, Exact 2 (q a))
    (ok : (as.map line).foldlM (consumeLine tenantId defaultWarehouseId reference) db = .ok db') (k : StockKey) :
    db'.onHand k = db.onHand k - demand k (as.map fun a => ((line a).key tenantId defaultWarehouseId, q a)) ∧
      (0 ≤ db.onHand k → 0 ≤ db'.onHand k) := by
  induction as generalizing db with
  | nil =>
      cases foldlM_nil_ok.mp ok
      simp
  | cons a as ih =>
      rw [List.forall_mem_cons] at means whole
      obtain ⟨mid, first, rest⟩ := foldlM_cons_ok.mp ok
      obtain ⟨onHand, nonneg⟩ := consumeLine_takes means.1 whole.1 first k
      obtain ⟨onHand', nonneg'⟩ := ih means.2 whole.2 rest
      refine ⟨?_, fun start => nonneg' (nonneg start)⟩
      rw [onHand', onHand, List.map_cons, demand_cons, demand_cons, demand_nil]
      ring

def BomLine.withdrawal (tenantId defaultWarehouseId : Uuid) (line : BomLine) : StockKey × ℚ :=
  (line.key tenantId defaultWarehouseId, line.quantityRequired)

theorem consumeLines_safe {tenantId defaultWarehouseId : Uuid} {reference : String}
    {lines : List BomLine} {db db' : Db}
    (spared : ∀ k, ((∀ l ∈ lines, Exact 2 l.quantityRequired) →
        demand k (lines.map (·.withdrawal tenantId defaultWarehouseId)) ≤ db.onHand k) →
      demand k (lines.map fun l => (l.key tenantId defaultWarehouseId, roundUp 2 l.quantityRequired)) ≤
        db.onHand k - db.reserved k)
    (safe : db.Safe)
    (ok : lines.foldlM (consumeLine tenantId defaultWarehouseId reference) db = .ok db') :
    db'.Safe := by
  intro k
  obtain ⟨least, reserved⟩ := consumeLines_least ok k
  have free := spared k fun whole => by
    have single : (lines.map id).foldlM (consumeLine tenantId defaultWarehouseId reference) db = .ok db' := by
      rwa [List.map_id]
    obtain ⟨onHand, nonneg⟩ := @consumeLines_take BomLine id (·.quantityRequired) _ _ _ _ _ _
      (fun l _ => JsNumber.means_double l.quantityRequired) whole single k
    have left := nonneg ((safe k).nonneg.trans (safe k).covered)
    rw [onHand] at left
    exact sub_nonneg.mp left
  constructor
  · show 0 ≤ db'.reserved k
    rw [reserved]
    exact (safe k).nonneg
  · show db'.reserved k ≤ db'.onHand k
    rw [reserved]
    exact (le_sub_comm.mp free).trans least

/-! ## Runs -/

def Op.NonNegative : Op → Prop
  | .recordStockMovement _ dto => 0 ≤ dto.quantity
  | .reserveStock _ requests | .releaseReservation _ requests | .shipReservation _ requests =>
      ∀ r ∈ requests, 0 ≤ r.quantity
  | .consumeBomForProductionOrder _ opts => ∀ line ∈ opts.bom, 0 ≤ line.quantityRequired

instance (op : Op) : Decidable op.NonNegative :=
  match op with
  | .recordStockMovement _ dto => inferInstanceAs (Decidable (0 ≤ dto.quantity))
  | .reserveStock _ requests | .releaseReservation _ requests | .shipReservation _ requests =>
      inferInstanceAs (Decidable (∀ r ∈ requests, 0 ≤ r.quantity))
  | .consumeBomForProductionOrder _ opts =>
      inferInstanceAs (Decidable (∀ line ∈ opts.bom, 0 ≤ line.quantityRequired))

/-- What an operation takes from stock other than by shipping a reservation. -/
def Op.withdrawals (precedes : String → String → Bool) (db : Db) : Op → List (StockKey × ℚ)
  | .recordStockMovement tenantId dto =>
      (dto.withdrawsFrom.map fun source => ((tenantId, dto.productId, source), dto.quantity)).toList
  | .consumeBomForProductionOrder tenantId opts =>
      match bomWarehouse precedes db tenantId opts with
      | some warehouse => opts.bom.map (·.withdrawal tenantId warehouse)
      | none => []
  | _ => []

/-- What is withdrawn, each quantity rounded up to the column, is not reserved there. Quantities that have no
more decimals than the column are refused anyway where they are more than is on hand. -/
def Op.Spares (precedes : String → String → Bool) (db : Db) (op : Op) : Prop :=
  ∀ w ∈ op.withdrawals precedes db,
    ((∀ e ∈ op.withdrawals precedes db, Exact 2 e.2) → demand w.1 (op.withdrawals precedes db) ≤ db.onHand w.1) →
      demand w.1 ((op.withdrawals precedes db).map fun e => (e.1, roundUp 2 e.2)) ≤ db.onHand w.1 - db.reserved w.1

instance (precedes : String → String → Bool) (db : Db) (op : Op) :
    Decidable (op.Spares precedes db) := by
  unfold Op.Spares
  infer_instance

variable {precedes : String → String → Bool}

theorem perform_safe {db db' : Db} {op : Op} (nonneg : op.NonNegative) (spares : op.Spares precedes db)
    (safe : db.Safe) (ok : perform precedes db op = .ok db') : db'.Safe := by
  cases op with
  | recordStockMovement tenantId dto =>
      apply recordStockMovement_safe nonneg _ safe ok
      intro source out
      have spared := spares ((tenantId, dto.productId, source), dto.quantity)
      simpa [Op.withdrawals, Option.mem_def.mp out] using spared
  | reserveStock tenantId requests =>
      exact foldlM_keeps Db.Safe (fun _ r _ mem => reserveLine_safe (nonneg r mem)) safe ok
  | releaseReservation tenantId requests =>
      exact foldlM_keeps Db.Safe (fun _ r _ mem => releaseLine_safe (nonneg r mem)) safe ok
  | shipReservation tenantId requests =>
      exact foldlM_keeps Db.Safe (fun _ _ _ _ => shipLine_safe) safe ok
  | consumeBomForProductionOrder tenantId opts =>
      obtain ⟨warehouse, chosen, consumed⟩ := bind_eq_ok.mp ok
      rw [require_eq_ok] at chosen
      apply consumeLines_safe _ safe consumed
      simp only [Op.Spares, Op.withdrawals, chosen, List.forall_mem_map, List.map_map] at spares
      intro k onHand
      by_cases asked : ∃ l ∈ opts.bom, l.key tenantId warehouse = k
      · obtain ⟨l, mem, rfl⟩ := asked
        exact spares l mem onHand
      · rw [demand_eq_zero]
        · exact sub_nonneg.mpr (safe k).covered
        · simp only [List.forall_mem_map]
          exact fun l mem eq => asked ⟨l, mem, eq⟩

/-! ## Shipping what is reserved -/

theorem shipLine_error {db : Db} {tenantId : Uuid} {r : ReservationRequest} {onHand requested : JsNumber}
    (fails : shipLine tenantId db r = .error (insufficientToShip onHand requested)) :
    db.onHand (r.key tenantId) < r.quantity := by
  simp only [shipLine, Db.saveStockLevel, Db.saveMovement, bind_eq_error, require_eq_error,
    ensure_eq_error, require_eq_ok, insufficientToShip] at fails
  rcases fails with ⟨-, other⟩ | ⟨stock, found, ⟨short, -⟩ | ⟨-, -, rest⟩⟩
  · have start := congrArg (·.toList.head?) (Failure.badRequest.inj other)
    simp only [String.toList_append, List.head?_append] at start
    change some 'C' = some 'I' at start
    simp at start
  · rw [Db.onHand_of_find? found]
    by_contra enough
    exact short (JsNumber.not_lt_double (not_lt.mp enough))
  · have column {n : JsNumber} : ¬ numericParam 12 2 n = .error (insufficientToShip onHand requested) := by
      intro fails
      obtain ⟨message, other⟩ := numericParam_error fails
      cases other
    simp_all [pure, Except.pure, insufficientToShip]

def ReservationRequest.claim (tenantId : Uuid) (r : ReservationRequest) : StockKey × ℚ :=
  (r.key tenantId, roundUp 2 r.quantity)

theorem shipLine_reserved {db db' : Db} {tenantId : Uuid} {r : ReservationRequest}
    (ok : shipLine tenantId db r = .ok db') (k : StockKey) :
    db.reserved k - demand k [r.claim tenantId] ≤ db'.reserved k := by
  obtain ⟨-, _, h, posted, -, fulfils⟩ := shipLine_posted ok
  rw [posted.reserved, Function.update_apply]
  by_cases here : k = r.key tenantId
  · subst here
    have asked : demand (r.key tenantId) [r.claim tenantId] = roundUp 2 r.quantity := by
      simp [ReservationRequest.claim]
    rw [asked, if_pos rfl]
    exact fulfils.reserved.ge (db.exact_reserved _)
  · have other : demand k [r.claim tenantId] = 0 := by
      simp [ReservationRequest.claim, Ne.symm here]
    rw [other, if_neg here, sub_zero]

theorem shipReservation_covered {db : Db} (safe : db.Safe) {tenantId : Uuid}
    {requests : List ReservationRequest} (nonneg : ∀ r ∈ requests, 0 ≤ r.quantity)
    (reserved : ∀ k, demand k (requests.map (·.claim tenantId)) ≤ db.reserved k) (onHand requested : JsNumber) :
    shipReservation db tenantId requests ≠ .error (insufficientToShip onHand requested) := by
  have claimed {rs : List ReservationRequest} (nonneg : ∀ r ∈ rs, 0 ≤ r.quantity) (k : StockKey) :
      0 ≤ demand k (rs.map (·.claim tenantId)) := by
    apply demand_nonneg
    intro e mem
    obtain ⟨r, hr, rfl⟩ := List.mem_map.mp mem
    exact (nonneg r hr).trans (le_roundUp 2 _)
  -- Before each line, what is left to ship is still reserved.
  apply foldlM_ne_error fun rest u => u.Safe ∧ (∀ r ∈ rest, 0 ≤ r.quantity) ∧
    ∀ k, demand k (rest.map (·.claim tenantId)) ≤ u.reserved k
  · rintro r rest u ⟨safe, nonneg, reserved⟩ fails
    have others := claimed (fun r' mem => nonneg r' (List.mem_cons_of_mem _ mem)) (r.key tenantId)
    have asked := reserved (r.key tenantId)
    rw [List.map_cons, demand_cons, ReservationRequest.claim, if_pos rfl] at asked
    have enough : roundUp 2 r.quantity ≤ u.onHand (r.key tenantId) :=
      (le_add_of_nonneg_right others).trans (asked.trans (safe _).covered)
    exact absurd (shipLine_error fails) (not_lt.mpr ((le_roundUp 2 _).trans enough))
  · rintro r rest u v ⟨safe, nonneg, reserved⟩ ok
    refine ⟨shipLine_safe safe ok, fun r' mem => nonneg r' (List.mem_cons_of_mem _ mem), fun k => ?_⟩
    have left := shipLine_reserved ok k
    have asked := reserved k
    rw [List.map_cons, demand_cons] at asked
    rw [demand_cons, demand_nil, add_zero] at left
    linarith
  · exact ⟨safe, nonneg, reserved⟩

/-! ## Every reachable state -/

theorem next_safe {db : Db} {op : Op} (safe : db.Safe) (nonneg : op.NonNegative)
    (spares : op.Spares precedes db) : (next precedes db op).Safe :=
  settle_keeps safe fun _ => perform_safe nonneg spares safe

theorem Db.Safe.row {db : Db} (safe : db.Safe) {row : StockLevel} (mem : row ∈ db.stockLevels.rows) :
    0 ≤ row.quantityReserved.val ∧ row.quantityReserved.val ≤ row.quantityOnHand.val := by
  have found := Table.find?_of_mem mem
  rw [← Db.onHand_of_find? found, ← Db.reserved_of_find? found]
  exact ⟨(safe row.key).nonneg, (safe row.key).covered⟩

theorem run_safe {db t : Db} {ops : List Op} (empty : db.stockLevels = ∅)
    (run : Run (fun u op => op.NonNegative ∧ op.Spares precedes u) (next precedes) db ops t) :
    t.Safe := by
  apply run.invariant Db.Safe
  · intro k
    simp only [Db.level, Db.onHand, Db.reserved, empty, Table.find?_empty]
    exact ⟨le_rfl, le_rfl⟩
  · rintro u op safe ⟨nonneg, spares⟩
    exact next_safe safe nonneg spares

/-- As long as no step withdraws reserved stock, every row keeps its reservations on hand, and no
shipment of quantities that are reserved is refused for want of stock. -/
theorem reservations_shippable {db t : Db} {ops : List Op} (empty : db.stockLevels = ∅)
    (run : Run (fun u op => op.NonNegative ∧ op.Spares precedes u) (next precedes) db ops t) :
    (∀ row ∈ t.stockLevels.rows,
      0 ≤ row.quantityReserved.val ∧ row.quantityReserved.val ≤ row.quantityOnHand.val) ∧
    ∀ tenantId requests, (∀ r ∈ requests, 0 ≤ r.quantity) →
      (∀ k, demand k (requests.map (·.claim tenantId)) ≤ t.reserved k) →
      ∀ onHand requested,
        shipReservation t tenantId requests ≠ .error (insufficientToShip onHand requested) := by
  have safe := run_safe empty run
  exact ⟨fun row mem => safe.row mem, fun _ _ => shipReservation_covered safe⟩

section
open Sample

theorem reservations_shippable_shop :
    let ops := [receipt 10, .reserveStock 1 [order 8], removal (3/8),
      .consumeBomForProductionOrder 1 ⟨"PO-1", [⟨7, 5/8, none⟩], none⟩, .shipReservation 1 [order 3]]
    let t := ops.foldl (next byCode) shop
    (t.level (1, 7, 3)).onHand = 601/100 ∧ (t.level (1, 7, 3)).reserved = 5 ∧
      ∀ onHand requested,
        shipReservation t 1 [order 5] ≠ .error (insufficientToShip onHand requested) := by
  intro ops t
  have run : Run (fun u op => op.NonNegative ∧ op.Spares byCode u) (next byCode) shop ops t :=
    .ofAllMet (by decide +kernel)
  have level : t.onHand (1, 7, 3) = 601/100 ∧ t.reserved (1, 7, 3) = 5 := by decide +kernel
  refine ⟨level.1, level.2, (reservations_shippable rfl run).2 1 [order 5] (by decide +kernel) ?_⟩
  intro k
  by_cases here : k = (1, 7, 3)
  · subst here
    decide +kernel
  · rw [demand_eq_zero]
    · exact (run_safe rfl run k).nonneg
    · simpa [ReservationRequest.claim, ReservationRequest.key, order] using Ne.symm here

/-- Eight of ten are promised, then five are booked out. -/
theorem outbound_takes_reserved :
    let ops := [receipt 10, .reserveStock 1 [order 8], removal 5]
    let t := ops.foldl (next byCode) shop
    shop.stockLevels = ∅ ∧ (∀ op ∈ ops, op.NonNegative) ∧
      ¬ (∀ row ∈ t.stockLevels.rows,
        0 ≤ row.quantityReserved.val ∧ row.quantityReserved.val ≤ row.quantityOnHand.val) ∧
      t.reserved (1, 7, 3) = 8 ∧
      failureOf (shipReservation t 1 [order 8]) = some (insufficientToShip (.finite 5) (.finite 8)) := by
  refine ⟨rfl, ?_, ?_, ?_, ?_⟩ <;> decide +kernel

end
end SmartErp.Inventory
