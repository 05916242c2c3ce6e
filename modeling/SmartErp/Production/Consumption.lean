import SmartErp.Production.Orders
import Mathlib.Data.Fintype.Basic
import Mathlib.Data.Fin.VecNotation

/-!
# Overlapping status updates

The materials of an order are gone once `consume` has committed, whatever becomes of the order's save. Nothing
is locked or read again in between.
-/

namespace SmartErp.Production
open Foundations Inventory

variable {κ : Type} [DecidableEq κ] {precedes : String → String → Bool}

def Update.pending : Update → Option Uuid
  | consumed order newStatus => if newStatus = .inProgress ∧ order.bom ≠ [] then some order.id else none
  | _ => none

def Update.plan : Update → Option Plan
  | read order _ | consumed order _ => some order.toPlan
  | _ => none

def Update.underway (call : Update) : Bool := call.plan.isSome

def ProductionOrderStatus.Past (status : ProductionOrderStatus) : Prop :=
  status = .inProgress ∨ status = .completed ∨ status = .cancelled

instance (status : ProductionOrderStatus) : Decidable status.Past :=
  inferInstanceAs (Decidable (_ ∨ _ ∨ _))

def Plan.Hundredths (p : Plan) : Prop := ∀ b ∈ p.bom, Exact 2 (b.quantityRequired * p.quantityPlanned.val)

instance (p : Plan) : Decidable p.Hundredths := inferInstanceAs (Decidable (∀ b ∈ p.bom, _))

/-- Of orders with a bill of materials: it is consumed in hundredths, only while the order's row is confirmed and
no other call has consumed it and not ended; the save after it does not fail; and no save writes the status of an
order not yet started over the status of one that is past that. -/
def Careful (precedes : String → String → Bool) (s : Pool κ Ledger Update) (move : κ × Step) : Prop :=
  match move.2, s.calls move.1 with
  | .consume, .read order newStatus =>
      newStatus = .inProgress → order.bom ≠ [] →
      failureOf (order.consume precedes s.shared.db.stock newStatus) = none →
        (s.shared.db.orders.find? order.id).map (·.status) = some .confirmed ∧
        (∀ j, (s.calls j).pending ≠ some order.id) ∧ order.Hundredths
  | .save _, .consumed order newStatus =>
      order.bom ≠ [] → ¬ newStatus.Past → ∀ row ∈ s.shared.db.orders.find? order.id, ¬ row.status.Past
  | .saveFails, .consumed order newStatus => newStatus = .inProgress → order.bom = []
  | _, _ => True

instance [Fintype κ] (s : Pool κ Ledger Update) (move : κ × Step) : Decidable (Careful precedes s move) := by
  unfold Careful
  split <;> infer_instance

def consumeOrder (precedes : String → String → Bool) (start : Db) (stock : Inventory.Db) (id : Uuid) :
    Except Failure Inventory.Db :=
  match start.orders.find? id with
  | some order => order.consume precedes stock .inProgress
  | none => .ok stock

/-- `quantityRequired * quantityPlanned` of each line of an order, by the place in the stock. -/
def required (precedes : String → String → Bool) (start : Db) (id : Uuid) : List (StockKey × ℚ) :=
  match start.orders.find? id with
  | some order => (firstActiveWarehouse precedes start.stock order.tenantId).elim [] fun w =>
      order.bom.map fun b => ((order.tenantId, b.materialId, w.id), b.quantityRequired * order.quantityPlanned.val)
  | none => []

/-! ## The account of the consumption -/

def Planned (start : Db) (p : Plan) : Prop := ∃ o, start.orders.find? p.id = some o ∧ o.toPlan = p

/-- The stock is the start's with each order of `log` consumed once; these are the orders with a bill of
materials that have been started or that a call has consumed for. -/
structure Accounted (precedes : String → String → Bool) (start : Db) (log : List Uuid) (s : Pool κ Ledger Update) :
    Prop where
  nodup : log.Nodup
  stock : log.foldlM (consumeOrder precedes start) start.stock = .ok s.shared.db.stock
  rows : ∀ id row, s.shared.db.orders.find? id = some row → Planned start row.toPlan
  plans : ∀ i p, (s.calls i).plan = some p → Planned start p
  logged : ∀ p, Planned start p → p.bom ≠ [] →
    (p.id ∈ log ↔ p.id ∈ s.shared.started ∨ ∃ i, (s.calls i).pending = some p.id)
  past : ∀ p, Planned start p → p.bom ≠ [] → p.id ∈ s.shared.started →
    ∃ row, s.shared.db.orders.find? p.id = some row ∧ row.status.Past
  known : ∀ id ∈ log, ∃ p, Planned start p ∧ p.id = id ∧ p.bom ≠ [] ∧ p.Hundredths

theorem Planned.unique {start : Db} {p q : Plan} (planned : Planned start p) (planned' : Planned start q)
    (same : p.id = q.id) : p = q := by
  obtain ⟨o, found, rfl⟩ := planned
  obtain ⟨o', found', rfl⟩ := planned'
  rw [same, found', Option.some_inj] at found
  rw [found]

variable {start : Db} {log : List Uuid} {s : Pool κ Ledger Update}

omit [DecidableEq κ] in
theorem accounted_start (request : κ → Uuid × Uuid × ProductionOrderStatus) :
    Accounted precedes start [] ⟨⟨start, []⟩, fun i => .called (request i).1 (request i).2.1 (request i).2.2⟩ where
  nodup := List.nodup_nil
  stock := rfl
  rows id row found := by
    have here : ProductionOrder.key row = id := Table.key_of_find? found
    subst here
    exact ⟨row, found, rfl⟩
  plans _ _ eq := by cases eq
  logged p _ _ := by simp [Update.pending]
  past _ _ _ mem := by cases mem
  known _ mem := by cases mem

theorem Accounted.relabel (acc : Accounted precedes start log s) {i : κ} {call : Update}
    (pending : call.pending = (s.calls i).pending) (plan : ∀ p, call.plan = some p → Planned start p) :
    Accounted precedes start log ⟨s.shared, Function.update s.calls i call⟩ where
  nodup := acc.nodup
  stock := acc.stock
  rows := acc.rows
  plans j p eq := by
    by_cases here : j = i
    · subst here
      simp only [Function.update_self] at eq
      exact plan p eq
    · simp only [Function.update_of_ne here] at eq
      exact acc.plans j p eq
  logged p planned bom := by
    have same : ∀ j, (Function.update s.calls i call j).pending = (s.calls j).pending := by
      intro j
      by_cases here : j = i
      · subst here
        rw [Function.update_self, pending]
      · rw [Function.update_of_ne here]
    simp only [same]
    exact acc.logged p planned bom
  past := acc.past
  known := acc.known

theorem loadOrder_ok {db : Db} {tenantId orderId : Uuid} {newStatus : ProductionOrderStatus} {order : ProductionOrder}
    (ok : loadOrder db tenantId orderId newStatus = .ok order) : db.orders.find? orderId = some order := by
  simp only [loadOrder, bind_eq_ok, require_eq_ok, ensure_eq_ok, pure_eq_ok, Option.filter_eq_some_iff] at ok
  obtain ⟨_, ⟨found, -⟩, _, -, rfl⟩ := ok
  exact found

theorem Accounted.load (acc : Accounted precedes start log s) {i : κ} {tenantId orderId : Uuid}
    {newStatus : ProductionOrderStatus} (called : s.calls i = .called tenantId orderId newStatus)
    {order : ProductionOrder} (ok : loadOrder s.shared.db tenantId orderId newStatus = .ok order) :
    Accounted precedes start log ⟨s.shared, Function.update s.calls i (.read order newStatus)⟩ := by
  apply acc.relabel
  · rw [called]
    rfl
  · rintro p ⟨⟩
    exact acc.rows orderId order (loadOrder_ok ok)

theorem Accounted.fail (acc : Accounted precedes start log s) {i : κ} {failure : Failure}
    (unconsumed : (s.calls i).pending = none) :
    Accounted precedes start log ⟨s.shared, Function.update s.calls i (.failed failure)⟩ := by
  apply acc.relabel
  · rw [unconsumed]
    rfl
  · intro p eq
    cases eq

theorem Accounted.consumeNothing (acc : Accounted precedes start log s) {i : κ} {order : ProductionOrder}
    {newStatus : ProductionOrderStatus} (read : s.calls i = .read order newStatus)
    (nothing : ¬ (newStatus = .inProgress ∧ order.bom ≠ [])) :
    Accounted precedes start log ⟨s.shared, Function.update s.calls i (.consumed order newStatus)⟩ := by
  apply acc.relabel
  · rw [read]
    exact if_neg nothing
  · rintro p ⟨⟩
    exact acc.plans i _ (by rw [read]; rfl)

theorem Accounted.consume (acc : Accounted precedes start log s) {i : κ} {order : ProductionOrder}
    (read : s.calls i = .read order .inProgress) (bom : order.bom ≠ []) {stock : Inventory.Db}
    (ok : order.consume precedes s.shared.db.stock .inProgress = .ok stock)
    (confirmed : (s.shared.db.orders.find? order.id).map (·.status) = some .confirmed)
    (alone : ∀ j, (s.calls j).pending ≠ some order.id) (hundredths : order.Hundredths) :
    Accounted precedes start (log ++ [order.id])
      ⟨{ s.shared with db := { s.shared.db with stock } },
        Function.update s.calls i (.consumed order .inProgress)⟩ := by
  have planned : Planned start order.toPlan := acc.plans i _ (by rw [read]; rfl)
  have fresh : order.id ∉ log := by
    intro mem
    rcases (acc.logged _ planned bom).mp mem with started | ⟨j, pending⟩
    · obtain ⟨row, found, past⟩ := acc.past _ planned bom started
      rw [found, Option.map_some, Option.some_inj] at confirmed
      simp [confirmed, ProductionOrderStatus.Past] at past
    · exact alone j pending
  constructor
  · rw [List.nodup_append]
    refine ⟨acc.nodup, List.nodup_singleton _, ?_⟩
    intro a mem b eq same
    rw [List.mem_singleton.mp eq] at same
    exact fresh (same ▸ mem)
  · obtain ⟨o, found, same⟩ := planned
    rw [List.foldlM_append, acc.stock]
    refine bind_eq_ok.mpr ⟨_, rfl, foldlM_cons_ok.mpr ⟨stock, ?_, rfl⟩⟩
    simp only [consumeOrder, found]
    rw [same]
    exact ok
  · exact acc.rows
  · intro j p eq
    by_cases here : j = i
    · subst here
      simp only [Function.update_self, Update.plan, Option.some_inj] at eq
      exact eq ▸ planned
    · simp only [Function.update_of_ne here] at eq
      exact acc.plans j p eq
  · intro p planned' bom'
    by_cases here : p.id = order.id
    · refine iff_of_true ?_ (.inr ⟨i, ?_⟩)
      · rw [here]
        exact List.mem_append_right _ (List.mem_singleton_self _)
      · simp only [Function.update_self]
        rw [here]
        exact if_pos ⟨rfl, bom⟩
    · rw [List.mem_append, List.mem_singleton, or_iff_left here, acc.logged p planned' bom']
      apply or_congr_right
      apply exists_congr
      intro j
      by_cases moved : j = i
      · subst moved
        simp only [Function.update_self, read]
        refine iff_of_false (by simp [Update.pending]) ?_
        rw [Update.pending, if_pos ⟨rfl, bom⟩, Option.some_inj]
        exact Ne.symm here
      · simp only [Function.update_of_ne moved]
  · exact acc.past
  · intro id mem
    rcases List.mem_append.mp mem with old | new
    · exact acc.known id old
    · exact ⟨order.toPlan, planned, (List.mem_singleton.mp new).symm, bom, hundredths⟩

theorem Accounted.save (acc : Accounted precedes start log s) {i : κ} {order : ProductionOrder}
    {newStatus : ProductionOrderStatus} (consumed : s.calls i = .consumed order newStatus) (now : Time)
    (careful : order.bom ≠ [] → ¬ newStatus.Past →
      ∀ row ∈ s.shared.db.orders.find? order.id, ¬ row.status.Past) :
    Accounted precedes start log
      ⟨⟨{ s.shared.db with orders := s.shared.db.orders.save (order.moved newStatus now) },
        if newStatus = .inProgress then s.shared.started ++ [order.id] else s.shared.started⟩,
        Function.update s.calls i .returned⟩ := by
  have planned : Planned start order.toPlan := acc.plans i _ (by rw [consumed]; rfl)
  have started {p : Plan} (other : p.id ≠ order.id) :
      p.id ∈ (if newStatus = .inProgress then s.shared.started ++ [order.id] else s.shared.started) ↔
        p.id ∈ s.shared.started := by
    split_ifs <;> simp [other]
  have elsewhere {id : Uuid} (other : id ≠ order.id) :
      (s.shared.db.orders.save (order.moved newStatus now)).find? id = s.shared.db.orders.find? id :=
    Table.find?_save_of_ne _ (Ne.symm other)
  constructor
  · exact acc.nodup
  · exact acc.stock
  · intro id row found
    rw [Table.find?_save] at found
    split_ifs at found with here
    · cases found
      exact planned
    · exact acc.rows id row found
  · intro j p eq
    by_cases here : j = i
    · subst here
      simp [Update.plan] at eq
    · simp only [Function.update_of_ne here] at eq
      exact acc.plans j p eq
  · intro p planned' bom
    rw [acc.logged p planned' bom]
    by_cases here : p.id = order.id ∧ newStatus = .inProgress
    · obtain ⟨here, rfl⟩ := here
      obtain rfl := planned'.unique planned here
      refine iff_of_true (.inr ⟨i, ?_⟩) (.inl ?_)
      · rw [consumed]
        exact if_pos ⟨rfl, bom⟩
      · simp
    · have others : (s.calls i).pending ≠ some p.id := by
        rw [consumed]
        intro pending
        simp only [Update.pending, Option.ite_none_right_eq_some, Option.some_inj] at pending
        exact here ⟨pending.2.symm, pending.1.1⟩
      apply or_congr
      · by_cases same : p.id = order.id
        · simp [show newStatus ≠ .inProgress from fun starts => here ⟨same, starts⟩]
        · exact (started same).symm
      · apply exists_congr
        intro j
        by_cases moved : j = i
        · subst moved
          simp only [Function.update_self]
          exact iff_of_false others (by simp [Update.pending])
        · simp only [Function.update_of_ne moved]
  · intro p planned' bom mem
    by_cases here : p.id = order.id
    · refine ⟨order.moved newStatus now, ?_, ?_⟩
      · rw [here]
        exact Table.find?_save_self s.shared.db.orders _
      · by_contra live
        have live : ¬ newStatus.Past := live
        obtain rfl := planned'.unique planned here
        have before : order.id ∈ s.shared.started := by
          rwa [if_neg fun starts => live (.inl starts)] at mem
        obtain ⟨row, found, past⟩ := acc.past _ planned' bom before
        exact careful bom live row found past
    · obtain ⟨row, found, past⟩ := acc.past p planned' bom ((started here).mp mem)
      exact ⟨row, (elsewhere here).trans found, past⟩
  · exact acc.known

/-! ## Runs -/

theorem next_accounted (acc : Accounted precedes start log s) {move : κ × Step}
    (careful : Careful precedes s move) : ∃ log', Accounted precedes start log' (Pool.next (act precedes) s move) := by
  obtain ⟨i, step⟩ := move
  apply Pool.next_keeps (fun s => ∃ log, Accounted precedes start log s) ⟨log, acc⟩
  intro shared call acts
  cases step with
  | read =>
      cases state : s.calls i with
      | called tenantId orderId newStatus =>
          cases load : loadOrder s.shared.db tenantId orderId newStatus with
          | ok order =>
              simp only [act, state, load, Option.some.injEq, Prod.mk.injEq] at acts
              obtain ⟨rfl, rfl⟩ := acts
              exact ⟨log, acc.load state load⟩
          | error failure =>
              simp only [act, state, load, Option.some.injEq, Prod.mk.injEq] at acts
              obtain ⟨rfl, rfl⟩ := acts
              exact ⟨log, acc.fail (by rw [state]; rfl)⟩
      | _ => simp [act, state] at acts
  | consume =>
      cases state : s.calls i with
      | read order newStatus =>
          cases consume : order.consume precedes s.shared.db.stock newStatus with
          | ok stock =>
              simp only [act, state, consume, Option.some.injEq, Prod.mk.injEq] at acts
              obtain ⟨rfl, rfl⟩ := acts
              by_cases starts : newStatus = .inProgress ∧ order.bom ≠ []
              · obtain ⟨rfl, bom⟩ := starts
                simp only [Careful, state] at careful
                obtain ⟨confirmed, alone, hundredths⟩ := careful trivial bom (by rw [consume]; rfl)
                exact ⟨_, acc.consume state bom consume confirmed alone hundredths⟩
              · rw [Plan.consume, if_neg starts] at consume
                cases consume
                exact ⟨log, acc.consumeNothing state starts⟩
          | error failure =>
              simp only [act, state, consume, Option.some.injEq, Prod.mk.injEq] at acts
              obtain ⟨rfl, rfl⟩ := acts
              exact ⟨log, acc.fail (by rw [state]; rfl)⟩
      | _ => simp [act, state] at acts
  | save now =>
      cases state : s.calls i with
      | consumed order newStatus =>
          simp only [act, state, Option.some.injEq, Prod.mk.injEq] at acts
          obtain ⟨rfl, rfl⟩ := acts
          simp only [Careful, state] at careful
          exact ⟨log, acc.save state now careful⟩
      | _ => simp [act, state] at acts
  | saveFails =>
      cases state : s.calls i with
      | consumed order newStatus =>
          simp only [act, state, Option.some.injEq, Prod.mk.injEq] at acts
          obtain ⟨rfl, rfl⟩ := acts
          simp only [Careful, state] at careful
          refine ⟨log, acc.fail ?_⟩
          rw [state]
          exact if_neg fun starts => starts.2 (careful starts.1)
      | _ => simp [act, state] at acts

theorem Plan.means_line (p : Plan) (b : BomEntry) :
    (p.line b).number.Means (b.quantityRequired * p.quantityPlanned.val) := by
  have product : (p.quantity b).Means (b.quantityRequired * p.quantityPlanned.val) :=
    JsNumber.means_times _ (by norm_num) (by norm_num) _
  exact product.decimal (JsNumber.double_double _)

theorem consumeOrder_onHand {db db' : Inventory.Db} {id : Uuid} {p : Plan} (planned : Planned start p)
    (here : p.id = id) (bom : p.bom ≠ []) (hundredths : p.Hundredths)
    (same : db.warehouses = start.stock.warehouses) (ok : consumeOrder precedes start db id = .ok db') :
    db'.warehouses = start.stock.warehouses ∧
      ∀ k, db'.onHand k = db.onHand k - demand k (required precedes start id) := by
  obtain ⟨o, found, rfl⟩ := planned
  rw [here] at found
  rw [consumeOrder, found] at ok
  simp only [Plan.consume, true_and, bom, ne_eq, not_false_eq_true, if_true, consumeBomForProductionOrder,
    bind_eq_ok, require_eq_ok] at ok
  obtain ⟨warehouseId, chosen, consumed⟩ := ok
  rw [bomWarehouse, firstActiveWarehouse_congr same, Plan.consumption, Option.none_or, Option.map_eq_some_iff] at chosen
  obtain ⟨w, first, rfl⟩ := chosen
  refine ⟨?_, fun k => ?_⟩
  · refine foldlM_keeps (fun u : Inventory.Db => u.warehouses = start.stock.warehouses) ?_ same consumed
    intro u line v _ kept step
    obtain ⟨-, _, _, posted, -⟩ := consumeLine_posted (JsNumber.means_double _) step
    exact posted.warehouses.trans kept
  · rw [(consumeLines_take (fun b _ => o.means_line b) hundredths consumed k).1, required, found]
    simp only [first, Option.elim_some]
    rfl

theorem consumed_onHand {ids : List Uuid} {db db' : Inventory.Db}
    (known : ∀ id ∈ ids, ∃ p, Planned start p ∧ p.id = id ∧ p.bom ≠ [] ∧ p.Hundredths)
    (same : db.warehouses = start.stock.warehouses) (ok : ids.foldlM (consumeOrder precedes start) db = .ok db')
    (k : StockKey) :
    db'.onHand k = db.onHand k - (ids.map fun id => demand k (required precedes start id)).sum := by
  induction ids generalizing db with
  | nil =>
      cases foldlM_nil_ok.mp ok
      simp
  | cons id ids ih =>
      rw [List.forall_mem_cons] at known
      obtain ⟨p, planned, here, bom, hundredths⟩ := known.1
      obtain ⟨mid, first, rest⟩ := foldlM_cons_ok.mp ok
      obtain ⟨same', onHand⟩ := consumeOrder_onHand planned here bom hundredths same first
      rw [ih known.2 same' rest, onHand k, List.map_cons, List.sum_cons]
      ring

/-- When all calls have ended, each order with a bill of materials that was started has been consumed exactly
once, every line in the amount required, and nothing else has. -/
theorem started_consumed_once {request : κ → Uuid × Uuid × ProductionOrderStatus} {moves : List (κ × Step)}
    {t : Pool κ Ledger Update}
    (run : Run (Careful precedes) (Pool.next (act precedes))
      ⟨⟨start, []⟩, fun i => .called (request i).1 (request i).2.1 (request i).2.2⟩ moves t)
    (ended : ∀ i, (t.calls i).underway = false) :
    ∃ log : List Uuid, log.Nodup ∧
      (∀ id, id ∈ log ↔ id ∈ t.shared.started ∧ ∃ o, start.orders.find? id = some o ∧ o.bom ≠ []) ∧
      log.foldlM (consumeOrder precedes start) start.stock = .ok t.shared.db.stock ∧
      ∀ k, t.shared.db.stock.onHand k =
        start.stock.onHand k - (log.map fun id => demand k (required precedes start id)).sum := by
  obtain ⟨log, acc⟩ : ∃ log, Accounted precedes start log t := by
    apply run.invariant fun s => ∃ log, Accounted precedes start log s
    · exact ⟨[], accounted_start request⟩
    · rintro s move ⟨log, acc⟩ careful
      exact next_accounted acc careful
  have finished (i : κ) : (t.calls i).pending = none := by
    have idle := ended i
    cases state : t.calls i with
    | consumed order newStatus => simp [state, Update.underway, Update.plan] at idle
    | _ => rfl
  refine ⟨log, acc.nodup, fun id => ?_, acc.stock, consumed_onHand acc.known rfl acc.stock⟩
  constructor
  · intro mem
    obtain ⟨p, planned, rfl, bom, -⟩ := acc.known id mem
    rcases (acc.logged p planned bom).mp mem with started | ⟨i, pending⟩
    · obtain ⟨o, found, rfl⟩ := planned
      exact ⟨started, o, found, bom⟩
    · rw [finished i] at pending
      cases pending
  · rintro ⟨started, o, found, bom⟩
    have here : ProductionOrder.key o = id := Table.key_of_find? found
    subst here
    exact (acc.logged o.toPlan ⟨o, found, rfl⟩ bom).mpr (.inl started)

/-! ## Two calls -/

section
open Inventory.Sample

theorem two_fits : (200 : ℤ).natAbs < 10 ^ 12 := by decide

def frame (id : Uuid) : ProductionOrder where
  id := id
  tenantId := 1
  orderNumber := "PO-1"
  quantityPlanned := ⟨200, two_fits⟩
  billOfMaterials := some [⟨7, 3/2⟩]
  status := .confirmed

def twoFrames : Db where
  stock := Inventory.next byCode shop (receipt 10)
  orders := ((∅ : Table ProductionOrder.key).save (frame 20)).save (frame 21)

def starting (target : Fin 2 → Uuid) : Pool (Fin 2) Ledger Update :=
  ⟨⟨twoFrames, []⟩, fun i => .called 1 (target i) .inProgress⟩

def interleaved (s : Pool (Fin 2) Ledger Update) (moves : List (Fin 2 × Step)) : Pool (Fin 2) Ledger Update :=
  moves.foldl (Pool.next (act byCode)) s

theorem started_consumed_once_twoFrames :
    let moves := [(0, .read), (1, .read), (0, .consume), (1, .consume), (1, .save 0), (0, .save 0)]
    let t := interleaved (starting ![20, 21]) moves
    t.shared.started = [21, 20] ∧ t.shared.db.stock.onHand (1, 7, 3) = 10 - 3 - 3 ∧
      ∃ log : List Uuid, log.Nodup ∧
        (∀ id, id ∈ log ↔ id ∈ t.shared.started ∧ ∃ o, twoFrames.orders.find? id = some o ∧ o.bom ≠ []) ∧
        log.foldlM (consumeOrder byCode twoFrames) twoFrames.stock = .ok t.shared.db.stock ∧
        ∀ k, t.shared.db.stock.onHand k =
          twoFrames.stock.onHand k - (log.map fun id => demand k (required byCode twoFrames id)).sum := by
  intro moves t
  have run : Run (Careful byCode) (Pool.next (act byCode)) (starting ![20, 21]) moves t :=
    .ofAllMet (by decide +kernel)
  refine ⟨by decide +kernel, by decide +kernel, ?_⟩
  exact @started_consumed_once _ _ byCode twoFrames (fun i => (1, ![20, 21] i, .inProgress)) moves t run
    (by decide +kernel)

/-- Both calls start the same order, or one call's order cannot be saved. -/
theorem consumed_twice_or_for_nothing :
    let twice := interleaved (starting ![20, 20])
      [(0, .read), (1, .read), (0, .consume), (1, .consume), (0, .save 0), (1, .save 0)]
    let lost := interleaved (starting ![20, 21]) [(0, .read), (0, .consume), (0, .saveFails)]
    ((∀ i, (twice.calls i).underway = false) ∧
      (twice.shared.db.orders.find? 20).map (·.status) = some .inProgress ∧
      twice.shared.db.stock.onHand (1, 7, 3) = 10 - 3 - 3) ∧
    (lost.calls 0).underway = false ∧ lost.shared.started = [] ∧
      (lost.shared.db.orders.find? 20).map (·.status) = some .confirmed ∧
      lost.shared.db.stock.onHand (1, 7, 3) = 10 - 3 := by
  decide +kernel

end

end SmartErp.Production
