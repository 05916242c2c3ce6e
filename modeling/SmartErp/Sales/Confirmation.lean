import SmartErp.Sales.Reservations
import SmartErp.Foundations.Interleaving
import Mathlib.Data.Fintype.Basic
import Mathlib.Data.Fin.VecNotation

/-!
# Overlapping confirmations

`confirmSalesOrder` reads the order, then `reserveStock` commits in a transaction of its own, and last
the order is saved. Nothing is locked or read again in between.
-/

namespace SmartErp.Sales
open Foundations Inventory

variable {κ : Type} [DecidableEq κ] {precedes : String → String → Bool} {tenantId : Uuid}

inductive Confirmation where
  | called (id : Uuid)
  | loaded (order : SalesOrder) (defaultWarehouseId : Uuid)
  | reserved (order : SalesOrder)
  | returned
  | failed (failure : Failure)

namespace Confirmation

def reservedFor : Confirmation → Option Uuid
  | reserved order => some order.id
  | _ => none

def underway : Confirmation → Bool
  | loaded _ _ | reserved _ => true
  | _ => false

end Confirmation

inductive ConfirmStep where
  | load
  | reserve
  | save
  | saveFails

def loadDraft (precedes : String → String → Bool) (db : Db) (tenantId id : Uuid) :
    Except Failure (SalesOrder × Uuid) := do
  let order ← findSalesOrder db tenantId id
  ensure (order.status = .draft) (.badRequest
    s!"Only DRAFT orders can be confirmed; current status: {order.status.text}")
  let defaultWarehouseId ← pickDefaultWarehouseId precedes db tenantId
  return (order, defaultWarehouseId)

def confirmStep (precedes : String → String → Bool) (tenantId : Uuid) (step : ConfirmStep) (db : Db)
    (call : Confirmation) : Option (Db × Confirmation) :=
  match step, call with
  | .load, .called id =>
      match loadDraft precedes db tenantId id with
      | .ok (order, defaultWarehouseId) => some (db, .loaded order defaultWarehouseId)
      | .error failure => some (db, .failed failure)
  | .reserve, .loaded order defaultWarehouseId =>
      match reserveStock db.stock tenantId (order.stockRequests defaultWarehouseId) with
      | .ok stock => some ({ db with stock }, .reserved order)
      | .error failure => some (db, .failed failure)
  | .save, .reserved order => some (setStatus db order .confirmed, .returned)
  | .saveFails, .reserved _ => some (db, .failed (.database "sales_orders"))
  | _, _ => none

theorem confirmSalesOrder_steps (s : Pool κ Db Confirmation) {i : κ} {id : Uuid}
    (called : s.calls i = .called id) :
    ([(i, .load), (i, .reserve), (i, .save)].foldl
      (Pool.next (confirmStep precedes tenantId)) s).shared =
        settle s.shared (confirmSalesOrder precedes s.shared tenantId id) := by
  have split : confirmSalesOrder precedes s.shared tenantId id = do
      let loaded ← loadDraft precedes s.shared tenantId id
      let stock ← reserveStock s.shared.stock tenantId (loaded.1.stockRequests loaded.2)
      return setStatus { s.shared with stock } loaded.1 .confirmed := by
    simp only [confirmSalesOrder, loadDraft, bind_assoc, pure_bind]
  rw [split]
  cases load : loadDraft precedes s.shared tenantId id with
  | error failure => simp [Pool.next, confirmStep, called, load, settle, bind, Except.bind]
  | ok loaded =>
      cases reserve : reserveStock s.shared.stock tenantId (loaded.1.stockRequests loaded.2) with
      | error failure =>
          simp [Pool.next, confirmStep, called, load, reserve, settle, bind, Except.bind]
      | ok stock =>
          simp [Pool.next, confirmStep, called, load, reserve, settle, bind, Except.bind, pure,
            Except.pure]

def SalesOrder.HasProducts (order : SalesOrder) : Prop := ∃ l ∈ order.lines, l.productId ≠ none

instance (order : SalesOrder) : Decidable order.HasProducts := by
  unfold SalesOrder.HasProducts
  infer_instance

theorem SalesOrder.stockRequests_eq_nil {order : SalesOrder} (none : ¬ order.HasProducts) (w : Uuid) :
    order.stockRequests w = [] := by
  rw [stockRequests, List.filterMap_eq_nil_iff]
  intro l mem
  rw [Option.map_eq_none_iff]
  by_contra product
  exact none ⟨l, mem, product⟩

/-- A call reserves only for an order that is still a draft and that no other call has reserved for,
and does not fail between its reservation and its end. -/
def Exclusive (tenantId : Uuid) (s : Pool κ Db Confirmation) (move : κ × ConfirmStep) : Prop :=
  match move.2, s.calls move.1 with
  | .reserve, .loaded order defaultWarehouseId =>
      order.HasProducts →
      failureOf (reserveStock s.shared.stock tenantId (order.stockRequests defaultWarehouseId)) = none →
        ((s.shared.salesOrders.find? order.id).map (·.status) = some .draft ∧
          ∀ j, (s.calls j).reservedFor ≠ some order.id)
  | .saveFails, .reserved order => ¬ order.HasProducts
  | _, _ => True

instance [Fintype κ] (s : Pool κ Db Confirmation) (move : κ × ConfirmStep) :
    Decidable (Exclusive tenantId s move) := by
  unfold Exclusive
  split <;> infer_instance

def reserveOrder (precedes : String → String → Bool) (tenantId : Uuid) (start : Db)
    (stock : Inventory.Db) (id : Uuid) : Except Failure Inventory.Db :=
  match start.salesOrders.find? id, firstActiveWarehouse precedes start.stock tenantId with
  | some order, some w => reserveStock stock tenantId (order.stockRequests w.id)
  | _, _ => .ok stock

/-! ## The account of reservations -/

def Drafted (start : Db) (order : SalesOrder) : Prop :=
  start.salesOrders.find? order.id = some order ∧ order.status = .draft

/-- The stock is the start's with each order of `log` reserved once; these are the orders with products
that are confirmed by now or that a call has reserved for. -/
structure Accounted (precedes : String → String → Bool) (tenantId : Uuid) (start : Db)
    (log : List Uuid) (s : Pool κ Db Confirmation) : Prop where
  nodup : log.Nodup
  stock : log.foldlM (reserveOrder precedes tenantId start) start.stock = .ok s.shared.stock
  warehouses : s.shared.stock.warehouses = start.stock.warehouses
  orders : ∀ id, s.shared.salesOrders.find? id = start.salesOrders.find? id ∨
    ∃ o, Drafted start o ∧ o.id = id ∧
      s.shared.salesOrders.find? id = some { o with status := .confirmed }
  loaded : ∀ i order w, s.calls i = .loaded order w → Drafted start order ∧
    (firstActiveWarehouse precedes start.stock tenantId).map (·.id) = some w
  reserved : ∀ i order, s.calls i = .reserved order → Drafted start order
  pending : ∀ i order, s.calls i = .reserved order → order.HasProducts →
    s.shared.salesOrders.find? order.id = some order
  single : ∀ i j order, s.calls i = .reserved order → s.calls j = .reserved order →
    order.HasProducts → i = j
  logged : ∀ o, Drafted start o → o.HasProducts → (o.id ∈ log ↔
    s.shared.salesOrders.find? o.id = some { o with status := .confirmed } ∨
      ∃ i, s.calls i = .reserved o)
  known : ∀ id ∈ log, ∃ o, Drafted start o ∧ o.HasProducts ∧ o.id = id

theorem Drafted.unique {start : Db} {o o' : SalesOrder} (drafted : Drafted start o)
    (drafted' : Drafted start o') (same : o.id = o'.id) : o = o' := by
  have found := drafted.1
  rw [same, drafted'.1] at found
  exact (Option.some_inj.mp found).symm

theorem Drafted.ne_confirmed {start : Db} {o : SalesOrder} (drafted : Drafted start o) :
    o ≠ { o with status := .confirmed } := by
  intro eq
  have status := congrArg SalesOrder.status eq
  rw [drafted.2] at status
  cases status

variable {start : Db} {log : List Uuid} {s : Pool κ Db Confirmation}

omit [DecidableEq κ] in
theorem accounted_start (target : κ → Uuid) :
    Accounted precedes tenantId start [] ⟨start, fun i => .called (target i)⟩ where
  nodup := List.nodup_nil
  stock := rfl
  warehouses := rfl
  orders _ := .inl rfl
  loaded _ _ _ eq := by cases eq
  reserved _ _ eq := by cases eq
  pending _ _ eq := by cases eq
  single _ _ _ eq := by cases eq
  logged o drafted _ := by
    constructor
    · intro mem
      cases mem
    · rintro (confirmed | ⟨i, eq⟩)
      · rw [drafted.1] at confirmed
        exact absurd (Option.some_inj.mp confirmed) drafted.ne_confirmed
      · cases eq
  known _ mem := by cases mem

omit [DecidableEq κ] in
theorem Accounted.relabel (acc : Accounted precedes tenantId start log s) {calls : κ → Confirmation}
    (loaded : ∀ j o w, calls j = .loaded o w →
      Drafted start o ∧ (firstActiveWarehouse precedes start.stock tenantId).map (·.id) = some w)
    (old : ∀ j o, calls j = .reserved o →
      s.calls j = .reserved o ∨ Drafted start o ∧ ¬ o.HasProducts)
    (kept : ∀ j o, o.HasProducts → s.calls j = .reserved o → calls j = .reserved o) :
    Accounted precedes tenantId start log ⟨s.shared, calls⟩ where
  nodup := acc.nodup
  stock := acc.stock
  warehouses := acc.warehouses
  orders := acc.orders
  loaded := loaded
  reserved j o eq := (old j o eq).elim (acc.reserved j o) And.left
  pending j o eq products :=
    acc.pending j o ((old j o eq).resolve_right fun none => none.2 products) products
  single i j o eq eq' products :=
    acc.single i j o ((old i o eq).resolve_right fun none => none.2 products)
      ((old j o eq').resolve_right fun none => none.2 products) products
  logged o drafted products := by
    rw [acc.logged o drafted products]
    apply or_congr_right
    constructor
    · rintro ⟨i, eq⟩
      exact ⟨i, kept i o products eq⟩
    · rintro ⟨i, eq⟩
      exact ⟨i, (old i o eq).resolve_right fun none => none.2 products⟩
  known := acc.known

theorem Accounted.load (acc : Accounted precedes tenantId start log s) {i : κ} {id : Uuid}
    (called : s.calls i = .called id) {order : SalesOrder} {w : Uuid}
    (ok : loadDraft precedes s.shared tenantId id = .ok (order, w)) :
    Accounted precedes tenantId start log
      ⟨s.shared, Function.update s.calls i (.loaded order w)⟩ := by
  simp only [loadDraft, bind_eq_ok, ensure_eq_ok, pure_eq_ok, pickDefaultWarehouseId,
    require_eq_ok, Prod.mk.injEq] at ok
  obtain ⟨row, found, -, draft, _, first, rfl, rfl⟩ := ok
  obtain ⟨found, rfl⟩ := findSalesOrder_ok found
  rw [firstActiveWarehouse_congr acc.warehouses] at first
  -- The row is still the start's: confirmed, it would not be a draft.
  have drafted : Drafted start row := by
    rcases acc.orders row.id with unchanged | ⟨o, -, -, confirmed⟩
    · exact ⟨unchanged ▸ found, draft⟩
    · rw [found] at confirmed
      cases Option.some_inj.mp confirmed
      cases draft
  apply acc.relabel
  · intro j o w' eq
    rcases Pool.update_eq_cases eq with ⟨-, new⟩ | ⟨-, old⟩
    · cases new
      exact ⟨drafted, first⟩
    · exact acc.loaded j o w' old
  · intro j o eq
    exact .inl ((Pool.update_eq_iff (by simp [called]) (by simp) j).mp eq)
  · intro j o _ eq
    exact (Pool.update_eq_iff (by simp [called]) (by simp) j).mpr eq

theorem Accounted.fail (acc : Accounted precedes tenantId start log s) {i : κ} {failure : Failure}
    (unreserved : ∀ o, o.HasProducts → s.calls i ≠ .reserved o) :
    Accounted precedes tenantId start log ⟨s.shared, Function.update s.calls i (.failed failure)⟩ := by
  apply acc.relabel
  · intro j o w eq
    rcases Pool.update_eq_cases eq with ⟨-, new⟩ | ⟨-, old⟩
    · cases new
    · exact acc.loaded j o w old
  · intro j o eq
    rcases Pool.update_eq_cases eq with ⟨-, new⟩ | ⟨-, old⟩
    · cases new
    · exact .inl old
  · intro j o products eq
    exact (Pool.update_eq_iff (unreserved o products) (by simp) j).mpr eq

theorem Accounted.reserveNothing (acc : Accounted precedes tenantId start log s) {i : κ}
    {order : SalesOrder} {w : Uuid} (loaded : s.calls i = .loaded order w)
    (none : ¬ order.HasProducts) :
    Accounted precedes tenantId start log
      ⟨s.shared, Function.update s.calls i (.reserved order)⟩ := by
  apply acc.relabel
  · intro j o w' eq
    rcases Pool.update_eq_cases eq with ⟨-, new⟩ | ⟨-, old⟩
    · cases new
    · exact acc.loaded j o w' old
  · intro j o eq
    rcases Pool.update_eq_cases eq with ⟨-, new⟩ | ⟨-, old⟩
    · cases new
      exact .inr ⟨(acc.loaded i order w loaded).1, none⟩
    · exact .inl old
  · intro j o products eq
    have ne : o ≠ order := fun same => none (same ▸ products)
    exact (Pool.update_eq_iff (by simp [loaded]) (by simpa using ne.symm) j).mpr eq

theorem reserveStock_warehouses {db db' : Inventory.Db} {requests : List ReservationRequest}
    (ok : reserveStock db tenantId requests = .ok db') : db'.warehouses = db.warehouses := by
  refine foldlM_keeps (fun u : Inventory.Db => u.warehouses = db.warehouses) ?_ rfl ok
  intro u r v _ same step
  obtain ⟨-, _, _, posted, -⟩ := reserveLine_posted step
  exact posted.warehouses.trans same

theorem Accounted.reserve (acc : Accounted precedes tenantId start log s) {i : κ} {order : SalesOrder}
    {w : Uuid} (loaded : s.calls i = .loaded order w) (products : order.HasProducts)
    {stock : Inventory.Db}
    (ok : reserveStock s.shared.stock tenantId (order.stockRequests w) = .ok stock)
    (draft : (s.shared.salesOrders.find? order.id).map (·.status) = some .draft)
    (alone : ∀ j, (s.calls j).reservedFor ≠ some order.id) :
    Accounted precedes tenantId start (log ++ [order.id])
      ⟨{ s.shared with stock }, Function.update s.calls i (.reserved order)⟩ := by
  obtain ⟨drafted, first⟩ := acc.loaded i order w loaded
  obtain ⟨v, chosen, rfl⟩ := Option.map_eq_some_iff.mp first
  have unconfirmed : s.shared.salesOrders.find? order.id ≠ some { order with status := .confirmed } := by
    intro confirmed
    rw [confirmed] at draft
    cases draft
  have row : s.shared.salesOrders.find? order.id = some order := by
    rcases acc.orders order.id with unchanged | ⟨o, drafted', same, confirmed⟩
    · exact unchanged.trans drafted.1
    · rw [drafted'.unique drafted same] at confirmed
      exact absurd confirmed unconfirmed
  have fresh : order.id ∉ log := by
    intro mem
    rcases (acc.logged order drafted products).mp mem with confirmed | ⟨j, reserved⟩
    · exact unconfirmed confirmed
    · exact alone j (by rw [reserved]; rfl)
  have others (o : SalesOrder) (ne : o ≠ order) (j : κ) :
      Function.update s.calls i (.reserved order) j = .reserved o ↔ s.calls j = .reserved o :=
    Pool.update_eq_iff (by simp [loaded]) (by simpa using Ne.symm ne) j
  constructor
  · rw [List.nodup_append]
    refine ⟨acc.nodup, List.nodup_singleton _, ?_⟩
    intro a mem b eq same
    rw [List.mem_singleton.mp eq] at same
    exact fresh (same ▸ mem)
  · rw [List.foldlM_append, acc.stock]
    refine bind_eq_ok.mpr ⟨_, rfl, foldlM_cons_ok.mpr ⟨stock, ?_, rfl⟩⟩
    simp only [reserveOrder, drafted.1, chosen, ok]
  · exact (reserveStock_warehouses ok).trans acc.warehouses
  · exact acc.orders
  · intro j o w' eq
    rcases Pool.update_eq_cases eq with ⟨-, new⟩ | ⟨-, old⟩
    · cases new
    · exact acc.loaded j o w' old
  · intro j o eq
    rcases Pool.update_eq_cases eq with ⟨-, new⟩ | ⟨-, old⟩
    · cases new
      exact drafted
    · exact acc.reserved j o old
  · intro j o eq has
    rcases Pool.update_eq_cases eq with ⟨-, new⟩ | ⟨-, old⟩
    · cases new
      exact row
    · exact acc.pending j o old has
  · intro j k o eq eq' has
    rcases Pool.update_eq_cases eq with ⟨rfl, new⟩ | ⟨-, old⟩ <;>
      rcases Pool.update_eq_cases eq' with ⟨rfl, new'⟩ | ⟨-, old'⟩
    · rfl
    · cases new
      exact absurd (by rw [old']; rfl) (alone k)
    · cases new'
      exact absurd (by rw [old]; rfl) (alone j)
    · exact acc.single j k o old old' has
  · intro o drafted' has
    by_cases here : o = order
    · subst here
      refine iff_of_true (List.mem_append_right _ (List.mem_singleton_self _)) (.inr ⟨i, ?_⟩)
      exact Function.update_self _ _ _
    · have other : o.id ≠ order.id := fun same => here (drafted'.unique drafted same)
      rw [List.mem_append, List.mem_singleton, or_iff_left other, acc.logged o drafted' has]
      exact or_congr_right (exists_congr fun j => (others o here j).symm)
  · intro id mem
    rcases List.mem_append.mp mem with old | new
    · exact acc.known id old
    · exact ⟨order, drafted, products, (List.mem_singleton.mp new).symm⟩

theorem Accounted.save (acc : Accounted precedes tenantId start log s) {i : κ} {order : SalesOrder}
    (reserved : s.calls i = .reserved order) :
    Accounted precedes tenantId start log
      ⟨setStatus s.shared order .confirmed, Function.update s.calls i .returned⟩ := by
  have drafted := acc.reserved i order reserved
  have old {j : κ} {o : SalesOrder} (eq : Function.update s.calls i .returned j = .reserved o) :
      j ≠ i ∧ s.calls j = .reserved o := by
    rcases Pool.update_eq_cases eq with ⟨-, new⟩ | old
    · cases new
    · exact old
  have elsewhere {id : Uuid} (ne : order.id ≠ id) :
      (setStatus s.shared order .confirmed).salesOrders.find? id = s.shared.salesOrders.find? id :=
    Table.find?_save_of_ne s.shared.salesOrders ne
  have saved : (setStatus s.shared order .confirmed).salesOrders.find? order.id =
      some { order with status := .confirmed } :=
    Table.find?_save_self s.shared.salesOrders { order with status := .confirmed }
  constructor
  · exact acc.nodup
  · exact acc.stock
  · exact acc.warehouses
  · intro id
    by_cases here : order.id = id
    · subst here
      exact .inr ⟨order, drafted, rfl, saved⟩
    · rw [elsewhere here]
      exact acc.orders id
  · intro j o w eq
    rcases Pool.update_eq_cases eq with ⟨-, new⟩ | ⟨-, old⟩
    · cases new
    · exact acc.loaded j o w old
  · intro j o eq
    exact acc.reserved j o (old eq).2
  · intro j o eq has
    obtain ⟨ne, before⟩ := old eq
    have other : order.id ≠ o.id := by
      intro same
      obtain rfl := drafted.unique (acc.reserved j o before) same
      exact ne (acc.single j i order before reserved has)
    rw [elsewhere other]
    exact acc.pending j o before has
  · intro j k o eq eq' has
    exact acc.single j k o (old eq).2 (old eq').2 has
  · intro o drafted' has
    rw [acc.logged o drafted' has]
    by_cases here : order.id = o.id
    · obtain rfl := drafted.unique drafted' here
      exact iff_of_true (.inr ⟨i, reserved⟩) (.inl saved)
    · rw [elsewhere here]
      apply or_congr_right
      apply exists_congr
      intro j
      exact (Pool.update_eq_iff (by simpa [reserved] using fun eq => here (congrArg _ eq)) (by simp) j).symm
  · exact acc.known

/-! ## Runs -/

theorem next_accounted (acc : Accounted precedes tenantId start log s) {move : κ × ConfirmStep}
    (exclusive : Exclusive tenantId s move) :
    ∃ log', Accounted precedes tenantId start log'
      (Pool.next (confirmStep precedes tenantId) s move) := by
  obtain ⟨i, step⟩ := move
  apply Pool.next_keeps (fun s => ∃ log, Accounted precedes tenantId start log s) ⟨log, acc⟩
  intro shared call acts
  cases step with
  | load =>
      cases state : s.calls i with
      | called id =>
          cases load : loadDraft precedes s.shared tenantId id with
          | ok result =>
              simp only [confirmStep, state, load, Option.some.injEq, Prod.mk.injEq] at acts
              obtain ⟨rfl, rfl⟩ := acts
              exact ⟨log, acc.load state load⟩
          | error failure =>
              simp only [confirmStep, state, load, Option.some.injEq, Prod.mk.injEq] at acts
              obtain ⟨rfl, rfl⟩ := acts
              exact ⟨log, acc.fail (by simp [state])⟩
      | _ => simp [confirmStep, state] at acts
  | reserve =>
      cases state : s.calls i with
      | loaded order w =>
          cases reserve : reserveStock s.shared.stock tenantId (order.stockRequests w) with
          | ok stock =>
              simp only [confirmStep, state, reserve, Option.some.injEq, Prod.mk.injEq] at acts
              obtain ⟨rfl, rfl⟩ := acts
              by_cases products : order.HasProducts
              · simp only [Exclusive, state] at exclusive
                obtain ⟨draft, alone⟩ := exclusive products (by rw [reserve]; rfl)
                exact ⟨_, acc.reserve state products reserve draft alone⟩
              · rw [SalesOrder.stockRequests_eq_nil products] at reserve
                cases foldlM_nil_ok.mp reserve
                exact ⟨log, acc.reserveNothing state products⟩
          | error failure =>
              simp only [confirmStep, state, reserve, Option.some.injEq, Prod.mk.injEq] at acts
              obtain ⟨rfl, rfl⟩ := acts
              exact ⟨log, acc.fail (by simp [state])⟩
      | _ => simp [confirmStep, state] at acts
  | save =>
      cases state : s.calls i with
      | reserved order =>
          simp only [confirmStep, state, Option.some.injEq, Prod.mk.injEq] at acts
          obtain ⟨rfl, rfl⟩ := acts
          exact ⟨log, acc.save state⟩
      | _ => simp [confirmStep, state] at acts
  | saveFails =>
      cases state : s.calls i with
      | reserved order =>
          simp only [confirmStep, state, Option.some.injEq, Prod.mk.injEq] at acts
          obtain ⟨rfl, rfl⟩ := acts
          simp only [Exclusive, state] at exclusive
          refine ⟨log, acc.fail fun o products eq => ?_⟩
          cases state.symm.trans eq
          exact exclusive products
      | _ => simp [confirmStep, state] at acts

/-- When all calls have ended, the stock is the start's with each order reserved exactly once that was a
draft with products and is confirmed now. -/
theorem confirmed_reserved_once {target : κ → Uuid} {moves : List (κ × ConfirmStep)}
    {t : Pool κ Db Confirmation}
    (run : Run (Exclusive tenantId) (Pool.next (confirmStep precedes tenantId))
      ⟨start, fun i => .called (target i)⟩ moves t)
    (ended : ∀ i, (t.calls i).underway = false) :
    ∃ log : List Uuid, log.Nodup ∧
      (∀ id, id ∈ log ↔ ∃ o o', start.salesOrders.find? id = some o ∧ o.status = .draft ∧
        o.HasProducts ∧ t.shared.salesOrders.find? id = some o' ∧ o'.status = .confirmed) ∧
      log.foldlM (reserveOrder precedes tenantId start) start.stock = .ok t.shared.stock := by
  obtain ⟨log, acc⟩ : ∃ log, Accounted precedes tenantId start log t := by
    apply run.invariant fun s => ∃ log, Accounted precedes tenantId start log s
    · exact ⟨[], accounted_start target⟩
    · rintro s move ⟨log, acc⟩ exclusive
      exact next_accounted acc exclusive
  refine ⟨log, acc.nodup, fun id => ?_, acc.stock⟩
  constructor
  · intro mem
    obtain ⟨o, drafted, products, rfl⟩ := acc.known id mem
    rcases (acc.logged o drafted products).mp mem with confirmed | ⟨i, pending⟩
    · exact ⟨o, _, drafted.1, drafted.2, products, confirmed, rfl⟩
    · have finished := ended i
      rw [pending] at finished
      cases finished
  · rintro ⟨o, o', found, draft, products, now, confirmed⟩
    obtain rfl := Table.key_of_find? found
    rw [acc.logged o ⟨found, draft⟩ products]
    rcases acc.orders o.id with unchanged | ⟨p, drafted, same, saved⟩
    · rw [unchanged, found] at now
      cases Option.some_inj.mp now
      rw [draft] at confirmed
      cases confirmed
    · rw [drafted.unique ⟨found, draft⟩ same] at saved
      exact .inl saved

/-! ## Two calls -/

section
open Sample

def twoDrafts : Db :=
  ([delivery, .createSalesOrder 20 2026 ⟨5, [pieces 4 none]⟩,
    .createSalesOrder 21 2026 ⟨5, [pieces 8 none]⟩].foldl (next byCode 1) tenPieces).db

def calling (target : Fin 2 → Uuid) : Pool (Fin 2) Db Confirmation := ⟨twoDrafts, (.called <| target ·)⟩

def interleaved (s : Pool (Fin 2) Db Confirmation) (moves : List (Fin 2 × ConfirmStep)) :
    Pool (Fin 2) Db Confirmation :=
  moves.foldl (Pool.next (confirmStep byCode 1)) s

theorem confirmed_reserved_once_twoDrafts :
    let moves := [(0, .load), (1, .load), (0, .reserve), (1, .reserve), (0, .save)]
    let t := interleaved (calling ![20, 21]) moves
    t.shared.salesOrders.rows.map (·.status) = [.confirmed, .draft] ∧
      ∃ log : List Uuid, log.Nodup ∧
        (∀ id, id ∈ log ↔ ∃ o o', twoDrafts.salesOrders.find? id = some o ∧ o.status = .draft ∧
          o.HasProducts ∧ t.shared.salesOrders.find? id = some o' ∧ o'.status = .confirmed) ∧
        log.foldlM (reserveOrder byCode 1 twoDrafts) twoDrafts.stock = .ok t.shared.stock := by
  intro moves t
  have run : Run (Exclusive 1) (Pool.next (confirmStep byCode 1)) (calling ![20, 21]) moves t :=
    .ofAllMet (by decide +kernel)
  exact ⟨by decide +kernel, confirmed_reserved_once run (by decide +kernel)⟩

/-- Both calls confirm the same order, or one call's order cannot be saved. -/
theorem reserved_twice_or_for_nothing :
    let twice := interleaved (calling ![20, 20])
      [(0, .load), (1, .load), (0, .reserve), (1, .reserve), (0, .save), (1, .save)]
    let lost := interleaved (calling ![20, 21]) [(0, .load), (0, .reserve), (0, .saveFails)]
    ((∀ i, (twice.calls i).underway = false) ∧
      (twice.shared.salesOrders.find? 20).map (·.status) = some .confirmed ∧
      twice.shared.stock.reserved (1, 7, 3) = 4 + 4) ∧
    (∀ i, (lost.calls i).underway = false) ∧
      (lost.shared.salesOrders.find? 20).map (·.status) = some .draft ∧
      lost.shared.stock.reserved (1, 7, 3) = 4 := by
  decide +kernel

end
end SmartErp.Sales
