import SmartErp.Inventory.Levels

/-!
# Reserved quantities

A reservation adds what its lines ask for. A release and a shipment take it back, as long as it is
still reserved.
-/

namespace SmartErp.Inventory
open Foundations

def ReservationRequest.asks (tenantId : Uuid) (r : ReservationRequest) : StockKey × ℚ :=
  (r.key tenantId, r.quantity)

theorem reserveLine_reserved {db db' : Db} {tenantId : Uuid} {r : ReservationRequest}
    (whole : Exact 2 r.quantity) (ok : reserveLine tenantId db r = .ok db') (k : StockKey) :
    db'.reserved k = db.reserved k + demand k [r.asks tenantId] := by
  obtain ⟨-, _, h, posted, holds⟩ := reserveLine_posted ok
  rw [posted.reserved, Function.update_apply]
  split
  · rename_i here
    subst here
    simp only [ReservationRequest.asks, demand_cons, ↓reduceIte, demand_nil, add_zero]
    exact holds.reserved.eq_of_exact ((db.exact_reserved _).add whole)
  · rename_i other
    simp [ReservationRequest.asks, Ne.symm other]

theorem reserveStock_reserved {db db' : Db} {tenantId : Uuid} {requests : List ReservationRequest}
    (whole : ∀ r ∈ requests, Exact 2 r.quantity) (ok : reserveStock db tenantId requests = .ok db')
    (k : StockKey) :
    db'.reserved k = db.reserved k + demand k (requests.map (·.asks tenantId)) := by
  have adds := foldlM_adds (fun u : Db => u.reserved k) (fun r => demand k [r.asks tenantId])
    (fun u r v mem step => reserveLine_reserved (whole r mem) step k) ok
  simpa [demand, Function.comp_def] using adds

def TakesBack (tenantId : Uuid) (f : Db → ReservationRequest → Except Failure Db) : Prop :=
  ∀ db r db', 0 ≤ r.quantity → Exact 2 r.quantity → r.quantity ≤ db.reserved (r.key tenantId) →
    f db r = .ok db' → ∀ k, db'.reserved k = db.reserved k - demand k [r.asks tenantId]

theorem Posted.takesBack {db db' : Db} {tenantId : Uuid} {r : ReservationRequest} {h : Holding}
    {ms : List StockMovement} (posted : Posted db db' (r.key tenantId) h ms) (whole : Exact 2 r.quantity)
    (held : r.quantity ≤ db.reserved (r.key tenantId))
    (back : TakenBack 2 r.quantity (db.reserved (r.key tenantId)) h.reserved) (k : StockKey) :
    db'.reserved k = db.reserved k - demand k [r.asks tenantId] := by
  rw [posted.reserved, Function.update_apply]
  split
  · rename_i here
    subst here
    rw [back.eq (db.exact_reserved _) whole, max_eq_right (sub_nonneg.mpr held)]
    simp only [ReservationRequest.asks, demand_cons, ↓reduceIte, demand_nil, add_zero]
  · rename_i other
    simp [ReservationRequest.asks, Ne.symm other]

theorem releaseLine_takesBack (tenantId : Uuid) : TakesBack tenantId (releaseLine tenantId) := by
  intro db r db' nonneg whole held ok k
  rcases releaseLine_posted ok with ⟨missing, rfl⟩ | ⟨_, _, posted, releases⟩
  · -- Nothing is reserved where there is no row, so nothing was to be taken back.
    have none : db'.reserved (r.key tenantId) = 0 := by simp [Db.reserved, missing]
    have zero : r.quantity = 0 := le_antisymm (held.trans_eq none) nonneg
    simp [ReservationRequest.asks, zero]
  · exact posted.takesBack whole held releases.reserved k

theorem shipLine_takesBack (tenantId : Uuid) : TakesBack tenantId (shipLine tenantId) := by
  intro db r db' nonneg whole held ok k
  obtain ⟨-, _, _, posted, -, fulfils⟩ := shipLine_posted ok
  exact posted.takesBack whole held fulfils.reserved k

theorem TakesBack.foldlM {tenantId : Uuid} {f : Db → ReservationRequest → Except Failure Db}
    (line : TakesBack tenantId f) {requests : List ReservationRequest} {db db' : Db}
    (nonneg : ∀ r ∈ requests, 0 ≤ r.quantity) (whole : ∀ r ∈ requests, Exact 2 r.quantity)
    (held : ∀ k, demand k (requests.map (·.asks tenantId)) ≤ db.reserved k)
    (ok : requests.foldlM f db = .ok db') (k : StockKey) :
    db'.reserved k = db.reserved k - demand k (requests.map (·.asks tenantId)) := by
  induction requests generalizing db with
  | nil =>
      cases foldlM_nil_ok.mp ok
      simp
  | cons r requests ih =>
      rw [List.forall_mem_cons] at nonneg whole
      have later (k : StockKey) : 0 ≤ demand k (requests.map (·.asks tenantId)) := by
        apply demand_nonneg
        intro e mem
        obtain ⟨r', mem', rfl⟩ := List.mem_map.mp mem
        exact nonneg.2 r' mem'
      have here : r.quantity ≤ db.reserved (r.key tenantId) := by
        have all := held (r.key tenantId)
        rw [List.map_cons, demand_cons, ReservationRequest.asks, if_pos rfl] at all
        exact (le_add_of_nonneg_right (later _)).trans all
      obtain ⟨mid, first, rest⟩ := foldlM_cons_ok.mp ok
      have taken := line db r mid nonneg.1 whole.1 here first
      have left (k : StockKey) : demand k (requests.map (·.asks tenantId)) ≤ mid.reserved k := by
        have all := held k
        rw [List.map_cons, demand_cons] at all
        rw [taken k, demand_cons, demand_nil]
        linarith
      rw [ih nonneg.2 whole.2 left rest, taken k, List.map_cons, demand_cons, demand_cons, demand_nil]
      ring

theorem recordStockMovement_reserved {db db' : Db} {tenantId : Uuid} {dto : StockMovementRequest}
    (ok : recordStockMovement db tenantId dto = .ok db') : db'.reserved = db.reserved := by
  obtain ⟨product, quantity, -, -, -, applied⟩ := recordStockMovement_ok ok
  apply foldlM_keeps (fun u : Db => u.reserved = db.reserved) _ _ applied
  · intro u a v _ kept step
    obtain ⟨-, posted⟩ := adjustStock_posted step
    rw [posted.reserved, ← kept]
    exact Function.update_eq_self _ _
  · rfl

theorem createWarehouse_stockLevels {db db' : Db} {tenantId id : Uuid} {dto : WarehouseDto}
    (ok : createWarehouse db tenantId id dto = .ok db') : db'.stockLevels = db.stockLevels := by
  simp only [createWarehouse, bind_eq_ok, ensure_eq_ok, pure_eq_ok] at ok
  obtain ⟨-, -, -, -, rfl⟩ := ok
  rfl

theorem updateWarehouse_stockLevels {db db' : Db} {tenantId id : Uuid} {dto : WarehousePatch}
    (ok : updateWarehouse db tenantId id dto = .ok db') : db'.stockLevels = db.stockLevels := by
  simp only [updateWarehouse, bind_eq_ok, ensure_eq_ok, pure_eq_ok] at ok
  obtain ⟨_, -, -, -, rfl⟩ := ok
  rfl

end SmartErp.Inventory
