import SmartErp.Inventory.Levels

/-!
# The movement log

Replaying the log rebuilds the stock on hand, once the records of reservations are left out: these are
written as adjustments, without a unit cost, and move nothing.
-/

namespace SmartErp.Inventory
open Foundations

def adjust (onHand : StockKey → ℚ) (k : StockKey) (delta : ℚ) : StockKey → ℚ :=
  Function.update onHand k (onHand k + delta)

/-- A logged movement read as `applyMovementToLevels` reads a request. -/
def replayMovement (onHand : StockKey → ℚ) (m : StockMovement) : StockKey → ℚ :=
  match m.movementType with
  | .inbound | .productionOutput | .«return» | .adjustment =>
      match m.destinationWarehouseId with
      | some destination => adjust onHand (m.tenantId, m.productId, destination) m.quantity.val
      | none => onHand
  | .outbound | .productionConsumption | .scrap =>
      match m.sourceWarehouseId with
      | some source => adjust onHand (m.tenantId, m.productId, source) (-m.quantity.val)
      | none => onHand
  | .transfer =>
      match m.sourceWarehouseId, m.destinationWarehouseId with
      | some source, some destination =>
          adjust (adjust onHand (m.tenantId, m.productId, source) (-m.quantity.val))
            (m.tenantId, m.productId, destination) m.quantity.val
      | _, _ => onHand

def replay (onHand : StockKey → ℚ) (log : List StockMovement) : StockKey → ℚ :=
  log.foldl replayMovement onHand

def StockMovement.recordsReservation (m : StockMovement) : Bool :=
  m.movementType = .adjustment && m.unitCostAtTime.isNone

def stockMoves (log : List StockMovement) : List StockMovement := log.filter (!·.recordsReservation)

def Logged (db db' : Db) : Prop :=
  ∃ ms, db'.stockMovements = db.stockMovements ++ ms ∧ db'.onHand = replay db.onHand (stockMoves ms)

theorem Logged.refl (db : Db) : Logged db db := ⟨[], (List.append_nil _).symm, rfl⟩

theorem Logged.trans {db mid db' : Db} (first : Logged db mid) (second : Logged mid db') :
    Logged db db' := by
  obtain ⟨ms, log, onHand⟩ := first
  obtain ⟨ms', log', onHand'⟩ := second
  refine ⟨ms ++ ms', ?_, ?_⟩
  · rw [log', log, List.append_assoc]
  · rw [onHand', onHand, replay, replay, replay, stockMoves, stockMoves, stockMoves,
      List.filter_append, List.foldl_append]

theorem Logged.foldlM {α : Type} {f : Db → α → Except Failure Db} {as : List α} {db db' : Db}
    (each : ∀ a ∈ as, ∀ u v, f u a = .ok v → Logged u v) (ok : as.foldlM f db = .ok db') :
    Logged db db' := by
  apply foldlM_keeps (Logged db) _ (Logged.refl db) ok
  intro u a v mem logged step
  exact logged.trans (each a mem u v step)

/-! ## Each writer -/

/-- The goods an operation moves are counted in hundredths, as the columns are. -/
def Op.Hundredths : Op → Prop
  | .recordStockMovement _ dto => Exact 2 dto.quantity
  | .shipReservation _ requests => ∀ r ∈ requests, Exact 2 r.quantity
  | .consumeBomForProductionOrder _ opts => ∀ line ∈ opts.bom, Exact 2 line.quantityRequired
  | .reserveStock _ _ | .releaseReservation _ _ => True

instance (op : Op) : Decidable op.Hundredths := by
  cases op <;> unfold Op.Hundredths <;> infer_instance

variable {precedes : String → String → Bool}

section
open Sample

end
end SmartErp.Inventory
