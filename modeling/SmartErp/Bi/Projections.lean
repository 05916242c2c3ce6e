import SmartErp.Failure
import SmartErp.Foundations.Table

/-!
# Read model projections

`projection.orchestrator.ts`: a run marks the cursor, lets the projection read its sources, replaces the rows
of the projection in one transaction, 500 rows at a time, and saves the cursor again. A payload is the text
of its JSON.
-/

namespace SmartErp.Bi
open Foundations

abbrev Time := ℤ

structure ReadModelRow where
  tenantId : Uuid
  projectionId : String
  key : String
  payload : String
  version : ℕ
  deriving DecidableEq

def ReadModelRow.index (r : ReadModelRow) : Uuid × String × String := (r.tenantId, r.projectionId, r.key)

inductive CursorStatus where
  | idle
  | running
  | failed
  deriving DecidableEq

structure ProjectionCursor where
  tenantId : Uuid
  projectionId : String
  lastProcessedAt : Option Time := none
  rowsProjected : ℕ
  status : CursorStatus
  lastError : Option String := none
  deriving DecidableEq

def ProjectionCursor.index (c : ProjectionCursor) : Uuid × String := (c.tenantId, c.projectionId)

structure Db where
  rows : Table ReadModelRow.index
  cursors : Table ProjectionCursor.index

structure ProjectionRow where
  key : String
  payload : String
  deriving DecidableEq

structure ProjectionContext where
  tenantId : Uuid
  fromTimestamp : Option Time
  toTimestamp : Option Time

structure ProjectionRunResult where
  rows : List ProjectionRow
  cursorAt : Option Time := none

structure Projection where
  id : String
  run : ProjectionContext → Except Failure ProjectionRunResult

def get (registry : List Projection) (id : String) : Except Failure Projection :=
  require (registry.find? (·.id = id)) (.notFound s!"Projection '{id}' not found")

/-- What goes wrong in the database during a run: with the cursor marked as running, with the cursor marked
as failed, with the slices of the rows, and with the cursor at the end. -/
structure Faults where
  marking : Option Failure := none
  failing : Option Failure := none
  slice : ℕ → Option Failure := fun _ => none
  advancing : Option Failure := none

/-- One call of `run`, with the readings of the clock. -/
structure Call where
  registry : List Projection
  tenantId : Uuid
  projectionId : String
  fromTimestamp : Option Time := none
  toTimestamp : Option Time := none
  start : Time := 0
  now : Time := 0
  finish : Time := 0
  faults : Faults := {}

structure RunProjectionResult where
  projectionId : String
  rowsProjected : ℕ
  cursorAt : Time
  durationMs : Time

inductive Stage where
  | registry
  | cursor
  | projection
  | rows
  deriving DecidableEq

inductive Outcome where
  | done (result : RunProjectionResult)
  | failed (stage : Stage) (failure : Failure)

/-! ## The rows -/

def entity (tenantId : Uuid) (projectionId : String) (r : ProjectionRow) : ReadModelRow :=
  { tenantId, projectionId, key := r.key, payload := r.payload, version := 1 }

def insertRow (t : Table ReadModelRow.index) (r : ReadModelRow) : Except Failure (Table ReadModelRow.index) := do
  ensure (r.key.length ≤ 200) (.database "value too long for type character varying(200)")
  ensure (t.find? r.index = none) (.database "duplicate key value violates unique constraint")
  return t.save r

def saveSlices (fault : ℕ → Option Failure) : ℕ → List (List ReadModelRow) → Table ReadModelRow.index →
    Except Failure (Table ReadModelRow.index)
  | _, [], t => .ok t
  | i, slice :: rest, t => do
      reach (fault i)
      let t ← slice.foldlM insertRow t
      saveSlices fault (i + 1) rest t

def chunkSize : ℕ := 500

def upsertRows (t : Table ReadModelRow.index) (tenantId : Uuid) (projectionId : String)
    (result : ProjectionRunResult) (fault : ℕ → Option Failure) : Except Failure (Table ReadModelRow.index) :=
  if result.rows.length = 0 then .ok t
  else
    let kept := t.filter fun r => !decide (r.tenantId = tenantId ∧ r.projectionId = projectionId)
    let entities := result.rows.map (entity tenantId projectionId)
    saveSlices fault 0 (slices chunkSize entities.length entities) kept

/-! ## A run -/

def Db.saveCursor (db : Db) (cursor : ProjectionCursor) : Db := { db with cursors := db.cursors.save cursor }

def markRunning (db : Db) (tenantId : Uuid) (projectionId : String) : ProjectionCursor :=
  match db.cursors.find? (tenantId, projectionId) with
  | none => { tenantId, projectionId, status := .running, rowsProjected := 0 }
  | some cursor => { cursor with status := .running, lastError := none }

def Call.context (call : Call) : ProjectionContext := ⟨call.tenantId, call.fromTimestamp, call.toTimestamp⟩

def finish (db : Db) (call : Call) (cursor : ProjectionCursor) (result : ProjectionRunResult) : Db × Outcome :=
  match upsertRows db.rows call.tenantId call.projectionId result call.faults.slice with
  | .error failure => (db, .failed .rows failure)
  | .ok rows =>
      let db := { db with rows }
      let cursorAt := (result.cursorAt.or call.toTimestamp).getD call.now
      match reach call.faults.advancing with
      | .error failure => (db, .failed .cursor failure)
      | .ok () =>
          (db.saveCursor { cursor with
            lastProcessedAt := some cursorAt
            rowsProjected := result.rows.length
            status := .idle
            lastError := none },
          .done ⟨call.projectionId, result.rows.length, cursorAt, call.finish - call.start⟩)

def run (db : Db) (call : Call) : Db × Outcome :=
  match get call.registry call.projectionId with
  | .error failure => (db, .failed .registry failure)
  | .ok projection =>
      let cursor := markRunning db call.tenantId call.projectionId
      match reach call.faults.marking with
      | .error failure => (db, .failed .cursor failure)
      | .ok () =>
          let db := db.saveCursor cursor
          match projection.run call.context with
          | .error err =>
              match reach call.faults.failing with
              | .error failure => (db, .failed .cursor failure)
              | .ok () => (db.saveCursor { cursor with status := .failed, lastError := some err.message },
                  .failed .projection err)
          | .ok result => finish db call cursor result

def stored (db : Db) (tenantId : Uuid) (projectionId : String) : List ReadModelRow :=
  db.rows.rows.filter fun r => decide (r.tenantId = tenantId ∧ r.projectionId = projectionId)

def Call.result (call : Call) : Except Failure ProjectionRunResult := do
  let projection ← get call.registry call.projectionId
  projection.run call.context

def Call.entities (call : Call) (result : ProjectionRunResult) : List ReadModelRow :=
  result.rows.map (entity call.tenantId call.projectionId)

/-- A run that succeeds leaves the rows that the projection returned, one that fails leaves the rows that
were there, and marks the cursor unless it was the cursor that could not be saved. An id without a projection
has no cursor. -/
def Refreshed (db : Db) (call : Call) : Prop :=
  match run db call with
  | (after, .done _) => ∃ result, call.result = .ok result ∧
      (stored after call.tenantId call.projectionId).Perm (call.entities result)
  | (after, .failed stage failure) =>
      (stored after call.tenantId call.projectionId).Perm (stored db call.tenantId call.projectionId) ∧
      (stage = .projection ∨ stage = .rows →
        ∃ cursor, after.cursors.find? (call.tenantId, call.projectionId) = some cursor ∧
          cursor.status = .failed ∧ cursor.lastError = some failure.message)

def Call.Storable (call : Call) (result : ProjectionRunResult) : Prop :=
  (result.rows.map (·.key)).Nodup ∧ (∀ r ∈ result.rows, r.key.length ≤ 200) ∧
    ∀ i < (slices chunkSize result.rows.length result.rows).length, call.faults.slice i = none

/-- Of the projections that return rows: they can be stored, and where the cursor fails at the end they are
those that were there. Of the ones that return none: there were none, unless the cursor fails at the end. -/
def Replaces (db : Db) (call : Call) : Prop :=
  call.faults.marking = none → ∀ result, call.result = .ok result →
    if result.rows = [] then
      call.faults.advancing = none → stored db call.tenantId call.projectionId = []
    else call.Storable result ∧ (call.faults.advancing ≠ none →
      (stored db call.tenantId call.projectionId).Perm (call.entities result))

/-! ## What the row transaction does -/

theorem saveSlices_ok {fault : ℕ → Option Failure} {i : ℕ} {chunks : List (List ReadModelRow)}
    {t u : Table ReadModelRow.index} :
    saveSlices fault i chunks t = .ok u ↔
      (∀ j < chunks.length, fault (i + j) = none) ∧ chunks.flatten.foldlM insertRow t = .ok u := by
  induction chunks generalizing i t with
  | nil => simp [saveSlices]
  | cons chunk chunks ih =>
      rw [foldlM_flatten, foldlM_cons_ok, List.length_cons, Nat.forall_lt_succ_left']
      simp only [saveSlices, bind_eq_ok, reach_eq_ok, ih, foldlM_flatten, exists_const]
      constructor
      · rintro ⟨here, t', first, later, rest⟩
        exact ⟨⟨here, fun j lt => by rw [← later j lt]; congr 1; omega⟩, t', first, rest⟩
      · rintro ⟨⟨here, later⟩, t', first, rest⟩
        exact ⟨here, t', first, fun j lt => by rw [← later j lt]; congr 1; omega, rest⟩

theorem insertRow_ok {t u : Table ReadModelRow.index} {r : ReadModelRow} :
    insertRow t r = .ok u ↔ r.key.length ≤ 200 ∧ t.find? r.index = none ∧ t.save r = u := by
  simp only [insertRow, bind_eq_ok, ensure_eq_ok, pure_eq_ok, exists_const]

theorem insertRows_ok {rs : List ReadModelRow} {t : Table ReadModelRow.index} :
    (∃ u, rs.foldlM insertRow t = .ok u) ↔
      (rs.map ReadModelRow.index).Nodup ∧ ∀ r ∈ rs, r.key.length ≤ 200 ∧ t.find? r.index = none := by
  induction rs generalizing t with
  | nil => simp
  | cons r rs ih =>
      simp only [foldlM_cons_ok, insertRow_ok, List.map_cons, List.nodup_cons, List.forall_mem_cons]
      constructor
      · rintro ⟨u, -, ⟨fits, free, rfl⟩, rest⟩
        obtain ⟨nodup, others⟩ := ih.mp ⟨u, rest⟩
        refine ⟨⟨fun mem => ?_, nodup⟩, ⟨fits, free⟩, fun r' mem => ?_⟩
        · obtain ⟨r', mem', same⟩ := List.mem_map.mp mem
          have taken := (others r' mem').2
          rw [same, Table.find?_save_self] at taken
          cases taken
        · obtain ⟨fits', free'⟩ := others r' mem
          rw [Table.find?_save] at free'
          split_ifs at free'
          exact ⟨fits', free'⟩
      · rintro ⟨⟨other, nodup⟩, ⟨fits, free⟩, others⟩
        have rest : ∃ u, rs.foldlM insertRow (t.save r) = .ok u := by
          refine ih.mpr ⟨nodup, fun r' mem => ⟨(others r' mem).1, ?_⟩⟩
          rw [Table.find?_save_of_ne, (others r' mem).2]
          intro same
          exact other (same ▸ List.mem_map_of_mem mem)
        obtain ⟨u, rest⟩ := rest
        exact ⟨u, t.save r, ⟨fits, free, rfl⟩, rest⟩

theorem insertRows_rows {rs : List ReadModelRow} {t u : Table ReadModelRow.index}
    (ok : rs.foldlM insertRow t = .ok u) : u.rows = t.rows ++ rs := by
  refine foldlM_prefix (fun done u => u.rows = t.rows ++ done) ?_ (by simp) ok
  intro done r u v rows inserted
  obtain ⟨-, free, rfl⟩ := insertRow_ok.mp inserted
  rw [Table.rows_save_of_none free, rows, List.append_assoc]

section Rows
variable {tenantId : Uuid} {projectionId : String} {result : ProjectionRunResult} {fault : ℕ → Option Failure}
  {t u : Table ReadModelRow.index}

theorem upsertRows_nil (none : result.rows = []) : upsertRows t tenantId projectionId result fault = .ok t := by
  simp [upsertRows, none]

theorem upsertRows_some (some : result.rows ≠ []) :
    upsertRows t tenantId projectionId result fault = .ok u ↔
      (∀ i < (slices chunkSize result.rows.length result.rows).length, fault i = none) ∧
      (result.rows.map (entity tenantId projectionId)).foldlM insertRow
        (t.filter fun r => !decide (r.tenantId = tenantId ∧ r.projectionId = projectionId)) = .ok u := by
  have number : result.rows.length ≠ 0 := fun zero => some (List.length_eq_zero_iff.mp zero)
  have whole : (slices chunkSize result.rows.length result.rows).flatten = result.rows :=
    slices_flatten (by decide) le_rfl
  simp only [upsertRows, number, if_false, List.length_map, saveSlices_ok, slices_map, Nat.zero_add]
  rw [← List.map_flatten, whole]

end Rows

theorem upsertRows_ok (db : Db) {call : Call} {result : ProjectionRunResult} (some : result.rows ≠ []) :
    (∃ u, upsertRows db.rows call.tenantId call.projectionId result call.faults.slice = .ok u) ↔
      call.Storable result := by
  simp only [upsertRows_some some, exists_and_left, insertRows_ok, Call.Storable, List.map_map, List.forall_mem_map]
  have keys : ReadModelRow.index ∘ entity call.tenantId call.projectionId =
      (fun key => (call.tenantId, call.projectionId, key)) ∘ (·.key) := by
    funext r
    rfl
  have inj : Function.Injective fun key : String => (call.tenantId, call.projectionId, key) := by
    intro a b same
    simpa using same
  have free : ∀ r ∈ result.rows, (db.rows.filter fun r =>
      !decide (r.tenantId = call.tenantId ∧ r.projectionId = call.projectionId)).find?
        (entity call.tenantId call.projectionId r).index = none := by
    intro r _
    rw [Table.find?_filter, Option.filter_eq_none_iff]
    intro old found
    have here := Table.key_of_find? found
    simp only [ReadModelRow.index, entity, Prod.mk.injEq] at here
    simp [here.1, here.2.1]
  rw [keys, ← List.map_map, List.nodup_map_iff inj]
  constructor
  · rintro ⟨sound, nodup, rows⟩
    exact ⟨nodup, fun r mem => (rows r mem).1, sound⟩
  · rintro ⟨nodup, fits, sound⟩
    exact ⟨sound, nodup, fun r mem => ⟨fits r mem, free r mem⟩⟩

theorem upsertRows_rows {db : Db} {call : Call} {result : ProjectionRunResult} {u : Table ReadModelRow.index}
    (some : result.rows ≠ [])
    (ok : upsertRows db.rows call.tenantId call.projectionId result call.faults.slice = .ok u) :
    u.rows.filter (fun r => decide (r.tenantId = call.tenantId ∧ r.projectionId = call.projectionId)) =
      call.entities result := by
  rw [insertRows_rows ((upsertRows_some some).mp ok).2, List.filter_append]
  have old : (db.rows.filter fun r => !decide (r.tenantId = call.tenantId ∧ r.projectionId = call.projectionId)).rows.filter
      (fun r => decide (r.tenantId = call.tenantId ∧ r.projectionId = call.projectionId)) = [] := by
    rw [List.filter_eq_nil_iff]
    intro r mem here
    have other := (List.mem_filter.mp mem).2
    rw [here] at other
    cases other
  have new : (result.rows.map (entity call.tenantId call.projectionId)).filter
      (fun r => decide (r.tenantId = call.tenantId ∧ r.projectionId = call.projectionId)) =
        call.entities result := by
    apply List.filter_eq_self.mpr
    intro r mem
    obtain ⟨row, -, rfl⟩ := List.mem_map.mp mem
    simp [entity]
  rw [old, new, List.nil_append]

/-! ## Which runs replace -/

section Replacement
variable {db : Db} {call : Call}

@[simp] theorem stored_saveCursor (cursor : ProjectionCursor) (tenantId : Uuid) (projectionId : String) :
    stored (db.saveCursor cursor) tenantId projectionId = stored db tenantId projectionId := rfl

@[simp] theorem rows_saveCursor (cursor : ProjectionCursor) : (db.saveCursor cursor).rows = db.rows := rfl

theorem markRunning_index (db : Db) (tenantId : Uuid) (projectionId : String) :
    (markRunning db tenantId projectionId).index = (tenantId, projectionId) := by
  unfold markRunning
  cases found : db.cursors.find? (tenantId, projectionId) with
  | none => rfl
  | some cursor =>
      have here : cursor.index = (tenantId, projectionId) := Table.key_of_find? found
      exact here

theorem markRunning_status (tenantId : Uuid) (projectionId : String) :
    (markRunning db tenantId projectionId).status = .running := by
  unfold markRunning
  split <;> rfl

theorem find?_saveCursor {cursor : ProjectionCursor} {tenantId : Uuid} {projectionId : String}
    (here : cursor.index = (tenantId, projectionId)) :
    (db.saveCursor cursor).cursors.find? (tenantId, projectionId) = some cursor := by
  rw [← here]
  exact Table.find?_save_self db.cursors cursor

theorem get_result {projection : Projection} (found : get call.registry call.projectionId = .ok projection) :
    call.result = projection.run call.context := by
  simp only [Call.result, found]
  rfl

theorem upsertRows_fails {result : ProjectionRunResult} {failure : Failure} (some : result.rows ≠ [])
    (fails : upsertRows db.rows call.tenantId call.projectionId result call.faults.slice = .error failure) :
    ¬ call.Storable result := by
  intro storable
  obtain ⟨u, ok⟩ := (upsertRows_ok db some).mpr storable
  rw [fails] at ok
  cases ok

theorem finish_some (db : Db) (call : Call) (cursor : ProjectionCursor) {result : ProjectionRunResult} (some : result.rows ≠ []) :
    let r := finish (db.saveCursor cursor) call cursor result
    (∃ done, r.2 = .done done ∧ call.Storable result ∧ call.faults.advancing = none ∧
        stored r.1 call.tenantId call.projectionId = call.entities result) ∨
      (∃ failure, r.2 = .failed .rows failure ∧ ¬ call.Storable result ∧ r.1 = db.saveCursor cursor) ∨
      ∃ failure, r.2 = .failed .cursor failure ∧ call.Storable result ∧ call.faults.advancing ≠ none ∧
        stored r.1 call.tenantId call.projectionId = call.entities result := by
  simp only [finish, rows_saveCursor]
  cases rows : upsertRows db.rows call.tenantId call.projectionId result call.faults.slice with
  | error failure => exact .inr (.inl ⟨failure, rfl, upsertRows_fails some rows, rfl⟩)
  | ok u =>
      have storable : call.Storable result := (upsertRows_ok _ some).mp ⟨u, rows⟩
      cases advancing : call.faults.advancing with
      | none => exact .inl ⟨_, rfl, storable, rfl, upsertRows_rows some rows⟩
      | some failure => exact .inr (.inr ⟨failure, rfl, storable, by simp, upsertRows_rows some rows⟩)

theorem finish_nil (db : Db) (call : Call) (cursor : ProjectionCursor) {result : ProjectionRunResult} (none : result.rows = []) :
    let r := finish (db.saveCursor cursor) call cursor result
    stored r.1 call.tenantId call.projectionId = stored db call.tenantId call.projectionId ∧
      ((∃ done, r.2 = .done done ∧ call.faults.advancing = Option.none) ∨
        ∃ failure, r.2 = .failed .cursor failure ∧ call.faults.advancing ≠ Option.none) := by
  simp only [finish, rows_saveCursor, upsertRows_nil none]
  cases advancing : call.faults.advancing with
  | none => exact ⟨rfl, .inl ⟨_, rfl, rfl⟩⟩
  | some failure => exact ⟨rfl, .inr ⟨failure, rfl, by simp⟩⟩

theorem finish_refreshed {cursor : ProjectionCursor} {result : ProjectionRunResult}
    (here : cursor.index = (call.tenantId, call.projectionId)) (running : cursor.status = .running)
    (marked : call.faults.marking = none) (returned : call.result = .ok result)
    (ran : run db call = finish (db.saveCursor cursor) call cursor result) : Refreshed db call ↔ Replaces db call := by
  have condition : Replaces db call ↔ if result.rows = [] then
      call.faults.advancing = none → stored db call.tenantId call.projectionId = []
    else call.Storable result ∧ (call.faults.advancing ≠ none →
      (stored db call.tenantId call.projectionId).Perm (call.entities result)) := by
    simp [Replaces, marked, returned]
  rw [condition, Refreshed, ran]
  by_cases empty : result.rows = []
  · have entities : call.entities result = [] := by simp [Call.entities, empty]
    have spec := finish_nil db call cursor empty
    generalize finish (db.saveCursor cursor) call cursor result = r at spec ⊢
    obtain ⟨after, outcome⟩ := r
    simp only at spec
    rw [if_pos empty]
    obtain ⟨same, ⟨done, rfl, sound⟩ | ⟨failure, rfl, broken⟩⟩ := spec
    · simp [same, returned, entities, sound]
    · simp [same, broken]
  · have spec := finish_some db call cursor empty
    generalize finish (db.saveCursor cursor) call cursor result = r at spec ⊢
    obtain ⟨after, outcome⟩ := r
    simp only at spec
    rw [if_neg empty]
    obtain ⟨done, rfl, storable, sound, replaced⟩ | ⟨failure, rfl, unstorable, rfl⟩ |
      ⟨failure, rfl, storable, broken, replaced⟩ := spec
    · simp [returned, replaced, storable, sound]
    · simp only [find?_saveCursor here, unstorable, false_and, iff_false, not_and]
      rintro - marks
      obtain ⟨c, found, failed, -⟩ := marks (.inr trivial)
      rw [← Option.some_inj.mp found, running] at failed
      cases failed
    · simp [replaced, storable, broken, List.perm_comm]

theorem refreshed_iff : Refreshed db call ↔ Replaces db call := by
  have here := markRunning_index db call.tenantId call.projectionId
  cases found : get call.registry call.projectionId with
  | error failure =>
      refine iff_of_true ?_ fun _ result returned => ?_
      · simp [Refreshed, run, found]
      · simp [Call.result, found, bind, Except.bind] at returned
  | ok projection =>
      cases marking : call.faults.marking with
      | some failure =>
          refine iff_of_true ?_ fun marked => ?_
          · simp [Refreshed, run, found, marking, reach]
          · rw [marking] at marked
            cases marked
      | none =>
          cases returned : projection.run call.context with
          | error err =>
              have vacuous : Replaces db call := by
                intro _ result other
                rw [get_result found, returned] at other
                cases other
              refine iff_of_true ?_ vacuous
              cases failing : call.faults.failing with
              | some failure => simp [Refreshed, run, found, marking, returned, failing, reach]
              | none =>
                  simp only [Refreshed, run, found, marking, returned, failing, reach]
                  exact ⟨.rfl, fun _ => ⟨_, find?_saveCursor here, rfl, rfl⟩⟩
          | ok result =>
              refine finish_refreshed here (markRunning_status _ _) marking ((get_result found).trans returned) ?_
              simp only [run, found, marking, returned, reach]

/-- Run after run, each refreshes the rows exactly if each replaces in the state it finds. -/
theorem runs_refresh_iff (db : Db) (calls : List Call) :
    AllMet Refreshed (fun db call => (run db call).1) db calls ↔
      AllMet Replaces (fun db call => (run db call).1) db calls := by
  induction calls generalizing db with
  | nil => exact Iff.rfl
  | cons call calls ih => exact and_congr refreshed_iff (ih _)

end Replacement

namespace Sample

def totals (rows : List ProjectionRow) : Projection := ⟨"daily_invoice_totals", fun _ => .ok { rows }⟩

def refresh (rows : List ProjectionRow) : Call :=
  { registry := [totals rows], tenantId := 1, projectionId := "daily_invoice_totals" }

end Sample

open Sample in
/-- The only day with invoices is in the first run, and by the second they are gone. -/
theorem emptied_projection_keeps_rows :
    let day : ProjectionRow := ⟨"2026-04-01", "122.00"⟩
    let after := (run ⟨∅, ∅⟩ (refresh [day])).1
    stored (run after (refresh [])).1 1 "daily_invoice_totals" = [entity 1 "daily_invoice_totals" day] ∧
      ¬ AllMet Refreshed (fun db call => (run db call).1) ⟨∅, ∅⟩ [refresh [day], refresh []] := by
  refine ⟨by decide +kernel, fun met => ?_⟩
  have emptied := refreshed_iff.mp met.2.1 rfl ⟨[], none⟩ rfl rfl
  exact absurd emptied (by decide +kernel)

end SmartErp.Bi
