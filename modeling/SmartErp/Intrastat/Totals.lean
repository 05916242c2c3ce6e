import SmartErp.Intrastat.Declarations
import Mathlib.Data.List.Induction

/-!
# The totals of a declaration

Lines change in `generate` alone, which replaces those of a draft. `reopen` sets the totals to zero and leaves
the lines where they are, and `generate` adds up numbers, whose sums are exact only as long as a double holds
them.
-/

namespace SmartErp.Intrastat
open Foundations Procurement.Sourcing

def linesOf (db : Db) (declarationId : Uuid) : List IntrastatLine :=
  db.lines.filter (·.declarationId = declarationId)

def Db.Totals (db : Db) (d : IntrastatDeclaration) : Prop :=
  d.lineCount = (linesOf db d.id).length ∧ d.totalValueCents = ((linesOf db d.id).map (·.valueCents)).sum

def Consistent (db : Db) : Prop := ∀ d ∈ db.declarations.rows, db.Totals d

def IntrastatDeclarationStatus.Frozen (status : IntrastatDeclarationStatus) : Prop :=
  status = .submitted ∨ status = .accepted ∨ status = .rejected

def Kept (db : Db) (op : Operation) : Prop :=
  Consistent (next db op) ∧
    ∀ d ∈ db.declarations.rows, d.status.Frozen → linesOf (next db op) d.id = linesOf db d.id

def exactSum (ns : List JsNumber) : JsNumber := ns.foldl JsNumber.add (.finite 0)

/-- Every partial sum is a number that a double holds. -/
def AddsExactly (ns : List JsNumber) : Prop := ∀ ms, ms <+: ns → (exactSum ms).double = exactSum ms

theorem sumOf_exact {ns : List JsNumber} (exact : AddsExactly ns) : sumOf ns = exactSum ns := by
  induction ns using List.reverseRecOn with
  | nil => rfl
  | append_singleton ns n ih =>
      have rest := ih fun ms start => exact ms (start.trans (List.prefix_append ns [n]))
      have last := exact (ns ++ [n]) (List.prefix_refl _)
      rw [exactSum, List.foldl_append] at last
      rw [sumOf, List.foldl_append, exactSum, List.foldl_append]
      rw [sumOf] at rest
      rw [rest]
      exact last

theorem exactSum_integers (zs : List ℤ) : exactSum (zs.map fun z : ℤ => .finite z) = .finite zs.sum := by
  induction zs using List.reverseRecOn with
  | nil => simp [exactSum]
  | append_singleton zs z ih =>
      rw [exactSum] at ih
      rw [exactSum, List.map_append, List.foldl_append, ih]
      simp

theorem addsExactly_safe {zs : List ℤ} (safe : (zs.map (|·|)).sum < 2 ^ 53) :
    AddsExactly (zs.map fun z : ℤ => .finite z) := by
  rintro ms ⟨rest, whole⟩
  obtain ⟨ys, ws, rfl, rfl, -⟩ := List.map_eq_append_iff.mp whole.symm
  rw [exactSum_integers]
  apply JsNumber.double_safe
  have nonneg : 0 ≤ (ws.map (|·|)).sum := List.sum_nonneg (by simp)
  rw [List.map_append, List.sum_append] at safe
  linarith [abs_sum_le ys]

/-! ## What the operations do -/

section Operations
variable {db t : Db} {tenantId declarationId : Uuid}

theorem findDeclaration_ok {d : IntrastatDeclaration} :
    findDeclaration db tenantId declarationId = .ok d ↔
      db.declarations.find? d.id = some d ∧ d.id = declarationId ∧ d.tenantId = tenantId := by
  simp only [findDeclaration, require_eq_ok, Option.filter_eq_some_iff, decide_eq_true_eq]
  constructor
  · rintro ⟨found, tenant⟩
    have here : d.id = declarationId := Table.key_of_find? found
    exact ⟨here ▸ found, here, tenant⟩
  · rintro ⟨found, rfl, tenant⟩
    exact ⟨found, tenant⟩

theorem generate_ok {actorUserId : Option Uuid} {sources : Sources} {now : Time}
    (ok : generate db tenantId declarationId actorUserId sources now = .ok t) :
    ∃ d persisted, findDeclaration db tenantId declarationId = .ok d ∧ d.status = .draft ∧
      (aggregateLines sources tenantId d.type d.periodYear (d.periodMonth.getD 0)).mapM (lineEntity declarationId) =
        .ok persisted ∧
      ∃ total, sumOf ((aggregateLines sources tenantId d.type d.periodYear (d.periodMonth.getD 0)).map (·.valueCents)) =
        .finite (total : ℤ) ∧
      t = Db.save { db with
          lines := (db.lines.filter fun l => !decide (l.tenantId = tenantId ∧ l.declarationId = declarationId)) ++
            persisted }
        { d with
          status := .generated
          generatedAt := some now
          generatedBy := actorUserId
          totalValueCents := total
          lineCount := persisted.length } := by
  simp only [generate, bind_eq_ok, ensure_eq_ok, pure_eq_ok] at ok
  obtain ⟨d, found, _, can, _, -, persisted, lines, total, column, rfl⟩ := ok
  refine ⟨d, persisted, found, ?_, lines, total, bigintColumn_ok column, rfl⟩
  cases status : d.status <;> simp [status, canIntrastatTransition, transitions] at can
  rfl

theorem lineEntity_ok {candidate : LineOf JsNumber} {line : IntrastatLine}
    (ok : lineEntity declarationId candidate = .ok line) :
    line.declarationId = declarationId ∧ line.tenantId = candidate.tenantId ∧
      JsNumber.finite line.valueCents = candidate.valueCents := by
  simp only [lineEntity, bind_eq_ok, pure_eq_ok] at ok
  obtain ⟨value, column, statistical, -, rfl⟩ := ok
  exact ⟨rfl, rfl, (bigintColumn_ok column).symm⟩

structure Moved (db : Db) (d d' : IntrastatDeclaration) : Prop where
  found : db.declarations.find? d.id = some d
  id : d'.id = d.id
  tenantId : d'.tenantId = d.tenantId
  totals : d'.lineCount = d.lineCount ∧ d'.totalValueCents = d.totalValueCents ∨
    linesOf db d.id = [] ∧ d'.lineCount = 0 ∧ d'.totalValueCents = 0

theorem transitionStatus_ok {target : IntrastatDeclarationStatus}
    {apply : IntrastatDeclaration → Except Failure IntrastatDeclaration}
    (ok : transitionStatus db tenantId declarationId target apply = .ok t) :
    ∃ d d', findDeclaration db tenantId declarationId = .ok d ∧ canIntrastatTransition d.status target ∧
      apply { d with status := target } = .ok d' ∧ t = db.save d' := by
  simp only [transitionStatus, bind_eq_ok, ensure_eq_ok, pure_eq_ok] at ok
  obtain ⟨d, found, _, can, d', applied, rfl⟩ := ok
  exact ⟨d, d', found, can, applied, rfl⟩

end Operations

inductive Change (db : Db) : Db → Prop
  | none : Change db db
  | draft {d : IntrastatDeclaration} (fresh : db.declarations.find? d.id = Option.none) (count : d.lineCount = 0)
      (total : d.totalValueCents = 0) : Change db (db.save d)
  | moved {d d' : IntrastatDeclaration} (moved : Moved db d d') : Change db (db.save d')
  | generated {d d' : IntrastatDeclaration} {persisted : List IntrastatLine}
      (found : db.declarations.find? d.id = some d) (status : d.status = .draft) (id : d'.id = d.id)
      (tenantId : d'.tenantId = d.tenantId)
      (lines : ∀ l ∈ persisted, l.declarationId = d.id ∧ l.tenantId = d.tenantId)
      (count : d'.lineCount = persisted.length)
      (total : d'.totalValueCents = (persisted.map (·.valueCents)).sum) :
      Change db (Db.save { db with
        lines := (db.lines.filter fun l => !decide (l.tenantId = d.tenantId ∧ l.declarationId = d.id)) ++
          persisted } d')

theorem aggregateLines_tenant {sources : Sources} {tenantId : Uuid} {type : IntrastatDeclarationType}
    {periodYear periodMonth : ℤ} {l : LineOf JsNumber}
    (mem : l ∈ aggregateLines sources tenantId type periodYear periodMonth) : l.tenantId = tenantId := by
  cases type with
  | cessioni =>
      simp only [aggregateLines, aggregateCessioni, numbered, List.mem_mapIdx] at mem
      obtain ⟨i, _, rfl⟩ := mem
      rfl
  | acquisti =>
      simp only [aggregateLines, aggregateAcquisti, numbered, List.mem_mapIdx] at mem
      obtain ⟨i, _, rfl⟩ := mem
      rfl

theorem mapM_lineEntity {sources : Sources} {tenantId declarationId : Uuid} {type : IntrastatDeclarationType}
    {periodYear periodMonth : ℤ} {persisted : List IntrastatLine}
    (saved : (aggregateLines sources tenantId type periodYear periodMonth).mapM (lineEntity declarationId) =
      .ok persisted) :
    (∀ l ∈ persisted, l.declarationId = declarationId ∧ l.tenantId = tenantId) ∧
      (persisted.map (·.valueCents)).map (fun z : ℤ => JsNumber.finite z) =
        (aggregateLines sources tenantId type periodYear periodMonth).map (·.valueCents) := by
  refine ⟨fun l mem => ?_, ?_⟩
  · obtain ⟨candidate, mem', entity⟩ := (mapM_ok saved).2 l mem
    obtain ⟨declaration, tenant, -⟩ := lineEntity_ok entity
    exact ⟨declaration, tenant.trans (aggregateLines_tenant mem')⟩
  · rw [List.map_map]
    exact mapM_map (fun a _ l entity => (lineEntity_ok entity).2.2) saved

def Owned (db : Db) : Prop := ∀ l ∈ db.lines, ∃ d, db.declarations.find? l.declarationId = some d ∧ d.tenantId = l.tenantId

section Change
variable {db t : Db} {d d' : IntrastatDeclaration}

theorem Totals.congr (lines : linesOf t d.id = linesOf db d.id) (totals : db.Totals d) : t.Totals d := by
  rw [Db.Totals, lines]
  exact totals

theorem Moved.consistent (moved : Moved db d d') (consistent : Consistent db) : Consistent (db.save d') := by
  intro x mem
  rcases Table.mem_save.mp mem with rfl | ⟨old, -⟩
  · have totals := consistent d (Table.mem_of_find? moved.found)
    rw [Db.Totals, moved.id]
    rcases moved.totals with ⟨count, total⟩ | ⟨none, count, total⟩
    · rw [count, total]
      exact totals
    · have none' : linesOf (db.save x) d.id = [] := none
      simp [none', count, total]
  · exact consistent x old

theorem Owned.save (owned : Owned db) (same : ∀ old, db.declarations.find? d.id = some old → old.tenantId = d.tenantId) :
    Owned (db.save d) := by
  intro l mem
  obtain ⟨old, found, tenant⟩ := owned l mem
  simp only [Db.save, Table.find?_save]
  split_ifs with here
  · exact ⟨d, rfl, (same old (here ▸ found)).symm.trans tenant⟩
  · exact ⟨old, found, tenant⟩

theorem linesOf_fresh (owned : Owned db) (fresh : db.declarations.find? d.id = none) : linesOf db d.id = [] := by
  apply List.filter_eq_nil_iff.mpr
  intro l mem here
  obtain ⟨old, found, -⟩ := owned l mem
  rw [decide_eq_true_eq] at here
  rw [here, fresh] at found
  cases found

theorem linesOf_replaced (owned : Owned db) {persisted : List IntrastatLine}
    (found : db.declarations.find? d.id = some d)
    (lines : ∀ l ∈ persisted, l.declarationId = d.id ∧ l.tenantId = d.tenantId) (id : Uuid) :
    ((db.lines.filter fun l => !decide (l.tenantId = d.tenantId ∧ l.declarationId = d.id)) ++ persisted).filter
        (fun l => decide (l.declarationId = id)) =
      if id = d.id then persisted else linesOf db id := by
  rw [List.filter_append, List.filter_filter]
  split_ifs with here
  · subst here
    have gone : (db.lines.filter fun l => decide (l.declarationId = d.id) &&
        !decide (l.tenantId = d.tenantId ∧ l.declarationId = d.id)) = [] := by
      apply List.filter_eq_nil_iff.mpr
      intro l mem
      obtain ⟨old, found', tenant⟩ := owned l mem
      by_cases same : l.declarationId = d.id
      · rw [same, found, Option.some_inj] at found'
        simp [same, ← tenant, ← found']
      · simp [same]
    rw [gone, List.nil_append]
    exact List.filter_eq_self.mpr fun l mem => decide_eq_true (lines l mem).1
  · have none : persisted.filter (fun l => decide (l.declarationId = id)) = [] := by
      apply List.filter_eq_nil_iff.mpr
      intro l mem same
      rw [decide_eq_true_eq] at same
      exact here (same.symm.trans (lines l mem).1)
    rw [none, List.append_nil]
    apply List.filter_congr
    intro l _
    by_cases same : l.declarationId = id
    · simp [same, here]
    · simp [same]

theorem Owned.replaced (owned : Owned db) {persisted : List IntrastatLine}
    (found : db.declarations.find? d.id = some d) (id : d'.id = d.id) (tenantId : d'.tenantId = d.tenantId)
    (lines : ∀ l ∈ persisted, l.declarationId = d.id ∧ l.tenantId = d.tenantId) :
    Owned (Db.save { db with
      lines := (db.lines.filter fun l => !decide (l.tenantId = d.tenantId ∧ l.declarationId = d.id)) ++ persisted } d') := by
  intro l mem
  simp only [Db.save, Table.find?_save]
  rcases List.mem_append.mp mem with old | new
  · obtain ⟨declaration, found', tenant⟩ := owned l (List.mem_of_mem_filter old)
    split_ifs with here
    · rw [← here, id, found, Option.some_inj] at found'
      exact ⟨d', rfl, by rw [tenantId, found', tenant]⟩
    · exact ⟨declaration, found', tenant⟩
  · obtain ⟨declaration, tenant⟩ := lines l new
    rw [if_pos (id.trans declaration.symm)]
    exact ⟨d', rfl, tenantId.trans tenant.symm⟩

end Change

theorem Change.keeps {db t : Db} (change : Change db t) (consistent : Consistent db) (owned : Owned db) :
    Consistent t ∧ Owned t ∧
      ∀ d ∈ db.declarations.rows, d.status.Frozen → linesOf t d.id = linesOf db d.id := by
  cases change with
  | none => exact ⟨consistent, owned, fun _ _ _ => rfl⟩
  | @draft d fresh count total =>
      refine ⟨fun x mem => ?_, owned.save fun old found => ?_, fun _ _ _ => rfl⟩
      · rcases Table.mem_save.mp mem with rfl | ⟨old, -⟩
        · have none : linesOf db x.id = [] := linesOf_fresh owned fresh
          have none : linesOf (db.save x) x.id = [] := none
          simp [Db.Totals, none, count, total]
        · exact consistent x old
      · rw [fresh] at found
        cases found
  | @moved d d' moved =>
      refine ⟨moved.consistent consistent, owned.save fun old found => ?_, fun _ _ _ => rfl⟩
      rw [moved.id, moved.found, Option.some_inj] at found
      rw [← found, moved.tenantId]
  | @generated d d' persisted found status id tenantId lines count total =>
      have replaced := linesOf_replaced owned found lines
      refine ⟨fun x mem => ?_, owned.replaced found id tenantId lines, fun x mem frozen => ?_⟩
      · rcases Table.mem_save.mp mem with rfl | ⟨old, other⟩
        · rw [Db.Totals, linesOf, id]
          simp only [Db.save, replaced, if_true]
          exact ⟨count, total⟩
        · have differs : x.id ≠ d.id := fun same => other (same.trans id.symm)
          rw [Db.Totals, linesOf]
          simp only [Db.save, replaced, if_neg differs]
          exact consistent x old
      · have differs : x.id ≠ d.id := by
          intro same
          have stored := Table.find?_of_mem mem
          rw [same, found, Option.some_inj] at stored
          rw [← stored, status] at frozen
          simp [IntrastatDeclarationStatus.Frozen] at frozen
        rw [linesOf]
        simp only [Db.save, replaced, if_neg differs]

namespace Sample

theorem april_month : 1 ≤ 4 ∧ 4 ≤ 12 := by decide

theorem april_day : 1 ≤ 15 ∧ 15 ≤ Accounting.daysInMonth 2026 4 := by decide

theorem april_year : 2026 < 10000 := by decide

def goods : SupplierInvoice where
  id := 7
  tenantId := 1
  supplierInvoiceDate := ⟨2026, 4, 15, april_year, april_month, april_day⟩
  totalCents := 12200
  partnerCountry := some "DE"
  partnerVatNumber := some "DE123456789"

def april : Sources := { supplierInvoices := (∅ : Table SupplierInvoice.id).save goods }

def started : List Operation := [.createOrFindDraft 1 2 .acquisti 2026 4, .generate 1 2 none april 0]

end Sample

end SmartErp.Intrastat
