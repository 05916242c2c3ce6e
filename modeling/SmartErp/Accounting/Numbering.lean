import SmartErp.Accounting.Liquidation

/-!
# The numbers of the invoices

`createInvoice` counts the invoices of the tenant and year first and inserts later. Meanwhile other calls
may have inserted, so the count can be stale, but it is never ahead of the table.
-/

namespace SmartErp.Accounting
open Foundations

theorem ofDigitChars_invoiceNumber (count : ℕ) :
    Nat.ofDigitChars 10 (invoiceNumber count).toList 0 = count + 1 := by
  rw [invoiceNumber, String.toList_ofList, List.leftpad, Nat.ofDigitChars_append]
  simp

theorem invoiceNumber_injective : Function.Injective invoiceNumber := by
  intro count count' same
  have value := ofDigitChars_invoiceNumber count
  rw [same, ofDigitChars_invoiceNumber] at value
  exact (Nat.succ.inj value).symm

theorem draftInvoice_named {tenantId id : Uuid} {number : String} {dto : CreateInvoiceDto}
    {invoice : Invoice} (ok : draftInvoice tenantId id number dto = .ok invoice) :
    invoice.tenantId = tenantId ∧ invoice.number = number ∧ invoice.fiscalYear = dto.invoiceDate.year := by
  simp only [draftInvoice, bind_eq_ok, pure_eq_ok] at ok
  obtain ⟨_, -, _, -, _, -, rfl⟩ := ok
  exact ⟨rfl, rfl, rfl⟩

/-! ## The numbers of a tenant and year -/

def Db.numbers (db : Db) (tenantId : Uuid) (fiscalYear : ℕ) : List String :=
  (db.invoices.rows.filter fun i => i.tenantId = tenantId ∧ i.fiscalYear = fiscalYear).map (·.number)

theorem length_numbers (db : Db) (tenantId : Uuid) (fiscalYear : ℕ) :
    (db.numbers tenantId fiscalYear).length = db.countInvoices tenantId fiscalYear := by
  rw [Db.numbers, List.length_map, Db.countInvoices, List.countP_eq_length_filter]

theorem numbers_save {db db' : Db} {invoice row : Invoice} (found : db.invoices.find? invoice.id = some row)
    (same : SameInvoice invoice row) (saved : db'.invoices = db.invoices.save invoice) (tenantId : Uuid)
    (fiscalYear : ℕ) : db'.numbers tenantId fiscalYear = db.numbers tenantId fiscalYear := by
  have columns (db : Db) : db.numbers tenantId fiscalYear =
      ((db.invoices.rows.map fun i => (i.tenantId, i.fiscalYear, i.number)).filter
        fun c => c.1 = tenantId ∧ c.2.1 = fiscalYear).map (·.2.2) := by
    rw [Db.numbers, List.filter_map, List.map_map]
    rfl
  rw [columns, columns, saved, Table.map_save _ found]
  rw [same.tenantId, same.fiscalYear, same.number]

theorem numbers_insert {db : Db} {invoice : Invoice} (fresh : db.invoices.find? invoice.id = none)
    (tenantId : Uuid) (fiscalYear : ℕ) :
    ({ db with invoices := db.invoices.save invoice } : Db).numbers tenantId fiscalYear =
      db.numbers tenantId fiscalYear ++
        if invoice.tenantId = tenantId ∧ invoice.fiscalYear = fiscalYear then [invoice.number] else [] := by
  simp only [Db.numbers, Table.rows_save_of_none fresh, List.filter_append, List.map_append]
  by_cases here : invoice.tenantId = tenantId ∧ invoice.fiscalYear = fiscalYear <;> simp [here]

/-! ## Overlapping calls -/

def Call.atRest : Call → Bool
  | create .. | accept .. | queue .. | returned | failed _ => true
  | counted .. | loadedToAccept .. | loadedToQueue .. => false

structure Numbered {κ : Type} (s : Pool κ Db Call) : Prop where
  gapless : ∀ tenantId fiscalYear, Gapless invoiceNumber (s.shared.numbers tenantId fiscalYear)
  counted : ∀ i tenantId id number dto, s.calls i = .counted tenantId id number dto →
    ∃ count ≤ s.shared.countInvoices tenantId dto.invoiceDate.year, number = invoiceNumber count
  loaded : ∀ i invoice, (s.calls i).loaded = some invoice →
    ∃ row, s.shared.invoices.find? invoice.id = some row ∧ SameInvoice invoice row

section
variable {κ : Type} [DecidableEq κ] {s : Pool κ Db Call}

theorem Numbered.read (numbered : Numbered s) {i : κ} {call : Call}
    (loaded : ∀ invoice, call.loaded = some invoice → s.shared.invoices.find? invoice.id = some invoice)
    (counted : ∀ tenantId id number dto, call = .counted tenantId id number dto →
      number = invoiceNumber (s.shared.countInvoices tenantId dto.invoiceDate.year)) :
    Numbered ⟨s.shared, Function.update s.calls i call⟩ where
  gapless := numbered.gapless
  counted j tenantId id number dto eq := by
    rcases Pool.update_eq_cases eq with ⟨-, new⟩ | ⟨-, old⟩
    · exact ⟨_, le_rfl, counted tenantId id number dto new⟩
    · exact numbered.counted j tenantId id number dto old
  loaded j invoice eq := by
    rcases loaded_cases eq with new | old
    · exact ⟨invoice, loaded invoice new, rfl, rfl, rfl, rfl⟩
    · exact numbered.loaded j invoice old

theorem Numbered.write (numbered : Numbered s) {i : κ} {db : Db}
    (gapless : ∀ tenantId fiscalYear, Gapless invoiceNumber (db.numbers tenantId fiscalYear))
    (more : ∀ tenantId fiscalYear,
      (s.shared.numbers tenantId fiscalYear).length ≤ (db.numbers tenantId fiscalYear).length)
    (rows : ∀ id row, s.shared.invoices.find? id = some row →
      ∃ row', db.invoices.find? id = some row' ∧ SameInvoice row row') :
    Numbered ⟨db, Function.update s.calls i .returned⟩ where
  gapless := gapless
  counted j tenantId id number dto eq := by
    rcases Pool.update_eq_cases eq with ⟨-, new⟩ | ⟨-, old⟩
    · cases new
    · obtain ⟨count, behind, rfl⟩ := numbered.counted j tenantId id number dto old
      refine ⟨count, behind.trans ?_, rfl⟩
      rw [← length_numbers, ← length_numbers]
      exact more tenantId dto.invoiceDate.year
  loaded j invoice eq := by
    rcases loaded_cases eq with new | old
    · cases new
    · obtain ⟨row, found, same⟩ := numbered.loaded j invoice old
      obtain ⟨row', found', same'⟩ := rows invoice.id row found
      exact ⟨row', found', same.trans same'⟩

theorem Numbered.save (numbered : Numbered s) {i : κ} {db : Db} {invoice row : Invoice}
    (found : s.shared.invoices.find? invoice.id = some row) (same : SameInvoice invoice row)
    (saved : db.invoices = s.shared.invoices.save invoice) :
    Numbered ⟨db, Function.update s.calls i .returned⟩ := by
  have kept := numbers_save found same saved
  apply numbered.write
  · intro tenantId fiscalYear
    rw [kept]
    exact numbered.gapless tenantId fiscalYear
  · intro tenantId fiscalYear
    rw [kept]
  · rw [saved]
    apply rows_save
    intro row' found'
    rw [found] at found'
    exact Option.some_inj.mp found' ▸ same

theorem Numbered.insert (numbered : Numbered s) {i : κ} {tenantId id : Uuid} {number : String}
    {dto : CreateInvoiceDto} {invoice : Invoice} {db : Db}
    (counted : s.calls i = .counted tenantId id number dto)
    (drafts : draftInvoice tenantId id number dto = .ok invoice)
    (inserts : insertInvoice s.shared invoice = .ok db) :
    Numbered ⟨db, Function.update s.calls i .returned⟩ := by
  obtain ⟨fresh, free, rfl⟩ := insertInvoice_ok inserts
  obtain ⟨tenant, numberEq, year⟩ := draftInvoice_named drafts
  obtain ⟨count, behind, stale⟩ := numbered.counted i tenantId id number dto counted
  rw [← length_numbers] at behind
  apply numbered.write
  · intro tenantId' fiscalYear
    rw [numbers_insert fresh]
    split_ifs with here
    · obtain ⟨rfl, rfl⟩ := here
      rw [numberEq, stale]
      rw [← tenant, ← year] at behind
      apply (numbered.gapless _ _).insert behind
      -- The unique index has let the number through.
      intro taken
      obtain ⟨row, mem, eq⟩ := List.mem_map.mp taken
      obtain ⟨mem, owner⟩ := List.mem_filter.mp mem
      rw [decide_eq_true_eq] at owner
      exact free row mem ⟨owner.1, eq.trans (stale.symm.trans numberEq.symm), owner.2⟩
    · rw [List.append_nil]
      exact numbered.gapless tenantId' fiscalYear
  · intro tenantId' fiscalYear
    rw [numbers_insert fresh, List.length_append]
    exact Nat.le_add_right _ _
  · apply rows_save
    intro row found
    rw [fresh] at found
    cases found

theorem next_numbered (numbered : Numbered s) (move : κ × Step) : Numbered (Pool.next act s move) := by
  obtain ⟨i, step⟩ := move
  apply Pool.next_keeps Numbered numbered
  intro db call acts
  rcases act_cases acts with ⟨rfl, loaded, counted⟩ | ⟨rfl, _, _, _, _, invoice, counted, drafts, inserts⟩ |
    ⟨rfl, invoice, now, rfl, loaded, writes⟩
  · exact numbered.read (fun invoice eq => (loaded invoice eq).2) counted
  · exact numbered.insert counted drafts inserts
  · obtain ⟨row, found, same⟩ := numbered.loaded i invoice loaded
    rcases writes with ⟨splitPayment, posts⟩ | rfl
    · obtain ⟨e, -, -, -, rfl⟩ := postInvoice_ok posts
      have same' := (SameInvoice.restated invoice .accepted invoice.submittedAt).trans same
      exact Numbered.save numbered (by exact found) same' rfl
    · have same' := (SameInvoice.restated invoice .queued (some now)).trans same
      exact Numbered.save numbered (by exact found) same' rfl

theorem run_numbered (atRest : ∀ i, (s.calls i).atRest) (empty : s.shared.invoices.rows = [])
    (moves : List (κ × Step)) : Numbered (moves.foldl (Pool.next act) s) := by
  have start : Numbered s := by
    refine ⟨?_, ?_, ?_⟩
    · intro tenantId fiscalYear
      simp [Gapless, Db.numbers, empty]
    · intro i tenantId id number dto eq
      simpa [eq, Call.atRest] using atRest i
    · intro i invoice eq
      have rest := atRest i
      cases call : s.calls i <;> simp [call, Call.loaded, Call.atRest] at eq rest
  exact List.foldlRecOn moves (Pool.next act) start fun t numbered move _ => next_numbered numbered move

/-- Whatever calls overlap and whichever of them fail, the invoices of a tenant and year have the numbers
from 1 to their count. -/
theorem invoice_numbers_gapless (atRest : ∀ i, (s.calls i).atRest) (empty : s.shared.invoices.rows = [])
    (moves : List (κ × Step)) (tenantId : Uuid) (fiscalYear : ℕ) :
    let db := (moves.foldl (Pool.next act) s).shared
    (db.numbers tenantId fiscalYear).Perm
      ((List.range (db.countInvoices tenantId fiscalYear)).map invoiceNumber) ∧
    (db.numbers tenantId fiscalYear).Nodup := by
  intro db
  have gapless := (run_numbered atRest empty moves).gapless tenantId fiscalYear
  rw [← length_numbers]
  exact ⟨gapless, gapless.nodup invoiceNumber_injective⟩

end

namespace Sample

def order : CreateInvoiceDto where
  invoiceDate := fifteenthOfApril
  customerId := 3
  customerName := "Meccanica Scaligera SRL"
  lines := [valve]

def counter : Pool (Fin 2) Db Call := ⟨⟨∅, ∅, []⟩, ![.create 1 7 order, .create 1 8 order]⟩

end Sample

open Sample in
theorem invoice_numbers_gapless_counter :
    let db := ([(0, .read), (1, .read), (1, .save 5), (0, .save 6)].foldl (Pool.next act) counter).shared
    db.countInvoices 1 2026 = 1 ∧
      (db.numbers 1 2026).Perm ((List.range (db.countInvoices 1 2026)).map invoiceNumber) :=
  ⟨by decide +kernel, (invoice_numbers_gapless (by decide) rfl _ 1 2026).1⟩

end SmartErp.Accounting
