import SmartErp.Accounting.Invoices
import SmartErp.Foundations.Interleaving
import Mathlib.Data.Fin.VecNotation
import Mathlib.Data.Fintype.Basic

/-!
# One journal entry for each accepted invoice

Each call reads the invoice, checks the status it has read, and saves the whole row later. Posting is
an insert that nothing in the table keeps from happening twice.
-/

namespace SmartErp.Accounting
open Foundations

theorem last_hyphen {as bs cs ds : List Char} (whole : as ++ '-' :: bs = cs ++ '-' :: ds)
    (plain : '-' ∉ bs) (plain' : '-' ∉ ds) : as = cs ∧ bs = ds := by
  induction as generalizing cs with
  | nil =>
      cases cs with
      | nil => exact ⟨rfl, (List.cons.inj whole).2⟩
      | cons c cs =>
          obtain ⟨-, rfl⟩ := List.cons.inj whole
          exact absurd (by simp) plain
  | cons a as ih =>
      cases cs with
      | nil =>
          obtain ⟨-, rfl⟩ := List.cons.inj whole
          exact absurd (by simp) plain'
      | cons c cs =>
          obtain ⟨rfl, rest⟩ := List.cons.inj whole
          obtain ⟨rfl, same⟩ := ih rest
          exact ⟨rfl, same⟩

theorem invoiceReference_inj {number number' : String} {year year' : ℕ}
    (same : invoiceReference number year = invoiceReference number' year') :
    number = number' ∧ year = year' := by
  have plain (n : ℕ) : '-' ∉ Nat.toDigits 10 n := by
    intro mem
    exact absurd (Nat.isDigit_of_mem_toDigits (by decide) (by decide) mem) (by decide)
  have spelled (a : String) (n : ℕ) :
      (invoiceReference a n).toList = ("INV-".toList ++ a.toList) ++ '-' :: Nat.toDigits 10 n := by
    simp [invoiceReference, toString, Nat.repr]
  have lists := congrArg String.toList same
  rw [spelled, spelled] at lists
  obtain ⟨numbers, years⟩ := last_hyphen lists (plain _) (plain _)
  refine ⟨String.toList_inj.mp (List.append_cancel_left numbers), ?_⟩
  have value := congrArg (Nat.ofDigitChars 10 · 0) years
  simpa using value

/-! ## Invoices and their entries -/

def Db.entriesFor (db : Db) (tenantId : Uuid) (reference : String) : List JournalEntry :=
  db.journalEntries.filter fun e => e.tenantId = tenantId ∧ e.reference = reference

/-- What stays of an invoice while its status changes. -/
structure SameInvoice (a b : Invoice) : Prop where
  id : a.id = b.id
  tenantId : a.tenantId = b.tenantId
  number : a.number = b.number
  fiscalYear : a.fiscalYear = b.fiscalYear

theorem SameInvoice.reference {a b : Invoice} (same : SameInvoice a b) : a.reference = b.reference := by
  rw [Invoice.reference, same.number, same.fiscalYear, Invoice.reference]

theorem SameInvoice.trans {a b c : Invoice} (first : SameInvoice a b) (second : SameInvoice b c) :
    SameInvoice a c :=
  ⟨first.id.trans second.id, first.tenantId.trans second.tenantId, first.number.trans second.number,
    first.fiscalYear.trans second.fiscalYear⟩

theorem SameInvoice.symm {a b : Invoice} (same : SameInvoice a b) : SameInvoice b a :=
  ⟨same.id.symm, same.tenantId.symm, same.number.symm, same.fiscalYear.symm⟩

theorem SameInvoice.restated (invoice : Invoice) (status : InvoiceStatus) (submittedAt : Option ℕ) :
    SameInvoice { invoice with status, submittedAt } invoice :=
  ⟨rfl, rfl, rfl, rfl⟩

variable {β : Type}

/-- Invoices are told apart by tenant, number and year, an accepted invoice has one journal entry, which
shows as expected, and nothing else has one. -/
structure Booked (view : JournalEntry → β) (expected : Invoice → β) (db : Db) : Prop where
  unique : ∀ a ∈ db.invoices.rows, ∀ b ∈ db.invoices.rows,
    a.tenantId = b.tenantId → a.number = b.number → a.fiscalYear = b.fiscalYear → a = b
  entries : ∀ inv ∈ db.invoices.rows, (db.entriesFor inv.tenantId inv.reference).map view =
    if inv.status = .accepted then [expected inv] else []
  unclaimed : ∀ tenantId number fiscalYear, (∀ inv ∈ db.invoices.rows, ¬ (inv.tenantId = tenantId ∧
    inv.number = number ∧ inv.fiscalYear = fiscalYear)) →
      db.entriesFor tenantId (invoiceReference number fiscalYear) = []

theorem entriesFor_post (db : Db) (e : JournalEntry) (invoices : Table Invoice.id) (tenantId : Uuid)
    (reference : String) :
    Db.entriesFor ⟨db.customers, invoices, db.journalEntries ++ [e]⟩ tenantId reference =
      db.entriesFor tenantId reference ++
        if e.tenantId = tenantId ∧ e.reference = reference then [e] else [] := by
  simp [Db.entriesFor, List.filter_append, List.filter_singleton]

namespace Booked
variable {view : JournalEntry → β} {expected : Invoice → β} {db : Db} {row inv : Invoice}

theorem unique_save (booked : Booked view expected db) (mem : row ∈ db.invoices.rows)
    (same : SameInvoice inv row) :
    ∀ a ∈ (db.invoices.save inv).rows, ∀ b ∈ (db.invoices.save inv).rows,
      a.tenantId = b.tenantId → a.number = b.number → a.fiscalYear = b.fiscalYear → a = b := by
  -- Another row with the number of the saved one would have the number of the row it replaces.
  have apart : ∀ c ∈ db.invoices.rows, c.id ≠ inv.id →
      ¬ (c.tenantId = inv.tenantId ∧ c.number = inv.number ∧ c.fiscalYear = inv.fiscalYear) := by
    rintro c old other ⟨tenant, number, year⟩
    have : c = row := booked.unique c old row mem (tenant.trans same.tenantId)
      (number.trans same.number) (year.trans same.fiscalYear)
    exact other (this ▸ same.id.symm)
  intro a ha b hb tenant number year
  rcases Table.mem_save.mp ha with rfl | ⟨olda, nea⟩ <;> rcases Table.mem_save.mp hb with rfl | ⟨oldb, neb⟩
  · rfl
  · exact absurd ⟨tenant.symm, number.symm, year.symm⟩ (apart b oldb neb)
  · exact absurd ⟨tenant, number, year⟩ (apart a olda nea)
  · exact booked.unique a olda b oldb tenant number year

theorem absent_save (mem : row ∈ db.invoices.rows) (same : SameInvoice inv row)
    {tenantId : Uuid} {number : String} {fiscalYear : ℕ}
    (none : ∀ i ∈ (db.invoices.save inv).rows, ¬ (i.tenantId = tenantId ∧ i.number = number ∧
      i.fiscalYear = fiscalYear)) :
    ∀ i ∈ db.invoices.rows, ¬ (i.tenantId = tenantId ∧ i.number = number ∧ i.fiscalYear = fiscalYear) := by
  rintro i old ⟨rfl, rfl, rfl⟩
  by_cases replaced : i.id = inv.id
  · obtain rfl : i = row := List.inj_on_of_nodup_map db.invoices.nodup old mem (replaced.trans same.id)
    exact none inv (Table.mem_save.mpr (.inl rfl)) ⟨same.tenantId, same.number, same.fiscalYear⟩
  · exact none i (Table.mem_save.mpr (.inr ⟨old, replaced⟩)) ⟨rfl, rfl, rfl⟩

theorem save (booked : Booked view expected db) (mem : row ∈ db.invoices.rows)
    (same : SameInvoice inv row) (open' : row.status ≠ .accepted) (open'' : inv.status ≠ .accepted) :
    Booked view expected { db with invoices := db.invoices.save inv } where
  unique := booked.unique_save mem same
  entries i saved := by
    rcases Table.mem_save.mp saved with rfl | ⟨old, -⟩
    · have entries := booked.entries row mem
      rw [if_neg open', ← same.reference, ← same.tenantId] at entries
      rw [if_neg open'']
      exact entries
    · exact booked.entries i old
  unclaimed tenantId number fiscalYear none :=
    booked.unclaimed tenantId number fiscalYear (absent_save mem same none)

theorem insert (booked : Booked view expected db) (fresh : db.invoices.find? inv.id = none)
    (free : ∀ i ∈ db.invoices.rows, ¬ (i.tenantId = inv.tenantId ∧ i.number = inv.number ∧
      i.fiscalYear = inv.fiscalYear)) (open' : inv.status ≠ .accepted) :
    Booked view expected { db with invoices := db.invoices.save inv } where
  unique a ha b hb tenant number year := by
    rcases Table.mem_save.mp ha with rfl | ⟨olda, -⟩ <;> rcases Table.mem_save.mp hb with rfl | ⟨oldb, -⟩
    · rfl
    · exact absurd ⟨tenant.symm, number.symm, year.symm⟩ (free b oldb)
    · exact absurd ⟨tenant, number, year⟩ (free a olda)
    · exact booked.unique a olda b oldb tenant number year
  entries i mem := by
    rcases Table.mem_save.mp mem with rfl | ⟨old, -⟩
    · have none := booked.unclaimed i.tenantId i.number i.fiscalYear free
      rw [if_neg open']
      exact congrArg (List.map view) none
    · exact booked.entries i old
  unclaimed tenantId number fiscalYear none := by
    apply booked.unclaimed
    intro i mem
    have other : i.id ≠ inv.id := by
      intro eq
      rw [← eq, Table.find?_of_mem mem] at fresh
      cases fresh
    exact none i (Table.mem_save.mpr (.inr ⟨mem, other⟩))

theorem post (booked : Booked view expected db) (mem : row ∈ db.invoices.rows)
    (same : SameInvoice inv row) (open' : row.status ≠ .accepted) (closed : inv.status = .accepted)
    {e : JournalEntry} (tenant : e.tenantId = inv.tenantId) (reference : e.reference = inv.reference)
    (shows : view e = expected inv) :
    Booked view expected
      ⟨db.customers, db.invoices.save inv, db.journalEntries ++ [e]⟩ where
  unique := booked.unique_save mem same
  entries i saved := by
    rw [entriesFor_post]
    rcases Table.mem_save.mp saved with rfl | ⟨old, other⟩
    · have entries := booked.entries row mem
      rw [if_neg open', ← same.reference, ← same.tenantId] at entries
      rw [if_pos ⟨tenant, reference⟩, if_pos closed, List.map_append, entries, List.map_singleton, shows]
      rfl
    · have differ : ¬ (e.tenantId = i.tenantId ∧ e.reference = i.reference) := by
        rintro ⟨tenant', reference'⟩
        obtain ⟨number, year⟩ := invoiceReference_inj (reference.symm.trans reference')
        have : i = row := booked.unique i old row mem
          (tenant'.symm.trans (tenant.trans same.tenantId)) (number.symm.trans same.number)
          (year.symm.trans same.fiscalYear)
        exact other (this ▸ same.id.symm)
      rw [if_neg differ, List.append_nil]
      exact booked.entries i old
  unclaimed tenantId number fiscalYear none := by
    have free := absent_save mem same none
    have differ : ¬ (e.tenantId = tenantId ∧ e.reference = invoiceReference number fiscalYear) := by
      rintro ⟨rfl, reference'⟩
      obtain ⟨rfl, rfl⟩ := invoiceReference_inj (reference.symm.trans reference')
      exact none inv (Table.mem_save.mpr (.inl rfl)) ⟨tenant.symm, rfl, rfl⟩
    rw [entriesFor_post, booked.unclaimed tenantId number fiscalYear free, if_neg differ]
    rfl

end Booked

/-! ## Overlapping calls -/

inductive Call where
  | create (tenantId id : Uuid) (dto : CreateInvoiceDto)
  | counted (tenantId id : Uuid) (number : String) (dto : CreateInvoiceDto)
  | accept (tenantId id : Uuid)
  | loadedToAccept (invoice : Invoice) (splitPayment : Bool)
  | queue (tenantId id : Uuid)
  | loadedToQueue (invoice : Invoice)
  | returned
  | failed (failure : Failure)

def Call.loaded : Call → Option Invoice
  | loadedToAccept invoice _ | loadedToQueue invoice => some invoice
  | _ => none

inductive Step where
  | read
  | save (now : ℕ)
  | saveFails

def saved (db : Db) : Except Failure Db → Option (Db × Call)
  | .ok db' => some (db', .returned)
  | .error failure => some (db, .failed failure)

def readToAccept (db : Db) (tenantId id : Uuid) : Call :=
  match getInvoice db tenantId id with
  | .error failure => .failed failure
  | .ok invoice =>
      if invoice.status = .accepted then .returned
      else .loadedToAccept invoice (splits (db.customer invoice))

def readToQueue (db : Db) (tenantId id : Uuid) : Call :=
  match (do let invoice ← getInvoice db tenantId id; onlyDraft invoice; return invoice) with
  | .error failure => .failed failure
  | .ok invoice => .loadedToQueue invoice

def act (step : Step) (db : Db) (call : Call) : Option (Db × Call) :=
  match step, call with
  | .read, .create tenantId id dto =>
      some (db, .counted tenantId id (invoiceNumber (db.countInvoices tenantId dto.invoiceDate.year)) dto)
  | .read, .accept tenantId id => some (db, readToAccept db tenantId id)
  | .read, .queue tenantId id => some (db, readToQueue db tenantId id)
  | .save _, .counted tenantId id number dto =>
      saved db (draftInvoice tenantId id number dto >>= insertInvoice db)
  | .save now, .loadedToAccept invoice splitPayment => saved db (postInvoice db invoice splitPayment now)
  | .save now, .loadedToQueue invoice => saved db (.ok (saveQueued db invoice now))
  | .saveFails, .counted _ _ _ _ | .saveFails, .loadedToAccept _ _ | .saveFails, .loadedToQueue _ =>
      some (db, .failed (.database "connection terminated"))
  | _, _ => none

/-- A call saves an invoice only while its row has the status that the call has read. -/
def Undisturbed {κ : Type} (s : Pool κ Db Call) (move : κ × Step) : Prop :=
  match move.2, (s.calls move.1).loaded with
  | .save _, some invoice => (s.shared.invoices.find? invoice.id).map (·.status) = some invoice.status
  | _, _ => True

instance {κ : Type} (s : Pool κ Db Call) (move : κ × Step) : Decidable (Undisturbed s move) := by
  unfold Undisturbed
  split <;> infer_instance

abbrev PostedOnce (db : Db) : Prop := Booked (fun _ => ()) (fun _ => ()) db

structure Orderly {κ : Type} (s : Pool κ Db Call) : Prop where
  booked : PostedOnce s.shared
  loaded : ∀ i invoice, (s.calls i).loaded = some invoice → invoice.status ≠ .accepted ∧
    ∃ row, s.shared.invoices.find? invoice.id = some row ∧ SameInvoice invoice row

section
variable {κ : Type} [DecidableEq κ] {s t : Pool κ Db Call}

theorem createInvoice_steps {i : κ} {tenantId id : Uuid} {dto : CreateInvoiceDto} {now : ℕ}
    (called : s.calls i = .create tenantId id dto) :
    ([(i, .read), (i, .save now)].foldl (Pool.next act) s).shared =
      settle s.shared (createInvoice s.shared tenantId id dto) := by
  simp only [List.foldl_cons, List.foldl_nil, Pool.next, called, act, Function.update_self, createInvoice]
  cases draftInvoice tenantId id (invoiceNumber (s.shared.countInvoices tenantId dto.invoiceDate.year)) dto >>=
    insertInvoice s.shared <;> rfl

theorem acceptInvoice_steps {i : κ} {tenantId id : Uuid} {now : ℕ}
    (called : s.calls i = .accept tenantId id) :
    ([(i, .read), (i, .save now)].foldl (Pool.next act) s).shared =
      settle s.shared (acceptInvoice s.shared tenantId id now) := by
  simp only [List.foldl_cons, List.foldl_nil, Pool.next, called, act, Function.update_self, acceptInvoice,
    readToAccept]
  cases getInvoice s.shared tenantId id with
  | error => rfl
  | ok invoice =>
      by_cases closed : invoice.status = .accepted
      · simp [closed, settle, bind, Except.bind, pure, Except.pure]
      · simp only [closed, ↓reduceIte, bind, Except.bind]
        cases postInvoice s.shared invoice (splits (s.shared.customer invoice)) now <;> rfl

theorem queueInvoiceForSdi_steps {i : κ} {tenantId id : Uuid} {now : ℕ}
    (called : s.calls i = .queue tenantId id) :
    ([(i, .read), (i, .save now)].foldl (Pool.next act) s).shared =
      settle s.shared (queueInvoiceForSdi s.shared tenantId id now) := by
  simp only [List.foldl_cons, List.foldl_nil, Pool.next, called, act, Function.update_self,
    queueInvoiceForSdi, readToQueue]
  cases getInvoice s.shared tenantId id with
  | error => rfl
  | ok invoice =>
      simp only [bind, Except.bind]
      cases onlyDraft invoice <;> rfl

theorem loaded_cases {calls : κ → Call} {i j : κ} {call : Call} {invoice : Invoice}
    (eq : (Function.update calls i call j).loaded = some invoice) :
    call.loaded = some invoice ∨ (calls j).loaded = some invoice := by
  by_cases here : j = i
  · subst here
    rw [Function.update_self] at eq
    exact .inl eq
  · rw [Function.update_of_ne here] at eq
    exact .inr eq

theorem Orderly.call (orderly : Orderly s) {i : κ} {call : Call}
    (loaded : ∀ invoice, call.loaded = some invoice → invoice.status ≠ .accepted ∧
      s.shared.invoices.find? invoice.id = some invoice) :
    Orderly ⟨s.shared, Function.update s.calls i call⟩ where
  booked := orderly.booked
  loaded j invoice eq := by
    rcases loaded_cases eq with new | old
    · obtain ⟨open', found⟩ := loaded invoice new
      exact ⟨open', invoice, found, rfl, rfl, rfl, rfl⟩
    · exact orderly.loaded j invoice old

theorem Orderly.write (orderly : Orderly s) {i : κ} {db : Db} (booked : PostedOnce db)
    (rows : ∀ id row, s.shared.invoices.find? id = some row →
      ∃ row', db.invoices.find? id = some row' ∧ SameInvoice row row') :
    Orderly ⟨db, Function.update s.calls i .returned⟩ where
  booked := booked
  loaded j invoice eq := by
    rcases loaded_cases eq with new | old
    · cases new
    · obtain ⟨open', row, found, same⟩ := orderly.loaded j invoice old
      obtain ⟨row', found', same'⟩ := rows invoice.id row found
      exact ⟨open', row', found', same.trans same'⟩

theorem rows_save {invoices : Table Invoice.id} {inv : Invoice}
    (same : ∀ row, invoices.find? inv.id = some row → SameInvoice inv row) (id : Uuid) (row : Invoice)
    (found : invoices.find? id = some row) :
    ∃ row', (invoices.save inv).find? id = some row' ∧ SameInvoice row row' := by
  rw [Table.find?_save]
  split_ifs with here
  · exact ⟨inv, rfl, (same row (here ▸ found)).symm⟩
  · exact ⟨row, found, rfl, rfl, rfl, rfl⟩

omit [DecidableEq κ] in
theorem act_cases {i : κ} {step : Step} {db : Db} {call : Call}
    (acts : act step s.shared (s.calls i) = some (db, call)) :
    (db = s.shared ∧
      (∀ invoice, call.loaded = some invoice → invoice.status ≠ .accepted ∧
        s.shared.invoices.find? invoice.id = some invoice) ∧
      ∀ tenantId id number dto, call = .counted tenantId id number dto →
        number = invoiceNumber (s.shared.countInvoices tenantId dto.invoiceDate.year)) ∨
    (call = .returned ∧ ∃ tenantId id number dto invoice, s.calls i = .counted tenantId id number dto ∧
      draftInvoice tenantId id number dto = .ok invoice ∧ insertInvoice s.shared invoice = .ok db) ∨
    (call = .returned ∧ ∃ invoice now, step = .save now ∧ (s.calls i).loaded = some invoice ∧
      ((∃ splitPayment, postInvoice s.shared invoice splitPayment now = .ok db) ∨
        db = saveQueued s.shared invoice now)) := by
  cases called : s.calls i <;> cases step <;> simp only [called, act, Option.some.injEq, Prod.mk.injEq,
    reduceCtorEq] at acts
  case accept.read tenantId id =>
    obtain ⟨rfl, rfl⟩ := acts
    unfold readToAccept
    split
    · exact .inl ⟨rfl, by simp [Call.loaded], by simp⟩
    · rename_i invoice got
      split
      · exact .inl ⟨rfl, by simp [Call.loaded], by simp⟩
      · rename_i open'
        obtain ⟨found, rfl, -⟩ := getInvoice_ok got
        refine .inl ⟨rfl, fun inv eq => ?_, by simp⟩
        obtain rfl := Option.some_inj.mp eq
        exact ⟨open', found⟩
  case queue.read tenantId id =>
    obtain ⟨rfl, rfl⟩ := acts
    unfold readToQueue
    split
    · exact .inl ⟨rfl, by simp [Call.loaded], by simp⟩
    · rename_i invoice got
      simp only [bind_eq_ok, pure_eq_ok, onlyDraft, ensure_eq_ok] at got
      obtain ⟨_, got, -, draft, rfl⟩ := got
      obtain ⟨found, rfl, -⟩ := getInvoice_ok got
      refine .inl ⟨rfl, fun inv eq => ?_, by simp⟩
      obtain rfl := Option.some_inj.mp eq
      exact ⟨by simp [draft], found⟩
  case create.read tenantId id dto =>
    obtain ⟨rfl, rfl⟩ := acts
    refine .inl ⟨rfl, by simp [Call.loaded], ?_⟩
    intro tenantId' id' number' dto' eq
    cases eq
    rfl
  case counted.save tenantId id number dto now =>
    cases result : draftInvoice tenantId id number dto >>= insertInvoice s.shared with
    | error =>
        simp only [result, saved, Option.some.injEq, Prod.mk.injEq] at acts
        exact .inl ⟨acts.1.symm, by simp [← acts.2, Call.loaded], by simp [← acts.2]⟩
    | ok db' =>
        simp only [result, saved, Option.some.injEq, Prod.mk.injEq] at acts
        obtain ⟨rfl, rfl⟩ := acts
        obtain ⟨invoice, drafts, inserts⟩ := bind_eq_ok.mp result
        exact .inr (.inl ⟨rfl, tenantId, id, number, dto, invoice, rfl, drafts, inserts⟩)
  case loadedToAccept.save invoice splitPayment now =>
    cases result : postInvoice s.shared invoice splitPayment now with
    | error =>
        simp only [result, saved, Option.some.injEq, Prod.mk.injEq] at acts
        exact .inl ⟨acts.1.symm, by simp [← acts.2, Call.loaded], by simp [← acts.2]⟩
    | ok db' =>
        simp only [result, saved, Option.some.injEq, Prod.mk.injEq] at acts
        obtain ⟨rfl, rfl⟩ := acts
        exact .inr (.inr ⟨rfl, invoice, now, rfl, rfl, .inl ⟨_, result⟩⟩)
  case loadedToQueue.save invoice now =>
    simp only [saved, Option.some.injEq, Prod.mk.injEq] at acts
    exact .inr (.inr ⟨acts.2.symm, invoice, now, rfl, rfl, .inr acts.1.symm⟩)
  all_goals exact .inl ⟨acts.1.symm, by simp [← acts.2, Call.loaded], by simp [← acts.2]⟩

theorem next_orderly (orderly : Orderly s) {move : κ × Step} (undisturbed : Undisturbed s move) :
    Orderly (Pool.next act s move) := by
  obtain ⟨i, step⟩ := move
  apply Pool.next_keeps Orderly orderly
  intro db call acts
  rcases act_cases acts with ⟨rfl, loaded, -⟩ | ⟨rfl, _, _, _, _, invoice, -, drafts, inserts⟩ |
    ⟨rfl, invoice, now, rfl, loaded, writes⟩
  · exact orderly.call loaded
  · obtain ⟨fresh, free, rfl⟩ := insertInvoice_ok inserts
    have draft := (draftInvoice_ok drafts).1
    apply orderly.write (orderly.booked.insert fresh free (by simp [draft]))
    apply rows_save
    intro row found
    rw [fresh] at found
    cases found
  · obtain ⟨open', row, found, same⟩ := orderly.loaded i invoice loaded
    have current : row.status = invoice.status := by
      simpa [Undisturbed, loaded, found] using undisturbed
    have mem := Table.mem_of_find? found
    have rows (inv : Invoice) (id' : inv.id = invoice.id) (same' : SameInvoice inv row) :
        ∀ row', s.shared.invoices.find? inv.id = some row' → SameInvoice inv row' := by
      intro row' found'
      rw [id', found] at found'
      exact Option.some_inj.mp found' ▸ same'
    rcases writes with ⟨splitPayment, posts⟩ | rfl
    · obtain ⟨e, tenant, reference, -, rfl⟩ := postInvoice_ok posts
      have same' := (SameInvoice.restated invoice .accepted invoice.submittedAt).trans same
      apply orderly.write
      · exact orderly.booked.post mem same' (current ▸ open') rfl tenant reference rfl
      · exact rows_save (rows _ rfl same')
    · have same' := (SameInvoice.restated invoice .queued (some now)).trans same
      apply orderly.write
      · exact orderly.booked.save mem same' (current ▸ open') (by simp)
      · exact rows_save (rows _ rfl same')

def Db.acceptedIds (db : Db) : Set Uuid :=
  {id | (db.invoices.find? id).map (·.status) = some .accepted}

theorem next_accepted (orderly : Orderly s) {move : κ × Step} (undisturbed : Undisturbed s move) :
    s.shared.acceptedIds ⊆ (Pool.next act s move).shared.acceptedIds := by
  obtain ⟨i, step⟩ := move
  intro id accepted
  refine Pool.next_keeps (fun t : Pool κ Db Call => id ∈ t.shared.acceptedIds) accepted ?_
  intro db call acts
  rcases act_cases acts with ⟨rfl, -⟩ | ⟨rfl, _, _, _, _, invoice, -, -, inserts⟩ |
    ⟨rfl, invoice, now, rfl, loaded, writes⟩
  · exact accepted
  · obtain ⟨fresh, -, rfl⟩ := insertInvoice_ok inserts
    have other : invoice.id ≠ id := by
      rintro rfl
      simp [Db.acceptedIds, fresh] at accepted
    simpa [Db.acceptedIds, Table.find?_save_of_ne _ other] using accepted
  · obtain ⟨open', row, found, same⟩ := orderly.loaded i invoice loaded
    have other : invoice.id ≠ id := by
      rintro rfl
      have current : row.status = invoice.status := by
        simpa [Undisturbed, loaded, found] using undisturbed
      have closed : row.status = .accepted := by simpa [Db.acceptedIds, found] using accepted
      exact open' (current ▸ closed)
    rcases writes with ⟨splitPayment, posts⟩ | rfl
    · obtain ⟨e, -, -, -, rfl⟩ := postInvoice_ok posts
      simpa [Db.acceptedIds, Table.find?_save, other] using accepted
    · simpa [Db.acceptedIds, saveQueued, Table.find?_save, other] using accepted

/-- As long as each save finds the status that its call has read, an invoice has one journal entry if it
is accepted and none otherwise, and an accepted invoice stays accepted. -/
theorem accepted_posted_once (idle : ∀ i, (s.calls i).loaded = none) (posted : PostedOnce s.shared)
    {moves : List (κ × Step)} (run : Run Undisturbed (Pool.next act) s moves t) :
    (∀ inv ∈ t.shared.invoices.rows, (t.shared.entriesFor inv.tenantId inv.reference).length =
      if inv.status = .accepted then 1 else 0) ∧
    ∀ before after u, moves = before ++ after → Run Undisturbed (Pool.next act) s before u →
      u.shared.acceptedIds ⊆ t.shared.acceptedIds := by
  have start : Orderly s := ⟨posted, fun i invoice eq => by rw [idle i] at eq; cases eq⟩
  have keep (u : Pool κ Db Call) (move : κ × Step) (orderly : Orderly u) (met : Undisturbed u move) :
      Orderly (Pool.next act u move) := next_orderly orderly met
  constructor
  · intro inv mem
    have entries := congrArg List.length ((run.invariant Orderly start keep).booked.entries inv mem)
    rw [List.length_map] at entries
    rw [entries]
    split <;> rfl
  · intro before after u whole run'
    have step (u : Pool κ Db Call) (move : κ × Step) (met : Orderly u ∧ Undisturbed u move) :
        u.shared.acceptedIds ⊆ (Pool.next act u move).shared.acceptedIds := next_accepted met.1 met.2
    exact (run.strengthen Orderly start keep).monotone (fun u => u.shared.acceptedIds) step whole
      (run'.strengthen Orderly start keep)

end

/-! ## One draft invoice -/

namespace Sample

def fifteenthOfApril : Date where
  year := 2026
  month := 4
  day := 15
  year_digits := by decide
  month_range := by decide
  day_range := by decide

def draft : Invoice where
  id := 7
  tenantId := 1
  documentType := .TD01
  number := "000001"
  fiscalYear := 2026
  invoiceDate := fifteenthOfApril
  customerId := 3
  customerName := "Meccanica Scaligera SRL"
  status := .draft
  subtotalAmount := ⟨10000, by decide⟩
  taxAmount := ⟨2200, by decide⟩
  totalAmount := ⟨12200, by decide⟩
  lines := [⟨"Valvola A100", 1, 100, 22, none, 100⟩]
  submittedAt := none
  notes := none

def office : Db := ⟨∅, ⟨[draft], by simp⟩, []⟩

theorem office_posted : PostedOnce office where
  unique := by simp [office]
  entries := by simp [office, draft, Db.entriesFor]
  unclaimed := by simp [office, Db.entriesFor]

def calls (a b : Call) : Pool (Fin 2) Db Call := ⟨office, ![a, b]⟩

end Sample

open Sample in
theorem accepted_posted_once_draft :
    let moves : List (Fin 2 × Step) := [(0, .read), (0, .save 5), (1, .read)]
    let t := moves.foldl (Pool.next act) (calls (.accept 1 7) (.accept 1 7))
    t.shared.invoices.rows ≠ [] ∧
      ∀ inv ∈ t.shared.invoices.rows, (t.shared.entriesFor inv.tenantId inv.reference).length =
        if inv.status = .accepted then 1 else 0 := by
  intro moves t
  have run : Run Undisturbed (Pool.next act) (calls (.accept 1 7) (.accept 1 7)) moves t :=
    Run.ofAllMet (by decide +kernel)
  refine ⟨by decide +kernel, (accepted_posted_once ?_ office_posted run).1⟩
  decide

open Sample in
/-- Two acceptances read the draft before either saves; or an acceptance and a submission do. -/
theorem accepted_posted_twice :
    (let moves : List (Fin 2 × Step) := [(0, .read), (1, .read), (0, .save 5), (1, .save 6)]
     let t := moves.foldl (Pool.next act) (calls (.accept 1 7) (.accept 1 7))
     (∀ i, (t.calls i).loaded = none) ∧ 7 ∈ t.shared.invoices.rows.map (·.id) ∧
      ∀ inv ∈ t.shared.invoices.rows, inv.status = .accepted ∧
        (t.shared.entriesFor inv.tenantId inv.reference).length = 2) ∧
    let moves : List (Fin 2 × Step) := [(0, .read), (1, .read), (0, .save 5), (1, .save 6)]
    let run (moves : List (Fin 2 × Step)) :=
      (moves.foldl (Pool.next act) (calls (.accept 1 7) (.queue 1 7))).shared.invoices.rows
    (run (moves.take 3)).map (·.status) = [.accepted] ∧ (run moves).map (·.status) = [.queued] := by
  decide +kernel

end SmartErp.Accounting
