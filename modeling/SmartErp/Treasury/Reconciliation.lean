import SmartErp.Foundations.Revisions
import SmartErp.Treasury.AutoReconciler
import SmartErp.Treasury.Psd2

/-!
# Reconciliation of bank transactions

`listUnmatched`, `manualMatch` and `ignore` of `treasury.service.ts`, by calls that overlap with each other and
with the imports of a sync, and what they leave for the proposals of `auto-reconciler.service.ts`.
-/

namespace SmartErp.Treasury.Reconciliation
open Foundations Foundations.Editing Accounting
open AutoReconciler (ReconciliationStatus)

structure BankTransaction extends AutoReconciler.BankTransaction where
  bankAccountId : Uuid
  externalId : String
  bookingDate : Date
  currency : String
  counterpartyName : Option String
  counterpartyIbanEncrypted : Option String
  matchedDocumentType : Option String := none
  matchedDocumentId : Option Uuid := none
  matchedAt : Option Time := none
  matchedBy : Option Uuid := none
  deriving DecidableEq

namespace BankTransaction

def key (t : BankTransaction) : Uuid := t.id

/-- The external id is unique in the tenant. -/
def index (t : BankTransaction) : Uuid × String := (t.tenantId, t.externalId)

end BankTransaction

abbrev Rows := Table BankTransaction.key

/-! ## Operations -/

/-- What a sync draws for a transaction: its id, its dates, and the number of the counterparty under the key. -/
structure Drawn where
  id : Uuid
  tenantId : Uuid
  bankAccountId : Uuid
  tx : Psd2Transaction
  valueDate : Date
  bookingDate : Date
  counterpartyIbanEncrypted : Option String

/-- One turn of the loop of `syncPsd2`: `none` where the transaction is stored already. -/
def importTransaction (drawn : Drawn) (rows : Rows) : Except (Option Failure) BankTransaction :=
  if ∃ t ∈ rows.rows, t.index = (drawn.tenantId, drawn.tx.externalId) then .error none
  else if bigint : -2 ^ 63 ≤ drawn.tx.amountCents ∧ drawn.tx.amountCents < 2 ^ 63 then
    .ok {
      id := drawn.id
      tenantId := drawn.tenantId
      bankAccountId := drawn.bankAccountId
      externalId := drawn.tx.externalId
      valueDate := drawn.valueDate
      bookingDate := drawn.bookingDate
      amountCents := drawn.tx.amountCents
      currency := drawn.tx.currency
      description := drawn.tx.description
      counterpartyName := drawn.tx.counterpartyName
      counterpartyIbanEncrypted := drawn.counterpartyIbanEncrypted
      reconciliationStatus := .unmatched
      bigint }
  else .error (some (.database s!"value \"{drawn.tx.amountCents}\" is out of range for type bigint"))

inductive Decision where
  | manualMatch (documentType : String) (documentId : Uuid)
  | ignore
  deriving DecidableEq

structure Taken where
  tenantId : Uuid
  actorUserId : Uuid
  now : Time
  decision : Decision
  deriving DecidableEq

def Taken.perform (taken : Taken) (t : BankTransaction) : BankTransaction :=
  match taken.decision with
  | .manualMatch documentType documentId => { t with
      matchedDocumentType := some documentType
      matchedDocumentId := some documentId
      reconciliationStatus := .matched
      matchedAt := some taken.now
      matchedBy := some taken.actorUserId }
  | .ignore => { t with
      reconciliationStatus := .ignored
      matchedAt := some taken.now
      matchedBy := some taken.actorUserId }

def conclude (taken : Taken) (t : BankTransaction) : Except (Option Failure) BankTransaction :=
  if t.tenantId = taken.tenantId then .ok (taken.perform t)
  else .error (some (.notFound s!"BankTransaction {t.id} not found"))

def BankTransaction.imported (t : BankTransaction) : BankTransaction := { t with
  reconciliationStatus := .unmatched
  matchedDocumentType := none
  matchedDocumentId := none
  matchedAt := none
  matchedBy := none }

theorem imported_perform (taken : Taken) (t : BankTransaction) : (taken.perform t).imported = t.imported := by
  unfold Taken.perform
  cases taken.decision <;> rfl

theorem conclude_eq_ok {taken : Taken} {t t' : BankTransaction} :
    conclude taken t = .ok t' ↔ t.tenantId = taken.tenantId ∧ taken.perform t = t' := by
  unfold conclude
  split_ifs with own <;> simp [own]

theorem tenant_perform (taken : Taken) (t : BankTransaction) : (taken.perform t).tenantId = t.tenantId :=
  congrArg (·.tenantId) (imported_perform taken t)

def desk : Editing Taken (Option Failure) BankTransaction.key where
  edit taken _ := conclude taken
  key_edit ok := by
    rw [← (conclude_eq_ok.mp ok).2]
    exact congrArg (·.id) (imported_perform _ _)
  missing id := some (.notFound s!"BankTransaction {id} not found")
  apart t t' := t.index ≠ t'.index
  apart_comm t t' := by simp only [ne_eq, eq_comm]
  collision := some (.database "duplicate key value violates unique constraint")

inductive Call where
  | store (drawn : Drawn)
  | decide (id : Uuid) (taken : Taken)

def Call.request : Call → Request Taken (Option Failure) BankTransaction.key
  | store drawn => .insert (importTransaction drawn)
  | decide id taken => .edit id taken

theorem request_eq_edit {call : Call} {id : Uuid} {taken : Taken} (request : call.request = .edit id taken) :
    call = .decide id taken := by
  cases call with
  | store => cases request
  | decide => cases request; rfl

theorem request_eq_insert {call : Call} {make : Rows → Except (Option Failure) BankTransaction}
    (request : call.request = .insert make) : ∃ drawn, call = .store drawn ∧ make = importTransaction drawn := by
  cases call with
  | store drawn => cases request; exact ⟨drawn, rfl, rfl⟩
  | decide => cases request

def Taken.Matches (taken : Taken) : Prop := taken.decision ≠ .ignore

def Story (decisions : List Taken) (t : BankTransaction) : Prop :=
  match t.reconciliationStatus with
  | .unmatched => decisions = [] ∧ t = t.imported
  | .matched => ∃ before taken, decisions = before ++ [taken] ∧ taken.Matches ∧ t = taken.perform t.imported
  | .ignored => ∃ before taken, decisions = before ++ [taken] ∧ taken.decision = .ignore ∧
      (t = taken.perform t.imported ∨
        ∃ earlier ∈ before, earlier.Matches ∧ t = taken.perform (earlier.perform t.imported))
  | .partlyMatched => False

theorem perform_of_matches {taken : Taken} (matches' : taken.Matches) (t : BankTransaction) :
    taken.perform t = taken.perform t.imported := by
  unfold Taken.perform
  cases decision : taken.decision with
  | manualMatch documentType documentId => rfl
  | ignore => exact absurd decision matches'

theorem perform_ignore {taken earlier : Taken} (ignores : taken.decision = .ignore) (ignores' : earlier.decision = .ignore)
    (t : BankTransaction) : taken.perform (earlier.perform t) = taken.perform t := by
  unfold Taken.perform
  rw [ignores, ignores']

theorem status_perform (taken : Taken) (t : BankTransaction) : (taken.perform t).reconciliationStatus =
    if taken.decision = .ignore then .ignored else .matched := by
  unfold Taken.perform
  cases taken.decision <;> rfl

theorem story_step {decisions : List Taken} {t : BankTransaction} (story : Story decisions t) (taken : Taken) :
    Story (decisions ++ [taken]) (taken.perform t) := by
  rw [Story, status_perform]
  by_cases ignores : taken.decision = .ignore
  · rw [if_pos ignores]
    refine ⟨decisions, taken, rfl, ignores, ?_⟩
    rw [imported_perform]
    cases status : t.reconciliationStatus with
    | unmatched =>
        rw [Story, status] at story
        exact .inl (congrArg taken.perform story.2)
    | matched =>
        rw [Story, status] at story
        obtain ⟨before, earlier, rfl, matches', eq⟩ := story
        exact .inr ⟨earlier, by simp, matches', congrArg taken.perform eq⟩
    | ignored =>
        rw [Story, status] at story
        obtain ⟨before, last, rfl, ignores', eq | ⟨earlier, mem, matches', eq⟩⟩ := story
        · exact .inl ((congrArg taken.perform eq).trans (perform_ignore ignores ignores' _))
        · exact .inr ⟨earlier, List.mem_append_left _ mem, matches',
            (congrArg taken.perform eq).trans (perform_ignore ignores ignores' _)⟩
    | partlyMatched =>
        rw [Story, status] at story
        exact story.elim
  · rw [if_neg ignores]
    exact ⟨decisions, taken, rfl, ignores, by rw [imported_perform]; exact perform_of_matches ignores t⟩

theorem story_of_replays {t t' : BankTransaction} {decisions : List Taken} (replays : desk.Replays t decisions t')
    (new : t.imported = t) : Story decisions t' ∧ ∀ taken ∈ decisions, taken.tenantId = t'.tenantId := by
  induction replays with
  | nil =>
      have status : t.reconciliationStatus = .unmatched := by rw [← new]; rfl
      rw [Story, status]
      exact ⟨⟨rfl, new.symm⟩, List.forall_mem_nil _⟩
  | snoc _ last ih =>
      obtain ⟨story, own⟩ := ih
      obtain ⟨_, ok⟩ := last
      obtain ⟨tenant, rfl⟩ := conclude_eq_ok.mp ok
      refine ⟨story_step story _, fun taken mem => ?_⟩
      rw [tenant_perform]
      rcases List.mem_append.mp mem with old | new
      · exact own taken old
      · rw [List.mem_singleton.mp new]
        exact tenant.symm

/-! ## Lists and proposals -/

section
variable {ι : Type} {calls : ι → Call}

/-- The columns of the row come from a call of its own tenant: the only one, or a decision to ignore that
followed a match. -/
def Explained (calls : ι → Call) (log : List ι) (t : BankTransaction) : Prop :=
  match t.reconciliationStatus with
  | .unmatched => t = t.imported
  | .matched => ∃ i ∈ log, ∃ taken, calls i = .decide t.id taken ∧ taken.tenantId = t.tenantId ∧ taken.Matches ∧
      t = taken.perform t.imported
  | .ignored => ∃ i ∈ log, ∃ taken, calls i = .decide t.id taken ∧ taken.tenantId = t.tenantId ∧
      taken.decision = .ignore ∧ (t = taken.perform t.imported ∨ ∃ j earlier, [j, i].Sublist log ∧
        calls j = .decide t.id earlier ∧ earlier.tenantId = t.tenantId ∧ earlier.Matches ∧
          t = taken.perform (earlier.perform t.imported))
  | .partlyMatched => False

structure Stored (calls : ι → Call) (log : List ι) (t : BankTransaction) : Prop where
  drawn : ∃ i ∈ log, ∃ drawn rows, calls i = .store drawn ∧ drawn.id = t.id ∧
    importTransaction drawn rows = .ok t.imported
  explained : Explained calls log t

variable [DecidableEq ι]

variable (calls) in
def after (moves : List (ι × Option (Option Failure))) : Desk ι (Option Failure) BankTransaction.key :=
  moves.foldl (desk.next fun i => (calls i).request) opening

end

end SmartErp.Treasury.Reconciliation
