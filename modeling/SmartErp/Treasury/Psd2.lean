import SmartErp.Failure
import SmartErp.Foundations.Table
import SmartErp.Treasury.Iban

/-!
# Bank transactions by PSD2

`syncPsd2` of `treasury.service.ts`. Each save commits on its own, so a sync that fails keeps the transactions
it has stored so far. Dates are the texts of the bank.
-/

namespace SmartErp.Treasury
open Foundations

abbrev Time := ℤ

inductive Psd2Provider where
  | intesa
  | unicredit
  | bper
  | manual
  deriving DecidableEq

structure Psd2Consent where
  consentId : String
  validUntil : String
  scaStatus : String
  deriving DecidableEq

structure BankAccount where
  id : Uuid
  tenantId : Uuid
  ibanEncrypted : String
  psd2Provider : Psd2Provider := .manual
  psd2Consent : Option Psd2Consent := none
  lastTransactionCursor : Option String := none
  lastSyncedAt : Option Time := none
  deriving DecidableEq

structure BankTransaction where
  tenantId : Uuid
  bankAccountId : Uuid
  externalId : String
  valueDate : String
  bookingDate : String
  amountCents : ℤ
  currency : String
  description : String
  counterpartyName : Option String
  counterpartyIbanEncrypted : Option String
  deriving DecidableEq

/-- The external id is unique in the tenant. -/
def BankTransaction.index (r : BankTransaction) : Uuid × String := (r.tenantId, r.externalId)

structure Db where
  accounts : Table BankAccount.id
  transactions : Table BankTransaction.index

structure Psd2Transaction where
  externalId : String
  valueDate : String
  bookingDate : String
  amountCents : ℤ
  currency : String
  description : String
  counterpartyName : Option String := none
  counterpartyIban : Option String := none
  deriving DecidableEq

structure Psd2PullResult where
  transactions : List Psd2Transaction
  cursor : Option String

inductive Mode where
  | sandbox
  | production
  deriving DecidableEq

structure Psd2AdapterContext where
  tenantId : Uuid
  ibanPlaintext : String
  consent : Option Psd2Consent
  mode : Mode

abbrev Psd2Adapter := Psd2AdapterContext → Option String → Except Failure Psd2PullResult

/-- What a call meets outside: the cipher, the banks, the clock, and the saves that fail, by the position of
the transaction. -/
structure World where
  decryptIban : String → Except Failure String := .ok
  encryptIban : String → String := id
  intesa : Psd2Adapter
  unicredit : Psd2Adapter
  bper : Psd2Adapter
  now : Time := 0
  failsTransaction : ℕ → Option Failure := fun _ => none
  failsAccount : Option Failure := none

structure Call where
  tenantId : Uuid
  accountId : Uuid
  mode : Mode := .sandbox
  world : World

structure SyncResult where
  imported : ℕ
  cursor : Option String

def getAccount (db : Db) (tenantId id : Uuid) : Except Failure BankAccount :=
  require ((db.accounts.find? id).filter (·.tenantId = tenantId)) (.notFound s!"BankAccount {id} not found")

def World.resolveAdapter (world : World) : Psd2Provider → Except Failure Psd2Adapter
  | .intesa => .ok world.intesa
  | .unicredit => .ok world.unicredit
  | .bper => .ok world.bper
  | .manual => .error (.badRequest "PSD2 adapter for 'manual' not yet wired")

def pull (db : Db) (call : Call) : Except Failure (BankAccount × Psd2PullResult) := do
  let account ← getAccount db call.tenantId call.accountId
  ensure (account.psd2Provider ≠ .manual) (.badRequest
    "Account has no PSD2 provider — set psd2Provider before syncing")
  let adapter ← call.world.resolveAdapter account.psd2Provider
  let ibanPlaintext ← call.world.decryptIban account.ibanEncrypted
  let result ← adapter ⟨call.tenantId, ibanPlaintext, account.psd2Consent, call.mode⟩ account.lastTransactionCursor
  return (account, result)

def entity (call : Call) (account : BankAccount) (tx : Psd2Transaction) : BankTransaction where
  tenantId := call.tenantId
  bankAccountId := account.id
  externalId := tx.externalId
  valueDate := tx.valueDate
  bookingDate := tx.bookingDate
  amountCents := tx.amountCents
  currency := tx.currency
  description := tx.description
  counterpartyName := tx.counterpartyName
  counterpartyIbanEncrypted :=
    (tx.counterpartyIban.filter (· ≠ "")).map fun iban => call.world.encryptIban (String.ofList (cleaned iban))

def importAll (call : Call) (account : BankAccount) : ℕ → List Psd2Transaction → ℕ → Db → Db × Except Failure ℕ
  | _, [], imported, db => (db, .ok imported)
  | i, tx :: rest, imported, db =>
      match db.transactions.find? (call.tenantId, tx.externalId) with
      | some _ => importAll call account (i + 1) rest imported db
      | none =>
          match reach (call.world.failsTransaction i) with
          | .error failure => (db, .error failure)
          | .ok () => importAll call account (i + 1) rest (imported + 1)
              { db with transactions := db.transactions.save (entity call account tx) }

def syncPsd2 (db : Db) (call : Call) : Db × Except Failure SyncResult :=
  match pull db call with
  | .error failure => (db, .error failure)
  | .ok (account, result) =>
      match importAll call account 0 result.transactions 0 db with
      | (db, .error failure) => (db, .error failure)
      | (db, .ok imported) =>
          match reach call.world.failsAccount with
          | .error failure => (db, .error failure)
          | .ok () =>
              ({ db with accounts := db.accounts.save { account with
                  lastTransactionCursor := result.cursor
                  lastSyncedAt := some call.world.now } },
                .ok ⟨imported, result.cursor⟩)

/-! ## Calls one after the other -/

structure Passed where
  tenantId : Uuid
  accountId : Uuid
  externalId : String
  deriving DecidableEq

structure Ledger where
  db : Db
  passed : List Passed := []

def returned (db : Db) (call : Call) : List Psd2Transaction :=
  match pull db call with
  | .error _ => []
  | .ok (_, result) => result.transactions

def syncNext (s : Ledger) (call : Call) : Ledger where
  db := (syncPsd2 s.db call).1
  passed := match (syncPsd2 s.db call).2 with
    | .error _ => s.passed
    | .ok _ => s.passed ++ (returned s.db call).map fun tx => ⟨call.tenantId, call.accountId, tx.externalId⟩

def StoredOnce (db : Db) (p : Passed) : Prop :=
  (db.transactions.rows.filter fun r => decide (r.tenantId = p.tenantId ∧ r.bankAccountId = p.accountId ∧
    r.externalId = p.externalId)).length = 1

def cursorOf (db : Db) (accountId : Uuid) : Option String :=
  (db.accounts.find? accountId).bind (·.lastTransactionCursor)

/-- What completed syncs were given is stored exactly once for its account, a cursor that moves has the
transactions of its pull stored for its account, and a new row is what the bank has returned. -/
def Accounted (s : Ledger) (call : Call) : Prop :=
  let t := syncNext s call
  (∀ p ∈ t.passed, StoredOnce t.db p) ∧
    (∀ id, cursorOf t.db id ≠ cursorOf s.db id →
      id = call.accountId ∧ ∀ tx ∈ returned s.db call, StoredOnce t.db ⟨call.tenantId, id, tx.externalId⟩) ∧
    ∀ r ∈ t.db.transactions.rows, r ∈ s.db.transactions.rows ∨
      ∃ account, getAccount s.db call.tenantId call.accountId = .ok account ∧
        ∃ tx ∈ returned s.db call, r = entity call account tx

/-- No save fails that the call comes to: of a transaction whose id is new, and of the account. -/
def Unfailing (db : Db) (call : Call) : Prop :=
  (∀ i tx, (returned db call)[i]? = some tx → db.transactions.find? (call.tenantId, tx.externalId) = none →
    tx.externalId ∉ ((returned db call).take i).map (·.externalId) → call.world.failsTransaction i = none) ∧
  call.world.failsAccount = none

/-- Where no save fails, no returned id is one that the tenant has stored for another account. -/
def OwnIds (s : Ledger) (call : Call) : Prop :=
  Unfailing s.db call → ∀ tx ∈ returned s.db call, ∀ r ∈ s.db.transactions.rows,
    r.tenantId = call.tenantId → r.externalId = tx.externalId → r.bankAccountId = call.accountId

/-! ## What a sync does -/

theorem storedOnce_iff {db : Db} {p : Passed} :
    StoredOnce db p ↔
      ∃ r, db.transactions.find? (p.tenantId, p.externalId) = some r ∧ r.bankAccountId = p.accountId := by
  have rows : (db.transactions.rows.filter fun r => decide (r.tenantId = p.tenantId ∧
      r.bankAccountId = p.accountId ∧ r.externalId = p.externalId)) =
        (db.transactions.find? (p.tenantId, p.externalId)).toList.filter (·.bankAccountId = p.accountId) := by
    rw [← Table.rows_of_key, List.filter_filter]
    congr 1
    funext r
    simp only [BankTransaction.index, Prod.mk.injEq, ← Bool.decide_and, decide_eq_decide]
    tauto
  rw [StoredOnce, rows]
  cases db.transactions.find? (p.tenantId, p.externalId) with
  | none => simp
  | some r => by_cases here : r.bankAccountId = p.accountId <;> simp [here]

structure Imported (call : Call) (account : BankAccount) (txs : List Psd2Transaction) (db : Db)
    (r : Db × Except Failure ℕ) : Prop where
  accounts : r.1.accounts = db.accounts
  rows : ∃ new, r.1.transactions.rows = db.transactions.rows ++ new ∧
    ∀ row ∈ new, ∃ tx ∈ txs, row = entity call account tx
  all : ∀ n, r.2 = .ok n → ∀ tx ∈ txs, (r.1.transactions.find? (call.tenantId, tx.externalId)).isSome

theorem imported (call : Call) (account : BankAccount) (i : ℕ) (txs : List Psd2Transaction) (n : ℕ) (db : Db) :
    Imported call account txs db (importAll call account i txs n db) := by
  induction txs generalizing i n db with
  | nil => exact ⟨rfl, ⟨[], by simp [importAll], by simp⟩, by simp⟩
  | cons tx rest ih =>
      unfold importAll
      cases stored : db.transactions.find? (call.tenantId, tx.externalId) with
      | some row =>
          obtain ⟨accounts, ⟨new, rows, each⟩, all⟩ := ih (i + 1) n db
          have mem : row ∈ (importAll call account (i + 1) rest n db).1.transactions.rows := by
            rw [rows]
            exact List.mem_append_left _ (Table.mem_of_find? stored)
          have here : row.index = (call.tenantId, tx.externalId) := Table.key_of_find? stored
          refine ⟨accounts, ⟨new, rows, fun r mem => ?_⟩, fun m ok => ?_⟩
          · obtain ⟨tx', mem', eq⟩ := each r mem
            exact ⟨tx', List.mem_cons_of_mem _ mem', eq⟩
          · rw [List.forall_mem_cons]
            refine ⟨?_, all m ok⟩
            rw [← here, Table.find?_of_mem mem]
            rfl
      | none =>
          cases fails : call.world.failsTransaction i with
          | some failure => exact ⟨rfl, ⟨[], by simp [reach], by simp⟩, by simp [reach]⟩
          | none =>
              simp only [reach]
              have fresh : db.transactions.find? (entity call account tx).index = none := stored
              obtain ⟨accounts, ⟨new, rows, each⟩, all⟩ :=
                ih (i + 1) (n + 1) { db with transactions := db.transactions.save (entity call account tx) }
              simp only [Table.rows_save_of_none fresh, List.append_assoc, List.singleton_append] at rows
              refine ⟨accounts, ⟨_, rows, ?_⟩, fun m ok => ?_⟩
              · rw [List.forall_mem_cons]
                refine ⟨⟨tx, List.mem_cons_self, rfl⟩, fun r mem => ?_⟩
                obtain ⟨tx', mem', eq⟩ := each r mem
                exact ⟨tx', List.mem_cons_of_mem _ mem', eq⟩
              · rw [List.forall_mem_cons]
                refine ⟨?_, all m ok⟩
                have mem : entity call account tx ∈ (importAll call account (i + 1) rest (n + 1)
                    { db with transactions := db.transactions.save (entity call account tx) }).1.transactions.rows := by
                  rw [rows]
                  simp
                rw [show (call.tenantId, tx.externalId) = (entity call account tx).index from rfl,
                  Table.find?_of_mem mem]
                rfl

theorem importAll_ok (call : Call) (account : BankAccount) (i : ℕ) (txs : List Psd2Transaction) (n : ℕ) (db : Db) :
    (∃ m, (importAll call account i txs n db).2 = .ok m) ↔
      ∀ j tx, txs[j]? = some tx → db.transactions.find? (call.tenantId, tx.externalId) = none →
        tx.externalId ∉ (txs.take j).map (·.externalId) → call.world.failsTransaction (i + j) = none := by
  induction txs generalizing i n db with
  | nil => simp [importAll]
  | cons tx rest ih =>
      have shift : ∀ {P : ℕ → Psd2Transaction → Prop},
          (∀ j tx', (tx :: rest)[j]? = some tx' → P j tx') ↔
            P 0 tx ∧ ∀ j tx', rest[j]? = some tx' → P (j + 1) tx' := by
        intro P
        rw [← Nat.and_forall_add_one]
        simp
      rw [shift]
      unfold importAll
      cases stored : db.transactions.find? (call.tenantId, tx.externalId) with
      | some row =>
          simp only [ih, reduceCtorEq, false_implies, true_and, List.take_succ_cons, List.map_cons,
            List.mem_cons, not_or]
          refine forall₃_congr fun j tx' _ => forall_congr' fun new => ?_
          have other : tx'.externalId ≠ tx.externalId := by
            intro same
            rw [same, stored] at new
            cases new
          rw [and_iff_right other, Nat.add_right_comm, Nat.add_assoc i j]
      | none =>
          simp only [List.take_zero, List.map_nil, List.not_mem_nil, not_false_eq_true, forall_const,
            Nat.add_zero, List.take_succ_cons, List.map_cons, List.mem_cons, not_or]
          cases fails : call.world.failsTransaction i with
          | some failure => simp [reach]
          | none =>
              simp only [reach, ih, true_and]
              refine forall₃_congr fun j tx' _ => ?_
              have saved : (db.transactions.save (entity call account tx)).find? (call.tenantId, tx'.externalId) = none ↔
                  tx'.externalId ≠ tx.externalId ∧ db.transactions.find? (call.tenantId, tx'.externalId) = none := by
                rw [Table.find?_save]
                split_ifs with same
                · have here : tx.externalId = tx'.externalId := congrArg Prod.snd same
                  simp [here]
                · rw [iff_and_self]
                  rintro - eq
                  exact same (by rw [eq]; rfl)
              rw [saved, Nat.add_right_comm, Nat.add_assoc i j]
              tauto

/-! ## What a run leaves -/

section
variable {s : Ledger} {call : Call}

theorem getAccount_id {db : Db} {tenantId id : Uuid} {account : BankAccount}
    (found : getAccount db tenantId id = .ok account) : account.id = id := by
  rw [getAccount, require_eq_ok, Option.filter_eq_some_iff] at found
  exact Table.key_of_find? found.1

theorem pull_account {db : Db} {account : BankAccount} {result : Psd2PullResult}
    (pulled : pull db call = .ok (account, result)) : getAccount db call.tenantId call.accountId = .ok account := by
  simp only [pull, bind_eq_ok, pure_eq_ok, ensure_eq_ok] at pulled
  obtain ⟨account', found, _, _, _, _, _, _, _, _, eq⟩ := pulled
  cases eq
  exact found

theorem StoredOnce.mono {db after : Db} {new : List BankTransaction} {p : Passed} (stored : StoredOnce db p)
    (rows : after.transactions.rows = db.transactions.rows ++ new) : StoredOnce after p := by
  rw [storedOnce_iff] at stored ⊢
  obtain ⟨r, found, here⟩ := stored
  refine ⟨r, ?_, here⟩
  have mem : r ∈ after.transactions.rows := by
    rw [rows]
    exact List.mem_append_left _ (Table.mem_of_find? found)
  rw [← Table.key_of_find? found]
  exact Table.find?_of_mem mem

theorem Imported.stored {account : BankAccount} {txs : List Psd2Transaction} {db after : Db} {n : ℕ}
    (imported : Imported call account txs db (after, .ok n)) {tx : Psd2Transaction} (mem : tx ∈ txs) :
    ∃ r, after.transactions.find? (call.tenantId, tx.externalId) = some r ∧
      (r ∈ db.transactions.rows ∨ ∃ tx ∈ txs, r = entity call account tx) := by
  obtain ⟨r, found⟩ := Option.isSome_iff_exists.mp (imported.all n rfl tx mem)
  obtain ⟨new, rows, each⟩ := imported.rows
  refine ⟨r, found, ?_⟩
  have here := Table.mem_of_find? found
  rw [rows, List.mem_append] at here
  exact here.imp_right (each r)

/-- A call that the bank does not answer changes nothing, one whose saves fail stores some of the transactions,
one whose saves go through all of them, and moves the cursor. -/
theorem sync_cases (s : Ledger) (call : Call) :
    (returned s.db call = [] ∧ syncNext s call = s) ∨
    ∃ account cursor after r, getAccount s.db call.tenantId call.accountId = .ok account ∧
      Imported call account (returned s.db call) s.db (after, r) ∧
      ((¬ Unfailing s.db call ∧ syncNext s call = ⟨after, s.passed⟩) ∨
        Unfailing s.db call ∧ (∃ n, r = .ok n) ∧ syncNext s call =
          ⟨{ after with accounts := after.accounts.save { account with
              lastTransactionCursor := cursor, lastSyncedAt := some call.world.now } },
            s.passed ++ (returned s.db call).map fun tx => ⟨call.tenantId, call.accountId, tx.externalId⟩⟩) := by
  cases pulled : pull s.db call with
  | error failure =>
      refine .inl ⟨by simp [returned, pulled], ?_⟩
      simp [syncNext, syncPsd2, pulled]
  | ok answer =>
      obtain ⟨account, result⟩ := answer
      have given : returned s.db call = result.transactions := by simp [returned, pulled]
      have ends := importAll_ok call account 0 result.transactions 0 s.db
      have kept := imported call account 0 result.transactions 0 s.db
      rw [← given] at ends kept
      refine .inr ⟨account, result.cursor, _, _, pull_account pulled, kept, ?_⟩
      rw [given] at ends ⊢
      unfold Unfailing syncNext syncPsd2
      simp only [Nat.zero_add] at ends
      simp only [pulled, given, ← ends]
      generalize importAll call account 0 result.transactions 0 s.db = r
      obtain ⟨after, outcome⟩ := r
      cases outcome with
      | error failure => simp
      | ok n => cases fails : call.world.failsAccount <;> simp [reach]

theorem accounted_iff (complete : ∀ p ∈ s.passed, StoredOnce s.db p) : Accounted s call ↔ OwnIds s call := by
  rcases sync_cases s call with ⟨none, same⟩ |
    ⟨account, cursor, after, r, found, kept, ⟨failing, stops⟩ | ⟨unfailing, ⟨n, rfl⟩, completes⟩⟩
  · refine iff_of_true ?_ fun _ tx mem => ?_
    · simp only [Accounted, same]
      exact ⟨complete, fun id moved => absurd rfl moved, fun r mem => .inl mem⟩
    · rw [none] at mem
      cases mem
  · refine iff_of_true ?_ fun unfailing => absurd unfailing failing
    obtain ⟨new, rows, each⟩ := kept.rows
    simp only [Accounted, stops]
    refine ⟨fun p mem => (complete p mem).mono rows, fun id moved => ?_, fun r mem => ?_⟩
    · rw [cursorOf, kept.accounts] at moved
      exact absurd rfl moved
    · rw [rows, List.mem_append] at mem
      exact mem.imp_right fun mem => ⟨account, found, each r mem⟩
  · obtain ⟨new, rows, each⟩ := kept.rows
    have here : account.id = call.accountId := getAccount_id found
    simp only [Accounted, completes]
    constructor
    · rintro ⟨stored, -, -⟩ - tx mem r old tenant id
      have passed := stored ⟨call.tenantId, call.accountId, tx.externalId⟩
        (List.mem_append_right _ (List.mem_map_of_mem mem))
      obtain ⟨r', found', owner⟩ := storedOnce_iff.mp passed
      have still : r ∈ after.transactions.rows := rows ▸ List.mem_append_left _ old
      have same := Table.find?_of_mem still
      rw [show r.index = (call.tenantId, tx.externalId) from Prod.ext tenant id, found'] at same
      rw [← Option.some_inj.mp same]
      exact owner
    · intro own
      have own := own unfailing
      have stored : ∀ tx ∈ returned s.db call, StoredOnce after ⟨call.tenantId, call.accountId, tx.externalId⟩ := by
        intro tx mem
        obtain ⟨r, found', old | ⟨tx', -, rfl⟩⟩ := kept.stored mem
        · have key := Table.key_of_find? found'
          exact storedOnce_iff.mpr ⟨r, found', own tx mem r old (congrArg Prod.fst key) (congrArg Prod.snd key)⟩
        · exact storedOnce_iff.mpr ⟨_, found', here⟩
      refine ⟨fun p mem => ?_, fun id moved => ?_, fun r mem => ?_⟩
      · rcases List.mem_append.mp mem with old | new
        · exact (complete p old).mono rows
        · obtain ⟨tx, mem', rfl⟩ := List.mem_map.mp new
          exact stored tx mem'
      · have only : id = call.accountId := by
          by_contra other
          apply moved
          simp only [cursorOf]
          rw [Table.find?_save_of_ne, kept.accounts]
          exact fun same => other (same.symm.trans here)
        subst only
        exact ⟨rfl, stored⟩
      · rw [rows, List.mem_append] at mem
        exact mem.imp_right fun mem => ⟨account, found, each r mem⟩

/-- Sync after sync, in whatever order the accounts take turns. -/
theorem syncs_accounted_iff (db : Db) (calls : List Call) :
    AllMet Accounted syncNext ⟨db, []⟩ calls ↔ AllMet OwnIds syncNext ⟨db, []⟩ calls := by
  have general : ∀ s : Ledger, (∀ p ∈ s.passed, StoredOnce s.db p) →
      (AllMet Accounted syncNext s calls ↔ AllMet OwnIds syncNext s calls) := by
    induction calls with
    | nil => exact fun _ _ => Iff.rfl
    | cons call calls ih =>
        intro s complete
        have here : Accounted s call ↔ OwnIds s call := accounted_iff complete
        constructor
        · rintro ⟨accounted, rest⟩
          exact ⟨here.mp accounted, (ih _ accounted.1).mp rest⟩
        · rintro ⟨own, rest⟩
          have accounted := here.mpr own
          exact ⟨accounted, (ih _ accounted.1).mpr rest⟩
  exact general ⟨db, []⟩ fun p mem => nomatch mem

end

namespace Sample

def account (id : Uuid) (provider : Psd2Provider) : BankAccount :=
  { id, tenantId := 1, ibanEncrypted := "v1", psd2Provider := provider }

def accounts : Db where
  accounts := ((∅ : Table BankAccount.id).save (account 1 .intesa)).save (account 2 .bper)
  transactions := ∅

def movement (amountCents : ℤ) : Psd2Transaction :=
  ⟨"2026-0001", "2026-04-01", "2026-04-01", amountCents, "EUR", "BONIFICO", none, none⟩

def pulled (amountCents : ℤ) : Psd2Adapter := fun _ _ => .ok ⟨[movement amountCents], some "2026-04-02"⟩

def refused : Psd2Adapter := fun _ _ => .error (.error "not asked")

def sync (accountId : Uuid) : Call :=
  { tenantId := 1, accountId, world := { intesa := pulled 12500, unicredit := refused, bper := pulled 300 } }

end Sample

open Sample in
/-- Two banks that number their movements alike: that of the second account is lost. -/
theorem movement_lost :
    let s := [sync 1, sync 2].foldl syncNext ⟨accounts, []⟩
    s.db.transactions.rows.map (fun r => (r.bankAccountId, r.externalId)) = [(1, "2026-0001")] ∧
      cursorOf s.db 2 = some "2026-04-02" ∧ ¬ AllMet Accounted syncNext ⟨accounts, []⟩ [sync 1, sync 2] := by
  refine ⟨by decide +kernel, by decide +kernel, fun met => ?_⟩
  have stored := met.2.1.1 ⟨1, 2, "2026-0001"⟩ (by decide +kernel)
  revert stored
  unfold StoredOnce
  decide +kernel

end SmartErp.Treasury
