import SmartErp.Foundations.Bytes
import SmartErp.Treasury.Iban
import SmartErp.Treasury.Psd2

/-!
# Account numbers at rest

`encryptIban`, `decryptIban` and `maskIban` of `iban.util.ts`, and what `createAccount` and `revealIban` of
`treasury.service.ts` do with them. The cipher is that of the platform, a stream of bytes and a tag.
-/

namespace SmartErp.Treasury
open Foundations

/-- AES-256-GCM without additional data, as the counter mode and the hash of the platform, each from the key and
the initialization vector. -/
structure Cipher where
  keystream : List Byte → List Byte → ℕ → Byte
  tag : List Byte → List Byte → List Byte → List Byte

namespace Cipher
variable (cipher : Cipher) (key iv : List Byte)

def combine (bs : List Byte) : List Byte := bs.mapIdx fun i b => b ^^^ cipher.keystream key iv i

/-- `cipher.update`, `cipher.final` and `cipher.getAuthTag` -/
def lock (plaintext : List Byte) : List Byte × List Byte :=
  let ct := cipher.combine key iv plaintext
  (ct, cipher.tag key iv ct)

/-- `decipher.setAuthTag`, `decipher.update` and `decipher.final` -/
def unlock (tag ct : List Byte) : Option (List Byte) :=
  if tag = cipher.tag key iv ct then some (cipher.combine key iv ct) else none

theorem xor_xor (a b : Byte) : (a ^^^ b) ^^^ b = a := by
  apply Fin.ext
  have small : (a ^^^ b).val = a.val ^^^ b.val := Fin.xor_val_of_two_pow (w := 8) a b
  rw [show ((a ^^^ b) ^^^ b).val = (a ^^^ b).val ^^^ b.val from Fin.xor_val_of_two_pow (w := 8) _ b, small,
    Nat.xor_assoc, Nat.xor_self, Nat.xor_zero]

theorem unlock_lock (plaintext : List Byte) :
    cipher.unlock key iv (cipher.lock key iv plaintext).2 (cipher.lock key iv plaintext).1 = some plaintext := by
  have twice : cipher.combine key iv (cipher.combine key iv plaintext) = plaintext := by
    apply List.ext_getElem
    · simp [combine]
    · intro i _ _
      simp only [combine, List.getElem_mapIdx, xor_xor]
  rw [unlock, lock, if_pos rfl, twice]

end Cipher

/-- The cipher and `process.env.FIELD_LEVEL_ENC_KEY`. -/
structure Deployment where
  cipher : Cipher
  fieldLevelEncKey : Option String

namespace Deployment
variable (deployment : Deployment)

def loadKey : Except Failure (List Byte) := do
  let raw ← require (deployment.fieldLevelEncKey.filter (· ≠ ""))
    (.error "FIELD_LEVEL_ENC_KEY env var not set — refusing to encrypt IBAN columns at rest.")
  let buf := Base64.decode raw.toList
  ensure (buf.length = 32) (.error
    s!"FIELD_LEVEL_ENC_KEY must decode to exactly 32 bytes (AES-256). Got {buf.length} bytes.")
  return buf

/-- `v1:<iv-b64>:<tag-b64>:<ciphertext-b64>` -/
def envelope (iv tag ct : List Byte) : List Char :=
  [':'].intercalate [['v', '1'], Base64.encode iv, Base64.encode tag, Base64.encode ct]

def encryptIban (iv : List Byte) (plaintext : String) : Except Failure String := do
  let key ← deployment.loadKey
  let locked := deployment.cipher.lock key iv (Utf8.encode plaintext.toList)
  return String.ofList (envelope iv locked.2 locked.1)

def buffer (part : Option (List Char)) : Except Failure (List Byte) := do
  let b64 ← require part (.typeError ("The first argument must be of type string or an instance of Buffer, " ++
    "ArrayBuffer, or Array or an Array-like Object. Received undefined"))
  return Base64.decode b64

def decryptIban (ciphertext : String) : Except Failure String := do
  ensure (['v', '1', ':'] <+: ciphertext.toList) (.error "Unsupported IBAN ciphertext envelope")
  let parts := ciphertext.toList.splitOn ':'
  let key ← deployment.loadKey
  let iv ← buffer parts[1]?
  let tag ← buffer parts[2]?
  let ct ← buffer parts[3]?
  let pt ← require (deployment.cipher.unlock key iv tag ct) (.error "Unsupported state or unable to authenticate data")
  return String.ofList (Utf8.decode pt)

end Deployment

/-- The texts that are masked are all in one plane, where units and characters are the same. -/
def maskIban (plaintext : List Char) : List Char :=
  let cleaned := plaintext.filter fun c => !whitespace c
  if cleaned.length < 8 then cleaned else cleaned.take 4 ++ ['*', '*', '*', '*'] ++ cleaned.drop (cleaned.length - 4)

/-! ## Accounts -/

inductive BankAccountStatus where
  | active
  | inactive
  | closed
  deriving DecidableEq

structure CreateAccountDto where
  name : String
  iban : String
  bicSwift : Option String := none
  bankName : Option String := none
  psd2Provider : Option Psd2Provider := none
  currency : Option String := none

structure AccountColumns where
  id : Uuid
  tenantId : Uuid
  name : String
  ibanMasked : Option String
  bicSwift : Option String
  bankName : Option String
  currency : String
  status : BankAccountStatus
  deriving DecidableEq

/-- The name is unique in the tenant. -/
def AccountColumns.index (c : AccountColumns) : Uuid × String := (c.tenantId, c.name)

structure Bank where
  db : Db
  columns : Table AccountColumns.index

/-- What a creation draws, and whether its save fails. -/
structure Draw where
  id : Uuid
  iv : List Byte
  fault : Option Failure := none

def createAccount (deployment : Deployment) (draw : Draw) (tenantId : Uuid) (dto : CreateAccountDto) (bank : Bank) :
    Except Failure Bank := do
  ensure (validateIban dto.iban) (.badRequest "Invalid IBAN (mod-97 / format check failed)")
  let ibanCleaned := cleaned dto.iban
  let ibanEncrypted ← deployment.encryptIban draw.iv (String.ofList ibanCleaned)
  ensure (bank.db.accounts.find? draw.id = none ∧ bank.columns.find? (tenantId, dto.name) = none)
    (.database "duplicate key value violates unique constraint")
  reach draw.fault
  return {
    db := { bank.db with accounts := bank.db.accounts.save {
      id := draw.id, tenantId, ibanEncrypted, psd2Provider := dto.psd2Provider.getD .manual } }
    columns := bank.columns.save {
      id := draw.id, tenantId
      name := dto.name
      ibanMasked := some (String.ofList (maskIban ibanCleaned))
      bicSwift := dto.bicSwift
      bankName := dto.bankName
      currency := dto.currency.getD "EUR"
      status := .active } }

def revealIban (deployment : Deployment) (db : Db) (tenantId id : Uuid) : Except Failure String := do
  let a ← getAccount db tenantId id
  deployment.decryptIban a.ibanEncrypted

/-! ## The envelope -/

section
variable {deployment : Deployment}

theorem split_envelope (iv tag ct : List Byte) : (Deployment.envelope iv tag ct).splitOn ':' =
    [['v', '1'], Base64.encode iv, Base64.encode tag, Base64.encode ct] := by
  refine List.splitOn_intercalate ':' ?_ (by simp)
  simp only [List.forall_mem_cons, List.not_mem_nil, false_implies, implies_true, and_true]
  exact ⟨by decide, Base64.colon_not_mem iv, Base64.colon_not_mem tag, Base64.colon_not_mem ct⟩

theorem decrypt_encrypt {iv : List Byte} {plaintext ciphertext : String}
    (encrypted : deployment.encryptIban iv plaintext = .ok ciphertext) :
    deployment.decryptIban ciphertext = .ok plaintext := by
  simp only [Deployment.encryptIban, bind_eq_ok, pure_eq_ok] at encrypted
  obtain ⟨key, loaded, rfl⟩ := encrypted
  have begins : ['v', '1', ':'] <+: Deployment.envelope iv (deployment.cipher.lock key iv (Utf8.encode plaintext.toList)).2
      (deployment.cipher.lock key iv (Utf8.encode plaintext.toList)).1 := by
    simp [Deployment.envelope, List.intercalate]
  have read (bs : List Byte) : Deployment.buffer (some (Base64.encode bs)) = .ok bs :=
    congrArg Except.ok (Base64.decode_encode bs)
  unfold Deployment.decryptIban
  rw [String.toList_ofList, split_envelope, loaded]
  simp only [bind_eq_ok, ensure_eq_ok, require_eq_ok, pure_eq_ok]
  refine ⟨(), begins, key, rfl, _, read iv, _, read _, _, read _, _, deployment.cipher.unlock_lock key iv _, ?_⟩
  rw [Utf8.decode_encode, String.ofList_toList]

end

/-! ## Cleaned numbers -/

theorem alphanumeric_of_shaped {cs : List Char} (shape : shaped cs = true) : ∀ c ∈ cs, alphanumeric c = true := by
  simp only [shaped, Bool.and_eq_true, List.all_eq_true, decide_eq_true_eq] at shape
  obtain ⟨⟨⟨letters, digits⟩, rest⟩, -⟩ := shape
  intro c mem
  rw [← List.take_append_drop 2 cs, ← List.take_append_drop 2 (cs.drop 2), List.drop_drop] at mem
  simp only [List.mem_append] at mem
  rcases mem with letter | digit | mem
  · simp [alphanumeric, letters c letter]
  · simp [alphanumeric, digits c digit]
  · exact rest c mem

theorem maskIban_shaped {cs : List Char} (shape : shaped cs = true) :
    maskIban cs = cs.take 4 ++ ['*', '*', '*', '*'] ++ cs.drop (cs.length - 4) := by
  have seen : cs.filter (fun c => !whitespace c) = cs :=
    List.filter_eq_self.mpr fun c mem => by
      simp [(toUpperCase_alphanumeric (alphanumeric_of_shaped shape c mem)).1]
  have long : ¬ cs.length < 8 := by
    simp only [shaped, Bool.and_eq_true, decide_eq_true_eq] at shape
    omega
  rw [maskIban, seen]
  exact if_neg long

/-- A number that is accepted is its own cleaned text. -/
theorem cleaned_cleaned {iban : String} (valid : validateIban iban = true) :
    cleaned (String.ofList (cleaned iban)) = cleaned iban := by
  rw [validateIban, Bool.and_eq_true] at valid
  rw [cleaned_alphanumeric (by simpa using alphanumeric_of_shaped valid.1), String.toList_ofList]

theorem validate_cleaned {iban : String} (valid : validateIban iban = true) :
    validateIban (String.ofList (cleaned iban)) = true := by
  have same := cleaned_cleaned valid
  rw [validateIban, same]
  exact valid

/-! ## Runs -/

inductive Request where
  | create (draw : Draw) (tenantId : Uuid) (dto : CreateAccountDto)
  | sync (call : Call)

structure Opened where
  id : Uuid
  tenantId : Uuid
  iban : String

structure Asked where
  accountId : Uuid
  context : Psd2AdapterContext

structure Vault where
  bank : Bank
  opened : List Opened := []
  asked : List Asked := []

def deployed (deployment : Deployment) (call : Call) : Call :=
  { call with world := { call.world with decryptIban := deployment.decryptIban } }

def question (db : Db) (call : Call) : Except Failure Asked := do
  let account ← getAccount db call.tenantId call.accountId
  ensure (account.psd2Provider ≠ .manual) (.badRequest
    "Account has no PSD2 provider — set psd2Provider before syncing")
  let _ ← call.world.resolveAdapter account.psd2Provider
  let ibanPlaintext ← call.world.decryptIban account.ibanEncrypted
  return ⟨account.id, call.tenantId, ibanPlaintext, account.psd2Consent, call.mode⟩

def Vault.next (deployment : Deployment) (v : Vault) : Request → Vault
  | .create draw tenantId dto =>
      match createAccount deployment draw tenantId dto v.bank with
      | .ok bank => { v with bank, opened := v.opened ++ [⟨draw.id, tenantId, String.ofList (cleaned dto.iban)⟩] }
      | .error _ => v
  | .sync call =>
      { v with
        bank := { v.bank with db := (syncPsd2 v.bank.db (deployed deployment call)).1 }
        asked := v.asked ++ (question v.bank.db (deployed deployment call)).toOption.toList }

structure Kept (deployment : Deployment) (bank : Bank) (o : Opened) : Prop where
  valid : validateIban o.iban = true
  revealed : revealIban deployment bank.db o.tenantId o.id = .ok o.iban
  foreign : ∀ tenantId ≠ o.tenantId, revealIban deployment bank.db tenantId o.id =
    .error (.notFound s!"BankAccount {o.id} not found")
  masked : ∃ c ∈ bank.columns.rows, c.id = o.id ∧ c.tenantId = o.tenantId ∧
    c.ibanMasked = some (String.ofList (o.iban.toList.take 4 ++ ['*', '*', '*', '*'] ++
      o.iban.toList.drop (o.iban.toList.length - 4)))

structure Vault.Sound (deployment : Deployment) (v : Vault) : Prop where
  kept : ∀ o ∈ v.opened, Kept deployment v.bank o
  created : ∀ a ∈ v.bank.db.accounts.rows, ∃ o ∈ v.opened, o.id = a.id
  asked : ∀ q ∈ v.asked, ∃ o ∈ v.opened, o.id = q.accountId ∧ o.tenantId = q.context.tenantId ∧
    o.iban = q.context.ibanPlaintext

/-! ## One request -/

section
variable {deployment : Deployment} {v : Vault}

theorem pull_eq (db : Db) (call : Call) : pull db call = do
    let q ← question db call
    let account ← getAccount db call.tenantId call.accountId
    let adapter ← call.world.resolveAdapter account.psd2Provider
    let result ← adapter q.context account.lastTransactionCursor
    return (account, result) := by
  unfold pull question
  cases found : getAccount db call.tenantId call.accountId with
  | error e => rfl
  | ok account =>
      by_cases manual : account.psd2Provider = .manual
      · simp [manual, ensure, bind, Except.bind]
      · cases adapter : call.world.resolveAdapter account.psd2Provider with
        | error e => simp [manual, ensure, bind, Except.bind, adapter]
        | ok adapter =>
            cases plaintext : call.world.decryptIban account.ibanEncrypted with
            | error e => simp [manual, ensure, bind, Except.bind, adapter, plaintext]
            | ok iban => simp [manual, ensure, bind, Except.bind, adapter, plaintext, pure, Except.pure]

def holding (db : Db) (id : Uuid) : Option (Uuid × String) :=
  (db.accounts.find? id).map fun a => (a.tenantId, a.ibanEncrypted)

theorem revealIban_eq (db : Db) (tenantId id : Uuid) : revealIban deployment db tenantId id =
    match holding db id with
    | some held => if held.1 = tenantId then deployment.decryptIban held.2
        else .error (.notFound s!"BankAccount {id} not found")
    | none => .error (.notFound s!"BankAccount {id} not found") := by
  unfold revealIban getAccount holding
  cases found : db.accounts.find? id with
  | none => rfl
  | some a => by_cases own : a.tenantId = tenantId <;> simp [own, Option.filter_some, require, bind, Except.bind]

theorem holding_sync (db : Db) (call : Call) (id : Uuid) : holding (syncPsd2 db call).1 id = holding db id := by
  have same {after : Db} (accounts : after.accounts = db.accounts) : holding after id = holding db id := by
    rw [holding, holding, accounts]
  change holding (syncNext ⟨db, []⟩ call).db id = _
  rcases sync_cases ⟨db, []⟩ call with ⟨-, unchanged⟩ | ⟨account, cursor, after, r, found, imported, ends⟩
  · rw [unchanged]
  · rcases ends with ⟨-, stopped⟩ | ⟨-, -, ended⟩
    · rw [stopped]
      exact same imported.accounts
    · rw [getAccount, require_eq_ok, Option.filter_eq_some_iff] at found
      rw [ended, holding, Table.find?_save]
      split_ifs with here
      · have own : account.id = call.accountId := Table.key_of_find? found.1
        have stored : db.accounts.find? id = some account := by
          rw [← here]
          exact own ▸ found.1
        rw [holding, stored]
        rfl
      · exact same imported.accounts

theorem createAccount_eq_ok {draw : Draw} {tenantId : Uuid} {dto : CreateAccountDto} {bank after : Bank}
    (created : createAccount deployment draw tenantId dto bank = .ok after) :
    validateIban dto.iban = true ∧ bank.db.accounts.find? draw.id = none ∧
      bank.columns.find? (tenantId, dto.name) = none ∧
      ∃ ciphertext account columns, deployment.encryptIban draw.iv (String.ofList (cleaned dto.iban)) = .ok ciphertext ∧
        after.db = { bank.db with accounts := bank.db.accounts.save account } ∧
        after.columns = bank.columns.save columns ∧
        account.id = draw.id ∧ account.tenantId = tenantId ∧ account.ibanEncrypted = ciphertext ∧
        columns.index = (tenantId, dto.name) ∧ columns.id = draw.id ∧
        columns.ibanMasked = some (String.ofList (maskIban (cleaned dto.iban))) := by
  simp only [createAccount, bind_eq_ok, ensure_eq_ok, pure_eq_ok] at created
  obtain ⟨_, valid, ciphertext, encrypted, _, ⟨fresh, named⟩, _, _, rfl⟩ := created
  exact ⟨valid, fresh, named, ciphertext, _, _, encrypted, rfl, rfl, rfl, rfl, rfl, rfl, rfl, rfl⟩

theorem holding_create {db : Db} {account : BankAccount} (id : Uuid) :
    holding { db with accounts := db.accounts.save account } id =
      if account.id = id then some (account.tenantId, account.ibanEncrypted) else holding db id := by
  rw [holding, Table.find?_save]
  split_ifs <;> rfl

/-! ## All requests -/

theorem Kept.of_holding {bank after : Bank} {o : Opened} (kept : Kept deployment bank o)
    (same : holding after.db o.id = holding bank.db o.id) (columns : ∀ c ∈ bank.columns.rows, c ∈ after.columns.rows) :
    Kept deployment after o where
  valid := kept.valid
  revealed := by rw [revealIban_eq, same, ← revealIban_eq, kept.revealed]
  foreign := by
    intro tenantId other
    rw [revealIban_eq, same, ← revealIban_eq, kept.foreign tenantId other]
  masked := by
    obtain ⟨c, mem, rest⟩ := kept.masked
    exact ⟨c, columns c mem, rest⟩

theorem holding_eq_none {db : Db} {id : Uuid} (fresh : db.accounts.find? id = none) : holding db id = none := by
  rw [holding, fresh]
  rfl

theorem Kept.held {bank : Bank} {o : Opened} (kept : Kept deployment bank o) : holding bank.db o.id ≠ none := by
  intro none
  have revealed := kept.revealed
  rw [revealIban_eq, none] at revealed
  cases revealed

theorem create_sound (sound : v.Sound deployment) {draw : Draw} {tenantId : Uuid} {dto : CreateAccountDto} {bank : Bank}
    (created : createAccount deployment draw tenantId dto v.bank = .ok bank) :
    Vault.Sound deployment { v with bank, opened := v.opened ++ [⟨draw.id, tenantId, String.ofList (cleaned dto.iban)⟩] } := by
  obtain ⟨valid, fresh, named, ciphertext, account, columns, encrypted, db, added, id, tenant, held, index, columnId,
    masked⟩ := createAccount_eq_ok created
  have shape : shaped (cleaned dto.iban) = true := (Bool.and_eq_true _ _ ▸ valid : _ ∧ _).1
  have after (i : Uuid) : holding bank.db i = if draw.id = i then some (tenantId, ciphertext) else holding v.bank.db i := by
    rw [db, holding_create, id, tenant, held]
  have rows : bank.columns.rows = v.bank.columns.rows ++ [columns] := by
    rw [added, Table.rows_save_of_none (by rw [index]; exact named)]
  have new : Kept deployment bank ⟨draw.id, tenantId, String.ofList (cleaned dto.iban)⟩ := by
    refine ⟨validate_cleaned valid, ?_, ?_, columns, by simp [rows], columnId, congrArg Prod.fst index, ?_⟩
    · rw [revealIban_eq, after, if_pos rfl]
      exact (if_pos rfl).trans (decrypt_encrypt encrypted)
    · intro other ne
      rw [revealIban_eq, after, if_pos rfl]
      exact if_neg (Ne.symm ne)
    · rw [masked, maskIban_shaped shape, String.toList_ofList]
  refine ⟨?_, ?_, ?_⟩
  · intro o mem
    rcases List.mem_append.mp mem with old | here
    · have kept := sound.kept o old
      refine kept.of_holding ?_ fun c mem => by simp [rows, mem]
      rw [after, if_neg]
      intro same
      exact kept.held (same ▸ holding_eq_none fresh)
    · exact List.mem_singleton.mp here ▸ new
  · intro a mem
    have mem : a ∈ (v.bank.db.accounts.save account).rows := by
      rw [db] at mem
      exact mem
    rcases Table.mem_save.mp mem with rfl | ⟨old, -⟩
    · exact ⟨_, List.mem_append_right _ (List.mem_singleton_self _), id.symm⟩
    · obtain ⟨o, listed, same⟩ := sound.created a old
      exact ⟨o, List.mem_append_left _ listed, same⟩
  · intro q mem
    obtain ⟨o, listed, rest⟩ := sound.asked q mem
    exact ⟨o, List.mem_append_left _ listed, rest⟩

theorem question_eq_ok {db : Db} {call : Call} {q : Asked} (asked : question db (deployed deployment call) = .ok q) :
    q.context.tenantId = call.tenantId ∧ ∃ a ∈ db.accounts.rows, a.id = q.accountId ∧ a.tenantId = call.tenantId ∧
      deployment.decryptIban a.ibanEncrypted = .ok q.context.ibanPlaintext := by
  simp only [question, bind_eq_ok, ensure_eq_ok, pure_eq_ok] at asked
  obtain ⟨account, found, _, -, _, -, ibanPlaintext, decrypted, rfl⟩ := asked
  rw [getAccount, require_eq_ok, Option.filter_eq_some_iff] at found
  exact ⟨rfl, account, Table.mem_of_find? found.1, rfl, of_decide_eq_true found.2, decrypted⟩

theorem Kept.of_row {bank : Bank} {o : Opened} (kept : Kept deployment bank o) {a : BankAccount}
    (mem : a ∈ bank.db.accounts.rows) (same : o.id = a.id) :
    a.tenantId = o.tenantId ∧ deployment.decryptIban a.ibanEncrypted = .ok o.iban := by
  have held : holding bank.db o.id = some (a.tenantId, a.ibanEncrypted) := by
    rw [holding, same, Table.find?_of_mem mem]
    rfl
  have revealed := kept.revealed
  rw [revealIban_eq, held] at revealed
  by_cases own : a.tenantId = o.tenantId
  · exact ⟨own, (if_pos own).symm.trans revealed⟩
  · exact absurd ((if_neg own).symm.trans revealed) nofun

theorem sync_sound (sound : v.Sound deployment) (call : Call) :
    Vault.Sound deployment (v.next deployment (.sync call)) := by
  refine ⟨?_, ?_, ?_⟩
  · intro o mem
    exact (sound.kept o mem).of_holding (holding_sync _ _ _) fun c mem => mem
  · intro a mem
    have held : holding v.bank.db a.id ≠ none := by
      have found : (syncPsd2 v.bank.db (deployed deployment call)).1.accounts.find? a.id = some a :=
        Table.find?_of_mem mem
      rw [← holding_sync v.bank.db (deployed deployment call), holding, found]
      exact Option.some_ne_none _
    cases found : v.bank.db.accounts.find? a.id with
    | none => exact absurd (holding_eq_none found) held
    | some b =>
        obtain ⟨o, listed, same⟩ := sound.created b (Table.mem_of_find? found)
        exact ⟨o, listed, same.trans (Table.key_of_find? found)⟩
  · intro q mem
    rcases List.mem_append.mp mem with old | new
    · exact sound.asked q old
    · cases asked : question v.bank.db (deployed deployment call) with
      | error e => simp [asked, Except.toOption] at new
      | ok q' =>
          obtain rfl : q = q' := by simpa [asked, Except.toOption] using new
          obtain ⟨tenant, a, row, id, own, decrypted⟩ := question_eq_ok asked
          obtain ⟨o, listed, same⟩ := sound.created a row
          obtain ⟨tenant', number⟩ := (sound.kept o listed).of_row row same
          refine ⟨o, listed, same.trans id, tenant'.symm.trans (own.trans tenant.symm), ?_⟩
          rw [decrypted] at number
          exact (Except.ok.inj number).symm

theorem next_sound (sound : v.Sound deployment) (request : Request) :
    Vault.Sound deployment (v.next deployment request) := by
  cases request with
  | create draw tenantId dto =>
      cases created : createAccount deployment draw tenantId dto v.bank with
      | ok bank => simpa only [Vault.next, created] using create_sound sound created
      | error e => simpa only [Vault.next, created] using sound
  | sync call => exact sync_sound sound call

end

def noAccounts : Vault := ⟨⟨⟨∅, ∅⟩, ∅⟩, [], []⟩

/-- Whatever is created and synced, every number can be read back by its tenant alone, is shown masked, and is
what the bank is asked with. -/
theorem vault_sound (deployment : Deployment) (requests : List Request) :
    Vault.Sound deployment (requests.foldl (Vault.next deployment) noAccounts) := by
  have general (v : Vault) (sound : v.Sound deployment) :
      Vault.Sound deployment (requests.foldl (Vault.next deployment) v) := by
    induction requests generalizing v with
    | nil => exact sound
    | cons request requests ih => exact ih _ (next_sound sound request)
  exact general noAccounts ⟨nofun, nofun, nofun⟩

/-! ## One account -/

namespace Sample

def key : List Byte := (List.range 32).map .of

def vector : List Byte := (List.range 12).map .of

def locked : List Byte :=
  ([14, 86, 224, 43, 157, 213, 247, 47, 191, 121, 166, 186, 128, 217, 73, 93, 179, 230, 183, 4, 192, 74, 109, 79, 12, 82,
    211] : List ℕ).map .of

/-- The bytes of AES-256-GCM under `key` and `vector`, as many as the number below needs. -/
def aes : Cipher where
  keystream k iv i :=
    if k = key ∧ iv = vector then
      .of (([71, 2, 214, 27, 197, 229, 194, 27, 141, 65, 151, 139, 177, 233, 120, 109, 131, 214, 135, 52, 240, 123, 95, 124,
        56, 103, 229] : List ℕ).getD i 0)
    else .of 0
  tag k iv ct :=
    if k = key ∧ iv = vector ∧ ct = locked then
      ([60, 188, 60, 13, 63, 187, 80, 206, 136, 136, 66, 37, 251, 100, 109, 225] : List ℕ).map .of
    else []

def vaulted : Deployment := ⟨aes, some "AAECAwQFBgcICQoLDA0ODxAREhMUFRYXGBkaGxwdHh8="⟩

def intesa : Psd2Adapter := fun _ _ => .ok
  ⟨[⟨"I-1", "2026-03-01", "2026-03-01", -12200, "EUR", "Bonifico", none, some "de89 3704 0044 0532 0130 00"⟩], some "c1"⟩

def requests : List Request :=
  [.create ⟨5, vector, none⟩ 7 { name := "Conto", iban := "IT60 x054 2811 1010 0000 0123 456", psd2Provider := some .intesa },
    .sync { tenantId := 7, accountId := 5, world := { intesa, unicredit := intesa, bper := intesa } }]

end Sample

open Sample in
/-- An account of one tenant: stored under the cipher, revealed, masked, and synced with its bank. -/
theorem vault_sound_account :
    let v := requests.foldl (Vault.next vaulted) noAccounts
    v.bank.db.accounts.rows.map (·.ibanEncrypted) =
        ["v1:AAECAwQFBgcICQoL:PLw8DT+7UM6IiEIl+2Rt4Q==:DlbgK53V9y+/eaa6gNlJXbPmtwTASm1PDFLT"] ∧
      (revealIban vaulted v.bank.db 7 5).toOption = some "IT60X0542811101000000123456" ∧
      v.bank.columns.rows.map (·.ibanMasked) = [some "IT60****3456"] ∧
      v.asked.map (·.context.ibanPlaintext) = ["IT60X0542811101000000123456"] ∧
      v.bank.db.transactions.rows.map (·.counterpartyIbanEncrypted) = [some "DE89370400440532013000"] ∧
      v.Sound vaulted :=
  ⟨by decide +kernel, by decide +kernel, by decide +kernel, by decide +kernel, by decide +kernel,
    vault_sound vaulted requests⟩

end SmartErp.Treasury
