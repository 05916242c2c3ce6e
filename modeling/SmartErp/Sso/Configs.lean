import SmartErp.Failure
import SmartErp.Foundations.Table

/-!
# SSO configurations

`PUT sso/saml` and `PUT sso/scim`. The body is copied over the entity key by key, and the repository
saves whatever columns the entity then has, by the id it then has. `cell` stands for the driver: the
text that a column holds once a JSON value is written to it, if the database takes the value.
-/

namespace SmartErp.Sso
open Foundations

inductive Json where
  | null
  | bool (b : Bool)
  | num (q : ℚ)
  | str (s : String)
  | arr (items : List Json)
  | obj (fields : List (String × Json))

/-- The columns of `sso_configs`. `updatedAt`, which every save stamps, is left out. -/
inductive Column where
  | id
  | tenantId
  | protocol
  | status
  | idpEntityId
  | idpSsoUrl
  | idpX509Cert
  | attributeMappingEmail
  | attributeMappingName
  | defaultRole
  | scimBearerTokenHash
  | breakGlassEmail
  | breakGlassRotatedAt
  | notes
  | createdAt
  deriving DecidableEq

namespace Column

def all : List Column :=
  [id, tenantId, protocol, status, idpEntityId, idpSsoUrl, idpX509Cert, attributeMappingEmail,
    attributeMappingName, defaultRole, scimBearerTokenHash, breakGlassEmail, breakGlassRotatedAt, notes,
    createdAt]

theorem mem_all (c : Column) : c ∈ all := by cases c <;> decide

instance (p : Column → Prop) [DecidablePred p] : Decidable (∀ c, p c) :=
  decidable_of_iff (∀ c ∈ all, p c) ⟨fun each c => each c (mem_all c), fun each c _ => each c⟩

def name : Column → String
  | id => "id"
  | tenantId => "tenantId"
  | protocol => "protocol"
  | status => "status"
  | idpEntityId => "idpEntityId"
  | idpSsoUrl => "idpSsoUrl"
  | idpX509Cert => "idpX509Cert"
  | attributeMappingEmail => "attributeMappingEmail"
  | attributeMappingName => "attributeMappingName"
  | defaultRole => "defaultRole"
  | scimBearerTokenHash => "scimBearerTokenHash"
  | breakGlassEmail => "breakGlassEmail"
  | breakGlassRotatedAt => "breakGlassRotatedAt"
  | notes => "notes"
  | createdAt => "createdAt"

def nullable : Column → Bool
  | id | tenantId | protocol | status | defaultRole | createdAt => false
  | _ => true

end Column

/-- A row: the text of each column, `none` for NULL. -/
abbrev SsoConfig := Column → Option String

inductive SsoProtocol where
  | saml2
  | scim2
  deriving DecidableEq

namespace SsoProtocol

def text : SsoProtocol → String
  | saml2 => "saml2"
  | scim2 => "scim2"

/-- The body types of the two routes. -/
def documented : SsoProtocol → List Column
  | saml2 => [.idpEntityId, .idpSsoUrl, .idpX509Cert, .attributeMappingEmail, .attributeMappingName,
      .defaultRole]
  | scim2 => [.defaultRole]

end SsoProtocol

abbrev Configs := Table fun row : SsoConfig => row .id

def SsoConfig.For (row : SsoConfig) (tenantId : String) (protocol : SsoProtocol) : Prop :=
  row .tenantId = some tenantId ∧ row .protocol = some protocol.text

instance (row : SsoConfig) (tenantId : String) (protocol : SsoProtocol) :
    Decidable (row.For tenantId protocol) :=
  inferInstanceAs (Decidable (row .tenantId = some tenantId ∧ row .protocol = some protocol.text))

structure Db where
  configs : Configs
  ux_tenant_protocol : ∀ row ∈ configs.rows, ∀ row' ∈ configs.rows,
    row .tenantId = row' .tenantId → row .protocol = row' .protocol → row = row'

def Db.config (db : Db) (tenantId : String) (protocol : SsoProtocol) : Option SsoConfig :=
  db.configs.rows.find? fun row => row.For tenantId protocol

/-! ## The repository -/

/-- A property of an entity: as it was loaded or set by the service, or as it came in the body. -/
inductive Property where
  | kept (text : Option String)
  | given (json : Json)

/-- `none` is a property that is not defined. -/
abbrev Entity := Column → Option Property

def Db.stored (db : Db) (entity : Entity) : Option SsoConfig :=
  match entity .id with
  | some (.kept text) => db.configs.find? text
  | some (.given (.str s)) => db.configs.find? (some s)
  | _ => none

def defaults (generated now : String) : SsoConfig
  | .id => some generated
  | .status => some "pending"
  | .defaultRole => some "viewer"
  | .createdAt => some now
  | _ => none

section
variable (cell : Column → Json → Option (Option String))

/-- What a column of `row` holds once the property is written to it; the outer `none` is a refusal. -/
def written (row : SsoConfig) (entity : Entity) (c : Column) : Option (Option String) :=
  match entity c with
  | none => some (row c)
  | some (.kept text) => some text
  | some (.given json) => cell c json

/-- The columns of the entity over those of `row`. -/
def overwrite (row : SsoConfig) (entity : Entity) : Except Failure SsoConfig := do
  ensure (∀ c, (written cell row entity c).isSome) (.database "invalid input syntax")
  let saved : SsoConfig := fun c => (written cell row entity c).getD none
  ensure (∀ c, c.nullable ∨ (saved c).isSome) (.database "null value violates not-null constraint")
  return saved

def Db.insert (db : Db) (row : SsoConfig) : Except Failure Db :=
  if free : ∀ r ∈ db.configs.rows, row .id ≠ r .id → row .tenantId = r .tenantId →
      row .protocol ≠ r .protocol then
    .ok ⟨db.configs.save row, by
      intro r mem r' mem' tenant protocol
      rcases Table.mem_save.mp mem with rfl | ⟨old, other⟩ <;>
        rcases Table.mem_save.mp mem' with rfl | ⟨old', other'⟩
      · rfl
      · exact absurd protocol (free r' old' (Ne.symm other') tenant)
      · exact absurd protocol.symm (free r old (Ne.symm other) tenant.symm)
      · exact db.ux_tenant_protocol r old r' old' tenant protocol⟩
  else .error (.database "IDX_sso_configs_tenant_protocol")

/-- The row with the entity's id is updated, its id apart; without such a row one is inserted. -/
def Db.save (db : Db) (generated now : String) (entity : Entity) : Except Failure (SsoConfig × Db) :=
  match db.stored entity with
  | some row => do
      let saved ← overwrite cell row (Function.update entity .id none)
      let db' ← db.insert saved
      return (saved, db')
  | none => do
      let saved ← overwrite cell (defaults generated now) entity
      ensure (db.configs.find? (saved .id) = none) (.database "sso_configs_pkey")
      let db' ← db.insert saved
      return (saved, db')

/-! ## The routes -/

structure Request where
  xTenantId : Option String := none
  query : List (String × String) := []
  body : List (String × Json)

/-- The last of several fields with one name counts. -/
def Request.field (request : Request) (key : String) : Option Json :=
  (request.body.reverse.find? (·.1 = key)).map (·.2)

def Request.textField (request : Request) (key : String) : Option String :=
  match request.field key with
  | some (.str s) => some s
  | _ => none

/-- Neither route has path parameters. -/
def Request.collectClaimedTenantIds (request : Request) : List String :=
  (request.xTenantId.toList ++ (request.query.lookup "tenantId").toList ++
    (request.query.lookup "tenant_id").toList) ++
    ((request.textField "tenantId").toList ++ (request.textField "tenant_id").toList)

def canActivate (tenantId : String) (request : Request) : Except Failure Unit :=
  ensure (tenantId = "" ∨ ∀ claim ∈ request.collectClaimedTenantIds, ¬ (claim ≠ "" ∧ claim ≠ tenantId))
    (.forbidden "Cross-tenant access denied: token does not match requested tenant")

/-- `Object.assign(existing, fields)` -/
def assign (existing : SsoConfig) (request : Request) : Entity := fun c =>
  some (((request.field c.name).map .given).getD (.kept (existing c)))

/-- `{ tenantId, protocol, status: 'pending', defaultRole: 'viewer', ...fields }` -/
def create (tenantId : String) (protocol : SsoProtocol) (request : Request) : Entity := fun c =>
  ((request.field c.name).map .given).or <|
    match c with
    | .tenantId => some (.kept (some tenantId))
    | .protocol => some (.kept (some protocol.text))
    | .status => some (.kept (some "pending"))
    | .defaultRole => some (.kept (some "viewer"))
    | _ => none

def Db.upsert (db : Db) (tenantId : String) (protocol : SsoProtocol) (generated now : String)
    (request : Request) : Except Failure (SsoConfig × Db) :=
  match db.config tenantId protocol with
  | some existing => db.save cell generated now (assign existing request)
  | none => db.save cell generated now (create tenantId protocol request)

/-- `upsertSaml` and `upsertScim` behind the guard. -/
def Db.put (db : Db) (tenantId : String) (protocol : SsoProtocol) (generated now : String)
    (request : Request) : Except Failure (SsoConfig × Db) := do
  canActivate tenantId request
  db.upsert cell tenantId protocol generated now request

end

/-! ## What a save has done -/

section
variable {cell : Column → Json → Option (Option String)} {db db' : Db} {row saved : SsoConfig}
  {entity : Entity} {tenantId generated now : String} {protocol : SsoProtocol} {request : Request}

theorem overwrite_ok (ok : overwrite cell row entity = .ok saved) (c : Column) :
    written cell row entity c = some (saved c) := by
  simp only [overwrite, bind_eq_ok, ensure_eq_ok, pure_eq_ok] at ok
  obtain ⟨-, taken, -, -, rfl⟩ := ok
  obtain ⟨text, eq⟩ := Option.isSome_iff_exists.mp (taken c)
  simp [eq]

theorem insert_ok (ok : db.insert row = .ok db') : db'.configs = db.configs.save row := by
  unfold Db.insert at ok
  split at ok
  · cases ok
    rfl
  · cases ok

theorem save_ok (ok : db.save cell generated now entity = .ok (saved, db')) :
    db'.configs = db.configs.save saved ∧
      ((∃ row, db.stored entity = some row ∧ saved .id = row .id ∧
          ∀ c, c ≠ .id → written cell row entity c = some (saved c)) ∨
        db.stored entity = none ∧ db.configs.find? (saved .id) = none ∧
          ∀ c, written cell (defaults generated now) entity c = some (saved c)) := by
  unfold Db.save at ok
  split at ok
  · rename_i row found
    simp only [bind_eq_ok, pure_eq_ok, Prod.mk.injEq] at ok
    obtain ⟨_, overwrites, _, inserts, rfl, rfl⟩ := ok
    refine ⟨insert_ok inserts, .inl ⟨row, found, ?_, fun c other => ?_⟩⟩
    · have same := overwrite_ok overwrites .id
      simpa [written, eq_comm] using same
    · have taken := overwrite_ok overwrites c
      simpa [written, Function.update_of_ne other] using taken
  · rename_i absent
    simp only [bind_eq_ok, ensure_eq_ok, pure_eq_ok, Prod.mk.injEq] at ok
    obtain ⟨_, overwrites, -, free, _, inserts, rfl, rfl⟩ := ok
    exact ⟨insert_ok inserts, .inr ⟨absent, free, overwrite_ok overwrites⟩⟩

theorem stored_eq_some (found : db.stored entity = some row) :
    row ∈ db.configs.rows ∧ ((∃ text, entity .id = some (.kept text) ∧ row .id = text) ∨
      ∃ s, entity .id = some (.given (.str s)) ∧ row .id = some s) := by
  unfold Db.stored at found
  split at found
  · rename_i text eq
    have key := Table.key_of_find? found
    exact ⟨Table.mem_of_find? found, .inl ⟨text, eq, key⟩⟩
  · rename_i s eq
    have key := Table.key_of_find? found
    exact ⟨Table.mem_of_find? found, .inr ⟨s, eq, key⟩⟩
  · cases found

theorem config_eq_some (found : db.config tenantId protocol = some row) :
    row ∈ db.configs.rows ∧ row.For tenantId protocol :=
  ⟨List.mem_of_find?_eq_some found, by simpa using List.find?_some found⟩

/-! ## Only T's row, and only what is documented -/

def blank (tenantId : String) (protocol : SsoProtocol) (generated now : String) : SsoConfig
  | .tenantId => some tenantId
  | .protocol => some protocol.text
  | c => defaults generated now c

def Db.before (db : Db) (tenantId : String) (protocol : SsoProtocol) (generated now : String) : SsoConfig :=
  (db.config tenantId protocol).getD (blank tenantId protocol generated now)

/-- A save that wrote the tenant's config for the protocol, in documented columns, and nothing else. -/
structure Contained (db db' : Db) (tenantId : String) (protocol : SsoProtocol) (before saved : SsoConfig) :
    Prop where
  own : saved.For tenantId protocol
  kept : ∀ c, c ∉ protocol.documented → saved c = before c
  others : ∀ row ∈ db.configs.rows, ¬ row.For tenantId protocol → row ∈ db'.configs.rows
  alone : ∀ row ∈ db'.configs.rows, row = saved ∨ row ∈ db.configs.rows

theorem before_for : (db.before tenantId protocol generated now).For tenantId protocol := by
  unfold Db.before
  cases found : db.config tenantId protocol with
  | none => exact ⟨rfl, rfl⟩
  | some row => exact (config_eq_some found).2

theorem undocumented (c : Column) (mem : c ∈ [Column.id, .tenantId, .protocol]) :
    c ∉ protocol.documented := by
  cases protocol <;> revert c <;> decide

theorem assign_given (existing : SsoConfig) {c : Column} {json : Json}
    (field : request.field c.name = some json) : assign existing request c = some (.given json) := by
  simp [assign, field]

theorem assign_absent (existing : SsoConfig) {c : Column} (absent : request.field c.name = none) :
    assign existing request c = some (.kept (existing c)) := by
  simp [assign, absent]

theorem create_given {c : Column} {json : Json} (field : request.field c.name = some json) :
    create tenantId protocol request c = some (.given json) := by
  simp [create, field]

theorem create_absent {c : Column} (absent : request.field c.name = none) :
    written cell (defaults generated now) (create tenantId protocol request) c =
      some (blank tenantId protocol generated now c) := by
  unfold written
  cases c <;> simp [create, absent, blank, defaults]

/-- The text of a stored id is taken for that id. -/
def Canonical (cell : Column → Json → Option (Option String)) (db : Db) : Prop :=
  ∀ row ∈ db.configs.rows, ∀ s, row .id = some s → cell .id (.str s) = some (some s)

theorem unique_id {row' : SsoConfig} (mem : row ∈ db.configs.rows) (mem' : row' ∈ db.configs.rows)
    (same : row .id = row' .id) : row = row' :=
  List.inj_on_of_nodup_map db.configs.nodup mem mem' same

theorem save_contained (saves : db'.configs = db.configs.save saved)
    (kept : ∀ c, c ∉ protocol.documented → saved c = db.before tenantId protocol generated now c)
    (others : ∀ row ∈ db.configs.rows, row .id = saved .id → row.For tenantId protocol) :
    Contained db db' tenantId protocol (db.before tenantId protocol generated now) saved where
  own := by
    have own : (db.before tenantId protocol generated now).For tenantId protocol := before_for
    exact ⟨(kept .tenantId (undocumented _ (by simp))).trans own.1,
      (kept .protocol (undocumented _ (by simp))).trans own.2⟩
  kept := kept
  others row mem other := by
    rw [saves]
    exact Table.mem_save.mpr (.inr ⟨mem, fun same => other (others row mem same)⟩)
  alone row mem := by
    rw [saves] at mem
    exact (Table.mem_save.mp mem).imp_right And.left

theorem written_given {c : Column} {json : Json} (given : entity c = some (.given json)) :
    written cell row entity c = cell c json := by
  rw [written, given]

theorem save_given (canonical : Canonical cell db)
    (ok : db.save cell generated now entity = .ok (saved, db')) {c : Column} {json : Json}
    (given : entity c = some (.given json)) : cell c json = some (saved c) := by
  obtain ⟨-, ⟨row, stored, id, written⟩ | ⟨-, -, written⟩⟩ := save_ok ok
  · by_cases key : c = .id
    · subst key
      obtain ⟨mem, ⟨text, kept, -⟩ | ⟨s, given', key⟩⟩ := stored_eq_some stored
      · rw [given] at kept
        cases kept
      · rw [given] at given'
        obtain rfl := Property.given.inj (Option.some_inj.mp given')
        rw [id, key]
        exact canonical row mem s key
    · rw [← written c key, written_given given]
  · rw [← written c, written_given given]

theorem update_contained {existing : SsoConfig} (canonical : Canonical cell db)
    (found : db.config tenantId protocol = some existing)
    (ok : db.save cell generated now (assign existing request) = .ok (saved, db'))
    (harmless : ∀ c, c ∉ protocol.documented → ∀ json, request.field c.name = some json →
      cell c json = some (db.before tenantId protocol generated now c)) :
    Contained db db' tenantId protocol (db.before tenantId protocol generated now) saved := by
  have before : db.before tenantId protocol generated now = existing := by
    rw [Db.before, found]
    rfl
  obtain ⟨mem, own⟩ := config_eq_some found
  have kept : ∀ c, c ∉ protocol.documented → saved c = existing c := by
    intro c outside
    cases field : request.field c.name with
    | some json =>
        rw [← Option.some_inj, ← save_given canonical ok (assign_given existing field),
          harmless c outside json field, before]
    | none =>
        have absent := assign_absent existing field
        obtain ⟨-, ⟨row, stored, id, written⟩ | ⟨-, -, written⟩⟩ := save_ok ok
        · by_cases key : c = .id
          · subst key
            obtain ⟨-, ⟨text, kept, key⟩ | ⟨s, given, -⟩⟩ := stored_eq_some stored
            · rw [absent] at kept
              rw [id, key]
              exact (Property.kept.inj (Option.some_inj.mp kept)).symm
            · rw [absent] at given
              cases given
          · rw [← Option.some_inj, ← written c key, Sso.written, absent]
        · rw [← Option.some_inj, ← written c, Sso.written, absent]
  apply save_contained (save_ok ok).1
  · rw [before]
    exact kept
  · intro row mem' same
    rw [unique_id mem' mem (same.trans (kept .id (undocumented _ (by simp))))]
    exact own

theorem create_contained (canonical : Canonical cell db)
    (fresh : db.configs.find? (some generated) = none) (absent : db.config tenantId protocol = none)
    (ok : db.save cell generated now (create tenantId protocol request) = .ok (saved, db'))
    (harmless : ∀ c, c ∉ protocol.documented → ∀ json, request.field c.name = some json →
      cell c json = some (db.before tenantId protocol generated now c)) :
    Contained db db' tenantId protocol (db.before tenantId protocol generated now) saved := by
  have before : db.before tenantId protocol generated now = blank tenantId protocol generated now := by
    rw [Db.before, absent]
    rfl
  rw [before] at harmless
  have created : db.configs.find? (saved .id) = none ∧ ∀ c,
      written cell (defaults generated now) (create tenantId protocol request) c = some (saved c) := by
    obtain ⟨-, ⟨row, stored, id, -⟩ | ⟨-, inserted⟩⟩ := save_ok ok
    · -- The id in the body would be the one that the database is about to generate.
      obtain ⟨mem, entity⟩ := stored_eq_some stored
      have generated' : row .id = some generated := by
        cases field : request.field Column.id.name with
        | none => simp [create, field] at entity
        | some json =>
            rw [← id, ← Option.some_inj, ← save_given canonical ok (create_given field)]
            exact harmless .id (undocumented _ (by simp)) json field
      have found : db.configs.find? (row .id) = some row := Table.find?_of_mem mem
      rw [generated', fresh] at found
      cases found
    · exact inserted
  apply save_contained (save_ok ok).1
  · intro c outside
    rw [before, ← Option.some_inj, ← created.2 c]
    cases field : request.field c.name with
    | none => exact create_absent field
    | some json => rw [written_given (create_given field), harmless c outside json field]
  · intro row mem same
    have found : db.configs.find? (row .id) = some row := Table.find?_of_mem mem
    rw [same, created.1] at found
    cases found

/-- An upsert keeps to the tenant's config and its documented columns exactly when the body gives every
other column the value that it has, or gets in a new row. -/
theorem put_contained_iff (canonical : Canonical cell db)
    (fresh : db.configs.find? (some generated) = none)
    (ok : db.put cell tenantId protocol generated now request = .ok (saved, db')) :
    Contained db db' tenantId protocol (db.before tenantId protocol generated now) saved ↔
      ∀ c, c ∉ protocol.documented → ∀ json, request.field c.name = some json →
        cell c json = some (db.before tenantId protocol generated now c) := by
  simp only [Db.put, bind_eq_ok, Db.upsert] at ok
  obtain ⟨-, -, ok⟩ := ok
  cases found : db.config tenantId protocol with
  | some existing =>
      rw [found] at ok
      refine ⟨fun contained c outside json field => ?_, update_contained canonical found ok⟩
      rw [← contained.kept c outside]
      exact save_given canonical ok (assign_given existing field)
  | none =>
      rw [found] at ok
      refine ⟨fun contained c outside json field => ?_, create_contained canonical fresh found ok⟩
      rw [← contained.kept c outside]
      exact save_given canonical ok (create_given field)

end
/-! ## Two tenants -/

namespace Sample

def first : String := "11111111-1111-1111-1111-111111111111"
def second : String := "22222222-2222-2222-2222-222222222222"

def configs : Db where
  configs := {
    rows := [blank first .saml2 "aaaaaaaa-0000-4000-8000-000000000001" "2026-04-15",
      blank second .scim2 "aaaaaaaa-0000-4000-8000-000000000002" "2026-04-16"]
    nodup := by simp [blank, defaults] }
  ux_tenant_protocol := by simp [blank, first, second]

def texts : Column → Json → Option (Option String)
  | .protocol, .str s => if s ∈ ["saml2", "scim2"] then some (some s) else none
  | .status, .str s => if s ∈ ["active", "paused", "pending"] then some (some s) else none
  | _, .str s => some (some s)
  | _, .null => some none
  | _, _ => none

def put (body : List (String × Json)) : Except Failure (SsoConfig × Db) :=
  configs.put texts first .saml2 "aaaaaaaa-0000-4000-8000-000000000003" "2026-04-17" { body }

def issuer : List (String × Json) := [("idpEntityId", .str "urn:idp:example")]
def theft : List (String × Json) :=
  [("id", .str "aaaaaaaa-0000-4000-8000-000000000002"), ("protocol", .str "scim2")]
def takeover : List (String × Json) := [("status", .str "active"), ("breakGlassEmail", .str "me@example.com")]

def owners (db : Db) : List (Option String × Option String) :=
  db.configs.rows.map fun row => (row .id, row .tenantId)

theorem put_ok {α : Type} {body : List (String × Json)} {f : SsoConfig × Db → α} {a : α}
    (eq : (put body).toOption.map f = some a) :
    ∃ saved db', put body = .ok (saved, db') ∧ f (saved, db') = a := by
  cases ok : put body with
  | error => simp [ok, Except.toOption] at eq
  | ok result => exact ⟨result.1, result.2, rfl, by simpa [ok, Except.toOption] using eq⟩

end Sample

open Sample in
theorem put_contained_issuer : ∃ saved db', put issuer = .ok (saved, db') ∧
    saved .idpEntityId = some "urn:idp:example" ∧
    Contained configs db' first .saml2 (configs.before first .saml2 "aaaaaaaa-0000-4000-8000-000000000003"
      "2026-04-17") saved := by
  have eq : (put issuer).toOption.map (·.1 .idpEntityId) = some (some "urn:idp:example") := by
    decide +kernel
  obtain ⟨saved, db', ok, issuer⟩ := put_ok eq
  refine ⟨saved, db', ok, issuer, (put_contained_iff ?_ (by decide +kernel) ok).mpr ?_⟩
  · intro row mem s id
    rfl
  · intro c outside json field
    cases c <;> first | exact absurd (by decide) outside | cases field

open Sample in
/-- The config of another tenant becomes the first tenant's; and a config becomes active, with an address
that may always log in. -/
theorem put_takes_over :
    (∃ saved db', put theft = .ok (saved, db') ∧
      owners configs = [(some "aaaaaaaa-0000-4000-8000-000000000001", some first),
        (some "aaaaaaaa-0000-4000-8000-000000000002", some second)] ∧
      owners db' = [(some "aaaaaaaa-0000-4000-8000-000000000001", some first),
        (some "aaaaaaaa-0000-4000-8000-000000000002", some first)]) ∧
    (∃ saved db', put takeover = .ok (saved, db') ∧
      (configs.before first .saml2 "aaaaaaaa-0000-4000-8000-000000000003" "2026-04-17" .status,
        configs.before first .saml2 "aaaaaaaa-0000-4000-8000-000000000003" "2026-04-17" .breakGlassEmail) =
        (some "pending", none) ∧
      (saved .status, saved .breakGlassEmail) = (some "active", some "me@example.com")) := by
  constructor
  · have eq : (put theft).toOption.map (fun r => owners r.2) =
        some [(some "aaaaaaaa-0000-4000-8000-000000000001", some first),
          (some "aaaaaaaa-0000-4000-8000-000000000002", some first)] := by decide +kernel
    obtain ⟨saved, db', ok, rows⟩ := put_ok eq
    exact ⟨saved, db', ok, by decide, rows⟩
  · have eq : (put takeover).toOption.map (fun r => (r.1 .status, r.1 .breakGlassEmail)) =
        some (some "active", some "me@example.com") := by decide +kernel
    obtain ⟨saved, db', ok, fields⟩ := put_ok eq
    exact ⟨saved, db', ok, by decide +kernel, fields⟩

end SmartErp.Sso
