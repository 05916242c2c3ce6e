import SmartErp.Failure
import SmartErp.Foundations.Table

/-!
# Sessions

`auth.service.ts`: what each operation makes of the user row it has read. Times are milliseconds. A
signed token is its payload and a hash is what was hashed, since neither can be forged or collides; the
password functions and the time spans of the token library are parameters.
-/

namespace SmartErp.Auth
open Foundations

def MAX_FAILED_ATTEMPTS : ℕ := 5
def LOCKOUT_MINUTES : ℕ := 15
def SESSION_ABSOLUTE_MS : ℕ := 12 * 60 * 60 * 1000

inductive UserRole where
  | admin
  | manager
  | operator
  | viewer
  deriving DecidableEq

structure AccessToken where
  sub : Uuid
  email : String
  role : UserRole
  tenantId : Option Uuid
  exp : ℕ
  deriving DecidableEq

/-- `tv` is the token version and `jti` the token's own id. -/
structure RefreshToken where
  sub : Uuid
  email : String
  role : UserRole
  tenantId : Option Uuid
  tv : ℕ
  jti : Uuid
  exp : ℕ
  deriving DecidableEq

structure Tokens where
  accessToken : AccessToken
  refreshToken : RefreshToken
  expiresIn : ℕ
  deriving DecidableEq

structure Claims where
  sub : Uuid
  role : UserRole
  tenantId : Option Uuid
  deriving DecidableEq

def AccessToken.claims (token : AccessToken) : Claims := ⟨token.sub, token.role, token.tenantId⟩

def RefreshToken.claims (token : RefreshToken) : Claims := ⟨token.sub, token.role, token.tenantId⟩

def Tokens.claims (tokens : Tokens) : List Claims :=
  [tokens.accessToken.claims, tokens.refreshToken.claims]

structure Digest where
  token : RefreshToken
  deriving DecidableEq

def hashForStorage (refreshToken : RefreshToken) : Digest := ⟨refreshToken⟩

structure User where
  id : Uuid
  email : String
  passwordHash : String
  role : UserRole
  tenantId : Option Uuid
  refreshTokenHash : Option Digest
  tokenVersion : ℕ
  isActive : Bool
  lastLoginAt : Option ℕ
  failedLoginAttempts : ℕ
  lockedUntil : Option ℕ
  sessionCreatedAt : Option ℕ
  deriving DecidableEq

structure Environment where
  accessTtl : String
  refreshTtl : String
  seconds : String → ℕ
  verifyPassword : String → String → Bool
  hashPassword : String → String

/-! ## Tokens -/

def parseTtlSeconds (ttl : String) : ℕ :=
  let digits := ttl.toList.takeWhile Char.isDigit
  let unit := (ttl.toList.dropWhile Char.isDigit).dropWhile Char.isWhitespace
  let n := Nat.ofDigitChars 10 digits 0
  if digits = [] then 900 else
    match unit with
    | ['s'] => n
    | ['m'] => n * 60
    | ['h'] => n * 3600
    | ['d'] => n * 86400
    | _ => 900

structure Override where
  tenantId : Uuid
  role : UserRole

def issueTokens (env : Environment) (user : User) (override : Option Override) (now : ℕ) (jti : Uuid) :
    Tokens :=
  let role := (override.map (·.role)).getD user.role
  let tenantId := (override.map (·.tenantId)).or user.tenantId
  { accessToken := {
      sub := user.id, email := user.email, role, tenantId
      exp := now / 1000 + env.seconds env.accessTtl }
    refreshToken := {
      sub := user.id, email := user.email, role, tenantId, tv := user.tokenVersion, jti
      exp := now / 1000 + env.seconds env.refreshTtl }
    expiresIn := parseTtlSeconds env.accessTtl }

theorem issueTokens_claims {env : Environment} {user : User} {override : Option Override} {now : ℕ}
    {jti : Uuid} {c : Claims} (mem : c ∈ (issueTokens env user override now jti).claims) :
    c = ⟨user.id, (override.map (·.role)).getD user.role,
      (override.map (·.tenantId)).or user.tenantId⟩ := by
  rcases List.mem_cons.mp mem with rfl | mem
  · rfl
  · exact List.mem_singleton.mp mem

def RefreshToken.expired (token : RefreshToken) (now : ℕ) : Prop := token.exp ≤ now / 1000

instance (token : RefreshToken) (now : ℕ) : Decidable (token.expired now) :=
  inferInstanceAs (Decidable (_ ≤ _))

/-! ## Writes to a user row -/

/-- `save` writes every column as the entity has it, `update` the columns it names. -/
inductive Write where
  | save (user : User)
  | update (tokenVersion : ℕ) (endsSession : Bool)

def Write.apply : Write → User → User
  | .save user, _ => user
  | .update tokenVersion endsSession, user =>
      { user with
        refreshTokenHash := none
        tokenVersion
        sessionCreatedAt := if endsSession then none else user.sessionCreatedAt }

structure Outcome where
  write : Option Write
  response : Except Failure Tokens

def Outcome.refuse (failure : Failure) : Outcome := ⟨none, .error failure⟩

/-! ## Operations -/

def isLegacyBcryptHash (hashed : String) : Bool :=
  ["$2a$", "$2b$", "$2y$"].any fun version => version.toList.isPrefixOf hashed.toList

namespace User

def login (user : User) (env : Environment) (password : String) (now : ℕ) (jti : Uuid) : Outcome :=
  let minutes := (user.lockedUntil.getD 0 - now + 59999) / 60000
  if user.lockedUntil.any (now < ·) then
    .refuse (.locked s!"Account locked for {minutes} more minute(s) after repeated failed attempts")
  else if env.verifyPassword password user.passwordHash then
    let user := { user with
      passwordHash :=
        if isLegacyBcryptHash user.passwordHash then env.hashPassword password else user.passwordHash }
    let tokens := issueTokens env user none now jti
    { write := some (.save { user with
        refreshTokenHash := some (hashForStorage tokens.refreshToken)
        lastLoginAt := some now
        failedLoginAttempts := 0
        lockedUntil := none
        sessionCreatedAt := some now })
      response := .ok tokens }
  else
    let failedLoginAttempts := user.failedLoginAttempts + 1
    { write := some (.save { user with
        failedLoginAttempts
        lockedUntil :=
          if MAX_FAILED_ATTEMPTS ≤ failedLoginAttempts then some (now + LOCKOUT_MINUTES * 60000)
          else user.lockedUntil })
      response := .error (.unauthorized "Invalid credentials") }

def refreshToken (user : User) (env : Environment) (token : RefreshToken) (now : ℕ) (jti : Uuid) :
    Outcome :=
  match user.refreshTokenHash with
  | none => .refuse (.unauthorized "Invalid refresh token")
  | some hash =>
      if user.sessionCreatedAt.any (fun created => SESSION_ABSOLUTE_MS < now - created) then
        { write := some (.update (user.tokenVersion + 1) true)
          response := .error (.forbidden
            "Session exceeded 12-hour absolute ceiling. Please sign in again.") }
      else if token.tv ≠ user.tokenVersion then
        { write := some (.update (user.tokenVersion + 1) false)
          response := .error (.unauthorized "Refresh token replay detected") }
      else if hashForStorage token ≠ hash then .refuse (.unauthorized "Refresh token mismatch")
      else
        let user := { user with tokenVersion := user.tokenVersion + 1 }
        let tokens := issueTokens env user none now jti
        { write := some (.save { user with
            refreshTokenHash := some (hashForStorage tokens.refreshToken) })
          response := .ok tokens }

def mintTokensForTenantSwitch (user : User) (env : Environment) (tenantId : Uuid) (role : UserRole)
    (now : ℕ) (jti : Uuid) : Outcome :=
  let user := { user with tokenVersion := user.tokenVersion + 1, sessionCreatedAt := some now }
  let tokens := issueTokens env user (some ⟨tenantId, role⟩) now jti
  { write := some (.save { user with refreshTokenHash := some (hashForStorage tokens.refreshToken) })
    response := .ok tokens }

/-- The version is read by `bumpVersion`, in a query before the update. -/
def logout (user : User) : Write := .update (user.tokenVersion + 1) false

/-! ## What the operations keep and issue -/

variable {user : User} {env : Environment} {password : String} {token : RefreshToken} {tenantId : Uuid}
  {role : UserRole} {now : ℕ} {jti : Uuid} {tokens : Tokens} {write : Write}

structure SameAccount (before after : User) : Prop where
  id : after.id = before.id
  email : after.email = before.email
  role : after.role = before.role
  tenantId : after.tenantId = before.tenantId

theorem login_write (writes : (user.login env password now jti).write = some write) :
    SameAccount user (write.apply user) ∧ (write.apply user).tokenVersion = user.tokenVersion := by
  unfold login at writes
  dsimp only at writes
  split_ifs at writes <;> cases writes
  all_goals exact ⟨⟨rfl, rfl, rfl, rfl⟩, rfl⟩

def rotated (user : User) (env : Environment) (now : ℕ) (jti : Uuid) : Outcome :=
  let user := { user with tokenVersion := user.tokenVersion + 1 }
  let tokens := issueTokens env user none now jti
  { write := some (.save { user with refreshTokenHash := some (hashForStorage tokens.refreshToken) })
    response := .ok tokens }

/-- A refresh is refused, revokes the session, or rotates the token of the row within the ceiling. -/
theorem refreshToken_cases (user : User) (env : Environment) (token : RefreshToken) (now : ℕ) (jti : Uuid) :
    (∃ failure, user.refreshToken env token now jti = .refuse failure) ∨
      (∃ endsSession failure, user.refreshToken env token now jti =
        ⟨some (.update (user.tokenVersion + 1) endsSession), .error failure⟩) ∨
      token.tv = user.tokenVersion ∧ user.refreshTokenHash = some (hashForStorage token) ∧
        (∀ created, user.sessionCreatedAt = some created → now - created ≤ SESSION_ABSOLUTE_MS) ∧
        user.refreshToken env token now jti = user.rotated env now jti := by
  unfold refreshToken
  cases stored : user.refreshTokenHash with
  | none => exact .inl ⟨_, rfl⟩
  | some hash =>
      dsimp only
      split_ifs with ceiling replay mismatch
      · exact .inr (.inl ⟨_, _, rfl⟩)
      · exact .inr (.inl ⟨_, _, rfl⟩)
      · exact .inl ⟨_, rfl⟩
      · refine .inr (.inr ⟨not_not.mp replay, by rw [not_not.mp mismatch], fun created stamp => ?_, rfl⟩)
        rw [stamp, Option.any_some, decide_eq_true_eq] at ceiling
        exact Nat.not_lt.mp ceiling

theorem refreshToken_write (writes : (user.refreshToken env token now jti).write = some write) :
    SameAccount user (write.apply user) ∧ (write.apply user).tokenVersion = user.tokenVersion + 1 := by
  obtain ⟨failure, refused⟩ | ⟨endsSession, failure, revoked⟩ | ⟨_, _, _, issued⟩ :=
    user.refreshToken_cases env token now jti
  · rw [refused] at writes
    cases writes
  · rw [revoked] at writes
    cases writes
    exact ⟨⟨rfl, rfl, rfl, rfl⟩, rfl⟩
  · rw [issued] at writes
    cases writes
    exact ⟨⟨rfl, rfl, rfl, rfl⟩, rfl⟩

theorem mint_write (writes : (user.mintTokensForTenantSwitch env tenantId role now jti).write = some write) :
    SameAccount user (write.apply user) ∧ (write.apply user).tokenVersion = user.tokenVersion + 1 := by
  cases writes
  exact ⟨⟨rfl, rfl, rfl, rfl⟩, rfl⟩

theorem login_issues (ok : (user.login env password now jti).response = .ok tokens) :
    tokens = issueTokens env user none now jti := by
  unfold login at ok
  dsimp only at ok
  split_ifs at ok <;> cases ok
  all_goals rfl

theorem refreshToken_ok (ok : (user.refreshToken env token now jti).response = .ok tokens) :
    token.tv = user.tokenVersion ∧ user.refreshTokenHash = some (hashForStorage token) ∧
      (∀ created, user.sessionCreatedAt = some created → now - created ≤ SESSION_ABSOLUTE_MS) ∧
      user.refreshToken env token now jti = user.rotated env now jti := by
  obtain ⟨failure, refused⟩ | ⟨endsSession, failure, revoked⟩ | issued :=
    user.refreshToken_cases env token now jti
  · rw [refused] at ok
    cases ok
  · rw [revoked] at ok
    cases ok
  · exact issued

theorem refreshToken_issues (ok : (user.refreshToken env token now jti).response = .ok tokens) :
    token.tv = user.tokenVersion ∧ user.refreshTokenHash = some (hashForStorage token) ∧
      tokens = issueTokens env { user with tokenVersion := user.tokenVersion + 1 } none now jti := by
  obtain ⟨version, stored, -, rotated⟩ := refreshToken_ok ok
  rw [rotated] at ok
  cases ok
  exact ⟨version, stored, rfl⟩

theorem refreshToken_saves (ok : (user.refreshToken env token now jti).response = .ok tokens) :
    (user.refreshToken env token now jti).write.isSome := by
  rw [(refreshToken_ok ok).2.2.2]
  rfl

theorem mint_issues (ok : (user.mintTokensForTenantSwitch env tenantId role now jti).response = .ok tokens) :
    tokens = issueTokens env { user with tokenVersion := user.tokenVersion + 1, sessionCreatedAt := some now }
      (some ⟨tenantId, role⟩) now jti := by
  cases ok
  rfl

end User
/-! ## A sample user -/

namespace Sample

def server : Environment where
  accessTtl := "15m"
  refreshTtl := "7d"
  seconds := parseTtlSeconds
  verifyPassword password hashed := hashed = "$argon2id$" ++ password
  hashPassword password := "$argon2id$" ++ password

def user (id tenantId : Uuid) (email : String) : User where
  id := id
  email := email
  passwordHash := "$argon2id$secret"
  role := .admin
  tenantId := some tenantId
  refreshTokenHash := none
  tokenVersion := 0
  isActive := true
  lastLoginAt := none
  failedLoginAttempts := 0
  lockedUntil := none
  sessionCreatedAt := none

end Sample

end SmartErp.Auth
