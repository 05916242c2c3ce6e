import SmartErp.Auth.Sessions

/-!
# Users, memberships and the tokens handed out

The requests of `auth.service.ts` and `memberships.service.ts`, one after the other. Clients hold the
tokens they were answered with; a refresh token verifies when it is one of these and has not expired.
-/

namespace SmartErp.Auth
open Foundations

inductive MembershipRole where
  | admin
  | manager
  | operator
  | viewer
  | commercialista
  deriving DecidableEq

inductive MembershipStatus where
  | pending
  | active
  | revoked
  deriving DecidableEq

def MembershipStatus.text : MembershipStatus → String
  | pending => "pending"
  | active => "active"
  | revoked => "revoked"

structure Membership where
  id : Uuid
  tenantId : Uuid
  userId : Uuid
  role : MembershipRole
  status : MembershipStatus
  invitedAt : Option ℕ := none
  consentedAt : Option ℕ := none
  grantedAt : Option ℕ := none
  revokedAt : Option ℕ := none
  invitedBy : Option Uuid := none
  revokedBy : Option Uuid := none
  deriving DecidableEq

/-- The unique index: one membership of a user in a tenant. -/
def Membership.key (m : Membership) : Uuid × Uuid := (m.tenantId, m.userId)

def toUserRole : MembershipRole → UserRole
  | .admin => .admin
  | .manager => .manager
  | .operator => .operator
  | .commercialista => .viewer
  | .viewer => .viewer

structure State where
  users : Table User.id
  memberships : Table Membership.key
  issued : List Tokens
  deriving DecidableEq

namespace State

/-! ## Sessions -/

def jti (s : State) : Uuid := s.issued.length

def conclude (s : State) (user : User) (outcome : Outcome) : State × Except Failure Tokens :=
  ({ s with
      users := match outcome.write with
        | none => s.users
        | some write => s.users.save (write.apply user)
      issued := match outcome.response with
        | .ok tokens => tokens :: s.issued
        | .error _ => s.issued },
    outcome.response)

def activeUser (s : State) (id : Uuid) : Option User := (s.users.find? id).filter (·.isActive)

/-- `email.trim().toLowerCase()` of an address in ASCII. -/
def normalised (email : String) : String :=
  let trimmed := (email.toList.dropWhile Char.isWhitespace).reverse.dropWhile Char.isWhitespace
  String.ofList (trimmed.reverse.map Char.toLower)

def login (s : State) (env : Environment) (email password : String) (now : ℕ) :
    State × Except Failure Tokens :=
  match s.users.rows.find? fun u => u.email = normalised email ∧ u.isActive with
  | none => (s, .error (.unauthorized "Invalid credentials"))
  | some user => s.conclude user (user.login env password now s.jti)

def verifies (s : State) (token : RefreshToken) (now : ℕ) : Prop :=
  token ∈ s.issued.map (·.refreshToken) ∧ ¬ token.expired now

instance (s : State) (token : RefreshToken) (now : ℕ) : Decidable (s.verifies token now) :=
  inferInstanceAs (Decidable (_ ∧ _))

def refreshToken (s : State) (env : Environment) (token : RefreshToken) (now : ℕ) :
    State × Except Failure Tokens :=
  if s.verifies token now then
    match s.activeUser token.sub with
    | none => (s, .error (.unauthorized "Invalid refresh token"))
    | some user => s.conclude user (user.refreshToken env token now s.jti)
  else (s, .error (.unauthorized "Invalid or expired refresh token"))

def mintTokensForTenantSwitch (s : State) (env : Environment) (userId tenantId : Uuid) (role : UserRole)
    (now : ℕ) : State × Except Failure Tokens :=
  match s.activeUser userId with
  | none => (s, .error (.unauthorized "User not found"))
  | some user => s.conclude user (user.mintTokensForTenantSwitch env tenantId role now s.jti)

def logout (s : State) (userId : Uuid) : State :=
  match s.users.find? userId with
  | none => s
  | some user => { s with users := s.users.save (user.logout.apply user) }

/-! ## Memberships -/

def findMembership (s : State) (id : Uuid) : Except Failure Membership :=
  require (s.memberships.rows.find? (·.id = id)) (.notFound "Membership not found")

def saveMembership (s : State) (m : Membership) : State := { s with memberships := s.memberships.save m }

/-- `id` is the generated id of a new membership. -/
def invite (s : State) (id tenantId invitedBy targetUserId : Uuid) (role : MembershipRole) (now : ℕ) :
    Except Failure State :=
  match s.memberships.find? (tenantId, targetUserId) with
  | some existing =>
      if existing.status = .active ∧ existing.role = role then .ok s
      else if existing.status = .revoked then
        .ok (s.saveMembership { existing with
          status := .pending
          role
          invitedAt := some now
          invitedBy := some invitedBy
          revokedAt := none
          revokedBy := none })
      else .error (.conflict s!"Membership already exists in status '{existing.status.text}'")
  | none => do
      ensure (∀ m ∈ s.memberships.rows, m.id ≠ id) (.database "memberships_pkey")
      return s.saveMembership {
        id, tenantId, userId := targetUserId, role
        status := .pending
        invitedAt := some now
        invitedBy := some invitedBy }

def consent (s : State) (membershipId userId : Uuid) (now : ℕ) : Except Failure State := do
  let m ← s.findMembership membershipId
  ensure (m.userId = userId) (.forbidden "Only the subject of the membership may consent")
  ensure (m.status = .pending) (.badRequest s!"Cannot consent membership in status '{m.status.text}'")
  return s.saveMembership { m with status := .active, consentedAt := some now, grantedAt := some now }

def revoke (s : State) (membershipId actorUserId : Uuid) (actorRole : MembershipRole)
    (actorTenantId : Uuid) (now : ℕ) : Except Failure State := do
  let m ← s.findMembership membershipId
  ensure (m.userId = actorUserId ∨ m.tenantId = actorTenantId ∧ actorRole = .admin)
    (.forbidden "Only the membership subject or the tenant admin may revoke")
  if m.status = .revoked then return s
  else return s.saveMembership {
    m with status := .revoked, revokedAt := some now, revokedBy := some actorUserId }

def switchTenant (s : State) (env : Environment) (userId targetTenantId : Uuid) (now : ℕ) :
    State × Except Failure Tokens :=
  match s.memberships.find? (targetTenantId, userId) with
  | none => (s, .error (.notFound s!"No membership for user in tenant {targetTenantId}"))
  | some m =>
      if m.status = .active then s.mintTokensForTenantSwitch env userId targetTenantId (toUserRole m.role) now
      else (s, .error (.forbidden s!"Membership is not active (status='{m.status.text}')"))

end State

/-! ## Requests -/

inductive Op where
  | login (email password : String) (now : ℕ)
  | refreshToken (token : RefreshToken) (now : ℕ)
  | switchTenant (userId targetTenantId : Uuid) (now : ℕ)
  | logout (userId : Uuid)
  | invite (id tenantId invitedBy targetUserId : Uuid) (role : MembershipRole) (now : ℕ)
  | consent (membershipId userId : Uuid) (now : ℕ)
  | revoke (membershipId actorUserId : Uuid) (actorRole : MembershipRole) (actorTenantId : Uuid) (now : ℕ)

def next (env : Environment) (s : State) : Op → State
  | .login email password now => (s.login env email password now).1
  | .refreshToken token now => (s.refreshToken env token now).1
  | .switchTenant userId targetTenantId now => (s.switchTenant env userId targetTenantId now).1
  | .logout userId => s.logout userId
  | .invite id tenantId invitedBy targetUserId role now =>
      settle s (s.invite id tenantId invitedBy targetUserId role now)
  | .consent membershipId userId now => settle s (s.consent membershipId userId now)
  | .revoke membershipId actorUserId actorRole actorTenantId now =>
      settle s (s.revoke membershipId actorUserId actorRole actorTenantId now)

/-! ## Accepted membership requests -/

section
variable {s t : State} {id tenantId invitedBy userId actorUserId actorTenantId : Uuid}
  {role actorRole : MembershipRole} {now : ℕ}

theorem State.invite_ok (ok : s.invite id tenantId invitedBy userId role now = .ok t) :
    (t = s ∧ ∃ m, s.memberships.find? (tenantId, userId) = some m ∧ m.status = .active) ∨
      ∃ m, m.key = (tenantId, userId) ∧ m.status = .pending ∧ t = s.saveMembership m := by
  unfold invite at ok
  cases found : s.memberships.find? (tenantId, userId) with
  | none =>
      rw [found] at ok
      simp only [bind_eq_ok, ensure_eq_ok, pure_eq_ok] at ok
      obtain ⟨_, _, rfl⟩ := ok
      exact .inr ⟨_, rfl, rfl, rfl⟩
  | some existing =>
      have key : existing.key = (tenantId, userId) := Table.key_of_find? found
      rw [found] at ok
      dsimp only at ok
      split_ifs at ok with same revoked
      · exact .inl ⟨(Except.ok.inj ok).symm, existing, rfl, same.1⟩
      · refine .inr ⟨_, ?_, ?_, (Except.ok.inj ok).symm⟩
        · exact key
        · rfl

theorem State.consent_ok (ok : s.consent id userId now = .ok t) :
    ∃ m, s.findMembership id = .ok m ∧ m.userId = userId ∧ t = s.saveMembership
      { m with status := .active, consentedAt := some now, grantedAt := some now } := by
  simp only [consent, bind_eq_ok, ensure_eq_ok, pure_eq_ok] at ok
  obtain ⟨m, found, _, subject, _, _, rfl⟩ := ok
  exact ⟨m, found, subject, rfl⟩

theorem State.revoke_ok (ok : s.revoke id actorUserId actorRole actorTenantId now = .ok t) :
    t = s ∨ ∃ m, m.status = .revoked ∧ t = s.saveMembership m := by
  simp only [revoke, bind_eq_ok, ensure_eq_ok] at ok
  obtain ⟨m, _, _, _, ok⟩ := ok
  split at ok
  · exact .inl (pure_eq_ok.mp ok).symm
  · exact .inr ⟨_, rfl, (pure_eq_ok.mp ok).symm⟩

end

/-! ## An accountant and a client -/

namespace Sample

def office : State where
  users := ((∅ : Table _).save (user 1 100 "andrea@example.it")).save (user 2 200 "client@example.it")
  memberships := ∅
  issued := []

def visit : List Op :=
  [.invite 9 200 2 1 .commercialista 0, .consent 9 1 1000, .switchTenant 1 200 2000]

end Sample

end SmartErp.Auth
