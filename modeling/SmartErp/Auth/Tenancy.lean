import SmartErp.Auth.Memberships
import SmartErp.Foundations.Runs

/-!
# Access to other tenants

Where the tokens for a tenant that is not the user's own come from, and what makes a membership active.
-/

namespace SmartErp.Auth
open Foundations

variable {env : Environment} {s t : State}

/-! ## Tokens -/

def State.home (s : State) (userId : Uuid) : Option Uuid := (s.users.find? userId).bind (·.tenantId)

/-- The tokens act for a user at home, or in a tenant where the user has an active membership. -/
def Minted (s : State) (tokens : Tokens) : Prop :=
  ∃ user, s.users.find? user.id = some user ∧
    ((∀ c ∈ tokens.claims, c = ⟨user.id, user.role, user.tenantId⟩) ∨
      ∃ m ∈ s.memberships.find? (m.tenantId, user.id), m.status = .active ∧
        ∀ c ∈ tokens.claims, c = ⟨user.id, toUserRole m.role, some m.tenantId⟩)

structure Concluded (s t : State) : Prop where
  home : ∀ id, t.home id = s.home id
  memberships : t.memberships = s.memberships
  issued : t.issued = s.issued ∨ ∃ tokens, t.issued = tokens :: s.issued ∧ Minted s tokens

theorem Concluded.refl (s : State) : Concluded s s := ⟨fun _ => rfl, rfl, .inl rfl⟩

theorem home_save {user user' : User} (found : s.users.find? user.id = some user)
    (same : User.SameAccount user user') (id : Uuid) :
    ((s.users.save user').find? id).bind (·.tenantId) = s.home id := by
  rw [Table.find?_save, same.id]
  split
  · rename_i here
    subst here
    rw [State.home, found]
    exact same.tenantId
  · rfl

theorem conclude_concluded {user : User} {outcome : Outcome}
    (found : s.users.find? user.id = some user)
    (account : ∀ write, outcome.write = some write → User.SameAccount user (write.apply user))
    (minted : ∀ tokens, outcome.response = .ok tokens → Minted s tokens) :
    Concluded s (s.conclude user outcome).1 where
  home id := by
    unfold State.conclude
    cases writes : outcome.write with
    | none => rfl
    | some write => exact home_save found (account write writes) id
  memberships := rfl
  issued := by
    unfold State.conclude
    cases response : outcome.response with
    | error => exact .inl rfl
    | ok tokens => exact .inr ⟨tokens, rfl, minted tokens response⟩

theorem login_concluded (env : Environment) (s : State) (email password : String) (now : ℕ) :
    Concluded s (s.login env email password now).1 := by
  unfold State.login
  split
  · exact .refl s
  · rename_i user found
    have row := Table.find?_of_mem (List.mem_of_find?_eq_some found)
    refine conclude_concluded row (fun _ writes => (User.login_write writes).1) fun tokens ok => ?_
    refine ⟨user, row, .inl fun c mem => ?_⟩
    rw [User.login_issues ok] at mem
    exact issueTokens_claims mem

theorem activeUser_eq_some {id : Uuid} {user : User} (found : s.activeUser id = some user) :
    user.id = id ∧ s.users.find? user.id = some user := by
  have row := (Option.filter_eq_some_iff.mp found).1
  have key : user.id = id := Table.key_of_find? row
  exact ⟨key, key ▸ row⟩

theorem refreshToken_concluded (env : Environment) (s : State) (token : RefreshToken) (now : ℕ) :
    Concluded s (s.refreshToken env token now).1 := by
  unfold State.refreshToken
  split
  · split
    · exact .refl s
    · rename_i user found
      obtain ⟨-, row⟩ := activeUser_eq_some found
      refine conclude_concluded row (fun _ writes => (User.refreshToken_write writes).1) fun tokens ok => ?_
      refine ⟨user, row, .inl fun c mem => ?_⟩
      rw [(User.refreshToken_issues ok).2.2] at mem
      exact issueTokens_claims mem
  · exact .refl s

theorem switchTenant_concluded (env : Environment) (s : State) (userId targetTenantId : Uuid) (now : ℕ) :
    Concluded s (s.switchTenant env userId targetTenantId now).1 := by
  unfold State.switchTenant
  split
  · exact .refl s
  · rename_i m membership
    split
    · rename_i active
      unfold State.mintTokensForTenantSwitch
      split
      · exact .refl s
      · rename_i user found
        obtain ⟨key, row⟩ := activeUser_eq_some found
        have tenant : m.tenantId = targetTenantId := congrArg Prod.fst (Table.key_of_find? membership)
        refine conclude_concluded row (fun _ writes => (User.mint_write writes).1) fun tokens ok => ?_
        refine ⟨user, row, .inr ⟨m, ?_, active, fun c mem => ?_⟩⟩
        · rw [tenant, key]
          exact membership
        · rw [User.mint_issues ok] at mem
          rw [tenant]
          exact issueTokens_claims mem
    · exact .refl s

theorem logout_concluded (s : State) (userId : Uuid) : Concluded s (s.logout userId) := by
  unfold State.logout
  split
  · exact .refl s
  · rename_i user found
    have key : user.id = userId := Table.key_of_find? found
    subst key
    exact ⟨home_save found ⟨rfl, rfl, rfl, rfl⟩, rfl, .inl rfl⟩

theorem settle_sessions {result : Except Failure State}
    (kept : ∀ t, result = .ok t → t.users = s.users ∧ t.issued = s.issued) :
    (settle s result).users = s.users ∧ (settle s result).issued = s.issued := by
  apply settle_keeps _ kept
  exact ⟨rfl, rfl⟩

theorem next_sessions (env : Environment) (s : State) (op : Op) :
    (∀ id, (next env s op).home id = s.home id) ∧
      ((next env s op).issued = s.issued ∨
        ∃ tokens, (next env s op).issued = tokens :: s.issued ∧ Minted s tokens) := by
  have unchanged : ∀ {t : State}, t.users = s.users ∧ t.issued = s.issued →
      (∀ id, t.home id = s.home id) ∧
        (t.issued = s.issued ∨ ∃ tokens, t.issued = tokens :: s.issued ∧ Minted s tokens) := by
    rintro t ⟨users, issued⟩
    exact ⟨fun id => by rw [State.home, users, State.home], .inl issued⟩
  cases op with
  | login email password now =>
      have concluded := login_concluded env s email password now
      exact ⟨concluded.home, concluded.issued⟩
  | refreshToken token now =>
      have concluded := refreshToken_concluded env s token now
      exact ⟨concluded.home, concluded.issued⟩
  | switchTenant userId targetTenantId now =>
      have concluded := switchTenant_concluded env s userId targetTenantId now
      exact ⟨concluded.home, concluded.issued⟩
  | logout userId =>
      have concluded := logout_concluded s userId
      exact ⟨concluded.home, concluded.issued⟩
  | invite id tenantId invitedBy targetUserId role now =>
      apply unchanged
      apply settle_sessions
      intro t ok
      rcases State.invite_ok ok with ⟨rfl, -⟩ | ⟨m, -, -, rfl⟩ <;> exact ⟨rfl, rfl⟩
  | consent membershipId userId now =>
      apply unchanged
      apply settle_sessions
      intro t ok
      obtain ⟨m, -, -, rfl⟩ := State.consent_ok ok
      exact ⟨rfl, rfl⟩
  | revoke membershipId actorUserId actorRole actorTenantId now =>
      apply unchanged
      apply settle_sessions
      intro t ok
      rcases State.revoke_ok ok with rfl | ⟨m, -, rfl⟩ <;> exact ⟨rfl, rfl⟩

/-! ## Consent -/

inductive Word where
  | invited
  | consented
  deriving DecidableEq

def word (s : State) (key : Uuid × Uuid) : Op → Option Word
  | .invite id tenantId invitedBy targetUserId role now =>
      match s.invite id tenantId invitedBy targetUserId role now with
      | .ok t =>
          if (tenantId, targetUserId) = key ∧ (t.memberships.find? key).any (·.status = .pending) then
            some .invited
          else none
      | .error _ => none
  | .consent membershipId userId now =>
      match s.findMembership membershipId, s.consent membershipId userId now with
      | .ok m, .ok _ => if m.key = key ∧ userId = key.2 then some .consented else none
      | _, _ => none
  | _ => none

def observe (env : Environment) (key : Uuid × Uuid) (seen : State × Option Word) (op : Op) :
    State × Option Word :=
  (next env seen.1 op, (word seen.1 key op).or seen.2)

/-- The latest invitation or consent of a run that went through, for one membership. -/
def latest (env : Environment) (key : Uuid × Uuid) (s : State) (ops : List Op) : Option Word :=
  (ops.foldl (observe env key) (s, none)).2

def Consented (key : Uuid × Uuid) (s : State) (last : Option Word) : Prop :=
  ∀ m, s.memberships.find? key = some m → m.status = .active → last = some .consented

theorem Consented.of_same {key : Uuid × Uuid} {last : Option Word} (consented : Consented key s last)
    (same : t.memberships.find? key = s.memberships.find? key) : Consented key t last :=
  fun m found => consented m (same ▸ found)

theorem Consented.of_saved {key : Uuid × Uuid} {last : Option Word} {m : Membership}
    (consented : Consented key s last) (inactive : m.status ≠ .active) :
    Consented key (s.saveMembership m) last := by
  intro m' found active
  rw [State.saveMembership, Table.find?_save] at found
  split at found
  · obtain rfl := Option.some_inj.mp found
    exact absurd active inactive
  · exact consented m' found active

theorem Consented.of_session {key : Uuid × Uuid} {last : Option Word} (consented : Consented key s last)
    (concluded : Concluded s t) : Consented key t (Option.none.or last) := by
  rw [Option.none_or]
  apply consented.of_same
  rw [concluded.memberships]

theorem next_consented {key : Uuid × Uuid} {last : Option Word} (consented : Consented key s last)
    (env : Environment) (op : Op) : Consented key (next env s op) ((word s key op).or last) := by
  cases op with
  | login email password now => exact consented.of_session (login_concluded env s email password now)
  | refreshToken token now => exact consented.of_session (refreshToken_concluded env s token now)
  | switchTenant userId targetTenantId now =>
      exact consented.of_session (switchTenant_concluded env s userId targetTenantId now)
  | logout userId => exact consented.of_session (logout_concluded s userId)
  | invite id tenantId invitedBy targetUserId role now =>
      simp only [next, word]
      cases result : s.invite id tenantId invitedBy targetUserId role now with
      | error => simpa [settle] using consented
      | ok t =>
          simp only [settle]
          rcases State.invite_ok result with ⟨rfl, m, found, active⟩ | ⟨m, mkey, pending, rfl⟩
          · have none : ¬ ((tenantId, targetUserId) = key ∧
                (t.memberships.find? key).any (·.status = .pending) = true) := by
              rintro ⟨rfl, pending⟩
              rw [found] at pending
              simp [active] at pending
            rw [if_neg none]
            exact consented
          · by_cases same : (tenantId, targetUserId) = key
            · -- The row is pending now.
              intro m' found active
              rw [State.saveMembership, Table.find?_save, if_pos (mkey.trans same)] at found
              obtain rfl := Option.some_inj.mp found
              rw [pending] at active
              cases active
            · rw [if_neg (fun both => same both.1)]
              exact consented.of_saved (by simp [pending])
  | consent membershipId userId now =>
      simp only [next, word]
      cases result : s.consent membershipId userId now with
      | error => cases s.findMembership membershipId <;> simpa [settle] using consented
      | ok t =>
          obtain ⟨m, found, subject, rfl⟩ := State.consent_ok result
          simp only [settle, found]
          by_cases same : m.key = key
          · have caller : userId = key.2 := by rw [← same, ← subject, Membership.key]
            rw [if_pos ⟨same, caller⟩]
            exact fun _ _ _ => rfl
          · rw [if_neg (fun both => same both.1)]
            apply consented.of_same
            exact Table.find?_save_of_ne _ same
  | revoke membershipId actorUserId actorRole actorTenantId now =>
      simp only [next, word, Option.none_or]
      cases result : s.revoke membershipId actorUserId actorRole actorTenantId now with
      | error => exact consented
      | ok t =>
          rcases State.revoke_ok result with rfl | ⟨m, revoked, rfl⟩
          · exact consented
          · exact consented.of_saved (by simp [revoked])

theorem run_consented {ops : List Op} (key : Uuid × Uuid)
    (run : Run (fun _ _ => True) (next env) s ops t)
    (start : ∀ m ∈ s.memberships.rows, m.status ≠ .active) : Consented key t (latest env key s ops) := by
  have observed : (ops.foldl (observe env key) (s, none)).1 = t ∧
      Consented key t (latest env key s ops) := by
    induction run with
    | nil => exact ⟨rfl, fun m found active => absurd active (start m (Table.mem_of_find? found))⟩
    | @snoc ops u op run _ ih =>
        obtain ⟨state, consented⟩ := ih
        rw [latest, List.foldl_append, List.foldl_cons, List.foldl_nil, observe, state]
        exact ⟨rfl, next_consented consented env op⟩
  exact observed.2

/-! ## Foreign tenants -/

theorem run_home {ops : List Op} (run : Run (fun _ _ => True) (next env) s ops t) (id : Uuid) :
    t.home id = s.home id :=
  run.relates (fun s t => t.home id = s.home id) rfl fun u op same _ =>
    ((next_sessions env u op).1 id).trans same

/-- Users may be any; nobody is active elsewhere yet and no token is out. -/
structure Fresh (s : State) : Prop where
  memberships : ∀ m ∈ s.memberships.rows, m.status ≠ .active
  issued : s.issued = []

/-- Every token for a tenant that is not the user's own was issued by a request that found an active
membership with its role, and a membership is active only after its subject's consent. -/
theorem foreign_access_consented {ops : List Op} (start : Fresh s)
    (run : Run (fun _ _ => True) (next env) s ops t) :
    (∀ tokens ∈ t.issued, ∀ c ∈ tokens.claims, c.tenantId ≠ t.home c.sub →
      ∃ before op after u, ops = before ++ op :: after ∧ Run (fun _ _ => True) (next env) s before u ∧
        tokens ∉ u.issued ∧ tokens ∈ (next env u op).issued ∧
        ∃ m ∈ u.memberships.rows, m.userId = c.sub ∧ some m.tenantId = c.tenantId ∧
          m.status = .active ∧ c.role = toUserRole m.role) ∧
    ∀ m ∈ t.memberships.rows, m.status = .active → latest env m.key s ops = some .consented := by
  constructor
  · intro tokens mem c claim foreign
    obtain ⟨before, op, after, u, split, prefix', -, absent, issued⟩ :=
      run.logged State.issued start.issued mem
    refine ⟨before, op, after, u, split, prefix', absent, issued, ?_⟩
    rcases (next_sessions env u op).2 with same | ⟨tokens', added, user, row, minted⟩
    · exact absurd (same ▸ issued) absent
    · obtain rfl : tokens = tokens' := by
        rw [added] at issued
        exact (List.mem_cons.mp issued).resolve_right absent
      rcases minted with home | ⟨m, found, active, membership⟩
      · -- A token for the user's own tenant is not foreign.
        rw [home c claim] at foreign
        have own : u.home user.id = user.tenantId := by rw [State.home, row]; rfl
        rw [run_home run, ← run_home prefix', own] at foreign
        exact absurd rfl foreign
      · rw [membership c claim]
        have key : m.key = (m.tenantId, user.id) := Table.key_of_find? found
        exact ⟨m, Table.mem_of_find? found, congrArg Prod.snd key, rfl, active, rfl⟩
  · intro m mem active
    exact run_consented m.key run start.memberships m (Table.find?_of_mem mem) active

open Sample in
theorem foreign_access_consented_visit :
    ((visit.foldl (next server) office).issued.map (·.refreshToken.tenantId)) = [some 200] ∧
      latest server (200, 1) office visit = some .consented := by
  have start : Fresh office := ⟨by decide +kernel, rfl⟩
  have run : Run (fun _ _ => True) (next server) office visit (visit.foldl (next server) office) :=
    .ofAllMet (by decide +kernel)
  obtain ⟨m, mem, key, active⟩ : ∃ m ∈ (visit.foldl (next server) office).memberships.rows,
      m.key = (200, 1) ∧ m.status = .active := by decide +kernel
  refine ⟨by decide +kernel, ?_⟩
  rw [← key]
  exact (foreign_access_consented start run).2 m mem active

end SmartErp.Auth
