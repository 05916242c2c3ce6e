import SmartErp.Auth.Memberships
import SmartErp.Foundations.Runs

/-!
# The session ceiling

A chain of token pairs starts at a password login and goes on with refreshes and tenant switches. A switch
stamps the session anew, so the ceiling holds of a chain that sees none.
-/

namespace SmartErp.Auth
open Foundations

/-! ## What an operation does to the session of a row -/

/-- Tokens that are issued are stored with `stamp`; without them a row loses its session or keeps it. -/
structure Outcome.Stamps (outcome : Outcome) (env : Environment) (user : User) (now : ℕ) (jti : Uuid)
    (stamp : Option ℕ) : Prop where
  issued : ∀ tokens, outcome.response = .ok tokens →
    (∃ user' override, tokens = issueTokens env user' override now jti) ∧
      ∃ write, outcome.write = some write ∧
        (write.apply user).refreshTokenHash = some (hashForStorage tokens.refreshToken) ∧
        (write.apply user).sessionCreatedAt = stamp
  refused : ∀ failure, outcome.response = .error failure → ∀ write, outcome.write = some write →
    (write.apply user).refreshTokenHash = none ∨
      (write.apply user).refreshTokenHash = user.refreshTokenHash ∧
        (write.apply user).sessionCreatedAt = user.sessionCreatedAt

namespace User
variable {user : User} {env : Environment} {token : RefreshToken} {now : ℕ} {jti : Uuid} {tokens : Tokens}

theorem login_stamps (user : User) (env : Environment) (password : String) (now : ℕ) (jti : Uuid) :
    (user.login env password now jti).Stamps env user now jti (some now) := by
  unfold login
  by_cases locked : user.lockedUntil.any (now < ·)
  · rw [if_pos locked]
    constructor
    · intro tokens ok
      cases ok
    · intro failure _ write writes
      cases writes
  · rw [if_neg locked]
    by_cases verified : env.verifyPassword password user.passwordHash
    · rw [if_pos verified]
      constructor
      · intro tokens ok
        cases ok
        exact ⟨⟨_, _, rfl⟩, _, rfl, rfl, rfl⟩
      · intro failure refused
        cases refused
    · rw [if_neg verified]
      constructor
      · intro tokens ok
        cases ok
      · intro failure _ write writes
        cases writes
        exact .inr ⟨rfl, rfl⟩

theorem refreshToken_stamps (user : User) (env : Environment) (token : RefreshToken) (now : ℕ) (jti : Uuid) :
    (user.refreshToken env token now jti).Stamps env user now jti user.sessionCreatedAt := by
  obtain ⟨failure, refused⟩ | ⟨endsSession, failure, revoked⟩ | ⟨_, _, _, issued⟩ :=
    user.refreshToken_cases env token now jti
  · rw [refused]
    constructor
    · intro tokens ok
      cases ok
    · intro failure _ write writes
      cases writes
  · rw [revoked]
    constructor
    · intro tokens ok
      cases ok
    · intro failure _ write writes
      cases writes
      exact .inl rfl
  · rw [issued]
    constructor
    · intro tokens ok
      cases ok
      exact ⟨⟨_, _, rfl⟩, _, rfl, rfl, rfl⟩
    · intro failure refused
      cases refused

theorem mint_stamps (user : User) (env : Environment) (tenantId : Uuid) (role : UserRole) (now : ℕ) (jti : Uuid) :
    (user.mintTokensForTenantSwitch env tenantId role now jti).Stamps env user now jti (some now) := by
  constructor
  · intro tokens ok
    cases ok
    exact ⟨⟨_, _, rfl⟩, _, rfl, rfl, rfl⟩
  · intro failure refused
    cases refused

end User

/-! ## Chains -/

/-- A pair that was handed out: when that was, when the password login of its chain was, how many switches
the chain has seen since, and when the login or the last switch was. -/
structure Link where
  tokens : Tokens
  issuedAt : ℕ
  signedInAt : ℕ
  switches : ℕ
  stampedAt : ℕ
  deriving DecidableEq

/-- `AuthGuard('jwt')` and `JwtStrategy.validate`. -/
def AccessToken.accepted (token : AccessToken) (now : ℕ) : Prop := now / 1000 < token.exp ∧ token.tenantId.isSome

instance (token : AccessToken) (now : ℕ) : Decidable (token.accepted now) :=
  inferInstanceAs (Decidable (_ ∧ _))

structure Chains where
  state : State
  clock : ℕ
  links : List Link

inductive Turn where
  | login (email password : String)
  | refreshToken (link : Link)
  | switchTenant (link : Link) (targetTenantId : Uuid)

namespace Chains

def record (s : Chains) (now : ℕ) (answer : State × Except Failure Tokens) (link : Tokens → Link) : Chains where
  state := answer.1
  clock := now
  links := match answer.2 with
    | .ok tokens => link tokens :: s.links
    | .error _ => s.links

def next (env : Environment) (s : Chains) : ℕ × Turn → Chains
  | (now, .login email password) =>
      s.record now (s.state.login env email password now) fun tokens => ⟨tokens, now, now, 0, now⟩
  | (now, .refreshToken link) =>
      if link ∈ s.links then
        s.record now (s.state.refreshToken env link.tokens.refreshToken now) fun tokens =>
          ⟨tokens, now, link.signedInAt, link.switches, link.stampedAt⟩
      else s
  | (now, .switchTenant link targetTenantId) =>
      if link ∈ s.links ∧ link.tokens.accessToken.accepted now then
        s.record now (s.state.switchTenant env link.tokens.accessToken.sub targetTenantId now) fun tokens =>
          ⟨tokens, now, link.signedInAt, link.switches + 1, now⟩
      else s

def Timed (s : Chains) (turn : ℕ × Turn) : Prop := s.clock ≤ turn.1

instance (s : Chains) (turn : ℕ × Turn) : Decidable (s.Timed turn) := inferInstanceAs (Decidable (_ ≤ _))

/-- In the order of time, and no tenant switch. -/
def Stays (s : Chains) : ℕ × Turn → Prop
  | (_, .switchTenant ..) => False
  | turn => s.Timed turn

instance (s : Chains) : ∀ turn : ℕ × Turn, Decidable (s.Stays turn)
  | (_, .switchTenant ..) => inferInstanceAs (Decidable False)
  | (now, .login ..) | (now, .refreshToken ..) => inferInstanceAs (Decidable (s.clock ≤ now))

theorem Stays.timed {s : Chains} : ∀ {turn : ℕ × Turn}, s.Stays turn → s.Timed turn
  | (_, .switchTenant ..), stays => stays.elim
  | (_, .login ..), timed | (_, .refreshToken ..), timed => timed

structure Unused (s : Chains) : Prop where
  links : s.links = []
  issued : s.state.issued = []
  signedOut : ∀ user ∈ s.state.users.rows, user.refreshTokenHash = none

end Chains

def Environment.accessMs (env : Environment) : ℕ := env.seconds env.accessTtl * 1000

/-- Within the ceiling of its stamp, which each switch has moved by a ceiling and the life of an access
token at most. -/
structure Link.Bounded (env : Environment) (link : Link) : Prop where
  issued : link.issuedAt ≤ link.stampedAt + SESSION_ABSOLUTE_MS
  stamped : link.stampedAt ≤ link.signedInAt + link.switches * (SESSION_ABSOLUTE_MS + env.accessMs)
  exp : link.tokens.accessToken.exp = link.issuedAt / 1000 + env.seconds env.accessTtl

structure Chained (env : Environment) (s : Chains) : Prop where
  issued : s.state.issued = s.links.map (·.tokens)
  ids : ∀ link ∈ s.links, link.tokens.refreshToken.jti < s.links.length
  distinct : (s.links.map (·.tokens.refreshToken)).Nodup
  stored : ∀ user ∈ s.state.users.rows, ∀ hash, user.refreshTokenHash = some hash →
    ∃ link ∈ s.links, hash = hashForStorage link.tokens.refreshToken ∧
      user.sessionCreatedAt = some link.stampedAt
  bounded : ∀ link ∈ s.links, link.Bounded env

section
variable {env : Environment} {s t : Chains} {turns : List (ℕ × Turn)} {now : ℕ}

theorem Chains.Unused.chained (unused : s.Unused) : Chained env s where
  issued := by rw [unused.issued, unused.links, List.map_nil]
  ids := by rw [unused.links]; exact fun _ mem => nomatch mem
  distinct := by rw [unused.links]; exact List.nodup_nil
  stored user mem hash stored := by
    rw [unused.signedOut user mem] at stored
    cases stored
  bounded := by rw [unused.links]; exact fun _ mem => nomatch mem

theorem Chained.refused (chained : Chained env s) {user : User} (mem : user ∈ s.state.users.rows)
    {outcome : Outcome} {stamp : Option ℕ} (stamps : outcome.Stamps env user now s.state.jti stamp)
    {failure : Failure} (response : outcome.response = .error failure) (link : Tokens → Link) :
    Chained env (s.record now (s.state.conclude user outcome) link) := by
  unfold Chains.record State.conclude
  rw [response]
  refine ⟨chained.issued, chained.ids, chained.distinct, ?_, chained.bounded⟩
  cases writes : outcome.write with
  | none => exact chained.stored
  | some write =>
      intro row saved hash stored
      rcases Table.mem_save.mp saved with rfl | ⟨old, _⟩
      · rcases stamps.refused failure response write writes with ended | ⟨kept, stamp⟩
        · rw [ended] at stored
          cases stored
        · rw [kept] at stored
          rw [stamp]
          exact chained.stored user mem hash stored
      · exact chained.stored row old hash stored

theorem Chained.extended (chained : Chained env s) {user : User} {outcome : Outcome} {link : Tokens → Link}
    {tokens : Tokens} (same : (link tokens).tokens = tokens) (issuedAt : (link tokens).issuedAt = now)
    (stamps : outcome.Stamps env user now s.state.jti (some (link tokens).stampedAt))
    (response : outcome.response = .ok tokens)
    (issued : now ≤ (link tokens).stampedAt + SESSION_ABSOLUTE_MS)
    (stamped : (link tokens).stampedAt ≤
      (link tokens).signedInAt + (link tokens).switches * (SESSION_ABSOLUTE_MS + env.accessMs)) :
    Chained env (s.record now (s.state.conclude user outcome) link) := by
  obtain ⟨⟨user', override, minted⟩, write, writes, hash, stamp⟩ := stamps.issued tokens response
  have id : (link tokens).tokens.refreshToken.jti = s.links.length := by
    rw [same, minted]
    exact (congrArg List.length chained.issued).trans (List.length_map _)
  unfold Chains.record State.conclude
  rw [response, writes]
  constructor
  · exact congrArg₂ List.cons same.symm chained.issued
  · intro old mem
    rcases List.mem_cons.mp mem with rfl | mem
    · rw [id]
      exact Nat.lt_succ_self _
    · exact (chained.ids old mem).trans (Nat.lt_succ_self _)
  · refine List.nodup_cons.mpr ⟨fun mem => ?_, chained.distinct⟩
    obtain ⟨old, mem, twin⟩ := List.mem_map.mp mem
    have earlier := chained.ids old mem
    rw [twin, id] at earlier
    exact lt_irrefl _ earlier
  · intro row saved digest stored
    rcases Table.mem_save.mp saved with rfl | ⟨old, _⟩
    · refine ⟨link tokens, List.mem_cons_self, ?_, stamp⟩
      rw [hash] at stored
      rw [same]
      exact (Option.some.inj stored).symm
    · obtain ⟨before, mem, holds⟩ := chained.stored row old digest stored
      exact ⟨before, List.mem_cons_of_mem _ mem, holds⟩
  · intro old mem
    rcases List.mem_cons.mp mem with rfl | mem
    · refine ⟨issuedAt ▸ issued, stamped, ?_⟩
      rw [same, issuedAt, minted]
      rfl
    · exact chained.bounded old mem

theorem Chained.login (chained : Chained env s) (email password : String) :
    Chained env (Chains.next env s (now, .login email password)) := by
  unfold Chains.next State.login
  dsimp only
  split
  · exact ⟨chained.issued, chained.ids, chained.distinct, chained.stored, chained.bounded⟩
  · rename_i user found
    have stamps := user.login_stamps env password now s.state.jti
    cases response : (user.login env password now s.state.jti).response with
    | error failure => exact chained.refused (List.mem_of_find?_eq_some found) stamps response _
    | ok tokens =>
        refine chained.extended rfl rfl stamps response ?_ ?_
        · exact Nat.le_add_right _ _
        · exact Nat.le_add_right _ _

theorem Chained.refreshToken (chained : Chained env s) (link : Link) :
    Chained env (Chains.next env s (now, .refreshToken link)) := by
  unfold Chains.next
  dsimp only
  split_ifs with held
  · unfold State.refreshToken
    split_ifs
    · split
      · exact ⟨chained.issued, chained.ids, chained.distinct, chained.stored, chained.bounded⟩
      · rename_i user found
        have mem := Table.mem_of_find? (Option.filter_eq_some_iff.mp found).1
        have stamps := user.refreshToken_stamps env link.tokens.refreshToken now s.state.jti
        cases response : (user.refreshToken env link.tokens.refreshToken now s.state.jti).response with
        | error failure => exact chained.refused mem stamps response _
        | ok tokens =>
            obtain ⟨-, stored, ceiling, -⟩ := User.refreshToken_ok response
            -- The token that the row stores was handed out once, so the stamp of the row is this chain's.
            obtain ⟨link', held', same, stamp⟩ := chained.stored user mem _ stored
            obtain rfl := List.inj_on_of_nodup_map chained.distinct held held' (Digest.mk.inj same)
            rw [stamp] at stamps
            refine chained.extended rfl rfl stamps response ?_ (chained.bounded link held).stamped
            exact Nat.sub_le_iff_le_add'.mp (ceiling _ stamp)
    · exact ⟨chained.issued, chained.ids, chained.distinct, chained.stored, chained.bounded⟩
  · exact chained

theorem Link.Bounded.switched {link : Link} (bounded : link.Bounded env)
    (accepted : link.tokens.accessToken.accepted now) :
    now ≤ link.signedInAt + (link.switches + 1) * (SESSION_ABSOLUTE_MS + env.accessMs) := by
  obtain ⟨issued, stamped, exp⟩ := bounded
  have live : now / 1000 < link.issuedAt / 1000 + env.seconds env.accessTtl := exp ▸ accepted.1
  have within : now ≤ link.issuedAt + env.accessMs := by
    unfold Environment.accessMs
    omega
  calc
    now ≤ link.stampedAt + SESSION_ABSOLUTE_MS + env.accessMs := within.trans (Nat.add_le_add_right issued _)
    _ ≤ link.signedInAt + link.switches * (SESSION_ABSOLUTE_MS + env.accessMs) + SESSION_ABSOLUTE_MS +
        env.accessMs := by gcongr
    _ = link.signedInAt + (link.switches + 1) * (SESSION_ABSOLUTE_MS + env.accessMs) := by ring

theorem Chained.switchTenant (chained : Chained env s) (link : Link) (targetTenantId : Uuid) :
    Chained env (Chains.next env s (now, .switchTenant link targetTenantId)) := by
  unfold Chains.next
  dsimp only
  have unchanged : Chained env { s with clock := now } :=
    ⟨chained.issued, chained.ids, chained.distinct, chained.stored, chained.bounded⟩
  split_ifs with presented
  · obtain ⟨held, accepted⟩ := presented
    unfold State.switchTenant
    split
    · exact unchanged
    · rename_i m _
      split_ifs
      · unfold State.mintTokensForTenantSwitch
        split
        · exact unchanged
        · rename_i user found
          have mem := Table.mem_of_find? (Option.filter_eq_some_iff.mp found).1
          have stamps := user.mint_stamps env targetTenantId (toUserRole m.role) now s.state.jti
          refine chained.extended rfl rfl stamps rfl ?_ ((chained.bounded link held).switched accepted)
          exact Nat.le_add_right _ _
      · exact unchanged
  · exact chained

theorem Chained.next (chained : Chained env s) (turn : ℕ × Turn) : Chained env (Chains.next env s turn) := by
  obtain ⟨now, turn⟩ := turn
  cases turn with
  | login email password => exact chained.login email password
  | refreshToken link => exact chained.refreshToken link
  | switchTenant link targetTenantId => exact chained.switchTenant link targetTenantId

/-- A pair is issued within the ceiling of the last login or switch of its chain, and every switch within a
ceiling and the life of an access token of the login or switch before it. -/
theorem chain_ceiling (unused : s.Unused) (run : Run Chains.Timed (Chains.next env) s turns t) :
    ∀ link ∈ t.links, link.issuedAt ≤ link.stampedAt + SESSION_ABSOLUTE_MS ∧
      link.stampedAt ≤ link.signedInAt + link.switches * (SESSION_ABSOLUTE_MS + env.accessMs) := by
  have chained := run.invariant (Chained env) unused.chained fun _ turn chained _ => chained.next turn
  intro link mem
  exact ⟨(chained.bounded link mem).issued, (chained.bounded link mem).stamped⟩

theorem Chains.Stays.switches {turn : ℕ × Turn} (stays : s.Stays turn) (none : ∀ link ∈ s.links, link.switches = 0) :
    ∀ link ∈ (Chains.next env s turn).links, link.switches = 0 := by
  have recorded {now : ℕ} {answer : State × Except Failure Tokens} {pair : Tokens → Link}
      (zero : ∀ tokens, (pair tokens).switches = 0) : ∀ link ∈ (s.record now answer pair).links, link.switches = 0 := by
    unfold Chains.record
    cases answer.2 with
    | ok tokens => exact List.forall_mem_cons.mpr ⟨zero tokens, none⟩
    | error failure => exact none
  obtain ⟨now, turn⟩ := turn
  cases turn with
  | login email password => exact recorded fun _ => rfl
  | refreshToken link =>
      rw [Chains.next]
      split_ifs with held
      · exact recorded fun _ => none link held
      · exact none
  | switchTenant link targetTenantId => exact stays.elim

/-- Without a tenant switch, every pair is issued within the ceiling of its password login. -/
theorem session_ceiling (unused : s.Unused) (run : Run Chains.Stays (Chains.next env) s turns t) :
    ∀ link ∈ t.links, link.issuedAt ≤ link.signedInAt + SESSION_ABSOLUTE_MS := by
  have timed : Run Chains.Timed (Chains.next env) s turns t := run.mono fun _ _ stays => stays.timed
  have none : ∀ link ∈ t.links, link.switches = 0 := by
    refine run.invariant (fun s => ∀ link ∈ s.links, link.switches = 0) ?_ fun _ _ none stays => stays.switches none
    rw [unused.links]
    exact fun _ mem => nomatch mem
  intro link mem
  obtain ⟨issued, stamped⟩ := chain_ceiling unused timed link mem
  rw [none link mem, zero_mul, add_zero] at stamped
  exact issued.trans (Nat.add_le_add_right stamped _)

end

/-! ## A session of an accountant -/

namespace Sample

def practice : Chains where
  state := ([.invite 9 200 2 1 .commercialista 0, .consent 9 1 0] : List Op).foldl (Auth.next server) office
  clock := 0
  links := []

theorem practice_unused : practice.Unused :=
  ⟨rfl, rfl, by decide⟩

def signedIn : Link where
  tokens := issueTokens server (user 1 100 "andrea@example.it") none 0 0
  issuedAt := 0
  signedInAt := 0
  switches := 0
  stampedAt := 0

def lastRefresh : Link :=
  { signedIn with
    tokens := issueTokens server { user 1 100 "andrea@example.it" with tokenVersion := 1 } none SESSION_ABSOLUTE_MS 1
    issuedAt := SESSION_ABSOLUTE_MS }

def switched : Link where
  tokens := issueTokens server { user 1 100 "andrea@example.it" with tokenVersion := 2 } (some ⟨200, .viewer⟩)
    (SESSION_ABSOLUTE_MS + 600000) 2
  issuedAt := SESSION_ABSOLUTE_MS + 600000
  signedInAt := 0
  switches := 1
  stampedAt := SESSION_ABSOLUTE_MS + 600000

def longDay : List (ℕ × Turn) :=
  [(0, .login "andrea@example.it" "secret"), (SESSION_ABSOLUTE_MS, .refreshToken signedIn),
    (SESSION_ABSOLUTE_MS + 600000, .switchTenant lastRefresh 200),
    (2 * SESSION_ABSOLUTE_MS, .refreshToken switched)]

end Sample

open Sample in
theorem session_ceiling_day :
    lastRefresh ∈ ((longDay.take 2).foldl (Chains.next server) practice).links ∧
      lastRefresh.issuedAt ≤ 0 + SESSION_ABSOLUTE_MS := by
  have met : AllMet Chains.Stays (Chains.next server) practice (longDay.take 2) := by
    decide +kernel
  have issued : lastRefresh ∈ ((longDay.take 2).foldl (Chains.next server) practice).links := by
    decide +kernel
  exact ⟨issued, session_ceiling practice_unused (Run.ofAllMet met) lastRefresh issued⟩

open Sample in
/-- A switch just after the ceiling, and a refresh twelve hours later. -/
theorem chain_beyond_ceiling :
    ¬ ∀ (s t : Chains) (turns : List (ℕ × Turn)), s.Unused → Run Chains.Timed (Chains.next server) s turns t →
      ∀ link ∈ t.links, link.issuedAt ≤ link.signedInAt + SESSION_ABSOLUTE_MS := by
  intro ceiling
  have met : AllMet Chains.Timed (Chains.next server) practice longDay := by
    decide +kernel
  have within := ceiling _ _ _ practice_unused (Run.ofAllMet met)
  revert within
  decide +kernel

end SmartErp.Auth
