import SmartErp.Auth.Sessions
import SmartErp.Foundations.Interleaving
import Mathlib.Data.Fin.VecNotation
import Mathlib.Data.Fintype.Basic

/-!
# Overlapping requests of one user

A request reads the user row in one step and writes it in another. Nothing locks the row, and `save`
writes the row as it was read and changed.
-/

namespace SmartErp.Auth
open Foundations

inductive Request where
  | refreshToken (token : RefreshToken)
  | login (password : String)
  | mintTokensForTenantSwitch (tenantId : Uuid) (role : UserRole)
  | logout
  deriving DecidableEq

structure Account where
  user : User
  issued : List RefreshToken
  exchanged : List RefreshToken

def Request.Finds (account : Account) (now : ℕ) : Request → Prop
  | .refreshToken token => token ∈ account.issued ∧ ¬ token.expired now ∧
      token.sub = account.user.id ∧ account.user.isActive
  | .login _ => account.user.isActive
  | .mintTokensForTenantSwitch _ _ => account.user.isActive
  | .logout => True

instance (account : Account) (now : ℕ) (request : Request) : Decidable (request.Finds account now) := by
  cases request <;> (unfold Request.Finds; infer_instance)

/-- What the request writes, and the tokens it answers with, when `user` is the row it has read. -/
def Request.effect (env : Environment) (user : User) (now : ℕ) (jti : Uuid) :
    Request → Option Write × Option Tokens
  | .refreshToken token =>
      let outcome := user.refreshToken env token now jti
      (outcome.write, outcome.response.toOption)
  | .login password =>
      let outcome := user.login env password now jti
      (outcome.write, outcome.response.toOption)
  | .mintTokensForTenantSwitch tenantId role =>
      let outcome := user.mintTokensForTenantSwitch env tenantId role now jti
      (outcome.write, outcome.response.toOption)
  | .logout => (some user.logout, none)

inductive Call where
  | idle
  | working (request : Request) (user : User) (now : ℕ)
  | ended

inductive Act where
  | read (request : Request) (now : ℕ)
  | write (jti : Uuid)

def Request.exchanges (tokens : Option Tokens) : Request → List RefreshToken
  | .refreshToken token => if tokens.isSome then [token] else []
  | _ => []

def Account.conclude (account : Account) (request : Request) (effect : Option Write × Option Tokens) :
    Account where
  user := effect.1.elim account.user (·.apply account.user)
  issued := (effect.2.map (·.refreshToken)).toList ++ account.issued
  exchanged := request.exchanges effect.2 ++ account.exchanged

def act (env : Environment) : Act → Account → Call → Option (Account × Call)
  | .read request now, account, .idle =>
      some (account, if request.Finds account now then .working request account.user now else .ended)
  | .write jti, account, .working request user now =>
      some (account.conclude request (request.effect env user now jti), .ended)
  | _, _, _ => none

/-- A step that writes the row finds it at the version that its request has read. -/
def Timely {κ : Type*} (env : Environment) (s : Pool κ Account Call) (move : κ × Act) : Prop :=
  match move.2, s.calls move.1 with
  | .write jti, .working request user now =>
      (request.effect env user now jti).1.isSome → s.shared.user.tokenVersion = user.tokenVersion
  | _, _ => True

instance {κ : Type*} (env : Environment) (s : Pool κ Account Call) (move : κ × Act) :
    Decidable (Timely env s move) := by
  unfold Timely
  split <;> infer_instance

/-! ## One request -/

section
variable {env : Environment} {user row : User} {now : ℕ} {jti : Uuid} {request : Request} {write : Write}

theorem Write.apply_tokenVersion (write : Write) (row row' : User) :
    (write.apply row).tokenVersion = (write.apply row').tokenVersion := by
  cases write <;> rfl

theorem effect_version (writes : (request.effect env user now jti).1 = some write) :
    user.tokenVersion ≤ (write.apply row).tokenVersion := by
  rw [write.apply_tokenVersion row user]
  cases request with
  | refreshToken token => exact (User.refreshToken_write writes).2 ▸ Nat.le_succ _
  | login password => exact (User.login_write writes).2.ge
  | mintTokensForTenantSwitch tenantId role => exact (User.mint_write writes).2 ▸ Nat.le_succ _
  | logout =>
      cases writes
      exact Nat.le_succ _

theorem exchanges_version (row : User) {token : RefreshToken}
    (mem : token ∈ request.exchanges (request.effect env user now jti).2) :
    token.tv = user.tokenVersion ∧ ∃ write, (request.effect env user now jti).1 = some write ∧
      (write.apply row).tokenVersion = user.tokenVersion + 1 := by
  cases request with
  | refreshToken presented =>
      simp only [Request.effect] at mem ⊢
      cases response : (user.refreshToken env presented now jti).response with
      | error failure =>
          rw [response] at mem
          cases mem
      | ok tokens =>
          rw [response] at mem
          obtain rfl := List.mem_singleton.mp mem
          obtain ⟨write, writes⟩ := Option.isSome_iff_exists.mp (User.refreshToken_saves response)
          refine ⟨(User.refreshToken_issues response).1, write, writes, ?_⟩
          rw [write.apply_tokenVersion row user]
          exact (User.refreshToken_write writes).2
  | login password => cases mem
  | mintTokensForTenantSwitch tenantId role => cases mem
  | logout => cases mem

/-! ## Any number of requests -/

variable {κ : Type*} [DecidableEq κ] {s t : Pool κ Account Call} {moves : List (κ × Act)}

def Rotated (account : Account) : Prop :=
  account.exchanged.Nodup ∧ ∀ token ∈ account.exchanged, token.tv < account.user.tokenVersion

theorem next_shared (s : Pool κ Account Call) (move : κ × Act) :
    (s.next (act env) move).shared = s.shared ∨
      ∃ jti request user now, move.2 = .write jti ∧ s.calls move.1 = .working request user now ∧
        (s.next (act env) move).shared = s.shared.conclude request (request.effect env user now jti) := by
  obtain ⟨i, a⟩ := move
  cases a with
  | read request now =>
      left
      cases call : s.calls i <;> simp [Pool.next, act, call]
  | write jti =>
      cases call : s.calls i with
      | idle => exact .inl (by simp [Pool.next, act, call])
      | ended => exact .inl (by simp [Pool.next, act, call])
      | working request user now =>
          exact .inr ⟨jti, request, user, now, rfl, rfl, by simp [Pool.next, act, call]⟩

theorem conclude_version {account : Account}
    (timely : (request.effect env user now jti).1.isSome → account.user.tokenVersion = user.tokenVersion) :
    account.user.tokenVersion ≤
      (account.conclude request (request.effect env user now jti)).user.tokenVersion := by
  unfold Account.conclude
  cases writes : (request.effect env user now jti).1 with
  | none => exact le_rfl
  | some write =>
      rw [writes] at timely
      rw [timely rfl]
      exact effect_version writes

theorem exchanges_cases (request : Request) (tokens : Option Tokens) :
    request.exchanges tokens = [] ∨ ∃ token, request.exchanges tokens = [token] := by
  cases request with
  | refreshToken token => cases tokens <;> simp [Request.exchanges]
  | login password => exact .inl rfl
  | mintTokensForTenantSwitch tenantId role => exact .inl rfl
  | logout => exact .inl rfl

theorem conclude_rotated {account : Account} (rotated : Rotated account)
    (timely : (request.effect env user now jti).1.isSome → account.user.tokenVersion = user.tokenVersion) :
    Rotated (account.conclude request (request.effect env user now jti)) := by
  obtain ⟨once, earlier⟩ := rotated
  have version := conclude_version timely
  have old : ∀ token ∈ account.exchanged, token.tv <
      (account.conclude request (request.effect env user now jti)).user.tokenVersion :=
    fun token mem => (earlier token mem).trans_le version
  rcases exchanges_cases request (request.effect env user now jti).2 with none | ⟨token, one⟩
  · unfold Rotated
    rw [show (account.conclude request (request.effect env user now jti)).exchanged = account.exchanged by
      rw [Account.conclude, none, List.nil_append]]
    exact ⟨once, old⟩
  · obtain ⟨current, write, writes, bumped⟩ := exchanges_version account.user
      (show token ∈ request.exchanges (request.effect env user now jti).2 by simp [one])
    have unmoved := timely (by rw [writes]; rfl)
    have new : token.tv < (account.conclude request (request.effect env user now jti)).user.tokenVersion := by
      show _ < ((request.effect env user now jti).1.elim account.user (·.apply account.user)).tokenVersion
      rw [writes, Option.elim_some, bumped, current]
      exact Nat.lt_succ_self _
    unfold Rotated
    rw [show (account.conclude request (request.effect env user now jti)).exchanged =
        token :: account.exchanged by rw [Account.conclude, one]; rfl]
    constructor
    · -- A token exchanged before would be of an earlier version than the row.
      apply List.nodup_cons.mpr ⟨fun again => ?_, once⟩
      have := earlier token again
      omega
    · rw [List.forall_mem_cons]
      exact ⟨new, old⟩

omit [DecidableEq κ] in
theorem Timely.at_write {move : κ × Act} (timely : Timely env s move) {jti : Uuid} {request : Request}
    {user : User} {now : ℕ} (writes : move.2 = .write jti) (call : s.calls move.1 = .working request user now) :
    (request.effect env user now jti).1.isSome → s.shared.user.tokenVersion = user.tokenVersion := by
  rw [Timely, writes, call] at timely
  exact timely

theorem next_version {move : κ × Act} (timely : Timely env s move) :
    s.shared.user.tokenVersion ≤ (s.next (act env) move).shared.user.tokenVersion := by
  rcases next_shared s move with same | ⟨jti, request, user, now, writes, call, concluded⟩
  · rw [same]
  · rw [concluded]
    exact conclude_version (timely.at_write writes call)

theorem next_rotated {move : κ × Act} (rotated : Rotated s.shared) (timely : Timely env s move) :
    Rotated (s.next (act env) move).shared := by
  rcases next_shared s move with same | ⟨jti, request, user, now, writes, call, concluded⟩
  · rw [same]
    exact rotated
  · rw [concluded]
    exact conclude_rotated rotated (timely.at_write writes call)

/-- As long as every write finds the row as its request has read it, each refresh token is exchanged at
most once and the version never decreases. -/
theorem refresh_tokens_single_use (start : s.shared.exchanged = [])
    (run : Run (Timely env) (Pool.next (act env)) s moves t) :
    t.shared.exchanged.Nodup ∧
      ∀ before after u, moves = before ++ after → Run (Timely env) (Pool.next (act env)) s before u →
        u.shared.user.tokenVersion ≤ t.shared.user.tokenVersion := by
  constructor
  · have rotated : Rotated t.shared := by
      apply run.invariant fun s => Rotated s.shared
      · rw [Rotated, start]
        exact ⟨List.nodup_nil, by simp⟩
      · intro u move rotated timely
        exact next_rotated rotated timely
    exact rotated.1
  · intro before after u whole reached
    exact run.monotone (fun s => s.shared.user.tokenVersion) (fun _ _ timely => next_version timely) whole
      reached

end

/-! ## One user, two or three requests -/

namespace Sample

def signedOut (n : ℕ) : Pool (Fin n) Account Call where
  shared := ⟨user 1 100 "andrea@example.it", [], []⟩
  calls _ := .idle

def firstToken : RefreshToken := ⟨1, "andrea@example.it", .admin, some 100, 0, 50, 604800⟩

def signInThenRefresh : List (Fin 2 × Act) :=
  [(0, .read (.login "secret") 0), (0, .write 50), (1, .read (.refreshToken firstToken) 1000), (1, .write 51)]

def overlappingRefreshes : List (Fin 3 × Act) :=
  [(0, .read (.login "secret") 0), (0, .write 50), (1, .read (.refreshToken firstToken) 1000),
    (2, .read (.refreshToken firstToken) 1000), (1, .write 51), (2, .write 52)]

def overlappingLogin : List (Fin 3 × Act) :=
  [(0, .read (.login "secret") 0), (0, .write 50), (1, .read (.refreshToken firstToken) 1000),
    (2, .read (.login "secret") 1000), (1, .write 51)]

end Sample

open Sample in
theorem refresh_tokens_single_use_signIn :
    let t := signInThenRefresh.foldl (Pool.next (act server)) (signedOut 2)
    t.shared.exchanged = [firstToken] ∧ t.shared.exchanged.Nodup := by
  have met : AllMet (Timely server) (Pool.next (act server)) (signedOut 2) signInThenRefresh := by
    decide +kernel
  exact ⟨by decide +kernel, (refresh_tokens_single_use rfl (Run.ofAllMet met)).1⟩

open Sample in
/-- One token is exchanged twice, and a sign-in sets the version back. -/
theorem refresh_token_exchanged_twice :
    (overlappingRefreshes.foldl (Pool.next (act server)) (signedOut 3)).shared.exchanged =
        [firstToken, firstToken] ∧
      (overlappingLogin.foldl (Pool.next (act server)) (signedOut 3)).shared.user.tokenVersion = 1 ∧
      ((overlappingLogin ++ [(2, Act.write 52)]).foldl (Pool.next (act server))
        (signedOut 3)).shared.user.tokenVersion = 0 := by
  decide +kernel

end SmartErp.Auth
