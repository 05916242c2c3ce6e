import SmartErp.Auth.Memberships
import SmartErp.Foundations.Runs

/-!
# Who a refreshed session acts as

A refresh issues tokens from the user row alone, so it takes every session back to the user's own tenant
and role.
-/

namespace SmartErp.Auth
open Foundations

variable {env : Environment} {s t : State} {token : RefreshToken} {now : ℕ}

def SameIdentity (tokens : Tokens) (token : RefreshToken) : Prop := ∀ c ∈ tokens.claims, c = token.claims

def State.ActsAtHome (s : State) (token : RefreshToken) : Prop :=
  ∃ user ∈ s.users.find? token.sub, token.tenantId = user.tenantId ∧ token.role = user.role

theorem refreshed {tokens : Tokens} (ok : s.refreshToken env token now = (t, .ok tokens)) :
    ∃ user, s.users.find? token.sub = some user ∧ user.id = token.sub ∧
      ∀ c, c ∈ tokens.claims ↔ c = ⟨user.id, user.role, user.tenantId⟩ := by
  unfold State.refreshToken at ok
  split at ok
  · cases found : s.activeUser token.sub with
    | none => simp [found] at ok
    | some user =>
        rw [found] at ok
        have row := (Option.filter_eq_some_iff.mp found).1
        have issued := (User.refreshToken_issues (congrArg Prod.snd ok)).2.2
        refine ⟨user, row, Table.key_of_find? row, fun c => ⟨fun mem => ?_, ?_⟩⟩
        · rw [issued] at mem
          exact issueTokens_claims mem
        · rintro rfl
          rw [issued]
          exact List.mem_cons_self
  · simp at ok

theorem sameIdentity_iff {tokens : Tokens} (ok : s.refreshToken env token now = (t, .ok tokens)) :
    SameIdentity tokens token ↔ s.ActsAtHome token := by
  obtain ⟨user, row, key, claims⟩ := refreshed ok
  simp only [SameIdentity, claims, forall_eq, State.ActsAtHome, row, Option.mem_def, Option.some.injEq,
    exists_eq_left', RefreshToken.claims, Claims.mk.injEq, key, true_and]
  constructor
  · rintro ⟨role, tenant⟩
    exact ⟨tenant.symm, role.symm⟩
  · rintro ⟨tenant, role⟩
    exact ⟨role.symm, tenant.symm⟩

/-- At every refresh of every run: the session keeps its identity exactly when it acts at home. -/
theorem refresh_keeps_identity_iff {before after : List Op}
    (run : Run (fun _ _ => True) (next env) s (before ++ .refreshToken token now :: after) t) :
    ∃ u, Run (fun _ _ => True) (next env) s before u ∧
      ∀ u' tokens, u.refreshToken env token now = (u', .ok tokens) →
        (SameIdentity tokens token ↔ u.ActsAtHome token) := by
  obtain ⟨u, run', -⟩ := run.split
  exact ⟨u, run', fun _ _ ok => sameIdentity_iff ok⟩

namespace Sample

def signIn : List Op := [.login "andrea@example.it" "secret" 0]

def homeToken : RefreshToken := ⟨1, "andrea@example.it", .admin, some 100, 0, 0, 604800⟩

def homeRefreshed : Tokens where
  accessToken := ⟨1, "andrea@example.it", .admin, some 100, 901⟩
  refreshToken := ⟨1, "andrea@example.it", .admin, some 100, 1, 1, 604801⟩
  expiresIn := 900

def visitToken : RefreshToken := ⟨1, "andrea@example.it", .viewer, some 200, 1, 0, 604802⟩

def visitRefreshed : Tokens where
  accessToken := ⟨1, "andrea@example.it", .admin, some 100, 903⟩
  refreshToken := ⟨1, "andrea@example.it", .admin, some 100, 2, 1, 604803⟩
  expiresIn := 900

end Sample

open Sample in
theorem refresh_keeps_identity_iff_home :
    ((signIn.foldl (next server) office).refreshToken server homeToken 1000).2 = .ok homeRefreshed ∧
      SameIdentity homeRefreshed homeToken := by
  have met : AllMet (fun _ _ => True) (next server) office (signIn ++ Op.refreshToken homeToken 1000 :: []) := by
    decide +kernel
  obtain ⟨u, before, same⟩ := refresh_keeps_identity_iff (Run.ofAllMet met)
  obtain rfl := before.eq_foldl
  have ok : ((signIn.foldl (next server) office).refreshToken server homeToken 1000).2 =
      .ok homeRefreshed := by
    decide +kernel
  have home : (signIn.foldl (next server) office).ActsAtHome homeToken := by
    unfold State.ActsAtHome
    decide +kernel
  exact ⟨ok, (same _ _ (Prod.ext rfl ok)).mpr home⟩

open Sample in
/-- The session that the switch opened is refreshed, and acts at home as an administrator. -/
theorem refresh_leaves_tenant :
    (visit.foldl (next server) office).issued.map (·.refreshToken) = [visitToken] ∧
      ((visit.foldl (next server) office).refreshToken server visitToken 3000).2 = .ok visitRefreshed ∧
      ¬ SameIdentity visitRefreshed visitToken := by
  unfold SameIdentity
  decide +kernel

end SmartErp.Auth
