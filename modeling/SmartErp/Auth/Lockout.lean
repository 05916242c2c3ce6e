import SmartErp.Auth.Sessions
import SmartErp.Foundations.Interleaving
import SmartErp.Foundations.Windows
import Mathlib.Data.Fin.VecNotation
import Mathlib.Data.Fintype.Basic

/-!
# Guesses at a password

A login reads the user row, compares the lock with the clock, verifies the password and saves the row, each
of them at a time of its own. The counter that is saved is one more than the counter that was read.
-/

namespace SmartErp.Auth
open Foundations

namespace User

def locked (user : User) (now : ℕ) : Bool := user.lockedUntil.any (now < ·)

def loggedIn (user : User) (env : Environment) (password : String) (now : ℕ) (jti : Uuid) : User :=
  let user := { user with
    passwordHash :=
      if isLegacyBcryptHash user.passwordHash then env.hashPassword password else user.passwordHash }
  { user with
    refreshTokenHash := some (hashForStorage (issueTokens env user none now jti).refreshToken)
    lastLoginAt := some now
    failedLoginAttempts := 0
    lockedUntil := none
    sessionCreatedAt := some now }

def guessedWrong (user : User) (now : ℕ) : User :=
  let failedLoginAttempts := user.failedLoginAttempts + 1
  { user with
    failedLoginAttempts
    lockedUntil :=
      if MAX_FAILED_ATTEMPTS ≤ failedLoginAttempts then some (now + LOCKOUT_MINUTES * 60000)
      else user.lockedUntil }

theorem login_write_eq (user : User) (env : Environment) (password : String) (now : ℕ) (jti : Uuid) :
    (user.login env password now jti).write =
      if user.locked now then none
      else if env.verifyPassword password user.passwordHash then some (.save (user.loggedIn env password now jti))
      else some (.save (user.guessedWrong now)) := by
  unfold login locked
  by_cases locked : user.lockedUntil.any (now < ·)
  · rw [if_pos locked, if_pos locked]
    rfl
  · rw [if_neg locked, if_neg locked]
    by_cases verified : env.verifyPassword password user.passwordHash
    · rw [if_pos verified, if_pos verified]
      rfl
    · rw [if_neg verified, if_neg verified]
      rfl

end User

/-! ## Steps of an attempt -/

inductive Attempt where
  | started (password : String)
  | loaded (password : String) (user : User)
  | admitted (password : String) (user : User)
  | verified (password : String) (user : User) (ok : Bool) (time : ℕ)
  | ended

inductive Move where
  | read
  | checkLock
  | verify
  | save (jti : Uuid)
  deriving DecidableEq

/-- The row, the time of the last step, and the times of the verifications, the latest one first. -/
structure Door where
  user : User
  clock : ℕ
  verifications : List ℕ

def attempt (env : Environment) : ℕ × Move → Door → Attempt → Option (Door × Attempt)
  | (now, .read), door, .started password =>
      -- A user who is not active is not found.
      some ({ door with clock := now }, if door.user.isActive then .loaded password door.user else .ended)
  | (now, .checkLock), door, .loaded password user =>
      some ({ door with clock := now }, if user.locked now then .ended else .admitted password user)
  | (now, .verify), door, .admitted password user =>
      some ({ door with clock := now, verifications := now :: door.verifications },
        .verified password user (env.verifyPassword password user.passwordHash) now)
  | (now, .save jti), door, .verified password user ok time =>
      -- A lock counts from the end of the verification, before the row is saved.
      some ({ door with
        clock := now
        user := if ok then user.loggedIn env password now jti else user.guessedWrong time }, .ended)
  | _, _, _ => none

theorem attempt_login {κ : Type} [DecidableEq κ] {env : Environment} {s : Pool κ Door Attempt} {i : κ}
    {password : String} (started : s.calls i = .started password) (active : s.shared.user.isActive)
    (now : ℕ) (jti : Uuid) :
    ([(i, now, .read), (i, now, .checkLock), (i, now, .verify), (i, now, .save jti)].foldl
        (Pool.next (attempt env)) s).shared.user =
      (s.shared.user.login env password now jti).write.elim s.shared.user (·.apply s.shared.user) := by
  rw [User.login_write_eq]
  simp only [List.foldl, Pool.next, started, attempt, if_pos active, Function.update_self]
  cases s.shared.user.locked now with
  | true => simp only [if_true, Function.update_self, Option.elim]
  | false =>
      simp only [Bool.false_eq_true, if_false, Function.update_self]
      cases env.verifyPassword password s.shared.user.passwordHash <;> rfl

/-! ## Guesses one at a time -/

section
variable {κ : Type} [DecidableEq κ] {env : Environment} {s t : Pool κ Door Attempt} {moves : List (κ × ℕ × Move)}

def Attempt.row : Attempt → Option User
  | loaded _ user | admitted _ user | verified _ user _ _ => some user
  | started _ | ended => none

def Attempt.isVerified : Attempt → Bool
  | verified .. => true
  | started _ | loaded .. | admitted .. | ended => false

def User.lockout (user : User) : ℕ × Option ℕ := (user.failedLoginAttempts, user.lockedUntil)

/-- Time does not run backwards. -/
def Timed (s : Pool κ Door Attempt) (move : κ × ℕ × Move) : Prop := s.shared.clock ≤ move.2.1

instance (s : Pool κ Door Attempt) (move : κ × ℕ × Move) : Decidable (Timed s move) :=
  inferInstanceAs (Decidable (_ ≤ _))

/-- A verification starts on the counter and lock as they are stored, while no other attempt is between its
verification and its save. -/
def Alone (s : Pool κ Door Attempt) (move : κ × ℕ × Move) : Prop :=
  move.2.2 = .verify → (∀ user ∈ (s.calls move.1).row, user.lockout = s.shared.user.lockout) ∧
    ∀ j, (s.calls j).isVerified = false

instance [Fintype κ] (s : Pool κ Door Attempt) (move : κ × ℕ × Move) : Decidable (Alone s move) :=
  inferInstanceAs (Decidable (_ → _ ∧ _))

/-- No attempt has the right password, and none has begun. -/
structure Guessing (env : Environment) (s : Pool κ Door Attempt) : Prop where
  started : ∀ i, ∃ password, s.calls i = .started password ∧
    env.verifyPassword password s.shared.user.passwordHash = false
  unverified : s.shared.verifications = []

def Attempt.Fits (env : Environment) (door : Door) : Attempt → Prop
  | started password => env.verifyPassword password door.user.passwordHash = false
  | loaded password user =>
      env.verifyPassword password door.user.passwordHash = false ∧
        user.passwordHash = door.user.passwordHash
  | admitted password user =>
      env.verifyPassword password door.user.passwordHash = false ∧
        user.passwordHash = door.user.passwordHash ∧ user.locked door.clock = false
  | verified _ user ok time =>
      ok = false ∧ user.passwordHash = door.user.passwordHash ∧ user.lockout = door.user.lockout ∧
        ∀ t ∈ door.verifications, t ≤ time
  | ended => True

theorem User.locked_later {user : User} {now later : ℕ} (le : now ≤ later) (open' : user.locked now = false) :
    user.locked later = false := by
  unfold locked at open' ⊢
  cases until_ : user.lockedUntil with
  | none => rfl
  | some time =>
      rw [until_] at open'
      simp only [Option.any_some, decide_eq_false_iff_not] at open' ⊢
      omega

theorem Attempt.Fits.later {door door' : Door} {call : Attempt} (fits : call.Fits env door)
    (clock : door.clock ≤ door'.clock) (hash : door'.user.passwordHash = door.user.passwordHash)
    (same : call.isVerified → door'.user.lockout = door.user.lockout ∧
      door'.verifications = door.verifications) : call.Fits env door' := by
  cases call with
  | started password =>
      unfold Fits at fits ⊢
      rwa [hash]
  | loaded password user =>
      unfold Fits at fits ⊢
      rwa [hash]
  | admitted password user =>
      obtain ⟨wrong, row, admitted⟩ := fits
      exact ⟨hash ▸ wrong, hash ▸ row, User.locked_later clock admitted⟩
  | verified password user ok time =>
      obtain ⟨lockout, verifications⟩ := same rfl
      unfold Fits at fits ⊢
      rwa [hash, lockout, verifications]
  | ended => trivial

/-- Without an attempt between its verification and its save, every verification is counted, and from the
limit on the lock stands for its time after each of them. -/
structure Settled (door : Door) : Prop where
  counted : door.verifications.length ≤ door.user.failedLoginAttempts
  lockedOut : MAX_FAILED_ATTEMPTS ≤ door.user.failedLoginAttempts → ∀ t ∈ door.verifications,
    ∃ time, door.user.lockedUntil = some time ∧ t + LOCKOUT_MINUTES * 60000 ≤ time

structure Guarded (env : Environment) (s : Pool κ Door Attempt) : Prop where
  fits : ∀ i, (s.calls i).Fits env s.shared
  past : ∀ t ∈ s.shared.verifications, t ≤ s.shared.clock
  spaced : Spaced MAX_FAILED_ATTEMPTS (LOCKOUT_MINUTES * 60000) s.shared.verifications
  settled : (∀ i, (s.calls i).isVerified = false) → Settled s.shared
  single : ∀ i j, (s.calls i).isVerified → (s.calls j).isVerified → j = i
  pending : ∀ i, (s.calls i).isVerified →
    s.shared.verifications.length ≤ s.shared.user.failedLoginAttempts + 1

omit [DecidableEq κ] in
theorem Guessing.guarded (guessing : Guessing env s) : Guarded env s := by
  have unverified (i : κ) : (s.calls i).isVerified = false := by
    obtain ⟨password, started, -⟩ := guessing.started i
    rw [started]
    rfl
  constructor
  · intro i
    obtain ⟨password, started, wrong⟩ := guessing.started i
    rw [started]
    exact wrong
  · rw [guessing.unverified]
    exact fun _ mem => nomatch mem
  · rw [guessing.unverified]
    trivial
  · intro _
    constructor
    · rw [guessing.unverified]
      exact Nat.zero_le _
    · rw [guessing.unverified]
      exact fun _ _ mem => nomatch mem
  · intro i j verified
    rw [unverified] at verified
    cases verified
  · intro i verified
    rw [unverified] at verified
    cases verified

/-- A step that only moves the clock and an attempt that does not become or stop being verified. -/
theorem Guarded.advance (guarded : Guarded env s) {i : κ} {call : Attempt} {now : ℕ}
    (clock : s.shared.clock ≤ now) (before : (s.calls i).isVerified = false) (after : call.isVerified = false)
    (fits : call.Fits env { s.shared with clock := now }) :
    Guarded env ⟨{ s.shared with clock := now }, Function.update s.calls i call⟩ := by
  have same (j : κ) : (Function.update s.calls i call j).isVerified = (s.calls j).isVerified := by
    by_cases here : j = i
    · subst here
      rw [Function.update_self, before, after]
    · rw [Function.update_of_ne here]
  constructor
  · refine (Function.forall_update_iff s.calls fun _ => Attempt.Fits env _).mpr ⟨fits, fun j _ => ?_⟩
    exact (guarded.fits j).later clock rfl fun _ => ⟨rfl, rfl⟩
  · exact fun t mem => (guarded.past t mem).trans clock
  · exact guarded.spaced
  · intro none
    have settled := guarded.settled fun j => (same j).symm.trans (none j)
    exact ⟨settled.counted, settled.lockedOut⟩
  · intro j k verified verified'
    rw [same] at verified verified'
    exact guarded.single j k verified verified'
  · intro j verified
    rw [same] at verified
    exact guarded.pending j verified

theorem Guarded.verify (guarded : Guarded env s) {i : κ} {password : String} {user : User} {now : ℕ}
    (clock : s.shared.clock ≤ now) (admitted : s.calls i = .admitted password user)
    (alone : Alone s (i, now, .verify)) :
    Guarded env ⟨{ s.shared with clock := now, verifications := now :: s.shared.verifications },
      Function.update s.calls i (.verified password user (env.verifyPassword password user.passwordHash) now)⟩ := by
  obtain ⟨stored, unverified⟩ := alone rfl
  replace stored : user.lockout = s.shared.user.lockout := stored user (by rw [admitted]; rfl)
  obtain ⟨wrong, hash, unlocked⟩ : (Attempt.admitted password user).Fits env s.shared :=
    admitted ▸ guarded.fits i
  have settled := guarded.settled unverified
  have only (j : κ) (verified : (Function.update s.calls i (.verified password user
      (env.verifyPassword password user.passwordHash) now) j).isVerified) : j = i := by
    by_contra other
    rw [Function.update_of_ne other, unverified] at verified
    cases verified
  have past : ∀ t ∈ now :: s.shared.verifications, t ≤ now := by
    intro t mem
    rcases List.mem_cons.mp mem with rfl | mem
    · exact le_rfl
    · exact (guarded.past t mem).trans clock
  constructor
  · refine (Function.forall_update_iff s.calls fun _ => Attempt.Fits env _).mpr
      ⟨⟨hash ▸ wrong, hash, stored, past⟩, fun j _ => ?_⟩
    refine (guarded.fits j).later clock rfl fun verified => ?_
    rw [unverified j] at verified
    cases verified
  · exact past
  · refine ⟨guarded.spaced, fun many t mem => ?_⟩
    -- The lock that the row was admitted under covers every verification so far.
    obtain ⟨time, lock, covers⟩ := settled.lockedOut (many.trans settled.counted) t mem
    have expired := User.locked_later clock unlocked
    unfold User.locked at expired
    rw [show user.lockedUntil = _ from (Prod.ext_iff.mp stored).2.trans lock] at expired
    simp only [Option.any_some, decide_eq_false_iff_not] at expired
    exact covers.trans (Nat.not_lt.mp expired)
  · intro none
    have verified := none i
    dsimp only at verified
    rw [Function.update_self] at verified
    cases verified
  · intro j k verified verified'
    rw [only j verified, only k verified']
  · exact fun _ _ => Nat.succ_le_succ settled.counted

theorem Guarded.save (guarded : Guarded env s) {i : κ} {password : String} {user : User} {ok : Bool}
    {time now : ℕ} (jti : Uuid) (clock : s.shared.clock ≤ now)
    (verified : s.calls i = .verified password user ok time) :
    Guarded env ⟨{ s.shared with
      clock := now
      user := if ok then user.loggedIn env password now jti else user.guessedWrong time },
      Function.update s.calls i .ended⟩ := by
  obtain ⟨rfl, hash, stored, past⟩ : (Attempt.verified password user ok time).Fits env s.shared :=
    verified ▸ guarded.fits i
  have here : (s.calls i).isVerified := by
    rw [verified]
    rfl
  have unverified (j : κ) : (Function.update s.calls i .ended j).isVerified = false := by
    by_cases same : j = i
    · rw [same, Function.update_self]
      rfl
    · rw [Function.update_of_ne same]
      exact Bool.eq_false_iff.mpr fun there => same (guarded.single i j here there)
  have counter : user.failedLoginAttempts = s.shared.user.failedLoginAttempts := (Prod.ext_iff.mp stored).1
  constructor
  · refine (Function.forall_update_iff s.calls fun _ => Attempt.Fits env _).mpr ⟨trivial, fun j other => ?_⟩
    refine (guarded.fits j).later clock hash fun there => ?_
    exact absurd (guarded.single i j here there) other
  · exact fun t mem => (guarded.past t mem).trans clock
  · exact guarded.spaced
  · intro _
    constructor
    · have pending := guarded.pending i here
      rw [← counter] at pending
      exact pending
    · intro many t mem
      refine ⟨time + LOCKOUT_MINUTES * 60000, if_pos many, ?_⟩
      exact Nat.add_le_add_right (past t mem) _
  · intro j k there
    rw [unverified] at there
    cases there
  · intro j there
    rw [unverified] at there
    cases there

theorem Guarded.next (guarded : Guarded env s) {move : κ × ℕ × Move} (clock : Timed s move)
    (alone : Alone s move) : Guarded env (Pool.next (attempt env) s move) := by
  obtain ⟨i, now, move⟩ := move
  refine Pool.next_keeps (Guarded env) guarded fun shared call step => ?_
  have fits := guarded.fits i
  cases state : s.calls i with
  | started password =>
      rw [state] at step fits
      cases move <;> cases step
      refine guarded.advance clock (by rw [state]; rfl) ?_ ?_
      · split <;> rfl
      · split
        · exact ⟨fits, rfl⟩
        · trivial
  | loaded password user =>
      rw [state] at step fits
      cases move <;> cases step
      refine guarded.advance clock (by rw [state]; rfl) ?_ ?_
      · split <;> rfl
      · split
        · trivial
        · exact ⟨fits.1, fits.2, Bool.eq_false_iff.mpr ‹_›⟩
  | admitted password user =>
      rw [state] at step
      cases move <;> cases step
      exact guarded.verify clock state alone
  | verified password user ok time =>
      rw [state] at step
      cases move <;> cases step
      exact guarded.save _ clock state
  | ended =>
      rw [state] at step
      cases move <;> cases step

/-- Of wrong guesses that are verified one after the other, each on the counter that the one before has left,
no window shorter than a lock holds more than the limit. -/
theorem verifications_bounded (guessing : Guessing env s)
    (run : Run (fun s move => Timed s move ∧ Alone s move) (Pool.next (attempt env)) s moves t) {a b : ℕ}
    (window : b < a + LOCKOUT_MINUTES * 60000) :
    t.shared.verifications.countP (fun time => a ≤ time ∧ time ≤ b) ≤ MAX_FAILED_ATTEMPTS := by
  have guarded := run.invariant (Guarded env) guessing.guarded fun _ _ guarded met => guarded.next met.1 met.2
  exact guarded.spaced.countP_le (by decide) window

end

/-! ## Six guesses -/

namespace Sample

def guesses : Pool (Fin 6) Door Attempt where
  shared := ⟨user 1 100 "andrea@example.it", 0, []⟩
  calls _ := .started "guess"

def guessesInTurn : List (Fin 6 × ℕ × Move) :=
  (List.finRange 6).flatMap fun i =>
    [(i, i * 1000, .read), (i, i * 1000, .checkLock), (i, i * 1000, .verify), (i, i * 1000, .save 50)]

def guessesAtOnce : List (Fin 6 × ℕ × Move) :=
  [Move.read, .checkLock, .verify, .save 50].flatMap fun move =>
    (List.finRange 6).map fun i => (i, 1000, move)

theorem guesses_guessing : Guessing server guesses := ⟨fun _ => ⟨"guess", rfl, by decide⟩, rfl⟩

end Sample

open Sample in
theorem verifications_bounded_inTurn :
    let t := guessesInTurn.foldl (Pool.next (attempt server)) guesses
    t.shared.verifications = [4000, 3000, 2000, 1000, 0] ∧
      t.shared.verifications.countP (fun time => 0 ≤ time ∧ time ≤ 4000) ≤ MAX_FAILED_ATTEMPTS := by
  have met : AllMet (fun s move => Timed s move ∧ Alone s move) (Pool.next (attempt server)) guesses
      guessesInTurn := by
    decide +kernel
  exact ⟨by decide +kernel, verifications_bounded guesses_guessing (Run.ofAllMet met) (by decide)⟩

open Sample in
/-- Six attempts that have read the row before any of them saves it are all verified. -/
theorem guesses_not_bounded :
    ¬ ∀ (s t : Pool (Fin 6) Door Attempt) (moves : List (Fin 6 × ℕ × Move)), Guessing server s →
      Run Timed (Pool.next (attempt server)) s moves t → ∀ a b, b < a + LOCKOUT_MINUTES * 60000 →
        t.shared.verifications.countP (fun time => a ≤ time ∧ time ≤ b) ≤ MAX_FAILED_ATTEMPTS := by
  intro bounded
  have met : AllMet Timed (Pool.next (attempt server)) guesses guessesAtOnce := by
    decide +kernel
  have few := bounded _ _ _ guesses_guessing (Run.ofAllMet met) 0 1000 (by decide)
  revert few
  decide +kernel

end SmartErp.Auth
