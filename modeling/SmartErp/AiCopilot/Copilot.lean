import SmartErp.Foundations.Interleaving
import Mathlib.Algebra.BigOperators.Group.Finset.Piecewise
import Mathlib.Algebra.BigOperators.Pi
import Mathlib.Algebra.BigOperators.Ring.Finset
import Mathlib.Algebra.Order.BigOperators.Group.Finset
import Mathlib.Data.Fintype.Prod
import Mathlib.Data.Rat.Cast.Order
import Mathlib.Tactic.Linarith

/-!
# Tokens of the copilot

An ask reads the counter of the day and compares it with the cap, sends the message to the model, reads the
counter again and saves it with the usage added. The calls are those of one tenant on one day, so that there
is one row for all of them, inserted by the first call that finds none.
-/

namespace SmartErp.AiCopilot
open Foundations

namespace Copilot

inductive SubscriptionPlan where
  | base
  | professionale
  | enterprise

structure AiCopilotSettings where
  dailyTokenCap : Option ℚ

structure Settings where
  aiCopilot : Option AiCopilotSettings

structure Tenant where
  plan : SubscriptionPlan
  settings : Option Settings

def DEFAULT_DAILY_TOKEN_CAP : SubscriptionPlan → ℚ
  | .base => 50000
  | .professionale => 250000
  | .enterprise => 1000000

def resolveDailyCap : Option Tenant → ℚ
  | none => DEFAULT_DAILY_TOKEN_CAP .base
  | some tenant =>
      match tenant.settings.bind Settings.aiCopilot |>.bind AiCopilotSettings.dailyTokenCap with
      | some dailyTokenCap => dailyTokenCap
      | none => DEFAULT_DAILY_TOKEN_CAP tenant.plan

structure Usage where
  inputTokens : ℕ
  outputTokens : ℕ
  cacheCreationTokens : ℕ
  cacheReadTokens : ℕ
  deriving DecidableEq

def Usage.tokens (usage : Usage) : ℕ := usage.inputTokens + usage.outputTokens

structure CopilotCostCounter where
  inputTokens : ℕ
  outputTokens : ℕ
  cacheCreationTokens : ℕ
  cacheReadTokens : ℕ
  turnsCount : ℕ
  capRejectionsCount : ℕ
  deriving DecidableEq

namespace CopilotCostCounter

def create : CopilotCostCounter := ⟨0, 0, 0, 0, 0, 0⟩

def totalTokens (counter : CopilotCostCounter) : ℕ := counter.inputTokens + counter.outputTokens

def rejected (counter : CopilotCostCounter) : CopilotCostCounter :=
  { counter with capRejectionsCount := counter.capRejectionsCount + 1 }

def recordUsage (counter : CopilotCostCounter) (usage : Usage) : CopilotCostCounter :=
  { counter with
    inputTokens := counter.inputTokens + usage.inputTokens
    outputTokens := counter.outputTokens + usage.outputTokens
    cacheCreationTokens := counter.cacheCreationTokens + usage.cacheCreationTokens
    cacheReadTokens := counter.cacheReadTokens + usage.cacheReadTokens
    turnsCount := counter.turnsCount + 1 }

end CopilotCostCounter

/-! ## Steps of an ask -/

inductive Call where
  | started
  | missing
  | rejected (counter : CopilotCostCounter)
  | asking
  | answered (usage : Usage)
  | unrecorded (usage : Usage)
  | recording (usage : Usage) (counter : CopilotCostCounter)
  | completed (usage : Usage)
  | failed (used : Option Usage)
  deriving DecidableEq

inductive Move where
  | findOne
  | insert
  | send (usage : Option Usage)
  | save
  deriving DecidableEq

def assertWithinCap (tenant : Option Tenant) (counter : CopilotCostCounter) : Call :=
  if resolveDailyCap tenant ≤ counter.totalTokens then .rejected counter else .asking

def ask (tenant : Option Tenant) : Move → Option CopilotCostCounter → Call →
    Option (Option CopilotCostCounter × Call)
  | .findOne, row, .started => some (row, row.elim .missing (assertWithinCap tenant))
  | .insert, none, .missing => some (some .create, assertWithinCap tenant .create)
  -- There is one row for a tenant and a day.
  | .insert, some counter, .missing => some (some counter, .failed none)
  | .save, _, .rejected counter => some (some counter.rejected, .failed none)
  | .send usage, row, .asking => some (row, usage.elim (.failed none) .answered)
  | .findOne, row, .answered usage => some (row, row.elim (.unrecorded usage) (.recording usage))
  | .insert, none, .unrecorded usage => some (some .create, .recording usage .create)
  | .insert, some counter, .unrecorded usage => some (some counter, .failed (some usage))
  | .save, _, .recording usage counter => some (some (counter.recordUsage usage), .completed usage)
  | _, _, _ => none

namespace Call

def completedUsage : Call → Option Usage
  | completed usage => some usage
  | _ => none

def used : Call → Option Usage
  | answered usage | unrecorded usage | recording usage _ | completed usage => some usage
  | failed used => used
  | started | missing | rejected _ | asking => none

def tokens (call : Call) : ℕ := call.used.elim 0 Usage.tokens

def ended : Call → Bool
  | completed _ | failed _ => true
  | _ => false

def inFlight : Call → Bool
  | started | completed _ | failed _ => false
  | _ => true

def row : Call → Option CopilotCostCounter
  | rejected counter | recording _ counter => some counter
  | _ => none

end Call

section
variable {κ : Type} [DecidableEq κ] {tenant : Option Tenant} {s t u : Pool κ (Option CopilotCostCounter) Call}
  {moves : List (κ × Move)}

def stored (row : Option CopilotCostCounter) : CopilotCostCounter := row.getD .create

structure Opening (s : Pool κ (Option CopilotCostCounter) Call) : Prop where
  started : ∀ i, s.calls i = .started
  unused : s.shared = none ∨ s.shared = some .create

structure Accounted [Fintype κ] (s : Pool κ (Option CopilotCostCounter) Call) : Prop where
  inputTokens : (stored s.shared).inputTokens =
    ∑ i, (s.calls i).completedUsage.elim 0 Usage.inputTokens
  outputTokens : (stored s.shared).outputTokens =
    ∑ i, (s.calls i).completedUsage.elim 0 Usage.outputTokens
  turnsCount : (stored s.shared).turnsCount =
    (Finset.univ.filter fun i => (s.calls i).completedUsage.isSome).card

def consumption [Fintype κ] (s : Pool κ (Option CopilotCostCounter) Call) : ℕ := ∑ i, (s.calls i).tokens

/-- The run counts the tokens that reach the cap with a step that is taken from `u`. -/
def ReachesCap (tenant : Option Tenant) (s : Pool κ (Option CopilotCostCounter) Call)
    (moves : List (κ × Move)) (u : Pool κ (Option CopilotCostCounter) Call) : Prop :=
  ∃ before move after, moves = before ++ move :: after ∧ u = before.foldl (Pool.next (ask tenant)) s ∧
    (stored u.shared).totalTokens < resolveDailyCap tenant ∧
    resolveDailyCap tenant ≤ (stored (Pool.next (ask tenant) u move).shared).totalTokens

/-- Beyond the cap is consumed at most what the calls use that are in flight when it is reached; where it is
reached before the first call, nothing is. -/
def Limited [Fintype κ] (tenant : Option Tenant) (s : Pool κ (Option CopilotCostCounter) Call)
    (moves : List (κ × Move)) (t : Pool κ (Option CopilotCostCounter) Call) : Prop :=
  resolveDailyCap tenant ≤ consumption t → consumption t = 0 ∨
    ∃ u, ReachesCap tenant s moves u ∧
      consumption t - resolveDailyCap tenant ≤
        ∑ i ∈ Finset.univ.filter (fun i => (u.calls i).inFlight), ((t.calls i).tokens : ℚ)

/-- A call saves the row with the totals that are stored. -/
def Current (s : Pool κ (Option CopilotCostCounter) Call) (move : κ × Move) : Prop :=
  move.2 = .save → ∀ read ∈ (s.calls move.1).row,
    read.inputTokens = (stored s.shared).inputTokens ∧ read.outputTokens = (stored s.shared).outputTokens ∧
      read.turnsCount = (stored s.shared).turnsCount

/-! ## What is stored -/

def CopilotCostCounter.totals (counter : CopilotCostCounter) : ℕ × ℕ × ℕ :=
  (counter.inputTokens, counter.outputTokens, counter.turnsCount)

def Call.turn (call : Call) : ℕ × ℕ × ℕ :=
  call.completedUsage.elim 0 fun usage => (usage.inputTokens, usage.outputTokens, 1)

def Call.Fits (row : Option CopilotCostCounter) : Call → Prop
  | started | missing | failed none => True
  | unrecorded _ | failed (some _) => False
  | _ => row.isSome

structure Balanced [Fintype κ] (s : Pool κ (Option CopilotCostCounter) Call) : Prop where
  totals : (stored s.shared).totals = ∑ i, (s.calls i).turn
  fits : ∀ i, (s.calls i).Fits s.shared

omit [DecidableEq κ] in
theorem Current.totals {i : κ} (current : Current s (i, .save)) {read : CopilotCostCounter}
    (row : (s.calls i).row = some read) : read.totals = (stored s.shared).totals := by
  obtain ⟨inputTokens, outputTokens, turnsCount⟩ := current rfl read row
  unfold CopilotCostCounter.totals
  rw [inputTokens, outputTokens, turnsCount]

omit [DecidableEq κ] in
theorem Opening.balanced [Fintype κ] (opening : Opening s) : Balanced s := by
  constructor
  · have empty : (stored s.shared).totals = 0 := by
      rcases opening.unused with none | zero
      · rw [none]; rfl
      · rw [zero]; rfl
    rw [empty, Finset.sum_eq_zero fun i _ => ?_]
    rw [opening.started i]
    rfl
  · intro i
    rw [opening.started i]
    trivial

theorem Call.Fits.of_isSome {row row' : Option CopilotCostCounter} {call : Call} (fits : call.Fits row)
    (kept : row.isSome → row'.isSome) : call.Fits row' := by
  cases call with
  | failed used => cases used <;> exact fits
  | started | missing => trivial
  | unrecorded => exact fits
  | rejected | asking | answered | recording | completed => exact kept fits

theorem assertWithinCap_fits (counter : CopilotCostCounter) :
    (assertWithinCap tenant counter).Fits (some counter) := by
  unfold assertWithinCap
  split <;> rfl

theorem assertWithinCap_turn (counter : CopilotCostCounter) : (assertWithinCap tenant counter).turn = 0 := by
  unfold assertWithinCap
  split <;> rfl

theorem ask_gains {move : Move} {row row' : Option CopilotCostCounter} {call call' : Call} (fits : call.Fits row)
    (current : move = .save → ∀ read, call.row = some read → read.totals = (stored row).totals)
    (step : ask tenant move row call = some (row', call')) :
    ∃ gain, (stored row').totals = (stored row).totals + gain ∧ call'.turn = call.turn + gain := by
  unfold ask at step
  split at step <;> cases step
  case h_1 =>
    refine ⟨0, rfl, ?_⟩
    cases row with
    | none => rfl
    | some counter => exact assertWithinCap_turn counter
  case h_2 => exact ⟨0, rfl, assertWithinCap_turn _⟩
  case h_3 => exact ⟨0, rfl, rfl⟩
  case h_4 counter =>
    refine ⟨0, ?_, rfl⟩
    exact current rfl counter rfl
  case h_5 usage =>
    refine ⟨0, rfl, ?_⟩
    cases usage <;> rfl
  case h_6 =>
    refine ⟨0, rfl, ?_⟩
    cases row <;> rfl
  case h_7 => exact ⟨0, rfl, rfl⟩
  case h_8 => exact ⟨0, rfl, rfl⟩
  case h_9 usage counter =>
    refine ⟨(usage.inputTokens, usage.outputTokens, 1), ?_, ?_⟩
    · rw [← current rfl counter rfl]
      rfl
    · exact (zero_add _).symm

theorem ask_fits {move : Move} {row row' : Option CopilotCostCounter} {call call' : Call} (fits : call.Fits row)
    (step : ask tenant move row call = some (row', call')) :
    call'.Fits row' ∧ (row.isSome → row'.isSome) := by
  unfold ask at step
  split at step <;> cases step
  case h_1 =>
    cases row with
    | none => exact ⟨trivial, id⟩
    | some counter => exact ⟨assertWithinCap_fits counter, id⟩
  case h_2 => exact ⟨assertWithinCap_fits _, fun _ => rfl⟩
  case h_3 => exact ⟨trivial, id⟩
  case h_4 => exact ⟨trivial, fun _ => rfl⟩
  case h_5 usage =>
    cases usage with
    | none => exact ⟨trivial, id⟩
    | some usage => exact ⟨fits, id⟩
  case h_6 usage =>
    cases row with
    | none => cases fits
    | some counter => exact ⟨rfl, id⟩
  case h_7 => exact ⟨rfl, fun _ => rfl⟩
  case h_8 => exact ⟨fits, id⟩
  case h_9 => exact ⟨rfl, fun _ => rfl⟩

theorem Balanced.next [Fintype κ] (balanced : Balanced s) {move : κ × Move} (current : Current s move) :
    Balanced (Pool.next (ask tenant) s move) := by
  obtain ⟨i, a⟩ := move
  refine Pool.next_keeps Balanced balanced fun row call step => ?_
  obtain ⟨gain, adds, gains⟩ := ask_gains (balanced.fits i)
    (fun save read row => by subst save; exact current.totals row) step
  obtain ⟨fits, kept⟩ := ask_fits (balanced.fits i) step
  constructor
  · rw [adds, balanced.totals]
    exact (Pool.sum_update Call.turn gains).symm
  · refine (Function.forall_update_iff s.calls fun _ => Call.Fits row).mpr ⟨fits, fun j _ => ?_⟩
    exact (balanced.fits j).of_isSome kept

/-! ## After the cap is reached -/

def Call.Outside : Call → Prop
  | started | missing | rejected _ | failed none => True
  | _ => False

/-- From `u` on the cap is reached: what has ended stays so, and no call gets past the cap any more. -/
structure Closed (tenant : Option Tenant) (u s : Pool κ (Option CopilotCostCounter) Call) : Prop where
  reached : resolveDailyCap tenant ≤ (stored s.shared).totalTokens
  kept : ∀ i, (u.calls i).ended → s.calls i = u.calls i
  outside : ∀ i, u.calls i = .started → (s.calls i).Outside

theorem Call.Outside.tokens {call : Call} (outside : call.Outside) : call.tokens = 0 := by
  cases call with
  | started | missing | rejected | asking => rfl
  | failed used =>
      cases used with
      | none => rfl
      | some usage => cases outside
  | answered | unrecorded | recording | completed => cases outside

theorem assertWithinCap_outside {counter : CopilotCostCounter}
    (reached : resolveDailyCap tenant ≤ counter.totalTokens) : (assertWithinCap tenant counter).Outside := by
  unfold assertWithinCap
  rw [if_pos reached]
  trivial

theorem ask_outside {move : Move} {row row' : Option CopilotCostCounter} {call call' : Call}
    (reached : resolveDailyCap tenant ≤ (stored row).totalTokens) (outside : call.Outside)
    (step : ask tenant move row call = some (row', call')) : call'.Outside := by
  unfold ask at step
  split at step <;> cases step
  case h_1 =>
    cases row with
    | none => trivial
    | some counter => exact assertWithinCap_outside reached
  case h_2 => exact assertWithinCap_outside reached
  case h_3 => trivial
  case h_4 => trivial
  all_goals cases outside

theorem ask_of_ended {move : Move} {row : Option CopilotCostCounter} {call : Call} (ended : call.ended) :
    ask tenant move row call = none := by
  cases call with
  | completed | failed => cases move <;> cases row <;> rfl
  | started | missing | rejected | asking | answered | unrecorded | recording => cases ended

theorem totalTokens_mono {row row' : Option CopilotCostCounter} {gain : ℕ × ℕ × ℕ}
    (adds : (stored row').totals = (stored row).totals + gain) :
    (stored row).totalTokens ≤ (stored row').totalTokens := by
  have input : (stored row').inputTokens = (stored row).inputTokens + gain.1 := congrArg Prod.fst adds
  have output : (stored row').outputTokens = (stored row).outputTokens + gain.2.1 :=
    congrArg (fun totals => totals.2.1) adds
  unfold CopilotCostCounter.totalTokens
  omega

theorem Closed.next [Fintype κ] (closed : Closed tenant u s) (balanced : Balanced s) {move : κ × Move}
    (current : Current s move) : Closed tenant u (Pool.next (ask tenant) s move) := by
  obtain ⟨i, a⟩ := move
  refine Pool.next_keeps (Closed tenant u) closed fun row call step => ?_
  obtain ⟨gain, adds, -⟩ := ask_gains (balanced.fits i)
    (fun save read row => by subst save; exact current.totals row) step
  constructor
  · have grows := totalTokens_mono adds
    exact closed.reached.trans (by exact_mod_cast grows)
  · refine (Function.forall_update_iff s.calls fun j call => (u.calls j).ended → call = u.calls j).mpr
      ⟨fun ended => ?_, fun j _ => closed.kept j⟩
    rw [closed.kept i ended, ask_of_ended ended] at step
    cases step
  · refine (Function.forall_update_iff s.calls fun j call => u.calls j = .started → call.Outside).mpr
      ⟨fun started => ?_, fun j _ => closed.outside j⟩
    exact ask_outside closed.reached (closed.outside i started) step

theorem Call.tokens_of_ended {call : Call} {row : Option CopilotCostCounter} (fits : call.Fits row)
    (ended : call.ended) : call.tokens = call.turn.1 + call.turn.2.1 := by
  cases call with
  | completed => rfl
  | failed used =>
      cases used with
      | none => rfl
      | some usage => cases fits
  | started | missing | rejected | asking | answered | unrecorded | recording => cases ended

omit [DecidableEq κ] in
theorem Balanced.tokens [Fintype κ] (balanced : Balanced s) :
    (stored s.shared).totalTokens = ∑ i, ((s.calls i).turn.1 + (s.calls i).turn.2.1) := by
  have input := congrArg Prod.fst balanced.totals
  have output := congrArg (fun totals => totals.2.1) balanced.totals
  rw [Prod.fst_sum] at input
  simp only [Prod.snd_sum, Prod.fst_sum] at output
  rw [Finset.sum_add_distrib, ← input, ← output]
  rfl

omit [DecidableEq κ] in
/-- What calls use that are not in flight at `u` was counted there. -/
theorem Closed.consumption_le [Fintype κ] (closed : Closed tenant u t) (balanced : Balanced u) :
    consumption t ≤ (stored u.shared).totalTokens +
      ∑ i ∈ Finset.univ.filter (fun i => (u.calls i).inFlight), (t.calls i).tokens := by
  have counted : ∑ i ∈ Finset.univ.filter (fun i => ¬(u.calls i).inFlight), (t.calls i).tokens ≤
      (stored u.shared).totalTokens := by
    rw [balanced.tokens]
    refine (Finset.sum_le_sum fun i mem => ?_).trans (Finset.sum_le_sum_of_subset (Finset.filter_subset _ _))
    have landed := (Finset.mem_filter.mp mem).2
    cases call : u.calls i with
    | started =>
        rw [(closed.outside i call).tokens]
        exact Nat.zero_le _
    | completed | failed =>
        have ended : (u.calls i).ended := by rw [call]; rfl
        rw [closed.kept i ended, ← call]
        exact (Call.tokens_of_ended (balanced.fits i) ended).le
    | missing | rejected | asking | answered | unrecorded | recording =>
        rw [call] at landed
        exact absurd rfl landed
  have split := Finset.sum_filter_add_sum_filter_not Finset.univ (fun i => (u.calls i).inFlight = true)
    fun i => (t.calls i).tokens
  unfold consumption
  omega

omit [DecidableEq κ] in
theorem Balanced.accounted [Fintype κ] (balanced : Balanced s) : Accounted s := by
  have input := congrArg Prod.fst balanced.totals
  have output := congrArg (fun totals => totals.2.1) balanced.totals
  have turns := congrArg (fun totals => totals.2.2) balanced.totals
  rw [Prod.fst_sum] at input
  simp only [Prod.snd_sum, Prod.fst_sum] at output turns
  constructor
  · refine input.trans (Finset.sum_congr rfl fun i _ => ?_)
    unfold Call.turn
    cases (s.calls i).completedUsage <;> rfl
  · refine output.trans (Finset.sum_congr rfl fun i _ => ?_)
    unfold Call.turn
    cases (s.calls i).completedUsage <;> rfl
  · rw [Finset.card_filter]
    refine turns.trans (Finset.sum_congr rfl fun i _ => ?_)
    unfold Call.turn
    cases (s.calls i).completedUsage <;> rfl

omit [DecidableEq κ] in
theorem Balanced.consumption_eq [Fintype κ] (balanced : Balanced s) (ended : ∀ i, (s.calls i).ended) :
    consumption s = (stored s.shared).totalTokens := by
  rw [balanced.tokens]
  exact Finset.sum_congr rfl fun i _ => Call.tokens_of_ended (balanced.fits i) (ended i)

omit [DecidableEq κ] in
theorem Closed.refl (reached : resolveDailyCap tenant ≤ (stored s.shared).totalTokens) : Closed tenant s s := by
  refine ⟨reached, fun i _ => rfl, fun i started => ?_⟩
  rw [started]
  trivial

theorem ask_started {move : Move} {row row' : Option CopilotCostCounter} {call : Call}
    (step : ask tenant move row .started = some (row', call)) : row' = row := by
  cases move with
  | findOne => cases step; rfl
  | insert => cases row <;> cases step
  | send | save => cases step

theorem Closed.of_crossing {move : κ × Move} (low : (stored u.shared).totalTokens < resolveDailyCap tenant)
    (reached : resolveDailyCap tenant ≤ (stored (Pool.next (ask tenant) u move).shared).totalTokens) :
    Closed tenant u (Pool.next (ask tenant) u move) := by
  obtain ⟨i, a⟩ := move
  refine ⟨reached, fun j ended => ?_, fun j started => ?_⟩
  · refine Pool.next_keeps (fun v => v.calls j = u.calls j) rfl fun row call step => ?_
    by_cases here : j = i
    · subst here
      rw [ask_of_ended ended] at step
      cases step
    · exact Function.update_of_ne here call u.calls
  · have moved : j ≠ i := by
      rintro rfl
      refine absurd (lt_of_lt_of_le low reached) ?_
      refine Pool.next_keeps (fun v => ¬((stored u.shared).totalTokens : ℚ) < (stored v.shared).totalTokens)
        (lt_irrefl _) fun row call step => ?_
      rw [started] at step
      rw [ask_started step]
      exact lt_irrefl _
    refine Pool.next_keeps (fun v => Call.Outside (v.calls j)) ?_ fun row call _ => ?_
    · rw [started]
      trivial
    · change (Function.update u.calls i call j).Outside
      rw [Function.update_of_ne moved, started]
      trivial

omit [DecidableEq κ] in
theorem Opening.tokens (opening : Opening s) : (stored s.shared).totalTokens = 0 := by
  rcases opening.unused with none | zero
  · rw [none]; rfl
  · rw [zero]; rfl

/-- A counter that is saved on the totals it was read with counts every completed turn, and with it the cap
holds up to the calls in flight when it is reached. -/
theorem tokens_accounted [Fintype κ] (opening : Opening s)
    (run : Run Current (Pool.next (ask tenant)) s moves t) (ended : ∀ i, (t.calls i).ended) :
    Accounted t ∧ Limited tenant s moves t := by
  have balanced : ∀ {moves t}, Run Current (Pool.next (ask tenant)) s moves t → Balanced t := fun run =>
    run.invariant Balanced opening.balanced fun _ _ balanced current => balanced.next current
  have closed : ∀ {u v after}, Closed tenant u v → Balanced v → Run Current (Pool.next (ask tenant)) v after t →
      Closed tenant u t := fun {u v _} start balanced run =>
    (run.invariant (fun v => Closed tenant u v ∧ Balanced v) ⟨start, balanced⟩
      fun _ _ both current => ⟨both.1.next both.2 current, both.2.next current⟩).1
  refine ⟨(balanced run).accounted, fun beyond => ?_⟩
  by_cases early : resolveDailyCap tenant ≤ (stored s.shared).totalTokens
  · left
    have bound := (closed (.refl early) opening.balanced run).consumption_le opening.balanced
    rw [opening.tokens, Finset.sum_eq_zero] at bound
    · exact Nat.le_zero.mp bound
    · intro i mem
      have landed := (Finset.mem_filter.mp mem).2
      rw [opening.started i] at landed
      cases landed
  · right
    rw [(balanced run).consumption_eq ended] at beyond
    obtain ⟨before, move, after, u, rfl, run₁, current, low, reached, run₂⟩ :=
      run.crossing (fun v => resolveDailyCap tenant ≤ (stored v.shared).totalTokens) early beyond
    rw [not_le] at low
    refine ⟨u, ⟨before, move, after, rfl, run₁.eq_foldl, low, reached⟩, ?_⟩
    have bound := (closed (.of_crossing low reached) ((balanced run₁).next current) run₂).consumption_le
      (balanced run₁)
    have cast : (consumption t : ℚ) ≤ (stored u.shared).totalTokens +
        ∑ i ∈ Finset.univ.filter (fun i => (u.calls i).inFlight), ((t.calls i).tokens : ℚ) := by
      exact_mod_cast bound
    linarith

end

instance {κ : Type} (s : Pool κ (Option CopilotCostCounter) Call) (move : κ × Move) : Decidable (Current s move) :=
  inferInstanceAs (Decidable (_ → ∀ read ∈ _, _ ∧ _ ∧ _))

def beginning : Pool Bool (Option CopilotCostCounter) Call := ⟨none, fun _ => .started⟩

def usages : Bool → Usage
  | false => ⟨30, 24, 0, 0⟩
  | true => ⟨50, 24, 0, 1⟩

/-- Both get past the cap before either is answered, and record what they used one after the other. -/
def inTurn : List (Bool × Move) :=
  [(false, .findOne), (false, .insert), (true, .findOne), (false, .send (usages false)),
    (true, .send (usages true)), (false, .findOne), (false, .save), (true, .findOne), (true, .save)]

def capped : Tenant := ⟨.base, some ⟨some ⟨some 50⟩⟩⟩

theorem tokens_accounted_inTurn :
    Accounted (inTurn.foldl (Pool.next (ask capped)) beginning) ∧
      Limited capped beginning inTurn (inTurn.foldl (Pool.next (ask capped)) beginning) :=
  tokens_accounted ⟨fun _ => rfl, .inl rfl⟩ (Run.ofAllMet (by decide)) (by decide)

/-- Both read the counter again before either saves it. -/
def atOnce : List (Bool × Move) :=
  [(false, .findOne), (false, .insert), (true, .findOne), (false, .send (usages false)),
    (true, .send (usages true)), (false, .findOne), (true, .findOne), (false, .save), (true, .save)]

theorem usage_lost : ¬∀ moves : List (Bool × Move),
    (∀ i, ((moves.foldl (Pool.next (ask none)) beginning).calls i).ended) →
      Accounted (moves.foldl (Pool.next (ask none)) beginning) := by
  intro accounted
  have turns := (accounted atOnce (by decide)).turnsCount
  revert turns
  decide

end Copilot
end SmartErp.AiCopilot
