import SmartErp.Foundations.Revisions
import SmartErp.Hr.Attendance
import Mathlib.Data.List.Sort

/-!
# The roster

`employee.service.ts` and `employee.fsm.ts`, by calls that overlap. Of an employee the columns are modelled that
the service reads or that its state machine writes.
-/

namespace SmartErp.Hr.Employees
open Foundations Foundations.Editing

inductive EmployeeStatus where
  | prospect
  | onboarding
  | active
  | terminated
  deriving DecidableEq

namespace EmployeeStatus

def text : EmployeeStatus → String
  | prospect => "prospect"
  | onboarding => "onboarding"
  | active => "active"
  | terminated => "terminated"

def TRANSITIONS : EmployeeStatus → List EmployeeStatus
  | prospect => [onboarding, terminated]
  | onboarding => [active, terminated]
  | active => [terminated]
  | terminated => []

end EmployeeStatus

/-- Days of a column of type `date` count from 1 January 1970. -/
structure Employee where
  id : Uuid
  tenantId : Uuid
  employeeNumber : String
  fiscalCode : Option String
  hireDate : Option ℤ
  terminationDate : Option ℤ := none
  terminationReason : Option String := none
  status : EmployeeStatus := .prospect
  createdAt : Instant
  deriving DecidableEq

namespace Employee

def key (e : Employee) : Uuid := e.id

/-- The number is unique in the tenant. -/
def index (e : Employee) : Uuid × String := (e.tenantId, e.employeeNumber)

/-- So is the fiscal code, where there is one. -/
def SharesFiscalCode (e e' : Employee) : Prop :=
  e.tenantId = e'.tenantId ∧ e.fiscalCode ≠ none ∧ e.fiscalCode = e'.fiscalCode
  deriving Decidable

end Employee

abbrev Rows := Table Employee.key

structure CreateEmployeeDto where
  fiscalCode : Option String := none
  hireDate : Option String := none

/-- `none` where the field is left out, `some none` where it is null. -/
structure UpdateEmployeeDto where
  fiscalCode : Option (Option String) := none

/-! ## Operations -/

/-- `/EMP-(\d+)/.exec(s)`, and of a match the digits -/
def execNumber : List Char → Option (List Char)
  | 'E' :: 'M' :: 'P' :: '-' :: c :: cs =>
      if c.isDigit then some ((c :: cs).takeWhile Char.isDigit) else execNumber ('M' :: 'P' :: '-' :: c :: cs)
  | _ :: cs => execNumber cs
  | [] => none

def padStart (s : List Char) : List Char := List.replicate (4 - s.length) '0' ++ s

def numberText (n : ℕ) : String := String.ofList ("EMP-".toList ++ padStart (Nat.toDigits 10 n))

def nextEmployeeNumber (rows : Rows) (scan : Scan Employee) (tenantId : Uuid) : Except Failure String :=
  let found := (scan.order (rows.rows.filter (·.tenantId = tenantId))).insertionSort fun a b => b.createdAt.ms ≤ a.createdAt.ms
  match found.head? with
  | none => .ok "EMP-0001"
  | some last =>
      match execNumber last.employeeNumber.toList with
      | none => .error (.badRequest "Cannot derive next employee number — non-standard format in tenant")
      | some digits => .ok (numberText (Nat.ofDigitChars 10 digits 0 + 1))

def holder (rows : Rows) (tenantId : Uuid) (code : String) : Option Employee :=
  rows.rows.find? fun e => e.tenantId = tenantId ∧ e.fiscalCode = some code

def taken (code : String) : Failure := .conflict s!"Employee with fiscalCode '{code}' already exists in tenant"

structure Drawn where
  id : Uuid
  createdAt : Instant
  scan : Scan Employee

/-- `text ? new Date(text) : otherwise`, for a column of type `date` -/
def storedDate (readDate : String → Option Instant) (text : Option String) (otherwise : Option ℤ) : Except Failure (Option ℤ) :=
  match text.getD "" with
  | "" => .ok otherwise
  | s => do
      let t ← require (readDate s) (.database "invalid input syntax for type date: \"NaN-NaN-NaN\"")
      return some (t.ms / 86400000)

variable (readDate : String → Option Instant)

def create (tenantId : Uuid) (dto : CreateEmployeeDto) (drawn : Drawn) (rows : Rows) : Except Failure Employee := do
  let employeeNumber ← nextEmployeeNumber rows drawn.scan tenantId
  let code := dto.fiscalCode.getD ""
  ensure (code = "" ∨ holder rows tenantId code = none) (taken code)
  let hireDate ← storedDate readDate dto.hireDate none
  return {
    id := drawn.id
    tenantId
    employeeNumber
    fiscalCode := dto.fiscalCode
    hireDate
    createdAt := drawn.createdAt }

def checkFiscalCode (dto : UpdateEmployeeDto) (rows : Rows) (e : Employee) : Except Failure Unit :=
  match dto.fiscalCode.join.getD "" with
  | "" => .ok ()
  | code =>
      if some code = e.fiscalCode then .ok ()
      else match holder rows e.tenantId code with
        | none => .ok ()
        | some dup => ensure (dup.id = e.id) (taken code)

def update (dto : UpdateEmployeeDto) (rows : Rows) (e : Employee) : Except Failure Employee := do
  checkFiscalCode dto rows e
  return { e with fiscalCode := dto.fiscalCode.getD e.fiscalCode }

def canEmployeeTransition (source target : EmployeeStatus) : Bool := target ∈ source.TRANSITIONS

def assertEmployeeTransition (source target : EmployeeStatus) : Except Failure Unit :=
  ensure (canEmployeeTransition source target)
    (.error s!"Invalid Employee transition: {source.text} → {target.text}")

def transitionStatus (next : EmployeeStatus) (apply : Employee → Except Failure Employee) (e : Employee) :
    Except Failure Employee := do
  ensure (canEmployeeTransition e.status next)
    (.unprocessable s!"Invalid Employee transition: {e.status.text} → {next.text}")
  assertEmployeeTransition e.status next
  let e ← apply e
  return { e with status := next }

def startOnboarding (hireDate : Option String) : Employee → Except Failure Employee :=
  transitionStatus .onboarding fun e => do
    let hireDate ← storedDate readDate hireDate e.hireDate
    return { e with hireDate }

/-- Without a date, the day on which the call is made. -/
def activate (hireDate : Option String) (now : Instant) : Employee → Except Failure Employee :=
  transitionStatus .active fun e => do
    let hireDate ← storedDate readDate hireDate e.hireDate
    return { e with hireDate := some (hireDate.getD (now.ms / 86400000)) }

def terminate (terminationDate terminationReason : String) : Employee → Except Failure Employee :=
  transitionStatus .terminated fun e => do
    let t ← require (readDate terminationDate) (.database "invalid input syntax for type date: \"NaN-NaN-NaN\"")
    return { e with terminationDate := some (t.ms / 86400000), terminationReason := some terminationReason }

inductive Action where
  | update (dto : UpdateEmployeeDto)
  | startOnboarding (hireDate : Option String)
  | activate (hireDate : Option String) (now : Instant)
  | terminate (terminationDate terminationReason : String)

structure Taken where
  tenantId : Uuid
  action : Action

def Taken.edit (taken : Taken) (rows : Rows) (e : Employee) : Except Failure Employee := do
  ensure (e.tenantId = taken.tenantId) (.notFound s!"Employee {e.id} not found")
  match taken.action with
  | .update dto => update dto rows e
  | .startOnboarding hireDate => startOnboarding readDate hireDate e
  | .activate hireDate now => activate readDate hireDate now e
  | .terminate terminationDate terminationReason => terminate readDate terminationDate terminationReason e

/-! ## What an action does -/

def Effect : Action → Employee → Employee → Prop
  | .update dto, e, e' => e' = { e with fiscalCode := dto.fiscalCode.getD e.fiscalCode }
  | .startOnboarding _, e, e' => .onboarding ∈ e.status.TRANSITIONS ∧ ∃ day, e' = { e with
      hireDate := day
      status := .onboarding }
  | .activate _ _, e, e' => .active ∈ e.status.TRANSITIONS ∧ ∃ day, e' = { e with
      hireDate := some day
      status := .active }
  | .terminate _ reason, e, e' => .terminated ∈ e.status.TRANSITIONS ∧ ∃ day, e' = { e with
      terminationDate := some day
      terminationReason := some reason
      status := .terminated }

variable {readDate}

theorem transitionStatus_eq_ok {next : EmployeeStatus} {apply : Employee → Except Failure Employee} {e e' : Employee}
    (ok : transitionStatus next apply e = .ok e') :
    next ∈ e.status.TRANSITIONS ∧ ∃ e₁, apply e = .ok e₁ ∧ e' = { e₁ with status := next } := by
  simp only [transitionStatus, assertEmployeeTransition, canEmployeeTransition, bind_eq_ok, ensure_eq_ok, pure_eq_ok,
    decide_eq_true_eq, exists_and_left, exists_const] at ok
  obtain ⟨can, -, e₁, applied, rfl⟩ := ok
  exact ⟨can, e₁, applied, rfl⟩

theorem effect_of_edit {taken : Taken} {rows : Rows} {e e' : Employee} (ok : taken.edit readDate rows e = .ok e') :
    e.tenantId = taken.tenantId ∧ Effect taken.action e e' := by
  obtain ⟨tenantId, action⟩ := taken
  simp only [Taken.edit, bind_eq_ok, ensure_eq_ok, exists_and_left, exists_const] at ok
  obtain ⟨own, ok⟩ := ok
  refine ⟨own, ?_⟩
  cases action with
  | update dto =>
      obtain ⟨-, -, made⟩ := bind_eq_ok.mp ok
      exact (pure_eq_ok.mp made).symm
  | startOnboarding hireDate =>
      obtain ⟨can, e₁, applied, rfl⟩ := transitionStatus_eq_ok ok
      obtain ⟨day, -, made⟩ := bind_eq_ok.mp applied
      cases pure_eq_ok.mp made
      exact ⟨can, day, rfl⟩
  | activate hireDate now =>
      obtain ⟨can, e₁, applied, rfl⟩ := transitionStatus_eq_ok ok
      obtain ⟨day, -, made⟩ := bind_eq_ok.mp applied
      cases pure_eq_ok.mp made
      exact ⟨can, _, rfl⟩
  | terminate terminationDate reason =>
      obtain ⟨can, e₁, applied, rfl⟩ := transitionStatus_eq_ok ok
      obtain ⟨day, -, made⟩ := bind_eq_ok.mp applied
      cases pure_eq_ok.mp made
      exact ⟨can, _, rfl⟩

def Employee.fixed (e : Employee) : Uuid × Uuid × String × Instant := (e.id, e.tenantId, e.employeeNumber, e.createdAt)

theorem Effect.fixed {action : Action} {e e' : Employee} (effect : Effect action e e') : e'.fixed = e.fixed := by
  cases action with
  | update => rw [effect]; rfl
  | startOnboarding => obtain ⟨-, day, rfl⟩ := effect; rfl
  | activate => obtain ⟨-, day, rfl⟩ := effect; rfl
  | terminate => obtain ⟨-, day, rfl⟩ := effect; rfl

/-- The dates that the status asks for are there, and no others. -/
structure WellFormed (e : Employee) : Prop where
  hired : e.status = .active → e.hireDate ≠ none
  ended : e.status = .terminated → e.terminationDate ≠ none ∧ e.terminationReason ≠ none
  going : e.status ≠ .terminated → e.terminationDate = none ∧ e.terminationReason = none

theorem Effect.wellFormed {action : Action} {e e' : Employee} (effect : Effect action e e') (wellFormed : WellFormed e) :
    WellFormed e' := by
  have before {next : EmployeeStatus} (can : next ∈ e.status.TRANSITIONS) : e.status ≠ .terminated := by
    intro ended
    rw [ended] at can
    cases can
  cases action with
  | update =>
      subst effect
      exact ⟨wellFormed.hired, wellFormed.ended, wellFormed.going⟩
  | startOnboarding =>
      obtain ⟨can, day, rfl⟩ := effect
      exact ⟨by simp, by simp, fun _ => wellFormed.going (before can)⟩
  | activate =>
      obtain ⟨can, day, rfl⟩ := effect
      exact ⟨fun _ => Option.some_ne_none _, by simp, fun _ => wellFormed.going (before can)⟩
  | terminate =>
      obtain ⟨can, day, rfl⟩ := effect
      exact ⟨by simp, fun _ => ⟨Option.some_ne_none _, Option.some_ne_none _⟩, fun going => absurd rfl going⟩

/-! ## Histories -/

def Action.target : Action → Option EmployeeStatus
  | update _ => none
  | startOnboarding _ => some .onboarding
  | activate _ _ => some .active
  | terminate _ _ => some .terminated

def histories : EmployeeStatus → List (List EmployeeStatus)
  | .prospect => [[]]
  | .onboarding => [[.onboarding]]
  | .active => [[.onboarding, .active]]
  | .terminated => [[.terminated], [.onboarding, .terminated], [.onboarding, .active, .terminated]]

theorem histories_step {source target : EmployeeStatus} (can : target ∈ source.TRANSITIONS) {history : List EmployeeStatus}
    (mem : history ∈ histories source) : history ++ [target] ∈ histories target := by
  cases source <;> simp only [EmployeeStatus.TRANSITIONS, List.mem_cons, List.not_mem_nil, or_false] at can
  all_goals
    simp only [histories, List.mem_cons, List.not_mem_nil, or_false] at mem
    subst mem
    rcases can with rfl | rfl <;> decide

theorem Effect.history {action : Action} {e e' : Employee} (effect : Effect action e e') {history : List EmployeeStatus}
    (mem : history ∈ histories e.status) : history ++ action.target.toList ∈ histories e'.status := by
  cases action with
  | update =>
      rw [effect]
      exact (List.append_nil history).symm ▸ mem
  | startOnboarding => obtain ⟨can, day, rfl⟩ := effect; exact histories_step can mem
  | activate => obtain ⟨can, day, rfl⟩ := effect; exact histories_step can mem
  | terminate => obtain ⟨can, day, rfl⟩ := effect; exact histories_step can mem

/-! ## Numbers -/

theorem digits_padStart (n : ℕ) : ∀ c ∈ padStart (Nat.toDigits 10 n), c.isDigit = true := by
  intro c mem
  rcases List.mem_append.mp mem with zero | digit
  · rw [(List.mem_replicate.mp zero).2]
    rfl
  · exact Nat.isDigit_of_mem_toDigits (by decide) (by decide) digit

theorem execNumber_numberText (n : ℕ) : execNumber (numberText n).toList = some (padStart (Nat.toDigits 10 n)) := by
  have digits := digits_padStart n
  rw [numberText, String.toList_ofList]
  cases padded : padStart (Nat.toDigits 10 n) with
  | nil => 
      have length := congrArg List.length padded
      simp [padStart] at length
  | cons c cs =>
      rw [padded] at digits
      have first : c.isDigit = true := digits c List.mem_cons_self
      change execNumber ('E' :: 'M' :: 'P' :: '-' :: c :: cs) = _
      rw [execNumber, if_pos first, List.takeWhile_eq_self_iff.mpr digits]

theorem ofDigitChars_padStart (n : ℕ) : Nat.ofDigitChars 10 (padStart (Nat.toDigits 10 n)) 0 = n := by
  rw [padStart, Nat.ofDigitChars_append, Nat.ofDigitChars_replicate_zero, Nat.mul_zero, Nat.ofDigitChars_ten_toDigits]

theorem nextEmployeeNumber_eq_ok {rows : Rows} {scan : Scan Employee} {tenantId : Uuid} {number : String}
    (ok : nextEmployeeNumber rows scan tenantId = .ok number) : number = numberText 1 ∨
      ∃ last ∈ rows.rows, last.tenantId = tenantId ∧ ∃ digits, execNumber last.employeeNumber.toList = some digits ∧
        number = numberText (Nat.ofDigitChars 10 digits 0 + 1) := by
  unfold nextEmployeeNumber at ok
  dsimp only at ok
  split at ok
  · cases ok
    exact .inl (by decide)
  · next last found =>
      have mem := List.mem_of_head? found
      rw [List.mem_insertionSort, Scan.mem, List.mem_filter, decide_eq_true_eq] at mem
      split at ok
      · cases ok
      · next digits executed =>
          cases ok
          exact .inr ⟨last, mem.1, mem.2, digits, executed, rfl⟩

/-! ## Calls -/

variable (readDate) in
def desk : Editing Taken Failure Employee.key where
  edit taken rows := taken.edit readDate rows
  key_edit ok := congrArg Prod.fst (effect_of_edit ok).2.fixed
  missing id := .notFound s!"Employee {id} not found"
  apart e e' := e.index ≠ e'.index ∧ ¬ e.SharesFiscalCode e' ∧ ¬ e'.SharesFiscalCode e
  apart_comm e e' := by
    rw [decide_eq_decide, ne_comm, and_congr_right_iff]
    exact fun _ => and_comm
  collision := .database "duplicate key value violates unique constraint"

inductive Call where
  | create (tenantId : Uuid) (dto : CreateEmployeeDto) (drawn : Drawn)
  | act (id : Uuid) (taken : Taken)

variable (readDate) in
def Call.request : Call → Request Taken Failure Employee.key
  | create tenantId dto drawn => .insert (Employees.create readDate tenantId dto drawn)
  | act id taken => .edit id taken

theorem request_eq_edit {call : Call} {id : Uuid} {taken : Taken} (request : call.request readDate = .edit id taken) :
    call = .act id taken := by
  cases call with
  | create => cases request
  | act => cases request; rfl

theorem request_eq_insert {call : Call} {make : Rows → Except Failure Employee}
    (request : call.request readDate = .insert make) :
    ∃ tenantId dto drawn, call = .create tenantId dto drawn ∧ make = create readDate tenantId dto drawn := by
  cases call with
  | create tenantId dto drawn => cases request; exact ⟨tenantId, dto, drawn, rfl, rfl⟩
  | act => cases request

theorem create_eq_ok {tenantId : Uuid} {dto : CreateEmployeeDto} {drawn : Drawn} {rows : Rows} {e : Employee}
    (ok : create readDate tenantId dto drawn rows = .ok e) :
    nextEmployeeNumber rows drawn.scan tenantId = .ok e.employeeNumber ∧ e.tenantId = tenantId ∧ e.status = .prospect ∧
      WellFormed e := by
  simp only [create, bind_eq_ok, ensure_eq_ok, pure_eq_ok] at ok
  obtain ⟨number, next, -, -, -, -, rfl⟩ := ok
  exact ⟨next, rfl, rfl, by simp, by simp, fun _ => ⟨rfl, rfl⟩⟩

section
variable {ι : Type} {calls : ι → Call}

theorem numbering : (desk readDate).Numbering (fun i => (calls i).request readDate) Employee.index
    (fun n => numberText (n + 1)) where
  kept taken e e' edits := by
    obtain ⟨rows, ok⟩ := edits
    have fixed := (effect_of_edit ok).2.fixed
    simp only [Employee.fixed, Prod.mk.injEq] at fixed
    exact Prod.ext fixed.2.1 fixed.2.2.1
  apart e e' apart := (of_decide_eq_true apart).1
  drawn i make rows e request made gapless := by
    obtain ⟨tenantId, dto, drawn, -, rfl⟩ := request_eq_insert request
    obtain ⟨next, rfl, -, -⟩ := create_eq_ok made
    rcases nextEmployeeNumber_eq_ok next with first | ⟨last, row, own, digits, executed, number⟩
    · exact ⟨0, Nat.zero_le _, first⟩
    · have mem : last.employeeNumber ∈ used Employee.index rows e.tenantId :=
        mem_used.mpr ⟨last, row, Prod.ext own rfl⟩
      obtain ⟨n, small, eq⟩ := List.mem_map.mp (gapless.mem_iff.mp mem)
      rw [← eq, execNumber_numberText, Option.some_inj] at executed
      rw [← executed, ofDigitChars_padStart] at number
      exact ⟨n + 1, List.mem_range.mp small, number⟩

theorem lineage_of_replays {e₀ e : Employee} {actions : List Taken} (new : e₀.status = .prospect)
    (wellFormed : WellFormed e₀) (replays : (desk readDate).Replays e₀ actions e) : e.fixed = e₀.fixed ∧ WellFormed e ∧
      (∀ taken ∈ actions, taken.tenantId = e₀.tenantId) ∧
      actions.filterMap (·.action.target) ∈ histories e.status := by
  induction replays with
  | nil => exact ⟨rfl, wellFormed, List.forall_mem_nil _, by rw [new]; exact List.mem_singleton_self _⟩
  | @snoc e₁ e₂ es taken _ last ih =>
      obtain ⟨fixed, good, own, history⟩ := ih
      obtain ⟨rows, ok⟩ := last
      obtain ⟨tenant, effect⟩ := effect_of_edit ok
      refine ⟨effect.fixed.trans fixed, effect.wellFormed good, fun taken' mem => ?_, ?_⟩
      · rcases List.mem_append.mp mem with old | here
        · exact own taken' old
        · rw [List.mem_singleton.mp here, ← tenant]
          exact congrArg (·.2.1) fixed
      · rw [List.filterMap_append, show [taken].filterMap (·.action.target) = taken.action.target.toList by
          cases target : taken.action.target <;> simp [target]]
        exact effect.history history

theorem acts_of_requests {js : List ι} {id : Uuid} {actions : List Taken}
    (eq : js.map (fun i => (calls i).request readDate) = actions.map (.edit id)) : js.map calls = actions.map (.act id) := by
  induction actions generalizing js with
  | nil => rw [List.map_eq_nil_iff.mp eq, List.map_nil, List.map_nil]
  | cons taken actions ih =>
      obtain ⟨j, js, rfl, first, others⟩ := List.map_eq_cons_iff.mp eq
      rw [List.map_cons, List.map_cons, request_eq_edit first, ih others]

variable (readDate calls) in
/-- A row goes back to one call, and then to actions of its tenant that the state machine allows, saved in turn. -/
structure Recorded (log : List ι) (e : Employee) : Prop where
  wellFormed : WellFormed e
  origin : ∃ i js tenantId dto drawn rows e₀, ∃ actions : List Taken, (i :: js).Sublist log ∧ calls i = .create tenantId dto drawn ∧
    create readDate tenantId dto drawn rows = .ok e₀ ∧ e.fixed = e₀.fixed ∧ js.map calls = actions.map (.act e.id) ∧
    (∀ taken ∈ actions, taken.tenantId = e.tenantId) ∧ actions.filterMap (·.action.target) ∈ histories e.status

theorem recorded_of_lineage {log : List ι} {e : Employee} {actions : List Taken}
    (lineage : (desk readDate).Lineage (fun i => (calls i).request readDate) log e actions) :
    Recorded readDate calls log e := by
  obtain ⟨before, i, after, e₀, rfl, ⟨make, rows, request, made⟩, -, sub, replays⟩ := lineage
  obtain ⟨tenantId, dto, drawn, call, rfl⟩ := request_eq_insert request
  obtain ⟨-, -, new, good⟩ := create_eq_ok made
  obtain ⟨fixed, wellFormed, own, history⟩ := lineage_of_replays new good replays
  obtain ⟨js, sub', eq⟩ := calls_of_sublist sub
  have tenant : e₀.tenantId = e.tenantId := (congrArg (·.2.1) fixed).symm
  exact ⟨wellFormed, i, js, tenantId, dto, drawn, rows, e₀, actions,
    (sub'.cons_cons i).trans (List.sublist_append_right _ _), call, made, fixed, acts_of_requests eq, tenant ▸ own, history⟩

def Continues (e e' : Employee) : Prop :=
  e'.fixed = e.fixed ∧ (e.status = .terminated → e'.status = .terminated ∧ e'.terminationDate = e.terminationDate ∧
    e'.terminationReason = e.terminationReason ∧ e'.hireDate = e.hireDate)

theorem Effect.continues {action : Action} {e e' : Employee} (effect : Effect action e e') : Continues e e' := by
  refine ⟨effect.fixed, fun ended => ?_⟩
  have closed (next : EmployeeStatus) : next ∉ e.status.TRANSITIONS := by
    rw [ended]
    exact List.not_mem_nil
  cases action with
  | update =>
      subst effect
      exact ⟨ended, rfl, rfl, rfl⟩
  | startOnboarding => exact absurd effect.1 (closed _)
  | activate => exact absurd effect.1 (closed _)
  | terminate => exact absurd effect.1 (closed _)

theorem Continues.trans {e e' e'' : Employee} (first : Continues e e') (second : Continues e' e'') : Continues e e'' := by
  refine ⟨second.1.trans first.1, fun ended => ?_⟩
  obtain ⟨status, date, reason, hired⟩ := first.2 ended
  obtain ⟨status', date', reason', hired'⟩ := second.2 status
  exact ⟨status', date'.trans date, reason'.trans reason, hired'.trans hired⟩

theorem continues_of_follows {e e' : Employee} (follows : (desk readDate).Follows e e') : Continues e e' := by
  induction follows with
  | refl => exact ⟨rfl, fun ended => ⟨ended, rfl, rfl, rfl⟩⟩
  | tail _ last ih =>
      obtain ⟨taken, rows, ok⟩ := last
      exact ih.trans (effect_of_edit ok).2.continues

variable [DecidableEq ι]

variable (readDate calls) in
def after (moves : List (ι × Option Failure)) : Desk ι Failure Employee.key :=
  moves.foldl ((desk readDate).next fun i => (calls i).request readDate) opening

variable (readDate) in
/-- Whatever overlaps, a tenant's employees have the numbers from 1 on and no fiscal code twice, and the dates of
each one fit a status that calls of its tenant have led to. Where no call saves a copy that is out of date, who has
left has left for good. -/
theorem roster_sound (calls : ι → Call) (moves : List (ι × Option Failure)) :
    let s := after readDate calls moves
    (∀ tenantId, Gapless (fun n => numberText (n + 1))
      ((s.shared.rows.rows.filter (·.tenantId = tenantId)).map (·.employeeNumber))) ∧
    (∀ e ∈ s.shared.rows.rows, Recorded readDate calls s.shared.log e ∧
      ∀ e' ∈ s.shared.rows.rows, e.SharesFiscalCode e' → e.id = e'.id) ∧
    ∀ later, AllMet Timely ((desk readDate).next fun i => (calls i).request readDate) s later →
      ∀ e ∈ s.shared.rows.rows, ∃ e' ∈ (after readDate calls (moves ++ later)).shared.rows.rows, Continues e e' := by
  have sound := sound_run (E := desk readDate) (fun i => (calls i).request readDate) moves
  refine ⟨fun tenantId => ?_, fun e mem => ⟨?_, fun e' mem' shared => ?_⟩, fun later timely e mem => ?_⟩
  · have numbers : (desk readDate).Numbering (fun i => (calls i).request readDate) _ _ := numbering
    have gapless := (numbered_run numbers moves).gapless tenantId
    rw [used, List.filter_map, List.map_map] at gapless
    exact gapless
  · obtain ⟨actions, lineage⟩ := sound.rows e mem
    exact recorded_of_lineage lineage
  · by_contra ne
    exact (of_decide_eq_true (sound.apart e mem e' mem' ne)).2.1 shared
  · obtain ⟨e', found, follows⟩ := follows_run (Table.find?_of_mem mem) timely
    exact ⟨e', Table.mem_of_find? found, continues_of_follows follows⟩

end

end SmartErp.Hr.Employees
