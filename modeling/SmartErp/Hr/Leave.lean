import SmartErp.Foundations.Revisions
import SmartErp.Hr.Attendance

/-!
# Leave requests

`leave-request.service.ts` and `leave-request.fsm.ts`, by calls that overlap. The first clock of a decision is
that of the server, the second one that of the database.
-/

namespace SmartErp.Hr.Leave
open Foundations Foundations.Editing

inductive LeaveStatus where
  | draft
  | submitted
  | approved
  | rejected
  | cancelled
  deriving DecidableEq

namespace LeaveStatus

def text : LeaveStatus → String
  | draft => "draft"
  | submitted => "submitted"
  | approved => "approved"
  | rejected => "rejected"
  | cancelled => "cancelled"

def TRANSITIONS : LeaveStatus → List LeaveStatus
  | draft => [submitted, cancelled]
  | submitted => [approved, rejected, cancelled]
  | approved => [cancelled]
  | rejected => []
  | cancelled => []

def Final (status : LeaveStatus) : Prop := status = rejected ∨ status = cancelled

end LeaveStatus

inductive LeaveType where
  | ferie
  | permessoRetribuito
  | permessoNonRetribuito
  | malattia
  | congedoMaternita
  | congedoPaternita
  | congedoParentale
  | congedoMatrimoniale
  | lutto
  | l104
  | altro
  deriving DecidableEq

/-- Days of a column of type `date` count from 1 January 1970. -/
structure LeaveRequest where
  id : Uuid
  tenantId : Uuid
  employeeId : Uuid
  leaveType : LeaveType
  startDate : ℤ
  endDate : ℤ
  daysRequested : Numeric 6 2
  reason : Option String
  status : LeaveStatus := .draft
  submittedAt : Option Instant := none
  decidedAt : Option Instant := none
  decidedBy : Option Uuid := none
  decisionReason : Option String := none
  tags : List String
  updatedAt : Instant
  deriving DecidableEq

def LeaveRequest.key (r : LeaveRequest) : Uuid := r.id

abbrev Rows := Table LeaveRequest.key

structure CreateLeaveRequestDto where
  employeeId : Uuid
  leaveType : LeaveType
  startDate : String
  endDate : String
  daysRequested : String
  reason : Option String := none
  tags : Option (List String) := none

structure DecideLeaveRequestDto where
  reason : Option String := none

/-! ## Operations -/

structure Drawn where
  id : Uuid
  savedAt : Instant

/-- A text for a column of type `numeric`. -/
def numericInput (s : String) : Option ℚ :=
  match s.toList with
  | '+' :: cs => parseUnsigned cs
  | cs => decimal cs

def create (readDate : String → Option Instant) (tenantId : Uuid) (dto : CreateLeaveRequestDto) (drawn : Drawn) :
    Except Failure LeaveRequest := do
  let start ← require (readDate dto.startDate) (.badRequest "Invalid startDate/endDate")
  let stop ← require (readDate dto.endDate) (.badRequest "Invalid startDate/endDate")
  ensure (start.ms ≤ stop.ms) (.badRequest "endDate must be on or after startDate")
  let days ← require (numericInput dto.daysRequested)
    (.database s!"invalid input syntax for type numeric: \"{dto.daysRequested}\"")
  let daysRequested ← column 6 2 days
  return {
    id := drawn.id
    tenantId
    employeeId := dto.employeeId
    leaveType := dto.leaveType
    startDate := start.ms / 86400000
    endDate := stop.ms / 86400000
    daysRequested
    reason := dto.reason
    tags := dto.tags.getD []
    updatedAt := drawn.savedAt }

def canLeaveTransition (source target : LeaveStatus) : Bool := target ∈ source.TRANSITIONS

def assertLeaveTransition (source target : LeaveStatus) : Except Failure Unit :=
  ensure (canLeaveTransition source target)
    (.error s!"Invalid LeaveRequest transition: {source.text} → {target.text}")

def transition (tenantId : Uuid) (next : LeaveStatus) (apply : LeaveRequest → LeaveRequest) (r : LeaveRequest) :
    Except Failure LeaveRequest := do
  ensure (r.tenantId = tenantId) (.notFound s!"LeaveRequest {r.id} not found")
  ensure (canLeaveTransition r.status next)
    (.unprocessable s!"Invalid LeaveRequest transition: {r.status.text} → {next.text}")
  assertLeaveTransition r.status next
  return apply { r with status := next }

def submit (tenantId : Uuid) (now : Instant) : LeaveRequest → Except Failure LeaveRequest :=
  transition tenantId .submitted fun r => { r with submittedAt := some now }

def decided (next : LeaveStatus) (tenantId actorUserId : Uuid) (dto : DecideLeaveRequestDto) (now : Instant) :
    LeaveRequest → Except Failure LeaveRequest :=
  transition tenantId next fun r => { r with
    decidedAt := some now
    decidedBy := some actorUserId
    decisionReason := dto.reason }

def approve := decided .approved

def reject := decided .rejected

def cancel := decided .cancelled

inductive Action where
  | submit
  | approve (actorUserId : Uuid) (dto : DecideLeaveRequestDto)
  | reject (actorUserId : Uuid) (dto : DecideLeaveRequestDto)
  | cancel (actorUserId : Uuid) (dto : DecideLeaveRequestDto)

structure Taken where
  tenantId : Uuid
  now : Instant
  savedAt : Instant
  action : Action

def Taken.edit (taken : Taken) (r : LeaveRequest) : Except Failure LeaveRequest := do
  let r ← match taken.action with
    | .submit => submit taken.tenantId taken.now r
    | .approve actorUserId dto => approve taken.tenantId actorUserId dto taken.now r
    | .reject actorUserId dto => reject taken.tenantId actorUserId dto taken.now r
    | .cancel actorUserId dto => cancel taken.tenantId actorUserId dto taken.now r
  return { r with updatedAt := taken.savedAt }

/-! ## What an action does -/

def Action.target : Action → LeaveStatus
  | submit => .submitted
  | approve _ _ => .approved
  | reject _ _ => .rejected
  | cancel _ _ => .cancelled

def Taken.perform (r : LeaveRequest) (taken : Taken) : LeaveRequest :=
  match taken.action with
  | .submit => { r with status := .submitted, submittedAt := some taken.now, updatedAt := taken.savedAt }
  | .approve actorUserId dto | .reject actorUserId dto | .cancel actorUserId dto => { r with
      status := taken.action.target
      decidedAt := some taken.now
      decidedBy := some actorUserId
      decisionReason := dto.reason
      updatedAt := taken.savedAt }

theorem transition_eq_ok {tenantId : Uuid} {next : LeaveStatus} {apply : LeaveRequest → LeaveRequest} {r r' : LeaveRequest} :
    transition tenantId next apply r = .ok r' ↔
      r.tenantId = tenantId ∧ next ∈ r.status.TRANSITIONS ∧ apply { r with status := next } = r' := by
  simp only [transition, assertLeaveTransition, canLeaveTransition, bind_eq_ok, ensure_eq_ok, pure_eq_ok,
    decide_eq_true_eq, exists_and_left, exists_const]
  tauto

theorem edit_eq_ok {taken : Taken} {r r' : LeaveRequest} : taken.edit r = .ok r' ↔
    r.tenantId = taken.tenantId ∧ taken.action.target ∈ r.status.TRANSITIONS ∧ taken.perform r = r' := by
  obtain ⟨tenantId, now, savedAt, action⟩ := taken
  cases action <;>
    simp only [Taken.edit, submit, approve, reject, cancel, decided, bind_eq_ok, transition_eq_ok, pure_eq_ok, Taken.perform,
      Action.target] <;>
    constructor
  all_goals
    first
    | rintro ⟨_, ⟨own, can, rfl⟩, rfl⟩
      exact ⟨own, can, rfl⟩
    | rintro ⟨own, can, rfl⟩
      exact ⟨_, ⟨own, can, rfl⟩, rfl⟩

def LeaveRequest.made (r : LeaveRequest) : Uuid × Uuid × Uuid × LeaveType × ℤ × ℤ × Numeric 6 2 × Option String × List String :=
  (r.id, r.tenantId, r.employeeId, r.leaveType, r.startDate, r.endDate, r.daysRequested, r.reason, r.tags)

@[simp] theorem made_perform (r : LeaveRequest) (taken : Taken) : (taken.perform r).made = r.made := by
  unfold Taken.perform
  cases taken.action <;> rfl

@[simp] theorem status_perform (r : LeaveRequest) (taken : Taken) : (taken.perform r).status = taken.action.target := by
  unfold Taken.perform
  cases taken.action <;> rfl

theorem id_perform (r : LeaveRequest) (taken : Taken) : (taken.perform r).id = r.id :=
  congrArg Prod.fst (made_perform r taken)

/-! ## Histories -/

def histories : LeaveStatus → List (List LeaveStatus)
  | .draft => [[]]
  | .submitted => [[.submitted]]
  | .approved => [[.submitted, .approved]]
  | .rejected => [[.submitted, .rejected]]
  | .cancelled => [[.cancelled], [.submitted, .cancelled], [.submitted, .approved, .cancelled]]

theorem histories_step {source target : LeaveStatus} (can : target ∈ source.TRANSITIONS) {history : List LeaveStatus}
    (mem : history ∈ histories source) : history ++ [target] ∈ histories target := by
  cases source <;> simp only [LeaveStatus.TRANSITIONS, List.mem_cons, List.not_mem_nil, or_false] at can
  all_goals
    simp only [histories, List.mem_cons, List.not_mem_nil, or_false] at mem
    subst mem
    rcases can with rfl | rfl | rfl <;> decide

def desk : Editing Taken Failure LeaveRequest.key where
  edit taken _ := taken.edit
  key_edit ok := by
    rw [← (edit_eq_ok.mp ok).2.2]
    exact id_perform _ _
  missing id := .notFound s!"LeaveRequest {id} not found"
  apart _ _ := true
  apart_comm _ _ := rfl
  collision := .database "duplicate key value violates unique constraint"

theorem edits_iff {taken : Taken} {r r' : LeaveRequest} : desk.Edits taken r r' ↔
    r.tenantId = taken.tenantId ∧ taken.action.target ∈ r.status.TRANSITIONS ∧ taken.perform r = r' :=
  ⟨fun ⟨_, ok⟩ => edit_eq_ok.mp ok, fun edits => ⟨∅, edit_eq_ok.mpr edits⟩⟩

structure Traced (r₀ : LeaveRequest) (actions : List Taken) (r : LeaveRequest) : Prop where
  row : actions.foldl Taken.perform r₀ = r
  tenant : ∀ taken ∈ actions, taken.tenantId = r₀.tenantId
  history : actions.map (·.action.target) ∈ histories r.status
  made : r.made = r₀.made

theorem traced_of_replays {r₀ r : LeaveRequest} {actions : List Taken} (new : r₀.status = .draft)
    (replays : desk.Replays r₀ actions r) : Traced r₀ actions r := by
  induction replays with
  | nil => exact ⟨rfl, List.forall_mem_nil _, by rw [new]; exact List.mem_singleton_self _, rfl⟩
  | @snoc r' r'' es taken _ last ih =>
      obtain ⟨own, can, rfl⟩ := edits_iff.mp last
      refine ⟨?_, ?_, ?_, (made_perform _ _).trans ih.made⟩
      · rw [List.foldl_append, ih.row]
        rfl
      · intro taken' mem
        rcases List.mem_append.mp mem with old | here
        · exact ih.tenant taken' old
        · rw [List.mem_singleton.mp here, ← own]
          exact congrArg (·.2.1) ih.made
      · rw [List.map_append, status_perform]
        exact histories_step can ih.history

/-! ## Calls -/

inductive Call where
  | create (tenantId : Uuid) (dto : CreateLeaveRequestDto) (drawn : Drawn)
  | act (id : Uuid) (taken : Taken)

section
variable (readDate : String → Option Instant)

def Call.request : Call → Request Taken Failure LeaveRequest.key
  | create tenantId dto drawn => .insert fun _ => Leave.create readDate tenantId dto drawn
  | act id taken => .edit id taken

variable {readDate}

theorem request_eq_edit {call : Call} {id : Uuid} {taken : Taken} (request : call.request readDate = .edit id taken) :
    call = .act id taken := by
  cases call with
  | create => cases request
  | act => cases request; rfl

theorem request_eq_insert {call : Call} {make : Rows → Except Failure LeaveRequest}
    (request : call.request readDate = .insert make) :
    ∃ tenantId dto drawn, call = .create tenantId dto drawn ∧ make = fun _ => create readDate tenantId dto drawn := by
  cases call with
  | create tenantId dto drawn => cases request; exact ⟨tenantId, dto, drawn, rfl, rfl⟩
  | act => cases request

theorem create_eq_ok {tenantId : Uuid} {dto : CreateLeaveRequestDto} {drawn : Drawn} {r : LeaveRequest}
    (ok : create readDate tenantId dto drawn = .ok r) : r.status = .draft ∧ r.startDate ≤ r.endDate := by
  simp only [create, bind_eq_ok, require_eq_ok, ensure_eq_ok, pure_eq_ok] at ok
  obtain ⟨start, -, stop, -, -, order, -, -, -, -, rfl⟩ := ok
  exact ⟨rfl, Int.ediv_le_ediv (by decide) order⟩

variable {ι : Type} {calls : ι → Call}

variable (calls) in
def actionsOn (id : Uuid) (log : List ι) : List Taken := log.filterMap fun i =>
  match calls i with
  | .create _ _ _ => none
  | .act id' taken => if id' = id then some taken else none

theorem editsOf_request (id : Uuid) (log : List ι) :
    editsOf (fun i => (calls i).request readDate) id log = actionsOn calls id log := by
  refine List.filterMap_congr fun i _ => ?_
  cases call : calls i <;> simp only [call, Call.request]

variable (readDate calls) in
def Recorded (log : List ι) (r : LeaveRequest) (actions : List Taken) : Prop :=
  ∃ i js tenantId dto drawn r₀, (i :: js).Sublist log ∧ calls i = .create tenantId dto drawn ∧
    create readDate tenantId dto drawn = .ok r₀ ∧ r₀.id = r.id ∧ js.map calls = actions.map (.act r.id) ∧
    Traced r₀ actions r ∧ r.startDate ≤ r.endDate

theorem acts_of_requests {js : List ι} {id : Uuid} {actions : List Taken}
    (eq : js.map (fun i => (calls i).request readDate) = actions.map (.edit id)) : js.map calls = actions.map (.act id) := by
  induction actions generalizing js with
  | nil => rw [List.map_eq_nil_iff.mp eq, List.map_nil, List.map_nil]
  | cons taken actions ih =>
      obtain ⟨j, js, rfl, first, others⟩ := List.map_eq_cons_iff.mp eq
      rw [List.map_cons, List.map_cons, request_eq_edit first, ih others]

theorem recorded_of_lineage {log : List ι} {r : LeaveRequest} {actions : List Taken}
    (lineage : desk.Lineage (fun i => (calls i).request readDate) log r actions) :
    Recorded readDate calls log r actions := by
  obtain ⟨before, i, after, r₀, rfl, ⟨make, rows, request, made⟩, same, sub, replays⟩ := lineage
  obtain ⟨tenantId, dto, drawn, call, rfl⟩ := request_eq_insert request
  obtain ⟨js, sub', eq⟩ := calls_of_sublist sub
  obtain ⟨new, order⟩ := create_eq_ok made
  have traced := traced_of_replays new replays
  have kept := traced.made
  simp only [LeaveRequest.made, Prod.mk.injEq] at kept
  obtain ⟨-, -, -, -, start, stop, -⟩ := kept
  exact ⟨i, js, tenantId, dto, drawn, r₀, (sub'.cons_cons i).trans (List.sublist_append_right _ _), call, made, same,
    acts_of_requests eq, traced, by rw [start, stop]; exact order⟩

variable [DecidableEq ι]

variable (readDate calls) in
def after (moves : List (ι × Option Failure)) : Desk ι Failure LeaveRequest.key :=
  moves.foldl (desk.next fun i => (calls i).request readDate) opening

theorem edits_final {r : LeaveRequest} (final : r.status.Final) (taken : Taken) (r' : LeaveRequest) :
    ¬ desk.Edits taken r r' := by
  intro edits
  obtain ⟨-, can, -⟩ := edits_iff.mp edits
  rcases final with status | status <;>
    · rw [status] at can
      cases can

theorem follows_final {r r' : LeaveRequest} (final : r.status.Final) (follows : desk.Follows r r') : r' = r := by
  induction follows with
  | refl => rfl
  | tail _ last ih =>
      obtain ⟨taken, edits⟩ := last
      exact absurd (ih ▸ edits) (edits_final final taken _)

variable (readDate) in
/-- Whatever overlaps, a request is what one call made of it and at most three later ones, in an order that the
state machine allows. Where no call saves a copy that is out of date, these are all that were saved, and a request
that was rejected or cancelled stays as it is. -/
theorem leave_recorded (calls : ι → Call) (moves : List (ι × Option Failure)) :
    let s := after readDate calls moves
    (∀ r ∈ s.shared.rows.rows, ∃ actions, Recorded readDate calls s.shared.log r actions) ∧
    (AllMet Timely (desk.next fun i => (calls i).request readDate) opening moves →
      ∀ r ∈ s.shared.rows.rows, Recorded readDate calls s.shared.log r (actionsOn calls r.id s.shared.log)) ∧
    ∀ later, AllMet Timely (desk.next fun i => (calls i).request readDate) s later →
      ∀ r ∈ s.shared.rows.rows, r.status.Final → r ∈ (after readDate calls (moves ++ later)).shared.rows.rows := by
  have sound := sound_run (E := desk) (fun i => (calls i).request readDate) moves
  refine ⟨fun r mem => ?_, fun timely r mem => ?_, fun later timely r mem final => ?_⟩
  · obtain ⟨actions, lineage⟩ := sound.rows r mem
    exact ⟨actions, recorded_of_lineage lineage⟩
  · have recorded := recorded_of_lineage (complete_run timely r mem)
    rwa [editsOf_request] at recorded
  · obtain ⟨r', found, follows⟩ := follows_run (Table.find?_of_mem mem) timely
    rw [follows_final final follows] at found
    exact Table.mem_of_find? found

end

end SmartErp.Hr.Leave
