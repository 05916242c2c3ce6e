import SmartErp.Foundations.Table
import SmartErp.Hr.WorkedHours

/-!
# Attendance

`clockIn`, `clockOut` and `sweepOrphans` of `attendance.service.ts`, one call after the other. Days count from
1 January 1970; the server's clock is on UTC. `readDate` is what `new Date` makes of a text.
-/

namespace SmartErp.Hr
open Foundations

inductive AttendanceStatus where
  | opened
  | closed
  | autoClosed
  deriving DecidableEq

def AttendanceStatus.text : AttendanceStatus → String
  | opened => "open"
  | closed => "closed"
  | autoClosed => "auto_closed"

inductive AttendanceLocation where
  | office
  | remote
  | site
  | travel
  | other
  deriving DecidableEq

structure Attendance where
  tenantId : Uuid
  employeeId : Uuid
  date : ℤ
  clockInAt : Option Instant
  clockOutAt : Option Instant := none
  breakMinutes : ℕ := 0
  workedHours : Numeric 5 2 := 0
  location : AttendanceLocation
  locationLabel : Option String
  status : AttendanceStatus := .opened
  notes : Option String := none
  recordedBy : Option Uuid
  int : breakMinutes < 2 ^ 31 := by decide
  deriving DecidableEq

def Attendance.index (row : Attendance) : Uuid × Uuid × ℤ := (row.tenantId, row.employeeId, row.date)

abbrev Db := Table Attendance.index

structure ClockInDto where
  employeeId : Uuid
  date : Option String := none
  moment : Option String := none
  location : Option AttendanceLocation := none
  locationLabel : Option (Option String) := none

structure ClockOutDto where
  employeeId : Uuid
  date : Option String := none
  moment : Option String := none
  breakMinutes : Option ℕ := none
  notes : Option (Option String) := none

inductive Call where
  | clockIn (tenantId : Uuid) (actorUserId : Option Uuid) (dto : ClockInDto) (now : Instant)
  | clockOut (tenantId : Uuid) (dto : ClockOutDto) (now : Instant)
  | sweepOrphans (tenantId : Uuid) (cutoffDate : ℤ)

/-! ## Days -/

def digits (places n : ℕ) : String := String.ofList ((Nat.toDigits 10 n).leftpad places '0')

/-- The year, the month and the day of the Gregorian calendar, counted in eras of 400 years from 1 March. -/
def calendar (date : ℤ) : ℤ × ℕ × ℕ :=
  let days := date + 719468
  let ofEra := (days % 146097).toNat
  let year := (ofEra - ofEra / 1460 + ofEra / 36524 - ofEra / 146096) / 365
  let ofYear := ofEra - (365 * year + year / 4 - year / 100)
  let month := (5 * ofYear + 2) / 153
  (days / 146097 * 400 + year + (if month < 10 then 0 else 1), if month < 10 then month + 3 else month - 9,
    ofYear - (153 * month + 2) / 5 + 1)

/-- `d.toISOString().slice(0, 10)` -/
def formatDate (date : ℤ) : String :=
  let (year, month, day) := calendar date
  let yearText := if 0 ≤ year ∧ year ≤ 9999 then digits 4 year.toNat
    else (if year < 0 then "-" else "+") ++ digits 6 year.natAbs
  String.ofList ((yearText ++ "-" ++ digits 2 month ++ "-" ++ digits 2 day).toList.take 10)

/-- 23:59 of the day, in UTC. -/
def endOfDay (date : ℤ) : Option Instant := timeClip (date * 86400000 + 86340000)

/-! ## The operations -/

def TRANSITIONS : AttendanceStatus → List AttendanceStatus
  | .opened => [.closed, .autoClosed]
  | .closed => []
  | .autoClosed => []

def canAttendanceTransition (source target : AttendanceStatus) : Bool := target ∈ TRANSITIONS source

def assertAttendanceTransition (source target : AttendanceStatus) : Except Failure Unit :=
  ensure (canAttendanceTransition source target)
    (.error s!"Invalid Attendance transition: {source.text} → {target.text}")

/-- A date that is not valid cannot be stored. -/
def timestamp (t : Option Instant) : Except Failure Instant :=
  require t (.database
    "invalid input syntax for type timestamp with time zone: \"0NaN-NaN-NaNTNaN:NaN:NaN.NaN+NaN:NaN\"")

section
variable (readDate : String → Option Instant)

def parseDate (now : Instant) (s : Option String) : Except Failure ℤ :=
  match s.getD "" with
  | "" => .ok (now.ms / 86400000)
  | s => require ((readDate s).map (·.ms / 86400000)) (.badRequest s!"Invalid date '{s}'")

/-- `dto.at ? new Date(dto.at) : new Date()` -/
def momentOf (now : Instant) (moment : Option String) : Option Instant :=
  match moment.getD "" with
  | "" => some now
  | s => readDate s

def clockIn (db : Db) (tenantId : Uuid) (actorUserId : Option Uuid) (dto : ClockInDto) (now : Instant) :
    Except Failure Attendance := do
  let date ← parseDate readDate now dto.date
  match db.find? (tenantId, dto.employeeId, date) with
  | some row =>
      ensure (row.status = .opened) (.badRequest
        s!"Attendance for {dto.employeeId} on {formatDate date} is already {row.status.text}")
      let clockInAt ← timestamp (momentOf readDate now dto.moment)
      return { row with
        clockInAt := some clockInAt
        location := dto.location.getD row.location
        locationLabel := dto.locationLabel.getD row.locationLabel }
  | none =>
      let clockInAt ← timestamp (momentOf readDate now dto.moment)
      return {
        tenantId, date
        employeeId := dto.employeeId
        clockInAt := some clockInAt
        location := dto.location.getD .office
        locationLabel := dto.locationLabel.join
        recordedBy := actorUserId }

def clockOut (db : Db) (tenantId : Uuid) (dto : ClockOutDto) (now : Instant) : Except Failure Attendance := do
  let date ← parseDate readDate now dto.date
  let row ← require (db.find? (tenantId, dto.employeeId, date)) (.notFound
    s!"No attendance row found for employee {dto.employeeId} on {formatDate date}")
  ensure (row.status = .opened) (.badRequest s!"Attendance is already {row.status.text} — cannot clock out again")
  let clockInAt ← require row.clockInAt (.badRequest "Cannot clock out: no clock-in time recorded")
  -- No comparison with an invalid date holds.
  ensure ((momentOf readDate now dto.moment).all (clockInAt.ms ≤ ·.ms))
    (.badRequest "clockOut time must be after clockIn time")
  let clockOutAt ← timestamp (momentOf readDate now dto.moment)
  assertAttendanceTransition row.status .closed
  let breakMinutes := dto.breakMinutes.getD row.breakMinutes
  if int : breakMinutes < 2 ^ 31 then
    let workedHours ← workedHours clockOutAt clockInAt breakMinutes
    return { row with
      breakMinutes, int, workedHours
      clockOutAt := some clockOutAt
      status := .closed
      notes := dto.notes.getD row.notes }
  else .error (.database s!"value \"{breakMinutes}\" is out of range for type integer")

def autoClose (row : Attendance) : Except Failure Attendance :=
  match row.clockInAt, row.clockOutAt with
  | some clockInAt, none => do
      let clockOutAt ← timestamp (endOfDay row.date)
      let workedHours ← workedHours clockOutAt clockInAt row.breakMinutes
      return { row with status := .autoClosed, clockOutAt := some clockOutAt, workedHours }
  | _, _ => .ok { row with status := .autoClosed }

/-- Each save stands, also when a later one fails. -/
def sweep : Db → List Attendance → Db × Option Failure
  | db, [] => (db, none)
  | db, row :: rest =>
      if canAttendanceTransition row.status .autoClosed then
        match autoClose row with
        | .ok row => sweep (db.save row) rest
        | .error failure => (db, some failure)
      else sweep db rest

variable (scan : Scan Attendance)

def orphans (db : Db) (tenantId : Uuid) (cutoffDate : ℤ) : List Attendance :=
  scan.order (db.rows.filter fun row => row.tenantId = tenantId ∧ row.status = .opened ∧ row.date < cutoffDate)

def sweepOrphans (db : Db) (tenantId : Uuid) (cutoffDate : ℤ) : Db × Except Failure ℕ :=
  match sweep db (orphans scan db tenantId cutoffDate) with
  | (db, none) => (db, .ok (orphans scan db tenantId cutoffDate).length)
  | (db, some failure) => (db, .error failure)

def next (db : Db) : Call → Db
  | .clockIn tenantId actorUserId dto now =>
      settle db ((clockIn readDate db tenantId actorUserId dto now).map db.save)
  | .clockOut tenantId dto now => settle db ((clockOut readDate db tenantId dto now).map db.save)
  | .sweepOrphans tenantId cutoffDate => (sweepOrphans scan db tenantId cutoffDate).1

/-! ## The law -/

/-- A closed row has its times in order, and the hours between them, of one day at most, to two decimals. -/
def CoherentRow (row : Attendance) : Prop :=
  ∃ clockInAt clockOutAt, row.clockInAt = some clockInAt ∧ row.clockOutAt = some clockOutAt ∧
    clockInAt.ms ≤ clockOutAt.ms ∧ 0 ≤ row.workedHours.val ∧ row.workedHours.val ≤ 24 ∧
      |row.workedHours.val - max 0 (netHours clockOutAt clockInAt row.breakMinutes)| ≤ 1/200

structure Coherent (db : Db) : Prop where
  closed : ∀ row ∈ db.rows, row.status ≠ .opened → CoherentRow row
  unique : (db.rows.map fun row => (row.tenantId, row.employeeId, row.date)).Nodup

def Clocked (db : Db) : Prop :=
  ∀ row ∈ db.rows, row.status = .opened → row.clockInAt.isSome ∧ row.clockOutAt = none

def swept : List Attendance → List Attendance
  | [] => []
  | row :: rest =>
      match autoClose row with
      | .ok row => row :: swept rest
      | .error _ => []

def closing (db : Db) : Call → List Attendance
  | .clockIn .. => []
  | .clockOut tenantId dto now => (clockOut readDate db tenantId dto now).toOption.toList
  | .sweepOrphans tenantId cutoffDate => swept (orphans scan db tenantId cutoffDate)

/-- Each row that the call closes was clocked in before the time it is given, with less than 24 hours and a half
of a hundredth between them. -/
def Fair (less : ℚ → ℚ → Prop) (db : Db) (call : Call) : Prop :=
  ∀ row ∈ closing readDate scan db call, ∃ clockInAt clockOutAt, row.clockInAt = some clockInAt ∧
    row.clockOutAt = some clockOutAt ∧ clockInAt.ms ≤ clockOutAt.ms ∧
      less (netHours clockOutAt clockInAt row.breakMinutes) (24 + 1/200)

/-! ## Closed rows -/

def Computed (row : Attendance) : Prop :=
  row.status ≠ .opened ∧ ∃ clockInAt clockOutAt, row.clockInAt = some clockInAt ∧ row.clockOutAt = some clockOutAt ∧
    workedHours clockOutAt clockInAt row.breakMinutes = .ok row.workedHours

variable {readDate scan} {db : Db} {row : Attendance}

theorem Computed.coherent (computed : Computed row) {clockInAt clockOutAt : Instant}
    (start : row.clockInAt = some clockInAt) (finish : row.clockOutAt = some clockOutAt)
    (ordered : clockInAt.ms ≤ clockOutAt.ms)
    (short : netHours clockOutAt clockInAt row.breakMinutes < 24 + 1/200) : CoherentRow row := by
  obtain ⟨-, clockInAt', clockOutAt', start', finish', hours⟩ := computed
  obtain rfl := Option.some.inj (start.symm.trans start')
  obtain rfl := Option.some.inj (finish.symm.trans finish')
  obtain ⟨nonneg, near⟩ := workedHours_near row.int hours
  refine ⟨clockInAt, clockOutAt, start, finish, ordered, nonneg, ?_, near⟩
  -- The column has whole hundredths.
  have most : max 0 (netHours clockOutAt clockInAt row.breakMinutes) < 24 + 1/200 := max_lt (by norm_num) short
  rw [abs_le] at near
  have below : (row.workedHours.units : ℚ) < 2401 := by
    have val : row.workedHours.val = row.workedHours.units / 100 := by
      rw [Numeric.val]
      norm_num
    rw [val] at near
    linarith
  have whole : row.workedHours.units ≤ 2400 := by
    have := (by exact_mod_cast below : row.workedHours.units < 2401)
    omega
  rw [Numeric.val, div_le_iff₀ (by norm_num)]
  exact_mod_cast whole.trans (by norm_num)

theorem CoherentRow.short (coherent : CoherentRow row) : ∃ clockInAt clockOutAt,
    row.clockInAt = some clockInAt ∧ row.clockOutAt = some clockOutAt ∧ clockInAt.ms ≤ clockOutAt.ms ∧
      netHours clockOutAt clockInAt row.breakMinutes ≤ 24 + 1/200 := by
  obtain ⟨clockInAt, clockOutAt, start, finish, ordered, -, most, near⟩ := coherent
  refine ⟨clockInAt, clockOutAt, start, finish, ordered, ?_⟩
  rw [abs_le] at near
  linarith [le_max_right 0 (netHours clockOutAt clockInAt row.breakMinutes)]

theorem clockOut_computed {tenantId : Uuid} {dto : ClockOutDto} {now : Instant}
    (ok : clockOut readDate db tenantId dto now = .ok row) : Computed row := by
  simp only [clockOut, bind_eq_ok, require_eq_ok, ensure_eq_ok] at ok
  obtain ⟨date, -, old, -, _, -, clockInAt, start, _, -, clockOutAt, -, _, -, closed⟩ := ok
  split_ifs at closed with int
  simp only [bind_eq_ok, pure_eq_ok] at closed
  obtain ⟨hours, computed, rfl⟩ := closed
  exact ⟨by simp, clockInAt, clockOutAt, start, rfl, computed⟩

theorem autoClose_computed {row' : Attendance} (clocked : row.clockInAt.isSome ∧ row.clockOutAt = none)
    (ok : autoClose row = .ok row') : Computed row' ∧ row'.index = row.index := by
  obtain ⟨start, unclosed⟩ := clocked
  obtain ⟨clockInAt, start⟩ := Option.isSome_iff_exists.mp start
  simp only [autoClose, start, unclosed, bind_eq_ok, pure_eq_ok] at ok
  obtain ⟨clockOutAt, -, hours, computed, rfl⟩ := ok
  exact ⟨⟨by simp, clockInAt, clockOutAt, rfl, rfl, computed⟩, rfl⟩

theorem clockIn_open {tenantId : Uuid} {actorUserId : Option Uuid} {dto : ClockInDto} {now : Instant}
    (clocked : Clocked db) (ok : clockIn readDate db tenantId actorUserId dto now = .ok row) :
    row.status = .opened ∧ row.clockInAt.isSome ∧ row.clockOutAt = none := by
  simp only [clockIn, bind_eq_ok] at ok
  obtain ⟨date, -, ok⟩ := ok
  cases found : db.find? (tenantId, dto.employeeId, date) with
  | none =>
      simp only [found, bind_eq_ok, pure_eq_ok] at ok
      obtain ⟨clockInAt, -, rfl⟩ := ok
      exact ⟨rfl, rfl, rfl⟩
  | some old =>
      simp only [found, bind_eq_ok, ensure_eq_ok, pure_eq_ok] at ok
      obtain ⟨_, status, clockInAt, -, rfl⟩ := ok
      exact ⟨status, rfl, (clocked old (Table.mem_of_find? found) status).2⟩

/-! ## One call -/

theorem mem_orphans {tenantId : Uuid} {cutoffDate : ℤ} : row ∈ orphans scan db tenantId cutoffDate ↔
    row ∈ db.rows ∧ row.tenantId = tenantId ∧ row.status = .opened ∧ row.date < cutoffDate := by
  rw [orphans, scan.mem, List.mem_filter, decide_eq_true_eq]

theorem sweep_eq {rows : List Attendance} (opened : ∀ row ∈ rows, row.status = .opened) (db : Db) :
    (sweep db rows).1 = (swept rows).foldl Table.save db := by
  induction rows generalizing db with
  | nil => rfl
  | cons row rest ih =>
      rw [List.forall_mem_cons] at opened
      have can : canAttendanceTransition row.status .autoClosed = true := by
        rw [opened.1]
        rfl
      rw [sweep, if_pos can, swept]
      cases autoClose row with
      | ok row' => exact ih opened.2 (db.save row')
      | error failure => rfl

theorem swept_computed {rows : List Attendance} (clocked : ∀ row ∈ rows, row.clockInAt.isSome ∧ row.clockOutAt = none) :
    (∀ row ∈ swept rows, Computed row) ∧ (swept rows).map Attendance.index <+: rows.map Attendance.index := by
  induction rows with
  | nil => exact ⟨fun _ mem => absurd mem List.not_mem_nil, List.nil_prefix⟩
  | cons row rest ih =>
      rw [List.forall_mem_cons] at clocked
      obtain ⟨computed, part⟩ := ih clocked.2
      rw [swept]
      cases closed : autoClose row with
      | error failure => exact ⟨fun _ mem => absurd mem List.not_mem_nil, List.nil_prefix⟩
      | ok row' =>
          obtain ⟨first, index⟩ := autoClose_computed clocked.1 closed
          refine ⟨List.forall_mem_cons.mpr ⟨first, computed⟩, ?_⟩
          rw [List.map_cons, List.map_cons, index, List.prefix_cons_inj]
          exact part

theorem closing_computed (clocked : Clocked db) (call : Call) :
    (∀ row ∈ closing readDate scan db call, Computed row) ∧
      ((closing readDate scan db call).map Attendance.index).Nodup := by
  cases call with
  | clockIn => exact ⟨fun _ mem => absurd mem List.not_mem_nil, List.nodup_nil⟩
  | clockOut tenantId dto now =>
      rw [closing]
      cases result : clockOut readDate db tenantId dto now with
      | error failure => exact ⟨fun _ mem => absurd mem List.not_mem_nil, List.nodup_nil⟩
      | ok row =>
          refine ⟨?_, List.nodup_singleton _⟩
          intro row' mem
          obtain rfl := List.mem_singleton.mp mem
          exact clockOut_computed result
  | sweepOrphans tenantId cutoffDate =>
      have unclosed : ∀ row ∈ orphans scan db tenantId cutoffDate, row.clockInAt.isSome ∧ row.clockOutAt = none := by
        intro row mem
        obtain ⟨there, -, status, -⟩ := mem_orphans.mp mem
        exact clocked row there status
      obtain ⟨computed, part⟩ := swept_computed unclosed
      refine ⟨computed, part.sublist.nodup ?_⟩
      have perm := (scan.perm (db.rows.filter fun row =>
        row.tenantId = tenantId ∧ row.status = .opened ∧ row.date < cutoffDate)).map Attendance.index
      exact perm.nodup_iff.mpr (db.nodup.sublist (List.filter_sublist.map _))

theorem next_rows (clocked : Clocked db) (call : Call) :
    (∃ row, (row.status = .opened ∧ row.clockInAt.isSome ∧ row.clockOutAt = none) ∧ closing readDate scan db call = [] ∧
      next readDate scan db call = db.save row) ∨
        next readDate scan db call = (closing readDate scan db call).foldl Table.save db := by
  cases call with
  | clockIn tenantId actorUserId dto now =>
      rw [next]
      cases result : clockIn readDate db tenantId actorUserId dto now with
      | error failure => exact .inr rfl
      | ok row => exact .inl ⟨row, clockIn_open clocked result, rfl, rfl⟩
  | clockOut tenantId dto now =>
      right
      rw [next, closing]
      cases clockOut readDate db tenantId dto now <;> rfl
  | sweepOrphans tenantId cutoffDate =>
      right
      rw [next, closing, ← sweep_eq (fun row mem => (mem_orphans.mp mem).2.2.1), sweepOrphans]
      rcases sweep db (orphans scan db tenantId cutoffDate) with ⟨db', _ | failure⟩ <;> rfl

theorem clocked_next (clocked : Clocked db) (call : Call) : Clocked (next readDate scan db call) := by
  intro row mem status
  obtain ⟨opened, fresh, -, eq⟩ | eq := next_rows clocked call
  · rw [eq, Table.mem_save] at mem
    obtain rfl | ⟨old, -⟩ := mem
    · exact fresh.2
    · exact clocked row old status
  · rw [eq] at mem
    obtain closed | old := Table.mem_saves_of mem
    · exact absurd status ((closing_computed clocked call).1 row closed).1
    · exact clocked row old status

theorem coherent_next (clocked : Clocked db) (coherent : Coherent db) {call : Call}
    (fair : Fair readDate scan (· < ·) db call) : Coherent (next readDate scan db call) := by
  refine ⟨?_, (next readDate scan db call).nodup⟩
  intro row mem status
  obtain ⟨opened, fresh, -, eq⟩ | eq := next_rows clocked call
  · rw [eq, Table.mem_save] at mem
    obtain rfl | ⟨old, -⟩ := mem
    · exact absurd fresh.1 status
    · exact coherent.closed row old status
  · rw [eq] at mem
    obtain closed | old := Table.mem_saves_of mem
    · obtain ⟨clockInAt, clockOutAt, start, finish, ordered, short⟩ := fair row closed
      exact ((closing_computed clocked call).1 row closed).coherent start finish ordered short
    · exact coherent.closed row old status

theorem fair_of_coherent (clocked : Clocked db) {call : Call} (coherent : Coherent (next readDate scan db call)) :
    Fair readDate scan (· ≤ ·) db call := by
  intro row mem
  obtain ⟨computed, distinct⟩ := closing_computed clocked call
  obtain ⟨-, -, none, -⟩ | eq := next_rows clocked call
  · rw [none] at mem
    cases mem
  · have saved : row ∈ (next readDate scan db call).rows := by
      rw [eq]
      exact Table.mem_saves distinct mem
    exact (coherent.closed row saved (computed row mem).1).short

/-- Fair calls keep the rows coherent, and in a coherent run every call is fair, but that 24 hours and a half of a
hundredth may round either way. -/
theorem attendance_coherent (clocked : Clocked db) (coherent : Coherent db) (calls : List Call) :
    (AllMet (Fair readDate scan (· < ·)) (next readDate scan) db calls →
      ∀ before after, calls = before ++ after → Coherent (before.foldl (next readDate scan) db)) ∧
    ((∀ before after, calls = before ++ after → Coherent (before.foldl (next readDate scan) db)) →
      AllMet (Fair readDate scan (· ≤ ·)) (next readDate scan) db calls) :=
  ⟨AllMet.every Clocked Coherent clocked coherent (fun _ call clocked => clocked_next clocked call)
      fun _ _ clocked coherent fair => coherent_next clocked coherent fair,
    AllMet.of_every Clocked Coherent clocked (fun _ call clocked => clocked_next clocked call)
      fun _ _ clocked _ after => fair_of_coherent clocked after⟩

end
def april (hours : ℕ) (range : hours ≤ 1000) : Instant where
  ms := 1776124800000 + hours * 3600000
  range := by
    rw [abs_le]
    omega

def readApril (s : String) : Option Instant := if s = "2026-04-14" then some (april 0 (by decide)) else none

theorem empty_clocked : Clocked ∅ := fun _ mem => absurd mem List.not_mem_nil

theorem empty_coherent : Coherent ∅ := ⟨fun _ mem => absurd mem List.not_mem_nil, List.nodup_nil⟩

def dayShift : List Call :=
  [.clockIn 1 none { employeeId := 5 } (april 7 (by decide)),
    .clockOut 1 { employeeId := 5, breakMinutes := some 30 } (april 16 (by decide))]

def dayRow : Attendance where
  tenantId := 1
  employeeId := 5
  date := 20557
  clockInAt := some (april 7 (by decide))
  clockOutAt := some (april 16 (by decide))
  breakMinutes := 30
  workedHours := ⟨850, by decide⟩
  location := .office
  locationLabel := none
  status := .closed
  recordedBy := none

theorem dayShift_coherent : Coherent (dayShift.foldl (next readApril .inOrder) ∅) := by
  refine (attendance_coherent empty_clocked empty_coherent dayShift).1 ?_ dayShift [] (List.append_nil _).symm
  refine ⟨fun _ mem => absurd mem List.not_mem_nil, ?_, trivial⟩
  intro row mem
  have closes : closing readApril .inOrder (next readApril .inOrder ∅ (.clockIn 1 none { employeeId := 5 }
      (april 7 (by decide)))) (.clockOut 1 { employeeId := 5, breakMinutes := some 30 } (april 16 (by decide))) =
        [dayRow] := by decide +kernel
  rw [closes] at mem
  obtain rfl := List.mem_singleton.mp mem
  exact ⟨_, _, rfl, rfl, by decide, by decide +kernel⟩

/-- A shift that begins after midnight, on the row of the day before. -/
def nightShift : List Call :=
  [.clockIn 1 none { employeeId := 5, date := some "2026-04-14" } (april 25 (by decide)), .sweepOrphans 1 20558]

/-- The sweep lets the row end before it begins. -/
theorem nightShift_coherent_not :
    ¬ ∀ before after, nightShift = before ++ after → Coherent (before.foldl (next readApril .inOrder) ∅) := by
  intro every
  have final := every nightShift [] (by simp)
  have rows : (nightShift.foldl (next readApril .inOrder) ∅).rows.map (fun row => (row.status, row.clockInAt,
      row.clockOutAt.map (·.ms))) = [(.autoClosed, some (april 25 (by decide)), some 1776211140000)] := by decide +kernel
  obtain ⟨row, single, shows⟩ := List.map_eq_singleton_iff.mp rows
  simp only [Prod.mk.injEq, Option.map_eq_some_iff] at shows
  obtain ⟨status, start, finish, sweptAt, ms⟩ := shows
  have closed : row.status ≠ .opened := by simp [status]
  obtain ⟨clockInAt, clockOutAt, start', finish', ordered, -⟩ := final.closed row (by simp [single]) closed
  obtain rfl := Option.some.inj (start.symm.trans start')
  obtain rfl := Option.some.inj (sweptAt.symm.trans finish')
  rw [ms] at ordered
  exact absurd ordered (by decide)

end SmartErp.Hr
