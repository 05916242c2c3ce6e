import SmartErp.Failure
import SmartErp.Foundations.Spelling
import Mathlib.Algebra.Order.Group.MinMax

/-!
# Worked hours

The arithmetic of `attendance.service.ts`, from the two clock times to the column `workedHours`.
-/

namespace SmartErp.Hr
open Foundations JsNumber

/-- A `Date` that is valid, in milliseconds. -/
structure Instant where
  ms : ℤ
  range : |ms| ≤ 8640000000000000
  deriving DecidableEq

def timeClip (ms : ℤ) : Option Instant := if range : |ms| ≤ 8640000000000000 then some ⟨ms, range⟩ else none

def netMinutes (clockOutAt clockInAt : Instant) (breakMinutes : ℕ) : JsNumber :=
  let grossMinutes := ((finite clockOutAt.ms).plus (finite clockInAt.ms).neg).dividedBy (finite (60 * 1000))
  (finite 0).maximum (grossMinutes.plus (finite breakMinutes).neg)

/-- `(Math.round((netMinutes / 60) * 100) / 100).toFixed(2)` -/
def hoursText (netMinutes : JsNumber) : String :=
  ((((netMinutes.dividedBy (finite 60)).times (finite 100)).round).dividedBy (finite 100)).toFixed 2

def hoursColumn (text : String) : Except Failure (Numeric 5 2) :=
  match parseUnsigned text.toList with
  | some q => column 5 2 q
  | none => .error (.database s!"invalid input syntax for type numeric: \"{text}\"")

def workedHours (clockOutAt clockInAt : Instant) (breakMinutes : ℕ) : Except Failure (Numeric 5 2) :=
  hoursColumn (hoursText (netMinutes clockOutAt clockInAt breakMinutes))

/-- The time between the two, less the break, exactly and in hours. -/
def netHours (clockOutAt clockInAt : Instant) (breakMinutes : ℕ) : ℚ :=
  (clockOutAt.ms - clockInAt.ms) / 3600000 - breakMinutes / 60

/-! ## The roundings -/

/-- `grossMinutes` for `d` milliseconds -/
def gross (d : ℤ) : ℚ := toDouble (toDouble d / 60000)

def hundredths (minutes : ℚ) : ℤ := ⌊toDouble (toDouble (minutes / 60) * 100) + 1/2⌋

theorem Instant.abs_sub_lt (a b : Instant) : |((a.ms - b.ms : ℤ) : ℚ)| < 2 ^ (54 : ℤ) := by
  have whole : |a.ms - b.ms| < 2 ^ 54 := by
    have ha := abs_le.mp a.range
    have hb := abs_le.mp b.range
    rw [abs_lt]
    omega
  rw [← Int.cast_abs]
  exact_mod_cast whole

section
variable {d : ℤ} {breakMinutes : ℕ}

theorem abs_minutes_lt (size : |(d : ℚ)| < 2 ^ (54 : ℤ)) : |toDouble d / 60000| < 2 ^ (40 : ℤ) := by
  have first : |toDouble d| < 2 ^ (55 : ℤ) := abs_toDouble_lt (by norm_num) size
  rw [abs_div, div_lt_iff₀ (by norm_num)]
  norm_num at first ⊢
  linarith

theorem abs_net_lt (size : |(d : ℚ)| < 2 ^ (54 : ℤ)) (int : breakMinutes < 2 ^ 31) :
    |gross d - breakMinutes| < 2 ^ (42 : ℤ) := by
  have bound : |gross d| < 2 ^ (41 : ℤ) := abs_toDouble_lt (by norm_num) (abs_minutes_lt size)
  have int' : (breakMinutes : ℚ) ≤ 2147483648 := by exact_mod_cast int.le
  have nonneg : (0 : ℚ) ≤ breakMinutes := breakMinutes.cast_nonneg
  rw [abs_lt] at bound ⊢
  norm_num at bound ⊢
  constructor <;> linarith

end

theorem netMinutes_eq (clockOutAt clockInAt : Instant) {breakMinutes : ℕ} (int : breakMinutes < 2 ^ 31) :
    netMinutes clockOutAt clockInAt breakMinutes =
      finite (max 0 (toDouble (gross (clockOutAt.ms - clockInAt.ms) - breakMinutes))) := by
  have size := clockOutAt.abs_sub_lt clockInAt
  have sub : (clockOutAt.ms : ℚ) + -(clockInAt.ms : ℚ) = (clockOutAt.ms - clockInAt.ms : ℤ) := by
    push_cast
    ring
  generalize clockOutAt.ms - clockInAt.ms = d at size sub
  simp only [netMinutes, plus, neg_finite, add_finite, sub, dividedBy]
  rw [double_of_le (size.le.trans (by norm_num)), show (60 * 1000 : ℚ) = 60000 by norm_num, div_finite _ (by norm_num),
    double_of_le ((abs_minutes_lt size).le.trans (by norm_num)), add_finite, ← sub_eq_add_neg]
  change (finite 0).maximum (finite (gross d - breakMinutes)).double = _
  rw [double_of_le ((abs_net_lt size int).le.trans (by norm_num)), maximum_finite]

theorem hoursColumn_eq {minutes : ℚ} (nonneg : 0 ≤ minutes) (small : minutes < 2 ^ (45 : ℤ)) :
    hoursColumn (hoursText (finite minutes)) = column 5 2 (toScale 2 (toDouble (hundredths minutes / 100))) := by
  have size : |minutes / 60| < 2 ^ (45 : ℤ) := by
    rw [abs_of_nonneg (by positivity), div_lt_iff₀ (by norm_num)]
    linarith
  have first : |toDouble (minutes / 60)| < 2 ^ (46 : ℤ) := abs_toDouble_lt (by norm_num) size
  have second : |toDouble (minutes / 60) * 100| < 2 ^ (53 : ℤ) := by
    rw [abs_mul]
    norm_num at first ⊢
    linarith
  have third : |toDouble (toDouble (minutes / 60) * 100)| < 2 ^ (54 : ℤ) := abs_toDouble_lt (by norm_num) second
  have hours : 0 ≤ toDouble (minutes / 60) := toDouble_nonneg (by positivity)
  have scaled : 0 ≤ toDouble (toDouble (minutes / 60) * 100) := toDouble_nonneg (by positivity)
  have whole : 0 ≤ hundredths minutes := Int.floor_nonneg.mpr (by linarith)
  have high : (hundredths minutes : ℚ) < 2 ^ (55 : ℤ) := by
    have floor := Int.floor_le (toDouble (toDouble (minutes / 60) * 100) + 1/2)
    rw [abs_of_nonneg scaled] at third
    rw [hundredths]
    norm_num at third ⊢
    linarith
  have fourth : |(hundredths minutes : ℚ) / 100| < 2 ^ (55 : ℤ) := by
    have cast : (0 : ℚ) ≤ hundredths minutes := by exact_mod_cast whole
    rw [abs_of_nonneg (by positivity), div_lt_iff₀ (by norm_num)]
    linarith
  have cast : (0 : ℚ) ≤ (hundredths minutes : ℚ) / 100 := div_nonneg (by exact_mod_cast whole) (by norm_num)
  have text : hoursText (finite minutes) = (finite (toDouble (hundredths minutes / 100))).toFixed 2 := by
    simp only [hoursText, dividedBy, times]
    rw [div_finite _ (by norm_num), double_of_le (size.le.trans (by norm_num)), mul_finite,
      double_of_le (second.le.trans (by norm_num)), round_finite, div_finite _ (by norm_num)]
    change ((finite ((hundredths minutes : ℚ) / 100)).double).toFixed 2 = _
    rw [double_of_le (fourth.le.trans (by norm_num))]
  have fits : toDouble ((hundredths minutes : ℚ) / 100) < 10 ^ 21 := by
    have fifth := (le_abs_self _).trans_lt (abs_toDouble_lt (by norm_num) fourth)
    norm_num at fifth ⊢
    linarith
  rw [text, hoursColumn, parseUnsigned_toFixed (toDouble_nonneg cast), if_pos fits]

/-! ## The errors -/

section
variable {d : ℤ} {breakMinutes : ℕ}

theorem minutes_near (int : breakMinutes < 2 ^ 31) (low : 60000 * breakMinutes ≤ d)
    (high : d < 60000 * (breakMinutes + 2 ^ 17)) :
    |max 0 (toDouble (gross d - breakMinutes)) - (d / 60000 - breakMinutes)| ≤ 1 / 1000000 := by
  have int' : (breakMinutes : ℚ) ≤ 2147483648 := by exact_mod_cast int.le
  have nonneg : (0 : ℚ) ≤ breakMinutes := breakMinutes.cast_nonneg
  have low' : 60000 * (breakMinutes : ℚ) ≤ d := by exact_mod_cast low
  have high' : (d : ℚ) < 60000 * (breakMinutes + 2 ^ 17) := by exact_mod_cast high
  have safe : toDouble d = d := toDouble_safe (abs_lt.mpr ⟨by omega, by omega⟩)
  have size : |(d : ℚ) / 60000| < 2 ^ (32 : ℤ) := by
    rw [abs_lt]
    norm_num at high' ⊢
    constructor <;> linarith
  have first := abs_toDouble_sub_le (by norm_num) size
  rw [← safe] at first
  change |gross d - _| ≤ _ at first
  rw [safe, abs_le] at first
  have size' : |gross d - breakMinutes| < 2 ^ (18 : ℤ) := by
    rw [abs_lt]
    norm_num at first high' ⊢
    constructor <;> linarith
  have second := abs_toDouble_sub_le (by norm_num) size'
  have inside : (0 : ℚ) ≤ d / 60000 - breakMinutes := by linarith
  calc |max 0 (toDouble (gross d - breakMinutes)) - (d / 60000 - breakMinutes)|
      = |max 0 (toDouble (gross d - breakMinutes)) - max 0 (d / 60000 - breakMinutes : ℚ)| := by
        rw [max_eq_right inside]
    _ ≤ |toDouble (gross d - breakMinutes) - (d / 60000 - breakMinutes)| := by
        rw [max_comm 0, max_comm 0]
        exact abs_max_sub_max_le_abs _ _ _
    _ ≤ 1 / 1000000 := by
        rw [abs_le] at second ⊢
        norm_num at first second ⊢
        constructor <;> linarith

/-- Clock times are whole milliseconds, so that the roundings move nothing past a half. -/
theorem hundredths_near (int : breakMinutes < 2 ^ 31) (low : 60000 * breakMinutes ≤ d)
    (high : d < 60000 * (breakMinutes + 2 ^ 17)) :
    |(hundredths (max 0 (toDouble (gross d - breakMinutes))) : ℚ) - (d / 60000 - breakMinutes) * 100 / 60| ≤ 1/2 := by
  have near := minutes_near int low high
  have high' : (d : ℚ) < 60000 * (breakMinutes + 2 ^ 17) := by exact_mod_cast high
  have nonneg : 0 ≤ max 0 (toDouble (gross d - breakMinutes)) := le_max_left _ _
  generalize max 0 (toDouble (gross d - breakMinutes)) = n at near nonneg
  rw [abs_le] at near
  have size : |n / 60| < 2 ^ (13 : ℤ) := by
    rw [abs_lt]
    norm_num at high' ⊢
    constructor <;> linarith
  have first := abs_toDouble_sub_le (by norm_num) size
  rw [abs_le] at first
  have size' : |toDouble (n / 60) * 100| < 2 ^ (20 : ℤ) := by
    rw [abs_lt]
    norm_num at first high' ⊢
    constructor <;> linarith
  have second := abs_toDouble_sub_le (by norm_num) size'
  rw [abs_le] at second
  set k := hundredths n with hk
  have below := Int.floor_le (toDouble (toDouble (n / 60) * 100) + 1/2)
  have above := Int.lt_floor_add_one (toDouble (toDouble (n / 60) * 100) + 1/2)
  change (k : ℚ) ≤ _ at below
  change _ < (k : ℚ) + 1 at above
  -- The error in units of 1/36000, which are whole.
  have units : (36000 : ℚ) * (k - (d / 60000 - breakMinutes) * 100 / 60) = (36000 * k - (d - 60000 * breakMinutes) : ℤ) := by
    push_cast
    ring
  have bound : |(36000 : ℚ) * (k - (d / 60000 - breakMinutes) * 100 / 60)| < 18001 := by
    rw [abs_lt]
    norm_num at first second ⊢
    constructor <;> linarith
  rw [units] at bound
  have whole : |36000 * k - (d - 60000 * breakMinutes)| ≤ 18000 := by
    have := (by exact_mod_cast bound : |36000 * k - (d - 60000 * breakMinutes)| < 18001)
    omega
  have cast : |(36000 : ℚ) * (k - (d / 60000 - breakMinutes) * 100 / 60)| ≤ 18000 := by
    rw [units]
    exact_mod_cast whole
  rw [abs_le] at cast ⊢
  constructor <;> linarith

theorem minutes_nothing (size : |(d : ℚ)| < 2 ^ (54 : ℤ)) (int : breakMinutes < 2 ^ 31) (low : d ≤ 60000 * breakMinutes) :
    max 0 (toDouble (gross d - breakMinutes)) = 0 := by
  have start : toDouble d ≤ 60000 * breakMinutes := by
    by_cases safe : |d| < 2 ^ 53
    · rw [toDouble_safe safe]
      exact_mod_cast low
    · have negative : d ≤ -1 := by
        rw [abs_lt] at safe
        omega
      have below : toDouble d < 0 := toDouble_neg_of_le (by exact_mod_cast negative)
      have nonneg : (0 : ℚ) ≤ 60000 * breakMinutes := by positivity
      linarith
  have first : gross d ≤ (breakMinutes : ℤ) := by
    apply toDouble_le ((abs_minutes_lt size).trans (by norm_num))
    push_cast
    linarith
  have second : toDouble (gross d - breakMinutes) ≤ (0 : ℤ) := by
    apply toDouble_le ((abs_net_lt size int).trans (by norm_num))
    push_cast at first ⊢
    linarith
  exact max_eq_left (by exact_mod_cast second)

theorem hundredths_zero : hundredths 0 = 0 := by
  have zero : toDouble 0 = 0 := by exact_mod_cast toDouble_safe (n := 0) (by norm_num)
  rw [hundredths, zero_div, zero, zero_mul, zero]
  norm_num

theorem hundredths_large (int : breakMinutes < 2 ^ 31) (large : 60000 * (breakMinutes + 2 ^ 17) ≤ d) :
    218400 ≤ hundredths (max 0 (toDouble (gross d - breakMinutes))) := by
  have first : ((60000 * (breakMinutes + 2 ^ 17) : ℤ) : ℚ) ≤ toDouble d := by
    apply le_toDouble_of_pos (by positivity) (by omega)
    exact_mod_cast large
  have second : ((breakMinutes + 2 ^ 17 : ℤ) : ℚ) ≤ gross d := by
    apply le_toDouble_of_pos (by positivity) (by omega)
    push_cast at first ⊢
    linarith
  have third : ((2 ^ 17 : ℤ) : ℚ) ≤ toDouble (gross d - breakMinutes) := by
    apply le_toDouble_of_pos (by norm_num) (by norm_num)
    push_cast at second ⊢
    linarith
  have fourth := third.trans (le_max_right 0 _)
  generalize max 0 (toDouble (gross d - breakMinutes)) = n at fourth
  have fifth : ((2184 : ℤ) : ℚ) ≤ toDouble (n / 60) := by
    apply le_toDouble_of_pos (by norm_num) (by norm_num)
    norm_num at fourth ⊢
    linarith
  have sixth : ((218400 : ℤ) : ℚ) ≤ toDouble (toDouble (n / 60) * 100) := by
    apply le_toDouble_of_pos (by norm_num) (by norm_num)
    norm_num at fifth ⊢
    linarith
  apply Int.le_floor.mpr
  push_cast at sixth ⊢
  linarith

theorem toScale_hundredths {k : ℤ} (nonneg : 0 ≤ k) (small : k < 2 ^ 40) : toScale 2 (toDouble (k / 100)) = k / 100 := by
  have cast : (0 : ℚ) ≤ k / 100 := div_nonneg (by exact_mod_cast nonneg) (by norm_num)
  have size : |(k : ℚ) / 100| < 2 ^ (40 : ℤ) := by
    have small' : (k : ℚ) < 2 ^ 40 := by exact_mod_cast small
    rw [abs_of_nonneg cast]
    norm_num at small' ⊢
    linarith
  have error := abs_toDouble_sub_le (by norm_num) size
  have hundred : (10 : ℚ) ^ 2 = 100 := by norm_num
  have floor : ⌊toDouble ((k : ℚ) / 100) * 100 + 1/2⌋ = k := by
    rw [abs_le] at error
    rw [Int.floor_eq_iff]
    norm_num at error ⊢
    constructor <;> linarith
  rw [toScale_of_nonneg (toDouble_nonneg cast), halfUp, hundred, floor]

theorem toScale_large {q : ℚ} (large : ((2184 : ℤ) : ℚ) ≤ q) : 2184 ≤ toScale 2 q :=
  le_toScale_of_exact (by exact_mod_cast large) (exact_iff.mpr ⟨218400, by norm_num⟩)

end

theorem workedHours_near {clockOutAt clockInAt : Instant} {breakMinutes : ℕ} (int : breakMinutes < 2 ^ 31)
    {w : Numeric 5 2} (ok : workedHours clockOutAt clockInAt breakMinutes = .ok w) :
    0 ≤ w.val ∧ |w.val - max 0 (netHours clockOutAt clockInAt breakMinutes)| ≤ 1/200 := by
  have size := clockOutAt.abs_sub_lt clockInAt
  have exact : netHours clockOutAt clockInAt breakMinutes =
      ((clockOutAt.ms - clockInAt.ms : ℤ) / 60000 - breakMinutes) / 60 := by
    rw [netHours]
    push_cast
    ring
  rw [workedHours, netMinutes_eq _ _ int] at ok
  rw [exact]
  generalize clockOutAt.ms - clockInAt.ms = d at size ok
  have bound : max 0 (toDouble (gross d - breakMinutes)) < 2 ^ (45 : ℤ) := by
    have net : |toDouble (gross d - breakMinutes)| < 2 ^ (43 : ℤ) :=
      abs_toDouble_lt (by norm_num) (abs_net_lt size int)
    rw [max_lt_iff]
    norm_num at net ⊢
    linarith [le_abs_self (toDouble (gross d - breakMinutes))]
  rw [hoursColumn_eq (le_max_left _ _) bound, column_eq_ok] at ok
  have val := Numeric.ofRat_val ok
  rw [toScale_of_exact (exact_toScale 2 _)] at val
  obtain nothing | some := le_total d (60000 * breakMinutes)
  · have net : ((d : ℚ) / 60000 - breakMinutes) / 60 ≤ 0 := by
      have cast : (d : ℚ) ≤ 60000 * breakMinutes := by exact_mod_cast nothing
      linarith
    rw [minutes_nothing size int nothing, hundredths_zero, toScale_hundredths le_rfl (by norm_num)] at val
    rw [val, max_eq_left net]
    norm_num
  by_cases large : 60000 * (breakMinutes + 2 ^ 17) ≤ d
  · have least := hundredths_large int large
    have double : ((2184 : ℤ) : ℚ) ≤ toDouble (hundredths (max 0 (toDouble (gross d - breakMinutes))) / 100) := by
      apply le_toDouble_of_pos (by norm_num) (by norm_num)
      rw [le_div_iff₀ (by norm_num)]
      exact_mod_cast least
    have high := toScale_large double
    rw [← val] at high
    have fits : w.val < 1000 := by
      have units : (w.units : ℚ) < 100000 := by
        have := w.fits
        exact_mod_cast (by omega : w.units < 100000)
      rw [Numeric.val]
      norm_num
      linarith
    linarith
  · have near := hundredths_near int some (not_le.mp large)
    have net : 0 ≤ ((d : ℚ) / 60000 - breakMinutes) / 60 := by
      have cast : 60000 * (breakMinutes : ℚ) ≤ d := by exact_mod_cast some
      linarith
    have top : ((d : ℚ) / 60000 - breakMinutes) < 2 ^ 17 := by
      have cast : (d : ℚ) < 60000 * (breakMinutes + 2 ^ 17) := by exact_mod_cast not_le.mp large
      linarith
    generalize hundredths (max 0 (toDouble (gross d - breakMinutes))) = k at near val
    rw [abs_le] at near
    have nonneg : 0 ≤ k := by
      have above : (-1 : ℚ) < k := by linarith
      have := (by exact_mod_cast above : (-1 : ℤ) < k)
      omega
    have small : k < 2 ^ 40 := by
      have below : (k : ℚ) < 2 ^ 40 := by
        norm_num at top ⊢
        linarith
      exact_mod_cast below
    rw [toScale_hundredths nonneg small] at val
    rw [val, max_eq_right net, abs_le]
    refine ⟨div_nonneg (by exact_mod_cast nonneg) (by norm_num), ?_, ?_⟩ <;> linarith

end SmartErp.Hr
