import SmartErp.Foundations.Quantities
import SmartErp.Foundations.Hundredths
import SmartErp.Foundations.Runs
import SmartErp.Foundations.Spelling

/-!
# How a request fails

An operation is a function to `Except Failure`. The services open a database transaction around
their writes, so an operation that throws leaves the database as it found it.
-/

namespace SmartErp
open Foundations

abbrev Uuid := Nat

/-- The 32 hexadecimal digits in groups of 8, 4, 4, 4 and 12. -/
def uuidText (id : Uuid) : String :=
  let digits := (List.range 32).reverse.map fun i => (id / 16 ^ i % 16).digitChar
  String.ofList (['-'].intercalate
    [digits.take 8, (digits.drop 8).take 4, (digits.drop 12).take 4, (digits.drop 16).take 4, digits.drop 20])

inductive Failure where
  | badRequest (message : String)
  | unauthorized (message : String)
  | forbidden (message : String)
  | notFound (message : String)
  | conflict (message : String)
  | unprocessable (message : String)
  | locked (message : String)
  | typeError (message : String)
  | error (message : String)
  | database (message : String)
  deriving DecidableEq

def ensure (p : Prop) [Decidable p] (failure : Failure) : Except Failure Unit :=
  if p then .ok () else .error failure

@[simp] theorem ensure_eq_ok {p : Prop} [Decidable p] {failure : Failure} {u : Unit} :
    ensure p failure = .ok u ↔ p := by
  unfold ensure
  split <;> simp_all

theorem ensure_eq_error {p : Prop} [Decidable p] {failure e : Failure} :
    ensure p failure = .error e ↔ ¬ p ∧ failure = e := by
  unfold ensure
  split <;> simp_all

theorem ensure_congr {p q : Prop} [Decidable p] [Decidable q] (same : p ↔ q) (failure : Failure) :
    ensure p failure = ensure q failure := by
  unfold ensure
  by_cases holds : q <;> simp [same, holds]

def require {α : Type} (x : Option α) (failure : Failure) : Except Failure α :=
  match x with
  | some a => .ok a
  | none => .error failure

@[simp] theorem require_eq_ok {α : Type} {x : Option α} {failure : Failure} {a : α} :
    require x failure = .ok a ↔ x = some a := by
  cases x <;> simp [require]

theorem require_eq_error {α : Type} {x : Option α} {failure e : Failure} :
    require x failure = .error e ↔ x = none ∧ failure = e := by
  cases x <;> simp [require]

def column (p s : Nat) (q : ℚ) : Except Failure (Numeric p s) :=
  require (Numeric.ofRat p s q) (.database "numeric field overflow")

@[simp] theorem column_eq_ok {p s : Nat} {q : ℚ} {x : Numeric p s} :
    column p s q = .ok x ↔ Numeric.ofRat p s q = some x := require_eq_ok

/-- `String(n)` -/
def numberText (n : JsNumber) : String := String.ofList n.spelling

def showNumber (q : ℚ) : String := numberText (.finite q)

/-- A number as a parameter of type `bigint`, which is read from its text. -/
def bigintParam : JsNumber → Except Failure ℤ
  | .finite q => do
      ensure (q.den = 1) (.database s!"invalid input syntax for type bigint: \"{showNumber q}\"")
      ensure (-2 ^ 63 ≤ JsNumber.shortest q ∧ JsNumber.shortest q < 2 ^ 63) (.database
        s!"value \"{(JsNumber.finite q).wholeText}\" is out of range for type bigint")
      return JsNumber.shortest q
  | n => .error (.database s!"invalid input syntax for type bigint: \"{n.wholeText}\"")

theorem bigintParam_natCast {n : ℕ} {z : ℤ} : bigintParam (.finite n) = .ok z ↔
    JsNumber.shortest n < 2 ^ 63 ∧ JsNumber.shortest n = z := by
  have nonneg := JsNumber.shortest_nonneg n.cast_nonneg
  simp only [bigintParam, bind_eq_ok, ensure_eq_ok, pure_eq_ok, Rat.den_natCast]
  constructor
  · rintro ⟨-, -, -, ⟨-, small⟩, rfl⟩
    exact ⟨small, rfl⟩
  · rintro ⟨small, rfl⟩
    exact ⟨(), trivial, (), ⟨by linarith, small⟩, rfl⟩

/-- A number as a parameter of type `numeric`, which is read from its text. PostgreSQL has a NaN there, but a
sum that is none comes with an infinite one. -/
def numericParam (p s : ℕ) : JsNumber → Except Failure (Numeric p s)
  | .finite q => column p s (JsNumber.finite q).spelled
  | .nan | .infinity _ => .error (.database "numeric field overflow")

theorem numericParam_eq_ok {p s : ℕ} {n : JsNumber} {x : Numeric p s} :
    numericParam p s n = .ok x ↔ (∃ q, n = .finite q) ∧ Numeric.ofRat p s n.spelled = some x := by
  cases n <;> simp [numericParam]

theorem numericParam_val {p s : ℕ} {n : JsNumber} {x : Numeric p s} (ok : numericParam p s n = .ok x) :
    (∃ d, n = .finite d) ∧ x.val = toScale s n.spelled := by
  rw [numericParam_eq_ok] at ok
  exact ⟨ok.1, Numeric.ofRat_val ok.2⟩

theorem numericParam_error {p s : ℕ} {n : JsNumber} {e : Failure} (fails : numericParam p s n = .error e) :
    ∃ message, e = .database message := by
  cases n with
  | nan => exact ⟨_, (Except.error.inj fails).symm⟩
  | infinity => exact ⟨_, (Except.error.inj fails).symm⟩
  | finite q =>
      rw [numericParam, column, require_eq_error] at fails
      exact ⟨_, fails.2.symm⟩

theorem rounds_of_numericParam {p s : ℕ} {n : JsNumber} {x : Numeric p s} (double : n.double = n) (digits : p ≤ 14)
    (scale : s ≤ p) (ok : numericParam p s (n.fixed s) = .ok x) : n.Rounds s x.val := by
  have ten := scale_pos s
  have one : (1 : ℚ) ≤ 10 ^ s := one_le_pow₀ (by norm_num)
  have most : (10 : ℚ) ^ p ≤ 10 ^ 14 := pow_le_pow_right₀ (by norm_num) digits
  have powers : (10 : ℚ) ^ s ≤ 10 ^ p := pow_le_pow_right₀ (by norm_num) scale
  obtain ⟨number, value⟩ := numericParam_val ok
  -- The text is that of a number below the limit of the column.
  obtain ⟨size, hsize⟩ : ∃ size : ℚ, size = (10 ^ p + 1/2) / 10 ^ s := ⟨_, rfl⟩
  have within : |(n.fixed s).spelled| ≤ size := hsize ▸ (le_div_iff₀ ten).mpr (abs_mul_le_of_toScale value)
  have least : 1 ≤ size := by
    rw [hsize, le_div_iff₀ ten]
    linarith
  have small : size ≤ 2 ^ 60 := by
    rw [hsize, div_le_iff₀ ten]
    nlinarith
  have near {y : ℚ} := @JsNumber.abs_le_of_spelled _ y _ (normal_of_le (by linarith)) small number within
  cases n with
  | nan =>
      rw [JsNumber.fixed_nan] at number
      cases number.choose_spec
  | infinity negative =>
      rw [JsNumber.fixed_infinity] at number
      cases number.choose_spec
  | finite q =>
      by_cases low : |q| < 10 ^ 21
      · have same := JsNumber.fixed_small low s
        have fits : |toScale s q| * 10 ^ s < 10 ^ 15 := by
          have scaled := mul_le_mul_of_nonneg_right (near same) ten.le
          have cancel : (size + size / 2 ^ 50) * 10 ^ s = (10 ^ p + 1/2) + (10 ^ p + 1/2) / 2 ^ 50 := by
            rw [hsize]
            field_simp
          linarith
        refine ⟨q, rfl, low, ?_⟩
        rw [value, same, JsNumber.spelled_double (exact_toScale s q) (by omega) fits, toScale_of_exact (exact_toScale s q)]
      · have same := JsNumber.fixed_large low double s
        have bound := near (same.trans double.symm)
        linarith

theorem numericParam_of_rounds {p s : ℕ} {n : JsNumber} {x : Numeric p s} (digits : p ≤ 14) (scale : s ≤ p)
    (rounds : n.Rounds s x.val) : numericParam p s (n.fixed s) = .ok x := by
  have number : x.number = n.fixed s := rounds.fixed.symm
  have bound : |x.val| ≤ 2 ^ 64 := by
    have most : (10 : ℚ) ^ p ≤ 10 ^ 14 := pow_le_pow_right₀ (by norm_num) digits
    exact x.abs_val_le.trans (most.trans (by norm_num))
  rw [numericParam_eq_ok]
  refine ⟨⟨_, rounds.fixed.trans (JsNumber.double_of_le bound)⟩, ?_⟩
  rw [← number, x.spelled_number digits (by omega), Numeric.ofRat_self]

theorem numericParam_fixed {p s : ℕ} {n : JsNumber} {x : Numeric p s} (double : n.double = n) (digits : p ≤ 14)
    (scale : s ≤ p) : numericParam p s (n.fixed s) = .ok x ↔ n.Rounds s x.val :=
  ⟨rounds_of_numericParam double digits scale, numericParam_of_rounds digits scale⟩

def reach (fault : Option Failure) : Except Failure Unit :=
  match fault with
  | none => .ok ()
  | some failure => .error failure

@[simp] theorem reach_eq_ok {fault : Option Failure} {u : Unit} : reach fault = .ok u ↔ fault = none := by
  cases fault <;> simp [reach]

def Failure.message : Failure → String
  | badRequest message | unauthorized message | forbidden message | notFound message | conflict message
  | unprocessable message | locked message | typeError message | error message | database message => message

def settle {σ : Type} (s : σ) : Except Failure σ → σ
  | .ok t => t
  | .error _ => s

def failureOf {σ : Type} : Except Failure σ → Option Failure
  | .ok _ => none
  | .error e => some e

theorem settle_keeps {σ : Type} {I : σ → Prop} {s : σ} {result : Except Failure σ} (init : I s)
    (keep : ∀ t, result = .ok t → I t) : I (settle s result) := by
  cases result with
  | ok t => exact keep t rfl
  | error => exact init

end SmartErp
