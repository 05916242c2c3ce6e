import Mathlib.Algebra.Order.BigOperators.Group.List
import Mathlib.Algebra.Order.Field.Basic
import Mathlib.Algebra.Order.Floor.Ring
import Mathlib.Data.Rat.Floor
import Mathlib.Tactic.Linarith
import Mathlib.Tactic.Ring

/-!
# Fixed-point columns

A `numeric(p, s)` column holds a whole number of units of `10^-s` with at most `p` digits. A value
is rounded to the nearest unit when it is stored, ties away from zero, and refused when it has too
many digits.
-/

namespace Foundations

/-- The nearest integer, ties away from zero. -/
def roundHalfAway (q : ℚ) : ℤ := if 0 ≤ q then ⌊q + 1/2⌋ else -⌊-q + 1/2⌋

private theorem floor_intCast_add_half (n : ℤ) : ⌊(n : ℚ) + 1/2⌋ = n := by
  rw [Int.floor_intCast_add]
  norm_num

theorem roundHalfAway_intCast (n : ℤ) : roundHalfAway n = n := by
  unfold roundHalfAway
  split_ifs
  · exact floor_intCast_add_half n
  · rw [← Int.cast_neg, floor_intCast_add_half, neg_neg]

theorem roundHalfAway_mono {a b : ℚ} (le : a ≤ b) : roundHalfAway a ≤ roundHalfAway b := by
  unfold roundHalfAway
  split_ifs with ha hb hb
  · exact Int.floor_le_floor (by linarith)
  · linarith
  · have lower : 0 ≤ ⌊-a + 1/2⌋ := Int.floor_nonneg.mpr (by linarith)
    have upper : 0 ≤ ⌊b + 1/2⌋ := Int.floor_nonneg.mpr (by linarith)
    omega
  · have flipped : ⌊-b + 1/2⌋ ≤ ⌊-a + 1/2⌋ := Int.floor_le_floor (by linarith)
    omega

/-! ## Numbers with finitely many decimals -/

def Exact (s : Nat) (q : ℚ) : Prop := (q * 10 ^ s).den = 1

instance (s : Nat) (q : ℚ) : Decidable (Exact s q) := inferInstanceAs (Decidable (_ = _))

theorem exact_iff {s : Nat} {q : ℚ} : Exact s q ↔ ∃ n : ℤ, q * 10 ^ s = n :=
  ⟨fun h => ⟨_, (Rat.coe_int_num_of_den_eq_one h).symm⟩, fun ⟨n, h⟩ => by rw [Exact, h]; rfl⟩

theorem Exact.zero (s : Nat) : Exact s 0 := exact_iff.mpr ⟨0, by simp⟩

theorem Exact.add {s : Nat} {a b : ℚ} (ha : Exact s a) (hb : Exact s b) : Exact s (a + b) := by
  obtain ⟨m, hm⟩ := exact_iff.mp ha
  obtain ⟨n, hn⟩ := exact_iff.mp hb
  exact exact_iff.mpr ⟨m + n, by rw [add_mul, hm, hn, Int.cast_add]⟩

theorem Exact.neg {s : Nat} {a : ℚ} (ha : Exact s a) : Exact s (-a) := by
  obtain ⟨m, hm⟩ := exact_iff.mp ha
  exact exact_iff.mpr ⟨-m, by rw [neg_mul, hm, Int.cast_neg]⟩

theorem Exact.sub {s : Nat} {a b : ℚ} (ha : Exact s a) (hb : Exact s b) : Exact s (a - b) :=
  sub_eq_add_neg a b ▸ ha.add hb.neg

def toScale (s : Nat) (q : ℚ) : ℚ := roundHalfAway (q * 10 ^ s) / 10 ^ s

theorem scale_pos (s : Nat) : (0 : ℚ) < 10 ^ s := by positivity

theorem toScale_of_exact {s : Nat} {q : ℚ} (h : Exact s q) : toScale s q = q := by
  obtain ⟨n, hn⟩ := exact_iff.mp h
  rw [toScale, hn, roundHalfAway_intCast, ← hn]
  exact mul_div_cancel_right₀ q (scale_pos s).ne'

theorem exact_toScale (s : Nat) (q : ℚ) : Exact s (toScale s q) :=
  exact_iff.mpr ⟨_, div_mul_cancel₀ _ (scale_pos s).ne'⟩

theorem toScale_mono (s : Nat) : Monotone (toScale s) := by
  intro a b le
  have scaled : a * 10 ^ s ≤ b * 10 ^ s := mul_le_mul_of_nonneg_right le (scale_pos s).le
  exact div_le_div_of_nonneg_right (by exact_mod_cast roundHalfAway_mono scaled) (scale_pos s).le

theorem le_toScale_of_exact {s : Nat} {a b : ℚ} (le : a ≤ b) (ha : Exact s a) : a ≤ toScale s b :=
  (toScale_of_exact ha).ge.trans (toScale_mono s le)

/-! ## Rounding up -/

def roundUp (s : Nat) (q : ℚ) : ℚ := ⌈q * 10 ^ s⌉ / 10 ^ s

theorem le_roundUp (s : Nat) (q : ℚ) : q ≤ roundUp s q :=
  (le_div_iff₀ (scale_pos s)).mpr (Int.le_ceil _)

theorem exact_roundUp (s : Nat) (q : ℚ) : Exact s (roundUp s q) :=
  exact_iff.mpr ⟨_, div_mul_cancel₀ _ (scale_pos s).ne'⟩

/-! ## Sums of rounded amounts -/

theorem Exact.sum {s : Nat} {qs : List ℚ} (exact : ∀ q ∈ qs, Exact s q) : Exact s qs.sum := by
  induction qs with
  | nil => exact .zero s
  | cons q qs ih =>
      rw [List.forall_mem_cons] at exact
      rw [List.sum_cons]
      exact exact.1.add (ih exact.2)

/-- `q` rounded to `s` decimals, ties up. -/
def halfUp (s : Nat) (q : ℚ) : ℚ := ⌊q * 10 ^ s + 1/2⌋ / 10 ^ s

theorem toScale_of_nonneg {s : Nat} {q : ℚ} (nonneg : 0 ≤ q) : toScale s q = halfUp s q := by
  have scaled : 0 ≤ q * 10 ^ s := mul_nonneg nonneg (scale_pos s).le
  rw [toScale, roundHalfAway, if_pos scaled, halfUp]

theorem toScale_nonneg {s : Nat} {q : ℚ} (nonneg : 0 ≤ q) : 0 ≤ toScale s q := by
  simpa [toScale_of_exact (.zero s)] using toScale_mono s nonneg

/-! ## Columns -/

structure Numeric (p s : Nat) where
  units : ℤ
  fits : units.natAbs < 10 ^ p
  deriving DecidableEq

namespace Numeric
variable {p s : Nat}

def val (x : Numeric p s) : ℚ := x.units / 10 ^ s

def ofRat (p s : Nat) (q : ℚ) : Option (Numeric p s) :=
  if fits : (roundHalfAway (q * 10 ^ s)).natAbs < 10 ^ p then some ⟨_, fits⟩ else none

instance : Zero (Numeric p s) := ⟨⟨0, by simp⟩⟩

@[simp] theorem val_zero : (0 : Numeric p s).val = 0 := by
  change ((0 : ℤ) : ℚ) / 10 ^ s = 0
  simp

theorem exact_val (x : Numeric p s) : Exact s x.val :=
  exact_iff.mpr ⟨x.units, div_mul_cancel₀ _ (scale_pos s).ne'⟩

theorem abs_val_le_div (x : Numeric p s) : |x.val| ≤ 10 ^ p / 10 ^ s := by
  have units : |(x.units : ℚ)| ≤ 10 ^ p := by
    rw [← Int.cast_abs, Int.abs_eq_natAbs]
    exact_mod_cast x.fits.le
  rw [val, abs_div, abs_of_pos (scale_pos s)]
  gcongr

theorem abs_val_le (x : Numeric p s) : |x.val| ≤ 10 ^ p :=
  x.abs_val_le_div.trans (div_le_self (by positivity) (one_le_pow₀ (by norm_num)))

theorem ofRat_val {q : ℚ} {x : Numeric p s} (h : ofRat p s q = some x) : x.val = toScale s q := by
  unfold ofRat at h
  split at h
  · cases h
    rfl
  · cases h

theorem ofRat_self (x : Numeric p s) : ofRat p s x.val = some x := by
  have units : roundHalfAway (x.val * 10 ^ s) = x.units := by
    rw [val, div_mul_cancel₀ _ (scale_pos s).ne', roundHalfAway_intCast]
  simp only [ofRat, units, dif_pos x.fits]

end Numeric
end Foundations
