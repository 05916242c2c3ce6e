import SmartErp.Foundations.Script
import Mathlib.Data.Bool.AllAny
import Mathlib.Data.List.DropRight
import Mathlib.Data.Rat.Floor

/-!
# Double-precision arithmetic

A number of the language has 53 significant bits. An operation gives the exact result rounded to the nearest
of these numbers, ties to the even one, and `Infinity` beyond the largest. Whole numbers stay whole, and
below `2 ^ 53` they stay what they are.
-/

namespace Foundations

def roundHalfEven (q : ℚ) : ℤ :=
  let n := ⌊q⌋
  if q < n + 1/2 then n else if n + 1/2 < q then n + 1 else if n % 2 = 0 then n else n + 1

@[simp] theorem roundHalfEven_intCast (n : ℤ) : roundHalfEven n = n := by
  have below : (n : ℚ) < n + 1/2 := by linarith
  simp only [roundHalfEven, Int.floor_intCast]
  exact if_pos below

theorem roundHalfEven_le {q : ℚ} {n : ℤ} (le : q ≤ n) : roundHalfEven q ≤ n := by
  have floor : ⌊q⌋ ≤ n := Int.floor_le_iff.mpr (by linarith)
  -- A number that is rounded up is no whole number.
  have above (high : (⌊q⌋ : ℚ) + 1/2 ≤ q) : ⌊q⌋ + 1 ≤ n := by
    have small : (⌊q⌋ : ℚ) < n := by linarith
    exact_mod_cast small
  unfold roundHalfEven
  dsimp only
  split_ifs with low high even
  · exact floor
  · exact above high.le
  · exact floor
  · exact above (not_lt.mp low)

theorem le_roundHalfEven {q : ℚ} {n : ℤ} (le : n ≤ q) : n ≤ roundHalfEven q := by
  have floor : n ≤ ⌊q⌋ := Int.le_floor.mpr le
  unfold roundHalfEven
  dsimp only
  split_ifs <;> omega

theorem abs_roundHalfEven_sub_le (q : ℚ) : |roundHalfEven q - q| ≤ 1/2 := by
  have below := Int.floor_le q
  have above := Int.lt_floor_add_one q
  unfold roundHalfEven
  dsimp only
  split_ifs <;>
  · push_cast
    rw [abs_le]
    constructor <;> linarith

def firstBit (q : ℚ) : ℤ :=
  let e := (Nat.log2 q.num.natAbs : ℤ) - Nat.log2 q.den
  if |q| < 2 ^ e then e - 1 else e

def lastBit (q : ℚ) : ℤ := max (firstBit q - 52) (-1074)

def toDouble (q : ℚ) : ℚ := roundHalfEven (q / 2 ^ lastBit q) * 2 ^ lastBit q

theorem toDouble_of_multiple {q : ℚ} {n : ℤ} (multiple : q = n * 2 ^ lastBit q) : toDouble q = q := by
  have scaled : q / 2 ^ lastBit q = n := (div_eq_iff (zpow_ne_zero _ two_ne_zero)).mpr multiple
  rw [toDouble, scaled, roundHalfEven_intCast, ← multiple]

theorem zpow_firstBit_le {q : ℚ} (ne : q ≠ 0) : (2 : ℚ) ^ firstBit q ≤ |q| := by
  have size : |q| = q.num.natAbs / q.den := by
    conv_lhs => rw [← Rat.num_div_den q]
    rw [abs_div, Nat.abs_cast, Nat.cast_natAbs, Int.cast_abs]
  have den : (0 : ℚ) < q.den := by exact_mod_cast q.den_pos
  have num : (2 : ℚ) ^ Nat.log2 q.num.natAbs ≤ q.num.natAbs := by
    exact_mod_cast Nat.log2_self_le (Int.natAbs_ne_zero.mpr (Rat.num_ne_zero.mpr ne))
  have below : (q.den : ℚ) ≤ 2 ^ (Nat.log2 q.den + 1) := by
    exact_mod_cast Nat.lt_log2_self.le
  have low : (2 : ℚ) ^ ((Nat.log2 q.num.natAbs : ℤ) - Nat.log2 q.den - 1) ≤ |q| := by
    have exponent : (2 : ℚ) ^ ((Nat.log2 q.den : ℤ) + 1) = 2 ^ (Nat.log2 q.den + 1) := by
      rw [← zpow_natCast, Nat.cast_add, Nat.cast_one]
    rw [size, le_div_iff₀ den, sub_sub, zpow_sub₀ two_ne_zero, exponent, zpow_natCast, div_mul_eq_mul_div,
      div_le_iff₀ (pow_pos two_pos _)]
    exact mul_le_mul num below den.le (Nat.cast_nonneg _)
  unfold firstBit
  dsimp only
  split_ifs with less
  · exact low
  · exact not_lt.mp less

theorem firstBit_lt {q : ℚ} {e : ℤ} (ne : q ≠ 0) (small : |q| < 2 ^ e) : firstBit q < e :=
  (zpow_lt_zpow_iff_right₀ one_lt_two).mp ((zpow_firstBit_le ne).trans_lt small)

theorem lt_zpow_firstBit (q : ℚ) : |q| < 2 ^ (firstBit q + 1) := by
  have size : |q| = q.num.natAbs / q.den := by
    conv_lhs => rw [← Rat.num_div_den q]
    rw [abs_div, Nat.abs_cast, Nat.cast_natAbs, Int.cast_abs]
  have den : (0 : ℚ) < q.den := by exact_mod_cast q.den_pos
  have num : (q.num.natAbs : ℚ) < 2 ^ (Nat.log2 q.num.natAbs + 1) := by exact_mod_cast Nat.lt_log2_self
  have above : (2 : ℚ) ^ Nat.log2 q.den ≤ q.den := by exact_mod_cast Nat.log2_self_le q.den_nz
  have high : |q| < 2 ^ ((Nat.log2 q.num.natAbs : ℤ) - Nat.log2 q.den + 1) := by
    have exponent : (2 : ℚ) ^ ((Nat.log2 q.num.natAbs : ℤ) - Nat.log2 q.den + 1) =
        2 ^ (Nat.log2 q.num.natAbs + 1) / 2 ^ Nat.log2 q.den := by
      rw [sub_add_eq_add_sub, zpow_sub₀ two_ne_zero, zpow_natCast, ← Nat.cast_succ, zpow_natCast]
    rw [size, exponent, div_lt_div_iff₀ den (pow_pos two_pos _)]
    exact mul_lt_mul num above (pow_pos two_pos _) (pow_pos two_pos _).le
  unfold firstBit
  dsimp only
  split_ifs with less
  · rwa [sub_add_cancel]
  · exact high

theorem abs_toDouble_sub_le {q : ℚ} {e : ℤ} (normal : -1021 ≤ e) (small : |q| < 2 ^ e) :
    |toDouble q - q| ≤ 2 ^ (e - 54) := by
  have unit : (0 : ℚ) < 2 ^ lastBit q := zpow_pos two_pos _
  by_cases zero : q = 0
  · have same : toDouble (0 : ℤ) = (0 : ℤ) := toDouble_of_multiple (n := 0) (by simp)
    rw [zero]
    rw [Int.cast_zero] at same
    rw [same, sub_zero, abs_zero]
    exact (zpow_pos two_pos _).le
  have last : lastBit q ≤ e - 53 := by
    have first := firstBit_lt zero small
    unfold lastBit
    omega
  have moved : toDouble q - q = (roundHalfEven (q / 2 ^ lastBit q) - q / 2 ^ lastBit q) * 2 ^ lastBit q := by
    rw [sub_mul, div_mul_cancel₀ _ unit.ne', toDouble]
  calc |toDouble q - q| ≤ 1/2 * 2 ^ lastBit q := by
        rw [moved, abs_mul, abs_of_pos unit]
        exact mul_le_mul_of_nonneg_right (abs_roundHalfEven_sub_le _) unit.le
    _ ≤ 1/2 * 2 ^ (e - 53) := by
        gcongr
        exact one_le_two
    _ = 2 ^ (e - 54) := by
        rw [show e - 53 = (e - 54) + 1 by ring, zpow_add_one₀ two_ne_zero]
        ring

theorem toDouble_nonneg {q : ℚ} (nonneg : 0 ≤ q) : 0 ≤ toDouble q := by
  have unit : (0 : ℚ) < 2 ^ lastBit q := zpow_pos two_pos _
  have scaled : ((0 : ℤ) : ℚ) ≤ q / 2 ^ lastBit q := by
    rw [Int.cast_zero]
    positivity
  have rounded : (0 : ℚ) ≤ roundHalfEven (q / 2 ^ lastBit q) := by exact_mod_cast le_roundHalfEven scaled
  exact mul_nonneg rounded unit.le

theorem toDouble_neg_of_le {q : ℚ} (neg : q ≤ -1) : toDouble q < 0 := by
  have unit : (0 : ℚ) < 2 ^ lastBit q := zpow_pos two_pos _
  have size : |q| = -q := abs_of_nonpos (by linarith)
  have first : 0 ≤ firstBit q := by
    have above : (2 : ℚ) ^ (0 : ℤ) < 2 ^ (firstBit q + 1) := by
      rw [zpow_zero]
      linarith [lt_zpow_firstBit q]
    have := (zpow_lt_zpow_iff_right₀ one_lt_two).mp above
    omega
  have last : (2 : ℚ) ^ lastBit q ≤ |q| := by
    have below : lastBit q ≤ firstBit q := by
      unfold lastBit
      omega
    exact (zpow_le_zpow_right₀ one_le_two below).trans (zpow_firstBit_le (by linarith))
  have scaled : q / 2 ^ lastBit q ≤ ((-1 : ℤ) : ℚ) := by
    rw [div_le_iff₀ unit]
    push_cast
    linarith
  have rounded : (roundHalfEven (q / 2 ^ lastBit q) : ℚ) ≤ -1 := by exact_mod_cast roundHalfEven_le scaled
  exact mul_neg_of_neg_of_pos (by linarith) unit

theorem lastBit_nonpos {q : ℚ} (small : |q| < 2 ^ 53) : lastBit q ≤ 0 := by
  by_cases zero : q = 0
  · subst zero
    decide +kernel
  · have first : firstBit q < 53 := firstBit_lt zero (by exact_mod_cast small)
    unfold lastBit
    omega

theorem exists_unit {q : ℚ} (small : |q| < 2 ^ 53) : ∃ k : ℕ, (2 : ℚ) ^ lastBit q = (2 ^ k)⁻¹ := by
  obtain ⟨k, hk⟩ := Int.eq_ofNat_of_zero_le (neg_nonneg.mpr (lastBit_nonpos small))
  refine ⟨k, ?_⟩
  rw [show lastBit q = -(k : ℤ) by omega, zpow_neg, zpow_natCast]

theorem toDouble_le {q : ℚ} {n : ℤ} (small : |q| < 2 ^ 53) (le : q ≤ n) : toDouble q ≤ n := by
  obtain ⟨k, unit⟩ := exists_unit small
  have pos : (0 : ℚ) < 2 ^ k := by positivity
  have scaled : q * 2 ^ k ≤ (n * 2 ^ k : ℤ) := by
    push_cast
    exact mul_le_mul_of_nonneg_right le pos.le
  rw [toDouble, unit, div_inv_eq_mul, mul_inv_le_iff₀ pos]
  exact_mod_cast roundHalfEven_le scaled

theorem le_toDouble {q : ℚ} {n : ℤ} (small : |q| < 2 ^ 53) (le : n ≤ q) : n ≤ toDouble q := by
  obtain ⟨k, unit⟩ := exists_unit small
  have pos : (0 : ℚ) < 2 ^ k := by positivity
  have scaled : (n * 2 ^ k : ℤ) ≤ q * 2 ^ k := by
    push_cast
    exact mul_le_mul_of_nonneg_right le pos.le
  rw [toDouble, unit, div_inv_eq_mul, le_mul_inv_iff₀ pos]
  exact_mod_cast le_roundHalfEven scaled

/-- The finite numbers that doubles are, and those past the largest with as many bits. -/
def IsDouble (q : ℚ) : Prop := ∃ m e : ℤ, |m| ≤ 2 ^ 53 ∧ -1074 ≤ e ∧ q = m * 2 ^ e

theorem isDouble_zero : IsDouble 0 := ⟨0, 0, by simp⟩

theorem isDouble_toDouble (q : ℚ) : IsDouble (toDouble q) := by
  have unit : (0 : ℚ) < 2 ^ lastBit q := zpow_pos two_pos _
  have bits : |q / 2 ^ lastBit q| ≤ (2 ^ 53 : ℤ) := by
    rw [abs_div, abs_of_pos unit, div_le_iff₀ unit]
    have last : firstBit q + 1 ≤ 53 + lastBit q := by
      unfold lastBit
      omega
    calc |q| ≤ 2 ^ (firstBit q + 1) := (lt_zpow_firstBit q).le
      _ ≤ 2 ^ (53 + lastBit q) := zpow_le_zpow_right₀ one_le_two last
      _ = (2 ^ 53 : ℤ) * 2 ^ lastBit q := by
        rw [zpow_add₀ two_ne_zero]
        norm_cast
  rw [abs_le] at bits
  refine ⟨roundHalfEven (q / 2 ^ lastBit q), lastBit q, abs_le.mpr ⟨?_, roundHalfEven_le bits.2⟩, le_max_right _ _, rfl⟩
  apply le_roundHalfEven
  rw [Int.cast_neg]
  exact bits.1

theorem toDouble_of_isDouble {q : ℚ} (double : IsDouble q) : toDouble q = q := by
  -- The largest number of bits may be written with one bit less.
  obtain ⟨m, e, bits, subnormal, rfl⟩ : ∃ m e : ℤ, |m| < 2 ^ 53 ∧ -1074 ≤ e ∧ q = m * 2 ^ e := by
    obtain ⟨m, e, bits, subnormal, rfl⟩ := double
    rcases bits.lt_or_eq with less | full
    · exact ⟨m, e, less, subnormal, rfl⟩
    · obtain ⟨n, rfl, less⟩ : ∃ n, m = n * 2 ∧ |n| < 2 ^ 53 := by
        rcases (abs_eq (by norm_num)).mp full with rfl | rfl
        · exact ⟨2 ^ 52, by norm_num, by norm_num⟩
        · exact ⟨-2 ^ 52, by norm_num, by norm_num⟩
      refine ⟨n, e + 1, less, by omega, ?_⟩
      rw [zpow_add_one₀ two_ne_zero]
      push_cast
      ring
  by_cases zero : m = 0
  · apply toDouble_of_multiple (n := 0)
    simp [zero]
  have unit : (0 : ℚ) < 2 ^ e := zpow_pos two_pos _
  have small : |(m : ℚ) * 2 ^ e| < 2 ^ (53 + e) := by
    rw [abs_mul, abs_of_pos unit, zpow_add₀ two_ne_zero]
    exact mul_lt_mul_of_pos_right (by exact_mod_cast bits) unit
  have first := firstBit_lt (mul_ne_zero (by exact_mod_cast zero) unit.ne') small
  have last : lastBit ((m : ℚ) * 2 ^ e) ≤ e := by
    unfold lastBit
    omega
  obtain ⟨k, shift⟩ : ∃ k : ℕ, e = k + lastBit ((m : ℚ) * 2 ^ e) := ⟨(e - lastBit ((m : ℚ) * 2 ^ e)).toNat, by omega⟩
  apply toDouble_of_multiple (n := m * 2 ^ k)
  conv_lhs => rw [shift]
  rw [zpow_add₀ two_ne_zero, zpow_natCast, ← mul_assoc]
  push_cast
  rfl

theorem IsDouble.le_toDouble {a q : ℚ} (double : IsDouble a) (pos : 0 < q) (le : a ≤ q) : a ≤ toDouble q := by
  obtain ⟨m, e, bits, subnormal, rfl⟩ := double
  have unit : (0 : ℚ) < 2 ^ lastBit q := zpow_pos two_pos _
  -- A multiple of the last bit that is kept stays below.
  have multiple {n : ℤ} (below : n * 2 ^ lastBit q ≤ q) : n * 2 ^ lastBit q ≤ toDouble q := by
    apply mul_le_mul_of_nonneg_right _ unit.le
    exact_mod_cast le_roundHalfEven ((le_div_iff₀ unit).mpr below)
  by_cases fine : e < lastBit q
  · have first : lastBit q = firstBit q - 52 := by
      unfold lastBit at fine ⊢
      omega
    have power : ((2 ^ 52 : ℤ) : ℚ) * 2 ^ lastBit q = 2 ^ firstBit q := by
      rw [first, zpow_sub₀ two_ne_zero]
      push_cast
      norm_cast
      field_simp
    have small : m * 2 ^ e ≤ (2 : ℚ) ^ firstBit q := by
      have whole : (m : ℚ) ≤ 2 ^ (53 : ℤ) := by exact_mod_cast (le_abs_self m).trans bits
      calc (m : ℚ) * 2 ^ e ≤ 2 ^ (53 : ℤ) * 2 ^ e := mul_le_mul_of_nonneg_right whole (zpow_pos two_pos _).le
        _ = 2 ^ (53 + e) := (zpow_add₀ two_ne_zero _ _).symm
        _ ≤ 2 ^ firstBit q := zpow_le_zpow_right₀ one_le_two (by omega)
    rw [← power] at small
    apply small.trans (multiple _)
    rw [power]
    exact (zpow_firstBit_le pos.ne').trans_eq (abs_of_pos pos)
  · obtain ⟨k, hk⟩ := Int.eq_ofNat_of_zero_le (sub_nonneg.mpr (not_lt.mp fine))
    have scaled : (m : ℚ) * 2 ^ e = (m * 2 ^ k : ℤ) * 2 ^ lastBit q := by
      rw [show e = k + lastBit q by omega, zpow_add₀ two_ne_zero, zpow_natCast]
      push_cast
      ring
    rw [scaled] at le ⊢
    exact multiple le

theorem isDouble_intCast {n : ℤ} (safe : |n| ≤ 2 ^ 53) : IsDouble n := ⟨n, 0, safe, by norm_num, by simp⟩

theorem le_toDouble_of_pos {n : ℤ} {q : ℚ} (pos : 0 < n) (safe : n ≤ 2 ^ 53) (le : n ≤ q) : n ≤ toDouble q := by
  have double := isDouble_intCast ((abs_of_pos pos).trans_le safe)
  have pos' : (0 : ℚ) < n := by exact_mod_cast pos
  exact double.le_toDouble (pos'.trans_le le) le

theorem abs_toDouble_lt {q : ℚ} {e : ℤ} (normal : -1021 ≤ e) (small : |q| < 2 ^ e) : |toDouble q| < 2 ^ (e + 1) := by
  have error := abs_toDouble_sub_le normal small
  have unit : (2 : ℚ) ^ (e - 54) ≤ 2 ^ e := zpow_le_zpow_right₀ one_le_two (by omega)
  have twice : (2 : ℚ) ^ (e + 1) = 2 ^ e + 2 ^ e := by
    rw [zpow_add_one₀ two_ne_zero]
    ring
  have triangle := abs_add_le (toDouble q - q) q
  rw [sub_add_cancel] at triangle
  linarith

theorem toDouble_of_last_neg {n : ℤ} (last : lastBit n ≤ 0) : toDouble n = n := by
  obtain ⟨k, hk⟩ := Int.eq_ofNat_of_zero_le (neg_nonneg.mpr last)
  have multiple : (n : ℚ) = (n * 2 ^ k : ℤ) * 2 ^ lastBit n := by
    rw [show lastBit n = -(k : ℤ) by omega, zpow_neg, zpow_natCast]
    push_cast
    field_simp
  exact toDouble_of_multiple multiple

theorem toDouble_safe {n : ℤ} (safe : |n| < 2 ^ 53) : toDouble n = n := by
  have bits : Nat.log2 n.natAbs ≤ 52 := by
    by_cases zero : n.natAbs = 0
    · rw [zero]
      decide
    · have small : n.natAbs < 2 ^ 53 := by
        rw [Int.abs_eq_natAbs] at safe
        exact_mod_cast safe
      have := (Nat.log2_lt zero).mpr small
      omega
  have first : firstBit n ≤ 52 := by
    have one : Nat.log2 1 = 0 := by decide
    simp only [firstBit, Rat.num_intCast, Rat.den_intCast, one]
    split <;> omega
  apply toDouble_of_last_neg
  unfold lastBit
  omega

theorem abs_sum_le {α : Type} [AddCommGroup α] [LinearOrder α] [IsOrderedAddMonoid α] (zs : List α) :
    |zs.sum| ≤ (zs.map (|·|)).sum := by
  induction zs with
  | nil => simp
  | cons z zs ih =>
      rw [List.sum_cons, List.map_cons, List.sum_cons]
      exact (abs_add_le z zs.sum).trans (add_le_add_right ih |z|)

namespace JsNumber

def double : JsNumber → JsNumber
  | finite q => if |q| < overflow then finite (toDouble q) else infinity (decide (q < 0))
  | n => n

def plus (a b : JsNumber) : JsNumber := (a.add b).double
def minus (a b : JsNumber) : JsNumber := (a.sub b).double
def times (a b : JsNumber) : JsNumber := (a.mul b).double
def dividedBy (a b : JsNumber) : JsNumber := (a.div b).double

/-- `Math.floor(n)` -/
def floor : JsNumber → JsNumber
  | nan => nan
  | infinity a => infinity a
  | finite q => finite ⌊q⌋

/-- `Math.min(a, b)` -/
def minimum (a b : JsNumber) : JsNumber :=
  if a = nan ∨ b = nan then nan else if a.le b then a else b

/-- `Math.max(a, b)` -/
def maximum (a b : JsNumber) : JsNumber :=
  if a = nan ∨ b = nan then nan else if a.le b then b else a

@[simp] theorem floor_finite (q : ℚ) : (finite q).floor = finite ⌊q⌋ := rfl

@[simp] theorem minimum_finite (p q : ℚ) : (finite p).minimum (finite q) = finite (min p q) := by
  simp only [minimum, reduceCtorEq, or_self, if_false, le_finite, min_def, apply_ite finite]

@[simp] theorem maximum_finite (p q : ℚ) : (finite p).maximum (finite q) = finite (max p q) := by
  simp only [maximum, reduceCtorEq, or_self, if_false, le_finite, max_def, apply_ite finite]

/-- `Number.isInteger(n)` -/
def isInteger : JsNumber → Bool
  | finite q => q.den = 1
  | nan | infinity _ => false

theorem isInteger_iff {n : JsNumber} : n.isInteger = true ↔ ∃ z : ℤ, n = finite z := by
  constructor
  · intro whole
    cases n with
    | finite q =>
        have den : q.den = 1 := by simpa [isInteger] using whole
        exact ⟨q.num, by rw [Rat.coe_int_num_of_den_eq_one den]⟩
    | nan => cases whole
    | infinity => cases whole
  · intro ⟨z, eq⟩
    rw [eq]
    simp [isInteger]

/-- `Number.isFinite(n)` -/
def isFinite : JsNumber → Bool
  | finite _ => true
  | nan | infinity _ => false

def magnitude : JsNumber → ℚ
  | finite q => |q|
  | nan | infinity _ => 0

theorem exists_integers {ns : List JsNumber} (whole : ∀ n ∈ ns, n.isInteger = true) :
    ∃ zs : List ℤ, ns = zs.map fun z : ℤ => finite z := by
  induction ns with
  | nil => exact ⟨[], rfl⟩
  | cons n ns ih =>
      rw [List.forall_mem_cons] at whole
      obtain ⟨z, rfl⟩ := isInteger_iff.mp whole.1
      obtain ⟨zs, rfl⟩ := ih whole.2
      exact ⟨z :: zs, rfl⟩

theorem sum_magnitude (zs : List ℤ) :
    ((zs.map fun z : ℤ => finite z).map magnitude).sum = ((zs.map (|·|)).sum : ℤ) := by
  induction zs with
  | nil => rfl
  | cons z zs ih =>
      rw [List.map_cons, List.map_cons, List.sum_cons, ih, List.map_cons, List.sum_cons, Int.cast_add, Int.cast_abs]
      rfl

theorem double_of_le {q : ℚ} (small : |q| ≤ 2 ^ 64) : (finite q).double = finite (toDouble q) := if_pos (lt_overflow small)

theorem double_safe {n : ℤ} (safe : |n| < 2 ^ 53) : (finite n).double = finite n := by
  have small : |(n : ℚ)| < overflow := by
    apply lt_overflow
    rw [← Int.cast_abs]
    have bound : (|n| : ℚ) < 2 ^ 53 := by exact_mod_cast safe
    push_cast
    linarith
  rw [double, if_pos small, toDouble_safe safe]

def IsDouble : JsNumber → Prop
  | finite q => Foundations.IsDouble q
  | nan | infinity _ => True

theorem abs_toDouble_lt_overflow {q : ℚ} (small : |q| < overflow) : |toDouble q| < overflow := by
  have unit : (0 : ℚ) < 2 ^ lastBit q := zpow_pos two_pos _
  obtain ⟨scaled, hscaled⟩ : ∃ y, y = q / 2 ^ lastBit q := ⟨_, rfl⟩
  have error := abs_roundHalfEven_sub_le scaled
  have size : |toDouble q| = |(roundHalfEven scaled : ℚ)| * 2 ^ lastBit q := by
    rw [toDouble, ← hscaled, abs_mul, abs_of_pos unit]
  have near : |(roundHalfEven scaled : ℚ)| ≤ |scaled| + 1/2 := by
    have step := abs_add_le ((roundHalfEven scaled : ℚ) - scaled) scaled
    rw [sub_add_cancel] at step
    linarith
  have magnitude : |q| = |scaled| * 2 ^ lastBit q := by
    rw [hscaled, abs_div, abs_of_pos unit, div_mul_cancel₀ _ unit.ne']
  have large : overflow = (2 ^ 54 - 1) * 2 ^ 970 := by
    rw [overflow, sub_mul, ← pow_add, one_mul]
  have positive : (0 : ℚ) < 2 ^ 970 := by positivity
  have first := lt_zpow_firstBit q
  have bound : firstBit q < 1024 := by
    by_cases zero : q = 0
    · subst zero
      decide +kernel
    · refine firstBit_lt zero (small.trans ?_)
      rw [overflow]
      exact sub_lt_self _ positive
  rw [size]
  rw [magnitude] at small
  by_cases last : lastBit q ≤ 970
  · have below : (2 : ℚ) ^ lastBit q ≤ 2 ^ 970 := by
      have mono := zpow_le_zpow_right₀ (one_le_two : (1 : ℚ) ≤ 2) last
      exact_mod_cast mono
    have bits : |scaled| < 2 ^ 53 := by
      have step : firstBit q + 1 ≤ 53 + lastBit q := by
        unfold lastBit
        omega
      have wide := first.trans_le (zpow_le_zpow_right₀ one_le_two step)
      rw [magnitude, zpow_add₀ two_ne_zero] at wide
      exact_mod_cast lt_of_mul_lt_mul_right wide unit.le
    have rounded : |(roundHalfEven scaled : ℚ)| ≤ 2 ^ 53 + 1/2 := by linarith
    calc |(roundHalfEven scaled : ℚ)| * 2 ^ lastBit q
        ≤ (2 ^ 53 + 1/2) * 2 ^ 970 := mul_le_mul rounded below unit.le (by norm_num)
      _ < overflow := by
        rw [large]
        exact mul_lt_mul_of_pos_right (by norm_num) positive
  · have exponent : lastBit q = 971 := by
      unfold lastBit at last ⊢
      omega
    have double : (2 : ℚ) ^ lastBit q = 2 * 2 ^ 970 := by
      rw [exponent, ← pow_succ', ← zpow_natCast]
      rfl
    rw [double, large, ← mul_assoc] at small
    have bits : |scaled| < 2 ^ 53 - 1/2 := by
      have scaled2 := lt_of_mul_lt_mul_right small positive.le
      linarith
    have rounded : |roundHalfEven scaled| < 2 ^ 53 := by
      have less : |(roundHalfEven scaled : ℚ)| < 2 ^ 53 := by linarith
      exact_mod_cast less
    have rounded' : |(roundHalfEven scaled : ℚ)| ≤ 2 ^ 53 - 1 := by
      have step : |roundHalfEven scaled| ≤ 2 ^ 53 - 1 := by omega
      exact_mod_cast step
    rw [double, large, ← mul_assoc]
    exact mul_lt_mul_of_pos_right (by linarith) positive

theorem isDouble_double (n : JsNumber) : n.double.IsDouble := by
  cases n with
  | finite q =>
      by_cases small : |q| < overflow
      · rw [double, if_pos small]
        exact isDouble_toDouble q
      · rw [double, if_neg small]
        trivial
  | nan => trivial
  | infinity => trivial

theorem double_double (n : JsNumber) : n.double.double = n.double := by
  cases n with
  | finite q =>
      by_cases small : |q| < overflow
      · rw [double, if_pos small, double, if_pos (abs_toDouble_lt_overflow small),
          toDouble_of_isDouble (isDouble_toDouble q)]
      · rw [double, if_neg small]
        rfl
  | nan => rfl
  | infinity => rfl

theorem double_foldl_plus {d : JsNumber} (double : d.double = d) (ns : List JsNumber) :
    (ns.foldl plus d).double = ns.foldl plus d := by
  induction ns generalizing d with
  | nil => exact double
  | cons n ns ih => exact ih (double_double _)

theorem of_double_eq {q : ℚ} (same : (finite q).double = finite q) : |q| < overflow ∧ Foundations.IsDouble q := by
  have double := isDouble_double (finite q)
  rw [same] at double
  refine ⟨?_, double⟩
  by_contra large
  rw [JsNumber.double, if_neg large] at same
  cases same

theorem double_eq {q : ℚ} (small : |q| < overflow) (double : Foundations.IsDouble q) : (finite q).double = finite q := by
  rw [JsNumber.double, if_pos small, toDouble_of_isDouble double]

theorem plus_zero {n : JsNumber} (double : n.double = n) : n.plus (finite 0) = n := by
  cases n with
  | finite q => rwa [plus, add_finite, add_zero]
  | nan => rfl
  | infinity => rfl

theorem foldl_plus_filter {α : Type} {f : α → JsNumber} {p : α → Bool} {as : List α}
    (zeros : ∀ a ∈ as, p a = false → f a = finite 0) {d : JsNumber} (double : d.double = d) :
    (as.map f).foldl plus d = ((as.filter p).map f).foldl plus d := by
  induction as generalizing d with
  | nil => rfl
  | cons a as ih =>
      rw [List.forall_mem_cons] at zeros
      cases kept : p a with
      | true =>
          rw [List.filter_cons_of_pos kept, List.map_cons, List.map_cons, List.foldl_cons, List.foldl_cons]
          exact ih zeros.2 (double_double _)
      | false =>
          rw [List.filter_cons_of_neg (by simp [kept]), List.map_cons, List.foldl_cons, zeros.1 kept, plus_zero double]
          exact ih zeros.2 double

theorem double_abs {q : ℚ} (same : (finite q).double = finite q) :
    Foundations.IsDouble |q| ∧ (finite |q|).double = finite |q| := by
  obtain ⟨small, m, e, bits, subnormal, rfl⟩ := of_double_eq same
  have unit : (0 : ℚ) < 2 ^ e := zpow_pos two_pos _
  have double' : Foundations.IsDouble |(m : ℚ) * 2 ^ e| := by
    refine ⟨|m|, e, by rwa [abs_abs], subnormal, ?_⟩
    rw [abs_mul, abs_of_pos unit]
    push_cast
    rfl
  exact ⟨double', double_eq (by rwa [abs_abs]) double'⟩

theorem le_trans {a b c : JsNumber} (ab : a.le b = true) (bc : b.le c = true) : a.le c = true := by
  cases a <;> cases b <;> cases c <;> simp_all [le] <;> grind

theorem le_refl_of_le {a b : JsNumber} (ab : a.le b = true) : b.le b = true := by
  cases a <;> cases b <;> simp_all [le]

theorem le_plus {a b : JsNumber} (double : a.IsDouble) (ha : (finite 0).le a = true) (hb : (finite 0).le b = true) :
    a.le (a.plus b) = true := by
  cases a with
  | nan => cases ha
  | infinity negative =>
      cases negative with
      | true => cases ha
      | false => cases b with
        | nan => cases hb
        | infinity negative => cases negative with
          | true => cases hb
          | false => rfl
        | finite => rfl
  | finite p => cases b with
    | nan => cases hb
    | infinity negative => cases negative with
      | true => cases hb
      | false => rfl
    | finite q =>
        rw [le_finite] at ha hb
        rw [plus, add_finite, JsNumber.double]
        split
        · rw [le_finite]
          by_cases zero : p + q = 0
          · have none : p = 0 := by linarith
            rw [none] at ha ⊢
            exact toDouble_nonneg (by linarith)
          · exact double.le_toDouble (lt_of_le_of_ne (by linarith) (Ne.symm zero)) (by linarith)
        · have positive : ¬ p + q < 0 := by linarith
          simp [le, positive]

/-- Sums of whole numbers below `2 ^ 53` altogether are exact. -/
theorem foldl_plus_safe {z : ℤ} {zs : List ℤ} (safe : |z| + (zs.map (|·|)).sum < 2 ^ 53) :
    (zs.map fun z : ℤ => finite z).foldl plus (finite z) = finite (z + zs.sum : ℤ) := by
  induction zs generalizing z with
  | nil => simp
  | cons y zs ih =>
      rw [List.map_cons, List.sum_cons] at safe
      have step := abs_add_le z y
      have rest : 0 ≤ (zs.map (|·|)).sum := List.sum_nonneg (by simp)
      have exact : (finite z).plus (finite y) = finite (z + y : ℤ) := by
        rw [plus, add_finite, ← Int.cast_add, double_safe (by omega)]
      rw [List.map_cons, List.foldl_cons, exact, ih (by omega), List.sum_cons, add_assoc]

end JsNumber
end Foundations
