import SmartErp.Foundations.Double
import Mathlib.Data.Int.Log

/-!
# What rounding keeps

Rounding is odd and monotone, and passes no double. The difference of two doubles that are within a factor of two
of each other is one itself.
-/

namespace Foundations

/-! ## The nearest integer -/

theorem roundHalfEven_mono {p q : ℚ} (le : p ≤ q) : roundHalfEven p ≤ roundHalfEven q := by
  by_contra! more
  -- Only `p` is rounded up, from the same whole number.
  have below : (roundHalfEven q : ℚ) < p := by
    by_contra! above
    exact absurd (roundHalfEven_le above) (not_le.mpr more)
  have floor : ⌊q⌋ = roundHalfEven q := by
    have up : roundHalfEven q ≤ ⌊q⌋ := Int.le_floor.mpr (below.le.trans le)
    have down : ⌊q⌋ ≤ roundHalfEven q := le_roundHalfEven (Int.floor_le q)
    omega
  have same : ⌊p⌋ = ⌊q⌋ := by
    rw [Int.floor_eq_iff]
    rw [← floor] at below
    exact ⟨below.le, le.trans_lt (Int.lt_floor_add_one q)⟩
  have kept := floor
  unfold roundHalfEven at kept more
  rw [same] at more
  dsimp only at kept more
  split_ifs at kept more <;> first | omega | linarith

theorem roundHalfEven_neg (q : ℚ) : roundHalfEven (-q) = -roundHalfEven q := by
  obtain ⟨n, hn⟩ : ∃ n, n = ⌊q⌋ := ⟨_, rfl⟩
  by_cases whole : (n : ℚ) = q
  · rw [← whole, ← Int.cast_neg, roundHalfEven_intCast, roundHalfEven_intCast]
  have floor := Int.floor_le q
  have ceil := Int.lt_floor_add_one q
  rw [← hn] at floor ceil
  have strict : (n : ℚ) < q := lt_of_le_of_ne floor whole
  have down : ⌊-q⌋ = -n - 1 := by
    rw [Int.floor_eq_iff]
    push_cast
    constructor <;> linarith
  unfold roundHalfEven
  rw [down, ← hn]
  dsimp only
  push_cast
  split_ifs <;> first | omega | linarith

/-! ## The nearest double -/

theorem firstBit_neg (q : ℚ) : firstBit (-q) = firstBit q := by
  simp [firstBit]

theorem lastBit_neg (q : ℚ) : lastBit (-q) = lastBit q := by
  rw [lastBit, firstBit_neg, lastBit]

theorem toDouble_neg (q : ℚ) : toDouble (-q) = -toDouble q := by
  rw [toDouble, lastBit_neg, neg_div, roundHalfEven_neg, toDouble, Int.cast_neg, neg_mul]

theorem IsDouble.neg {q : ℚ} (double : IsDouble q) : IsDouble (-q) := by
  obtain ⟨m, e, bits, subnormal, rfl⟩ := double
  exact ⟨-m, e, by rwa [abs_neg], subnormal, by push_cast; ring⟩

theorem isDouble_zpow {e : ℤ} (normal : -1074 ≤ e) : IsDouble (2 ^ e) :=
  ⟨1, e, by norm_num, normal, by simp⟩

theorem lastBit_le {p q : ℚ} (pos : 0 < p) (le : p ≤ q) : lastBit p ≤ lastBit q := by
  have first : firstBit p ≤ firstBit q := by
    have low := zpow_firstBit_le pos.ne'
    have high := lt_zpow_firstBit q
    rw [abs_of_pos pos] at low
    rw [abs_of_pos (pos.trans_le le)] at high
    have := (zpow_lt_zpow_iff_right₀ one_lt_two).mp ((low.trans le).trans_lt high)
    omega
  unfold lastBit
  omega

theorem IsDouble.toDouble_le {a q : ℚ} (double : IsDouble a) (pos : 0 < q) (le : q ≤ a) : toDouble q ≤ a := by
  have unit : (0 : ℚ) < 2 ^ lastBit q := zpow_pos two_pos _
  -- The last bit of `a` is no finer.
  obtain ⟨n, rfl⟩ : ∃ n : ℤ, a = n * 2 ^ lastBit q := by
    have coarser := lastBit_le pos le
    have same := toDouble_of_isDouble double
    obtain ⟨k, hk⟩ := Int.eq_ofNat_of_zero_le (sub_nonneg.mpr coarser)
    refine ⟨roundHalfEven (a / 2 ^ lastBit a) * 2 ^ k, ?_⟩
    rw [toDouble, show lastBit a = k + lastBit q by omega, zpow_add₀ two_ne_zero, zpow_natCast, ← mul_assoc] at same
    rw [show lastBit a = k + lastBit q by omega, zpow_add₀ two_ne_zero, zpow_natCast]
    push_cast
    exact same.symm
  apply mul_le_mul_of_nonneg_right _ unit.le
  exact_mod_cast roundHalfEven_le ((div_le_iff₀ unit).mpr le)

theorem toDouble_pos_mono {p q : ℚ} (pos : 0 < p) (le : p ≤ q) : toDouble p ≤ toDouble q := by
  have pos' := pos.trans_le le
  rcases (lastBit_le pos le).eq_or_lt with same | finer
  · rw [toDouble, toDouble, same]
    have unit : (0 : ℚ) < 2 ^ lastBit q := zpow_pos two_pos _
    apply mul_le_mul_of_nonneg_right _ unit.le
    exact_mod_cast roundHalfEven_mono (div_le_div_of_nonneg_right le unit.le)
  · -- The power of two between them is a double.
    have first : lastBit q = firstBit q - 52 ∧ firstBit p < firstBit q := by
      unfold lastBit at finer ⊢
      omega
    have double : IsDouble ((2 : ℚ) ^ firstBit q) := isDouble_zpow (by unfold lastBit at first; omega)
    have low := zpow_firstBit_le pos'.ne'
    have high := lt_zpow_firstBit p
    rw [abs_of_pos pos'] at low
    rw [abs_of_pos pos] at high
    have between : (2 : ℚ) ^ (firstBit p + 1) ≤ 2 ^ firstBit q := zpow_le_zpow_right₀ one_le_two (by omega)
    exact (double.toDouble_le pos (high.le.trans between)).trans (double.le_toDouble pos' low)

@[simp] theorem toDouble_zero : toDouble 0 = 0 := toDouble_of_isDouble isDouble_zero

theorem toDouble_mono {p q : ℚ} (le : p ≤ q) : toDouble p ≤ toDouble q := by
  rcases lt_trichotomy p 0 with neg | rfl | pos
  · by_cases nonneg : 0 ≤ q
    · have low : toDouble p ≤ 0 := by
        have mirrored := toDouble_nonneg (neg_nonneg.mpr neg.le)
        rw [toDouble_neg] at mirrored
        linarith
      exact low.trans (toDouble_nonneg nonneg)
    · have mirrored := toDouble_pos_mono (neg_pos.mpr (not_le.mp nonneg)) (neg_le_neg le)
      rw [toDouble_neg, toDouble_neg] at mirrored
      linarith
  · rw [toDouble_zero]
    exact toDouble_nonneg le
  · exact toDouble_pos_mono pos le

theorem IsDouble.le_toDouble_of_le {a q : ℚ} (double : IsDouble a) (le : a ≤ q) : a ≤ toDouble q :=
  (toDouble_of_isDouble double).ge.trans (toDouble_mono le)

theorem IsDouble.toDouble_le_of_le {a q : ℚ} (double : IsDouble a) (le : q ≤ a) : toDouble q ≤ a :=
  (toDouble_mono le).trans (toDouble_of_isDouble double).le

theorem abs_toDouble_sub_le_mul {q size : ℚ} (normal : 2 ^ (-1022 : ℤ) ≤ size) (le : |q| ≤ size) :
    |toDouble q - q| ≤ size / 2 ^ 53 := by
  have positive : 0 < size := (zpow_pos two_pos _).trans_le normal
  obtain ⟨e, he⟩ : ∃ e, e = Int.log 2 size := ⟨_, rfl⟩
  have low : (2 : ℚ) ^ e ≤ size := by
    rw [he]
    exact_mod_cast Int.zpow_log_le_self one_lt_two positive
  have high : size < (2 : ℚ) ^ (e + 1) := by
    rw [he]
    exact_mod_cast Int.lt_zpow_succ_log_self one_lt_two size
  have exponent : -1022 < e + 1 := (zpow_lt_zpow_iff_right₀ (one_lt_two : (1 : ℚ) < 2)).mp (normal.trans_lt high)
  calc |toDouble q - q| ≤ 2 ^ (e + 1 - 54) := abs_toDouble_sub_le (by omega) (le.trans_lt high)
    _ = 2 ^ e / 2 ^ 53 := by
        rw [show e + 1 - 54 = e - (53 : ℕ) by push_cast; ring, zpow_sub₀ two_ne_zero, zpow_natCast]
    _ ≤ size / 2 ^ 53 := by gcongr

theorem normal_of_le {size : ℚ} (least : 1 / 2 ^ 64 ≤ size) : 2 ^ (-1022 : ℤ) ≤ size := by
  have tiny : (2 : ℚ) ^ (-1022 : ℤ) ≤ 2 ^ (-64 : ℤ) := zpow_le_zpow_right₀ one_le_two (by norm_num)
  apply tiny.trans
  rwa [zpow_neg, ← one_div]

theorem toDouble_ne_zero {q : ℚ} (least : 1 / 2 ^ 64 ≤ |q|) : toDouble q ≠ 0 := by
  intro zero
  have rounded := abs_toDouble_sub_le_mul (normal_of_le least) le_rfl
  rw [zero, zero_sub, abs_neg] at rounded
  linarith

theorem exists_toDouble_intCast (n : ℤ) : ∃ m : ℤ, toDouble n = m := by
  by_cases fine : lastBit n ≤ 0
  · exact ⟨n, toDouble_of_last_neg fine⟩
  · obtain ⟨k, hk⟩ := Int.eq_ofNat_of_zero_le (not_le.mp fine).le
    refine ⟨roundHalfEven (n / 2 ^ lastBit n) * 2 ^ k, ?_⟩
    rw [toDouble, hk, zpow_natCast]
    push_cast
    rfl

namespace JsNumber

def Near (n : JsNumber) (x error : ℚ) : Prop := ∃ d, n = finite d ∧ |d - x| ≤ error

theorem Near.exact (q : ℚ) : Near (finite q) q 0 := ⟨q, rfl, by simp⟩

theorem Near.mono {n : JsNumber} {x e f : ℚ} (near : Near n x e) (le : e ≤ f) : Near n x f := by
  obtain ⟨d, rfl, close⟩ := near
  exact ⟨d, rfl, close.trans le⟩

theorem Near.abs {n : JsNumber} {x e : ℚ} (near : Near n x e) : Near n.abs |x| e := by
  obtain ⟨d, rfl, close⟩ := near
  exact ⟨|d|, rfl, (abs_abs_sub_abs_le d x).trans close⟩

theorem Near.le {a b : JsNumber} {x y e f : ℚ} (near : Near a x e) (near' : Near b y f) (le : a.le b = true) :
    x ≤ y + e + f := by
  obtain ⟨c, rfl, close⟩ := near
  obtain ⟨d, rfl, close'⟩ := near'
  rw [le_finite] at le
  rw [abs_le] at close close'
  linarith

theorem Near.le_of_not_lt {a b : JsNumber} {x y e f : ℚ} (near : Near a x e) (near' : Near b y f) (not : ¬ b.lt a = true) :
    x ≤ y + e + f := by
  apply near.le near'
  obtain ⟨c, rfl, -⟩ := near
  obtain ⟨d, rfl, -⟩ := near'
  by_contra more
  have less : ¬ c ≤ d := by rwa [← le_finite]
  have above : (finite d).le (finite c) = true := (le_finite d c).mpr (not_le.mp less).le
  apply not
  rw [lt, above, Bool.true_and, Bool.not_eq_true', ← Bool.not_eq_true]
  exact more

section
variable {a b : JsNumber} {x y e f size : ℚ} (normal : 2 ^ (-1022 : ℤ) ≤ size) (most : size ≤ 2 ^ 64)
include normal most

theorem near_double {d : ℚ} (close : |d - x| ≤ e) (le : |x| + e ≤ size) :
    Near (finite d).double x (e + size / 2 ^ 53) := by
  have small : |d| ≤ size := by
    have triangle := abs_add_le (d - x) x
    rw [sub_add_cancel] at triangle
    linarith
  refine ⟨toDouble d, double_of_le (small.trans most), ?_⟩
  have rounded := abs_toDouble_sub_le_mul normal small
  have triangle := abs_sub_le (toDouble d) d x
  linarith

theorem near_rounded (le : |x| ≤ size) : Near (finite x).double x (size / 2 ^ 53) := by
  have near := near_double normal most (show |x - x| ≤ 0 by simp) (by linarith)
  rwa [zero_add] at near

theorem Near.plus (near : Near a x e) (near' : Near b y f) (le : |x + y| + (e + f) ≤ size) :
    Near (a.plus b) (x + y) (e + f + size / 2 ^ 53) := by
  obtain ⟨c, rfl, close⟩ := near
  obtain ⟨d, rfl, close'⟩ := near'
  apply near_double normal most _ le
  have triangle := abs_add_le (c - x) (d - y)
  rw [show c - x + (d - y) = c + d - (x + y) by ring] at triangle
  linarith

theorem Near.minus (near : Near a x e) (near' : Near b y f) (le : |x - y| + (e + f) ≤ size) :
    Near (a.minus b) (x - y) (e + f + size / 2 ^ 53) := by
  obtain ⟨c, rfl, close⟩ := near
  obtain ⟨d, rfl, close'⟩ := near'
  rw [JsNumber.minus, sub_finite]
  apply near_double normal most _ le
  have triangle := abs_sub (c - x) (d - y)
  rw [show c - x - (d - y) = c - d - (x - y) by ring] at triangle
  linarith

theorem Near.times (near : Near a x e) (near' : Near b y f) (le : |x * y| + (e * (|y| + f) + |x| * f) ≤ size) :
    Near (a.times b) (x * y) (e * (|y| + f) + |x| * f + size / 2 ^ 53) := by
  obtain ⟨c, rfl, close⟩ := near
  obtain ⟨d, rfl, close'⟩ := near'
  apply near_double normal most _ le
  have factor : |d| ≤ |y| + f := by
    have triangle := abs_add_le (d - y) y
    rw [sub_add_cancel] at triangle
    linarith
  calc |c * d - x * y| = |(c - x) * d + x * (d - y)| := by ring_nf
    _ ≤ |c - x| * |d| + |x| * |d - y| := by
        rw [← abs_mul, ← abs_mul]
        exact abs_add_le _ _
    _ ≤ e * (|y| + f) + |x| * f := by
        have error : 0 ≤ e := (abs_nonneg _).trans close
        gcongr

theorem Near.foldl_plus {s : List ℚ} {k : ℕ} (near : Near a x (k * (size / 2 ^ 52)))
    (room : |x| + (s.map (|·|)).sum + (k + s.length) * (size / 2 ^ 52) ≤ size) :
    Near ((s.map fun q => (finite q).double).foldl JsNumber.plus a) (x + s.sum) ((k + s.length : ℕ) * (size / 2 ^ 52)) := by
  have unit : 0 < size / 2 ^ 52 := div_pos ((zpow_pos two_pos _).trans_le normal) (by norm_num)
  have half : size / 2 ^ 53 = size / 2 ^ 52 / 2 := by ring
  induction s generalizing a x k with
  | nil => simpa using near
  | cons q s ih =>
      rw [List.map_cons, List.sum_cons, List.length_cons] at room
      push_cast at room
      have rest : 0 ≤ (s.map (|·|)).sum := List.sum_nonneg (by simp)
      have count : 0 ≤ (k : ℚ) * (size / 2 ^ 52) := by positivity
      have count' : 0 ≤ (s.length : ℚ) * (size / 2 ^ 52) := by positivity
      have triangle := abs_add_le x q
      have single := near_rounded normal most (show |q| ≤ size by linarith [abs_nonneg x])
      have sum := near.plus normal most single (by linarith)
      rw [List.map_cons, List.foldl_cons, List.sum_cons, ← add_assoc, List.length_cons,
        show k + (s.length + 1) = k + 1 + s.length by omega]
      apply ih (sum.mono _)
      · push_cast
        linarith
      · push_cast
        linarith

end

/-! ## Whole numbers -/

def IsWhole : JsNumber → Prop
  | finite q => ∃ z : ℤ, q = z
  | nan | infinity _ => True

theorem IsWhole.double {n : JsNumber} (whole : n.IsWhole) : n.double.IsWhole := by
  cases n with
  | finite q =>
      obtain ⟨z, rfl⟩ := whole
      rw [JsNumber.double]
      split_ifs
      · exact exists_toDouble_intCast z
      · trivial
  | nan => trivial
  | infinity => trivial

theorem IsWhole.plus {a b : JsNumber} (whole : a.IsWhole) (whole' : b.IsWhole) : (a.plus b).IsWhole := by
  apply IsWhole.double
  cases a with
  | finite p =>
      cases b with
      | finite q =>
          obtain ⟨y, rfl⟩ := whole
          obtain ⟨z, rfl⟩ := whole'
          exact ⟨y + z, by push_cast; rfl⟩
      | nan => trivial
      | infinity => trivial
  | nan => trivial
  | infinity negative =>
      cases b with
      | finite => trivial
      | nan => trivial
      | infinity negative' => cases negative <;> cases negative' <;> trivial

end JsNumber
end Foundations
