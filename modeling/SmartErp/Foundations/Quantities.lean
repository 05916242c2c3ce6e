import SmartErp.Foundations.Amounts

/-!
# Quantities in a column

A quantity is moved in doubles and kept as a decimal of `s` places. What is kept may be off by the rounding to
these places, but no more: where both operands have no more places it is their sum or difference.
-/

namespace Foundations

theorem le_of_exact {x y : ℚ} {s : ℕ} (hx : Exact s x) (hy : Exact s y) (close : (x - y) * 10 ^ s < 1) : x ≤ y := by
  obtain ⟨m, hm⟩ := exact_iff.mp hx
  obtain ⟨n, hn⟩ := exact_iff.mp hy
  rw [sub_mul, hm, hn] at close
  have less : m - n < 1 := by exact_mod_cast close
  have le : (m : ℚ) ≤ n := by exact_mod_cast (show m ≤ n by omega)
  rwa [← hm, ← hn, mul_le_mul_iff_of_pos_right (scale_pos s)] at le

/-- `y` is kept for `z`: it is rounded from a number that is off by a small part of a unit. -/
def Kept (s : ℕ) (y z : ℚ) : Prop := ∃ v, |v - z| * 10 ^ s ≤ 1/64 ∧ toScale s v = y

namespace Kept
variable {s : ℕ} {y z y' z' b : ℚ}

theorem exact (kept : Kept s y z) : Exact s y := by
  obtain ⟨v, -, rfl⟩ := kept
  exact exact_toScale s v

theorem eq_of_exact (kept : Kept s y z) (exact : Exact s z) : y = z := by
  obtain ⟨v, close, rfl⟩ := kept
  exact toScale_of_near exact (by linarith)

theorem bounds (kept : Kept s y z) : |y - z| * 10 ^ s ≤ 33/64 := by
  obtain ⟨v, close, rfl⟩ := kept
  have rounded := abs_toScale_sub_le s v
  have triangle := mul_le_mul_of_nonneg_right (abs_sub_le (toScale s v) v z) (scale_pos s).le
  rw [add_mul] at triangle
  linarith

theorem le_of_exact (kept : Kept s y z) (exact : Exact s b) (close : (z - b) * 10 ^ s ≤ 1/4) : y ≤ b := by
  apply Foundations.le_of_exact kept.exact exact
  have error := mul_le_mul_of_nonneg_right (le_abs_self (y - z)) (scale_pos s).le
  rw [show y - b = y - z + (z - b) by ring, add_mul]
  linarith [kept.bounds]

theorem ge_of_exact (kept : Kept s y z) (exact : Exact s b) (close : (b - z) * 10 ^ s ≤ 1/4) : b ≤ y := by
  apply Foundations.le_of_exact exact kept.exact
  have error := mul_le_mul_of_nonneg_right (neg_abs_le (y - z)) (scale_pos s).le
  rw [neg_mul] at error
  rw [show b - y = b - z - (y - z) by ring, sub_mul]
  linarith [kept.bounds]

theorem le_of_unit (kept : Kept s y z) (kept' : Kept s y' z') (unit : z + 1 / 10 ^ s ≤ z') : y ≤ y' := by
  obtain ⟨v, close, rfl⟩ := kept
  obtain ⟨v', close', rfl⟩ := kept'
  apply toScale_mono
  have ten := scale_pos s
  have apart := mul_le_mul_of_nonneg_right unit ten.le
  rw [add_mul, div_mul_cancel₀ _ ten.ne'] at apart
  have above := mul_le_mul_of_nonneg_right (le_abs_self (v - z)) ten.le
  have below := mul_le_mul_of_nonneg_right (neg_abs_le (v' - z')) ten.le
  rw [sub_mul] at above below
  rw [neg_mul] at below
  exact le_of_mul_le_mul_right (by linarith) ten

end Kept

theorem toScale_maximum {s : ℕ} (d : ℚ) :
    toScale s ((JsNumber.finite 0).maximum (.finite d)).spelled = max 0 (toScale s (JsNumber.finite d).spelled) := by
  have zero : toScale s 0 = 0 := toScale_of_exact (.zero s)
  rw [JsNumber.maximum_finite]
  rcases le_total 0 d with nonneg | nonpos
  · rw [max_eq_right nonneg, max_eq_right (toScale_nonneg (JsNumber.spelled_nonneg nonneg))]
  · have below : (JsNumber.finite d).spelled ≤ 0 := by
      have mirrored := JsNumber.spelled_nonneg (neg_nonneg.mpr nonpos)
      rw [JsNumber.spelled_neg] at mirrored
      linarith
    have rounded := toScale_mono s below
    rw [max_eq_left nonpos, JsNumber.spelled_zero, zero, max_eq_left (rounded.trans_eq zero)]

/-! ## Numbers read from decimals -/

theorem abs_toDouble_sub_le_add (q : ℚ) : |toDouble q - q| ≤ (|q| + 1 / 2 ^ 100) / 2 ^ 53 := by
  refine abs_toDouble_sub_le_mul (le_trans (b := 1 / 2 ^ 100) ?_ ?_) ?_
  · rw [one_div, ← zpow_natCast, ← zpow_neg]
    exact zpow_le_zpow_right₀ (by norm_num) (by norm_num)
  · linarith [abs_nonneg q]
  · norm_num

namespace JsNumber

/-- The number is the decimal up to a few roundings. -/
def Means (n : JsNumber) (q : ℚ) : Prop := ∀ d, n = finite d → |d - q| ≤ (|d| + 1) / 2 ^ 51

theorem means_double (q : ℚ) : (finite q).double.Means q := by
  intro d read
  rw [double] at read
  split_ifs at read
  obtain rfl := finite.inj read
  have error := abs_toDouble_sub_le_add q
  have size := abs_sub_abs_le_abs_sub q (toDouble q)
  rw [abs_sub_comm] at size
  linarith [abs_nonneg (toDouble q)]

theorem Means.decimal {n : JsNumber} {q : ℚ} (means : n.Means q) (double : n.double = n) :
    (finite n.decimal).double.Means q := by
  by_cases number : n = nan
  · have infinite : (finite nan.decimal).double = infinity false := by decide +kernel
    rw [number, infinite]
    rintro d ⟨⟩
  · rwa [double_decimal double number]

theorem means_times (q : ℚ) {p s : ℕ} (digits : p ≤ 12) (scale : s ≤ p) (x : Numeric p s) :
    ((finite q).double.times x.number).Means (q * x.val) := by
  intro d product
  have most : |x.val| ≤ 2 ^ 40 :=
    x.abs_val_le.trans ((pow_le_pow_right₀ (by norm_num) digits).trans (by norm_num))
  have small : |q| < overflow := by
    by_contra large
    rw [Numeric.number, double_of_le (most.trans (by norm_num)), double, if_neg large, times, mul] at product
    split at product <;> cases product
  rw [Numeric.number, double_of_le (most.trans (by norm_num)), double, if_pos small, times, mul_finite] at product
  obtain rfl : toDouble (toDouble q * toDouble x.val) = d := by
    rw [double] at product
    split_ifs at product
    exact finite.inj product
  have outer := abs_toDouble_sub_le_add (toDouble q * toDouble x.val)
  have left := abs_toDouble_sub_le_add q
  have right := x.exact_val.abs_toDouble_sub_le (by omega)
  generalize toDouble (toDouble q * toDouble x.val) = d at outer ⊢
  generalize toDouble q = b at outer left
  generalize toDouble x.val = y at outer right
  have factor : |y| ≤ 5/4 * |x.val| := by
    have triangle := abs_sub_abs_le_abs_sub y x.val
    linarith [abs_nonneg x.val]
  have inner : |b * y - q * x.val| ≤ (9/4 * |q * x.val| + 1 / 2 ^ 50) / 2 ^ 53 := by
    have split : b * y - q * x.val = (b - q) * y + q * (y - x.val) := by ring
    have first := mul_le_mul left factor (abs_nonneg y) (by positivity)
    have second := mul_le_mul_of_nonneg_left right (abs_nonneg q)
    have triangle := abs_add_le ((b - q) * y) (q * (y - x.val))
    rw [← split, abs_mul, abs_mul] at triangle
    rw [abs_mul]
    calc |b * y - q * x.val| ≤ (|q| + 1 / 2 ^ 100) / 2 ^ 53 * (5/4 * |x.val|) + |q| * (|x.val| / 2 ^ 53) := by linarith
      _ = (9/4 * (|q| * |x.val|) + 5/4 * |x.val| / 2 ^ 100) / 2 ^ 53 := by ring
      _ ≤ (9/4 * (|q| * |x.val|) + 1 / 2 ^ 50) / 2 ^ 53 := by linarith
  have size := abs_sub_abs_le_abs_sub (q * x.val) d
  have through := abs_sub_le d (b * y) (q * x.val)
  have middle := abs_sub_abs_le_abs_sub (b * y) (q * x.val)
  rw [abs_sub_comm (q * x.val)] at size
  linarith [abs_nonneg d]

end JsNumber

/-! ## Numbers that count a quantity -/

/-- The number is a quantity of about the size of a column, up to a small error. -/
structure Counts (p s : ℕ) (n : JsNumber) (q : ℚ) : Prop where
  digits : p ≤ 12
  scale : s ≤ p
  near : n.Near q (10 ^ p / 10 ^ s / 2 ^ 49)
  small : |q| * 10 ^ s ≤ 10 ^ p + 1

theorem abs_mul_le_of_toScale {p s : ℕ} {x : Numeric p s} {v : ℚ} (stored : x.val = toScale s v) :
    |v| * 10 ^ s ≤ 10 ^ p + 1/2 := by
  have column := x.abs_val_le_div
  rw [le_div_iff₀ (scale_pos s), stored] at column
  have rounded := abs_toScale_sub_le s v
  have triangle := mul_le_mul_of_nonneg_right (abs_add_le (v - toScale s v) (toScale s v)) (scale_pos s).le
  rw [sub_add_cancel, add_mul, abs_sub_comm] at triangle
  linarith

namespace Counts
variable {p s : ℕ} {a b c : JsNumber} {x y z : ℚ}

theorem neg (counts : Counts p s a x) : Counts p s a.neg (-x) := by
  obtain ⟨digits, scale, ⟨d, rfl, close⟩, small⟩ := counts
  refine ⟨digits, scale, ⟨-d, rfl, ?_⟩, by rwa [abs_neg]⟩
  rwa [neg_sub_neg, abs_sub_comm]

section
variable (digits : p ≤ 12)
include digits

theorem scaled_le (k : ℚ) (small : k * 10 ^ 12 ≤ 2 ^ 43) : k * (10 ^ p / 10 ^ s) / 2 ^ 49 * 10 ^ s ≤ 1/64 := by
  have ten := scale_pos s
  have most : (10 : ℚ) ^ p ≤ 10 ^ 12 := pow_le_pow_right₀ (by norm_num) digits
  have cancel : k * (10 ^ p / 10 ^ s) / 2 ^ 49 * 10 ^ s = k * 10 ^ p / 2 ^ 49 := by field_simp
  rw [cancel, div_le_iff₀ (by norm_num)]
  rcases le_or_gt k 0 with neg | pos
  · nlinarith [scale_pos p]
  · nlinarith

variable (scale : s ≤ p)
include scale

theorem unit_bounds : (1 : ℚ) ≤ 10 ^ p / 10 ^ s ∧ (10 : ℚ) ^ p / 10 ^ s ≤ 10 ^ 12 := by
  have ten := scale_pos s
  constructor
  · rw [le_div_iff₀ ten, one_mul]
    exact pow_le_pow_right₀ (by norm_num) scale
  · have most : (10 : ℚ) ^ p ≤ 10 ^ 12 := pow_le_pow_right₀ (by norm_num) digits
    exact (div_le_self (by positivity) (one_le_pow₀ (by norm_num))).trans most

theorem of_column {n : JsNumber} {q : ℚ} {y : Numeric p s} (double : n.double = n) (finite : ∃ d, n = .finite d)
    (stored : y.val = toScale s n.spelled) (means : n.Means q) :
    Counts p s n q ∧ Kept s y.val q := by
  obtain ⟨d, rfl⟩ := finite
  have ten := scale_pos s
  have one : (1 : ℚ) ≤ 10 ^ s := one_le_pow₀ (by norm_num)
  obtain ⟨u, hu⟩ : ∃ u : ℚ, u = 10 ^ p / 10 ^ s := ⟨_, rfl⟩
  obtain ⟨least, most⟩ := unit_bounds digits scale
  rw [← hu] at least most
  have room := abs_mul_le_of_toScale stored
  have column : (10 : ℚ) ^ p = u * 10 ^ s := by rw [hu, div_mul_cancel₀ _ ten.ne']
  have text : |(JsNumber.finite d).spelled| ≤ 2 * u := by
    have scaled : |(JsNumber.finite d).spelled| * 10 ^ s ≤ 2 * u * 10 ^ s := by nlinarith
    exact le_of_mul_le_mul_right scaled ten
  have apart := JsNumber.abs_sub_le_of_double_eq (normal_of_le (show 1 / 2 ^ 64 ≤ 2 * u by linarith))
    (by linarith) text ((JsNumber.double_spelled double).trans double.symm)
  have size := abs_sub_abs_le_abs_sub d (JsNumber.finite d).spelled
  rw [abs_sub_comm] at size
  have error := means d rfl
  have error' : |d - q| ≤ u / 2 ^ 49 := by linarith
  have number : |q| ≤ |(JsNumber.finite d).spelled| + u / 2 ^ 48 := by
    have triangle := abs_sub_abs_le_abs_sub q (JsNumber.finite d).spelled
    have through := abs_sub_le q d (JsNumber.finite d).spelled
    rw [abs_sub_comm q d, abs_sub_comm d (JsNumber.finite d).spelled] at through
    linarith
  have tiny : u / 2 ^ 48 * 10 ^ s ≤ 1/64 := by
    have scaled := scaled_le digits (s := s) 2 (by norm_num)
    rw [← hu] at scaled
    linarith
  refine ⟨⟨digits, scale, ⟨d, rfl, hu ▸ error'⟩, ?_⟩, (JsNumber.finite d).spelled, ?_, stored.symm⟩
  · have scaled := mul_le_mul_of_nonneg_right number ten.le
    rw [add_mul] at scaled
    linarith
  · have through := abs_sub_le (JsNumber.finite d).spelled d q
    have total : |(JsNumber.finite d).spelled - q| ≤ u / 2 ^ 48 := by linarith
    exact (mul_le_mul_of_nonneg_right total ten.le).trans tiny

theorem number (x : Numeric p s) : Counts p s x.number x.val := by
  have ten := scale_pos s
  obtain ⟨least, most⟩ := unit_bounds digits scale
  have near := JsNumber.near_rounded (normal_of_le (show 1 / 2 ^ 64 ≤ (10 : ℚ) ^ p / 10 ^ s by linarith)) (by linarith)
    x.abs_val_le_div
  refine ⟨digits, scale, near.mono (by linarith), ?_⟩
  have size := mul_le_mul_of_nonneg_right x.abs_val_le_div ten.le
  rw [div_mul_cancel₀ _ ten.ne'] at size
  linarith

end

theorem abs_le (counts : Counts p s a x) : |x| ≤ 2 * (10 ^ p / 10 ^ s) := by
  have ten := scale_pos s
  have size := (le_div_iff₀ ten).mpr counts.small
  have extra : (1 : ℚ) / 10 ^ s ≤ 1 := (div_le_one ten).mpr (one_le_pow₀ (by norm_num))
  rw [add_div] at size
  linarith [(unit_bounds counts.digits counts.scale).1]

theorem near_plus (ha : Counts p s a x) (hb : Counts p s b y) :
    (a.plus b).Near (x + y) (3 * (10 ^ p / 10 ^ s) / 2 ^ 49) ∧
      |x + y| + 3 * (10 ^ p / 10 ^ s) / 2 ^ 49 ≤ 5 * (10 ^ p / 10 ^ s : ℚ) := by
  obtain ⟨least, most⟩ := unit_bounds ha.digits ha.scale
  have hx := ha.abs_le
  have hy := hb.abs_le
  have nx := ha.near
  have ny := hb.near
  generalize (10 : ℚ) ^ p / 10 ^ s = u at *
  have triangle := abs_add_le x y
  have near := nx.plus (normal_of_le (show 1 / 2 ^ 64 ≤ 5 * u by linarith)) (by linarith) ny (by linarith)
  exact ⟨near.mono (by linarith), by linarith⟩

theorem kept_plus (ha : Counts p s a x) (hb : Counts p s b y) : Kept s (toScale s (a.plus b).spelled) (x + y) := by
  obtain ⟨least, most⟩ := unit_bounds ha.digits ha.scale
  obtain ⟨near, room⟩ := ha.near_plus hb
  have scaled := scaled_le ha.digits (s := s) 6 (by norm_num)
  generalize (10 : ℚ) ^ p / 10 ^ s = u at *
  have text := near.spelled (JsNumber.double_plus a b) (normal_of_le (show 1 / 2 ^ 64 ≤ 5 * u by linarith))
    (by linarith) room
  refine ⟨_, ?_, rfl⟩
  exact (mul_le_mul_of_nonneg_right (text.trans (by linarith)) (scale_pos s).le).trans scaled

theorem kept_minus (ha : Counts p s a x) (hb : Counts p s b y) : Kept s (toScale s (a.minus b).spelled) (x - y) :=
  sub_eq_add_neg x y ▸ ha.kept_plus hb.neg

/-! ### Comparisons -/

theorem le_of_not_lt (ha : Counts p s a x) (hb : Counts p s b y) (not : ¬ a.lt b = true) : (y - x) * 10 ^ s ≤ 1/64 := by
  have scaled := scaled_le ha.digits (s := s) 2 (by norm_num)
  have le := hb.near.le_of_not_lt ha.near not
  exact (mul_le_mul_of_nonneg_right (by linarith) (scale_pos s).le).trans scaled

theorem nonneg_of_not_lt (ha : Counts p s a x) (hb : Counts p s b y) (not : ¬ (a.plus b).lt (.finite 0) = true) :
    -(x + y) * 10 ^ s ≤ 1/64 := by
  have scaled := scaled_le ha.digits (s := s) 3 (by norm_num)
  have le := (JsNumber.Near.exact 0).le_of_not_lt (ha.near_plus hb).1 not
  exact (mul_le_mul_of_nonneg_right (by linarith) (scale_pos s).le).trans scaled

theorem le_sub_of_not_lt (ha : Counts p s a x) (hb : Counts p s b y) (hc : Counts p s c z)
    (not : ¬ (a.minus b).lt c = true) : (z - (x - y)) * 10 ^ s ≤ 1/64 := by
  have scaled := scaled_le ha.digits (s := s) 4 (by norm_num)
  have near := (ha.near_plus hb.neg).1
  rw [← sub_eq_add_neg] at near
  have le := hc.near.le_of_not_lt near not
  exact (mul_le_mul_of_nonneg_right (by linarith) (scale_pos s).le).trans scaled

end Counts
end Foundations
