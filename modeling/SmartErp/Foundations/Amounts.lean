import SmartErp.Foundations.Numerals

/-!
# Decimals as doubles

What becomes of a decimal in a number of the language and in the text of that number. Decimals that round to the
same double are close, so one of at most 15 digits comes back from the text as it was.
-/

namespace Foundations

theorem roundHalfEven_of_near {q : ℚ} {n : ℤ} (near : |q - n| < 1/2) : roundHalfEven q = n := by
  rw [abs_lt] at near
  have error := abs_roundHalfEven_sub_le q
  rw [abs_le] at error
  have low : (n : ℚ) - 1 < roundHalfEven q := by linarith
  have high : (roundHalfEven q : ℚ) < n + 1 := by linarith
  have low' : n - 1 < roundHalfEven q := by exact_mod_cast low
  have high' : roundHalfEven q < n + 1 := by exact_mod_cast high
  omega

theorem eq_of_multiples {x y unit : ℚ} {m n : ℤ} (pos : 0 < unit) (hx : x = m * unit) (hy : y = n * unit)
    (close : |x - y| < unit) : x = y := by
  rw [hx, hy, ← sub_mul, abs_mul, abs_of_pos pos] at close
  have less : |(m : ℚ) - n| < 1 := by
    by_contra! more
    linarith [mul_le_mul_of_nonneg_right more pos.le]
  have same : |m - n| < 1 := by exact_mod_cast less
  rw [hx, hy, show m = n by rw [abs_lt] at same; omega]

theorem eq_of_exact {x y : ℚ} {s : ℕ} (hx : Exact s x) (hy : Exact s y) (close : |x - y| * 10 ^ s < 1) : x = y := by
  obtain ⟨m, hm⟩ := exact_iff.mp hx
  obtain ⟨n, hn⟩ := exact_iff.mp hy
  have scale := scale_pos s
  refine eq_of_multiples (m := m) (n := n) (inv_pos.mpr scale) ?_ ?_ ?_
  · rw [← hm, mul_inv_cancel_right₀ scale.ne']
  · rw [← hn, mul_inv_cancel_right₀ scale.ne']
  · rwa [← one_div, lt_div_iff₀ scale]

theorem abs_toScale_sub_le (s : ℕ) (q : ℚ) : |toScale s q - q| * 10 ^ s ≤ 1/2 := by
  have scale := scale_pos s
  have half (x : ℚ) : |(roundHalfAway x : ℚ) - x| ≤ 1/2 := by
    unfold roundHalfAway
    split_ifs
    · have low := Int.floor_le (x + 1/2)
      have high := Int.lt_floor_add_one (x + 1/2)
      rw [abs_le]
      constructor <;> linarith
    · have low := Int.floor_le (-x + 1/2)
      have high := Int.lt_floor_add_one (-x + 1/2)
      push_cast
      rw [abs_le]
      constructor <;> linarith
  have scaled : (toScale s q - q) * 10 ^ s = roundHalfAway (q * 10 ^ s) - q * 10 ^ s := by
    rw [sub_mul, toScale, div_mul_cancel₀ _ scale.ne']
  calc |toScale s q - q| * 10 ^ s = |(toScale s q - q) * 10 ^ s| := by rw [abs_mul, abs_of_pos scale]
    _ ≤ 1/2 := by rw [scaled]; exact half _

theorem Exact.normal {s : ℕ} {q : ℚ} (exact : Exact s q) (scale : s ≤ 19) (nonzero : q ≠ 0) :
    2 ^ (-1022 : ℤ) ≤ |q| := by
  obtain ⟨n, hn⟩ := exact_iff.mp exact
  have units : (1 : ℚ) ≤ |(n : ℚ)| := by
    have ne : n ≠ 0 := by
      rintro rfl
      exact nonzero (by simpa using hn)
    exact_mod_cast Int.one_le_abs ne
  have powers : (10 : ℚ) ^ s ≤ 2 ^ 64 := (pow_le_pow_right₀ (by norm_num) scale).trans (by norm_num)
  rw [← hn, abs_mul, abs_of_pos (scale_pos s)] at units
  apply normal_of_le
  rw [div_le_iff₀ (by norm_num)]
  exact units.trans (mul_le_mul_of_nonneg_left powers (abs_nonneg q))

theorem Exact.abs_toDouble_sub_le {s : ℕ} {q : ℚ} (exact : Exact s q) (scale : s ≤ 19) :
    |toDouble q - q| ≤ |q| / 2 ^ 53 := by
  by_cases zero : q = 0
  · simp [zero]
  · exact abs_toDouble_sub_le_mul (exact.normal scale zero) le_rfl

theorem toScale_of_near {s : ℕ} {x q : ℚ} (exact : Exact s x) (near : |q - x| * 10 ^ s < 1/2) : toScale s q = x := by
  apply eq_of_exact (exact_toScale s q) exact
  have rounded := abs_toScale_sub_le s q
  have triangle := mul_le_mul_of_nonneg_right (abs_sub_le (toScale s q) q x) (scale_pos s).le
  rw [add_mul] at triangle
  linarith

theorem abs_sum_sub_le {α : Type} {as : List α} {f g e : α → ℚ} (close : ∀ a ∈ as, |f a - g a| ≤ e a) :
    |(as.map f).sum - (as.map g).sum| ≤ (as.map e).sum := by
  induction as with
  | nil => simp
  | cons a as ih =>
      rw [List.forall_mem_cons] at close
      simp only [List.map_cons, List.sum_cons]
      have triangle := abs_add_le (f a - g a) ((as.map f).sum - (as.map g).sum)
      rw [sub_add_sub_comm] at triangle
      linarith [close.1, ih close.2]

namespace JsNumber

/-- Decimals that round to one double are close. -/
theorem abs_sub_le_of_double_eq {x y size : ℚ} (normal : 2 ^ (-1022 : ℤ) ≤ size) (most : size ≤ 2 ^ 60) (le : |x| ≤ size)
    (same : (finite x).double = (finite y).double) : |x - y| ≤ size / 2 ^ 50 := by
  have positive : 0 < size := (zpow_pos two_pos _).trans_le normal
  have rounded := abs_toDouble_sub_le_mul normal le
  rw [double_of_le (le.trans (most.trans (by norm_num))), double] at same
  split_ifs at same
  have same := finite.inj same
  have triangle := abs_add_le (toDouble x - x) x
  rw [sub_add_cancel] at triangle
  -- A much larger number would have a larger double.
  have near : |y| ≤ 4 * size := by
    by_contra! far
    have mono := toDouble_mono far.le
    have large := @abs_toDouble_sub_le_mul (4 * size) (4 * size) (by linarith)
      (abs_of_pos (by linarith)).le
    have double : toDouble |y| = |toDouble x| := by
      rw [same]
      rcases abs_cases y with ⟨eq, sign⟩ | ⟨eq, sign⟩
      · rw [eq, abs_of_nonneg (toDouble_nonneg sign)]
      · have opposite := toDouble_nonneg (show 0 ≤ -y by linarith)
        rw [toDouble_neg] at opposite
        rw [eq, toDouble_neg, abs_of_nonpos (by linarith)]
    rw [abs_le] at large
    linarith
  have rounded' := @abs_toDouble_sub_le_mul _ (4 * size) (by linarith) near
  rw [same, abs_sub_comm] at rounded
  have sum := abs_sub_le x (toDouble y) y
  linarith

/-- The decimal that `String(n)` spells. -/
def spelled : JsNumber → ℚ
  | finite q =>
      if q = 0 then 0 else if q < 0 then -(Scientific.shortest |q|).value else (Scientific.shortest q).value
  | nan | infinity _ => 0

example : (finite (toDouble (3/10))).spelled = 3/10 := by decide +kernel
example : ((finite (1/10)).double.plus (finite (2/10)).double).spelled = 30000000000000004/10^17 := by decide +kernel

theorem spelled_zero : (finite 0).spelled = 0 := rfl

theorem spelled_neg (q : ℚ) : (finite (-q)).spelled = -(finite q).spelled := by
  rcases lt_trichotomy q 0 with neg | rfl | pos
  · have pos : 0 < -q := by linarith
    simp [spelled, neg, neg.ne, not_lt.mpr neg.le, abs_of_neg neg]
  · simp [spelled]
  · simp [spelled, pos, pos.ne', not_lt.mpr pos.le, abs_of_pos pos]

theorem spelled_of_pos {q : ℚ} (pos : 0 < q) : (finite q).spelled = (Scientific.shortest q).value := by
  simp [spelled, pos.ne', not_lt.mpr pos.le]

theorem double_spelled {q : ℚ} (double : (finite q).double = finite q) :
    (finite (finite q).spelled).double = finite q := by
  obtain ⟨isDouble, same⟩ := double_abs double
  rcases lt_trichotomy q 0 with neg | rfl | pos
  · have reads := reads_shortest (abs_pos.mpr neg.ne) isDouble same
    rw [← neg_neg q, spelled_neg, spelled_of_pos (by linarith), double_neg, ← abs_of_neg neg, reads]
    rfl
  · exact double
  · rw [spelled_of_pos pos]
    rw [abs_of_pos pos] at isDouble same
    exact reads_shortest pos isDouble same

theorem abs_le_of_spelled {n : JsNumber} {y size : ℚ} (normal : 2 ^ (-1022 : ℤ) ≤ size) (most : size ≤ 2 ^ 60)
    (number : ∃ q, n = finite q) (within : |n.spelled| ≤ size) (same : n = (finite y).double) :
    |y| ≤ size + size / 2 ^ 50 := by
  obtain ⟨q, rfl⟩ := number
  have double : (finite q).double = finite q := by rw [same, double_double]
  have close := abs_sub_le_of_double_eq normal most within ((double_spelled double).trans same)
  have triangle := abs_sub_abs_le_abs_sub y (finite q).spelled
  rw [abs_sub_comm] at triangle
  linarith

/-- A decimal that is read as the number. NaN, which JSON cannot hold, counts as one that is too large. -/
def decimal : JsNumber → ℚ
  | finite q => (finite q).spelled
  | infinity negative => if negative then -overflow else overflow
  | nan => overflow

theorem double_decimal {n : JsNumber} (double : n.double = n) (number : n ≠ nan) : (finite n.decimal).double = n := by
  cases n with
  | finite q => exact double_spelled double
  | infinity negative => cases negative <;> decide +kernel
  | nan => exact absurd rfl number

theorem spelled_nonneg {q : ℚ} (nonneg : 0 ≤ q) : 0 ≤ (finite q).spelled := by
  rcases nonneg.eq_or_lt with rfl | pos
  · exact le_rfl
  · rw [spelled_of_pos pos]
    exact mul_nonneg (Nat.cast_nonneg _) (zpow_nonneg (by norm_num) _)

theorem Near.spelled {n : JsNumber} {x e size : ℚ} (near : n.Near x e) (double : n.double = n)
    (normal : 2 ^ (-1022 : ℤ) ≤ size) (most : size ≤ 2 ^ 60) (room : |x| + e ≤ size) :
    |n.spelled - x| ≤ e + size / 2 ^ 50 := by
  obtain ⟨d, rfl, close⟩ := near
  have triangle := abs_add_le (d - x) x
  rw [sub_add_cancel] at triangle
  have text := abs_sub_le_of_double_eq normal most (show |d| ≤ size by linarith)
    (double.trans (double_spelled double).symm)
  rw [abs_sub_comm] at text
  have sum := abs_sub_le (finite d).spelled d x
  linarith

namespace Scientific

/-- The unit of the fifteenth digit of `q`. -/
def fifteenth (q : ℚ) : ℚ := 10 ^ (Int.log 10 q - 14)

theorem fifteenth_pos (q : ℚ) : 0 < fifteenth q := zpow_pos (by norm_num) _

theorem lt_fifteenth (q : ℚ) : q < fifteenth q * 10 ^ 15 := by
  have power := Int.lt_zpow_succ_log_self (b := 10) (by norm_num) q
  rw [fifteenth, ← zpow_natCast, ← zpow_add₀ (by norm_num)]
  rw [show Int.log 10 q - 14 + ((15 : ℕ) : ℤ) = Int.log 10 q + 1 by push_cast; ring]
  exact_mod_cast power

theorem exists_neighbour {q : ℚ} {n : ℤ} (nonneg : 0 ≤ n) (near : |q / fifteenth q - n| < 1/2) :
    ∃ d ∈ neighbours q 15, d.value = n * fifteenth q := by
  have exponent : Int.log 10 q + 1 - ((15 : ℕ) : ℤ) = Int.log 10 q - 14 := by push_cast; ring
  refine ⟨⟨n.natAbs, Int.log 10 q - 14⟩, ?_, ?_⟩
  · rw [fifteenth] at near
    simp only [neighbours, exponent, roundHalfEven_of_near near, List.mem_cons, true_or]
  · rw [value, Nat.cast_natAbs, abs_of_nonneg nonneg, fifteenth]

theorem value_of_mem_neighbours {q : ℚ} {d : Scientific} {k : ℕ} (few : k ≤ 15) (mem : d ∈ neighbours q k) :
    ∃ n : ℤ, d.value = n * fifteenth q := by
  have exponent : d.exponent = Int.log 10 q + 1 - k := by
    simp only [neighbours, List.mem_cons, List.not_mem_nil, or_false] at mem
    rcases mem with rfl | rfl <;> rfl
  have shift : (10 : ℚ) ^ (Int.log 10 q + 1 - (k : ℤ)) = 10 ^ (15 - k) * 10 ^ (Int.log 10 q - 14) := by
    rw [← zpow_natCast, ← zpow_add₀ (by norm_num)]
    congr 1
    omega
  refine ⟨d.digits * 10 ^ (15 - k), ?_⟩
  rw [value, exponent, fifteenth, shift]
  push_cast
  ring

/-- Where 15 digits are enough, no more are tried. -/
theorem shortest_of_reads {q : ℚ} {d : Scientific} (mem : d ∈ neighbours q 15) (read : reads q d = true) :
    (∃ n : ℤ, (shortest q).value = n * fifteenth q) ∧ (finite (shortest q).value).double = finite q := by
  have listed : ∃ d ∈ (List.range' 1 15).flatMap (neighbours q), reads q d = true :=
    ⟨d, List.mem_flatMap.mpr ⟨15, by decide, mem⟩, read⟩
  obtain ⟨e, found⟩ := Option.isSome_iff_exists.mp (List.find?_isSome.mpr listed)
  have short : shortest q = e := by
    rw [shortest, show List.range' 1 17 = List.range' 1 15 ++ List.range' 16 2 from rfl, List.flatMap_append,
      List.find?_append, found]
    rfl
  obtain ⟨k, range, here⟩ := List.mem_flatMap.mp (List.mem_of_find?_eq_some found)
  have few := List.mem_range'_1.mp range
  have passed : reads q e = true := List.find?_some found
  rw [short]
  exact ⟨value_of_mem_neighbours (by omega) here, of_decide_eq_true passed⟩

/-- A decimal with the places that 15 digits of `q` leave it. -/
theorem exists_multiple {x q : ℚ} {s : ℕ} (exact : Exact s x) (pos : 0 < q) (digits : q * 10 ^ s < 10 ^ 15) :
    ∃ n : ℤ, x = n * fifteenth q := by
  obtain ⟨n, hn⟩ := exact_iff.mp exact
  have ten := scale_pos s
  have power : q < ((10 : ℕ) : ℚ) ^ ((15 : ℤ) - s) := by
    rw [zpow_sub₀ (by norm_num), lt_div_iff₀ (by positivity), zpow_natCast]
    exact_mod_cast digits
  have log := (Int.lt_zpow_iff_log_lt (by norm_num) pos).mp power
  obtain ⟨m, hm⟩ := Int.eq_ofNat_of_zero_le (show 0 ≤ 14 - Int.log 10 q - s by omega)
  refine ⟨n * 10 ^ m, ?_⟩
  rw [fifteenth, show Int.log 10 q - 14 = -((m + s : ℕ) : ℤ) by push_cast; omega, zpow_neg, zpow_natCast, pow_add]
  push_cast
  rw [← hn]
  field_simp

end Scientific

theorem spelled_double_of_pos {x : ℚ} {s : ℕ} (exact : Exact s x) (scale : s ≤ 19) (pos : 0 < x)
    (digits : x * 10 ^ s < 10 ^ 15) : (finite x).double.spelled = x := by
  have bound : x < 10 ^ 15 := (le_mul_of_one_le_right pos.le (one_le_pow₀ (by norm_num))).trans_lt digits
  obtain ⟨q, hq⟩ : ∃ q, q = toDouble x := ⟨_, rfl⟩
  have double : (finite x).double = finite q := by
    rw [hq, double_of_le ((abs_of_pos pos).trans_le (by linarith))]
  have rounded := exact.abs_toDouble_sub_le scale
  rw [← hq, abs_of_pos pos, abs_le] at rounded
  have pos' : 0 < q := by linarith
  have fits : q * 10 ^ s < 10 ^ 15 := by
    -- The digits of `x` are a whole number, so that rounding does not reach the next power.
    obtain ⟨n, hn⟩ := exact_iff.mp exact
    rw [hn] at digits
    have whole : (n : ℚ) ≤ 10 ^ 15 - 1 := by
      have less : n < 10 ^ 15 := by exact_mod_cast digits
      exact_mod_cast Int.le_sub_one_of_lt less
    have scaled := mul_le_mul_of_nonneg_right (show q ≤ x + x / 2 ^ 53 by linarith) (scale_pos s).le
    have split : (x + x / 2 ^ 53) * 10 ^ s = n + n / 2 ^ 53 := by rw [← hn]; ring
    linarith
  obtain ⟨n, multiple⟩ := Scientific.exists_multiple exact pos' fits
  have unit_pos := Scientific.fifteenth_pos q
  have above := Scientific.lt_fifteenth q
  have nonneg : 0 ≤ n := by
    have positive : (0 : ℚ) < n := pos_of_mul_pos_left (multiple ▸ pos) unit_pos.le
    exact_mod_cast positive.le
  have near : |q / Scientific.fifteenth q - n| < 1/2 := by
    have scaled : q / Scientific.fifteenth q - n = (q - x) / Scientific.fifteenth q := by
      rw [sub_div]
      congr 1
      rw [eq_div_iff unit_pos.ne']
      exact multiple.symm
    rw [scaled, abs_div, abs_of_pos unit_pos, div_lt_iff₀ unit_pos, abs_lt]
    constructor <;> linarith
  obtain ⟨d, mem, value⟩ := Scientific.exists_neighbour nonneg near
  obtain ⟨⟨k, multiple'⟩, read⟩ :=
    Scientific.shortest_of_reads mem (decide_eq_true (by rw [value, ← multiple, double]))
  rw [double, spelled_of_pos pos']
  have normal : 2 ^ (-1022 : ℤ) ≤ x := by
    have normal := exact.normal scale pos.ne'
    rwa [abs_of_pos pos] at normal
  have close := abs_sub_le_of_double_eq normal (by linarith) (abs_of_pos pos).le (double.trans read.symm)
  exact (eq_of_multiples unit_pos multiple multiple' (by linarith)).symm

theorem spelled_double {x : ℚ} {s : ℕ} (exact : Exact s x) (scale : s ≤ 19) (digits : |x| * 10 ^ s < 10 ^ 15) :
    (finite x).double.spelled = x := by
  rcases lt_trichotomy x 0 with neg | rfl | pos
  · rw [abs_of_neg neg] at digits
    have mirrored := spelled_double_of_pos exact.neg scale (by linarith) digits
    rw [double_neg] at mirrored
    have small : |x| ≤ 2 ^ 64 := by
      have le := le_mul_of_one_le_right (show 0 ≤ -x by linarith) (one_le_pow₀ (n := s) (by norm_num : (1 : ℚ) ≤ 10))
      rw [abs_of_neg neg]
      linarith
    rw [double_of_le small] at mirrored ⊢
    rw [neg_finite, spelled_neg] at mirrored
    linarith
  · have zero : (finite 0).double = finite 0 := by decide +kernel
    rw [zero, spelled_zero]
  · rw [abs_of_pos pos] at digits
    exact spelled_double_of_pos exact scale pos digits

/-! ## `toFixed` -/

/-- `Number(n.toFixed(k))` -/
def fixed (n : JsNumber) (k : ℕ) : JsNumber := parseNumber (n.toFixed k)

example : ((finite (toDouble (1005/1000))).fixed 2) = .finite 1 := by decide +kernel

theorem fixed_small {q : ℚ} (small : |q| < 10 ^ 21) (k : ℕ) : (finite q).fixed k = (finite (toScale k q)).double := by
  rw [fixed, toFixed, if_pos small, parseNumber_toFixed]

theorem fixed_large {q : ℚ} (large : ¬ |q| < 10 ^ 21) (double : (finite q).double = finite q) (k : ℕ) :
    (finite q).fixed k = finite q := by
  rw [fixed, toFixed, if_neg large, parseNumber_spelling double]

theorem fixed_nan (k : ℕ) : nan.fixed k = nan := by
  rw [fixed, toFixed]
  decide +kernel

theorem fixed_infinity (negative : Bool) (k : ℕ) : (infinity negative).fixed k = infinity negative := by
  rw [fixed, toFixed]
  cases negative <;> decide +kernel

/-- What rounds to the decimal `x`. -/
def Rounds (k : ℕ) (n : JsNumber) (x : ℚ) : Prop := ∃ q, n = finite q ∧ |q| < 10 ^ 21 ∧ toScale k q = x

theorem Rounds.fixed {k : ℕ} {n : JsNumber} {x : ℚ} (rounds : Rounds k n x) : n.fixed k = (finite x).double := by
  obtain ⟨q, rfl, small, rfl⟩ := rounds
  exact fixed_small small k

theorem Rounds.unique {k : ℕ} {n : JsNumber} {x y : ℚ} (hx : Rounds k n x) (hy : Rounds k n y) : x = y := by
  obtain ⟨p, rfl, -, rfl⟩ := hx
  obtain ⟨q, same, -, rfl⟩ := hy
  rw [finite.inj same]

theorem Rounds.exact {k : ℕ} {n : JsNumber} {x : ℚ} (rounds : Rounds k n x) : Exact k x := by
  obtain ⟨q, -, -, rfl⟩ := rounds
  exact exact_toScale k q

theorem Rounds.nonneg {k : ℕ} {n : JsNumber} {x : ℚ} (rounds : Rounds k n x) (nonneg : (finite 0).le n = true) : 0 ≤ x := by
  obtain ⟨q, rfl, -, rfl⟩ := rounds
  exact toScale_nonneg ((le_finite _ _).mp nonneg)

theorem rounds_of_near {k : ℕ} {n : JsNumber} {x e : ℚ} (exact : Exact k x) (near : n.Near x e) (small : |x| + e < 10 ^ 21)
    (less : e * 10 ^ k < 1/2) : Rounds k n x := by
  obtain ⟨d, rfl, close⟩ := near
  have triangle := abs_add_le (d - x) x
  rw [sub_add_cancel] at triangle
  refine ⟨d, rfl, by linarith, toScale_of_near exact ?_⟩
  exact (mul_le_mul_of_nonneg_right close (scale_pos k).le).trans_lt less

def value : JsNumber → ℚ
  | finite q => q
  | nan | infinity _ => 0

/-! ## Sums -/

/-- `ns.reduce((sum, n) => sum + n, 0)` -/
def added (ns : List JsNumber) : JsNumber := ns.foldl plus (finite 0)

theorem double_zero : (finite 0).double = finite 0 := by decide +kernel

theorem double_added (ns : List JsNumber) : (added ns).double = added ns := double_foldl_plus double_zero ns

theorem double_plus (a b : JsNumber) : (a.plus b).double = a.plus b := double_double _

theorem isDouble_of_double {n : JsNumber} (double : n.double = n) : n.IsDouble := double ▸ isDouble_double n

theorem nonneg_double {x : ℚ} (nonneg : 0 ≤ x) : (finite 0).le (finite x).double = true := by
  by_cases small : |x| < overflow
  · rw [double, if_pos small, le_finite]
    exact toDouble_nonneg nonneg
  · rw [double, if_neg small, decide_eq_false (not_lt.mpr nonneg)]
    rfl

theorem le_double_double {x y : ℚ} (le : x ≤ y) : (finite x).double.le (finite y).double = true := by
  rw [double, double]
  split_ifs with hx hy hy
  · rw [le_finite]
    exact toDouble_mono le
  · have positive : ¬ y < 0 := by
      intro neg
      rw [abs_lt] at hx
      rw [abs_of_neg neg] at hy
      linarith
    simp [JsNumber.le, positive]
  · have negative : x < 0 := by
      by_contra nonneg
      rw [abs_lt] at hy
      rw [abs_of_nonneg (not_lt.mp nonneg)] at hx
      linarith
    simp [JsNumber.le, negative]
  · by_cases negative : x < 0
    · simp [JsNumber.le, negative]
    · simp [JsNumber.le, not_lt.mpr ((not_lt.mp negative).trans le)]

theorem not_lt_double {x y : ℚ} (le : x ≤ y) : ¬ (finite y).double.lt (finite x).double = true := by
  simp [lt, le_double_double le]

theorem plus_comm (a b : JsNumber) : a.plus b = b.plus a := by
  cases a <;> cases b <;> simp [plus, add, add_comm, eq_comm]
  split <;> simp_all

theorem plus_eq_finite {a b : JsNumber} {q : ℚ} (sum : a.plus b = finite q) : ∃ x y, a = finite x ∧ b = finite y := by
  cases a with
  | nan => rw [plus, nan_add] at sum; cases sum
  | infinity negative => cases b with
    | nan => cases sum
    | infinity negative' =>
        by_cases same : negative = negative' <;> simp [plus, add, same, double] at sum
    | finite y => cases sum
  | finite x => cases b with
    | nan => cases sum
    | infinity negative => cases sum
    | finite y => exact ⟨x, y, rfl, rfl⟩

theorem double_fixed {n : JsNumber} (double : n.double = n) (k : ℕ) : (n.fixed k).double = n.fixed k := by
  cases n with
  | nan => rw [fixed_nan]; rfl
  | infinity negative => rw [fixed_infinity]; rfl
  | finite q =>
      by_cases small : |q| < 10 ^ 21
      · rw [fixed_small small, double_double]
      · rwa [fixed_large small double]

theorem nonneg_fixed {n : JsNumber} (double : n.double = n) (nonneg : (finite 0).le n = true) (k : ℕ) :
    (finite 0).le (n.fixed k) = true := by
  cases n with
  | nan => cases nonneg
  | infinity negative => rwa [fixed_infinity]
  | finite q =>
      by_cases small : |q| < 10 ^ 21
      · rw [fixed_small small]
        exact nonneg_double (toScale_nonneg ((le_finite _ _).mp nonneg))
      · rwa [fixed_large small double]

theorem nonneg_dividedBy {n : JsNumber} (nonneg : (finite 0).le n = true) {y : ℚ} (pos : 0 < y) :
    (finite 0).le (n.dividedBy (finite y)) = true := by
  cases n with
  | nan => cases nonneg
  | infinity negative =>
      cases negative with
      | true => cases nonneg
      | false => simp [dividedBy, div, not_lt.mpr pos.le, double, le]
  | finite q =>
      rw [dividedBy, div_finite q pos.ne']
      exact nonneg_double (div_nonneg ((le_finite _ _).mp nonneg) pos.le)

theorem fixed_zero (k : ℕ) : (finite 0).fixed k = finite 0 := by
  rw [fixed_small (by norm_num), toScale_of_exact (.zero k), double_zero]

theorem finite_of_foldl_plus {d : JsNumber} {ns : List JsNumber} {q : ℚ} (sum : ns.foldl plus d = finite q) :
    (∃ x, d = finite x) ∧ ∀ n ∈ ns, ∃ x, n = finite x := by
  induction ns generalizing d with
  | nil => exact ⟨⟨q, sum⟩, by simp⟩
  | cons n ns ih =>
      obtain ⟨⟨x, first⟩, rest⟩ := ih sum
      obtain ⟨y, z, rfl, rfl⟩ := plus_eq_finite first
      exact ⟨⟨y, rfl⟩, List.forall_mem_cons.mpr ⟨⟨z, rfl⟩, rest⟩⟩

theorem le_foldl_plus {d : JsNumber} {ns : List JsNumber} (double : d.double = d) (nonneg : (finite 0).le d = true)
    (all : ∀ n ∈ ns, (finite 0).le n = true) : d.le (ns.foldl plus d) = true := by
  induction ns generalizing d with
  | nil => exact le_refl_of_le nonneg
  | cons n ns ih =>
      rw [List.forall_mem_cons] at all
      have step := le_plus (isDouble_of_double double) nonneg all.1
      exact le_trans step (ih (double_double _) (le_trans nonneg step) all.2)

theorem nonneg_added {ns : List JsNumber} (all : ∀ n ∈ ns, (finite 0).le n = true) : (finite 0).le (added ns) = true :=
  le_foldl_plus double_zero rfl all

theorem le_added {ns : List JsNumber} (all : ∀ n ∈ ns, n.double = n ∧ (finite 0).le n = true) {n : JsNumber}
    (mem : n ∈ ns) : n.le (added ns) = true := by
  obtain ⟨before, after, rfl⟩ := List.append_of_mem mem
  rw [List.forall_mem_append, List.forall_mem_cons] at all
  obtain ⟨first, ⟨double, nonneg⟩, last⟩ := all
  have start := nonneg_added fun m mem => (first m mem).2
  have step := le_plus (isDouble_of_double double) nonneg start
  rw [plus_comm] at step
  rw [added, List.foldl_append, List.foldl_cons]
  exact le_trans step (le_foldl_plus (double_double _) (le_trans nonneg step) fun m mem => (last m mem).2)

theorem foldl_plus_zeros {d : JsNumber} (double : d.double = d) {ns : List JsNumber} (zeros : ∀ n ∈ ns, n = finite 0) :
    ns.foldl plus d = d := by
  induction ns with
  | nil => rfl
  | cons n ns ih =>
      rw [List.forall_mem_cons] at zeros
      rw [List.foldl_cons, zeros.1, plus_zero double]
      exact ih zeros.2

theorem added_zeros {ns : List JsNumber} (zeros : ∀ n ∈ ns, n = finite 0) : added ns = finite 0 :=
  foldl_plus_zeros double_zero zeros

theorem nonneg_plus {a b : JsNumber} (double : a.double = a) (ha : (finite 0).le a = true) (hb : (finite 0).le b = true) :
    (finite 0).le (a.plus b) = true := le_trans ha (le_plus (isDouble_of_double double) ha hb)

theorem zero_plus {n : JsNumber} (double : n.double = n) : (finite 0).plus n = n := by
  rw [plus_comm, plus_zero double]

theorem minus_zero {n : JsNumber} (double : n.double = n) : n.minus (finite 0) = n := by
  rw [minus, sub, neg_finite, neg_zero]
  exact plus_zero double

theorem zero_of_added {k : ℕ} (scale : k ≤ 19) {ns : List JsNumber}
    (amounts : ∀ n ∈ ns, ∃ x, Exact k x ∧ 0 ≤ x ∧ n = (finite x).double) (zero : Rounds k (added ns) 0) {n : JsNumber}
    (mem : n ∈ ns) : n = finite 0 := by
  obtain ⟨q, sum, -, rounded⟩ := zero
  have doubles : ∀ n ∈ ns, n.double = n ∧ (finite 0).le n = true := by
    intro n mem
    obtain ⟨x, -, nonneg, rfl⟩ := amounts n mem
    exact ⟨double_double _, nonneg_double nonneg⟩
  have below := le_added doubles mem
  obtain ⟨x, exact, nonneg, rfl⟩ := amounts n mem
  have small := abs_toScale_sub_le k q
  rw [rounded, zero_sub, abs_neg] at small
  rcases nonneg.eq_or_lt with rfl | pos
  · exact double_zero
  -- Otherwise it is at least a unit.
  exfalso
  have ten := scale_pos k
  obtain ⟨m, hm⟩ := exact_iff.mp exact
  have least : 1 / 10 ^ k ≤ x := by
    have positive : (0 : ℚ) < m := hm ▸ mul_pos pos ten
    have whole : (1 : ℚ) ≤ m := by exact_mod_cast Int.add_one_le_iff.mpr (by exact_mod_cast positive : 0 < m)
    rwa [div_le_iff₀ ten, hm]
  have powers : (10 : ℚ) ^ k ≤ 10 ^ 19 := pow_le_pow_right₀ (by norm_num) scale
  have unit : (1 : ℚ) / 2 ^ 64 ≤ 1 / 10 ^ k := one_div_le_one_div_of_le ten (powers.trans (by norm_num))
  have rounds := abs_toDouble_sub_le_mul (q := 1 / 10 ^ k) (normal_of_le unit) (abs_of_pos (by positivity)).le
  have mono := toDouble_mono least
  rw [abs_le] at rounds
  rw [sum, double] at below
  split at below
  · rw [le_finite] at below
    have bound : 1 / 10 ^ k - 1 / 10 ^ k / 2 ^ 53 ≤ q := by linarith
    have scaled := mul_le_mul_of_nonneg_right bound ten.le
    have cancel : (1 / 10 ^ k - 1 / 10 ^ k / 2 ^ 53) * 10 ^ k = (1 : ℚ) - 1 / 2 ^ 53 := by field_simp
    rw [cancel] at scaled
    have most := mul_le_mul_of_nonneg_right (le_abs_self q) ten.le
    norm_num at scaled
    linarith
  · simp [le, not_lt.mpr nonneg] at below

end JsNumber

/-! ## Requests and columns -/

/-- What `@IsNumber()` and `@Min(0)` let through. -/
structure Amount where
  value : ℚ
  double : (JsNumber.finite value).double = .finite value
  nonneg : 0 ≤ value

namespace Amount

def number (a : Amount) : JsNumber := .finite a.value

def ofDecimal (q : ℚ) (nonneg : 0 ≤ q) (small : q ≤ 2 ^ 64) : Amount where
  value := toDouble q
  double := by
    rw [← JsNumber.double_of_le (by rwa [abs_of_nonneg nonneg]), JsNumber.double_double]
  nonneg := toDouble_nonneg nonneg

end Amount

/-- `Number(x)` -/
def Numeric.number {p s : ℕ} (x : Numeric p s) : JsNumber := (JsNumber.finite x.val).double

namespace Numeric
variable {p s : ℕ} (digits : p ≤ 14) (scale : s ≤ 19) (x : Numeric p s)
include digits

theorem abs_val_mul_le : |x.val| * 10 ^ s ≤ 10 ^ 14 := by
  have size := mul_le_mul_of_nonneg_right x.abs_val_le_div (scale_pos s).le
  rw [div_mul_cancel₀ _ (scale_pos s).ne'] at size
  exact size.trans (pow_le_pow_right₀ (by norm_num) digits)

include scale

theorem rounds_number : JsNumber.Rounds s x.number x.val := by
  have size := x.abs_val_mul_le digits
  rw [← le_div_iff₀ (scale_pos s)] at size
  have powers : (10 : ℚ) ^ s ≤ 10 ^ 19 := pow_le_pow_right₀ (by norm_num) scale
  have most : (10 : ℚ) ^ 14 / 10 ^ s ≤ 10 ^ 14 := div_le_self (by norm_num) (one_le_pow₀ (by norm_num))
  have least : (1 : ℚ) / 2 ^ 64 ≤ 10 ^ 14 / 10 ^ s := by
    rw [div_le_div_iff₀ (by norm_num) (scale_pos s)]
    linarith
  have near := JsNumber.near_rounded (normal_of_le least) (most.trans (by norm_num)) size
  refine JsNumber.rounds_of_near x.exact_val near ?_ ?_
  · linarith
  · calc (10 : ℚ) ^ 14 / 10 ^ s / 2 ^ 53 * 10 ^ s = 10 ^ 14 / 2 ^ 53 := by field_simp
      _ < 1/2 := by norm_num

theorem fixed_number : x.number.fixed s = x.number := (x.rounds_number digits scale).fixed

theorem spelled_number : x.number.spelled = x.val :=
  JsNumber.spelled_double x.exact_val scale ((x.abs_val_mul_le digits).trans_lt (by norm_num))

end Numeric
end Foundations
