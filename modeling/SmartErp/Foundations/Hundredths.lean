import SmartErp.Foundations.Spelling

/-!
# Whole units of hundredths

Hundredths divided by 100 and rounded, halves up, in doubles: below `2 ^ 53` hundredths the quotient is off by
less than a hundredth, and halves are exact, so the result is the exact one. Rounding one by one and rounding
the sum give the same where what is cut off adds up to less than half a unit.
-/

namespace Foundations

/-- Hundredths as whole units, halves up. -/
def units (n : ℤ) : ℤ := (n + 50) / 100

/-- What `units` cuts off, negative where it adds. -/
def cut (n : ℤ) : ℤ := (n + 50) % 100 - 50

theorem units_add_cut (n : ℤ) : 100 * units n + cut n = n := by
  unfold units cut
  omega

theorem units_sum (ns : List ℤ) :
    units ns.sum = (ns.map units).sum ↔ -50 ≤ (ns.map cut).sum ∧ (ns.map cut).sum < 50 := by
  have split : ns.sum = 100 * (ns.map units).sum + (ns.map cut).sum := by
    induction ns with
    | nil => rfl
    | cons n ns ih =>
        simp only [List.sum_cons, List.map_cons]
        have first := units_add_cut n
        omega
  rw [split, units]
  omega

/-! ## In doubles -/

/-- Halves of a unit are doubles. -/
theorem toDouble_half {n : ℤ} (small : |(n : ℚ) / 2| < 2 ^ 47) : toDouble (n / 2) = n / 2 := by
  by_cases zero : (n : ℚ) / 2 = 0
  · rw [zero]
    decide +kernel
  have first : firstBit ((n : ℚ) / 2) < 47 := firstBit_lt zero (by exact_mod_cast small)
  have last : lastBit ((n : ℚ) / 2) ≤ -1 := by
    unfold lastBit
    omega
  obtain ⟨k, hk⟩ := Int.eq_ofNat_of_zero_le (show 0 ≤ -1 - lastBit ((n : ℚ) / 2) by omega)
  apply toDouble_of_multiple (n := n * 2 ^ k)
  rw [show lastBit ((n : ℚ) / 2) = -((k + 1 : ℕ) : ℤ) by push_cast; omega, zpow_neg, zpow_natCast, pow_succ]
  push_cast
  field_simp

theorem floor_hundredths {n : ℤ} (small : |n| < 2 ^ 53) : ⌊toDouble ((n : ℚ) / 100) + 1/2⌋ = units n := by
  have bound : |(n : ℚ)| < 2 ^ 53 := by
    rw [← Int.cast_abs]
    exact_mod_cast small
  have size : |(n : ℚ) / 100| < 2 ^ 47 := by
    rw [abs_div, div_lt_iff₀ (by norm_num)]
    norm_num at bound ⊢
    linarith
  have parts : (n : ℚ) / 100 = units n + (cut n : ℚ) / 100 := by
    have whole := units_add_cut n
    field_simp
    exact_mod_cast whole.symm
  have low : -50 ≤ cut n := by
    unfold cut
    omega
  have high : cut n ≤ 49 := by
    unfold cut
    omega
  rcases low.eq_or_lt with half | more
  · have exact : (n : ℚ) / 100 = (2 * units n - 1 : ℤ) / 2 := by
      rw [parts, ← half]
      push_cast
      ring
    rw [exact, toDouble_half (exact ▸ size), Int.floor_eq_iff]
    push_cast
    constructor <;> linarith
  · have error := abs_toDouble_sub_le (e := 47) (by norm_num) (size.trans_eq (by norm_num))
    have tiny : (2 : ℚ) ^ ((47 : ℤ) - 54) = 1/128 := by norm_num
    rw [tiny, abs_le] at error
    have low : (-49 : ℚ) ≤ cut n := by exact_mod_cast more
    have high : (cut n : ℚ) ≤ 49 := by exact_mod_cast high
    rw [Int.floor_eq_iff]
    constructor <;> linarith

namespace JsNumber

theorem round_hundredths {n : ℤ} (small : |n| < 2 ^ 53) :
    ((finite n).double.dividedBy (finite 100)).round = finite (units n) := by
  have fits : |(n : ℚ) / 100| < overflow := by
    apply lt_overflow
    have bound : |(n : ℚ)| < 2 ^ 53 := by
      rw [← Int.cast_abs]
      exact_mod_cast small
    rw [abs_div, div_le_iff₀ (by norm_num)]
    norm_num at bound ⊢
    linarith
  rw [double_safe small, dividedBy, div_finite _ (by norm_num), double, if_pos fits, round_finite,
    floor_hundredths small]

theorem round_times_hundred {n : ℤ} (small : |n| < 2 ^ 50) :
    ((finite (n / 100)).double.times (finite 100)).round = finite n := by
  have bound : |(n : ℚ)| < 2 ^ 50 := by
    rw [← Int.cast_abs]
    exact_mod_cast small
  have size : |(n : ℚ) / 100| < 2 ^ (44 : ℤ) := by
    rw [abs_div, div_lt_iff₀ (by norm_num)]
    norm_num at bound ⊢
    linarith
  have error := abs_toDouble_sub_le (by norm_num) size
  have near : |toDouble (n / 100) * 100 - n| < 1/10 := by
    have scaled : toDouble (n / 100) * 100 - n = (toDouble (n / 100) - n / 100) * 100 := by ring
    rw [scaled, abs_mul]
    norm_num at error ⊢
    linarith
  have size' : |toDouble (n / 100) * 100| < 2 ^ (51 : ℤ) := by
    rw [abs_lt] at bound near ⊢
    norm_num at bound near ⊢
    constructor <;> linarith
  have error' := abs_toDouble_sub_le (by norm_num) size'
  have fits : |(n : ℚ) / 100| < overflow := lt_overflow (size.le.trans (by norm_num))
  have fits' : |toDouble (n / 100) * 100| < overflow := lt_overflow (size'.le.trans (by norm_num))
  rw [double, if_pos fits, times, mul_finite, double, if_pos fits', round_finite]
  congr 2
  rw [Int.floor_eq_iff]
  rw [abs_lt] at near
  rw [abs_le] at error'
  norm_num at error'
  constructor <;> linarith

theorem round_column {p : ℕ} (digits : p ≤ 15) (x : Numeric p 2) :
    ((finite x.val).double.times (finite 100)).round = finite x.units := by
  have small : |x.units| < 2 ^ 50 := by
    have bound : x.units.natAbs < 10 ^ 15 := x.fits.trans_le (Nat.pow_le_pow_right (by norm_num) digits)
    rw [Int.abs_eq_natAbs]
    omega
  have hundredths : x.val = (x.units : ℚ) / 100 := by
    rw [Numeric.val]
    norm_num
  rw [hundredths, round_times_hundred small]

/-! ## Texts of whole numbers -/

/-- The number that `String(q)` spells for a whole double `q`: the one of the fewest digits, zeros after them
apart, that reads back as `q`. -/
def shortest (q : ℚ) : ℤ :=
  let places := (Nat.toDigits 10 ⌊q⌋.natAbs).length
  let rounded (k : ℕ) : ℤ := roundHalfEven (q / 10 ^ (places - k)) * 10 ^ (places - k)
  ((List.range' 1 places).find? fun k => toDouble (rounded k) = q).elim ⌊q⌋ rounded

/-- `String(n)` of a whole number -/
def wholeText : JsNumber → String
  | finite q =>
      if |q| < 10 ^ 21 then intText (shortest q) else String.ofList (spelling (finite q))
  | nan => "NaN"
  | infinity negative => if negative then "-Infinity" else "Infinity"

theorem eq_of_toDouble {n c : ℤ} (safe : |n| < 2 ^ 53) (near : 2 * |c - n| ≤ |n|) (same : toDouble c = n) : c = n := by
  by_cases small : |c| < 2 ^ 53
  · rw [toDouble_safe small] at same
    exact_mod_cast same
  have large : |c| < 2 ^ 54 := by
    have triangle := abs_sub_abs_le_abs_sub c n
    omega
  have size : |(c : ℚ)| < 2 ^ (54 : ℤ) := by
    rw [← Int.cast_abs]
    exact_mod_cast large
  have error := abs_toDouble_sub_le (by norm_num) size
  rw [same, sub_self, zpow_zero] at error
  have next : |n - c| ≤ 1 := by exact_mod_cast error
  -- The next whole number that is not safe is a double.
  have edge : c = 2 ^ 53 ∨ c = -2 ^ 53 := by
    rw [abs_lt] at safe
    rw [abs_le] at next
    rw [not_lt, le_abs] at small
    omega
  have double : toDouble ((2 ^ 53 : ℤ) : ℚ) = (2 ^ 53 : ℤ) ∧ toDouble ((-2 ^ 53 : ℤ) : ℚ) = (-2 ^ 53 : ℤ) := by
    decide +kernel
  rcases edge with rfl | rfl
  · rw [double.1] at same
    exact_mod_cast same
  · rw [double.2] at same
    exact_mod_cast same

theorem two_mul_abs_rounded_sub_le {n : ℤ} {j : ℕ} (size : 10 ^ j ≤ |n|) :
    2 * |roundHalfEven ((n : ℚ) / 10 ^ j) * 10 ^ j - n| ≤ |n| := by
  have scale : (0 : ℚ) < 10 ^ j := by positivity
  have moved : (roundHalfEven ((n : ℚ) / 10 ^ j) * 10 ^ j - n : ℚ) =
      (roundHalfEven ((n : ℚ) / 10 ^ j) - n / 10 ^ j) * 10 ^ j := by
    rw [sub_mul, div_mul_cancel₀ _ scale.ne']
  have bound : 2 * |(roundHalfEven ((n : ℚ) / 10 ^ j) * 10 ^ j - n : ℚ)| ≤ 10 ^ j := by
    rw [moved, abs_mul, abs_of_pos scale, ← mul_assoc]
    have half := abs_roundHalfEven_sub_le ((n : ℚ) / 10 ^ j)
    exact mul_le_of_le_one_left scale.le (by linarith)
  have whole : 2 * |roundHalfEven ((n : ℚ) / 10 ^ j) * 10 ^ j - n| ≤ 10 ^ j := by exact_mod_cast bound
  exact whole.trans size

theorem shortest_safe {n : ℤ} (safe : |n| < 2 ^ 53) : shortest n = n := by
  unfold shortest
  rw [Int.floor_intCast]
  dsimp only
  generalize found : (List.range' 1 (Nat.toDigits 10 n.natAbs).length).find? _ = k
  cases k with
  | none => rfl
  | some k =>
      have mem := List.mem_range'_1.mp (List.mem_of_find?_eq_some found)
      have same := List.find?_some found
      rw [decide_eq_true_eq] at same
      refine eq_of_toDouble safe ?_ same
      rcases Nat.eq_zero_or_pos ((Nat.toDigits 10 n.natAbs).length - k) with all | some
      · simp [all]
      · apply two_mul_abs_rounded_sub_le
        have digits : ¬ (Nat.toDigits 10 n.natAbs).length ≤ (Nat.toDigits 10 n.natAbs).length - 1 := by omega
        rw [Nat.length_toDigits_le_iff (by norm_num) (by omega), not_lt] at digits
        have less : 10 ^ ((Nat.toDigits 10 n.natAbs).length - k) ≤ 10 ^ ((Nat.toDigits 10 n.natAbs).length - 1) :=
          Nat.pow_le_pow_right (by norm_num) (by omega)
        rw [Int.abs_eq_natAbs]
        exact_mod_cast less.trans digits

theorem shortest_nonneg {q : ℚ} (nonneg : 0 ≤ q) : 0 ≤ shortest q := by
  unfold shortest
  dsimp only
  generalize List.find? _ _ = k
  cases k with
  | none => exact Int.floor_nonneg.mpr nonneg
  | some k =>
      have scaled : ((0 : ℤ) : ℚ) ≤ q / 10 ^ ((Nat.toDigits 10 ⌊q⌋.natAbs).length - k) := by
        rw [Int.cast_zero]
        positivity
      exact mul_nonneg (le_roundHalfEven scaled) (by positivity)

theorem safe_of_shortest {n : ℕ} (safe : shortest n < 2 ^ 53) : n < 2 ^ 53 := by
  have nonneg := shortest_nonneg n.cast_nonneg
  unfold shortest at safe nonneg
  dsimp only at safe nonneg
  generalize found : List.find? _ _ = k at safe nonneg
  cases k with
  | none =>
      rw [Option.elim_none, Int.floor_natCast] at safe
      exact_mod_cast safe
  | some k =>
      have same := List.find?_some found
      rw [decide_eq_true_eq] at same
      rw [Option.elim_some] at safe nonneg
      rw [toDouble_safe (by rwa [abs_of_nonneg nonneg])] at same
      have value : ((roundHalfEven ((n : ℚ) / 10 ^ ((Nat.toDigits 10 ⌊(n : ℚ)⌋.natAbs).length - k)) *
        10 ^ ((Nat.toDigits 10 ⌊(n : ℚ)⌋.natAbs).length - k) : ℤ) : ℚ) < ((2 ^ 53 : ℤ) : ℚ) := by exact_mod_cast safe
      rw [same] at value
      exact_mod_cast value

theorem wholeText_safe {n : ℤ} (safe : |n| < 2 ^ 53) : (finite n).wholeText = intText n := by
  have size : |(n : ℚ)| < 10 ^ 21 := by
    rw [← Int.cast_abs]
    have bound : (|n| : ℚ) < 2 ^ 53 := by exact_mod_cast safe
    push_cast
    linarith
  rw [wholeText, if_pos size, shortest_safe safe]

theorem figure_intText {n : ℤ} {c : Char} (mem : c ∈ (intText n).toList) : Figure c := by
  rcases figures_fixedText mem with digit | sign | point
  · exact .inl (by simp [Char.isAlphanum, digit])
  · exact .inr (.inl sign)
  · exact .inr (.inr (.inr point))

theorem figure_wholeText {n : JsNumber} {c : Char} (mem : c ∈ n.wholeText.toList) : Figure c := by
  cases n with
  | nan => exact @figure_word "NaN" c (by decide) mem
  | infinity negative =>
      cases negative with
      | false => exact @figure_word "Infinity" c (by decide) mem
      | true => exact @figure_word "-Infinity" c (by decide) mem
  | finite q =>
      rw [wholeText] at mem
      split_ifs at mem
      · exact figure_intText mem
      · rw [String.toList_ofList] at mem
        exact figure_spelling mem

end JsNumber

/-! ## Reading decimal texts -/

def decimal : List Char → Option ℚ
  | '-' :: cs => (parseUnsigned cs).map fun q => -q
  | cs => parseUnsigned cs

theorem decimal_fixedText (negative : Bool) (m k : ℕ) :
    decimal (fixedText negative m k).toList = some ((if negative then -1 else 1) * ((m : ℚ) / 10 ^ k)) := by
  obtain ⟨c, cs, spelled, digit, parsed⟩ := toList_fixedText_digits negative m k
  rw [spelled]
  cases negative with
  | true => simp [decimal, parsed]
  | false =>
      have unsigned : c ≠ '-' := by
        rintro rfl
        exact absurd digit (by decide)
      rw [if_neg Bool.false_ne_true, if_neg Bool.false_ne_true, one_mul, List.nil_append, decimal, parsed]
      intro tail same
      exact unsigned (List.cons.inj same).1

theorem decimal_intText (n : ℤ) : decimal (intText n).toList = some (n : ℚ) := by
  rw [intText, decimal_fixedText, pow_zero, div_one, Nat.cast_natAbs]
  by_cases negative : n < 0
  · simp [negative, abs_of_neg negative]
  · simp [negative, abs_of_nonneg (not_lt.mp negative)]

theorem decimal_text {p s : ℕ} (x : Numeric p s) : decimal x.text.toList = some x.val := by
  rw [Numeric.text, decimal_fixedText, Numeric.val, Nat.cast_natAbs]
  by_cases negative : x.units < 0
  · simp [negative, abs_of_neg negative, neg_div]
  · simp [negative, abs_of_nonneg (not_lt.mp negative)]

end Foundations
