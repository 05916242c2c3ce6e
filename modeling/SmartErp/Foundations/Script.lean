import SmartErp.Foundations.Decimal
import Mathlib.Data.Nat.Prime.Basic
import Mathlib.Tactic.NormNum

/-!
# Numbers of ECMAScript before rounding

`NaN`, the infinities and finite numbers with what `+`, `-`, `*`, `/` and `<=` say of them. The results are those
that are rounded next, and the texts are decimal ones of any length.
-/

namespace Foundations

inductive JsNumber where
  | nan
  | infinity (negative : Bool)
  | finite (q : ℚ)
  deriving DecidableEq

namespace JsNumber

/-- The least magnitude that rounds to `Infinity`. -/
def overflow : ℚ := 2 ^ 1024 - 2 ^ 970

def neg : JsNumber → JsNumber
  | nan => nan
  | infinity negative => infinity !negative
  | finite q => finite (-q)

def abs : JsNumber → JsNumber
  | nan => nan
  | infinity _ => infinity false
  | finite q => finite |q|

def add : JsNumber → JsNumber → JsNumber
  | nan, _ | _, nan => nan
  | infinity a, infinity b => if a = b then infinity a else nan
  | infinity a, finite _ | finite _, infinity a => infinity a
  | finite p, finite q => finite (p + q)

def sub (a b : JsNumber) : JsNumber := a.add b.neg

def mul : JsNumber → JsNumber → JsNumber
  | nan, _ | _, nan => nan
  | infinity a, infinity b => infinity (a != b)
  | infinity a, finite q | finite q, infinity a =>
      if q = 0 then nan else infinity (a != decide (q < 0))
  | finite p, finite q => finite (p * q)

def div : JsNumber → JsNumber → JsNumber
  | nan, _ | _, nan | infinity _, infinity _ => nan
  | infinity a, finite q => infinity (a != decide (q < 0))
  | finite _, infinity _ => finite 0
  | finite p, finite q =>
      if q = 0 then (if p = 0 then nan else infinity (decide (p < 0))) else finite (p / q)

def le : JsNumber → JsNumber → Bool
  | nan, _ | _, nan => false
  | infinity a, infinity b => a || !b
  | infinity a, finite _ => a
  | finite _, infinity b => !b
  | finite p, finite q => decide (p ≤ q)

def lt (a b : JsNumber) : Bool := a.le b && !b.le a

/-- `Math.round`: halves go up. -/
def round : JsNumber → JsNumber
  | nan => nan
  | infinity a => infinity a
  | finite q => finite ⌊q + 1/2⌋

@[simp] theorem neg_finite (q : ℚ) : (finite q).neg = finite (-q) := rfl
@[simp] theorem abs_finite (q : ℚ) : (finite q).abs = finite |q| := rfl
@[simp] theorem add_finite (p q : ℚ) : (finite p).add (finite q) = finite (p + q) := rfl
@[simp] theorem mul_finite (p q : ℚ) : (finite p).mul (finite q) = finite (p * q) := rfl
@[simp] theorem round_finite (q : ℚ) : (finite q).round = finite ⌊q + 1/2⌋ := rfl

@[simp] theorem sub_finite (p q : ℚ) : (finite p).sub (finite q) = finite (p - q) := by
  simp [sub, sub_eq_add_neg]

@[simp] theorem le_finite (p q : ℚ) : (finite p).le (finite q) = true ↔ p ≤ q := by
  simp [le]

theorem div_finite (p : ℚ) {q : ℚ} (ne : q ≠ 0) : (finite p).div (finite q) = finite (p / q) := by
  simp [div, ne]

@[simp] theorem div_nan (a : JsNumber) : a.div nan = nan := by cases a <;> rfl
@[simp] theorem nan_div (a : JsNumber) : nan.div a = nan := by cases a <;> rfl
@[simp] theorem mul_nan (a : JsNumber) : a.mul nan = nan := by cases a <;> rfl
@[simp] theorem add_nan (a : JsNumber) : a.add nan = nan := by cases a <;> rfl
@[simp] theorem nan_add (a : JsNumber) : nan.add a = nan := by cases a <;> rfl
@[simp] theorem sub_nan (a : JsNumber) : a.sub nan = nan := by simp [sub, neg]
@[simp] theorem nan_sub (a : JsNumber) : nan.sub a = nan := by simp [sub]
@[simp] theorem abs_nan : nan.abs = nan := rfl
@[simp] theorem le_nan (a : JsNumber) : a.le nan = false := by cases a <;> rfl
@[simp] theorem nan_le (a : JsNumber) : nan.le a = false := by cases a <;> rfl

theorem lt_overflow {q : ℚ} (small : q ≤ 2 ^ 64) : q < overflow := by
  have huge : (2 : ℚ) ^ 64 ≤ 2 ^ 970 := pow_le_pow_right₀ (by norm_num) (by norm_num)
  unfold overflow
  rw [show 1024 = 970 + 54 from rfl, pow_add]
  generalize (2 : ℚ) ^ 970 = x at huge
  linarith

end JsNumber

/-! ## Decimal texts -/

/-- The digits of `m / 10^k`, with `k` of them after the point. -/
def fixedText (negative : Bool) (m k : Nat) : String :=
  (if negative then "-" else "") ++ String.ofList (Nat.toDigits 10 (m / 10 ^ k)) ++
    (if k = 0 then "" else "." ++ String.ofList ((Nat.toDigits 10 (m % 10 ^ k)).leftpad k '0'))

/-- How the driver returns a `bigint` column. -/
def intText (n : ℤ) : String := fixedText (decide (n < 0)) n.natAbs 0

/-- How the driver returns a `numeric(p, s)` column. -/
def Numeric.text {p s : Nat} (x : Numeric p s) : String :=
  fixedText (decide (x.units < 0)) x.units.natAbs s

def decimalCount (q : ℚ) : Nat :=
  ((List.range (Nat.log2 q.den + 1)).find? (fun k => decide (Exact k q))).getD 0

theorem exact_iff_dvd {s : Nat} {q : ℚ} : Exact s q ↔ q.den ∣ 10 ^ s := by
  constructor
  · intro exact
    obtain ⟨n, hn⟩ := exact_iff.mp exact
    have cleared : q.num * 10 ^ s = n * q.den := by
      have scaled : (q.num : ℚ) * 10 ^ s = n * q.den := by
        rw [← hn, mul_right_comm, Rat.mul_den_eq_num]
      exact_mod_cast scaled
    have divides : (q.den : ℤ) ∣ q.num * (10 ^ s : ℕ) := ⟨n, by push_cast; rw [cleared, mul_comm]⟩
    exact q.reduced.symm.dvd_of_dvd_mul_left (Int.natCast_dvd.mp divides |>.trans (by rw [Int.natAbs_mul]; rfl))
  · rintro ⟨m, hm⟩
    refine exact_iff.mpr ⟨q.num * m, ?_⟩
    have power : (10 : ℚ) ^ s = q.den * m := by exact_mod_cast hm
    rw [power, ← mul_assoc, Rat.mul_den_eq_num]
    push_cast
    rfl

theorem dvd_ten_pow_log2 {d k : ℕ} (divides : d ∣ 10 ^ k) : d ∣ 10 ^ Nat.log2 d := by
  rw [show 10 = 2 * 5 from rfl, mul_pow, Nat.dvd_mul] at divides
  obtain ⟨x, y, hx, hy, rfl⟩ := divides
  obtain ⟨a, -, rfl⟩ := (Nat.dvd_prime_pow Nat.prime_two).mp hx
  obtain ⟨b, -, rfl⟩ := (Nat.dvd_prime_pow Nat.prime_five).mp hy
  have nonzero : 2 ^ a * 5 ^ b ≠ 0 := by positivity
  have ha : a ≤ Nat.log2 (2 ^ a * 5 ^ b) := by
    rw [Nat.le_log2 nonzero]
    exact Nat.le_mul_of_pos_right _ (by positivity)
  have hb : b ≤ Nat.log2 (2 ^ a * 5 ^ b) := by
    rw [Nat.le_log2 nonzero]
    exact (Nat.pow_le_pow_left (by decide) b).trans (Nat.le_mul_of_pos_left _ (by positivity))
  have power (n : ℕ) : 10 ^ n = 2 ^ n * 5 ^ n := mul_pow 2 5 n
  rw [power]
  exact Nat.mul_dvd_mul (pow_dvd_pow 2 ha) (pow_dvd_pow 5 hb)

theorem exact_log2_den {k : Nat} {q : ℚ} (exact : Exact k q) : Exact (Nat.log2 q.den) q :=
  exact_iff_dvd.mpr (dvd_ten_pow_log2 (exact_iff_dvd.mp exact))

def parseUnsigned (cs : List Char) : Option ℚ :=
  let whole := cs.takeWhile (· ≠ '.')
  let fraction := (cs.dropWhile (· ≠ '.')).tail
  if (whole ++ fraction).all Char.isDigit ∧ whole ++ fraction ≠ [] then
    some ((Nat.ofDigitChars 10 (whole ++ fraction) 0 : ℚ) / 10 ^ fraction.length)
  else none

theorem parseUnsigned_eq_none {cs : List Char} {c : Char} (mem : c ∈ cs) (digit : c.isDigit = false) (point : c ≠ '.') :
    parseUnsigned cs = none := by
  have here : c ∈ cs.takeWhile (· ≠ '.') ++ (cs.dropWhile (· ≠ '.')).tail := by
    induction cs with
    | nil => cases mem
    | cons d ds ih =>
        by_cases first : d = '.'
        · rw [first, List.takeWhile_cons_of_neg (by decide), List.dropWhile_cons_of_neg (by decide)]
          exact (List.mem_cons.mp mem).resolve_left (first ▸ point)
        · rw [List.takeWhile_cons_of_pos (by simp [first]), List.dropWhile_cons_of_pos (by simp [first]), List.cons_append,
            List.mem_cons]
          exact (List.mem_cons.mp mem).imp_right ih
  apply if_neg
  rintro ⟨digits, -⟩
  have digit' := List.all_eq_true.mp digits c here
  rw [digit] at digit'
  cases digit'

private theorem digit_ne_point {c : Char} (digit : c.isDigit = true) : c ≠ '.' := by
  rintro rfl
  exact absurd digit (by decide)

theorem isDigit_toDigits {n : Nat} {c : Char} (mem : c ∈ Nat.toDigits 10 n) :
    c.isDigit = true :=
  Nat.isDigit_of_mem_toDigits (by decide) (by decide) mem

theorem parseUnsigned_digits {whole fraction : List Char} (digits : ∀ c ∈ whole ++ fraction, c.isDigit = true)
    (nonempty : whole ≠ []) {rest : List Char}
    (ends : rest = [] ∧ fraction = [] ∨ rest = '.' :: fraction) :
    parseUnsigned (whole ++ rest) =
      some ((Nat.ofDigitChars 10 (whole ++ fraction) 0 : ℚ) / 10 ^ fraction.length) := by
  have pointless : ∀ c ∈ whole, decide (c ≠ '.') = true := fun c mem =>
    decide_eq_true (digit_ne_point (digits c (List.mem_append_left _ mem)))
  have before : (whole ++ rest).takeWhile (fun c => decide (c ≠ '.')) = whole := by
    rw [List.takeWhile_append_of_pos pointless]
    rcases ends with ⟨rfl, -⟩ | rfl <;> simp
  have after : ((whole ++ rest).dropWhile (fun c => decide (c ≠ '.'))).tail = fraction := by
    rw [List.dropWhile_append_of_pos pointless]
    rcases ends with ⟨rfl, rfl⟩ | rfl <;> simp
  have accepted : (whole ++ fraction).all Char.isDigit = true ∧ whole ++ fraction ≠ [] :=
    ⟨List.all_eq_true.mpr digits, by simp [nonempty]⟩
  simp only [parseUnsigned, before, after]
  rw [if_pos accepted]

private theorem length_pad {n k : Nat} (small : n < 10 ^ k) (positive : 0 < k) :
    ((Nat.toDigits 10 n).leftpad k '0').length = k := by
  rw [List.length_leftpad]
  exact max_eq_left ((Nat.length_toDigits_le_iff (by decide) positive).mpr small)

private theorem ofDigitChars_pad (n k init : Nat) (positive : 0 < k) (small : n < 10 ^ k) :
    Nat.ofDigitChars 10 ((Nat.toDigits 10 n).leftpad k '0') init = 10 ^ k * init + n := by
  rw [Nat.ofDigitChars_eq_ofDigitChars_zero, length_pad small positive]
  simp [List.leftpad, Nat.ofDigitChars_append]

private def fractionDigits (m k : Nat) : List Char :=
  if k = 0 then [] else (Nat.toDigits 10 (m % 10 ^ k)).leftpad k '0'

private theorem length_fractionDigits (m k : Nat) : (fractionDigits m k).length = k := by
  unfold fractionDigits
  split_ifs with zero
  · simp [zero]
  · exact length_pad (Nat.mod_lt _ (by positivity)) (Nat.pos_of_ne_zero zero)

theorem isDigit_leftpad {n k : Nat} {c : Char} (mem : c ∈ (Nat.toDigits 10 n).leftpad k '0') : c.isDigit = true := by
  rcases List.mem_append.mp mem with pad | digit
  · rw [List.eq_of_mem_replicate pad]
    rfl
  · exact isDigit_toDigits digit

private theorem isDigit_fractionDigits {m k : Nat} {c : Char} (mem : c ∈ fractionDigits m k) : c.isDigit = true := by
  unfold fractionDigits at mem
  split_ifs at mem
  · cases mem
  · exact isDigit_leftpad mem

private theorem parseUnsigned_fixed (m k : Nat) :
    parseUnsigned (Nat.toDigits 10 (m / 10 ^ k) ++ if k = 0 then [] else '.' :: fractionDigits m k) =
      some ((m : ℚ) / 10 ^ k) := by
  have value : Nat.ofDigitChars 10 (Nat.toDigits 10 (m / 10 ^ k) ++ fractionDigits m k) 0 = m := by
    rw [Nat.ofDigitChars_append, Nat.ofDigitChars_ten_toDigits, fractionDigits]
    split_ifs with zero
    · simp [zero]
    · rw [ofDigitChars_pad _ _ _ (Nat.pos_of_ne_zero zero) (Nat.mod_lt _ (by positivity))]
      exact Nat.div_add_mod m (10 ^ k)
  have digits : ∀ c ∈ Nat.toDigits 10 (m / 10 ^ k) ++ fractionDigits m k, c.isDigit = true := by
    intro c mem
    rcases List.mem_append.mp mem with whole | fraction
    · exact isDigit_toDigits whole
    · exact isDigit_fractionDigits fraction
  rw [parseUnsigned_digits digits (Nat.toDigits_ne_nil), value, length_fractionDigits]
  by_cases zero : k = 0
  · exact .inl ⟨if_pos zero, if_pos zero⟩
  · exact .inr (if_neg zero)

private theorem toList_fixedText (negative : Bool) (m k : Nat) :
    (fixedText negative m k).toList = (if negative then ['-'] else []) ++
      (Nat.toDigits 10 (m / 10 ^ k) ++ if k = 0 then [] else '.' :: fractionDigits m k) := by
  unfold fixedText fractionDigits
  by_cases zero : k = 0 <;> cases negative <;> simp [zero]

theorem figures_fixedText {negative : Bool} {m k : Nat} {c : Char} (mem : c ∈ (fixedText negative m k).toList) :
    c.isDigit = true ∨ c = '-' ∨ c = '.' := by
  rw [toList_fixedText, List.mem_append, List.mem_append] at mem
  rcases mem with sign | whole | fraction
  · cases negative with
    | true => exact .inr (.inl (List.mem_singleton.mp sign))
    | false => exact absurd sign List.not_mem_nil
  · exact .inl (isDigit_toDigits whole)
  · split_ifs at fraction with zero
    · exact absurd fraction List.not_mem_nil
    · rcases List.mem_cons.mp fraction with point | digit
      · exact .inr (.inr point)
      · exact .inl (isDigit_fractionDigits digit)

theorem toList_fixedText_digits (negative : Bool) (m k : Nat) :
    ∃ c cs, (fixedText negative m k).toList = (if negative then ['-'] else []) ++ c :: cs ∧ c.isDigit = true ∧
      parseUnsigned (c :: cs) = some ((m : ℚ) / 10 ^ k) := by
  obtain ⟨c, cs, spelled⟩ := List.exists_cons_of_ne_nil (Nat.toDigits_ne_nil (n := m / 10 ^ k) (b := 10))
  have parsed := parseUnsigned_fixed m k
  rw [spelled, List.cons_append] at parsed
  refine ⟨c, _, ?_, isDigit_toDigits (n := m / 10 ^ k) (by rw [spelled]; exact List.mem_cons_self), parsed⟩
  rw [toList_fixedText, spelled, List.cons_append]

/-- `q.toFixed(k)` -/
def toFixed (q : ℚ) (k : Nat) : String :=
  fixedText (decide (q < 0)) (roundHalfAway (q * 10 ^ k)).natAbs k

theorem exact_decimalCount {q : ℚ} {k : Nat} (exact : Exact k q) : Exact (decimalCount q) q := by
  cases found : (List.range (Nat.log2 q.den + 1)).find? (fun k => decide (Exact k q)) with
  | none =>
      have := List.find?_eq_none.mp found (Nat.log2 q.den) (List.mem_range.mpr (Nat.lt_succ_self _))
      simp [exact_log2_den exact] at this
  | some j =>
      rw [decimalCount, found]
      simpa using List.find?_some found

theorem floor_decimals {q : ℚ} {k : Nat} (exact : Exact k q) :
    ((⌊|q| * 10 ^ decimalCount q⌋.natAbs : ℕ) : ℚ) / 10 ^ decimalCount q = |q| := by
  obtain ⟨n, hn⟩ := exact_iff.mp (exact_decimalCount exact)
  have scaled : |q| * 10 ^ decimalCount q = (|n| : ℤ) := by
    rw [Int.cast_abs, ← hn, abs_mul, abs_of_pos (scale_pos _)]
  rw [scaled, Int.floor_intCast, Nat.cast_natAbs, abs_abs, ← scaled]
  exact mul_div_cancel_right₀ _ (scale_pos _).ne'

theorem Exact.mono {s t : Nat} {q : ℚ} (le : s ≤ t) (exact : Exact s q) : Exact t q :=
  exact_iff_dvd.mpr ((exact_iff_dvd.mp exact).trans (pow_dvd_pow 10 le))

end Foundations
