import SmartErp.Foundations.Double
import Mathlib.Data.Int.Log

/-!
# Numbers as texts

`String(n)`: the fewest digits that read back as the double `n`, with an exponent where the point is far from
them. And a reader of such texts, which rounds what they say.
-/

namespace Foundations.JsNumber

/-- `digits * 10 ^ exponent` -/
structure Scientific where
  digits : ℕ
  exponent : ℤ

namespace Scientific

def value (d : Scientific) : ℚ := d.digits * 10 ^ d.exponent

def reads (q : ℚ) (d : Scientific) : Bool := (finite d.value).double = finite q

/-- The two numbers of `k` digits next to `q`, the nearer one first, and of two equally near the even one. -/
def neighbours (q : ℚ) (k : ℕ) : List Scientific :=
  let exponent := Int.log 10 q + 1 - k
  let scaled := q / 10 ^ exponent
  let nearest := roundHalfEven scaled
  let other := if nearest = ⌊scaled⌋ then nearest + 1 else ⌊scaled⌋
  [⟨nearest.natAbs, exponent⟩, ⟨other.natAbs, exponent⟩]

def exactly (q : ℚ) : Scientific := ⟨⌊q * 10 ^ decimalCount q⌋.natAbs, -decimalCount q⟩

/-- Of a double, 17 digits are always enough. -/
def shortest (q : ℚ) : Scientific :=
  (((List.range' 1 17).flatMap (neighbours q)).find? (reads q)).getD (exactly q)

end Scientific

def layout (significant : List Char) (n : ℤ) : List Char :=
  if significant.length ≤ n ∧ n ≤ 21 then significant ++ List.replicate (n - significant.length).toNat '0'
  else if 0 < n ∧ n ≤ 21 then significant.take n.toNat ++ '.' :: significant.drop n.toNat
  else if -6 < n ∧ n ≤ 0 then '0' :: '.' :: (List.replicate (-n).toNat '0' ++ significant)
  else significant.take 1 ++ (if significant.length = 1 then [] else '.' :: significant.drop 1) ++
    'e' :: (if 0 < n then '+' else '-') :: Nat.toDigits 10 (n - 1).natAbs

def magnitudeText (q : ℚ) : List Char :=
  let shortest := Scientific.shortest q
  let digits := Nat.toDigits 10 shortest.digits
  layout (digits.rdropWhile (· = '0')) (shortest.exponent + digits.length)

/-- `String(n)` -/
def spelling : JsNumber → List Char
  | nan => "NaN".toList
  | infinity negative => if negative then "-Infinity".toList else "Infinity".toList
  | finite q =>
      if q = 0 then ['0'] else if q < 0 then '-' :: magnitudeText |q| else magnitudeText q

/-! ## The reader -/

def readExponent : List Char → Option ℤ
  | [] => some 0
  | 'e' :: '+' :: es => if es.all Char.isDigit ∧ es ≠ [] then some (Nat.ofDigitChars 10 es 0) else none
  | 'e' :: '-' :: es => if es.all Char.isDigit ∧ es ≠ [] then some (-Nat.ofDigitChars 10 es 0) else none
  | _ => none

def readDecimal (cs : List Char) : Option ℚ := do
  let mantissa ← parseUnsigned (cs.takeWhile (· ≠ 'e'))
  let exponent ← readExponent (cs.dropWhile (· ≠ 'e'))
  return mantissa * 10 ^ exponent

def readUnsigned (cs : List Char) : Option JsNumber :=
  if cs = "NaN".toList then some nan
  else if cs = "Infinity".toList then some (infinity false)
  else (readDecimal cs).map finite

def readNumber : List Char → Option JsNumber
  | '-' :: cs => (readUnsigned cs).map fun n => n.double.neg
  | cs => (readUnsigned cs).map double

/-! ## Reading what is spelled -/

theorem digit_ne {c d : Char} (digit : c.isDigit = true) (other : d.isDigit = false) : c ≠ d := by
  rintro rfl
  rw [digit] at other
  cases other

theorem readDecimal_append {mantissa exponent : List Char} {q : ℚ} {e : ℤ}
    (plain : ∀ c ∈ mantissa, c ≠ 'e') (ends : exponent = [] ∨ exponent.head? = some 'e')
    (read : parseUnsigned mantissa = some q) (read' : readExponent exponent = some e) :
    readDecimal (mantissa ++ exponent) = some (q * 10 ^ e) := by
  have before : (mantissa ++ exponent).takeWhile (· ≠ 'e') = mantissa := by
    rw [List.takeWhile_append_of_pos (by simpa using plain)]
    rcases ends with rfl | head
    · simp
    · obtain ⟨es, rfl⟩ := List.head?_eq_some_iff.mp head
      simp
  have after : (mantissa ++ exponent).dropWhile (· ≠ 'e') = exponent := by
    rw [List.dropWhile_append_of_pos (by simpa using plain)]
    rcases ends with rfl | head
    · simp
    · obtain ⟨es, rfl⟩ := List.head?_eq_some_iff.mp head
      simp
  rw [readDecimal, before, after, read, read']
  rfl

theorem readExponent_toDigits (positive : Bool) (n : ℕ) :
    readExponent ('e' :: (if positive then '+' else '-') :: Nat.toDigits 10 n) =
      some (if positive then (n : ℤ) else -n) := by
  have digits : (Nat.toDigits 10 n).all Char.isDigit = true ∧ Nat.toDigits 10 n ≠ [] :=
    ⟨List.all_eq_true.mpr fun c mem => isDigit_toDigits mem, Nat.toDigits_ne_nil⟩
  cases positive <;> simp [readExponent, digits, Nat.ofDigitChars_ten_toDigits]

theorem readDecimal_digits {cs : List Char} {q : ℚ} (plain : ∀ c ∈ cs, c ≠ 'e') (read : parseUnsigned cs = some q) :
    readDecimal cs = some q := by
  have read' := readDecimal_append plain (.inl rfl) read rfl
  rwa [List.append_nil, zpow_zero, mul_one] at read'

theorem readDecimal_layout {significant : List Char} (digits : ∀ c ∈ significant, c.isDigit = true)
    (nonempty : significant ≠ []) (n : ℤ) : readDecimal (layout significant n) =
      some ((Nat.ofDigitChars 10 significant 0 : ℚ) * 10 ^ (n - significant.length)) := by
  have length : 0 < significant.length := List.length_pos_iff.mpr nonempty
  have zeros (k : ℕ) : ∀ c ∈ List.replicate k '0', c.isDigit = true := by
    intro c mem
    rw [List.eq_of_mem_replicate mem]
    decide
  have plain {cs : List Char} (all : ∀ c ∈ cs, c.isDigit = true) : ∀ c ∈ cs, c ≠ 'e' :=
    fun c mem => digit_ne (all c mem) (by decide)
  have dotted {whole fraction : List Char} (all : ∀ c ∈ whole ++ fraction, c.isDigit = true) :
      ∀ c ∈ whole ++ '.' :: fraction, c ≠ 'e' := by
    intro c mem
    rw [List.mem_append, List.mem_cons] at mem
    rcases mem with mem | rfl | mem
    · exact plain all c (List.mem_append_left _ mem)
    · decide
    · exact plain all c (List.mem_append_right _ mem)
  rw [layout]
  by_cases whole : significant.length ≤ n ∧ n ≤ 21
  · rw [if_pos whole]
    obtain ⟨k, rfl⟩ : ∃ k : ℕ, n = significant.length + k := ⟨(n - significant.length).toNat, by omega⟩
    have all : ∀ c ∈ (significant ++ List.replicate k '0') ++ [], c.isDigit = true := by
      simp only [List.append_nil, List.mem_append]
      exact fun c mem => mem.elim (digits c) (zeros k c)
    have read := parseUnsigned_digits all (by simp [nonempty]) (.inl ⟨rfl, rfl⟩)
    simp only [List.append_nil, List.length_nil, pow_zero, div_one] at read all
    have size : ((significant.length : ℤ) + k - significant.length) = k := by omega
    rw [size, Int.toNat_natCast, readDecimal_digits (plain all) read, Nat.ofDigitChars_append,
      Nat.ofDigitChars_replicate_zero]
    push_cast
    rw [zpow_natCast, mul_comm]
  rw [if_neg whole]
  by_cases fraction : 0 < n ∧ n ≤ 21
  · rw [if_pos fraction]
    obtain ⟨k, rfl⟩ : ∃ k : ℕ, n = k := ⟨n.toNat, by omega⟩
    have all : ∀ c ∈ significant.take k ++ significant.drop k, c.isDigit = true := by
      rw [List.take_append_drop]
      exact digits
    have read := parseUnsigned_digits all (by simp [nonempty]; omega) (.inr rfl)
    rw [Int.toNat_natCast, readDecimal_digits (dotted all) read, List.take_append_drop, List.length_drop]
    have size : (k : ℤ) - significant.length = -((significant.length - k : ℕ) : ℤ) := by omega
    rw [size, zpow_neg, zpow_natCast, div_eq_mul_inv]
  rw [if_neg fraction]
  by_cases small : -6 < n ∧ n ≤ 0
  · rw [if_pos small]
    obtain ⟨k, rfl⟩ : ∃ k : ℕ, n = -k := ⟨(-n).toNat, by omega⟩
    have all : ∀ c ∈ ['0'] ++ (List.replicate k '0' ++ significant), c.isDigit = true := by
      simp only [List.mem_append]
      rintro c (zero | zero | digit)
      · exact zeros 1 c zero
      · exact zeros k c zero
      · exact digits c digit
    have read := parseUnsigned_digits all (by simp) (.inr rfl)
    have value : Nat.ofDigitChars 10 (['0'] ++ (List.replicate k '0' ++ significant)) 0 =
        Nat.ofDigitChars 10 significant 0 := by
      rw [← List.append_assoc, Nat.ofDigitChars_append, ← List.replicate_one, ← List.replicate_add,
        Nat.ofDigitChars_replicate_zero, mul_zero]
    have size : (-(k : ℤ) - significant.length) = -((k + significant.length : ℕ) : ℤ) := by omega
    rw [neg_neg, Int.toNat_natCast]
    refine (readDecimal_digits (dotted all) read).trans ?_
    rw [value, size, zpow_neg, zpow_natCast, div_eq_mul_inv, List.length_append, List.length_replicate]
  rw [if_neg small]
  -- One digit before the point, and the exponent after the others.
  obtain ⟨d, ds, rfl⟩ : ∃ d ds, significant = d :: ds := List.exists_cons_of_ne_nil nonempty
  have mantissa : ∃ cs, (d :: ds).take 1 ++ (if (d :: ds).length = 1 then [] else '.' :: (d :: ds).drop 1) = cs ∧
      (∀ c ∈ cs, c ≠ 'e') ∧ parseUnsigned cs = some ((Nat.ofDigitChars 10 (d :: ds) 0 : ℚ) / 10 ^ ds.length) := by
    refine ⟨_, rfl, ?_⟩
    split_ifs with one
    · obtain rfl : ds = [] := by simpa using one
      have read := parseUnsigned_digits (by simpa using digits) (List.cons_ne_nil d []) (.inl ⟨rfl, rfl⟩)
      exact ⟨plain (by simpa using digits), by simpa using read⟩
    · have all : ∀ c ∈ [d] ++ ds, c.isDigit = true := digits
      exact ⟨dotted all, parseUnsigned_digits all (by simp) (.inr rfl)⟩
  obtain ⟨cs, written, free, read⟩ := mantissa
  rw [written]
  have exponent := readExponent_toDigits (decide (0 < n)) (n - 1).natAbs
  have signed : (if decide (0 < n) = true then ((n - 1).natAbs : ℤ) else -(n - 1).natAbs) = n - 1 := by
    by_cases positive : 0 < n
    · rw [if_pos (decide_eq_true positive)]
      omega
    · rw [if_neg (by simpa using positive)]
      omega
  rw [signed] at exponent
  simp only [decide_eq_true_eq] at exponent
  rw [readDecimal_append free (.inr rfl) read exponent, div_eq_mul_inv, mul_assoc, ← zpow_natCast, ← zpow_neg,
    ← zpow_add₀ (by norm_num)]
  congr 3
  rw [List.length_cons]
  push_cast
  ring

theorem exact_of_isDouble {q : ℚ} (double : Foundations.IsDouble q) : ∃ k, Exact k q := by
  obtain ⟨m, e, -, -, rfl⟩ := double
  refine ⟨(-e).toNat, exact_iff.mpr ?_⟩
  by_cases whole : 0 ≤ e
  · obtain ⟨k, rfl⟩ := Int.eq_ofNat_of_zero_le whole
    exact ⟨m * 2 ^ k, by simp⟩
  · obtain ⟨k, rfl⟩ : ∃ k : ℕ, e = -k := ⟨(-e).toNat, by omega⟩
    refine ⟨m * 5 ^ k, ?_⟩
    have ten : (10 : ℚ) ^ k = 2 ^ k * 5 ^ k := by
      rw [← mul_pow]
      norm_num
    rw [neg_neg, Int.toNat_natCast, zpow_neg, zpow_natCast, ten]
    push_cast
    field_simp

theorem value_exactly {q : ℚ} {k : ℕ} (exact : Exact k q) (nonneg : 0 ≤ q) : (Scientific.exactly q).value = q := by
  have decimals := floor_decimals exact
  rw [abs_of_nonneg nonneg] at decimals
  rw [Scientific.exactly, Scientific.value, zpow_neg, zpow_natCast, ← div_eq_mul_inv, decimals]

theorem reads_shortest {q : ℚ} (pos : 0 < q) (double : Foundations.IsDouble q)
    (same : (finite q).double = finite q) : (finite (Scientific.shortest q).value).double = finite q := by
  cases found : ((List.range' 1 17).flatMap (Scientific.neighbours q)).find? (Scientific.reads q) with
  | none =>
      obtain ⟨k, exact⟩ := exact_of_isDouble double
      rw [Scientific.shortest, found, Option.getD_none, value_exactly exact pos.le, same]
  | some d =>
      rw [Scientific.shortest, found, Option.getD_some]
      have reads : Scientific.reads q d = true := List.find?_some found
      exact of_decide_eq_true reads

theorem isDigit_significant {n : ℕ} {c : Char} (mem : c ∈ (Nat.toDigits 10 n).rdropWhile (· = '0')) :
    c.isDigit = true := isDigit_toDigits ((List.rdropWhile_prefix _ _).subset mem)

theorem readDecimal_magnitudeText {q : ℚ} (nonzero : (Scientific.shortest q).digits ≠ 0) :
    readDecimal (magnitudeText q) = some (Scientific.shortest q).value := by
  set d := Scientific.shortest q with hd
  set digits := Nat.toDigits 10 d.digits with hdigits
  set significant := digits.rdropWhile (· = '0') with hsignificant
  -- The digits are the significant ones and zeros.
  obtain ⟨k, zeros⟩ : ∃ k, digits.rtakeWhile (· = '0') = List.replicate k '0' :=
    ⟨_, List.eq_replicate_of_mem fun c mem => by simpa using List.mem_rtakeWhile_imp mem⟩
  have all : digits = significant ++ List.replicate k '0' := by
    rw [← zeros, hsignificant, List.rdropWhile_append_rtakeWhile]
  have value : d.digits = 10 ^ k * Nat.ofDigitChars 10 significant 0 := by
    have read := @Nat.ofDigitChars_ten_toDigits d.digits
    rw [← hdigits, all, Nat.ofDigitChars_append, Nat.ofDigitChars_replicate_zero] at read
    exact read.symm
  have nonempty : significant ≠ [] := by
    rintro empty
    rw [empty, Nat.ofDigitChars_nil, mul_zero] at value
    exact nonzero value
  have point : d.exponent + digits.length - significant.length = d.exponent + k := by
    rw [all, List.length_append, List.length_replicate]
    omega
  have figures : ∀ c ∈ significant, c.isDigit = true := fun c => isDigit_significant
  rw [magnitudeText, ← hd, ← hdigits, ← hsignificant, readDecimal_layout figures nonempty, point, Scientific.value]
  clear_value significant
  rw [value, zpow_add₀ (by norm_num), zpow_natCast]
  push_cast
  congr 1
  ring

theorem readDecimal_minus (cs : List Char) : readDecimal ('-' :: cs) = none := by
  have minus : '-' ∈ ('-' :: cs).takeWhile (· ≠ 'e') := by simp
  rw [readDecimal, parseUnsigned_eq_none minus (by decide) (by decide)]
  rfl

theorem readUnsigned_decimal {cs : List Char} {q : ℚ} (read : readDecimal cs = some q) :
    readUnsigned cs = some (finite q) := by
  have word {t : String} (unread : readDecimal t.toList = none) : cs ≠ t.toList := by
    rintro rfl
    rw [unread] at read
    cases read
  rw [readUnsigned, if_neg (word (by decide +kernel)), if_neg (word (by decide +kernel)), read, Option.map_some]

theorem readNumber_of_decimal {cs : List Char} {q : ℚ} (read : readDecimal cs = some q) :
    readNumber cs = some (finite q).double := by
  unfold readNumber
  split
  · rw [readDecimal_minus] at read
    cases read
  · rw [readUnsigned_decimal read, Option.map_some]

theorem readNumber_magnitudeText {q : ℚ} (pos : 0 < q) (double : Foundations.IsDouble q)
    (same : (finite q).double = finite q) : readNumber (magnitudeText q) = some (finite q) ∧
      readNumber ('-' :: magnitudeText q) = some (finite (-q)) := by
  have reads := reads_shortest pos double same
  have nonzero : (Scientific.shortest q).digits ≠ 0 := by
    intro zero
    have nothing : (finite (0 : ℚ)).double = finite 0 := by decide +kernel
    rw [Scientific.value, zero, Nat.cast_zero, zero_mul, nothing] at reads
    exact pos.ne (JsNumber.finite.inj reads)
  have read := readDecimal_magnitudeText nonzero
  constructor
  · rw [readNumber_of_decimal read, reads]
  · have unsigned := readUnsigned_decimal read
    rw [readNumber, unsigned, Option.map_some, reads]
    rfl

theorem readNumber_spelling {n : JsNumber} (double : n.double = n) : readNumber (spelling n) = some n := by
  cases n with
  | nan => decide +kernel
  | infinity negative => cases negative <;> decide +kernel
  | finite q =>
      obtain ⟨isDouble, same⟩ := double_abs double
      rw [spelling]
      split_ifs with zero negative
      · rw [zero]
        decide +kernel
      · have read := (readNumber_magnitudeText (abs_pos.mpr zero) isDouble same).2
        rw [abs_of_neg negative, neg_neg] at read
        rwa [abs_of_neg negative]
      · have pos : 0 < q := lt_of_le_of_ne (not_lt.mp negative) (Ne.symm zero)
        rw [abs_of_pos pos] at isDouble same
        exact (readNumber_magnitudeText pos isDouble same).1

/-! ## The characters -/

def Figure (c : Char) : Prop := c.isAlphanum = true ∨ c = '-' ∨ c = '+' ∨ c = '.'

instance (c : Char) : Decidable (Figure c) := inferInstanceAs (Decidable (_ ∨ _))

theorem figure_toDigits {n : ℕ} {c : Char} (mem : c ∈ Nat.toDigits 10 n) : Figure c := by
  have digit := isDigit_toDigits mem
  exact .inl (by simp [Char.isAlphanum, digit])

/-- The texts of what is not finite, of a sign or none, and of zero. -/
theorem figure_word {s : String} {c : Char} (word : s ∈ ["NaN", "-Infinity", "Infinity", "-", "", "0"]) (mem : c ∈ s.toList) :
    Figure c := by
  have all : ∀ s ∈ ["NaN", "-Infinity", "Infinity", "-", "", "0"], s.toList.all (Figure ·) = true := by decide
  exact List.all_iff_forall_prop.mp (all s word) c mem

theorem figure_layout {significant : List Char} (digits : ∀ c ∈ significant, c.isDigit = true) {n : ℤ} {c : Char}
    (mem : c ∈ layout significant n) : Figure c := by
  have figure {c : Char} (digit : c.isDigit = true) : Figure c := .inl (by simp [Char.isAlphanum, digit])
  have zero {k : ℕ} {c : Char} (mem : c ∈ List.replicate k '0') : Figure c := by
    rw [List.eq_of_mem_replicate mem]
    decide
  have taken {k : ℕ} {c : Char} (mem : c ∈ significant.take k) : Figure c :=
    figure (digits c (List.take_subset _ _ mem))
  have dropped {k : ℕ} {c : Char} (mem : c ∈ significant.drop k) : Figure c :=
    figure (digits c (List.drop_subset _ _ mem))
  have exponent {n : ℕ} {c : Char} (mem : c ∈ Nat.toDigits 10 n) : Figure c := figure (isDigit_toDigits mem)
  unfold layout at mem
  split at mem
  · exact (List.mem_append.mp mem).elim (fun mem => figure (digits c mem)) zero
  split at mem
  · rw [List.mem_append, List.mem_cons] at mem
    rcases mem with mem | rfl | mem
    · exact taken mem
    · decide
    · exact dropped mem
  split at mem
  · rw [List.mem_cons, List.mem_cons, List.mem_append] at mem
    rcases mem with rfl | rfl | mem | mem
    · decide
    · decide
    · exact zero mem
    · exact figure (digits c mem)
  rw [List.mem_append, List.mem_append, List.mem_cons, List.mem_cons] at mem
  rcases mem with (mem | mem) | rfl | rfl | mem
  · exact taken mem
  · split_ifs at mem
    · cases mem
    · rcases List.mem_cons.mp mem with rfl | mem
      · decide
      · exact dropped mem
  · decide
  · split_ifs <;> decide
  · exact exponent mem

theorem figure_spelling {n : JsNumber} {c : Char} (mem : c ∈ spelling n) : Figure c := by
  have magnitude {q : ℚ} {c : Char} (mem : c ∈ magnitudeText q) : Figure c :=
    figure_layout (fun c => isDigit_significant) mem
  cases n with
  | nan => exact @figure_word "NaN" c (by decide) mem
  | infinity negative =>
      cases negative with
      | false => exact @figure_word "Infinity" c (by decide) mem
      | true => exact @figure_word "-Infinity" c (by decide) mem
  | finite q =>
      rw [spelling] at mem
      split_ifs at mem
      · exact @figure_word "0" c (by decide) mem
      · rcases List.mem_cons.mp mem with rfl | mem
        · decide
        · exact magnitude mem
      · exact magnitude mem

/-! ## Fixed-point texts -/

/-- `n.toFixed(k)`; from `10 ^ 21` on the text is that of `String(n)`. -/
def toFixed : JsNumber → ℕ → String
  | finite q, k => if |q| < 10 ^ 21 then Foundations.toFixed q k else String.ofList (spelling (finite q))
  | nan, _ => "NaN"
  | infinity negative, _ => if negative then "-Infinity" else "Infinity"

theorem figure_toFixed {n : JsNumber} {k : ℕ} {c : Char} (mem : c ∈ (n.toFixed k).toList) : Figure c := by
  cases n with
  | nan => exact @figure_word "NaN" c (by decide) mem
  | infinity negative =>
      cases negative with
      | false => exact @figure_word "Infinity" c (by decide) mem
      | true => exact @figure_word "-Infinity" c (by decide) mem
  | finite q =>
      rw [toFixed] at mem
      split_ifs at mem
      · rcases figures_fixedText mem with digit | sign | point
        · exact .inl (by simp [Char.isAlphanum, digit])
        · exact .inr (.inl sign)
        · exact .inr (.inr (.inr point))
      · rw [String.toList_ofList] at mem
        exact figure_spelling mem

theorem lt_length_toDigits {j n : ℕ} (large : 10 ^ j ≤ n) : j < (Nat.toDigits 10 n).length := by
  by_contra few
  rcases Nat.eq_zero_or_pos j with rfl | pos
  · exact Nat.toDigits_ne_nil (n := n) (b := 10) (List.length_eq_zero_iff.mp (by omega))
  · have small := (Nat.length_toDigits_le_iff (by norm_num) pos).mp (not_lt.mp few)
    omega

theorem log_lt_shortest {q : ℚ} (large : 1 ≤ q) :
    Int.log 10 q < (Scientific.shortest q).exponent + (Nat.toDigits 10 (Scientific.shortest q).digits).length := by
  have pos : 0 < q := by linarith
  obtain ⟨l, hl⟩ : ∃ l : ℕ, Int.log 10 q = l := ⟨_, Int.log_of_one_le_right 10 large⟩
  have low : (10 : ℚ) ^ l ≤ q := by
    have power := Int.zpow_log_le_self (b := 10) (by norm_num) pos
    rw [hl, zpow_natCast] at power
    exact_mod_cast power
  unfold Scientific.shortest
  generalize found : ((List.range' 1 17).flatMap (Scientific.neighbours q)).find? _ = d
  cases d with
  | none =>
      have scaled : ((10 ^ (l + decimalCount q) : ℕ) : ℤ) ≤ ⌊q * 10 ^ decimalCount q⌋ := by
        rw [Int.le_floor, pow_add]
        push_cast
        gcongr
      have digits : 10 ^ (l + decimalCount q) ≤ ⌊q * 10 ^ decimalCount q⌋.natAbs := by omega
      have length := lt_length_toDigits digits
      rw [Option.getD_none, Scientific.exactly]
      dsimp only
      omega
  | some d =>
      obtain ⟨k, listed, near⟩ := List.mem_flatMap.mp (List.mem_of_find?_eq_some found)
      obtain ⟨j, rfl⟩ : ∃ j, k = j + 1 := ⟨k - 1, by have := (List.mem_range'_1.mp listed).1; omega⟩
      have scaled : ((10 ^ j : ℕ) : ℚ) ≤ q / 10 ^ (Int.log 10 q + 1 - (j + 1 : ℕ)) := by
        rw [le_div_iff₀ (zpow_pos (by norm_num) _), hl]
        push_cast
        calc (10 : ℚ) ^ j * 10 ^ ((l : ℤ) + 1 - (j + 1)) = 10 ^ ((j : ℤ) + (l + 1 - (j + 1))) := by
              rw [zpow_add₀ (by norm_num), zpow_natCast]
          _ = 10 ^ l := by rw [show (j : ℤ) + (l + 1 - (j + 1)) = l by ring, zpow_natCast]
          _ ≤ q := low
      have floor : ((10 ^ j : ℕ) : ℤ) ≤ ⌊q / 10 ^ (Int.log 10 q + 1 - (j + 1 : ℕ))⌋ :=
        Int.le_floor.mpr (by exact_mod_cast scaled)
      have nearest := le_roundHalfEven (n := ((10 ^ j : ℕ) : ℤ)) (by exact_mod_cast scaled)
      have digits : 10 ^ j ≤ d.digits ∧ d.exponent = Int.log 10 q + 1 - (j + 1 : ℕ) := by
        unfold Scientific.neighbours at near
        simp only [List.mem_cons, List.not_mem_nil, or_false] at near
        rcases near with rfl | rfl
        · exact ⟨by dsimp only; omega, rfl⟩
        · refine ⟨?_, rfl⟩
          dsimp only
          split_ifs <;> omega
      have length := lt_length_toDigits digits.1
      rw [Option.getD_some, digits.2]
      push_cast
      omega

theorem mem_spelling {q : ℚ} (large : 10 ^ 21 ≤ q) : 'e' ∈ spelling (finite q) := by
  have positive : ¬ q = 0 ∧ ¬ q < 0 := by constructor <;> linarith
  have log : 21 ≤ Int.log 10 q := by
    apply (Int.zpow_le_iff_le_log (b := 10) (by norm_num) (by linarith)).mp
    exact_mod_cast large
  have point := log_lt_shortest (show 1 ≤ q by linarith)
  rw [spelling, if_neg positive.1, if_neg positive.2, magnitudeText, layout, if_neg (by omega), if_neg (by omega),
    if_neg (by omega)]
  simp

theorem readNumber_fixedText (negative : Bool) (m k : ℕ) : ∃ n, readNumber (fixedText negative m k).toList = some n := by
  obtain ⟨c, cs, spelled, -, parsed⟩ := toList_fixedText_digits negative m k
  have plain : ∀ d ∈ c :: cs, d ≠ 'e' := by
    rintro d mem rfl
    rw [parseUnsigned_eq_none mem (by decide) (by decide)] at parsed
    cases parsed
  have read := readDecimal_digits plain parsed
  rw [spelled]
  cases negative with
  | true =>
      rw [if_pos rfl, List.singleton_append, readNumber, readUnsigned_decimal read]
      exact ⟨_, rfl⟩
  | false => exact ⟨_, readNumber_of_decimal read⟩

theorem parseUnsigned_toFixed {q : ℚ} (nonneg : 0 ≤ q) (k : ℕ) :
    parseUnsigned ((finite q).toFixed k).toList = if q < 10 ^ 21 then some (toScale k q) else none := by
  have sign : ¬ q < 0 := not_lt.mpr nonneg
  rw [toFixed, abs_of_nonneg nonneg]
  split_ifs with small
  · obtain ⟨c, cs, spelled, -, parsed⟩ := toList_fixedText_digits false (roundHalfAway (q * 10 ^ k)).natAbs k
    have rounded : 0 ≤ roundHalfAway (q * 10 ^ k) := by
      have mono := roundHalfAway_mono (mul_nonneg nonneg (scale_pos k).le)
      rwa [← Int.cast_zero, roundHalfAway_intCast] at mono
    rw [Foundations.toFixed, decide_eq_false sign, spelled, if_neg (by simp), List.nil_append, parsed, toScale,
      Nat.cast_natAbs, abs_of_nonneg rounded]
  · rw [String.toList_ofList]
    exact parseUnsigned_eq_none (mem_spelling (not_lt.mp small)) (by decide) (by decide)

end Foundations.JsNumber
