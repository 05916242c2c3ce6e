import SmartErp.Foundations.Hundredths
import SmartErp.Foundations.Rounding
import SmartErp.Foundations.Spelling
import SmartErp.Foundations.Trim

/-!
# Texts as numbers

`Number(s)`: the white space around a literal is left out, and what the literal stands for is rounded. Then
values that are numbers, texts or `undefined`, with the coercions of `+` and `===`.
-/

namespace Foundations

/-! ## Literals -/

def marksExponent (c : Char) : Bool := c = 'e' || c = 'E'

def wholeDigits (ds : List Char) : Option ℤ :=
  if ds.all Char.isDigit ∧ ds ≠ [] then some (Nat.ofDigitChars 10 ds 0) else none

def exponentPart : List Char → Option ℤ
  | [] => some 0
  | _ :: '+' :: ds => wholeDigits ds
  | _ :: '-' :: ds => (wholeDigits ds).map (-·)
  | _ :: ds => wholeDigits ds

def decimalLiteral (cs : List Char) : Option ℚ := do
  let mantissa ← parseUnsigned (cs.takeWhile (!marksExponent ·))
  let exponent ← exponentPart (cs.dropWhile (!marksExponent ·))
  return mantissa * 10 ^ exponent

def radix : Char → Option ℕ
  | 'b' | 'B' => some 2
  | 'o' | 'O' => some 8
  | 'x' | 'X' => some 16
  | _ => none

def digitValue (c : Char) : ℕ :=
  if c.isDigit then c.toNat - 48 else if c.isLower then c.toNat - 87 else if c.isUpper then c.toNat - 55 else 36

def radixLiteral (base : ℕ) (ds : List Char) : Option ℚ :=
  if ds.all (digitValue · < base) ∧ ds ≠ [] then some (ds.foldl (fun n c => base * n + digitValue c) 0 : ℕ) else none

def unsignedNumber (cs : List Char) : JsNumber :=
  if cs = "Infinity".toList then .infinity false else (decimalLiteral cs).elim .nan fun q => (JsNumber.finite q).double

def signedNumber : List Char → JsNumber
  | [] => .finite 0
  | '-' :: cs => (unsignedNumber cs).neg
  | '+' :: cs => unsignedNumber cs
  | '0' :: c :: ds =>
      match radix c with
      | some base => (radixLiteral base ds).elim .nan fun q => (JsNumber.finite q).double
      | none => unsignedNumber ('0' :: c :: ds)
  | cs => unsignedNumber cs

/-- `Number(s)` -/
def parseNumber (s : String) : JsNumber := signedNumber (trim s.toList)

example : parseNumber " +5.00\n" = .finite 5 := by decide +kernel
example : parseNumber "1e3" = .finite 1000 := by decide +kernel
example : parseNumber "0x1F" = .finite 31 := by decide +kernel
example : parseNumber "1,5" = .nan := by decide +kernel

/-! ## What is read -/

theorem JsNumber.double_neg (q : ℚ) : (finite (-q)).double = (finite q).double.neg := by
  rw [double, double, abs_neg, toDouble_neg]
  split_ifs with small
  · rfl
  · have nonzero : q ≠ 0 := by
      rintro rfl
      exact small (by rw [abs_zero]; exact sub_pos.mpr (pow_lt_pow_right₀ one_lt_two (by norm_num)))
    by_cases negative : q < 0
    · have positive : ¬ -q < 0 := by linarith
      simp [neg, negative, positive]
    · have positive : -q < 0 := by linarith [lt_of_le_of_ne (not_lt.mp negative) nonzero.symm]
      simp [neg, negative, positive]

theorem decimalLiteral_eq_none {cs : List Char} {c : Char} (mem : c ∈ cs.takeWhile (!marksExponent ·))
    (digit : c.isDigit = false) (point : c ≠ '.') : decimalLiteral cs = none := by
  rw [decimalLiteral, parseUnsigned_eq_none mem digit point]
  rfl

theorem unsignedNumber_decimal {cs : List Char} {q : ℚ} (literal : decimalLiteral cs = some q) :
    unsignedNumber cs = (JsNumber.finite q).double := by
  have word : cs ≠ "Infinity".toList := by
    rintro rfl
    rw [show decimalLiteral "Infinity".toList = none by decide +kernel] at literal
    cases literal
  rw [unsignedNumber, if_neg word, literal, Option.elim_some]

theorem signedNumber_decimal {cs : List Char} {q : ℚ} (literal : decimalLiteral cs = some q) :
    signedNumber cs = (JsNumber.finite q).double := by
  have clash {c : Char} {ds : List Char} (front : c ∈ ds.takeWhile (!marksExponent ·)) (digit : c.isDigit = false)
      (point : c ≠ '.') (same : cs = ds) : False := by
    rw [same, decimalLiteral_eq_none front digit point] at literal
    cases literal
  unfold signedNumber
  split
  · cases literal
  · exact (clash (c := '-') (by simp [marksExponent]) (by decide) (by decide) rfl).elim
  · exact (clash (c := '+') (by simp [marksExponent]) (by decide) (by decide) rfl).elim
  · rename_i c ds
    cases prefixed : radix c with
    | none => exact unsignedNumber_decimal literal
    | some base =>
        have letter : c ∈ ['b', 'B', 'o', 'O', 'x', 'X'] := by
          unfold radix at prefixed
          split at prefixed <;> simp_all
        have plain : ∀ c ∈ ['b', 'B', 'o', 'O', 'x', 'X'], c.isDigit = false ∧ c ≠ '.' ∧ marksExponent c = false := by
          simp [marksExponent]
        obtain ⟨digit, point, exponent⟩ := plain c letter
        have zero : marksExponent '0' = false := by decide
        exact (clash (c := c) (by simp [zero, exponent]) digit point rfl).elim
  · exact unsignedNumber_decimal literal

theorem parseNumber_literal {cs : List Char} {q : ℚ} (visible : ∀ c ∈ cs, whitespace c = false)
    (literal : decimalLiteral cs = some q) : parseNumber (String.ofList cs) = (JsNumber.finite q).double := by
  rw [parseNumber, String.toList_ofList, trim_visible visible, signedNumber_decimal literal]

theorem parseNumber_minus {cs : List Char} {q : ℚ} (visible : ∀ c ∈ cs, whitespace c = false)
    (literal : decimalLiteral cs = some q) : parseNumber (String.ofList ('-' :: cs)) = (JsNumber.finite (-q)).double := by
  have visible' : ∀ c ∈ '-' :: cs, whitespace c = false := List.forall_mem_cons.mpr ⟨by decide, visible⟩
  rw [parseNumber, String.toList_ofList, trim_visible visible', signedNumber, unsignedNumber_decimal literal,
    JsNumber.double_neg]

theorem parseNumber_plus {cs : List Char} {q : ℚ} (visible : ∀ c ∈ cs, whitespace c = false)
    (literal : decimalLiteral cs = some q) : parseNumber (String.ofList ('+' :: cs)) = (JsNumber.finite q).double := by
  have visible' : ∀ c ∈ '+' :: cs, whitespace c = false := List.forall_mem_cons.mpr ⟨by decide, visible⟩
  rw [parseNumber, String.toList_ofList, trim_visible visible', signedNumber, unsignedNumber_decimal literal]

theorem decimalLiteral_unsigned {cs : List Char} {q : ℚ} (parsed : parseUnsigned cs = some q) :
    decimalLiteral cs = some q ∧ ∀ c ∈ cs, whitespace c = false := by
  have plain : ∀ c ∈ cs, c.isDigit = true ∨ c = '.' := by
    intro c mem
    by_contra! other
    rw [parseUnsigned_eq_none mem (by simpa using other.1) other.2] at parsed
    cases parsed
  have unmarked : ∀ c ∈ cs, (!marksExponent c) = true := by
    intro c mem
    rcases plain c mem with digit | rfl
    · have other : c ≠ 'e' ∧ c ≠ 'E' :=
        ⟨JsNumber.digit_ne digit (by decide), JsNumber.digit_ne digit (by decide)⟩
      simp [marksExponent, other]
    · decide
  have front : cs.takeWhile (!marksExponent ·) = cs := List.takeWhile_eq_self_iff.mpr unmarked
  have rest : cs.dropWhile (!marksExponent ·) = [] := List.dropWhile_eq_nil_iff.mpr unmarked
  constructor
  · rw [decimalLiteral, front, rest, parsed]
    simp [exponentPart]
  · intro c mem
    rcases plain c mem with digit | rfl
    · exact alphanum_visible (by simp [Char.isAlphanum, digit])
    · decide

theorem parseNumber_fixedText (negative : Bool) (m k : ℕ) :
    parseNumber (fixedText negative m k) = (JsNumber.finite ((if negative then -1 else 1) * ((m : ℚ) / 10 ^ k))).double := by
  obtain ⟨c, cs, spelled, -, parsed⟩ := toList_fixedText_digits negative m k
  obtain ⟨literal, visible⟩ := decimalLiteral_unsigned parsed
  have text : fixedText negative m k = String.ofList ((if negative then ['-'] else []) ++ c :: cs) := by
    rw [← spelled, String.ofList_toList]
  rw [text]
  cases negative with
  | true => simpa using parseNumber_minus visible literal
  | false => simpa using parseNumber_literal visible literal

theorem parseNumber_intText (n : ℤ) : parseNumber (intText n) = (JsNumber.finite n).double := by
  rw [intText, parseNumber_fixedText]
  congr 2
  rw [pow_zero, div_one, Nat.cast_natAbs]
  by_cases negative : n < 0
  · simp [negative, abs_of_neg negative]
  · simp [negative, abs_of_nonneg (not_lt.mp negative)]

theorem Numeric.parseNumber_text {p s : ℕ} (x : Numeric p s) : parseNumber x.text = (JsNumber.finite x.val).double := by
  rw [Numeric.text, parseNumber_fixedText, Numeric.val, Nat.cast_natAbs]
  by_cases negative : x.units < 0
  · simp [negative, abs_of_neg negative, neg_div]
  · simp [negative, abs_of_nonneg (not_lt.mp negative)]

theorem parseNumber_toFixed (q : ℚ) (k : ℕ) : parseNumber (toFixed q k) = (JsNumber.finite (toScale k q)).double := by
  rw [toFixed, parseNumber_fixedText, toScale, Nat.cast_natAbs]
  congr 2
  by_cases negative : q < 0
  · have sign : roundHalfAway (q * 10 ^ k) ≤ 0 := by
      have mono := roundHalfAway_mono (mul_nonpos_of_nonpos_of_nonneg negative.le (scale_pos k).le)
      rwa [← Int.cast_zero, roundHalfAway_intCast] at mono
    simp [negative, abs_of_nonpos sign, neg_div]
  · have sign : 0 ≤ roundHalfAway (q * 10 ^ k) := by
      have mono := roundHalfAway_mono (mul_nonneg (not_lt.mp negative) (scale_pos k).le)
      rwa [← Int.cast_zero, roundHalfAway_intCast] at mono
    simp [negative, abs_of_nonneg sign]

/-! ## Numbers as texts and back -/

theorem exponentPart_readExponent {es : List Char} {e : ℤ} (read : JsNumber.readExponent es = some e) :
    exponentPart es = some e ∧ ∀ c ∈ es.head?, c = 'e' := by
  unfold JsNumber.readExponent at read
  split at read
  · exact ⟨read, by simp⟩
  · split_ifs at read with digits
    exact ⟨by rw [exponentPart, wholeDigits, if_pos digits, ← read], by simp⟩
  · split_ifs at read with digits
    exact ⟨by rw [exponentPart, wholeDigits, if_pos digits, ← read, Option.map_some], by simp⟩
  · cases read

theorem decimalLiteral_readDecimal {cs : List Char} {q : ℚ} (read : JsNumber.readDecimal cs = some q) :
    decimalLiteral cs = some q := by
  obtain ⟨mantissa, parsed, read⟩ := Option.bind_eq_some_iff.mp read
  obtain ⟨exponent, parsed', value⟩ := Option.bind_eq_some_iff.mp read
  have unmarked : ∀ c ∈ cs.takeWhile (· ≠ 'e'), (!marksExponent c) = true := by
    intro c mem
    have small : c ≠ 'e' := by simpa using List.mem_takeWhile_imp mem
    by_cases large : c = 'E'
    · rw [parseUnsigned_eq_none (large ▸ mem) (by decide) (by decide)] at parsed
      cases parsed
    · simp [marksExponent, small, large]
  have split := List.takeWhile_append_dropWhile (p := fun c => decide (c ≠ 'e')) (l := cs)
  generalize cs.takeWhile (· ≠ 'e') = front, cs.dropWhile (· ≠ 'e') = rest at parsed parsed' unmarked split
  obtain ⟨exponent', head⟩ := exponentPart_readExponent parsed'
  have front' : cs.takeWhile (!marksExponent ·) = front ∧ cs.dropWhile (!marksExponent ·) = rest := by
    rw [← split, List.takeWhile_append_of_pos unmarked, List.dropWhile_append_of_pos unmarked]
    cases rest with
    | nil => simp
    | cons c es =>
        obtain rfl := head c rfl
        simp [marksExponent]
  rw [decimalLiteral, front'.1, front'.2, parsed, exponent']
  exact value

theorem figure_visible {c : Char} (figure : JsNumber.Figure c) : whitespace c = false := by
  rcases figure with word | rfl | rfl | rfl
  · exact alphanum_visible word
  all_goals decide

theorem parseNumber_spelling {n : JsNumber} (double : n.double = n) : parseNumber (String.ofList n.spelling) = n := by
  cases n with
  | nan => decide +kernel
  | infinity negative => cases negative <;> decide +kernel
  | finite q =>
      obtain ⟨isDouble, same⟩ := JsNumber.double_abs double
      have visible : ∀ c ∈ (JsNumber.finite q).spelling, whitespace c = false :=
        fun c mem => figure_visible (JsNumber.figure_spelling mem)
      by_cases zero : q = 0
      · subst zero
        decide +kernel
      have pos := abs_pos.mpr zero
      have reads := JsNumber.reads_shortest pos isDouble same
      have literal : decimalLiteral (JsNumber.magnitudeText |q|) = some (JsNumber.Scientific.shortest |q|).value := by
        apply decimalLiteral_readDecimal
        apply JsNumber.readDecimal_magnitudeText
        intro nothing
        have nothing' : (JsNumber.finite (0 : ℚ)).double = .finite 0 := by decide +kernel
        rw [JsNumber.Scientific.value, nothing, Nat.cast_zero, zero_mul, nothing'] at reads
        exact pos.ne (JsNumber.finite.inj reads)
      rw [JsNumber.spelling, if_neg zero] at visible ⊢
      by_cases negative : q < 0
      · rw [if_pos negative] at visible ⊢
        rw [parseNumber_minus (fun c mem => visible c (List.mem_cons_of_mem _ mem)) literal, JsNumber.double_neg, reads,
          JsNumber.neg, abs_of_neg negative, neg_neg]
      · rw [if_neg negative] at visible ⊢
        rw [abs_of_nonneg (not_lt.mp negative)] at literal reads
        rw [parseNumber_literal visible literal, reads]

/-! ## Values -/

inductive JsValue where
  | undefined
  | number (n : JsNumber)
  | string (s : String)
  deriving DecidableEq

namespace JsValue

def toNumber : JsValue → JsNumber
  | undefined => .nan
  | number n => n
  | string s => parseNumber s

def toText : JsValue → String
  | undefined => "undefined"
  | number n => String.ofList n.spelling
  | string s => s

/-- `a + b`: concatenation as soon as one side is a string. -/
def add : JsValue → JsValue → JsValue
  | string a, b => string (a ++ b.toText)
  | a, string b => string (a.toText ++ b)
  | a, b => number (a.toNumber.plus b.toNumber)

/-- `a === b` for a number `b`. -/
def isNumber (a : JsValue) (q : ℚ) : Bool := a = number (.finite q)

end JsValue
end Foundations
