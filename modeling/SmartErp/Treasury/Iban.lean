import SmartErp.Foundations.Regex
import Mathlib.Data.Int.GCD
import Mathlib.Data.Nat.Prime.Int
import Mathlib.Tactic.NormNum.Prime
import Mathlib.Tactic.Ring

/-!
# The check of an account number

`validateIban` of `iban.util.ts`. One character in another's place moves the number by less than the modulus
times a power of ten; two swapped ones do the same, unless the text is cut between them.
-/

namespace SmartErp.Treasury
open Foundations

/-- `toUpperCase`. A character whose upper case has others than `A-Z` and `0-9` in it stands for it: either is refused. -/
def toUpperCase (c : Char) : List Char :=
  match c.toNat with
  | 0xdf => ['S', 'S']
  | 0x131 => ['I']
  | 0x17f => ['S']
  | 0xfb00 => ['F', 'F']
  | 0xfb01 => ['F', 'I']
  | 0xfb02 => ['F', 'L']
  | 0xfb03 => ['F', 'F', 'I']
  | 0xfb04 => ['F', 'F', 'L']
  | 0xfb05 => ['S', 'T']
  | 0xfb06 => ['S', 'T']
  | _ => [c.toUpper]

def cleaned (plaintext : String) : List Char :=
  (plaintext.toList.filter fun c => !whitespace c).flatMap toUpperCase

def alphanumeric (c : Char) : Bool := c.isUpper || c.isDigit

/-- `^[A-Z]{2}\d{2}[A-Z0-9]{11,30}$` -/
def shaped (cs : List Char) : Bool :=
  (cs.take 2).all Char.isUpper && ((cs.drop 2).take 2).all Char.isDigit && (cs.drop 4).all alphanumeric &&
    decide (15 ≤ cs.length ∧ cs.length ≤ 34)

def rearranged (cs : List Char) : List Char := cs.drop 4 ++ cs.take 4

def figures (ch : Char) : List Char :=
  if ch.isUpper then Nat.toDigits 10 (ch.toNat - 65 + 10) else [ch]

/-- `BigInt(acc)` -/
def number (cs : List Char) : ℕ := Nat.ofDigitChars 10 (cs.flatMap figures) 0

def validateIban (plaintext : String) : Bool :=
  shaped (cleaned plaintext) && number (rearranged (cleaned plaintext)) % 97 == 1

/-! ## The number -/

section
variable {c d : Char} {x y cs : List Char}

def width (cs : List Char) : ℕ := (cs.flatMap figures).length

theorem number_append (xs ys : List Char) : number (xs ++ ys) = 10 ^ width ys * number xs + number ys := by
  rw [number, List.flatMap_append, Nat.ofDigitChars_append, Nat.ofDigitChars_eq_ofDigitChars_zero]
  rfl

theorem width_append (xs ys : List Char) : width (xs ++ ys) = width xs + width ys := by
  rw [width, List.flatMap_append, List.length_append]
  rfl

theorem upper_range (upper : c.isUpper = true) : 65 ≤ c.toNat ∧ c.toNat ≤ 90 := of_decide_eq_true upper

theorem digit_range (digit : c.isDigit = true) : 48 ≤ c.toNat ∧ c.toNat ≤ 57 := Char.isDigit_iff_toNat.mp digit

theorem not_upper_of_digit (digit : c.isDigit = true) : c.isUpper = false := by
  rw [Bool.eq_false_iff]
  intro upper
  have low := (upper_range upper).1
  have high := (digit_range digit).2
  omega

theorem number_upper (upper : c.isUpper = true) : number [c] = c.toNat - 55 := by
  have range := upper_range upper
  rw [number, List.flatMap_singleton, figures, if_pos upper, Nat.ofDigitChars_ten_toDigits]
  omega

theorem number_digit (digit : c.isDigit = true) : number [c] = c.toNat - 48 := by
  rw [number, List.flatMap_singleton, figures, if_neg (by simp [not_upper_of_digit digit]), Nat.ofDigitChars_cons,
    Nat.ofDigitChars_nil, Nat.mul_zero, Nat.zero_add]
  rfl

theorem width_digit (digit : c.isDigit = true) : width [c] = 1 := by
  rw [width, List.flatMap_singleton, figures, if_neg (by simp [not_upper_of_digit digit])]
  rfl

theorem width_upper (upper : c.isUpper = true) : width [c] = 2 := by
  have range := upper_range upper
  have two : ∀ n, n < 26 → (Nat.toDigits 10 (n + 10)).length = 2 := by decide
  rw [width, List.flatMap_singleton, figures, if_pos upper]
  exact two (c.toNat - 65) (by omega)

theorem width_le (cs : List Char) : width cs ≤ 2 * cs.length := by
  induction cs with
  | nil => exact le_rfl
  | cons c cs ih =>
      have one : width [c] ≤ 2 := by
        by_cases upper : c.isUpper = true
        · exact (width_upper upper).le
        · rw [width, List.flatMap_singleton, figures, if_neg upper]
          exact Nat.le_succ 1
      have split := width_append [c] cs
      rw [List.singleton_append] at split
      rw [split, List.length_cons]
      omega

/-! ## One character for another -/

def SameClass (c d : Char) : Prop :=
  c.isUpper = true ∧ d.isUpper = true ∨ c.isDigit = true ∧ d.isDigit = true

theorem SameClass.width (same : SameClass c d) : width [c] = width [d] := by
  rcases same with ⟨upper, upper'⟩ | ⟨digit, digit'⟩
  · rw [width_upper upper, width_upper upper']
  · rw [width_digit digit, width_digit digit']

theorem prime_modulus : Prime (97 : ℤ) := Nat.prime_iff_prime_int.mp (by norm_num)

theorem not_dvd_pow_mul {n : ℤ} (k : ℕ) (apart : ¬ 97 ∣ n) : ¬ (97 : ℤ) ∣ 10 ^ k * n := by
  intro dvd
  rcases prime_modulus.dvd_or_dvd dvd with power | rest
  · exact absurd (prime_modulus.dvd_of_dvd_pow power) (by decide)
  · exact apart rest

theorem SameClass.apart (same : SameClass c d) (ne : c ≠ d) : ¬ (97 : ℤ) ∣ number [c] - number [d] := by
  have codes : c.toNat ≠ d.toNat := fun eq => ne (Char.toNat_inj.mp eq)
  rcases same with ⟨upper, upper'⟩ | ⟨digit, digit'⟩
  · have range := upper_range upper
    have range' := upper_range upper'
    rw [number_upper upper, number_upper upper']
    omega
  · have range := digit_range digit
    have range' := digit_range digit'
    rw [number_digit digit, number_digit digit']
    omega

theorem replaced_apart (same : SameClass c d) (ne : c ≠ d) (pre post : List Char) :
    ¬ (97 : ℤ) ∣ number (pre ++ c :: post) - number (pre ++ d :: post) := by
  have parts (e : Char) : number (pre ++ e :: post) =
      10 ^ width post * (10 ^ width [e] * number pre + number [e]) + number post := by
    rw [List.append_cons, number_append, number_append]
  have difference : (number (pre ++ c :: post) : ℤ) - number (pre ++ d :: post) =
      10 ^ width post * (number [c] - number [d]) := by
    rw [parts, parts, same.width]
    push_cast
    ring
  rw [difference]
  exact not_dvd_pow_mul _ (same.apart ne)

theorem SameClass.swapped (same : SameClass c d) (ne : c ≠ d) :
    ¬ (97 : ℤ) ∣ (10 ^ SmartErp.Treasury.width [c] - 1) * (number [c] - number [d]) := by
  intro dvd
  rcases prime_modulus.dvd_or_dvd dvd with power | rest
  · rcases same with ⟨upper, -⟩ | ⟨digit, -⟩
    · rw [width_upper upper] at power
      exact absurd power (by decide)
    · rw [width_digit digit] at power
      exact absurd power (by decide)
  · exact same.apart ne rest

theorem swapped_apart (same : SameClass c d) (ne : c ≠ d) (pre post : List Char) :
    ¬ (97 : ℤ) ∣ number (pre ++ c :: d :: post) - number (pre ++ d :: c :: post) := by
  have parts (e f : Char) : number (pre ++ e :: f :: post) = 10 ^ width post *
      (10 ^ width [f] * (10 ^ width [e] * number pre + number [e]) + number [f]) + number post := by
    rw [List.append_cons, List.append_cons, number_append, number_append, number_append]
  have difference : (number (pre ++ c :: d :: post) : ℤ) - number (pre ++ d :: c :: post) =
      10 ^ width post * ((10 ^ width [c] - 1) * (number [c] - number [d])) := by
    rw [parts, parts, same.width]
    push_cast
    ring
  rw [difference]
  exact not_dvd_pow_mul _ (same.swapped ne)

theorem cut_apart (digit : c.isDigit = true) (digit' : d.isDigit = true) (ne : c ≠ d) {middle : List Char}
    (short : middle.length ≤ 32) :
    ¬ (97 : ℤ) ∣ number (d :: (middle ++ [c])) - number (c :: (middle ++ [d])) := by
  have parts {e f : Char} (last : f.isDigit = true) : number (e :: (middle ++ [f])) =
      10 ^ (width middle + 1) * number [e] + (10 * number middle + number [f]) := by
    rw [← List.singleton_append, number_append, width_append, number_append, width_digit last, pow_one]
  have difference : (number (d :: (middle ++ [c])) : ℤ) - number (c :: (middle ++ [d])) =
      (10 ^ (width middle + 1) - 1) * (number [d] - number [c]) := by
    rw [parts digit, parts digit']
    push_cast
    ring
  -- ten is a primitive root of the modulus
  have period : ∀ n, n < 96 → 0 < n → ¬ (97 : ℤ) ∣ 10 ^ n - 1 := by decide
  rw [difference]
  intro dvd
  rcases prime_modulus.dvd_or_dvd dvd with power | rest
  · have wide := width_le middle
    exact period (width middle + 1) (by omega) (by omega) power
  · exact SameClass.apart (.inr ⟨digit', digit⟩) ne.symm rest

/-! ## The text -/

theorem rearranged_replaced (x y : List Char) : ∃ pre post, ∀ e, rearranged (x ++ e :: y) = pre ++ e :: post := by
  by_cases early : x.length < 4
  · obtain ⟨k, length⟩ := Nat.exists_eq_add_of_lt early
    refine ⟨y.drop k ++ x, y.take k, fun e => ?_⟩
    have rest : 4 - x.length = k + 1 := by omega
    rw [rearranged, List.drop_append, List.take_append, rest, List.take_of_length_le early.le,
      List.drop_eq_nil_of_le early.le, List.take_succ_cons, List.drop_succ_cons]
    simp
  · refine ⟨x.drop 4, y ++ x.take 4, fun e => ?_⟩
    have none : 4 - x.length = 0 := by omega
    rw [rearranged, List.drop_append, List.take_append, none]
    simp

theorem rearranged_swapped {x : List Char} (uncut : x.length ≠ 3) (y : List Char) :
    ∃ pre post, ∀ e f, rearranged (x ++ e :: f :: y) = pre ++ e :: f :: post := by
  by_cases early : x.length < 3
  · obtain ⟨k, length⟩ := Nat.exists_eq_add_of_lt early
    refine ⟨y.drop k ++ x, y.take k, fun e f => ?_⟩
    have rest : 4 - x.length = k + 2 := by omega
    have fits : x.length ≤ 4 := by omega
    rw [rearranged, List.drop_append, List.take_append, rest, List.take_of_length_le fits,
      List.drop_eq_nil_of_le fits]
    simp
  · refine ⟨x.drop 4, y ++ x.take 4, fun e f => ?_⟩
    have none : 4 - x.length = 0 := by omega
    rw [rearranged, List.drop_append, List.take_append, none]
    simp

/-- One character in another's place, or two neighbours swapped. -/
inductive Mistyped : List Char → List Char → Prop
  | replaced (x y : List Char) {c d : Char} (same : SameClass c d) (ne : c ≠ d) :
      Mistyped (x ++ c :: y) (x ++ d :: y)
  | swapped (x y : List Char) {c d : Char} (same : SameClass c d) (ne : c ≠ d) :
      Mistyped (x ++ c :: d :: y) (x ++ d :: c :: y)

theorem mistyped_apart {cs ds : List Char} (shape : shaped cs = true) (mistyped : Mistyped cs ds) :
    ¬ (97 : ℤ) ∣ number (rearranged cs) - number (rearranged ds) := by
  cases mistyped with
  | replaced x y same ne =>
      obtain ⟨pre, post, eq⟩ := rearranged_replaced x y
      rw [eq, eq]
      exact replaced_apart same ne pre post
  | @swapped x y c d same ne =>
      by_cases cut : x.length = 3
      · have parts (e f : Char) : rearranged (x ++ e :: f :: y) = f :: (y ++ x ++ [e]) := by
          rw [rearranged, List.drop_append, List.take_append, List.take_of_length_le (by omega),
            List.drop_eq_nil_of_le (by omega), cut]
          simp
        simp only [shaped, Bool.and_eq_true, decide_eq_true_eq] at shape
        obtain ⟨⟨⟨-, check⟩, -⟩, -, long⟩ := shape
        have digit : c.isDigit = true := by
          apply List.all_eq_true.mp check
          simp [List.drop_append, List.take_append, cut]
        have digit' : d.isDigit = true := by
          rcases same with ⟨upper, -⟩ | ⟨-, digit'⟩
          · exact absurd upper (by simp [not_upper_of_digit digit])
          · exact digit'
        have short : (y ++ x).length ≤ 32 := by
          simp only [List.length_append, List.length_cons] at long ⊢
          omega
        rw [parts, parts]
        exact cut_apart digit digit' ne short
      · obtain ⟨pre, post, eq⟩ := rearranged_swapped cut y
        rw [eq, eq]
        exact swapped_apart same ne pre post

theorem SameClass.alphanumeric (same : SameClass c d) : alphanumeric c = true ∧ alphanumeric d = true := by
  rcases same with ⟨upper, upper'⟩ | ⟨digit, digit'⟩
  · simp [SmartErp.Treasury.alphanumeric, upper, upper']
  · simp [SmartErp.Treasury.alphanumeric, digit, digit']

theorem Mistyped.alphanumeric {cs ds : List Char} (mistyped : Mistyped cs ds)
    (word : ∀ c ∈ cs, alphanumeric c = true) : ∀ c ∈ ds, alphanumeric c = true := by
  cases mistyped with
  | replaced x y same ne =>
      intro e mem
      rw [List.mem_append, List.mem_cons] at mem
      rcases mem with before | rfl | after
      · exact word e (by simp [before])
      · exact same.alphanumeric.2
      · exact word e (by simp [after])
  | swapped x y same ne =>
      intro e mem
      apply word e
      simp only [List.mem_append, List.mem_cons] at mem ⊢
      tauto

theorem toUpperCase_alphanumeric (word : alphanumeric c = true) : whitespace c = false ∧ toUpperCase c = [c] := by
  have range : 48 ≤ c.toNat ∧ c.toNat ≤ 57 ∨ 65 ≤ c.toNat ∧ c.toNat ≤ 90 := by
    rcases (Bool.or_eq_true _ _).mp word with upper | digit
    · exact .inr (upper_range upper)
    · exact .inl (digit_range digit)
  have kept : c.toUpper = c := by
    unfold Char.toUpper
    split
    · rename_i lower
      have low : 97 ≤ c.toNat := lower.1
      omega
    · rfl
  constructor
  · simp only [whitespace, List.mem_cons, List.not_mem_nil, or_false, Bool.or_eq_false_iff, decide_eq_false_iff_not,
      Bool.and_eq_false_iff]
    omega
  · unfold toUpperCase
    split
    all_goals first
      | omega
      | rw [kept]

theorem cleaned_alphanumeric {s : String} (word : ∀ c ∈ s.toList, alphanumeric c = true) : cleaned s = s.toList := by
  have seen : s.toList.filter (fun c => !whitespace c) = s.toList :=
    List.filter_eq_self.mpr fun c mem => by simp [(toUpperCase_alphanumeric (word c mem)).1]
  rw [cleaned, seen, List.flatMap_congr fun c mem => (toUpperCase_alphanumeric (word c mem)).2]
  exact List.flatMap_singleton' s.toList

theorem validateIban_iff {s : String} (word : ∀ c ∈ s.toList, alphanumeric c = true) :
    validateIban s = true ↔ shaped s.toList = true ∧ number (rearranged s.toList) % 97 = 1 := by
  rw [validateIban, cleaned_alphanumeric word, Bool.and_eq_true, beq_iff_eq]

end

/-- One wrong character and two swapped ones are found out. -/
theorem validateIban_detects {s t : String} (word : ∀ c ∈ s.toList, alphanumeric c = true)
    (accepted : validateIban s = true) (mistyped : Mistyped s.toList t.toList) : validateIban t = false := by
  rw [Bool.eq_false_iff]
  intro accepted'
  obtain ⟨shape, one⟩ := (validateIban_iff word).mp accepted
  obtain ⟨-, one'⟩ := (validateIban_iff (mistyped.alphanumeric word)).mp accepted'
  apply mistyped_apart shape mistyped
  omega

theorem validateIban_detects_swap : validateIban "IT06X0542811101000000123456" = false :=
  validateIban_detects (s := "IT60X0542811101000000123456") (List.all_eq_true.mp (by decide)) (by decide +kernel)
    (.swapped ['I', 'T'] "X0542811101000000123456".toList (.inr ⟨rfl, rfl⟩) (by decide))

end SmartErp.Treasury
