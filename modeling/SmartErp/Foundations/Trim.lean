import Mathlib.Data.List.DropRight

/-!
# White space

What `trim` takes from the two ends of a text.
-/

namespace Foundations

/-- White space and line ends of ECMAScript. -/
def whitespace (c : Char) : Bool :=
  c.toNat ∈ [0x9, 0xa, 0xb, 0xc, 0xd, 0x20, 0xa0, 0x1680, 0x2028, 0x2029, 0x202f, 0x205f, 0x3000, 0xfeff] ||
    (0x2000 ≤ c.toNat && c.toNat ≤ 0x200a)

/-- `s.trim()` -/
def trim (cs : List Char) : List Char := (cs.dropWhile whitespace).rdropWhile whitespace

theorem dropWhile_append_cons {p : Char → Bool} {c : Char} (outside : p c = false) (u v : List Char) :
    (u ++ c :: v).dropWhile p = u.dropWhile p ++ c :: v := by
  induction u with
  | nil => simp [outside]
  | cons d u ih =>
      by_cases dropped : p d = true
      · simpa [dropped] using ih
      · simp [dropped]

theorem trim_within (cs : List Char) : trim cs <:+: cs :=
  (List.rdropWhile_prefix whitespace _).isInfix.trans (List.dropWhile_suffix whitespace).isInfix

theorem trim_visible {cs : List Char} (visible : ∀ c ∈ cs, whitespace c = false) : trim cs = cs := by
  have left : cs.dropWhile whitespace = cs := by
    cases cs with
    | nil => rfl
    | cons c cs => exact List.dropWhile_cons_of_neg (by simp [visible c List.mem_cons_self])
  rw [trim, left, List.rdropWhile_eq_self_iff]
  intro nonempty
  simp [visible _ (List.getLast_mem nonempty)]

theorem alphanum_visible {c : Char} (word : c.isAlphanum = true) : whitespace c = false := by
  have alphanum : c.isAlphanum = (c.isUpper || c.isLower || c.isDigit) := rfl
  have upper : c.isUpper = decide (c.val ≥ 65 ∧ c.val ≤ 90) := rfl
  have lower : c.isLower = (c.val ≥ 97 && c.val ≤ 122) := rfl
  have digit : c.isDigit = (c.val ≥ 48 && c.val ≤ 57) := rfl
  rw [← Bool.not_eq_true]
  intro white
  simp only [alphanum, upper, lower, digit, Bool.or_eq_true, Bool.and_eq_true, decide_eq_true_eq, ge_iff_le,
    UInt32.le_iff_toNat_le] at word
  simp only [whitespace, Bool.or_eq_true, Bool.and_eq_true, decide_eq_true_eq, List.mem_cons, List.not_mem_nil,
    or_false] at white
  simp at word
  omega

end Foundations
