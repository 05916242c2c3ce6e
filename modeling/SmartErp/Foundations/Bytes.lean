import Mathlib.Data.Bool.AllAny
import Mathlib.Data.Fin.Basic
import Mathlib.Data.List.Basic
import Mathlib.Tactic.Common

/-!
# Bytes as text

Base64 with padding, and a reader that skips all other characters. What was written is read back, and none of
it is a colon, so that encoded parts can be joined by colons and split again. Then the text that bytes of UTF-8
stand for.
-/

namespace Foundations

abbrev Byte := Fin 256

def Byte.of (n : ℕ) : Byte := Fin.ofNat 256 n

theorem Byte.of_eq {n : ℕ} {b : Byte} (same : n % 256 = b) : Byte.of n = b := Fin.ext same

namespace Base64

/-! ## Digits -/

def digit (n : ℕ) : Char :=
  Char.ofNat (if n < 26 then 65 + n else if n < 52 then 71 + n else if n < 62 then n - 4 else if n = 62 then 43 else 47)

def value (c : Char) : Option (Fin 64) :=
  let n := c.toNat
  if 65 ≤ n ∧ n ≤ 90 then some (Fin.ofNat 64 (n - 65))
  else if 97 ≤ n ∧ n ≤ 122 then some (Fin.ofNat 64 (n - 71))
  else if 48 ≤ n ∧ n ≤ 57 then some (Fin.ofNat 64 (n + 4))
  else if n = 43 ∨ n = 45 then some 62
  else if n = 47 ∨ n = 95 then some 63
  else none

def encode : List Byte → List Char
  | a :: b :: c :: bs => digit (a / 4 : ℕ) :: digit (a % 4 * 16 + b / 16 : ℕ) :: digit (b % 16 * 4 + c / 64 : ℕ) ::
      digit (c % 64 : ℕ) :: encode bs
  | [a, b] => [digit (a / 4 : ℕ), digit (a % 4 * 16 + b / 16 : ℕ), digit (b % 16 * 4 : ℕ), '=']
  | [a] => [digit (a / 4 : ℕ), digit (a % 4 * 16 : ℕ), '=', '=']
  | [] => []

def bytes : List (Fin 64) → List Byte
  | a :: b :: c :: d :: ds => Byte.of (a * 4 + b / 16) :: Byte.of (b * 16 + c / 4) :: Byte.of (c * 64 + d) :: bytes ds
  | [a, b, c] => [Byte.of (a * 4 + b / 16), Byte.of (b * 16 + c / 4)]
  | [a, b] => [Byte.of (a * 4 + b / 16)]
  | _ => []

def decode (cs : List Char) : List Byte := bytes (cs.filterMap value)

theorem value_digit {n : ℕ} (small : n < 64) : value (digit n) = some ⟨n, small⟩ := by
  have all : ∀ n : Fin 64, value (digit n) = some n := by decide
  exact all ⟨n, small⟩

theorem value_padding : value '=' = none := by decide

theorem decode_encode (bs : List Byte) : decode (encode bs) = bs := by
  unfold decode
  induction bs using encode.induct with
  | case1 a b c bs ih =>
      rw [encode, List.filterMap_cons_some (value_digit (by omega)), List.filterMap_cons_some (value_digit (by omega)),
        List.filterMap_cons_some (value_digit (by omega)), List.filterMap_cons_some (value_digit (by omega)), bytes, ih]
      rw [Byte.of_eq (b := a) (by simp only; omega), Byte.of_eq (b := b) (by simp only; omega),
        Byte.of_eq (b := c) (by simp only; omega)]
  | case2 a b =>
      rw [encode, List.filterMap_cons_some (value_digit (by omega)), List.filterMap_cons_some (value_digit (by omega)),
        List.filterMap_cons_some (value_digit (by omega)), List.filterMap_cons_none value_padding, List.filterMap_nil,
        bytes]
      rw [Byte.of_eq (b := a) (by simp only; omega), Byte.of_eq (b := b) (by simp only; omega)]
  | case3 a =>
      rw [encode, List.filterMap_cons_some (value_digit (by omega)), List.filterMap_cons_some (value_digit (by omega)),
        List.filterMap_cons_none value_padding, List.filterMap_cons_none value_padding, List.filterMap_nil, bytes]
      rw [Byte.of_eq (b := a) (by simp only; omega)]
  | case4 => rfl

example : encode [77, 97, 110, 77] = "TWFuTQ==".toList := by decide

theorem not_colon {n : ℕ} (small : n < 64) : digit n ≠ ':' := by
  have all : ∀ n : Fin 64, digit n ≠ ':' := by decide
  exact all ⟨n, small⟩

theorem colon_not_mem (bs : List Byte) : ':' ∉ encode bs := by
  have other {n : ℕ} (small : n < 64) : ':' ≠ digit n := (not_colon small).symm
  induction bs using encode.induct with
  | case1 a b c bs ih =>
      simp only [encode, List.mem_cons, not_or]
      exact ⟨other (by omega), other (by omega), other (by omega), other (by omega), ih⟩
  | case2 a b =>
      simp only [encode, List.mem_cons, List.not_mem_nil, not_or, or_false]
      exact ⟨other (by omega), other (by omega), other (by omega), by decide⟩
  | case3 a =>
      simp only [encode, List.mem_cons, List.not_mem_nil, not_or, or_false]
      exact ⟨other (by omega), other (by omega), by decide, by decide⟩
  | case4 => exact List.not_mem_nil

end Base64
/-! ## UTF-8 -/

namespace Utf8

def encodeCode (n : ℕ) : List Byte :=
  if n < 0x80 then [Byte.of n]
  else if n < 0x800 then [Byte.of (0xC0 + n / 64), Byte.of (0x80 + n % 64)]
  else if n < 0x10000 then [Byte.of (0xE0 + n / 4096), Byte.of (0x80 + n / 64 % 64), Byte.of (0x80 + n % 64)]
  else [Byte.of (0xF0 + n / 262144), Byte.of (0x80 + n / 4096 % 64), Byte.of (0x80 + n / 64 % 64), Byte.of (0x80 + n % 64)]

def encode (cs : List Char) : List Byte := cs.flatMap fun c => encodeCode c.toNat

/-- A character that has begun: its bits so far, how many bytes are still needed, and the range of the next. -/
structure Pending where
  bits : ℕ
  needed : ℕ
  lower : ℕ
  upper : ℕ

def replacement : Char := Char.ofNat 0xFFFD

def lead (n : ℕ) : List Char × Option Pending :=
  if n < 0x80 then ([Char.ofNat n], none)
  else if 0xC2 ≤ n ∧ n ≤ 0xDF then ([], some ⟨n - 0xC0, 1, 0x80, 0xBF⟩)
  else if 0xE0 ≤ n ∧ n ≤ 0xEF then
    ([], some ⟨n - 0xE0, 2, if n = 0xE0 then 0xA0 else 0x80, if n = 0xED then 0x9F else 0xBF⟩)
  else if 0xF0 ≤ n ∧ n ≤ 0xF4 then
    ([], some ⟨n - 0xF0, 3, if n = 0xF0 then 0x90 else 0x80, if n = 0xF4 then 0x8F else 0xBF⟩)
  else ([replacement], none)

def next : Option Pending → ℕ → List Char × Option Pending
  | none, n => lead n
  | some p, n =>
      if p.lower ≤ n ∧ n ≤ p.upper then
        if p.needed = 1 then ([Char.ofNat (p.bits * 64 + (n - 0x80))], none)
        else ([], some ⟨p.bits * 64 + (n - 0x80), p.needed - 1, 0x80, 0xBF⟩)
      else (replacement :: (lead n).1, (lead n).2)

/-- The decoder of the web: what is no character is replaced. -/
def decodeFrom : Option Pending → List Byte → List Char
  | none, [] => []
  | some _, [] => [replacement]
  | p, b :: bs => (next p b).1 ++ decodeFrom (next p b).2 bs

def decode (bs : List Byte) : List Char := decodeFrom none bs

theorem decodeFrom_cons (p : Option Pending) (n : ℕ) (small : n < 256) (bs : List Byte) :
    decodeFrom p (Byte.of n :: bs) = (next p n).1 ++ decodeFrom (next p n).2 bs := by
  have same : (Byte.of n : ℕ) = n := Nat.mod_eq_of_lt small
  rw [decodeFrom, same]

theorem next_more {p : Pending} {n : ℕ} (inside : p.lower ≤ n ∧ n ≤ p.upper) (more : p.needed ≠ 1) :
    next (some p) n = ([], some ⟨p.bits * 64 + (n - 0x80), p.needed - 1, 0x80, 0xBF⟩) := by
  rw [next, if_pos inside, if_neg more]

theorem next_last {p : Pending} {n : ℕ} (inside : p.lower ≤ n ∧ n ≤ p.upper) (last : p.needed = 1) :
    next (some p) n = ([Char.ofNat (p.bits * 64 + (n - 0x80))], none) := by
  rw [next, if_pos inside, if_pos last]

theorem lead_two {n : ℕ} (range : 0xC2 ≤ n ∧ n ≤ 0xDF) : lead n = ([], some ⟨n - 0xC0, 1, 0x80, 0xBF⟩) := by
  rw [lead, if_neg (by omega), if_pos range]

theorem lead_three {n : ℕ} (range : 0xE0 ≤ n ∧ n ≤ 0xEF) :
    lead n = ([], some ⟨n - 0xE0, 2, if n = 0xE0 then 0xA0 else 0x80, if n = 0xED then 0x9F else 0xBF⟩) := by
  rw [lead, if_neg (by omega), if_neg (by omega), if_pos range]

theorem lead_four {n : ℕ} (range : 0xF0 ≤ n ∧ n ≤ 0xF4) :
    lead n = ([], some ⟨n - 0xF0, 3, if n = 0xF0 then 0x90 else 0x80, if n = 0xF4 then 0x8F else 0xBF⟩) := by
  rw [lead, if_neg (by omega), if_neg (by omega), if_neg (by omega), if_pos range]

theorem decodeFrom_encodeCode {n : ℕ} (valid : n < 0xD800 ∨ 0xDFFF < n ∧ n < 0x110000) (bs : List Byte) :
    decodeFrom none (encodeCode n ++ bs) = Char.ofNat n :: decodeFrom none bs := by
  unfold encodeCode
  split_ifs with one two three
  · rw [List.singleton_append, decodeFrom_cons _ _ (by omega), next, lead, if_pos one]
    rfl
  · have whole : (0xC0 + n / 64 - 0xC0) * 64 + (0x80 + n % 64 - 0x80) = n := by omega
    rw [List.cons_append, List.singleton_append, decodeFrom_cons _ _ (by omega), next, lead_two (by omega),
      decodeFrom_cons _ _ (by omega), next_last ⟨by simp, by simp only; omega⟩ rfl, whole]
    rfl
  · have whole : ((0xE0 + n / 4096 - 0xE0) * 64 + (0x80 + n / 64 % 64 - 0x80)) * 64 + (0x80 + n % 64 - 0x80) = n := by
      omega
    rw [List.cons_append, List.cons_append, List.singleton_append, decodeFrom_cons _ _ (by omega), next,
      lead_three (by omega), decodeFrom_cons _ _ (by omega), next_more ?_ (by simp), decodeFrom_cons _ _ (by omega),
      next_last ⟨by simp, by simp only; omega⟩ rfl, whole]
    · rfl
    · constructor <;> simp only <;> split_ifs <;> omega
  · have whole : (((0xF0 + n / 262144 - 0xF0) * 64 + (0x80 + n / 4096 % 64 - 0x80)) * 64 +
        (0x80 + n / 64 % 64 - 0x80)) * 64 + (0x80 + n % 64 - 0x80) = n := by omega
    rw [List.cons_append, List.cons_append, List.cons_append, List.singleton_append, decodeFrom_cons _ _ (by omega),
      next, lead_four (by omega), decodeFrom_cons _ _ (by omega), next_more ?_ (by simp), decodeFrom_cons _ _ (by omega),
      next_more ⟨by simp, by simp only; omega⟩ (by simp), decodeFrom_cons _ _ (by omega),
      next_last ⟨by simp, by simp only; omega⟩ rfl, whole]
    · rfl
    · constructor <;> simp only <;> split_ifs <;> omega

theorem decodeFrom_encodeChar (c : Char) (bs : List Byte) :
    decodeFrom none (encodeCode c.toNat ++ bs) = c :: decodeFrom none bs := by
  have valid : c.toNat < 0xD800 ∨ 0xDFFF < c.toNat ∧ c.toNat < 0x110000 := c.valid
  rw [decodeFrom_encodeCode valid, Char.ofNat_toNat]

theorem decode_encode (cs : List Char) : decode (encode cs) = cs := by
  unfold decode encode
  induction cs with
  | nil => rfl
  | cons c cs ih => rw [List.flatMap_cons, decodeFrom_encodeChar, ih]

end Utf8
end Foundations
