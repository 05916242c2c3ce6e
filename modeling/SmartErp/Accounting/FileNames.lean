import SmartErp.Accounting.FatturaPa
import SmartErp.Accounting.Numbering
import Mathlib.Data.Nat.Digits.Lemmas

/-!
# The names of the files for the SdI

The progressive of an invoice is what year and number together are modulo `36 ^ 5`. Numbers of six digits in less
than sixty years stay within one period.
-/

namespace SmartErp.Accounting.FatturaPaAdapter
open Foundations

/-! ## Five digits of base 36 -/

/-- `n.toString(36).toUpperCase().slice(-5).padStart(5, '0')` -/
def lastFive (n : ℕ) : List Char := (((Nat.digits 36 n).take 5).reverse.map digit36).leftpad 5 '0'

def ordinal (fiscalYear : ℕ) (number : String) : ℕ :=
  Nat.ofDigitChars 10 (s!"{fiscalYear}{number}".toList.filter Char.isDigit) 0

theorem encodeProgressive_eq (fiscalYear : ℕ) (number : String) :
    encodeProgressive fiscalYear number = String.ofList (lastFive (ordinal fiscalYear number)) := rfl

def valueOf (c : Char) : ℕ := if c.toNat < 58 then c.toNat - 48 else c.toNat - 55

theorem valueOf_digit36 {n : ℕ} (digit : n < 36) : valueOf (digit36 n) = n := by
  revert n
  decide

theorem length_take {n : ℕ} (large : 36 ^ 4 ≤ n) : ((Nat.digits 36 n).take 5).length = 5 := by
  have long := (Nat.lt_digits_length_iff (by decide) n).mpr large
  rw [List.length_take]
  omega

theorem lastFive_eq {n : ℕ} (large : 36 ^ 4 ≤ n) :
    lastFive n = ((Nat.digits 36 n).take 5).reverse.map digit36 := by
  unfold lastFive
  rw [List.leftpad, List.length_map, List.length_reverse, length_take large]
  rfl

theorem length_lastFive {n : ℕ} (large : 36 ^ 4 ≤ n) : (lastFive n).length = 5 := by
  rw [lastFive_eq large, List.length_map, List.length_reverse, length_take large]

theorem map_valueOf {n : ℕ} (large : 36 ^ 4 ≤ n) :
    ((lastFive n).map valueOf).reverse = (Nat.digits 36 n).take 5 := by
  rw [lastFive_eq large, List.map_map, ← List.map_reverse, List.reverse_reverse]
  conv_rhs => rw [← List.map_id ((Nat.digits 36 n).take 5)]
  exact List.map_congr_left fun d mem => valueOf_digit36 (Nat.digits_lt_base (by decide) (List.mem_of_mem_take mem))

theorem mod_of_lastFive {n n' : ℕ} (large : 36 ^ 4 ≤ n) (large' : 36 ^ 4 ≤ n') (same : lastFive n = lastFive n') :
    n % 36 ^ 5 = n' % 36 ^ 5 := by
  rw [Nat.self_mod_pow_eq_ofDigits_take 5 n (by decide), Nat.self_mod_pow_eq_ofDigits_take 5 n' (by decide),
    ← map_valueOf large, ← map_valueOf large', same]

/-! ## Years and numbers -/

theorem isDigit_invoiceNumber {count : ℕ} {c : Char} (mem : c ∈ (invoiceNumber count).toList) : c.isDigit := by
  rw [invoiceNumber, String.toList_ofList, List.leftpad, List.mem_append] at mem
  rcases mem with zero | digit
  · rw [List.eq_of_mem_replicate zero]
    decide
  · exact Nat.isDigit_of_mem_toDigits (by decide) (by decide) digit

theorem length_invoiceNumber {count : ℕ} (six : count + 1 ≤ 999999) : (invoiceNumber count).toList.length = 6 := by
  have short := Nat.toDigits_length 10 (count + 1) 6 (by decide) (by omega)
  rw [invoiceNumber, String.toList_ofList, List.leftpad, List.length_append, List.length_replicate]
  omega

theorem ordinal_eq (fiscalYear : ℕ) {count : ℕ} (six : count + 1 ≤ 999999) :
    ordinal fiscalYear (invoiceNumber count) = fiscalYear * 1000000 + (count + 1) := by
  have text : s!"{fiscalYear}{invoiceNumber count}".toList =
      Nat.toDigits 10 fiscalYear ++ (invoiceNumber count).toList := by
    simp [Nat.repr_eq_ofList_toDigits, ToString.toString]
  have digits : (Nat.toDigits 10 fiscalYear ++ (invoiceNumber count).toList).filter Char.isDigit =
      Nat.toDigits 10 fiscalYear ++ (invoiceNumber count).toList := by
    refine List.filter_eq_self.mpr fun c mem => ?_
    rcases List.mem_append.mp mem with year | number
    · exact Nat.isDigit_of_mem_toDigits (by decide) (by decide) year
    · exact isDigit_invoiceNumber number
  rw [ordinal, text, digits, Nat.ofDigitChars_append, Nat.ofDigitChars_ten_toDigits,
    Nat.ofDigitChars_eq_ofDigitChars_zero, ofDigitChars_invoiceNumber, length_invoiceNumber six]
  omega

/-- Less than sixty million numbers lie between the two, and `36 ^ 5` is more. -/
theorem encodeProgressive_inj {y y' count count' : ℕ} (years : 1000 ≤ y ∧ 1000 ≤ y') (window : y < y' + 60 ∧ y' < y + 60)
    (six : count + 1 ≤ 999999) (six' : count' + 1 ≤ 999999)
    (same : encodeProgressive y (invoiceNumber count) = encodeProgressive y' (invoiceNumber count')) :
    y = y' ∧ count = count' := by
  rw [encodeProgressive_eq, encodeProgressive_eq, ordinal_eq y six, ordinal_eq y' six', String.ofList_inj] at same
  have residues : y * 1000000 + (count + 1) ≡ y' * 1000000 + (count' + 1) [MOD 36 ^ 5] :=
    mod_of_lastFive (by omega) (by omega) same
  have equal := residues.eq_of_abs_lt (by rw [abs_lt]; omega)
  omega

/-! ## The invoices of a tenant -/

section
variable {κ : Type} [DecidableEq κ] {s : Pool κ Db Call} {a b : Invoice}

omit [DecidableEq κ] in
theorem mem_numbers (mem : a ∈ s.shared.invoices.rows) : a.number ∈ s.shared.numbers a.tenantId a.fiscalYear :=
  List.mem_map_of_mem (List.mem_filter.mpr ⟨mem, decide_eq_true ⟨rfl, rfl⟩⟩)

omit [DecidableEq κ] in
theorem number_eq (numbered : Numbered s) (mem : a ∈ s.shared.invoices.rows) :
    ∃ count, a.number = invoiceNumber count := by
  have listed := (numbered.gapless a.tenantId a.fiscalYear).mem_iff.mp (mem_numbers mem)
  obtain ⟨count, -, eq⟩ := List.mem_map.mp listed
  exact ⟨count, eq.symm⟩

omit [DecidableEq κ] in
theorem eq_of_number (numbered : Numbered s) (ha : a ∈ s.shared.invoices.rows) (hb : b ∈ s.shared.invoices.rows)
    (tenant : a.tenantId = b.tenantId) (year : a.fiscalYear = b.fiscalYear) (number : a.number = b.number) : a = b := by
  have nodup := (numbered.gapless a.tenantId a.fiscalYear).nodup invoiceNumber_injective
  refine List.inj_on_of_nodup_map nodup (List.mem_filter.mpr ⟨ha, decide_eq_true ⟨rfl, rfl⟩⟩)
    (List.mem_filter.mpr ⟨hb, decide_eq_true ⟨tenant.symm, year.symm⟩⟩) number

theorem build_ok {input : FatturaPaBuildInput} {out : FatturaPaBuildOutput} (ok : build input = .ok out) :
    out.progressive = encodeProgressive input.invoice.fiscalYear input.invoice.number ∧
      ∃ cedenteVat : String, out.fileName = s!"IT{cedenteVat}_{out.progressive}.xml" := by
  simp only [build, bind_eq_ok, pure_eq_ok] at ok
  obtain ⟨cedenteVat, -, _, -, _, -, rfl⟩ := ok
  exact ⟨rfl, cedenteVat, rfl⟩

theorem progressive_of_fileName {vat other p q : String} (length : p.toList.length = q.toList.length)
    (same : s!"IT{vat}_{p}.xml" = s!"IT{other}_{q}.xml") : p = q := by
  have lists := congrArg String.toList same
  simp only [String.toList_append, toString] at lists
  have ends := (List.append_inj' lists rfl).1
  exact String.toList_inj.mp (List.append_inj' ends length).2

/-- Different invoices of a tenant, of years less than sixty apart and with numbers of six digits, get different
progressives of five characters and different file names. -/
theorem file_names_differ (atRest : ∀ i, (s.calls i).atRest) (empty : s.shared.invoices.rows = [])
    (moves : List (κ × Step)) (ha : a ∈ (moves.foldl (Pool.next act) s).shared.invoices.rows)
    (hb : b ∈ (moves.foldl (Pool.next act) s).shared.invoices.rows) (tenant : a.tenantId = b.tenantId)
    (differ : a.id ≠ b.id) (years : 1000 ≤ a.fiscalYear ∧ 1000 ≤ b.fiscalYear)
    (window : a.fiscalYear < b.fiscalYear + 60 ∧ b.fiscalYear < a.fiscalYear + 60)
    (six : Nat.ofDigitChars 10 a.number.toList 0 ≤ 999999) (six' : Nat.ofDigitChars 10 b.number.toList 0 ≤ 999999) :
    (encodeProgressive a.fiscalYear a.number).length = 5 ∧ (encodeProgressive b.fiscalYear b.number).length = 5 ∧
    encodeProgressive a.fiscalYear a.number ≠ encodeProgressive b.fiscalYear b.number ∧
    ∀ input input' out out', input.invoice = a → input'.invoice = b → build input = .ok out →
      build input' = .ok out' → out.fileName ≠ out'.fileName := by
  have numbered := run_numbered atRest empty moves
  obtain ⟨count, eq⟩ := number_eq numbered ha
  obtain ⟨count', eq'⟩ := number_eq numbered hb
  rw [eq, ofDigitChars_invoiceNumber] at six
  rw [eq', ofDigitChars_invoiceNumber] at six'
  have length (y count : ℕ) (four : 1000 ≤ y) (six : count + 1 ≤ 999999) :
      (encodeProgressive y (invoiceNumber count)).length = 5 := by
    rw [encodeProgressive_eq, ordinal_eq y six, String.length_ofList, length_lastFive (by omega)]
  have apart : encodeProgressive a.fiscalYear a.number ≠ encodeProgressive b.fiscalYear b.number := by
    intro same
    rw [eq, eq'] at same
    obtain ⟨year, number⟩ := encodeProgressive_inj years window six six' same
    rw [number, ← eq'] at eq
    exact differ (congrArg Invoice.id (eq_of_number numbered ha hb tenant year eq))
  rw [eq, eq'] at apart ⊢
  refine ⟨length _ _ years.1 six, length _ _ years.2 six', apart, ?_⟩
  rintro input input' out out' rfl rfl ok ok' same
  obtain ⟨progressive, vat, name⟩ := build_ok ok
  obtain ⟨progressive', vat', name'⟩ := build_ok ok'
  rw [eq] at progressive
  rw [eq'] at progressive'
  rw [name, name'] at same
  have lengths : out.progressive.toList.length = out'.progressive.toList.length := by
    rw [String.length_toList, String.length_toList, progressive, progressive', length _ _ years.1 six,
      length _ _ years.2 six']
  have equal := progressive_of_fileName lengths same
  rw [progressive, progressive'] at equal
  exact apart equal

end

open Sample in
theorem file_names_differ_counter :
    ∃ a ∈ ([(0, .read), (0, .save 5), (1, .read), (1, .save 6)].foldl (Pool.next act) counter).shared.invoices.rows,
    ∃ b ∈ ([(0, .read), (0, .save 5), (1, .read), (1, .save 6)].foldl (Pool.next act) counter).shared.invoices.rows,
      encodeProgressive a.fiscalYear a.number ≠ encodeProgressive b.fiscalYear b.number := by
  have issued : ∃ a ∈ ([(0, .read), (0, .save 5), (1, .read), (1, .save 6)].foldl (Pool.next act)
      counter).shared.invoices.rows, ∃ b ∈ ([(0, .read), (0, .save 5), (1, .read), (1, .save 6)].foldl
      (Pool.next act) counter).shared.invoices.rows, a.tenantId = b.tenantId ∧ a.id ≠ b.id ∧ a.fiscalYear = 2026 ∧
      b.fiscalYear = 2026 ∧ Nat.ofDigitChars 10 a.number.toList 0 ≤ 999999 ∧
      Nat.ofDigitChars 10 b.number.toList 0 ≤ 999999 := by decide +kernel
  obtain ⟨a, ha, b, hb, tenant, differ, year, year', six, six'⟩ := issued
  exact ⟨a, ha, b, hb, (file_names_differ (by decide) rfl _ ha hb tenant differ (by omega) (by omega) six six').2.2.1⟩

end SmartErp.Accounting.FatturaPaAdapter
