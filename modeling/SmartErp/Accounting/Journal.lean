import SmartErp.Accounting.Liquidation

/-!
# Balanced journal entries

`createJournalEntry` compares the sums of the lines with a tolerance, stores the lines as they came and
the totals rounded.
-/

namespace SmartErp.Accounting.Journal
open Foundations

structure JournalLineDto where
  accountId : String
  accountCode : String
  debit : Option Amount := none
  credit : Option Amount := none
  description : Option String := none

structure CreateJournalEntryDto where
  reference : String
  entryDate : ℕ
  journal : Option String := none
  description : String
  lines : List JournalLineDto

def JournalLineDto.line (l : JournalLineDto) : JournalLine where
  accountId := l.accountId
  accountCode := l.accountCode
  debit := (l.debit.map (·.number)).getD (.finite 0)
  credit := (l.credit.map (·.number)).getD (.finite 0)
  description := l.description

namespace CreateJournalEntryDto

def totalDebit (dto : CreateJournalEntryDto) : JsNumber := .added ((dto.lines.map (·.line)).map (·.debit))

def totalCredit (dto : CreateJournalEntryDto) : JsNumber := .added ((dto.lines.map (·.line)).map (·.credit))

end CreateJournalEntryDto

def createJournalEntry (db : Db) (tenantId : Uuid) (dto : CreateJournalEntryDto) : Except Failure Db := do
  let totalDebit := dto.totalDebit
  let totalCredit := dto.totalCredit
  ensure (¬ unbalanced totalDebit totalCredit) (.badRequest
    s!"Journal entry unbalanced: debit {totalDebit.toFixed 2} != credit {totalCredit.toFixed 2}")
  let debitColumn ← numericParam 12 2 (totalDebit.fixed 2)
  let creditColumn ← numericParam 12 2 (totalCredit.fixed 2)
  return { db with
    journalEntries := db.journalEntries ++ [{
      tenantId
      reference := dto.reference
      entryDate := dto.entryDate
      journal := dto.journal.getD "generale"
      description := dto.description
      lines := dto.lines.map (·.line)
      totalDebit := debitColumn
      totalCredit := creditColumn
      -- `autoPost` is not a field of the DTO, and others are refused.
      isPosted := false }] }

/-! ## When an entry balances -/

structure Balanced (e : JournalEntry) : Prop where
  lines : e.debits = e.credits
  totalDebit : e.totalDebit.val = e.debits
  totalCredit : e.totalCredit.val = e.credits

theorem balanced_iff {e : JournalEntry} (totalled : e.Totalled) :
    Balanced e ↔ e.debits = e.credits ∧ (JsNumber.added (e.lines.map (·.debit))).Rounds 2 e.debits ∧
      (JsNumber.added (e.lines.map (·.credit))).Rounds 2 e.credits := by
  constructor
  · intro balanced
    have debit := totalled.totalDebit
    have credit := totalled.totalCredit
    rw [balanced.totalDebit] at debit
    rw [balanced.totalCredit] at credit
    exact ⟨balanced.lines, debit, credit⟩
  · intro even
    obtain ⟨lines, debit, credit⟩ := even
    exact ⟨lines, totalled.totalDebit.unique debit, totalled.totalCredit.unique credit⟩

namespace CreateJournalEntryDto

def debits (dto : CreateJournalEntryDto) : ℚ := ((dto.lines.map (·.line)).map (·.debit.spelled)).sum

def credits (dto : CreateJournalEntryDto) : ℚ := ((dto.lines.map (·.line)).map (·.credit.spelled)).sum

/-- The sums are more than a tenth of a cent apart, or too large for the column. -/
def Refused (dto : CreateJournalEntryDto) : Prop :=
  unbalanced dto.totalDebit dto.totalCredit = true ∨
    (¬ ∃ x : Numeric 12 2, dto.totalDebit.Rounds 2 x.val) ∨ ¬ ∃ x : Numeric 12 2, dto.totalCredit.Rounds 2 x.val

/-- Debits and credits, as they are written, add up to the same cents, and so do their doubles, rounded. -/
structure Even (dto : CreateJournalEntryDto) : Prop where
  same : dto.debits = dto.credits
  totalDebit : dto.totalDebit.Rounds 2 dto.debits
  totalCredit : dto.totalCredit.Rounds 2 dto.credits

end CreateJournalEntryDto

theorem JournalLineDto.amounts (l : JournalLineDto) :
    (∃ q, 0 ≤ q ∧ (JsNumber.finite q).double = .finite q ∧ l.line.debit = .finite q) ∧
      ∃ q, 0 ≤ q ∧ (JsNumber.finite q).double = .finite q ∧ l.line.credit = .finite q := by
  have amount (a : Option Amount) : ∃ q, 0 ≤ q ∧ (JsNumber.finite q).double = .finite q ∧
      (a.map (·.number)).getD (.finite 0) = .finite q := by
    cases a with
    | none => exact ⟨0, le_rfl, JsNumber.double_zero, rfl⟩
    | some a => exact ⟨a.value, a.nonneg, a.double, rfl⟩
  exact ⟨amount l.debit, amount l.credit⟩

theorem rounds_added {ns : List JsNumber}
    (amounts : ∀ n ∈ ns, ∃ q, 0 ≤ q ∧ (JsNumber.finite q).double = .finite q ∧ n = .finite q)
    (exact : Exact 2 (ns.map (·.spelled)).sum) (few : ns.length * ((ns.map (·.spelled)).sum + 1) ≤ 2 ^ 44) :
    (JsNumber.added ns).Rounds 2 (ns.map (·.spelled)).sum := by
  have doubles : (ns.map (·.spelled)).map (fun q => (JsNumber.finite q).double) = ns := by
    rw [List.map_map]
    refine (List.map_congr_left fun n mem => ?_).trans (List.map_id ns)
    obtain ⟨q, -, double, rfl⟩ := amounts n mem
    exact JsNumber.double_spelled double
  have nonneg : ∀ q ∈ ns.map (·.spelled), 0 ≤ q := by
    simp only [List.forall_mem_map]
    intro n mem
    obtain ⟨q, nonneg, -, rfl⟩ := amounts n mem
    exact JsNumber.spelled_nonneg nonneg
  have sum := List.sum_nonneg nonneg
  obtain ⟨size, hsize⟩ : ∃ size, size = (ns.map (·.spelled)).sum + 1 := ⟨_, rfl⟩
  have absolute : ((ns.map (·.spelled)).map (|·|)).sum = (ns.map (·.spelled)).sum := by
    congr 1
    exact (List.map_congr_left fun q mem => abs_of_nonneg (nonneg q mem)).trans (List.map_id _)
  rcases ns.eq_nil_or_concat with rfl | ⟨before, last, whole⟩
  · exact ⟨0, rfl, by norm_num, toScale_of_exact (.zero 2)⟩
  have count : (1 : ℚ) ≤ ns.length := by
    rw [whole]
    simp
  rw [← hsize] at few
  have most : size ≤ 2 ^ 44 := (le_mul_of_one_le_left (by linarith) count).trans few
  have error : ns.length * (size / 2 ^ 52) ≤ 1 / 2 ^ 8 := by
    rw [← mul_div_assoc, div_le_iff₀ (by norm_num)]
    linarith
  have near := JsNumber.Near.foldl_plus (normal_of_le (show 1 / 2 ^ 64 ≤ size by rw [hsize]; linarith))
    (most.trans (by norm_num)) (s := ns.map (·.spelled)) (k := 0) (a := .finite 0) (x := 0)
    (by simpa using JsNumber.Near.exact 0) (by rw [absolute, abs_zero, List.length_map]; push_cast; linarith)
  rw [doubles, zero_add, zero_add, List.length_map] at near
  refine JsNumber.rounds_of_near exact (near.mono error) ?_ (by norm_num)
  rw [abs_of_nonneg sum]
  linarith

/-- Equal sums of whole cents are even unless the lines are very many. -/
theorem even_of_few {dto : CreateJournalEntryDto} (same : dto.debits = dto.credits) (exact : Exact 2 dto.debits)
    (few : dto.lines.length * (dto.debits + 1) ≤ 2 ^ 44) : dto.Even := by
  have sides (side : JournalLine → JsNumber) (amounts : ∀ l : JournalLineDto, ∃ q, 0 ≤ q ∧
      (JsNumber.finite q).double = .finite q ∧ side l.line = .finite q)
      (sum : ((dto.lines.map (·.line)).map fun l => (side l).spelled).sum = dto.debits) :
      (JsNumber.added ((dto.lines.map (·.line)).map side)).Rounds 2 dto.debits := by
    have sum' : (((dto.lines.map (·.line)).map side).map (·.spelled)).sum = dto.debits := by rwa [List.map_map]
    have all : ∀ n ∈ (dto.lines.map (·.line)).map side,
        ∃ q, 0 ≤ q ∧ (JsNumber.finite q).double = .finite q ∧ n = .finite q := by
      simp only [List.forall_mem_map]
      exact fun l _ => amounts l
    have rounds := rounds_added all (by rwa [sum']) (by rwa [sum', List.length_map, List.length_map])
    rwa [sum'] at rounds
  exact ⟨same, sides (·.debit) (fun l => l.amounts.1) rfl,
    same ▸ sides (·.credit) (fun l => l.amounts.2) same.symm⟩

theorem createJournalEntry_ok {db db' : Db} {tenantId : Uuid} {dto : CreateJournalEntryDto}
    (ok : createJournalEntry db tenantId dto = .ok db') :
    ∃ e : JournalEntry, e.lines = dto.lines.map (·.line) ∧ e.Totalled ∧
      db' = { db with journalEntries := db.journalEntries ++ [e] } := by
  simp only [createJournalEntry, bind_eq_ok, ensure_eq_ok, pure_eq_ok] at ok
  obtain ⟨-, -, debit, hdebit, credit, hcredit, rfl⟩ := ok
  rw [CreateJournalEntryDto.totalDebit, numericParam_fixed (JsNumber.double_added _) (by norm_num) (by norm_num)] at hdebit
  rw [CreateJournalEntryDto.totalCredit, numericParam_fixed (JsNumber.double_added _) (by norm_num) (by norm_num)] at hcredit
  refine ⟨_, rfl, ?_, rfl⟩
  exact ⟨hdebit, hcredit⟩

theorem createJournalEntry_stores {db : Db} {tenantId : Uuid} {dto : CreateJournalEntryDto} :
    (∃ db', createJournalEntry db tenantId dto = .ok db') ↔ ¬ dto.Refused := by
  have fits (n : JsNumber) (double : n.double = n) (x : Numeric 12 2) :
      numericParam 12 2 (n.fixed 2) = .ok x ↔ n.Rounds 2 x.val :=
    numericParam_fixed double (by norm_num) (by norm_num)
  simp only [createJournalEntry, bind_eq_ok, ensure_eq_ok, pure_eq_ok, CreateJournalEntryDto.Refused, not_or, not_not,
    fits dto.totalDebit (JsNumber.double_added _), fits dto.totalCredit (JsNumber.double_added _)]
  constructor
  · intro stores
    obtain ⟨-, -, close, debit, hdebit, credit, hcredit, -⟩ := stores
    exact ⟨close, ⟨debit, hdebit⟩, credit, hcredit⟩
  · intro fits
    obtain ⟨close, ⟨debit, hdebit⟩, credit, hcredit⟩ := fits
    exact ⟨_, (), close, debit, hdebit, credit, hcredit, rfl⟩

theorem balanced_of_close {e : JournalEntry} (totalled : e.Totalled)
    (close : unbalanced (.added (e.lines.map (·.debit))) (.added (e.lines.map (·.credit))) = false)
    (exact : Exact 2 e.debits ∧ Exact 2 e.credits) (small : |e.debits| ≤ 2 ^ 35 ∧ |e.credits| ≤ 2 ^ 35)
    (nearDebit : (JsNumber.added (e.lines.map (·.debit))).Near e.debits (1 / 2 ^ 12))
    (nearCredit : (JsNumber.added (e.lines.map (·.credit))).Near e.credits (1 / 2 ^ 12)) : Balanced e := by
  have rounds := JsNumber.rounds_of_near exact.1 nearDebit (by linarith [small.1]) (by norm_num)
  have rounds' := JsNumber.rounds_of_near exact.2 nearCredit (by linarith [small.2]) (by norm_num)
  have triangle := abs_sub e.debits e.credits
  have difference := (nearDebit.minus (normal_of_le (show (1 : ℚ) / 2 ^ 64 ≤ 2 ^ 37 by norm_num)) (by norm_num)
    nearCredit (by linarith [small.1, small.2])).abs
  have mill : (JsNumber.finite (1/1000)).double.Near (1/1000) (1 / 2 ^ 53) :=
    JsNumber.near_rounded (normal_of_le (by norm_num)) (by norm_num) (by norm_num [abs_of_pos])
  rw [unbalanced, ← Bool.not_eq_true] at close
  have apart := difference.le_of_not_lt mill close
  have same : e.debits = e.credits := by
    apply eq_of_exact exact.1 exact.2
    norm_num at apart ⊢
    linarith
  exact (balanced_iff totalled).mpr ⟨same, rounds, rounds'⟩

theorem balanced_invoice {invoice : Invoice} {splitPayment : Bool} {e : JournalEntry}
    (lines : e.lines = invoice.journalLines splitPayment) (totalled : e.Totalled)
    (close : unbalanced (.added (e.lines.map (·.debit))) (.added (e.lines.map (·.credit))) = false) : Balanced e := by
  have number (x : Numeric 12 2) : (x.number.fixed 2) = x.number := x.fixed_number (by norm_num) (by norm_num)
  have double (x : Numeric 12 2) : x.number.double = x.number := JsNumber.double_double _
  have bound (x : Numeric 12 2) : |x.val| ≤ 10 ^ 10 := by
    have size := x.abs_val_le_div
    norm_num at size ⊢
    exact size
  have near (x : Numeric 12 2) : x.number.Near x.val (1 / 2 ^ 16) :=
    (JsNumber.near_rounded (normal_of_le (show (1 : ℚ) / 2 ^ 64 ≤ 2 ^ 36 by norm_num)) (by norm_num)
      ((bound x).trans (by norm_num))).mono (by norm_num)
  have value (x : Numeric 12 2) : x.number.spelled = x.val := x.spelled_number (by norm_num) (by norm_num)
  have sum (x y : Numeric 12 2) : |x.val + y.val| ≤ 2 ^ 35 :=
    (abs_add_le _ _).trans ((add_le_add (bound x) (bound y)).trans (by norm_num))
  have gross := near (invoice.receivable splitPayment)
  have net := near invoice.subtotalAmount
  have both := net.plus (normal_of_le (show (1 : ℚ) / 2 ^ 64 ≤ 2 ^ 36 by norm_num)) (by norm_num) (near invoice.taxAmount)
    (by linarith [sum invoice.subtotalAmount invoice.taxAmount])
  have debit : JsNumber.added (e.lines.map (·.debit)) = (invoice.receivable splitPayment).number ∧
      e.debits = (invoice.receivable splitPayment).val := by
    rw [JournalEntry.debits, lines, Invoice.journalLines]
    split <;> simp [JsNumber.added, number, value, JsNumber.zero_plus, JsNumber.plus_zero, double, JsNumber.spelled_zero]
  have credit : (JsNumber.added (e.lines.map (·.credit)) = invoice.subtotalAmount.number ∧
      e.credits = invoice.subtotalAmount.val) ∨
        (JsNumber.added (e.lines.map (·.credit)) = invoice.subtotalAmount.number.plus invoice.taxAmount.number ∧
          e.credits = invoice.subtotalAmount.val + invoice.taxAmount.val) := by
    rw [JournalEntry.credits, lines, Invoice.journalLines]
    split <;> simp [JsNumber.added, number, value, JsNumber.zero_plus, double, JsNumber.double_zero, JsNumber.spelled_zero]
  have exact (x : Numeric 12 2) : Exact 2 x.val := x.exact_val
  rcases credit with ⟨credit, credits⟩ | ⟨credit, credits⟩
  · apply balanced_of_close totalled close <;> simp only [debit.1, debit.2, credit, credits]
    · exact ⟨exact _, exact _⟩
    · exact ⟨(bound _).trans (by norm_num), (bound _).trans (by norm_num)⟩
    · exact gross.mono (by norm_num)
    · exact net.mono (by norm_num)
  · apply balanced_of_close totalled close <;> simp only [debit.1, debit.2, credit, credits]
    · exact ⟨exact _, (exact _).add (exact _)⟩
    · exact ⟨(bound _).trans (by norm_num), sum _ _⟩
    · exact gross.mono (by norm_num)
    · exact both.mono (by norm_num)

/-! ## Whole runs -/

inductive Op where
  | createJournalEntry (tenantId : Uuid) (dto : CreateJournalEntryDto)
  | invoicing (op : Accounting.Op)

def perform (db : Db) : Op → Except Failure Db
  | .createJournalEntry tenantId dto => createJournalEntry db tenantId dto
  | .invoicing op => Accounting.perform db op

def next (db : Db) (op : Op) : Db := settle db (perform db op)

def AllBalanced (db : Db) : Prop := ∀ e ∈ db.journalEntries, Balanced e

theorem allBalanced_add {db : Db} {e : JournalEntry} :
    AllBalanced { db with journalEntries := db.journalEntries ++ [e] } ↔ AllBalanced db ∧ Balanced e := by
  simp [AllBalanced, or_imp, forall_and]

theorem createJournalEntry_balanced_iff {db db' : Db} {tenantId : Uuid} {dto : CreateJournalEntryDto}
    (ok : createJournalEntry db tenantId dto = .ok db') : AllBalanced db' ↔ AllBalanced db ∧ dto.Even := by
  obtain ⟨e, lines, totalled, rfl⟩ := createJournalEntry_ok ok
  rw [allBalanced_add, balanced_iff totalled, JournalEntry.debits, JournalEntry.credits, lines]
  refine and_congr_right fun _ => ⟨fun even => ⟨even.1, even.2.1, even.2.2⟩, fun even => ?_⟩
  exact ⟨even.same, even.totalDebit, even.totalCredit⟩

theorem invoicing_cases {db db' : Db} {op : Accounting.Op} (ok : Accounting.perform db op = .ok db') :
    db'.journalEntries = db.journalEntries ∨
      ∃ e, Balanced e ∧ db'.journalEntries = db.journalEntries ++ [e] := by
  cases op with
  | createInvoice tenantId id dto =>
      obtain ⟨invoice, -, inserts⟩ := bind_eq_ok.mp ok
      obtain ⟨-, -, rfl⟩ := insertInvoice_ok inserts
      exact .inl rfl
  | queueInvoiceForSdi tenantId id now =>
      simp only [Accounting.perform, queueInvoiceForSdi, bind_eq_ok, pure_eq_ok] at ok
      obtain ⟨invoice, -, -, -, rfl⟩ := ok
      exact .inl rfl
  | acceptInvoice tenantId id now =>
      obtain ⟨invoice, got, posts⟩ := bind_eq_ok.mp ok
      split at posts
      · exact .inl (pure_eq_ok.mp posts ▸ rfl)
      · obtain ⟨e, -, -, ⟨lines, totalled, close⟩, rfl⟩ := postInvoice_ok posts
        exact .inr ⟨e, balanced_invoice lines totalled close, rfl⟩

theorem next_balanced {db : Db} {op : Op}
    (met : ∀ tenantId dto, op = .createJournalEntry tenantId dto → dto.Refused ∨ dto.Even)
    (balanced : AllBalanced db) : AllBalanced (next db op) := by
  apply settle_keeps balanced
  intro db' ok
  cases op with
  | createJournalEntry tenantId dto =>
      rcases met tenantId dto rfl with refused | even
      · exact absurd refused (createJournalEntry_stores.mp ⟨db', ok⟩)
      · exact (createJournalEntry_balanced_iff ok).mpr ⟨balanced, even⟩
  | invoicing op =>
      rcases invoicing_cases ok with same | ⟨e, even, added⟩
      · rw [AllBalanced, same]
        exact balanced
      · rw [AllBalanced, added]
        exact allBalanced_add.mpr ⟨balanced, even⟩

theorem next_subset (db : Db) (op : Op) :
    db.journalEntries ⊆ (next db op).journalEntries := by
  refine settle_keeps (I := fun db' : Db => db.journalEntries ⊆ db'.journalEntries) (List.Subset.refl _) ?_
  intro db' ok
  cases op with
  | createJournalEntry tenantId dto =>
      obtain ⟨e, -, -, rfl⟩ := createJournalEntry_ok ok
      exact List.subset_append_left _ _
  | invoicing op =>
      rcases invoicing_cases ok with same | ⟨e, -, added⟩
      · rw [same]
        exact List.Subset.refl _
      · rw [added]
        exact List.subset_append_left _ _

/-- After a run every entry of the journal balances exactly when the run has tried to enter only even
entries and such as are refused. -/
theorem journal_balanced_iff (customers : Table Customer.id) (ops : List Op) :
    AllBalanced (ops.foldl next (opening customers)) ↔
      ∀ tenantId dto, .createJournalEntry tenantId dto ∈ ops → dto.Refused ∨ dto.Even := by
  have general : ∀ db : Db, AllBalanced (ops.foldl next db) ↔ AllBalanced db ∧
      ∀ tenantId dto, .createJournalEntry tenantId dto ∈ ops → dto.Refused ∨ dto.Even := by
    induction ops with
    | nil => simp
    | cons op ops ih =>
        intro db
        rw [List.foldl_cons, ih]
        simp only [List.mem_cons]
        constructor
        · intro later
          obtain ⟨balanced, rest⟩ := later
          refine ⟨fun e mem => balanced e (next_subset db op mem), ?_⟩
          intro tenantId dto mem
          rcases mem with rfl | mem
          · by_cases refused : dto.Refused
            · exact .inl refused
            · have stores : ∃ db', createJournalEntry db tenantId dto = .ok db' :=
                createJournalEntry_stores.mpr refused
              obtain ⟨db', ok⟩ := stores
              have stored : next db (.createJournalEntry tenantId dto) = db' := by
                rw [next, perform, ok]
                rfl
              rw [stored] at balanced
              exact .inr ((createJournalEntry_balanced_iff ok).mp balanced).2
          · exact rest tenantId dto mem
        · intro met
          obtain ⟨balanced, met⟩ := met
          refine ⟨next_balanced (fun tenantId dto eq => ?_) balanced, fun tenantId dto mem => ?_⟩
          · exact met tenantId dto (.inl eq.symm)
          · exact met tenantId dto (.inr mem)
  rw [general (opening customers)]
  exact and_iff_right (by simp [AllBalanced, opening])

namespace Samples

def line (debit credit : Amount) : JournalLineDto where
  accountId := ""
  accountCode := "02.02.001"
  debit := some debit
  credit := some credit

def nothing : Amount := ⟨0, by decide +kernel, le_rfl⟩

def entry (debit credit : Amount) : CreateJournalEntryDto where
  reference := "PN-1"
  entryDate := 0
  description := "Giroconto"
  lines := [line debit nothing, line nothing credit]

theorem hundred_nonneg : (0 : ℚ) ≤ 100 := by norm_num

theorem double_hundred : (JsNumber.finite 100).double = .finite 100 := by decide +kernel

def hundred : Amount := ⟨100, double_hundred, hundred_nonneg⟩

def mill : Amount := .ofDecimal 0.004 (by norm_num) (by norm_num)

def rounded : CreateJournalEntryDto := entry (.ofDecimal 100.0005 (by norm_num) (by norm_num)) hundred

def mills : CreateJournalEntryDto := entry mill mill

end Samples

open Samples in
/-- Half a tenth of a cent apart; and equal, but not whole cents. -/
theorem journal_unbalanced :
    (∃ e, (next (opening ∅) (.createJournalEntry 1 rounded)).journalEntries = [e] ∧
      e.debits = 100.0005 ∧ e.credits = 100 ∧ e.totalDebit.val = 100 ∧ e.totalCredit.val = 100) ∧
    (∃ e, (next (opening ∅) (.createJournalEntry 1 mills)).journalEntries = [e] ∧
      e.debits = 0.004 ∧ e.credits = 0.004 ∧ e.totalDebit.val = 0 ∧ e.totalCredit.val = 0) ∧
    ¬ AllBalanced ([Op.createJournalEntry 1 rounded].foldl next (opening ∅)) := by
  have stored : (next (opening ∅) (.createJournalEntry 1 rounded)).journalEntries =
      [⟨1, "PN-1", 0, "generale", "Giroconto", rounded.lines.map (·.line), ⟨10000, by decide⟩,
        ⟨10000, by decide⟩, false⟩] := by decide +kernel
  refine ⟨⟨_, stored, by decide +kernel⟩, ⟨⟨1, "PN-1", 0, "generale", "Giroconto",
    mills.lines.map (·.line), ⟨0, by decide⟩, ⟨0, by decide⟩, false⟩, by decide +kernel⟩, ?_⟩
  intro balanced
  have even := (balanced _ (by rw [List.foldl_cons, List.foldl_nil, stored]; exact List.mem_singleton_self _)).lines
  exact absurd even (by decide +kernel)

end SmartErp.Accounting.Journal
