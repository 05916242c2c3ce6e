import SmartErp.Accounting.FatturaPa

/-!
# The rate of a tax block

The blocks are grouped by rate and natura, but the rate that is printed for one is searched again among all
lines: it is that of the first line of the natura whose total is within 1000 of the block's.
-/

namespace SmartErp.Accounting.FatturaPaAdapter
open Foundations

section
variable {lines : List InvoiceLine} {k : ℚ × String} {item : RiepilogoItem}

def sharing (lines : List InvoiceLine) (k : ℚ × String) : List InvoiceLine := lines.filter (riepilogoKey · = k)

def imponibile (lines : List InvoiceLine) (sum : JsNumber) : JsNumber :=
  lines.foldl (fun sum l => sum.plus (.finite l.lineTotal)) sum

def imposta (lines : List InvoiceLine) (sum : JsNumber) : JsNumber :=
  lines.foldl (fun sum l => if l.taxed then
    sum.plus (((JsNumber.finite l.lineTotal).times (.finite l.ivaRate)).dividedBy (.finite 100)) else sum) sum

theorem foldl_addLine (ls : List InvoiceLine) (item : RiepilogoItem) :
    ls.foldl (fun item l => some (addLine item l)) (some item) =
      some ⟨imponibile ls item.imponibile, imposta ls item.imposta, item.natura⟩ := by
  induction ls generalizing item with
  | nil => rfl
  | cons l ls ih =>
      rw [List.foldl_cons, ih]
      rfl

structure Block (lines : List InvoiceLine) (k : ℚ × String) (item : RiepilogoItem) : Prop where
  some : sharing lines k ≠ []
  imponibile : item.imponibile = imponibile (sharing lines k) (.finite 0)
  imposta : item.imposta = imposta (sharing lines k) (.finite 0)
  natura : item.natura.getD "" = k.2

theorem mem_riepilogo : (k, item) ∈ riepilogo lines ↔
    (sharing lines k).foldl (fun item l => some (addLine item l)) none = some item := by
  rw [riepilogo, mem_iff_entryOf (nodup_group riepilogoKey addLine lines), entryOf_group]
  rfl

theorem block_of_mem (mem : (k, item) ∈ riepilogo lines) : Block lines k item := by
  rw [mem_riepilogo] at mem
  cases shared : sharing lines k with
  | nil =>
      rw [shared] at mem
      cases mem
  | cons l ls =>
      have here : riepilogoKey l = k := by
        have member : l ∈ sharing lines k := by rw [shared]; exact List.mem_cons_self
        exact of_decide_eq_true (List.mem_filter.mp member).2
      rw [shared, List.foldl_cons, foldl_addLine, Option.some_inj] at mem
      subst mem
      refine ⟨by rw [shared]; exact List.cons_ne_nil l ls, ?_, ?_, ?_⟩
      · rw [shared]; rfl
      · rw [shared]; rfl
      · rw [← here]; rfl

theorem exists_block {l : InvoiceLine} (mem : l ∈ lines) : ∃ item, (riepilogoKey l, item) ∈ riepilogo lines := by
  have member : l ∈ sharing lines (riepilogoKey l) := List.mem_filter.mpr ⟨mem, decide_eq_true rfl⟩
  simp only [mem_riepilogo]
  cases shared : sharing lines (riepilogoKey l) with
  | nil =>
      rw [shared] at member
      cases member
  | cons l ls =>
      rw [List.foldl_cons, foldl_addLine]
      exact ⟨_, rfl⟩

theorem Block.exists_line (block : Block lines k item) : ∃ l ∈ lines, riepilogoKey l = k := by
  obtain ⟨l, mem⟩ := List.exists_mem_of_ne_nil _ block.some
  obtain ⟨mem, here⟩ := List.mem_filter.mp mem
  exact ⟨l, mem, of_decide_eq_true here⟩

/-! ## When it is the block's own -/

def DatiRiepilogo.key (dati : DatiRiepilogo) : String × Option String := (dati.aliquotaIVA, dati.natura)

structure OwnRates (lines : List InvoiceLine) : Prop where
  own : ∀ k item, (k, item) ∈ riepilogo lines →
    Block lines k item ∧ (datiRiepilogo lines item).aliquotaIVA = money (.finite k.1)
  distinct : ((riepilogo lines).map fun block => (datiRiepilogo lines block.2).key).Nodup
  covered : ∀ l ∈ lines, ((riepilogo lines).filter fun block =>
    (datiRiepilogo lines block.2).key = (money (.finite l.ivaRate), truthy l.ivaNature)).length = 1

/-- The first line of the natura whose total is within 1000 of that of the lines with the rate and natura of `l`
has the rate of `l`. -/
def FirstNear (lines : List InvoiceLine) (l : InvoiceLine) : Prop :=
  match lines.find? fun x => near x (imponibile (sharing lines (riepilogoKey l)) (.finite 0)) ∧
      x.ivaNature.getD "" = l.ivaNature.getD "" with
  | some x => x.ivaRate = l.ivaRate
  | none => money (.finite l.ivaRate) = "0.00"

def TwoDecimals (lines : List InvoiceLine) : Prop :=
  ∀ l ∈ lines, ∀ l' ∈ lines, l.ivaNature.getD "" = l'.ivaNature.getD "" →
    money (.finite l.ivaRate) = money (.finite l'.ivaRate) → l.ivaRate = l'.ivaRate

theorem truthy_getD (natura : Option String) : truthy (some (natura.getD "")) = truthy natura := by
  cases natura with
  | none => rfl
  | some text => rfl

theorem truthy_inj {natura natura' : Option String} (same : truthy natura = truthy natura') :
    natura.getD "" = natura'.getD "" := by
  have getD (natura : Option String) : (truthy natura).getD "" = natura.getD "" := by
    cases natura with
    | none => rfl
    | some text =>
        by_cases empty : text = ""
        · subst empty
          rfl
        · simp [truthy, Option.filter, empty]
  rw [← getD natura, ← getD natura', same]

theorem Block.rate_iff (block : Block lines k item) (apart : TwoDecimals lines) {l : InvoiceLine} (mem : l ∈ lines)
    (here : riepilogoKey l = k) :
    (datiRiepilogo lines item).aliquotaIVA = money (.finite k.1) ↔ FirstNear lines l := by
  have natura : item.natura.getD "" = l.ivaNature.getD "" := by
    rw [block.natura, ← here]
    rfl
  have rate : k.1 = l.ivaRate := by
    rw [← here]
    rfl
  rw [datiRiepilogo, extractRate, FirstNear, here, ← block.imponibile, natura, rate]
  cases found : lines.find? fun x => near x item.imponibile ∧ x.ivaNature.getD "" = l.ivaNature.getD "" with
  | none =>
      have zero : money (.finite 0) = "0.00" := by decide +kernel
      change money (.finite 0) = _ ↔ _ = _
      rw [zero, eq_comm]
  | some x =>
      have mem' := List.mem_of_find?_eq_some found
      have accepted := List.find?_some found
      rw [decide_eq_true_eq] at accepted
      exact ⟨fun same => apart x mem' l mem accepted.2 same, fun same => congrArg (fun q => money (.finite q)) same⟩

theorem key_eq (own : ∀ k item, (k, item) ∈ riepilogo lines →
      Block lines k item ∧ (datiRiepilogo lines item).aliquotaIVA = money (.finite k.1))
    (mem : (k, item) ∈ riepilogo lines) {l : InvoiceLine} (here : riepilogoKey l = k) :
    (datiRiepilogo lines item).key = (money (.finite l.ivaRate), truthy l.ivaNature) := by
  obtain ⟨block, rate⟩ := own k item mem
  have same : k.1 = l.ivaRate := by
    rw [← here]
    rfl
  have natura : item.natura.getD "" = l.ivaNature.getD "" := by
    rw [block.natura, ← here]
    rfl
  have written : (datiRiepilogo lines item).natura = truthy l.ivaNature := by
    rw [datiRiepilogo, ← truthy_getD item.natura, natura, truthy_getD]
  rw [DatiRiepilogo.key, rate, written, same]

/-- Every block carries the rate of its own lines, and each rate and natura has one block, if and only if the first
line near each block's sum is of its rate and two decimals tell the rates apart. -/
theorem own_rates_iff (lines : List InvoiceLine) :
    OwnRates lines ↔ (∀ l ∈ lines, FirstNear lines l) ∧ TwoDecimals lines := by
  constructor
  · intro rates
    have apart : TwoDecimals lines := by
      intro l mem l' mem' natura same
      obtain ⟨item, block⟩ := exists_block mem
      obtain ⟨item', block'⟩ := exists_block mem'
      have keys : (datiRiepilogo lines item).key = (datiRiepilogo lines item').key := by
        rw [key_eq rates.own block rfl, key_eq rates.own block' rfl, same, ← truthy_getD l.ivaNature, natura,
          truthy_getD]
      have one := List.inj_on_of_nodup_map rates.distinct block block' keys
      exact congrArg (fun entry => entry.1.1) one
    refine ⟨fun l mem => ?_, apart⟩
    obtain ⟨item, mem'⟩ := exists_block mem
    obtain ⟨block, rate⟩ := rates.own _ item mem'
    exact (block.rate_iff apart mem rfl).mp rate
  · rintro ⟨first, apart⟩
    have own : ∀ k item, (k, item) ∈ riepilogo lines →
        Block lines k item ∧ (datiRiepilogo lines item).aliquotaIVA = money (.finite k.1) := by
      intro k item mem
      have block := block_of_mem mem
      obtain ⟨l, mem', here⟩ := block.exists_line
      exact ⟨block, (block.rate_iff apart mem' here).mpr (first l mem')⟩
    have nodup : (riepilogo lines).Nodup := (nodup_group riepilogoKey addLine lines).of_map _
    -- Blocks that are written alike are of the same rate and natura.
    have alike : ∀ entry ∈ riepilogo lines, ∀ entry' ∈ riepilogo lines,
        (datiRiepilogo lines entry.2).key = (datiRiepilogo lines entry'.2).key → entry = entry' := by
      rintro ⟨k, item⟩ mem ⟨k', item'⟩ mem' keys
      obtain ⟨l, line, rfl⟩ := (own k item mem).1.exists_line
      obtain ⟨l', line', rfl⟩ := (own k' item' mem').1.exists_line
      rw [key_eq own mem rfl, key_eq own mem' rfl, Prod.mk.injEq] at keys
      have natura := truthy_inj keys.2
      have rate := apart l line l' line' natura keys.1
      exact List.inj_on_of_nodup_map (nodup_group riepilogoKey addLine lines) mem mem' (Prod.ext rate natura)
    refine ⟨own, List.Nodup.map_on alike nodup, fun l mem => ?_⟩
    obtain ⟨item, block⟩ := exists_block mem
    have only : ∀ entry ∈ riepilogo lines, (datiRiepilogo lines entry.2).key =
        (money (.finite l.ivaRate), truthy l.ivaNature) ↔ entry = (riepilogoKey l, item) := by
      intro entry mem'
      rw [← key_eq own block rfl]
      exact ⟨fun keys => alike entry mem' _ block keys, fun same => by rw [same]⟩
    have count : (riepilogo lines).count (riepilogoKey l, item) = 1 := List.count_eq_one_of_mem nodup block
    rw [← List.countP_eq_length_filter, ← count, List.count]
    refine List.countP_congr fun entry mem' => ?_
    rw [decide_eq_true_eq, beq_iff_eq]
    exact only entry mem'

end

def lineOf (price ivaRate : ℚ) : InvoiceLine := ⟨"", 1, price, ivaRate, none, price⟩

/-- The first line is near both sums, so both blocks get its rate. -/
theorem foreign_rate : ¬∀ lines, OwnRates lines := by
  intro rates
  have distinct := (rates [lineOf 100 22, lineOf 150 10]).distinct
  revert distinct
  decide +kernel

end SmartErp.Accounting.FatturaPaAdapter
