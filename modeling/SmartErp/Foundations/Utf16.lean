import Mathlib.Data.List.Sort
import Mathlib.Data.String.Basic

/-!
# The order of texts by their UTF-16 units
-/

namespace Foundations.Utf16

def units (c : Char) : List ℕ :=
  if c.toNat < 0x10000 then [c.toNat] else [0xD800 + (c.toNat - 0x10000) / 0x400, 0xDC00 + (c.toNat - 0x10000) % 0x400]

def encode (cs : List Char) : List ℕ := cs.flatMap units

def Precedes (s t : String) : Prop := List.Lex (· < ·) (encode s.toList) (encode t.toList)

instance : DecidableRel Precedes := fun _ _ => List.decidableLex _ _ _

/-- `Array.prototype.sort` without a comparison -/
def sort (texts : List String) : List String := texts.insertionSort fun s t => ¬Precedes t s

theorem units_append_cancel {c d : Char} {us vs : List ℕ} (same : units c ++ us = units d ++ vs) : c = d ∧ us = vs := by
  have left : c.toNat < 0xD800 ∨ 0xDFFF < c.toNat ∧ c.toNat < 0x110000 := c.valid
  have right : d.toNat < 0xD800 ∨ 0xDFFF < d.toNat ∧ d.toNat < 0x110000 := d.valid
  unfold units at same
  by_cases single : c.toNat < 0x10000 <;> by_cases single' : d.toNat < 0x10000 <;>
    simp only [if_pos, if_neg, single, single', not_false_eq_true, List.cons_append, List.nil_append,
      List.cons.injEq] at same
  · exact ⟨Char.toNat_inj.mp same.1, same.2⟩
  · omega
  · omega
  · obtain ⟨high, low, rest⟩ := same
    exact ⟨Char.toNat_inj.mp (by omega), rest⟩

theorem encode_injective : Function.Injective encode := by
  have nonempty : ∀ c, units c ≠ [] := by
    intro c
    unfold units
    split_ifs <;> exact List.cons_ne_nil _ _
  intro cs
  induction cs with
  | nil =>
      intro ds same
      cases ds with
      | nil => rfl
      | cons d ds => exact absurd (List.append_eq_nil_iff.mp same.symm).1 (nonempty d)
  | cons c cs ih =>
      intro ds same
      cases ds with
      | nil => exact absurd (List.append_eq_nil_iff.mp same).1 (nonempty c)
      | cons d ds =>
          obtain ⟨rfl, rest⟩ := units_append_cancel same
          rw [ih rest]

section
variable {s t u : String}

theorem Precedes.ne (precedes : Precedes s t) : s ≠ t := by
  rintro rfl
  exact List.lex_irrefl (fun n : ℕ => Nat.lt_irrefl n) _ precedes

theorem Precedes.trans (one : Precedes s t) (two : Precedes t u) : Precedes s u :=
  List.lex_trans (fun less more => Nat.lt_trans less more) one two

theorem Precedes.asymm (one : Precedes s t) : ¬Precedes t s := fun two => (one.trans two).ne rfl

theorem eq_of_not_precedes (one : ¬Precedes s t) (two : ¬Precedes t s) : s = t := by
  have not_or (m n : ℕ) (less : ¬m < n) (more : ¬n < m) : m = n := by omega
  exact String.toList_injective (encode_injective (List.lex_trichotomous not_or two one))

instance : Std.Total fun s t => ¬Precedes t s := ⟨fun s t => by
  by_cases one : Precedes t s
  · exact .inr one.asymm
  · exact .inl one⟩

instance : IsTrans String fun s t => ¬Precedes t s := ⟨fun s t u one two three => by
  by_cases between : Precedes s t
  · exact two (three.trans between)
  · exact two (eq_of_not_precedes between one ▸ three)⟩

theorem mem_sort {texts : List String} : s ∈ sort texts ↔ s ∈ texts := List.mem_insertionSort _

theorem sort_pairwise {texts : List String} (apart : texts.Nodup) : (sort texts).Pairwise Precedes := by
  have sorted : (sort texts).Pairwise fun s t => ¬Precedes t s := List.pairwise_insertionSort _ texts
  have apart' : (sort texts).Nodup := (List.perm_insertionSort _ texts).nodup_iff.mpr apart
  refine (sorted.and apart').imp fun {s t} both => ?_
  by_contra before
  exact both.2 (eq_of_not_precedes before both.1)

theorem eq_of_pairwise {ts us : List String} (one : ts.Pairwise Precedes) (two : us.Pairwise Precedes)
    (same : ∀ s, s ∈ ts ↔ s ∈ us) : ts = us := by
  have perm : ts.Perm us := (List.perm_ext_iff_of_nodup (one.imp Precedes.ne) (two.imp Precedes.ne)).mpr same
  exact perm.eq_of_pairwise (fun s t _ _ before after => absurd after before.asymm) one two

end
end Foundations.Utf16
