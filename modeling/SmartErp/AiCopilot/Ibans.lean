import SmartErp.AiCopilot.PiiRedactor
import SmartErp.Treasury.Iban

/-!
# Account numbers in redacted texts

The treasury accepts letters in the account of an Italian IBAN, where the redactor looks for figures only.
-/

namespace SmartErp.AiCopilot
open Foundations Foundations.Regex Treasury

/-- A text with `w` as a word comes back without: nowhere as a word, and nowhere at all unless a longer word has it. -/
def Removed (w : String) : Prop :=
  ∀ a b : String, Separate a.toList b.toList →
    (∀ x y, (redactPii (a ++ w ++ b)).toList = x ++ (w.toList ++ y) → ¬ Separate x y) ∧
    (Alone w.toList (a ++ w ++ b).toList → ¬ w.toList <:+: (redactPii (a ++ w ++ b)).toList)

/-- A letter after the check digits, and figures from there on. -/
def Figures (w : String) : Prop := w.toList[4]?.any Char.isUpper = true ∧ (w.toList.drop 5).all Char.isDigit = true

section
variable {w : List Char}

theorem language_iban : iban.Language w ↔ ['I', 'T'] <+: w ∧ w.length = 27 ∧
    ((w.drop 2).take 2).all Char.isDigit = true ∧ w[4]?.any Char.isUpper = true ∧
    (w.drop 5).all Char.isDigit = true := by
  constructor
  · rintro ⟨it, rest, rfl, here, check, rest, rfl, two, letter, figures, rfl, ⟨c, rfl, upper⟩, many⟩
    rw [language_literal] at here
    subst here
    obtain ⟨length, digits⟩ := language_times.mp two
    obtain ⟨length', digits'⟩ := language_times.mp many
    obtain ⟨d, e, rfl⟩ := List.length_eq_two.mp length
    refine ⟨⟨_, rfl⟩, by simp [length'], ?_, ?_, ?_⟩
    · exact List.all_eq_true.mpr digits
    · exact upper
    · exact List.all_eq_true.mpr digits'
  · rintro ⟨⟨rest, rfl⟩, length, check, letter, figures⟩
    obtain ⟨d, rest, rfl⟩ := List.exists_cons_of_length_eq_add_one (n := 24) (by simpa using length)
    obtain ⟨e, rest, rfl⟩ := List.exists_cons_of_length_eq_add_one (n := 23) (by simpa using length)
    obtain ⟨c, rest, rfl⟩ := List.exists_cons_of_length_eq_add_one (n := 22) (by simpa using length)
    refine ⟨['I', 'T'], _, rfl, language_literal.mpr rfl, [d, e], _, rfl, ?_, [c], rest, rfl, ⟨c, rfl, letter⟩, ?_⟩
    · exact language_times.mpr ⟨rfl, List.all_eq_true.mp check⟩
    · exact language_times.mpr ⟨by simpa using length, List.all_eq_true.mp figures⟩

theorem language_of_stands {r : Regex} (word : ∀ c ∈ w, isWord c = true) (marked : r.Marked telling)
    (stands : Stands r w) : r.Language w := by
  obtain ⟨x, u, y, rfl, here, begins, ends⟩ := stands
  obtain ⟨c, mem, -⟩ := marked u here
  have nonempty := List.ne_nil_of_mem mem
  have first : x = [] := by
    by_contra before
    rw [last_of_ne_nil before, List.getLast?_eq_some_getLast before, List.head?_eq_some_head nonempty, boundary,
      Option.any_some, Option.any_some, word _ (by simp), word _ (by simp)] at begins
    cases begins
  have final : y = [] := by
    by_contra after
    rw [List.getLast?_eq_some_getLast nonempty, List.head?_eq_some_head after, boundary,
      Option.any_some, Option.any_some, word _ (by simp), word _ (by simp)] at ends
    cases ends
  rw [first, final, List.nil_append, List.append_nil]
  exact here

/-! ## A word of 27 letters and figures -/

theorem not_codiceFiscale (length : w.length = 27) : ¬ codiceFiscale.Language w := by
  rintro ⟨a, _, rfl, ha, b, _, rfl, hb, c, _, rfl, ⟨_, rfl, -⟩, d, _, rfl, hd, e, _, rfl, ⟨_, rfl, -⟩, f, _, rfl, hf, _,
    rfl, -⟩
  have la := (language_times.mp ha).1
  have lb := (language_times.mp hb).1
  have ld := (language_times.mp hd).1
  have lf := (language_times.mp hf).1
  simp [la, lb, ld, lf] at length

theorem not_partitaIva (length : w.length = 27) : ¬ partitaIva.Language w := by
  rintro ⟨a, b, rfl, ha, hb⟩
  have lb := (language_times.mp hb).1
  rw [List.length_append, lb] at length
  rcases ha with ha | rfl
  · rw [language_literal.mp ha] at length
    exact absurd length (by decide)
  · cases length

theorem not_email (word : ∀ c ∈ w, alphanumeric c = true) : ¬ email.Language w := by
  rintro ⟨_, _, rfl, -, v, _, rfl, at_sign, -⟩
  rw [language_literal] at at_sign
  have mem : '@' ∈ v := by
    rw [at_sign]
    exact List.mem_singleton_self '@'
  exact absurd (word '@' (by simp [mem])) (by decide)

theorem other_of {k : Char → Bool} (apart : k 'I' = false) : ∀ c, k c = true → (c != 'I') = true := by
  intro c here
  rw [bne_iff_ne]
  rintro rfl
  rw [apart] at here
  cases here

theorem not_card (mem : 'I' ∈ w) : ¬ card.Language w := by
  intro here
  have made : Over (· != 'I') card := ((over_chars (other_of rfl)).seq (over_few (other_of rfl))).between 13 19
  exact absurd (made w here 'I' mem) (by decide)

theorem not_phone (mem : 'I' ∈ w) : ¬ phone.Language w := by
  intro here
  have digits : Over (· != 'I') digit := over_chars (other_of rfl)
  have separated : Over (· != 'I') separator := (over_chars (other_of rfl)).optional
  have made : Over (· != 'I') phone := ((over_literal (List.all_eq_true.mp (by decide))).seq separated).optional.seq
    ((digits.between 2 4).seq (separated.seq (digits.between 6 8)))
  exact absurd (made w here 'I' mem) (by decide)

theorem isWord_alphanumeric {c : Char} (word : alphanumeric c = true) : isWord c = true := by
  rcases (Bool.or_eq_true _ _).mp word with upper | digit
  · have letter : c.isAlpha = true := (Bool.or_eq_true _ _).mpr (.inl upper)
    simp [isWord, Char.isAlphanum, letter]
  · simp [isWord, Char.isAlphanum, digit]

end

/-- Of the account numbers that the treasury takes for Italian, those with figures only are removed. -/
theorem italian_iban_removed_iff {w : String} (length : w.toList.length = 27)
    (word : ∀ c ∈ w.toList, alphanumeric c = true) (italian : ['I', 'T'] <+: w.toList)
    (accepted : validateIban w = true) : Removed w ↔ Figures w := by
  have shape := ((validateIban_iff word).mp accepted).1
  simp only [shaped, Bool.and_eq_true] at shape
  have check := shape.1.1.2
  have words : ∀ c ∈ w.toList, isWord c = true := fun c mem => isWord_alphanumeric (word c mem)
  have nonempty : w.toList ≠ [] := by
    intro none
    rw [none] at length
    cases length
  have language : iban.Language w.toList ↔ Figures w := by
    rw [language_iban]
    exact ⟨fun h => h.2.2.2, fun h => ⟨italian, length, check, h⟩⟩
  constructor
  · intro removed
    by_contra letters
    have first : 'I' ∈ w.toList := italian.subset List.mem_cons_self
    have clean : ∀ rule ∈ PATTERNS, ¬ Stands rule.regex w.toList := by
      intro rule mem stands
      have here := language_of_stands words (apt_patterns rule mem).marked stands
      simp only [PATTERNS, List.mem_cons, List.not_mem_nil, or_false] at mem
      rcases mem with rfl | rfl | rfl | rfl | rfl | rfl
      · exact letters (language.mp here)
      · exact not_codiceFiscale length here
      · exact not_partitaIva length here
      · exact not_email word here
      · exact not_card first here
      · exact not_phone first here
    have kept : (redactPii ("" ++ w ++ "")).toList = [] ++ (w.toList ++ []) := by
      simp [toList_redactPii, rewrite_of_clean apt_patterns clean]
    exact (removed "" "" ⟨rfl, rfl⟩).1 [] [] kept ⟨rfl, rfl⟩
  · intro figures a b separate
    have here := language.mpr figures
    have gone := redactPii_clean (a ++ w ++ b) ⟨iban, "[IBAN]".toList⟩ List.mem_cons_self
    have apt := apt_iban
    refine ⟨fun x y eq separate' => gone ?_, fun alone occurs => gone ?_⟩
    · rw [eq]
      exact separate'.stands here words nonempty
    · refine Alone.stands ?_ here words nonempty occurs
      rw [toList_redactPii]
      exact rewrite_alone apt_patterns (apt.made _ here) (apt.marked _ here) alone

theorem italian_iban_removed_figures : Removed "IT60X0542811101000000123456" :=
  (italian_iban_removed_iff (by decide) (List.all_eq_true.mp (by decide)) (by decide) (by decide +kernel)).mpr
    ⟨rfl, rfl⟩

/-- An account with letters in it. -/
theorem letters_not_redacted :
    validateIban "IT26X0542811101ABC000123456" = true ∧ Separate "Bonifico su ".toList " ricevuto".toList ∧
      "IT26X0542811101ABC000123456".toList <:+:
        (redactPii ("Bonifico su " ++ "IT26X0542811101ABC000123456" ++ " ricevuto")).toList := by
  have same : redactPii ("Bonifico su " ++ "IT26X0542811101ABC000123456" ++ " ricevuto") =
      "Bonifico su " ++ "IT26X0542811101ABC000123456" ++ " ricevuto" := by decide +kernel
  refine ⟨by decide +kernel, ⟨by decide, by decide⟩, "Bonifico su ".toList, " ricevuto".toList, ?_⟩
  rw [same, String.toList_append, String.toList_append]

end SmartErp.AiCopilot
