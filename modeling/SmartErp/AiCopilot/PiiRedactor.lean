import SmartErp.Foundations.Replacement

/-!
# The redactor of personal data

`pii-redactor.ts`. Half of a surrogate pair is in none of the classes, as the whole character is.
-/

namespace SmartErp.AiCopilot
open Foundations Foundations.Regex

/-! ## The patterns -/

def digit : Regex := chars Char.isDigit

def upper : Regex := chars Char.isUpper

/-- `IT\d{2}[A-Z]\d{22}` -/
def iban : Regex := (literal "IT").seq ((digit.times 2).seq (upper.seq (digit.times 22)))

/-- `[A-Z]{6}\d{2}[A-Z]\d{2}[A-Z]\d{3}[A-Z]` -/
def codiceFiscale : Regex :=
  (upper.times 6).seq ((digit.times 2).seq (upper.seq ((digit.times 2).seq (upper.seq ((digit.times 3).seq upper)))))

/-- `(?:IT)?\d{11}` -/
def partitaIva : Regex := (literal "IT").optional.seq (digit.times 11)

/-- `[A-Za-z0-9._%+-]` -/
def localPart (c : Char) : Bool := c.isAlphanum || c ∈ ['.', '_', '%', '+', '-']

/-- `[A-Za-z0-9.-]` -/
def domain (c : Char) : Bool := c.isAlphanum || c ∈ ['.', '-']

/-- `[A-Za-z0-9._%+-]+@[A-Za-z0-9.-]+\.[A-Za-z]{2,}` -/
def email : Regex :=
  (atLeast 1 localPart).seq ((literal "@").seq ((atLeast 1 domain).seq ((literal ".").seq (atLeast 2 Char.isAlpha))))

/-- `(?:\d[ -]*?){13,19}` -/
def card : Regex := (digit.seq (few fun c => c ∈ [' ', '-'])).between 13 19

/-- `[\s-]?` -/
def separator : Regex := (chars fun c => whitespace c || c = '-').optional

/-- `(?:\+39[\s-]?)?\d{2,4}[\s-]?\d{6,8}` -/
def phone : Regex :=
  ((literal "+39").seq separator).optional.seq ((digit.between 2 4).seq (separator.seq (digit.between 6 8)))

/-- `/\bregex\b/g` -/
def PATTERNS : List Rule := [
  ⟨iban, "[IBAN]".toList⟩,
  ⟨codiceFiscale, "[CF]".toList⟩,
  ⟨partitaIva, "[PIVA]".toList⟩,
  ⟨email, "[EMAIL]".toList⟩,
  ⟨card, "[CARD]".toList⟩,
  ⟨phone, "[PHONE]".toList⟩]

def redactPii (input : String) : String := String.ofList (rewrite PATTERNS input.toList)

example : redactPii "contatto: marco@acme.it pec@pec.it" = "contatto: [EMAIL] [EMAIL]" := by decide +kernel

example : redactPii "Tel 045 1234567" = "Tel [PHONE]" := by decide +kernel

/-! ## What the patterns take -/

/-- No pattern takes a bracket. -/
def unbracketed (c : Char) : Bool := c ≠ '[' && c ≠ ']'

/-- Every pattern takes one of these. -/
def telling (c : Char) : Bool := c.isDigit || c = '@'

theorem unbracketed_of {k : Char → Bool} (left : k '[' = false) (right : k ']' = false) :
    ∀ c, k c = true → unbracketed c = true := by
  intro c here
  simp only [unbracketed, Bool.and_eq_true, decide_eq_true_eq, ne_eq]
  constructor
  · rintro rfl
    rw [left] at here
    cases here
  · rintro rfl
    rw [right] at here
    cases here

theorem over_digit : Over unbracketed digit := over_chars (unbracketed_of rfl rfl)

theorem over_upper : Over unbracketed upper := over_chars (unbracketed_of rfl rfl)

theorem marked_digit : Marked telling digit := marked_chars fun c here => by simp [telling, here]

theorem sealed_placeholder (name : List Char) (untelling : name.all (fun c => !telling c) = true) :
    Sealed unbracketed telling ('[' :: (name ++ [']'])) where
  closed := by
    refine ⟨'[', name, ']', rfl, rfl, rfl, rfl, rfl, fun c mem => ?_⟩
    have apart := List.all_eq_true.mp untelling c mem
    rwa [Bool.not_eq_true'] at apart

theorem apt_iban : Rule.Apt unbracketed telling ⟨iban, "[IBAN]".toList⟩ where
  made := (over_literal (List.all_eq_true.mp (by decide))).seq
    ((over_digit.times 2).seq (over_upper.seq (over_digit.times 22)))
  marked := ((marked_digit.times 1).left).right
  shut := sealed_placeholder ['I', 'B', 'A', 'N'] rfl

theorem apt_codiceFiscale : Rule.Apt unbracketed telling ⟨codiceFiscale, "[CF]".toList⟩ where
  made := (over_upper.times 6).seq ((over_digit.times 2).seq (over_upper.seq ((over_digit.times 2).seq
    (over_upper.seq ((over_digit.times 3).seq over_upper)))))
  marked := ((marked_digit.times 1).left).right
  shut := sealed_placeholder ['C', 'F'] rfl

theorem apt_partitaIva : Rule.Apt unbracketed telling ⟨partitaIva, "[PIVA]".toList⟩ where
  made := (over_literal (List.all_eq_true.mp (by decide))).optional.seq (over_digit.times 11)
  marked := (marked_digit.times 10).right
  shut := sealed_placeholder ['P', 'I', 'V', 'A'] rfl

theorem over_atLeast (n : ℕ) {k : Char → Bool} (left : k '[' = false) (right : k ']' = false) :
    Over unbracketed (atLeast n k) :=
  ((over_chars (unbracketed_of left right)).times n).seq (over_many (unbracketed_of left right))

theorem apt_email : Rule.Apt unbracketed telling ⟨email, "[EMAIL]".toList⟩ where
  made := (over_atLeast 1 rfl rfl).seq ((over_literal (List.all_eq_true.mp (by decide))).seq
    ((over_atLeast 1 rfl rfl).seq ((over_literal (List.all_eq_true.mp (by decide))).seq (over_atLeast 2 rfl rfl))))
  marked := by
    have at_sign : Marked telling (literal "@") := by
      rintro u ⟨v, w, rfl, ⟨c, rfl, here⟩, -⟩
      obtain rfl := of_decide_eq_true here
      exact ⟨'@', List.mem_cons_self, rfl⟩
    exact at_sign.left.right
  shut := sealed_placeholder ['E', 'M', 'A', 'I', 'L'] rfl

theorem over_separator : Over unbracketed separator := (over_chars (unbracketed_of rfl rfl)).optional

theorem apt_card : Rule.Apt unbracketed telling ⟨card, "[CARD]".toList⟩ where
  made := (over_digit.seq (over_few (unbracketed_of rfl rfl))).between 13 19
  marked := (marked_digit.left.times 12).left
  shut := sealed_placeholder ['C', 'A', 'R', 'D'] rfl

theorem apt_phone : Rule.Apt unbracketed telling ⟨phone, "[PHONE]".toList⟩ where
  made := ((over_literal (List.all_eq_true.mp (by decide))).seq over_separator).optional.seq
    ((over_digit.between 2 4).seq (over_separator.seq (over_digit.between 6 8)))
  marked := ((marked_digit.times 1).left.left).right
  shut := sealed_placeholder ['P', 'H', 'O', 'N', 'E'] rfl

theorem apt_patterns : ∀ rule ∈ PATTERNS, rule.Apt unbracketed telling := by
  simp only [PATTERNS, List.forall_mem_cons]
  exact ⟨apt_iban, apt_codiceFiscale, apt_partitaIva, apt_email, apt_card, apt_phone, by simp⟩

/-! ## What is left -/

theorem toList_redactPii (s : String) : (redactPii s).toList = rewrite PATTERNS s.toList := String.toList_ofList

theorem redactPii_clean (s : String) : ∀ rule ∈ PATTERNS, ¬ Stands rule.regex (redactPii s).toList := by
  rw [toList_redactPii]
  exact rewrite_clean apt_patterns s.toList

theorem redactPii_redactPii (s : String) : redactPii (redactPii s) = redactPii s := by
  rw [redactPii, toList_redactPii, rewrite_rewrite apt_patterns]
  rfl

end SmartErp.AiCopilot
