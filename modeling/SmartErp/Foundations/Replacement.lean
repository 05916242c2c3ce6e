import SmartErp.Foundations.Regex
import Mathlib.Data.List.Infix

/-!
# Global replacement between word boundaries

`s.replace(/\br\b/g, t)` for an expression that takes at least a character. The replacement begins and ends with
characters that no expression takes and that are none of words, so that a text of the outcome is one of the
original, between the same neighbours or with a boundary where it has one now.
-/

namespace Foundations
open Regex

/-- `\b` between two neighbours, of which there is none beyond an end of the text. -/
def boundary (before after : Option Char) : Bool := before.any isWord != after.any isWord

def last (before : Option Char) (u : List Char) : Option Char := u.getLast?.or before

def matchAt (r : Regex) (before : Option Char) (s : List Char) : Option (List Char) :=
  if boundary before s.head? then
    ((r.run s).find? fun m => boundary (last before m.1) m.2.head?).map (·.1)
  else none

/-- The first `skip` characters belong to the match before. -/
def replaceFrom (r : Regex) (t : List Char) : ℕ → Option Char → List Char → List Char
  | _, _, [] => []
  | skip + 1, _, c :: s => replaceFrom r t skip (some c) s
  | 0, before, c :: s =>
      match matchAt r before (c :: s) with
      | some u => t ++ replaceFrom r t (u.length - 1) (some c) s
      | none => c :: replaceFrom r t 0 (some c) s

structure Rule where
  regex : Regex
  replacement : List Char

def Rule.replaceAll (rule : Rule) (s : List Char) : List Char := replaceFrom rule.regex rule.replacement 0 none s

def Stands (r : Regex) (s : List Char) : Prop :=
  ∃ x u y, s = x ++ (u ++ y) ∧ r.Language u ∧ boundary (last none x) u.head? = true ∧
    boundary u.getLast? y.head? = true

section
variable {r : Regex} {t s u x y rest out : List Char} {before now : Option Char} {p q : Char → Bool}

@[simp] theorem last_nil : last before [] = before := rfl

@[simp] theorem last_cons (c : Char) : last before (c :: u) = last (some c) u := by
  unfold last
  cases u with
  | nil => rfl
  | cons d u => simp [List.getLast?_cons_cons, List.getLast?_eq_some_getLast (List.cons_ne_nil d u)]

@[simp] theorem last_append : last before (u ++ s) = last (last before u) s := by
  induction u generalizing before with
  | nil => rfl
  | cons c u ih => rw [List.cons_append, last_cons, last_cons, ih]

theorem last_of_ne_nil (nonempty : u ≠ []) : last before u = u.getLast? := by
  rw [last, List.getLast?_eq_some_getLast nonempty, Option.some_or]

theorem matchAt_eq_some (matched : matchAt r before s = some u) : ∃ rest, s = u ++ rest ∧ r.Language u ∧
    boundary before s.head? = true ∧ boundary (last before u) rest.head? = true := by
  unfold matchAt at matched
  split at matched
  · rename_i begins
    obtain ⟨m, found, rfl⟩ := Option.map_eq_some_iff.mp matched
    obtain ⟨same, here⟩ := mem_run.mp (List.mem_of_find?_eq_some found)
    have ends := List.find?_some found
    exact ⟨m.2, same, here, begins, ends⟩
  · cases matched

theorem matchAt_ne_none (here : r.Language u) (begins : boundary before (u ++ y).head? = true)
    (ends : boundary (last before u) y.head? = true) : matchAt r before (u ++ y) ≠ none := by
  intro none
  rw [matchAt, if_pos begins, Option.map_eq_none_iff, List.find?_eq_none] at none
  exact none (u, y) (mem_run.mpr ⟨rfl, here⟩) ends

/-! ## The scan -/

inductive Replaced (r : Regex) (t : List Char) : Option Char → List Char → List Char → Prop
  | nil (before : Option Char) : Replaced r t before [] []
  | hit {before : Option Char} {u rest out : List Char} (matched : matchAt r before (u ++ rest) = some u)
      (later : Replaced r t (last before u) rest out) : Replaced r t before (u ++ rest) (t ++ out)
  | keep {before : Option Char} {c : Char} {s out : List Char} (none : matchAt r before (c :: s) = none)
      (later : Replaced r t (some c) s out) : Replaced r t before (c :: s) (c :: out)

theorem replaceFrom_skip : replaceFrom r t u.length before (u ++ s) = replaceFrom r t 0 (last before u) s := by
  induction u generalizing before with
  | nil => rfl
  | cons c u ih => rw [List.length_cons, List.cons_append, replaceFrom, ih, last_cons]

theorem replaced (marked : r.Marked q) (before : Option Char) (s : List Char) :
    Replaced r t before s (replaceFrom r t 0 before s) := by
  induction length : s.length using Nat.strong_induction_on generalizing before s with
  | _ n ih =>
      subst length
      cases s with
      | nil => exact .nil before
      | cons c s =>
          cases matched : matchAt r before (c :: s) with
          | none =>
              have later := ih s.length (Nat.lt_succ_self _) (some c) s rfl
              simpa only [replaceFrom, matched] using Replaced.keep matched later
          | some u =>
              obtain ⟨rest, same, here, -, -⟩ := matchAt_eq_some matched
              obtain ⟨d, mem, -⟩ := marked u here
              cases u with
              | nil => cases mem
              | cons d u =>
                  rw [List.cons_append, List.cons.injEq] at same
                  obtain ⟨rfl, rfl⟩ := same
                  have shorter : rest.length < (c :: (u ++ rest)).length := by
                    simp only [List.length_cons, List.length_append]
                    omega
                  have later := ih rest.length shorter (last before (c :: u)) rest rfl
                  have out : replaceFrom r t 0 before (c :: (u ++ rest)) =
                      t ++ replaceFrom r t 0 (last before (c :: u)) rest := by
                    simp only [replaceFrom, matched, List.length_cons, Nat.add_sub_cancel, replaceFrom_skip, last_cons]
                  rw [out]
                  exact Replaced.hit matched later

/-! ## Where a text of the outcome comes from -/

def Edge (now before inner : Option Char) : Prop :=
  now = before ∨ now.any isWord = false ∧ boundary before inner = true

theorem boundary_comm (a b : Option Char) : boundary a b = boundary b a := bne_comm

theorem Edge.boundary {inner : Option Char} (edge : Edge now before inner) (here : boundary now inner = true) :
    Foundations.boundary before inner = true := by
  rcases edge with rfl | ⟨-, there⟩
  · exact here
  · exact there

/-- A replacement with ends that no expression takes, and between them none of the characters that each must have. -/
structure Sealed (p q : Char → Bool) (t : List Char) : Prop where
  closed : ∃ o w e, t = o :: (w ++ [e]) ∧ p o = false ∧ p e = false ∧ isWord o = false ∧ isWord e = false ∧
    ∀ c ∈ w, q c = false

theorem Sealed.append_eq (shut : Sealed p q t) (made : ∀ c ∈ u, p c = true) (marked : ∃ c ∈ u, q c = true)
    (eq : t ++ out = x ++ (u ++ y)) : ∃ x', x = t ++ x' ∧ out = x' ++ (u ++ y) := by
  obtain ⟨o, w, e, rfl, po, pe, -, -, unmarked⟩ := shut.closed
  obtain ⟨c, mem, mark⟩ := marked
  rcases List.append_eq_append_iff.mp eq with ⟨a, rfl, rfl⟩ | ⟨a, whole, rest⟩
  · exact ⟨a, rfl, rfl⟩
  · rcases List.eq_nil_or_concat a with rfl | ⟨a, d, rfl⟩
    · refine ⟨[], ?_, ?_⟩
      · simpa using whole.symm
      · simpa using rest.symm
    · exfalso
      rw [List.concat_eq_append] at whole rest
      rw [← List.append_assoc, ← List.cons_append] at whole
      obtain ⟨front, lasts⟩ := List.append_inj' whole rfl
      obtain rfl : e = d := by simpa using lasts
      -- the text would have to lie within the replacement or to take its end
      rcases List.append_eq_append_iff.mp rest with ⟨b, within, -⟩ | ⟨b, beyond, -⟩
      · have inside : c ∈ o :: (w ++ [e]) := by
          rw [← List.cons_append, front, List.append_assoc, within]
          simp [mem]
        rw [List.mem_cons, List.mem_append, List.mem_singleton] at inside
        rcases inside with rfl | middle | rfl
        · exact absurd (made c mem) (by simp [po])
        · exact absurd mark (by simp [unmarked c middle])
        · exact absurd (made c mem) (by simp [pe])
      · have taken : e ∈ u := by
          rw [beyond]
          simp
        exact absurd (made e taken) (by simp [pe])

theorem Replaced.kept (done : Replaced r t before s out) (shut : Sealed p q t) (made : ∀ c ∈ u, p c = true)
    (eq : out = u ++ y) : ∃ y', s = u ++ y' ∧ Edge y.head? y'.head? (last before u) := by
  induction done generalizing u with
  | nil before =>
      obtain ⟨rfl, rfl⟩ := List.append_eq_nil_iff.mp eq.symm
      exact ⟨[], rfl, .inl rfl⟩
  | @hit before v rest out matched later =>
      obtain ⟨o, w, e, rfl, po, -, apart, -, -⟩ := shut.closed
      obtain ⟨_, -, -, begins, -⟩ := matchAt_eq_some matched
      cases u with
      | nil =>
          refine ⟨v ++ rest, rfl, .inr ⟨?_, ?_⟩⟩
          · rw [List.nil_append] at eq
            simp [← eq, apart]
          · rwa [last_nil, boundary_comm]
      | cons c u =>
          obtain rfl := (List.cons.inj eq).1
          exact absurd (made o List.mem_cons_self) (by simp [po])
  | @keep before c s out none later ih =>
      cases u with
      | nil => exact ⟨c :: s, rfl, .inl (by rw [List.nil_append] at eq; rw [← eq]; rfl)⟩
      | cons d u =>
          obtain ⟨rfl, rest⟩ := List.cons.inj eq
          rw [List.forall_mem_cons] at made
          obtain ⟨y', rfl, edge⟩ := ih made.2 rest
          exact ⟨y', rfl, by rwa [last_cons]⟩

theorem Replaced.occurs (done : Replaced r t before s out) (shut : Sealed p q t) (made : ∀ c ∈ u, p c = true)
    (marked : ∃ c ∈ u, q c = true) (edge : Edge now before s.head?) (eq : out = x ++ (u ++ y)) :
    ∃ x' y', s = x' ++ (u ++ y') ∧ Edge (last now x) (last before x') u.head? ∧ Edge y.head? y'.head? u.getLast? ∧
      matchAt r (last before x') (u ++ y') = none := by
  have nonempty : u ≠ [] := by
    rintro rfl
    obtain ⟨c, mem, -⟩ := marked
    cases mem
  induction done generalizing x now with
  | nil before =>
      have whole := (List.append_eq_nil_iff.mp eq.symm).2
      exact absurd (List.append_eq_nil_iff.mp whole).1 nonempty
  | @hit before v rest out matched later ih =>
      obtain ⟨_, same, -, -, ends⟩ := matchAt_eq_some matched
      obtain rfl := List.append_cancel_left same
      obtain ⟨x', rfl, later⟩ := shut.append_eq made marked eq
      obtain ⟨o, w, e, whole, -, -, -, apart, -⟩ := shut.closed
      have ended : last now t = some e := by
        rw [whole, last_cons, last_append]
        rfl
      have edge' : Edge (last now t) (last before v) rest.head? := .inr ⟨by simp [ended, apart], ends⟩
      obtain ⟨x'', y', rfl, left, right, none⟩ := ih edge' later
      refine ⟨v ++ x'', y', (List.append_assoc v x'' _).symm, ?_, right, ?_⟩
      · rwa [last_append, last_append]
      · rwa [last_append]
  | @keep before c s out none later ih =>
      cases x with
      | nil =>
          obtain ⟨d, u, rfl⟩ := List.exists_cons_of_ne_nil nonempty
          obtain ⟨rfl, rest⟩ := List.cons.inj eq
          rw [List.forall_mem_cons] at made
          obtain ⟨y', rfl, right⟩ := later.kept shut made.2 rest
          refine ⟨[], y', rfl, edge, ?_, none⟩
          have ends : last before (c :: u) = (c :: u).getLast? := last_of_ne_nil nonempty
          rwa [← ends, last_cons]
      | cons d x =>
          obtain ⟨rfl, rest⟩ := List.cons.inj eq
          obtain ⟨x', y', rfl, left, right, none⟩ := ih (.inl rfl) rest
          exact ⟨c :: x', y', rfl, by rwa [last_cons, last_cons], right, by rwa [last_cons]⟩

end

/-! ## Rules one after the other -/

def rewrite (rules : List Rule) (s : List Char) : List Char := rules.foldl (fun s rule => rule.replaceAll s) s

structure Rule.Apt (p q : Char → Bool) (rule : Rule) : Prop where
  made : rule.regex.Over p
  marked : rule.regex.Marked q
  shut : Sealed p q rule.replacement

def Separate (x y : List Char) : Prop := (last none x).any isWord = false ∧ y.head?.any isWord = false

/-- Wherever `w` occurs, it is a word of its own. -/
def Alone (w s : List Char) : Prop := ∀ x y, s = x ++ (w ++ y) → Separate x y

section
variable {p q : Char → Bool} {rule other : Rule} {rules : List Rule} {s u w x y : List Char}

theorem Rule.Apt.occurs (apt : rule.Apt p q) (made : ∀ c ∈ u, p c = true) (marked : ∃ c ∈ u, q c = true)
    (eq : rule.replaceAll s = x ++ (u ++ y)) :
    ∃ x' y', s = x' ++ (u ++ y') ∧ Edge (last none x) (last none x') u.head? ∧ Edge y.head? y'.head? u.getLast? ∧
      matchAt rule.regex (last none x') (u ++ y') = none :=
  (replaced apt.marked none s).occurs apt.shut made marked (.inl rfl) eq

theorem head?_append_of_mem {c : Char} (mem : c ∈ u) : (u ++ y).head? = u.head? := by
  cases u with
  | nil => cases mem
  | cons => rfl

theorem Rule.Apt.stood (apt : rule.Apt p q) (apt' : other.Apt p q) (stands : Stands other.regex (rule.replaceAll s)) :
    Stands other.regex s ∧ other.regex ≠ rule.regex := by
  obtain ⟨x, u, y, eq, here, begins, ends⟩ := stands
  have marked := apt'.marked u here
  obtain ⟨x', y', rfl, left, right, none⟩ := apt.occurs (apt'.made u here) marked eq
  have begins' := left.boundary begins
  have ends' : boundary u.getLast? y'.head? = true := by
    rw [boundary_comm] at ends ⊢
    exact right.boundary ends
  refine ⟨⟨x', u, y', rfl, here, begins', ends'⟩, fun same => ?_⟩
  obtain ⟨c, mem, -⟩ := marked
  refine matchAt_ne_none (same ▸ here) ?_ ?_ none
  · rwa [head?_append_of_mem mem]
  · rwa [last_of_ne_nil (List.ne_nil_of_mem mem)]

theorem rewrite_stood (apt : ∀ rule ∈ rules, rule.Apt p q) (apt' : other.Apt p q)
    (stands : Stands other.regex (rewrite rules s)) : Stands other.regex s := by
  induction rules generalizing s with
  | nil => exact stands
  | cons rule rules ih =>
      rw [List.forall_mem_cons] at apt
      exact (apt.1.stood apt' (ih apt.2 stands)).1

/-- In whatever order the rules come. -/
theorem rewrite_clean (apt : ∀ rule ∈ rules, rule.Apt p q) (s : List Char) :
    ∀ rule ∈ rules, ¬ Stands rule.regex (rewrite rules s) := by
  induction rules generalizing s with
  | nil => simp
  | cons rule rules ih =>
      rw [List.forall_mem_cons] at apt ⊢
      refine ⟨fun stands => ?_, ih apt.2 (rule.replaceAll s)⟩
      exact (apt.1.stood apt.1 (rewrite_stood apt.2 apt.1 stands)).2 rfl

theorem Rule.replaceAll_of_clean (marked : rule.regex.Marked q) (clean : ¬ Stands rule.regex s) :
    rule.replaceAll s = s := by
  have general : ∀ x y, s = x ++ y → replaceFrom rule.regex rule.replacement 0 (last none x) y = y := by
    intro x y whole
    induction y generalizing x with
    | nil => rfl
    | cons c y ih =>
        cases matched : matchAt rule.regex (last none x) (c :: y) with
        | none =>
            have later := ih (x ++ [c]) (by simp [whole])
            rw [last_append, last_cons, last_nil] at later
            simp only [replaceFrom, matched, later]
        | some u =>
            obtain ⟨rest, same, here, begins, ends⟩ := matchAt_eq_some matched
            obtain ⟨d, mem, -⟩ := marked u here
            rw [same, head?_append_of_mem mem] at begins
            rw [last_of_ne_nil (List.ne_nil_of_mem mem)] at ends
            exact absurd ⟨x, u, rest, by rw [whole, same], here, begins, ends⟩ clean
  exact general [] s rfl

theorem rewrite_of_clean (apt : ∀ rule ∈ rules, rule.Apt p q) (clean : ∀ rule ∈ rules, ¬ Stands rule.regex s) :
    rewrite rules s = s := by
  induction rules with
  | nil => rfl
  | cons rule rules ih =>
      rw [List.forall_mem_cons] at apt clean
      rw [rewrite, List.foldl_cons, Rule.replaceAll_of_clean apt.1.marked clean.1]
      exact ih apt.2 clean.2

theorem rewrite_rewrite (apt : ∀ rule ∈ rules, rule.Apt p q) (s : List Char) :
    rewrite rules (rewrite rules s) = rewrite rules s :=
  rewrite_of_clean apt (rewrite_clean apt s)

theorem Rule.Apt.alone (apt : rule.Apt p q) (made : ∀ c ∈ w, p c = true) (marked : ∃ c ∈ w, q c = true)
    (alone : Alone w s) : Alone w (rule.replaceAll s) := by
  intro x y eq
  obtain ⟨x', y', whole, left, right, -⟩ := apt.occurs made marked eq
  obtain ⟨before, after⟩ := alone x' y' whole
  have apart {now old inner : Option Char} (edge : Edge now old inner) (apart : old.any isWord = false) :
      now.any isWord = false := by
    rcases edge with rfl | ⟨now, -⟩
    · exact apart
    · exact now
  exact ⟨apart left before, apart right after⟩

theorem rewrite_alone (apt : ∀ rule ∈ rules, rule.Apt p q) (made : ∀ c ∈ w, p c = true) (marked : ∃ c ∈ w, q c = true)
    (alone : Alone w s) : Alone w (rewrite rules s) := by
  induction rules generalizing s with
  | nil => exact alone
  | cons rule rules ih =>
      rw [List.forall_mem_cons] at apt
      exact ih apt.2 (apt.1.alone made marked alone)

theorem Separate.stands {r : Regex} (separate : Separate x y) (here : r.Language w)
    (word : ∀ c ∈ w, isWord c = true) (nonempty : w ≠ []) : Stands r (x ++ (w ++ y)) := by
  refine ⟨x, w, y, rfl, here, ?_, ?_⟩
  · rw [boundary, separate.1, List.head?_eq_some_head nonempty, Option.any_some, word _ (List.head_mem nonempty)]
    rfl
  · rw [boundary, separate.2, List.getLast?_eq_some_getLast nonempty, Option.any_some,
      word _ (List.getLast_mem nonempty)]
    rfl

theorem Alone.stands {r : Regex} (alone : Alone w s) (here : r.Language w) (word : ∀ c ∈ w, isWord c = true)
    (nonempty : w ≠ []) (occurs : w <:+: s) : Stands r s := by
  obtain ⟨x, y, eq⟩ := occurs
  rw [List.append_assoc] at eq
  exact eq ▸ (alone x y eq.symm).stands here word nonempty

end
end Foundations
