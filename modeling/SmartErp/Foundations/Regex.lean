import SmartErp.Foundations.Pattern
import SmartErp.Foundations.Trim

/-!
# Regular expressions between word boundaries

Expressions over classes of characters with the quantifiers of ECMAScript, the texts they describe, and
`replace` with the global flag for expressions that stand between two `\b`. Each replacement begins and ends
with a character that no expression has, so that a text which the outcome has from the original stands there
between the same neighbours, or between better ones.
-/

namespace Foundations

/-- `\w` -/
def isWord (c : Char) : Bool := c.isAlphanum || c = '_'

inductive Regex where
  | empty
  | chars (p : Char → Bool)
  | seq (a b : Regex)
  | optional (a : Regex)
  /-- `[p]*` -/
  | many (p : Char → Bool)
  /-- `[p]*?` -/
  | few (p : Char → Bool)

namespace Regex

def literal (t : String) : Regex := t.toList.foldr (fun c r => seq (chars (· = c)) r) empty

/-- `a{n}` -/
def times : ℕ → Regex → Regex
  | 0, _ => empty
  | n + 1, a => seq a (times n a)

/-- `(?:a){0,n}` -/
def upTo : ℕ → Regex → Regex
  | 0, _ => empty
  | n + 1, a => optional (seq a (upTo n a))

/-- `(?:a){m,n}` -/
def between (m n : ℕ) (a : Regex) : Regex := seq (times m a) (upTo (n - m) a)

/-- `[p]{n,}` -/
def atLeast (n : ℕ) (p : Char → Bool) : Regex := seq (times n (chars p)) (many p)

/-- What it takes, in the order in which a backtracking matcher tries it. -/
def run : Regex → Pattern (List Char)
  | empty => pure []
  | chars p => fun s => (s.head?.filter p).toList.map fun c => ([c], s.tail)
  | seq a b => do
      let u ← a.run
      let v ← b.run
      return u ++ v
  | optional a => fun s => a.run s ++ [([], s)]
  | many p => Pattern.many p
  | few p => Pattern.few p

def Language : Regex → List Char → Prop
  | empty, u => u = []
  | chars p, u => ∃ c, u = [c] ∧ p c = true
  | seq a b, u => ∃ v w, u = v ++ w ∧ a.Language v ∧ b.Language w
  | optional a, u => a.Language u ∨ u = []
  | many p, u => ∀ c ∈ u, p c = true
  | few p, u => ∀ c ∈ u, p c = true

theorem mem_many {p : Char → Bool} {s : List Char} {r : List Char × List Char} :
    r ∈ Pattern.many p s ↔ s = r.1 ++ r.2 ∧ ∀ c ∈ r.1, p c = true := by
  induction s generalizing r with
  | nil =>
      obtain ⟨u, rest⟩ := r
      simp only [Pattern.many, List.mem_singleton, Prod.mk.injEq, List.nil_eq, List.append_eq_nil_iff]
      refine ⟨fun h => ⟨h, by simp [h.1]⟩, And.left⟩
  | cons c s ih =>
      obtain ⟨u, rest⟩ := r
      cases u with
      | nil =>
          have empty : ([], rest) ∈ Pattern.many p (c :: s) ↔ rest = c :: s := by
            rw [Pattern.many]
            split <;> simp
          rw [empty]
          exact ⟨fun same => ⟨same.symm, by simp⟩, fun h => h.1.symm⟩
      | cons d u =>
          rw [Pattern.many]
          split
          · rename_i inside
            simp only [List.mem_append, List.mem_map, Prod.mk.injEq, List.cons.injEq, List.mem_singleton, reduceCtorEq,
              false_and, or_false, List.cons_append, List.forall_mem_cons]
            constructor
            · rintro ⟨q, taken, ⟨rfl, rfl⟩, rfl⟩
              obtain ⟨same, all⟩ := ih.mp taken
              exact ⟨⟨rfl, same⟩, inside, all⟩
            · rintro ⟨⟨rfl, same⟩, -, all⟩
              exact ⟨(u, rest), ih.mpr ⟨same, all⟩, ⟨rfl, rfl⟩, rfl⟩
          · rename_i outside
            simp only [List.mem_singleton, Prod.mk.injEq, reduceCtorEq, false_and, false_iff, List.cons_append,
              List.cons.injEq, List.forall_mem_cons, not_and]
            rintro ⟨rfl, -⟩ inside
            exact absurd inside outside

theorem mem_few {p : Char → Bool} {s : List Char} {r : List Char × List Char} :
    r ∈ Pattern.few p s ↔ s = r.1 ++ r.2 ∧ ∀ c ∈ r.1, p c = true := by
  rw [← mem_many]
  induction s generalizing r with
  | nil => rfl
  | cons c s ih =>
      rw [Pattern.few, Pattern.many]
      split
      · rw [List.mem_cons, List.mem_append, List.mem_singleton, or_comm, List.mem_map, List.mem_map]
        simp only [ih]
      · simp

theorem mem_run {r : Regex} {u rest s : List Char} : (u, rest) ∈ r.run s ↔ s = u ++ rest ∧ r.Language u := by
  induction r generalizing u rest s with
  | empty =>
      simp only [run, Language, Pattern.pure_eq, List.mem_singleton, Prod.mk.injEq]
      constructor
      · rintro ⟨rfl, rfl⟩
        exact ⟨rfl, rfl⟩
      · rintro ⟨rfl, rfl⟩
        exact ⟨rfl, rfl⟩
  | chars p =>
      cases s with
      | nil =>
          refine iff_of_false (by simp [run]) ?_
          rintro ⟨same, d, rfl, -⟩
          cases same
      | cons c s =>
          simp only [run, Language, List.head?_cons, List.tail_cons, List.mem_map, Option.mem_toList,
            Option.filter_eq_some_iff, Option.some_inj, Prod.mk.injEq]
          constructor
          · rintro ⟨d, ⟨rfl, inside⟩, rfl, rfl⟩
            exact ⟨rfl, c, rfl, inside⟩
          · rintro ⟨same, d, rfl, inside⟩
            obtain ⟨rfl, rfl⟩ := List.cons.inj same
            exact ⟨c, ⟨rfl, inside⟩, rfl, rfl⟩
  | seq a b iha ihb =>
      simp only [run, Pattern.bind_eq, Pattern.pure_eq, List.mem_flatMap, List.mem_singleton, Prod.mk.injEq, Language,
        Prod.exists, iha, ihb]
      constructor
      · rintro ⟨v, t, ⟨rfl, left⟩, w, t', ⟨rfl, right⟩, rfl, rfl⟩
        exact ⟨(List.append_assoc v w rest).symm, v, w, rfl, left, right⟩
      · rintro ⟨rfl, v, w, rfl, left, right⟩
        exact ⟨v, w ++ rest, ⟨List.append_assoc v w rest, left⟩, w, rest, ⟨rfl, right⟩, rfl, rfl⟩
  | optional a ih =>
      simp only [run, Language, List.mem_append, List.mem_singleton, Prod.mk.injEq, ih]
      constructor
      · rintro (⟨same, here⟩ | ⟨rfl, rfl⟩)
        · exact ⟨same, .inl here⟩
        · exact ⟨rfl, .inr rfl⟩
      · rintro ⟨same, here | rfl⟩
        · exact .inl ⟨same, here⟩
        · exact .inr ⟨rfl, same.symm⟩
  | many p => exact mem_many
  | few p => exact mem_few

section
variable {p : Char → Bool} {u : List Char}

theorem language_times {n : ℕ} : ((chars p).times n).Language u ↔ u.length = n ∧ ∀ c ∈ u, p c = true := by
  induction n generalizing u with
  | zero =>
      rw [List.length_eq_zero_iff]
      exact ⟨fun none => ⟨none, by rw [none]; simp⟩, And.left⟩
  | succ n ih =>
      constructor
      · rintro ⟨v, w, rfl, ⟨c, rfl, here⟩, rest⟩
        obtain ⟨length, all⟩ := ih.mp rest
        exact ⟨by simp [length], by simpa [here] using all⟩
      · rintro ⟨length, all⟩
        obtain ⟨c, u, rfl⟩ := List.exists_cons_of_length_eq_add_one length
        rw [List.forall_mem_cons] at all
        exact ⟨[c], u, rfl, ⟨c, rfl, all.1⟩, ih.mpr ⟨Nat.succ.inj length, all.2⟩⟩

theorem language_literal {t : String} : (literal t).Language u ↔ u = t.toList := by
  unfold literal
  generalize t.toList = cs
  induction cs generalizing u with
  | nil => exact Iff.rfl
  | cons c cs ih =>
      constructor
      · rintro ⟨v, w, rfl, ⟨d, rfl, here⟩, rest⟩
        rw [of_decide_eq_true here, ih.mp rest]
        rfl
      · rintro rfl
        exact ⟨[c], cs, rfl, ⟨c, rfl, decide_eq_true rfl⟩, ih.mpr rfl⟩

end

/-! ## The characters of a language -/

def Over (p : Char → Bool) (r : Regex) : Prop := ∀ u, r.Language u → ∀ c ∈ u, p c = true

def Marked (q : Char → Bool) (r : Regex) : Prop := ∀ u, r.Language u → ∃ c ∈ u, q c = true

section
variable {p q : Char → Bool} {a b : Regex}

theorem over_empty : Over p empty := by
  rintro u rfl c mem
  cases mem

theorem over_chars {k : Char → Bool} (inside : ∀ c, k c = true → p c = true) : Over p (chars k) := by
  rintro u ⟨d, rfl, here⟩ c mem
  rw [List.mem_singleton.mp mem]
  exact inside d here

theorem over_many {k : Char → Bool} (inside : ∀ c, k c = true → p c = true) : Over p (many k) :=
  fun _ here c mem => inside c (here c mem)

theorem over_few {k : Char → Bool} (inside : ∀ c, k c = true → p c = true) : Over p (few k) :=
  fun _ here c mem => inside c (here c mem)

theorem Over.seq (left : Over p a) (right : Over p b) : Over p (a.seq b) := by
  rintro u ⟨v, w, rfl, here, there⟩ c mem
  rcases List.mem_append.mp mem with first | second
  · exact left v here c first
  · exact right w there c second

theorem Over.optional (made : Over p a) : Over p a.optional := by
  rintro u (here | rfl) c mem
  · exact made u here c mem
  · cases mem

theorem Over.times (made : Over p a) (n : ℕ) : Over p (a.times n) := by
  induction n with
  | zero => exact over_empty
  | succ n ih => exact made.seq ih

theorem Over.upTo (made : Over p a) (n : ℕ) : Over p (a.upTo n) := by
  induction n with
  | zero => exact over_empty
  | succ n ih => exact (made.seq ih).optional

theorem Over.between (made : Over p a) (m n : ℕ) : Over p (a.between m n) :=
  (made.times m).seq (made.upTo (n - m))

theorem over_literal {t : String} (inside : ∀ c ∈ t.toList, p c = true) : Over p (literal t) := by
  unfold literal
  generalize t.toList = cs at inside
  induction cs with
  | nil => exact over_empty
  | cons c cs ih =>
      rw [List.forall_mem_cons] at inside
      refine (over_chars fun d here => ?_).seq (ih inside.2)
      rw [of_decide_eq_true here]
      exact inside.1

theorem marked_chars {k : Char → Bool} (inside : ∀ c, k c = true → q c = true) : Marked q (chars k) := by
  rintro u ⟨d, rfl, here⟩
  exact ⟨d, List.mem_singleton_self d, inside d here⟩

theorem Marked.left (marked : Marked q a) : Marked q (a.seq b) := by
  rintro u ⟨v, w, rfl, here, -⟩
  obtain ⟨c, mem, found⟩ := marked v here
  exact ⟨c, List.mem_append_left w mem, found⟩

theorem Marked.right (marked : Marked q b) : Marked q (a.seq b) := by
  rintro u ⟨v, w, rfl, -, there⟩
  obtain ⟨c, mem, found⟩ := marked w there
  exact ⟨c, List.mem_append_right v mem, found⟩

theorem Marked.times (marked : Marked q a) (n : ℕ) : Marked q (a.times (n + 1)) := marked.left

end

end Regex
end Foundations
