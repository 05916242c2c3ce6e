import Mathlib.Data.List.Basic

/-!
# Patterns of a backtracking matcher

A pattern lists what it can take from the front of a text, with what it leaves, in the order in which a
backtracking matcher tries these. The first of the list is what matches.
-/

namespace Foundations

def Pattern (α : Type) := List Char → List (α × List Char)

namespace Pattern
variable {α β : Type}

instance : Monad Pattern where
  pure a := fun s => [(a, s)]
  bind a f := fun s => (a s).flatMap fun r => f r.1 r.2

def literal (t : String) : Pattern Unit := fun s =>
  if t.toList <+: s then [((), s.drop t.toList.length)] else []

/-- `(?:a)?` -/
def optional (a : Pattern α) : Pattern Unit := fun s => (a s).map (fun r => ((), r.2)) ++ [((), s)]

/-- `[p]*`, as many characters as possible first. -/
def many (p : Char → Bool) : Pattern (List Char)
  | [] => [([], [])]
  | c :: s => if p c then (many p s).map (fun r => (c :: r.1, r.2)) ++ [([], c :: s)] else [([], c :: s)]

/-- `[p]*?`, as few characters as possible first. -/
def few (p : Char → Bool) : Pattern (List Char)
  | [] => [([], [])]
  | c :: s => ([], c :: s) :: if p c then (few p s).map (fun r => (c :: r.1, r.2)) else []

/-- `[p]+` -/
def many1 (p : Char → Bool) : Pattern (List Char)
  | [] => []
  | c :: s => if p c then (many p s).map (fun r => (c :: r.1, r.2)) else []

/-- `(a)`, the text that `a` takes. -/
def capture (a : Pattern α) : Pattern (List Char) := fun s =>
  (a s).map fun r => (s.take (s.length - r.2.length), r.2)

def search (a : Pattern α) : List Char → Option (α × List Char)
  | [] => (a []).head?
  | c :: s => (a (c :: s)).head?.or (search a s)

def matchAll (a : Pattern α) (s : List Char) : List α := go (s.length + 1) s
where
  go : ℕ → List Char → List α
    | 0, _ => []
    | n + 1, s => (a.search s).elim [] fun r => r.1 :: go n r.2

/-- `([\s\S]*?)b`, the text before the first match of `b`. -/
def upTo (b : Pattern β) : Pattern (List Char) := do
  let text ← few fun _ => true
  let _ ← b
  return text

/-! ## Where a pattern cannot start -/

theorem bind_eq (a : Pattern α) (f : α → Pattern β) (s : List Char) :
    (a >>= f) s = (a s).flatMap fun r => f r.1 r.2 := rfl

@[simp] theorem pure_eq (a : α) (s : List Char) : (pure a : Pattern α) s = [(a, s)] := rfl

theorem literal_append (t : String) (s : List Char) : literal t (t.toList ++ s) = [((), s)] := by
  rw [literal, if_pos (List.prefix_append _ s), List.drop_left]

theorem literal_eq_nil {t : String} {s : List Char} (differ : ¬ t.toList <+: s) : literal t s = [] :=
  if_neg differ

def Starts (a : Pattern α) (t : List Char) : Prop := ∀ s, ¬ t <+: s → a s = []

theorem starts_literal (t : String) (f : Unit → Pattern β) : (literal t >>= f).Starts t.toList := by
  intro s differ
  rw [bind_eq, literal_eq_nil differ, List.flatMap_nil]

theorem Starts.search_append {a : Pattern α} {c : Char} (starts : a.Starts [c]) {u : List Char}
    (absent : c ∉ u) (s : List Char) : a.search (u ++ s) = a.search s := by
  induction u with
  | nil => rfl
  | cons d u ih =>
      rw [List.mem_cons, not_or] at absent
      have none : a (d :: (u ++ s)) = [] := starts _ fun first => absent.1 (List.cons_prefix_cons.mp first).1
      rw [List.cons_append, search, none, List.head?_nil, Option.none_or, ih absent.2]

theorem optional_of_nil {a : Pattern α} {s : List Char} (none : a s = []) : optional a s = [((), s)] := by
  rw [optional, none, List.map_nil, List.nil_append]

theorem capture_eq_nil {a : Pattern α} {s : List Char} (none : a s = []) : a.capture s = [] := by
  rw [capture, none, List.map_nil]

theorem Starts.capture {a : Pattern α} {t : List Char} (starts : a.Starts t) : a.capture.Starts t :=
  fun s differ => capture_eq_nil (starts s differ)

theorem search_cons_of_nil {a : Pattern α} {c : Char} {s : List Char} (none : a (c :: s) = []) :
    a.search (c :: s) = a.search s := by
  rw [search, none, List.head?_nil, Option.none_or]

theorem search_of_head {a : Pattern α} {s : List Char} {r : α × List Char} (first : (a s).head? = some r) :
    a.search s = some r := by
  cases s <;> simp [search, first]

theorem many_eq_nil {p : Char → Bool} {c : Char} (outside : p c = false) (s : List Char) :
    many p (c :: s) = [([], c :: s)] := by
  rw [many, if_neg (by simp [outside])]

theorem many_append {p : Char → Bool} {u : List Char} (inside : ∀ d ∈ u, p d = true) {c : Char}
    (outside : p c = false) (s : List Char) : ∃ rest, many p (u ++ c :: s) = (u, c :: s) :: rest := by
  induction u with
  | nil => exact ⟨[], by simp [many, outside]⟩
  | cons d u ih =>
      rw [List.forall_mem_cons] at inside
      obtain ⟨rest, eq⟩ := ih inside.2
      exact ⟨_, by rw [List.cons_append, many, if_pos inside.1, eq, List.map_cons, List.cons_append]⟩

theorem many1_append {p : Char → Bool} {u : List Char} (nonempty : u ≠ []) (inside : ∀ d ∈ u, p d = true)
    {c : Char} (outside : p c = false) (s : List Char) :
    ∃ rest, many1 p (u ++ c :: s) = (u, c :: s) :: rest := by
  obtain ⟨d, u, rfl⟩ := List.exists_cons_of_ne_nil nonempty
  rw [List.forall_mem_cons] at inside
  obtain ⟨rest, eq⟩ := many_append inside.2 outside s
  exact ⟨_, by rw [List.cons_append, many1, if_pos inside.1, eq, List.map_cons]⟩

theorem many_bind {p : Char → Bool} {b : Pattern β} (begins : ∀ d s, p d = true → b (d :: s) = [])
    {u : List Char} (inside : ∀ d ∈ u, p d = true) {c : Char} (outside : p c = false) (s : List Char) :
    (many p >>= fun _ => b) (u ++ c :: s) = b (c :: s) := by
  induction u with
  | nil => simp [bind_eq, many, outside]
  | cons d u ih =>
      rw [List.forall_mem_cons] at inside
      have rest := ih inside.2
      rw [bind_eq] at rest
      rw [bind_eq, List.cons_append, many, if_pos inside.1, List.flatMap_append, List.flatMap_map, rest]
      simp [begins d _ inside.1]

/-! ## Texts to pass -/

def Silent (a : Pattern α) (s : List Char) : List Char → Prop
  | [] => True
  | c :: u => a (c :: (u ++ s)) = [] ∧ Silent a s u

theorem Starts.silent {a : Pattern α} {c : Char} (starts : a.Starts [c]) {u : List Char} (absent : c ∉ u)
    (s : List Char) : a.Silent s u := by
  induction u with
  | nil => trivial
  | cons d u ih =>
      rw [List.mem_cons, not_or] at absent
      exact ⟨starts _ fun first => absent.1 (List.cons_prefix_cons.mp first).1, ih absent.2⟩

theorem Silent.search {a : Pattern α} {s u : List Char} (silent : a.Silent s u) :
    a.search (u ++ s) = a.search s := by
  induction u with
  | nil => rfl
  | cons c u ih => exact (search_cons_of_nil silent.1).trans (ih silent.2)

theorem upTo_nil (b : Pattern β) : upTo b [] = (b []).map fun r => ([], r.2) := by
  simp [upTo, bind_eq, few, List.map_eq_flatMap]

theorem upTo_cons (b : Pattern β) (c : Char) (s : List Char) :
    upTo b (c :: s) = (b (c :: s)).map (fun r => ([], r.2)) ++ (upTo b s).map fun r => (c :: r.1, r.2) := by
  simp [upTo, bind_eq, few, List.map_eq_flatMap, List.flatMap_assoc]

theorem upTo_of_head {b : Pattern β} {s : List Char} {r : β × List Char} (first : (b s).head? = some r) :
    (upTo b s).head? = some ([], r.2) := by
  cases s with
  | nil => rw [upTo_nil, List.head?_map, first, Option.map_some]
  | cons c s => rw [upTo_cons, List.head?_append, List.head?_map, first, Option.map_some, Option.some_or]

theorem Silent.upTo {b : Pattern β} {s u : List Char} (silent : b.Silent s u) :
    upTo b (u ++ s) = (Pattern.upTo b s).map fun r => (u ++ r.1, r.2) := by
  induction u with
  | nil => simp
  | cons c u ih =>
      rw [List.cons_append, upTo_cons, silent.1, ih silent.2]
      simp

theorem eq_of_mem_literal {t : String} {s : List Char} {r : Unit × List Char} (mem : r ∈ literal t s) :
    s = t.toList ++ r.2 := by
  unfold literal at mem
  split at mem
  · rename_i here
    obtain ⟨rest, rfl⟩ := here
    rw [List.mem_singleton] at mem
    rw [mem, List.drop_left]
  · cases mem

theorem eq_of_mem_few {p : Char → Bool} {s : List Char} {r : List Char × List Char} (mem : r ∈ few p s) :
    s = r.1 ++ r.2 := by
  induction s generalizing r with
  | nil =>
      rw [few, List.mem_singleton] at mem
      rw [mem]
      rfl
  | cons c s ih =>
      rw [few, List.mem_cons] at mem
      rcases mem with rfl | mem
      · rfl
      · split at mem
        · obtain ⟨q, taken, rfl⟩ := List.mem_map.mp mem
          exact congrArg (c :: ·) (ih taken)
        · cases mem

theorem of_mem_upTo {b : Pattern β} {s : List Char} {r : List Char × List Char} (mem : r ∈ upTo b s) :
    ∃ x s', s = r.1 ++ s' ∧ (x, r.2) ∈ b s' := by
  simp only [upTo, bind_eq, List.mem_flatMap, pure_eq, List.mem_singleton] at mem
  obtain ⟨t, text, x, matched, rfl⟩ := mem
  exact ⟨x.1, t.2, eq_of_mem_few text, matched⟩

/-! ## All matches -/

def Leaves (a : Pattern α) : Prop := ∀ s, ∀ r ∈ a s, r.2.length ≤ s.length

def Consumes (a : Pattern α) : Prop := ∀ s, ∀ r ∈ a s, r.2.length < s.length

theorem leaves_pure (x : α) : (pure x : Pattern α).Leaves := by
  intro s r mem
  rw [pure_eq, List.mem_singleton] at mem
  exact mem ▸ Nat.le_refl _

theorem leaves_literal (t : String) : (literal t).Leaves := by
  intro s r mem
  unfold literal at mem
  split at mem
  · rw [List.mem_singleton] at mem
    rw [mem, List.length_drop]
    exact Nat.sub_le _ _
  · cases mem

theorem Leaves.bind {a : Pattern α} {f : α → Pattern β} (leaves : a.Leaves) (rest : ∀ x, (f x).Leaves) :
    (a >>= f).Leaves := by
  intro s r mem
  rw [bind_eq, List.mem_flatMap] at mem
  obtain ⟨q, first, second⟩ := mem
  exact Nat.le_trans (rest q.1 q.2 r second) (leaves s q first)

theorem Consumes.bind {a : Pattern α} {f : α → Pattern β} (consumes : a.Consumes) (rest : ∀ x, (f x).Leaves) :
    (a >>= f).Consumes := by
  intro s r mem
  rw [bind_eq, List.mem_flatMap] at mem
  obtain ⟨q, first, second⟩ := mem
  exact Nat.lt_of_le_of_lt (rest q.1 q.2 r second) (consumes s q first)

theorem Leaves.optional {a : Pattern α} (leaves : a.Leaves) : (optional a).Leaves := by
  intro s r mem
  rw [Pattern.optional, List.mem_append, List.mem_map, List.mem_singleton] at mem
  rcases mem with ⟨q, taken, rfl⟩ | rfl
  · exact leaves s q taken
  · exact Nat.le_refl _

theorem leaves_many (p : Char → Bool) : (many p).Leaves := by
  intro s
  induction s with
  | nil => simp [many]
  | cons c s ih =>
      intro r mem
      rw [many] at mem
      split at mem
      · rw [List.mem_append, List.mem_map, List.mem_singleton] at mem
        rcases mem with ⟨q, taken, rfl⟩ | rfl
        · exact Nat.le_succ_of_le (ih q taken)
        · exact Nat.le_refl _
      · rw [List.mem_singleton] at mem
        exact mem ▸ Nat.le_refl _

theorem leaves_many1 (p : Char → Bool) : (many1 p).Leaves := by
  intro s r mem
  cases s with
  | nil => cases mem
  | cons c s =>
      rw [many1] at mem
      split at mem
      · obtain ⟨q, taken, rfl⟩ := List.mem_map.mp mem
        exact Nat.le_succ_of_le (leaves_many p s q taken)
      · cases mem

theorem leaves_few (p : Char → Bool) : (few p).Leaves := by
  intro s
  induction s with
  | nil => simp [few]
  | cons c s ih =>
      intro r mem
      rw [few, List.mem_cons] at mem
      rcases mem with rfl | mem
      · exact Nat.le_refl _
      · split at mem
        · obtain ⟨q, taken, rfl⟩ := List.mem_map.mp mem
          exact Nat.le_succ_of_le (ih q taken)
        · cases mem

theorem leaves_upTo {b : Pattern β} (leaves : b.Leaves) : (upTo b).Leaves :=
  (leaves_few _).bind fun _ => leaves.bind fun _ => leaves_pure _

theorem consumes_literal {t : String} (nonempty : t.toList ≠ []) : (literal t).Consumes := by
  intro s r mem
  unfold literal at mem
  split at mem
  · rename_i here
    rw [List.mem_singleton] at mem
    have longer := here.length_le
    have positive := List.length_pos_of_ne_nil nonempty
    rw [mem, List.length_drop]
    omega
  · cases mem

theorem Consumes.search {a : Pattern α} (consumes : a.Consumes) {s : List Char} {r : α × List Char}
    (found : a.search s = some r) : r.2.length < s.length := by
  induction s with
  | nil => exact consumes [] r (List.mem_of_mem_head? found)
  | cons c s ih =>
      rw [Pattern.search] at found
      cases here : (a (c :: s)).head? with
      | some r' =>
          rw [here, Option.some_or, Option.some_inj] at found
          exact found ▸ consumes (c :: s) r' (List.mem_of_mem_head? here)
      | none =>
          rw [here, Option.none_or] at found
          exact Nat.lt_succ_of_lt (ih found)

theorem Consumes.go {a : Pattern α} (consumes : a.Consumes) {n m : ℕ} {s : List Char} (enough : s.length < n)
    (enough' : s.length < m) : matchAll.go a n s = matchAll.go a m s := by
  induction n generalizing m s with
  | zero => cases enough
  | succ n ih =>
      cases m with
      | zero => cases enough'
      | succ m =>
          rw [matchAll.go, matchAll.go]
          cases found : a.search s with
          | none => rfl
          | some r =>
              have shorter := consumes.search found
              exact congrArg (r.1 :: ·) (ih (by omega) (by omega))

theorem Consumes.matchAll {a : Pattern α} (consumes : a.Consumes) (s : List Char) :
    a.matchAll s = (a.search s).elim [] fun r => r.1 :: a.matchAll r.2 := by
  rw [Pattern.matchAll, matchAll.go]
  cases found : a.search s with
  | none => rfl
  | some r => exact congrArg (r.1 :: ·) (consumes.go (consumes.search found) (Nat.lt_succ_self _))

end Pattern
end Foundations
