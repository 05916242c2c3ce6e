import Mathlib.Data.List.Basic
import Mathlib.Logic.Function.Basic

/-!
# First fit

Items are put one after the other into the first bin that has room. A bin has a level, which the items in it
raise, and `room r l` says that bin `r` can be filled up to `l`.
-/

namespace Foundations.FirstFit

variable {R J L : Type*} [DecidableEq R] (add : L → J → L) (room : R → L → Bool) (bins : List R)

def choose (level : R → L) (j : J) : Option R := bins.find? fun r => room r (add (level r) j)

def put (level : R → L) (j : J) : R → L :=
  match choose add room bins level j with
  | none => level
  | some r => Function.update level r (add (level r) j)

def pack (level : R → L) : List J → List (J × Option (R × L))
  | [] => []
  | j :: js => (j, (choose add room bins level j).map fun r => (r, level r)) :: pack (put add room bins level j) js

def levelAfter (level : R → L) (js : List J) : R → L := js.foldl (put add room bins) level

def contents (r : R) (placed : List (J × Option (R × L))) : List (L × J) :=
  placed.filterMap fun p => p.2.bind fun place => if place.1 = r then some (place.2, p.1) else none

/-- Each item starts where the one before it ends. -/
def Chained : L → List (L × J) → Prop
  | _, [] => True
  | l, (start, j) :: rest => start = l ∧ Chained (add start j) rest

def top (l : L) (items : List (L × J)) : L := (items.getLast?.map fun p => add p.1 p.2).getD l

variable {add room bins} {level : R → L} {j : J} {js : List J}

theorem put_none (none : choose add room bins level j = none) : put add room bins level j = level := by
  simp [put, none]

theorem put_some {r : R} (chosen : choose add room bins level j = some r) :
    put add room bins level j = Function.update level r (add (level r) j) := by
  simp [put, chosen]

@[simp] theorem map_fst_pack : (pack add room bins level js).map Prod.fst = js := by
  induction js generalizing level with
  | nil => rfl
  | cons j js ih => rw [pack, List.map_cons, ih]

theorem pack_append (as bs : List J) :
    pack add room bins level (as ++ bs) =
      pack add room bins level as ++ pack add room bins (levelAfter add room bins level as) bs := by
  induction as generalizing level with
  | nil => rfl
  | cons j as ih =>
      rw [List.cons_append, pack, pack, ih]
      rfl

theorem mem_contents {r : R} {p : L × J} {placed : List (J × Option (R × L))} :
    p ∈ contents r placed ↔ (p.2, some (r, p.1)) ∈ placed := by
  simp only [contents, List.mem_filterMap, Option.bind_eq_some_iff, Option.ite_none_right_eq_some, Option.some.injEq]
  constructor
  · rintro ⟨q, mem, place, at_, rfl, rfl⟩
    rw [← at_]
    exact mem
  · intro mem
    exact ⟨_, mem, _, rfl, rfl, rfl⟩

theorem contents_cons (r : R) (p : J × Option (R × L)) (placed : List (J × Option (R × L))) :
    contents r (p :: placed) = contents r [p] ++ contents r placed := by
  simp only [contents, ← List.filterMap_append, List.singleton_append]

variable (add room bins level j) in
theorem contents_put (r : R) :
    (contents r [(j, (choose add room bins level j).map fun r => (r, level r))] = [] ∧
        put add room bins level j r = level r) ∨
      (contents r [(j, (choose add room bins level j).map fun r => (r, level r))] = [(level r, j)] ∧
        put add room bins level j r = add (level r) j) := by
  cases chosen : choose add room bins level j with
  | none => simp [contents, put_none chosen]
  | some bin =>
    rw [put_some chosen]
    by_cases here : bin = r
    · subst here
      simp [contents]
    · simp [contents, here, Function.update_of_ne (Ne.symm here)]

theorem pack_chained (r : R) : Chained add (level r) (contents r (pack add room bins level js)) := by
  induction js generalizing level with
  | nil => trivial
  | cons j js ih =>
    rw [pack, contents_cons]
    obtain ⟨nothing, same⟩ | ⟨one, raised⟩ := contents_put add room bins level j r
    · rw [nothing, List.nil_append, ← same]
      exact ih
    · rw [one]
      refine ⟨rfl, ?_⟩
      rw [← raised]
      exact ih

theorem top_cons (l : L) (p : L × J) (items : List (L × J)) :
    top add l (p :: items) = top add (add p.1 p.2) items := by
  cases items with
  | nil => rfl
  | cons q items => simp [top, List.getLast?_eq_some_getLast]

theorem levelAfter_eq (r : R) :
    levelAfter add room bins level js r = top add (level r) (contents r (pack add room bins level js)) := by
  induction js generalizing level with
  | nil => rfl
  | cons j js ih =>
    rw [pack, contents_cons, levelAfter, List.foldl_cons, ← levelAfter, ih]
    obtain ⟨nothing, same⟩ | ⟨one, raised⟩ := contents_put add room bins level j r
    · rw [nothing, same, List.nil_append]
    · rw [one, raised, List.singleton_append, top_cons]

omit [DecidableEq R] in
variable (add room bins level j) in
theorem choose_cases :
    (∃ r ∈ bins, choose add room bins level j = some r ∧ room r (add (level r) j) = true) ∨
      (choose add room bins level j = none ∧ ∀ r ∈ bins, room r (add (level r) j) = false) := by
  cases chosen : choose add room bins level j with
  | none =>
    refine .inr ⟨rfl, fun r mem => ?_⟩
    simpa using List.find?_eq_none.mp chosen r mem
  | some r =>
    have fits := List.find?_some chosen
    exact .inl ⟨r, List.mem_of_find?_eq_some chosen, rfl, fits⟩

theorem pack_room {r : R} {start : L} (mem : (j, some (r, start)) ∈ pack add room bins level js) :
    r ∈ bins ∧ room r (add start j) = true := by
  induction js generalizing level with
  | nil => cases mem
  | cons i js ih =>
    obtain here | there := List.mem_cons.mp mem
    · obtain ⟨bin, bound, chosen, fits⟩ | ⟨chosen, -⟩ :=
        choose_cases add room bins level i
      · simp only [chosen, Option.map_some, Prod.mk.injEq, Option.some.injEq] at here
        obtain ⟨rfl, rfl, rfl⟩ := here
        exact ⟨bound, fits⟩
      · simp [chosen] at here
    · exact ih there

theorem pack_left {before after : List J}
    (left : (j, none) ∈ pack add room bins (levelAfter add room bins level before) (j :: after))
    (once : j ∉ after) :
    ∀ r ∈ bins, room r (add (levelAfter add room bins level before r) j) = false := by
  obtain ⟨bin, -, chosen, -⟩ | ⟨-, none⟩ := choose_cases add room bins (levelAfter add room bins level before) j
  · rw [pack, chosen] at left
    obtain here | there := List.mem_cons.mp left
    · simp at here
    · have later := List.mem_map_of_mem (f := Prod.fst) there
      rw [map_fst_pack] at later
      exact absurd later once
  · exact none

theorem Chained.forall_start {P : L → Prop} {Q : J → Prop} (keeps : ∀ l j, P l → Q j → P (add l j)) {l : L}
    {items : List (L × J)} (chained : Chained add l items) (start : P l) (each : ∀ p ∈ items, Q p.2) :
    ∀ p ∈ items, P p.1 := by
  induction items generalizing l with
  | nil => simp
  | cons p items ih =>
    obtain ⟨rfl, rest⟩ := chained
    rw [List.forall_mem_cons] at each ⊢
    exact ⟨start, ih rest (keeps _ _ start each.1) each.2⟩

theorem Chained.pairwise (le : L → L → Prop) (trans : ∀ a b c, le a b → le b c → le a c) {l : L}
    {items : List (L × J)} (chained : Chained add l items) (refl : ∀ p ∈ items, le p.1 p.1)
    (raises : ∀ p ∈ items, le p.1 (add p.1 p.2)) :
    items.Pairwise fun p q => le (add p.1 p.2) q.1 := by
  have above {l : L} {items : List (L × J)} (chained : Chained add l items) (refl : ∀ p ∈ items, le p.1 p.1)
      (raises : ∀ p ∈ items, le p.1 (add p.1 p.2)) : ∀ p ∈ items, le l p.1 := by
    induction items generalizing l with
    | nil => simp
    | cons p items ih =>
      obtain ⟨rfl, rest⟩ := chained
      rw [List.forall_mem_cons] at refl raises ⊢
      exact ⟨refl.1, fun q mem => trans _ _ _ raises.1 (ih rest refl.2 raises.2 q mem)⟩
  induction items generalizing l with
  | nil => exact .nil
  | cons p items ih =>
    obtain ⟨rfl, rest⟩ := chained
    rw [List.forall_mem_cons] at refl raises
    exact List.pairwise_cons.mpr ⟨above rest refl.2 raises.2, ih rest refl.2 raises.2⟩

end Foundations.FirstFit
