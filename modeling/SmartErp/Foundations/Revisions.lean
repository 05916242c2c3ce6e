import SmartErp.Foundations.Interleaving
import SmartErp.Foundations.Table

/-!
# Rows that are read, changed and saved whole

A call reads a row, changes its copy, and saves all of it later, with no lock in between. A save is one step that
writes every column as it was read (TypeORM reads the row once more just before and writes what differs from
that). Saving a copy that is out of date undoes what was saved meanwhile. Whatever overlaps, a row is what some of
the saved edits make of the row that was inserted, in the order in which they were saved.
-/

namespace Foundations

structure Editing (ε ω : Type*) {ρ κ : Type*} [DecidableEq κ] (key : ρ → κ) where
  edit : ε → Table key → ρ → Except ω ρ
  key_edit : ∀ {e rows r r'}, edit e rows r = .ok r' → key r' = key r
  missing : κ → ω
  apart : ρ → ρ → Bool
  apart_comm : ∀ r r', apart r r' = apart r' r
  collision : ω

namespace Editing

inductive Request {ρ κ : Type*} [DecidableEq κ] (ε ω : Type*) (key : ρ → κ) where
  | insert (make : Table key → Except ω ρ)
  | edit (k : κ) (e : ε)

inductive Phase (ρ ω : Type*) where
  | waiting
  | inserting (row : ρ)
  | editing (base row : ρ)
  | done (result : Except ω ρ)

structure Saved {ρ κ : Type*} [DecidableEq κ] (ι : Type*) (key : ρ → κ) where
  rows : Table key := ∅
  log : List ι := []

variable {ρ κ ε ω ι : Type*} [DecidableEq κ] {key : ρ → κ} (E : Editing ε ω key)

def Admits (rows : Table key) (r : ρ) : Prop := ∀ x ∈ rows.rows, key x ≠ key r → E.apart x r = true

instance (rows : Table key) (r : ρ) : Decidable (E.Admits rows r) := by
  unfold Admits
  infer_instance

def begun (request : Request ε ω key) (rows : Table key) : Phase ρ ω :=
  match request with
  | .insert make =>
      match make rows with
      | .ok row => .inserting row
      | .error failure => .done (.error failure)
  | .edit k e =>
      match rows.find? k with
      | none => .done (.error (E.missing k))
      | some base =>
          match E.edit e rows base with
          | .ok row => .editing base row
          | .error failure => .done (.error failure)

def concluded (i : ι) (s : Saved ι key) (fault : Option ω) (admitted : Prop) [Decidable admitted] (row : ρ) :
    Saved ι key × Phase ρ ω :=
  match fault with
  | some failure => (s, .done (.error failure))
  | none =>
      if admitted then (⟨s.rows.save row, s.log ++ [i]⟩, .done (.ok row)) else (s, .done (.error E.collision))

def act (i : ι) (request : Request ε ω key) (fault : Option ω) (s : Saved ι key) :
    Phase ρ ω → Option (Saved ι key × Phase ρ ω)
  | .waiting => some (s, E.begun request s.rows)
  | .inserting row => some (E.concluded i s fault (s.rows.find? (key row) = none ∧ E.Admits s.rows row) row)
  | .editing _ row => some (E.concluded i s fault (E.Admits s.rows row) row)
  | .done _ => none

abbrev Desk (ι ω : Type*) {ρ κ : Type*} [DecidableEq κ] (key : ρ → κ) := Pool ι (Saved ι key) (Phase ρ ω)

variable (requests : ι → Request ε ω key)

def next [DecidableEq ι] (s : Desk ι ω key) (move : ι × Option ω) : Desk ι ω key :=
  Pool.next (E.act move.1 (requests move.1)) s move

def opening : Desk ι ω key := ⟨⟨∅, []⟩, fun _ => .waiting⟩

/-! ## Lineage -/

def Edits (e : ε) (r r' : ρ) : Prop := ∃ rows, E.edit e rows r = .ok r'

inductive Replays : ρ → List ε → ρ → Prop
  | nil (r : ρ) : Replays r [] r
  | snoc {r r' r'' : ρ} {es : List ε} {e : ε} : Replays r es r' → E.Edits e r' r'' → Replays r (es ++ [e]) r''

def editsOf (k : κ) (log : List ι) : List ε := log.filterMap fun i =>
  match requests i with
  | .insert _ => none
  | .edit k' e => if k' = k then some e else none

def Inserts (i : ι) (r : ρ) : Prop := ∃ make rows, requests i = .insert make ∧ make rows = .ok r

/-- The row was inserted and then edited by some of the calls that edited it. -/
def Lineage (log : List ι) (r : ρ) (es : List ε) : Prop :=
  ∃ before i after r₀, log = before ++ i :: after ∧ Inserts requests i r₀ ∧ key r₀ = key r ∧
    es.Sublist (editsOf requests (key r) after) ∧ E.Replays r₀ es r

structure Sound (s : Desk ι ω key) : Prop where
  nodup : s.shared.log.Nodup
  logged : ∀ i ∈ s.shared.log, ∃ r, s.calls i = .done (.ok r)
  rows : ∀ r ∈ s.shared.rows.rows, ∃ es, E.Lineage requests s.shared.log r es
  inserting : ∀ i row, s.calls i = .inserting row → Inserts requests i row
  editing : ∀ i base row, s.calls i = .editing base row → ∃ k e es, requests i = .edit k e ∧ key base = k ∧
    E.Lineage requests s.shared.log base es ∧ E.Edits e base row
  apart : ∀ r ∈ s.shared.rows.rows, ∀ r' ∈ s.shared.rows.rows, key r ≠ key r' → E.apart r r' = true
  answered : ∀ i r, s.calls i = .done (.ok r) → i ∈ s.shared.log
  edited : ∀ k, editsOf requests k s.shared.log ≠ [] → s.shared.rows.find? k ≠ none

variable {E requests}

theorem Edits.key_eq {e : ε} {r r' : ρ} (edits : E.Edits e r r') : key r' = key r :=
  E.key_edit edits.choose_spec

theorem Replays.key_eq {r r' : ρ} {es : List ε} (replays : E.Replays r es r') : key r' = key r := by
  induction replays with
  | nil => rfl
  | snoc _ last ih => exact last.key_eq.trans ih

theorem Replays.invariant (P : ρ → Prop) (keep : ∀ e r r', P r → E.Edits e r r' → P r') {r r' : ρ} {es : List ε}
    (init : P r) (replays : E.Replays r es r') : P r' := by
  induction replays with
  | nil => exact init
  | snoc _ last ih => exact keep _ _ _ ih last

theorem editsOf_append (k : κ) (log log' : List ι) :
    editsOf requests k (log ++ log') = editsOf requests k log ++ editsOf requests k log' := List.filterMap_append

theorem mem_editsOf {k : κ} {e : ε} {log : List ι} : e ∈ editsOf requests k log ↔ ∃ i ∈ log, requests i = .edit k e := by
  rw [editsOf, List.mem_filterMap]
  refine exists_congr fun i => and_congr_right fun _ => ?_
  cases requests i with
  | insert make => simp
  | edit k' e' =>
      by_cases own : k' = k <;> simp [own]

theorem editsOf_edit {i : ι} {k : κ} {e : ε} (request : requests i = .edit k e) : editsOf requests k [i] = [e] := by
  simp [editsOf, request]

theorem editsOf_other {i : ι} {k k' : κ} {e : ε} (request : requests i = .edit k' e) (ne : k' ≠ k) :
    editsOf requests k [i] = [] := by
  simp [editsOf, request, ne]

theorem editsOf_insert {i : ι} {r : ρ} (inserts : Inserts requests i r) (k : κ) : editsOf requests k [i] = [] := by
  obtain ⟨make, rows, request, -⟩ := inserts
  simp [editsOf, request]

theorem Lineage.append {log : List ι} {r : ρ} {es : List ε} (lineage : E.Lineage requests log r es) (i : ι) :
    E.Lineage requests (log ++ [i]) r es := by
  obtain ⟨before, j, after, r₀, rfl, inserts, same, sub, replays⟩ := lineage
  refine ⟨before, j, after ++ [i], r₀, by simp, inserts, same, ?_, replays⟩
  rw [editsOf_append]
  exact sub.trans (List.sublist_append_left _ _)

theorem Lineage.edited {log : List ι} {base row : ρ} {es : List ε} {i : ι} {e : ε}
    (lineage : E.Lineage requests log base es) (request : requests i = .edit (key base) e)
    (edits : E.Edits e base row) : E.Lineage requests (log ++ [i]) row (es ++ [e]) := by
  obtain ⟨before, j, after, r₀, rfl, inserts, same, sub, replays⟩ := lineage
  refine ⟨before, j, after ++ [i], r₀, by simp, inserts, same.trans edits.key_eq.symm, ?_, replays.snoc edits⟩
  rw [edits.key_eq, editsOf_append, editsOf_edit request]
  exact sub.append (.refl _)

theorem Lineage.inserted {log : List ι} {row : ρ} {i : ι} (inserts : Inserts requests i row) :
    E.Lineage requests (log ++ [i]) row [] :=
  ⟨log, i, [], row, rfl, inserts, rfl, .refl _, .nil row⟩

theorem calls_of_sublist {k : κ} {es : List ε} {log : List ι} (sub : es.Sublist (editsOf requests k log)) :
    ∃ js : List ι, js.Sublist log ∧ js.map requests = es.map (.edit k) := by
  induction log generalizing es with
  | nil =>
      rw [editsOf, List.filterMap_nil, List.sublist_nil] at sub
      exact ⟨[], .refl _, by rw [sub, List.map_nil, List.map_nil]⟩
  | cons j log ih =>
      cases request : requests j with
      | insert make =>
          have same : editsOf requests k (j :: log) = editsOf requests k log := by simp [editsOf, request]
          obtain ⟨js, sub', eq⟩ := ih (same ▸ sub)
          exact ⟨js, sub'.cons j, eq⟩
      | edit k' e =>
          by_cases own : k' = k
          · have step : editsOf requests k (j :: log) = e :: editsOf requests k log := by simp [editsOf, request, own]
            rw [step] at sub
            cases sub with
            | cons _ sub =>
                obtain ⟨js, sub', eq⟩ := ih sub
                exact ⟨js, sub'.cons j, eq⟩
            | cons_cons _ sub =>
                obtain ⟨js, sub', eq⟩ := ih sub
                exact ⟨j :: js, sub'.cons_cons j, by rw [List.map_cons, List.map_cons, eq, request, own]⟩
          · have same : editsOf requests k (j :: log) = editsOf requests k log := by simp [editsOf, request, own]
            obtain ⟨js, sub', eq⟩ := ih (same ▸ sub)
            exact ⟨js, sub'.cons j, eq⟩

/-! ## Runs -/

variable {s : Desk ι ω key} {i : ι}

theorem sound_opening : E.Sound requests opening where
  nodup := .nil
  logged := nofun
  rows := nofun
  inserting := nofun
  editing := nofun
  apart := nofun
  answered := nofun
  edited _ none := absurd rfl none

variable [DecidableEq ι]

theorem Sound.of_phase (sound : E.Sound requests s) {call : Phase ρ ω} (going : ∀ r, s.calls i ≠ .done (.ok r))
    (unsaved : ∀ r, call ≠ .done (.ok r)) (inserting : ∀ row, call = .inserting row → Inserts requests i row)
    (editing : ∀ base row, call = .editing base row → ∃ k e es, requests i = .edit k e ∧ key base = k ∧
      E.Lineage requests s.shared.log base es ∧ E.Edits e base row) :
    E.Sound requests ⟨s.shared, Function.update s.calls i call⟩ where
  nodup := sound.nodup
  logged j mem := by
    obtain ⟨r, ended⟩ := sound.logged j mem
    have other : j ≠ i := by
      rintro rfl
      exact going r ended
    exact ⟨r, (Function.update_of_ne other _ _).trans ended⟩
  rows := sound.rows
  inserting j row held := by
    rcases Pool.update_eq_cases held with ⟨rfl, new⟩ | ⟨-, old⟩
    · exact inserting row new
    · exact sound.inserting j row old
  editing j base row held := by
    rcases Pool.update_eq_cases held with ⟨rfl, new⟩ | ⟨-, old⟩
    · exact editing base row new
    · exact sound.editing j base row old
  apart := sound.apart
  answered j r ended := by
    rcases Pool.update_eq_cases ended with ⟨-, new⟩ | ⟨-, old⟩
    · exact absurd new (unsaved r)
    · exact sound.answered j r old
  edited := sound.edited

theorem Sound.of_save (sound : E.Sound requests s) {row : ρ} {es : List ε} (going : ∀ r, s.calls i ≠ .done (.ok r))
    (lineage : E.Lineage requests (s.shared.log ++ [i]) row es) (own : ∀ k ≠ key row, editsOf requests k [i] = [])
    (admits : E.Admits s.shared.rows row) : E.Sound requests ⟨⟨s.shared.rows.save row, s.shared.log ++ [i]⟩,
      Function.update s.calls i (.done (.ok row))⟩ where
  nodup := by
    refine List.nodup_append.mpr ⟨sound.nodup, List.nodup_singleton i, fun j mem k new same => ?_⟩
    obtain rfl : k = i := List.mem_singleton.mp new
    obtain ⟨r, ended⟩ := sound.logged j mem
    exact going r (same ▸ ended)
  logged j mem := by
    by_cases here : j = i
    · rw [here]
      exact ⟨row, Function.update_self _ _ _⟩
    · obtain ⟨r, ended⟩ := sound.logged j ((List.mem_append.mp mem).resolve_right fun new => here (List.mem_singleton.mp new))
      exact ⟨r, (Function.update_of_ne here _ _).trans ended⟩
  rows r mem := by
    rcases Table.mem_save.mp mem with rfl | ⟨old, -⟩
    · exact ⟨es, lineage⟩
    · obtain ⟨es', lineage'⟩ := sound.rows r old
      exact ⟨es', lineage'.append i⟩
  inserting j row' held := by
    rcases Pool.update_eq_cases held with ⟨-, new⟩ | ⟨-, old⟩
    · cases new
    · exact sound.inserting j row' old
  editing j base row' held := by
    rcases Pool.update_eq_cases held with ⟨-, new⟩ | ⟨-, old⟩
    · cases new
    · obtain ⟨k, e, es', request, same, lineage', edits⟩ := sound.editing j base row' old
      exact ⟨k, e, es', request, same, lineage'.append i, edits⟩
  apart r mem r' mem' ne := by
    rcases Table.mem_save.mp mem with rfl | ⟨old, other⟩ <;> rcases Table.mem_save.mp mem' with rfl | ⟨old', other'⟩
    · exact absurd rfl ne
    · rw [E.apart_comm]
      exact admits r' old' other'
    · exact admits r old other
    · exact sound.apart r old r' old' ne
  answered j r ended := by
    rcases Pool.update_eq_cases ended with ⟨rfl, -⟩ | ⟨-, old⟩
    · exact List.mem_append_right _ List.mem_cons_self
    · exact List.mem_append_left _ (sound.answered j r old)
  edited k some' := by
    change (s.shared.rows.save row).find? k ≠ none
    rw [Table.find?_save]
    split_ifs with here
    · exact Option.some_ne_none _
    · refine sound.edited k fun none => some' ?_
      rw [editsOf_append, none, own k (Ne.symm here), List.nil_append]

theorem sound_concluded (sound : E.Sound requests s) {row : ρ} {es : List ε} {fault : Option ω} {admitted : Prop}
    [Decidable admitted] (going : ∀ r, s.calls i ≠ .done (.ok r))
    (lineage : E.Lineage requests (s.shared.log ++ [i]) row es) (own : ∀ k ≠ key row, editsOf requests k [i] = [])
    (admits : admitted → E.Admits s.shared.rows row) {shared : Saved ι key} {call : Phase ρ ω}
    (step : E.concluded i s.shared fault admitted row = (shared, call)) :
    E.Sound requests ⟨shared, Function.update s.calls i call⟩ := by
  unfold concluded at step
  cases fault with
  | some failure =>
      cases step
      exact sound.of_phase going (by simp) (by simp) (by simp)
  | none =>
      by_cases taken : admitted
      · simp only [if_pos taken] at step
        cases step
        exact sound.of_save going lineage own (admits taken)
      · simp only [if_neg taken] at step
        cases step
        exact sound.of_phase going (by simp) (by simp) (by simp)

variable (E) in
omit [DecidableEq ι] in
theorem find?_of_begun {request : Request ε ω key} {rows : Table key} {base row : ρ}
    (begun : E.begun request rows = .editing base row) : rows.find? (key base) = some base := by
  unfold Editing.begun at begun
  cases request with
  | insert make =>
      cases made : make rows <;> simp only [made] at begun <;> cases begun
  | edit k e =>
      cases found : rows.find? k with
      | none =>
          simp only [found] at begun
          cases begun
      | some base' =>
          cases edited : E.edit e rows base' with
          | error failure =>
              simp only [found, edited] at begun
              cases begun
          | ok row' =>
              simp only [found, edited] at begun
              cases begun
              rw [Table.key_of_find? found, found]

theorem sound_begun (sound : E.Sound requests s) (going : ∀ r, s.calls i ≠ .done (.ok r)) :
    E.Sound requests ⟨s.shared, Function.update s.calls i (E.begun (requests i) s.shared.rows)⟩ := by
  unfold begun
  cases request : requests i with
  | insert make =>
      cases made : make s.shared.rows with
      | error failure =>
          simp only [made]
          exact sound.of_phase going (by simp) (by simp) (by simp)
      | ok row =>
          simp only [made]
          refine sound.of_phase going (by simp) ?_ (by simp)
          rintro row' ⟨⟩
          exact ⟨make, s.shared.rows, request, made⟩
  | edit k e =>
      cases found : s.shared.rows.find? k with
      | none =>
          simp only [found]
          exact sound.of_phase going (by simp) (by simp) (by simp)
      | some base =>
          cases edited : E.edit e s.shared.rows base with
          | error failure =>
              simp only [found, edited]
              exact sound.of_phase going (by simp) (by simp) (by simp)
          | ok row =>
              simp only [found, edited]
              refine sound.of_phase going (by simp) (by simp) ?_
              rintro base' row' ⟨⟩
              obtain ⟨es, lineage⟩ := sound.rows base (Table.mem_of_find? found)
              exact ⟨k, e, es, request, Table.key_of_find? found, lineage, s.shared.rows, edited⟩

theorem sound_next (sound : E.Sound requests s) (move : ι × Option ω) : E.Sound requests (E.next requests s move) := by
  obtain ⟨i, fault⟩ := move
  refine Pool.next_keeps (E.Sound requests) sound fun shared call step => ?_
  unfold act at step
  cases phase : s.calls i with
  | done result =>
      rw [phase] at step
      cases step
  | waiting =>
      rw [phase, Option.some_inj] at step
      cases step
      exact sound_begun sound (by simp [phase])
  | inserting row =>
      rw [phase, Option.some_inj] at step
      exact sound_concluded sound (by simp [phase]) (Lineage.inserted (sound.inserting i row phase))
        (fun k _ => editsOf_insert (sound.inserting i row phase) k) And.right step
  | editing base row =>
      rw [phase, Option.some_inj] at step
      obtain ⟨k, e, es, request, rfl, lineage, edits⟩ := sound.editing i base row phase
      exact sound_concluded sound (by simp [phase]) (lineage.edited request edits)
        (fun k ne => editsOf_other request (edits.key_eq ▸ ne.symm)) id step

variable (requests) in
theorem sound_run (moves : List (ι × Option ω)) : E.Sound requests (moves.foldl (E.next requests) opening) := by
  have general (s : Desk ι ω key) (sound : E.Sound requests s) : E.Sound requests (moves.foldl (E.next requests) s) := by
    induction moves generalizing s with
    | nil => exact sound
    | cons move moves ih => exact ih _ (sound_next sound move)
  exact general opening sound_opening

/-! ## What edits leave alone -/

/-- The copies that calls have in hand agree with the rows on `f`. -/
def Uniform {α : Type*} (f : ρ → α) (s : Desk ι ω key) : Prop :=
  ∀ i base row, s.calls i = .editing base row → ∃ r, s.shared.rows.find? (key base) = some r ∧ f base = f r

def Carries {α : Type*} (f : ρ → α) (P : ρ → Prop) (rows rows' : Table key) : Prop :=
  ∀ k r, rows.find? k = some r → ∃ r', rows'.find? k = some r' ∧ f r' = f r ∧ (P r → P r')

theorem Carries.trans {α : Type*} {f : ρ → α} {P : ρ → Prop} {a b c : Table key} (first : Carries f P a b)
    (second : Carries f P b c) : Carries f P a c := by
  intro k r found
  obtain ⟨r', found', same, keeps⟩ := first k r found
  obtain ⟨r'', found'', same', keeps'⟩ := second k r' found'
  exact ⟨r'', found'', same'.trans same, fun holds => keeps' (keeps holds)⟩

theorem Carries.refl {α : Type*} (f : ρ → α) (P : ρ → Prop) (rows : Table key) : Carries f P rows rows :=
  fun _ r found => ⟨r, found, rfl, id⟩

theorem Uniform.of_phase {α : Type*} {f : ρ → α} (uniform : Uniform f s) {rows : Table key} {log : List ι}
    {call : Phase ρ ω} (carries : Carries f (fun _ => True) s.shared.rows rows)
    (editing : ∀ base row, call = .editing base row → ∃ r, rows.find? (key base) = some r ∧ f base = f r) :
    Uniform f ⟨⟨rows, log⟩, Function.update s.calls i call⟩ := by
  intro j base row held
  rcases Pool.update_eq_cases held with ⟨-, new⟩ | ⟨-, old⟩
  · exact editing base row new
  · obtain ⟨r, found, same⟩ := uniform j base row old
    obtain ⟨r', found', same', -⟩ := carries _ r found
    exact ⟨r', found', same.trans same'.symm⟩

theorem uniform_concluded {α : Type*} {f : ρ → α} {P : ρ → Prop} (uniform : Uniform f s) {row : ρ} {fault : Option ω}
    {admitted : Prop} [Decidable admitted]
    (agrees : admitted → ∀ r, s.shared.rows.find? (key row) = some r → f row = f r ∧ P row) {shared : Saved ι key}
    {call : Phase ρ ω} (step : E.concluded i s.shared fault admitted row = (shared, call)) :
    Uniform f ⟨shared, Function.update s.calls i call⟩ ∧ Carries f P s.shared.rows shared.rows := by
  unfold concluded at step
  cases fault with
  | some failure =>
      cases step
      exact ⟨uniform.of_phase (.refl _ _ _) (by simp), .refl _ _ _⟩
  | none =>
      by_cases taken : admitted
      · simp only [if_pos taken] at step
        cases step
        have carries {Q : ρ → Prop} (good : ∀ r, s.shared.rows.find? (key row) = some r → Q row) :
            Carries f Q s.shared.rows (s.shared.rows.save row) := by
          intro k r found
          rw [Table.find?_save]
          split_ifs with here
          · rw [← here] at found
            exact ⟨row, rfl, (agrees taken r found).1, fun _ => good r found⟩
          · exact ⟨r, found, rfl, id⟩
        exact ⟨uniform.of_phase (carries fun _ _ => trivial) (by simp), carries fun r found => (agrees taken r found).2⟩
      · simp only [if_neg taken] at step
        cases step
        exact ⟨uniform.of_phase (.refl _ _ _) (by simp), .refl _ _ _⟩

theorem uniform_next {α : Type*} {f : ρ → α} {P : ρ → Prop} (kept : ∀ e r r', E.Edits e r r' → f r' = f r)
    (made : ∀ e r r', E.Edits e r r' → P r') (sound : E.Sound requests s) (uniform : Uniform f s) (move : ι × Option ω) :
    Uniform f (E.next requests s move) ∧ Carries f P s.shared.rows (E.next requests s move).shared.rows := by
  obtain ⟨i, fault⟩ := move
  refine Pool.next_keeps (fun t : Desk ι ω key => Uniform f t ∧ Carries f P s.shared.rows t.shared.rows)
    ⟨uniform, .refl _ _ _⟩ fun shared call step => ?_
  unfold act at step
  cases phase : s.calls i with
  | done result =>
      rw [phase] at step
      cases step
  | waiting =>
      rw [phase, Option.some_inj] at step
      cases step
      refine ⟨uniform.of_phase (.refl _ _ _) fun base row begun => ?_, .refl _ _ _⟩
      exact ⟨base, E.find?_of_begun begun, rfl⟩
  | inserting row =>
      rw [phase, Option.some_inj] at step
      refine uniform_concluded uniform (fun taken r found => ?_) step
      rw [found] at taken
      exact absurd taken.1 (by simp)
  | editing base row =>
      rw [phase, Option.some_inj] at step
      obtain ⟨-, e, -, -, -, -, edits⟩ := sound.editing i base row phase
      obtain ⟨r, found, same⟩ := uniform i base row phase
      refine uniform_concluded uniform (fun _ r' found' => ⟨?_, made e base row edits⟩) step
      rw [edits.key_eq, found] at found'
      rw [kept e base row edits, same, Option.some_inj.mp found']

def Timely (s : Desk ι ω key) (move : ι × Option ω) : Prop :=
  ∀ base row, s.calls move.1 = .editing base row → s.shared.rows.find? (key base) = some base

variable (E requests) in
def Complete (s : Desk ι ω key) : Prop :=
  ∀ r ∈ s.shared.rows.rows, E.Lineage requests s.shared.log r (editsOf requests (key r) s.shared.log)

theorem complete_concluded (complete : E.Complete requests s) {row : ρ} {fault : Option ω} {admitted : Prop}
    [Decidable admitted] (here : admitted →
      E.Lineage requests (s.shared.log ++ [i]) row (editsOf requests (key row) (s.shared.log ++ [i])))
    (own : ∀ k ≠ key row, editsOf requests k [i] = []) {shared : Saved ι key} {call : Phase ρ ω}
    (step : E.concluded i s.shared fault admitted row = (shared, call)) :
    E.Complete requests ⟨shared, Function.update s.calls i call⟩ := by
  unfold concluded at step
  cases fault with
  | some failure =>
      cases step
      exact complete
  | none =>
      by_cases taken : admitted
      · simp only [if_pos taken] at step
        cases step
        intro r mem
        rcases Table.mem_save.mp mem with rfl | ⟨old, other⟩
        · exact here taken
        · rw [editsOf_append, own _ other, List.append_nil]
          exact (complete r old).append i
      · simp only [if_neg taken] at step
        cases step
        exact complete

theorem complete_next (sound : E.Sound requests s) (complete : E.Complete requests s) {move : ι × Option ω}
    (timely : Timely s move) : E.Complete requests (E.next requests s move) := by
  obtain ⟨i, fault⟩ := move
  refine Pool.next_keeps (E.Complete requests) complete fun shared call step => ?_
  unfold act at step
  cases phase : s.calls i with
  | done result =>
      rw [phase] at step
      cases step
  | waiting =>
      rw [phase, Option.some_inj] at step
      cases step
      exact complete
  | inserting row =>
      rw [phase, Option.some_inj] at step
      have inserts := sound.inserting i row phase
      refine complete_concluded complete (fun taken => ?_) (fun k _ => editsOf_insert inserts k) step
      have new : editsOf requests (key row) s.shared.log = [] :=
        not_not.mp fun some' => sound.edited (key row) some' taken.1
      rw [editsOf_append, new, editsOf_insert inserts]
      exact .inserted inserts
  | editing base row =>
      rw [phase, Option.some_inj] at step
      obtain ⟨k, e, -, request, rfl, -, edits⟩ := sound.editing i base row phase
      have lineage := complete base (Table.mem_of_find? (timely base row phase))
      refine complete_concluded complete (fun _ => ?_) (fun k ne => editsOf_other request (edits.key_eq ▸ ne.symm)) step
      rw [edits.key_eq, editsOf_append, editsOf_edit request]
      exact lineage.edited request edits

theorem complete_run {moves : List (ι × Option ω)} (timely : AllMet Timely (E.next requests) opening moves) :
    E.Complete requests (moves.foldl (E.next requests) opening) := by
  have run := (Run.ofAllMet timely).strengthen (E.Sound requests) sound_opening fun s move sound _ => sound_next sound move
  exact run.invariant (E.Complete requests) (fun r mem => absurd mem List.not_mem_nil) fun s move complete met =>
    complete_next met.1 complete met.2

variable (E) in
def Follows : ρ → ρ → Prop := Relation.ReflTransGen fun r r' => ∃ e, E.Edits e r r'

theorem follows_next (sound : E.Sound requests s) {k : κ} {r : ρ} (found : s.shared.rows.find? k = some r)
    {move : ι × Option ω} (timely : Timely s move) :
    ∃ r', (E.next requests s move).shared.rows.find? k = some r' ∧ E.Follows r r' := by
  obtain ⟨i, fault⟩ := move
  refine Pool.next_keeps (fun t : Desk ι ω key => ∃ r', t.shared.rows.find? k = some r' ∧ E.Follows r r')
    ⟨r, found, .refl⟩ fun shared call step => ?_
  have of_saved {admitted : Prop} [Decidable admitted] {row : ρ} (saved : admitted → key row = k → E.Follows r row)
      (step : E.concluded i s.shared fault admitted row = (shared, call)) :
      ∃ r', shared.rows.find? k = some r' ∧ E.Follows r r' := by
    unfold concluded at step
    cases fault with
    | some failure =>
        cases step
        exact ⟨r, found, .refl⟩
    | none =>
        by_cases taken : admitted
        · simp only [if_pos taken] at step
          cases step
          rw [Table.find?_save]
          split_ifs with here
          · exact ⟨row, rfl, saved taken here⟩
          · exact ⟨r, found, .refl⟩
        · simp only [if_neg taken] at step
          cases step
          exact ⟨r, found, .refl⟩
  unfold act at step
  cases phase : s.calls i with
  | done result =>
      rw [phase] at step
      cases step
  | waiting =>
      rw [phase, Option.some_inj] at step
      cases step
      exact ⟨r, found, .refl⟩
  | inserting row =>
      rw [phase, Option.some_inj] at step
      refine of_saved (fun taken same => ?_) step
      rw [same, found] at taken
      exact absurd taken.1 (by simp)
  | editing base row =>
      rw [phase, Option.some_inj] at step
      obtain ⟨-, e, -, -, -, -, edits⟩ := sound.editing i base row phase
      refine of_saved (fun _ same => ?_) step
      have current := timely base row phase
      rw [← edits.key_eq, same, found, Option.some_inj] at current
      exact .single ⟨e, current ▸ edits⟩

theorem follows_run {moves later : List (ι × Option ω)} {k : κ} {r : ρ}
    (found : (moves.foldl (E.next requests) opening).shared.rows.find? k = some r)
    (timely : AllMet Timely (E.next requests) (moves.foldl (E.next requests) opening) later) :
    ∃ r', ((moves ++ later).foldl (E.next requests) opening).shared.rows.find? k = some r' ∧ E.Follows r r' := by
  rw [List.foldl_append]
  have run := (Run.ofAllMet timely).strengthen (E.Sound requests) (sound_run requests moves)
    fun s move sound _ => sound_next sound move
  refine run.invariant (fun t : Desk ι ω key => ∃ r', t.shared.rows.find? k = some r' ∧ E.Follows r r')
    ⟨r, found, .refl⟩ fun s move there met => ?_
  obtain ⟨r', found', follows⟩ := there
  obtain ⟨r'', found'', follows'⟩ := follows_next met.1 found' met.2
  exact ⟨r'', found'', follows.trans follows'⟩

/-! ## Numbers -/

def used {γ α : Type*} [DecidableEq γ] (f : ρ → γ × α) (rows : Table key) (g : γ) : List α :=
  ((rows.rows.map f).filter fun x => x.1 = g).map Prod.snd

omit [DecidableEq κ] [DecidableEq ι] in
theorem mem_used {γ α : Type*} [DecidableEq γ] {f : ρ → γ × α} {rows : Table key} {g : γ} {a : α} :
    a ∈ used f rows g ↔ ∃ r ∈ rows.rows, f r = (g, a) := by
  simp only [used, List.mem_map, List.mem_filter, decide_eq_true_eq]
  constructor
  · rintro ⟨x, ⟨⟨r, mem, rfl⟩, rfl⟩, rfl⟩
    exact ⟨r, mem, rfl⟩
  · rintro ⟨r, mem, eq⟩
    exact ⟨(g, a), ⟨⟨r, mem, eq⟩, rfl⟩, rfl⟩

/-- A new row of a group takes the number after one that the group has, or the first one; no edit changes it, and
an index keeps the numbers of a group apart. -/
structure Numbering {γ α : Type*} [DecidableEq γ] (E : Editing ε ω key) (requests : ι → Request ε ω key) (f : ρ → γ × α)
    (number : ℕ → α) : Prop where
  kept : ∀ e r r', E.Edits e r r' → f r' = f r
  apart : ∀ r r', E.apart r r' = true → f r ≠ f r'
  drawn : ∀ i make rows row, requests i = .insert make → make rows = .ok row →
    Gapless number (used f rows (f row).1) → ∃ count ≤ (used f rows (f row).1).length, (f row).2 = number count

variable {γ α : Type*} [DecidableEq γ] {f : ρ → γ × α} {number : ℕ → α}

/-- The numbers of each group go on without a gap; a call that is about to insert may have one that is taken. -/
structure Numbered (f : ρ → γ × α) (number : ℕ → α) (s : Desk ι ω key) : Prop where
  gapless : ∀ g, Gapless number (used f s.shared.rows g)
  held : ∀ i row, s.calls i = .inserting row →
    ∃ count ≤ (used f s.shared.rows (f row).1).length, (f row).2 = number count

theorem Numbered.of_phase (numbered : Numbered f number s) {call : Phase ρ ω} (fresh : ∀ row, call = .inserting row →
    ∃ count ≤ (used f s.shared.rows (f row).1).length, (f row).2 = number count) :
    Numbered f number ⟨s.shared, Function.update s.calls i call⟩ where
  gapless := numbered.gapless
  held j row held := by
    rcases Pool.update_eq_cases held with ⟨-, new⟩ | ⟨-, old⟩
    · exact fresh row new
    · exact numbered.held j row old

theorem used_insert {rows : Table key} {row : ρ} (fresh : rows.find? (key row) = none) (g : γ) :
    used f (rows.save row) g = used f rows g ++ if (f row).1 = g then [(f row).2] else [] := by
  rw [used, Table.rows_save_of_none fresh, List.map_append, List.filter_append, List.map_append]
  by_cases here : (f row).1 = g <;> simp [used, here]

theorem Numbered.of_insert (numbered : Numbered f number s) {row : ρ} (fresh : s.shared.rows.find? (key row) = none)
    (unused : (f row).2 ∉ used f s.shared.rows (f row).1) {log : List ι} {count : ℕ}
    (stale : count ≤ (used f s.shared.rows (f row).1).length) (numbers : (f row).2 = number count) :
    Numbered f number ⟨⟨s.shared.rows.save row, log⟩, Function.update s.calls i (.done (.ok row))⟩ where
  gapless g := by
    rw [used_insert fresh]
    split_ifs with here
    · subst here
      rw [numbers] at unused ⊢
      exact (numbered.gapless _).insert stale unused
    · rw [List.append_nil]
      exact numbered.gapless g
  held j row' held := by
    rcases Pool.update_eq_cases held with ⟨-, new⟩ | ⟨-, old⟩
    · cases new
    · obtain ⟨count, stale, numbers⟩ := numbered.held j row' old
      refine ⟨count, stale.trans ?_, numbers⟩
      change (used f s.shared.rows (f row').1).length ≤ (used f (s.shared.rows.save row) (f row').1).length
      rw [used_insert fresh, List.length_append]
      exact Nat.le_add_right _ _

theorem Numbered.of_edit (numbered : Numbered f number s) {row : ρ} (same : ∀ g, used f (s.shared.rows.save row) g =
    used f s.shared.rows g) {log : List ι} :
    Numbered f number ⟨⟨s.shared.rows.save row, log⟩, Function.update s.calls i (.done (.ok row))⟩ where
  gapless g := by
    rw [same]
    exact numbered.gapless g
  held j row' held := by
    rcases Pool.update_eq_cases held with ⟨-, new⟩ | ⟨-, old⟩
    · cases new
    · obtain ⟨count, stale, numbers⟩ := numbered.held j row' old
      refine ⟨count, ?_, numbers⟩
      change count ≤ (used f (s.shared.rows.save row) (f row').1).length
      rw [same]
      exact stale

theorem numbered_concluded (numbered : Numbered f number s) {row : ρ} {fault : Option ω} {admitted : Prop}
    [Decidable admitted] (saved : admitted → Numbered f number ⟨⟨s.shared.rows.save row, s.shared.log ++ [i]⟩,
      Function.update s.calls i (.done (.ok row))⟩) {shared : Saved ι key} {call : Phase ρ ω}
    (step : E.concluded i s.shared fault admitted row = (shared, call)) :
    Numbered f number ⟨shared, Function.update s.calls i call⟩ := by
  unfold concluded at step
  cases fault with
  | some failure =>
      cases step
      exact numbered.of_phase (by simp)
  | none =>
      by_cases taken : admitted
      · simp only [if_pos taken] at step
        cases step
        exact saved taken
      · simp only [if_neg taken] at step
        cases step
        exact numbered.of_phase (by simp)

theorem numbered_next (numbering : E.Numbering requests f number) (sound : E.Sound requests s) (uniform : Uniform f s)
    (numbered : Numbered f number s) (move : ι × Option ω) : Numbered f number (E.next requests s move) := by
  obtain ⟨i, fault⟩ := move
  refine Pool.next_keeps (Numbered f number) numbered fun shared call step => ?_
  unfold act at step
  cases phase : s.calls i with
  | done result =>
      rw [phase] at step
      cases step
  | waiting =>
      rw [phase, Option.some_inj] at step
      cases step
      refine numbered.of_phase fun row begun => ?_
      unfold Editing.begun at begun
      cases request : requests i with
      | insert make =>
          cases made : make s.shared.rows with
          | error failure =>
              simp only [request, made] at begun
              cases begun
          | ok row' =>
              simp only [request, made] at begun
              cases begun
              exact numbering.drawn i make s.shared.rows row request made (numbered.gapless _)
      | edit k e =>
          cases found : s.shared.rows.find? k with
          | none =>
              simp only [request, found] at begun
              cases begun
          | some base =>
              cases edited : E.edit e s.shared.rows base <;> simp only [request, found, edited] at begun <;> cases begun
  | inserting row =>
      rw [phase, Option.some_inj] at step
      obtain ⟨count, stale, numbers⟩ := numbered.held i row phase
      refine numbered_concluded numbered (fun taken => numbered.of_insert taken.1 (fun mem => ?_) stale numbers) step
      obtain ⟨r, row', same⟩ := mem_used.mp mem
      have other : key r ≠ key row := by
        intro here
        rw [← here, Table.find?_of_mem row'] at taken
        exact absurd taken.1 (by simp)
      exact numbering.apart r row (taken.2 r row' other) same
  | editing base row =>
      rw [phase, Option.some_inj] at step
      obtain ⟨-, e, -, -, -, -, edits⟩ := sound.editing i base row phase
      obtain ⟨r, found, same⟩ := uniform i base row phase
      rw [← edits.key_eq] at found
      refine numbered_concluded numbered (fun _ => numbered.of_edit fun g => ?_) step
      rw [used, Table.map_save f found ((numbering.kept e base row edits).trans same)]
      rfl

theorem numbered_run (numbering : E.Numbering requests f number) (moves : List (ι × Option ω)) :
    Numbered f number (moves.foldl (E.next requests) opening) := by
  have general (s : Desk ι ω key) (sound : E.Sound requests s) (uniform : Uniform f s) (numbered : Numbered f number s) :
      Numbered f number (moves.foldl (E.next requests) s) := by
    induction moves generalizing s with
    | nil => exact numbered
    | cons move moves ih =>
        have uniform' := (uniform_next (P := fun _ => True) numbering.kept (fun _ _ _ _ => trivial) sound uniform move).1
        exact ih _ (sound_next sound move) uniform' (numbered_next numbering sound uniform numbered move)
  exact general opening sound_opening nofun ⟨fun _ => .refl _, nofun⟩

end Editing
end Foundations
