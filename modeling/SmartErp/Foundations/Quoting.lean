import Mathlib.Data.List.Infix

/-!
# Records with quoted fields

A reader of delimited text: a field that begins with a quote goes on to the closing quote, two quotes standing
for one, and outside quotes CR, LF or both end a record. What it makes of a record in which some fields are
quoted and others are not: the fields that were written, exactly if the unquoted ones are plain.
-/

namespace Foundations.Quoting

abbrev Record := List (List Char)

/-- Where the reader is: at the start of a field, also after a CR; in a field, quoted or not; or after a quote
that may close the field. -/
inductive Mode where
  | start
  | returned
  | plain
  | quoted
  | closing
  deriving DecidableEq

structure Reading where
  mode : Mode
  field : List Char
  fields : Record

def quote : Char := Char.ofNat 34

def Reading.fresh (fields : Record) : Reading := ⟨.start, [], fields⟩

def Reading.outside (delimiter c : Char) (s : Reading) : Reading × List Record :=
  if c = delimiter then (.fresh (s.fields ++ [s.field]), [])
  else if c = '\r' then (⟨.returned, [], []⟩, [s.fields ++ [s.field]])
  else if c = '\n' then (.fresh [], [s.fields ++ [s.field]])
  else (⟨.plain, s.field ++ [c], s.fields⟩, [])

def Reading.step (delimiter c : Char) (s : Reading) : Reading × List Record :=
  match s.mode with
  | .start => if c = quote then (⟨.quoted, [], s.fields⟩, []) else s.outside delimiter c
  | .returned =>
      if c = '\n' then (.fresh [], [])
      else if c = quote then (⟨.quoted, [], s.fields⟩, []) else s.outside delimiter c
  | .plain => s.outside delimiter c
  | .quoted => if c = quote then (⟨.closing, s.field, s.fields⟩, []) else (⟨.quoted, s.field ++ [c], s.fields⟩, [])
  | .closing => if c = quote then (⟨.quoted, s.field ++ [c], s.fields⟩, []) else s.outside delimiter c

def Reading.finish (s : Reading) : List Record :=
  if (s.mode = .start ∨ s.mode = .returned) ∧ s.fields = [] then [] else [s.fields ++ [s.field]]

def Reading.run (delimiter : Char) (s : Reading) : List Char → List Record
  | [] => s.finish
  | c :: cs => (s.step delimiter c).2 ++ (s.step delimiter c).1.run delimiter cs

def read (delimiter : Char) (text : List Char) : List Record := (Reading.fresh []).run delimiter text

/-! ## What is written -/

structure Field where
  quoted : Bool
  value : List Char

def doubled (cs : List Char) : List Char := cs.flatMap fun c => if c = quote then [quote, quote] else [c]

def Field.text (f : Field) : List Char := if f.quoted then quote :: (doubled f.value ++ [quote]) else f.value

def lineBreak : List Char := ['\r', '\n']

def line (delimiter : Char) (fields : List Field) : List Char :=
  [delimiter].intercalate (fields.map Field.text) ++ lineBreak

structure Plain (delimiter : Char) (cs : List Char) : Prop where
  free : ∀ c ∈ cs, c ≠ delimiter ∧ c ≠ '\r' ∧ c ≠ '\n'
  unquoted : cs.head? ≠ some quote

def Field.Good (delimiter : Char) (f : Field) : Prop := f.quoted = true ∨ Plain delimiter f.value

section
variable {delimiter c : Char} {s : Reading} {cs rest : List Char} {fields : Record}

theorem run_cons : s.run delimiter (c :: cs) = (s.step delimiter c).2 ++ (s.step delimiter c).1.run delimiter cs := rfl

theorem run_plain (free : ∀ c ∈ cs, c ≠ delimiter ∧ c ≠ '\r' ∧ c ≠ '\n') (before : List Char) :
    Reading.run delimiter ⟨.plain, before, fields⟩ (cs ++ rest) =
      Reading.run delimiter ⟨.plain, before ++ cs, fields⟩ rest := by
  induction cs generalizing before with
  | nil => rw [List.nil_append, List.append_nil]
  | cons c cs ih =>
      rw [List.forall_mem_cons] at free
      obtain ⟨⟨other, cr, lf⟩, free⟩ := free
      rw [List.cons_append, run_cons]
      simp only [Reading.step, Reading.outside, if_neg other, if_neg cr, if_neg lf, List.nil_append]
      rw [ih free, List.append_assoc, List.singleton_append]

theorem run_quoted (before : List Char) :
    Reading.run delimiter ⟨.quoted, before, fields⟩ (doubled cs ++ quote :: rest) =
      Reading.run delimiter ⟨.closing, before ++ cs, fields⟩ rest := by
  induction cs generalizing before with
  | nil => simp [doubled, run_cons, Reading.step]
  | cons c cs ih =>
      by_cases here : c = quote
      · subst here
        have two : doubled (quote :: cs) = quote :: quote :: doubled cs := by simp [doubled]
        rw [two, List.cons_append, List.cons_append, run_cons, run_cons]
        simp only [Reading.step, if_pos, List.nil_append]
        rw [ih, List.append_assoc, List.singleton_append]
      · have one : doubled (c :: cs) = c :: doubled cs := by simp [doubled, here]
        rw [one, List.cons_append, run_cons]
        simp only [Reading.step, if_neg here, List.nil_append]
        rw [ih, List.append_assoc, List.singleton_append]

theorem outside_eq {mode : Mode} {field : List Char} :
    Reading.outside delimiter c ⟨mode, field, fields⟩ = Reading.outside delimiter c ⟨.plain, field, fields⟩ := rfl

/-! ## Good fields -/

theorem run_good {f : Field} (good : f.Good delimiter) (other : c ≠ quote) :
    (Reading.fresh fields).run delimiter (f.text ++ c :: rest) =
      (Reading.outside delimiter c ⟨.plain, f.value, fields⟩).2 ++
        (Reading.outside delimiter c ⟨.plain, f.value, fields⟩).1.run delimiter rest := by
  have opened : Reading.step delimiter quote (.fresh fields) = (⟨.quoted, [], fields⟩, []) := by
    simp [Reading.step, Reading.fresh]
  obtain ⟨quoted, value⟩ := f
  cases quoted with
  | true =>
      have text : Field.text ⟨true, value⟩ ++ c :: rest = quote :: (doubled value ++ quote :: c :: rest) := by
        simp [Field.text]
      rw [text, run_cons, opened, List.nil_append, run_quoted, run_cons]
      simp only [Reading.step, if_neg other, outside_eq, List.nil_append]
  | false =>
      have plain : Plain delimiter value := good.resolve_left Bool.false_ne_true
      cases value with
      | nil =>
          have text : Field.text ⟨false, []⟩ ++ c :: rest = c :: rest := rfl
          rw [text, run_cons]
          simp only [Reading.step, Reading.fresh, if_neg other, outside_eq]
      | cons v vs =>
          have free := plain.free
          rw [List.forall_mem_cons] at free
          obtain ⟨⟨apart, cr, lf⟩, free⟩ := free
          have unquoted : v ≠ quote := fun here => plain.unquoted (congrArg some here)
          have text : Field.text ⟨false, v :: vs⟩ ++ c :: rest = v :: (vs ++ c :: rest) := rfl
          rw [text, run_cons]
          have first : Reading.step delimiter v (.fresh fields) = (⟨.plain, [v], fields⟩, []) := by
            simp only [Reading.step, Reading.fresh, Reading.outside, if_neg unquoted, if_neg apart, if_neg cr, if_neg lf,
              List.nil_append]
          rw [first, List.nil_append]
          rw [run_plain free, List.singleton_append, run_cons]
          simp only [Reading.step]

/-! ## Other fields -/

def Reading.Sound (s : Reading) : Prop :=
  (s.mode = .start ∨ s.mode = .returned → s.field = []) ∧ (s.mode = .returned → s.fields = [])

theorem fresh_sound : (Reading.fresh fields).Sound := ⟨fun _ => rfl, fun mode => by cases mode⟩

def Reading.Advances (s : Reading) (after : Reading × List Record) : Prop :=
  after.2 = [s.fields ++ [s.field]] ∨
    after.2 = [] ∧ after.1.Sound ∧
      (after.1 = .fresh (s.fields ++ [s.field]) ∨ after.1.fields = s.fields ∧ s.field <+: after.1.field)

theorem outside_advances : s.Advances (s.outside delimiter c) := by
  unfold Reading.outside
  split_ifs
  · exact .inr ⟨rfl, fresh_sound, .inl rfl⟩
  · exact .inl rfl
  · exact .inl rfl
  · exact .inr ⟨rfl, by simp [Reading.Sound], .inr ⟨rfl, List.prefix_append _ _⟩⟩

theorem step_advances (sound : s.Sound) : s.Advances (s.step delimiter c) := by
  obtain ⟨mode, field, fields⟩ := s
  cases mode with
  | start =>
      obtain rfl : field = [] := sound.1 (.inl rfl)
      by_cases quotes : c = quote
      · simp only [Reading.step, if_pos quotes]
        exact .inr ⟨rfl, by simp [Reading.Sound], .inr ⟨rfl, List.nil_prefix⟩⟩
      · simp only [Reading.step, if_neg quotes]
        exact outside_advances
  | returned =>
      obtain rfl : field = [] := sound.1 (.inr rfl)
      obtain rfl : fields = [] := sound.2 rfl
      by_cases lf : c = '\n'
      · simp only [Reading.step, if_pos lf]
        exact .inr ⟨rfl, fresh_sound, .inr ⟨rfl, List.nil_prefix⟩⟩
      by_cases quotes : c = quote
      · simp only [Reading.step, if_neg lf, if_pos quotes]
        exact .inr ⟨rfl, by simp [Reading.Sound], .inr ⟨rfl, List.nil_prefix⟩⟩
      · simp only [Reading.step, if_neg lf, if_neg quotes]
        exact outside_advances
  | plain => exact outside_advances
  | quoted =>
      by_cases quotes : c = quote
      · simp only [Reading.step, if_pos quotes]
        exact .inr ⟨rfl, by simp [Reading.Sound], .inr ⟨rfl, List.prefix_rfl⟩⟩
      · simp only [Reading.step, if_neg quotes]
        exact .inr ⟨rfl, by simp [Reading.Sound], .inr ⟨rfl, List.prefix_append _ _⟩⟩
  | closing =>
      by_cases quotes : c = quote
      · simp only [Reading.step, if_pos quotes]
        exact .inr ⟨rfl, by simp [Reading.Sound], .inr ⟨rfl, List.prefix_append _ _⟩⟩
      · simp only [Reading.step, if_neg quotes]
        exact outside_advances

/-- The record that is read next goes on from what is read of it. -/
theorem run_eq_cons (sound : s.Sound) {r : Record} {rs : List Record} (ran : s.run delimiter cs = r :: rs) :
    ∃ tail others, r = s.fields ++ (s.field ++ tail) :: others := by
  induction cs generalizing s with
  | nil =>
      rw [Reading.run, Reading.finish] at ran
      split_ifs at ran
      obtain ⟨rfl, -⟩ := List.cons.inj ran
      exact ⟨[], [], by simp⟩
  | cons c cs ih =>
      rw [run_cons] at ran
      obtain ended | ⟨none, sound', ended | ⟨same, longer⟩⟩ := @step_advances delimiter c s sound
      · rw [ended, List.singleton_append] at ran
        obtain ⟨rfl, -⟩ := List.cons.inj ran
        exact ⟨[], [], by simp⟩
      · rw [none, List.nil_append] at ran
        obtain ⟨tail, others, rfl⟩ := ih sound' ran
        exact ⟨[], tail :: others, by simp [ended, Reading.fresh]⟩
      · rw [none, List.nil_append] at ran
        obtain ⟨tail, others, rfl⟩ := ih sound' ran
        obtain ⟨more, grown⟩ := longer
        exact ⟨more ++ tail, others, by rw [same, ← grown, List.append_assoc]⟩

theorem field_read (sound : s.Sound) {r : Record} {rs : List Record} (ran : s.run delimiter cs = r :: rs) :
    ∃ tail, r[s.fields.length]? = some (s.field ++ tail) := by
  obtain ⟨tail, others, rfl⟩ := run_eq_cons sound ran
  exact ⟨tail, by simp⟩

theorem quotes_read {r : Record} {rs : List Record} (other : c ≠ quote) {n : Nat} (k : Nat)
    (ran : Reading.run delimiter ⟨.quoted, .replicate k quote, fields⟩ (.replicate n quote ++ c :: rest) = r :: rs) :
    ∃ j tail, j ≤ k + n ∧ tail.head? ≠ some quote ∧ r[fields.length]? = some (.replicate j quote ++ tail) := by
  induction n using Nat.twoStepInduction generalizing k with
  | zero =>
      rw [List.replicate_zero, List.nil_append, run_cons] at ran
      simp only [Reading.step, if_neg other, List.nil_append] at ran
      obtain ⟨tail, found⟩ := field_read (by simp [Reading.Sound]) ran
      exact ⟨k, c :: tail, Nat.le_refl k, fun quotes => other (Option.some.inj quotes), by
        simpa only [List.append_assoc, List.singleton_append] using found⟩
  | one =>
      rw [List.replicate_one, List.singleton_append, run_cons, run_cons] at ran
      simp only [Reading.step, if_neg other, if_true, List.nil_append, outside_eq] at ran
      unfold Reading.outside at ran
      split_ifs at ran
      · obtain ⟨tail, others, rfl⟩ := run_eq_cons fresh_sound ran
        exact ⟨k, [], Nat.le_succ k, by simp, by simp [Reading.fresh]⟩
      · obtain ⟨rfl, -⟩ := List.cons.inj ran
        exact ⟨k, [], Nat.le_succ k, by simp, by simp⟩
      · obtain ⟨rfl, -⟩ := List.cons.inj ran
        exact ⟨k, [], Nat.le_succ k, by simp, by simp⟩
      · obtain ⟨tail, found⟩ := field_read (by simp [Reading.Sound]) ran
        exact ⟨k, c :: tail, Nat.le_succ k, fun quotes => other (Option.some.inj quotes), by
          simpa only [List.append_assoc, List.singleton_append] using found⟩
  | more n ih _ =>
      have two : List.replicate (n + 2) quote ++ c :: rest =
          quote :: quote :: (List.replicate n quote ++ c :: rest) := rfl
      have one : List.replicate k quote ++ [quote] = .replicate (k + 1) quote := List.replicate_succ'.symm
      rw [two, run_cons, run_cons] at ran
      simp only [Reading.step, if_true, List.nil_append, one] at ran
      obtain ⟨j, tail, few, unquoted, found⟩ := ih (k + 1) ran
      exact ⟨j, tail, by omega, unquoted, found⟩

theorem replicate_append_ne {j k : Nat} {xs ys : List Char} (fewer : j < k) (unquoted : xs.head? ≠ some quote) :
    List.replicate j quote ++ xs ≠ .replicate k quote ++ ys := by
  intro same
  obtain ⟨d, rfl⟩ := Nat.exists_eq_add_of_lt fewer
  rw [Nat.add_assoc, List.replicate_add, List.append_assoc] at same
  rw [List.append_cancel_left same] at unquoted
  exact unquoted rfl

theorem exists_quotes (cs : List Char) : ∃ n tail, cs = .replicate n quote ++ tail ∧ tail.head? ≠ some quote := by
  induction cs with
  | nil => exact ⟨0, [], rfl, by simp⟩
  | cons c cs ih =>
      by_cases quotes : c = quote
      · obtain ⟨n, tail, rfl, ends⟩ := ih
        exact ⟨n + 1, tail, by rw [quotes]; rfl, ends⟩
      · exact ⟨0, c :: cs, rfl, fun head => quotes (Option.some.inj head)⟩

theorem exists_special {cs : List Char} (special : ¬ ∀ c ∈ cs, c ≠ delimiter ∧ c ≠ '\r' ∧ c ≠ '\n') :
    ∃ before c after, cs = before ++ c :: after ∧ (∀ c ∈ before, c ≠ delimiter ∧ c ≠ '\r' ∧ c ≠ '\n') ∧
      (c = delimiter ∨ c = '\r' ∨ c = '\n') := by
  induction cs with
  | nil => exact absurd (List.forall_mem_nil _) special
  | cons c cs ih =>
      by_cases here : c ≠ delimiter ∧ c ≠ '\r' ∧ c ≠ '\n'
      · obtain ⟨before, d, after, rfl, free, ends⟩ := ih fun free => special (List.forall_mem_cons.mpr ⟨here, free⟩)
        exact ⟨c :: before, d, after, rfl, List.forall_mem_cons.mpr ⟨here, free⟩, ends⟩
      · exact ⟨[], c, cs, rfl, List.forall_mem_nil _, by tauto⟩

theorem run_bad {f : Field} (apart : delimiter ≠ quote) (bad : ¬f.Good delimiter) (other : c ≠ quote) {r : Record}
    {rs : List Record} (ran : (Reading.fresh fields).run delimiter (f.text ++ c :: rest) = r :: rs) :
    r[fields.length]? ≠ some f.value := by
  obtain ⟨quoted, value⟩ := f
  obtain ⟨unquoted, special⟩ := not_or.mp bad
  obtain rfl : quoted = false := Bool.eq_false_iff.mpr unquoted
  by_cases quotes : value.head? = some quote
  · obtain ⟨n, tail, rfl, ends⟩ := exists_quotes value
    cases n with
    | zero => exact absurd quotes ends
    | succ n =>
        obtain ⟨d, after, more, apart⟩ : ∃ d after, tail ++ c :: rest = d :: after ∧ d ≠ quote := by
          cases tail with
          | nil => exact ⟨c, rest, rfl, other⟩
          | cons d tail => exact ⟨d, tail ++ c :: rest, rfl, fun same => ends (congrArg some same)⟩
        have text : Field.text ⟨false, .replicate (n + 1) quote ++ tail⟩ ++ c :: rest =
            quote :: (.replicate n quote ++ d :: after) := by
          rw [← more, ← List.append_assoc]
          rfl
        rw [text, run_cons] at ran
        simp only [Reading.step, Reading.fresh, if_true, List.nil_append] at ran
        obtain ⟨j, others, few, unquoted, found⟩ := quotes_read apart 0 ran
        rw [found]
        exact fun same => replicate_append_ne (by omega) unquoted (Option.some.inj same)
  · obtain ⟨before, d, after, rfl, free, ends⟩ := exists_special fun free => special ⟨free, quotes⟩
    have good : Field.Good delimiter ⟨false, before⟩ := by
      refine .inr ⟨free, fun head => quotes ?_⟩
      rw [List.head?_append, head]
      rfl
    have apart : d ≠ quote := by
      rintro rfl
      obtain same | same | same := ends
      · exact apart same.symm
      · cases same
      · cases same
    have text : Field.text ⟨false, before ++ d :: after⟩ ++ c :: rest =
        Field.text ⟨false, before⟩ ++ d :: (after ++ c :: rest) := List.append_assoc _ _ _
    rw [text, run_good good apart] at ran
    by_cases delimits : d = delimiter
    · simp only [Reading.outside, if_pos delimits, List.nil_append] at ran
      obtain ⟨tail, others, rfl⟩ := run_eq_cons fresh_sound ran
      simp [Reading.fresh]
    · have ended : (Reading.outside delimiter d ⟨.plain, before, fields⟩).2 = [fields ++ [before]] := by
        obtain rfl | rfl := ends.resolve_left delimits
        · simp only [Reading.outside, if_neg delimits, if_true]
        · simp only [Reading.outside, if_neg delimits, if_true]
          rfl
      rw [ended] at ran
      obtain ⟨rfl, -⟩ := List.cons.inj ran
      simp

/-! ## Lines -/

theorem line_cons (f g : Field) (fs : List Field) (rest : List Char) :
    line delimiter (f :: g :: fs) ++ rest = f.text ++ delimiter :: (line delimiter (g :: fs) ++ rest) := by
  simp [line, List.intercalate]

theorem line_single (f : Field) (rest : List Char) : line delimiter [f] ++ rest = f.text ++ '\r' :: '\n' :: rest := by
  simp [line, lineBreak, List.intercalate]

theorem run_lineBreak (s : Reading) (apart : '\r' ≠ delimiter) :
    (Reading.outside delimiter '\r' s).2 ++ (Reading.outside delimiter '\r' s).1.run delimiter ('\n' :: rest) =
      (s.fields ++ [s.field]) :: read delimiter rest := by
  simp only [Reading.outside, if_neg apart, if_true]
  rw [List.singleton_append, run_cons]
  simp only [Reading.step, if_true, List.nil_append]
  rfl

variable (quotes : delimiter ≠ quote) (cr : '\r' ≠ delimiter)
include quotes

include cr in
theorem run_line {fs : List Field} (some : fs ≠ []) (good : ∀ f ∈ fs, f.Good delimiter) (done : Record) :
    (Reading.fresh done).run delimiter (line delimiter fs ++ rest) =
      (done ++ fs.map Field.value) :: read delimiter rest := by
  induction fs generalizing done with
  | nil => exact absurd rfl some
  | cons f fs ih =>
      rw [List.forall_mem_cons] at good
      cases fs with
      | nil => rw [line_single, run_good good.1 (by decide), run_lineBreak _ cr, List.map_singleton]
      | cons g fs =>
          rw [line_cons, run_good good.1 quotes]
          simp only [Reading.outside, if_true, List.nil_append]
          rw [ih (List.cons_ne_nil _ _) good.2, List.append_assoc, List.singleton_append, List.map_cons (l := g :: fs)]

theorem run_line_bad {fs : List Field} (bad : ¬∀ f ∈ fs, f.Good delimiter) (done : Record) {r : Record}
    {rs : List Record} (ran : (Reading.fresh done).run delimiter (line delimiter fs ++ rest) = r :: rs) :
    ∃ i f, fs[i]? = some f ∧ ¬f.Good delimiter ∧ r[done.length + i]? ≠ some f.value := by
  induction fs generalizing done with
  | nil => exact absurd (List.forall_mem_nil _) bad
  | cons f fs ih =>
      by_cases good : f.Good delimiter
      · cases fs with
        | nil => exact absurd (List.forall_mem_singleton.mpr good) bad
        | cons g fs =>
            rw [line_cons, run_good good quotes] at ran
            simp only [Reading.outside, if_true, List.nil_append] at ran
            obtain ⟨i, h, found, other, missing⟩ := ih (fun all => bad (List.forall_mem_cons.mpr ⟨good, all⟩)) _ ran
            exact ⟨i + 1, h, found, other, by simpa [Nat.add_assoc, Nat.add_comm 1 i] using missing⟩
      · refine ⟨0, f, rfl, good, ?_⟩
        cases fs with
        | nil =>
            rw [line_single] at ran
            exact run_bad quotes good (by decide) ran
        | cons g fs =>
            rw [line_cons] at ran
            exact run_bad quotes good quotes ran

include cr in
theorem read_line {fs : List Field} {e : Record} {es : List Record} (some : fs ≠ []) (first : e <+: fs.map Field.value)
    (others : ∀ f ∈ fs.drop e.length, f.Good delimiter) :
    read delimiter (line delimiter fs ++ rest) = e :: es ↔
      (∀ f ∈ fs, f.Good delimiter) ∧ fs.map Field.value = e ∧ read delimiter rest = es := by
  by_cases good : ∀ f ∈ fs, f.Good delimiter
  · rw [read, run_line quotes cr some good, List.nil_append, List.cons.injEq]
    exact ⟨fun same => ⟨good, same⟩, fun same => same.2⟩
  · refine ⟨fun ran => ?_, fun same => absurd same.1 good⟩
    obtain ⟨i, f, found, bad, missing⟩ := run_line_bad quotes good [] ran
    have early : i < e.length := by
      by_contra late
      refine bad (others f (List.mem_iff_getElem?.mpr ⟨i - e.length, ?_⟩))
      rw [List.getElem?_drop, Nat.add_sub_cancel' (Nat.not_lt.mp late), found]
    have value : e[i]? = .some f.value := by
      obtain ⟨tail, more⟩ := first
      have kept : (e ++ tail)[i]? = e[i]? := List.getElem?_append_left early
      rw [← kept, more, List.getElem?_map, found, Option.map_some]
    rw [List.length_nil, Nat.zero_add] at missing
    exact absurd value missing

include cr in
theorem read_lines {entries : List (List Field × Record)}
    (each : ∀ e ∈ entries, e.1 ≠ [] ∧ e.2 <+: e.1.map Field.value ∧ ∀ f ∈ e.1.drop e.2.length, f.Good delimiter) :
    read delimiter (entries.flatMap fun e => line delimiter e.1) = entries.map Prod.snd ↔
      ∀ e ∈ entries, (∀ f ∈ e.1, f.Good delimiter) ∧ e.1.map Field.value = e.2 := by
  induction entries with
  | nil => simp [read, Reading.run, Reading.finish, Reading.fresh]
  | cons e entries ih =>
      rw [List.forall_mem_cons] at each ⊢
      obtain ⟨⟨some, first, others⟩, each⟩ := each
      rw [List.flatMap_cons, List.map_cons, read_line quotes cr some first others, ih each, and_assoc]

omit quotes in
theorem step_outside (s : Reading) (unquoted : s.mode ≠ .quoted) (other : c ≠ quote) (lf : c ≠ '\n') :
    s.step delimiter c = s.outside delimiter c := by
  obtain ⟨mode, field, fields⟩ := s
  cases mode with
  | start => simp only [Reading.step, if_neg other]
  | returned => simp only [Reading.step, if_neg lf, if_neg other]
  | plain => rfl
  | quoted => exact absurd rfl unquoted
  | closing => simp only [Reading.step, if_neg other]

omit quotes in
include cr in
theorem run_returns (raw : ∀ c ∈ cs, c ≠ delimiter ∧ c ≠ quote ∧ c ≠ '\n') (s : Reading) (unquoted : s.mode ≠ .quoted) :
    ∃ p ps, s.run delimiter (cs ++ '\r' :: '\n' :: rest) =
      (s.fields ++ [s.field ++ p]) :: (ps.map ([·]) ++ read delimiter rest) ∧ ('\r' ∈ cs → ps ≠ []) := by
  induction cs generalizing s with
  | nil =>
      refine ⟨[], [], ?_, fun returns => absurd returns (List.not_mem_nil)⟩
      rw [List.nil_append, run_cons, step_outside s unquoted (by decide) (by decide), run_lineBreak s cr,
        List.append_nil]
      rfl
  | cons c cs ih =>
      rw [List.forall_mem_cons] at raw
      obtain ⟨⟨other, apart, lf⟩, raw⟩ := raw
      rw [List.cons_append, run_cons, step_outside s unquoted apart lf]
      by_cases returns : c = '\r'
      · obtain ⟨p, ps, ran, -⟩ := ih raw ⟨.returned, [], []⟩ (by simp)
        refine ⟨[], p :: ps, ?_, fun _ => List.cons_ne_nil _ _⟩
        simp only [Reading.outside, if_neg other, if_pos returns]
        rw [ran, List.append_nil]
        rfl
      · obtain ⟨p, ps, ran, more⟩ := ih raw ⟨.plain, s.field ++ [c], s.fields⟩ (by simp)
        refine ⟨c :: p, ps, ?_, fun here => more ((List.mem_cons.mp here).resolve_left (Ne.symm returns))⟩
        simp only [Reading.outside, if_neg other, if_neg returns, if_neg lf]
        rw [ran, List.nil_append, List.append_assoc, List.singleton_append]

end
end Foundations.Quoting
