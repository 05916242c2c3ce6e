import Mathlib.Data.List.Infix

/-!
# Records and fields

Texts of records that end with a line break of two characters, each of fields with a delimiter between them,
and what splitting such a text gives: the fields that were written, unless one of them has a delimiter or a
line break in it.
-/

namespace Foundations.Records

def lineBreak : List Char := ['\r', '\n']

def splitLines : List Char → List (List Char)
  | [] => [[]]
  | '\r' :: '\n' :: cs => [] :: splitLines cs
  | c :: cs => (splitLines cs).modifyHead (c :: ·)

def Free (delimiter : Char) (cs : List Char) : Prop := delimiter ∉ cs ∧ ¬ lineBreak <:+: cs

instance (delimiter : Char) (cs : List Char) : Decidable (Free delimiter cs) := inferInstanceAs (Decidable (_ ∧ _))

def written (delimiter : Char) (records : List (List (List Char))) : List Char :=
  records.flatMap fun fields => [delimiter].intercalate fields ++ lineBreak

variable {delimiter c : Char} {cs ds : List Char}

/-! ## Line breaks -/

theorem splitLines_cons (apart : ¬ lineBreak <+: c :: cs) : splitLines (c :: cs) = (splitLines cs).modifyHead (c :: ·) := by
  rw [splitLines.eq_3]
  rintro tail rfl rfl
  exact apart ⟨tail, rfl⟩

theorem splitLines_ne_nil (cs : List Char) : splitLines cs ≠ [] := by
  induction cs using splitLines.induct with
  | case1 => exact List.cons_ne_nil _ _
  | case2 cs ih => exact List.cons_ne_nil _ _
  | case3 c cs apart ih =>
      rw [splitLines.eq_3 c cs apart]
      simpa using ih

/-- A line break splits a text wherever it stands: no other one reaches over its start. -/
theorem splitLines_append (cs ds : List Char) :
    splitLines (cs ++ '\r' :: '\n' :: ds) = splitLines cs ++ splitLines ds := by
  induction cs using splitLines.induct with
  | case1 => rfl
  | case2 cs ih => exact congrArg ([] :: ·) ih
  | case3 c cs apart ih =>
      have apart' : ¬ lineBreak <+: c :: (cs ++ '\r' :: '\n' :: ds) := by
        rintro ⟨tail, eq⟩
        obtain ⟨rfl, rest⟩ := List.cons.inj eq
        cases cs with
        | nil => exact absurd (List.cons.inj rest).1 (by decide)
        | cons d cs =>
            obtain ⟨rfl, -⟩ := List.cons.inj rest
            exact apart cs rfl rfl
      obtain ⟨first, others, parts⟩ := List.exists_cons_of_ne_nil (splitLines_ne_nil cs)
      rw [List.cons_append, splitLines_cons apart', ih, splitLines.eq_3 c cs apart, parts]
      rfl

theorem splitLines_eq_self (unbroken : ¬ lineBreak <:+: cs) : splitLines cs = [cs] := by
  induction cs with
  | nil => rfl
  | cons c cs ih =>
      rw [List.infix_cons_iff, not_or] at unbroken
      rw [splitLines_cons unbroken.1, ih unbroken.2]
      rfl

theorem unbroken_of_mem {line : List Char} (mem : line ∈ splitLines cs) : ¬ lineBreak <:+: line := by
  have empty : ¬ lineBreak <:+: [] := by decide
  -- A line break at the start of the first part would stand at the start of the text.
  have general : (∀ line ∈ splitLines cs, ¬ lineBreak <:+: line) ∧ ∀ first ∈ (splitLines cs).head?, first <+: cs := by
    clear mem
    induction cs using splitLines.induct with
    | case1 => simp [splitLines, empty]
    | case2 cs ih =>
        rw [splitLines, List.forall_mem_cons]
        exact ⟨⟨empty, ih.1⟩, by simp⟩
    | case3 c cs apart ih =>
        obtain ⟨first, others, parts⟩ := List.exists_cons_of_ne_nil (splitLines_ne_nil cs)
        rw [parts, List.forall_mem_cons] at ih
        obtain ⟨⟨clean, rest⟩, start⟩ := ih
        have start : first <+: cs := start first rfl
        rw [splitLines.eq_3 c cs apart, parts, List.modifyHead_cons, List.forall_mem_cons, List.infix_cons_iff, not_or]
        refine ⟨⟨⟨fun here => ?_, clean⟩, rest⟩, ?_⟩
        · obtain ⟨tail, eq⟩ := here.trans (List.cons_prefix_cons.mpr ⟨rfl, start⟩)
          obtain ⟨rfl, rfl⟩ := List.cons.inj eq
          exact apart tail rfl rfl
        · intro whole here
          obtain rfl := Option.some_inj.mp here
          exact List.cons_prefix_cons.mpr ⟨rfl, start⟩
  exact general.1 line mem

theorem unbroken_append (other : c ∉ lineBreak) (left : ¬ lineBreak <:+: cs) (right : ¬ lineBreak <:+: ds) :
    ¬ lineBreak <:+: cs ++ c :: ds := by
  induction cs with
  | nil =>
      rw [List.nil_append, List.infix_cons_iff, not_or]
      refine ⟨fun here => other ?_, right⟩
      rw [← (List.cons_prefix_cons.mp here).1]
      exact List.mem_cons_self
  | cons d cs ih =>
      rw [List.infix_cons_iff, not_or] at left
      rw [List.cons_append, List.infix_cons_iff, not_or]
      refine ⟨fun here => ?_, ih left.2⟩
      obtain ⟨rfl, tail⟩ := List.cons_prefix_cons.mp here
      cases cs with
      | nil =>
          apply other
          rw [← (List.cons_prefix_cons.mp tail).1]
          exact List.mem_cons_of_mem _ List.mem_cons_self
      | cons e cs =>
          obtain ⟨rfl, -⟩ := List.cons_prefix_cons.mp tail
          exact left.1 ⟨cs, rfl⟩

/-! ## Fields -/

theorem infix_intercalate {field : List Char} {fields : List (List Char)} (mem : field ∈ fields) :
    field <:+: [delimiter].intercalate fields := by
  induction fields with
  | nil => cases mem
  | cons first others ih =>
      cases others with
      | nil =>
          rw [List.intercalate_singleton, List.mem_singleton.mp mem]
      | cons second others =>
          rw [List.intercalate_cons_cons]
          rcases List.mem_cons.mp mem with rfl | rest
          · exact ⟨[], _, by rw [List.nil_append, List.append_assoc]⟩
          · exact (ih rest).trans (List.suffix_append _ _).isInfix

theorem not_mem_of_mem_splitOn {field : List Char} (mem : field ∈ cs.splitOn delimiter) : delimiter ∉ field := by
  induction cs generalizing field with
  | nil =>
      rw [List.splitOn_nil, List.mem_singleton] at mem
      rw [mem]
      exact List.not_mem_nil
  | cons c cs ih =>
      rw [List.splitOn_cons_eq_if_modifyHead] at mem
      split_ifs at mem with here
      · rcases List.mem_cons.mp mem with rfl | rest
        · exact List.not_mem_nil
        · exact ih rest
      · obtain ⟨first, others, parts⟩ := List.exists_cons_of_ne_nil (List.splitOn_ne_nil delimiter cs)
        rw [parts] at ih mem
        rcases List.mem_cons.mp mem with rfl | rest
        · rw [List.mem_cons, not_or]
          exact ⟨fun same => here (beq_iff_eq.mpr same.symm), ih List.mem_cons_self⟩
        · exact ih (List.mem_cons_of_mem _ rest)

theorem free_of_mem {line field : List Char} (record : line ∈ splitLines cs) (mem : field ∈ line.splitOn delimiter) :
    Free delimiter field := by
  refine ⟨not_mem_of_mem_splitOn mem, fun broken => unbroken_of_mem record (broken.trans ?_)⟩
  have inside : field <:+: [delimiter].intercalate (line.splitOn delimiter) := infix_intercalate mem
  rwa [List.intercalate_splitOn] at inside

theorem unbroken_intercalate {fields : List (List Char)} (other : delimiter ∉ lineBreak)
    (free : ∀ field ∈ fields, Free delimiter field) : ¬ lineBreak <:+: [delimiter].intercalate fields := by
  induction fields with
  | nil =>
      rw [List.intercalate_nil]
      decide
  | cons first others ih =>
      rw [List.forall_mem_cons] at free
      cases others with
      | nil =>
          rw [List.intercalate_singleton]
          exact free.1.2
      | cons second others =>
          rw [List.intercalate_cons_cons, List.append_assoc]
          exact unbroken_append other free.1.2 (ih free.2)

/-! ## Whole texts -/

theorem intercalate_lineBreak (fields : List (List Char)) (records : List (List (List Char))) :
    lineBreak.intercalate ((fields :: records).map [delimiter].intercalate) ++ lineBreak =
      written delimiter (fields :: records) := by
  induction records generalizing fields with
  | nil => simp [written]
  | cons next records ih =>
      rw [List.map_cons, List.map_cons, List.intercalate_cons_cons, ← List.map_cons, List.append_assoc, ih]
      rfl

theorem splitLines_written {records : List (List (List Char))} (other : delimiter ∉ lineBreak)
    (free : ∀ fields ∈ records, ∀ field ∈ fields, Free delimiter field) :
    splitLines (written delimiter records) = records.map [delimiter].intercalate ++ [[]] := by
  induction records with
  | nil => rfl
  | cons fields records ih =>
      rw [List.forall_mem_cons] at free
      have line := splitLines_eq_self (unbroken_intercalate other free.1)
      have text : written delimiter (fields :: records) =
          [delimiter].intercalate fields ++ '\r' :: '\n' :: written delimiter records := by
        simp [written, lineBreak]
      rw [text, splitLines_append, line, ih free.2, List.map_cons]
      rfl

theorem splitOn_written {fields : List (List Char)} (some : fields ≠ []) (free : ∀ field ∈ fields, Free delimiter field) :
    ([delimiter].intercalate fields).splitOn delimiter = fields :=
  List.splitOn_intercalate delimiter (fun field mem => (free field mem).1) some

end Foundations.Records
