import Mathlib.Data.Bool.AllAny
import Mathlib.Data.List.Infix
import Mathlib.Data.List.Basic
import Mathlib.Tactic.IntervalCases

/-!
# A reader of PDF files

The tokens of a page's content, in which a literal string goes to the parenthesis that closes it; and the objects
of a file, found through its table, each with its dictionary on one line and a stream of the length it gives.
-/

namespace Foundations.Pdf

abbrev Bytes := List UInt8

def byte (c : Char) : UInt8 := c.toNat.toUInt8

def bytes (s : String) : Bytes := s.toList.map byte

def isWhite (c : UInt8) : Bool := c ∈ [0, 9, 10, 12, 13, 32]

def isDelimiter (c : UInt8) : Bool := c ∈ ['(', ')', '<', '>', '[', ']', '{', '}', '/', '%'].map byte

def isRegular (c : UInt8) : Bool := !isWhite c && !isDelimiter c

/-! ## Tokens -/

inductive Token where
  | word (cs : Bytes)
  | name (cs : Bytes)
  | string (raw : Bytes)
  | hex (raw : Bytes)
  | opening
  | closing
  | other (c : UInt8)
  deriving DecidableEq

/-- Where a literal string is: in how many parentheses of its own, and whether after a backslash. -/
structure Nesting where
  depth : ℕ
  escaped : Bool
  deriving DecidableEq

def Nesting.outer : Nesting := ⟨0, false⟩

/-- The string goes on, but for the parenthesis that closes it. -/
def Nesting.read (n : Nesting) (c : UInt8) : Option Nesting :=
  if n.escaped then some ⟨n.depth, false⟩
  else if c = byte '\\' then some ⟨n.depth, true⟩
  else if c = byte '(' then some ⟨n.depth + 1, false⟩
  else if c = byte ')' then if n.depth = 0 then none else some ⟨n.depth - 1, false⟩
  else some ⟨n.depth, false⟩

inductive Mode where
  | space
  | word (cs : Bytes)
  | name (cs : Bytes)
  | string (n : Nesting) (raw : Bytes)
  | hex (raw : Bytes)
  | less
  | greater
  | comment
  deriving DecidableEq

def Mode.begin (c : UInt8) : Mode × List Token :=
  if isRegular c then (.word [c], [])
  else if isWhite c then (.space, [])
  else if c = byte '(' then (.string .outer [], [])
  else if c = byte '/' then (.name [], [])
  else if c = byte '<' then (.less, [])
  else if c = byte '>' then (.greater, [])
  else if c = byte '%' then (.comment, [])
  else (.space, [.other c])

def Mode.step (c : UInt8) : Mode → Mode × List Token
  | .space => begin c
  | .word cs => if isRegular c then (.word (cs ++ [c]), []) else ((begin c).1, .word cs :: (begin c).2)
  | .name cs => if isRegular c then (.name (cs ++ [c]), []) else ((begin c).1, .name cs :: (begin c).2)
  | .string n raw =>
      match n.read c with
      | some n => (.string n (raw ++ [c]), [])
      | none => (.space, [.string raw])
  | .hex raw => if c = byte '>' then (.space, [.hex raw]) else (.hex (raw ++ [c]), [])
  | .less => if c = byte '<' then (.space, [.opening]) else if c = byte '>' then (.space, [.hex []]) else (.hex [c], [])
  | .greater => if c = byte '>' then (.space, [.closing]) else ((begin c).1, .other (byte '>') :: (begin c).2)
  | .comment => if c = byte '\n' ∨ c = byte '\r' then (.space, []) else (.comment, [])

def Mode.finish : Mode → List Token
  | .word cs => [.word cs]
  | .name cs => [.name cs]
  | _ => []

def Mode.run (m : Mode) : Bytes → List Token
  | [] => m.finish
  | c :: cs => (m.step c).2 ++ (m.step c).1.run cs

def lex (cs : Bytes) : List Token := Mode.space.run cs

/-! ## Literal strings -/

/-- In a string: after a backslash, in the digits after it, or where an LF belongs to the CR before. -/
inductive Escape where
  | none
  | backslash
  | octal (left : ℕ) (value : ℕ)
  | returned
  deriving DecidableEq

def isOctal (c : UInt8) : Bool := byte '0' ≤ c ∧ c ≤ byte '7'

def Escape.plain (c : UInt8) : Escape × Bytes :=
  if c = byte '\\' then (.backslash, [])
  else if c = byte '\r' then (.returned, [byte '\n'])
  else (.none, [c])

def Escape.step (c : UInt8) : Escape → Escape × Bytes
  | .none => plain c
  | .returned => if c = byte '\n' then (.none, []) else plain c
  | .octal left value =>
      if isOctal c ∧ 0 < left then (.octal (left - 1) (8 * value + (c - byte '0').toNat), [])
      else ((plain c).1, value.toUInt8 :: (plain c).2)
  | .backslash =>
      if c = byte 'n' then (.none, [byte '\n'])
      else if c = byte 'r' then (.none, [byte '\r'])
      else if c = byte 't' then (.none, [byte '\t'])
      else if c = byte 'b' then (.none, [8])
      else if c = byte 'f' then (.none, [12])
      else if c = byte '\r' then (.returned, [])
      else if c = byte '\n' then (.none, [])
      else if isOctal c then (.octal 2 (c - byte '0').toNat, [])
      else (.none, [c])

def Escape.finish : Escape → Bytes
  | .octal _ value => [value.toUInt8]
  | _ => []

def Escape.run (e : Escape) : Bytes → Bytes
  | [] => e.finish
  | c :: cs => (e.step c).2 ++ (e.step c).1.run cs

def decode (raw : Bytes) : Bytes := Escape.none.run raw

/-! ## Files -/

structure Object where
  dictionary : List Token
  stream : Option Bytes
  deriving DecidableEq

structure File where
  root : ℕ
  objects : List Object

def expect (text cs : Bytes) : Option Bytes := if text <+: cs then some (cs.drop text.length) else none

def isDigit (c : UInt8) : Bool := byte '0' ≤ c ∧ c ≤ byte '9'

def number (cs : Bytes) : Option ℕ :=
  if cs.all isDigit ∧ cs ≠ [] then some (Nat.ofDigitChars 10 (cs.map fun c => Char.ofNat c.toNat) 0) else none

def decimal (n : ℕ) : Bytes := (Nat.toDigits 10 n).map byte

def line (cs : Bytes) : Bytes × Bytes := (cs.takeWhile (· ≠ byte '\n'), (cs.dropWhile (· ≠ byte '\n')).drop 1)

def after (name : String) (tokens : List Token) : List Token := (tokens.dropWhile (· ≠ .name (bytes name))).drop 1

def numeral : List Token → Option ℕ
  | .word n :: _ => number n
  | _ => none

def reference : List Token → Option ℕ
  | .word n :: .word g :: .word r :: _ => if g = bytes "0" ∧ r = bytes "R" then number n else none
  | _ => none

def startxref (file : Bytes) : Option ℕ := do
  let cs := (← expect (bytes "\n%%EOF").reverse file.reverse)
  let digits := cs.takeWhile isDigit
  let _ ← expect (bytes "startxref\n").reverse (cs.dropWhile isDigit)
  number digits.reverse

def offsets : ℕ → Bytes → Option (List ℕ × Bytes)
  | 0, cs => some ([], cs)
  | k + 1, cs => do
      let offset ← number ((line cs).1.takeWhile isDigit)
      let others ← if (line cs).1.dropWhile isDigit = bytes " 00000 n " then offsets k (line cs).2 else none
      return (offset :: others.1, others.2)

def table (cs : Bytes) : Option (List ℕ × ℕ) := do
  let cs ← expect (bytes "xref\n0 ") cs
  let size ← number (line cs).1
  let cs ← expect (bytes "0000000000 65535 f \n") (line cs).2
  let (offsets, cs) ← offsets (size - 1) cs
  let cs ← expect (bytes "trailer\n") cs
  let root ← reference (after "Root" (lex (line cs).1))
  if numeral (after "Size" (lex (line cs).1)) = some size then some (offsets, root) else none

def body (cs : Bytes) : Option Object :=
  let dictionary := lex (line cs).1
  let cs := (line cs).2
  if bytes "endobj\n" <+: cs then some ⟨dictionary, none⟩
  else do
    let cs ← expect (bytes "stream\n") cs
    let length ← numeral (after "Length" dictionary)
    if length ≤ cs.length ∧ bytes "\nendstream\nendobj\n" <+: cs.drop length then
      some ⟨dictionary, some (cs.take length)⟩
    else none

def object (file : Bytes) (i offset : ℕ) : Option Object := do
  body (← expect (decimal i ++ bytes " 0 obj\n") (file.drop offset))

def objectsFrom (file : Bytes) : ℕ → List ℕ → Option (List Object)
  | _, [] => some []
  | i, offset :: offsets => do
      let here ← object file i offset
      let others ← objectsFrom file (i + 1) offsets
      return here :: others

def read (file : Bytes) : Option File := do
  let start ← startxref file
  let (offsets, root) ← table (file.drop start)
  let objects ← objectsFrom file 1 offsets
  return ⟨root, objects⟩

/-! ## Pages -/

def references : List Token → Option (List ℕ)
  | .other c :: _ => if c = byte ']' then some [] else none
  | .word n :: .word g :: .word r :: ts =>
      if g = bytes "0" ∧ r = bytes "R" then do
        let i ← number n
        let others ← references ts
        return i :: others
      else none
  | _ => none

def File.object? (f : File) (i : ℕ) : Option Object := if i = 0 then none else f.objects[i - 1]?

def File.tree (f : File) : Option Object := do
  let root ← f.object? f.root
  f.object? (← reference (after "Pages" root.dictionary))

def File.kids (f : File) : Option (List ℕ) := do
  references ((after "Kids" (← f.tree).dictionary).drop 1)

def File.count (f : File) : Option ℕ := do
  numeral (after "Count" (← f.tree).dictionary)

def File.type (f : File) (i : ℕ) : Option Token := do
  (after "Type" (← f.object? i).dictionary).head?

def File.content (f : File) (i : ℕ) : Option ℕ := do
  reference (after "Contents" (← f.object? i).dictionary)

def File.font (f : File) (i : ℕ) : Option ℕ := do
  reference (after "F1" (← f.object? i).dictionary)

def File.stream (f : File) (i : ℕ) : Option Bytes := do
  (← f.object? i).stream

section
variable {m : Mode} {n : Nesting} {c : UInt8} {cs ds raw rest : Bytes}

theorem run_cons : m.run (c :: cs) = (m.step c).2 ++ (m.step c).1.run cs := rfl

/-! ## Words -/

def Mode.steps (m : Mode) : Bytes → Mode × List Token
  | [] => (m, [])
  | c :: cs => (((m.step c).1.steps cs).1, (m.step c).2 ++ ((m.step c).1.steps cs).2)

theorem run_append : m.run (cs ++ ds) = (m.steps cs).2 ++ (m.steps cs).1.run ds := by
  induction cs generalizing m with
  | nil => rfl
  | cons c cs ih => rw [List.cons_append, run_cons, ih, Mode.steps, List.append_assoc]

theorem run_regular (regular : ∀ c ∈ cs, isRegular c = true) (before : Bytes) :
    (Mode.word before).run (cs ++ rest) = (Mode.word (before ++ cs)).run rest := by
  induction cs generalizing before with
  | nil => rw [List.nil_append, List.append_nil]
  | cons c cs ih =>
      rw [List.forall_mem_cons] at regular
      rw [List.cons_append, run_cons]
      simp only [Mode.step, if_pos regular.1, List.nil_append]
      rw [ih regular.2, List.append_assoc, List.singleton_append]

theorem run_word (regular : ∀ c ∈ cs, isRegular c = true) (some : cs ≠ []) (ends : isRegular c = false) :
    Mode.space.run (cs ++ c :: rest) = .word cs :: Mode.space.run (c :: rest) := by
  cases cs with
  | nil => exact absurd rfl some
  | cons d cs =>
      rw [List.forall_mem_cons] at regular
      rw [List.cons_append, run_cons]
      simp only [Mode.step, Mode.begin, if_pos regular.1, List.nil_append]
      rw [run_regular regular.2, List.singleton_append, run_cons, run_cons]
      simp only [Mode.step, ends, Bool.false_eq_true, if_false, List.cons_append]

/-! ## Strings -/

theorem run_string {n' : Nesting} (inside : cs.foldlM Nesting.read n = some n') (before : Bytes) :
    (Mode.string n before).run (cs ++ rest) = (Mode.string n' (before ++ cs)).run rest := by
  induction cs generalizing n before with
  | nil =>
      obtain rfl : n = n' := Option.some.inj inside
      rw [List.nil_append, List.append_nil]
  | cons c cs ih =>
      rw [List.foldlM_cons] at inside
      obtain ⟨k, read, inside⟩ := Option.bind_eq_some_iff.mp inside
      rw [List.cons_append, run_cons]
      simp only [Mode.step, read, List.nil_append]
      rw [ih inside, List.append_assoc, List.singleton_append]

theorem string_of_run {t : Token} {ts : List Token} (ran : (Mode.string n raw).run cs = t :: ts) :
    ∃ more, t = .string (raw ++ more) := by
  induction cs generalizing n raw with
  | nil => cases ran
  | cons c cs ih =>
      rw [run_cons] at ran
      cases read : n.read c with
      | none =>
          simp only [Mode.step, read, List.singleton_append, List.cons.injEq] at ran
          exact ⟨[], by rw [List.append_nil, ran.1]⟩
      | some k =>
          simp only [Mode.step, read, List.nil_append] at ran
          obtain ⟨more, rfl⟩ := ih ran
          exact ⟨c :: more, by rw [List.append_assoc, List.singleton_append]⟩

/-- A string ends with the parenthesis after `cs` exactly if all is closed there and nothing closed it before. -/
theorem string_iff (before : Bytes) : cs.foldlM Nesting.read n = some .outer ↔
    ∃ ts, (Mode.string n before).run (cs ++ byte ')' :: rest) = .string (before ++ cs) :: ts := by
  constructor
  · intro closed
    refine ⟨Mode.space.run rest, ?_⟩
    rw [run_string closed, run_cons]
    rfl
  · rintro ⟨ts, ran⟩
    induction cs generalizing n before with
    | nil =>
        rw [List.nil_append, run_cons, List.append_nil] at ran
        cases read : n.read (byte ')') with
        | none =>
            obtain ⟨depth, escaped⟩ := n
            have apart : byte ')' ≠ byte '\\' ∧ byte ')' ≠ byte '(' := by decide
            simp only [Nesting.read, if_neg apart.1, if_neg apart.2, if_true] at read
            split_ifs at read with pending zero
            obtain rfl : depth = 0 := zero
            obtain rfl : escaped = false := Bool.eq_false_iff.mpr pending
            rfl
        | some k =>
            simp only [Mode.step, read, List.nil_append] at ran
            obtain ⟨more, same⟩ := string_of_run ran
            have short := congrArg List.length (Token.string.inj same)
            simp at short
    | cons c cs ih =>
        rw [List.cons_append, run_cons] at ran
        cases read : n.read c with
        | none =>
            simp only [Mode.step, read, List.singleton_append, List.cons.injEq] at ran
            have short := congrArg List.length (Token.string.inj ran.1)
            simp at short
        | some k =>
            simp only [Mode.step, read, List.nil_append] at ran
            rw [List.foldlM_cons, read]
            refine ih (before ++ [c]) ?_
            rw [ran, List.append_assoc, List.singleton_append]

theorem decode_flatMap {escape : UInt8 → Bytes} (escapes : ∀ c ∈ cs, escape c = [c] ∧ c ≠ byte '\\' ∧ c ≠ byte '\r' ∨
    escape c = [byte '\\', c] ∧ c ∈ [byte '\\', byte '(', byte ')']) : decode (cs.flatMap escape) = cs := by
  induction cs with
  | nil => rfl
  | cons c cs ih =>
      rw [List.forall_mem_cons] at escapes
      obtain ⟨here, escapes⟩ := escapes
      rw [List.flatMap_cons]
      obtain ⟨same, backslash, cr⟩ | ⟨escaped, special⟩ := here
      · have step : Escape.none.step c = (.none, [c]) := by
          simp only [Escape.step, Escape.plain, if_neg backslash, if_neg cr]
        rw [same, decode, List.singleton_append, Escape.run, step, List.singleton_append]
        exact congrArg (List.cons c) (ih escapes)
      · have step : Escape.backslash.step c = (.none, [c]) := by
          simp only [List.mem_cons, List.not_mem_nil, or_false] at special
          obtain rfl | rfl | rfl := special <;> decide
        have opens : Escape.none.step (byte '\\') = (.backslash, []) := by decide
        rw [escaped, decode, List.cons_append, List.singleton_append, Escape.run, opens, List.nil_append, Escape.run,
          step, List.singleton_append]
        exact congrArg (List.cons c) (ih escapes)

/-! ## Numbers -/

theorem digit_mem {d : Char} (digit : d.isDigit = true) : d ∈ "0123456789".toList := by
  have bounds : 48 ≤ d.toNat ∧ d.toNat ≤ 57 := by
    simpa [Char.isDigit, UInt32.le_iff_toNat_le] using digit
  obtain ⟨low, high⟩ := bounds
  rw [← Char.ofNat_toNat d]
  interval_cases d.toNat <;> decide

theorem mem_decimal {i : ℕ} (mem : c ∈ decimal i) : c ∈ bytes "0123456789" := by
  obtain ⟨d, digit, rfl⟩ := List.mem_map.mp mem
  exact List.mem_map_of_mem (digit_mem (Nat.isDigit_of_mem_toDigits (by decide) (by decide) digit))

theorem isDigit_decimal {i : ℕ} (mem : c ∈ decimal i) : isDigit c = true :=
  List.all_eq_true.mp (show (bytes "0123456789").all isDigit = true by decide) c (mem_decimal mem)

theorem isRegular_decimal {i : ℕ} (mem : c ∈ decimal i) : isRegular c = true :=
  List.all_eq_true.mp (show (bytes "0123456789").all isRegular = true by decide) c (mem_decimal mem)

theorem decimal_ne_nil (i : ℕ) : decimal i ≠ [] := by
  rw [decimal, Ne, List.map_eq_nil_iff]
  exact Nat.toDigits_ne_nil

theorem number_leftpad (i k : ℕ) : number (List.replicate k (byte '0') ++ decimal i) = some i := by
  have digits : (List.replicate k (byte '0') ++ decimal i).all isDigit = true := by
    rw [List.all_append, List.all_replicate, Bool.and_eq_true, List.all_eq_true]
    refine ⟨?_, fun c mem => isDigit_decimal mem⟩
    split_ifs <;> decide
  have back : (List.replicate k (byte '0') ++ decimal i).map (fun c => Char.ofNat c.toNat) =
      List.replicate k '0' ++ Nat.toDigits 10 i := by
    rw [List.map_append, List.map_replicate, decimal, List.map_map]
    congr 1
    conv_rhs => rw [← List.map_id (Nat.toDigits 10 i)]
    refine List.map_congr_left fun d mem => ?_
    have same : ∀ d ∈ "0123456789".toList, Char.ofNat (byte d).toNat = d := List.all_iff_forall_prop.mp (by decide)
    exact same d (digit_mem (Nat.isDigit_of_mem_toDigits (by decide) (by decide) mem))
  rw [number, if_pos ⟨digits, by simp [decimal_ne_nil]⟩, back, Nat.ofDigitChars_append,
    Nat.ofDigitChars_replicate_zero, Nat.mul_zero, Nat.ofDigitChars_ten_toDigits]

theorem number_decimal (i : ℕ) : number (decimal i) = some i := number_leftpad i 0

theorem run_decimal {i : ℕ} (ends : isRegular c = false) :
    Mode.space.run (decimal i ++ c :: rest) = .word (decimal i) :: Mode.space.run (c :: rest) :=
  run_word (fun _ mem => isRegular_decimal mem) (decimal_ne_nil i) ends

theorem run_number {ts : List Token} {i : ℕ} (before : Mode.space.steps cs = (.space, ts)) (ends : isRegular c = false) :
    Mode.space.run (cs ++ (decimal i ++ c :: rest)) = ts ++ .word (decimal i) :: Mode.space.run (c :: rest) := by
  rw [run_append, before, run_decimal ends]

/-! ## References -/

def referenceTokens (i : ℕ) : List Token := [.word (decimal i), .word (bytes "0"), .word (bytes "R")]

theorem run_reference {i : ℕ} (ends : isRegular c = false) : Mode.space.run (decimal i ++ (bytes " 0 R" ++ c :: rest)) =
    referenceTokens i ++ Mode.space.run (c :: rest) := by
  have split : bytes " 0 R" ++ c :: rest = byte ' ' :: (bytes "0 R" ++ c :: rest) := rfl
  have generation : Mode.space.steps (bytes " 0 ") = (.space, [.word (bytes "0")]) := by decide
  have letter : Mode.space.run (bytes "R" ++ c :: rest) = .word (bytes "R") :: Mode.space.run (c :: rest) :=
    run_word (List.forall_mem_singleton.mpr (by decide)) (List.cons_ne_nil _ _) ends
  rw [split, run_decimal (by decide), ← List.cons_append]
  rw [show byte ' ' :: bytes "0 R" = bytes " 0 " ++ bytes "R" from rfl, List.append_assoc, run_append, generation]
  simp only
  rw [letter]
  rfl

theorem after_append {name : String} {front : List Token} (other : .name (bytes name) ∉ front) (ts : List Token) :
    after name (front ++ .name (bytes name) :: ts) = ts := by
  have others : ∀ t ∈ front, decide (t ≠ .name (bytes name)) = true := fun t mem =>
    decide_eq_true fun same => other (same ▸ mem)
  rw [after, List.dropWhile_append_of_pos others, List.dropWhile_cons_of_neg (by simp)]
  rfl

theorem references_flatMap (is : List ℕ) (ts : List Token) :
    references (is.flatMap referenceTokens ++ .other (byte ']') :: ts) = some is := by
  induction is with
  | nil => rfl
  | cons i is ih =>
      have first : (i :: is).flatMap referenceTokens ++ .other (byte ']') :: ts = .word (decimal i) ::
        .word (bytes "0") :: .word (bytes "R") :: (is.flatMap referenceTokens ++ .other (byte ']') :: ts) := rfl
      rw [first, references, if_pos ⟨rfl, rfl⟩, number_decimal, ih]
      rfl

/-! ## Files -/

theorem expect_append (text cs : Bytes) : expect text (text ++ cs) = some cs := by
  rw [expect, if_pos (List.prefix_append text cs), List.drop_left]

theorem line_append (one : byte '\n' ∉ cs) : line (cs ++ byte '\n' :: rest) = (cs, rest) := by
  have others : ∀ c ∈ cs, decide (c ≠ byte '\n') = true := fun c mem => decide_eq_true fun same => one (same ▸ mem)
  rw [line, List.takeWhile_append_of_pos others, List.dropWhile_append_of_pos others]
  simp

theorem not_mem_of_isRegular (regular : ∀ c ∈ cs, isRegular c = true) (other : isRegular c = false) : c ∉ cs := by
  intro mem
  rw [regular c mem] at other
  cases other

theorem startxref_append (cs : Bytes) (n : ℕ) :
    startxref (cs ++ (bytes "startxref\n" ++ (decimal n ++ bytes "\n%%EOF"))) = some n := by
  have digits : ∀ c ∈ (decimal n).reverse, isDigit c = true := fun c mem => isDigit_decimal (List.mem_reverse.mp mem)
  have ends : (bytes "startxref\n").reverse ++ cs.reverse =
      byte '\n' :: ((bytes "startxref").reverse ++ cs.reverse) := rfl
  have stops : ¬isDigit (byte '\n') = true := by decide
  rw [startxref, List.reverse_append, List.reverse_append, List.reverse_append, List.append_assoc, List.append_assoc,
    expect_append]
  simp only [Option.bind_eq_bind, Option.bind_some]
  rw [List.dropWhile_append_of_pos digits, List.takeWhile_append_of_pos digits, ends, List.dropWhile_cons_of_neg stops,
    List.takeWhile_cons_of_neg stops, ← ends, expect_append, List.append_nil, List.reverse_reverse]
  exact number_decimal n

def row (offset : ℕ) : Bytes := (decimal offset).leftpad 10 (byte '0') ++ bytes " 00000 n \n"

theorem offsets_rows (ns : List ℕ) : offsets ns.length (ns.flatMap row ++ rest) = some (ns, rest) := by
  induction ns with
  | nil => rfl
  | cons n ns ih =>
      have digits : ∀ c ∈ (decimal n).leftpad 10 (byte '0'), isDigit c = true := by
        intro c mem
        obtain mem | mem := List.mem_append.mp mem
        · rw [List.eq_of_mem_replicate mem]
          decide
        · exact isDigit_decimal mem
      have one : byte '\n' ∉ (decimal n).leftpad 10 (byte '0') ++ bytes " 00000 n " := by
        rw [List.mem_append, not_or]
        exact ⟨fun mem => absurd (digits _ mem) (by decide), by decide⟩
      have split : (n :: ns).flatMap row ++ rest =
          ((decimal n).leftpad 10 (byte '0') ++ bytes " 00000 n ") ++ byte '\n' :: (ns.flatMap row ++ rest) := by
        rw [List.flatMap_cons, row, List.append_assoc, List.append_assoc, List.append_assoc]
        rfl
      have stops : bytes " 00000 n " = byte ' ' :: bytes "00000 n " := rfl
      have space : ¬isDigit (byte ' ') = true := by decide
      rw [List.length_cons, offsets, split, line_append one]
      simp only
      rw [List.takeWhile_append_of_pos digits, List.dropWhile_append_of_pos digits, stops,
        List.takeWhile_cons_of_neg space, List.dropWhile_cons_of_neg space, List.append_nil, List.leftpad,
        number_leftpad]
      simp only [if_true, ih]
      rfl

def trailer (size : ℕ) : Bytes := bytes "<< /Size " ++ (decimal size ++ bytes " /Root 1 0 R >>")

theorem lex_trailer (size : ℕ) : lex (trailer size) = [.opening, .name (bytes "Size"), .word (decimal size),
    .name (bytes "Root"), .word (bytes "1"), .word (bytes "0"), .word (bytes "R"), .closing] := by
  have start : Mode.space.steps (bytes "<< /Size ") = (.space, [.opening, .name (bytes "Size")]) := by decide
  have ends : Mode.space.run (bytes " /Root 1 0 R >>") = [.name (bytes "Root"), .word (bytes "1"), .word (bytes "0"),
    .word (bytes "R"), .closing] := by decide
  rw [lex, trailer, run_append, start]
  simp only
  rw [show bytes " /Root 1 0 R >>" = byte ' ' :: bytes "/Root 1 0 R >>" from rfl, run_decimal (by decide)]
  rw [show byte ' ' :: bytes "/Root 1 0 R >>" = bytes " /Root 1 0 R >>" from rfl, ends]
  rfl

theorem table_append (ns : List ℕ) (rest : Bytes) :
    table (bytes "xref\n0 " ++ (decimal (ns.length + 1) ++ byte '\n' :: (bytes "0000000000 65535 f \n" ++
      (ns.flatMap row ++ (bytes "trailer\n" ++ (trailer (ns.length + 1) ++ byte '\n' :: rest)))))) = some (ns, 1) := by
  have one : byte '\n' ∉ decimal (ns.length + 1) :=
    not_mem_of_isRegular (fun c mem => isRegular_decimal mem) (by decide)
  have one' : byte '\n' ∉ trailer (ns.length + 1) := by
    simp only [trailer, List.mem_append, not_or]
    exact ⟨by decide, one, by decide⟩
  rw [table, expect_append]
  simp only [Option.bind_eq_bind, Option.bind_some]
  rw [line_append one, number_decimal]
  simp only [Option.bind_some]
  rw [expect_append, Nat.add_sub_cancel, Option.bind_some, offsets_rows]
  simp only [Option.bind_some]
  rw [expect_append, Option.bind_some, line_append one', lex_trailer]
  have root : reference (after "Root" [.opening, .name (bytes "Size"), .word (decimal (ns.length + 1)),
    .name (bytes "Root"), .word (bytes "1"), .word (bytes "0"), .word (bytes "R"), .closing]) = some 1 :=
    number_decimal 1
  have size : numeral (after "Size" [.opening, .name (bytes "Size"), .word (decimal (ns.length + 1)),
    .name (bytes "Root"), .word (bytes "1"), .word (bytes "0"), .word (bytes "R"), .closing]) = some (ns.length + 1) :=
    number_decimal _
  rw [root, Option.bind_some, if_pos size]

theorem body_dictionary (one : byte '\n' ∉ cs) (rest : Bytes) :
    body (cs ++ byte '\n' :: (bytes "endobj\n" ++ rest)) = some ⟨lex cs, none⟩ := by
  rw [body, line_append one]
  exact if_pos (List.prefix_append _ _)

theorem body_stream (one : byte '\n' ∉ cs) {stream : Bytes}
    (length : numeral (after "Length" (lex cs)) = some stream.length) (rest : Bytes) :
    body (cs ++ byte '\n' :: (bytes "stream\n" ++ (stream ++ (bytes "\nendstream\nendobj\n" ++ rest)))) =
      some ⟨lex cs, some stream⟩ := by
  have other : ¬bytes "endobj\n" <+: bytes "stream\n" ++ (stream ++ (bytes "\nendstream\nendobj\n" ++ rest)) := by
    intro same
    have first : byte 'e' = byte 's' := (List.cons_prefix_cons.mp same).1
    exact absurd first (by decide)
  rw [body, line_append one]
  simp only
  rw [if_neg other, expect_append, length]
  simp only [Option.bind_eq_bind, Option.bind_some]
  rw [List.drop_left, List.take_left, if_pos ⟨by simp, List.prefix_append _ _⟩]

theorem read_of_table {file : Bytes} {start root : ℕ} {offsets : List ℕ} {os : List Object}
    (place : startxref file = some start) (rows : table (file.drop start) = some (offsets, root))
    (found : objectsFrom file 1 offsets = some os) : read file = some ⟨root, os⟩ := by
  rw [read, place]
  simp only [Option.bind_eq_bind, Option.bind_some, rows, found]
  rfl

theorem expect_eq_some {text : Bytes} (found : expect text cs = some rest) : text <+: cs := by
  unfold expect at found
  split_ifs at found with here
  exact here

theorem objectsFrom_placed {i : ℕ} {offsets : List ℕ} {os : List Object} (found : objectsFrom cs i offsets = some os) :
    ∀ j offset, offsets[j]? = some offset → decimal (i + j) ++ bytes " 0 obj\n" <+: cs.drop offset := by
  induction offsets generalizing i os with
  | nil => exact fun j offset here => absurd here (by simp)
  | cons place offsets ih =>
      obtain ⟨object, first, found⟩ := Option.bind_eq_some_iff.mp found
      obtain ⟨others, found, -⟩ := Option.bind_eq_some_iff.mp found
      intro j offset here
      cases j with
      | zero =>
          obtain rfl : place = offset := Option.some.inj here
          obtain ⟨rest, begins, -⟩ := Option.bind_eq_some_iff.mp first
          exact expect_eq_some begins
      | succ j =>
          have placed := ih found j offset here
          rwa [Nat.add_assoc, Nat.add_comm 1 j] at placed

end
end Foundations.Pdf
