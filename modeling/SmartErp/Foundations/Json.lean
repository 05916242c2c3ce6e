import SmartErp.Foundations.Spelling

/-!
# JSON

`JSON.stringify`, and a reader of JSON texts. Members stand in the order in which they are written.
-/

namespace Foundations

inductive Json where
  | null
  | bool (b : Bool)
  | number (n : JsNumber)
  | string (s : List Char)
  | array (items : List Json)
  | object (members : List (List Char × Json))

namespace Json

def quote : Char := Char.ofNat 34

/-! ## Writing -/

def shortEscapes : List (Char × Char) :=
  [(quote, quote), ('\\', '\\'), ('\x08', 'b'), ('\x0c', 'f'), ('\n', 'n'), ('\r', 'r'), ('\t', 't')]

def escaped (c : Char) : List Char :=
  match shortEscapes.lookup c with
  | some letter => ['\\', letter]
  | none =>
      if c.toNat < 32 then ['\\', 'u', '0', '0', (c.toNat / 16).digitChar, (c.toNat % 16).digitChar] else [c]

def quoted (s : List Char) : List Char := quote :: (s.flatMap escaped ++ [quote])

mutual

/-- `JSON.stringify(v)` -/
def text : Json → List Char
  | null => "null".toList
  | bool b => if b then "true".toList else "false".toList
  | number (.finite q) => JsNumber.spelling (.finite q)
  | number _ => "null".toList
  | string s => quoted s
  | array [] => ['[', ']']
  | array (v :: vs) => '[' :: (text v ++ moreItems vs)
  | object [] => ['{', '}']
  | object ((name, v) :: members) => '{' :: (quoted name ++ ':' :: (text v ++ moreMembers members))

def moreItems : List Json → List Char
  | [] => [']']
  | v :: vs => ',' :: (text v ++ moreItems vs)

def moreMembers : List (List Char × Json) → List Char
  | [] => ['}']
  | (name, v) :: members => ',' :: (quoted name ++ ':' :: (text v ++ moreMembers members))

end

/-! ## Reading -/

def blank (c : Char) : Bool := c ∈ [' ', '\t', '\n', '\r']

def hexValue (c : Char) : Option ℕ := ((List.range 16).find? fun n => n.digitChar = c.toLower)

def unicode (a b c d : Char) : Option Char := do
  let n := (((← hexValue a) * 16 + (← hexValue b)) * 16 + (← hexValue c)) * 16 + (← hexValue d)
  if n < 0xD800 ∨ 0xDFFF < n then some (Char.ofNat n) else none

def unescaped (c : Char) : Option Char :=
  if c = '/' then some c else (shortEscapes.find? (·.2 = c)).map Prod.fst

def readString : List Char → Option (List Char × List Char)
  | [] => none
  | c :: cs =>
      if c = quote then some ([], cs)
      else if c = '\\' then
        match cs with
        | 'u' :: a :: b :: d :: e :: cs =>
            (unicode a b d e).bind fun c => (readString cs).map fun (s, rest) => (c :: s, rest)
        | e :: cs => (unescaped e).bind fun c => (readString cs).map fun (s, rest) => (c :: s, rest)
        | [] => none
      else if c.toNat < 32 then none
      else (readString cs).map fun (s, rest) => (c :: s, rest)

def readWord (cs : List Char) : Option Json :=
  if cs = "null".toList then some null
  else if cs = "true".toList then some (bool true)
  else if cs = "false".toList then some (bool false)
  else match JsNumber.readNumber cs with
    | some (.finite q) => some (number (.finite q))
    | _ => none

mutual

/-- A value at the start of the text, and what follows it; `fuel` bounds the depth and the width. -/
def readValue : ℕ → List Char → Option (Json × List Char)
  | 0, _ => none
  | fuel + 1, cs =>
      match cs.dropWhile blank with
      | '[' :: cs =>
          match cs.dropWhile blank with
          | ']' :: rest => some (array [], rest)
          | cs => (readItems fuel cs).map fun (vs, rest) => (array vs, rest)
      | '{' :: cs =>
          match cs.dropWhile blank with
          | '}' :: rest => some (object [], rest)
          | cs => (readMembers fuel cs).map fun (members, rest) => (object members, rest)
      | c :: cs =>
          if c = quote then (readString cs).map fun (s, rest) => (string s, rest)
          else (readWord ((c :: cs).takeWhile (JsNumber.Figure ·))).map fun v => (v, (c :: cs).dropWhile (JsNumber.Figure ·))
      | [] => none

def readItems : ℕ → List Char → Option (List Json × List Char)
  | 0, _ => none
  | fuel + 1, cs => do
      let (v, cs) ← readValue fuel cs
      match cs.dropWhile blank with
      | ',' :: cs => (readItems fuel cs).map fun (vs, rest) => (v :: vs, rest)
      | ']' :: rest => some ([v], rest)
      | _ => none

def readMembers : ℕ → List Char → Option (List (List Char × Json) × List Char)
  | 0, _ => none
  | fuel + 1, cs => do
      match cs.dropWhile blank with
      | c :: cs =>
          if c = quote then
            let (name, cs) ← readString cs
            match cs.dropWhile blank with
            | ':' :: cs =>
                let (v, cs) ← readValue fuel cs
                match cs.dropWhile blank with
                | ',' :: cs => (readMembers fuel cs).map fun (members, rest) => ((name, v) :: members, rest)
                | '}' :: rest => some ([(name, v)], rest)
                | _ => none
            | _ => none
          else none
      | [] => none

end

/-- `JSON.parse(s)`, but for the duplicates of a name, which stay. -/
def parse (cs : List Char) : Option Json :=
  match readValue (cs.length + 1) cs with
  | some (v, rest) => if rest.all blank then some v else none
  | none => none

/-! ## Strings -/

theorem readString_cons (c : Char) (cs : List Char) : readString (c :: cs) =
    if c = quote then some ([], cs)
    else if c = '\\' then
      match cs with
      | 'u' :: a :: b :: d :: e :: cs =>
          (unicode a b d e).bind fun c => (readString cs).map fun (s, rest) => (c :: s, rest)
      | e :: cs => (unescaped e).bind fun c => (readString cs).map fun (s, rest) => (c :: s, rest)
      | [] => none
    else if c.toNat < 32 then none
    else (readString cs).map fun (s, rest) => (c :: s, rest) := by
  rw [readString.eq_def]

theorem readString_backslash {e : Char} (letter : e ≠ 'u') (cs : List Char) : readString ('\\' :: e :: cs) =
    (unescaped e).bind fun c => (readString cs).map fun (s, rest) => (c :: s, rest) := by
  rw [readString_cons, if_neg (by decide), if_pos rfl]
  split
  · next eq => exact absurd (List.cons.inj eq).1 letter
  · next eq => cases eq; rfl
  · next eq => cases eq

theorem readString_unicode (a b d e : Char) (cs : List Char) : readString ('\\' :: 'u' :: a :: b :: d :: e :: cs) =
    (unicode a b d e).bind fun c => (readString cs).map fun (s, rest) => (c :: s, rest) := by
  rw [readString_cons, if_neg (by decide), if_pos rfl]
  rfl

theorem unicode_control : ∀ n < 32, unicode '0' '0' (n / 16).digitChar (n % 16).digitChar = some (Char.ofNat n) := by
  decide

theorem unescaped_short : ∀ pair ∈ shortEscapes, pair.2 ≠ 'u' ∧ unescaped pair.2 = some pair.1 := by
  decide

theorem readString_escaped (c : Char) (cs : List Char) :
    readString (escaped c ++ cs) = (readString cs).map fun (s, rest) => (c :: s, rest) := by
  unfold escaped
  cases short : shortEscapes.lookup c with
  | some letter =>
      obtain ⟨before, after, split, -⟩ := List.lookup_eq_some_iff.mp short
      obtain ⟨other, read⟩ := unescaped_short (c, letter) (split ▸ List.mem_append_right _ List.mem_cons_self)
      simp only [List.cons_append, List.nil_append]
      rw [readString_backslash other, read, Option.bind_some]
  | none =>
      have others : c ≠ quote ∧ c ≠ '\\' := by
        constructor <;> rintro rfl <;> revert short <;> decide
      by_cases control : c.toNat < 32
      · simp only [if_pos control, List.cons_append, List.nil_append]
        rw [readString_unicode, unicode_control c.toNat control, Char.ofNat_toNat, Option.bind_some]
      · simp only [if_neg control, List.cons_append, List.nil_append]
        rw [readString_cons, if_neg others.1, if_neg others.2, if_neg control]

theorem readString_quoted (s rest : List Char) : readString (s.flatMap escaped ++ quote :: rest) = some (s, rest) := by
  induction s with
  | nil =>
      rw [List.flatMap_nil, List.nil_append, readString_cons, if_pos rfl]
  | cons c s ih => rw [List.flatMap_cons, List.append_assoc, readString_escaped, ih, Option.map_some]

/-! ## Values -/

mutual

def Plain : Json → Prop
  | number n => n.double = n ∧ ∃ q, n = .finite q
  | array items => PlainItems items
  | object members => PlainMembers members
  | _ => True

def PlainItems : List Json → Prop
  | [] => True
  | v :: vs => Plain v ∧ PlainItems vs

def PlainMembers : List (List Char × Json) → Prop
  | [] => True
  | (_, v) :: members => Plain v ∧ PlainMembers members

end

def Ends (rest : List Char) : Prop := ∀ c ∈ rest.head?, ¬ JsNumber.Figure c

theorem takeWhile_word {word rest : List Char} (figures : ∀ c ∈ word, JsNumber.Figure c) (ends : Ends rest) :
    (word ++ rest).takeWhile (JsNumber.Figure ·) = word ∧ (word ++ rest).dropWhile (JsNumber.Figure ·) = rest := by
  have figures' : ∀ c ∈ word, decide (JsNumber.Figure c) = true := fun c mem => decide_eq_true (figures c mem)
  cases rest with
  | nil => simpa using figures
  | cons c rest =>
      have stop : ¬ JsNumber.Figure c := ends c rfl
      rw [List.takeWhile_append_of_pos figures', List.dropWhile_append_of_pos figures',
        List.takeWhile_cons_of_neg (by simpa using stop), List.dropWhile_cons_of_neg (by simpa using stop), List.append_nil]
      exact ⟨rfl, rfl⟩

theorem blank_figure {c : Char} (figure : JsNumber.Figure c) : blank c = false ∧ c ≠ '[' ∧ c ≠ '{' ∧ c ≠ quote := by
  refine ⟨?_, ?_, ?_, ?_⟩
  · by_contra blank'
    simp only [blank, Bool.not_eq_false, decide_eq_true_eq, List.mem_cons, List.not_mem_nil, or_false] at blank'
    rcases blank' with rfl | rfl | rfl | rfl <;> revert figure <;> decide
  all_goals
    rintro rfl
    revert figure
    decide

theorem readValue_word {fuel : ℕ} {word rest : List Char} (figures : ∀ c ∈ word, JsNumber.Figure c) (some' : word ≠ [])
    (ends : Ends rest) : readValue (fuel + 1) (word ++ rest) = (readWord word).map fun v => (v, rest) := by
  obtain ⟨taken, dropped⟩ := takeWhile_word figures ends
  obtain ⟨c, cs, rfl⟩ := List.exists_cons_of_ne_nil some'
  obtain ⟨visible, array', object', string'⟩ := blank_figure (figures c List.mem_cons_self)
  rw [List.cons_append] at taken dropped ⊢
  rw [readValue, List.dropWhile_cons_of_neg (by simp [visible])]
  split
  · next eq => exact absurd (List.cons.inj eq).1 array'
  · next eq => exact absurd (List.cons.inj eq).1 object'
  · next eq =>
      obtain ⟨rfl, rfl⟩ := List.cons.inj eq
      rw [if_neg string', taken, dropped]
  · next eq => cases eq

theorem figures_words : (∀ c ∈ "null".toList, JsNumber.Figure c) ∧ (∀ c ∈ "true".toList, JsNumber.Figure c) ∧
    ∀ c ∈ "false".toList, JsNumber.Figure c := by
  refine ⟨?_, ?_, ?_⟩ <;> exact List.all_iff_forall_prop.mp (by decide +kernel)

theorem readWord_spelling {q : ℚ} (double : (JsNumber.finite q).double = .finite q) :
    readWord (JsNumber.spelling (.finite q)) = some (number (.finite q)) := by
  have read := JsNumber.readNumber_spelling double
  have other {word : String} (unread : JsNumber.readNumber word.toList = none) :
      JsNumber.spelling (.finite q) ≠ word.toList := by
    intro same
    rw [same, unread] at read
    cases read
  rw [readWord, if_neg (other (by decide +kernel)), if_neg (other (by decide +kernel)), if_neg (other (by decide +kernel)),
    read]

theorem spelling_ne_nil {q : ℚ} (double : (JsNumber.finite q).double = .finite q) :
    JsNumber.spelling (.finite q) ≠ [] := by
  intro empty
  have read := JsNumber.readNumber_spelling double
  rw [empty, show JsNumber.readNumber [] = none by decide +kernel] at read
  cases read

theorem text_eq_cons {v : Json} (plain : Plain v) : ∃ c cs, text v = c :: cs ∧ blank c = false ∧ c ≠ ']' := by
  cases v with
  | null => exact ⟨'n', _, rfl, by decide, by decide⟩
  | bool b => cases b <;> exact ⟨_, _, rfl, by decide, by decide⟩
  | number n =>
      obtain ⟨double, q, rfl⟩ := plain
      obtain ⟨c, cs, eq⟩ := List.exists_cons_of_ne_nil (spelling_ne_nil double)
      have figure : JsNumber.Figure c := JsNumber.figure_spelling (eq ▸ List.mem_cons_self)
      exact ⟨c, cs, eq, (blank_figure figure).1, by rintro rfl; revert figure; decide⟩
  | string s => exact ⟨quote, _, rfl, by decide, by decide⟩
  | array items => cases items <;> exact ⟨'[', _, rfl, by decide, by decide⟩
  | object members => cases members <;> exact ⟨'\x7b', _, rfl, by decide, by decide⟩

theorem ends_moreItems (vs : List Json) (rest : List Char) : Ends (moreItems vs ++ rest) := by
  cases vs <;> rintro c ⟨⟩ <;> decide

theorem ends_moreMembers (members : List (List Char × Json)) (rest : List Char) : Ends (moreMembers members ++ rest) := by
  cases members <;> rintro c ⟨⟩ <;> decide

theorem visible {c : Char} (cs : List Char) (visible : blank c = false) : (c :: cs).dropWhile blank = c :: cs :=
  List.dropWhile_cons_of_neg (by simp [visible])

theorem readValue_string (fuel : ℕ) (cs : List Char) : readValue (fuel + 1) (quote :: cs) =
    (readString cs).map fun (s, rest) => (string s, rest) := by
  rw [readValue, visible _ (by decide)]
  rfl

theorem readValue_array {fuel : ℕ} {c : Char} {cs : List Char} (seen : blank c = false) (open' : c ≠ ']') :
    readValue (fuel + 1) ('[' :: c :: cs) = (readItems fuel (c :: cs)).map fun (vs, rest) => (array vs, rest) := by
  rw [readValue, visible _ (by decide)]
  change (match (c :: cs).dropWhile blank with
    | ']' :: rest => some (array [], rest)
    | cs => (readItems fuel cs).map fun (vs, rest) => (array vs, rest)) = _
  rw [visible _ seen]
  split
  · next eq => exact absurd (List.cons.inj eq).1 open'
  · rfl

theorem readValue_object (fuel : ℕ) (cs : List Char) : readValue (fuel + 1) ('\x7b' :: quote :: cs) =
    (readMembers fuel (quote :: cs)).map fun (members, rest) => (object members, rest) := by
  rw [readValue, visible _ (by decide)]
  change (match (quote :: cs).dropWhile blank with
    | '\x7d' :: rest => some (object [], rest)
    | cs => (readMembers fuel cs).map fun (members, rest) => (object members, rest)) = _
  rw [visible _ (by decide)]
  rfl

theorem readItems_succ {fuel : ℕ} {cs rest : List Char} {v : Json} (read : readValue fuel cs = some (v, rest)) :
    readItems (fuel + 1) cs = match rest.dropWhile blank with
      | ',' :: cs => (readItems fuel cs).map fun (vs, rest) => (v :: vs, rest)
      | ']' :: rest => some ([v], rest)
      | _ => none := by
  rw [readItems, read]
  rfl

theorem readMembers_succ {fuel : ℕ} {name cs rest : List Char} {v : Json} (read : readValue fuel cs = some (v, rest)) :
    readMembers (fuel + 1) (quoted name ++ ':' :: cs) = match rest.dropWhile blank with
      | ',' :: cs => (readMembers fuel cs).map fun (members, rest) => ((name, v) :: members, rest)
      | '\x7d' :: rest => some ([(name, v)], rest)
      | _ => none := by
  rw [quoted, List.cons_append, List.append_assoc, List.singleton_append, readMembers, visible _ (by decide)]
  dsimp only
  rw [if_pos rfl, readString_quoted]
  dsimp only [Option.bind_eq_bind, Option.bind_some]
  rw [visible _ (by decide)]
  change (readValue fuel cs).bind _ = _
  rw [read]
  rfl

structure Reads (fuel : ℕ) : Prop where
  value : ∀ v rest, Plain v → (text v).length < fuel → Ends rest → readValue fuel (text v ++ rest) = some (v, rest)
  items : ∀ v vs rest, Plain v → PlainItems vs → (text v).length + (moreItems vs).length < fuel →
    readItems fuel (text v ++ (moreItems vs ++ rest)) = some (v :: vs, rest)
  members : ∀ name v members rest, Plain v → PlainMembers members →
    (text v).length + (moreMembers members).length < fuel →
    readMembers fuel (quoted name ++ ':' :: (text v ++ (moreMembers members ++ rest))) = some ((name, v) :: members, rest)

section Reads

variable {fuel : ℕ} (reads : Reads fuel)

include reads

theorem Reads.value_succ (v : Json) (rest : List Char) (plain : Plain v) (enough : (text v).length < fuel + 1)
    (ends : Ends rest) : readValue (fuel + 1) (text v ++ rest) = some (v, rest) := by
  match v with
  | null =>
      rw [text, readValue_word figures_words.1 (by simp) ends, readWord, if_pos rfl]
      rfl
  | bool true =>
      rw [text, if_pos rfl, readValue_word figures_words.2.1 (by simp) ends, readWord, if_neg (by simp), if_pos rfl]
      rfl
  | bool false =>
      rw [text, if_neg Bool.false_ne_true, readValue_word figures_words.2.2 (by simp) ends, readWord, if_neg (by simp),
        if_neg (by simp), if_pos rfl]
      rfl
  | number n =>
      obtain ⟨double, q, rfl⟩ := plain
      rw [text, readValue_word (fun c => JsNumber.figure_spelling) (spelling_ne_nil double) ends, readWord_spelling double]
      rfl
  | string s =>
      rw [text, quoted, List.cons_append, List.append_assoc, List.singleton_append, readValue_string, readString_quoted]
      rfl
  | array [] =>
      rw [text, readValue, List.cons_append, visible _ (by decide)]
      rfl
  | array (v :: vs) =>
      obtain ⟨c, cs, eq, seen, open'⟩ := text_eq_cons plain.1
      have read := reads.items v vs rest plain.1 plain.2 (by
        rw [text, List.length_cons, List.length_append] at enough
        omega)
      rw [text, List.cons_append, List.append_assoc]
      rw [eq, List.cons_append] at read ⊢
      rw [readValue_array seen open', read]
      rfl
  | object [] =>
      rw [text, readValue, List.cons_append, visible _ (by decide)]
      rfl
  | object ((name, v) :: members) =>
      have read := reads.members name v members rest plain.1 plain.2 (by
        rw [text, List.length_cons, List.length_append, List.length_cons, List.length_append] at enough
        omega)
      rw [text, List.cons_append, List.append_assoc, List.cons_append, List.append_assoc]
      rw [quoted, List.cons_append] at read ⊢
      rw [readValue_object, read]
      rfl

theorem Reads.items_succ (v : Json) (vs : List Json) (rest : List Char) (plain : Plain v) (plain' : PlainItems vs)
    (enough : (text v).length + (moreItems vs).length < fuel + 1) :
    readItems (fuel + 1) (text v ++ (moreItems vs ++ rest)) = some (v :: vs, rest) := by
  have more : 0 < (moreItems vs).length := by cases vs <;> exact Nat.succ_pos _
  rw [readItems_succ (reads.value v _ plain (by omega) (ends_moreItems vs rest))]
  cases vs with
  | nil =>
      rw [moreItems, List.cons_append, visible _ (by decide)]
      rfl
  | cons w vs =>
      have others := reads.items w vs rest plain'.1 plain'.2 (by
        rw [moreItems, List.length_cons, List.length_append] at enough
        omega)
      rw [moreItems, List.cons_append, List.append_assoc, visible _ (by decide)]
      change (readItems fuel (text w ++ (moreItems vs ++ rest))).map _ = _
      rw [others]
      rfl

theorem Reads.members_succ (name : List Char) (v : Json) (members : List (List Char × Json)) (rest : List Char)
    (plain : Plain v) (plain' : PlainMembers members) (enough : (text v).length + (moreMembers members).length < fuel + 1) :
    readMembers (fuel + 1) (quoted name ++ ':' :: (text v ++ (moreMembers members ++ rest))) =
      some ((name, v) :: members, rest) := by
  have more : 0 < (moreMembers members).length := by cases members <;> exact Nat.succ_pos _
  rw [readMembers_succ (reads.value v _ plain (by omega) (ends_moreMembers members rest))]
  cases members with
  | nil =>
      rw [moreMembers, List.cons_append, visible _ (by decide)]
      rfl
  | cons member members =>
      obtain ⟨name', w⟩ := member
      have others := reads.members name' w members rest plain'.1 plain'.2 (by
        rw [moreMembers, List.length_cons, List.length_append, List.length_cons, List.length_append] at enough
        omega)
      rw [moreMembers, List.cons_append, List.append_assoc, List.cons_append, List.append_assoc, visible _ (by decide)]
      change (readMembers fuel (quoted name' ++ ':' :: (text w ++ (moreMembers members ++ rest)))).map _ = _
      rw [others]
      rfl

end Reads

theorem reads (fuel : ℕ) : Reads fuel := by
  induction fuel with
  | zero => exact ⟨fun _ _ _ enough => absurd enough (Nat.not_lt_zero _),
      fun _ _ _ _ _ enough => absurd enough (Nat.not_lt_zero _), fun _ _ _ _ _ _ enough => absurd enough (Nat.not_lt_zero _)⟩
  | succ fuel ih => exact ⟨ih.value_succ, ih.items_succ, ih.members_succ⟩

theorem parse_text {v : Json} (plain : Plain v) : parse (text v) = some v := by
  have read := (reads ((text v).length + 1)).value v [] plain (Nat.lt_succ_self _) nofun
  rw [List.append_nil] at read
  rw [parse, read]
  rfl

end Json
end Foundations
