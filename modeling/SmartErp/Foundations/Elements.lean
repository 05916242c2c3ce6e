import SmartErp.Foundations.Xml

/-!
# Elements by name

Printed elements, and readers that take the elements of a document one after another, each by its name, and
skip the blanks before a tag.
-/

namespace Foundations.Xml

/-! ## Printing -/

def startTag (name : String) : List Char := '<' :: (name.toList ++ ['>'])

def endTag (name : String) : List Char := '<' :: '/' :: (name.toList ++ ['>'])

def valueTag (name key : String) : List Char := '<' :: (name.toList ++ ' ' :: (key.toList ++ ['=', quote]))

def line (n : ℕ) (cs : List Char) : List Char := '\n' :: (List.replicate n ' ' ++ cs)

def inline (name : String) (cs : List Char) : List Char := startTag name ++ (cs ++ endTag name)

def block (n : ℕ) (name : String) (cs : List Char) : List Char :=
  line n (startTag name) ++ (cs ++ line n (endTag name))

/-! ## Reading -/

abbrev Reader := StateT (List Char) Option

namespace Reader
variable {α β : Type}

def blanks : Reader Unit := fun s => some ((), s.dropWhile blank)

def literal (t : List Char) : Reader Unit := fun s =>
  if t <+: s then some ((), s.drop t.length) else none

def upTo (c : Char) : Reader (List Char) := fun s => some (s.takeWhile (· ≠ c), s.dropWhile (· ≠ c))

def lift (x : Option α) : Reader α := fun s => x.map (·, s)

def tag (t : List Char) : Reader Unit := do
  blanks
  literal t

def opening (name : String) : Reader Unit := tag (startTag name)

def closing (name : String) : Reader Unit := tag (endTag name)

def element (name : String) (body : Reader α) : Reader α := do
  opening name
  let a ← body
  closing name
  return a

def text (name : String) : Reader (List Char) := do
  opening name
  let raw ← upTo '<'
  literal (endTag name)
  lift (content raw)

def valued (name key : String) : Reader (List Char × List Char) := do
  tag (valueTag name key)
  let rawValue ← upTo quote
  literal [quote, '>']
  let raw ← upTo '<'
  literal (endTag name)
  lift do return (← value rawValue, ← content raw)

def Starts (name : String) (s : List Char) : Prop := startTag name <+: s.dropWhile blank

instance (name : String) (s : List Char) : Decidable (Starts name s) :=
  inferInstanceAs (Decidable (_ <+: _))

def optional (name : String) (body : Reader α) : Reader (Option α) := fun s =>
  if Starts name s then (body s).map fun p => (some p.1, p.2) else some (none, s)

def manyWithin (name : String) (body : Reader α) : ℕ → Reader (List α)
  | 0 => pure []
  | fuel + 1 => fun s =>
      if Starts name s then
        (do
          let a ← body
          let as ← manyWithin name body fuel
          return a :: as : Reader (List α)) s
      else some ([], s)

def many (name : String) (body : Reader α) : Reader (List α) := fun s => manyWithin name body s.length s

/-! ## What is read of a printed text -/

def Reads (next : List Char → Prop) (r : Reader α) (cs : List Char) (x : Option α) : Prop :=
  ∀ rest, next rest → r (cs ++ rest) = x.map (·, rest)

abbrev Always (_ : List Char) : Prop := True

section
variable {next later : List Char → Prop} {r : Reader α} {f : α → Reader β} {cs ds : List Char} {x : Option α}
  {y : α → Option β} {name : String}

theorem Reads.mono (reads : Reads next r cs x) (imp : ∀ rest, later rest → next rest) : Reads later r cs x :=
  fun rest follows => reads rest (imp rest follows)

theorem reads_pure (a : α) : Reads next (pure a) [] (some a) := fun _ _ => rfl

theorem reads_lift : Reads next (lift x) [] x := fun _ _ => rfl

theorem Reads.bind (first : Reads next r cs x) (rest : ∀ a, x = some a → Reads later (f a) ds (y a))
    (follows : ∀ rest, later rest → next (ds ++ rest)) : Reads later (r >>= f) (cs ++ ds) (x.bind y) := by
  intro tail after
  have run : (r >>= f) (cs ++ ds ++ tail) = (r (cs ++ (ds ++ tail))).bind fun p => f p.1 p.2 := by
    rw [List.append_assoc]
    rfl
  rw [run, first _ (follows tail after)]
  cases result : x with
  | none => rfl
  | some a => exact rest a result tail after

theorem Reads.seq (first : Reads Always r cs x) (rest : ∀ a, x = some a → Reads later (f a) ds (y a)) :
    Reads later (r >>= f) (cs ++ ds) (x.bind y) :=
  first.bind rest fun _ _ => trivial

theorem Reads.andThen {a : α} {z : Option β} (first : Reads next r cs (some a)) (rest : Reads later (f a) ds z)
    (follows : ∀ rest, later rest → next (ds ++ rest)) : Reads later (r >>= f) (cs ++ ds) z :=
  first.bind (y := fun _ => z) (fun _ same => Option.some_inj.mp same ▸ rest) follows

theorem Reads.ret {γ : Type} {g : α → γ} (first : Reads next r cs x) :
    Reads next (do return g (← r)) cs (do return g (← x)) := by
  have both : Reads next (r >>= fun a => pure (g a)) (cs ++ []) (x.bind fun a => some (g a)) :=
    first.bind (fun a _ => reads_pure (g a)) fun rest after => after
  rwa [List.append_nil] at both

theorem Reads.map {γ : Type} {g : α → γ} (first : Reads next r cs x) :
    Reads next (do return g (← r)) cs (x.map g) := by
  have read : Reads next (do return g (← r)) cs (do return g (← x)) := first.ret
  cases x <;> exact read

theorem reads_literal (t : List Char) : Reads next (literal t) t (some ()) := by
  intro rest _
  rw [literal, if_pos (List.prefix_append t rest), List.drop_left]
  rfl

theorem dropWhile_blank {ws : List Char} (white : ∀ c ∈ ws, blank c = true) (cs : List Char) :
    (ws ++ '<' :: cs).dropWhile blank = '<' :: cs := by
  rw [List.dropWhile_append_of_pos white, List.dropWhile_cons_of_neg (by decide)]

theorem reads_tag {ws t : List Char} (white : ∀ c ∈ ws, blank c = true) :
    Reads next (tag ('<' :: t)) (ws ++ '<' :: t) (some ()) := by
  intro rest after
  have run (s : List Char) : tag ('<' :: t) s = literal ('<' :: t) (s.dropWhile blank) := rfl
  rw [run, List.append_assoc, List.cons_append, dropWhile_blank white]
  exact reads_literal _ rest after

theorem reads_upTo {c : Char} (free : c ∉ cs) : Reads (fun rest => rest.head? = some c) (upTo c) cs (some cs) := by
  intro rest head
  obtain ⟨tail, rfl⟩ := List.head?_eq_some_iff.mp head
  have other : ∀ d ∈ cs, decide (d ≠ c) = true := by
    intro d mem
    exact decide_eq_true fun same => free (same ▸ mem)
  rw [upTo, List.takeWhile_append_of_pos other, List.dropWhile_append_of_pos other]
  simp

theorem white_line (n : ℕ) : ∀ c ∈ '\n' :: List.replicate n ' ', blank c = true := by
  intro c mem
  rcases List.mem_cons.mp mem with rfl | mem
  · rfl
  · rw [List.eq_of_mem_replicate mem]
    rfl

/-! ### Elements -/

variable {ws ws' raw rawValue : List Char}

theorem reads_opening (white : ∀ c ∈ ws, blank c = true) :
    Reads next (opening name) (ws ++ startTag name) (some ()) := reads_tag white

theorem reads_closing (white : ∀ c ∈ ws, blank c = true) :
    Reads next (closing name) (ws ++ endTag name) (some ()) := reads_tag white

theorem Reads.element (body : Reads next r cs x) (white : ∀ c ∈ ws, blank c = true)
    (white' : ∀ c ∈ ws', blank c = true) (follows : ∀ rest, next (ws' ++ endTag name ++ rest)) :
    Reads later (element name r) (ws ++ startTag name ++ (cs ++ (ws' ++ endTag name))) x := by
  have start : Reads Always (opening name) (ws ++ startTag name) (some ()) := reads_opening white
  have shut (a : α) : Reads later (closing name >>= fun _ => pure a) (ws' ++ endTag name) (some a) :=
    Reads.map (reads_closing white')
  have all := start.bind (fun _ _ => body.bind (fun a _ => shut a) fun rest _ => follows rest) fun _ _ => trivial
  cases x <;> exact all

theorem Reads.block {n : ℕ} (body : Reads next r cs x) (follows : ∀ rest, next (line n (endTag name) ++ rest)) :
    Reads later (Reader.element name r) (block n name cs) x :=
  body.element (white_line n) (white_line n) follows

theorem Reads.inlineAfter (body : Reads next r cs x) (white : ∀ c ∈ ws, blank c = true)
    (follows : ∀ rest, next (endTag name ++ rest)) :
    Reads later (Reader.element name r) (ws ++ inline name cs) x := by
  have read : Reads later (Reader.element name r) (ws ++ startTag name ++ (cs ++ ([] ++ endTag name))) x :=
    body.element white (fun c mem => nomatch mem) follows
  rwa [List.append_assoc] at read

theorem Reads.inline (body : Reads next r cs x) (follows : ∀ rest, next (endTag name ++ rest)) :
    Reads later (Reader.element name r) (Xml.inline name cs) x := by
  have read : Reads later (Reader.element name r) ([] ++ Xml.inline name cs) x :=
    body.inlineAfter (fun _ mem => nomatch mem) follows
  exact read

theorem Reads.line {n : ℕ} (body : Reads next r cs x) (follows : ∀ rest, next (endTag name ++ rest)) :
    Reads later (Reader.element name r) (line n (Xml.inline name cs)) x := by
  have read : Reads later (Reader.element name r) (('\n' :: List.replicate n ' ') ++ Xml.inline name cs) x :=
    body.inlineAfter (white_line n) follows
  exact read

theorem reads_text (white : ∀ c ∈ ws, blank c = true) (free : '<' ∉ raw) :
    Reads next (text name) (ws ++ inline name raw) (content raw) := by
  have start : Reads Always (opening name) (ws ++ startTag name) (some ()) := reads_opening white
  have shut : Reads Always (literal (endTag name)) (endTag name) (some ()) := reads_literal _
  have all : Reads next (text name) (ws ++ startTag name ++ (raw ++ (endTag name ++ []))) (content raw) := by
    have close : Reads next (literal (endTag name) >>= fun _ => lift (content raw)) (endTag name ++ []) (content raw) :=
      shut.andThen reads_lift fun _ _ => trivial
    exact start.andThen ((reads_upTo free).andThen close fun _ _ => rfl) fun _ _ => trivial
  rwa [List.append_nil, List.append_assoc] at all

theorem reads_valued {key : String} (white : ∀ c ∈ ws, blank c = true) (free : quote ∉ rawValue) (free' : '<' ∉ raw) :
    Reads next (valued name key)
      (ws ++ (valueTag name key ++ (rawValue ++ ([quote, '>'] ++ (raw ++ endTag name)))))
      (do return (← value rawValue, ← content raw)) := by
  have start : Reads Always (tag (valueTag name key)) (ws ++ valueTag name key) (some ()) := reads_tag white
  have shut : Reads Always (literal (endTag name)) (endTag name) (some ()) := reads_literal _
  have sign : Reads Always (literal [quote, '>']) [quote, '>'] (some ()) := reads_literal _
  have all : Reads next (valued name key)
      (ws ++ valueTag name key ++ (rawValue ++ ([quote, '>'] ++ (raw ++ (endTag name ++ [])))))
      (do return (← value rawValue, ← content raw)) := by
    have close : Reads next
        (literal (endTag name) >>= fun _ => lift do return (← value rawValue, ← content raw))
        (endTag name ++ []) (do return (← value rawValue, ← content raw)) :=
      shut.andThen reads_lift fun _ _ => trivial
    refine start.andThen ((reads_upTo free).andThen (sign.andThen ?_ fun _ _ => trivial) fun _ _ => rfl) fun _ _ => trivial
    exact (reads_upTo free').andThen close fun _ _ => rfl
  rwa [List.append_nil, List.append_assoc] at all

/-! ### Elements that may be missing, or come more than once -/

theorem dropWhile_tag (white : ∀ c ∈ ws, blank c = true) (name : String) (rest : List Char) :
    (ws ++ startTag name ++ rest).dropWhile blank = startTag name ++ rest := by
  rw [List.append_assoc]
  exact dropWhile_blank white _

theorem starts_tag (white : ∀ c ∈ ws, blank c = true) (rest : List Char) : Starts name (ws ++ startTag name ++ rest) := by
  rw [Starts, dropWhile_tag white]
  exact List.prefix_append _ _

theorem starts_inline (n : ℕ) (cs rest : List Char) : Starts name (line n (inline name cs) ++ rest) := by
  have start : Starts name (('\n' :: List.replicate n ' ') ++ startTag name ++ (cs ++ endTag name ++ rest)) :=
    starts_tag (white_line n) _
  simpa [line, inline] using start

theorem not_starts {other rest : List Char} (white : ∀ c ∈ ws, blank c = true) (differ : name.toList ≠ other)
    (free : '>' ∉ name.toList) (free' : '>' ∉ other) : ¬ Starts name (ws ++ '<' :: (other ++ '>' :: rest)) := by
  have word {cs : List Char} (free : '>' ∉ cs) (ds : List Char) : (cs ++ '>' :: ds).takeWhile (· ≠ '>') = cs := by
    have other : ∀ d ∈ cs, decide (d ≠ '>') = true := by
      intro d mem
      exact decide_eq_true fun same => free (same ▸ mem)
    rw [List.takeWhile_append_of_pos other, List.takeWhile_cons_of_neg (by decide), List.append_nil]
  rw [Starts, dropWhile_blank white]
  rintro ⟨tail, eq⟩
  have names : name.toList ++ '>' :: tail = other ++ '>' :: rest := by
    simpa [startTag] using eq
  apply differ
  rw [← word free tail, names, word free']

theorem not_starts_tag {other : String} {rest : List Char} (white : ∀ c ∈ ws, blank c = true) (differ : name ≠ other)
    (free : '>' ∉ name.toList) (free' : '>' ∉ other.toList) : ¬ Starts name (ws ++ startTag other ++ rest) := by
  rw [startTag, List.append_assoc, List.cons_append, List.append_assoc]
  exact not_starts white (fun same => differ (String.toList_inj.mp same)) free free'

theorem not_starts_end {other : String} {rest : List Char} (white : ∀ c ∈ ws, blank c = true)
    (differ : name.toList ≠ '/' :: other.toList) (free : '>' ∉ name.toList) (free' : '>' ∉ other.toList) :
    ¬ Starts name (ws ++ endTag other ++ rest) := by
  rw [endTag, List.append_assoc, List.cons_append, List.cons_append, List.append_assoc, ← List.cons_append]
  exact not_starts white differ free (by simpa using free')

theorem not_starts_inline {other : String} {n : ℕ} {cs rest : List Char} (differ : name ≠ other)
    (free : '>' ∉ name.toList) (free' : '>' ∉ other.toList) : ¬ Starts name (line n (inline other cs) ++ rest) := by
  have apart : ¬ Starts name (('\n' :: List.replicate n ' ') ++ startTag other ++ (cs ++ endTag other ++ rest)) :=
    not_starts_tag (white_line n) differ free free'
  simpa [line, inline] using apart

theorem not_starts_line {other : String} {n : ℕ} {rest : List Char} (differ : name.toList ≠ '/' :: other.toList)
    (free : '>' ∉ name.toList) (free' : '>' ∉ other.toList) : ¬ Starts name (line n (endTag other) ++ rest) := by
  have apart : ¬ Starts name (('\n' :: List.replicate n ' ') ++ endTag other ++ rest) :=
    not_starts_end (white_line n) differ free free'
  simpa [line] using apart

theorem Reads.present (body : Reads next r cs x) (starts : ∀ rest, Starts name (cs ++ rest)) :
    Reads next (optional name r) cs (x.map some) := by
  intro rest after
  rw [optional, if_pos (starts rest), body rest after]
  cases x <;> rfl

theorem reads_absent : Reads (fun rest => ¬ Starts name rest) (optional name r) [] (some none) := by
  intro rest other
  exact if_neg other

theorem reads_optional {τ : Type} {print : τ → List Char} {x : τ → Option α} {o : Option τ}
    (each : ∀ t ∈ o, Reads Always r (print t) (x t)) (starts : ∀ t ∈ o, ∀ rest, Starts name (print t ++ rest)) :
    Reads (fun rest => ¬ Starts name rest) (optional name r) (o.elim [] print)
      (o.elim (some none) fun t => (x t).map some) := by
  cases o with
  | none => exact reads_absent
  | some t => exact ((each t rfl).mono fun _ _ => trivial).present (starts t rfl)

theorem manyWithin_print {τ : Type} {print : τ → List Char} {x : τ → Option α} {items : List τ}
    (each : ∀ t ∈ items, Reads Always r (print t) (x t)) (starts : ∀ t ∈ items, ∀ rest, Starts name (print t ++ rest))
    {fuel : ℕ} (enough : items.length ≤ fuel) :
    Reads (fun rest => ¬ Starts name rest) (manyWithin name r fuel) (items.flatMap print) (items.mapM x) := by
  induction items generalizing fuel with
  | nil =>
      intro rest other
      cases fuel with
      | zero => rfl
      | succ fuel => exact if_neg other
  | cons t items ih =>
      cases fuel with
      | zero => cases enough
      | succ fuel =>
          rw [List.forall_mem_cons] at each starts
          have rest := ih each.2 starts.2 (Nat.le_of_succ_le_succ enough)
          have all : Reads (fun rest => ¬ Starts name rest)
              (do let a ← r; let as ← manyWithin name r fuel; return a :: as)
              (print t ++ items.flatMap print) ((x t).bind fun a => (items.mapM x).map (a :: ·)) :=
            each.1.bind (fun _ _ => rest.map) fun _ _ => trivial
          intro tail other
          have here : Starts name (print t ++ items.flatMap print ++ tail) := by
            rw [List.append_assoc]
            exact starts.1 _
          rw [List.flatMap_cons, List.mapM_cons]
          refine (if_pos here).trans ((all tail other).trans ?_)
          cases x t with
          | none => rfl
          | some a => cases items.mapM x <;> rfl

theorem reads_many {τ : Type} {print : τ → List Char} {x : τ → Option α} {items : List τ}
    (each : ∀ t ∈ items, Reads Always r (print t) (x t)) (starts : ∀ t ∈ items, ∀ rest, Starts name (print t ++ rest)) :
    Reads (fun rest => ¬ Starts name rest) (many name r) (items.flatMap print) (items.mapM x) := by
  intro rest other
  refine manyWithin_print each starts ?_ rest other
  have long : items.length ≤ (items.flatMap print).length := by
    clear each
    induction items with
    | nil => exact Nat.le_refl 0
    | cons t items ih =>
        rw [List.forall_mem_cons] at starts
        have here := ih starts.2
        have nonempty : print t ≠ [] := by
          intro empty
          have start := starts.1 []
          rw [empty] at start
          exact absurd (List.prefix_nil.mp start) (by simp [startTag])
        have some := List.length_pos_iff.mpr nonempty
        rw [List.length_cons, List.flatMap_cons, List.length_append]
        omega
  rw [List.length_append]
  omega

end
end Reader
end Foundations.Xml
