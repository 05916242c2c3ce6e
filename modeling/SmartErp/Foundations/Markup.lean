import SmartErp.Foundations.Pattern

/-!
# Markup and patterns for its elements

A document is a list of pieces: start tags, end tags and the text between. Patterns that look for elements
by name see the pieces only through their names: the first start tag whose name begins with the wanted one,
and the first end tag after it that has exactly this name.
-/

namespace Foundations.Markup
open Pattern

/-- How the tags of an element are written around its name; `pre` ends in the colon. -/
structure Mark where
  pre : List Char
  attrs : List Char
  blanks : List Char
  deriving DecidableEq

inductive Piece where
  | opening (mark : Mark) (name : String)
  | closing (mark : Mark) (name : String)
  | text (chars : List Char)
  deriving DecidableEq

def Piece.render : Piece → List Char
  | opening m name => '<' :: (m.pre ++ (name.toList ++ (m.attrs ++ ['>'])))
  | closing m name => '<' :: '/' :: (m.pre ++ (name.toList ++ (m.blanks ++ ['>'])))
  | text chars => chars

def render (ps : List Piece) : List Char := ps.flatMap Piece.render

/-! ## Patterns -/

/-- `\w` -/
def wordChar (c : Char) : Bool := c.isAlphanum || c = '_'

/-- `[\w]+:` -/
def namespacePrefix : Pattern Unit := do
  let _ ← many1 wordChar
  literal ":"

/-- `<(?:[\w]+:)?tag[^>]*>` -/
def startTag (tag : String) : Pattern Unit := do
  literal "<"
  optional namespacePrefix
  literal tag
  let _ ← many (· ≠ '>')
  literal ">"

/-- `</(?:[\w]+:)?tag>` -/
def endTag (tag : String) : Pattern Unit := do
  literal "</"
  optional namespacePrefix
  literal tag
  literal ">"

def element (tag : String) : Pattern (List Char) := do
  startTag tag
  upTo (endTag tag)

/-! ## What they look for -/

def opens (tag : String) : Piece → Bool
  | .opening _ name => tag.toList.isPrefixOf name.toList
  | _ => false

def closes (tag : String) : Piece → Bool
  | .closing _ name => name = tag
  | _ => false

def after (tag : String) : List Piece → Option (List Piece)
  | [] => none
  | p :: ps => if opens tag p then some ps else after tag ps

def inside (tag : String) : List Piece → Option (List Piece × List Piece)
  | [] => none
  | p :: ps => if closes tag p then some ([], ps) else (inside tag ps).map fun r => (p :: r.1, r.2)

/-- Text without tags: no `<` comes before a name or a slash, as where it begins a character section. -/
def Inert : List Char → Prop
  | [] => True
  | c :: cs => (c = '<' → ∃ d, cs.head? = some d ∧ wordChar d = false ∧ d ≠ '/') ∧ Inert cs

structure Mark.Plain (tag : String) (m : Mark) : Prop where
  pre : m.pre = [] ∨ ∃ w, w ≠ [] ∧ (∀ c ∈ w, c ≠ '<' ∧ c ≠ ':' ∧ c ≠ '/') ∧ m.pre = w ++ [':']
  differs : ¬ tag.toList <+: m.pre
  attrs : ∀ c ∈ m.attrs, c ≠ '<'
  attrs_head : ∀ c ∈ m.attrs.head?, wordChar c = false ∧ c ≠ ':'
  blanks : ∀ c ∈ m.blanks, c ≠ '<' ∧ c ≠ '>'
  blanks_head : ∀ c ∈ m.blanks.head?, wordChar c = false ∧ c ≠ ':'

structure Mark.Legible (m : Mark) : Prop where
  word : ∀ c ∈ m.pre, wordChar c = true ∨ c = ':'
  attrs : ∀ c ∈ m.attrs, c ≠ '>'

structure Word (tag : String) : Prop where
  nonempty : tag.toList ≠ []
  word : ∀ c ∈ tag.toList, wordChar c = true

structure Name (name : String) : Prop where
  nonempty : name.toList ≠ []
  plain : ∀ c ∈ name.toList, c ≠ '<' ∧ c ≠ '>' ∧ c ≠ ':' ∧ c ≠ '/'

def Piece.Plain (tag : String) : Piece → Prop
  | opening m name => m.Plain tag ∧ Name name ∧ (tag.toList <+: name.toList → m.Legible)
  | closing m name => m.Plain tag ∧ Name name ∧ (name = tag → m.Legible ∧ m.blanks = [])
  | text chars => Inert chars

def Mark.bare : Mark := ⟨[], [], []⟩

/-- A tag with nothing around its name, or text without any `<`. -/
def Piece.Bare : Piece → Prop
  | opening m name | closing m name => m = .bare ∧ Word name
  | text chars => '<' ∉ chars

variable {tag : String} {m : Mark} {name : String}

instance : Decidable (Word name) :=
  decidable_of_iff (name.toList ≠ [] ∧ name.toList.all wordChar)
    ⟨fun word => ⟨word.1, List.all_eq_true.mp word.2⟩, fun word => ⟨word.1, List.all_eq_true.mpr word.2⟩⟩

instance : DecidablePred Piece.Bare
  | .opening m name | .closing m name => inferInstanceAs (Decidable (m = .bare ∧ Word name))
  | .text chars => inferInstanceAs (Decidable ('<' ∉ chars))

theorem Word.named (word : Word name) : Name name := by
  refine ⟨word.nonempty, fun c mem => ?_⟩
  have inside := word.word c mem
  refine ⟨?_, ?_, ?_, ?_⟩ <;>
    · rintro rfl
      exact absurd inside (by decide)

theorem Mark.bare_legible : Mark.bare.Legible := ⟨nofun, nofun⟩

theorem Mark.bare_plain (word : Word tag) : Mark.bare.Plain tag where
  pre := .inl rfl
  differs := fun first => word.nonempty (List.prefix_nil.mp first)
  attrs := fun _ mem => absurd mem List.not_mem_nil
  attrs_head := nofun
  blanks := fun _ mem => absurd mem List.not_mem_nil
  blanks_head := nofun

theorem inert_of_not_mem {cs : List Char} (absent : '<' ∉ cs) : Inert cs := by
  induction cs with
  | nil => trivial
  | cons c cs ih =>
      rw [List.mem_cons, not_or] at absent
      exact ⟨fun here => absurd here.symm absent.1, ih absent.2⟩

theorem Piece.Bare.plain (word : Word tag) {p : Piece} (bare : p.Bare) : p.Plain tag := by
  cases p with
  | opening m name =>
      obtain ⟨rfl, own⟩ := bare
      exact ⟨Mark.bare_plain word, own.named, fun _ => Mark.bare_legible⟩
  | closing m name =>
      obtain ⟨rfl, own⟩ := bare
      exact ⟨Mark.bare_plain word, own.named, fun _ => ⟨Mark.bare_legible, rfl⟩⟩
  | text chars => exact inert_of_not_mem bare

/-! ## One tag -/

theorem begins_within {t u : List Char} (word : ∀ d ∈ t, wordChar d = true) {c : Char}
    (outside : wordChar c = false) {s : List Char} (first : t <+: u ++ c :: s) : t <+: u := by
  induction t generalizing u with
  | nil => exact List.nil_prefix
  | cons d t ih =>
      rw [List.forall_mem_cons] at word
      cases u with
      | nil =>
          obtain ⟨rfl, -⟩ := List.cons_prefix_cons.mp first
          rw [outside] at word
          cases word.1
      | cons e u =>
          obtain ⟨rfl, rest⟩ := List.cons_prefix_cons.mp first
          exact List.cons_prefix_cons.mpr ⟨rfl, ih word.2 rest⟩

theorem literal_begins {c : Char} {t : String} (only : t.toList = [c]) {d : Char} (ne : d ≠ c) (s : List Char) :
    literal t (d :: s) = [] := by
  refine literal_eq_nil fun first => ne ?_
  rw [only] at first
  exact (List.cons_prefix_cons.mp first).1.symm

theorem namespacePrefix_word {w : List Char} (nonempty : w ≠ []) (word : ∀ c ∈ w, wordChar c = true)
    (s : List Char) : namespacePrefix (w ++ ':' :: s) = [((), s)] := by
  obtain ⟨c, w, rfl⟩ := List.exists_cons_of_ne_nil nonempty
  rw [List.forall_mem_cons] at word
  have begins : ∀ d s, wordChar d = true → literal ":" (d :: s) = [] := by
    intro d s inside
    refine literal_begins (c := ':') rfl ?_ s
    rintro rfl
    exact absurd inside (by decide)
  have taken := many_bind begins word.2 (show wordChar ':' = false from by decide) s
  rw [bind_eq] at taken
  rw [namespacePrefix, bind_eq, List.cons_append, many1, if_pos word.1, List.flatMap_map, taken]
  exact literal_append ":" s

theorem namespacePrefix_eq_nil {u : List Char} (plain : ∀ c ∈ u, c ≠ ':') {c : Char}
    (outside : wordChar c = false) (ne : c ≠ ':') (s : List Char) : namespacePrefix (u ++ c :: s) = [] := by
  have rest : ∀ u : List Char, (∀ c ∈ u, c ≠ ':') →
      (many wordChar >>= fun _ => literal ":") (u ++ c :: s) = [] := by
    intro u plain
    induction u with
    | nil =>
        rw [bind_eq, List.nil_append, many_eq_nil outside, List.flatMap_singleton]
        exact literal_begins (t := ":") rfl ne s
    | cons d u ih =>
        rw [List.forall_mem_cons] at plain
        have ih := ih plain.2
        rw [bind_eq] at ih
        rw [bind_eq, List.cons_append, many]
        split
        · rw [List.flatMap_append, List.flatMap_map, ih, List.flatMap_singleton,
            literal_begins (t := ":") rfl plain.1]
          rfl
        · rw [List.flatMap_singleton, literal_begins (t := ":") rfl plain.1]
  cases u with
  | nil => simp [namespacePrefix, bind_eq, many1, outside]
  | cons d u =>
      rw [List.forall_mem_cons] at plain
      have ih := rest u plain.2
      rw [bind_eq] at ih
      rw [namespacePrefix, bind_eq, List.cons_append, many1]
      split
      · rw [List.flatMap_map, ih]
      · rfl

theorem optional_prefix {β : Type} {f : Unit → Pattern β} (word : Word tag) (plain : m.Plain tag) (ok : Name name)
    {c : Char} (outside : wordChar c = false) (ne : c ≠ ':') (s : List Char)
    (legible : tag.toList <+: name.toList → f () (name.toList ++ c :: s) = [] ∨ m.Legible)
    (starts : (f ()).Starts tag.toList) :
    (optional namespacePrefix >>= f) (m.pre ++ (name.toList ++ c :: s)) = f () (name.toList ++ c :: s) := by
  rcases plain.pre with none | ⟨w, nonempty, inside, prefixed⟩
  · have absent : namespacePrefix (name.toList ++ c :: s) = [] :=
      namespacePrefix_eq_nil (fun c mem => (ok.plain c mem).2.2.1) outside ne s
    rw [none, List.nil_append, bind_eq, optional_of_nil absent, List.flatMap_singleton]
  · have split : m.pre ++ (name.toList ++ c :: s) = w ++ ':' :: (name.toList ++ c :: s) := by
      rw [prefixed, List.append_assoc, List.singleton_append]
    have differs : f () (m.pre ++ (name.toList ++ c :: s)) = [] := by
      refine starts _ fun first => plain.differs ?_
      rw [split] at first
      rw [prefixed]
      exact (begins_within word.word (by decide) first).trans (List.prefix_append _ _)
    by_cases words : ∀ d ∈ w, wordChar d = true
    · have both : optional namespacePrefix (m.pre ++ (name.toList ++ c :: s)) =
          [((), name.toList ++ c :: s), ((), m.pre ++ (name.toList ++ c :: s))] := by
        rw [Pattern.optional, split, namespacePrefix_word nonempty words]
        rfl
      rw [bind_eq, both, List.flatMap_cons, List.flatMap_singleton, differs, List.append_nil]
    · -- the prefix is not one that the pattern knows
      obtain ⟨d, mem, strange⟩ : ∃ d ∈ w, wordChar d ≠ true := by simpa using words
      have own : f () (name.toList ++ c :: s) = [] := by
        by_cases here : tag.toList <+: name.toList
        · refine (legible here).resolve_right fun legible => strange ?_
          refine (legible.word d (prefixed ▸ List.mem_append_left _ mem)).resolve_right ?_
          exact (inside d mem).2.1
        · exact starts _ fun first => here (begins_within word.word outside first)
      have absent : namespacePrefix (m.pre ++ (name.toList ++ c :: s)) = [] := by
        obtain ⟨u, v, rfl⟩ := List.append_of_mem mem
        rw [split, List.append_assoc, List.cons_append]
        refine namespacePrefix_eq_nil (fun c mem => ?_) (by simpa using strange) (inside d mem).2.1 _
        exact (inside c (List.mem_append_left _ mem)).2.1
      rw [bind_eq, optional_of_nil absent, List.flatMap_singleton, differs, own]

theorem tail_cons {p : Char → Prop} {cs : List Char} (first : ∀ c ∈ cs.head?, p c) {d : Char} (close : p d)
    (s : List Char) : ∃ c s', cs ++ d :: s = c :: s' ∧ p c := by
  cases cs with
  | nil => exact ⟨d, s, rfl, close⟩
  | cons c cs => exact ⟨c, cs ++ d :: s, rfl, first c rfl⟩

theorem startTag_opening (word : Word tag) (plain : (Piece.opening m name).Plain tag) (s : List Char) :
    startTag tag ((Piece.opening m name).render ++ s) =
      if opens tag (.opening m name) then [((), s)] else [] := by
  obtain ⟨plain, ok, legible⟩ := plain
  obtain ⟨c, s', eq, outside, ne⟩ := tail_cons plain.attrs_head
    (show wordChar '>' = false ∧ '>' ≠ ':' from by decide) s
  have named : startTag tag ((Piece.opening m name).render ++ s) =
      (literal tag >>= fun _ => many (· ≠ '>') >>= fun _ => literal ">")
        (name.toList ++ (m.attrs ++ '>' :: s)) := by
    have whole : (Piece.opening m name).render ++ s =
        "<".toList ++ (m.pre ++ (name.toList ++ (m.attrs ++ '>' :: s))) := by
      simp [Piece.render]
    rw [whole, startTag, bind_eq, literal_append, List.flatMap_singleton, eq]
    exact optional_prefix word plain ok outside ne s' (fun here => .inr (legible here)) (starts_literal tag _)
  rw [named]
  simp only [opens, List.isPrefixOf_iff_prefix]
  split
  · rename_i here
    have attrs := (legible here).attrs
    obtain ⟨u, eq'⟩ := here
    have inner : ∀ d ∈ u ++ m.attrs, decide (d ≠ '>') = true := by
      intro d mem
      rw [decide_eq_true_eq]
      rcases List.mem_append.mp mem with mem | mem
      · exact (ok.plain d (eq' ▸ List.mem_append_right _ mem)).2.1
      · exact attrs d mem
    have begins : ∀ d s, decide (d ≠ '>') = true → literal ">" (d :: s) = [] := by
      intro d s ne
      exact literal_begins (t := ">") rfl (of_decide_eq_true ne) s
    rw [bind_eq, ← eq', List.append_assoc, literal_append, List.flatMap_singleton, ← List.append_assoc]
    exact (many_bind begins inner (show decide ('>' ≠ '>') = false from rfl) s).trans (literal_append ">" s)
  · rename_i differs
    refine starts_literal tag _ _ fun first => differs ?_
    rw [eq] at first
    exact begins_within word.word outside first

theorem endTag_closing (word : Word tag) (plain : (Piece.closing m name).Plain tag) (s : List Char) :
    endTag tag ((Piece.closing m name).render ++ s) =
      if closes tag (.closing m name) then [((), s)] else [] := by
  obtain ⟨plain, ok, bare⟩ := plain
  obtain ⟨c, s', eq, outside, ne⟩ := tail_cons plain.blanks_head
    (show wordChar '>' = false ∧ '>' ≠ ':' from by decide) s
  have longer : name ≠ tag →
      (literal tag >>= fun _ => literal ">") (name.toList ++ (m.blanks ++ '>' :: s)) = [] := by
    intro differs
    by_cases here : tag.toList <+: name.toList
    · obtain ⟨u, eq'⟩ := here
      cases u with
      | nil => exact absurd (String.toList_inj.mp (eq'.symm.trans (List.append_nil _))) differs
      | cons d u =>
          have ne := (ok.plain d (eq' ▸ List.mem_append_right _ List.mem_cons_self)).2.1
          rw [bind_eq, ← eq', List.append_assoc, literal_append, List.flatMap_singleton]
          exact literal_begins (t := ">") rfl ne _
    · refine starts_literal tag _ _ fun first => here ?_
      rw [eq] at first
      exact begins_within word.word outside first
  have named : endTag tag ((Piece.closing m name).render ++ s) =
      (literal tag >>= fun _ => literal ">") (name.toList ++ (m.blanks ++ '>' :: s)) := by
    have whole : (Piece.closing m name).render ++ s =
        "</".toList ++ (m.pre ++ (name.toList ++ (m.blanks ++ '>' :: s))) := by
      simp [Piece.render]
    rw [whole, endTag, bind_eq, literal_append, List.flatMap_singleton]
    rw [eq] at longer ⊢
    refine optional_prefix word plain ok outside ne s' (fun _ => ?_) (starts_literal tag _)
    by_cases same : name = tag
    · exact .inr (bare same).1
    · exact .inl (longer same)
  rw [named]
  simp only [closes, decide_eq_true_eq]
  split
  · rename_i same
    rw [(bare same).2, same, List.nil_append, bind_eq, literal_append, List.flatMap_singleton]
    exact literal_append ">" s
  · rename_i differs
    exact longer differs

/-! ## Pieces one after the other -/

theorem startTag_eq_nil (word : Word tag) {c : Char} (outside : wordChar c = false) (s : List Char) :
    startTag tag ('<' :: c :: s) = [] := by
  have absent : namespacePrefix (c :: s) = [] := by
    rw [namespacePrefix, bind_eq, many1, if_neg (by simp [outside])]
    rfl
  have differs : ¬ tag.toList <+: c :: s := by
    intro first
    exact word.nonempty (List.prefix_nil.mp (begins_within (u := []) word.word outside first))
  rw [startTag, show '<' :: c :: s = "<".toList ++ c :: s from rfl, bind_eq, literal_append,
    List.flatMap_singleton, bind_eq, optional_of_nil absent, List.flatMap_singleton]
  exact starts_literal tag _ _ differs

theorem endTag_eq_nil {c : Char} (ne : c ≠ '/') (s : List Char) : endTag tag ('<' :: c :: s) = [] := by
  refine starts_literal "</" _ _ fun first => ne ?_
  have second := (List.cons_prefix_cons.mp first).2
  exact (List.cons_prefix_cons.mp second).1.symm

theorem starts_startTag : (startTag tag).Starts ['<'] := starts_literal "<" _

theorem starts_endTag : (endTag tag).Starts ['<'] := by
  intro s differ
  refine starts_literal "</" _ _ fun first => differ ?_
  exact (show ['<'] <+: "</".toList from by decide).trans first

theorem Inert.silent {α : Type} {a : Pattern α} (starts : a.Starts ['<']) (skips : ∀ c s, wordChar c = false → c ≠ '/' →
    a ('<' :: c :: s) = []) {cs : List Char} (inert : Inert cs) (s : List Char) : a.Silent s cs := by
  induction cs with
  | nil => trivial
  | cons c cs ih =>
      obtain ⟨next, rest⟩ := inert
      refine ⟨?_, ih rest⟩
      by_cases here : c = '<'
      · subst here
        cases cs with
        | nil => simp at next
        | cons d cs =>
            obtain ⟨_, ⟨⟩, outside, ne⟩ := next rfl
            exact skips d _ outside ne
      · exact starts _ fun first => here (List.cons_prefix_cons.mp first).1.symm

theorem Mark.Plain.pre_ne (plain : m.Plain tag) : ∀ c ∈ m.pre, c ≠ '<' ∧ c ≠ '/' := by
  intro c mem
  rcases plain.pre with none | ⟨w, -, inside, prefixed⟩
  · rw [none] at mem
    cases mem
  · rw [prefixed, List.mem_append, List.mem_singleton] at mem
    rcases mem with mem | rfl
    · exact ⟨(inside c mem).1, (inside c mem).2.2⟩
    · decide

theorem opening_head (plain : m.Plain tag) (ok : Name name) (s : List Char) :
    ∃ c s', (Piece.opening m name).render ++ s = '<' :: c :: s' ∧ c ≠ '/' := by
  cases written : m.pre with
  | nil =>
      obtain ⟨c, u, eq⟩ := List.exists_cons_of_ne_nil ok.nonempty
      refine ⟨c, u ++ (m.attrs ++ '>' :: s), by simp [Piece.render, written, eq], ?_⟩
      exact (ok.plain c (eq ▸ List.mem_cons_self)).2.2.2
  | cons c u =>
      refine ⟨c, u ++ (name.toList ++ (m.attrs ++ '>' :: s)), by simp [Piece.render, written], ?_⟩
      exact (plain.pre_ne c (written ▸ List.mem_cons_self)).2

theorem opening_silent {α : Type} {a : Pattern α} (starts : a.Starts ['<']) (plain : m.Plain tag) (ok : Name name)
    {s : List Char} (none : a ((Piece.opening m name).render ++ s) = []) :
    a.Silent s (Piece.opening m name).render := by
  refine ⟨none, starts.silent (fun mem => ?_) s⟩
  simp only [List.mem_append, List.mem_singleton] at mem
  rcases mem with mem | mem | mem | mem
  · exact (plain.pre_ne _ mem).1 rfl
  · exact (ok.plain _ mem).1 rfl
  · exact plain.attrs _ mem rfl
  · exact absurd mem (by decide)

theorem closing_silent {α : Type} {a : Pattern α} (starts : a.Starts ['<']) (plain : m.Plain tag) (ok : Name name)
    {s : List Char} (none : a ((Piece.closing m name).render ++ s) = []) :
    a.Silent s (Piece.closing m name).render := by
  refine ⟨none, starts.silent (fun mem => ?_) s⟩
  simp only [List.mem_cons, List.mem_append] at mem
  rcases mem with mem | mem | mem | mem | mem
  · exact absurd mem (by decide)
  · exact (plain.pre_ne _ mem).1 rfl
  · exact (ok.plain _ mem).1 rfl
  · exact (plain.blanks _ mem).1 rfl
  · exact absurd mem (by decide)

theorem startTag_silent (word : Word tag) {p : Piece} (plain : p.Plain tag) (other : opens tag p = false)
    (s : List Char) : (startTag tag).Silent s p.render := by
  cases p with
  | opening m name =>
      refine opening_silent starts_startTag plain.1 plain.2.1 ?_
      rw [startTag_opening word plain, if_neg (by simp [other])]
  | closing m name =>
      exact closing_silent starts_startTag plain.1 plain.2.1 (startTag_eq_nil word (by decide) _)
  | text chars =>
      exact Inert.silent starts_startTag (fun c s outside _ => startTag_eq_nil word outside s) plain s

theorem endTag_silent (word : Word tag) {p : Piece} (plain : p.Plain tag) (other : closes tag p = false)
    (s : List Char) : (endTag tag).Silent s p.render := by
  cases p with
  | opening m name =>
      obtain ⟨c, s', eq, ne⟩ := opening_head plain.1 plain.2.1 s
      refine opening_silent starts_endTag plain.1 plain.2.1 ?_
      rw [eq]
      exact endTag_eq_nil ne s'
  | closing m name =>
      refine closing_silent starts_endTag plain.1 plain.2.1 ?_
      rw [endTag_closing word plain, if_neg (by simp [other])]
  | text chars =>
      exact Inert.silent starts_endTag (fun c s _ ne => endTag_eq_nil ne s) plain s

theorem starts_element : (element tag).Starts ['<'] := by
  intro s differ
  rw [element, bind_eq, starts_startTag s differ, List.flatMap_nil]

theorem silent_element {u s : List Char} (silent : (startTag tag).Silent s u) : (element tag).Silent s u := by
  induction u with
  | nil => trivial
  | cons c u ih =>
      refine ⟨?_, ih silent.2⟩
      rw [element, bind_eq, silent.1]
      rfl

/-! ## Whole documents -/

def Plain (tag : String) (ps : List Piece) : Prop := ∀ p ∈ ps, p.Plain tag

theorem render_cons (p : Piece) (ps : List Piece) : render (p :: ps) = p.render ++ render ps := rfl

theorem render_append (ps qs : List Piece) : render (ps ++ qs) = render ps ++ render qs := List.flatMap_append

theorem upTo_render (word : Word tag) {ps : List Piece} (plain : Plain tag ps) :
    (upTo (endTag tag) (render ps)).head? = (inside tag ps).map fun r => (render r.1, render r.2) := by
  induction ps with
  | nil => rfl
  | cons p ps ih =>
      obtain ⟨here, rest⟩ := List.forall_mem_cons.mp plain
      rw [render_cons, inside]
      split
      · rename_i closed
        cases p with
        | closing m name =>
            have taken := endTag_closing word here (render ps)
            rw [if_pos closed] at taken
            exact upTo_of_head (congrArg List.head? taken)
        | opening | text => cases closed
      · rename_i other
        rw [(endTag_silent word here (by simpa using other) _).upTo, List.head?_map, ih rest, Option.map_map,
          Option.map_map]
        rfl

theorem inside_after {ps qs : List Piece} (open' : inside tag ps = none) (follows : after tag ps = some qs) :
    inside tag qs = none := by
  induction ps with
  | nil => cases follows
  | cons p ps ih =>
      rw [inside] at open'
      split at open'
      · cases open'
      · rw [Option.map_eq_none_iff] at open'
        rw [after] at follows
        split at follows
        · exact Option.some_inj.mp follows ▸ open'
        · exact ih open' follows

/-- The first match begins at the first start tag and ends at the first end tag after it. -/
theorem search_render (word : Word tag) {ps : List Piece} (plain : Plain tag ps) :
    (element tag).search (render ps) =
      ((after tag ps).bind (inside tag)).map fun r => (render r.1, render r.2) := by
  induction ps with
  | nil => rfl
  | cons p ps ih =>
      obtain ⟨here, rest⟩ := List.forall_mem_cons.mp plain
      rw [render_cons, after]
      split
      · rename_i opened
        have taken : element tag (p.render ++ render ps) = upTo (endTag tag) (render ps) := by
          cases p with
          | opening m name =>
              rw [element, bind_eq, startTag_opening word here, if_pos opened, List.flatMap_singleton]
          | closing | text => cases opened
        rw [Option.bind_some]
        cases closed : inside tag ps with
        | some r =>
            apply search_of_head
            rw [taken, upTo_render word rest, closed]
            rfl
        | none =>
            have nothing : element tag (p.render ++ render ps) = [] := by
              rw [taken, ← List.head?_eq_none_iff, upTo_render word rest, closed]
              rfl
            have silent : (element tag).Silent (render ps) p.render := by
              cases p with
              | opening m name => exact opening_silent starts_element here.1 here.2.1 nothing
              | closing | text => cases opened
            rw [silent.search, ih rest]
            cases follows : after tag ps with
            | none => rfl
            | some qs => rw [Option.bind_some, inside_after closed follows]
      · rename_i other
        rw [(silent_element (startTag_silent word here (by simpa using other) _)).search, ih rest]

theorem consumes_element : (element tag).Consumes := by
  have prefixed : namespacePrefix.Leaves := (leaves_many1 _).bind fun _ => leaves_literal _
  have close : (endTag tag).Leaves := (leaves_literal _).bind fun _ => prefixed.optional.bind fun _ =>
    (leaves_literal _).bind fun _ => leaves_literal _
  have open' : (startTag tag).Consumes := (consumes_literal (by decide)).bind fun _ =>
    prefixed.optional.bind fun _ => (leaves_literal _).bind fun _ => (leaves_many _).bind fun _ => leaves_literal _
  exact open'.bind fun _ => leaves_upTo close

/-! ## Reading elements -/

def Piece.name? : Piece → Option String
  | opening _ name | closing _ name => some name
  | text _ => none

def Clear (tag : String) (ps : List Piece) : Prop :=
  ∀ p ∈ ps, ∀ name ∈ p.name?, ¬ tag.toList <+: name.toList

def Unopened (tag : String) (ps : List Piece) : Prop := ∀ p ∈ ps, opens tag p = false

def Unclosed (tag : String) (ps : List Piece) : Prop := ∀ p ∈ ps, closes tag p = false

structure Leaf where
  mark : Mark
  text : List Char
  deriving DecidableEq

def Leaf.pieces (name : String) (l : Leaf) : List Piece :=
  [.opening l.mark name, .text l.text, .closing l.mark name]

theorem Plain.left {ps qs : List Piece} (plain : Plain tag (ps ++ qs)) : Plain tag ps :=
  fun p mem => plain p (List.mem_append_left _ mem)

theorem Plain.right {ps qs : List Piece} (plain : Plain tag (ps ++ qs)) : Plain tag qs :=
  fun p mem => plain p (List.mem_append_right _ mem)

theorem Clear.append {ps qs : List Piece} (first : Clear tag ps) (second : Clear tag qs) : Clear tag (ps ++ qs) :=
  List.forall_mem_append.mpr ⟨first, second⟩

theorem Unclosed.append {ps qs : List Piece} (first : Unclosed tag ps) (second : Unclosed tag qs) :
    Unclosed tag (ps ++ qs) := List.forall_mem_append.mpr ⟨first, second⟩

theorem Clear.wrap {ps : List Piece} (clear : Clear tag ps) {name : String}
    (other : ¬ tag.toList <+: name.toList) (m : Mark) :
    Clear tag (.opening m name :: (ps ++ [.closing m name])) := by
  refine List.forall_mem_cons.mpr ⟨?_, clear.append (List.forall_mem_singleton.mpr ?_)⟩
  · exact fun named here => Option.some_inj.mp here ▸ other
  · exact fun named here => Option.some_inj.mp here ▸ other

theorem Clear.unopened {ps : List Piece} (clear : Clear tag ps) : Unopened tag ps := by
  intro p mem
  cases p with
  | opening m name =>
      rw [Markup.opens, ← Bool.not_eq_true, List.isPrefixOf_iff_prefix]
      exact clear _ mem name rfl
  | closing | text => rfl

theorem Clear.unclosed {ps : List Piece} (clear : Clear tag ps) : Unclosed tag ps := by
  intro p mem
  cases p with
  | closing m name =>
      rw [closes, decide_eq_false_iff_not]
      rintro rfl
      exact clear _ mem name rfl List.prefix_rfl
  | opening | text => rfl

theorem opens_self (m : Mark) : opens tag (.opening m tag) = true := by simp [opens]

theorem closes_self (m : Mark) : closes tag (.closing m tag) = true := by simp [closes]

theorem Unopened.append {ps qs : List Piece} (first : Unopened tag ps) (second : Unopened tag qs) :
    Unopened tag (ps ++ qs) := List.forall_mem_append.mpr ⟨first, second⟩

theorem after_append {ps : List Piece} (unopened : Unopened tag ps) (qs : List Piece) :
    after tag (ps ++ qs) = after tag qs := by
  induction ps with
  | nil => rfl
  | cons p ps ih =>
      obtain ⟨here, rest⟩ := List.forall_mem_cons.mp unopened
      rw [List.cons_append, after, if_neg (by simp [here]), ih rest]

theorem after_eq_none {ps : List Piece} : after tag ps = none ↔ Unopened tag ps := by
  induction ps with
  | nil => simp [after, Unopened]
  | cons p ps ih =>
      rw [after, Unopened, List.forall_mem_cons, ← Unopened, ← ih]
      by_cases here : opens tag p = true <;> simp [here]

theorem after_append_of_some {ps rest : List Piece} (found : after tag ps = some rest) (qs : List Piece) :
    after tag (ps ++ qs) = some (rest ++ qs) := by
  induction ps with
  | nil => cases found
  | cons p ps ih =>
      rw [after] at found
      rw [List.cons_append, after]
      split at found
      · rename_i here
        rw [if_pos here, Option.some_inj.mp found]
      · rename_i other
        rw [if_neg other, ih found]

theorem after_suffix {ps rest : List Piece} (found : after tag ps = some rest) : rest <:+ ps := by
  induction ps with
  | nil => cases found
  | cons p ps ih =>
      rw [after] at found
      split at found
      · exact Option.some_inj.mp found ▸ List.suffix_cons p ps
      · exact (ih found).trans (List.suffix_cons p ps)

theorem inside_append {ps : List Piece} (unclosed : Unclosed tag ps) (qs : List Piece) :
    inside tag (ps ++ qs) = (inside tag qs).map fun r => (ps ++ r.1, r.2) := by
  induction ps with
  | nil => simp
  | cons p ps ih =>
      obtain ⟨here, rest⟩ := List.forall_mem_cons.mp unclosed
      rw [List.cons_append, inside, if_neg (by simp [here]), ih rest, Option.map_map]
      rfl

variable {ps qs : List Piece} {l : Leaf}

theorem search_eq_none (word : Word tag) (plain : Plain tag ps) (unopened : Unopened tag ps) :
    (element tag).search (render ps) = none := by
  rw [search_render word plain, after_eq_none.mpr unopened]
  rfl

theorem search_leaf (word : Word tag) (plain : Plain tag (ps ++ (l.pieces tag ++ qs))) (unopened : Unopened tag ps) :
    (element tag).search (render (ps ++ (l.pieces tag ++ qs))) = some (l.text, render qs) := by
  rw [search_render word plain, after_append unopened]
  simp [Leaf.pieces, after, inside, opens_self, closes, render, Piece.render]

/-- A start tag before the wanted one, whose name only begins like it, is taken instead. -/
theorem search_stray (word : Word tag) (plain : Plain tag (ps ++ (l.pieces tag ++ qs))) {rest : List Piece}
    (stray : after tag ps = some rest) (unclosed : Unclosed tag ps) :
    (element tag).search (render (ps ++ (l.pieces tag ++ qs))) =
      some (render (rest ++ [.opening l.mark tag]) ++ l.text, render qs) := by
  have unclosed' : Unclosed tag rest := fun p mem => unclosed p ((after_suffix stray).subset mem)
  rw [search_render word plain, after_append_of_some stray, Option.bind_some, inside_append unclosed']
  simp [Leaf.pieces, inside, closes, render, Piece.render]

theorem search_append (word : Word tag) (plain : Plain tag (ps ++ qs)) (unopened : Unopened tag ps) :
    (element tag).search (render (ps ++ qs)) = (element tag).search (render qs) := by
  rw [search_render word plain, search_render word plain.right, after_append unopened]

theorem matchAll_append (word : Word tag) (plain : Plain tag (ps ++ qs)) (unopened : Unopened tag ps) :
    (element tag).matchAll (render (ps ++ qs)) = (element tag).matchAll (render qs) := by
  rw [consumes_element.matchAll, consumes_element.matchAll (render qs), search_append word plain unopened]

theorem matchAll_eq_nil (word : Word tag) (plain : Plain tag ps) (unopened : Unopened tag ps) :
    (element tag).matchAll (render ps) = [] := by
  rw [consumes_element.matchAll, search_eq_none word plain unopened]
  rfl

theorem matchAll_block (word : Word tag) {m : Mark}
    (plain : Plain tag (.opening m tag :: (ps ++ .closing m tag :: qs))) (unclosed : Unclosed tag ps) :
    (element tag).matchAll (render (.opening m tag :: (ps ++ .closing m tag :: qs))) =
      render ps :: (element tag).matchAll (render qs) := by
  rw [consumes_element.matchAll, search_render word plain, after, if_pos (opens_self m), Option.bind_some,
    inside_append unclosed, inside, if_pos (closes_self m)]
  simp

/-! ## Texts with tags in them -/

/-- Somewhere a `<` comes before a character of a name. -/
def Tagged (cs : List Char) : Prop := ∃ u c v, cs = u ++ '<' :: c :: v ∧ wordChar c = true

theorem Tagged.of_infix {cs ds : List Char} (tagged : Tagged cs) (part : cs <:+: ds) : Tagged ds := by
  obtain ⟨u, c, v, rfl, word⟩ := tagged
  obtain ⟨before, rest, rfl⟩ := part
  exact ⟨before ++ u, c, v ++ rest, by simp, word⟩

theorem Tagged.ne_nil {cs : List Char} (tagged : Tagged cs) : cs ≠ [] := by
  obtain ⟨u, c, v, rfl, -⟩ := tagged
  simp

theorem Tagged.of_append {cs ds : List Char} (tagged : Tagged (cs ++ ds)) :
    Tagged cs ∨ Tagged ds ∨ (cs.getLast? = some '<' ∧ ∃ c, ds.head? = some c ∧ wordChar c = true) := by
  obtain ⟨u, c, v, eq, word⟩ := tagged
  rcases List.append_eq_append_iff.mp eq with ⟨as, -, rest⟩ | ⟨bs, first, rest⟩
  · exact .inr (.inl ⟨as, c, v, rest, word⟩)
  · cases bs with
    | nil => exact .inr (.inl ⟨[], c, v, rest.symm, word⟩)
    | cons b bs =>
        obtain ⟨rfl, follows⟩ := List.cons.inj rest
        cases bs with
        | nil => exact .inr (.inr ⟨by simp [first], c, congrArg List.head? follows.symm, word⟩)
        | cons d bs =>
            obtain ⟨rfl, -⟩ := List.cons.inj follows
            exact .inl ⟨u, c, bs, first, word⟩

theorem Inert.not_tagged {cs : List Char} (inert : Inert cs) : ¬ Tagged cs := by
  rintro ⟨u, c, v, rfl, word⟩
  induction u with
  | nil =>
      obtain ⟨_, ⟨⟩, outside, -⟩ := inert.1 rfl
      rw [outside] at word
      cases word
  | cons d u ih => exact ih inert.2

theorem tagged_opening (word : Word tag) (plain : (Piece.opening m tag).Plain tag) (ps : List Piece) (cs : List Char) :
    ∃ u c v, render (ps ++ [.opening m tag]) ++ cs = u ++ '<' :: c :: v ∧ wordChar c = true := by
  cases written : m.pre with
  | nil =>
      obtain ⟨c, u, eq⟩ := List.exists_cons_of_ne_nil word.nonempty
      refine ⟨render ps, c, u ++ (m.attrs ++ '>' :: cs), ?_, word.word c (eq ▸ List.mem_cons_self)⟩
      simp [render, Piece.render, written, eq]
  | cons c u =>
      refine ⟨render ps, c, u ++ (tag.toList ++ (m.attrs ++ '>' :: cs)), ?_, ?_⟩
      · simp [render, Piece.render, written]
      · rcases plain.1.pre with none | ⟨w, nonempty, inside, prefixed⟩
        · rw [written] at none
          cases none
        · obtain ⟨d, w, rfl⟩ := List.exists_cons_of_ne_nil nonempty
          rw [written] at prefixed
          obtain ⟨rfl, -⟩ := List.cons.inj prefixed
          have known := (plain.2.2 List.prefix_rfl).word c (written ▸ List.mem_cons_self)
          exact known.resolve_right (inside c List.mem_cons_self).2.1

end Foundations.Markup
