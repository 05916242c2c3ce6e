import SmartErp.Foundations.Elements
import Mathlib.Data.List.DropRight

/-!
# Tags

A text cut at each `<`: the tags it has, one after another, each with its name, its attributes and the text
that follows it.
-/

namespace Foundations.Xml

/-- What follows each `<` up to the next one, without the blanks before that. -/
def tags (cs : List Char) : List (List Char) := (cs.splitOn '<').tail.map (·.rdropWhile blank)

def isName (cs : List Char) : Bool := cs.all fun c => !blank c && c ≠ '<' && c ≠ '>' && c ≠ '/'

def nameOf (tag : List Char) : List Char := tag.takeWhile fun c => !blank c && c ≠ '>'

def textOf (tag : List Char) : List Char := (tag.dropWhile (· ≠ '>')).tail

def named (name : String) (tags : List (List Char)) : List (List Char) := tags.filter (nameOf · = name.toList)

def pairs : List (List Char) → List (List Char × List Char)
  | key :: value :: rest => (key, value) :: pairs rest
  | [_] => []
  | [] => []

def attributeKey (key : String) : List Char := ' ' :: (key.toList ++ ['='])

def attributeText (key : String) (value : List Char) : List Char := attributeKey key ++ quote :: (value ++ [quote])

/-- The text between quotes that follows `key=`. -/
def attributeOf (key : String) (tag : List Char) : Option (List Char) :=
  (pairs ((tag.dropWhile (!blank ·)).splitOn quote)).lookup (attributeKey key)

variable {name : String} {cs ds ws raw : List Char}

/-! ## Trailing blanks -/

theorem rdropWhile_append_cons {c : Char} (other : blank c = false) (cs ds : List Char) :
    (cs ++ c :: ds).rdropWhile blank = cs ++ c :: ds.rdropWhile blank := by
  induction ds using List.reverseRecOn with
  | nil =>
      rw [List.rdropWhile_concat_neg _ _ _ (by simp [other]), List.rdropWhile_nil]
  | append_singleton ds d ih =>
      rw [← List.cons_append, ← List.append_assoc]
      by_cases white : blank d = true
      · rw [List.rdropWhile_concat_pos _ _ _ white, ih, List.rdropWhile_concat_pos _ _ _ white]
      · rw [List.rdropWhile_concat_neg _ _ _ white, List.rdropWhile_concat_neg _ _ _ white, List.append_assoc,
          List.cons_append]

theorem rdropWhile_append_blank (white : ∀ c ∈ ws, blank c = true) (cs : List Char) :
    (cs ++ ws).rdropWhile blank = cs.rdropWhile blank := by
  induction ws using List.reverseRecOn with
  | nil => rw [List.append_nil]
  | append_singleton ws w ih =>
      rw [List.forall_mem_append, List.forall_mem_singleton] at white
      rw [← List.append_assoc, List.rdropWhile_concat_pos _ _ _ white.2, ih white.1]

theorem rdropWhile_cons_congr (c : Char) (same : cs.rdropWhile blank = ds.rdropWhile blank) :
    (c :: cs).rdropWhile blank = (c :: ds).rdropWhile blank := by
  have general (cs : List Char) : (c :: cs).rdropWhile blank = (c :: cs.rdropWhile blank).rdropWhile blank := by
    have white : ∀ w ∈ cs.rtakeWhile blank, blank w = true := fun w mem => List.mem_rtakeWhile_imp mem
    have parts : cs.rdropWhile blank ++ cs.rtakeWhile blank = cs := List.rdropWhile_append_rtakeWhile
    conv_lhs => rw [← parts, ← List.cons_append]
    exact rdropWhile_append_blank white _
  rw [general, same, ← general]

/-! ## The tags of a text -/

theorem tags_append (cs ds : List Char) : tags (cs ++ '<' :: ds) = tags cs ++ tags ('<' :: ds) := by
  have whole : ('<' :: ds).splitOn '<' = [] :: ds.splitOn '<' := List.splitOn_append_cons_self [] ds
  rw [tags, tags, tags, List.splitOn_append_cons_self, whole,
    List.tail_append_of_ne_nil (List.splitOn_ne_nil '<' cs), List.map_append, List.tail_cons]

theorem tags_cons (free : '<' ∉ cs) : tags ('<' :: cs) = [cs.rdropWhile blank] := by
  have whole : ('<' :: cs).splitOn '<' = [] :: cs.splitOn '<' := List.splitOn_append_cons_self [] cs
  rw [tags, whole, List.splitOn_eq_singleton free]
  rfl

theorem tags_append_blank (white : ∀ c ∈ ws, blank c = true) (cs : List Char) : tags (cs ++ ws) = tags cs := by
  have free : '<' ∉ ws := fun mem => absurd (white '<' mem) (by decide)
  -- All parts are the same without their trailing blanks, the first one too.
  have parts : ((cs ++ ws).splitOn '<').map (·.rdropWhile blank) = (cs.splitOn '<').map (·.rdropWhile blank) := by
    induction cs with
    | nil =>
        have nothing : ws.rdropWhile blank = [] := List.rdropWhile_eq_nil_iff.mpr white
        rw [List.nil_append, List.splitOn_eq_singleton free, List.splitOn_nil, List.map_singleton, nothing]
        rfl
    | cons c cs ih =>
        rw [List.cons_append, List.splitOn_cons_eq_if_modifyHead, List.splitOn_cons_eq_if_modifyHead]
        split_ifs with here
        · rw [List.map_cons, ih, List.map_cons]
        · obtain ⟨first, others, eq⟩ := List.exists_cons_of_ne_nil (List.splitOn_ne_nil '<' (cs ++ ws))
          obtain ⟨first', others', eq'⟩ := List.exists_cons_of_ne_nil (List.splitOn_ne_nil '<' cs)
          rw [eq, eq', List.map_cons, List.map_cons] at ih
          obtain ⟨same, rest⟩ := List.cons.inj ih
          rw [eq, eq', List.modifyHead_cons, List.modifyHead_cons, List.map_cons, List.map_cons, rest,
            rdropWhile_cons_congr c same]
  rw [tags, tags, List.map_tail, List.map_tail, parts]

theorem tags_line (cs : List Char) (n : ℕ) (ds : List Char) : tags (cs ++ line n ('<' :: ds)) = tags cs ++ tags ('<' :: ds) := by
  have white : ∀ c ∈ '\n' :: List.replicate n ' ', blank c = true := Reader.white_line n
  rw [line, ← List.cons_append, ← List.append_assoc, tags_append, tags_append_blank white]

/-! ## Names and texts -/

theorem isName_iff : isName cs = true ↔ ∀ c ∈ cs, blank c = false ∧ c ≠ '<' ∧ c ≠ '>' ∧ c ≠ '/' := by
  simp [isName, List.all_eq_true, and_assoc]

theorem nameOf_append (plain : isName cs = true) {c : Char} (stop : blank c = true ∨ c = '>') (ds : List Char) :
    nameOf (cs ++ c :: ds) = cs := by
  have part : ∀ d ∈ cs, (!blank d && decide (d ≠ '>')) = true := by
    intro d mem
    obtain ⟨solid, -, other, -⟩ := isName_iff.mp plain d mem
    simp [solid, other]
  rw [nameOf, List.takeWhile_append_of_pos part, List.takeWhile_cons_of_neg, List.append_nil]
  rcases stop with white | rfl
  · simp [white]
  · simp

theorem nameOf_end (plain : isName cs = true) (ds : List Char) : nameOf ('/' :: (cs ++ '>' :: ds)) = '/' :: cs := by
  have name : nameOf (cs ++ '>' :: ds) = cs := nameOf_append plain (.inr rfl) ds
  rw [nameOf, List.takeWhile_cons_of_pos (by decide), ← nameOf, name]

theorem textOf_append (plain : isName cs = true) (ds : List Char) : textOf (cs ++ '>' :: ds) = ds := by
  have part : ∀ d ∈ cs, decide (d ≠ '>') = true := fun d mem => decide_eq_true (isName_iff.mp plain d mem).2.2.1
  rw [textOf, List.dropWhile_append_of_pos part, List.dropWhile_cons_of_neg (by simp), List.tail_cons]

theorem lt_not_mem (plain : isName cs = true) : '<' ∉ cs := fun mem => (isName_iff.mp plain '<' mem).2.1 rfl

theorem end_ne (plain : isName cs = true) : '/' :: ds ≠ cs := by
  rintro rfl
  exact (isName_iff.mp plain '/' List.mem_cons_self).2.2.2 rfl

/-! ## Elements -/

theorem tags_inline (plain : isName name.toList = true) (free : '<' ∉ raw) :
    tags (inline name raw) =
      [name.toList ++ '>' :: raw.rdropWhile blank, '/' :: (name.toList ++ ['>'])] := by
  have text : inline name raw = '<' :: (name.toList ++ '>' :: raw) ++ '<' :: '/' :: (name.toList ++ ['>']) := by
    simp [inline, startTag, endTag]
  have plain' := lt_not_mem plain
  have closed : ('/' :: (name.toList ++ ['>'])).rdropWhile blank = '/' :: (name.toList ++ ['>']) := by
    rw [← List.cons_append]
    exact List.rdropWhile_concat_neg _ _ _ (by decide)
  rw [text, tags_append, tags_cons (by simp [plain', free]), tags_cons (by simp [plain']), closed,
    rdropWhile_append_cons (by decide)]
  rfl

def elementLines (n : ℕ) (elements : List (String × List Char)) : List Char :=
  elements.flatMap fun e => line n (inline e.1 e.2)

theorem tags_elementLines {elements : List (String × List Char)} (n : ℕ)
    (plain : ∀ e ∈ elements, isName e.1.toList = true) (free : ∀ e ∈ elements, '<' ∉ e.2) (cs : List Char) :
    tags (cs ++ elementLines n elements) = tags cs ++ elements.flatMap fun e => tags (inline e.1 e.2) := by
  induction elements generalizing cs with
  | nil => simp [elementLines]
  | cons e elements ih =>
      rw [List.forall_mem_cons] at plain free
      have text : cs ++ elementLines n (e :: elements) = (cs ++ line n (inline e.1 e.2)) ++ elementLines n elements := by
        simp [elementLines]
      rw [text, ih plain.2 free.2, inline, startTag, List.cons_append, tags_line, List.flatMap_cons, List.append_assoc]
      rfl

theorem tags_join (n : ℕ) (blocks : List (List Char)) (cs : List Char) :
    tags (cs ++ '\n' :: ['\n'].intercalate (blocks.map fun b => List.replicate n ' ' ++ '<' :: b)) =
      tags cs ++ blocks.flatMap fun b => tags ('<' :: b) := by
  induction blocks generalizing cs with
  | nil =>
      rw [List.flatMap_nil, List.append_nil]
      exact tags_append_blank (fun c mem => by rw [List.mem_singleton.mp mem]; rfl) cs
  | cons b blocks ih =>
      cases blocks with
      | nil =>
          rw [List.map_singleton, List.intercalate_singleton, List.flatMap_singleton]
          exact tags_line cs n b
      | cons second blocks =>
          have text : cs ++ '\n' :: ['\n'].intercalate ((b :: second :: blocks).map fun b => List.replicate n ' ' ++ '<' :: b) =
              (cs ++ line n ('<' :: b)) ++ '\n' :: ['\n'].intercalate ((second :: blocks).map fun b =>
                List.replicate n ' ' ++ '<' :: b) := by
            rw [List.map_cons, List.map_cons, List.intercalate_cons_cons]
            simp [line]
          rw [text, ih, tags_line, List.append_assoc]
          rfl

theorem named_append (name : String) (ts us : List (List Char)) : named name (ts ++ us) = named name ts ++ named name us :=
  List.filter_append ts us

theorem named_inline (plain : isName name.toList = true) {e : String × List Char} (plain' : isName e.1.toList = true)
    (free : '<' ∉ e.2) :
    named name (tags (inline e.1 e.2)) = if e.1 = name then [name.toList ++ '>' :: e.2.rdropWhile blank] else [] := by
  have closing : ¬ '/' :: e.1.toList = name.toList := end_ne plain
  have start : nameOf (e.1.toList ++ '>' :: e.2.rdropWhile blank) = e.1.toList := nameOf_append plain' (.inr rfl) _
  rw [tags_inline plain' free, named, List.filter_cons, start, List.filter_cons_of_neg, List.filter_nil]
  · by_cases same : e.1 = name
    · simp [same]
    · have differ : e.1.toList ≠ name.toList := fun eq => same (String.toList_inj.mp eq)
      simp [same, differ]
  · rw [nameOf_end plain' []]
    simpa using closing

theorem named_elements (plain : isName name.toList = true) {elements : List (String × List Char)}
    (plain' : ∀ e ∈ elements, isName e.1.toList = true) (free : ∀ e ∈ elements, '<' ∉ e.2) :
    named name (elements.flatMap fun e => tags (inline e.1 e.2)) =
      (elements.filter (·.1 = name)).map fun e => name.toList ++ '>' :: e.2.rdropWhile blank := by
  induction elements with
  | nil => rfl
  | cons e elements ih =>
      rw [List.forall_mem_cons] at plain' free
      rw [List.flatMap_cons, named_append, named_inline plain plain'.1 free.1, ih plain'.2 free.2, List.filter_cons]
      by_cases same : e.1 = name <;> simp [same]

/-! ## Attributes -/

def tagText (name : String) (attributes : List (String × List Char)) : List Char :=
  name.toList ++ (attributes.flatMap (fun a => attributeText a.1 a.2) ++ ['>'])

theorem nameOf_tagText (plain : isName name.toList = true) (attributes : List (String × List Char)) :
    nameOf (tagText name attributes) = name.toList := by
  cases attributes with
  | nil => exact nameOf_append plain (.inr rfl) []
  | cons a attributes =>
      rw [tagText, List.flatMap_cons, attributeText, attributeKey]
      exact nameOf_append plain (.inl (by decide)) _

theorem tags_tagText (plain : isName name.toList = true) {attributes : List (String × List Char)}
    (plain' : ∀ a ∈ attributes, '<' ∉ a.1.toList) (free : ∀ a ∈ attributes, '<' ∉ a.2) :
    tags ('<' :: tagText name attributes) = [tagText name attributes] := by
  have plain := lt_not_mem plain
  have closed : (tagText name attributes).rdropWhile blank = tagText name attributes := by
    rw [tagText, ← List.append_assoc]
    exact List.rdropWhile_concat_neg _ _ _ (by decide)
  rw [tags_cons, closed]
  simp only [tagText, List.mem_append, List.mem_flatMap, not_or, not_exists, not_and]
  refine ⟨plain, fun a mem => ?_, by decide⟩
  have other : '<' ≠ ' ' ∧ '<' ≠ '=' ∧ '<' ≠ quote := by decide
  simp [attributeText, attributeKey, plain' a mem, free a mem, other]

theorem attributeKey_inj {key key' : String} : attributeKey key = attributeKey key' ↔ key = key' := by
  simp [attributeKey, String.toList_inj]

theorem pairs_attributes {attributes : List (String × List Char)} (plain : ∀ a ∈ attributes, quote ∉ a.1.toList)
    (free : ∀ a ∈ attributes, quote ∉ a.2) (closed : quote ∉ raw) :
    pairs ((attributes.flatMap (fun a => attributeText a.1 a.2) ++ raw).splitOn quote) =
      attributes.map fun a => (attributeKey a.1, a.2) := by
  induction attributes with
  | nil =>
      rw [List.flatMap_nil, List.nil_append, List.splitOn_eq_singleton closed]
      rfl
  | cons a attributes ih =>
      rw [List.forall_mem_cons] at plain free
      have text : (a :: attributes).flatMap (fun a => attributeText a.1 a.2) ++ raw =
          attributeKey a.1 ++ quote :: (a.2 ++ quote :: (attributes.flatMap (fun a => attributeText a.1 a.2) ++ raw)) := by
        simp [attributeText]
      have key : quote ∉ attributeKey a.1 := by
        have other : quote ≠ ' ' ∧ quote ≠ '=' := by decide
        simp [attributeKey, plain.1, other]
      rw [text, List.splitOn_append_cons_self_of_not_mem key, List.splitOn_append_cons_self_of_not_mem free.1, pairs,
        ih plain.2 free.2]
      rfl

theorem lookup_attributeKey (attributes : List (String × List Char)) (key : String) :
    (attributes.map fun a => (attributeKey a.1, a.2)).lookup (attributeKey key) = attributes.lookup key := by
  induction attributes with
  | nil => rfl
  | cons a attributes ih =>
      have same : (attributeKey key == attributeKey a.1) = (key == a.1) := by
        rw [Bool.eq_iff_iff, beq_iff_eq, beq_iff_eq, attributeKey_inj]
      rw [List.map_cons, List.lookup_cons, List.lookup_cons, same, ih]

theorem attributeOf_tagText {attributes : List (String × List Char)} (some : attributes ≠ [])
    (solid : isName name.toList = true) (plain : ∀ a ∈ attributes, quote ∉ a.1.toList)
    (free : ∀ a ∈ attributes, quote ∉ a.2) (key : String) :
    attributeOf key (tagText name attributes) = attributes.lookup key := by
  have part : ∀ c ∈ name.toList, (!blank c) = true := by
    intro c mem
    rw [(isName_iff.mp solid c mem).1]
    rfl
  obtain ⟨first, others, rfl⟩ := List.exists_cons_of_ne_nil some
  have start : ((first :: others).flatMap (fun a => attributeText a.1 a.2) ++ ['>']).dropWhile (!blank ·) =
      (first :: others).flatMap (fun a => attributeText a.1 a.2) ++ ['>'] := by
    simp only [List.flatMap_cons, attributeText, attributeKey, List.cons_append]
    exact List.dropWhile_cons_of_neg (by decide)
  rw [attributeOf, tagText, List.dropWhile_append_of_pos part, start, pairs_attributes plain free (by decide),
    lookup_attributeKey]

end Foundations.Xml
