import Mathlib.Data.Bool.AllAny
import Mathlib.Data.List.Basic
import Mathlib.Tactic.Common

/-!
# Text in XML

What a reader of XML 1.0 gives back of a text between tags and of the value of an attribute: a document with
other characters than the legal ones is refused, the end of a line becomes a line feed, and the five predefined
entities stand for their characters. Then readers of elements by name, and what they read of a printed element.
-/

namespace Foundations.Xml

/-! ## Characters -/

def quote : Char := Char.ofNat 34
def apostrophe : Char := Char.ofNat 39

def legal (c : Char) : Bool :=
  c = '\t' || c = '\n' || c = '\r' || (32 ≤ c.toNat && c.toNat != 0xFFFE && c.toNat != 0xFFFF)

def blank (c : Char) : Bool := c = ' ' || c = '\t' || c = '\n' || c = '\r'

def entity (c : Char) : List Char :=
  if c = '&' then ['&', 'a', 'm', 'p', ';']
  else if c = '<' then ['&', 'l', 't', ';']
  else if c = '>' then ['&', 'g', 't', ';']
  else if c = quote then ['&', 'q', 'u', 'o', 't', ';']
  else if c = apostrophe then ['&', 'a', 'p', 'o', 's', ';']
  else [c]

def escape (cs : List Char) : List Char := cs.flatMap entity

def unescape : List Char → Option (List Char)
  | [] => some []
  | '&' :: 'a' :: 'm' :: 'p' :: ';' :: cs => (unescape cs).map ('&' :: ·)
  | '&' :: 'l' :: 't' :: ';' :: cs => (unescape cs).map ('<' :: ·)
  | '&' :: 'g' :: 't' :: ';' :: cs => (unescape cs).map ('>' :: ·)
  | '&' :: 'q' :: 'u' :: 'o' :: 't' :: ';' :: cs => (unescape cs).map (quote :: ·)
  | '&' :: 'a' :: 'p' :: 'o' :: 's' :: ';' :: cs => (unescape cs).map (apostrophe :: ·)
  | '&' :: _ => none
  | c :: cs => (unescape cs).map (c :: ·)

def lineEnds : List Char → List Char
  | [] => []
  | '\r' :: '\n' :: cs => '\n' :: lineEnds cs
  | '\r' :: cs => '\n' :: lineEnds cs
  | c :: cs => c :: lineEnds cs

/-- The blank that a character of an attribute is read as. -/
def flat (c : Char) : Char := if c = '\t' ∨ c = '\n' then ' ' else c

def content (raw : List Char) : Option (List Char) :=
  if raw.all legal then unescape (lineEnds raw) else none

def value (raw : List Char) : Option (List Char) :=
  if raw.all (fun c => legal c && c != '<') then unescape ((lineEnds raw).map flat) else none

section
variable {c : Char} {cs ds : List Char}

@[simp] theorem escape_nil : escape [] = [] := rfl

@[simp] theorem escape_cons : escape (c :: cs) = entity c ++ escape cs := List.flatMap_cons

theorem escape_append (cs ds : List Char) : escape (cs ++ ds) = escape cs ++ escape ds := List.flatMap_append

def letters : List Char := ['&', 'a', 'g', 'l', 'm', 'o', 'p', 'q', 's', 't', 'u', ';']

theorem entity_cases (c : Char) : entity c = [c] ∧ c ∉ ['&', '<', '>', quote, apostrophe] ∨ entity c ⊆ letters := by
  unfold entity
  split_ifs with amp lt gt quot apos
  case neg => exact .inl ⟨rfl, by simp [amp, lt, gt, quot, apos]⟩
  all_goals exact .inr (by decide)

theorem mem_entity {d : Char} (mem : d ∈ entity c) : d = c ∨ d ∈ letters := by
  rcases entity_cases c with ⟨same, -⟩ | spelled
  · exact .inl (by simpa [same] using mem)
  · exact .inr (spelled mem)

theorem not_mem_escape {d : Char} (special : d ∈ ['<', '>', quote, apostrophe]) : d ∉ escape cs := by
  intro mem
  obtain ⟨c, -, mem⟩ := List.mem_flatMap.mp mem
  rcases entity_cases c with ⟨same, other⟩ | spelled
  · rw [same, List.mem_singleton] at mem
    exact other (mem ▸ List.mem_cons_of_mem _ special)
  · have apart : ∀ d ∈ ['<', '>', quote, apostrophe], d ∉ letters :=
      List.all_iff_forall_prop.mp (by decide)
    exact apart d special (spelled mem)

theorem unescape_cons (ne : c ≠ '&') : unescape (c :: cs) = (unescape cs).map (c :: ·) := by
  rw [unescape]
  all_goals simp [ne]

theorem unescape_entity : unescape (entity c ++ cs) = (unescape cs).map (c :: ·) := by
  unfold entity
  split_ifs with amp lt gt quot apos
  · rw [amp]; rfl
  · rw [lt]; rfl
  · rw [gt]; rfl
  · rw [quot]; rfl
  · rw [apos]; rfl
  · exact unescape_cons amp

theorem unescape_escape (cs : List Char) : unescape (escape cs) = some cs := by
  induction cs with
  | nil => rfl
  | cons c cs ih => rw [escape_cons, unescape_entity, ih, Option.map_some]

def special : List Char := ['&', '<', '>', quote, apostrophe]

theorem ampersand_entity {before after : List Char} (eq : entity c = before ++ '&' :: after) :
    before = [] ∧ c ∈ special := by
  unfold entity at eq
  cases before with
  | nil =>
      refine ⟨rfl, ?_⟩
      split_ifs at eq with amp lt gt quot apos
      case neg => exact absurd (List.cons.inj eq).1 amp
      all_goals simp [special, *]
  | cons b bs =>
      have inner : '&' ∈ (entity c).tail := by
        unfold entity
        rw [eq]
        simp
      unfold entity at inner
      split_ifs at inner <;> simp at inner

theorem ampersand_escape {before after : List Char} (eq : escape cs = before ++ '&' :: after) :
    ∃ c ∈ special, entity c <+: '&' :: after := by
  induction cs generalizing before with
  | nil => simp at eq
  | cons c cs ih =>
      rw [escape_cons, List.append_eq_append_iff] at eq
      rcases eq with ⟨between, -, rest⟩ | ⟨between, first, rest⟩
      · exact ih rest
      · cases between with
        | nil => exact @ih [] rest.symm
        | cons d ds =>
            obtain rfl : '&' = d := (List.cons.inj rest).1
            obtain ⟨rfl, mem⟩ := ampersand_entity first
            refine ⟨c, mem, ?_⟩
            rw [first, rest]
            exact List.prefix_append _ _

theorem lineEnds_cons (ne : c ≠ '\r') : lineEnds (c :: cs) = c :: lineEnds cs := by
  rw [lineEnds]
  all_goals simp [ne]

theorem lineEnds_return (follow : cs.head? ≠ some '\n') : lineEnds ('\r' :: cs) = '\n' :: lineEnds cs := by
  rw [lineEnds]
  rintro ds rfl
  exact follow rfl

theorem lineEnds_append (free : '\r' ∉ cs) : lineEnds (cs ++ ds) = cs ++ lineEnds ds := by
  induction cs with
  | nil => rfl
  | cons c cs ih =>
      rw [List.mem_cons, not_or] at free
      rw [List.cons_append, lineEnds_cons (Ne.symm free.1), ih free.2, List.cons_append]

theorem escape_head : (escape cs).head? = some '\n' ↔ cs.head? = some '\n' := by
  cases cs with
  | nil => rfl
  | cons c cs =>
      rw [escape_cons, entity]
      split_ifs with amp lt gt quot apos <;> simp_all [quote, apostrophe]

theorem lineEnds_escape (cs : List Char) : lineEnds (escape cs) = escape (lineEnds cs) := by
  induction cs using lineEnds.induct with
  | case1 => rfl
  | case2 cs ih =>
      have plain : entity '\r' = ['\r'] ∧ entity '\n' = ['\n'] := by decide
      simp only [escape_cons, plain, List.singleton_append, lineEnds, ih]
  | case3 cs follow ih =>
      have plain : entity '\r' = ['\r'] ∧ entity '\n' = ['\n'] := by decide
      have other : cs.head? ≠ some '\n' := by
        intro head
        obtain ⟨ds, rfl⟩ := List.head?_eq_some_iff.mp head
        exact follow ds rfl
      rw [escape_cons, plain.1, List.singleton_append, lineEnds_return (mt escape_head.mp other), ih,
        lineEnds_return other, escape_cons, plain.2, List.singleton_append]
  | case4 c cs _ ne ih =>
      have ne : c ≠ '\r' := by
        rintro rfl
        exact ne rfl
      have free : '\r' ∉ entity c := by
        intro mem
        rcases mem_entity mem with same | letter
        · exact ne same.symm
        · exact absurd letter (by decide)
      rw [escape_cons, lineEnds_append free, ih, lineEnds_cons ne, escape_cons]

theorem legal_entity (c : Char) : (entity c).all legal = legal c := by
  rcases entity_cases c with ⟨same, -⟩ | spelled
  · simp [same]
  · have letter : ∀ d ∈ letters, legal d = true := List.all_eq_true.mp (by decide)
    have special : legal c = true := by
      unfold entity at spelled
      split_ifs at spelled with amp lt gt quot apos
      · rw [amp]; rfl
      · rw [lt]; rfl
      · rw [gt]; rfl
      · rw [quot]; rfl
      · rw [apos]; rfl
      · exact letter c (spelled (List.mem_singleton_self c))
    rw [special, List.all_eq_true]
    exact fun d mem => letter d (spelled mem)

theorem legal_escape (cs : List Char) : (escape cs).all legal = cs.all legal := by
  induction cs with
  | nil => rfl
  | cons c cs ih => rw [escape_cons, List.all_append, legal_entity, ih, List.all_cons]

theorem flat_escape (cs : List Char) : (escape cs).map flat = escape (cs.map flat) := by
  induction cs with
  | nil => rfl
  | cons c cs ih =>
      have entity : (entity c).map flat = entity (flat c) := by
        rcases entity_cases c with ⟨same, other⟩ | spelled
        · rw [same, List.map_singleton]
          unfold flat
          split_ifs
          · rfl
          · rw [same]
        · have letter : ∀ d ∈ letters, flat d = d := List.all_iff_forall_prop.mp (by decide)
          have kept : (Xml.entity c).map flat = Xml.entity c := by
            conv_rhs => rw [← List.map_id (Xml.entity c)]
            exact List.map_congr_left fun d mem => letter d (spelled mem)
          rw [kept, flat]
          split_ifs with white
          · rcases white with rfl | rfl <;> exact absurd spelled (by decide)
          · rfl
      rw [escape_cons, List.map_append, entity, ih, List.map_cons, escape_cons]

/-! ## What comes back of an escaped text -/

theorem content_escape (cs : List Char) :
    content (escape cs) = if cs.all legal then some (lineEnds cs) else none := by
  rw [content, legal_escape, lineEnds_escape, unescape_escape]

theorem value_escape (cs : List Char) :
    value (escape cs) = if cs.all legal then some ((lineEnds cs).map flat) else none := by
  have all : (escape cs).all (fun c => legal c && c != '<') = cs.all legal := by
    rw [← legal_escape, Bool.eq_iff_iff, List.all_eq_true, List.all_eq_true]
    refine forall₂_congr fun c mem => ?_
    have other : c ≠ '<' := fun same => not_mem_escape (by decide) (same ▸ mem)
    simp [other]
  rw [value, all, lineEnds_escape, flat_escape, unescape_escape]

theorem return_not_mem_lineEnds (cs : List Char) : '\r' ∉ lineEnds cs := by
  induction cs using lineEnds.induct with
  | case1 => exact List.not_mem_nil
  | case2 cs ih => simpa [lineEnds] using ih
  | case3 cs follow ih => simpa [lineEnds] using ih
  | case4 c cs _ ne ih =>
      have ne : c ≠ '\r' := by
        rintro rfl
        exact ne rfl
      rw [lineEnds_cons ne, List.mem_cons, not_or]
      exact ⟨ne.symm, ih⟩

theorem lineEnds_eq_self : lineEnds cs = cs ↔ '\r' ∉ cs := by
  constructor
  · intro same
    rw [← same]
    exact return_not_mem_lineEnds cs
  · intro free
    have ends : lineEnds (cs ++ []) = cs ++ lineEnds [] := lineEnds_append free
    simpa [lineEnds] using ends

def Kept (cs : List Char) : Prop := ∀ c ∈ cs, legal c = true ∧ c ≠ '\r'

def KeptValue (cs : List Char) : Prop := ∀ c ∈ cs, legal c = true ∧ c ≠ '\r' ∧ c ≠ '\t' ∧ c ≠ '\n'

instance : Decidable (Kept cs) := decidable_of_iff (cs.all fun c => legal c = true ∧ c ≠ '\r') List.all_iff_forall_prop

instance : Decidable (KeptValue cs) :=
  decidable_of_iff (cs.all fun c => legal c = true ∧ c ≠ '\r' ∧ c ≠ '\t' ∧ c ≠ '\n') List.all_iff_forall_prop

theorem content_eq_some_iff : content (escape cs) = some cs ↔ Kept cs := by
  rw [content_escape, Kept]
  simp only [Option.ite_none_right_eq_some, Option.some_inj, lineEnds_eq_self, List.all_eq_true]
  constructor
  · intro ⟨legal, free⟩ c mem
    exact ⟨legal c mem, fun same => free (same ▸ mem)⟩
  · intro kept
    exact ⟨fun c mem => (kept c mem).1, fun mem => (kept _ mem).2 rfl⟩

theorem value_eq_some_iff : value (escape cs) = some cs ↔ KeptValue cs := by
  rw [value_escape, KeptValue]
  simp only [Option.ite_none_right_eq_some, Option.some_inj, List.all_eq_true]
  have blanks (ds : List Char) : ∀ c ∈ ds.map flat, c ≠ '\t' ∧ c ≠ '\n' := by
    intro c mem
    obtain ⟨d, -, rfl⟩ := List.mem_map.mp mem
    unfold flat
    split_ifs with white
    · decide
    · exact not_or.mp white
  constructor
  · rintro ⟨legal, same⟩ c mem
    rw [← same] at mem
    refine ⟨legal c (same ▸ mem), ?_, blanks _ c mem⟩
    rintro rfl
    obtain ⟨d, origin, eq⟩ := List.mem_map.mp mem
    unfold flat at eq
    split_ifs at eq with white
    · exact absurd eq (by decide)
    · exact return_not_mem_lineEnds cs (eq ▸ origin)
  · intro kept
    have free : '\r' ∉ cs := fun mem => (kept _ mem).2.1 rfl
    refine ⟨fun c mem => (kept c mem).1, ?_⟩
    rw [lineEnds_eq_self.mpr free]
    conv_rhs => rw [← List.map_id cs]
    exact List.map_congr_left fun c mem => if_neg (not_or.mpr (kept c mem).2.2)

end

/-! ## One replacement after another -/

/-- `s.replace(/c/g, text)` -/
def replaceAll (c : Char) (text : String) (cs : List Char) : List Char :=
  cs.flatMap fun d => if d = c then text.toList else [d]

theorem replaceAll_flatMap (c : Char) (text : String) (f : Char → List Char) (cs : List Char) :
    replaceAll c text (cs.flatMap f) = cs.flatMap fun d => replaceAll c text (f d) := List.flatMap_assoc

theorem replaceAll_other {c d : Char} (ne : d ≠ c) (text : String) : replaceAll c text [d] = [d] := by
  rw [replaceAll, List.flatMap_singleton, if_neg ne]

/-- The five replacements are one entity for each character, since the first takes the ampersands. -/
theorem replaced_eq (cs : List Char) :
    replaceAll apostrophe "&apos;" (replaceAll quote "&quot;" (replaceAll '>' "&gt;" (replaceAll '<' "&lt;"
      (replaceAll '&' "&amp;" cs)))) = escape cs := by
  have single : cs.flatMap (fun c => [c]) = cs := List.flatMap_singleton' _
  conv_lhs => rw [← single]
  simp only [replaceAll_flatMap]
  apply List.flatMap_congr
  intro c _
  unfold entity
  split_ifs with amp lt gt quot apos
  · rw [amp]; decide
  · rw [lt]; decide
  · rw [gt]; decide
  · rw [quot]; decide
  · rw [apos]; decide
  · rw [replaceAll_other amp, replaceAll_other lt, replaceAll_other gt, replaceAll_other quot, replaceAll_other apos]

end Foundations.Xml
