import SmartErp.Pec.PassiveParser

/-!
# Invoices as documents

What the schema says of the elements that the parser looks for: where they stand, and that no other name
there begins like theirs. Everything else may be there in any number and order. The exceptions are the
names that begin like `Numero` and `Data`, which occur in the data of the parties.
-/

namespace SmartErp.Pec
open Foundations Foundations.Pattern Foundations.Markup

/-- Other markup: no name begins like one of `apart`, and none is one of `differ`. -/
structure Beside (apart differ : List String) where
  piece : Piece
  apart : ∀ name ∈ piece.name?, ∀ tag ∈ apart, ¬ tag.toList <+: name.toList
  differs : ∀ name ∈ piece.name?, name ∉ differ

inductive Part (names apart differ : List String) where
  | leaf (name : String) (listed : name ∈ names) (l : Leaf)
  | other (p : Beside (names ++ apart) differ)

section
variable {names apart differ : List String}

def Part.pieces : Part names apart differ → List Piece
  | leaf name _ l => l.pieces name
  | other p => [p.piece]

def field (tag : String) : List (Part names apart differ) → Option Leaf
  | [] => none
  | .leaf name _ l :: parts => if name = tag then some l else field tag parts
  | .other _ :: parts => field tag parts

def before (tag : String) : List (Part names apart differ) → List Piece
  | [] => []
  | .leaf name listed l :: parts =>
      if name = tag then [] else (Part.leaf name listed l : Part names apart differ).pieces ++ before tag parts
  | .other p :: parts => p.piece :: before tag parts

end

structure Block (names apart : List String) where
  mark : Mark
  parts : List (Part names apart [])

/-- The names that are looked for in the whole document, `Numero` and `Data` apart. -/
def looked : List String :=
  ["TipoDocumento", "Divisa", "ImportoTotaleDocumento", "CedentePrestatore", "CessionarioCommittente",
    "DettaglioLinee", "DatiRiepilogo", "DettaglioPagamento"]

def stray : List String := ["Numero", "Data"]

def partyNames : List String := ["IdCodice", "Denominazione"]

def generalNames : List String := ["Numero", "Data", "TipoDocumento", "Divisa", "ImportoTotaleDocumento"]

def lineNames : List String :=
  ["Descrizione", "Quantita", "UnitaMisura", "PrezzoUnitario", "PrezzoTotale", "AliquotaIVA", "Natura"]

def summaryNames : List String := ["AliquotaIVA", "ImponibileImporto", "Imposta", "Natura"]

def paymentNames : List String := ["DataScadenzaPagamento"]

structure Party (restNames restApart : List String) where
  mark : Mark
  anagrafici : List (Part partyNames looked stray)
  rest : List (Part restNames (restApart ++ looked) stray)

inductive Item where
  | line (b : Block lineNames looked)
  | summary (b : Block summaryNames looked)
  | payment (b : Block paymentNames looked)
  | other (p : Beside looked [])

structure Body where
  start : List (Beside looked stray)
  general : Block generalNames looked
  complete : ∀ name ∈ ["Numero", "Data", "TipoDocumento", "Divisa"], (field name general.parts).isSome
  items : List Item

/-- A transmission: one invoice or several from one party to another. -/
structure Document where
  start : List (Beside looked stray)
  /-- No other element of the supplier is named like the two that are read. -/
  cedente : Party [] partyNames
  between : List (Beside looked stray)
  /-- A fiscal representative has an `IdCodice`, too. -/
  cessionario : Party ["IdCodice"] []
  body : Body
  bodies : List Body
  finish : List (Beside looked [])

/-! ## As text -/

def pieces {apart differ : List String} (ps : List (Beside apart differ)) : List Piece := ps.map (·.piece)

def content {names apart differ : List String} (parts : List (Part names apart differ)) : List Piece :=
  parts.flatMap Part.pieces

def Block.pieces {names apart : List String} (name : String) (b : Block names apart) : List Piece :=
  .opening b.mark name :: (content b.parts ++ [.closing b.mark name])

def Party.content {restNames restApart : List String} (p : Party restNames restApart) : List Piece :=
  Pec.content p.anagrafici ++ Pec.content p.rest

def Party.pieces {restNames restApart : List String} (name : String) (p : Party restNames restApart) :
    List Piece := .opening p.mark name :: (p.content ++ [.closing p.mark name])

def Item.pieces : Item → List Piece
  | line b => b.pieces "DettaglioLinee"
  | summary b => b.pieces "DatiRiepilogo"
  | payment b => b.pieces "DettaglioPagamento"
  | other p => [p.piece]

def Body.rest (b : Body) : List Piece := b.items.flatMap Item.pieces

def Body.pieces (b : Body) : List Piece :=
  Pec.pieces b.start ++ (b.general.pieces "DatiGeneraliDocumento" ++ b.rest)

def Body.leading (tag : String) (b : Body) : List Piece :=
  .opening b.general.mark "DatiGeneraliDocumento" :: before tag b.general.parts

namespace Document

def invoices (d : Document) : List Body := d.body :: d.bodies

def parties (d : Document) : List Piece :=
  Pec.pieces d.start ++ (d.cedente.pieces "CedentePrestatore" ++ (Pec.pieces d.between ++
    d.cessionario.pieces "CessionarioCommittente"))

def header (d : Document) : List Piece := d.parties ++ Pec.pieces d.body.start

def pieces (d : Document) : List Piece :=
  d.parties ++ (d.invoices.flatMap Body.pieces ++ Pec.pieces d.finish)

def xml (d : Document) : List Char := render d.pieces

end Document

/-! ## The fields at their places -/

def textOf {names apart differ : List String} (parts : List (Part names apart differ)) (tag : String) :
    Option (List Char) := (field tag parts).map fun l => trim l.text

def Item.line? : Item → Option (Block lineNames looked)
  | line b => some b
  | _ => none

def Item.summary? : Item → Option (Block summaryNames looked)
  | summary b => some b
  | _ => none

def Item.payment? : Item → Option (Block paymentNames looked)
  | payment b => some b
  | _ => none

def Body.lines (b : Body) : List (Block lineNames looked) := b.items.filterMap Item.line?

def Body.summaries (b : Body) : List (Block summaryNames looked) := b.items.filterMap Item.summary?

def Body.payments (b : Body) : List (Block paymentNames looked) := b.items.filterMap Item.payment?

def Document.found (d : Document) : Found where
  invoiceNumber := textOf d.body.general.parts "Numero"
  invoiceDate := textOf d.body.general.parts "Data"
  documentType := textOf d.body.general.parts "TipoDocumento"
  currency := textOf d.body.general.parts "Divisa"
  supplierVatNumber := textOf d.cedente.anagrafici "IdCodice"
  supplierName := textOf d.cedente.anagrafici "Denominazione"
  customerVatNumber := textOf d.cessionario.anagrafici "IdCodice"
  ivaBreakdown := (d.invoices.flatMap (·.summaries)).map fun b => ivaBreakdownItem (textOf b.parts)
  lines := (d.invoices.flatMap (·.lines)).map fun b => parsedLine (textOf b.parts)
  total := textOf d.body.general.parts "ImportoTotaleDocumento"
  paymentDueDate := d.body.payments.head?.bind fun b => textOf b.parts "DataScadenzaPagamento"

/-- What a search for `Numero` or `Data` takes: the text of the element, with everything before it from a
start tag on that only begins like it. -/
def Document.read (d : Document) (tag : String) : Option (List Char) :=
  (field tag d.body.general.parts).map fun l =>
    match after tag d.header with
    | none => l.text
    | some rest => render (rest ++ d.body.leading tag ++ [.opening l.mark tag]) ++ l.text

def sought : List String := stray ++ looked ++ partyNames ++ lineNames ++ summaryNames ++ paymentNames

def Document.Plain (d : Document) : Prop := ∀ tag ∈ sought, Markup.Plain tag d.pieces

/-! ## Where a name can occur -/

section
variable {names apart differ : List String} {tag : String}

theorem pieces_clear (listed : tag ∈ apart) (ps : List (Beside apart differ)) : Clear tag (pieces ps) := by
  intro p mem
  obtain ⟨b, -, rfl⟩ := List.mem_map.mp mem
  exact fun name here => b.apart name here tag listed

theorem pieces_unclosed (listed : tag ∈ differ) (ps : List (Beside apart differ)) : Unclosed tag (pieces ps) := by
  intro p mem
  obtain ⟨b, -, rfl⟩ := List.mem_map.mp mem
  cases here : b.piece with
  | closing m name =>
      rw [closes, decide_eq_false_iff_not]
      rintro rfl
      exact b.differs name (by rw [here]; rfl) listed
  | opening | text => rfl

theorem leaf_clear {name : String} (other : ¬ tag.toList <+: name.toList) (l : Leaf) : Clear tag (l.pieces name) := by
  intro p mem named here
  simp only [Leaf.pieces, List.mem_cons, List.not_mem_nil, or_false] at mem
  rcases mem with rfl | rfl | rfl
  · exact Option.some_inj.mp here ▸ other
  · cases here
  · exact Option.some_inj.mp here ▸ other

theorem leaf_unclosed {name : String} (other : name ≠ tag) (l : Leaf) : Unclosed tag (l.pieces name) := by
  intro p mem
  simp only [Leaf.pieces, List.mem_cons, List.not_mem_nil, or_false] at mem
  rcases mem with rfl | rfl | rfl
  · rfl
  · rfl
  · simp [closes, other]

theorem content_clear (listed : tag ∈ names ++ apart) (others : ∀ name ∈ names, ¬ tag.toList <+: name.toList)
    (parts : List (Part names apart differ)) : Clear tag (content parts) := by
  induction parts with
  | nil => exact fun p mem => absurd mem List.not_mem_nil
  | cons part parts ih =>
      refine Clear.append ?_ ih
      cases part with
      | leaf name mem l => exact leaf_clear (others name mem) l
      | other p => exact pieces_clear listed [p]

theorem content_unclosed (listed : tag ∈ differ) (others : ∀ name ∈ names, name ≠ tag)
    (parts : List (Part names apart differ)) : Unclosed tag (content parts) := by
  induction parts with
  | nil => exact fun p mem => absurd mem List.not_mem_nil
  | cons part parts ih =>
      refine Unclosed.append ?_ ih
      cases part with
      | leaf name mem l => exact leaf_unclosed (others name mem) l
      | other p => exact pieces_unclosed listed [p]

theorem content_of_field {parts : List (Part names apart differ)} {l : Leaf} (found : field tag parts = some l) :
    ∃ rest, content parts = before tag parts ++ (l.pieces tag ++ rest) := by
  induction parts with
  | nil => cases found
  | cons part parts ih =>
      cases part with
      | leaf name mem l' =>
          rw [field] at found
          split at found
          · rename_i here
            subst here
            exact ⟨content parts, by rw [before, if_pos rfl, ← Option.some_inj.mp found]; rfl⟩
          · rename_i other
            obtain ⟨rest, eq⟩ := ih found
            refine ⟨rest, ?_⟩
            rw [before, if_neg other, List.append_assoc, ← eq]
            rfl
      | other p =>
          obtain ⟨rest, eq⟩ := ih found
          exact ⟨rest, congrArg (p.piece :: ·) eq⟩

theorem before_clear (listed : tag ∈ names ++ apart)
    (others : ∀ name ∈ names, name ≠ tag → ¬ tag.toList <+: name.toList) (parts : List (Part names apart differ)) :
    Clear tag (before tag parts) := by
  induction parts with
  | nil => exact fun p mem => absurd mem List.not_mem_nil
  | cons part parts ih =>
      cases part with
      | leaf name mem l =>
          rw [before]
          split
          · exact fun p mem => absurd mem List.not_mem_nil
          · rename_i other
            exact Clear.append (leaf_clear (others name mem other) l) ih
      | other p => exact Clear.append (pieces_clear listed [p]) ih

theorem content_of_none {parts : List (Part names apart differ)} (none : field tag parts = none) :
    content parts = before tag parts := by
  induction parts with
  | nil => rfl
  | cons part parts ih =>
      cases part with
      | leaf name mem l =>
          rw [field] at none
          split at none
          · cases none
          · rename_i other
            rw [before, if_neg other, ← ih none]
            rfl
      | other p => exact congrArg (p.piece :: ·) (ih none)

theorem first_content (word : Word tag) (listed : tag ∈ names ++ apart)
    (others : ∀ name ∈ names, name ≠ tag → ¬ tag.toList <+: name.toList)
    {parts : List (Part names apart differ)} (plain : Plain tag (content parts)) :
    first (render (content parts)) tag = (field tag parts).map fun l => trim l.text := by
  unfold first
  cases found : field tag parts with
  | none =>
      have clear : Clear tag (content parts) := content_of_none found ▸ before_clear listed others parts
      rw [search_eq_none word plain clear.unopened]
      rfl
  | some l =>
      obtain ⟨rest, eq⟩ := content_of_field found
      rw [eq] at plain ⊢
      rw [search_leaf word plain (before_clear listed others parts).unopened]
      rfl

end
end SmartErp.Pec
