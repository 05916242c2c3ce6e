import SmartErp.Foundations.Markup
import SmartErp.Foundations.Runs
import SmartErp.Foundations.Numerals
import Mathlib.Data.List.DropRight

/-!
# The parser of inbound invoices

`fatturapa-passive-parser.ts`. Each field is looked for by the name of its element. Texts are lists of
characters on the way. Cents and rates are numbers of the language: a rate keeps the `NaN` that a text may turn
into, and an amount of `1e308` becomes `Infinity` when it is multiplied.
-/

namespace SmartErp.Pec
open Foundations Foundations.Pattern Foundations.Markup

structure ParsedFatturaPaLine where
  description : String
  quantity : String
  unitOfMeasure : String
  unitCostCents : JsNumber
  lineTotalCents : JsNumber
  taxRate : JsNumber
  naturaCode : Option String
  deriving DecidableEq

structure ParsedFatturaPaIvaBreakdownItem where
  rate : JsNumber
  taxableCents : JsNumber
  taxCents : JsNumber
  naturaCode : Option String
  deriving DecidableEq

structure ParsedFatturaPa where
  invoiceNumber : String
  invoiceDate : String
  supplierVatNumber : String
  supplierName : String
  customerVatNumber : String
  documentType : String
  subtotalCents : JsNumber
  taxCents : JsNumber
  totalCents : JsNumber
  currency : String
  ivaBreakdown : List ParsedFatturaPaIvaBreakdownItem
  lines : List ParsedFatturaPaLine
  paymentDueDate : Option String
  deriving DecidableEq

structure FatturaPaParseError where
  code : String
  message : String
  deriving DecidableEq

/-! ## Texts -/

/-- `$` -/
def atEnd : Pattern Unit := fun s => if s = [] then [((), [])] else []

/-- `^<!\[CDATA\[([\s\S]*?)\]\]>$` -/
def cdata : Pattern (List Char) := do
  literal "<![CDATA["
  upTo do
    literal "]]>"
    atEnd

def stripCdata (cs : List Char) : List Char := trim ((cdata cs).head?.elim cs Prod.fst)

def toCents (decimalString : List Char) : JsNumber :=
  match parseNumber (String.ofList (stripCdata decimalString)) with
  | .finite n => ((JsNumber.finite n).times (.finite 100)).round
  | _ => .finite 0

example : toCents "1.005".toList = .finite 100 := by decide +kernel
example : toCents "+1e3".toList = .finite 100000 := by decide +kernel

/-- `s ? f(s) : otherwise` -/
def ifGiven {α : Type} (s : Option (List Char)) (f : List Char → α) (otherwise : α) : α :=
  (s.filter (· ≠ [])).elim otherwise f

/-- `aliquota ? Math.round(Number(aliquota)) : 0` -/
def roundedRate (aliquota : Option (List Char)) : JsNumber :=
  ifGiven aliquota (fun cs => (parseNumber (String.ofList cs)).round) (.finite 0)

/-! ## Elements -/

/-- `<(?:[\w]+:)?tag[^>]*>([\s\S]*?)</(?:[\w]+:)?tag>` -/
def first (xml : List Char) (tag : String) : Option (List Char) :=
  ((element tag).search xml).map fun m => trim m.1

def allBlocks (xml : List Char) (tag : String) : List (List Char) := (element tag).matchAll xml

def firstNested (xml : List Char) (outer inner : String) : Option (List Char) :=
  (allBlocks xml outer).head?.bind (first · inner)

/-! ## Fields -/

def ivaBreakdownItem (found : String → Option (List Char)) : ParsedFatturaPaIvaBreakdownItem where
  rate := roundedRate (found "AliquotaIVA")
  taxableCents := ifGiven (found "ImponibileImporto") toCents (.finite 0)
  taxCents := ifGiven (found "Imposta") toCents (.finite 0)
  naturaCode := (found "Natura").map String.ofList

def parsedLine (found : String → Option (List Char)) : ParsedFatturaPaLine where
  description := String.ofList (stripCdata ((found "Descrizione").getD []))
  quantity := String.ofList (stripCdata ((found "Quantita").getD ['1']))
  unitOfMeasure := String.ofList (stripCdata ((found "UnitaMisura").getD ['p', 'z']))
  unitCostCents := toCents ((found "PrezzoUnitario").getD ['0'])
  lineTotalCents := toCents ((found "PrezzoTotale").getD ['0'])
  taxRate := roundedRate (found "AliquotaIVA")
  naturaCode := ifGiven (found "Natura") (fun cs => some (String.ofList (stripCdata cs))) none

structure Found where
  invoiceNumber : Option (List Char)
  invoiceDate : Option (List Char)
  documentType : Option (List Char)
  currency : Option (List Char)
  supplierVatNumber : Option (List Char)
  supplierName : Option (List Char)
  customerVatNumber : Option (List Char)
  ivaBreakdown : List ParsedFatturaPaIvaBreakdownItem
  lines : List ParsedFatturaPaLine
  total : Option (List Char)
  paymentDueDate : Option (List Char)

def find (xml : List Char) : Found where
  invoiceNumber := first xml "Numero"
  invoiceDate := first xml "Data"
  documentType := first xml "TipoDocumento"
  currency := first xml "Divisa"
  supplierVatNumber := firstNested xml "CedentePrestatore" "IdCodice"
  supplierName := firstNested xml "CedentePrestatore" "Denominazione"
  customerVatNumber := firstNested xml "CessionarioCommittente" "IdCodice"
  ivaBreakdown := (allBlocks xml "DatiRiepilogo").map fun block => ivaBreakdownItem (first block)
  lines := (allBlocks xml "DettaglioLinee").map fun block => parsedLine (first block)
  total := first xml "ImportoTotaleDocumento"
  paymentDueDate := firstNested xml "DettaglioPagamento" "DataScadenzaPagamento"

def mandatoryMissing (field : String) : FatturaPaParseError :=
  ⟨"missing_mandatory", s!"Mandatory FatturaPA field '{field}' not found."⟩

def mandatory (field : String) (found : Option (List Char)) : Except FatturaPaParseError (List Char) :=
  ifGiven found .ok (.error (mandatoryMissing field))

namespace Found

def subtotalCents (found : Found) : JsNumber := (found.lines.map (·.lineTotalCents)).foldl JsNumber.plus (.finite 0)

def taxCents (found : Found) : JsNumber := (found.ivaBreakdown.map (·.taxCents)).foldl JsNumber.plus (.finite 0)

/-- `ImportoTotaleDocumento` when present. -/
def totalCents (found : Found) : JsNumber :=
  ifGiven found.total toCents (found.subtotalCents.plus found.taxCents)

def parsed (found : Found) (invoiceNumber invoiceDate supplierVatNumber customerVatNumber : List Char) :
    ParsedFatturaPa where
  invoiceNumber := String.ofList (stripCdata invoiceNumber)
  invoiceDate := String.ofList (invoiceDate.take 10)
  supplierVatNumber := String.ofList (stripCdata supplierVatNumber)
  supplierName := ifGiven found.supplierName (fun cs => String.ofList (stripCdata cs)) ""
  customerVatNumber := String.ofList (stripCdata customerVatNumber)
  documentType := String.ofList (found.documentType.getD "TD01".toList)
  subtotalCents := found.subtotalCents
  taxCents := found.taxCents
  totalCents := found.totalCents
  currency := String.ofList (found.currency.getD "EUR".toList)
  ivaBreakdown := found.ivaBreakdown
  lines := found.lines
  paymentDueDate := found.paymentDueDate.map fun cs => String.ofList (cs.take 10)

def invoice (found : Found) : Except FatturaPaParseError ParsedFatturaPa := do
  let invoiceNumber ← mandatory "Numero" found.invoiceNumber
  let invoiceDate ← mandatory "Data" found.invoiceDate
  let supplierVatNumber ← mandatory "CedentePrestatore.IdCodice" found.supplierVatNumber
  let customerVatNumber ← mandatory "CessionarioCommittente.IdCodice" found.customerVatNumber
  return found.parsed invoiceNumber invoiceDate supplierVatNumber customerVatNumber

end Found

def parseFatturaPa (xml : List Char) : Except FatturaPaParseError ParsedFatturaPa :=
  if xml = [] then .error ⟨"empty_body", "FatturaPA body is empty."⟩ else (find xml).invoice

/-! ## Texts that keep their tags -/

theorem word_visible {c : Char} (word : wordChar c = true) : whitespace c = false := by
  rw [wordChar, Bool.or_eq_true, decide_eq_true_eq] at word
  rcases word with word | rfl
  · exact alphanum_visible word
  · decide

theorem trim_tagged {cs : List Char} (tagged : Tagged cs) : Tagged (trim cs) := by
  obtain ⟨u, c, v, rfl, word⟩ := tagged
  refine ⟨u.dropWhile whitespace, c, v.rdropWhile whitespace, ?_, word⟩
  rw [trim, dropWhile_append_cons (by decide)]
  simp [List.rdropWhile, dropWhile_append_cons (word_visible word)]

theorem eq_of_cdata {cs : List Char} {r : List Char × List Char} (found : (cdata cs).head? = some r) :
    cs = "<![CDATA[".toList ++ (r.1 ++ "]]>".toList) := by
  have mem := List.mem_of_mem_head? found
  simp only [cdata, bind_eq, List.mem_flatMap] at mem
  obtain ⟨q, first, second⟩ := mem
  obtain ⟨x, s, eq, ends⟩ := of_mem_upTo second
  rw [bind_eq, List.mem_flatMap] at ends
  obtain ⟨q', close, last⟩ := ends
  rw [eq_of_mem_literal first, eq, eq_of_mem_literal close]
  unfold atEnd at last
  split at last
  · rename_i empty
    rw [empty, List.append_nil]
  · cases last

theorem stripCdata_within (cs : List Char) : stripCdata cs <:+: cs := by
  refine (trim_within _).trans ?_
  cases found : (cdata cs).head? with
  | none => exact List.infix_rfl
  | some r =>
      refine ⟨"<![CDATA[".toList, "]]>".toList, ?_⟩
      rw [eq_of_cdata found, List.append_assoc]
      rfl

theorem stripCdata_tagged {cs : List Char} (tagged : Tagged cs) : Tagged (stripCdata cs) := by
  refine trim_tagged ?_
  cases found : (cdata cs).head? with
  | none => exact tagged
  | some r =>
      rw [eq_of_cdata found] at tagged
      rcases tagged.of_append with first | rest | across
      · exact absurd first (Inert.not_tagged (by simp [Inert, wordChar]))
      · rcases rest.of_append with text | close | across
        · exact text
        · exact absurd close (Inert.not_tagged (by simp [Inert]))
        · obtain ⟨-, c, head, word⟩ := across
          rw [← Option.some_inj.mp head] at word
          exact absurd word (by decide)
      · exact absurd across.1 (by decide)

/-! ## Refusals -/

/-- `!found` -/
def Absent (found : Option (List Char)) : Prop := found.getD [] = []

theorem ifGiven_of_absent {α : Type} {s : Option (List Char)} (absent : Absent s) (f : List Char → α)
    (otherwise : α) : ifGiven s f otherwise = otherwise := by
  cases s with
  | none => rfl
  | some text =>
      rw [show text = [] from absent]
      rfl

theorem ifGiven_of_not_absent {α : Type} {s : Option (List Char)} (given : ¬ Absent s) (f : List Char → α)
    (otherwise : α) : ifGiven s f otherwise = f (s.getD []) := by
  cases s with
  | none => exact absurd rfl given
  | some text =>
      have nonempty : text ≠ [] := given
      rw [ifGiven, Option.filter_some, if_pos (decide_eq_true nonempty)]
      rfl

theorem mandatory_eq_ok {field : String} {found : Option (List Char)} {cs : List Char} :
    mandatory field found = .ok cs ↔ ¬ Absent found ∧ cs = found.getD [] := by
  unfold mandatory
  by_cases absent : Absent found
  · simp [ifGiven_of_absent absent, absent]
  · simp [ifGiven_of_not_absent absent, absent, eq_comm]

structure Found.Complete (found : Found) : Prop where
  invoiceNumber : ¬ Absent found.invoiceNumber
  invoiceDate : ¬ Absent found.invoiceDate
  supplierVatNumber : ¬ Absent found.supplierVatNumber
  customerVatNumber : ¬ Absent found.customerVatNumber

theorem invoice_eq_ok {found : Found} {p : ParsedFatturaPa} :
    found.invoice = .ok p ↔ found.Complete ∧ p = found.parsed (found.invoiceNumber.getD [])
      (found.invoiceDate.getD []) (found.supplierVatNumber.getD []) (found.customerVatNumber.getD []) := by
  simp only [Found.invoice, bind_eq_ok, mandatory_eq_ok, pure_eq_ok]
  constructor
  · rintro ⟨_, ⟨number, rfl⟩, _, ⟨date, rfl⟩, _, ⟨supplier, rfl⟩, _, ⟨customer, rfl⟩, rfl⟩
    exact ⟨⟨number, date, supplier, customer⟩, rfl⟩
  · rintro ⟨complete, rfl⟩
    exact ⟨_, ⟨complete.1, rfl⟩, _, ⟨complete.2, rfl⟩, _, ⟨complete.3, rfl⟩, _, ⟨complete.4, rfl⟩, rfl⟩

end SmartErp.Pec
