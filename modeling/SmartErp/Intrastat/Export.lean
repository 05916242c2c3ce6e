import SmartErp.Intrastat.Totals
import SmartErp.Foundations.Hundredths
import SmartErp.Foundations.Records
import SmartErp.Foundations.Tags
import Mathlib.Algebra.BigOperators.Ring.Finset
import Mathlib.Data.List.ReduceOption
import Mathlib.Data.List.Sort

/-!
# The exports of a declaration

`exportCsv` and `exportXml` of `intrastat.service.ts`, with what a reader takes from the texts: the CSV is cut
at line breaks and semicolons, the XML into tags. The CSV has no quoting, so a text with a semicolon in it is
read as two fields. The XML rounds each amount and the total to whole euro on its own.
-/

namespace SmartErp.Intrastat
open Foundations Foundations.Xml Foundations.Records Procurement.Sourcing

def IntrastatDeclarationType.text : IntrastatDeclarationType → String
  | cessioni => "cessioni"
  | acquisti => "acquisti"

/-! ## What is exported -/

def storedLines (db : Db) (tenantId declarationId : Uuid) : List IntrastatLine :=
  db.lines.filter fun l => l.tenantId = tenantId ∧ l.declarationId = declarationId

def linesInOrder (db : Db) (tenantId declarationId : Uuid) : List IntrastatLine :=
  (storedLines db tenantId declarationId).insertionSort fun a b => a.position ≤ b.position

def getDeclaration (db : Db) (tenantId declarationId : Uuid) :
    Except Failure (IntrastatDeclaration × List IntrastatLine) := do
  let decl ← findDeclaration db tenantId declarationId
  return (decl, linesInOrder db tenantId declarationId)

structure Export where
  filename : String
  body : List Char

/-- `Number(value)` of a `bigint` column. -/
def number (value : ℤ) : JsNumber := (JsNumber.finite value).double

def centsToEuroIntegerString (cents : JsNumber) : String := (cents.dividedBy (.finite 100)).round.wholeText

def escXml (s : String) : List Char :=
  replaceAll apostrophe "&apos;" (replaceAll quote "&quot;" (replaceAll '>' "&gt;" (replaceAll '<' "&lt;"
    (replaceAll '&' "&amp;" s.toList))))

/-- `String(month).padStart(2, '0')` -/
def monthText (month : ℤ) : String := String.ofList ((intText month).toList.leftpad 2 '0')

def formatFilename (type : IntrastatDeclarationType) (year : ℤ) (month : Option ℤ) (ext : String) : String :=
  let code := match type with
    | .cessioni => "INTRA-1bis"
    | .acquisti => "INTRA-2bis"
  let period := match month.filter (· ≠ 0) with
    | some month => intText year ++ "-" ++ monthText month
    | none => intText year
  code ++ "_" ++ period ++ "." ++ ext

/-! ### CSV -/

def CSV_HEADER_INTRA_1BIS : List String :=
  ["Codice ISO Stato membro acquirente",
    "Codice IVA acquirente",
    "Ammontare delle operazioni in euro",
    "Codice nomenclatura combinata NC8",
    "Massa netta in kg",
    "Unita supplementare",
    "Valore statistico in euro",
    "Natura della transazione",
    "Modalita di trasporto",
    "Paese di destinazione",
    "Regime statistico"]

def CSV_HEADER_INTRA_2BIS : List String :=
  ["Codice ISO Stato membro cedente",
    "Codice IVA cedente",
    "Ammontare delle operazioni in euro",
    "Codice nomenclatura combinata NC8",
    "Massa netta in kg",
    "Unita supplementare",
    "Valore statistico in euro",
    "Natura della transazione",
    "Modalita di trasporto",
    "Paese di provenienza",
    "Paese di origine delle merci",
    "Regime statistico"]

def csvRowIntra1Bis (l : IntrastatLine) : List String :=
  [l.partnerCountry,
    l.partnerVatNumber.getD "",
    centsToEuroIntegerString (number l.valueCents),
    l.nc8Code.getD "",
    (l.netMassKg.map Numeric.text).getD "",
    (l.supplementaryUnits.map Numeric.text).getD "",
    centsToEuroIntegerString (number (l.statisticalValueCents.getD l.valueCents)),
    l.naturaTransazione.getD "",
    l.modalitaTrasporto.getD "",
    l.paeseDestinazioneProvenienza.getD "",
    l.regimeStatistico.getD ""]

def csvRowIntra2Bis (l : IntrastatLine) : List String :=
  [l.partnerCountry,
    l.partnerVatNumber.getD "",
    centsToEuroIntegerString (number l.valueCents),
    l.nc8Code.getD "",
    (l.netMassKg.map Numeric.text).getD "",
    (l.supplementaryUnits.map Numeric.text).getD "",
    centsToEuroIntegerString (number (l.statisticalValueCents.getD l.valueCents)),
    l.naturaTransazione.getD "",
    l.modalitaTrasporto.getD "",
    l.paeseDestinazioneProvenienza.getD "",
    l.paeseOrigine.getD "",
    l.regimeStatistico.getD ""]

def csvHeader : IntrastatDeclarationType → List String
  | .cessioni => CSV_HEADER_INTRA_1BIS
  | .acquisti => CSV_HEADER_INTRA_2BIS

def csvRow : IntrastatDeclarationType → IntrastatLine → List String
  | .cessioni => csvRowIntra1Bis
  | .acquisti => csvRowIntra2Bis

def exportCsv (db : Db) (tenantId declarationId : Uuid) : Except Failure Export := do
  let (decl, lines) ← getDeclaration db tenantId declarationId
  let rows := csvHeader decl.type :: lines.map (csvRow decl.type)
  return {
    filename := formatFilename decl.type decl.periodYear decl.periodMonth "csv"
    body := lineBreak.intercalate (rows.map fun r => [';'].intercalate (r.map (·.toList))) ++ lineBreak }

/-! ### XML -/

def rigaElements (l : IntrastatLine) : List (String × List Char) :=
  [("PaesePartner", escXml l.partnerCountry),
    ("CodiceIvaPartner", escXml (l.partnerVatNumber.getD "")),
    ("AmmontareEuro", (centsToEuroIntegerString (number l.valueCents)).toList),
    ("NC8", escXml (l.nc8Code.getD "")),
    ("MassaNettaKg", escXml ((l.netMassKg.map Numeric.text).getD "")),
    ("UnitaSupplementare", escXml ((l.supplementaryUnits.map Numeric.text).getD "")),
    ("ValoreStatisticoEuro",
      (centsToEuroIntegerString (number (l.statisticalValueCents.getD l.valueCents))).toList),
    ("NaturaTransazione", escXml (l.naturaTransazione.getD "")),
    ("ModalitaTrasporto", escXml (l.modalitaTrasporto.getD "")),
    ("PaeseDestinazioneOProvenienza", escXml (l.paeseDestinazioneProvenienza.getD "")),
    ("PaeseOrigine", escXml (l.paeseOrigine.getD "")),
    ("RegimeStatistico", escXml (l.regimeStatistico.getD ""))]

def riga (i : ℕ) (l : IntrastatLine) : List Char :=
  tagText "Riga" [("numero", (intText (i + 1)).toList)] ++ (elementLines 6 (rigaElements l) ++ line 4 (endTag "Riga"))

def periodText (decl : IntrastatDeclaration) : String :=
  match decl.periodMonth.filter (· ≠ 0) with
  | some month => intText decl.periodYear ++ "-" ++ monthText month
  | none => intText decl.periodYear ++ "-Q" ++ intText (decl.periodQuarter.getD 0)

def declarationAttributes (decl : IntrastatDeclaration) : List (String × List Char) :=
  [("tipo", decl.type.text.toList),
    ("periodo", (periodText decl).toList),
    ("totaleEuro", (centsToEuroIntegerString (number decl.totalValueCents)).toList),
    ("righe", (intText decl.lineCount).toList)]

def renderIntrastatXml (decl : IntrastatDeclaration) (lines : List IntrastatLine) : List Char :=
  ['<' :: "?xml version=\"1.0\" encoding=\"UTF-8\"?>".toList,
    line 0 ('<' :: tagText "IntrastatDeclaration" (declarationAttributes decl)),
    line 2 (startTag "Righe"),
    '\n' :: ['\n'].intercalate ((lines.mapIdx riga).map fun r => List.replicate 4 ' ' ++ '<' :: r),
    line 2 (endTag "Righe"),
    line 0 (endTag "IntrastatDeclaration"),
    ['\n']].flatten

def exportXml (db : Db) (tenantId declarationId : Uuid) : Except Failure Export := do
  let (decl, lines) ← getDeclaration db tenantId declarationId
  return {
    filename := formatFilename decl.type decl.periodYear decl.periodMonth "xml"
    body := renderIntrastatXml decl lines }

/-! ## What is read of the exports -/

def stated (key : String) (body : List Char) : Option ℚ := do
  let tag ← (named "IntrastatDeclaration" (tags body)).head?
  let value ← attributeOf key tag
  decimal value

def amounts (body : List Char) : List (Option ℚ) := (named "AmmontareEuro" (tags body)).map fun tag => decimal (textOf tag)

structure AddsUp (body : List Char) : Prop where
  righe : stated "righe" body = some ((named "Riga" (tags body)).length : ℚ)
  totaleEuro : ∃ euros : List ℚ, amounts body = euros.map some ∧ stated "totaleEuro" body = some euros.sum

structure LineValues where
  partnerCountry : String
  partnerVatNumber : Option String
  nc8Code : Option String
  netMassKg : Option ℚ
  supplementaryUnits : Option ℚ
  naturaTransazione : Option String
  modalitaTrasporto : Option String
  paeseDestinazioneProvenienza : Option String
  paeseOrigine : Option String
  regimeStatistico : Option String
  deriving DecidableEq

def textField (field : List Char) : Option String := if field = [] then none else some (String.ofList field)

def numberField (field : List Char) : Option (Option ℚ) := if field = [] then some none else (decimal field).map some

def decode : IntrastatDeclarationType → List (List Char) → Option LineValues
  | .cessioni, [country, vat, _, nc8, mass, units, _, natura, trasporto, paese, regime] => do
      return {
        partnerCountry := String.ofList country
        partnerVatNumber := textField vat
        nc8Code := textField nc8
        netMassKg := ← numberField mass
        supplementaryUnits := ← numberField units
        naturaTransazione := textField natura
        modalitaTrasporto := textField trasporto
        paeseDestinazioneProvenienza := textField paese
        paeseOrigine := none
        regimeStatistico := textField regime }
  | .acquisti, [country, vat, _, nc8, mass, units, _, natura, trasporto, paese, origine, regime] => do
      return {
        partnerCountry := String.ofList country
        partnerVatNumber := textField vat
        nc8Code := textField nc8
        netMassKg := ← numberField mass
        supplementaryUnits := ← numberField units
        naturaTransazione := textField natura
        modalitaTrasporto := textField trasporto
        paeseDestinazioneProvenienza := textField paese
        paeseOrigine := textField origine
        regimeStatistico := textField regime }
  | _, _ => none

def lineValues (type : IntrastatDeclarationType) (l : IntrastatLine) : LineValues where
  partnerCountry := l.partnerCountry
  partnerVatNumber := l.partnerVatNumber
  nc8Code := l.nc8Code
  netMassKg := l.netMassKg.map Numeric.val
  supplementaryUnits := l.supplementaryUnits.map Numeric.val
  naturaTransazione := l.naturaTransazione
  modalitaTrasporto := l.modalitaTrasporto
  paeseDestinazioneProvenienza := l.paeseDestinazioneProvenienza
  paeseOrigine := match type with
    | .cessioni => none
    | .acquisti => l.paeseOrigine
  regimeStatistico := l.regimeStatistico

/-- A header and one record for each line, with the values of the line in it. -/
def ReadsBack (type : IntrastatDeclarationType) (lines : List IntrastatLine) (body : List Char) : Prop :=
  ∃ header records, splitLines body = header :: records ++ [[]] ∧
    header.splitOn ';' = (csvHeader type).map (·.toList) ∧
    (∀ record ∈ records, (record.splitOn ';').length = (header.splitOn ';').length) ∧
    records.map (fun record => decode type (record.splitOn ';')) = lines.map fun l => some (lineValues type l)

/-! ## When they are right -/

def optionalTexts (type : IntrastatDeclarationType) (l : IntrastatLine) : List (Option String) :=
  [l.partnerVatNumber, l.nc8Code, l.naturaTransazione, l.modalitaTrasporto, l.paeseDestinazioneProvenienza,
    (lineValues type l).paeseOrigine, l.regimeStatistico]

/-- No text of the line has a semicolon or a line break in it, and none is given but empty. -/
def Plain (type : IntrastatDeclarationType) (l : IntrastatLine) : Prop :=
  Free ';' l.partnerCountry.toList ∧ ∀ s ∈ (optionalTexts type l).reduceOption, s ≠ "" ∧ Free ';' s.toList

instance (type : IntrastatDeclarationType) (l : IntrastatLine) : Decidable (Plain type l) :=
  inferInstanceAs (Decidable (_ ∧ _))

def euro (cents : ℤ) : Option ℚ := decimal (centsToEuroIntegerString (number cents)).toList

/-- What rounding cuts off the amounts is less than half a euro altogether. -/
def RoundsAlike (values : List ℤ) : Prop := -50 ≤ (values.map cut).sum ∧ (values.map cut).sum < 50

instance (values : List ℤ) : Decidable (RoundsAlike values) := inferInstanceAs (Decidable (_ ∧ _))

/-- The totals are those that `generate` saves with the lines. -/
structure Generated (db : Db) (d : IntrastatDeclaration) : Prop where
  lineCount : d.lineCount = (storedLines db d.tenantId d.id).length
  totalValueCents : .finite d.totalValueCents =
    sumOf (((storedLines db d.tenantId d.id).map (·.valueCents)).map fun value : ℤ => .finite value)

/-! ## Texts of numbers -/

theorem figure_euro {cents : JsNumber} {c : Char} (mem : c ∈ (centsToEuroIntegerString cents).toList) :
    JsNumber.Figure c := JsNumber.figure_wholeText mem

theorem figure_monthText {month : ℤ} {c : Char} (mem : c ∈ (monthText month).toList) : JsNumber.Figure c := by
  rw [monthText, String.toList_ofList, List.leftpad, List.mem_append] at mem
  rcases mem with zero | digit
  · rw [List.eq_of_mem_replicate zero]
    decide
  · exact JsNumber.figure_intText digit

theorem figure_periodText {decl : IntrastatDeclaration} {c : Char} (mem : c ∈ (periodText decl).toList) :
    JsNumber.Figure c := by
  unfold periodText at mem
  split at mem
  · simp only [String.toList_append, List.mem_append] at mem
    rcases mem with (year | dash) | month
    · exact JsNumber.figure_intText year
    · rw [List.mem_singleton.mp dash]
      decide
    · exact figure_monthText month
  · simp only [String.toList_append, List.mem_append] at mem
    rcases mem with (year | dash) | quarter
    · exact JsNumber.figure_intText year
    · have letters : ∀ c ∈ "-Q".toList, JsNumber.Figure c := List.all_iff_forall_prop.mp (by decide)
      exact letters c dash
    · exact JsNumber.figure_intText quarter

theorem escXml_eq (s : String) : escXml s = escape s.toList := replaced_eq s.toList

theorem blank_of_figure {c : Char} (figure : JsNumber.Figure c) : blank c = false := by
  rw [← Bool.not_eq_true]
  intro white
  simp only [blank, Bool.or_eq_true, decide_eq_true_eq] at white
  rcases white with ((rfl | rfl) | rfl) | rfl <;> exact absurd figure (by decide)

theorem rdropWhile_figures {cs : List Char} (figures : ∀ c ∈ cs, JsNumber.Figure c) : cs.rdropWhile blank = cs := by
  rw [List.rdropWhile_eq_self_iff]
  intro some
  rw [blank_of_figure (figures _ (List.getLast_mem some))]
  exact Bool.false_ne_true

/-! ## The XML -/

theorem lt_not_mem_rigaElements (l : IntrastatLine) : ∀ e ∈ rigaElements l, '<' ∉ e.2 := by
  have text (s : String) : '<' ∉ escXml s := by
    rw [escXml_eq]
    exact not_mem_escape (by decide)
  have amount (cents : JsNumber) : '<' ∉ (centsToEuroIntegerString cents).toList := fun mem =>
    absurd (figure_euro mem) (by decide)
  simp [rigaElements, text, amount]

theorem rigaElements_names (l : IntrastatLine) : ∀ e ∈ rigaElements l, isName e.1.toList = true := by
  have names : ∀ name ∈ (rigaElements l).map (·.1), isName name.toList = true := by
    have same : (rigaElements l).map (·.1) = ["PaesePartner", "CodiceIvaPartner", "AmmontareEuro", "NC8", "MassaNettaKg",
      "UnitaSupplementare", "ValoreStatisticoEuro", "NaturaTransazione", "ModalitaTrasporto",
      "PaeseDestinazioneOProvenienza", "PaeseOrigine", "RegimeStatistico"] := rfl
    rw [same]
    decide
  intro e mem
  exact names e.1 (List.mem_map_of_mem mem)

theorem tags_riga (i : ℕ) (l : IntrastatLine) :
    tags ('<' :: riga i l) = tagText "Riga" [("numero", (intText (i + 1)).toList)] ::
      ((rigaElements l).flatMap (fun e => tags (inline e.1 e.2)) ++ [['/', 'R', 'i', 'g', 'a', '>']]) := by
  have free : '<' ∉ (intText (i + 1)).toList := fun mem => absurd (JsNumber.figure_intText mem) (by decide)
  have start : tags ('<' :: tagText "Riga" [("numero", (intText (i + 1)).toList)]) =
      [tagText "Riga" [("numero", (intText (i + 1)).toList)]] := by
    apply tags_tagText (by decide)
    · simp
    · simpa using free
  have text : '<' :: riga i l = '<' :: tagText "Riga" [("numero", (intText (i + 1)).toList)] ++
      elementLines 6 (rigaElements l) ++ line 4 (endTag "Riga") := by
    simp [riga]
  have last : tags ('<' :: ('/' :: ("Riga".toList ++ ['>']))) = [['/', 'R', 'i', 'g', 'a', '>']] := by decide
  rw [text, endTag, tags_line, tags_elementLines 6 (rigaElements_names l) (lt_not_mem_rigaElements l), start, last]
  rfl

theorem figure_declarationAttributes (decl : IntrastatDeclaration) :
    ∀ a ∈ declarationAttributes decl, ∀ c ∈ a.2, JsNumber.Figure c := by
  have type : ∀ c ∈ decl.type.text.toList, JsNumber.Figure c := by
    cases decl.type <;> exact List.all_iff_forall_prop.mp (by decide)
  intro a mem c here
  simp only [declarationAttributes, List.mem_cons, List.not_mem_nil, or_false] at mem
  rcases mem with rfl | rfl | rfl | rfl
  · exact type c here
  · exact figure_periodText here
  · exact figure_euro here
  · exact JsNumber.figure_intText here

theorem tags_renderIntrastatXml (decl : IntrastatDeclaration) (lines : List IntrastatLine) :
    tags (renderIntrastatXml decl lines) =
      tags ('<' :: "?xml version=\"1.0\" encoding=\"UTF-8\"?>".toList) ++
        (tagText "IntrastatDeclaration" (declarationAttributes decl) :: tags (startTag "Righe")) ++
        (lines.mapIdx riga).flatMap (fun r => tags ('<' :: r)) ++
        (tags (endTag "Righe") ++ tags (endTag "IntrastatDeclaration")) := by
  have free : ∀ a ∈ declarationAttributes decl, '<' ∉ a.2 := fun a mem here =>
    absurd (figure_declarationAttributes decl a mem '<' here) (by decide)
  have keys : ∀ a ∈ declarationAttributes decl, '<' ∉ a.1.toList := by
    simp [declarationAttributes]
  have start : tags ('<' :: tagText "IntrastatDeclaration" (declarationAttributes decl)) =
      [tagText "IntrastatDeclaration" (declarationAttributes decl)] := tags_tagText (by decide) keys free
  have text : renderIntrastatXml decl lines =
      ((((('<' :: "?xml version=\"1.0\" encoding=\"UTF-8\"?>".toList) ++
        line 0 ('<' :: tagText "IntrastatDeclaration" (declarationAttributes decl))) ++ line 2 (startTag "Righe")) ++
        '\n' :: ['\n'].intercalate ((lines.mapIdx riga).map fun r => List.replicate 4 ' ' ++ '<' :: r)) ++
        line 2 (endTag "Righe")) ++ line 0 (endTag "IntrastatDeclaration") ++ ['\n'] := by
    simp only [renderIntrastatXml, List.flatten_cons, List.flatten_nil, List.append_nil, List.append_assoc]
  have white : ∀ c ∈ ['\n'], blank c = true := fun c mem => by
    rw [List.mem_singleton.mp mem]
    rfl
  rw [text, tags_append_blank white]
  simp only [endTag, startTag]
  rw [tags_line, tags_line, tags_join, tags_line, tags_line, start]
  simp only [List.append_assoc, List.cons_append, List.nil_append]

theorem flatMap_mapIdx {α β γ : Type} {f : ℕ → α → β} {g : β → List γ} {h : α → List γ} (same : ∀ i a, g (f i a) = h a)
    (as : List α) : (as.mapIdx f).flatMap g = as.flatMap h := by
  induction as generalizing f with
  | nil => rfl
  | cons a as ih =>
      rw [List.mapIdx_cons, List.flatMap_cons, List.flatMap_cons, same]
      exact congrArg (h a ++ ·) (ih fun i a => same (i + 1) a)

theorem named_eq_nil {name : String} {ts : List (List Char)} (other : name.toList ∉ ts.map nameOf) : named name ts = [] := by
  rw [named, List.filter_eq_nil_iff]
  intro t mem same
  rw [decide_eq_true_eq] at same
  exact other (same ▸ List.mem_map_of_mem mem)

theorem names_outside : (tags ('<' :: "?xml version=\"1.0\" encoding=\"UTF-8\"?>".toList)).map nameOf = ["?xml".toList] ∧
    (tags (startTag "Righe")).map nameOf = ["Righe".toList] ∧
    (tags (endTag "Righe") ++ tags (endTag "IntrastatDeclaration")).map nameOf =
      ['/' :: "Righe".toList, '/' :: "IntrastatDeclaration".toList] := by
  decide +kernel

section Named
variable (decl : IntrastatDeclaration) (lines : List IntrastatLine)

theorem named_renderIntrastatXml {name : String} (plain : isName name.toList = true)
    (other : name ∉ ["?xml", "IntrastatDeclaration", "Righe"]) :
    named name (tags (renderIntrastatXml decl lines)) =
      (lines.mapIdx riga).flatMap fun r => named name (tags ('<' :: r)) := by
  simp only [List.mem_cons, List.not_mem_nil, or_false, not_or] at other
  obtain ⟨xml, declaration, righe⟩ := other
  obtain ⟨first, second, last⟩ := names_outside
  have start : nameOf (tagText "IntrastatDeclaration" (declarationAttributes decl)) = "IntrastatDeclaration".toList :=
    nameOf_tagText (by decide) _
  have before : named name (tags ('<' :: "?xml version=\"1.0\" encoding=\"UTF-8\"?>".toList) ++
      (tagText "IntrastatDeclaration" (declarationAttributes decl) :: tags (startTag "Righe"))) = [] := by
    apply named_eq_nil
    rw [List.map_append, List.map_cons, first, second, start]
    simp only [List.cons_append, List.nil_append, List.mem_cons, List.not_mem_nil, or_false, not_or, String.toList_inj]
    exact ⟨xml, declaration, righe⟩
  have after : named name (tags (endTag "Righe") ++ tags (endTag "IntrastatDeclaration")) = [] := by
    apply named_eq_nil
    rw [last]
    simp [(end_ne plain).symm]
  rw [tags_renderIntrastatXml, named_append, named_append, before, after, List.nil_append, List.append_nil, named,
    List.filter_flatMap]
  rfl

theorem named_riga {name : String} (plain : isName name.toList = true) (i : ℕ) (l : IntrastatLine) :
    named name (tags ('<' :: riga i l)) =
      (if name = "Riga" then [tagText "Riga" [("numero", (intText (i + 1)).toList)]] else []) ++
        ((rigaElements l).filter (·.1 = name)).map fun e => name.toList ++ '>' :: e.2.rdropWhile blank := by
  have start : nameOf (tagText "Riga" [("numero", (intText (i + 1)).toList)]) = "Riga".toList :=
    nameOf_tagText (by decide) _
  have closing : named name [['/', 'R', 'i', 'g', 'a', '>']] = [] := by
    apply named_eq_nil
    have text : [['/', 'R', 'i', 'g', 'a', '>']].map nameOf = ['/' :: "Riga".toList] := by decide
    rw [text, List.mem_singleton]
    exact (end_ne plain).symm
  rw [tags_riga, ← List.singleton_append, named_append, named_append, closing, List.append_nil,
    named_elements plain (rigaElements_names l) (lt_not_mem_rigaElements l), named, List.filter_cons, List.filter_nil, start]
  simp only [decide_eq_true_eq, String.toList_inj, eq_comm (a := "Riga")]

theorem length_named_Riga : (named "Riga" (tags (renderIntrastatXml decl lines))).length = lines.length := by
  have each (i : ℕ) (l : IntrastatLine) : (named "Riga" (tags ('<' :: riga i l))).map (fun _ => ()) = [()] := by
    rw [named_riga (by decide)]
    simp [rigaElements]
  have units := flatMap_mapIdx (g := fun r => (named "Riga" (tags ('<' :: r))).map fun _ => ()) each lines
  rw [named_renderIntrastatXml decl lines (by decide) (by decide), ← List.length_map (f := fun _ => ()), List.map_flatMap,
    units]
  simp

theorem amounts_renderIntrastatXml :
    amounts (renderIntrastatXml decl lines) = (lines.map (·.valueCents)).map euro := by
  have each (i : ℕ) (l : IntrastatLine) : (named "AmmontareEuro" (tags ('<' :: riga i l))).map
      (fun tag => decimal (textOf tag)) = [euro l.valueCents] := by
    have plain : isName "AmmontareEuro".toList = true := by decide
    have figures : ∀ c ∈ (centsToEuroIntegerString (number l.valueCents)).toList, JsNumber.Figure c := fun _ mem =>
      figure_euro mem
    have found : (rigaElements l).filter (·.1 = "AmmontareEuro") =
        [("AmmontareEuro", (centsToEuroIntegerString (number l.valueCents)).toList)] := by
      simp [rigaElements]
    rw [named_riga plain, found, List.map_singleton, rdropWhile_figures figures, if_neg (by decide), List.nil_append,
      List.map_singleton, textOf_append plain]
    rfl
  have values := flatMap_mapIdx (g := fun r => (named "AmmontareEuro" (tags ('<' :: r))).map
    fun tag => decimal (textOf tag)) each lines
  rw [amounts, named_renderIntrastatXml decl lines (by decide) (by decide), List.map_flatMap, values, List.map_map]
  exact (List.map_eq_flatMap ..).symm

theorem stated_renderIntrastatXml (key : String) :
    stated key (renderIntrastatXml decl lines) = ((declarationAttributes decl).lookup key).bind decimal := by
  obtain ⟨first, -, -⟩ := names_outside
  have before : named "IntrastatDeclaration" (tags ('<' :: "?xml version=\"1.0\" encoding=\"UTF-8\"?>".toList)) = [] := by
    apply named_eq_nil
    rw [first]
    decide
  have start : nameOf (tagText "IntrastatDeclaration" (declarationAttributes decl)) = "IntrastatDeclaration".toList :=
    nameOf_tagText (by decide) _
  have head : (named "IntrastatDeclaration" (tags (renderIntrastatXml decl lines))).head? =
      some (tagText "IntrastatDeclaration" (declarationAttributes decl)) := by
    rw [tags_renderIntrastatXml, named_append, named_append, named_append, before, List.nil_append, named,
      List.filter_cons, if_pos (by rw [start]; decide)]
    rfl
  have plain : ∀ a ∈ declarationAttributes decl, quote ∉ a.1.toList := by
    have keys : ∀ key ∈ ["tipo", "periodo", "totaleEuro", "righe"], quote ∉ key.toList := by decide
    simpa [declarationAttributes] using keys
  have free : ∀ a ∈ declarationAttributes decl, quote ∉ a.2 := fun a mem here =>
    absurd (figure_declarationAttributes decl a mem quote here) (by decide)
  rw [stated, head]
  show (attributeOf key _).bind decimal = _
  rw [attributeOf_tagText (by simp [declarationAttributes]) (by decide) plain free]

end Named

theorem euro_safe {cents : ℤ} (safe : |cents| < 2 ^ 53) : euro cents = some (units cents : ℚ) := by
  have safe' : |units cents| < 2 ^ 53 := by
    unfold units
    rw [abs_lt] at safe ⊢
    omega
  rw [euro, centsToEuroIntegerString, number, JsNumber.round_hundredths safe, JsNumber.wholeText_safe safe',
    decimal_intText]

theorem euros_safe {values : List ℤ} (safe : (values.map (|·|)).sum < 2 ^ 53) :
    (∃ euros : List ℚ, values.map euro = euros.map some ∧ euro values.sum = some euros.sum) ↔ RoundsAlike values := by
  have each : values.map euro = (values.map fun v => (units v : ℚ)).map some := by
    rw [List.map_map]
    apply List.map_congr_left
    intro v mem
    have nonneg : ∀ x ∈ values.map (|·|), 0 ≤ x := by simp
    exact euro_safe ((List.single_le_sum nonneg _ (List.mem_map_of_mem mem)).trans_lt safe)
  have total : ((values.map fun v => (units v : ℚ)).sum) = ((values.map units).sum : ℤ) := by
    rw [Int.cast_list_sum, List.map_map]
    rfl
  rw [euro_safe ((abs_sum_le values).trans_lt safe), RoundsAlike, ← units_sum, each]
  constructor
  · rintro ⟨euros, same, sum⟩
    rw [(List.map_injective_iff.mpr (Option.some_injective ℚ)).eq_iff] at same
    rw [← same, total, Option.some_inj] at sum
    exact_mod_cast sum
  · intro sum
    exact ⟨_, rfl, by rw [total, sum]⟩

theorem addsUp_iff {decl : IntrastatDeclaration} {lines : List IntrastatLine} (count : decl.lineCount = lines.length) :
    AddsUp (renderIntrastatXml decl lines) ↔
      ∃ euros : List ℚ, (lines.map (·.valueCents)).map euro = euros.map some ∧ euro decl.totalValueCents = some euros.sum := by
  have righe : stated "righe" (renderIntrastatXml decl lines) =
      some ((named "Riga" (tags (renderIntrastatXml decl lines))).length : ℚ) := by
    have value : (declarationAttributes decl).lookup "righe" = some (intText decl.lineCount).toList := rfl
    rw [stated_renderIntrastatXml, value, Option.bind_some, decimal_intText, length_named_Riga, count]
    rfl
  have totale : stated "totaleEuro" (renderIntrastatXml decl lines) = euro decl.totalValueCents := by
    rw [stated_renderIntrastatXml]
    rfl
  rw [← totale, ← amounts_renderIntrastatXml decl lines]
  exact ⟨fun adds => adds.totaleEuro, fun total => ⟨righe, total⟩⟩

theorem linesInOrder_perm (db : Db) (tenantId declarationId : Uuid) :
    (linesInOrder db tenantId declarationId).Perm (storedLines db tenantId declarationId) := List.perm_insertionSort _ _

theorem Generated.addsUp_iff {db : Db} {d : IntrastatDeclaration} (generated : Generated db d)
    (safe : (((linesInOrder db d.tenantId d.id).map (·.valueCents)).map (|·|)).sum < 2 ^ 53) :
    AddsUp (renderIntrastatXml d (linesInOrder db d.tenantId d.id)) ↔
      RoundsAlike ((linesInOrder db d.tenantId d.id).map (·.valueCents)) := by
  have perm := linesInOrder_perm db d.tenantId d.id
  rw [Intrastat.addsUp_iff (generated.lineCount.trans perm.length_eq.symm), ← euros_safe safe]
  have perm := perm.map (·.valueCents)
  have safe' : (((storedLines db d.tenantId d.id).map (·.valueCents)).map (|·|)).sum < 2 ^ 53 :=
    (perm.map (|·|)).sum_eq ▸ safe
  have total := generated.totalValueCents
  rw [sumOf_exact (addsExactly_safe safe'), exactSum_integers, JsNumber.finite.injEq, Int.cast_inj, ← perm.sum_eq] at total
  rw [total]

/-! ## The CSV -/

theorem free_of_figures {cs : List Char} (figures : ∀ c ∈ cs, JsNumber.Figure c) : Free ';' cs := by
  constructor
  · intro mem
    exact absurd (figures _ mem) (by decide)
  · intro broken
    exact absurd (figures '\r' (broken.subset List.mem_cons_self)) (by decide)

theorem free_nil : Free ';' [] := by decide

section Fields
variable {o : Option String} {p s : ℕ}

theorem free_getD (plain : ∀ t, o = some t → t ≠ "" ∧ Free ';' t.toList) : Free ';' (o.getD "").toList := by
  cases o with
  | none => exact free_nil
  | some t => exact (plain t rfl).2

theorem textField_getD (plain : ∀ t, o = some t → t ≠ "" ∧ Free ';' t.toList) : textField (o.getD "").toList = o := by
  cases o with
  | none => rfl
  | some t =>
      have some : t.toList ≠ [] := fun nil => (plain t rfl).1 (String.toList_eq_nil_iff.mp nil)
      rw [textField, Option.getD_some, if_neg some, String.ofList_toList]

theorem free_number (m : Option (Numeric p s)) : Free ';' ((m.map Numeric.text).getD "").toList := by
  cases m with
  | none => exact free_nil
  | some m =>
      apply free_of_figures
      intro c mem
      rcases figures_fixedText mem with digit | sign | point
      · exact .inl (by simp [Char.isAlphanum, digit])
      · exact .inr (.inl sign)
      · exact .inr (.inr (.inr point))

theorem numberField_getD (m : Option (Numeric p s)) :
    numberField ((m.map Numeric.text).getD "").toList = some (m.map Numeric.val) := by
  cases m with
  | none => rfl
  | some m =>
      have read : decimal m.text.toList = some m.val := decimal_text m
      have some : m.text.toList ≠ [] := by
        intro nil
        rw [nil] at read
        cases read
      rw [numberField, Option.map_some, Option.getD_some, if_neg some, read]
      rfl

end Fields

section Rows
variable {type : IntrastatDeclarationType} {l : IntrastatLine}

theorem csvHeader_free (type : IntrastatDeclarationType) : ∀ field ∈ (csvHeader type).map (·.toList), Free ';' field := by
  cases type <;> decide

theorem csvRow_free (plain : Plain type l) : ∀ field ∈ (csvRow type l).map (·.toList), Free ';' field := by
  have figures (cents : JsNumber) : Free ';' (centsToEuroIntegerString cents).toList := free_of_figures fun _ => figure_euro
  have texts : ∀ o ∈ optionalTexts type l, Free ';' (o.getD "").toList := fun o mem =>
    free_getD fun t eq => plain.2 t (List.reduceOption_mem_iff.mpr (eq ▸ mem))
  simp only [optionalTexts, List.forall_mem_cons] at texts
  obtain ⟨vat, nc8, natura, trasporto, paese, origine, regime, -⟩ := texts
  have nothing : ∀ field ∈ ([] : List (List Char)), Free ';' field := fun _ mem => nomatch mem
  cases type with
  | cessioni =>
      simp only [csvRow, csvRowIntra1Bis, List.map_cons, List.map_nil, List.forall_mem_cons]
      exact ⟨plain.1, vat, figures _, nc8, free_number _, free_number _, figures _, natura, trasporto, paese, regime, nothing⟩
  | acquisti =>
      simp only [csvRow, csvRowIntra2Bis, List.map_cons, List.map_nil, List.forall_mem_cons]
      exact ⟨plain.1, vat, figures _, nc8, free_number _, free_number _, figures _, natura, trasporto, paese, origine, regime,
        nothing⟩

theorem decode_csvRow (plain : Plain type l) :
    decode type ((csvRow type l).map (·.toList)) = some (lineValues type l) := by
  have texts : ∀ o ∈ optionalTexts type l, textField (o.getD "").toList = o := fun o mem =>
    textField_getD fun t eq => plain.2 t (List.reduceOption_mem_iff.mpr (eq ▸ mem))
  simp only [optionalTexts, List.forall_mem_cons] at texts
  obtain ⟨vat, nc8, natura, trasporto, paese, origine, regime, -⟩ := texts
  cases type with
  | cessioni =>
      simp only [csvRow, csvRowIntra1Bis, List.map_cons, List.map_nil, decode, numberField_getD, vat, nc8, natura, trasporto,
        paese, regime, String.ofList_toList]
      rfl
  | acquisti =>
      simp only [lineValues] at origine
      simp only [csvRow, csvRowIntra2Bis, List.map_cons, List.map_nil, decode, numberField_getD, vat, nc8, natura, trasporto,
        paese, origine, regime, String.ofList_toList]
      rfl

theorem textField_eq_some {field : List Char} {t : String} (read : textField field = some t) :
    t ≠ "" ∧ t.toList = field := by
  unfold textField at read
  split_ifs at read with empty
  obtain rfl := Option.some_inj.mp read
  rw [String.toList_ofList]
  refine ⟨fun nothing => empty ?_, rfl⟩
  rw [← String.toList_ofList (l := field), nothing]
  rfl

theorem plain_of_decode {fields : List (List Char)} (free : ∀ field ∈ fields, Free ';' field)
    (read : decode type fields = some (lineValues type l)) : Plain type l := by
  have text {field : List Char} {o : Option String} (mem : field ∈ fields) (same : textField field = o) :
      ∀ t, o = some t → t ≠ "" ∧ Free ';' t.toList := by
    intro t eq
    obtain ⟨some, rfl⟩ := textField_eq_some (same.trans eq)
    exact ⟨some, free _ mem⟩
  have plain (country : Free ';' l.partnerCountry.toList)
      (texts : ∀ o ∈ optionalTexts type l, ∀ t, o = some t → t ≠ "" ∧ Free ';' t.toList) : Plain type l :=
    ⟨country, fun t mem => texts _ (List.reduceOption_mem_iff.mp mem) t rfl⟩
  have nothing : ∀ o ∈ ([] : List (Option String)), ∀ t, o = some t → t ≠ "" ∧ Free ';' t.toList := fun _ mem => nomatch mem
  unfold decode at read
  split at read
  · simp only [Option.bind_eq_bind, Option.bind_eq_some_iff] at read
    obtain ⟨mass, -, units, -, same⟩ := read
    simp only [lineValues, pure, Option.some_inj, LineValues.mk.injEq] at same
    obtain ⟨country, vat, nc8, -, -, natura, trasporto, paese, -, regime⟩ := same
    apply plain
    · rw [← country, String.toList_ofList]
      exact free _ List.mem_cons_self
    · simp only [optionalTexts, List.forall_mem_cons]
      exact ⟨text (by simp) vat, text (by simp) nc8, text (by simp) natura, text (by simp) trasporto, text (by simp) paese,
        by simp [lineValues], text (by simp) regime, nothing⟩
  · simp only [Option.bind_eq_bind, Option.bind_eq_some_iff] at read
    obtain ⟨mass, -, units, -, same⟩ := read
    simp only [lineValues, pure, Option.some_inj, LineValues.mk.injEq] at same
    obtain ⟨country, vat, nc8, -, -, natura, trasporto, paese, origine, regime⟩ := same
    apply plain
    · rw [← country, String.toList_ofList]
      exact free _ List.mem_cons_self
    · simp only [optionalTexts, List.forall_mem_cons]
      exact ⟨text (by simp) vat, text (by simp) nc8, text (by simp) natura, text (by simp) trasporto, text (by simp) paese,
        text (by simp) origine, text (by simp) regime, nothing⟩
  · cases read

end Rows

theorem readsBack_iff {type : IntrastatDeclarationType} {lines : List IntrastatLine} {body : List Char}
    (text : body = written ';' ((csvHeader type :: lines.map (csvRow type)).map fun row => row.map (·.toList))) :
    ReadsBack type lines body ↔ ∀ l ∈ lines, Plain type l := by
  have other : ';' ∉ lineBreak := by decide
  constructor
  · rintro ⟨header, records, split, -, -, values⟩ l mem
    have here : some (lineValues type l) ∈ records.map fun record => decode type (record.splitOn ';') := by
      rw [values]
      exact List.mem_map_of_mem mem
    obtain ⟨record, part, read⟩ := List.mem_map.mp here
    have line : record ∈ splitLines body := by
      rw [split]
      exact List.mem_append_left _ (List.mem_cons_of_mem _ part)
    exact plain_of_decode (fun field => free_of_mem line) read
  · intro plain
    have free : ∀ fields ∈ (csvHeader type :: lines.map (csvRow type)).map fun row => row.map (·.toList),
        ∀ field ∈ fields, Free ';' field := by
      rw [List.map_cons, List.forall_mem_cons, List.map_map]
      refine ⟨csvHeader_free type, fun fields mem => ?_⟩
      obtain ⟨l, here, rfl⟩ := List.mem_map.mp mem
      exact csvRow_free (plain l here)
    have some (row : List String) (nonempty : row ≠ []) (free : ∀ field ∈ row.map (·.toList), Free ';' field) :
        ([';'].intercalate (row.map (·.toList))).splitOn ';' = row.map (·.toList) :=
      splitOn_written (by simpa using nonempty) free
    have header := some (csvHeader type) (by cases type <;> exact List.cons_ne_nil _ _) (csvHeader_free type)
    have fields (l : IntrastatLine) (mem : l ∈ lines) := some (csvRow type l) (by cases type <;> exact List.cons_ne_nil _ _)
      (csvRow_free (plain l mem))
    refine ⟨[';'].intercalate ((csvHeader type).map (·.toList)),
      lines.map fun l => [';'].intercalate ((csvRow type l).map (·.toList)), ?_, header, ?_, ?_⟩
    · rw [text, splitLines_written other free]
      simp [List.map_map, Function.comp_def]
    · intro record mem
      obtain ⟨l, here, rfl⟩ := List.mem_map.mp mem
      rw [fields l here, header, List.length_map, List.length_map]
      cases type <;> rfl
    · rw [List.map_map]
      apply List.map_congr_left
      intro l mem
      rw [Function.comp_apply, fields l mem, decode_csvRow (plain l mem)]

/-! ## What `generate` saves -/

/-- Totals of the lines of a declaration, whoever they belong to. -/
def Saved (db : Db) (d : IntrastatDeclaration) : Prop :=
  d.lineCount = (linesOf db d.id).length ∧
    .finite d.totalValueCents = sumOf (((linesOf db d.id).map (·.valueCents)).map fun value : ℤ => .finite value)

structure Filed (db : Db) : Prop where
  owned : Owned db
  saved : ∀ d ∈ db.declarations.rows, d.status ≠ .draft → Saved db d

section Reachable
variable {db t : Db} {tenantId declarationId : Uuid} {d : IntrastatDeclaration}

theorem storedLines_eq (owned : Owned db) (found : db.declarations.find? d.id = some d) :
    storedLines db d.tenantId d.id = linesOf db d.id := by
  apply List.filter_congr
  intro l mem
  obtain ⟨old, found', tenant⟩ := owned l mem
  by_cases same : l.declarationId = d.id
  · rw [same, found, Option.some_inj] at found'
    simp [same, ← tenant, ← found']
  · simp [same]

theorem transitionStatus_saved {target : IntrastatDeclarationStatus}
    {apply : IntrastatDeclaration → Except Failure IntrastatDeclaration} (other : target ≠ .generated)
    (same : ∀ d d', apply d = .ok d' → d'.id = d.id ∧ d'.tenantId = d.tenantId ∧ d'.status = d.status ∧
      (target ≠ .draft → d'.lineCount = d.lineCount ∧ d'.totalValueCents = d.totalValueCents))
    (ok : transitionStatus db tenantId declarationId target apply = .ok t) (filed : Filed db) : Filed t := by
  obtain ⟨d, d', found, can, applied, rfl⟩ := transitionStatus_ok ok
  obtain ⟨stored, rfl, rfl⟩ := findDeclaration_ok.mp found
  obtain ⟨id, tenant, status, totals⟩ := same _ _ applied
  refine ⟨filed.owned.save fun old found => ?_, fun x mem issued => ?_⟩
  · rw [id, stored, Option.some_inj] at found
    rw [← found, tenant]
  · rcases Table.mem_save.mp mem with rfl | ⟨old, -⟩
    · rw [status] at issued
      have before : d.status ≠ .draft := by
        intro draft
        rw [draft] at can
        have generated : target = .generated := by simpa [canIntrastatTransition, transitions] using can
        exact other generated
      obtain ⟨count, total⟩ := totals issued
      have saved := filed.saved d (Table.mem_of_find? stored) before
      rw [Saved, id, count, total]
      exact saved
    · exact filed.saved x old issued

theorem generate_saved {actorUserId : Option Uuid} {sources : Sources} {now : Time}
    (ok : generate db tenantId declarationId actorUserId sources now = .ok t) (filed : Filed db) :
    Filed t := by
  obtain ⟨d, persisted, found, -, lines, total, sum, rfl⟩ := generate_ok ok
  obtain ⟨stored, rfl, rfl⟩ := findDeclaration_ok.mp found
  obtain ⟨own, values⟩ := mapM_lineEntity lines
  have replaced := linesOf_replaced filed.owned stored own
  refine ⟨filed.owned.replaced stored rfl rfl own, fun x mem issued => ?_⟩
  rcases Table.mem_save.mp mem with rfl | ⟨old, differs⟩
  · rw [Saved, linesOf]
    simp only [Db.save, replaced, if_true, values]
    exact ⟨trivial, sum.symm⟩
  · rw [Saved, linesOf]
    simp only [Db.save, replaced, if_neg differs]
    exact filed.saved x old issued

theorem perform_saved {op : Operation} (ok : perform db op = .ok t) (filed : Filed db) :
    Filed t := by
  cases op with
  | createOrFindDraft tenantId id type periodYear periodMonth =>
      simp only [perform, createOrFindDraft, bind_eq_ok, ensure_eq_ok] at ok
      obtain ⟨_, -, ok⟩ := ok
      split at ok
      · obtain rfl : db = t := by simpa using ok
        exact filed
      · simp only [bind_eq_ok, ensure_eq_ok, pure_eq_ok] at ok
        obtain ⟨_, fresh, rfl⟩ := ok
        refine ⟨filed.owned.save fun old found => ?_, fun x mem issued => ?_⟩
        · rw [fresh] at found
          cases found
        · rcases Table.mem_save.mp mem with rfl | ⟨old, -⟩
          · exact absurd rfl issued
          · exact filed.saved x old issued
  | generate tenantId declarationId actorUserId sources now => exact generate_saved ok filed
  | submit tenantId declarationId admProtocollo actorUserId now =>
      rw [perform, submit] at ok
      refine transitionStatus_saved (by decide) (fun d d' applied => ?_) ok filed
      simp only [bind_eq_ok, ensure_eq_ok, pure_eq_ok] at applied
      obtain ⟨_, -, rfl⟩ := applied
      exact ⟨rfl, rfl, rfl, fun _ => ⟨rfl, rfl⟩⟩
  | accept tenantId declarationId now =>
      rw [perform, accept] at ok
      refine transitionStatus_saved (by decide) (fun d d' applied => ?_) ok filed
      obtain rfl := pure_eq_ok.mp applied
      exact ⟨rfl, rfl, rfl, fun _ => ⟨rfl, rfl⟩⟩
  | reject tenantId declarationId reason now =>
      rw [perform, reject] at ok
      refine transitionStatus_saved (by decide) (fun d d' applied => ?_) ok filed
      obtain rfl := pure_eq_ok.mp applied
      exact ⟨rfl, rfl, rfl, fun _ => ⟨rfl, rfl⟩⟩
  | reopen tenantId declarationId =>
      rw [perform, reopen] at ok
      refine transitionStatus_saved (by decide) (fun d d' applied => ?_) ok filed
      obtain rfl := pure_eq_ok.mp applied
      exact ⟨rfl, rfl, rfl, fun other => absurd rfl other⟩

theorem filed_foldl (ops : List Operation) : Filed (ops.foldl next ⟨∅, []⟩) := by
  induction ops using List.reverseRecOn with
  | nil =>
      constructor
      · intro l mem
        cases mem
      · intro d mem
        cases mem
  | append_singleton ops op ih =>
      rw [List.foldl_append]
      exact settle_keeps ih fun t ok => perform_saved ok ih

theorem Filed.generated (filed : Filed db) (mem : d ∈ db.declarations.rows) (issued : d.status ≠ .draft) :
    Generated db d := by
  have same := storedLines_eq filed.owned (Table.find?_of_mem mem)
  obtain ⟨count, total⟩ := filed.saved d mem issued
  exact ⟨by rw [same, count], by rw [same, total]⟩

end Reachable

/-- For a declaration that is not a draft after any operations, and for any lines whose totals it has: both exports
tell what was stored just if no text has a delimiter in it and rounding the amounts one by one makes no
difference. -/
theorem exports_faithful {db : Db} {d : IntrastatDeclaration} (mem : d ∈ db.declarations.rows)
    (totals : (∃ ops : List Operation, db = ops.foldl next ⟨∅, []⟩) ∧ d.status ≠ .draft ∨ Generated db d) :
    ∃ xml csv, exportXml db d.tenantId d.id = .ok xml ∧ exportCsv db d.tenantId d.id = .ok csv ∧
      (ReadsBack d.type (linesInOrder db d.tenantId d.id) csv.body ↔
        ∀ l ∈ linesInOrder db d.tenantId d.id, Plain d.type l) ∧
      ((((linesInOrder db d.tenantId d.id).map (·.valueCents)).map (|·|)).sum < 2 ^ 53 →
        (AddsUp xml.body ↔ RoundsAlike ((linesInOrder db d.tenantId d.id).map (·.valueCents)))) := by
  have generated : Generated db d := by
    rcases totals with ⟨⟨ops, rfl⟩, issued⟩ | generated
    · exact (filed_foldl ops).generated mem issued
    · exact generated
  have found : findDeclaration db d.tenantId d.id = .ok d := findDeclaration_ok.mpr ⟨Table.find?_of_mem mem, rfl, rfl⟩
  have declared : getDeclaration db d.tenantId d.id = .ok (d, linesInOrder db d.tenantId d.id) := by
    rw [getDeclaration, found]
    rfl
  have xml : exportXml db d.tenantId d.id = .ok {
      filename := formatFilename d.type d.periodYear d.periodMonth "xml"
      body := renderIntrastatXml d (linesInOrder db d.tenantId d.id) } := by
    rw [exportXml, declared]
    rfl
  have csv : exportCsv db d.tenantId d.id = .ok {
      filename := formatFilename d.type d.periodYear d.periodMonth "csv"
      body := written ';' ((csvHeader d.type :: (linesInOrder db d.tenantId d.id).map (csvRow d.type)).map fun row =>
        row.map (·.toList)) } := by
    rw [List.map_cons, ← intercalate_lineBreak, exportCsv, declared, ← List.map_cons, List.map_map]
    rfl
  exact ⟨_, _, xml, csv, readsBack_iff rfl, generated.addsUp_iff⟩

namespace Sample

def two : Sources where
  supplierInvoices := april.supplierInvoices.save
    { goods with id := 8, totalCents := 150, partnerCountry := some "FR", partnerVatNumber := some "FR40303265045" }

def generated : List Operation := [.createOrFindDraft 1 2 .acquisti 2026 4, .generate 1 2 none two 0]

def filed : IntrastatDeclaration where
  id := 2
  tenantId := 1
  type := .acquisti
  periodYear := 2026
  periodMonth := some 4
  status := .generated
  totalValueCents := 12350
  lineCount := 2
  generatedAt := some 0

end Sample

open Sample in
theorem exports_faithful_april :
    ∃ xml csv, exportXml (generated.foldl next ⟨∅, []⟩) 1 2 = .ok xml ∧
      exportCsv (generated.foldl next ⟨∅, []⟩) 1 2 = .ok csv ∧ AddsUp xml.body ∧
      ReadsBack .acquisti (linesInOrder (generated.foldl next ⟨∅, []⟩) 1 2) csv.body ∧
      (linesInOrder (generated.foldl next ⟨∅, []⟩) 1 2).map (fun l => (l.partnerCountry, l.valueCents)) =
        [("DE", 12200), ("FR", 150)] := by
  have mem : filed ∈ (generated.foldl next ⟨∅, []⟩).declarations.rows := by decide +kernel
  obtain ⟨xml, csv, okXml, okCsv, reads, adds⟩ := exports_faithful mem (.inl ⟨⟨generated, rfl⟩, by decide⟩)
  have values : (linesInOrder (generated.foldl next ⟨∅, []⟩) 1 2).map (·.valueCents) = [12200, 150] := by decide +kernel
  have plain : ∀ l ∈ linesInOrder (generated.foldl next ⟨∅, []⟩) 1 2, Plain .acquisti l := by decide +kernel
  have safe : ((((linesInOrder (generated.foldl next ⟨∅, []⟩) 1 2).map (·.valueCents)).map (|·|)).sum) < 2 ^ 53 := by
    rw [values]
    decide
  have alike : RoundsAlike [12200, 150] := by decide
  exact ⟨xml, csv, okXml, okCsv, (adds safe).mpr (values ▸ alike), reads.mpr plain, by decide +kernel⟩

namespace Sample

def halves : Sources where
  supplierInvoices := ((∅ : Table SupplierInvoice.id).save { goods with totalCents := 50 }).save
    { goods with id := 8, totalCents := 50, partnerVatNumber := some "DE1;DE2" }

def exported : List Operation := [.createOrFindDraft 1 2 .acquisti 2026 4, .generate 1 2 none halves 0]

end Sample

open Sample in
/-- Two halves are a euro each and one euro together, and one supplier's number makes a field too many. -/
theorem halves_misread :
    let db : Db := exported.foldl next ⟨∅, []⟩
    db.declarations.rows.map (·.status) = [.generated] ∧
      ∃ xml csv, exportXml db 1 2 = .ok xml ∧ exportCsv db 1 2 = .ok csv ∧
        stated "totaleEuro" xml.body = some 1 ∧ amounts xml.body = [some 1, some 1] ∧
        (splitLines csv.body).map (fun record => (record.splitOn ';').length) = [12, 12, 13, 1] ∧
        ¬ AddsUp xml.body ∧ ¬ ReadsBack .acquisti (linesInOrder db 1 2) csv.body := by
  dsimp only
  have xmlRead : (exportXml (exported.foldl next ⟨∅, []⟩) 1 2).map (fun e => (stated "totaleEuro" e.body, amounts e.body)) =
      .ok (some 1, [some 1, some 1]) := by
    decide +kernel
  have csvRead : (exportCsv (exported.foldl next ⟨∅, []⟩) 1 2).map
      (fun e => (splitLines e.body).map fun record => (record.splitOn ';').length) = .ok [12, 12, 13, 1] := by
    decide +kernel
  obtain ⟨xml, okXml, read⟩ := map_eq_ok.mp xmlRead
  obtain ⟨total, each⟩ := Prod.mk.inj read
  obtain ⟨csv, okCsv, counts⟩ := map_eq_ok.mp csvRead
  refine ⟨by decide +kernel, xml, csv, okXml, okCsv, total, each, counts, fun adds => ?_, fun reads => ?_⟩
  · obtain ⟨euros, same, sum⟩ := adds.totaleEuro
    have ones : euros = [1, 1] := by
      rw [each] at same
      have same : [1, 1].map some = euros.map some := same
      exact (List.map_injective_iff.mpr (Option.some_injective ℚ) same).symm
    rw [total, ones] at sum
    exact absurd (Option.some_inj.mp sum) (by norm_num)
  · obtain ⟨header, records, split, -, lengths, -⟩ := reads
    rw [split, List.cons_append, List.map_cons, List.map_append] at counts
    obtain ⟨first, rest⟩ := List.cons.inj counts
    have rest : records.map (fun record => (record.splitOn ';').length) ++ [1] = [12, 13] ++ [1] := rest
    have others := List.append_cancel_right rest
    obtain ⟨record, mem, long⟩ := List.mem_map.mp (others ▸ List.mem_cons_of_mem 12 List.mem_cons_self)
    have same := lengths record mem
    rw [long, first] at same
    cases same

end SmartErp.Intrastat
