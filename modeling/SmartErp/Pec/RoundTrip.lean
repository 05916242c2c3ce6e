import SmartErp.Accounting.Posting
import SmartErp.Pec.Printed

/-!
# From the builder to the parser

What the parser of inbound invoices gives back of a document of the builder.
-/

namespace SmartErp.Pec.Outbound
open Foundations Foundations.Markup
open Accounting
open Accounting.FatturaPaAdapter (FatturaPaBuildInput FatturaPaBuildOutput OrderReference DatiRiepilogo
  RiepilogoItem esc money formatDate)

attribute [local irreducible] esc money formatDate

/-! ## What is returned -/

def cents : JsNumber → ℤ
  | .finite q => roundHalfAway (q * 100)
  | .nan | .infinity _ => 0

/-- The doubles are close enough to each other that the printed cents can be read back. -/
def Printable (n : JsNumber) : Prop := |cents n| < 2 ^ 50

def wholeRate (q : ℚ) : JsNumber := .finite (units (roundHalfAway (q * 100)))

def returnedLine (line : InvoiceLine) : ParsedFatturaPaLine where
  description := text line.description
  quantity := money (.finite line.quantity)
  unitOfMeasure := "pz"
  unitCostCents := .finite (cents (.finite line.unitPrice))
  lineTotalCents := .finite (cents (.finite line.lineTotal))
  taxRate := wholeRate line.ivaRate
  naturaCode := truthy ((truthy line.ivaNature).map text)

def returnedItem (lines : List InvoiceLine) (item : RiepilogoItem) : ParsedFatturaPaIvaBreakdownItem where
  rate := wholeRate (FatturaPaAdapter.extractRate lines item)
  taxableCents := .finite (cents item.imponibile)
  taxCents := .finite (cents item.imposta)
  naturaCode := (truthy item.natura).map text

def blocks (invoice : Invoice) : List RiepilogoItem := (FatturaPaAdapter.riepilogo invoice.lines).map (·.2)

def returned (input : FatturaPaBuildInput) (cedenteVat customerVat : String) : ParsedFatturaPa where
  invoiceNumber := text input.invoice.number
  invoiceDate := formatDate input.invoice.invoiceDate
  supplierVatNumber := text cedenteVat
  supplierName := text input.tenant.name
  customerVatNumber := text customerVat
  documentType := input.invoice.documentType.text
  subtotalCents := (input.invoice.lines.map fun l => JsNumber.finite (cents (.finite l.lineTotal))).foldl
    JsNumber.plus (.finite 0)
  taxCents := ((blocks input.invoice).map fun item => JsNumber.finite (cents item.imposta)).foldl JsNumber.plus (.finite 0)
  totalCents := .finite input.invoice.totalAmount.units
  currency := "EUR"
  ivaBreakdown := (blocks input.invoice).map (returnedItem input.invoice.lines)
  lines := input.invoice.lines.map returnedLine
  paymentDueDate := some (formatDate input.invoice.invoiceDate)

structure Readable (invoice : Invoice) : Prop where
  lines : ∀ l ∈ invoice.lines, Printable (.finite l.unitPrice) ∧ Printable (.finite l.lineTotal) ∧
    Printable (.finite l.ivaRate)
  blocks : ∀ item ∈ blocks invoice, Printable item.imponibile ∧ Printable item.imposta

/-! ## Numbers -/

theorem small_of_printable {q : ℚ} (printable : Printable (.finite q)) : |q| < 10 ^ 21 := by
  have bound : |roundHalfAway (q * 100)| < 2 ^ 50 := printable
  rw [abs_lt] at bound
  by_contra large
  rcases le_abs.mp (not_lt.mp large) with above | below
  · have mono : roundHalfAway ((10 ^ 23 : ℤ) : ℚ) ≤ roundHalfAway (q * 100) := roundHalfAway_mono (by push_cast; linarith)
    rw [roundHalfAway_intCast] at mono
    omega
  · have mono : roundHalfAway (q * 100) ≤ roundHalfAway ((-10 ^ 23 : ℤ) : ℚ) := roundHalfAway_mono (by push_cast; linarith)
    rw [roundHalfAway_intCast] at mono
    omega

theorem toScale_two (q : ℚ) : toScale 2 q = (roundHalfAway (q * 100) : ℚ) / 100 := by
  rw [toScale]
  norm_num

theorem parseNumber_money {q : ℚ} (printable : Printable (.finite q)) :
    parseNumber (money (.finite q)) = (JsNumber.finite ((roundHalfAway (q * 100) : ℚ) / 100)).double := by
  unfold money
  rw [JsNumber.toFixed, if_pos (small_of_printable printable), parseNumber_toFixed, toScale_two]

theorem toCents_money {n : JsNumber} (printable : Printable n) : toCents (money n).toList = .finite (cents n) := by
  rw [toCents, (sound_money n).stripCdata, String.ofList_toList]
  cases n with
  | nan =>
      unfold money
      decide +kernel
  | infinity negative =>
      unfold money
      cases negative <;> decide +kernel
  | finite q =>
      have fits : |(roundHalfAway (q * 100) : ℚ) / 100| ≤ 2 ^ 64 := by
        have bound : |(roundHalfAway (q * 100) : ℚ)| < 2 ^ 50 := by
          rw [← Int.cast_abs]
          exact_mod_cast printable
        rw [abs_div, div_le_iff₀ (by norm_num)]
        norm_num at bound ⊢
        linarith
      have printed := JsNumber.round_times_hundred (show |roundHalfAway (q * 100)| < 2 ^ 50 from printable)
      rw [JsNumber.double_of_le fits] at printed
      rw [parseNumber_money printable, JsNumber.double_of_le fits]
      exact printed

theorem money_ne_nil {q : ℚ} (printable : Printable (.finite q)) : (money (.finite q)).toList ≠ [] := by
  obtain ⟨c, cs, spelled, -⟩ := toList_fixedText_digits (decide (q < 0)) (roundHalfAway (q * 10 ^ 2)).natAbs 2
  unfold money
  rw [JsNumber.toFixed, if_pos (small_of_printable printable), Foundations.toFixed, spelled]
  exact List.append_ne_nil_of_right_ne_nil _ (List.cons_ne_nil c cs)

theorem roundedRate_money {q : ℚ} (printable : Printable (.finite q)) :
    roundedRate (some (money (.finite q)).toList) = wholeRate q := by
  have given : ¬ Absent (some (money (.finite q)).toList) := money_ne_nil printable
  have small : |roundHalfAway (q * 100)| < 2 ^ 53 := lt_trans printable (by norm_num)
  have rounded := JsNumber.round_hundredths small
  rw [JsNumber.double_safe small, JsNumber.dividedBy, JsNumber.div_finite _ (by norm_num)] at rounded
  rw [roundedRate, ifGiven_of_not_absent given, Option.getD_some, String.ofList_toList, parseNumber_money printable]
  exact rounded

theorem cents_column (x : Numeric 12 2) : cents (.finite x.val) = x.units := by
  have hundredths : x.val * 100 = x.units := by
    rw [Numeric.val]
    norm_num
  rw [cents, hundredths, roundHalfAway_intCast]

theorem printable_column (x : Numeric 12 2) : Printable (.finite x.val) := by
  have fits := x.fits
  rw [Printable, cents_column, Int.abs_eq_natAbs]
  omega

/-! ## Fields of the document -/

section
variable {names apart differ : List String} {tag : String}

theorem textOf_leaf {indent : ℕ} {name s : String} {listed : names.contains name = true} (ps : List (Part names apart differ)) :
    textOf (leaf indent name s listed ++ ps) tag = if name = tag then some (trim s.toList) else textOf ps tag := by
  rw [textOf, field_leaf]
  split_ifs <;> rfl

theorem textOf_leafIf {indent : ℕ} {name : String} {value : Option String} {listed : names.contains name = true}
    (ps : List (Part names apart differ)) : textOf (leafIf indent name value listed ++ ps) tag =
      if name = tag then ((truthy value).map fun s => (text s).toList).or (textOf ps tag) else textOf ps tag := by
  rw [textOf, field_leafIf]
  split_ifs with here
  · cases truthy value with
    | none => rfl
    | some s => exact congrArg some (trim_esc s)
  · rfl

theorem textOf_parts (bs : List (Beside (names ++ apart) differ)) (ps : List (Part names apart differ)) :
    textOf (parts bs ++ ps) tag = textOf ps tag := by
  rw [textOf, field_parts]
  rfl

theorem textOf_space (indent : ℕ) : textOf [(.other (space indent) : Part names apart differ)] tag = none := rfl

theorem textOf_fiscale (country vat : String) (ps : List (Part partyNames looked stray)) :
    textOf (fiscaleParts country vat ++ ps) tag =
      if "IdCodice" = tag then some (text vat).toList else textOf ps tag := by
  unfold fiscaleParts
  simp only [List.append_assoc, textOf_parts, textOf_leaf, trim_esc]

theorem textOf_denominazione (name : String) (ps : List (Part partyNames looked stray)) :
    textOf (denominazioneParts name ++ ps) tag =
      if "Denominazione" = tag then some (text name).toList else textOf ps tag := by
  unfold denominazioneParts
  simp only [List.append_assoc, textOf_parts, textOf_leaf, trim_esc]

theorem textOf_sede {address postalCode city province : Option String} {country : String}
    (ok : ∀ name ∈ ["Sede", "Indirizzo", "CAP", "Comune", "Provincia", "Nazione"], Stays (names ++ apart) differ name) :
    textOf (sedeParts address postalCode city province country ok) tag = none := by
  unfold sedeParts
  simp only [List.append_assoc, textOf_parts, textOf_space]

end

/-! ## The header -/

section
variable (input : FatturaPaBuildInput) (cedenteVat progressive : String)

def heading : List Line :=
  [.start 2 "FatturaElettronicaHeader"] ++ Outbound.trasmissione input cedenteVat progressive ++
  given 6 "PECDestinatario" input.customer.pecEmail ++ [.finish 4 "DatiTrasmissione"] ++
  cedente cedenteVat input.tenant ++ cessionario input.customer ++
  [.finish 2 "FatturaElettronicaHeader", .start 2 "FatturaElettronicaBody", .start 4 "DatiGenerali"]

theorem document_header : (document input cedenteVat progressive).header =
    Pec.pieces (opening input) ++ (flat (heading input cedenteVat progressive) ++ [gap 6]) := by
  simp only [Document.header, Document.parties, document, heading, pieces_append, pieces_besides, pieces_besidesIf,
    pieces_space, flat_append, flat_cons, flat_nil, ← cedente_pieces, ← cessionario_pieces, List.append_assoc,
    List.nil_append, List.cons_append]

def headingNames : List String :=
  ["FatturaElettronicaHeader", "DatiTrasmissione", "IdTrasmittente", "IdPaese", "IdCodice", "ProgressivoInvio",
    "FormatoTrasmissione", "CodiceDestinatario", "PECDestinatario", "CedentePrestatore", "DatiAnagrafici",
    "IdFiscaleIVA", "CodiceFiscale", "Anagrafica", "Denominazione", "RegimeFiscale", "Sede", "Indirizzo", "CAP",
    "Comune", "Provincia", "Nazione", "CessionarioCommittente", "FatturaElettronicaBody", "DatiGenerali"]

theorem forall_given {indent : ℕ} {name : String} {value : Option String} {p : Line → Prop} :
    (∀ l ∈ given indent name value, p l) ↔ ∀ s ∈ truthy value, p (.text indent name (esc s)) := by
  cases found : truthy value <;> simp [given, found]

theorem heading_names : ∀ l ∈ heading input cedenteVat progressive, l.name ∈ headingNames := by
  have text (indent : ℕ) (name s : String) : (Line.text indent name s).name = name := rfl
  have codes : ∀ l ∈ (truthy input.customer.vatNumber).toList.flatMap (fiscale (input.customer.country.getD "IT")),
      l.name ∈ headingNames := by
    intro l mem
    obtain ⟨vat, -, inside⟩ := List.mem_flatMap.mp mem
    simp only [fiscale, List.mem_cons, List.not_mem_nil, or_false] at inside
    rcases inside with rfl | rfl | rfl | rfl
    case inl | inr.inr.inr => decide
    · exact show "IdPaese" ∈ headingNames by decide
    · exact show "IdCodice" ∈ headingNames by decide
  simp +decide only [heading, Outbound.trasmissione, cedente, cessionario, fiscale, denominazione, Outbound.sede, nazione,
    List.forall_mem_append, List.forall_mem_cons, forall_given, text, implies_true, and_true, true_and]
  exact codes

theorem header_unopened {tag : String} (listed : tag ∈ stray) :
    Unopened tag (document input cedenteVat progressive).header := by
  have other : ∀ tag ∈ stray, ∀ name ∈ "FatturaElettronica" :: headingNames, tag.toList.isPrefixOf name.toList = false := by
    decide
  intro p mem
  rw [document_header] at mem
  simp only [opening, Pec.pieces, List.map_cons, List.map_nil, List.mem_append, List.mem_cons, List.not_mem_nil,
    or_false] at mem
  rcases mem with (rfl | rfl | rfl) | mem | rfl
  · rfl
  · rfl
  · exact other tag listed _ List.mem_cons_self
  · cases p with
    | text | closing => rfl
    | opening m n =>
        obtain ⟨l, inside, rfl⟩ := List.mem_map.mp (name_of_mem mem n rfl)
        exact other tag listed l.name (List.mem_cons_of_mem _ (heading_names input cedenteVat progressive l inside))
  · rfl

end

/-! ## Fields of the invoice -/

section
variable (invoice : Invoice) {tag : String}

theorem textOf_generali : textOf (generaliBlock invoice).parts tag =
    if "TipoDocumento" = tag then some (text invoice.documentType.text).toList
    else if "Divisa" = tag then some "EUR".toList
    else if "Data" = tag then some (formatDate invoice.invoiceDate).toList
    else if "Numero" = tag then some (text invoice.number).toList
    else if "ImportoTotaleDocumento" = tag then some (money (.finite invoice.totalAmount.val)).toList
    else none := by
  have currency : trim "EUR".toList = "EUR".toList := by decide
  unfold generaliBlock
  simp only [List.append_assoc, textOf_leaf, textOf_parts, textOf_space, trim_esc, currency,
    (sound_formatDate _).trim, (sound_money _).trim]

theorem text_documentType : text invoice.documentType.text = invoice.documentType.text := by
  cases invoice.documentType <;> decide

theorem textOf_dettaglio (idx : ℕ) (line : InvoiceLine) : textOf (dettaglioBlock idx line).parts tag =
    if "Descrizione" = tag then some (text line.description).toList
    else if "Quantita" = tag then some (money (.finite line.quantity)).toList
    else if "PrezzoUnitario" = tag then some (money (.finite line.unitPrice)).toList
    else if "PrezzoTotale" = tag then some (money (.finite line.lineTotal)).toList
    else if "AliquotaIVA" = tag then some (money (.finite line.ivaRate)).toList
    else if "Natura" = tag then (truthy line.ivaNature).map fun s => (text s).toList
    else none := by
  unfold dettaglioBlock
  simp only [List.append_assoc, textOf_leaf, textOf_leafIf, textOf_parts, textOf_space, trim_esc, (sound_money _).trim,
    Option.or_none]

theorem truthy_truthy (s : Option String) : truthy (truthy s) = truthy s := by
  simp [truthy]

theorem textOf_riepilogo (customer : Customer) (item : RiepilogoItem) :
    textOf (riepilogoBlock customer (FatturaPaAdapter.datiRiepilogo invoice.lines item)).parts tag =
      if "AliquotaIVA" = tag then some (money (.finite (FatturaPaAdapter.extractRate invoice.lines item))).toList
      else if "Natura" = tag then (truthy item.natura).map fun s => (text s).toList
      else if "ImponibileImporto" = tag then some (money item.imponibile).toList
      else if "Imposta" = tag then some (money item.imposta).toList
      else none := by
  unfold riepilogoBlock FatturaPaAdapter.datiRiepilogo
  simp only [List.append_assoc, textOf_leaf, textOf_leafIf, textOf_parts, textOf_space, (sound_money _).trim,
    truthy_truthy]
  by_cases natura : "Natura" = tag
  · subst natura
    simp
  · simp only [natura, if_false]

theorem textOf_pagamento : textOf (pagamentoBlock invoice).parts tag =
    if "DataScadenzaPagamento" = tag then some (formatDate invoice.invoiceDate).toList else none := by
  unfold pagamentoBlock
  simp only [List.append_assoc, textOf_leaf, textOf_parts, textOf_space, (sound_formatDate _).trim]

theorem given_text (s : String) : ifGiven (some (text s).toList) (fun cs => some (String.ofList (stripCdata cs))) none =
    truthy (some (text s)) := by
  rw [ifGiven, truthy, Option.filter_some, Option.filter_some]
  by_cases empty : text s = ""
  · simp [empty]
  · have given : (text s).toList ≠ [] := by simpa using empty
    rw [if_pos (decide_eq_true given), if_pos (decide_eq_true empty), Option.elim_some, stripCdata_text,
      String.ofList_toList]

theorem parsedLine_dettaglio (idx : ℕ) {line : InvoiceLine} (price : Printable (.finite line.unitPrice))
    (total : Printable (.finite line.lineTotal)) (rate : Printable (.finite line.ivaRate)) :
    parsedLine (textOf (dettaglioBlock idx line).parts) = returnedLine line := by
  have unit : stripCdata ['p', 'z'] = ['p', 'z'] := by decide
  have nature : ifGiven ((truthy line.ivaNature).map fun s => (text s).toList)
      (fun cs => some (String.ofList (stripCdata cs))) none = truthy ((truthy line.ivaNature).map text) := by
    cases truthy line.ivaNature with
    | none => rfl
    | some s => exact given_text s
  unfold parsedLine returnedLine
  simp only [textOf_dettaglio, reduceIte, String.reduceEq, Option.getD_some, Option.getD_none, stripCdata_text,
    (sound_money _).stripCdata, String.ofList_toList, toCents_money price, toCents_money total, roundedRate_money rate,
    unit, nature]

theorem ifGiven_toCents (cs : List Char) : ifGiven (some cs) toCents (.finite 0) = toCents cs := by
  by_cases empty : cs = []
  · rw [empty]
    decide +kernel
  · exact ifGiven_of_not_absent (s := some cs) empty toCents (.finite 0)

theorem ivaBreakdownItem_riepilogo (customer : Customer) {item : RiepilogoItem} (taxable : Printable item.imponibile)
    (tax : Printable item.imposta) (rate : Printable (.finite (FatturaPaAdapter.extractRate invoice.lines item))) :
    ivaBreakdownItem (textOf (riepilogoBlock customer (FatturaPaAdapter.datiRiepilogo invoice.lines item)).parts) =
      returnedItem invoice.lines item := by
  unfold ivaBreakdownItem returnedItem
  simp only [textOf_riepilogo, reduceIte, String.reduceEq, roundedRate_money rate, ifGiven_toCents,
    toCents_money taxable, toCents_money tax, Option.map_map, Function.comp_def, String.ofList_toList]

end

/-! ## The whole invoice -/

section
variable {input : FatturaPaBuildInput} {cedenteVat progressive : String}

theorem items_filterMap {α : Type} (pick : Item → Option α) (skips : ∀ p, pick (.other p) = none) :
    (items input).filterMap pick =
      (input.invoice.lines.zipIdx.flatMap fun entry => (pick (.line (dettaglioBlock entry.2 entry.1))).toList) ++
      ((summaries input.invoice).flatMap fun dati => (pick (.summary (riepilogoBlock input.customer dati))).toList) ++
      (pick (.payment (pagamentoBlock input.invoice))).toList := by
  have others (bs : List (Beside looked [])) : (bs.map Item.other).filterMap pick = [] := by
    rw [List.filterMap_map, List.filterMap_eq_nil_iff]
    exact fun p _ => skips p
  have pair (i : Item) : [Item.other (space 6), i].filterMap pick = (pick i).toList := by
    rw [List.filterMap_cons_none (skips _)]
    cases found : pick i with
    | none => rw [List.filterMap_cons_none found]; rfl
    | some a => rw [List.filterMap_cons_some found]; rfl
  simp only [items, List.mapIdx_eq_zipIdx_map, ← List.flatMap_def, List.filterMap_append, others, List.nil_append,
    List.filterMap_flatMap, pair, List.append_nil]

theorem flatMap_empty {α β : Type} (l : List α) : (l.flatMap fun _ => ([] : List β)) = [] := by simp

theorem items_lines : (items input).filterMap Item.line? = input.invoice.lines.mapIdx dettaglioBlock := by
  rw [items_filterMap _ fun _ => rfl, List.mapIdx_eq_zipIdx_map, List.map_eq_flatMap]
  simp only [Item.line?, Option.toList_some, Option.toList_none, flatMap_empty, List.append_nil]

theorem items_summaries : (items input).filterMap Item.summary? =
    (summaries input.invoice).map (riepilogoBlock input.customer) := by
  rw [items_filterMap _ fun _ => rfl, List.map_eq_flatMap]
  simp only [Item.summary?, Option.toList_some, Option.toList_none, flatMap_empty, List.append_nil, List.nil_append]

theorem items_payments : (items input).filterMap Item.payment? = [pagamentoBlock input.invoice] := by
  rw [items_filterMap _ fun _ => rfl]
  simp only [Item.payment?, Option.toList_some, Option.toList_none, flatMap_empty, List.nil_append]

theorem cedente_fields {tag : String} (listed : tag ∈ partyNames) :
    textOf (cedenteParty cedenteVat input.tenant).anagrafici tag =
      if "IdCodice" = tag then some (text cedenteVat).toList else some (text input.tenant.name).toList := by
  unfold cedenteParty
  simp only [List.append_assoc, textOf_parts, textOf_fiscale, textOf_denominazione]
  split_ifs with code name
  · rfl
  · rfl
  · simp only [partyNames, List.mem_cons, List.not_mem_nil, or_false] at listed
    rcases listed with rfl | rfl <;> contradiction

theorem customer_eq : (document input cedenteVat progressive).customer =
    (truthy input.customer.vatNumber).map fun s => (text s).toList := by
  have own : textOf (cessionarioParty input.customer).anagrafici "IdCodice" =
      (truthy input.customer.vatNumber).map fun s => (text s).toList := by
    unfold cessionarioParty
    cases truthy input.customer.vatNumber with
    | none =>
        simp only [List.append_assoc, textOf_parts, textOf_denominazione, Option.toList_none, List.flatMap_nil,
          List.nil_append, String.reduceEq, if_false]
        rfl
    | some vat => simp only [List.append_assoc, textOf_parts, textOf_fiscale, Option.toList_some,
        List.flatMap_singleton, if_true, Option.map_some]
  have rest : textOf (cessionarioParty input.customer).rest "IdCodice" = none := by
    unfold cessionarioParty
    exact textOf_sede (by decide)
  rw [Document.customer, document, own, rest, Option.or_none]

theorem found_lines (readable : Readable input.invoice) :
    (document input cedenteVat progressive).found.lines = input.invoice.lines.map returnedLine := by
  change ([(document input cedenteVat progressive).body].flatMap (·.lines)).map _ = _
  rw [List.flatMap_singleton, Body.lines, document, items_lines, List.mapIdx_eq_zipIdx_map, List.map_map]
  conv_rhs => rw [← List.zipIdx_map_fst 0 input.invoice.lines, List.map_map]
  refine List.map_congr_left fun entry mem => ?_
  obtain ⟨price, total, rate⟩ := readable.lines entry.1 (List.fst_mem_of_mem_zipIdx mem)
  exact parsedLine_dettaglio entry.2 price total rate

theorem printable_rate (readable : Readable input.invoice) (item : RiepilogoItem) :
    Printable (.finite (FatturaPaAdapter.extractRate input.invoice.lines item)) := by
  unfold FatturaPaAdapter.extractRate
  cases found : input.invoice.lines.find? _ with
  | none => norm_num [Printable, cents, roundHalfAway]
  | some l => exact (readable.lines l (List.mem_of_find?_eq_some found)).2.2

theorem found_breakdown (readable : Readable input.invoice) :
    (document input cedenteVat progressive).found.ivaBreakdown =
      (blocks input.invoice).map (returnedItem input.invoice.lines) := by
  change ([(document input cedenteVat progressive).body].flatMap (·.summaries)).map _ = _
  rw [List.flatMap_singleton, Body.summaries, document, items_summaries, List.map_map, summaries, blocks, List.map_map,
    List.map_map]
  refine List.map_congr_left fun block mem => ?_
  obtain ⟨taxable, tax⟩ := readable.blocks block.2 (List.mem_map_of_mem mem)
  exact ivaBreakdownItem_riepilogo _ _ taxable tax (printable_rate readable _)

theorem total_eq : (document input cedenteVat progressive).total =
    some (money (.finite input.invoice.totalAmount.val)).toList := by
  change [(document input cedenteVat progressive).body].findSome? _ = _
  rw [List.findSome?_singleton, document, textOf_generali]
  simp only [String.reduceEq, if_false, if_true]

theorem dueDate_eq : (document input cedenteVat progressive).dueDate =
    some (formatDate input.invoice.invoiceDate).toList := by
  change ([(document input cedenteVat progressive).body].flatMap (·.payments)).head?.bind _ = _
  rw [List.flatMap_singleton, Body.payments, document, items_payments, List.head?_cons, Option.bind_some,
    textOf_pagamento, if_pos rfl]

theorem document_seen (readable : Readable input.invoice) : (document input cedenteVat progressive).seen = {
    invoiceNumber := some (text input.invoice.number).toList
    invoiceDate := some (formatDate input.invoice.invoiceDate).toList
    documentType := some input.invoice.documentType.text.toList
    currency := some "EUR".toList
    supplierVatNumber := some (text cedenteVat).toList
    supplierName := some (text input.tenant.name).toList
    customerVatNumber := (truthy input.customer.vatNumber).map fun s => (text s).toList
    ivaBreakdown := (blocks input.invoice).map (returnedItem input.invoice.lines)
    lines := input.invoice.lines.map returnedLine
    total := some (money (.finite input.invoice.totalAmount.val)).toList
    paymentDueDate := some (formatDate input.invoice.invoiceDate).toList } := by
  have general (tag : String) : textOf (document input cedenteVat progressive).body.general.parts tag =
      textOf (generaliBlock input.invoice).parts tag := rfl
  have supplier (tag : String) : textOf (document input cedenteVat progressive).cedente.anagrafici tag =
      textOf (cedenteParty cedenteVat input.tenant).anagrafici tag := rfl
  have unopened : ∀ tag ∈ stray, ((document input cedenteVat progressive).read tag).map trim = _ :=
    fun tag listed => Document.read_of_unopened (header_unopened input cedenteVat progressive listed)
  rw [Document.seen, unopened "Numero" (by decide), unopened "Data" (by decide), customer_eq, total_eq, dueDate_eq,
    ← found_breakdown readable, ← found_lines readable]
  unfold Document.found
  rw [general, general, general, general, supplier, supplier, cedente_fields (by decide), cedente_fields (by decide)]
  simp only [textOf_generali, text_documentType, String.reduceEq, if_true, if_false]

theorem parsed_eq (readable : Readable input.invoice) (customerVat : String) :
    (document input cedenteVat progressive).seen.parsed (text input.invoice.number).toList
        (formatDate input.invoice.invoiceDate).toList (text cedenteVat).toList (text customerVat).toList =
      returned input cedenteVat customerVat := by
  have total := printable_column input.invoice.totalAmount
  have name : ifGiven (some (text input.tenant.name).toList) (fun cs => String.ofList (stripCdata cs)) "" =
      text input.tenant.name := by
    by_cases empty : text input.tenant.name = ""
    · rw [empty]
      rfl
    · have given : ¬ Absent (some (text input.tenant.name).toList) := fun absent => empty (by simpa [Absent] using absent)
      rw [ifGiven_of_not_absent given, Option.getD_some, stripCdata_text, String.ofList_toList]
  rw [document_seen readable]
  unfold Found.parsed Found.subtotalCents Found.taxCents Found.totalCents returned
  rw [ifGiven_of_not_absent (s := some (money (.finite input.invoice.totalAmount.val)).toList) (money_ne_nil total)]
  simp only [stripCdata_text, String.ofList_toList, name, Option.getD_some, take_formatDate, Option.map_some,
    List.map_map, Function.comp_def, returnedLine, returnedItem, toCents_money total, cents_column]

theorem complete_iff (readable : Readable input.invoice) :
    (document input cedenteVat progressive).seen.Complete ↔
      ∃ customerVat, truthy input.customer.vatNumber = some customerVat ∧
        ∀ s ∈ [input.invoice.number, cedenteVat, customerVat], trim s.toList ≠ [] := by
  have date : (formatDate input.invoice.invoiceDate).toList ≠ [] := by
    rw [toList_formatDate]
    simp
  have blank (s : String) : ¬ Absent (some (text s).toList) ↔ trim s.toList ≠ [] := not_congr (text_eq_empty s)
  rw [document_seen readable]
  simp only [List.forall_mem_cons, List.not_mem_nil, false_implies, implies_true, and_true]
  constructor
  · intro complete
    have customer := complete.customerVatNumber
    cases found : truthy input.customer.vatNumber with
    | none => exact absurd (by rw [found]; rfl) customer
    | some customerVat =>
        rw [found] at customer
        exact ⟨customerVat, rfl, (blank _).mp complete.invoiceNumber, (blank _).mp complete.supplierVatNumber,
          (blank _).mp customer⟩
  · rintro ⟨customerVat, found, number, supplier, customer⟩
    refine ⟨(blank _).mpr number, date, (blank _).mpr supplier, ?_⟩
    rw [found]
    exact (blank _).mpr customer

/-- Mandatory are the number and both VAT numbers; the date is always there. -/
theorem parse_document (readable : Readable input.invoice) {p : ParsedFatturaPa} :
    parseFatturaPa (document input cedenteVat progressive).xml = .ok p ↔
      ∃ customerVat, truthy input.customer.vatNumber = some customerVat ∧
        (∀ s ∈ [input.invoice.number, cedenteVat, customerVat], trim s.toList ≠ []) ∧
        p = returned input cedenteVat customerVat := by
  have parsed {customerVat : String} (found : truthy input.customer.vatNumber = some customerVat) :
      (document input cedenteVat progressive).seen.parsed
        ((document input cedenteVat progressive).seen.invoiceNumber.getD [])
        ((document input cedenteVat progressive).seen.invoiceDate.getD [])
        ((document input cedenteVat progressive).seen.supplierVatNumber.getD [])
        ((document input cedenteVat progressive).seen.customerVatNumber.getD []) =
      returned input cedenteVat customerVat := by
    rw [← @parsed_eq input cedenteVat progressive readable]
    simp only [document_seen readable, found, Option.getD_some, Option.map_some]
  rw [Document.parse_xml (document_plain input cedenteVat progressive), invoice_eq_ok, complete_iff readable]
  constructor
  · rintro ⟨⟨customerVat, found, given⟩, eq⟩
    exact ⟨customerVat, found, given, eq.trans (parsed found)⟩
  · rintro ⟨customerVat, found, given, rfl⟩
    exact ⟨⟨customerVat, found, given⟩, (parsed found).symm⟩

end

theorem build_xml {input : FatturaPaBuildInput} {out : FatturaPaBuildOutput}
    (built : FatturaPaAdapter.build input = .ok out) : ∃ cedenteVat progressive,
      truthy input.tenant.vatNumber = some cedenteVat ∧
      out.xml = "\n".intercalate (FatturaPaAdapter.lines input cedenteVat progressive) := by
  obtain ⟨cedenteVat, supplier, rest⟩ := bind_eq_ok.mp built
  obtain ⟨_, -, rest⟩ := bind_eq_ok.mp rest
  obtain ⟨_, -, rest⟩ := bind_eq_ok.mp rest
  rw [require_eq_ok] at supplier
  have out_eq := pure_eq_ok.mp rest
  subst out_eq
  refine ⟨cedenteVat, FatturaPaAdapter.encodeProgressive input.invoice.fiscalYear input.invoice.number, supplier, ?_⟩
  dsimp only

theorem parse_build {input : FatturaPaBuildInput} {out : FatturaPaBuildOutput}
    (built : FatturaPaAdapter.build input = .ok out) (readable : Readable input.invoice) (p : ParsedFatturaPa) :
    parseFatturaPa out.xml.toList = .ok p ↔
      ∃ cedenteVat customerVat, truthy input.tenant.vatNumber = some cedenteVat ∧
        truthy input.customer.vatNumber = some customerVat ∧
        (∀ s ∈ [input.invoice.number, cedenteVat, customerVat], trim s.toList ≠ []) ∧
        p = returned input cedenteVat customerVat := by
  obtain ⟨cedenteVat, progressive, supplier, xml⟩ := build_xml built
  rw [xml, ← document_xml, parse_document readable, supplier]
  simp only [Option.some_inj, exists_and_left, exists_eq_left']

def supply : FatturaPaBuildInput where
  tenant := ⟨some "01234567890", none, "Alfa & Figli Srl", none, none, none, none, none⟩
  customer := {
    id := 3, tenantId := 1, name := "Meccanica Scaligera SRL", customerType := .business
    vatNumber := some "09876543210", fiscalCode := none, sdiDestinationCode := none, pecEmail := none
    address := none, city := none, postalCode := none, province := none, country := none, splitPayment := false }
  invoice := Sample.draft
  salesOrder := none

theorem blocks_draft : blocks Sample.draft = [⟨.finite 100, .finite 22, none⟩] := by decide +kernel

theorem readable_draft : Readable Sample.draft where
  lines := by
    simp only [Sample.draft, List.forall_mem_singleton]
    norm_num [Printable, cents, roundHalfAway]
  blocks := by
    rw [blocks_draft, List.forall_mem_singleton]
    norm_num [Printable, cents, roundHalfAway]

theorem parse_build_supply : ∃ out, FatturaPaAdapter.build supply = .ok out ∧
    parseFatturaPa out.xml.toList = .ok (returned supply "01234567890" "09876543210") := by
  obtain ⟨out, built⟩ : ∃ out, FatturaPaAdapter.build supply = .ok out := by
    refine ⟨_, bind_eq_ok.mpr ⟨"01234567890", require_eq_ok.mpr rfl, bind_eq_ok.mpr ⟨(), ensure_eq_ok.mpr ?_,
      bind_eq_ok.mpr ⟨(), ensure_eq_ok.mpr ?_, pure_eq_ok.mpr rfl⟩⟩⟩⟩
    · exact List.cons_ne_nil _ _
    · exact .inl (by decide)
  refine ⟨out, built, (parse_build built readable_draft _).mpr ⟨_, _, rfl, rfl, ?_, rfl⟩⟩
  decide

end SmartErp.Pec.Outbound
