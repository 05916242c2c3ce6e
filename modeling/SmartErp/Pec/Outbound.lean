import SmartErp.Accounting.FatturaPa
import SmartErp.Pec.RightElement

/-!
# Outbound invoices as documents

The text that `fatturapa-adapter.ts` builds, as a document of the inbound parser: the same lines, with the
children that the parser looks for in their places.
-/

namespace SmartErp.Pec.Outbound
open Foundations Foundations.Pattern Foundations.Markup
open Accounting
open Accounting.FatturaPaAdapter (FatturaPaBuildInput FatturaPaBuildOutput OrderReference DatiRiepilogo esc money
  formatDate startLine endLine textLine textLineIf)

attribute [local irreducible] esc money formatDate

/-! ## Lines -/

inductive Line where
  | start (indent : ℕ) (name : String)
  | finish (indent : ℕ) (name : String)
  | text (indent : ℕ) (name written : String)

def gap (indent : ℕ) : Piece := .text ('\n' :: List.replicate indent ' ')

namespace Line

def name : Line → String
  | start _ name | finish _ name | text _ name _ => name

def string : Line → String
  | start indent name => startLine indent name
  | finish indent name => endLine indent name
  | text indent name written => textLine indent name written

def pieces : Line → List Piece
  | start indent name => [gap indent, .opening .bare name]
  | finish indent name => [gap indent, .closing .bare name]
  | text indent name written => [gap indent, .opening .bare name, .text written.toList, .closing .bare name]

def Clean : Line → Prop
  | start _ name | finish _ name => Word name
  | text _ name written => Word name ∧ '<' ∉ written.toList

theorem render_pieces (l : Line) : render l.pieces = '\n' :: l.string.toList := by
  cases l <;> simp [pieces, string, gap, render, Piece.render, Mark.bare, startLine, endLine, textLine,
    FatturaPaAdapter.indented]

theorem Clean.bare {l : Line} (clean : l.Clean) : ∀ p ∈ l.pieces, p.Bare := by
  have blank (n : ℕ) : (gap n).Bare := by simp [gap, Piece.Bare, List.mem_replicate]
  intro p mem
  cases l with
  | start n name =>
      rcases List.mem_cons.mp mem with rfl | mem
      · exact blank n
      · exact List.mem_singleton.mp mem ▸ ⟨rfl, clean⟩
  | finish n name =>
      rcases List.mem_cons.mp mem with rfl | mem
      · exact blank n
      · exact List.mem_singleton.mp mem ▸ ⟨rfl, clean⟩
  | text n name text =>
      simp only [pieces, List.mem_cons, List.not_mem_nil, or_false] at mem
      rcases mem with rfl | rfl | rfl | rfl
      · exact blank n
      · exact ⟨rfl, clean.1⟩
      · exact clean.2
      · exact ⟨rfl, clean.1⟩

end Line

def flat (ls : List Line) : List Piece := ls.flatMap Line.pieces

def given (indent : ℕ) (name : String) (value : Option String) : List Line :=
  (truthy value).toList.map fun text => .text indent name (esc text)

/-! ## Lines as parts -/

section
variable {names apart differ : List String} {name tag : String}

def Stays (apart differ : List String) (name : String) : Prop :=
  (∀ tag ∈ apart, ¬ tag.toList <+: name.toList) ∧ name ∉ differ

instance : Decidable (Stays apart differ name) := inferInstanceAs (Decidable (_ ∧ _))

def space (indent : ℕ) : Beside apart differ := ⟨gap indent, by simp [gap, Piece.name?], by simp [gap, Piece.name?]⟩

theorem name_of_mem {ls : List Line} {p : Piece} (mem : p ∈ flat ls) : ∀ n ∈ p.name?, n ∈ ls.map Line.name := by
  intro n here
  obtain ⟨l, listed, mem⟩ := List.mem_flatMap.mp mem
  refine List.mem_map.mpr ⟨l, listed, ?_⟩
  cases l <;> simp only [Line.pieces, List.mem_cons, List.not_mem_nil, or_false] at mem
  case start => rcases mem with rfl | rfl <;> simp_all [gap, Piece.name?, Line.name]
  case finish => rcases mem with rfl | rfl <;> simp_all [gap, Piece.name?, Line.name]
  case text => rcases mem with rfl | rfl | rfl | rfl <;> simp_all [gap, Piece.name?, Line.name]

def besides (ls : List Line) (stays : ∀ name ∈ ls.map Line.name, Stays apart differ name) :
    List (Beside apart differ) :=
  other (flat ls) fun _ mem => ⟨fun n here => (stays n (name_of_mem mem n here)).1,
    fun n here => (stays n (name_of_mem mem n here)).2⟩

def besidesIf (indent : ℕ) (name : String) (value : Option String) (stays : Stays apart differ name) :
    List (Beside apart differ) :=
  besides (given indent name value) fun _ mem => by
    simp only [given, List.map_map, List.mem_map, Function.comp_apply, Line.name] at mem
    obtain ⟨_, -, rfl⟩ := mem
    exact stays

theorem pieces_besides {ls : List Line} {stays : ∀ name ∈ ls.map Line.name, Stays apart differ name} :
    pieces (besides ls stays) = flat ls := by
  simp [besides, other, Pec.pieces, List.map_pmap]

theorem pieces_besidesIf {indent : ℕ} {value : Option String} {stays : Stays apart differ name} :
    pieces (besidesIf indent name value stays) = flat (given indent name value) := pieces_besides

def parts (bs : List (Beside (names ++ apart) differ)) : List (Part names apart differ) := bs.map .other

def leaf (indent : ℕ) (name : String) (text : String) (listed : names.contains name = true) :
    List (Part names apart differ) :=
  [.other (space indent), .leaf name (List.contains_iff_mem.mp listed) ⟨.bare, text.toList⟩]

def leafIf (indent : ℕ) (name : String) (value : Option String) (listed : names.contains name = true) :
    List (Part names apart differ) :=
  (truthy value).toList.flatMap fun text => leaf indent name (esc text) listed

theorem content_parts (bs : List (Beside (names ++ apart) differ)) :
    content (parts bs : List (Part names apart differ)) = Pec.pieces bs := by
  rw [content, parts, Pec.pieces, List.flatMap_map, List.map_eq_flatMap]
  rfl

theorem content_append (ps qs : List (Part names apart differ)) : content (ps ++ qs) = content ps ++ content qs :=
  List.flatMap_append

theorem content_leaf {indent : ℕ} {text : String} {listed : names.contains name = true} :
    content (leaf indent name text listed : List (Part names apart differ)) = (Line.text indent name text).pieces := rfl

theorem content_leafIf {indent : ℕ} {value : Option String} {listed : names.contains name = true} :
    content (leafIf indent name value listed : List (Part names apart differ)) = flat (given indent name value) := by
  unfold leafIf given
  cases truthy value with
  | none => rfl
  | some text => simp [flat, content_leaf]

theorem field_parts (bs : List (Beside (names ++ apart) differ)) (ps : List (Part names apart differ)) :
    field tag (parts bs ++ ps) = field tag ps := by
  induction bs with
  | nil => rfl
  | cons b bs ih => exact ih

theorem field_leaf {indent : ℕ} {text : String} {listed : names.contains name = true} (ps : List (Part names apart differ)) :
    field tag (leaf indent name text listed ++ ps) = if name = tag then some ⟨.bare, text.toList⟩ else field tag ps :=
  rfl

theorem field_leafIf {indent : ℕ} {value : Option String} {listed : names.contains name = true} (ps : List (Part names apart differ)) :
    field tag (leafIf indent name value listed ++ ps) =
      if name = tag then ((truthy value).map fun text => ⟨.bare, (esc text).toList⟩).or (field tag ps)
      else field tag ps := by
  unfold leafIf
  cases truthy value with
  | none => simp
  | some text =>
      rw [Option.toList_some, List.flatMap_singleton, field_leaf]
      split <;> simp

end

/-! ## The lines of the builder -/

section
variable (input : FatturaPaBuildInput) (cedenteVat progressive : String)

def trasmissione : List Line :=
  [.start 4 "DatiTrasmissione", .start 6 "IdTrasmittente", .text 8 "IdPaese" (esc "IT"), .text 8 "IdCodice" (esc cedenteVat),
    .finish 6 "IdTrasmittente", .text 6 "ProgressivoInvio" (esc progressive),
    .text 6 "FormatoTrasmissione" (esc (FatturaPaAdapter.formatoTrasmissione input)),
    .text 6 "CodiceDestinatario" (esc (FatturaPaAdapter.resolveDestinationCode input))]

def fiscale (country : String) (vat : String) : List Line :=
  [.start 8 "IdFiscaleIVA", .text 10 "IdPaese" (esc country), .text 10 "IdCodice" (esc vat), .finish 8 "IdFiscaleIVA"]

def denominazione (name : String) : List Line :=
  [.start 8 "Anagrafica", .text 10 "Denominazione" (esc name), .finish 8 "Anagrafica"]

def sede (address postalCode city : Option String) : List Line :=
  [.start 6 "Sede", .text 8 "Indirizzo" (esc (address.getD "N/D")), .text 8 "CAP" (esc (postalCode.getD "00000")),
    .text 8 "Comune" (esc (city.getD "N/D"))]

def nazione (country : String) : List Line := [.text 8 "Nazione" (esc country), .finish 6 "Sede"]

def cedente (tenant : FatturaPaAdapter.Tenant) : List Line :=
  .start 4 "CedentePrestatore" :: .start 6 "DatiAnagrafici" :: (fiscale "IT" cedenteVat ++
    given 8 "CodiceFiscale" tenant.fiscalCode ++ denominazione tenant.name ++
    [.text 8 "RegimeFiscale" "RF01", .finish 6 "DatiAnagrafici"] ++
    sede tenant.billingAddress tenant.billingPostalCode tenant.billingCity ++ given 8 "Provincia" tenant.billingProvince ++
    nazione (tenant.billingCountry.getD "IT") ++ [.finish 4 "CedentePrestatore"])

def cessionario (customer : Customer) : List Line :=
  .start 4 "CessionarioCommittente" :: .start 6 "DatiAnagrafici" ::
    ((truthy customer.vatNumber).toList.flatMap (fiscale (customer.country.getD "IT")) ++
    given 8 "CodiceFiscale" customer.fiscalCode ++ denominazione customer.name ++ [.finish 6 "DatiAnagrafici"] ++
    sede customer.address customer.postalCode customer.city ++ given 8 "Provincia" customer.province ++
    nazione (customer.country.getD "IT") ++ [.finish 4 "CessionarioCommittente"])

def generali (invoice : Invoice) : List Line :=
  [.start 6 "DatiGeneraliDocumento", .text 8 "TipoDocumento" (esc invoice.documentType.text), .text 8 "Divisa" "EUR",
    .text 8 "Data" (formatDate invoice.invoiceDate), .text 8 "Numero" (esc invoice.number),
    .text 8 "ImportoTotaleDocumento" (money (.finite invoice.totalAmount.val))] ++
  given 8 "Causale" ((truthy invoice.notes).map (FatturaPaAdapter.truncate · 200)) ++
  [.finish 6 "DatiGeneraliDocumento"]

def ordine (order : OrderReference) : List Line :=
  [.start 6 "DatiOrdineAcquisto", .text 8 "IdDocumento" (esc order.orderNumber)] ++
  given 8 "CodiceCIG" order.customerPoReference ++ [.finish 6 "DatiOrdineAcquisto"]

def dettaglio (idx : ℕ) (line : InvoiceLine) : List Line :=
  [.start 6 "DettaglioLinee", .text 8 "NumeroLinea" (toString (idx + 1)), .text 8 "Descrizione" (esc line.description),
    .text 8 "Quantita" (money (.finite line.quantity)), .text 8 "PrezzoUnitario" (money (.finite line.unitPrice)),
    .text 8 "PrezzoTotale" (money (.finite line.lineTotal)), .text 8 "AliquotaIVA" (money (.finite line.ivaRate))] ++
  given 8 "Natura" line.ivaNature ++ [.finish 6 "DettaglioLinee"]

def riepilogo (customer : Customer) (dati : DatiRiepilogo) : List Line :=
  [.start 6 "DatiRiepilogo", .text 8 "AliquotaIVA" dati.aliquotaIVA] ++ given 8 "Natura" dati.natura ++
  [.text 8 "ImponibileImporto" dati.imponibileImporto, .text 8 "Imposta" dati.imposta,
    .text 8 "EsigibilitaIVA" (esc (FatturaPaAdapter.esigibilitaIVA customer)), .finish 6 "DatiRiepilogo"]

def pagamento (invoice : Invoice) : List Line :=
  [.start 4 "DatiPagamento", .text 6 "CondizioniPagamento" "TP02", .start 6 "DettaglioPagamento",
    .text 8 "ModalitaPagamento" "MP05", .text 8 "DataScadenzaPagamento" (formatDate invoice.invoiceDate),
    .text 8 "ImportoPagamento" (money (.finite invoice.totalAmount.val)), .finish 6 "DettaglioPagamento",
    .finish 4 "DatiPagamento"]

def summaries (invoice : Invoice) : List DatiRiepilogo :=
  (FatturaPaAdapter.riepilogo invoice.lines).map fun block =>
    FatturaPaAdapter.datiRiepilogo invoice.lines block.2

def body : List Line :=
  [.start 2 "FatturaElettronicaHeader"] ++ trasmissione input cedenteVat progressive ++
  given 6 "PECDestinatario" input.customer.pecEmail ++ [.finish 4 "DatiTrasmissione"] ++
  cedente cedenteVat input.tenant ++ cessionario input.customer ++
  [.finish 2 "FatturaElettronicaHeader", .start 2 "FatturaElettronicaBody", .start 4 "DatiGenerali"] ++
  generali input.invoice ++ input.salesOrder.toList.flatMap ordine ++
  [.finish 4 "DatiGenerali", .start 4 "DatiBeniServizi"] ++
  (input.invoice.lines.mapIdx dettaglio).flatten ++ (summaries input.invoice).flatMap (riepilogo input.customer) ++
  [.finish 4 "DatiBeniServizi"] ++ pagamento input.invoice ++ [.finish 2 "FatturaElettronicaBody"]

def prolog : String := "<?xml version=\"1.0\" encoding=\"UTF-8\"?>"

theorem map_given (indent : ℕ) (name : String) (value : Option String) :
    (given indent name value).map Line.string = textLineIf indent name value := by
  rw [given, List.map_map]
  rfl

theorem string_trasmissione : (trasmissione input cedenteVat progressive ++
    (given 6 "PECDestinatario" input.customer.pecEmail ++ [Line.finish 4 "DatiTrasmissione"])).map Line.string =
      FatturaPaAdapter.datiTrasmissione input cedenteVat progressive := by
  simp [trasmissione, map_given, Line.string, FatturaPaAdapter.datiTrasmissione]

theorem string_cedente : (cedente cedenteVat input.tenant).map Line.string =
    FatturaPaAdapter.cedentePrestatore input.tenant cedenteVat := by
  simp [cedente, fiscale, denominazione, sede, nazione, map_given, Line.string, FatturaPaAdapter.cedentePrestatore]

theorem string_fiscale (country : String) (vat : Option String) :
    ((truthy vat).toList.flatMap (fiscale country)).map Line.string = FatturaPaAdapter.idFiscaleIVA country vat := by
  unfold FatturaPaAdapter.idFiscaleIVA
  cases truthy vat with
  | none => rfl
  | some vat => simp [fiscale, Line.string]

theorem string_cessionario : (cessionario input.customer).map Line.string =
    FatturaPaAdapter.cessionarioCommittente input.customer := by
  simp only [cessionario, List.map_append, List.map_cons, string_fiscale]
  simp [denominazione, sede, nazione, map_given, Line.string, FatturaPaAdapter.cessionarioCommittente]

theorem string_generali : (generali input.invoice).map Line.string =
    FatturaPaAdapter.datiGeneraliDocumento input.invoice := by
  simp [generali, map_given, Line.string, FatturaPaAdapter.datiGeneraliDocumento]

theorem string_ordine : (input.salesOrder.toList.flatMap ordine).map Line.string =
    FatturaPaAdapter.datiOrdineAcquisto input.salesOrder := by
  cases input.salesOrder with
  | none => rfl
  | some order => simp [ordine, map_given, Line.string, FatturaPaAdapter.datiOrdineAcquisto]

theorem string_dettagli : ((input.invoice.lines.mapIdx dettaglio).flatten).map Line.string =
    (input.invoice.lines.mapIdx fun idx line => FatturaPaAdapter.dettaglioLinee line idx).flatten := by
  rw [List.map_flatten, List.mapIdx_eq_zipIdx_map, List.mapIdx_eq_zipIdx_map, List.map_map]
  refine congrArg List.flatten (List.map_congr_left fun entry _ => ?_)
  simp [dettaglio, map_given, Line.string, FatturaPaAdapter.dettaglioLinee]

theorem string_riepilogo : ((summaries input.invoice).flatMap (riepilogo input.customer)).map Line.string =
    (FatturaPaAdapter.riepilogo input.invoice.lines).flatMap fun block =>
      (FatturaPaAdapter.datiRiepilogo input.invoice.lines block.2).lines input.customer := by
  rw [summaries, List.flatMap_map, List.map_flatMap]
  refine List.flatMap_congr fun block _ => ?_
  simp [riepilogo, map_given, Line.string, DatiRiepilogo.lines]

theorem string_pagamento : (pagamento input.invoice).map Line.string = FatturaPaAdapter.datiPagamento input.invoice :=
  rfl

theorem lines_eq : FatturaPaAdapter.lines input cedenteVat progressive =
    prolog :: FatturaPaAdapter.root input ::
      ((body input cedenteVat progressive).map Line.string ++ ["</p:FatturaElettronica>"]) := by
  unfold FatturaPaAdapter.lines body
  rw [← string_trasmissione, ← string_cedente, ← string_cessionario, ← string_generali, ← string_ordine,
    ← string_dettagli, ← string_riepilogo, ← string_pagamento]
  simp [Line.string, prolog]

end

/-! ## The document -/

section
variable {names apart differ : List String}

theorem stays {ls : List Line} (ns : List String) (same : ls.map Line.name = ns)
    (ok : ∀ name ∈ ns, Stays apart differ name) : ∀ name ∈ ls.map Line.name, Stays apart differ name := same ▸ ok

def fiscaleParts (country vat : String) : List (Part partyNames looked stray) :=
  parts (besides [.start 8 "IdFiscaleIVA", .text 10 "IdPaese" (esc country)]
    (stays ["IdFiscaleIVA", "IdPaese"] rfl (by decide))) ++
  leaf 10 "IdCodice" (esc vat) (by decide) ++
  parts (besides [.finish 8 "IdFiscaleIVA"] (stays ["IdFiscaleIVA"] rfl (by decide)))

def denominazioneParts (name : String) : List (Part partyNames looked stray) :=
  parts (besides [.start 8 "Anagrafica"] (stays ["Anagrafica"] rfl (by decide))) ++
  leaf 10 "Denominazione" (esc name) (by decide) ++
  parts (besides [.finish 8 "Anagrafica"] (stays ["Anagrafica"] rfl (by decide)))

def sedeParts (address postalCode city province : Option String) (country : String)
    (ok : ∀ name ∈ ["Sede", "Indirizzo", "CAP", "Comune", "Provincia", "Nazione"], Stays (names ++ apart) differ name) :
    List (Part names apart differ) :=
  parts (besides (sede address postalCode city)
    (stays ["Sede", "Indirizzo", "CAP", "Comune"] rfl fun name mem => ok name (by revert name; decide))) ++
  parts (besidesIf 8 "Provincia" province (ok _ (by decide))) ++
  parts (besides (nazione country) (stays ["Nazione", "Sede"] rfl fun name mem => ok name (by revert name; decide))) ++
  [.other (space 4)]

def dettaglioBlock (idx : ℕ) (line : InvoiceLine) : Block lineNames looked where
  mark := .bare
  parts := parts (besides [.text 8 "NumeroLinea" (toString (idx + 1))] (stays ["NumeroLinea"] rfl (by decide))) ++
    leaf 8 "Descrizione" (esc line.description) (by decide) ++
    leaf 8 "Quantita" (money (.finite line.quantity)) (by decide) ++
    leaf 8 "PrezzoUnitario" (money (.finite line.unitPrice)) (by decide) ++
    leaf 8 "PrezzoTotale" (money (.finite line.lineTotal)) (by decide) ++
    leaf 8 "AliquotaIVA" (money (.finite line.ivaRate)) (by decide) ++
    leafIf 8 "Natura" line.ivaNature (by decide) ++ [.other (space 6)]

def riepilogoBlock (customer : Customer) (dati : DatiRiepilogo) : Block summaryNames looked where
  mark := .bare
  parts := leaf 8 "AliquotaIVA" dati.aliquotaIVA (by decide) ++ leafIf 8 "Natura" dati.natura (by decide) ++
    leaf 8 "ImponibileImporto" dati.imponibileImporto (by decide) ++ leaf 8 "Imposta" dati.imposta (by decide) ++
    parts (besides [.text 8 "EsigibilitaIVA" (esc (FatturaPaAdapter.esigibilitaIVA customer))]
      (stays ["EsigibilitaIVA"] rfl (by decide))) ++ [.other (space 6)]

def pagamentoBlock (invoice : Invoice) : Block paymentNames looked where
  mark := .bare
  parts := parts (besides [.text 8 "ModalitaPagamento" "MP05"] (stays ["ModalitaPagamento"] rfl (by decide))) ++
    leaf 8 "DataScadenzaPagamento" (formatDate invoice.invoiceDate) (by decide) ++
    parts (besides [.text 8 "ImportoPagamento" (money (.finite invoice.totalAmount.val))]
      (stays ["ImportoPagamento"] rfl (by decide))) ++ [.other (space 6)]

def generaliBlock (invoice : Invoice) : Block generalNames looked where
  mark := .bare
  parts := leaf 8 "TipoDocumento" (esc invoice.documentType.text) (by decide) ++
    leaf 8 "Divisa" "EUR" (by decide) ++ leaf 8 "Data" (formatDate invoice.invoiceDate) (by decide) ++
    leaf 8 "Numero" (esc invoice.number) (by decide) ++
    leaf 8 "ImportoTotaleDocumento" (money (.finite invoice.totalAmount.val)) (by decide) ++
    parts (besidesIf 8 "Causale" ((truthy invoice.notes).map (FatturaPaAdapter.truncate · 200)) (by decide)) ++
    [.other (space 6)]

def cedenteParty (cedenteVat : String) (tenant : FatturaPaAdapter.Tenant) : Party [] partyNames where
  mark := .bare
  anagrafici := parts (besides [.start 6 "DatiAnagrafici"] (stays ["DatiAnagrafici"] rfl (by decide))) ++
    fiscaleParts "IT" cedenteVat ++ parts (besidesIf 8 "CodiceFiscale" tenant.fiscalCode (by decide)) ++
    denominazioneParts tenant.name ++
    parts (besides [.text 8 "RegimeFiscale" "RF01", .finish 6 "DatiAnagrafici"]
      (stays ["RegimeFiscale", "DatiAnagrafici"] rfl (by decide)))
  rest := sedeParts tenant.billingAddress tenant.billingPostalCode tenant.billingCity tenant.billingProvince
    (tenant.billingCountry.getD "IT") (by decide)

def cessionarioParty (customer : Customer) : Party ["IdCodice"] [] where
  mark := .bare
  anagrafici := parts (besides [.start 6 "DatiAnagrafici"] (stays ["DatiAnagrafici"] rfl (by decide))) ++
    (truthy customer.vatNumber).toList.flatMap (fiscaleParts (customer.country.getD "IT")) ++
    parts (besidesIf 8 "CodiceFiscale" customer.fiscalCode (by decide)) ++ denominazioneParts customer.name ++
    parts (besides [.finish 6 "DatiAnagrafici"] (stays ["DatiAnagrafici"] rfl (by decide)))
  rest := sedeParts customer.address customer.postalCode customer.city customer.province (customer.country.getD "IT")
    (by decide)

end

section
variable (input : FatturaPaBuildInput) (cedenteVat progressive : String)

def rootMark : Mark where
  pre := ['p', ':']
  attrs := (" versione=\"" ++ FatturaPaAdapter.formatoTrasmissione input ++ "\" " ++
    "xmlns:p=\"http://ivaservizi.agenziaentrate.gov.it/docs/xsd/fatture/v1.2\" " ++
    "xmlns:ds=\"http://www.w3.org/2000/09/xmldsig#\" " ++
    "xmlns:xsi=\"http://www.w3.org/2001/XMLSchema-instance\"").toList
  blanks := []

def opening : List (Beside looked stray) :=
  [⟨.text prolog.toList, by simp [Piece.name?], by simp [Piece.name?]⟩,
    ⟨.text ['\n'], by simp [Piece.name?], by simp [Piece.name?]⟩,
    ⟨.opening (rootMark input) "FatturaElettronica", fun name here => Option.some_inj.mp here ▸ by decide,
      fun name here => Option.some_inj.mp here ▸ by decide⟩]

theorem generali_field (invoice : Invoice) (tag : String) :
    (field tag (generaliBlock invoice).parts).map (·.text) =
      if "TipoDocumento" = tag then some (esc invoice.documentType.text).toList
      else if "Divisa" = tag then some "EUR".toList
      else if "Data" = tag then some (formatDate invoice.invoiceDate).toList
      else if "Numero" = tag then some (esc invoice.number).toList
      else if "ImportoTotaleDocumento" = tag then some (money (.finite invoice.totalAmount.val)).toList
      else none := by
  unfold generaliBlock
  simp only [List.append_assoc]
  rw [field_leaf, field_leaf, field_leaf, field_leaf, field_leaf, field_parts]
  split_ifs <;> rfl

theorem generali_complete (invoice : Invoice) :
    ∀ name ∈ ["Numero", "Data", "TipoDocumento", "Divisa"], (field name (generaliBlock invoice).parts).isSome := by
  intro name mem
  rw [← Option.isSome_map, generali_field]
  simp only [List.mem_cons, List.not_mem_nil, or_false] at mem
  rcases mem with rfl | rfl | rfl | rfl <;> rfl

def ordineBeside (order : OrderReference) : List (Beside looked []) :=
  besides [.start 6 "DatiOrdineAcquisto", .text 8 "IdDocumento" (esc order.orderNumber)]
    (stays ["DatiOrdineAcquisto", "IdDocumento"] rfl (by decide)) ++
  besidesIf 8 "CodiceCIG" order.customerPoReference (by decide) ++
  besides [.finish 6 "DatiOrdineAcquisto"] (stays ["DatiOrdineAcquisto"] rfl (by decide))

def items : List Item :=
  (input.salesOrder.toList.flatMap ordineBeside).map .other ++
  (besides [.finish 4 "DatiGenerali", .start 4 "DatiBeniServizi"]
    (stays ["DatiGenerali", "DatiBeniServizi"] rfl (by decide))).map .other ++
  (input.invoice.lines.mapIdx fun idx line => [.other (space 6), .line (dettaglioBlock idx line)]).flatten ++
  (summaries input.invoice).flatMap (fun dati => [.other (space 6), .summary (riepilogoBlock input.customer dati)]) ++
  (besides [.finish 4 "DatiBeniServizi", .start 4 "DatiPagamento", .text 6 "CondizioniPagamento" "TP02"]
    (stays ["DatiBeniServizi", "DatiPagamento", "CondizioniPagamento"] rfl (by decide))).map .other ++
  [.other (space 6), .payment (pagamentoBlock input.invoice)]

def document : Document where
  start := opening input ++
    besides (.start 2 "FatturaElettronicaHeader" :: trasmissione input cedenteVat progressive)
      (stays ["FatturaElettronicaHeader", "DatiTrasmissione", "IdTrasmittente", "IdPaese", "IdCodice", "IdTrasmittente",
        "ProgressivoInvio", "FormatoTrasmissione", "CodiceDestinatario"] rfl (by decide)) ++
    besidesIf 6 "PECDestinatario" input.customer.pecEmail (by decide) ++
    besides [.finish 4 "DatiTrasmissione"] (stays ["DatiTrasmissione"] rfl (by decide)) ++ [space 4]
  cedente := cedenteParty cedenteVat input.tenant
  between := [space 4]
  cessionario := cessionarioParty input.customer
  body := {
    start := besides [.finish 2 "FatturaElettronicaHeader", .start 2 "FatturaElettronicaBody", .start 4 "DatiGenerali"]
      (stays ["FatturaElettronicaHeader", "FatturaElettronicaBody", "DatiGenerali"] rfl (by decide)) ++ [space 6]
    general := generaliBlock input.invoice
    complete := generali_complete input.invoice
    items := items input }
  bodies := []
  finish := besides [.finish 4 "DatiPagamento", .finish 2 "FatturaElettronicaBody"]
      (stays ["DatiPagamento", "FatturaElettronicaBody"] rfl (by decide)) ++
    [⟨.text ['\n'], by simp [Piece.name?], by simp [Piece.name?]⟩,
      ⟨.closing ⟨['p', ':'], [], []⟩ "FatturaElettronica", fun name here => Option.some_inj.mp here ▸ by decide,
        fun name here => Option.some_inj.mp here ▸ by decide⟩]

end

/-! ## The document is the text -/

section
variable {names apart differ : List String}

theorem flat_nil : flat [] = [] := rfl

theorem flat_cons (l : Line) (ls : List Line) : flat (l :: ls) = l.pieces ++ flat ls := rfl

theorem flat_append (ls ms : List Line) : flat (ls ++ ms) = flat ls ++ flat ms := List.flatMap_append

theorem pieces_append (bs cs : List (Beside apart differ)) :
    Pec.pieces (bs ++ cs) = Pec.pieces bs ++ Pec.pieces cs := List.map_append

theorem pieces_space (indent : ℕ) : Pec.pieces [(space indent : Beside apart differ)] = [gap indent] := rfl

theorem content_space (indent : ℕ) : content [(.other (space indent) : Part names apart differ)] = [gap indent] := rfl

theorem content_fiscale (country vat : String) :
    content (fiscaleParts country vat) = flat (fiscale country vat) := by
  simp only [fiscaleParts, content_append, content_parts, pieces_besides, content_leaf, fiscale, flat_cons, flat_nil,
    List.append_assoc, List.nil_append]

theorem content_denominazione (name : String) : content (denominazioneParts name) = flat (denominazione name) := by
  simp only [denominazioneParts, content_append, content_parts, pieces_besides, content_leaf, denominazione, flat_cons,
    flat_nil, List.append_assoc, List.nil_append]

theorem content_sede (address postalCode city province : Option String) (country : String)
    (ok : ∀ name ∈ ["Sede", "Indirizzo", "CAP", "Comune", "Provincia", "Nazione"], Stays (names ++ apart) differ name) :
    content (sedeParts address postalCode city province country ok) =
      flat (sede address postalCode city ++ given 8 "Provincia" province ++ nazione country) ++ [gap 4] := by
  simp only [sedeParts, content_append, content_parts, pieces_besides, pieces_besidesIf, content_space, flat_append,
    List.append_assoc]

theorem pieces_start (indent : ℕ) (name : String) :
    (Line.start indent name).pieces = [gap indent, .opening .bare name] := rfl

theorem pieces_finish (indent : ℕ) (name : String) :
    (Line.finish indent name).pieces = [gap indent, .closing .bare name] := rfl

theorem cedente_pieces (cedenteVat : String) (tenant : FatturaPaAdapter.Tenant) :
    gap 4 :: (cedenteParty cedenteVat tenant).pieces "CedentePrestatore" = flat (cedente cedenteVat tenant) := by
  simp only [Party.pieces, Party.content, cedenteParty, content_append, content_parts, pieces_besides,
    pieces_besidesIf, content_fiscale, content_denominazione, content_sede, cedente, flat_append, flat_cons, flat_nil,
    pieces_start, pieces_finish, List.append_assoc, List.nil_append, List.cons_append]

theorem content_fiscale_if (country : String) (vat : Option String) :
    content ((truthy vat).toList.flatMap (fiscaleParts country)) = flat ((truthy vat).toList.flatMap (fiscale country)) := by
  cases truthy vat with
  | none => rfl
  | some vat => rw [Option.toList_some, List.flatMap_singleton, List.flatMap_singleton, content_fiscale]

theorem cessionario_pieces (customer : Customer) :
    gap 4 :: (cessionarioParty customer).pieces "CessionarioCommittente" = flat (cessionario customer) := by
  simp only [Party.pieces, Party.content, cessionarioParty, content_append, content_parts, pieces_besides,
    pieces_besidesIf, content_fiscale_if, content_denominazione, content_sede, cessionario, flat_append, flat_cons,
    flat_nil, pieces_start, pieces_finish, List.append_assoc, List.nil_append, List.cons_append]

theorem generali_pieces (invoice : Invoice) :
    gap 6 :: (generaliBlock invoice).pieces "DatiGeneraliDocumento" = flat (generali invoice) := by
  simp only [Block.pieces, generaliBlock, content_append, content_parts, pieces_besidesIf, content_leaf,
    content_space, generali, flat_append, flat_cons, flat_nil, pieces_start, pieces_finish, List.append_assoc,
    List.nil_append, List.cons_append]

theorem dettaglio_pieces (idx : ℕ) (line : InvoiceLine) :
    gap 6 :: (dettaglioBlock idx line).pieces "DettaglioLinee" = flat (dettaglio idx line) := by
  simp only [Block.pieces, dettaglioBlock, content_append, content_parts, pieces_besides, content_leafIf, content_leaf,
    content_space, dettaglio, flat_append, flat_cons, flat_nil, pieces_start, pieces_finish, List.append_assoc,
    List.nil_append, List.cons_append]

theorem riepilogo_pieces (customer : Customer) (dati : DatiRiepilogo) :
    gap 6 :: (riepilogoBlock customer dati).pieces "DatiRiepilogo" = flat (riepilogo customer dati) := by
  simp only [Block.pieces, riepilogoBlock, content_append, content_parts, pieces_besides, content_leafIf, content_leaf,
    content_space, riepilogo, flat_append, flat_cons, flat_nil, pieces_start, pieces_finish, List.append_assoc,
    List.nil_append, List.cons_append]

theorem items_other (bs : List (Beside looked [])) : (bs.map Item.other).flatMap Item.pieces = Pec.pieces bs := by
  rw [List.flatMap_map, Pec.pieces, List.map_eq_flatMap]
  rfl

theorem item_pieces (i : Item) : [Item.other (space 6), i].flatMap Item.pieces = gap 6 :: i.pieces := by
  rw [List.flatMap_cons, List.flatMap_singleton]
  rfl

theorem items_dettagli (lines : List InvoiceLine) :
    ((lines.mapIdx fun idx line => [Item.other (space 6), .line (dettaglioBlock idx line)]).flatten).flatMap Item.pieces =
      flat (lines.mapIdx dettaglio).flatten := by
  rw [flat, List.mapIdx_eq_zipIdx_map, List.mapIdx_eq_zipIdx_map, ← List.flatMap_def, ← List.flatMap_def,
    List.flatMap_assoc, List.flatMap_assoc]
  refine List.flatMap_congr fun entry _ => ?_
  exact (item_pieces _).trans (dettaglio_pieces entry.2 entry.1)

theorem items_riepiloghi (customer : Customer) (ds : List DatiRiepilogo) :
    (ds.flatMap fun dati => [Item.other (space 6), .summary (riepilogoBlock customer dati)]).flatMap Item.pieces =
      flat (ds.flatMap (riepilogo customer)) := by
  rw [flat, List.flatMap_assoc, List.flatMap_assoc]
  refine List.flatMap_congr fun dati _ => ?_
  exact (item_pieces _).trans (riepilogo_pieces customer dati)

theorem pagamento_pieces (invoice : Invoice) :
    flat [.start 4 "DatiPagamento", .text 6 "CondizioniPagamento" "TP02"] ++
        (gap 6 :: (pagamentoBlock invoice).pieces "DettaglioPagamento" ++ flat [.finish 4 "DatiPagamento"]) =
      flat (pagamento invoice) := by
  simp only [Block.pieces, pagamentoBlock, content_append, content_parts, pieces_besides, content_leaf, content_space,
    pagamento, flat_cons, flat_nil, pieces_start, pieces_finish, List.append_assoc, List.nil_append, List.cons_append]

theorem pieces_ordine (order : Option OrderReference) :
    Pec.pieces (order.toList.flatMap ordineBeside) = flat (order.toList.flatMap ordine) := by
  cases order with
  | none => rfl
  | some order => simp only [Option.toList_some, List.flatMap_singleton, ordineBeside, ordine, pieces_append,
      pieces_besides, pieces_besidesIf, flat_append]

end

theorem document_pieces (input : FatturaPaBuildInput) (cedenteVat progressive : String) :
    (document input cedenteVat progressive).pieces = Pec.pieces (opening input) ++
      (flat (body input cedenteVat progressive) ++
        [.text ['\n'], .closing ⟨['p', ':'], [], []⟩ "FatturaElettronica"]) := by
  simp only [Document.pieces, Document.parties, Document.invoices, document, Body.pieces, Body.rest, items, body,
    List.flatMap_singleton, pieces_append, pieces_besides, pieces_besidesIf, pieces_space, List.flatMap_append,
    items_other, items_dettagli, items_riepiloghi, item_pieces, pieces_ordine, flat_append, flat_cons, flat_nil,
    ← cedente_pieces, ← cessionario_pieces, ← generali_pieces, ← pagamento_pieces, List.append_assoc, List.nil_append,
    List.cons_append, Item.pieces]
  rfl

theorem render_flat (ls : List Line) : render (flat ls) = ls.flatMap fun l => '\n' :: l.string.toList := by
  rw [render, flat, List.flatMap_assoc]
  refine List.flatMap_congr fun l _ => ?_
  exact l.render_pieces

theorem intercalate_newline (t : List Char) (ts : List (List Char)) :
    ['\n'].intercalate (t :: ts) = t ++ ts.flatMap ('\n' :: ·) := by
  induction ts generalizing t with
  | nil => simp
  | cons u us ih => rw [List.intercalate_cons_cons, ih, List.append_assoc]; rfl

theorem render_root (input : FatturaPaBuildInput) :
    (Piece.opening (rootMark input) "FatturaElettronica").render = (FatturaPaAdapter.root input).toList := by
  have first : "<p:FatturaElettronica versione=\"" = "<p:" ++ ("FatturaElettronica" ++ " versione=\"") := by
    decide +kernel
  have last : "xmlns:xsi=\"http://www.w3.org/2001/XMLSchema-instance\">" =
      "xmlns:xsi=\"http://www.w3.org/2001/XMLSchema-instance\"" ++ ">" := by decide +kernel
  have bracket : "<p:".toList = '<' :: ['p', ':'] := by decide +kernel
  have close : ">".toList = ['>'] := by decide +kernel
  have parts (a b c d e f g h i : String) : (a ++ (b ++ c) ++ d ++ e ++ f ++ g ++ (h ++ i)).toList =
      a.toList ++ (b.toList ++ ((c ++ d ++ e ++ f ++ g ++ h).toList ++ i.toList)) := by
    simp only [String.toList_append, List.append_assoc]
  unfold FatturaPaAdapter.root Piece.render rootMark
  rewrite [first, last, parts, bracket, close, List.cons_append]
  exact Eq.refl _

theorem document_xml (input : FatturaPaBuildInput) (cedenteVat progressive : String) :
    (document input cedenteVat progressive).xml =
      ("\n".intercalate (FatturaPaAdapter.lines input cedenteVat progressive)).toList := by
  have newline : "\n".toList = ['\n'] := rfl
  have start : render (Pec.pieces (opening input)) = prolog.toList ++ ('\n' :: (FatturaPaAdapter.root input).toList) := by
    rw [← render_root]
    simp [opening, Pec.pieces, render, Piece.render]
  have finish : render [.text ['\n'], .closing ⟨['p', ':'], [], []⟩ "FatturaElettronica"] =
      '\n' :: "</p:FatturaElettronica>".toList := by decide +kernel
  rw [Document.xml, document_pieces, render_append, render_append, render_flat, lines_eq, String.toList_intercalate,
    newline, List.map_cons, intercalate_newline, start, finish]
  simp only [List.map_cons, List.map_append, List.flatMap_cons, List.flatMap_append, List.flatMap_map, List.map_nil,
    List.flatMap_nil, List.append_assoc, List.cons_append, List.append_nil]

end SmartErp.Pec.Outbound
