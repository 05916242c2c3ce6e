import SmartErp.Accounting.Invoices
import SmartErp.Foundations.Spelling
import SmartErp.Foundations.Xml
import Mathlib.Data.Nat.Digits.Defs

/-!
# The FatturaPA document of an invoice

`fatturapa-adapter.ts`. The document is built line by line, and the lines are joined. Amounts are added up as
doubles.
-/

namespace SmartErp.Accounting
open Foundations Foundations.Xml

def InvoiceDocumentType.text : InvoiceDocumentType → String
  | TD01 => "TD01"
  | TD02 => "TD02"
  | TD04 => "TD04"
  | TD05 => "TD05"
  | TD17 => "TD17"
  | TD18 => "TD18"
  | TD19 => "TD19"
  | TD24 => "TD24"
  | TD26 => "TD26"

/-- A text that is given and not empty, as `if` and `&&` test it. -/
def truthy (s : Option String) : Option String := s.filter (· ≠ "")

namespace FatturaPaAdapter

structure Tenant where
  vatNumber : Option String
  fiscalCode : Option String
  name : String
  billingAddress : Option String
  billingPostalCode : Option String
  billingCity : Option String
  billingProvince : Option String
  billingCountry : Option String

structure OrderReference where
  orderNumber : String
  customerPoReference : Option String

structure FatturaPaBuildInput where
  tenant : Tenant
  customer : Customer
  invoice : Invoice
  salesOrder : Option OrderReference

structure FatturaPaBuildOutput where
  xml : String
  fileName : String
  progressive : String

/-! ## Texts -/

def esc (s : String) : String :=
  String.ofList (replaceAll apostrophe "&apos;" (replaceAll quote "&quot;" (replaceAll '>' "&gt;"
    (replaceAll '<' "&lt;" (replaceAll '&' "&amp;" s.toList)))))

def money (n : JsNumber) : String := n.toFixed 2

def takeUnits : ℕ → List Char → List Char
  | 0, _ | _, [] => []
  | 1, c :: _ => [if c.toNat < 65536 then c else Char.ofNat 0xFFFD]
  | room + 2, c :: cs => c :: takeUnits (if c.toNat < 65536 then room + 1 else room) cs

/-- The first `max` units of UTF-16; half of a pair is encoded as U+FFFD. -/
def truncate (s : String) (max : ℕ) : String := String.ofList (takeUnits max s.toList)

def padded (n : ℕ) : String := String.ofList ((Nat.toDigits 10 n).leftpad 2 '0')

/-- The year is not padded. -/
def formatDate (d : Date) : String := s!"{d.year}-{padded d.month}-{padded d.day}"

/-- A digit of `toString(36).toUpperCase()`. -/
def digit36 (n : ℕ) : Char := Char.ofNat (if n < 10 then 48 + n else 55 + n)

def encodeProgressive (fiscalYear : ℕ) (number : String) : String :=
  let base := s!"{fiscalYear}{number}"
  let n := Nat.ofDigitChars 10 (base.toList.filter Char.isDigit) 0
  String.ofList ((((Nat.digits 36 n).take 5).reverse.map digit36).leftpad 5 '0')

/-- `^[A-Z0-9]{6,7}$` -/
def isDestination (s : String) : Bool :=
  s.toList.all (fun c => c.isUpper || c.isDigit) && (s.length = 6 || s.length = 7)

def resolveDestinationCode (input : FatturaPaBuildInput) : String :=
  (input.customer.sdiDestinationCode.filter (isDestination ·)).getD "0000000"

/-! ## The summary of the rates -/

structure RiepilogoItem where
  imponibile : JsNumber
  imposta : JsNumber
  natura : Option String
  deriving DecidableEq

/-- `${line.ivaRate}|${line.ivaNature ?? ''}`; no text of a rate has a bar in it. -/
def riepilogoKey (line : InvoiceLine) : ℚ × String := (line.ivaRate, line.ivaNature.getD "")

def addLine (item : Option RiepilogoItem) (line : InvoiceLine) : RiepilogoItem :=
  let item := item.getD ⟨.finite 0, .finite 0, line.ivaNature⟩
  { item with
    imponibile := item.imponibile.plus (.finite line.lineTotal)
    imposta :=
      if line.taxed then
        item.imposta.plus (((JsNumber.finite line.lineTotal).times (.finite line.ivaRate)).dividedBy (.finite 100))
      else item.imposta }

def riepilogo (lines : List InvoiceLine) : List ((ℚ × String) × RiepilogoItem) :=
  group riepilogoKey addLine lines

/-- `Math.abs(l.lineTotal - imponibile) < 1000` -/
def near (l : InvoiceLine) (imponibile : JsNumber) : Bool :=
  ((JsNumber.finite l.lineTotal).sub imponibile).double.abs.lt (.finite 1000)

def extractRate (lines : List InvoiceLine) (item : RiepilogoItem) : ℚ :=
  ((lines.find? fun l => near l item.imponibile ∧ l.ivaNature.getD "" = item.natura.getD "").map (·.ivaRate)).getD 0

structure DatiRiepilogo where
  aliquotaIVA : String
  natura : Option String
  imponibileImporto : String
  imposta : String

def datiRiepilogo (lines : List InvoiceLine) (item : RiepilogoItem) : DatiRiepilogo where
  aliquotaIVA := money (.finite (extractRate lines item))
  natura := truthy item.natura
  imponibileImporto := money item.imponibile
  imposta := money item.imposta

/-! ## Lines of the document -/

def indented (n : ℕ) (s : String) : String := String.ofList (List.replicate n ' ') ++ s

def startLine (n : ℕ) (name : String) : String := indented n ("<" ++ name ++ ">")

def endLine (n : ℕ) (name : String) : String := indented n ("</" ++ name ++ ">")

def textLine (n : ℕ) (name text : String) : String := indented n ("<" ++ name ++ ">" ++ text ++ "</" ++ name ++ ">")

/-- `...(value ? [line] : [])` -/
def textLineIf (n : ℕ) (name : String) (value : Option String) : List String :=
  (truthy value).toList.map fun text => textLine n name (esc text)

def formatoTrasmissione (input : FatturaPaBuildInput) : String :=
  if input.customer.customerType = .publicAdministration then "FPA12" else "FPR12"

def root (input : FatturaPaBuildInput) : String :=
  "<p:FatturaElettronica versione=\"" ++ formatoTrasmissione input ++ "\" " ++
    "xmlns:p=\"http://ivaservizi.agenziaentrate.gov.it/docs/xsd/fatture/v1.2\" " ++
    "xmlns:ds=\"http://www.w3.org/2000/09/xmldsig#\" " ++
    "xmlns:xsi=\"http://www.w3.org/2001/XMLSchema-instance\">"

def datiTrasmissione (input : FatturaPaBuildInput) (cedenteVat progressive : String) : List String :=
  [startLine 4 "DatiTrasmissione", startLine 6 "IdTrasmittente", textLine 8 "IdPaese" (esc "IT"),
    textLine 8 "IdCodice" (esc cedenteVat), endLine 6 "IdTrasmittente",
    textLine 6 "ProgressivoInvio" (esc progressive),
    textLine 6 "FormatoTrasmissione" (esc (formatoTrasmissione input)),
    textLine 6 "CodiceDestinatario" (esc (resolveDestinationCode input))] ++
  textLineIf 6 "PECDestinatario" input.customer.pecEmail ++
  [endLine 4 "DatiTrasmissione"]

def cedentePrestatore (tenant : Tenant) (cedenteVat : String) : List String :=
  [startLine 4 "CedentePrestatore", startLine 6 "DatiAnagrafici", startLine 8 "IdFiscaleIVA",
    textLine 10 "IdPaese" (esc "IT"), textLine 10 "IdCodice" (esc cedenteVat), endLine 8 "IdFiscaleIVA"] ++
  textLineIf 8 "CodiceFiscale" tenant.fiscalCode ++
  [startLine 8 "Anagrafica", textLine 10 "Denominazione" (esc tenant.name), endLine 8 "Anagrafica",
    textLine 8 "RegimeFiscale" "RF01", endLine 6 "DatiAnagrafici", startLine 6 "Sede",
    textLine 8 "Indirizzo" (esc (tenant.billingAddress.getD "N/D")),
    textLine 8 "CAP" (esc (tenant.billingPostalCode.getD "00000")),
    textLine 8 "Comune" (esc (tenant.billingCity.getD "N/D"))] ++
  textLineIf 8 "Provincia" tenant.billingProvince ++
  [textLine 8 "Nazione" (esc (tenant.billingCountry.getD "IT")), endLine 6 "Sede", endLine 4 "CedentePrestatore"]

def idFiscaleIVA (country : String) (vatNumber : Option String) : List String :=
  match truthy vatNumber with
  | none => []
  | some vat => [startLine 8 "IdFiscaleIVA", textLine 10 "IdPaese" (esc country), textLine 10 "IdCodice" (esc vat),
      endLine 8 "IdFiscaleIVA"]

def cessionarioCommittente (customer : Customer) : List String :=
  let country := customer.country.getD "IT"
  [startLine 4 "CessionarioCommittente", startLine 6 "DatiAnagrafici"] ++
  idFiscaleIVA country customer.vatNumber ++
  textLineIf 8 "CodiceFiscale" customer.fiscalCode ++
  [startLine 8 "Anagrafica", textLine 10 "Denominazione" (esc customer.name), endLine 8 "Anagrafica",
    endLine 6 "DatiAnagrafici", startLine 6 "Sede", textLine 8 "Indirizzo" (esc (customer.address.getD "N/D")),
    textLine 8 "CAP" (esc (customer.postalCode.getD "00000")),
    textLine 8 "Comune" (esc (customer.city.getD "N/D"))] ++
  textLineIf 8 "Provincia" customer.province ++
  [textLine 8 "Nazione" (esc country), endLine 6 "Sede", endLine 4 "CessionarioCommittente"]

def datiGeneraliDocumento (invoice : Invoice) : List String :=
  [startLine 6 "DatiGeneraliDocumento", textLine 8 "TipoDocumento" (esc invoice.documentType.text),
    textLine 8 "Divisa" "EUR", textLine 8 "Data" (formatDate invoice.invoiceDate),
    textLine 8 "Numero" (esc invoice.number),
    textLine 8 "ImportoTotaleDocumento" (money (.finite invoice.totalAmount.val))] ++
  textLineIf 8 "Causale" ((truthy invoice.notes).map (truncate · 200)) ++
  [endLine 6 "DatiGeneraliDocumento"]

def datiOrdineAcquisto : Option OrderReference → List String
  | none => []
  | some order => [startLine 6 "DatiOrdineAcquisto", textLine 8 "IdDocumento" (esc order.orderNumber)] ++
      textLineIf 8 "CodiceCIG" order.customerPoReference ++ [endLine 6 "DatiOrdineAcquisto"]

def dettaglioLinee (line : InvoiceLine) (idx : ℕ) : List String :=
  [startLine 6 "DettaglioLinee", textLine 8 "NumeroLinea" (toString (idx + 1)),
    textLine 8 "Descrizione" (esc line.description), textLine 8 "Quantita" (money (.finite line.quantity)),
    textLine 8 "PrezzoUnitario" (money (.finite line.unitPrice)), textLine 8 "PrezzoTotale" (money (.finite line.lineTotal)),
    textLine 8 "AliquotaIVA" (money (.finite line.ivaRate))] ++
  textLineIf 8 "Natura" line.ivaNature ++
  [endLine 6 "DettaglioLinee"]

def esigibilitaIVA (customer : Customer) : String := if customer.splitPayment then "S" else "I"

def DatiRiepilogo.lines (customer : Customer) (dati : DatiRiepilogo) : List String :=
  [startLine 6 "DatiRiepilogo", textLine 8 "AliquotaIVA" dati.aliquotaIVA] ++
  textLineIf 8 "Natura" dati.natura ++
  [textLine 8 "ImponibileImporto" dati.imponibileImporto, textLine 8 "Imposta" dati.imposta,
    textLine 8 "EsigibilitaIVA" (esc (esigibilitaIVA customer)), endLine 6 "DatiRiepilogo"]

def datiPagamento (invoice : Invoice) : List String :=
  [startLine 4 "DatiPagamento", textLine 6 "CondizioniPagamento" "TP02", startLine 6 "DettaglioPagamento",
    textLine 8 "ModalitaPagamento" "MP05", textLine 8 "DataScadenzaPagamento" (formatDate invoice.invoiceDate),
    textLine 8 "ImportoPagamento" (money (.finite invoice.totalAmount.val)), endLine 6 "DettaglioPagamento",
    endLine 4 "DatiPagamento"]

def lines (input : FatturaPaBuildInput) (cedenteVat progressive : String) : List String :=
  ["<?xml version=\"1.0\" encoding=\"UTF-8\"?>", root input, startLine 2 "FatturaElettronicaHeader"] ++
  datiTrasmissione input cedenteVat progressive ++
  cedentePrestatore input.tenant cedenteVat ++
  cessionarioCommittente input.customer ++
  [endLine 2 "FatturaElettronicaHeader", startLine 2 "FatturaElettronicaBody", startLine 4 "DatiGenerali"] ++
  datiGeneraliDocumento input.invoice ++
  datiOrdineAcquisto input.salesOrder ++
  [endLine 4 "DatiGenerali", startLine 4 "DatiBeniServizi"] ++
  (input.invoice.lines.mapIdx fun idx line => dettaglioLinee line idx).flatten ++
  (riepilogo input.invoice.lines).flatMap (fun block =>
    (datiRiepilogo input.invoice.lines block.2).lines input.customer) ++
  [endLine 4 "DatiBeniServizi"] ++
  datiPagamento input.invoice ++
  [endLine 2 "FatturaElettronicaBody", "</p:FatturaElettronica>"]

def build (input : FatturaPaBuildInput) : Except Failure FatturaPaBuildOutput := do
  let cedenteVat ← require (truthy input.tenant.vatNumber)
    (.error "Cannot build FatturaPA without tenant.vatNumber (Partita IVA).")
  ensure (input.invoice.lines ≠ []) (.error "Cannot build FatturaPA without invoice lines.")
  ensure (truthy input.customer.vatNumber ≠ none ∨ truthy input.customer.fiscalCode ≠ none)
    (.error "Cannot build FatturaPA: customer has neither Partita IVA nor Codice Fiscale.")
  let progressive := encodeProgressive input.invoice.fiscalYear input.invoice.number
  return {
    xml := "\n".intercalate (lines input cedenteVat progressive)
    fileName := s!"IT{cedenteVat}_{progressive}.xml"
    progressive }

end FatturaPaAdapter

end SmartErp.Accounting
