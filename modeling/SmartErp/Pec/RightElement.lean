import SmartErp.Pec.Reading

/-!
# When the parser reads the right elements

Every field of a parsed invoice is the text at its place in the document, exactly where nothing before the
general data is named like the number or the date, and no other element stands in for a missing one.
-/

namespace SmartErp.Pec
open Foundations Foundations.Pattern Foundations.Markup

namespace Document
variable {d : Document} {tag : String}

/-- A mandatory field is blank, where it is the one that is read. -/
def Refused (d : Document) : Prop :=
  (Unopened "Numero" d.header ∧ Absent d.found.invoiceNumber) ∨
    (Unopened "Data" d.header ∧ Absent d.found.invoiceDate) ∨
    Absent d.found.supplierVatNumber ∨ Absent d.customer

/-- Nothing is read for another element, or it makes no difference. -/
structure Direct (d : Document) : Prop where
  number : Unopened "Numero" d.header
  /-- After an element that begins like `Data`, the first ten characters happen to be those of the date. -/
  date : ∀ rest, after "Data" d.header = some rest → ∀ l, field "Data" d.body.general.parts = some l →
    (trim (render (rest ++ d.body.leading "Data" ++ [.opening l.mark "Data"]) ++ l.text)).take 10 =
      (trim l.text).take 10
  customer : (field "IdCodice" d.cessionario.anagrafici).isSome
  /-- Without a total, none of another invoice that differs from the sum. -/
  total : field "ImportoTotaleDocumento" d.body.general.parts = none → ∀ cs,
    (d.bodies.findSome? fun b => textOf b.general.parts "ImportoTotaleDocumento") = some cs → cs ≠ [] →
      toCents cs = d.found.subtotalCents.plus d.found.taxCents
  /-- Without a payment, no due date of another invoice. -/
  dueDate : d.body.payments = [] → ∀ b ∈ (d.bodies.flatMap (·.payments)).head?,
    field "DataScadenzaPagamento" b.parts = none

/-! ## Number and date -/

theorem general_field (d : Document) (listed : tag ∈ stray) :
    ∃ l, field tag d.body.general.parts = some l := by
  have mandatory : ∀ tag ∈ stray, tag ∈ ["Numero", "Data", "TipoDocumento", "Divisa"] := by decide
  exact Option.isSome_iff_exists.mp (d.body.complete tag (mandatory tag listed))

theorem textOf_of_field {names apart differ : List String} {parts : List (Part names apart differ)} {l : Leaf}
    (found : field tag parts = some l) : textOf parts tag = some (trim l.text) := by
  rw [textOf, found]
  rfl

theorem field_mem {names apart differ : List String} {parts : List (Part names apart differ)} {l : Leaf}
    (found : field tag parts = some l) : ∀ p ∈ l.pieces tag, p ∈ content parts := by
  intro p mem
  obtain ⟨rest, eq⟩ := content_of_field found
  rw [eq]
  exact List.mem_append_right _ (List.mem_append_left _ mem)

theorem general_subset (d : Document) : ∀ p ∈ content d.body.general.parts, p ∈ d.pieces := by
  intro p mem
  refine List.mem_append_right _ (List.mem_append_left _ (List.mem_append_left _ ?_))
  exact List.mem_append_right _ (List.mem_append_left _ (List.mem_cons_of_mem _ (List.mem_append_left _ mem)))

theorem read_tagged (plain : d.Plain) (listed : tag ∈ stray) (opened : ¬ Unopened tag d.header) :
    ∃ cs, d.read tag = some cs ∧ Tagged cs := by
  have known : ∀ tag ∈ stray, tag ∈ sought := by decide
  obtain ⟨l, found⟩ := d.general_field listed
  obtain ⟨rest, stray⟩ : ∃ rest, after tag d.header = some rest :=
    Option.ne_none_iff_exists'.mp (mt after_eq_none.mp opened)
  refine ⟨_, by rw [read, found, Option.map_some, stray], ?_⟩
  have own := plain tag (known tag listed) _ (d.general_subset _ (field_mem found _ List.mem_cons_self))
  exact tagged_opening (word_of_sought tag (known tag listed)) own _ _

theorem read_of_unopened (unopened : Unopened tag d.header) :
    (d.read tag).map trim = textOf d.body.general.parts tag := by
  rw [read, after_eq_none.mpr unopened, Option.map_map]
  rfl

theorem text_not_tagged (plain : d.Plain) (listed : tag ∈ stray) {cs : List Char}
    (found : textOf d.body.general.parts tag = some cs) : ¬ Tagged cs := by
  have known : ∀ tag ∈ stray, tag ∈ sought := by decide
  intro tagged
  obtain ⟨l, here, rfl⟩ := Option.map_eq_some_iff.mp found
  have text : Piece.text l.text ∈ l.pieces tag := List.mem_cons_of_mem _ List.mem_cons_self
  have inert : Inert l.text := plain tag (known tag listed) _ (d.general_subset _ (field_mem here _ text))
  exact inert.not_tagged (tagged.of_infix (trim_within l.text))

theorem absent_read (plain : d.Plain) (listed : tag ∈ stray) :
    Absent ((d.read tag).map trim) ↔ Unopened tag d.header ∧ Absent (textOf d.body.general.parts tag) := by
  by_cases unopened : Unopened tag d.header
  · rw [read_of_unopened unopened]
    exact ⟨fun absent => ⟨unopened, absent⟩, And.right⟩
  · obtain ⟨cs, read, tagged⟩ := read_tagged plain listed unopened
    rw [read]
    exact ⟨fun absent => absurd absent (trim_tagged tagged).ne_nil, fun h => absurd h.1 unopened⟩

/-! ## The whole invoice -/

def seen (d : Document) : Found := { d.found with
  invoiceNumber := (d.read "Numero").map trim
  invoiceDate := (d.read "Data").map trim
  customerVatNumber := d.customer
  total := d.total
  paymentDueDate := d.dueDate }

theorem xml_ne_nil (d : Document) : d.xml ≠ [] := by
  intro empty
  have inside : Piece.opening d.cedente.mark "CedentePrestatore" ∈ d.pieces := by
    refine List.mem_append_left _ (List.mem_append_right _ (List.mem_append_left _ ?_))
    exact List.mem_cons_self
  have nothing := List.flatMap_eq_nil_iff.mp empty _ inside
  cases nothing

theorem parse_xml (plain : d.Plain) : parseFatturaPa d.xml = d.seen.invoice := by
  rw [parseFatturaPa, if_neg d.xml_ne_nil, find_xml plain]
  rfl

theorem complete_seen (plain : d.Plain) : d.seen.Complete ↔ ¬ d.Refused := by
  have number := absent_read plain (show "Numero" ∈ stray by decide)
  have date := absent_read plain (show "Data" ∈ stray by decide)
  constructor
  · rintro complete (blank | blank | blank | blank)
    · exact complete.invoiceNumber (number.mpr blank)
    · exact complete.invoiceDate (date.mpr blank)
    · exact complete.supplierVatNumber blank
    · exact complete.customerVatNumber blank
  · intro given
    refine ⟨fun absent => given ?_, fun absent => given ?_, fun absent => given ?_, fun absent => given ?_⟩
    · exact .inl (number.mp absent)
    · exact .inr (.inl (date.mp absent))
    · exact .inr (.inr (.inl absent))
    · exact .inr (.inr (.inr absent))

/-! ## One field after the other -/

theorem number_iff (plain : d.Plain) :
    stripCdata (d.seen.invoiceNumber.getD []) = stripCdata (d.found.invoiceNumber.getD []) ↔
      Unopened "Numero" d.header := by
  constructor
  · intro same
    by_contra opened
    obtain ⟨cs, read, tagged⟩ := read_tagged plain (by decide) opened
    obtain ⟨l, found⟩ := d.general_field (show "Numero" ∈ stray by decide)
    have own : d.found.invoiceNumber = some (trim l.text) := textOf_of_field found
    have tagged' := stripCdata_tagged (trim_tagged tagged)
    rw [seen, read, own] at same
    change stripCdata (trim cs) = stripCdata (trim l.text) at same
    rw [same] at tagged'
    exact text_not_tagged plain (by decide) own (tagged'.of_infix (stripCdata_within _))
  · intro unopened
    rw [seen, read_of_unopened unopened]
    rfl

theorem date_iff (d : Document) :
    (d.seen.invoiceDate.getD []).take 10 = (d.found.invoiceDate.getD []).take 10 ↔
      ∀ rest, after "Data" d.header = some rest → ∀ l, field "Data" d.body.general.parts = some l →
        (trim (render (rest ++ d.body.leading "Data" ++ [.opening l.mark "Data"]) ++ l.text)).take 10 =
          (trim l.text).take 10 := by
  obtain ⟨l, found⟩ := d.general_field (show "Data" ∈ stray by decide)
  have own : d.found.invoiceDate = some (trim l.text) := textOf_of_field found
  change (((d.read "Data").map trim).getD []).take 10 = _ ↔ _
  rw [own, read, found]
  cases stray : after "Data" d.header with
  | none => simp
  | some rest => simp

theorem customer_of_isSome (own : (field "IdCodice" d.cessionario.anagrafici).isSome) :
    d.customer = d.found.customerVatNumber := by
  obtain ⟨l, found⟩ := Option.isSome_iff_exists.mp own
  have text : d.found.customerVatNumber = some (trim l.text) := textOf_of_field found
  rw [text, customer, textOf_of_field found]
  rfl

theorem isSome_of_customer (given : ¬ Absent d.found.customerVatNumber) :
    (field "IdCodice" d.cessionario.anagrafici).isSome := by
  by_contra missing
  have none : d.found.customerVatNumber = none := by
    change textOf _ _ = _
    rw [textOf, Option.not_isSome_iff_eq_none.mp missing]
    rfl
  exact given (by rw [none]; rfl)

theorem total_iff (d : Document) :
    d.seen.totalCents = d.found.totalCents ↔
      (field "ImportoTotaleDocumento" d.body.general.parts = none → ∀ cs,
        (d.bodies.findSome? fun b => textOf b.general.parts "ImportoTotaleDocumento") = some cs → cs ≠ [] →
          toCents cs = d.found.subtotalCents.plus d.found.taxCents) := by
  change ifGiven d.total toCents (d.found.subtotalCents.plus d.found.taxCents) = _ ↔ _
  rw [total, invoices, List.findSome?_cons, Found.totalCents]
  cases found : field "ImportoTotaleDocumento" d.body.general.parts with
  | some l =>
      have own : d.found.total = some (trim l.text) := textOf_of_field found
      rw [own, textOf_of_field found]
      simp
  | none =>
      have own : textOf d.body.general.parts "ImportoTotaleDocumento" = none := by rw [textOf, found]; rfl
      rw [show d.found.total = none from own, own, ifGiven_of_absent (s := none) rfl]
      cases other : d.bodies.findSome? fun b => textOf b.general.parts "ImportoTotaleDocumento" with
      | none => simp [ifGiven]
      | some cs =>
          by_cases empty : cs = []
          · have absent : Absent (some cs) := empty
            rw [ifGiven_of_absent absent]
            simp [empty]
          · have given : ¬ Absent (some cs) := empty
            simp [ifGiven_of_not_absent given, empty]

theorem dueDate_iff (d : Document) :
    (d.seen.paymentDueDate.map fun cs => String.ofList (cs.take 10)) =
        (d.found.paymentDueDate.map fun cs => String.ofList (cs.take 10)) ↔
      (d.body.payments = [] → ∀ b ∈ (d.bodies.flatMap (·.payments)).head?,
        field "DataScadenzaPagamento" b.parts = none) := by
  change (d.dueDate.map fun cs => _) = ((d.body.payments.head?.bind _).map fun cs => _) ↔ _
  rw [dueDate, invoices, List.flatMap_cons]
  cases own : d.body.payments with
  | cons b bs => simp
  | nil =>
      cases other : (d.bodies.flatMap (·.payments)).head? with
      | none => simp [other]
      | some b => simp [other, textOf]

theorem Direct.parsed (direct : d.Direct) {p : ParsedFatturaPa} (parsed : d.seen.invoice = .ok p) :
    d.found.invoice = .ok p := by
  obtain ⟨complete, rfl⟩ := invoice_eq_ok.mp parsed
  have number : d.seen.invoiceNumber = d.found.invoiceNumber := read_of_unopened direct.number
  have date := d.date_iff.mpr direct.date
  have customer : d.seen.customerVatNumber = d.found.customerVatNumber := customer_of_isSome direct.customer
  have total := d.total_iff.mpr direct.total
  have dueDate := d.dueDate_iff.mpr direct.dueDate
  refine invoice_eq_ok.mpr ⟨⟨?_, ?_, complete.supplierVatNumber, ?_⟩, ?_⟩
  · exact number ▸ complete.invoiceNumber
  · intro absent
    rw [absent, List.take_nil, List.take_eq_nil_iff] at date
    exact complete.invoiceDate (date.resolve_left (by decide))
  · exact customer ▸ complete.customerVatNumber
  · unfold Found.parsed
    rw [number, date, customer, total, dueDate]
    rfl

end Document

theorem parseFatturaPa_right_iff {d : Document} (plain : d.Plain) :
    (∀ p, parseFatturaPa d.xml = .ok p → d.found.invoice = .ok p) ↔ d.Refused ∨ d.Direct := by
  rw [Document.parse_xml plain]
  constructor
  · intro right
    by_cases refused : d.Refused
    · exact .inl refused
    · have complete := (Document.complete_seen plain).mpr refused
      obtain ⟨own, same⟩ := invoice_eq_ok.mp (right _ (invoice_eq_ok.mpr ⟨complete, rfl⟩))
      have text : ∀ {cs ds : List Char}, String.ofList cs = String.ofList ds → cs = ds := String.ofList_injective
      refine .inr ⟨?_, ?_, ?_, ?_, ?_⟩
      · exact (Document.number_iff plain).mp (text (congrArg ParsedFatturaPa.invoiceNumber same))
      · exact d.date_iff.mp (text (congrArg ParsedFatturaPa.invoiceDate same))
      · exact Document.isSome_of_customer own.customerVatNumber
      · exact d.total_iff.mp (congrArg ParsedFatturaPa.totalCents same)
      · exact d.dueDate_iff.mp (congrArg ParsedFatturaPa.paymentDueDate same)
  · rintro (refused | direct) p parsed
    · exact absurd refused ((Document.complete_seen plain).mp (invoice_eq_ok.mp parsed).1)
    · exact direct.parsed parsed

/-! ## A transmission -/

section
variable {names apart differ : List String}

def around (name : String) (inner : List Piece) : List Piece :=
  .opening .bare name :: (inner ++ [.closing .bare name])

def words (name text : String) : List Piece := around name [.text text.toList]

def other (ps : List Piece) (beside : ∀ p ∈ ps, (∀ name ∈ p.name?, ∀ tag ∈ apart, ¬ tag.toList <+: name.toList) ∧
    ∀ name ∈ p.name?, name ∉ differ) : List (Beside apart differ) :=
  ps.pmap (fun p ok => ⟨p, ok.1, ok.2⟩) beside

def others (ps : List Piece) (beside : ∀ p ∈ ps, (∀ name ∈ p.name?, ∀ tag ∈ names ++ apart,
    ¬ tag.toList <+: name.toList) ∧ ∀ name ∈ p.name?, name ∉ differ) : List (Part names apart differ) :=
  (other ps beside).map .other

def value (name text : String) (listed : name ∈ names) : Part names apart differ :=
  .leaf name listed ⟨.bare, text.toList⟩

end

def trasmissione : List Piece :=
  around "DatiTrasmissione" (around "IdTrasmittente" (words "IdPaese" "IT" ++ words "IdCodice" "12345678901") ++
    words "ProgressivoInvio" "00001" ++ words "FormatoTrasmissione" "FPR12" ++ words "CodiceDestinatario" "0000000")

def anagrafici (code name : String) : List (Part partyNames looked stray) :=
  others (.opening .bare "DatiAnagrafici" :: .opening .bare "IdFiscaleIVA" :: words "IdPaese" "IT")
      (by decide +kernel) ++
    value "IdCodice" code (by decide) ::
      others [.closing .bare "IdFiscaleIVA", .opening .bare "Anagrafica"] (by decide +kernel) ++
    value "Denominazione" name (by decide) :: others [.closing .bare "Anagrafica"] (by decide +kernel)

def sede (street : String) : List Piece :=
  around "Sede" (words "Indirizzo" street ++ words "CAP" "00100" ++ words "Comune" "Roma" ++ words "Nazione" "IT")

def iscrizioneREA : List Piece :=
  around "IscrizioneREA" (words "Ufficio" "RM" ++ words "NumeroREA" "123456" ++ words "StatoLiquidazione" "LN")

def linea : Block lineNames looked where
  mark := .bare
  parts := others (words "NumeroLinea" "1") (by decide +kernel) ++
    [value "Descrizione" "Consulenza" (by decide), value "PrezzoUnitario" "100.00" (by decide),
      value "PrezzoTotale" "100.00" (by decide), value "AliquotaIVA" "22.00" (by decide)]

def riepilogo : Block summaryNames looked where
  mark := .bare
  parts := [value "AliquotaIVA" "22.00" (by decide), value "ImponibileImporto" "100.00" (by decide),
    value "Imposta" "22.00" (by decide)]

def corpo : Body where
  start := other [.opening .bare "FatturaElettronicaBody", .opening .bare "DatiGenerali"] (by decide +kernel)
  general := ⟨.bare, [value "TipoDocumento" "TD01" (by decide), value "Divisa" "EUR" (by decide),
    value "Data" "2026-04-28" (by decide), value "Numero" "42" (by decide)]⟩
  complete := by decide +kernel
  items := (other [.closing .bare "DatiGenerali", .opening .bare "DatiBeniServizi"] (by decide +kernel)).map .other ++
    .line linea :: .summary riepilogo :: (other [.closing .bare "DatiBeniServizi",
      .closing .bare "FatturaElettronicaBody"] (by decide +kernel)).map .other

def fattura : Document where
  start := other (.opening .bare "FatturaElettronica" :: .opening .bare "FatturaElettronicaHeader" :: trasmissione)
    (by decide +kernel)
  cedente := ⟨.bare, anagrafici "12345678901" "Alfa Srl" ++ others (words "RegimeFiscale" "RF01" ++
    [.closing .bare "DatiAnagrafici"]) (by decide +kernel), others (sede "Via Roma 1") (by decide +kernel)⟩
  between := []
  cessionario := ⟨.bare, anagrafici "09876543210" "Beta Srl" ++ others [.closing .bare "DatiAnagrafici"]
    (by decide +kernel), others (sede "Via Po 2") (by decide +kernel)⟩
  body := corpo
  bodies := []
  finish := other [.closing .bare "FatturaElettronica"] (by decide +kernel)

/-- The same invoice of a supplier that says more of itself. -/
def Document.registered (d : Document) (rea : List (Part [] (partyNames ++ looked) stray)) : Document :=
  { d with cedente := { d.cedente with rest := d.cedente.rest ++ rea } }

theorem plain_of_bare {d : Document} (bare : ∀ p ∈ d.pieces, p.Bare) : d.Plain :=
  fun tag listed p mem => (bare p mem).plain (word_of_sought tag listed)

theorem registered_bare {d : Document} {rea : List (Part [] (partyNames ++ looked) stray)}
    (bare : ∀ p ∈ d.pieces, p.Bare) (more : ∀ p ∈ content rea, p.Bare) :
    ∀ p ∈ (d.registered rea).pieces, p.Bare := by
  intro p mem
  by_cases inside : p ∈ content rea
  · exact more p inside
  · refine bare p ?_
    simp only [Document.registered, Document.pieces, Document.parties, Party.pieces, Party.content, content,
      List.flatMap_append, List.mem_append, List.mem_cons] at mem inside ⊢
    tauto

theorem fattura_bare : ∀ p ∈ fattura.pieces, p.Bare := by decide +kernel

theorem fattura_given : ¬ fattura.Refused := by
  rintro (⟨-, absent⟩ | ⟨-, absent⟩ | absent | absent) <;> exact absurd absent (by unfold Absent; decide)

theorem parseFatturaPa_right_fattura :
    ∃ p, parseFatturaPa fattura.xml = .ok p ∧ fattura.found.invoice = .ok p := by
  have plain : fattura.Plain := plain_of_bare fattura_bare
  have direct : fattura.Direct := by
    have number : Unopened "Numero" fattura.header := by unfold Unopened; decide +kernel
    have date : Unopened "Data" fattura.header := by unfold Unopened; decide +kernel
    refine ⟨number, fun rest stray => ?_, rfl, fun _ cs other => ?_, fun _ b other => ?_⟩
    · rw [after_eq_none.mpr date] at stray
      cases stray
    · cases other
    · cases other
  have complete := (Document.complete_seen plain).mpr fattura_given
  have parsed := (Document.parse_xml plain).trans (invoice_eq_ok.mpr ⟨complete, rfl⟩)
  exact ⟨_, parsed, (parseFatturaPa_right_iff plain).mpr (.inr direct) _ parsed⟩

/-- The number of the register is in `NumeroREA`. -/
def registrata : Document := fattura.registered (others iscrizioneREA (by decide +kernel))

theorem Found.toList_invoiceNumber (found : Found) (number date supplier customer : List Char) :
    (found.parsed number date supplier customer).invoiceNumber.toList = stripCdata number := String.toList_ofList

theorem parseFatturaPa_reads_numeroREA : ∃ p q, parseFatturaPa registrata.xml = .ok p ∧
    registrata.found.invoice = .ok q ∧ q.invoiceNumber = "42" ∧
    "123456</NumeroREA>".toList <+: p.invoiceNumber.toList := by
  have plain : registrata.Plain := by
    refine plain_of_bare (registered_bare fattura_bare ?_)
    decide +kernel
  have complete : registrata.seen.Complete := by
    refine (Document.complete_seen plain).mpr ?_
    rintro (⟨-, absent⟩ | ⟨-, absent⟩ | absent | absent) <;> exact absurd absent (by unfold Absent; decide)
  have own : registrata.found.Complete := by
    constructor <;> (unfold Absent; decide)
  have number : stripCdata (registrata.found.invoiceNumber.getD []) = ['4', '2'] := by decide +kernel
  have other : "123456</NumeroREA>".toList <+: stripCdata (registrata.seen.invoiceNumber.getD []) := by
    decide +kernel
  refine ⟨_, _, (Document.parse_xml plain).trans (invoice_eq_ok.mpr ⟨complete, rfl⟩),
    invoice_eq_ok.mpr ⟨own, rfl⟩, congrArg String.ofList number, ?_⟩
  rw [Found.toList_invoiceNumber]
  exact other

end SmartErp.Pec
