import SmartErp.Foundations.Regex
import SmartErp.Pec.PassiveParser

/-!
# Ingestion from the mailbox

`pec-ingest.service.ts`. `toString` is `body.toString('utf8')`, or the message of the error that it throws.
-/

namespace SmartErp.Pec
open Foundations

abbrev Buffer := List UInt8

structure PecMessageAttachment where
  filename : String
  mimeType : String
  body : Buffer
  deriving DecidableEq

structure PecMessage where
  messageId : String
  sender : String
  recipient : String
  subject : String
  receivedAt : String
  attachments : List PecMessageAttachment
  deriving DecidableEq

structure PecIngestSupplierInvoiceCandidate where
  parsed : ParsedFatturaPa
  pecMessageId : String
  rawXml : Buffer
  filename : String
  deriving DecidableEq

structure PecIngestErrorOutcome where
  pecMessageId : String
  filename : String
  errorCode : String
  errorMessage : String
  deriving DecidableEq

structure PecIngestSummary where
  tenantId : String
  inspectedMessages : ℕ
  candidates : List PecIngestSupplierInvoiceCandidate
  errors : List PecIngestErrorOutcome
  deriving DecidableEq

/-! ## Selection -/

/-- `[A-Z0-9]` with the flag `i` -/
def alphanumeric (c : Char) : Bool := c.isAlphanum

/-- A literal with the flag `i` -/
def anyCase (t : String) : Regex :=
  t.toList.foldr (fun c r => (Regex.chars fun d => d.toLower = c.toLower).seq r) .empty

/-- `^IT[A-Z0-9]+_[A-Z0-9]+\.xml(?:\.p7m)?$` -/
def FATTURAPA_NAME (name : String) : Bool :=
  let regex := (anyCase "IT").seq ((Regex.atLeast 1 alphanumeric).seq ((anyCase "_").seq
    ((Regex.atLeast 1 alphanumeric).seq ((anyCase ".xml").seq (anyCase ".p7m").optional))))
  (regex.run name.toList).any fun r => r.2 = []

def picks (a : PecMessageAttachment) : Bool :=
  FATTURAPA_NAME a.filename || a.mimeType = "application/xml" || a.mimeType = "text/xml"

def pickFatturaPaAttachments (msg : PecMessage) : List PecMessageAttachment := msg.attachments.filter picks

/-- `filename.toLowerCase().endsWith('.p7m')` -/
def signed (filename : String) : Bool := ".p7m".toList.isSuffixOf (filename.toList.map Char.toLower)

/-- `m.slice(0, n)`, where a surrogate pair that is cut in half is left out. -/
def sliceUnits : ℕ → List Char → List Char
  | _, [] => []
  | n, c :: cs =>
      let units := if c.toNat < 0x10000 then 1 else 2
      if units ≤ n then c :: sliceUnits (n - units) cs else []

/-! ## The loops -/

inductive Thrown where
  | parse (err : FatturaPaParseError)
  | error (message : String)

structure Lists where
  candidates : List PecIngestSupplierInvoiceCandidate
  errors : List PecIngestErrorOutcome

section
variable (toString : Buffer → Except String (List Char))

/-- The body of the `try` for an attachment that is not signed. -/
def readBody (body : Buffer) : Except Thrown ParsedFatturaPa :=
  match toString body with
  | .error message => .error (.error message)
  | .ok xml =>
      match parseFatturaPa xml with
      | .error err => .error (.parse err)
      | .ok parsed => .ok parsed

def ingestAttachment (msg : PecMessage) (lists : Lists) (att : PecMessageAttachment) : Lists :=
  if signed att.filename then
    { lists with
      errors := lists.errors ++ [⟨msg.messageId, att.filename, "p7m_unwrap_not_implemented",
        "Signed .xml.p7m attachments are not yet unwrapped — scheduled for plan §31.2 Sprint 24."⟩] }
  else
    match readBody toString att.body with
    | .ok parsed =>
        { lists with candidates := lists.candidates ++ [⟨parsed, msg.messageId, att.body, att.filename⟩] }
    | .error (.parse err) =>
        { lists with errors := lists.errors ++ [⟨msg.messageId, att.filename, err.code, err.message⟩] }
    | .error (.error message) =>
        { lists with
          errors := lists.errors ++
            [⟨msg.messageId, att.filename, "unexpected", String.ofList (sliceUnits 2000 message.toList)⟩] }

def ingestMessage (lists : Lists) (msg : PecMessage) : Lists :=
  let fpaAttachments := pickFatturaPaAttachments msg
  if fpaAttachments.length = 0 then lists else fpaAttachments.foldl (ingestAttachment toString msg) lists

/-- `listUnseen` gives the first messages up to the limit, which is 100 where the caller gives none. -/
def listFatturaPaCandidates (tenantId : String) (mailbox : List PecMessage) (limit : ℕ) : PecIngestSummary :=
  let messages := mailbox.take limit
  let lists := messages.foldl (ingestMessage toString) ⟨[], []⟩
  { tenantId, inspectedMessages := messages.length, candidates := lists.candidates, errors := lists.errors }

/-! ## The law -/

def selected (messages : List PecMessage) : List (PecMessage × PecMessageAttachment) :=
  messages.flatMap fun msg => (pickFatturaPaAttachments msg).map fun att => (msg, att)

def candidateOf (p : PecMessage × PecMessageAttachment) : Option PecIngestSupplierInvoiceCandidate :=
  if signed p.2.filename then none
  else (readBody toString p.2.body).toOption.map fun parsed => ⟨parsed, p.1.messageId, p.2.body, p.2.filename⟩

structure ErrorOf (p : PecMessage × PecMessageAttachment) (e : PecIngestErrorOutcome) : Prop where
  message : e.pecMessageId = p.1.messageId
  filename : e.filename = p.2.filename
  reason : signed p.2.filename = true ∧ e.errorCode = "p7m_unwrap_not_implemented" ∨
    signed p.2.filename = false ∧ ∃ thrown, readBody toString p.2.body = .error thrown

/-- The candidates are those of the selected attachments that are one, in their order, and the errors stand
for the others, in theirs. -/
structure Conserves (messages : List PecMessage) (summary : PecIngestSummary) : Prop where
  candidates : summary.candidates = (selected messages).filterMap (candidateOf toString)
  errors : List.Forall₂ (ErrorOf toString)
    ((selected messages).filter fun p => candidateOf toString p = none) summary.errors

structure Removes (msg : PecMessage) (summary rest : PecIngestSummary) : Prop where
  candidates : ∃ before own after, summary.candidates = before ++ own ++ after ∧
    rest.candidates = before ++ after ∧ own = (selected [msg]).filterMap (candidateOf toString)
  errors : ∃ before own after, summary.errors = before ++ own ++ after ∧ rest.errors = before ++ after ∧
    List.Forall₂ (ErrorOf toString) ((selected [msg]).filter fun p => candidateOf toString p = none) own

/-! ## One attachment -/

def errorOf (p : PecMessage × PecMessageAttachment) : Option PecIngestErrorOutcome :=
  if signed p.2.filename then
    some ⟨p.1.messageId, p.2.filename, "p7m_unwrap_not_implemented",
      "Signed .xml.p7m attachments are not yet unwrapped — scheduled for plan §31.2 Sprint 24."⟩
  else
    match readBody toString p.2.body with
    | .ok _ => none
    | .error (.parse err) => some ⟨p.1.messageId, p.2.filename, err.code, err.message⟩
    | .error (.error message) =>
        some ⟨p.1.messageId, p.2.filename, "unexpected", String.ofList (sliceUnits 2000 message.toList)⟩

variable {toString}

theorem ingestAttachment_eq (p : PecMessage × PecMessageAttachment) (lists : Lists) :
    ingestAttachment toString p.1 lists p.2 =
      ⟨lists.candidates ++ (candidateOf toString p).toList, lists.errors ++ (errorOf toString p).toList⟩ := by
  unfold ingestAttachment candidateOf errorOf
  by_cases p7m : signed p.2.filename = true
  · simp [p7m]
  · cases read : readBody toString p.2.body with
    | ok parsed => simp [p7m, Except.toOption]
    | error thrown => cases thrown <;> simp [p7m, Except.toOption]

variable (toString) in
theorem outcome_cases (p : PecMessage × PecMessageAttachment) :
    (∃ c, candidateOf toString p = some c ∧ errorOf toString p = none) ∨
      (candidateOf toString p = none ∧ ∃ e, errorOf toString p = some e ∧ ErrorOf toString p e) := by
  unfold candidateOf errorOf
  by_cases p7m : signed p.2.filename = true
  · rw [if_pos p7m, if_pos p7m]
    exact .inr ⟨rfl, _, rfl, rfl, rfl, .inl ⟨p7m, rfl⟩⟩
  · have unsigned : signed p.2.filename = false := Bool.not_eq_true _ ▸ p7m
    simp only [unsigned, Bool.false_eq_true, if_false]
    cases read : readBody toString p.2.body with
    | ok parsed => exact .inl ⟨_, rfl, rfl⟩
    | error thrown =>
      cases thrown with
      | parse err => exact .inr ⟨rfl, _, rfl, rfl, rfl, .inr ⟨unsigned, _, read⟩⟩
      | error message => exact .inr ⟨rfl, _, rfl, rfl, rfl, .inr ⟨unsigned, _, read⟩⟩

theorem errors_forall₂ (ps : List (PecMessage × PecMessageAttachment)) :
    List.Forall₂ (ErrorOf toString) (ps.filter fun p => candidateOf toString p = none)
      (ps.filterMap (errorOf toString)) := by
  induction ps with
  | nil => exact .nil
  | cons p ps ih =>
    obtain ⟨c, candidate, none⟩ | ⟨none, e, error, own⟩ := outcome_cases toString p
    · simpa [candidate, none] using ih
    · simpa [none, error] using List.Forall₂.cons own ih

/-! ## All messages -/

theorem ingestMessage_eq (lists : Lists) (msg : PecMessage) :
    ingestMessage toString lists msg =
      (pickFatturaPaAttachments msg).foldl (ingestAttachment toString msg) lists := by
  unfold ingestMessage
  cases pickFatturaPaAttachments msg with
  | nil => rfl
  | cons => rfl

theorem foldl_ingestMessage (messages : List PecMessage) (lists : Lists) :
    messages.foldl (ingestMessage toString) lists =
      ⟨lists.candidates ++ (selected messages).filterMap (candidateOf toString),
        lists.errors ++ (selected messages).filterMap (errorOf toString)⟩ := by
  have each (ps : List (PecMessage × PecMessageAttachment)) (lists : Lists) :
      ps.foldl (fun lists p => ingestAttachment toString p.1 lists p.2) lists =
        ⟨lists.candidates ++ ps.filterMap (candidateOf toString),
          lists.errors ++ ps.filterMap (errorOf toString)⟩ := by
    induction ps generalizing lists with
    | nil => simp
    | cons p ps ih =>
      rw [List.foldl_cons, ih, ingestAttachment_eq]
      cases candidate : candidateOf toString p <;> cases error : errorOf toString p <;> simp [candidate, error]
  rw [← each, selected, List.foldl_flatMap]
  congr 1
  funext lists msg
  rw [ingestMessage_eq, List.foldl_map]

theorem selected_append (before after : List PecMessage) :
    selected (before ++ after) = selected before ++ selected after := List.flatMap_append

theorem selected_cons (msg : PecMessage) (after : List PecMessage) :
    selected (msg :: after) = selected [msg] ++ selected after := selected_append [msg] after

variable (toString) in
/-- What is ingested are the messages that are listed, one by one; where all unseen ones are, a message that
leaves the mailbox takes its own entries with it. -/
theorem ingest_conserves (tenantId : String) (mailbox : List PecMessage) (limit : ℕ) :
    Conserves toString (mailbox.take limit) (listFatturaPaCandidates toString tenantId mailbox limit) ∧
      ∀ before msg after, mailbox = before ++ msg :: after → mailbox.length ≤ limit →
        Removes toString msg (listFatturaPaCandidates toString tenantId mailbox limit)
          (listFatturaPaCandidates toString tenantId (before ++ after) limit) := by
  constructor
  · constructor
    · simp [listFatturaPaCandidates, foldl_ingestMessage]
    · simpa [listFatturaPaCandidates, foldl_ingestMessage] using errors_forall₂ (selected (mailbox.take limit))
  · rintro before msg after rfl all
    have fewer : (before ++ after).length ≤ limit := by
      simp only [List.length_append, List.length_cons] at all ⊢
      omega
    simp only [listFatturaPaCandidates, List.take_of_length_le all, List.take_of_length_le fewer,
      foldl_ingestMessage, selected_append before, selected_cons msg after]
    constructor
    · refine ⟨(selected before).filterMap (candidateOf toString), _,
        (selected after).filterMap (candidateOf toString), ?_, ?_, rfl⟩ <;> simp
    · refine ⟨(selected before).filterMap (errorOf toString), _,
        (selected after).filterMap (errorOf toString), ?_, ?_, errors_forall₂ _⟩ <;> simp

end

def signedInvoice : PecMessageAttachment := ⟨"IT12345678901_00001.xml.p7m", "application/pkcs7-mime", []⟩

def delivery (messageId : String) : PecMessage where
  messageId
  sender := "sdi01@pec.fatturapa.it"
  recipient := "tenant@pec.example.it"
  subject := "IT12345678901_00001"
  receivedAt := "2026-04-28T10:00:00Z"
  attachments := [signedInvoice]

def ascii (body : Buffer) : Except String (List Char) := .ok (body.map fun b => Char.ofNat b.toNat)

theorem selected_delivery (messageId : String) (rest : List PecMessage) :
    selected (delivery messageId :: rest) = (delivery messageId, signedInvoice) :: selected rest := by
  have picked : picks signedInvoice = true := by decide +kernel
  simp [selected, pickFatturaPaAttachments, delivery, picked]

theorem candidateOf_delivery (messageId : String) : candidateOf ascii (delivery messageId, signedInvoice) = none := by
  have p7m : signed signedInvoice.filename = true := by decide +kernel
  rw [candidateOf, if_pos p7m]

theorem errors_delivery (messageId : String) (rest : List PecMessage) :
    (listFatturaPaCandidates ascii "tenant-1" (delivery messageId :: rest) 1).errors.map (·.pecMessageId) =
      [messageId] := by
  have p7m : signed signedInvoice.filename = true := by decide +kernel
  have nothing : selected [] = [] := rfl
  have listed : (delivery messageId :: rest).take 1 = [delivery messageId] := rfl
  rw [listFatturaPaCandidates, listed, foldl_ingestMessage, selected_delivery, nothing]
  simp [errorOf, p7m, delivery]

/-- Two deliveries where one is asked for: the other is not ingested, and takes the place of the first when
that is gone. -/
theorem limit_conserves_not :
    ¬ Conserves ascii [delivery "1", delivery "2"]
        (listFatturaPaCandidates ascii "tenant-1" [delivery "1", delivery "2"] 1) ∧
      ¬ Removes ascii (delivery "1") (listFatturaPaCandidates ascii "tenant-1" [delivery "1", delivery "2"] 1)
        (listFatturaPaCandidates ascii "tenant-1" [delivery "2"] 1) := by
  have two := congrArg List.length (errors_delivery "1" [delivery "2"])
  have one := congrArg List.length (errors_delivery "2" [])
  have nothing : selected [] = [] := rfl
  rw [List.length_map, List.length_singleton] at two one
  constructor
  · intro conserves
    have count := conserves.errors.length_eq
    rw [two, selected_delivery, selected_delivery, nothing] at count
    simp [candidateOf_delivery] at count
  · intro removes
    obtain ⟨before, own, after, all, rest, entries⟩ := removes.errors
    have single := entries.length_eq
    rw [selected_delivery, nothing] at single
    rw [all] at two
    rw [rest] at one
    simp [candidateOf_delivery] at single
    simp only [List.length_append] at two one
    omega

end SmartErp.Pec
