import SmartErp.Foundations.Elements
import SmartErp.Foundations.Spelling

/-!
# The pain.001 message

`sepa-pain001.ts`, which is one template, printed here element by element; and a reader of such messages, which
takes the elements in the order they are printed in. A message is the list of its characters.
-/

namespace SmartErp.Treasury.Pain001
open Foundations Foundations.Xml

/-- `YYYY-MM-DD` -/
structure IsoDate where
  text : String
  shape : text.toList.map (fun c => if c.isDigit then '0' else c) = "0000-00-00".toList

/-- `new Date()` -/
structure Instant where
  toISOString : String
  figures : ∀ c ∈ toISOString.toList, c.isAlphanum = true ∨ c ∈ ['-', ':', '.', '+']

structure PainPayment where
  endToEndId : String
  amountCents : ℕ
  currency : String
  beneficiaryName : String
  beneficiaryIban : String
  beneficiaryBic : Option String := none
  remittanceInfo : Option String := none
  requestedExecutionDate : IsoDate
  amount_pos : 0 < amountCents
  amount_number : (JsNumber.finite amountCents).double = .finite amountCents

structure PainBatchInput where
  msgId : String
  initiatorName : String
  initiatorIban : String
  initiatorBic : Option String := none
  payments : List PainPayment

/-! ## The builder -/

/-- `s.replace(/c/g, by)` -/
def replace (c : Char) (text : String) (s : List Char) : List Char :=
  s.flatMap fun d => if d = c then text.toList else [d]

def escapeXml (s : String) : List Char :=
  replace apostrophe "&apos;" (replace quote "&quot;" (replace '>' "&gt;" (replace '<' "&lt;"
    (replace '&' "&amp;" s.toList))))

/-- A text that is given and not empty. -/
def truthy (s : Option String) : Option String := s.filter (· ≠ "")

/-- `(cents / 100).toFixed(2)` -/
def euro (cents : JsNumber) : List Char := ((cents.dividedBy (.finite 100)).toFixed 2).toList

def totalCents (payments : List PainPayment) : JsNumber :=
  payments.foldl (fun acc p => acc.plus (.finite p.amountCents)) (.finite 0)

def transactionLines (p : PainPayment) : List Char :=
  [block 8 "PmtId" (line 10 (inline "EndToEndId" (escapeXml p.endToEndId))),
    block 8 "Amt" (line 10 (valueTag "InstdAmt" "Ccy" ++ (escapeXml p.currency ++
      ([quote, '>'] ++ (euro (.finite p.amountCents) ++ endTag "InstdAmt"))))),
    block 8 "Cdtr" (line 10 (inline "Nm" (escapeXml p.beneficiaryName))),
    block 8 "CdtrAcct" (line 10 (inline "Id" (inline "IBAN" (escapeXml p.beneficiaryIban)))),
    (truthy p.beneficiaryBic).elim [] fun bic =>
      line 8 (inline "CdtrAgt" (inline "FinInstnId" (inline "BICFI" (escapeXml bic)))),
    (truthy p.remittanceInfo).elim [] fun info => line 8 (inline "RmtInf" (inline "Ustrd" (escapeXml info)))].flatten

def transaction (p : PainPayment) : List Char :=
  List.replicate 6 ' ' ++ (startTag "CdtTrfTxInf" ++ (transactionLines p ++ line 6 (endTag "CdtTrfTxInf")))

def totalsLines (input : PainBatchInput) : List Char :=
  line 6 (inline "NbOfTxs" (Nat.toDigits 10 input.payments.length)) ++
    line 6 (inline "CtrlSum" (euro (totalCents input.payments)))

def groupHeaderLines (now : Instant) (input : PainBatchInput) : List Char :=
  [line 6 (inline "MsgId" (escapeXml input.msgId)),
    line 6 (inline "CreDtTm" now.toISOString.toList),
    totalsLines input,
    block 6 "InitgPty" (line 8 (inline "Nm" (escapeXml input.initiatorName)))].flatten

def executionDate (now : Instant) (input : PainBatchInput) : List Char :=
  (input.payments.head?.map (·.requestedExecutionDate.text.toList)).getD (now.toISOString.toList.take 10)

def paymentInformationLines (now : Instant) (input : PainBatchInput) : List Char :=
  [line 6 (inline "PmtInfId" (escapeXml input.msgId ++ "-PI1".toList)),
    line 6 (inline "PmtMtd" "TRF".toList),
    totalsLines input,
    line 6 (inline "ReqdExctnDt" (inline "Dt" (executionDate now input))),
    block 6 "Dbtr" (line 8 (inline "Nm" (escapeXml input.initiatorName))),
    block 6 "DbtrAcct" (line 8 (inline "Id" (inline "IBAN" (escapeXml input.initiatorIban)))),
    (truthy input.initiatorBic).elim [] fun bic =>
      line 6 (inline "DbtrAgt" (inline "FinInstnId" (inline "BICFI" (escapeXml bic)))),
    '\n' :: List.intercalate ['\n'] (input.payments.map transaction)].flatten

def declaration : List Char := '<' :: "?xml version=\"1.0\" encoding=\"UTF-8\"?>".toList

def document : List Char := '<' :: "Document xmlns=\"urn:iso:std:iso:20022:tech:xsd:pain.001.001.09\">".toList

def buildPain001 (now : Instant) (input : PainBatchInput) : List Char :=
  [declaration,
    line 0 document,
    block 2 "CstmrCdtTrfInitn"
      (block 4 "GrpHdr" (groupHeaderLines now input) ++ block 4 "PmtInf" (paymentInformationLines now input)),
    line 0 (endTag "Document"),
    ['\n']].flatten

/-! ## The reader -/

structure Totals where
  nbOfTxs : ℕ
  ctrlSum : ℚ
  deriving DecidableEq

structure Instruction where
  endToEndId : String
  amount : ℚ
  currency : String
  beneficiaryName : String
  beneficiaryIban : String
  beneficiaryBic : Option String
  remittanceInfo : Option String
  requestedExecutionDate : String
  deriving DecidableEq

structure Message where
  groupHeader : Totals
  paymentInformation : Totals
  payments : List Instruction
  deriving DecidableEq

def number (cs : List Char) : Option ℕ :=
  if cs.all Char.isDigit ∧ cs ≠ [] then some (Nat.ofDigitChars 10 cs 0) else none

section
open Reader

def field (name : String) : Reader String := do return String.ofList (← text name)

def totals : Reader Totals := do
  let length ← text "NbOfTxs"
  let nbOfTxs ← lift (number length)
  let sum ← text "CtrlSum"
  let ctrlSum ← lift (parseUnsigned sum)
  return ⟨nbOfTxs, ctrlSum⟩

def party (name : String) : Reader String := element name (field "Nm")
def account (name : String) : Reader String := element name (element "Id" (field "IBAN"))
def agent (name : String) : Reader (Option String) :=
  optional name (element name (element "FinInstnId" (field "BICFI")))

def instructed : Reader (String × ℚ) := do
  let both ← element "Amt" (valued "InstdAmt" "Ccy")
  let amount ← lift (parseUnsigned both.2)
  return (String.ofList both.1, amount)

def instruction (date : String) : Reader Instruction := do
  let endToEndId ← element "PmtId" (field "EndToEndId")
  let amount ← instructed
  let beneficiaryName ← party "Cdtr"
  let beneficiaryIban ← account "CdtrAcct"
  let beneficiaryBic ← agent "CdtrAgt"
  let remittanceInfo ← optional "RmtInf" (element "RmtInf" (field "Ustrd"))
  return ⟨endToEndId, amount.2, amount.1, beneficiaryName, beneficiaryIban, beneficiaryBic, remittanceInfo, date⟩

def groupHeader : Reader Totals := do
  let _ ← field "MsgId"
  let _ ← field "CreDtTm"
  let header ← totals
  let _ ← party "InitgPty"
  return header

def paymentInformation : Reader (Totals × List Instruction) := do
  let _ ← field "PmtInfId"
  let _ ← field "PmtMtd"
  let header ← totals
  let date ← element "ReqdExctnDt" (field "Dt")
  let _ ← party "Dbtr"
  let _ ← account "DbtrAcct"
  let _ ← agent "DbtrAgt"
  let payments ← many "CdtTrfTxInf" (element "CdtTrfTxInf" (instruction date))
  return (header, payments)

def initiation : Reader Message := do
  let header ← element "GrpHdr" groupHeader
  let payments ← element "PmtInf" paymentInformation
  return ⟨header, payments.1, payments.2⟩

def message : Reader Message := do
  tag declaration
  tag document
  let read ← element "CstmrCdtTrfInitn" initiation
  closing "Document"
  return read

def decode (m : List Char) : Option Message := do
  let read ← message m
  if read.2.all blank then some read.1 else none

end

/-! ## What is read of a message -/

def received (s : String) : Option String := (content (escape s.toList)).map String.ofList

def receivedValue (s : String) : Option String := (value (escape s.toList)).map String.ofList

def receivedIf (s : Option String) : Option (Option String) :=
  (truthy s).elim (some none) fun s => (received s).map some

namespace PainPayment

def receivedAmount (p : PainPayment) : Option (String × ℚ) := do
  let currency ← receivedValue p.currency
  let amount ← parseUnsigned (euro (.finite p.amountCents))
  return (currency, amount)

def received (p : PainPayment) (date : String) : Option Instruction := do
  let endToEndId ← Pain001.received p.endToEndId
  let amount ← p.receivedAmount
  let beneficiaryName ← Pain001.received p.beneficiaryName
  let beneficiaryIban ← Pain001.received p.beneficiaryIban
  let beneficiaryBic ← receivedIf p.beneficiaryBic
  let remittanceInfo ← receivedIf p.remittanceInfo
  return ⟨endToEndId, amount.2, amount.1, beneficiaryName, beneficiaryIban, beneficiaryBic, remittanceInfo, date⟩

end PainPayment

namespace PainBatchInput

def receivedTotals (input : PainBatchInput) : Option Totals := do
  let ctrlSum ← parseUnsigned (euro (totalCents input.payments))
  return ⟨input.payments.length, ctrlSum⟩

def receivedHeader (input : PainBatchInput) : Option Totals := do
  let _ ← Pain001.received input.msgId
  let header ← input.receivedTotals
  let _ ← Pain001.received input.initiatorName
  return header

def receivedPayments (input : PainBatchInput) (date : String) : Option (Totals × List Instruction) := do
  let _ ← Pain001.received (input.msgId ++ "-PI1")
  let header ← input.receivedTotals
  let _ ← Pain001.received input.initiatorName
  let _ ← Pain001.received input.initiatorIban
  let _ ← receivedIf input.initiatorBic
  let payments ← input.payments.mapM (·.received date)
  return (header, payments)

def received (input : PainBatchInput) (date : String) : Option Message := do
  let header ← input.receivedHeader
  let payments ← input.receivedPayments date
  return ⟨header, payments.1, payments.2⟩

end PainBatchInput

section
open Reader
variable {next : List Char → Prop} {s name : String} {ws cs : List Char}

theorem escapeXml_eq (s : String) : escapeXml s = escape s.toList := replaced_eq s.toList

theorem toNat_alphanum {c : Char} (word : c.isAlphanum = true) : 48 ≤ c.toNat ∧ c.toNat ≤ 122 := by
  have ranges : ((c.isUpper || c.isLower) || c.isDigit) = true := word
  rw [Bool.or_eq_true, Bool.or_eq_true] at ranges
  rcases ranges with (upper | lower) | digit
  · have inside : 65 ≤ c.toNat ∧ c.toNat ≤ 90 := of_decide_eq_true upper
    omega
  · have inside := Bool.and_eq_true_iff.mp lower
    have low : 97 ≤ c.toNat := of_decide_eq_true inside.1
    have high : c.toNat ≤ 122 := of_decide_eq_true inside.2
    omega
  · have inside := Char.isDigit_iff_toNat.mp digit
    have high : c.toNat ≤ 57 := inside.2
    exact ⟨inside.1, by omega⟩

theorem content_figures (figures : ∀ c ∈ cs, c.isAlphanum = true ∨ c ∈ ['-', ':', '.', '+']) :
    content cs = some cs ∧ '<' ∉ cs := by
  have plain : ∀ c ∈ cs, entity c = [c] ∧ legal c = true ∧ c ≠ '\r' := by
    intro c mem
    rcases figures c mem with word | sign
    · have apart (d : Char) (other : d.isAlphanum = false) : c ≠ d := by
        rintro rfl
        rw [other] at word
        cases word
      refine ⟨?_, ?_, apart _ (by decide)⟩
      · simp only [entity, apart '&' (by decide), apart '<' (by decide), apart '>' (by decide), apart quote (by decide),
          apart apostrophe (by decide), if_false]
      · have size := toNat_alphanum word
        simp only [legal, Bool.or_eq_true, Bool.and_eq_true, decide_eq_true_eq, bne_iff_ne]
        omega
    · have known : ∀ c ∈ ['-', ':', '.', '+'], entity c = [c] ∧ legal c = true ∧ c ≠ '\r' :=
        List.all_iff_forall_prop.mp (by decide)
      exact known c sign
  have same : escape cs = cs := by
    rw [escape, List.flatMap_congr fun c mem => (plain c mem).1]
    exact List.flatMap_singleton' cs
  constructor
  · have kept : content (escape cs) = some cs := content_eq_some_iff.mpr fun c mem => (plain c mem).2
    rwa [same] at kept
  · rw [← same]
    exact not_mem_escape (by decide)

theorem reads_field (white : ∀ c ∈ ws, blank c = true) :
    Reads next (field name) (ws ++ inline name (escapeXml s)) (received s) := by
  rw [escapeXml_eq]
  exact (reads_text white (not_mem_escape (by decide))).map

theorem reads_figures (white : ∀ c ∈ ws, blank c = true)
    (figures : ∀ c ∈ cs, c.isAlphanum = true ∨ c ∈ ['-', ':', '.', '+']) :
    Reads next (text name) (ws ++ inline name cs) (some cs) := by
  obtain ⟨same, free⟩ := content_figures figures
  rw [← same]
  exact reads_text white free

theorem reads_figuresLine {n : ℕ} (figures : ∀ c ∈ cs, c.isAlphanum = true ∨ c ∈ ['-', ':', '.', '+']) :
    Reads next (text name) (line n (inline name cs)) (some cs) := by
  have read : Reads next (text name) (('\n' :: List.replicate n ' ') ++ inline name cs) (some cs) :=
    reads_figures (white_line n) figures
  exact read

theorem reads_figuresBare (figures : ∀ c ∈ cs, c.isAlphanum = true ∨ c ∈ ['-', ':', '.', '+']) :
    Reads next (text name) (inline name cs) (some cs) := by
  have read : Reads next (text name) ([] ++ inline name cs) (some cs) :=
    reads_figures (fun _ mem => nomatch mem) figures
  exact read

theorem reads_line {n : ℕ} : Reads next (field name) (line n (inline name (escapeXml s))) (received s) := by
  have read : Reads next (field name) (('\n' :: List.replicate n ' ') ++ inline name (escapeXml s)) (received s) :=
    reads_field (white_line n)
  exact read

theorem reads_inline : Reads next (field name) (inline name (escapeXml s)) (received s) := by
  have read : Reads next (field name) ([] ++ inline name (escapeXml s)) (received s) :=
    reads_field fun _ mem => nomatch mem
  exact read

theorem reads_party {n m : ℕ} :
    Reads next (party name) (block n name (line m (inline "Nm" (escapeXml s)))) (received s) := by
  have body : Reads Always (field "Nm") (line m (inline "Nm" (escapeXml s))) (received s) := reads_line
  exact body.block fun _ => trivial

theorem reads_account {n m : ℕ} :
    Reads next (account name) (block n name (line m (inline "Id" (inline "IBAN" (escapeXml s))))) (received s) := by
  have iban : Reads Always (field "IBAN") (inline "IBAN" (escapeXml s)) (received s) := reads_inline
  have body : Reads Always (element "Id" (field "IBAN")) (line m (inline "Id" (inline "IBAN" (escapeXml s))))
      (received s) := iban.line fun _ => trivial
  exact body.block fun _ => trivial

theorem reads_agent {n : ℕ} (bic : Option String) :
    Reads (fun rest => ¬ Starts name rest) (agent name)
      ((truthy bic).elim [] fun bic => line n (inline name (inline "FinInstnId" (inline "BICFI" (escapeXml bic)))))
      (receivedIf bic) := by
  apply reads_optional
  · intro bic _
    have field : Reads Always (field "BICFI") (inline "BICFI" (escapeXml bic)) (received bic) := reads_inline
    have body : Reads Always (element "FinInstnId" (Pain001.field "BICFI"))
        (inline "FinInstnId" (inline "BICFI" (escapeXml bic))) (received bic) := field.inline fun _ => trivial
    exact body.line fun _ => trivial
  · intro bic _ rest
    exact starts_inline n _ _

theorem reads_info (info : Option String) :
    Reads (fun rest => ¬ Starts "RmtInf" rest) (optional "RmtInf" (element "RmtInf" (field "Ustrd")))
      ((truthy info).elim [] fun info => line 8 (inline "RmtInf" (inline "Ustrd" (escapeXml info))))
      (receivedIf info) := by
  apply reads_optional
  · intro info _
    have body : Reads Always (field "Ustrd") (inline "Ustrd" (escapeXml info)) (received info) := reads_inline
    exact body.line fun _ => trivial
  · intro info _ rest
    exact starts_inline 8 _ _

theorem figures_euro (cents : JsNumber) : ∀ c ∈ euro cents, c.isAlphanum = true ∨ c ∈ ['-', ':', '.', '+'] := by
  intro c mem
  rcases JsNumber.figure_toFixed mem with word | rfl | rfl | rfl
  · exact .inl word
  all_goals exact .inr (by decide)

theorem figures_toDigits (n : ℕ) : ∀ c ∈ Nat.toDigits 10 n, c.isAlphanum = true ∨ c ∈ ['-', ':', '.', '+'] := by
  intro c mem
  exact .inl (by simp [Char.isAlphanum, isDigit_toDigits mem])

theorem number_toDigits (n : ℕ) : number (Nat.toDigits 10 n) = some n := by
  have digits : (Nat.toDigits 10 n).all Char.isDigit = true := List.all_eq_true.mpr fun c mem => isDigit_toDigits mem
  rw [number, if_pos ⟨digits, Nat.toDigits_ne_nil⟩, Nat.ofDigitChars_ten_toDigits]

theorem reads_totals (input : PainBatchInput) :
    Reads next totals (totalsLines input) input.receivedTotals := by
  have length : Reads Always (text "NbOfTxs") (line 6 (inline "NbOfTxs" (Nat.toDigits 10 input.payments.length)))
      (some (Nat.toDigits 10 input.payments.length)) := reads_figuresLine (figures_toDigits _)
  have sum : Reads Always (text "CtrlSum") (line 6 (inline "CtrlSum" (euro (totalCents input.payments))))
      (some (euro (totalCents input.payments))) := reads_figuresLine (figures_euro _)
  have nbOfTxs : Reads Always (lift (number (Nat.toDigits 10 input.payments.length))) [] (some input.payments.length) := by
    rw [number_toDigits]
    exact reads_lift
  have rest : Reads next
      (do let sum ← text "CtrlSum"; let ctrlSum ← lift (parseUnsigned sum); return ⟨input.payments.length, ctrlSum⟩)
      (line 6 (inline "CtrlSum" (euro (totalCents input.payments))) ++ []) input.receivedTotals :=
    sum.andThen (Reads.ret reads_lift) fun _ _ => trivial
  rw [List.append_nil] at rest
  exact length.andThen (nbOfTxs.andThen rest fun _ _ => trivial) fun _ _ => trivial

theorem reads_instructed {p : PainPayment} :
    Reads next instructed
      (block 8 "Amt" (line 10 (valueTag "InstdAmt" "Ccy" ++ (escapeXml p.currency ++
        ([quote, '>'] ++ (euro (.finite p.amountCents) ++ endTag "InstdAmt")))))) p.receivedAmount := by
  obtain ⟨same, free⟩ := content_figures (figures_euro (.finite p.amountCents))
  have inner : Reads Always (valued "InstdAmt" "Ccy")
      (line 10 (valueTag "InstdAmt" "Ccy" ++ (escapeXml p.currency ++
        ([quote, '>'] ++ (euro (.finite p.amountCents) ++ endTag "InstdAmt")))))
      (do return (← value (escape p.currency.toList), ← some (euro (.finite p.amountCents)))) := by
    have read : Reads Always (valued "InstdAmt" "Ccy")
        (('\n' :: List.replicate 10 ' ') ++ (valueTag "InstdAmt" "Ccy" ++ (escape p.currency.toList ++
          ([quote, '>'] ++ (euro (.finite p.amountCents) ++ endTag "InstdAmt")))))
        (do return (← value (escape p.currency.toList), ← content (euro (.finite p.amountCents)))) :=
      reads_valued (white_line 10) (not_mem_escape (by decide)) free
    rw [same] at read
    rw [escapeXml_eq]
    exact read
  have amount (both : List Char × List Char) :
      Reads next (do return (String.ofList both.1, ← lift (parseUnsigned both.2))) []
        (do return (String.ofList both.1, ← parseUnsigned both.2)) := Reads.ret reads_lift
  have result : p.receivedAmount =
      (do return (← value (escape p.currency.toList), ← some (euro (.finite p.amountCents)))).bind fun both =>
        do return (String.ofList both.1, ← parseUnsigned both.2) := by
    unfold PainPayment.receivedAmount receivedValue
    cases value (escape p.currency.toList) <;> rfl
  have outer : Reads Always (element "Amt" (valued "InstdAmt" "Ccy")) (block 8 "Amt" _) _ :=
    inner.block fun _ => trivial
  rw [result, ← List.append_nil (block 8 "Amt" _)]
  exact outer.bind (fun both _ => amount both) fun _ _ => trivial

theorem not_starts_option {name other : String} {n : ℕ} {o : Option String} {print : String → List Char}
    (differ : name ≠ other) (free : '>' ∉ name.toList) (free' : '>' ∉ other.toList) (rest : List Char)
    (last : ¬ Starts name rest) : ¬ Starts name (o.elim [] (fun s => line n (inline other (print s))) ++ rest) := by
  cases o with
  | none => exact last
  | some s => exact not_starts_inline differ free free'

theorem reads_instruction (p : PainPayment) (date : String) :
    Reads (fun rest => ¬ Starts "CdtrAgt" rest ∧ ¬ Starts "RmtInf" rest) (instruction date) (transactionLines p)
      (p.received date) := by
  have endToEndId : Reads Always (element "PmtId" (field "EndToEndId"))
      (block 8 "PmtId" (line 10 (inline "EndToEndId" (escapeXml p.endToEndId)))) (received p.endToEndId) := by
    have id : Reads Always (field "EndToEndId") (line 10 (inline "EndToEndId" (escapeXml p.endToEndId)))
        (received p.endToEndId) := reads_line
    exact id.block fun _ => trivial
  have info : Reads (fun rest => ¬ Starts "CdtrAgt" rest ∧ ¬ Starts "RmtInf" rest)
      (optional "RmtInf" (element "RmtInf" (field "Ustrd"))) _ (receivedIf p.remittanceInfo) :=
    (reads_info p.remittanceInfo).mono fun _ follows => follows.2
  simp only [transactionLines, List.flatten_cons, List.flatten_nil, List.append_nil]
  refine endToEndId.seq fun e _ => Reads.seq reads_instructed fun a _ => Reads.seq reads_party fun b _ =>
    Reads.seq reads_account fun i _ => (reads_agent p.beneficiaryBic).bind (fun c _ => info.ret) ?_
  intro rest follows
  exact not_starts_option (by decide) (by decide) (by decide) rest follows.1

theorem reads_transaction (p : PainPayment) (date : String) :
    Reads next (element "CdtTrfTxInf" (instruction date)) ('\n' :: transaction p) (p.received date) := by
  have last (rest : List Char) : ¬ Starts "CdtrAgt" (line 6 (endTag "CdtTrfTxInf") ++ rest) ∧
      ¬ Starts "RmtInf" (line 6 (endTag "CdtTrfTxInf") ++ rest) :=
    ⟨not_starts_line (by decide) (by decide) (by decide), not_starts_line (by decide) (by decide) (by decide)⟩
  have read : Reads next (element "CdtTrfTxInf" (instruction date)) (block 6 "CdtTrfTxInf" (transactionLines p))
      (p.received date) := (reads_instruction p date).block last
  exact read

theorem starts_transaction (p : PainPayment) (rest : List Char) :
    Starts "CdtTrfTxInf" ('\n' :: transaction p ++ rest) := by
  have start : Starts "CdtTrfTxInf" (('\n' :: List.replicate 6 ' ') ++ startTag "CdtTrfTxInf" ++
      (transactionLines p ++ line 6 (endTag "CdtTrfTxInf") ++ rest)) := starts_tag (white_line 6) _
  simpa [transaction] using start

theorem not_starts_transaction (p : PainPayment) (rest : List Char) :
    ¬ Starts "DbtrAgt" ('\n' :: transaction p ++ rest) := by
  have apart : ¬ Starts "DbtrAgt" (('\n' :: List.replicate 6 ' ') ++ startTag "CdtTrfTxInf" ++
      (transactionLines p ++ line 6 (endTag "CdtTrfTxInf") ++ rest)) :=
    not_starts_tag (white_line 6) (by decide) (by decide) (by decide)
  simpa [transaction] using apart

theorem joined {ps : List PainPayment} (nonempty : ps ≠ []) :
    '\n' :: List.intercalate ['\n'] (ps.map transaction) = ps.flatMap fun p => '\n' :: transaction p := by
  induction ps with
  | nil => exact absurd rfl nonempty
  | cons p ps ih =>
      cases ps with
      | nil => simp [List.intercalate]
      | cons q qs =>
          rw [List.flatMap_cons, ← ih (List.cons_ne_nil q qs)]
          simp [List.intercalate]

theorem figures_date (d : IsoDate) :
    ∀ c ∈ d.text.toList, c.isAlphanum = true ∨ c ∈ ['-', ':', '.', '+'] := by
  intro c mem
  have shown : (if c.isDigit then '0' else c) ∈ "0000-00-00".toList := by
    rw [← d.shape]
    exact List.mem_map_of_mem mem
  by_cases digit : c.isDigit = true
  · exact .inl (by simp [Char.isAlphanum, digit])
  · rw [if_neg digit] at shown
    have known : ∀ c ∈ "0000-00-00".toList, c.isAlphanum = true ∨ c ∈ ['-', ':', '.', '+'] :=
      List.all_iff_forall_prop.mp (by decide)
    exact known c shown

theorem reads_plain {n : ℕ} (figures : ∀ c ∈ cs, c.isAlphanum = true ∨ c ∈ ['-', ':', '.', '+']) :
    Reads next (field name) (line n (inline name cs)) (some (String.ofList cs)) :=
  (reads_figuresLine figures).map

theorem reads_groupHeader (now : Instant) (input : PainBatchInput) :
    Reads next groupHeader (groupHeaderLines now input) input.receivedHeader := by
  have created : Reads Always (field "CreDtTm") (line 6 (inline "CreDtTm" now.toISOString.toList)) _ :=
    reads_plain now.figures
  simp only [groupHeaderLines, List.flatten_cons, List.flatten_nil, List.append_nil]
  exact Reads.seq reads_line fun _ _ => created.andThen
    ((reads_totals input).seq fun header _ => reads_party.ret) fun _ _ => trivial

theorem reads_paymentInformation (now : Instant) (input : PainBatchInput) {first : PainPayment}
    {others : List PainPayment} (payments : input.payments = first :: others) :
    Reads (fun rest => ¬ Starts "DbtrAgt" rest ∧ ¬ Starts "CdtTrfTxInf" rest) paymentInformation
      (paymentInformationLines now input) (input.receivedPayments first.requestedExecutionDate.text) := by
  have id : escapeXml input.msgId ++ "-PI1".toList = escapeXml (input.msgId ++ "-PI1") := by
    have plain : escape "-PI1".toList = "-PI1".toList := by decide
    rw [escapeXml_eq, escapeXml_eq, String.toList_append, escape_append, plain]
  have pmtMtd : Reads Always (field "PmtMtd") (line 6 (inline "PmtMtd" "TRF".toList)) _ :=
    reads_plain (List.all_iff_forall_prop.mp (by decide))
  have date : executionDate now input = first.requestedExecutionDate.text.toList := by
    rw [executionDate, payments]
    rfl
  have dt : Reads Always (element "ReqdExctnDt" (field "Dt"))
      (line 6 (inline "ReqdExctnDt" (inline "Dt" (executionDate now input))))
      (some first.requestedExecutionDate.text) := by
    have day : Reads Always (text "Dt") (inline "Dt" first.requestedExecutionDate.text.toList) _ :=
      reads_figuresBare (figures_date first.requestedExecutionDate)
    have spelled : Reads Always (field "Dt") (inline "Dt" first.requestedExecutionDate.text.toList)
        (some (String.ofList first.requestedExecutionDate.text.toList)) := day.map
    rw [date]
    rw [String.ofList_toList] at spelled
    exact spelled.line fun _ => trivial
  have transactions : Reads (fun rest => ¬ Starts "DbtrAgt" rest ∧ ¬ Starts "CdtTrfTxInf" rest)
      (many "CdtTrfTxInf" (element "CdtTrfTxInf" (instruction first.requestedExecutionDate.text)))
      ('\n' :: List.intercalate ['\n'] (input.payments.map transaction))
      (input.payments.mapM (·.received first.requestedExecutionDate.text)) := by
    rw [joined (by rw [payments]; exact List.cons_ne_nil _ _)]
    refine (reads_many (fun p _ => reads_transaction p _) fun p _ rest => ?_).mono fun _ follows => follows.2
    exact starts_transaction p rest
  simp only [paymentInformationLines, List.flatten_cons, List.flatten_nil, List.append_nil, id]
  refine Reads.seq reads_line fun _ _ => pmtMtd.andThen ((reads_totals input).seq fun header _ =>
    dt.andThen (Reads.seq reads_party fun _ _ => Reads.seq reads_account fun _ _ =>
      (reads_agent input.initiatorBic).bind (fun _ _ => transactions.ret) ?_) fun _ _ => trivial) fun _ _ => trivial
  intro rest follows
  rw [joined (by rw [payments]; exact List.cons_ne_nil _ _), payments, List.flatMap_cons, List.append_assoc]
  exact not_starts_transaction first _

theorem decode_buildPain001 (now : Instant) {input : PainBatchInput} {first : PainPayment}
    {others : List PainPayment} (payments : input.payments = first :: others) :
    decode (buildPain001 now input) = input.received first.requestedExecutionDate.text := by
  have header : Reads Always (element "GrpHdr" groupHeader) (block 4 "GrpHdr" (groupHeaderLines now input))
      input.receivedHeader := by
    have body : Reads Always groupHeader (groupHeaderLines now input) input.receivedHeader := reads_groupHeader now input
    exact body.block fun _ => trivial
  have information : Reads Always (element "PmtInf" paymentInformation)
      (block 4 "PmtInf" (paymentInformationLines now input))
      (input.receivedPayments first.requestedExecutionDate.text) :=
    (reads_paymentInformation now input payments).block fun _ =>
      ⟨not_starts_line (by decide) (by decide) (by decide), not_starts_line (by decide) (by decide) (by decide)⟩
  have body : Reads Always initiation
      (block 4 "GrpHdr" (groupHeaderLines now input) ++ block 4 "PmtInf" (paymentInformationLines now input))
      (input.received first.requestedExecutionDate.text) := header.seq fun _ _ => information.ret
  have start : Reads Always (tag declaration) ([] ++ declaration) (some ()) := reads_tag fun _ mem => nomatch mem
  have root : Reads Always (tag document) (line 0 document) (some ()) := by
    have read : Reads Always (tag document) (('\n' :: List.replicate 0 ' ') ++ document) (some ()) :=
      reads_tag (white_line 0)
    exact read
  have close (m : Message) :
      Reads Always (do closing "Document"; return m) (line 0 (endTag "Document")) (some m) := by
    have read : Reads Always (closing "Document") (('\n' :: List.replicate 0 ' ') ++ endTag "Document") (some ()) :=
      reads_closing (white_line 0)
    exact read.ret
  have outer : Reads Always (element "CstmrCdtTrfInitn" initiation) (block 2 "CstmrCdtTrfInitn" _)
      (input.received first.requestedExecutionDate.text) := body.block fun _ => trivial
  have whole : Reads Always message ([] ++ declaration ++ (line 0 document ++ (block 2 "CstmrCdtTrfInitn" _ ++
      line 0 (endTag "Document")))) ((input.received first.requestedExecutionDate.text).bind some) :=
    start.andThen (root.andThen (outer.bind (fun m _ => close m) fun _ _ => trivial) fun _ _ => trivial)
      fun _ _ => trivial
  have split : buildPain001 now input = [] ++ declaration ++ (line 0 document ++
      (block 2 "CstmrCdtTrfInitn"
        (block 4 "GrpHdr" (groupHeaderLines now input) ++ block 4 "PmtInf" (paymentInformationLines now input)) ++
        line 0 (endTag "Document"))) ++ ['\n'] := by
    simp only [buildPain001, List.flatten_cons, List.flatten_nil, List.append_nil, List.nil_append, List.append_assoc]
  rw [decode, split, whole ['\n'] trivial]
  cases input.received first.requestedExecutionDate.text <;> rfl

end

/-! ## What comes back as it was instructed -/

def PainPayment.instruction (p : PainPayment) : Instruction :=
  ⟨p.endToEndId, p.amountCents / 100, p.currency, p.beneficiaryName, p.beneficiaryIban, p.beneficiaryBic,
    p.remittanceInfo, p.requestedExecutionDate.text⟩

def instructedCents (payments : List PainPayment) : ℕ := (payments.map (·.amountCents)).sum

def PainBatchInput.totals (input : PainBatchInput) : Totals :=
  ⟨input.payments.length, instructedCents input.payments / 100⟩

def PainBatchInput.message (input : PainBatchInput) : Message :=
  ⟨input.totals, input.totals, input.payments.map (·.instruction)⟩

/-- A number of euros below `10 ^ 21` and less than half a cent from `cents`, or half a cent below. -/
def Near (euros : JsNumber) (cents : ℕ) : Prop :=
  ∃ q, euros = .finite q ∧ q < 10 ^ 21 ∧ cents - 1/2 ≤ q * 100 ∧ q * 100 < cents + 1/2

def Legal (s : String) : Prop := ∀ c ∈ s.toList, legal c = true

instance (s : String) : Decidable (Legal s) := decidable_of_iff (s.toList.all legal = true) List.all_eq_true

structure PainPayment.Readable (p : PainPayment) : Prop where
  endToEndId : Kept p.endToEndId.toList
  currency : KeptValue p.currency.toList
  beneficiaryName : Kept p.beneficiaryName.toList
  beneficiaryIban : Kept p.beneficiaryIban.toList
  beneficiaryBic : ∀ s ∈ p.beneficiaryBic, s ≠ "" ∧ Kept s.toList
  remittanceInfo : ∀ s ∈ p.remittanceInfo, s ≠ "" ∧ Kept s.toList
  amount : Near ((JsNumber.finite p.amountCents).dividedBy (.finite 100)) p.amountCents

structure PainBatchInput.Readable (input : PainBatchInput) : Prop where
  msgId : Legal input.msgId
  initiatorName : Legal input.initiatorName
  initiatorIban : Legal input.initiatorIban
  initiatorBic : ∀ s ∈ input.initiatorBic, Legal s
  payments : ∀ p ∈ input.payments, p.Readable
  date : ∀ p ∈ input.payments, ∀ q ∈ input.payments, p.requestedExecutionDate.text = q.requestedExecutionDate.text
  sum : Near ((totalCents input.payments).dividedBy (.finite 100)) (instructedCents input.payments)

section
variable {s : String} {o : Option String} {n : JsNumber} {c : ℕ}

theorem received_eq_self : received s = some s ↔ Kept s.toList := by
  rw [received, ← content_eq_some_iff, Option.map_eq_some_iff]
  constructor
  · rintro ⟨cs, same, rfl⟩
    rw [same, String.toList_ofList]
  · intro same
    exact ⟨s.toList, same, String.ofList_toList⟩

theorem receivedValue_eq_self : receivedValue s = some s ↔ KeptValue s.toList := by
  rw [receivedValue, ← value_eq_some_iff, Option.map_eq_some_iff]
  constructor
  · rintro ⟨cs, same, rfl⟩
    rw [same, String.toList_ofList]
  · intro same
    exact ⟨s.toList, same, String.ofList_toList⟩

theorem received_isSome : (∃ t, received s = some t) ↔ Legal s := by
  rw [received, content_escape, Legal, ← List.all_eq_true]
  split_ifs with all <;> simp [all]

theorem receivedIf_empty : receivedIf (some "") = some none := rfl

theorem receivedIf_some (nonempty : s ≠ "") : receivedIf (some s) = (received s).map some := by
  have given : truthy (some s) = some s := Option.filter_some_pos (by simpa using nonempty)
  rw [receivedIf, given]
  rfl

theorem receivedIf_eq_self : receivedIf o = some o ↔ ∀ s ∈ o, s ≠ "" ∧ Kept s.toList := by
  cases o with
  | none => exact iff_of_true rfl fun _ mem => nomatch mem
  | some s =>
      by_cases empty : s = ""
      · rw [empty, receivedIf_empty]
        simp
      · rw [receivedIf_some empty]
        simp [empty, ← received_eq_self]

theorem receivedIf_isSome : (∃ t, receivedIf o = some t) ↔ ∀ s ∈ o, Legal s := by
  cases o with
  | none => exact iff_of_true ⟨none, rfl⟩ fun _ mem => nomatch mem
  | some s =>
      by_cases empty : s = ""
      · rw [empty, receivedIf_empty]
        simp [Legal]
      · rw [receivedIf_some empty]
        simp [← received_isSome]

theorem toScale_eq_cents {q : ℚ} (nonneg : 0 ≤ q) :
    toScale 2 q = c / 100 ↔ c - 1/2 ≤ q * 100 ∧ q * 100 < c + 1/2 := by
  have hundred : (10 : ℚ) ^ 2 = 100 := by norm_num
  have whole : ((⌊q * 100 + 1/2⌋ : ℤ) : ℚ) = c ↔ ⌊q * 100 + 1/2⌋ = (c : ℤ) := by
    rw [← Int.cast_natCast, Int.cast_inj]
  rw [toScale_of_nonneg nonneg, halfUp, hundred, div_left_inj' (by norm_num), whole, Int.floor_eq_iff, Int.cast_natCast]
  constructor
  · rintro ⟨low, high⟩
    constructor <;> linarith
  · rintro ⟨low, high⟩
    constructor <;> linarith

theorem parse_euro (nonneg : ∀ q, n.dividedBy (.finite 100) = .finite q → 0 ≤ q) :
    parseUnsigned (euro n) = some (c / 100 : ℚ) ↔ Near (n.dividedBy (.finite 100)) c := by
  unfold euro Near
  generalize n.dividedBy (.finite 100) = euros at nonneg
  have words : ∀ s ∈ ["NaN", "Infinity", "-Infinity"], parseUnsigned s.toList = none := by decide
  cases euros with
  | nan =>
      have none : parseUnsigned (JsNumber.nan.toFixed 2).toList = none := words "NaN" (by decide)
      simp [none]
  | infinity negative =>
      have none : parseUnsigned ((JsNumber.infinity negative).toFixed 2).toList = none := by
        cases negative with
        | false => exact words "Infinity" (by decide)
        | true => exact words "-Infinity" (by decide)
      simp [none]
  | finite q =>
      rw [JsNumber.parseUnsigned_toFixed (nonneg q rfl), Option.ite_none_right_eq_some, Option.some_inj,
        toScale_eq_cents (nonneg q rfl)]
      constructor
      · intro near
        exact ⟨q, rfl, near⟩
      · rintro ⟨_, same, near⟩
        obtain rfl := JsNumber.finite.inj same
        exact near

def Nonneg (n : JsNumber) : Prop := ∀ q, n = .finite q → 0 ≤ q

theorem nonneg_double (nonneg : Nonneg n) : Nonneg n.double := by
  cases n with
  | nan => exact nonneg
  | infinity => exact nonneg
  | finite p =>
      intro q eq
      rw [JsNumber.double] at eq
      split_ifs at eq with small
      obtain rfl := JsNumber.finite.inj eq
      exact toDouble_nonneg (nonneg p rfl)

theorem nonneg_dividedBy (nonneg : Nonneg n) : Nonneg (n.dividedBy (.finite 100)) := by
  apply nonneg_double
  cases n with
  | nan => exact nonneg
  | infinity negative =>
      intro q eq
      cases eq
  | finite p =>
      intro q eq
      rw [JsNumber.div_finite p (by norm_num)] at eq
      cases eq
      have positive := nonneg p rfl
      positivity

theorem nonneg_totalCents (payments : List PainPayment) : Nonneg (totalCents payments) := by
  unfold totalCents
  have start : Nonneg (.finite 0) := by
    rintro q ⟨⟩
    exact le_rfl
  generalize JsNumber.finite 0 = acc at start
  induction payments generalizing acc with
  | nil => exact start
  | cons p payments ih =>
      refine ih _ (nonneg_double ?_)
      cases acc with
      | nan => exact start
      | infinity => exact start
      | finite sum =>
          rintro q ⟨⟩
          exact add_nonneg (start sum rfl) p.amountCents.cast_nonneg

theorem mapM_eq_map {α β : Type} {f : α → Option β} {g : α → β} {as : List α} :
    as.mapM f = some (as.map g) ↔ ∀ a ∈ as, f a = some (g a) := by
  induction as with
  | nil => simp
  | cons a as ih =>
      rw [List.forall_mem_cons, ← ih, List.mapM_cons, List.map_cons]
      cases f a with
      | none => simp
      | some b => cases as.mapM f <;> simp

theorem receivedAmount_eq_self {p : PainPayment} :
    p.receivedAmount = some (p.currency, (p.amountCents / 100 : ℚ)) ↔ KeptValue p.currency.toList ∧
      Near ((JsNumber.finite p.amountCents).dividedBy (.finite 100)) p.amountCents := by
  have nonneg : Nonneg (.finite p.amountCents) := by
    rintro q ⟨⟩
    exact p.amountCents.cast_nonneg
  rw [← receivedValue_eq_self, ← parse_euro (nonneg_dividedBy nonneg), PainPayment.receivedAmount]
  cases receivedValue p.currency with
  | none => simp
  | some currency => cases parseUnsigned (euro (.finite p.amountCents)) <;> simp

theorem received_payment {p : PainPayment} {date : String} :
    p.received date = some p.instruction ↔ p.Readable ∧ date = p.requestedExecutionDate.text := by
  simp only [PainPayment.received, PainPayment.instruction, Option.bind_eq_bind, Option.bind_eq_some_iff, Option.pure_def,
    Option.some_inj, Instruction.mk.injEq]
  constructor
  · rintro ⟨_, e, ⟨_, _⟩, a, _, b, _, i, _, c, _, r, rfl, rfl, rfl, rfl, rfl, rfl, rfl, rfl⟩
    obtain ⟨currency, amount⟩ := receivedAmount_eq_self.mp a
    exact ⟨⟨received_eq_self.mp e, currency, received_eq_self.mp b, received_eq_self.mp i, receivedIf_eq_self.mp c,
      receivedIf_eq_self.mp r, amount⟩, rfl⟩
  · rintro ⟨readable, rfl⟩
    exact ⟨_, received_eq_self.mpr readable.endToEndId, _,
      receivedAmount_eq_self.mpr ⟨readable.currency, readable.amount⟩, _, received_eq_self.mpr readable.beneficiaryName, _,
      received_eq_self.mpr readable.beneficiaryIban, _, receivedIf_eq_self.mpr readable.beneficiaryBic, _,
      receivedIf_eq_self.mpr readable.remittanceInfo, rfl, rfl, rfl, rfl, rfl, rfl, rfl, rfl⟩

theorem receivedTotals_eq_self {input : PainBatchInput} :
    input.receivedTotals = some input.totals ↔
      Near ((totalCents input.payments).dividedBy (.finite 100)) (instructedCents input.payments) := by
  rw [← parse_euro (nonneg_dividedBy (nonneg_totalCents _)), PainBatchInput.receivedTotals, PainBatchInput.totals]
  cases parseUnsigned (euro (totalCents input.payments)) <;> simp

variable {input : PainBatchInput}

theorem receivedHeader_eq_self : input.receivedHeader = some input.totals ↔
    Legal input.msgId ∧ Legal input.initiatorName ∧ input.receivedTotals = some input.totals := by
  simp only [PainBatchInput.receivedHeader, Option.bind_eq_bind, Option.bind_eq_some_iff, Option.pure_def, Option.some_inj]
  rw [← received_isSome, ← received_isSome]
  constructor
  · rintro ⟨id, msgId, _, totals, name, initiator, rfl⟩
    exact ⟨⟨id, msgId⟩, ⟨name, initiator⟩, totals⟩
  · rintro ⟨⟨id, msgId⟩, ⟨name, initiator⟩, totals⟩
    exact ⟨id, msgId, _, totals, name, initiator, rfl⟩

theorem receivedPayments_eq_self {date : String} :
    input.receivedPayments date = some (input.totals, input.payments.map (·.instruction)) ↔
      Legal (input.msgId ++ "-PI1") ∧ input.receivedTotals = some input.totals ∧ Legal input.initiatorName ∧
        Legal input.initiatorIban ∧ (∀ s ∈ input.initiatorBic, Legal s) ∧
        ∀ p ∈ input.payments, p.Readable ∧ date = p.requestedExecutionDate.text := by
  simp only [PainBatchInput.receivedPayments, Option.bind_eq_bind, Option.bind_eq_some_iff, Option.pure_def,
    Option.some_inj, Prod.mk.injEq]
  simp only [← receivedIf_isSome, ← received_payment, ← mapM_eq_map]
  simp only [← received_isSome]
  constructor
  · rintro ⟨id, msgId, _, totals, name, initiator, iban, account, bic, agent, _, payments, rfl, rfl⟩
    exact ⟨⟨id, msgId⟩, totals, ⟨name, initiator⟩, ⟨iban, account⟩, ⟨bic, agent⟩, payments⟩
  · rintro ⟨⟨id, msgId⟩, totals, ⟨name, initiator⟩, ⟨iban, account⟩, ⟨bic, agent⟩, payments⟩
    exact ⟨id, msgId, _, totals, name, initiator, iban, account, bic, agent, _, payments, rfl, rfl⟩

theorem legal_msgId (msgId : String) : Legal (msgId ++ "-PI1") ↔ Legal msgId := by
  have plain : ∀ c ∈ "-PI1".toList, legal c = true := List.all_eq_true.mp (by decide)
  rw [Legal, String.toList_append, List.forall_mem_append]
  exact and_iff_left plain

/-- Every payment comes back as it was instructed, in order, with the number and the sum of all at both levels, just
if no text has a character that XML cannot carry, the amounts survive as doubles and all payments are due on one day. -/
theorem payments_carried_iff (now : Instant) (input : PainBatchInput) (nonempty : input.payments ≠ []) :
    decode (buildPain001 now input) = some input.message ↔ input.Readable := by
  obtain ⟨first, others, payments⟩ := List.exists_cons_of_ne_nil nonempty
  have split : input.received first.requestedExecutionDate.text = some input.message ↔
      input.receivedHeader = some input.totals ∧
        input.receivedPayments first.requestedExecutionDate.text =
          some (input.totals, input.payments.map (·.instruction)) := by
    unfold PainBatchInput.received PainBatchInput.message
    cases input.receivedHeader with
    | none => simp
    | some header => cases input.receivedPayments first.requestedExecutionDate.text <;> simp [Prod.ext_iff]
  rw [decode_buildPain001 now payments, split, receivedHeader_eq_self, receivedPayments_eq_self, legal_msgId,
    receivedTotals_eq_self]
  constructor
  · rintro ⟨⟨msgId, initiatorName, sum⟩, -, -, -, initiatorIban, initiatorBic, each⟩
    refine ⟨msgId, initiatorName, initiatorIban, initiatorBic, fun p mem => (each p mem).1, ?_, sum⟩
    intro p mem q mem'
    rw [← (each p mem).2, (each q mem').2]
  · intro readable
    have head : first ∈ input.payments := payments ▸ List.mem_cons_self
    exact ⟨⟨readable.msgId, readable.initiatorName, readable.sum⟩, readable.msgId, readable.sum, readable.initiatorName,
      readable.initiatorIban, readable.initiatorBic, fun p mem => ⟨readable.payments p mem, readable.date _ head p mem⟩⟩

/-! ## Amounts below 70 million million euros -/

theorem near_of_small (small : (c : ℚ) < 100 * 2 ^ 46) :
    Near ((JsNumber.finite c).dividedBy (.finite 100)) c := by
  have nonneg : (0 : ℚ) ≤ c / 100 := by positivity
  have bound : |(c / 100 : ℚ)| < 2 ^ (46 : ℤ) := by
    rw [abs_of_nonneg nonneg, div_lt_iff₀ (by norm_num), mul_comm]
    exact_mod_cast small
  have finite : (JsNumber.finite c).dividedBy (.finite 100) = .finite (toDouble (c / 100)) := by
    rw [JsNumber.dividedBy, JsNumber.div_finite _ (by norm_num), JsNumber.double, if_pos]
    refine (JsNumber.lt_overflow ?_)
    refine bound.le.trans ?_
    norm_num
  have moved := abs_le.mp (abs_toDouble_sub_le (by norm_num) bound)
  have eighth : (2 : ℚ) ^ (46 - 54 : ℤ) = 1 / 256 := by norm_num
  rw [eighth] at moved
  have size : (c / 100 : ℚ) < 2 ^ 46 := by
    rw [div_lt_iff₀ (by norm_num)]
    linarith
  have cents : (c / 100 : ℚ) * 100 = c := div_mul_cancel₀ _ (by norm_num)
  refine ⟨_, finite, ?_, ?_, ?_⟩
  · calc toDouble (c / 100) ≤ c / 100 + 1 / 256 := by linarith [moved.2]
      _ < 10 ^ 21 := by norm_num at size ⊢; linarith
  · linarith [moved.1]
  · linarith [moved.2]

theorem instructedCents_cons (p : PainPayment) (payments : List PainPayment) :
    instructedCents (p :: payments) = p.amountCents + instructedCents payments := List.sum_cons

theorem totalCents_safe {payments : List PainPayment} (safe : instructedCents payments < 2 ^ 53) :
    totalCents payments = .finite (instructedCents payments) := by
  have total : (payments.map fun p => (p.amountCents : ℤ)).sum = instructedCents payments := by
    clear safe
    induction payments with
    | nil => rfl
    | cons p payments ih => rw [List.map_cons, List.sum_cons, ih, instructedCents_cons, Nat.cast_add]
  have magnitudes : ((payments.map fun p => (p.amountCents : ℤ)).map (|·|)).sum = instructedCents payments := by
    rw [← total, List.map_map]
    exact congrArg List.sum (List.map_congr_left fun p _ => Nat.abs_cast _)
  have sums := @JsNumber.foldl_plus_safe 0 (payments.map fun p => (p.amountCents : ℤ)) (by
    rw [magnitudes, abs_zero, zero_add]
    exact_mod_cast safe)
  rw [total, zero_add, List.map_map, List.foldl_map] at sums
  exact_mod_cast sums

theorem near_of_total {payments : List PainPayment} (small : (instructedCents payments : ℚ) < 100 * 2 ^ 46) :
    (∀ p ∈ payments, Near ((JsNumber.finite p.amountCents).dividedBy (.finite 100)) p.amountCents) ∧
      Near ((totalCents payments).dividedBy (.finite 100)) (instructedCents payments) := by
  constructor
  · intro p mem
    have part : p.amountCents ≤ instructedCents payments := List.le_sum_of_mem (List.mem_map_of_mem mem)
    have part : (p.amountCents : ℚ) ≤ instructedCents payments := by exact_mod_cast part
    exact near_of_small (part.trans_lt small)
  · have safe : (instructedCents payments : ℚ) < (2 ^ 53 : ℕ) := small.trans (by norm_num)
    rw [totalCents_safe (by exact_mod_cast safe)]
    exact near_of_small small

end

/-! ## Two suppliers -/

namespace Suppliers

theorem may_shape :
    "2026-05-15".toList.map (fun c => if c.isDigit then '0' else c) = "0000-00-00".toList := by decide

theorem june_shape :
    "2026-06-30".toList.map (fun c => if c.isDigit then '0' else c) = "0000-00-00".toList := by decide

theorem morning_figures :
    ∀ c ∈ "2026-04-29T08:00:00.000Z".toList, c.isAlphanum = true ∨ c ∈ ['-', ':', '.', '+'] :=
  List.all_iff_forall_prop.mp (by decide)

theorem beta_number : (JsNumber.finite (12345 : ℕ)).double = .finite (12345 : ℕ) := by decide +kernel

theorem gamma_number : (JsNumber.finite (67890 : ℕ)).double = .finite (67890 : ℕ) := by decide +kernel

def may : IsoDate := ⟨"2026-05-15", may_shape⟩
def june : IsoDate := ⟨"2026-06-30", june_shape⟩
def morning : Instant := ⟨"2026-04-29T08:00:00.000Z", morning_figures⟩

def beta : PainPayment where
  endToEndId := "E2E-1"
  amountCents := 12345
  currency := "EUR"
  beneficiaryName := "Beta & Figli Srl"
  beneficiaryIban := "IT89A0306909606100000123456"
  remittanceInfo := some "FATTURA 2026/0001"
  requestedExecutionDate := may
  amount_pos := Nat.succ_pos _
  amount_number := beta_number

def gamma (due : IsoDate) : PainPayment where
  endToEndId := "E2E-2"
  amountCents := 67890
  currency := "EUR"
  beneficiaryName := "Gamma Srl"
  beneficiaryIban := "IT12A0301503200000000654321"
  beneficiaryBic := some "BPMOIT22XXX"
  requestedExecutionDate := due
  amount_pos := Nat.succ_pos _
  amount_number := gamma_number

def batch (due : IsoDate) : PainBatchInput where
  msgId := "BATCH-2026-04-29-001"
  initiatorName := "Acme Spa"
  initiatorIban := "IT60X0542811101000000123456"
  payments := [beta, gamma due]

theorem batch_readable : (batch may).Readable := by
  obtain ⟨amounts, sum⟩ : (∀ p ∈ (batch may).payments, _) ∧ Near _ (instructedCents (batch may).payments) :=
    near_of_total (by norm_num [instructedCents, batch, beta, gamma])
  constructor
  · decide
  · decide
  · decide
  · decide
  · intro p mem
    have amount := amounts p mem
    simp only [batch, List.mem_cons, List.not_mem_nil, or_false] at mem
    rcases mem with rfl | rfl
    · exact ⟨by decide, by decide, by decide, by decide, by decide, by decide, amount⟩
    · exact ⟨by decide, by decide, by decide, by decide, by decide, by decide, amount⟩
  · decide
  · exact sum

end Suppliers

open Suppliers in
theorem payments_carried_iff_batch :
    decode (buildPain001 morning (batch may)) = some (batch may).message :=
  (payments_carried_iff morning (batch may) (List.cons_ne_nil _ _)).mpr batch_readable

open Suppliers in
/-- The second payment is due in June. -/
theorem execution_date_lost :
    (decode (buildPain001 morning (batch june))).map (fun m => m.payments.map (·.requestedExecutionDate)) =
        some ["2026-05-15", "2026-05-15"] ∧
      (batch june).payments.map (·.requestedExecutionDate.text) = ["2026-05-15", "2026-06-30"] := by
  have payments : (batch june).payments = beta :: [gamma june] := rfl
  rw [decode_buildPain001 morning payments]
  decide +kernel

end SmartErp.Treasury.Pain001
