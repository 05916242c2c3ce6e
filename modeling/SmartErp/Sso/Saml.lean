import SmartErp.Sso.Configs
import SmartErp.Foundations.Pattern

/-!
# SAML assertions

`saml.strategy.ts`, from the decoded document on. One pattern finds the block whose signature is checked,
others look for the identity in the whole document. `verify` stands for the check of an RSA signature.
-/

namespace SmartErp.Sso
open Foundations Foundations.Pattern

/-- `<(?:ds:)?SignatureValue[^>]*>([^<]+)<\/(?:ds:)?SignatureValue>` and its like. -/
def element (ns tag : String) : Pattern (List Char) := do
  literal "<"
  optional (literal ns)
  literal tag
  let _ ← many (· ≠ '>')
  literal ">"
  let text ← many1 (· ≠ '<')
  literal "</"
  optional (literal ns)
  literal tag
  literal ">"
  return text

def signatureValue : Pattern (List Char) := element "ds:" "SignatureValue"
def nameID : Pattern (List Char) := element "saml:" "NameID"
def attributeValue : Pattern (List Char) := element "saml:" "AttributeValue"

/-- `(<(?:saml:)?Assertion[\s\S]*?<\/(?:saml:)?Assertion>)` -/
def assertion : Pattern (List Char) := capture do
  literal "<"
  optional (literal "saml:")
  literal "Assertion"
  let _ ← few fun _ => true
  literal "</"
  optional (literal "saml:")
  literal "Assertion"
  literal ">"

/-- `<(?:saml:)?Attribute[^>]*Name="([^"]+)"[^>]*>([\s\S]*?)<\/(?:saml:)?Attribute>` -/
def attributeElement : Pattern (List Char × List Char) := do
  literal "<"
  optional (literal "saml:")
  literal "Attribute"
  let _ ← many (· ≠ '>')
  literal "Name=\""
  let name ← many1 (· ≠ '"')
  literal "\""
  let _ ← many (· ≠ '>')
  literal ">"
  let values ← few fun _ => true
  literal "</"
  optional (literal "saml:")
  literal "Attribute"
  literal ">"
  return (name, values)

/-- The block whose signature is verified and the signature. -/
def signedPart (xml : List Char) : Option (List Char × List Char) :=
  match signatureValue.search xml, assertion.search xml with
  | some (signature, _), some (block, _) => some (block, signature)
  | _, _ => none

structure SamlAssertion where
  nameId : String
  email : Option String
  displayName : Option String
  attributes : List (String × List String)
  deriving DecidableEq

/-- `attrs[name] = values` -/
def setAttribute (attrs : List (String × List String)) (name : String) (values : List String) :
    List (String × List String) :=
  if (attrs.lookup name).isSome then attrs.map fun a => if a.1 = name then (name, values) else a
  else attrs ++ [(name, values)]

def parseAttributes (xml : List Char) : List (String × List String) :=
  (attributeElement.matchAll xml).foldl (fun attrs m =>
    setAttribute attrs (String.ofList m.1) ((attributeValue.matchAll m.2).map String.ofList)) []

def parseAssertion (xml : List Char) (cfg : SsoConfig) : SamlAssertion :=
  let attrs := parseAttributes xml
  let first (key : String) := (attrs.lookup key).bind List.head?
  { nameId := ((nameID.search xml).map fun m => String.ofList m.1).getD ""
    email := first ((cfg .attributeMappingEmail).getD "email")
    displayName := first ((cfg .attributeMappingName).getD "name")
    attributes := attrs }

section
variable (verify : (certPem : String) → (block signature : List Char) → Bool)

def verifySignature (xml : List Char) (certPem : String) : Bool :=
  match signedPart xml with
  | some (block, signature) => verify certPem block signature
  | none => false

def validateAssertion (cfg : Option SsoConfig) (xml : List Char) : Except Failure SamlAssertion := do
  let cfg ← require (cfg.filter fun cfg => cfg .status = some "active")
    (.unauthorized "SAML SSO not active for this tenant")
  let cert ← require ((cfg .idpX509Cert).filter (· ≠ ""))
    (.unauthorized "No IdP certificate on file for this tenant")
  ensure (verifySignature verify xml cert) (.unauthorized "SAMLResponse signature invalid")
  return parseAssertion xml cfg

end

/-! ## A name in front of the document -/

def startTag {β : Type} (ns tag : String) (f : Pattern β) : Pattern β := do
  literal "<"
  optional (literal ns)
  literal tag
  f

theorem starts_startTag {β : Type} (ns tag : String) (f : Pattern β) : (startTag ns tag f).Starts ['<'] :=
  starts_literal "<" _

theorem startTag_eq_nil {β : Type} {ns tag : String} (f : Pattern β) {s : List Char}
    (differ : ¬ ns.toList <+: s) (differ' : ¬ tag.toList <+: s) :
    startTag ns tag f ("<".toList ++ s) = [] := by
  rw [startTag, bind_eq, literal_append, List.flatMap_singleton, bind_eq,
    optional_of_nil (literal_eq_nil differ), List.flatMap_singleton, bind_eq, literal_eq_nil differ',
    List.flatMap_nil]

/-- `<NameID>name</NameID>` before everything else. -/
def prepend (name xml : List Char) : List Char :=
  "<".toList ++ ("NameID".toList ++ (">".toList ++ (name ++
    ("</".toList ++ ("NameID".toList ++ (">".toList ++ xml))))))

theorem search_prepend {β : Type} {a : Pattern β} (starts : a.Starts ['<']) {name xml : List Char}
    (inert : '<' ∉ name) (before : ∀ s, a ("<".toList ++ ("NameID".toList ++ s)) = [])
    (after : ∀ s, a ("<".toList ++ ('/' :: s)) = []) : a.search (prepend name xml) = a.search xml := by
  have text : '<' ∉ "NameID".toList ++ (">".toList ++ name) := by simpa using inert
  have close : '<' ∉ "/".toList ++ ("NameID".toList ++ ">".toList) := by decide
  calc a.search (prepend name xml)
      = a.search (("NameID".toList ++ (">".toList ++ name)) ++
          ('<' :: (("/".toList ++ ("NameID".toList ++ ">".toList)) ++ xml))) := by
        rw [prepend]
        refine (search_cons_of_nil (before _)).trans ?_
        simp
    _ = a.search ((("/".toList ++ ("NameID".toList ++ ">".toList))) ++ xml) := by
        rw [starts.search_append text, search_cons_of_nil]
        exact after _
    _ = a.search xml := starts.search_append close xml

theorem nameID_prepend {name : List Char} (nonempty : name ≠ []) (inert : '<' ∉ name) (xml : List Char) :
    nameID.search (prepend name xml) = some (name, xml) := by
  apply search_of_head
  have plain : ∀ s, literal "saml:" ("NameID".toList ++ s) = [] := fun s => literal_eq_nil (by simp)
  have tagged : ∀ s, many (· ≠ '>') (">".toList ++ s) = [([], ">".toList ++ s)] :=
    fun s => many_eq_nil rfl s
  have inside : ∀ c ∈ name, decide (c ≠ '<') = true := by
    intro c mem
    rw [decide_eq_true_eq]
    rintro rfl
    exact inert mem
  obtain ⟨rest, text⟩ := many1_append nonempty inside (show decide ('<' ≠ '<') = false from rfl)
    ("/".toList ++ ("NameID".toList ++ (">".toList ++ xml)))
  rw [nameID, element, prepend]
  simp only [bind_eq, literal_append, List.flatMap_singleton, optional_of_nil (plain _), tagged]
  rw [show "</".toList ++ ("NameID".toList ++ (">".toList ++ xml)) =
    '<' :: ("/".toList ++ ("NameID".toList ++ (">".toList ++ xml))) from rfl, text, List.flatMap_cons]
  rw [show '<' :: ("/".toList ++ ("NameID".toList ++ (">".toList ++ xml))) =
    "</".toList ++ ("NameID".toList ++ (">".toList ++ xml)) from rfl]
  simp only [literal_append, List.flatMap_singleton, optional_of_nil (plain _), pure_eq,
    List.cons_append, List.head?_cons]

theorem signedPart_prepend {name : List Char} (inert : '<' ∉ name) (xml : List Char) :
    signedPart (prepend name xml) = signedPart xml := by
  have signature : signatureValue.search (prepend name xml) = signatureValue.search xml :=
    search_prepend (starts_startTag "ds:" "SignatureValue" _) inert
      (fun s => startTag_eq_nil _ (by simp) (by simp)) (fun s => startTag_eq_nil _ (by simp) (by simp))
  have block : assertion.search (prepend name xml) = assertion.search xml :=
    search_prepend (starts_startTag "saml:" "Assertion" _).capture inert
      (fun s => capture_eq_nil (startTag_eq_nil _ (by simp) (by simp)))
      (fun s => capture_eq_nil (startTag_eq_nil _ (by simp) (by simp)))
  rw [signedPart, signature, block]
  rfl

/-! ## Who is identified -/

section
variable {verify : String → List Char → List Char → Bool} {cfg : Option SsoConfig} {xml : List Char}
  {identity : SamlAssertion}

theorem validateAssertion_eq_ok : validateAssertion verify cfg xml = .ok identity ↔
    ∃ config cert, cfg = some config ∧ config .status = some "active" ∧
      config .idpX509Cert = some cert ∧ cert ≠ "" ∧ verifySignature verify xml cert = true ∧
      parseAssertion xml config = identity := by
  simp only [validateAssertion, bind_eq_ok, require_eq_ok, ensure_eq_ok, pure_eq_ok,
    Option.filter_eq_some_iff, decide_eq_true_eq]
  constructor
  · rintro ⟨config, ⟨found, active⟩, cert, ⟨certified, nonempty⟩, -, valid, parsed⟩
    exact ⟨config, cert, found, active, certified, nonempty, valid, parsed⟩
  · rintro ⟨config, cert, found, active, certified, nonempty, valid, parsed⟩
    exact ⟨config, ⟨found, active⟩, cert, ⟨certified, nonempty⟩, (), valid, parsed⟩

theorem validateAssertion_prepend (ok : validateAssertion verify cfg xml = .ok identity)
    {name : List Char} (nonempty : name ≠ []) (inert : '<' ∉ name) :
    ∃ identity', validateAssertion verify cfg (prepend name xml) = .ok identity' ∧
      identity'.nameId = String.ofList name := by
  obtain ⟨config, cert, found, active, certified, nonempty', valid, -⟩ := validateAssertion_eq_ok.mp ok
  refine ⟨parseAssertion (prepend name xml) config, validateAssertion_eq_ok.mpr ?_, ?_⟩
  · rw [verifySignature, ← signedPart_prepend inert] at valid
    exact ⟨config, cert, found, active, certified, nonempty', valid, rfl⟩
  · rw [parseAssertion, nameID_prepend nonempty inert]
    rfl

/-- Whoever holds one accepted document is whoever they say: the same block and signature are accepted
under any name, so no accepted document's identity is determined by them. -/
theorem validateAssertion_not_determined (ok : validateAssertion verify cfg xml = .ok identity) :
    (∀ name : List Char, name ≠ [] → '<' ∉ name → ∃ xml' identity',
      validateAssertion verify cfg xml' = .ok identity' ∧ signedPart xml' = signedPart xml ∧
        identity'.nameId = String.ofList name) ∧
    ¬ ∀ xml' identity', validateAssertion verify cfg xml' = .ok identity' →
      signedPart xml' = signedPart xml → identity' = identity := by
  have forged : ∀ name : List Char, name ≠ [] → '<' ∉ name → ∃ xml' identity',
      validateAssertion verify cfg xml' = .ok identity' ∧ signedPart xml' = signedPart xml ∧
        identity'.nameId = String.ofList name := by
    intro name nonempty inert
    obtain ⟨identity', ok', named⟩ := validateAssertion_prepend ok nonempty inert
    exact ⟨_, identity', ok', signedPart_prepend inert xml, named⟩
  refine ⟨forged, fun determined => ?_⟩
  obtain ⟨xml₁, identity₁, ok₁, same₁, named₁⟩ := forged ['a'] (by simp) (by simp)
  obtain ⟨xml₂, identity₂, ok₂, same₂, named₂⟩ := forged ['b'] (by simp) (by simp)
  rw [determined xml₁ identity₁ ok₁ same₁] at named₁
  rw [determined xml₂ identity₂ ok₂ same₂, named₁] at named₂
  exact absurd named₂ (by decide)

end

/-! ## One signed document -/

namespace Sample

def signed : String :=
  "<Response><Assertion><NameID>anna</NameID></Assertion><SignatureValue>c2ln</SignatureValue>" ++
    "</Response>"

def active : SsoConfig := fun c =>
  match c with
  | .status => some "active"
  | .idpX509Cert => some "MIIC"
  | c => blank first .saml2 "aaaaaaaa-0000-4000-8000-000000000001" "2026-04-15" c

def verify (_ : String) (block signature : List Char) : Bool :=
  block = "<Assertion><NameID>anna</NameID></Assertion>".toList ∧ signature = "c2ln".toList

end Sample

open Sample in
theorem validateAssertion_not_determined_anna :
    validateAssertion verify (some active) signed.toList = .ok ⟨"anna", none, none, []⟩ ∧
      ∃ xml' identity', validateAssertion verify (some active) xml' = .ok identity' ∧
        signedPart xml' = signedPart signed.toList ∧ identity'.nameId = "bruno" := by
  have ok : validateAssertion verify (some active) signed.toList = .ok ⟨"anna", none, none, []⟩ := by
    decide +kernel
  exact ⟨ok, (validateAssertion_not_determined ok).1 "bruno".toList (by decide) (by decide)⟩

open Sample in
/-- The same signed block under another name. -/
theorem validateAssertion_forged :
    let forged := "<NameID>bruno</NameID>" ++ signed
    signedPart forged.toList = signedPart signed.toList ∧
      validateAssertion verify (some active) signed.toList = .ok ⟨"anna", none, none, []⟩ ∧
      validateAssertion verify (some active) forged.toList = .ok ⟨"bruno", none, none, []⟩ := by
  decide +kernel

end SmartErp.Sso
