import SmartErp.Accounting.FatturaPa
import SmartErp.Intrastat.Export
import SmartErp.Treasury.Pain001

/-!
# The encoders of XML text

Three modules of the source have an escape of their own, each five replacements one after another. The first
of the five takes the ampersands, so that no replacement sees what an earlier one wrote.
-/

namespace SmartErp.Encoders
open Foundations.Xml

def entities : List (List Char) :=
  ["&amp;".toList, "&lt;".toList, "&gt;".toList, "&quot;".toList, "&apos;".toList]

structure Invertible (encode : String → List Char) : Prop where
  raw : ∀ s, ∀ c ∈ ['<', '>', quote, apostrophe], c ∉ encode s
  ampersand : ∀ s before after, encode s = before ++ '&' :: after → ∃ e ∈ entities, e <+: '&' :: after
  decoded : ∀ s, unescape (encode s) = some s.toList
  injective : Function.Injective encode

theorem entity_mem {c : Char} (mem : c ∈ special) : entity c ∈ entities := by
  simp only [special, List.mem_cons, List.not_mem_nil, or_false] at mem
  rcases mem with rfl | rfl | rfl | rfl | rfl <;> decide

theorem esc_eq (s : String) : (Accounting.FatturaPaAdapter.esc s).toList = escape s.toList := by
  change (String.ofList _).toList = _
  rw [String.toList_ofList, replaced_eq]

theorem invertible_of_eq {encode : String → List Char} (agrees : ∀ s, encode s = escape s.toList) :
    Invertible encode where
  raw := by
    intro s c special mem
    rw [agrees] at mem
    exact not_mem_escape special mem
  ampersand := by
    intro s before after eq
    rw [agrees] at eq
    obtain ⟨c, mem, first⟩ := ampersand_escape eq
    exact ⟨entity c, entity_mem mem, first⟩
  decoded := by
    intro s
    rw [agrees, unescape_escape]
  injective := by
    intro s t same
    have decoded : unescape (escape s.toList) = unescape (escape t.toList) := by
      rw [← agrees, ← agrees, same]
    rw [unescape_escape, unescape_escape, Option.some_inj] at decoded
    exact String.toList_inj.mp decoded

/-- The escapes of the FatturaPA document, the Intrastat export and the SEPA message. -/
theorem encoders_invertible : Invertible (fun s => (Accounting.FatturaPaAdapter.esc s).toList) ∧
    Invertible Intrastat.escXml ∧ Invertible Treasury.Pain001.escapeXml :=
  ⟨invertible_of_eq esc_eq, invertible_of_eq Intrastat.escXml_eq, invertible_of_eq Treasury.Pain001.escapeXml_eq⟩

end SmartErp.Encoders
