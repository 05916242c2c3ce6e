import SmartErp.Encoders
import SmartErp.Pec.Outbound

/-!
# The texts of outbound invoices

How the parser reads a text that the builder wrote: without the blanks around it and with its entities, while
numbers and dates stay as they were printed. No text has a tag in it, so that the patterns can tell all lines
apart.
-/

namespace SmartErp.Pec.Outbound
open Foundations Foundations.Markup
open Foundations.Xml (entity entity_cases escape escape_append escape_cons escape_nil letters unescape unescape_escape
  not_mem_escape quote apostrophe)
open Accounting
open Accounting.FatturaPaAdapter (FatturaPaBuildInput FatturaPaBuildOutput OrderReference DatiRiepilogo esc money
  formatDate)

attribute [local irreducible] esc money formatDate

/-! ## Blanks and entities -/

section
variable {c : Char} {cs : List Char}

theorem escape_of_blank (white : whitespace c = true) : entity c = [c] := by
  unfold entity
  rw [if_neg, if_neg, if_neg, if_neg, if_neg] <;>
    · rintro rfl
      exact absurd white (by decide)

theorem entity_ends (visible : whitespace c = false) :
    (∃ d ds, entity c = d :: ds ∧ whitespace d = false) ∧ ∃ ds d, entity c = ds ++ [d] ∧ whitespace d = false := by
  unfold entity
  split_ifs
  · exact ⟨⟨'&', _, rfl, by decide⟩, "&amp".toList, ';', rfl, by decide⟩
  · exact ⟨⟨'&', _, rfl, by decide⟩, "&lt".toList, ';', rfl, by decide⟩
  · exact ⟨⟨'&', _, rfl, by decide⟩, "&gt".toList, ';', rfl, by decide⟩
  · exact ⟨⟨'&', _, rfl, by decide⟩, "&quot".toList, ';', rfl, by decide⟩
  · exact ⟨⟨'&', _, rfl, by decide⟩, "&apos".toList, ';', rfl, by decide⟩
  · exact ⟨⟨c, [], rfl, visible⟩, [], c, rfl, visible⟩

theorem dropWhile_escape (cs : List Char) : (escape cs).dropWhile whitespace = escape (cs.dropWhile whitespace) := by
  induction cs with
  | nil => rfl
  | cons c cs ih =>
      rw [escape_cons]
      cases white : whitespace c with
      | true => rw [escape_of_blank white, List.singleton_append, List.dropWhile_cons_of_pos white, ih,
          List.dropWhile_cons_of_pos white]
      | false =>
          obtain ⟨d, ds, eq, visible⟩ := (entity_ends white).1
          rw [eq, List.cons_append, List.dropWhile_cons_of_neg (by simp [visible]),
            List.dropWhile_cons_of_neg (by simp [white]), escape_cons, eq, List.cons_append]

theorem rdropWhile_escape (cs : List Char) : (escape cs).rdropWhile whitespace = escape (cs.rdropWhile whitespace) := by
  induction cs using List.reverseRecOn with
  | nil => rfl
  | append_singleton cs c ih =>
      rw [escape_append, escape_cons, escape_nil, List.append_nil]
      cases white : whitespace c with
      | true => rw [escape_of_blank white, List.rdropWhile_concat_pos _ _ _ white, ih,
          List.rdropWhile_concat_pos _ _ _ white]
      | false =>
          obtain ⟨ds, d, eq, visible⟩ := (entity_ends white).2
          rw [eq, ← List.append_assoc, List.rdropWhile_concat_neg _ _ _ (by simp [visible]),
            List.rdropWhile_concat_neg _ _ _ (by simp [white]), escape_append, escape_cons, escape_nil, List.append_nil,
            eq, List.append_assoc]

theorem trim_escape (cs : List Char) : trim (escape cs) = escape (trim cs) := by
  rw [trim, dropWhile_escape, rdropWhile_escape, trim]

theorem trim_trim (cs : List Char) : trim (trim cs) = trim cs := by
  have start : (trim cs).dropWhile whitespace = trim cs := by
    unfold trim
    cases rest : cs.dropWhile whitespace with
    | nil => rfl
    | cons d ds =>
        have visible : ¬ whitespace d = true := by
          have head := List.head?_dropWhile_not whitespace cs
          simpa [rest] using head
        cases last : (d :: ds).rdropWhile whitespace with
        | nil => rfl
        | cons e es =>
            have first := List.rdropWhile_prefix whitespace (d :: ds)
            rw [last] at first
            obtain rfl : e = d := (List.cons_prefix_cons.mp first).1
            exact List.dropWhile_cons_of_neg visible
  rw [trim, start, trim, List.rdropWhile_idempotent]

theorem stripCdata_of_free (free : '<' ∉ cs) : stripCdata cs = trim cs := by
  rw [stripCdata]
  cases found : (cdata cs).head? with
  | none => rfl
  | some r => exact absurd (eq_of_cdata found ▸ List.mem_append_left _ (by decide)) free

end

def text (s : String) : String := String.ofList (escape (trim s.toList))

section
variable (s : String)

theorem toList_text : (text s).toList = escape (trim s.toList) := String.toList_ofList

theorem trim_esc : trim (esc s).toList = (text s).toList := by
  rw [Encoders.esc_eq, trim_escape, toList_text]

theorem free_escape (cs : List Char) : '<' ∉ escape cs := not_mem_escape (by decide)

theorem stripCdata_text : stripCdata (text s).toList = (text s).toList := by
  rw [toList_text, stripCdata_of_free (free_escape _), trim_escape, trim_trim]

theorem unescape_text : unescape (text s).toList = some (trim s.toList) := by
  rw [toList_text, unescape_escape]

theorem text_eq_empty : (text s).toList = [] ↔ trim s.toList = [] := by
  constructor
  · intro empty
    have same := unescape_text s
    rw [empty] at same
    exact (Option.some_inj.mp same).symm
  · intro empty
    rw [toList_text, empty, escape_nil]

end

/-! ## Printed numbers and dates -/

def Sound (s : String) : Prop := ∀ c ∈ s.toList, whitespace c = false ∧ c ≠ '<'

section
variable {s : String}

theorem Sound.trim (sound : Sound s) : trim s.toList = s.toList := trim_visible fun c mem => (sound c mem).1

theorem Sound.free (sound : Sound s) : '<' ∉ s.toList := fun mem => (sound _ mem).2 rfl

theorem Sound.stripCdata (sound : Sound s) : stripCdata s.toList = s.toList := by
  rw [stripCdata_of_free sound.free, sound.trim]

theorem sound_of_figures (figures : ∀ c ∈ s.toList, JsNumber.Figure c) : Sound s := by
  intro c mem
  rcases figures c mem with word | rfl | rfl | rfl
  · refine ⟨alphanum_visible word, ?_⟩
    rintro rfl
    exact absurd word (by decide)
  all_goals decide

theorem sound_money (n : JsNumber) : Sound (money n) := by
  unfold money
  exact sound_of_figures fun c mem => JsNumber.figure_toFixed mem

theorem figure_padded {n : ℕ} {c : Char} (mem : c ∈ (FatturaPaAdapter.padded n).toList) : JsNumber.Figure c := by
  rw [FatturaPaAdapter.padded, String.toList_ofList, List.leftpad, List.mem_append] at mem
  rcases mem with zero | digit
  · exact List.eq_of_mem_replicate zero ▸ by decide
  · exact JsNumber.figure_toDigits digit

theorem toList_formatDate (d : Date) : (formatDate d).toList = Nat.toDigits 10 d.year ++ '-' ::
    ((FatturaPaAdapter.padded d.month).toList ++ '-' :: (FatturaPaAdapter.padded d.day).toList) := by
  unfold formatDate
  simp [toString]

theorem sound_formatDate (d : Date) : Sound (formatDate d) := by
  refine sound_of_figures fun c mem => ?_
  rw [toList_formatDate] at mem
  simp only [List.mem_append, List.mem_cons] at mem
  rcases mem with year | rfl | month | rfl | day
  · exact JsNumber.figure_toDigits year
  · decide
  · exact figure_padded month
  · decide
  · exact figure_padded day

theorem take_formatDate (d : Date) : (formatDate d).toList.take 10 = (formatDate d).toList := by
  have short {n : ℕ} (small : n < 100) : (FatturaPaAdapter.padded n).toList.length ≤ 2 := by
    have digits := Nat.toDigits_length 10 n 2 (by decide) (by omega)
    rw [FatturaPaAdapter.padded, String.toList_ofList, List.leftpad, List.length_append, List.length_replicate]
    omega
  have days : daysInMonth d.year d.month < 100 := by
    unfold daysInMonth
    split <;> (try split) <;> omega
  have year := Nat.toDigits_length 10 d.year 4 (by decide) d.year_digits
  have month := short (show d.month < 100 by have := d.month_range; omega)
  have day := short (show d.day < 100 by have := d.day_range; omega)
  refine List.take_of_length_le ?_
  rw [toList_formatDate]
  simp only [List.length_append, List.length_cons]
  omega

end

/-! ## The patterns can tell the lines apart -/

section
variable {indent : ℕ} {name : String}

theorem clean_start (word : Word name) : (Line.start indent name).Clean := word

theorem clean_finish (word : Word name) : (Line.finish indent name).Clean := word

theorem clean_esc (word : Word name) (s : String) : (Line.text indent name (esc s)).Clean :=
  ⟨word, Encoders.esc_eq s ▸ free_escape _⟩

theorem clean_sound (word : Word name) {s : String} (sound : Sound s) : (Line.text indent name s).Clean :=
  ⟨word, sound.free⟩

theorem clean_given (word : Word name) (value : Option String) : ∀ l ∈ given indent name value, l.Clean := by
  intro l mem
  obtain ⟨s, -, rfl⟩ := List.mem_map.mp mem
  exact clean_esc word s

end

section
variable (input : FatturaPaBuildInput) (cedenteVat progressive : String)

theorem clean_fiscale (country vat : String) : ∀ l ∈ fiscale country vat, l.Clean := by
  simp only [fiscale, List.forall_mem_cons, List.not_mem_nil, false_implies, implies_true, and_true]
  exact ⟨clean_start (by decide), clean_esc (by decide) _, clean_esc (by decide) _, clean_finish (by decide)⟩

theorem clean_denominazione (name : String) : ∀ l ∈ denominazione name, l.Clean := by
  simp only [denominazione, List.forall_mem_cons, List.not_mem_nil, false_implies, implies_true, and_true]
  exact ⟨clean_start (by decide), clean_esc (by decide) _, clean_finish (by decide)⟩

theorem clean_sede (address postalCode city : Option String) : ∀ l ∈ sede address postalCode city, l.Clean := by
  simp only [sede, List.forall_mem_cons, List.not_mem_nil, false_implies, implies_true, and_true]
  exact ⟨clean_start (by decide), clean_esc (by decide) _, clean_esc (by decide) _, clean_esc (by decide) _⟩

theorem clean_nazione (country : String) : ∀ l ∈ nazione country, l.Clean := by
  simp only [nazione, List.forall_mem_cons, List.not_mem_nil, false_implies, implies_true, and_true]
  exact ⟨clean_esc (by decide) _, clean_finish (by decide)⟩

theorem clean_trasmissione : ∀ l ∈ trasmissione input cedenteVat progressive, l.Clean := by
  simp only [trasmissione, List.forall_mem_cons, List.not_mem_nil, false_implies, implies_true, and_true]
  exact ⟨clean_start (by decide), clean_start (by decide), clean_esc (by decide) _, clean_esc (by decide) _,
    clean_finish (by decide), clean_esc (by decide) _, clean_esc (by decide) _, clean_esc (by decide) _⟩

theorem clean_cedente (tenant : FatturaPaAdapter.Tenant) : ∀ l ∈ cedente cedenteVat tenant, l.Clean := by
  simp only [cedente, List.forall_mem_append, List.forall_mem_cons, List.not_mem_nil, false_implies,
    implies_true, and_true, and_assoc]
  exact ⟨clean_start (by decide), clean_start (by decide), clean_fiscale _ _, clean_given (by decide) _,
    clean_denominazione _, ⟨by decide, by decide⟩, clean_finish (by decide), clean_sede _ _ _,
    clean_given (by decide) _, clean_nazione _, clean_finish (by decide)⟩

theorem clean_cessionario (customer : Customer) : ∀ l ∈ cessionario customer, l.Clean := by
  have fiscale : ∀ l ∈ (truthy customer.vatNumber).toList.flatMap (fiscale (customer.country.getD "IT")), l.Clean := by
    intro l mem
    obtain ⟨vat, -, inside⟩ := List.mem_flatMap.mp mem
    exact clean_fiscale _ _ l inside
  simp only [cessionario, List.forall_mem_append, List.forall_mem_cons, List.not_mem_nil, false_implies,
    implies_true, and_true, and_assoc]
  exact ⟨clean_start (by decide), clean_start (by decide), fiscale, clean_given (by decide) _, clean_denominazione _,
    clean_finish (by decide), clean_sede _ _ _, clean_given (by decide) _, clean_nazione _, clean_finish (by decide)⟩

theorem clean_generali (invoice : Invoice) : ∀ l ∈ generali invoice, l.Clean := by
  simp only [generali, List.forall_mem_append, List.forall_mem_cons, List.not_mem_nil, false_implies,
    implies_true, and_true, and_assoc]
  exact ⟨clean_start (by decide), clean_esc (by decide) _, ⟨by decide, by decide⟩,
    clean_sound (by decide) (sound_formatDate _), clean_esc (by decide) _, clean_sound (by decide) (sound_money _),
    clean_given (by decide) _, clean_finish (by decide)⟩

theorem clean_ordine (order : OrderReference) : ∀ l ∈ ordine order, l.Clean := by
  simp only [ordine, List.forall_mem_append, List.forall_mem_cons, List.not_mem_nil, false_implies,
    implies_true, and_true, and_assoc]
  exact ⟨clean_start (by decide), clean_esc (by decide) _, clean_given (by decide) _, clean_finish (by decide)⟩

theorem clean_dettaglio (idx : ℕ) (line : InvoiceLine) : ∀ l ∈ dettaglio idx line, l.Clean := by
  have number : Sound (toString (idx + 1)) := by
    refine sound_of_figures fun c mem => ?_
    rw [Nat.toString_eq_repr, Nat.toList_repr] at mem
    exact JsNumber.figure_toDigits mem
  simp only [dettaglio, List.forall_mem_append, List.forall_mem_cons, List.not_mem_nil, false_implies,
    implies_true, and_true, and_assoc]
  exact ⟨clean_start (by decide), clean_sound (by decide) number, clean_esc (by decide) _,
    clean_sound (by decide) (sound_money _), clean_sound (by decide) (sound_money _),
    clean_sound (by decide) (sound_money _), clean_sound (by decide) (sound_money _), clean_given (by decide) _,
    clean_finish (by decide)⟩

theorem clean_riepilogo (customer : Customer) {dati : DatiRiepilogo} (mem : dati ∈ summaries input.invoice) :
    ∀ l ∈ riepilogo customer dati, l.Clean := by
  obtain ⟨block, -, rfl⟩ := List.mem_map.mp mem
  simp only [riepilogo, FatturaPaAdapter.datiRiepilogo, List.forall_mem_append, List.forall_mem_cons,
    List.not_mem_nil, false_implies, implies_true, and_true, and_assoc]
  exact ⟨clean_start (by decide), clean_sound (by decide) (sound_money _), clean_given (by decide) _,
    clean_sound (by decide) (sound_money _), clean_sound (by decide) (sound_money _), clean_esc (by decide) _,
    clean_finish (by decide)⟩

theorem clean_pagamento (invoice : Invoice) : ∀ l ∈ pagamento invoice, l.Clean := by
  simp only [pagamento, List.forall_mem_cons, List.not_mem_nil, false_implies, implies_true, and_true]
  exact ⟨clean_start (by decide), ⟨by decide, by decide⟩, clean_start (by decide), ⟨by decide, by decide⟩,
    clean_sound (by decide) (sound_formatDate _), clean_sound (by decide) (sound_money _), clean_finish (by decide),
    clean_finish (by decide)⟩

theorem clean_body : ∀ l ∈ body input cedenteVat progressive, l.Clean := by
  have orders : ∀ l ∈ input.salesOrder.toList.flatMap ordine, l.Clean := by
    intro l mem
    obtain ⟨order, -, inside⟩ := List.mem_flatMap.mp mem
    exact clean_ordine order l inside
  have details : ∀ l ∈ (input.invoice.lines.mapIdx dettaglio).flatten, l.Clean := by
    intro l mem
    obtain ⟨ls, listed, inside⟩ := List.mem_flatten.mp mem
    obtain ⟨idx, _, rfl⟩ := List.mem_mapIdx.mp listed
    exact clean_dettaglio _ _ l inside
  have blocks : ∀ l ∈ (summaries input.invoice).flatMap (riepilogo input.customer), l.Clean := by
    intro l mem
    obtain ⟨dati, listed, inside⟩ := List.mem_flatMap.mp mem
    exact clean_riepilogo input _ listed l inside
  simp only [body, List.forall_mem_append, List.forall_mem_cons, List.not_mem_nil, false_implies,
    implies_true, and_true, and_assoc]
  exact ⟨clean_start (by decide), clean_trasmissione _ _ _, clean_given (by decide) _, clean_finish (by decide),
    clean_cedente _ _, clean_cessionario _, clean_finish (by decide), clean_start (by decide), clean_start (by decide),
    clean_generali _, orders, clean_finish (by decide), clean_start (by decide), details, blocks,
    clean_finish (by decide), clean_pagamento _, clean_finish (by decide)⟩

theorem rootMark_free : '<' ∉ (rootMark input).attrs := by
  have formato : '<' ∉ (FatturaPaAdapter.formatoTrasmissione input).toList := by
    unfold FatturaPaAdapter.formatoTrasmissione
    split_ifs <;> decide
  simp only [rootMark, String.toList_append, List.mem_append, not_or]
  exact ⟨⟨⟨⟨⟨by decide, formato⟩, by decide⟩, by decide +kernel⟩, by decide +kernel⟩, by decide +kernel⟩

theorem root_plain {tag : String} (listed : tag ∈ sought) {blanks : List Char} (none : blanks = []) {attrs : List Char}
    (free : '<' ∉ attrs) (head : ∀ c ∈ attrs.head?, wordChar c = false ∧ c ≠ ':') :
    (Mark.mk ['p', ':'] attrs blanks).Plain tag where
  pre := .inr ⟨['p'], by simp, by simp, rfl⟩
  differs := by
    have other : ∀ tag ∈ sought, ¬ tag.toList <+: ['p', ':'] := by decide
    exact other tag listed
  attrs := fun c mem here => free (here ▸ mem)
  attrs_head := head
  blanks := by
    subst none
    exact nofun
  blanks_head := by
    subst none
    exact nofun

theorem document_plain : (document input cedenteVat progressive).Plain := by
  intro tag listed p mem
  have word := word_of_sought tag listed
  have prolog : Inert prolog.toList := ⟨fun _ => ⟨'?', rfl, rfl, by decide⟩, inert_of_not_mem (by decide)⟩
  have newline : Inert ['\n'] := inert_of_not_mem (by decide)
  have other : ∀ tag ∈ sought, ¬ tag.toList <+: "FatturaElettronica".toList := by decide
  have name : Name "FatturaElettronica" := Word.named (by decide)
  have root : (Piece.opening (rootMark input) "FatturaElettronica").Plain tag := by
    refine ⟨root_plain listed rfl (rootMark_free input) ?_, name, fun begins => absurd begins (other tag listed)⟩
    intro c head
    have first : (rootMark input).attrs.head? = some ' ' := by
      simp only [rootMark, String.toList_append, List.append_assoc]
      rfl
    exact Option.some_inj.mp (first.symm.trans head) ▸ by decide
  have close : (Piece.closing ⟨['p', ':'], [], []⟩ "FatturaElettronica").Plain tag := by
    refine ⟨root_plain listed rfl List.not_mem_nil nofun, name, ?_⟩
    rintro rfl
    exact absurd List.prefix_rfl (other _ listed)
  have inner : ∀ p ∈ flat (body input cedenteVat progressive), p.Plain tag := by
    intro p mem
    obtain ⟨l, listed, inside⟩ := List.mem_flatMap.mp mem
    exact ((clean_body input cedenteVat progressive l listed).bare p inside).plain word
  rw [document_pieces] at mem
  simp only [opening, Pec.pieces, List.map_cons, List.map_nil, List.mem_append, List.mem_cons, List.not_mem_nil,
    or_false] at mem
  rcases mem with (rfl | rfl | rfl) | mem | rfl | rfl
  · exact prolog
  · exact newline
  · exact root
  · exact inner p mem
  · exact newline
  · exact close

end

end SmartErp.Pec.Outbound
