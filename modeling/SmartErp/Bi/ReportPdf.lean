import SmartErp.Compliance.PdfRenderer

/-!
# The strings of a PDF

The renderer of `report-exporter.service.ts`, on one page, and what both renderers make of their lines. Characters
are escaped, and their low bytes written: one from beyond Latin-1 may be written as a backslash or a parenthesis
that no backslash stands before.
-/

namespace SmartErp.Bi.ReportPdf
open Foundations.Pdf Compliance.PdfRenderer

def content (textLines : List Units) : Units :=
  text "BT\n/F1 10 Tf\n40 800 Td\n14 TL\n" ++ join "\n" (textLines.map shownLine) ++ text "\nET"

def renderMinimalPdf (textLines : List Units) : Bytes :=
  assemble [text "<< /Type /Catalog /Pages 2 0 R >>", text "<< /Type /Pages /Kids [3 0 R] /Count 1 >>",
    text "<< /Type /Page /Parent 2 0 R /MediaBox [0 0 612 792] /Contents 4 0 R /Resources << /Font << /F1 5 0 R >> >> >>",
    text "<< /Length " ++ digits (content textLines).length ++ text " >>\nstream\n" ++ content textLines ++
      text "\nendstream",
    text "<< /Type /Font /Subtype /Type1 /BaseFont /Helvetica >>"]

/-! ## The operands -/

def heading (height leading : String) : List Token :=
  [.word (bytes "BT"), .name (bytes "F1"), .word (bytes "10"), .word (bytes "Tf"), .word (bytes "40"),
    .word (bytes height), .word (bytes "Td"), .word (bytes leading), .word (bytes "TL")]

def shown (l : Units) : List Token := [.string (latin1 (pdfEscape l)), .word (bytes "Tj"), .word (bytes "T*")]

def Latin1 (l : Units) : Prop := ∀ u ∈ l, u.toNat < 256 ∧ u ≠ '\r'.toNat.toUInt16

structure OneEach (heading : List Token) (file : Bytes) (lines : List Units) : Prop where
  strings : ∃ (f : File) (operands : List (List Token)), read file = some f ∧
    (f.objects.filterMap Object.stream).map lex = operands.map (fun ts => heading ++ ts ++ [.word (bytes "ET")]) ∧
    operands.flatten = lines.flatMap shown
  decoded : ∀ l ∈ lines, Latin1 l → decode (latin1 (pdfEscape l)) = latin1 l

def escaped (u : UInt16) : Bool := u ∈ text "\\()"

/-- What the string is after `u`: of a backslash or parenthesis that is escaped it knows nothing, unless a backslash
before took the effect of the one that escapes it. -/
def readUnit (n : Nesting) (u : UInt16) : Option Nesting :=
  if escaped u then if n.escaped then Nesting.read ⟨n.depth, false⟩ u.toUInt8 else some n else n.read u.toUInt8

def Contained (l : Units) : Prop := l.foldlM readUnit .outer = some .outer

section
variable {l : Units} {lines : List Units} {rest : Bytes}

theorem replaceAll_append (s t : Units) (c : Char) (replacement : String) :
    replaceAll (s ++ t) c replacement = replaceAll s c replacement ++ replaceAll t c replacement := List.flatMap_append

theorem pdfEscape_single (u : UInt16) : pdfEscape [u] = if escaped u then ['\\'.toNat.toUInt16, u] else [u] := by
  by_cases special : escaped u = true
  · have cases : u = '\\'.toNat.toUInt16 ∨ u = '('.toNat.toUInt16 ∨ u = ')'.toNat.toUInt16 := by
      simpa [escaped, text] using special
    obtain rfl | rfl | rfl := cases <;> decide
  · have others : u ≠ '\\'.toNat.toUInt16 ∧ u ≠ '('.toNat.toUInt16 ∧ u ≠ ')'.toNat.toUInt16 := by
      simpa [escaped, text] using special
    have same (c : Char) (replacement : String) (other : u ≠ c.toNat.toUInt16) : replaceAll [u] c replacement = [u] := by
      rw [replaceAll, List.flatMap_singleton, if_neg other]
    rw [pdfEscape, same _ _ others.1, same _ _ others.2.1, same _ _ others.2.2, if_neg special]

theorem pdfEscape_cons (u : UInt16) (l : Units) : pdfEscape (u :: l) = pdfEscape [u] ++ pdfEscape l := by
  rw [← List.singleton_append, pdfEscape, replaceAll_append, replaceAll_append, replaceAll_append]
  rfl

theorem read_escaped (n : Nesting) (u : UInt16) : (latin1 (pdfEscape [u])).foldlM Nesting.read n = readUnit n u := by
  obtain ⟨depth, pending⟩ := n
  have single (n : Nesting) : (latin1 [u]).foldlM Nesting.read n = n.read u.toUInt8 := by
    simp [latin1]
  rw [pdfEscape_single, readUnit]
  by_cases special : escaped u = true
  · rw [if_pos special, if_pos special, ← List.singleton_append, latin1_append, List.foldlM_append]
    cases pending with
    | true => exact single ⟨depth, false⟩
    | false => exact single ⟨depth, true⟩
  · rw [if_neg special, if_neg special, single]

theorem foldlM_pdfEscape (l : Units) (n : Nesting) :
    (latin1 (pdfEscape l)).foldlM Nesting.read n = l.foldlM readUnit n := by
  induction l generalizing n with
  | nil => rfl
  | cons u l ih =>
      rw [pdfEscape_cons, latin1_append, List.foldlM_append, List.foldlM_cons, read_escaped]
      exact congrArg _ (funext ih)

theorem contained_of_harmless (harmless : ∀ u ∈ l, escaped u = true ∨ u.toUInt8 ∉ bytes "\\()") : Contained l := by
  have step : ∀ u, escaped u = true ∨ u.toUInt8 ∉ bytes "\\()" → readUnit .outer u = some .outer := by
    intro u harmless
    by_cases special : escaped u = true
    · exact if_pos special
    · have others : u.toUInt8 ≠ byte '\\' ∧ u.toUInt8 ≠ byte '(' ∧ u.toUInt8 ≠ byte ')' := by
        simpa [bytes] using harmless.resolve_left special
      rw [readUnit, if_neg special, Nesting.read, if_neg others.1, if_neg others.2.1, if_neg others.2.2]
      rfl
  unfold Contained
  induction l with
  | nil => rfl
  | cons u l ih =>
      rw [List.forall_mem_cons] at harmless
      rw [List.foldlM_cons, step u harmless.1]
      exact ih harmless.2

/-! ## Lines -/

def lineBytes (l : Units) : Bytes := byte '(' :: (latin1 (pdfEscape l) ++ byte ')' :: bytes " Tj T*\n")

theorem run_opening (cs : Bytes) : Mode.space.run (byte '(' :: cs) = (Mode.string .outer []).run cs := rfl

theorem run_shown (inside : Contained l) (rest : Bytes) :
    Mode.space.run (lineBytes l ++ rest) = shown l ++ Mode.space.run rest := by
  have closed : (latin1 (pdfEscape l)).foldlM Nesting.read .outer = some .outer := (foldlM_pdfEscape l _).trans inside
  have operators : Mode.space.steps (bytes " Tj T*\n") = (.space, [.word (bytes "Tj"), .word (bytes "T*")]) := by decide
  have split : lineBytes l ++ rest = byte '(' :: (latin1 (pdfEscape l) ++ byte ')' :: (bytes " Tj T*\n" ++ rest)) := by
    simp [lineBytes]
  have ends : (Mode.string .outer (latin1 (pdfEscape l))).run (byte ')' :: (bytes " Tj T*\n" ++ rest)) =
      .string (latin1 (pdfEscape l)) :: Mode.space.run (bytes " Tj T*\n" ++ rest) := rfl
  rw [split, run_opening, run_string closed, List.nil_append, ends, run_append, operators]
  rfl

theorem run_torn (torn : ¬Contained l) (rest : Bytes) : Mode.space.run (lineBytes l ++ rest) = [] ∨
    ∃ raw ts, raw ≠ latin1 (pdfEscape l) ∧ Mode.space.run (lineBytes l ++ rest) = .string raw :: ts := by
  have split : lineBytes l ++ rest = byte '(' :: (latin1 (pdfEscape l) ++ byte ')' :: (bytes " Tj T*\n" ++ rest)) := by
    simp [lineBytes]
  cases ran : Mode.space.run (lineBytes l ++ rest) with
  | nil => exact .inl rfl
  | cons t ts =>
      rw [split, run_opening] at ran
      obtain ⟨raw, rfl⟩ := string_of_run ran
      refine .inr ⟨raw, ts, fun same => torn ?_, rfl⟩
      rw [Contained, ← foldlM_pdfEscape, string_iff []]
      refine ⟨ts, ran.trans ?_⟩
      rw [List.nil_append, same, List.nil_append]

theorem run_lines {page : List Units} (inside : ∀ l ∈ page, Contained l) (rest : Bytes) :
    Mode.space.run (page.flatMap lineBytes ++ rest) = page.flatMap shown ++ Mode.space.run rest := by
  induction page with
  | nil => rfl
  | cons l page ih =>
      rw [List.forall_mem_cons] at inside
      rw [List.flatMap_cons, List.flatMap_cons, List.append_assoc, run_shown inside.1, ih inside.2, List.append_assoc]

/-! ## Pages -/

def pageTokens (page : List Units) : List Token := Mode.space.run (page.flatMap lineBytes ++ bytes "ET")

theorem latin1_shownLine (l : Units) (rest : Bytes) :
    latin1 (shownLine l) ++ (bytes "\n" ++ rest) = lineBytes l ++ rest := by
  rw [shownLine, latin1_append, latin1_append, latin1_text, latin1_text, lineBytes, List.append_assoc,
    List.append_assoc, List.cons_append, List.append_assoc]
  rfl

theorem join_lines {page : List Units} (some : page ≠ []) :
    latin1 (join "\n" (page.map shownLine)) ++ bytes "\nET" = page.flatMap lineBytes ++ bytes "ET" := by
  have ends : bytes "\nET" = bytes "\n" ++ bytes "ET" := rfl
  induction page with
  | nil => exact absurd rfl some
  | cons l page ih =>
      cases page with
      | nil => rw [List.map_singleton, join, List.intercalate_singleton, ends, latin1_shownLine, List.flatMap_singleton]
      | cons l' page =>
          have more : (l' :: page).map shownLine ≠ [] := List.cons_ne_nil _ _
          have rest := ih (List.cons_ne_nil _ _)
          rw [join] at rest
          rw [List.map_cons, join, List.intercalate_cons_of_ne_nil more, latin1_append, latin1_append, latin1_text,
            List.append_assoc, List.append_assoc, latin1_shownLine, rest]
          exact (List.append_assoc _ _ _).symm

theorem lex_stream {head : String} {tokens : List Token} (before : Mode.space.steps (bytes head) = (.space, tokens))
    (page : List Units) : lex (latin1 (text head ++ join "\n" (page.map shownLine) ++ text "\nET")) =
      tokens ++ pageTokens page := by
  rw [latin1_append, latin1_append, latin1_text, latin1_text, List.append_assoc, lex, run_append, before]
  cases page with
  | nil => rfl
  | cons l page => rw [join_lines (List.cons_ne_nil _ _), pageTokens]

theorem pageTokens_contained {page : List Units} (inside : ∀ l ∈ page, Contained l) :
    pageTokens page = page.flatMap shown ++ [.word (bytes "ET")] := by
  rw [pageTokens, run_lines inside]
  rfl

theorem exists_torn {page : List Units} (torn : ¬∀ l ∈ page, Contained l) :
    ∃ good l more, page = good ++ l :: more ∧ (∀ l ∈ good, Contained l) ∧ ¬Contained l := by
  induction page with
  | nil => exact absurd (List.forall_mem_nil _) torn
  | cons l page ih =>
      by_cases inside : Contained l
      · obtain ⟨good, l', more, rfl, all, other⟩ := ih fun all => torn (List.forall_mem_cons.mpr ⟨inside, all⟩)
        exact ⟨l :: good, l', more, rfl, List.forall_mem_cons.mpr ⟨inside, all⟩, other⟩
      · exact ⟨[], l, page, rfl, List.forall_mem_nil _, inside⟩

theorem contained_of_page {page : List Units} {ts more : List Token} {others : List Units}
    (tokens : pageTokens page = ts ++ [.word (bytes "ET")]) (same : ts ++ more = (page ++ others).flatMap shown) :
    ∀ l ∈ page, Contained l := by
  by_contra torn
  obtain ⟨good, l, lines, rfl, all, other⟩ := exists_torn torn
  have first : pageTokens (good ++ l :: lines) =
      good.flatMap shown ++ Mode.space.run (lineBytes l ++ (lines.flatMap lineBytes ++ bytes "ET")) := by
    rw [pageTokens, List.flatMap_append, List.append_assoc, run_lines all, List.flatMap_cons, List.append_assoc]
  have torn := run_torn other (lines.flatMap lineBytes ++ bytes "ET")
  rw [first] at tokens
  rw [List.append_assoc, List.flatMap_append, List.cons_append, List.flatMap_cons] at same
  generalize Mode.space.run (lineBytes l ++ (lines.flatMap lineBytes ++ bytes "ET")) = read at tokens torn
  obtain ⟨tail, rfl, ends⟩ | ⟨tail, beyond, ends⟩ := List.append_eq_append_iff.mp tokens
  · -- the operands of the page go on with what is read of `l`
    rw [List.append_assoc] at same
    have same := List.append_cancel_left same
    obtain rfl | ⟨raw, ts, apart, rfl⟩ := torn
    · simp at ends
    · cases tail with
      | nil => simp at ends
      | cons t tail =>
          obtain ⟨rfl, -⟩ := List.cons.inj ends
          exact apart (Token.string.inj (List.cons.inj same).1)
  · -- the last operator would be one of a line
    obtain rfl | ⟨raw, ts, -, rfl⟩ := torn
    · have last : Token.word (bytes "ET") ∈ good.flatMap shown := by
        rw [beyond, ← List.append_nil tail, ← ends]
        simp
      have other : Token.word (bytes "ET") ∉ [Token.word (bytes "Tj"), .word (bytes "T*")] := by decide
      obtain ⟨l, -, mem⟩ := List.mem_flatMap.mp last
      obtain same | mem := List.mem_cons.mp mem
      · cases same
      · exact other mem
    · cases tail with
      | nil => simp at ends
      | cons t tail => simp at ends

def Shows (heading : List Token) (pages : List (List Units)) (lines : List Units) : Prop :=
  ∃ operands : List (List Token),
    pages.map (fun page => heading ++ pageTokens page) = operands.map (fun ts => heading ++ ts ++ [.word (bytes "ET")]) ∧
    operands.flatten = lines.flatMap shown

theorem shows_iff (heading : List Token) (pages : List (List Units)) :
    Shows heading pages pages.flatten ↔ ∀ page ∈ pages, ∀ l ∈ page, Contained l := by
  constructor
  · rintro ⟨operands, tokens, same⟩
    induction pages generalizing operands with
    | nil => exact List.forall_mem_nil _
    | cons page pages ih =>
        cases operands with
        | nil => cases tokens
        | cons ts operands =>
            rw [List.map_cons, List.map_cons, List.cons.injEq, List.append_assoc] at tokens
            obtain ⟨here, tokens⟩ := tokens
            have here := List.append_cancel_left here
            rw [List.flatten_cons, List.flatten_cons] at same
            have inside := contained_of_page here same
            rw [pageTokens_contained inside] at here
            obtain rfl := List.append_cancel_right here
            rw [List.flatMap_append] at same
            exact List.forall_mem_cons.mpr ⟨inside, ih operands tokens (List.append_cancel_left same)⟩
  · intro inside
    refine ⟨pages.map fun page => page.flatMap shown, ?_, ?_⟩
    · rw [List.map_map]
      refine List.map_congr_left fun page mem => ?_
      rw [pageTokens_contained (inside page mem), Function.comp_apply, List.append_assoc]
    · clear inside
      induction pages with
      | nil => rfl
      | cons page pages ih => rw [List.map_cons, List.flatten_cons, ih, List.flatten_cons, List.flatMap_append]

theorem latin1_pdfEscape (latin : Latin1 l) : latin1 (pdfEscape l) =
    (latin1 l).flatMap fun c => if c ∈ bytes "\\()" then [byte '\\', c] else [c] := by
  induction l with
  | nil => rfl
  | cons u l ih =>
      obtain ⟨small, rest⟩ := List.forall_mem_cons.mp latin
      have same : escaped u = true ↔ u.toUInt8 ∈ bytes "\\()" := by
        have small := small.1
        simp [escaped, text, bytes, byte, ← UInt16.toNat_inj, ← UInt8.toNat_inj]
        omega
      have here : latin1 (pdfEscape [u]) = if u.toUInt8 ∈ bytes "\\()" then [byte '\\', u.toUInt8] else [u.toUInt8] := by
        rw [pdfEscape_single]
        by_cases special : escaped u = true
        · rw [if_pos special, if_pos (same.mp special)]
          rfl
        · rw [if_neg special, if_neg (mt same.mpr special)]
          rfl
      rw [pdfEscape_cons, latin1_append, here, ih rest]
      rfl

theorem decode_pdfEscape (latin : Latin1 l) : decode (latin1 (pdfEscape l)) = latin1 l := by
  rw [latin1_pdfEscape latin]
  refine decode_flatMap fun c mem => ?_
  by_cases special : c ∈ bytes "\\()"
  · exact .inr ⟨if_pos special, special⟩
  · refine .inl ⟨if_neg special, fun same => special (same ▸ by decide), ?_⟩
    obtain ⟨u, held, rfl⟩ := List.mem_map.mp mem
    intro same
    have small := (latin u held).1
    refine (latin u held).2 (UInt16.toNat_inj.mp ?_)
    have same := congrArg UInt8.toNat same
    rw [UInt16.toNat_toUInt8, Nat.mod_eq_of_lt small] at same
    exact same

/-! ## The two renderers -/

theorem steps_pages : Mode.space.steps (bytes "BT\n/F1 10 Tf\n40 760 Td\n13 TL\n") = (.space, heading "760" "13") := by
  decide +kernel

theorem steps_page : Mode.space.steps (bytes "BT\n/F1 10 Tf\n40 800 Td\n14 TL\n") = (.space, heading "800" "14") := by
  decide +kernel

theorem filterMap_document (streams : List Bytes) : (document streams).objects.filterMap Object.stream = streams := by
  have pairs (fontIndex k : ℕ) :
      ((streams.zipIdx k).flatMap (readPair fontIndex) ++ [fontObject]).filterMap Object.stream = streams := by
    induction streams generalizing k with
    | nil => rfl
    | cons stream streams ih => exact congrArg (List.cons stream) (ih (k + 1))
  exact pairs _ 0

theorem read_document (pages : List Units) : read (assemble (resolve pages)) = some (document (pages.map latin1)) := by
  obtain ⟨start, offsets, place, -, rows, found⟩ := read_resolve pages
  exact read_of_table place rows found

theorem oneEach_iff {heading : List Token} {head : String} (before : Mode.space.steps (bytes head) = (.space, heading))
    (pages : List (List Units)) (lines : List Units) :
    OneEach heading (assemble (resolve (pages.map fun page =>
      text head ++ join "\n" (page.map shownLine) ++ text "\nET"))) lines ↔ Shows heading pages lines := by
  have read := read_document (pages.map fun page => text head ++ join "\n" (page.map shownLine) ++ text "\nET")
  have tokens : ((document ((pages.map fun page => text head ++ join "\n" (page.map shownLine) ++ text "\nET").map
      latin1)).objects.filterMap Object.stream).map lex = pages.map fun page => heading ++ pageTokens page := by
    rw [filterMap_document, List.map_map, List.map_map]
    exact List.map_congr_left fun page _ => lex_stream before page
  constructor
  · rintro ⟨⟨f, operands, found, shows, same⟩, -⟩
    obtain rfl := Option.some.inj (read.symm.trans found)
    exact ⟨operands, tokens.symm.trans shows, same⟩
  · rintro ⟨operands, shows, same⟩
    exact ⟨⟨_, operands, read, tokens.trans shows, same⟩, fun l _ latin => decode_pdfEscape latin⟩

theorem renderMinimalPdf_eq (lines : List Units) : renderMinimalPdf lines = assemble (resolve [content lines]) := by
  have pages : pagesObj [content lines] = text "<< /Type /Pages /Kids [3 0 R] /Count 1 >>" := by
    show pagesObj [[]] = _
    decide +kernel
  have page : pageObj 4 5 = text
      "<< /Type /Page /Parent 2 0 R /MediaBox [0 0 612 792] /Contents 4 0 R /Resources << /Font << /F1 5 0 R >> >> >>" := by
    decide +kernel
  have objects : resolve [content lines] =
      [catalog, pagesObj [content lines], pageObj 4 5, contentObj (content lines), fontObj] := resolve_eq _
  rw [objects, pages, page]
  rfl

/-- Both renderers write one string for each line exactly if each line stays in its string; of no lines the one with
pages makes a line. -/
theorem strings_contained (lines : List Units) :
    (OneEach (heading "760" "13") (Compliance.PdfRenderer.renderMinimalPdf lines) lines ↔
      lines ≠ [] ∧ ∀ l ∈ lines, Contained l) ∧
    (OneEach (heading "800" "14") (renderMinimalPdf lines) lines ↔ ∀ l ∈ lines, Contained l) := by
  constructor
  · refine (oneEach_iff steps_pages (paginate lines 56) lines).trans ?_
    have flat := @paginate_flatten lines 56 (by decide)
    by_cases none : lines = []
    · subst none
      refine iff_of_false ?_ fun some => some.1 rfl
      rintro ⟨operands, tokens, same⟩
      have empty : pageTokens [[]] = shown [] ++ [.word (bytes "ET")] :=
        pageTokens_contained (List.forall_mem_singleton.mpr rfl)
      cases operands with
      | nil => cases tokens
      | cons ts operands =>
          obtain ⟨here, -⟩ := List.cons.inj tokens
          dsimp only at here
          rw [empty, List.append_assoc] at here
          obtain rfl := List.append_cancel_right (List.append_cancel_left here)
          cases same
    · rw [if_neg none] at flat
      have all := shows_iff (heading "760" "13") (paginate lines 56)
      rw [flat] at all
      refine all.trans ⟨fun inside => ⟨none, fun l mem => ?_⟩, fun inside page mem l held => inside.2 l ?_⟩
      · rw [← flat] at mem
        obtain ⟨page, mem, held⟩ := List.mem_flatten.mp mem
        exact inside page mem l held
      · rw [← flat]
        exact List.mem_flatten.mpr ⟨page, mem, held⟩
  · rw [renderMinimalPdf_eq]
    refine (oneEach_iff steps_page [lines] lines).trans ?_
    have all := shows_iff (heading "800" "14") [lines]
    rw [List.flatten_singleton, List.forall_mem_singleton] at all
    exact all

def tilde : Units := [0x0129]

theorem tilde_closes : ¬OneEach (heading "760" "13") (Compliance.PdfRenderer.renderMinimalPdf [tilde]) [tilde] ∧
    ¬OneEach (heading "800" "14") (renderMinimalPdf [tilde]) [tilde] := by
  have torn : ¬Contained tilde := by
    unfold Contained
    decide
  have shows (heading : List Token) : ¬Shows heading [[tilde]] [tilde] := fun shows =>
    torn ((shows_iff heading [[tilde]]).mp shows [tilde] (List.mem_singleton_self _) tilde (List.mem_singleton_self _))
  constructor
  · exact fun one => shows _ ((oneEach_iff steps_pages [[tilde]] [tilde]).mp one)
  · rw [renderMinimalPdf_eq]
    exact fun one => shows _ ((oneEach_iff steps_page [[tilde]] [tilde]).mp one)

end
end SmartErp.Bi.ReportPdf
