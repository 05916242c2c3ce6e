import SmartErp.Foundations.Pdf
import Mathlib.Data.List.Forall2
import Mathlib.Data.List.Nodup

/-!
# Texts as PDF

`pdf.renderer.ts`: pages of 56 lines, put in place of placeholders, then written one after the other with the
place of each, as a text of UTF-16 units of which the low bytes are taken in the end.
-/

namespace SmartErp.Compliance.PdfRenderer
open Foundations Foundations.Pdf

abbrev Units := List UInt16

def text (s : String) : Units := s.toList.map fun c => c.toNat.toUInt16

/-- `String(n)` -/
def digits (n : ℕ) : Units := (Nat.toDigits 10 n).map fun c => c.toNat.toUInt16

/-- `Buffer.from(s, 'latin1')`, as long as the text. -/
def latin1 (s : Units) : Bytes := s.map UInt16.toUInt8

def replaceAll (s : Units) (c : Char) (replacement : String) : Units :=
  s.flatMap fun u => if u = c.toNat.toUInt16 then text replacement else [u]

def pdfEscape (s : Units) : Units := replaceAll (replaceAll (replaceAll s '\\' "\\\\") '(' "\\(") ')' "\\)"

def join (separator : String) (parts : List Units) : Units := (text separator).intercalate parts

def shownLine (l : Units) : Units := text "(" ++ pdfEscape l ++ text ") Tj T*"

def buildPageStream (page : List Units) : Units :=
  text "BT\n/F1 10 Tf\n40 760 Td\n13 TL\n" ++ join "\n" (page.map shownLine) ++ text "\nET"

def paginate (lines : List Units) (linesPerPage : ℕ) : List (List Units) :=
  let pages := (List.range ((lines.length + linesPerPage - 1) / linesPerPage)).map fun i =>
    (lines.drop (i * linesPerPage)).take linesPerPage
  if pages.length = 0 then [[[]]] else pages

def catalog : Units := text "<< /Type /Catalog /Pages 2 0 R >>"

def fontObj : Units := text "<< /Type /Font /Subtype /Type1 /BaseFont /Helvetica >>"

def pagesObj (pages : List Units) : Units :=
  text "<< /Type /Pages /Kids [" ++
    join " " (pages.zipIdx.map fun (_, i) => digits (3 + i * 2) ++ text " 0 R") ++
    text "] /Count " ++ digits pages.length ++ text " >>"

def pageObj (contentId fontIndex : ℕ) : Units :=
  text "<< /Type /Page /Parent 2 0 R /MediaBox [0 0 612 792] /Contents " ++ digits contentId ++
    text " 0 R /Resources << /Font << /F1 " ++ digits fontIndex ++ text " 0 R >> >> >>"

def contentObj (stream : Units) : Units :=
  text "<< /Length " ++ digits stream.length ++ text " >>\nstream\n" ++ stream ++ text "\nendstream"

def placeholders (pages : List Units) : List Units :=
  [text "CATALOG", text "PAGES"] ++ pages.flatMap (fun _ => [text "PAGE", text "CONTENT"]) ++ [fontObj]

def fill (fontIndex : ℕ) (objects : List Units) (page : Units × ℕ) : List Units :=
  let pageId := 3 + page.2 * 2
  let contentId := pageId + 1
  (objects.set (pageId - 1) (pageObj contentId fontIndex)).set (contentId - 1) (contentObj page.1)

def resolve (pages : List Units) : List Units :=
  let objects := placeholders pages
  let fontIndex := objects.length
  let objects := pages.zipIdx.foldl (fill fontIndex) objects
  (objects.set 0 catalog).set 1 (pagesObj pages)

structure Written where
  body : Units
  offsets : List ℕ

def Written.push (w : Written) (object : Units) (i : ℕ) : Written where
  body := w.body ++ (digits (i + 1) ++ text " 0 obj\n" ++ object ++ text "\nendobj\n")
  offsets := w.offsets ++ [w.body.length]

def writeObjects (objects : List Units) : Written :=
  objects.zipIdx.foldl (fun w (object, i) => w.push object i) ⟨text "%PDF-1.4\n", []⟩

def assemble (objects : List Units) : Bytes :=
  let w := writeObjects objects
  let xrefOffset := w.body.length
  let body := w.body ++ (text "xref\n0 " ++ digits (objects.length + 1) ++ text "\n0000000000 65535 f \n")
  let body := w.offsets.foldl (fun body off =>
    body ++ ((digits off).leftpad 10 '0'.toNat.toUInt16 ++ text " 00000 n \n")) body
  latin1 (body ++ (text "trailer\n<< /Size " ++ digits (objects.length + 1) ++ text " /Root 1 0 R >>\nstartxref\n" ++
    digits xrefOffset ++ text "\n%%EOF"))

def renderMinimalPdf (textLines : List Units) : Bytes :=
  assemble (resolve ((paginate textLines 56).map buildPageStream))

section
variable {s t : Units} {n k : ℕ} {rest front tail : Bytes}

/-! ## Bytes -/

@[simp] theorem latin1_append : latin1 (s ++ t) = latin1 s ++ latin1 t := List.map_append

@[simp] theorem latin1_text (s : String) : latin1 (text s) = bytes s := by
  rw [latin1, text, List.map_map]
  exact List.map_congr_left fun c _ => by simp [byte]

@[simp] theorem latin1_digits (n : ℕ) : latin1 (digits n) = decimal n := by
  rw [latin1, digits, List.map_map]
  exact List.map_congr_left fun c _ => by simp [byte]

@[simp] theorem length_latin1 (s : Units) : (latin1 s).length = s.length := List.length_map _

theorem latin1_flatMap {α : Type*} (xs : List α) (f : α → Units) :
    latin1 (xs.flatMap f) = xs.flatMap fun x => latin1 (f x) := List.map_flatMap

/-! ## Objects -/

def Reads (s : Units) (object : Object) : Prop :=
  ∀ rest, body (latin1 s ++ (bytes "\nendobj\n" ++ rest)) = some object

theorem reads_dictionary (one : byte '\n' ∉ latin1 s) : Reads s ⟨lex (latin1 s), none⟩ := body_dictionary one

def piece (object : Units) (i : ℕ) : Units := digits (i + 1) ++ text " 0 obj\n" ++ object ++ text "\nendobj\n"

def places (n : ℕ) : List Units → List ℕ
  | [] => []
  | s :: ss => n :: places (n + s.length) ss

theorem foldl_push (objects : List (Units × ℕ)) (w : Written) :
    objects.foldl (fun w (object, i) => w.push object i) w =
      ⟨w.body ++ objects.flatMap fun (object, i) => piece object i,
        w.offsets ++ places w.body.length (objects.map fun (object, i) => piece object i)⟩ := by
  induction objects generalizing w with
  | nil => simp [places]
  | cons object objects ih =>
      rw [List.foldl_cons, ih]
      simp [Written.push, piece, places]

theorem objectsFrom_places {objects : List Units} {os : List Object} (reads : List.Forall₂ Reads objects os)
    (k : ℕ) (front tail : Bytes) :
    objectsFrom (front ++ (((objects.zipIdx k).flatMap fun (object, i) => latin1 (piece object i)) ++ tail)) (k + 1)
      (places front.length ((objects.zipIdx k).map fun (object, i) => piece object i)) = some os := by
  induction reads generalizing k front with
  | nil => rfl
  | @cons s object objects os here others ih =>
      have found (more : Bytes) :
          Pdf.object (front ++ (latin1 (piece s k) ++ more)) (k + 1) front.length = some object := by
        have whole : latin1 (piece s k) ++ more =
            (decimal (k + 1) ++ bytes " 0 obj\n") ++ (latin1 s ++ (bytes "\nendobj\n" ++ more)) := by
          simp [piece]
        rw [Pdf.object, List.drop_left, whole, expect_append]
        exact here more
      have more := ih (k + 1) (front ++ latin1 (piece s k))
      rw [List.length_append, length_latin1, List.append_assoc] at more
      rw [List.zipIdx_cons, List.flatMap_cons, List.map_cons, places, objectsFrom]
      simp only [List.append_assoc, found, more]
      rfl

/-! ## The file -/

theorem length_places (n : ℕ) (ss : List Units) : (places n ss).length = ss.length := by
  induction ss generalizing n with
  | nil => rfl
  | cons s ss ih => rw [places, List.length_cons, List.length_cons, ih]

theorem foldl_rows (ns : List ℕ) (s : Units) : latin1 (ns.foldl (fun body off =>
    body ++ ((digits off).leftpad 10 '0'.toNat.toUInt16 ++ text " 00000 n \n")) s) = latin1 s ++ ns.flatMap row := by
  have padded (n : ℕ) : latin1 ((digits n).leftpad 10 '0'.toNat.toUInt16) = (decimal n).leftpad 10 (byte '0') := by
    have length : (digits n).length = (decimal n).length := by rw [← latin1_digits, length_latin1]
    have zero : latin1 [('0'.toNat.toUInt16)] = [byte '0'] := by decide
    rw [List.leftpad, List.leftpad, latin1_append, latin1_digits, length, latin1, List.map_replicate]
    rfl
  induction ns generalizing s with
  | nil => simp
  | cons n ns ih =>
      rw [List.foldl_cons, ih, latin1_append, latin1_append, padded, latin1_text, List.flatMap_cons, row,
        List.append_assoc]

theorem writeObjects_eq (objects : List Units) : writeObjects objects =
    ⟨text "%PDF-1.4\n" ++ objects.zipIdx.flatMap fun (object, i) => piece object i,
      places 9 (objects.zipIdx.map fun (object, i) => piece object i)⟩ :=
  foldl_push objects.zipIdx ⟨text "%PDF-1.4\n", []⟩

def tableText (objects : List Units) : Bytes :=
  bytes "xref\n0 " ++ (decimal (objects.length + 1) ++ byte '\n' :: (bytes "0000000000 65535 f \n" ++
    ((writeObjects objects).offsets.flatMap row ++ (bytes "trailer\n" ++ (trailer (objects.length + 1) ++
      byte '\n' :: (bytes "startxref\n" ++ (decimal (writeObjects objects).body.length ++ bytes "\n%%EOF")))))))

theorem assemble_eq (objects : List Units) :
    assemble objects = latin1 (writeObjects objects).body ++ tableText objects := by
  have head : bytes "\n0000000000 65535 f \n" = byte '\n' :: bytes "0000000000 65535 f \n" := rfl
  have size : bytes "trailer\n<< /Size " = bytes "trailer\n" ++ bytes "<< /Size " := rfl
  have root : bytes " /Root 1 0 R >>\nstartxref\n" = bytes " /Root 1 0 R >>" ++ byte '\n' :: bytes "startxref\n" := rfl
  rw [assemble, tableText]
  simp only [latin1_append, foldl_rows, latin1_text, latin1_digits, head, size, root, trailer, List.append_assoc,
    List.cons_append]

theorem read_assemble {objects : List Units} {os : List Object} (reads : List.Forall₂ Reads objects os) :
    ∃ start offsets, startxref (assemble objects) = some start ∧ bytes "xref\n" <+: (assemble objects).drop start ∧
      table ((assemble objects).drop start) = some (offsets, 1) ∧ objectsFrom (assemble objects) 1 offsets = some os := by
  have start : (assemble objects).drop (writeObjects objects).body.length = tableText objects := by
    rw [assemble_eq, ← length_latin1 (writeObjects objects).body, List.drop_left]
  have length : (writeObjects objects).offsets.length = objects.length := by
    rw [writeObjects_eq, length_places, List.length_map, List.length_zipIdx]
  refine ⟨(writeObjects objects).body.length, (writeObjects objects).offsets, ?_, ?_, ?_, ?_⟩
  · have ends (a b c d e f g : Bytes) (n : ℕ) : startxref (a ++ (b ++ (c ++ byte '\n' :: (d ++ (e ++ (f ++
        (g ++ byte '\n' :: (bytes "startxref\n" ++ (decimal n ++ bytes "\n%%EOF"))))))))) = some n := by
      have split := startxref_append (a ++ b ++ c ++ [byte '\n'] ++ d ++ e ++ f ++ g ++ [byte '\n']) n
      simp only [List.append_assoc, List.singleton_append] at split
      exact split
    rw [assemble_eq, tableText]
    exact ends _ _ _ _ _ _ _ _
  · rw [start]
    exact List.prefix_append (bytes "xref\n") _
  · rw [start, tableText, ← length]
    exact table_append _ _
  · have objects_read := objectsFrom_places reads 0 (bytes "%PDF-1.4\n")
    rw [assemble_eq, writeObjects_eq]
    simp only [latin1_append, latin1_text, latin1_flatMap, List.append_assoc]
    exact objects_read _

/-! ## The objects of a document -/

def objectPair (fontIndex : ℕ) (page : Units × ℕ) : List Units :=
  [pageObj (3 + page.2 * 2 + 1) fontIndex, contentObj page.1]

theorem resolve_eq (pages : List Units) : resolve pages =
    catalog :: pagesObj pages :: (pages.zipIdx.flatMap (objectPair (2 * pages.length + 3)) ++ [fontObj]) := by
  have filled (fontIndex : ℕ) (k : ℕ) (front : List Units) (place : front.length = 2 + 2 * k) :
      (pages.zipIdx k).foldl (fill fontIndex)
        (front ++ (pages.flatMap (fun _ => [text "PAGE", text "CONTENT"]) ++ [fontObj])) =
      front ++ ((pages.zipIdx k).flatMap (objectPair fontIndex) ++ [fontObj]) := by
    induction pages generalizing k front with
    | nil => rfl
    | cons page pages ih =>
        have here (more : List Units) : fill fontIndex (front ++ ([text "PAGE", text "CONTENT"] ++ more)) (page, k) =
            (front ++ objectPair fontIndex (page, k)) ++ more := by
          have first : 3 + k * 2 - 1 = front.length := by omega
          have second : 3 + k * 2 + 1 - 1 = front.length + 1 := by omega
          simp [fill, first, second, objectPair]
        have place' : (front ++ objectPair fontIndex (page, k)).length = 2 + 2 * (k + 1) := by
          rw [List.length_append, place]
          rfl
        rw [List.zipIdx_cons, List.foldl_cons, List.flatMap_cons, List.flatMap_cons, List.append_assoc, here,
          ih (k + 1) _ place', List.append_assoc, List.append_assoc]
  have length : (placeholders pages).length = 2 * pages.length + 3 := by
    simp [placeholders]
    omega
  have front : placeholders pages = [text "CATALOG", text "PAGES"] ++
      (pages.flatMap (fun _ => [text "PAGE", text "CONTENT"]) ++ [fontObj]) := List.append_assoc _ _ _
  rw [resolve]
  simp only [length]
  rw [front, filled _ 0 _ rfl]
  rfl

def catalogObject : Object where
  dictionary := [.opening, .name (bytes "Type"), .name (bytes "Catalog"), .name (bytes "Pages")] ++ referenceTokens 2 ++
    [.closing]
  stream := none

def pagesObject (ids : List ℕ) : Object where
  dictionary := [.opening, .name (bytes "Type"), .name (bytes "Pages"), .name (bytes "Kids"), .other (byte '[')] ++
    ids.flatMap referenceTokens ++ [.other (byte ']'), .name (bytes "Count"), .word (decimal ids.length), .closing]
  stream := none

theorem reads_catalog : Reads catalog catalogObject := by
  have tokens : lex (latin1 catalog) = catalogObject.dictionary := by decide +kernel
  have one : byte '\n' ∉ latin1 catalog := by decide +kernel
  have read := reads_dictionary one
  rwa [tokens] at read

theorem newline_digits (n : ℕ) : byte '\n' ∉ decimal n :=
  not_mem_of_isRegular (fun _ mem => isRegular_decimal mem) (by decide)

def referenceText (i : ℕ) : Units := digits i ++ text " 0 R"

theorem run_references (is : List ℕ) (rest : Bytes) :
    Mode.space.run (latin1 (join " " (is.map referenceText)) ++ byte ']' :: rest) =
      is.flatMap referenceTokens ++ .other (byte ']') :: Mode.space.run rest := by
  induction is with
  | nil => rfl
  | cons i is ih =>
      have reference : latin1 (referenceText i) = decimal i ++ bytes " 0 R" := by simp [referenceText]
      cases is with
      | nil =>
          rw [List.map_singleton, join, List.intercalate_singleton, reference, List.append_assoc,
            run_reference (by decide)]
          rfl
      | cons j js =>
          have more : (j :: js).map referenceText ≠ [] := List.cons_ne_nil _ _
          have space (cs : Bytes) : Mode.space.run (byte ' ' :: cs) = Mode.space.run cs := rfl
          have split : latin1 (join " " ((i :: j :: js).map referenceText)) ++ byte ']' :: rest =
              decimal i ++ (bytes " 0 R" ++ byte ' ' ::
                (latin1 (join " " ((j :: js).map referenceText)) ++ byte ']' :: rest)) := by
            rw [List.map_cons, join, List.intercalate_cons_of_ne_nil more, latin1_append, latin1_append, latin1_text,
              reference, List.append_assoc, List.append_assoc, List.append_assoc]
            rfl
          rw [split, run_reference (by decide), space, ih]
          exact (List.append_assoc _ _ _).symm

theorem newline_references (is : List ℕ) : byte '\n' ∉ latin1 (join " " (is.map referenceText)) := by
  induction is with
  | nil => exact List.not_mem_nil
  | cons i is ih =>
      have here : byte '\n' ∉ latin1 (referenceText i) := by
        rw [referenceText, latin1_append, latin1_digits, latin1_text, List.mem_append, not_or]
        exact ⟨newline_digits i, by decide⟩
      cases is with
      | nil =>
          rw [List.map_singleton, join, List.intercalate_singleton]
          exact here
      | cons j js =>
          have more : (j :: js).map referenceText ≠ [] := List.cons_ne_nil _ _
          rw [List.map_cons, join, List.intercalate_cons_of_ne_nil more, latin1_append, latin1_append, List.mem_append,
            List.mem_append, not_or, not_or]
          exact ⟨⟨here, by decide⟩, ih⟩

def pageIds (n : ℕ) : List ℕ := (List.range n).map fun i => 3 + i * 2

theorem reads_pages (pages : List Units) : Reads (pagesObj pages) (pagesObject (pageIds pages.length)) := by
  have ids : pages.zipIdx.map (fun x => digits (3 + x.2 * 2) ++ text " 0 R") =
      (pageIds pages.length).map referenceText := by
    rw [pageIds, List.map_map, List.range_eq_range', ← List.zipIdx_map_snd 0 pages, List.map_map]
    rfl
  have bytes_eq : latin1 (pagesObj pages) = bytes "<< /Type /Pages /Kids [" ++
      (latin1 (join " " ((pageIds pages.length).map referenceText)) ++ byte ']' :: (bytes " /Count " ++
        (decimal pages.length ++ bytes " >>"))) := by
    have split : bytes "] /Count " = byte ']' :: bytes " /Count " := rfl
    simp only [pagesObj, ids, latin1_append, latin1_text, latin1_digits, List.append_assoc, split, List.cons_append]
  have before : Mode.space.steps (bytes "<< /Type /Pages /Kids [") = (.space, [.opening, .name (bytes "Type"),
    .name (bytes "Pages"), .name (bytes "Kids"), .other (byte '[')]) := by decide +kernel
  have count : Mode.space.steps (bytes " /Count ") = (.space, [.name (bytes "Count")]) := by decide
  have tokens : lex (latin1 (pagesObj pages)) = (pagesObject (pageIds pages.length)).dictionary := by
    rw [bytes_eq, lex, run_append, before]
    simp only
    have closes : Mode.space.run (bytes " >>") = [.closing] := by decide
    have length : (pageIds pages.length).length = pages.length := by rw [pageIds, List.length_map, List.length_range]
    rw [run_references, show bytes " >>" = byte ' ' :: bytes ">>" from rfl, run_number count (by decide),
      show byte ' ' :: bytes ">>" = bytes " >>" from rfl, closes, pagesObject, length]
    simp
  have one : byte '\n' ∉ latin1 (pagesObj pages) := by
    simp only [bytes_eq, List.mem_append, List.mem_cons, not_or]
    exact ⟨by decide, newline_references _, by decide, by decide, newline_digits _, by decide⟩
  have read := reads_dictionary one
  rwa [tokens] at read

def pageObject (content font : ℕ) : Object where
  dictionary := [.opening, .name (bytes "Type"), .name (bytes "Page"), .name (bytes "Parent")] ++ referenceTokens 2 ++
    [.name (bytes "MediaBox"), .other (byte '['), .word (bytes "0"), .word (bytes "0"), .word (bytes "612"),
      .word (bytes "792"), .other (byte ']'), .name (bytes "Contents"), .word (decimal content), .word (bytes "0"),
      .word (bytes "R"), .name (bytes "Resources"), .opening, .name (bytes "Font"), .opening, .name (bytes "F1"),
      .word (decimal font), .word (bytes "0"), .word (bytes "R"), .closing, .closing, .closing]
  stream := none

def contentObject (stream : Bytes) : Object where
  dictionary := [.opening, .name (bytes "Length"), .word (decimal stream.length), .closing]
  stream := some stream

def fontObject : Object where
  dictionary := [.opening, .name (bytes "Type"), .name (bytes "Font"), .name (bytes "Subtype"), .name (bytes "Type1"),
    .name (bytes "BaseFont"), .name (bytes "Helvetica"), .closing]
  stream := none

theorem reads_font : Reads fontObj fontObject := by
  have tokens : lex (latin1 fontObj) = fontObject.dictionary := by decide +kernel
  have one : byte '\n' ∉ latin1 fontObj := by decide +kernel
  have read := reads_dictionary one
  rwa [tokens] at read

theorem reads_page (content font : ℕ) : Reads (pageObj content font) (pageObject content font) := by
  have split : latin1 (pageObj content font) =
      bytes "<< /Type /Page /Parent 2 0 R /MediaBox [0 0 612 792] /Contents " ++ (decimal content ++ byte ' ' ::
        (bytes "0 R /Resources << /Font << /F1 " ++ (decimal font ++ byte ' ' :: bytes "0 R >> >> >>"))) := by
    have first : bytes " 0 R /Resources << /Font << /F1 " = byte ' ' :: bytes "0 R /Resources << /Font << /F1 " := rfl
    have second : bytes " 0 R >> >> >>" = byte ' ' :: bytes "0 R >> >> >>" := rfl
    simp only [pageObj, latin1_append, latin1_text, latin1_digits, List.append_assoc, first, second, List.cons_append]
  have before : Mode.space.steps (bytes "<< /Type /Page /Parent 2 0 R /MediaBox [0 0 612 792] /Contents ") =
      (.space, [.opening, .name (bytes "Type"), .name (bytes "Page"), .name (bytes "Parent")] ++ referenceTokens 2 ++
        [.name (bytes "MediaBox"), .other (byte '['), .word (bytes "0"), .word (bytes "0"), .word (bytes "612"),
          .word (bytes "792"), .other (byte ']'), .name (bytes "Contents")]) := by decide +kernel
  have between : Mode.space.steps (byte ' ' :: bytes "0 R /Resources << /Font << /F1 ") =
      (.space, [.word (bytes "0"), .word (bytes "R"), .name (bytes "Resources"), .opening, .name (bytes "Font"),
        .opening, .name (bytes "F1")]) := by decide +kernel
  have closes : Mode.space.run (byte ' ' :: bytes "0 R >> >> >>") =
      [.word (bytes "0"), .word (bytes "R"), .closing, .closing, .closing] := by decide +kernel
  have tokens : lex (latin1 (pageObj content font)) = (pageObject content font).dictionary := by
    rw [split, lex, run_number before (by decide), ← List.cons_append, run_number between (by decide), closes,
      pageObject]
    simp
  have one : byte '\n' ∉ latin1 (pageObj content font) := by
    simp only [split, List.mem_append, List.mem_cons, not_or]
    exact ⟨by decide +kernel, newline_digits _, by decide, by decide +kernel, newline_digits _, by decide, by decide⟩
  have read := reads_dictionary one
  rwa [tokens] at read

theorem reads_content (stream : Units) : Reads (contentObj stream) (contentObject (latin1 stream)) := by
  have before : Mode.space.steps (bytes "<< /Length ") = (.space, [.opening, .name (bytes "Length")]) := by decide
  have closes : Mode.space.run (byte ' ' :: bytes ">>") = [.closing] := by decide
  have tokens : lex (bytes "<< /Length " ++ (decimal stream.length ++ byte ' ' :: bytes ">>")) =
      (contentObject (latin1 stream)).dictionary := by
    rw [lex, run_number before (by decide), closes, contentObject, length_latin1]
    rfl
  have one : byte '\n' ∉ bytes "<< /Length " ++ (decimal stream.length ++ byte ' ' :: bytes ">>") := by
    simp only [List.mem_append, List.mem_cons, not_or]
    exact ⟨by decide, newline_digits _, by decide, by decide⟩
  have length : numeral (after "Length" (lex (bytes "<< /Length " ++ (decimal stream.length ++
      byte ' ' :: bytes ">>")))) = some (latin1 stream).length := by
    rw [tokens, length_latin1]
    exact (number_decimal _).trans (by rw [length_latin1])
  intro rest
  have split : latin1 (contentObj stream) ++ (bytes "\nendobj\n" ++ rest) =
      (bytes "<< /Length " ++ (decimal stream.length ++ byte ' ' :: bytes ">>")) ++ byte '\n' :: (bytes "stream\n" ++
        (latin1 stream ++ (bytes "\nendstream\nendobj\n" ++ rest))) := by
    have first : bytes " >>\nstream\n" = byte ' ' :: (bytes ">>" ++ byte '\n' :: bytes "stream\n") := rfl
    have last : bytes "\nendstream\nendobj\n" = bytes "\nendstream" ++ bytes "\nendobj\n" := rfl
    simp only [contentObj, latin1_append, latin1_text, latin1_digits, List.append_assoc, first, last, List.cons_append]
  have read := body_stream one length rest
  rw [tokens] at read
  rw [split, read]
  rfl

def readPair (fontIndex : ℕ) (page : Bytes × ℕ) : List Object :=
  [pageObject (3 + page.2 * 2 + 1) fontIndex, contentObject page.1]

def document (streams : List Bytes) : File where
  root := 1
  objects := catalogObject :: pagesObject (pageIds streams.length) ::
    (streams.zipIdx.flatMap (readPair (2 * streams.length + 3)) ++ [fontObject])

theorem reads_resolve (pages : List Units) :
    List.Forall₂ Reads (resolve pages) (document (pages.map latin1)).objects := by
  have pairs (fontIndex k : ℕ) : List.Forall₂ Reads ((pages.zipIdx k).flatMap (objectPair fontIndex) ++ [fontObj])
      (((pages.map latin1).zipIdx k).flatMap (readPair fontIndex) ++ [fontObject]) := by
    induction pages generalizing k with
    | nil => exact .cons reads_font .nil
    | cons page pages ih => exact .cons (reads_page _ _) (.cons (reads_content page) (ih (k + 1)))
  rw [resolve_eq, document, List.length_map]
  exact .cons reads_catalog (.cons (reads_pages pages) (pairs _ 0))

/-! ## The pages of a document -/

theorem getElem?_pairs {α β : Type*} (f g : α → β) (xs : List α) (i : ℕ) :
    (xs.flatMap fun x => [f x, g x])[2 * i]? = xs[i]?.map f ∧
      (xs.flatMap fun x => [f x, g x])[2 * i + 1]? = xs[i]?.map g := by
  induction xs generalizing i with
  | nil => simp
  | cons x xs ih =>
      cases i with
      | zero => exact ⟨rfl, rfl⟩
      | succ i =>
          have even : 2 * (i + 1) = 2 * i + 1 + 1 := by omega
          rw [even]
          exact ih i

section
variable (streams : List Bytes)

def pairs : List Object := streams.zipIdx.flatMap (readPair (2 * streams.length + 3))

theorem length_pairs : (pairs streams).length = 2 * streams.length := by
  rw [pairs, List.length_flatMap]
  simp [readPair, Nat.mul_comm]

theorem object?_add (j : ℕ) : (document streams).object? (3 + j) = (pairs streams ++ [fontObject])[j]? := by
  have place : 3 + j - 1 = j + 1 + 1 := by omega
  rw [File.object?, if_neg (by omega), document, place, List.getElem?_cons_succ, List.getElem?_cons_succ]
  rfl

theorem object?_page {i : ℕ} (page : i < streams.length) :
    (document streams).object? (3 + i * 2) = some (pageObject (3 + i * 2 + 1) (2 * streams.length + 3)) := by
  rw [object?_add, List.getElem?_append_left (by rw [length_pairs]; omega), Nat.mul_comm]
  refine (getElem?_pairs _ _ streams.zipIdx i).1.trans ?_
  rw [List.getElem?_zipIdx, List.getElem?_eq_getElem page]
  simp [Nat.mul_comm]

theorem object?_content {i : ℕ} (page : i < streams.length) :
    (document streams).object? (3 + i * 2 + 1) = some (contentObject streams[i]) := by
  rw [Nat.add_assoc, object?_add, List.getElem?_append_left (by rw [length_pairs]; omega), Nat.mul_comm]
  refine (getElem?_pairs _ _ streams.zipIdx i).2.trans ?_
  rw [List.getElem?_zipIdx, List.getElem?_eq_getElem page]
  rfl

theorem object?_font : (document streams).object? (2 * streams.length + 3) = some fontObject := by
  rw [Nat.add_comm, object?_add, List.getElem?_append_right (length_pairs streams).le, length_pairs, Nat.sub_self]
  rfl

theorem object?_none {i : ℕ} (late : 2 * streams.length + 3 < i) : (document streams).object? i = none := by
  obtain ⟨j, rfl⟩ := Nat.exists_eq_add_of_le (show 3 ≤ i by omega)
  rw [object?_add, List.getElem?_eq_none]
  rw [List.length_append, length_pairs, List.length_singleton]
  omega

theorem mem_pageIds {n i : ℕ} : i ∈ pageIds n ↔ ∃ k < n, i = 3 + k * 2 := by
  simp [pageIds, eq_comm]

theorem nodup_pageIds (n : ℕ) : (pageIds n).Nodup := by
  refine List.Nodup.map (fun i j same => ?_) List.nodup_range
  omega

theorem type_page_iff (i : ℕ) : i ∈ pageIds streams.length ↔
    (document streams).type i = some (.name (bytes "Page")) := by
  rw [mem_pageIds]
  constructor
  · rintro ⟨k, page, rfl⟩
    rw [File.type, object?_page streams page]
    rfl
  · intro type
    obtain early | ⟨j, rfl⟩ : i < 3 ∨ ∃ j, i = 3 + j := (Nat.lt_or_ge i 3).imp_right Nat.exists_eq_add_of_le
    · have apart : some (Token.name (bytes "Catalog")) ≠ some (.name (bytes "Page")) ∧
          some (Token.name (bytes "Pages")) ≠ some (.name (bytes "Page")) := by decide
      interval_cases i
      · cases type
      · exact absurd type apart.1
      · exact absurd type apart.2
    · rcases Nat.lt_trichotomy j (2 * streams.length) with less | last | more
      · obtain ⟨k, even | odd⟩ := Nat.even_or_odd' j
        · exact ⟨k, by omega, by omega⟩
        · have place : 3 + j = 3 + k * 2 + 1 := by omega
          rw [place, File.type, object?_content streams (show k < streams.length by omega)] at type
          cases type
      · have apart : some (Token.name (bytes "Font")) ≠ some (.name (bytes "Page")) := by decide
        have place : 3 + j = 2 * streams.length + 3 := by omega
        rw [place, File.type, object?_font] at type
        exact absurd type apart
      · rw [File.type, object?_none streams (by omega)] at type
        cases type

theorem tree_document : (document streams).tree = some (pagesObject (pageIds streams.length)) := by
  have root : (document streams).object? (document streams).root = some catalogObject := rfl
  have pages : reference (after "Pages" catalogObject.dictionary) = some 2 := by decide +kernel
  rw [File.tree, root]
  simp only [Option.bind_eq_bind, Option.bind_some, pages]
  rfl

theorem kids_document : (document streams).kids = some (pageIds streams.length) := by
  rw [File.kids, tree_document]
  exact references_flatMap _ _

theorem count_document : (document streams).count = some (pageIds streams.length).length := by
  have other : .name (bytes "Count") ∉ [.opening, .name (bytes "Type"), .name (bytes "Pages"), .name (bytes "Kids"),
      .other (byte '[')] ++ (pageIds streams.length).flatMap referenceTokens ++ [.other (byte ']')] := by
    rw [List.mem_append, List.mem_append, not_or, not_or]
    refine ⟨⟨by decide, ?_⟩, by decide⟩
    simp [referenceTokens]
  have split : (pagesObject (pageIds streams.length)).dictionary =
      ([.opening, .name (bytes "Type"), .name (bytes "Pages"), .name (bytes "Kids"), .other (byte '[')] ++
        (pageIds streams.length).flatMap referenceTokens ++ [.other (byte ']')]) ++
        .name (bytes "Count") :: [.word (decimal (pageIds streams.length).length), .closing] := by
    simp [pagesObject]
  rw [File.count, tree_document]
  simp only [Option.bind_eq_bind, Option.bind_some]
  rw [split, after_append other]
  exact number_decimal _

end

theorem read_resolve (pages : List Units) : ∃ start offsets, startxref (assemble (resolve pages)) = some start ∧
    bytes "xref\n" <+: (assemble (resolve pages)).drop start ∧
    table ((assemble (resolve pages)).drop start) = some (offsets, 1) ∧
    objectsFrom (assemble (resolve pages)) 1 offsets = some (document (pages.map latin1)).objects :=
  read_assemble (reads_resolve pages)

/-! ## The lines of the pages -/

theorem flatten_slices (lines : List Units) (n k : ℕ) :
    ((List.range k).map fun i => (lines.drop (i * n)).take n).flatten = lines.take (k * n) := by
  induction k with
  | zero => simp
  | succ k ih =>
      rw [List.range_succ, List.map_append, List.flatten_append, ih, List.map_singleton, List.flatten_singleton,
        Nat.add_mul, Nat.one_mul, List.take_add]

theorem paginate_flatten {lines : List Units} {n : ℕ} (positive : 0 < n) :
    (paginate lines n).flatten = if lines = [] then [[]] else lines := by
  have enough : lines.length ≤ (lines.length + n - 1) / n * n := by
    have := Nat.div_add_mod (lines.length + n - 1) n
    have := Nat.mod_lt (lines.length + n - 1) positive
    rw [Nat.mul_comm]
    omega
  by_cases none : lines = []
  · subst none
    simp [paginate, positive]
  · have some : 0 < (lines.length + n - 1) / n := Nat.div_pos (by have := List.length_pos_iff.mpr none; omega) positive
    have pages : paginate lines n = (List.range ((lines.length + n - 1) / n)).map fun i => (lines.drop (i * n)).take n :=
      if_neg (by rw [List.length_map, List.length_range]; exact some.ne')
    rw [pages, flatten_slices, List.take_of_length_le enough, if_neg none]

theorem length_of_paginate {lines page : List Units} {n : ℕ} (positive : 0 < n) (mem : page ∈ paginate lines n) :
    page.length ≤ n := by
  unfold paginate at mem
  dsimp only at mem
  split_ifs at mem
  · obtain rfl : page = [[]] := List.mem_singleton.mp mem
    exact positive
  · obtain ⟨i, -, rfl⟩ := List.mem_map.mp mem
    exact List.length_take_le _ _

/-! ## The structure of a file -/

structure Layout where
  start : ℕ
  offsets : List ℕ
  file : File
  kids : List ℕ
  contents : List ℕ
  pages : List (List Units)

structure Exact (written : Bytes) (lines : List Units) (l : Layout) : Prop where
  startxref : startxref written = some l.start
  xref : bytes "xref\n" <+: written.drop l.start
  table : table (written.drop l.start) = some (l.offsets, l.file.root)
  places : ∀ i offset, l.offsets[i]? = some offset → decimal (1 + i) ++ bytes " 0 obj\n" <+: written.drop offset
  objects : objectsFrom written 1 l.offsets = some l.file.objects
  lengths : ∀ o ∈ l.file.objects, ∀ stream, o.stream = some stream →
    numeral (after "Length" o.dictionary) = some stream.length
  kids : l.file.kids = some l.kids
  count : l.file.count = some l.kids.length
  allPages : ∀ i, i ∈ l.kids ↔ l.file.type i = some (.name (bytes "Page"))
  apart : l.kids.Nodup
  contents : List.Forall₂ (fun kid content => l.file.content kid = some content) l.kids l.contents
  own : l.contents.Nodup
  font : ∀ kid ∈ l.kids, ∃ font, l.file.font kid = some font ∧ l.file.type font = some (.name (bytes "Font"))
  streams : List.Forall₂ (fun content page => l.file.stream content = some (latin1 (buildPageStream page)))
    l.contents l.pages
  order : l.pages.flatten = lines
  few : ∀ page ∈ l.pages, page.length ≤ 56

theorem length_document (streams : List Bytes) : ∀ o ∈ (document streams).objects, ∀ stream, o.stream = some stream →
    numeral (after "Length" o.dictionary) = some stream.length := by
  intro o mem stream held
  rw [document] at mem
  simp only [List.mem_cons, List.mem_append, List.mem_flatMap, List.not_mem_nil, or_false] at mem
  obtain rfl | rfl | ⟨⟨page, i⟩, -, mem⟩ | rfl := mem
  · cases held
  · cases held
  · obtain rfl | rfl : o = pageObject (3 + i * 2 + 1) (2 * streams.length + 3) ∨ o = contentObject page := by
      simpa [readPair] using mem
    · cases held
    · obtain rfl : page = stream := Option.some.inj held
      exact number_decimal _
  · cases held

theorem content_document (streams : List Bytes) {i : ℕ} (page : i < streams.length) :
    (document streams).content (3 + i * 2) = some (3 + i * 2 + 1) := by
  rw [File.content, object?_page streams page]
  exact number_decimal _

theorem font_document (streams : List Bytes) {i : ℕ} (page : i < streams.length) :
    (document streams).font (3 + i * 2) = some (2 * streams.length + 3) := by
  rw [File.font, object?_page streams page]
  exact number_decimal _

theorem pdf_exact (lines : List Units) :
    ∃ l, Exact (renderMinimalPdf lines) (if lines = [] then [[]] else lines) l := by
  obtain ⟨start, offsets, place, xref, rows, objects⟩ := read_resolve ((paginate lines 56).map buildPageStream)
  rw [List.map_map] at objects
  have length : ((paginate lines 56).map (latin1 ∘ buildPageStream)).length = (paginate lines 56).length :=
    List.length_map _
  let f := document ((paginate lines 56).map (latin1 ∘ buildPageStream))
  refine ⟨⟨start, offsets, f, pageIds (paginate lines 56).length, (pageIds (paginate lines 56).length).map (· + 1),
    paginate lines 56⟩, ?_⟩
  exact {
    startxref := place
    xref := xref
    table := rows
    places := objectsFrom_placed objects
    objects := objects
    lengths := length_document _
    kids := by
      have kids := kids_document ((paginate lines 56).map (latin1 ∘ buildPageStream))
      rwa [length] at kids
    count := by
      have count := count_document ((paginate lines 56).map (latin1 ∘ buildPageStream))
      rwa [length] at count
    allPages := by
      have all := type_page_iff ((paginate lines 56).map (latin1 ∘ buildPageStream))
      rwa [length] at all
    apart := nodup_pageIds _
    contents := by
      rw [List.forall₂_map_right_iff, List.forall₂_same]
      intro kid mem
      obtain ⟨i, page, rfl⟩ := mem_pageIds.mp mem
      exact content_document _ (length.symm ▸ page)
    own := List.Nodup.map Nat.succ_injective (nodup_pageIds _)
    font := by
      intro kid mem
      obtain ⟨i, page, rfl⟩ := mem_pageIds.mp mem
      refine ⟨_, font_document _ (length.symm ▸ page), ?_⟩
      rw [File.type, object?_font]
      rfl
    streams := by
      rw [pageIds, List.map_map, List.forall₂_map_left_iff]
      refine List.forall₂_iff_get.mpr ⟨List.length_range, fun i _ page => ?_⟩
      rw [List.get_eq_getElem, List.getElem_range, Function.comp_apply, File.stream,
        object?_content _ (show i < ((paginate lines 56).map (latin1 ∘ buildPageStream)).length by rwa [length])]
      simp [contentObject]
    order := paginate_flatten (by decide)
    few := fun page mem => length_of_paginate (by decide) mem }

/-- Without lines there is a page with a line that is none of them. -/
theorem empty_line : ¬∃ l, Exact (renderMinimalPdf []) [] l := by
  rintro ⟨⟨start, offsets, ⟨root, objects⟩, kids, contents, pages⟩, laid⟩
  obtain ⟨start', offsets', place, -, rows, found⟩ := read_resolve [buildPageStream [[]]]
  obtain rfl : start = start' := Option.some.inj (laid.startxref.symm.trans place)
  obtain ⟨rfl, rfl⟩ := Prod.mk.inj (Option.some.inj (laid.table.symm.trans rows))
  obtain rfl := Option.some.inj (laid.objects.symm.trans found)
  obtain rfl : kids = [3] := Option.some.inj (laid.kids.symm.trans (kids_document _))
  obtain ⟨content, rest, page, none, single⟩ := List.forall₂_cons_left_iff.mp laid.contents
  obtain rfl := List.forall₂_nil_left_iff.mp none
  obtain rfl : contents = [content] := single
  obtain rfl : content = 4 := Option.some.inj (page.symm.trans
    (@content_document ([buildPageStream [[]]].map latin1) 0 (by decide)))
  obtain ⟨p, rest, stream, none, single⟩ := List.forall₂_cons_left_iff.mp laid.streams
  obtain rfl := List.forall₂_nil_left_iff.mp none
  obtain rfl : pages = [p] := single
  obtain rfl : p = [] := by simpa using laid.order
  have shown : (latin1 (buildPageStream [[]])).length = (latin1 (buildPageStream [])).length :=
    congrArg List.length (Option.some.inj stream)
  exact absurd shown (by decide +kernel)

end
end SmartErp.Compliance.PdfRenderer
