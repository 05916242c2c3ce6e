import SmartErp.Foundations.Quoting
import SmartErp.Foundations.Spelling
import SmartErp.Foundations.Table
import SmartErp.Foundations.Utf16
import SmartErp.Treasury.Pain001
import Mathlib.Data.List.Dedup

/-!
# Reports as CSV

`report-exporter.service.ts`. Fields are quoted if they contain a semicolon, a quote or an LF, names of payload
fields are written as they are, and lines end with CR LF: what is read back are the reports without a CR in an
unquoted field, whose widgets have names that stand for themselves, and one at least.
-/

namespace SmartErp.Bi.ReportExporter
open Foundations Foundations.Quoting Treasury.Pain001

inductive DashboardPersona where
  | marco
  | sara
  | luca
  | giulia

def DashboardPersona.text : DashboardPersona → String
  | marco => "marco"
  | sara => "sara"
  | luca => "luca"
  | giulia => "giulia"

structure DashboardManifest where
  id : String
  persona : DashboardPersona
  title : String

/-- What else a payload holds is given as its JSON. -/
inductive Cell where
  | undefined
  | null
  | number (n : JsNumber)
  | string (s : String)
  | boolean (b : Bool)
  | other (json : String)

abbrev Payload := Table (Prod.fst : String × Cell → String)

/-- `payload[h]`. The prototype is there for every payload; the functions it has have no JSON. -/
def Payload.get (payload : Payload) (h : String) : Cell :=
  ((payload.find? h).map Prod.snd).getD (if h = "__proto__" then .other "\x7b\x7d" else .undefined)

structure ReadModelRow where
  key : String
  payload : Payload

structure ReportWidget where
  widgetId : String
  projectionId : String
  rows : List ReadModelRow

structure ReportExportInput where
  dashboard : DashboardManifest
  widgets : List ReportWidget

structure ReportExportOutput where
  filename : String
  contentType : String
  body : ByteArray

def collectHeaders (rows : List ReadModelRow) : List String :=
  Utf16.sort (rows.flatMap fun r => r.payload.rows.map Prod.fst).dedup

def formatCell : Cell → String ⊕ JsNumber
  | .undefined | .null => .inl ""
  | .number n => .inr n
  | .string s => .inl s
  | .boolean b => .inl (if b then "true" else "false")
  | .other json => .inl json

/-- `String(v)` -/
def text : String ⊕ JsNumber → List Char
  | .inl s => s.toList
  | .inr n => n.spelling

def quotes (s : List Char) : Bool := ';' ∈ s ∨ quote ∈ s ∨ '\n' ∈ s

def csvEscape (s : List Char) : List Char := if quotes s then quote :: (doubled s ++ [quote]) else s

def join (separator : String) (parts : List (List Char)) : List Char := separator.toList.intercalate parts

def rowLine (headers : List String) (r : ReadModelRow) : List Char :=
  csvEscape r.key.toList ++ ';' :: join ";" (headers.map fun h => csvEscape (text (formatCell (r.payload.get h))))

def widgetLines (w : ReportWidget) : List (List Char) :=
  let headers := collectHeaders w.rows
  ["Widget;".toList ++ csvEscape w.widgetId.toList,
    "Projection;".toList ++ csvEscape w.projectionId.toList,
    "Key;".toList ++ join ";" (headers.map String.toList)] ++ w.rows.map (rowLine headers) ++ [[]]

def csvLines (now : Instant) (input : ReportExportInput) : List (List Char) :=
  ["Dashboard;".toList ++ csvEscape input.dashboard.title.toList,
    "Persona;".toList ++ input.dashboard.persona.text.toList,
    "Generated;".toList ++ now.toISOString.toList,
    []] ++ input.widgets.flatMap widgetLines

/-- `s.replace(/[^a-z0-9]+/gi, '_')` -/
def underscored : List Char → List Char
  | [] => []
  | c :: cs =>
      if c.isAlphanum then c :: underscored cs
      else if cs.head?.all Char.isAlphanum then '_' :: underscored cs
      else underscored cs

def exportCsv (now : Instant) (input : ReportExportInput) : ReportExportOutput where
  filename := String.ofList (underscored input.dashboard.id.toList) ++ ".csv"
  contentType := "text/csv; charset=utf-8"
  body := (String.ofList (join "\r\n" (csvLines now input))).toUTF8

/-! ## Reading back -/

def readCsv (body : ByteArray) : Option (List Record) := (String.fromUTF8? body).map fun s => read ';' s.toList

def Headers (rows : List ReadModelRow) (headers : List String) : Prop :=
  headers.Pairwise Utf16.Precedes ∧ ∀ h, h ∈ headers ↔ ∃ r ∈ rows, ∃ cell, (h, cell) ∈ r.payload.rows

def widgetRecords (w : ReportWidget) (headers : List String) : List Record :=
  [["Widget".toList, w.widgetId.toList],
    ["Projection".toList, w.projectionId.toList],
    "Key".toList :: headers.map String.toList] ++
  w.rows.map fun r => r.key.toList :: headers.map fun h => text (formatCell (r.payload.get h))

def ReadsBack (input : ReportExportInput) (body : ByteArray) : Prop :=
  ∃ headers : ReportWidget → List String, (∀ w ∈ input.widgets, Headers w.rows (headers w)) ∧
    (readCsv body).map (List.drop 3) = some (input.widgets.flatMap fun w => [[]] :: widgetRecords w (headers w))

def Safe (s : List Char) : Prop := quotes s = true ∨ '\r' ∉ s

structure ReportWidget.Readable (w : ReportWidget) : Prop where
  widgetId : Safe w.widgetId.toList
  projectionId : Safe w.projectionId.toList
  fields : ∃ r ∈ w.rows, r.payload.rows ≠ []
  names : ∀ r ∈ w.rows, ∀ field ∈ r.payload.rows, Plain ';' field.1.toList
  keys : ∀ r ∈ w.rows, Safe r.key.toList
  cells : ∀ r ∈ w.rows, ∀ field ∈ r.payload.rows, Safe (text (formatCell field.2))

def Readable (input : ReportExportInput) : Prop :=
  Safe input.dashboard.title.toList ∧ ∀ w ∈ input.widgets, w.Readable

/-! ## The names -/

theorem headers_collectHeaders (rows : List ReadModelRow) : Headers rows (collectHeaders rows) :=
  ⟨Utf16.sort_pairwise (List.nodup_dedup _), fun h => by simp [collectHeaders, Utf16.mem_sort]⟩

theorem Headers.unique {rows : List ReadModelRow} {hs hs' : List String} (one : Headers rows hs)
    (other : Headers rows hs') : hs = hs' :=
  Utf16.eq_of_pairwise one.1 other.1 fun h => (one.2 h).trans (other.2 h).symm

/-! ## What is written -/

theorem readCsv_toUTF8 (s : String) : readCsv s.toUTF8 = some (read ';' s.toList) := by
  have whole : String.fromUTF8? s.toUTF8 = some s := by
    rw [String.fromUTF8?, dif_pos (show s.toUTF8.IsValidUTF8 from s.isValidUTF8)]
    rfl
  rw [readCsv, whole, Option.map_some]

def raw (s : List Char) : Field := ⟨false, s⟩

def escaped (s : List Char) : Field := ⟨quotes s, s⟩

theorem text_raw (s : List Char) : (raw s).text = s := rfl

theorem text_escaped (s : List Char) : (escaped s).text = csvEscape s := rfl

theorem good_escaped {s : List Char} : (escaped s).Good ';' ↔ Safe s := by
  unfold Field.Good Safe
  by_cases quoted : quotes s = true
  · simp only [escaped, quoted, true_or]
  · have free : ';' ∉ s ∧ quote ∉ s ∧ '\n' ∉ s := by simpa [quotes] using quoted
    refine or_congr Iff.rfl ⟨fun plain returns => (plain.free _ returns).2.1 rfl, fun returns => ?_⟩
    refine ⟨fun c mem => ?_, fun head => ?_⟩
    · exact ⟨fun same => free.1 (same ▸ mem), fun same => returns (same ▸ mem), fun same => free.2.2 (same ▸ mem)⟩
    · exact free.2.1 (List.mem_of_mem_head? head)

theorem plain_of_figures {s : List Char} (figures : ∀ c ∈ s, c.isAlphanum = true ∨ c ∈ ['-', ':', '.', '+']) :
    Plain ';' s := by
  have others : ∀ c ∈ [';', '\r', '\n', quote], ¬(c.isAlphanum = true ∨ c ∈ ['-', ':', '.', '+']) := by
    simp only [List.forall_mem_cons]
    exact ⟨by decide, by decide, by decide, by decide, List.forall_mem_nil _⟩
  have apart : ∀ d ∈ [';', '\r', '\n', quote], d ∉ s := fun d special mem => others d special (figures d mem)
  refine ⟨fun c mem => ⟨?_, ?_, ?_⟩, fun head => apart quote (by simp) (List.mem_of_mem_head? head)⟩
  · exact fun same => apart ';' (by simp) (same ▸ mem)
  · exact fun same => apart '\r' (by simp) (same ▸ mem)
  · exact fun same => apart '\n' (by simp) (same ▸ mem)

theorem plain_of_letters {s : List Char} (letters : s.all Char.isAlphanum = true) : Plain ';' s :=
  plain_of_figures fun c mem => .inl (List.all_eq_true.mp letters c mem)

def orBlank (fs : List Field) : List Field := if fs = [] then [raw []] else fs

def entry (f : Field) (fs : List Field) : List Field × Record := (f :: orBlank fs, f.value :: fs.map Field.value)

def blank : List Field × Record := ([raw []], [[]])

theorem good_raw_nil : (raw []).Good ';' := .inr ⟨List.forall_mem_nil _, by simp [raw]⟩

theorem line_entry (f : Field) (fs : List Field) :
    line ';' (entry f fs).1 = f.text ++ ';' :: join ";" (fs.map Field.text) ++ lineBreak := by
  cases fs with
  | nil => simp [entry, orBlank, line, join, raw, Field.text, List.intercalate]
  | cons g fs => simp [entry, orBlank, line, join, List.intercalate]

theorem entry_each (f : Field) (fs : List Field) :
    (entry f fs).1 ≠ [] ∧ (entry f fs).2 <+: (entry f fs).1.map Field.value ∧
      ∀ g ∈ (entry f fs).1.drop (entry f fs).2.length, g.Good ';' := by
  refine ⟨List.cons_ne_nil _ _, ?_⟩
  cases fs with
  | nil => simpa [entry, orBlank] using good_raw_nil
  | cons g fs => simp [entry, orBlank]

theorem entry_read {f : Field} {fs : List Field} :
    ((∀ g ∈ (entry f fs).1, g.Good ';') ∧ (entry f fs).1.map Field.value = (entry f fs).2) ↔
      f.Good ';' ∧ fs ≠ [] ∧ ∀ g ∈ fs, g.Good ';' := by
  cases fs with
  | nil => simp [entry, orBlank]
  | cons g fs => simp [entry, orBlank]

/-! ## One widget -/

def headerEntry (headers : List String) : List Field × Record :=
  entry (raw "Key".toList) (headers.map fun h => raw h.toList)

def rowEntry (headers : List String) (r : ReadModelRow) : List Field × Record :=
  entry (escaped r.key.toList) (headers.map fun h => escaped (text (formatCell (r.payload.get h))))

def widgetEntries (w : ReportWidget) : List (List Field × Record) :=
  [blank, entry (raw "Widget".toList) [escaped w.widgetId.toList],
    entry (raw "Projection".toList) [escaped w.projectionId.toList], headerEntry (collectHeaders w.rows)] ++
  w.rows.map (rowEntry (collectHeaders w.rows))

theorem widgetEntries_records (w : ReportWidget) :
    (widgetEntries w).map Prod.snd = [[]] :: widgetRecords w (collectHeaders w.rows) := by
  simp [widgetEntries, widgetRecords, blank, entry, headerEntry, rowEntry, raw, escaped, Function.comp_def]

theorem widgetLines_eq (w : ReportWidget) : ∃ block, widgetLines w = block ++ [[]] ∧
    ([] :: block).flatMap (· ++ lineBreak) = (widgetEntries w).flatMap fun e => line ';' e.1 := by
  refine ⟨_, rfl, ?_⟩
  have rows : ∀ rows : List ReadModelRow, (rows.map (rowLine (collectHeaders w.rows))).flatMap (· ++ lineBreak) =
      (rows.map (rowEntry (collectHeaders w.rows))).flatMap fun e => line ';' e.1 := by
    intro rows
    rw [List.flatMap_map, List.flatMap_map]
    refine List.flatMap_congr fun r _ => ?_
    rw [rowEntry, line_entry, List.map_map]
    rfl
  rw [widgetEntries, ← List.cons_append, List.flatMap_append, List.flatMap_append, rows]
  have single : ∀ s : List Char, join ";" [s] = s := fun _ => List.intercalate_singleton
  have empty : line ';' blank.1 = [] ++ lineBreak := rfl
  have names : (collectHeaders w.rows).map (Field.text ∘ fun h => raw h.toList) =
      (collectHeaders w.rows).map String.toList := rfl
  simp only [List.flatMap_cons, List.flatMap_nil, line_entry, headerEntry, List.map_map, List.map_cons, List.map_nil,
    empty, names, text_raw, text_escaped, single]
  simp

theorem widgetEntries_each (w : ReportWidget) : ∀ e ∈ widgetEntries w, e.1 ≠ [] ∧ e.2 <+: e.1.map Field.value ∧
    ∀ f ∈ e.1.drop e.2.length, f.Good ';' := by
  have blank_each : blank.1 ≠ [] ∧ blank.2 <+: blank.1.map Field.value ∧ ∀ f ∈ blank.1.drop blank.2.length, f.Good ';' :=
    ⟨List.cons_ne_nil _ _, List.prefix_rfl, List.forall_mem_nil _⟩
  simp only [widgetEntries, headerEntry, rowEntry, List.forall_mem_append, List.forall_mem_cons, List.forall_mem_map]
  exact ⟨⟨blank_each, entry_each _ _, entry_each _ _, entry_each _ _, List.forall_mem_nil _⟩, fun r _ => entry_each _ _⟩

theorem good_raw {s : List Char} : (raw s).Good ';' ↔ Plain ';' s := or_iff_right Bool.false_ne_true

theorem safe_get {payload : Payload} (safe : ∀ field ∈ payload.rows, Safe (text (formatCell field.2))) (h : String) :
    Safe (text (formatCell (payload.get h))) := by
  unfold Payload.get
  cases found : payload.find? h with
  | some field => exact safe field (Table.mem_of_find? found)
  | none =>
      rw [Option.map_none, Option.getD_none]
      split_ifs
      · exact .inr (by decide)
      · exact .inr (by decide)

theorem get_of_mem {payload : Payload} {h : String} {cell : Cell} (mem : (h, cell) ∈ payload.rows) :
    payload.get h = cell := by
  have found : payload.find? h = some (h, cell) := Table.find?_of_mem mem
  rw [Payload.get, found]
  rfl

theorem widgetEntries_read (w : ReportWidget) :
    (∀ e ∈ widgetEntries w, (∀ f ∈ e.1, f.Good ';') ∧ e.1.map Field.value = e.2) ↔ w.Readable := by
  have empty : ∀ f ∈ blank.1, f.Good ';' := List.forall_mem_singleton.mpr good_raw_nil
  have same : blank.1.map Field.value = blank.2 := rfl
  have widget : Plain ';' "Widget".toList := plain_of_letters (by decide)
  have projection : Plain ';' "Projection".toList := plain_of_letters (by decide)
  have key : Plain ';' "Key".toList := plain_of_letters (by decide)
  have names : ∀ h, h ∈ collectHeaders w.rows ↔ ∃ r ∈ w.rows, ∃ cell, (h, cell) ∈ r.payload.rows :=
    (headers_collectHeaders w.rows).2
  have named : ∀ r ∈ w.rows, ∀ field ∈ r.payload.rows, field.1 ∈ collectHeaders w.rows :=
    fun r mem field cell => (names field.1).mpr ⟨r, mem, field.2, cell⟩
  simp only [widgetEntries, headerEntry, rowEntry, List.forall_mem_append, List.forall_mem_cons, List.forall_mem_map,
    entry_read, good_escaped, good_raw, same, widget, projection, key, and_true, true_and, ne_eq, List.map_eq_nil_iff,
    reduceCtorEq, not_false_eq_true, List.not_mem_nil, false_imp_iff, implies_true, iff_true_intro empty]
  constructor
  · rintro ⟨⟨widgetId, projectionId, some, plain⟩, rows⟩
    refine ⟨widgetId, projectionId, ?_, fun r mem field cell => plain field.1 (named r mem field cell),
      fun r mem => (rows r mem).1, fun r mem field cell => ?_⟩
    · obtain ⟨h, mem⟩ := List.exists_mem_of_ne_nil _ some
      obtain ⟨r, mem, value, cell⟩ := (names h).mp mem
      exact ⟨r, mem, List.ne_nil_of_mem cell⟩
    · have safe := (rows r mem).2.2 field.1 (named r mem field cell)
      rwa [get_of_mem cell] at safe
  · intro readable
    have some : ¬collectHeaders w.rows = [] := by
      obtain ⟨r, mem, some⟩ := readable.fields
      obtain ⟨field, cell⟩ := List.exists_mem_of_ne_nil _ some
      exact List.ne_nil_of_mem (named r mem field cell)
    refine ⟨⟨readable.widgetId, readable.projectionId, some, fun h mem => ?_⟩, fun r mem => ⟨readable.keys r mem, some,
      fun h _ => safe_get (readable.cells r mem) h⟩⟩
    obtain ⟨r, mem, value, cell⟩ := (names h).mp mem
    exact readable.names r mem (h, value) cell

/-! ## The document -/

theorem join_lines (ls : List (List Char)) : join "\r\n" (ls ++ [[]]) = ls.flatMap (· ++ lineBreak) := by
  have separator : "\r\n".toList = lineBreak := rfl
  induction ls with
  | nil => rfl
  | cons l ls ih =>
      have more : ls ++ [[]] ≠ [] := by simp
      rw [List.flatMap_cons, ← ih, join, join, separator, List.cons_append, List.intercalate_cons_of_ne_nil more]

/-- A widget's line is empty before its own ones, not after them. -/
theorem csvLines_eq (now : Instant) (input : ReportExportInput) :
    join "\r\n" (csvLines now input) =
      line ';' (entry (raw "Dashboard".toList) [escaped input.dashboard.title.toList]).1 ++
        (line ';' (entry (raw "Persona".toList) [raw input.dashboard.persona.text.toList]).1 ++
          (line ';' (entry (raw "Generated".toList) [raw now.toISOString.toList]).1 ++
            (input.widgets.flatMap widgetEntries).flatMap fun e => line ';' e.1)) := by
  have moved : ∀ ws : List ReportWidget, ∃ ls, [] :: ws.flatMap widgetLines = ls ++ [[]] ∧
      ls.flatMap (· ++ lineBreak) = (ws.flatMap widgetEntries).flatMap fun e => line ';' e.1 := by
    intro ws
    induction ws with
    | nil => exact ⟨[], rfl, rfl⟩
    | cons w ws ih =>
        obtain ⟨ls, split, written⟩ := ih
        obtain ⟨block, lines, written'⟩ := widgetLines_eq w
        refine ⟨([] :: block) ++ ls, ?_, ?_⟩
        · rw [List.flatMap_cons, lines, List.append_assoc, List.singleton_append, split]
          simp
        · rw [List.flatMap_append, written, written', List.flatMap_cons, List.flatMap_append]
  obtain ⟨ls, split, written⟩ := moved input.widgets
  have single : ∀ s : List Char, join ";" [s] = s := fun _ => List.intercalate_singleton
  have whole : csvLines now input = (["Dashboard;".toList ++ csvEscape input.dashboard.title.toList,
      "Persona;".toList ++ input.dashboard.persona.text.toList,
      "Generated;".toList ++ now.toISOString.toList] ++ ls) ++ [[]] := by
    rw [List.append_assoc, ← split]
    rfl
  rw [whole, join_lines, List.flatMap_append, written]
  simp only [List.flatMap_cons, List.flatMap_nil, line_entry, List.map_cons, List.map_nil, text_raw, text_escaped,
    single]
  simp

theorem readsBack_iff (input : ReportExportInput) (written : String) : ReadsBack input written.toUTF8 ↔
    (read ';' written.toList).drop 3 = (input.widgets.flatMap widgetEntries).map Prod.snd := by
  have records : ∀ headers : ReportWidget → List String, (∀ w ∈ input.widgets, Headers w.rows (headers w)) →
      (input.widgets.flatMap fun w => [[]] :: widgetRecords w (headers w)) =
        (input.widgets.flatMap widgetEntries).map Prod.snd := by
    intro headers sorted
    rw [List.map_flatMap]
    refine List.flatMap_congr fun w mem => ?_
    rw [widgetEntries_records, (sorted w mem).unique (headers_collectHeaders w.rows)]
  rw [ReadsBack, readCsv_toUTF8, Option.map_some]
  constructor
  · rintro ⟨headers, sorted, same⟩
    rw [Option.some.inj same, records headers sorted]
  · intro same
    refine ⟨fun w => collectHeaders w.rows, fun w _ => headers_collectHeaders w.rows, ?_⟩
    rw [same, records _ fun w _ => headers_collectHeaders w.rows]

theorem read_entry {f : Field} {fs : List Field} {rest : List Char} (good : f.Good ';') (some : fs ≠ [])
    (all : ∀ g ∈ fs, g.Good ';') :
    read ';' (line ';' (entry f fs).1 ++ rest) = (f.value :: fs.map Field.value) :: read ';' rest := by
  obtain ⟨every, values⟩ := entry_read.mpr ⟨good, some, all⟩
  rw [Quoting.read, run_line (by decide) (by decide) (entry_each f fs).1 every, values]
  rfl

/-- A CR in the title makes more than one record of it. -/
theorem read_unsafe {title rest : List Char} (bad : ¬Safe title) :
    ∃ (p q : List Char) (qs : List (List Char)),
      read ';' (line ';' (entry (raw "Dashboard".toList) [escaped title]).1 ++ rest) =
        ["Dashboard".toList, p] :: [q] :: (qs.map ([·]) ++ read ';' rest) := by
  obtain ⟨unquoted, returns⟩ := not_or.mp bad
  have free : ';' ∉ title ∧ quote ∉ title ∧ '\n' ∉ title := by simpa [quotes] using unquoted
  have plain : ∀ c ∈ title, c ≠ ';' ∧ c ≠ quote ∧ c ≠ '\n' := fun c mem =>
    ⟨fun same => free.1 (same ▸ mem), fun same => free.2.1 (same ▸ mem), fun same => free.2.2 (same ▸ mem)⟩
  have dashboard : (raw "Dashboard".toList).Good ';' := good_raw.mpr (plain_of_letters (by decide))
  have written : line ';' (entry (raw "Dashboard".toList) [escaped title]).1 ++ rest =
      (raw "Dashboard".toList).text ++ ';' :: (title ++ '\r' :: '\n' :: rest) := by
    have alone : csvEscape title = title := if_neg unquoted
    rw [line_entry, List.map_singleton, text_escaped, alone, join, List.intercalate_singleton]
    simp [lineBreak]
  obtain ⟨p, ps, ran, more⟩ := @run_returns ';' title rest (by decide) plain (.fresh ["Dashboard".toList]) (by decide)
  obtain ⟨q, qs, rfl⟩ := List.exists_cons_of_ne_nil (more (Decidable.not_not.mp returns))
  refine ⟨p, q, qs, ?_⟩
  rw [written, Quoting.read, run_good dashboard (by decide)]
  exact ran

/-- Where the blank line of the first widget should be there are other records then. -/
theorem shifted_ne {title p q x y : List Char} {qs : List (List Char)} {rest : List Record} (ws : List ReportWidget) :
    ([title, p] :: [q] :: (qs.map ([·]) ++ ["Persona".toList, x] :: ["Generated".toList, y] :: rest)).drop 3 ≠
      (ws.flatMap widgetEntries).map Prod.snd := by
  intro same
  cases ws with
  | nil => cases qs <;> simp at same
  | cons w ws =>
      rw [List.flatMap_cons, List.map_append, widgetEntries_records, widgetRecords] at same
      cases qs with
      | nil => simp at same
      | cons a qs =>
          cases qs with
          | nil => simp at same
          | cons b qs => cases qs <;> simp at same

/-- What is exported is read back exactly if no unquoted text has a CR in it and the names of the payload fields of
each widget, of which there is one, stand for themselves. -/
theorem csv_reads_back (now : Instant) (input : ReportExportInput) :
    ReadsBack input (exportCsv now input).body ↔ Readable input := by
  have persona : Plain ';' input.dashboard.persona.text.toList := by
    refine plain_of_letters ?_
    cases input.dashboard.persona <;> decide
  have generated : Plain ';' now.toISOString.toList := plain_of_figures now.figures
  have two : ∀ {word : String} {value rest : List Char}, word.toList.all Char.isAlphanum = true → Plain ';' value →
      read ';' (line ';' (entry (raw word.toList) [raw value]).1 ++ rest) = [word.toList, value] :: read ';' rest :=
    fun letters plain => read_entry (good_raw.mpr (plain_of_letters letters)) (List.cons_ne_nil _ _)
      (List.forall_mem_singleton.mpr (good_raw.mpr plain))
  have widgets : read ';' ((input.widgets.flatMap widgetEntries).flatMap fun e => line ';' e.1) =
      (input.widgets.flatMap widgetEntries).map Prod.snd ↔ ∀ w ∈ input.widgets, w.Readable := by
    have each : ∀ e ∈ input.widgets.flatMap widgetEntries, e.1 ≠ [] ∧ e.2 <+: e.1.map Field.value ∧
        ∀ f ∈ e.1.drop e.2.length, f.Good ';' := by
      intro e mem
      obtain ⟨w, -, mem⟩ := List.mem_flatMap.mp mem
      exact widgetEntries_each w e mem
    rw [read_lines (by decide) (by decide) each, List.forall_mem_flatMap]
    exact forall₂_congr fun w _ => widgetEntries_read w
  rw [exportCsv, readsBack_iff, String.toList_ofList, csvLines_eq]
  by_cases safe : Safe input.dashboard.title.toList
  · rw [read_entry (good_raw.mpr (plain_of_letters (by decide))) (List.cons_ne_nil _ _)
      (List.forall_mem_singleton.mpr (good_escaped.mpr safe)), two (by decide) persona, two (by decide) generated]
    exact widgets.trans (and_iff_right safe).symm
  · refine iff_of_false (fun same => ?_) fun readable => safe readable.1
    obtain ⟨p, q, qs, ran⟩ := read_unsafe safe
    rw [ran, two (by decide) persona, two (by decide) generated] at same
    exact shifted_ne _ same

def newYear : Instant := ⟨"2026-01-01T00:00:00.000Z", List.all_iff_forall_prop.mp (by decide)⟩

def semicolon : ReportExportInput where
  dashboard := { id := "marco/scorte", persona := .marco, title := "Scorte" }
  widgets := [{ widgetId := "scorte", projectionId := "stock", rows := [
    { key := "A-1", payload := ⟨[("min;max", .string "2")], by decide⟩ }] }]

theorem semicolon_splits : ¬ReadsBack semicolon (exportCsv newYear semicolon).body := by
  rw [exportCsv, readsBack_iff, String.toList_ofList]
  decide +kernel

end SmartErp.Bi.ReportExporter
