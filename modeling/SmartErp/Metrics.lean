import SmartErp.Foundations.Runs
import SmartErp.Foundations.Spelling
import SmartErp.Foundations.Table
import SmartErp.Foundations.Xml
import Mathlib.Data.List.Sort
import Mathlib.Data.String.Basic

/-!
# Counters in the Prometheus text format

`metrics.service.ts`. The series of a counter are kept under one text for each set of labels, the text that is
printed between the braces; and a reader of the printed text, by the syntax of the format.
-/

namespace SmartErp.Metrics
open Foundations Foundations.Xml

def nameChar (c : Char) : Bool := c.isAlphanum || c = '_'

def Identifier (name : String) : Prop :=
  name.toList ≠ [] ∧ name.toList.all nameChar ∧ name.toList.head?.all (!·.isDigit)

instance (name : String) : Decidable (Identifier name) := inferInstanceAs (Decidable (_ ∧ _))

structure CounterLabels where
  entries : Table (Prod.fst : String × String → String)
  identifiers : ∀ e ∈ entries.rows, Identifier e.1

namespace CounterLabels

def none : CounterLabels := ⟨∅, by simp⟩

/-- `labels[k]` -/
def get (labels : CounterLabels) (k : String) : String := ((labels.entries.find? k).map (·.2)).getD ""

/-- `Object.keys(labels).sort()` -/
def keys (labels : CounterLabels) : List String := (labels.entries.rows.map (·.1)).insertionSort (· ≤ ·)

end CounterLabels

def escape (s : String) : List Char :=
  replaceAll '\n' (String.ofList ['\\', 'n']) (replaceAll quote (String.ofList ['\\', quote])
    (replaceAll '\\' (String.ofList ['\\', '\\']) s.toList))

def label (k v : String) : List Char := k.toList ++ '=' :: quote :: (escape v ++ [quote])

def labelKey (labels : CounterLabels) : List Char :=
  [','].intercalate (labels.keys.map fun k => label k (labels.get k))

structure CounterEntry where
  name : String
  help : String
  value : Table (Prod.fst : List Char × JsNumber → List Char)

structure MetricsService where
  counters : Table CounterEntry.name

def registerCounter (m : MetricsService) (name help : String) : MetricsService :=
  ⟨m.counters.save ⟨name, help, ∅⟩⟩

def registrations : List (String × String) :=
  [("smarterp_http_requests_total", "Total HTTP requests handled by the API, labelled by method, path, status"),
    ("smarterp_http_errors_total", "Total HTTP error responses (status >= 400), labelled by method, path, status"),
    ("smarterp_inventory_movements_total", "Total recorded stock movements, labelled by type"),
    ("smarterp_sales_orders_total", "Total sales orders created"),
    ("smarterp_invoices_total", "Total invoices created, labelled by documentType"),
    ("smarterp_auth_events_total", "Authentication events, labelled by event and outcome")]

def new : MetricsService := registrations.foldl (fun m c => registerCounter m c.1 c.2) ⟨∅⟩

structure Call where
  name : String
  labels : CounterLabels := .none
  amount : JsNumber := .finite 1

def increment (m : MetricsService) (call : Call) : MetricsService :=
  match m.counters.find? call.name with
  | none => m
  | some entry =>
      let key := labelKey call.labels
      let value := (((entry.value.find? key).map Prod.snd).getD (JsNumber.finite 0)).plus call.amount
      ⟨m.counters.save { entry with value := entry.value.save (key, value) }⟩

def run (m : MetricsService) (calls : List Call) : MetricsService := calls.foldl increment m

/-! ## The text -/

/-- What `render` reads of the process; `uptime` is in seconds, the memory in bytes. -/
structure Process where
  version : Option String
  buildSha : Option String
  nodeVersion : String
  uptime : ℚ
  memoryUsage : List (String × ℕ)
  uptime_small : |uptime| < 10 ^ 21

def series (name : String) (key : List Char) (value : JsNumber) : List Char :=
  name.toList ++ (if key = [] then [] else '{' :: (key ++ ['}'])) ++ ' ' :: value.spelling

def CounterEntry.render (entry : CounterEntry) : List (List Char) :=
  ("# HELP " ++ entry.name ++ " " ++ entry.help).toList :: ("# TYPE " ++ entry.name ++ " counter").toList ::
    if entry.value.rows = [] then [(entry.name ++ " 0").toList]
    else entry.value.rows.map fun r => series entry.name r.1 r.2

def Process.build (process : Process) : List (String × String) :=
  [("version", process.version.getD "1.0.0"), ("build_sha", process.buildSha.getD "dev"), ("node", process.nodeVersion)]

def gauges (process : Process) : List (List Char) :=
  let build := process.build.map fun e => label e.1 e.2
  ["# HELP smarterp_build_info SmartERP backend build metadata".toList,
    "# TYPE smarterp_build_info gauge".toList,
    "smarterp_build_info".toList ++ '{' :: ([','].intercalate build ++ '}' :: ' ' :: ['1']),
    "# HELP smarterp_uptime_seconds Process uptime in seconds".toList,
    "# TYPE smarterp_uptime_seconds gauge".toList,
    "smarterp_uptime_seconds".toList ++ ' ' :: (toFixed process.uptime 3).toList,
    "# HELP smarterp_memory_bytes Node.js process memory usage in bytes, by area".toList,
    "# TYPE smarterp_memory_bytes gauge".toList] ++
    process.memoryUsage.map fun area =>
      series "smarterp_memory_bytes" (label "area" area.1) (JsNumber.finite area.2).double

def exposition (lines : List (List Char)) : List Char := ['\n'].intercalate lines ++ ['\n']

def render (m : MetricsService) (process : Process) : List Char :=
  exposition (gauges process ++ m.counters.rows.flatMap CounterEntry.render)

/-! ## The reader -/

structure Sample where
  metric : List Char
  labels : List (String × String)
  value : JsNumber

def readValue : List Char → Option (List Char × List Char)
  | [] => none
  | c :: cs =>
      if c = quote then some ([], cs)
      else if c = '\n' then none
      else if c = '\\' then
        match cs with
        | [] => none
        | d :: ds =>
            if d = '\\' ∨ d = quote then (readValue ds).map fun r => (d :: r.1, r.2)
            else if d = 'n' then (readValue ds).map fun r => ('\n' :: r.1, r.2)
            else none
      else (readValue cs).map fun r => (c :: r.1, r.2)

def afterLabel (more : List Char → Option (List (String × String) × List Char)) :
    List Char → Option (List (String × String) × List Char)
  | ',' :: cs => more cs
  | '}' :: cs => some ([], cs)
  | _ => none

def readLabels : ℕ → List Char → Option (List (String × String) × List Char)
  | 0, _ => none
  | _ + 1, '}' :: cs => some ([], cs)
  | n + 1, cs =>
      match cs.dropWhile nameChar with
      | '=' :: q :: rest =>
          if q = quote ∧ cs.takeWhile nameChar ≠ [] then do
            let (value, rest) ← readValue rest
            let (labels, rest) ← afterLabel (readLabels n) rest
            return ((String.ofList (cs.takeWhile nameChar), String.ofList value) :: labels, rest)
          else none
      | _ => none

def readSample (cs : List Char) : Option Sample := do
  let metric := cs.takeWhile fun c => nameChar c || c = ':'
  let (labels, rest) ← match cs.dropWhile fun c => nameChar c || c = ':' with
    | '{' :: rest => readLabels (rest.length + 1) rest
    | rest => some ([], rest)
  match rest with
  | ' ' :: value => return ⟨metric, labels, ← JsNumber.readNumber value⟩
  | _ => none

def readText (text : List Char) : Option (List Sample) :=
  ((text.splitOn '\n').filter fun line => !line.isEmpty && line.head? != some '#').mapM readSample

/-! ## The law -/

def Same (labels labels' : CounterLabels) : Prop := ∀ e, e ∈ labels.entries.rows ↔ e ∈ labels'.entries.rows

theorem perm_iff_same {labels labels' : CounterLabels} :
    labels.entries.rows.Perm labels'.entries.rows ↔ Same labels labels' :=
  List.perm_ext_iff_of_nodup labels.entries.nodup.of_map labels'.entries.nodup.of_map

instance (labels labels' : CounterLabels) : Decidable (Same labels labels') := decidable_of_iff _ perm_iff_same

def amounts (calls : List Call) (name : String) (labels : CounterLabels) : List JsNumber :=
  (calls.filter fun call => call.name = name ∧ Same call.labels labels).map (·.amount)

def total (amounts : List JsNumber) : JsNumber := amounts.foldl JsNumber.plus (.finite 0)

/-- One sample for each set of labels, with the sum of its calls; or the sample 0 without labels where there was
no call. -/
structure Recovers (calls : List Call) (name : String) (samples : List Sample) : Prop where
  metric : ∀ s ∈ samples, s.metric = name.toList
  distinct : samples.Pairwise fun s s' => ¬ s.labels.Perm s'.labels
  complete : ∀ labels, amounts calls name labels ≠ [] →
    ∃ s ∈ samples, s.labels.Perm labels.entries.rows ∧ s.value = total (amounts calls name labels)
  sound : ∀ s ∈ samples, ∃ labels : CounterLabels, s.labels.Perm labels.entries.rows ∧
    s.value = total (amounts calls name labels) ∧
      (amounts calls name labels = [] → ∀ call ∈ calls, call.name ≠ name)

/-! ## Labels -/

variable {c : Char} {cs ds : List Char} {labels labels' : CounterLabels}

def escaped (c : Char) : List Char :=
  if c = '\\' then ['\\', '\\'] else if c = quote then ['\\', quote] else if c = '\n' then ['\\', 'n'] else [c]

/-- The three replacements are one for each character, since the first takes the backslashes. -/
theorem escape_eq (s : String) : escape s = s.toList.flatMap escaped := by
  have single : s.toList.flatMap (fun c => [c]) = s.toList := List.flatMap_singleton' _
  rw [escape]
  conv_lhs => rw [← single]
  simp only [replaceAll_flatMap]
  apply List.flatMap_congr
  intro c _
  unfold escaped
  split_ifs with slash quot feed
  · rw [slash]; decide
  · rw [quot]; decide
  · rw [feed]; decide
  · rw [replaceAll_other slash, replaceAll_other quot, replaceAll_other feed]

theorem feed_not_mem_escape (s : String) : '\n' ∉ escape s := by
  rw [escape_eq, List.mem_flatMap]
  rintro ⟨c, -, mem⟩
  unfold escaped at mem
  split_ifs at mem with slash quot feed
  · exact absurd mem (by decide)
  · exact absurd mem (by decide)
  · exact absurd mem (by decide)
  · exact feed (List.mem_singleton.mp mem).symm

theorem readValue_close : readValue (quote :: cs) = some ([], cs) := by
  rw [readValue.eq_def]
  simp

theorem readValue_escaped : readValue (escaped c ++ cs) = (readValue cs).map fun r => (c :: r.1, r.2) := by
  unfold escaped
  split_ifs with slash quot feed
  · subst slash
    simp [readValue, quote]
  · subst quot
    simp [readValue, quote]
  · subst feed
    simp [readValue, quote]
  · rw [List.singleton_append, readValue.eq_def]
    simp only [if_neg quot, if_neg feed, if_neg slash]

theorem readValue_escape (s : String) (rest : List Char) :
    readValue (escape s ++ quote :: rest) = some (s.toList, rest) := by
  rw [escape_eq]
  induction s.toList with
  | nil => exact readValue_close
  | cons c cs ih => rw [List.flatMap_cons, List.append_assoc, readValue_escaped, ih, Option.map_some]

theorem keys_identifier {k : String} (mem : k ∈ labels.keys) : Identifier k := by
  rw [CounterLabels.keys, List.mem_insertionSort, List.mem_map] at mem
  obtain ⟨e, there, rfl⟩ := mem
  exact labels.identifiers e there

theorem takeWhile_word {p : Char → Bool} {word rest : List Char} (all : ∀ c ∈ word, p c = true)
    (ends : ∀ c ∈ rest.head?, p c = false) :
    (word ++ rest).takeWhile p = word ∧ (word ++ rest).dropWhile p = rest := by
  rw [List.takeWhile_append_of_pos all, List.dropWhile_append_of_pos all]
  cases rest with
  | nil => simp
  | cons c cs => simp [ends c rfl]

theorem readLabels_label {k : String} (identifier : Identifier k) (v : String) (n : ℕ) (rest : List Char) :
    readLabels (n + 1) (label k v ++ rest) =
      (afterLabel (readLabels n) rest).map fun r => ((k, v) :: r.1, r.2) := by
  have stops : ∀ c ∈ ('=' :: quote :: (escape v ++ quote :: rest)).head?, nameChar c = false := by
    rintro c ⟨⟩
    decide
  obtain ⟨taken, dropped⟩ := takeWhile_word (List.all_eq_true.mp identifier.2.1) stops
  have written : label k v ++ rest = k.toList ++ '=' :: quote :: (escape v ++ quote :: rest) := by simp [label]
  have start : ∀ cs, k.toList ++ '=' :: quote :: (escape v ++ quote :: rest) ≠ '}' :: cs := by
    intro cs eq
    obtain ⟨d, ds, spelled⟩ := List.exists_cons_of_ne_nil identifier.1
    rw [spelled, List.cons_append] at eq
    have word := List.all_eq_true.mp identifier.2.1 d (by rw [spelled]; exact List.mem_cons_self)
    rw [(List.cons.inj eq).1] at word
    exact absurd word (by decide)
  rw [written, readLabels.eq_3 _ _ start]
  simp only [taken, dropped, readValue_escape, String.ofList_toList]
  rw [if_pos ⟨trivial, identifier.1⟩]
  simp only [Option.bind_eq_bind, Option.bind_some, String.ofList_toList]
  cases afterLabel (readLabels n) rest <;> rfl

theorem readLabels_intercalate {es : List (String × String)} (identifiers : ∀ e ∈ es, Identifier e.1) {n : ℕ}
    (enough : es.length < n) (rest : List Char) :
    readLabels n ([','].intercalate (es.map fun e => label e.1 e.2) ++ '}' :: rest) = some (es, rest) := by
  obtain ⟨n, rfl⟩ : ∃ m, n = m + 1 := ⟨n - 1, by omega⟩
  induction es generalizing n with
  | nil => rfl
  | cons e es ih =>
      rw [List.forall_mem_cons] at identifiers
      rw [List.length_cons] at enough
      cases es with
      | nil => simp [readLabels_label identifiers.1, afterLabel]
      | cons e' es =>
          obtain ⟨n, rfl⟩ : ∃ m, n = m + 1 := ⟨n - 1, by omega⟩
          have read := ih identifiers.2 n (by omega)
          rw [List.map_cons, List.map_cons, List.intercalate_cons_cons, ← List.map_cons (f := fun e : String × String => label e.1 e.2),
            List.append_assoc, List.append_assoc, readLabels_label identifiers.1, List.singleton_append, afterLabel,
            read]
          rfl

def pairs (labels : CounterLabels) : List (String × String) := labels.keys.map fun k => (k, labels.get k)

theorem labelKey_eq (labels : CounterLabels) :
    labelKey labels = [','].intercalate ((pairs labels).map fun e => label e.1 e.2) := by
  rw [labelKey, pairs, List.map_map]
  rfl

theorem pairs_identifier : ∀ e ∈ pairs labels, Identifier e.1 := by
  intro e mem
  obtain ⟨k, there, rfl⟩ := List.mem_map.mp mem
  exact keys_identifier there

theorem readLabels_labelKey {n : ℕ} (enough : (pairs labels).length < n) (rest : List Char) :
    readLabels n (labelKey labels ++ '}' :: rest) = some (pairs labels, rest) := by
  rw [labelKey_eq]
  exact readLabels_intercalate pairs_identifier enough rest

theorem get_of_mem {e : String × String} (mem : e ∈ labels.entries.rows) : labels.get e.1 = e.2 := by
  rw [CounterLabels.get, Table.find?_of_mem mem]
  rfl

theorem mem_pairs {e : String × String} : e ∈ pairs labels ↔ e ∈ labels.entries.rows := by
  rw [pairs, List.mem_map]
  simp only [CounterLabels.keys, List.mem_insertionSort, List.mem_map]
  constructor
  · rintro ⟨k, ⟨e', mem, rfl⟩, rfl⟩
    rwa [get_of_mem mem]
  · intro mem
    exact ⟨e.1, ⟨e, mem, rfl⟩, by rw [get_of_mem mem]⟩

theorem Same.keys_eq (same : Same labels labels') : labels.keys = labels'.keys := by
  have perm := perm_iff_same.mpr same
  apply List.Perm.eq_of_sortedLE List.sortedLE_insertionSort List.sortedLE_insertionSort
  exact (List.perm_insertionSort _ _).trans ((perm.map _).trans (List.perm_insertionSort _ _).symm)

theorem labelKey_eq_iff : labelKey labels = labelKey labels' ↔ Same labels labels' := by
  constructor
  · intro key e
    have read : readLabels ((pairs labels).length + (pairs labels').length + 1) (labelKey labels ++ ['}']) =
        some (pairs labels, []) := readLabels_labelKey (by omega) []
    have read' : readLabels ((pairs labels).length + (pairs labels').length + 1) (labelKey labels' ++ ['}']) =
        some (pairs labels', []) := readLabels_labelKey (by omega) []
    rw [key, read'] at read
    have equal : pairs labels' = pairs labels := by simpa using read
    rw [← mem_pairs, ← mem_pairs, equal]
  · intro same
    rw [labelKey, labelKey, same.keys_eq]
    congr 1
    apply List.map_congr_left
    intro k mem
    rw [← same.keys_eq, CounterLabels.keys, List.mem_insertionSort, List.mem_map] at mem
    obtain ⟨e, there, rfl⟩ := mem
    rw [get_of_mem there, get_of_mem ((same e).mp there)]

/-! ## Series -/

def value (m : MetricsService) (name : String) (key : List Char) : Option JsNumber :=
  (m.counters.find? name).bind fun entry => (entry.value.find? key).map (·.2)

theorem value_increment (m : MetricsService) (call : Call) (name : String) (key : List Char) :
    value (increment m call) name key =
      if (m.counters.find? name).isSome ∧ call.name = name ∧ labelKey call.labels = key then
        some (((value m name key).getD (.finite 0)).plus call.amount)
      else value m name key := by
  rw [increment]
  cases found : m.counters.find? call.name with
  | none =>
      rw [if_neg]
      rintro ⟨registered, rfl, -⟩
      simp [found] at registered
  | some entry =>
      have named : entry.name = call.name := Table.key_of_find? found
      by_cases here : call.name = name
      · subst here
        by_cases this : labelKey call.labels = key
        · subst this
          simp [value, named, found]
        · simp [value, Table.find?_save, named, found, this]
      · simp [value, Table.find?_save, named, here]

theorem registered_increment (m : MetricsService) (call : Call) (name : String) :
    (((increment m call).counters.find? name).map fun entry => (entry.name, entry.help)) =
      (m.counters.find? name).map fun entry => (entry.name, entry.help) := by
  rw [increment]
  cases found : m.counters.find? call.name with
  | none => rfl
  | some entry =>
      have named : entry.name = call.name := Table.key_of_find? found
      by_cases here : call.name = name
      · subst here
        simp [named, found]
      · simp [Table.find?_save, named, here]

theorem registered_run (m : MetricsService) (calls : List Call) (name : String) :
    (((run m calls).counters.find? name).map fun entry => (entry.name, entry.help)) =
      (m.counters.find? name).map fun entry => (entry.name, entry.help) := by
  induction calls generalizing m with
  | nil => rfl
  | cons call calls ih => rw [run, List.foldl_cons, ← run, ih, registered_increment]

theorem value_run {m : MetricsService} {name : String} (registered : (m.counters.find? name).isSome)
    (calls : List Call) (labels : CounterLabels) : value (run m calls) name (labelKey labels) =
      (amounts calls name labels).foldl (fun sum amount => some ((sum.getD (.finite 0)).plus amount))
        (value m name (labelKey labels)) := by
  induction calls generalizing m with
  | nil => rfl
  | cons call calls ih =>
      have registered' : ((increment m call).counters.find? name).isSome := by
        have kept := congrArg Option.isSome (registered_increment m call name)
        rwa [Option.isSome_map, Option.isSome_map, registered] at kept
      rw [run, List.foldl_cons, ← run, ih registered', value_increment]
      simp only [labelKey_eq_iff]
      by_cases here : call.name = name ∧ Same call.labels labels
      · simp [amounts, here, registered]
      · rw [if_neg fun all => here all.2, amounts, amounts, List.filter_cons_of_neg (by simpa using here)]

theorem foldl_some (amounts : List JsNumber) (sum : JsNumber) :
    amounts.foldl (fun sum amount => some ((sum.getD (.finite 0)).plus amount)) (some sum) =
      some (amounts.foldl JsNumber.plus sum) := by
  induction amounts generalizing sum with
  | nil => rfl
  | cons a as ih => rw [List.foldl_cons, Option.getD_some, ih, List.foldl_cons]

theorem value_new (name : String) (key : List Char) : value new name key = none := by
  have empty : ∀ entry ∈ new.counters.rows, entry.value.rows = [] := by decide +kernel
  rw [value]
  cases found : new.counters.find? name with
  | none => rfl
  | some entry => simp [Table.find?, empty entry (Table.mem_of_find? found)]

theorem registered_new {name : String} (registered : name ∈ registrations.map (·.1)) :
    ∃ entry, new.counters.find? name = some entry ∧ (entry.name, entry.help) ∈ registrations := by
  have all : ∀ c ∈ registrations, (new.counters.find? c.1).any (fun e => (e.name, e.help) ∈ registrations) = true := by
    decide +kernel
  obtain ⟨c, mem, rfl⟩ := List.mem_map.mp registered
  obtain ⟨entry, found, known⟩ := (Option.any_eq_true _ _).mp (all c mem)
  exact ⟨entry, found, of_decide_eq_true known⟩

theorem value_series {name : String} (registered : (new.counters.find? name).isSome) (calls : List Call)
    (labels : CounterLabels) : value (run new calls) name (labelKey labels) =
      if amounts calls name labels = [] then none else some (total (amounts calls name labels)) := by
  rw [value_run registered, value_new]
  cases amounts calls name labels with
  | nil => rfl
  | cons a as =>
      rw [List.foldl_cons, Option.getD_none, foldl_some, if_neg (List.cons_ne_nil a as), total, List.foldl_cons]

theorem double_total {amounts : List JsNumber} (nonempty : amounts ≠ []) : (total amounts).double = total amounts := by
  obtain ⟨init, last, rfl⟩ := (List.eq_nil_or_concat' amounts).resolve_left nonempty
  rw [total, List.foldl_append, List.foldl_cons, List.foldl_nil, JsNumber.plus, JsNumber.double_double]

theorem before_or_call {m : MetricsService} {calls : List Call} {name : String} {key : List Char}
    (there : value (run m calls) name key ≠ none) :
    value m name key ≠ none ∨ ∃ call ∈ calls, call.name = name ∧ labelKey call.labels = key := by
  induction calls generalizing m with
  | nil => exact .inl there
  | cons call calls ih =>
      rw [run, List.foldl_cons] at there
      rcases ih there with before | ⟨call', mem, here⟩
      · rw [value_increment] at before
        split_ifs at before with here
        · exact .inr ⟨call, List.mem_cons_self, here.2⟩
        · exact .inl before
      · exact .inr ⟨call', List.mem_cons_of_mem _ mem, here⟩

/-! ## The text of a counter -/

theorem length_le_intercalate {parts : List (List Char)} (nonempty : ∀ part ∈ parts, part ≠ []) :
    parts.length ≤ ([','].intercalate parts).length := by
  induction parts with
  | nil => rfl
  | cons part parts ih =>
      rw [List.forall_mem_cons] at nonempty
      have one := List.length_pos_iff.mpr nonempty.1
      have rest := ih nonempty.2
      cases parts with
      | nil =>
          rw [List.intercalate_singleton, List.length_singleton]
          exact one
      | cons part' parts =>
          rw [List.intercalate_cons_cons, List.length_append, List.length_append, List.length_singleton]
          rw [List.length_cons]
          omega

theorem length_le_labels (es : List (String × String)) :
    es.length ≤ ([','].intercalate (es.map fun e => label e.1 e.2)).length := by
  have nonempty : ∀ part ∈ es.map fun e => label e.1 e.2, part ≠ [] := by
    intro part mem
    obtain ⟨e, -, rfl⟩ := List.mem_map.mp mem
    simp [label]
  have step := length_le_intercalate nonempty
  rwa [List.length_map] at step

theorem feed_not_mem_identifier {k : String} (identifier : Identifier k) : '\n' ∉ k.toList :=
  fun mem => absurd (List.all_eq_true.mp identifier.2.1 _ mem) (by decide)

theorem feed_not_mem_label {k : String} (identifier : Identifier k) (v : String) : '\n' ∉ label k v := by
  rw [label, List.mem_append, List.mem_cons, List.mem_cons, List.mem_append, List.mem_singleton]
  rintro (mem | mem | mem | mem | mem)
  · exact feed_not_mem_identifier identifier mem
  · exact absurd mem (by decide)
  · exact absurd mem (by decide)
  · exact feed_not_mem_escape v mem
  · exact absurd mem (by decide)

theorem not_mem_intercalate {α : Type} {x : α} {sep : List α} {parts : List (List α)} (apart : x ∉ sep)
    (clean : ∀ part ∈ parts, x ∉ part) : x ∉ sep.intercalate parts := by
  induction parts with
  | nil => simp
  | cons part parts ih =>
      rw [List.forall_mem_cons] at clean
      cases parts with
      | nil => simpa using clean.1
      | cons part' parts =>
          rw [List.intercalate_cons_cons, List.mem_append, List.mem_append]
          rintro ((mem | mem) | mem)
          · exact clean.1 mem
          · exact apart mem
          · exact ih clean.2 mem

theorem feed_not_mem_labels {es : List (String × String)} (identifiers : ∀ e ∈ es, Identifier e.1) :
    '\n' ∉ [','].intercalate (es.map fun e => label e.1 e.2) := by
  apply not_mem_intercalate (by decide)
  intro part mem
  obtain ⟨e, there, rfl⟩ := List.mem_map.mp mem
  exact feed_not_mem_label (identifiers e there) _

theorem labelKey_eq_nil : labelKey labels = [] ↔ labels.keys = [] := by
  constructor
  · intro empty
    have length := length_le_labels (pairs labels)
    rw [← labelKey_eq, empty, pairs, List.length_map] at length
    exact List.length_eq_zero_iff.mp (Nat.le_zero.mp length)
  · intro empty
    rw [labelKey, empty]
    rfl

/-! ## Lines -/

variable {name : String} {text : List Char} {v : JsNumber}

theorem readSample_bare (identifier : Identifier name) (read : JsNumber.readNumber text = some v) :
    readSample (name.toList ++ ' ' :: text) = some ⟨name.toList, [], v⟩ := by
  have all : ∀ c ∈ name.toList, (nameChar c || c = ':') = true := fun c mem => by
    rw [List.all_eq_true.mp identifier.2.1 c mem, Bool.true_or]
  have blank : ∀ c ∈ (' ' :: text).head?, (nameChar c || c = ':') = false := by
    rintro c ⟨⟩
    decide
  obtain ⟨taken, dropped⟩ := takeWhile_word all blank
  rw [readSample, taken, dropped]
  simp [read]

theorem readSample_labels (identifier : Identifier name) {es : List (String × String)}
    (identifiers : ∀ e ∈ es, Identifier e.1) (read : JsNumber.readNumber text = some v) :
    readSample (name.toList ++ '{' :: ([','].intercalate (es.map fun e => label e.1 e.2) ++ '}' :: ' ' :: text)) =
      some ⟨name.toList, es, v⟩ := by
  have all : ∀ c ∈ name.toList, (nameChar c || c = ':') = true := fun c mem => by
    rw [List.all_eq_true.mp identifier.2.1 c mem, Bool.true_or]
  obtain ⟨key, hkey⟩ : ∃ key, key = [','].intercalate (es.map fun e => label e.1 e.2) := ⟨_, rfl⟩
  have brace : ∀ c ∈ ('{' :: (key ++ '}' :: ' ' :: text)).head?, (nameChar c || c = ':') = false := by
    rintro c ⟨⟩
    decide
  obtain ⟨taken, dropped⟩ := takeWhile_word all brace
  have enough : es.length < (key ++ '}' :: ' ' :: text).length + 1 := by
    rw [List.length_append, hkey]
    have length := length_le_labels es
    omega
  have labels := readLabels_intercalate identifiers enough (' ' :: text)
  rw [← hkey] at labels ⊢
  rw [readSample, taken, dropped]
  simp only [labels, Option.bind_eq_bind, Option.bind_some, read]
  rfl

structure Line (name : String) (line : List Char) (s : Sample) : Prop where
  named : name.toList <+: line
  flat : '\n' ∉ line
  read : readSample line = some s

theorem feed_not_mem_spelling (n : JsNumber) : '\n' ∉ n.spelling := by
  intro mem
  exact absurd (JsNumber.figure_spelling mem) (by decide)

theorem bare_line (identifier : Identifier name) (flat : '\n' ∉ text) (read : JsNumber.readNumber text = some v) :
    Line name (name.toList ++ ' ' :: text) ⟨name.toList, [], v⟩ where
  named := List.prefix_append _ _
  flat := by simp [feed_not_mem_identifier identifier, flat]
  read := readSample_bare identifier read

theorem labels_line (identifier : Identifier name) {es : List (String × String)}
    (identifiers : ∀ e ∈ es, Identifier e.1) (flat : '\n' ∉ text) (read : JsNumber.readNumber text = some v) :
    Line name (name.toList ++ '{' :: ([','].intercalate (es.map fun e => label e.1 e.2) ++ '}' :: ' ' :: text))
      ⟨name.toList, es, v⟩ where
  named := List.prefix_append _ _
  flat := by
    have key := feed_not_mem_labels identifiers
    simp [feed_not_mem_identifier identifier, key, flat]
  read := readSample_labels identifier identifiers read

theorem series_line (identifier : Identifier name) {es : List (String × String)}
    (identifiers : ∀ e ∈ es, Identifier e.1) (double : v.double = v) :
    Line name (series name ([','].intercalate (es.map fun e => label e.1 e.2)) v) ⟨name.toList, es, v⟩ := by
  have read := JsNumber.readNumber_spelling double
  have flat := feed_not_mem_spelling v
  cases es with
  | nil =>
      have line := bare_line identifier flat read
      simpa [series] using line
  | cons e es =>
      have some : [','].intercalate ((e :: es).map fun e => label e.1 e.2) ≠ [] := by
        have length := length_le_labels (e :: es)
        rintro empty
        rw [empty] at length
        cases length
      have line := labels_line identifier identifiers flat read
      rw [series, if_neg some]
      simpa using line

/-! ## Texts -/

theorem exposition_eq {lines : List (List Char)} (nonempty : lines ≠ []) :
    exposition lines = ['\n'].intercalate (lines ++ [[]]) := by
  rw [exposition]
  induction lines with
  | nil => exact absurd rfl nonempty
  | cons line lines ih =>
      cases lines with
      | nil => simp
      | cons line' lines =>
          rw [List.cons_append, List.cons_append, List.intercalate_cons_cons, List.intercalate_cons_cons,
            ← List.cons_append, ← ih (List.cons_ne_nil line' lines), List.append_assoc]

theorem splitOn_exposition {lines : List (List Char)} (nonempty : lines ≠ []) (flat : ∀ line ∈ lines, '\n' ∉ line) :
    (exposition lines).splitOn '\n' = lines ++ [[]] := by
  rw [exposition_eq nonempty, List.splitOn_intercalate]
  · intro line mem
    rcases List.mem_append.mp mem with mem | last
    · exact flat line mem
    · rw [List.mem_singleton.mp last]
      exact List.not_mem_nil
  · exact List.append_ne_nil_of_left_ne_nil nonempty _

def readLines (lines : List (List Char)) : Option (List Sample) :=
  (lines.filter fun line => !line.isEmpty && line.head? != some '#').mapM readSample

theorem readText_exposition {lines : List (List Char)} (nonempty : lines ≠ []) (flat : ∀ line ∈ lines, '\n' ∉ line) :
    readText (exposition lines) = readLines lines := by
  rw [readText, splitOn_exposition nonempty flat, readLines, List.filter_append]
  simp

theorem readLines_append {lines lines' : List (List Char)} {samples samples' : List Sample}
    (read : readLines lines = some samples) (read' : readLines lines' = some samples') :
    readLines (lines ++ lines') = some (samples ++ samples') := by
  rw [readLines] at read read'
  rw [readLines, List.filter_append, List.mapM_append, read, read']
  rfl

theorem readLines_comments {lines : List (List Char)} (comment : ∀ line ∈ lines, line.head? = some '#') :
    readLines lines = some [] := by
  have skipped : lines.filter (fun line => !line.isEmpty && line.head? != some '#') = [] := by
    apply List.filter_eq_nil_iff.mpr
    intro line mem
    simp [comment line mem]
  rw [readLines, skipped]
  rfl

theorem mapM_map {α β γ : Type} {f : β → Option γ} {g : α → β} {h : α → γ} {xs : List α}
    (reads : ∀ x ∈ xs, f (g x) = some (h x)) : (xs.map g).mapM f = some (xs.map h) := by
  induction xs with
  | nil => rfl
  | cons x xs ih =>
      rw [List.forall_mem_cons] at reads
      rw [List.map_cons, List.mapM_cons, reads.1, ih reads.2]
      rfl

theorem readLines_map {α : Type} (identifier : Identifier name) {f : α → List Char} {g : α → Sample} {xs : List α}
    (lines : ∀ x ∈ xs, Line name (f x) (g x)) : readLines (xs.map f) = some (xs.map g) := by
  have kept : (xs.map f).filter (fun line => !line.isEmpty && line.head? != some '#') = xs.map f := by
    apply List.filter_eq_self.mpr
    intro line mem
    obtain ⟨x, here, rfl⟩ := List.mem_map.mp mem
    obtain ⟨rest, printed⟩ := (lines x here).named
    obtain ⟨c, cs, spelled⟩ := List.exists_cons_of_ne_nil identifier.1
    have first : nameChar c = true := List.all_eq_true.mp identifier.2.1 c (by rw [spelled]; exact List.mem_cons_self)
    have other : c ≠ '#' := by
      rintro rfl
      exact absurd first (by decide)
    rw [← printed, spelled]
    simpa using other
  rw [readLines, kept]
  exact mapM_map fun x here => (lines x here).read

theorem readLines_metric {α : Type} (identifier : Identifier name) {comments : List (List Char)}
    (comment : ∀ line ∈ comments, line.head? = some '#') {f : α → List Char} {g : α → Sample} {xs : List α}
    (lines : ∀ x ∈ xs, Line name (f x) (g x)) : readLines (comments ++ xs.map f) = some (xs.map g) :=
  readLines_append (readLines_comments comment) (readLines_map identifier lines)

def labelsOf (calls : List Call) (name : String) (key : List Char) : CounterLabels :=
  ((calls.find? fun call => call.name = name ∧ labelKey call.labels = key).map (·.labels)).getD .none

theorem labelKey_labelsOf {calls : List Call} {name : String} {key : List Char}
    (there : ∃ call ∈ calls, call.name = name ∧ labelKey call.labels = key) :
    labelKey (labelsOf calls name key) = key := by
  cases found : calls.find? fun call => call.name = name ∧ labelKey call.labels = key with
  | none =>
      obtain ⟨call, mem, here⟩ := there
      exact absurd here (by simpa using List.find?_eq_none.mp found call mem)
  | some call =>
      have here := List.find?_some found
      rw [labelsOf, found]
      simpa using (of_decide_eq_true here).2

theorem entry_run {name : String} (registered : name ∈ registrations.map (·.1)) (calls : List Call) :
    ∃ entry, (run new calls).counters.find? name = some entry ∧ entry.name = name ∧
      (entry.name, entry.help) ∈ registrations ∧ ∀ r ∈ entry.value.rows,
        value (run new calls) name r.1 = some r.2 ∧ labelKey (labelsOf calls name r.1) = r.1 := by
  obtain ⟨entry, found, known⟩ := registered_new registered
  have kept := registered_run new calls name
  rw [found, Option.map_some, Option.map_eq_some_iff] at kept
  obtain ⟨entry', found', same⟩ := kept
  refine ⟨entry', found', Table.key_of_find? found', same ▸ known, fun r mem => ?_⟩
  have here : value (run new calls) name r.1 = some r.2 := by
    rw [value, found', Option.bind_some, Table.find?_of_mem mem]
    rfl
  refine ⟨here, labelKey_labelsOf ((before_or_call ?_).resolve_left fun before => before (value_new name r.1))⟩
  rw [here]
  exact Option.some_ne_none r.2

theorem registration_text {name help : String} (known : (name, help) ∈ registrations) :
    Identifier name ∧ '\n' ∉ help.toList := by
  have all : ∀ c ∈ registrations, Identifier c.1 ∧ '\n' ∉ c.2.toList := by decide +kernel
  exact all (name, help) known

theorem readLines_render {entry : CounterEntry} (known : (entry.name, entry.help) ∈ registrations) {α : Type}
    {f : α → List Char} {g : α → Sample} {xs : List α} (lines : ∀ x ∈ xs, Line entry.name (f x) (g x))
    (printed : entry.render = ("# HELP " ++ entry.name ++ " " ++ entry.help).toList ::
      ("# TYPE " ++ entry.name ++ " counter").toList :: xs.map f) :
    (∀ line ∈ entry.render, '\n' ∉ line) ∧ readLines entry.render = some (xs.map g) := by
  obtain ⟨identifier, flat⟩ := registration_text known
  have flatName := feed_not_mem_identifier identifier
  rw [printed]
  constructor
  · intro line mem
    rcases List.mem_cons.mp mem with rfl | mem
    · simp [flatName, flat]
    rcases List.mem_cons.mp mem with rfl | mem
    · simp [flatName]
    obtain ⟨x, here, rfl⟩ := List.mem_map.mp mem
    exact (lines x here).flat
  · have comment : ∀ line ∈ [("# HELP " ++ entry.name ++ " " ++ entry.help).toList,
        ("# TYPE " ++ entry.name ++ " counter").toList], line.head? = some '#' := by simp
    exact readLines_metric identifier comment lines

theorem readLines_silent {entry : CounterEntry} (known : (entry.name, entry.help) ∈ registrations)
    (silent : entry.value.rows = []) : (∀ line ∈ entry.render, '\n' ∉ line) ∧
      readLines entry.render = some [⟨entry.name.toList, [], .finite 0⟩] := by
  have read : JsNumber.readNumber ['0'] = some (.finite 0) := by decide +kernel
  have line := bare_line (registration_text known).1 (by decide) read
  refine @readLines_render entry known Unit (fun _ => entry.name.toList ++ ' ' :: ['0'])
    (fun _ => ⟨entry.name.toList, [], .finite 0⟩) [()] (fun _ _ => line) ?_
  have zero : (entry.name ++ " 0").toList = entry.name.toList ++ ' ' :: ['0'] := String.toList_append
  rw [CounterEntry.render, if_pos silent, zero]
  rfl

theorem readLines_series {entry : CounterEntry} (known : (entry.name, entry.help) ∈ registrations)
    (several : entry.value.rows ≠ []) {labels : List Char → CounterLabels}
    (rows : ∀ r ∈ entry.value.rows, labelKey (labels r.1) = r.1 ∧ r.2.double = r.2) :
    (∀ line ∈ entry.render, '\n' ∉ line) ∧ readLines entry.render =
      some (entry.value.rows.map fun r => ⟨entry.name.toList, pairs (labels r.1), r.2⟩) := by
  refine readLines_render known (fun r mem => ?_) (by rw [CounterEntry.render, if_neg several])
  have line := series_line (registration_text known).1 (@pairs_identifier (labels r.1)) (rows r mem).2
  rwa [← labelKey_eq, (rows r mem).1] at line

theorem perm_pairs : (pairs labels).Perm labels.entries.rows := by
  have distinct : (pairs labels).Nodup := by
    have keys : labels.keys.Nodup := (List.perm_insertionSort _ _).nodup_iff.mpr labels.entries.nodup
    exact keys.map fun k k' same => congrArg Prod.fst same
  exact (List.perm_ext_iff_of_nodup distinct labels.entries.nodup.of_map).mpr fun _ => mem_pairs

theorem Recovers.silent {calls : List Call} (uncalled : ∀ labels, amounts calls name labels = []) :
    Recovers calls name [⟨name.toList, [], .finite 0⟩] where
  metric := by simp
  distinct := by simp
  complete labels called := absurd (uncalled labels) called
  sound s mem := by
    obtain rfl := List.mem_singleton.mp mem
    refine ⟨.none, .refl _, ?_, fun _ call mem here => ?_⟩
    · rw [uncalled]
      rfl
    · have nothing := uncalled call.labels
      rw [amounts, List.map_eq_nil_iff, List.filter_eq_nil_iff] at nothing
      exact nothing call mem (by simp [here, Same])

theorem Recovers.rows {calls : List Call} {entry : CounterEntry}
    (rows : ∀ r ∈ entry.value.rows, labelKey (labelsOf calls entry.name r.1) = r.1 ∧
      amounts calls entry.name (labelsOf calls entry.name r.1) ≠ [] ∧
        r.2 = total (amounts calls entry.name (labelsOf calls entry.name r.1)))
    (stored : ∀ labels, amounts calls entry.name labels ≠ [] → ∃ r ∈ entry.value.rows, r.1 = labelKey labels ∧
      r.2 = total (amounts calls entry.name labels)) :
    Recovers calls entry.name (entry.value.rows.map fun r =>
      ⟨entry.name.toList, pairs (labelsOf calls entry.name r.1), r.2⟩) where
  metric s mem := by
    obtain ⟨r, -, rfl⟩ := List.mem_map.mp mem
    rfl
  distinct := by
    rw [List.pairwise_map]
    have distinct : entry.value.rows.Pairwise fun r r' => r.1 ≠ r'.1 := List.pairwise_map.mp entry.value.nodup
    refine distinct.imp_of_mem fun {r r'} mem mem' differ perm => differ ?_
    have same : Same (labelsOf calls entry.name r.1) (labelsOf calls entry.name r'.1) :=
      perm_iff_same.mp (perm_pairs.symm.trans (perm.trans perm_pairs))
    rw [← (rows r mem).1, ← (rows r' mem').1, labelKey_eq_iff.mpr same]
  complete labels called := by
    obtain ⟨r, mem, key, value⟩ := stored labels called
    have same : Same (labelsOf calls entry.name r.1) labels := labelKey_eq_iff.mp ((rows r mem).1.trans key)
    exact ⟨_, List.mem_map_of_mem mem, perm_pairs.trans (perm_iff_same.mpr same), value⟩
  sound s mem := by
    obtain ⟨r, here, rfl⟩ := List.mem_map.mp mem
    obtain ⟨-, called, value⟩ := rows r here
    exact ⟨labelsOf calls entry.name r.1, perm_pairs, value, fun nothing => absurd nothing called⟩

theorem entry_recovered (calls : List Call) {name : String} (registered : name ∈ registrations.map (·.1)) :
    ∃ entry samples, (run new calls).counters.find? name = some entry ∧ entry.render ≠ [] ∧
      (∀ line ∈ entry.render, '\n' ∉ line) ∧ readLines entry.render = some samples ∧ Recovers calls name samples := by
  have isSome : (new.counters.find? name).isSome := by
    obtain ⟨entry, found, -⟩ := registered_new registered
    rw [found, Option.isSome_some]
  have values := @value_series name isSome calls
  obtain ⟨entry, found, rfl, known, rows⟩ := entry_run registered calls
  have stored (labels : CounterLabels) (called : amounts calls entry.name labels ≠ []) :
      ∃ r ∈ entry.value.rows, r.1 = labelKey labels ∧ r.2 = total (amounts calls entry.name labels) := by
    have there := values labels
    rw [if_neg called, value, found, Option.bind_some] at there
    obtain ⟨r, here, sum⟩ := Option.map_eq_some_iff.mp there
    exact ⟨r, Table.mem_of_find? here, Table.key_of_find? here, sum⟩
  by_cases silent : entry.value.rows = []
  · obtain ⟨flat, read⟩ := readLines_silent known silent
    refine ⟨entry, _, found, List.cons_ne_nil _ _, flat, read, .silent fun labels => ?_⟩
    by_contra called
    obtain ⟨r, mem, -⟩ := stored labels called
    rw [silent] at mem
    cases mem
  · have amount (r : List Char × JsNumber) (mem : r ∈ entry.value.rows) :
        amounts calls entry.name (labelsOf calls entry.name r.1) ≠ [] ∧
          r.2 = total (amounts calls entry.name (labelsOf calls entry.name r.1)) := by
      obtain ⟨here, key⟩ := rows r mem
      have there := values (labelsOf calls entry.name r.1)
      rw [key, here] at there
      split_ifs at there with nothing
      exact ⟨nothing, Option.some.inj there⟩
    obtain ⟨flat, read⟩ := readLines_series known silent fun r mem =>
      ⟨(rows r mem).2, by rw [(amount r mem).2]; exact double_total (amount r mem).1⟩
    exact ⟨entry, _, found, List.cons_ne_nil _ _, flat, read,
      .rows (fun r mem => ⟨(rows r mem).2, amount r mem⟩) stored⟩

/-- After any calls, the text of a registered counter is read as the sums of its calls, one for each set of
labels. -/
theorem counter_recovered (calls : List Call) (name : String) (registered : name ∈ registrations.map (·.1)) :
    (∀ labels labels', labelKey labels = labelKey labels' ↔ Same labels labels') ∧
    (∀ labels, value (run new calls) name (labelKey labels) =
      if amounts calls name labels = [] then none else some (total (amounts calls name labels))) ∧
    ∃ entry samples, (run new calls).counters.find? name = some entry ∧
      readText (exposition entry.render) = some samples ∧ Recovers calls name samples := by
  have isSome : (new.counters.find? name).isSome := by
    obtain ⟨entry, found, -⟩ := registered_new registered
    rw [found, Option.isSome_some]
  refine ⟨fun _ _ => labelKey_eq_iff, value_series isSome calls, ?_⟩
  obtain ⟨entry, samples, found, nonempty, flat, read, recovers⟩ := entry_recovered calls registered
  exact ⟨entry, samples, found, (readText_exposition nonempty flat).trans read, recovers⟩

def two (e f : String × String) (apart : e.1 ≠ f.1) (identifiers : Identifier e.1 ∧ Identifier f.1) : CounterLabels where
  entries := ⟨[e, f], by simp [apart]⟩
  identifiers := by simpa using identifiers

/-- One pair of labels in both orders, and a value that reads like the two of them. -/
def orders : List Call :=
  [⟨"smarterp_sales_orders_total", two ("channel", "web\",note=\"") ("note", "one,\ntwo\\n") (by decide) (by decide), .finite 1⟩,
    ⟨"smarterp_auth_events_total", .none, .finite 8⟩,
    ⟨"smarterp_sales_orders_total", two ("note", "one,\ntwo\\n") ("channel", "web\",note=\"") (by decide) (by decide), .finite 2⟩,
    ⟨"smarterp_sales_orders_total", two ("channel", "web") ("note", "\",note=\"one,\ntwo\\n") (by decide) (by decide), .finite 4⟩]

theorem salesOrders_recovered :
    (∃ entry samples, (run new orders).counters.find? "smarterp_sales_orders_total" = some entry ∧
      readText (exposition entry.render) = some samples ∧ Recovers orders "smarterp_sales_orders_total" samples) ∧
    orders.map (fun call => value (run new orders) "smarterp_sales_orders_total" (labelKey call.labels)) =
      [some (.finite 3), none, some (.finite 3), some (.finite 4)] := by
  have law := counter_recovered orders "smarterp_sales_orders_total" (by decide)
  refine ⟨law.2.2, ?_⟩
  decide +kernel

/-! ## The page -/

theorem buildInfo_line (process : Process) : ∃ s : Sample, s.metric = "smarterp_build_info".toList ∧
    Line "smarterp_build_info" ("smarterp_build_info".toList ++
      '{' :: ([','].intercalate (process.build.map fun e => label e.1 e.2) ++ '}' :: ' ' :: ['1'])) s := by
  have one : JsNumber.readNumber ['1'] = some (.finite 1) := by decide +kernel
  have name : Identifier "smarterp_build_info" := by decide
  have labels : Identifier "version" ∧ Identifier "build_sha" ∧ Identifier "node" := by decide
  have built : ∀ e ∈ process.build, Identifier e.1 := by simpa [Process.build] using labels
  exact ⟨_, rfl, labels_line name built (by decide) one⟩

theorem uptime_line (process : Process) : ∃ s : Sample, s.metric = "smarterp_uptime_seconds".toList ∧
    Line "smarterp_uptime_seconds" ("smarterp_uptime_seconds".toList ++ ' ' :: (toFixed process.uptime 3).toList) s := by
  obtain ⟨uptime, read⟩ := JsNumber.readNumber_fixedText (decide (process.uptime < 0))
    (roundHalfAway (process.uptime * 10 ^ 3)).natAbs 3
  have flat : '\n' ∉ (toFixed process.uptime 3).toList := fun mem => absurd (figures_fixedText mem) (by decide)
  exact ⟨_, rfl, bare_line (by decide) flat read⟩

theorem memory_line (area : String × ℕ) : Line "smarterp_memory_bytes"
    (series "smarterp_memory_bytes" (label "area" area.1) (JsNumber.finite area.2).double)
    ⟨"smarterp_memory_bytes".toList, [("area", area.1)], (JsNumber.finite area.2).double⟩ := by
  have name : Identifier "smarterp_memory_bytes" := by decide
  have named : ∀ e ∈ [("area", area.1)], Identifier e.1 := by
    simp only [List.mem_singleton, forall_eq]
    decide
  have line := series_line name named (JsNumber.double_double (.finite area.2))
  simpa using line

theorem gauges_read (process : Process) : (∀ line ∈ gauges process, '\n' ∉ line) ∧
    ∃ samples, readLines (gauges process) = some samples ∧ ∀ s ∈ samples, s.metric ∈
      ["smarterp_build_info".toList, "smarterp_uptime_seconds".toList, "smarterp_memory_bytes".toList] := by
  have names : Identifier "smarterp_build_info" ∧ Identifier "smarterp_uptime_seconds" ∧
      Identifier "smarterp_memory_bytes" := by decide
  obtain ⟨info, infoName, build⟩ := buildInfo_line process
  obtain ⟨uptime, uptimeName, seconds⟩ := uptime_line process
  constructor
  · intro line mem
    rcases List.mem_append.mp mem with mem | mem
    · simp only [List.mem_cons, List.not_mem_nil, or_false] at mem
      rcases mem with rfl | rfl | rfl | rfl | rfl | rfl | rfl | rfl
      any_goals decide
      · exact build.flat
      · exact seconds.flat
    · obtain ⟨area, here, rfl⟩ := List.mem_map.mp mem
      exact (memory_line area).flat
  · have first := @readLines_metric _ Unit names.1 ["# HELP smarterp_build_info SmartERP backend build metadata".toList,
      "# TYPE smarterp_build_info gauge".toList] (by decide) _ _ [()] fun _ _ => build
    have second := @readLines_metric _ Unit names.2.1 ["# HELP smarterp_uptime_seconds Process uptime in seconds".toList,
      "# TYPE smarterp_uptime_seconds gauge".toList] (by decide) _ _ [()] fun _ _ => seconds
    have third := @readLines_metric _ _ names.2.2
      ["# HELP smarterp_memory_bytes Node.js process memory usage in bytes, by area".toList,
        "# TYPE smarterp_memory_bytes gauge".toList] (by decide) _ _ process.memoryUsage fun area _ => memory_line area
    refine ⟨_, readLines_append (readLines_append first second) third, ?_⟩
    intro s mem
    rcases List.mem_append.mp mem with mem | mem
    · simp only [List.map_cons, List.map_nil, List.singleton_append, List.mem_cons, List.not_mem_nil, or_false] at mem
      rcases mem with rfl | rfl <;> simp [infoName, uptimeName]
    · obtain ⟨area, -, rfl⟩ := List.mem_map.mp mem
      simp

theorem counters_read {calls : List Call} {entries : List CounterEntry} (distinct : (entries.map (·.name)).Nodup)
    (read : ∀ entry ∈ entries, ∃ samples, readLines entry.render = some samples ∧ Recovers calls entry.name samples) :
    ∃ page, readLines (entries.flatMap CounterEntry.render) = some page ∧
      (∀ s ∈ page, ∃ entry ∈ entries, s.metric = entry.name.toList) ∧
      ∀ entry ∈ entries, Recovers calls entry.name (page.filter fun s => s.metric = entry.name.toList) := by
  induction entries with
  | nil => exact ⟨[], rfl, by simp, by simp⟩
  | cons entry entries ih =>
      rw [List.map_cons, List.nodup_cons] at distinct
      rw [List.forall_mem_cons] at read
      obtain ⟨samples, here, recovers⟩ := read.1
      obtain ⟨page, rest, metrics, others⟩ := ih distinct.2 read.2
      have apart : ∀ other ∈ entries, entry.name.toList ≠ other.name.toList := by
        intro other mem same
        rw [String.toList_inj.mp same] at distinct
        exact distinct.1 (List.mem_map_of_mem mem)
      refine ⟨samples ++ page, readLines_append here rest, fun s mem => ?_, ?_⟩
      · rcases List.mem_append.mp mem with mem | mem
        · exact ⟨entry, List.mem_cons_self, recovers.metric s mem⟩
        · obtain ⟨other, there, metric⟩ := metrics s mem
          exact ⟨other, List.mem_cons_of_mem _ there, metric⟩
      rw [List.forall_mem_cons]
      constructor
      · have own : samples.filter (fun s => s.metric = entry.name.toList) = samples :=
          List.filter_eq_self.mpr fun s mem => decide_eq_true (recovers.metric s mem)
        have foreign : page.filter (fun s => s.metric = entry.name.toList) = [] := by
          apply List.filter_eq_nil_iff.mpr
          intro s mem same
          obtain ⟨other, there, metric⟩ := metrics s mem
          exact apart other there ((of_decide_eq_true same).symm.trans metric)
        rw [List.filter_append, own, foreign, List.append_nil]
        exact recovers
      · intro other there
        have foreign : samples.filter (fun s => s.metric = other.name.toList) = [] := by
          apply List.filter_eq_nil_iff.mpr
          intro s mem same
          exact apart other there ((recovers.metric s mem).symm.trans (of_decide_eq_true same))
        rw [List.filter_append, foreign, List.nil_append]
        exact others other there

theorem registered_of_mem {calls : List Call} {entry : CounterEntry} (mem : entry ∈ (run new calls).counters.rows) :
    entry.name ∈ registrations.map (·.1) := by
  have kept := registered_run new calls entry.name
  rw [Table.find?_of_mem mem, Option.map_some, eq_comm, Option.map_eq_some_iff] at kept
  obtain ⟨before, found, same⟩ := kept
  have all : ∀ entry ∈ new.counters.rows, entry.name ∈ registrations.map (·.1) := by decide +kernel
  have name : before.name = entry.name := congrArg Prod.fst same
  exact name ▸ all before (Table.mem_of_find? found)

/-- The whole page is readable, and its samples of a registered counter are the sums of its calls. -/
theorem page_recovered (calls : List Call) (process : Process) :
    ∃ page, readText (render (run new calls) process) = some page ∧
      ∀ name ∈ registrations.map (·.1), Recovers calls name (page.filter fun s => s.metric = name.toList) := by
  obtain ⟨flatGauges, gauged, readGauges, metrics⟩ := gauges_read process
  have entries (entry : CounterEntry) (mem : entry ∈ (run new calls).counters.rows) :
      (∀ line ∈ entry.render, '\n' ∉ line) ∧
        ∃ samples, readLines entry.render = some samples ∧ Recovers calls entry.name samples := by
    obtain ⟨entry', samples, found, -, flat, read, recovers⟩ := entry_recovered calls (registered_of_mem mem)
    obtain rfl : entry = entry' := Option.some.inj ((Table.find?_of_mem mem).symm.trans found)
    exact ⟨flat, samples, read, recovers⟩
  obtain ⟨counted, readCounters, -, recovers⟩ :=
    counters_read (run new calls).counters.nodup fun entry mem => (entries entry mem).2
  have flat : ∀ line ∈ gauges process ++ (run new calls).counters.rows.flatMap CounterEntry.render, '\n' ∉ line := by
    intro line mem
    rcases List.mem_append.mp mem with mem | mem
    · exact flatGauges line mem
    · obtain ⟨entry, there, mem⟩ := List.mem_flatMap.mp mem
      exact (entries entry there).1 line mem
  refine ⟨gauged ++ counted, ?_, fun name registered => ?_⟩
  · have nonempty : gauges process ++ (run new calls).counters.rows.flatMap CounterEntry.render ≠ [] :=
      List.cons_ne_nil _ _
    rw [render, readText_exposition nonempty flat]
    exact readLines_append readGauges readCounters
  · obtain ⟨entry, -, found, -⟩ := entry_recovered calls registered
    obtain rfl : entry.name = name := Table.key_of_find? found
    have foreign : gauged.filter (fun s => s.metric = entry.name.toList) = [] := by
      have apart : ∀ c ∈ registrations, c.1.toList ∉
          ["smarterp_build_info".toList, "smarterp_uptime_seconds".toList, "smarterp_memory_bytes".toList] := by
        decide +kernel
      obtain ⟨c, known, name⟩ := List.mem_map.mp registered
      apply List.filter_eq_nil_iff.mpr
      intro s mem same
      have clash := apart c known
      rw [name, ← of_decide_eq_true same] at clash
      exact clash (metrics s mem)
    rw [List.filter_append, foreign, List.nil_append]
    exact recovers entry (Table.mem_of_find? found)

end SmartErp.Metrics
