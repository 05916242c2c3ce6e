import SmartErp.Failure
import SmartErp.Foundations.Trim
import Mathlib.Data.List.Chain

/-!
# The barcode scanner

The HID adapter of `barcode-scanner.ts` in a browser. A handheld types its code like a keyboard and ends it with
Enter or Tab; the law cuts the events into bursts, and says which of them the listener is called with.
-/

namespace SmartErp.BarcodeScanner
open Foundations

/-- `s.length` -/
def utf16Length (cs : List Char) : ℕ := (cs.map fun c => if c.toNat < 0x10000 then 1 else 2).sum

/-- A `keydown` event, and `Date.now()` where it is handled. -/
structure KeyboardEvent where
  key : String
  ctrlKey : Bool := false
  metaKey : Bool := false
  altKey : Bool := false
  now : ℤ

def HID_TERMINATORS : List String := ["Enter", "Tab"]
def HID_INTER_KEY_TIMEOUT_MS : ℤ := 60

section
variable {Λ : Type}

structure HidScannerAdapter (Λ : Type) where
  listener : Option Λ := none
  buffer : List Char := []
  lastKeyAt : ℤ := 0
  active : Bool := false

namespace HidScannerAdapter

def start (a : HidScannerAdapter Λ) (listener : Λ) : HidScannerAdapter Λ :=
  { a with listener := some listener, active := true }

def stop (a : HidScannerAdapter Λ) : HidScannerAdapter Λ :=
  { a with active := false, listener := none, buffer := [] }

def onKey (a : HidScannerAdapter Λ) (e : KeyboardEvent) : HidScannerAdapter Λ × Option (Λ × List Char) :=
  match a.listener with
  | none => (a, none)
  | some listener =>
      if ¬ a.active ∨ e.ctrlKey ∨ e.metaKey ∨ e.altKey then (a, none)
      else
        let buffer := if HID_INTER_KEY_TIMEOUT_MS < e.now - a.lastKeyAt ∧ a.buffer ≠ [] then [] else a.buffer
        if e.key ∈ HID_TERMINATORS then
          let code := trim buffer
          ({ a with buffer := [], lastKeyAt := e.now },
            if 4 ≤ utf16Length code then some (listener, code) else none)
        else if utf16Length e.key.toList = 1 then
          ({ a with buffer := buffer ++ e.key.toList, lastKeyAt := e.now }, none)
        else ({ a with buffer, lastKeyAt := e.now }, none)

def run (a : HidScannerAdapter Λ) (events : List KeyboardEvent) : HidScannerAdapter Λ :=
  events.foldl (fun a e => (a.onKey e).1) a

end HidScannerAdapter

/-! ## The law -/

def unmodified (e : KeyboardEvent) : Bool := !(e.ctrlKey || e.metaKey || e.altKey)

def terminates (e : KeyboardEvent) : Bool := e.key ∈ HID_TERMINATORS

def printed (e : KeyboardEvent) : List Char := if utf16Length e.key.toList = 1 then e.key.toList else []

def text (burst : List KeyboardEvent) : List Char := burst.flatMap printed

def Close (e e' : KeyboardEvent) : Prop := e'.now - e.now ≤ HID_INTER_KEY_TIMEOUT_MS

structure Longest {α : Type} (P : List α → Prop) (keys burst : List α) : Prop where
  suffix : burst <:+ keys
  holds : P burst
  longest : ∀ other, other <:+ keys → P other → other <:+ burst

def Unbroken (keys : List KeyboardEvent) : Prop := (∀ e ∈ keys, terminates e = false) ∧ keys.IsChain Close

/-- No terminator and no gap among the keys, and no gap between them and `e`. -/
def Reaches (e : KeyboardEvent) (keys : List KeyboardEvent) : Prop :=
  (∀ e ∈ keys, terminates e = false) ∧ (keys ++ [e]).IsChain Close

/-- The keys since the last terminator and the last gap, `e` being the next key. -/
def Burst (events : List KeyboardEvent) (e : KeyboardEvent) (burst : List KeyboardEvent) : Prop :=
  Longest (Reaches e) (events.filter unmodified) burst

def reported (e : KeyboardEvent) (burst : List KeyboardEvent) : Option (List Char) :=
  if unmodified e ∧ terminates e ∧ 4 ≤ (trim (text burst)).length then some (trim (text burst)) else none

/-! ## Texts -/

theorem utf16Length_eq {cs : List Char} (single : ∀ c ∈ cs, c.toNat < 0x10000) : utf16Length cs = cs.length := by
  induction cs with
  | nil => rfl
  | cons c cs ih =>
      have first : c.toNat < 0x10000 := single c List.mem_cons_self
      have rest := ih fun d mem => single d (List.mem_cons_of_mem _ mem)
      rw [utf16Length] at rest ⊢
      rw [List.map_cons, List.sum_cons, if_pos first, rest, List.length_cons, add_comm]

theorem single_of_printed {e : KeyboardEvent} {c : Char} (mem : c ∈ printed e) : c.toNat < 0x10000 := by
  unfold printed at mem
  split_ifs at mem with one
  · by_contra large
    have units : 2 ∈ e.key.toList.map fun c => if c.toNat < 0x10000 then 1 else 2 :=
      List.mem_map.mpr ⟨c, mem, if_neg large⟩
    have several := List.le_sum_of_mem units
    rw [utf16Length] at one
    omega
  · cases mem

theorem utf16Length_trim (burst : List KeyboardEvent) :
    utf16Length (trim (text burst)) = (trim (text burst)).length := by
  apply utf16Length_eq
  intro c mem
  obtain ⟨e, -, typed⟩ := List.mem_flatMap.mp ((trim_within (text burst)).subset mem)
  exact single_of_printed typed

@[simp] theorem text_nil : text [] = [] := rfl

@[simp] theorem text_concat (burst : List KeyboardEvent) (e : KeyboardEvent) :
    text (burst ++ [e]) = text burst ++ printed e := by
  simp [text]

/-! ## Bursts -/

theorem Longest.unique {α : Type} {P : List α → Prop} {keys burst burst' : List α} (longest : Longest P keys burst)
    (longest' : Longest P keys burst') : burst = burst' :=
  (longest'.longest burst longest.suffix longest.holds).eq_of_length_le
    (longest.longest burst' longest'.suffix longest'.holds).length_le

theorem unbroken_concat {e : KeyboardEvent} {keys : List KeyboardEvent} :
    Unbroken (keys ++ [e]) ↔ terminates e = false ∧ Reaches e keys := by
  simp [Unbroken, Reaches, or_imp, forall_and]
  tauto

theorem reaches_iff {e : KeyboardEvent} {keys : List KeyboardEvent} :
    Reaches e keys ↔ Unbroken keys ∧ ∀ l ∈ keys.getLast?, Close l e := by
  simp [Reaches, Unbroken, List.isChain_append, and_assoc]

theorem longest_nil : Longest Unbroken [] [] where
  suffix := List.suffix_rfl
  holds := by simp [Unbroken]
  longest := fun other suffix _ => suffix

variable {e : KeyboardEvent} {keys burst : List KeyboardEvent}

theorem suffix_getLast? {α : Type} {xs ys : List α} (suffix : xs <:+ ys) {x : α} (last : x ∈ xs.getLast?) :
    x ∈ ys.getLast? := by
  obtain ⟨before, rfl⟩ := suffix
  simp_all

theorem longest_reaches (longest : Longest Unbroken keys burst) :
    Longest (Reaches e) keys burst ∧ (∀ l ∈ burst.getLast?, Close l e) ∨
      Longest (Reaches e) keys [] ∧ ∃ l ∈ burst.getLast?, ¬ Close l e := by
  by_cases close : ∀ l ∈ burst.getLast?, Close l e
  · refine .inl ⟨⟨longest.suffix, reaches_iff.mpr ⟨longest.holds, close⟩, fun other suffix reaches => ?_⟩, close⟩
    exact longest.longest other suffix (reaches_iff.mp reaches).1
  · push Not at close
    obtain ⟨l, last, gap⟩ := close
    refine .inr ⟨⟨List.nil_suffix, by simp [Reaches], fun other suffix reaches => ?_⟩, l, last, gap⟩
    obtain ⟨unbroken, reached⟩ := reaches_iff.mp reaches
    cases final : other.getLast? with
    | none =>
        obtain rfl := List.getLast?_eq_none_iff.mp final
        exact List.suffix_rfl
    | some l' =>
        have same := suffix_getLast? (longest.longest other suffix unbroken) final
        obtain rfl : l' = l := Option.some.inj (same.symm.trans last)
        exact absurd (reached l' final) gap

theorem longest_concat (longest : Longest (Reaches e) keys burst) :
    Longest Unbroken (keys ++ [e]) (if terminates e then [] else burst ++ [e]) := by
  have ending (other : List KeyboardEvent) (suffix : other <:+ keys ++ [e]) (unbroken : Unbroken other) :
      other = [] ∨ ∃ init, other = init ++ [e] ∧ terminates e = false ∧ init <:+ burst := by
    cases other using List.reverseRecOn with
    | nil => exact .inl rfl
    | append_singleton init l _ =>
        obtain ⟨before, eq⟩ := suffix
        rw [← List.append_assoc] at eq
        obtain ⟨initial, last⟩ := List.append_inj' eq rfl
        obtain rfl : l = e := by simpa using last
        obtain ⟨open', reaches⟩ := unbroken_concat.mp unbroken
        exact .inr ⟨init, rfl, open', longest.longest init ⟨before, initial⟩ reaches⟩
  split_ifs with terminator
  · refine ⟨List.nil_suffix, by simp [Unbroken], fun other suffix unbroken => ?_⟩
    rcases ending other suffix unbroken with rfl | ⟨-, -, open', -⟩
    · exact List.suffix_rfl
    · rw [terminator] at open'
      cases open'
  · obtain ⟨before, rfl⟩ := longest.suffix
    refine ⟨⟨before, by simp⟩, unbroken_concat.mpr ⟨by simpa using terminator, longest.holds⟩, ?_⟩
    intro other suffix unbroken
    rcases ending other suffix unbroken with rfl | ⟨init, rfl, -, inside⟩
    · exact List.nil_suffix
    · obtain ⟨first, rfl⟩ := inside
      exact ⟨first, by simp⟩

/-! ## Runs -/

structure Follows (a : HidScannerAdapter Λ) (listener : Λ) (keys : List KeyboardEvent) : Prop where
  started : a.listener = some listener ∧ a.active = true
  buffer : ∃ burst, Longest Unbroken keys burst ∧ a.buffer = text burst ∧ ∀ l ∈ burst.getLast?, l.now = a.lastKeyAt

variable {a : HidScannerAdapter Λ} {listener : Λ}

theorem follows_started : Follows (a.stop.start listener) listener [] where
  started := ⟨rfl, rfl⟩
  buffer := ⟨[], longest_nil, rfl, by simp⟩

theorem onKey_modified (modified : unmodified e = false) : a.onKey e = (a, none) := by
  have held : ¬ a.active ∨ e.ctrlKey ∨ e.metaKey ∨ e.altKey := by
    simp only [unmodified, Bool.not_eq_false', Bool.or_eq_true] at modified
    tauto
  rw [HidScannerAdapter.onKey]
  cases a.listener with
  | none => rfl
  | some listener => exact if_pos held

theorem onKey_unmodified (follows : Follows a listener keys) (plain : unmodified e = true) :
    ∃ burst, Longest (Reaches e) keys burst ∧ Follows (a.onKey e).1 listener (keys ++ [e]) ∧
      (a.onKey e).2 = (reported e burst).map (listener, ·) := by
  obtain ⟨⟨listens, active⟩, burst, longest, buffer, last⟩ := follows
  have free : ¬ (¬ a.active ∨ e.ctrlKey ∨ e.metaKey ∨ e.altKey) := by
    simpa [unmodified, active, and_assoc] using plain
  obtain ⟨burst', reaches, kept⟩ : ∃ burst', Longest (Reaches e) keys burst' ∧
      (if HID_INTER_KEY_TIMEOUT_MS < e.now - a.lastKeyAt ∧ a.buffer ≠ [] then [] else a.buffer) = text burst' := by
    rcases @longest_reaches e keys burst longest with ⟨reaches, close⟩ | ⟨reaches, l, final, gap⟩
    · refine ⟨burst, reaches, ?_⟩
      rw [buffer, if_neg]
      rintro ⟨late, typed⟩
      cases final : burst.getLast? with
      | none => exact typed (by rw [List.getLast?_eq_none_iff.mp final, text_nil])
      | some l =>
          have inTime : e.now - l.now ≤ HID_INTER_KEY_TIMEOUT_MS := close l final
          rw [← last l final] at late
          exact absurd late (not_lt.mpr inTime)
    · refine ⟨[], reaches, ?_⟩
      have late : HID_INTER_KEY_TIMEOUT_MS < e.now - a.lastKeyAt := by
        rw [← last l final]
        exact not_le.mp gap
      by_cases typed : a.buffer = []
      · simp [typed]
      · rw [if_pos ⟨late, typed⟩, text_nil]
  have next := longest_concat reaches
  refine ⟨burst', reaches, ?_⟩
  rw [HidScannerAdapter.onKey, listens]
  simp only [if_neg free, kept]
  by_cases terminator : terminates e = true
  · have mem : e.key ∈ HID_TERMINATORS := of_decide_eq_true terminator
    rw [if_pos terminator] at next
    simp only [if_pos mem]
    refine ⟨⟨⟨rfl, active⟩, [], next, rfl, by simp⟩, ?_⟩
    rw [reported, utf16Length_trim]
    simp only [plain, terminator, true_and]
    split_ifs <;> rfl
  · have other : e.key ∉ HID_TERMINATORS := fun mem => terminator (decide_eq_true mem)
    rw [if_neg terminator] at next
    have silent : reported e burst' = none := if_neg fun reports => terminator reports.2.1
    rw [silent]
    simp only [if_neg other]
    split_ifs with one
    · refine ⟨⟨⟨rfl, active⟩, burst' ++ [e], next, ?_, by simp⟩, rfl⟩
      simp [printed, one]
    · refine ⟨⟨⟨rfl, active⟩, burst' ++ [e], next, ?_, by simp⟩, rfl⟩
      simp [printed, one]

theorem follows_run (follows : Follows a listener keys) (events : List KeyboardEvent) :
    Follows (a.run events) listener (keys ++ events.filter unmodified) := by
  induction events generalizing a keys with
  | nil => simpa [HidScannerAdapter.run] using follows
  | cons e rest ih =>
      rw [HidScannerAdapter.run, List.foldl_cons]
      cases plain : unmodified e with
      | false =>
          rw [List.filter_cons_of_neg (by simp [plain]), onKey_modified plain]
          exact ih follows
      | true =>
          obtain ⟨-, -, follows', -⟩ := onKey_unmodified follows plain
          rw [List.filter_cons_of_pos plain, List.append_cons]
          exact ih follows'

theorem burst_after {before between : List KeyboardEvent} {terminator : KeyboardEvent}
    (plain : unmodified terminator = true) (ends : terminates terminator = true)
    (isBurst : Burst (before ++ terminator :: between) e burst) : burst <:+ between.filter unmodified := by
  have suffix := isBurst.suffix
  rw [List.filter_append, List.filter_cons_of_pos plain] at suffix
  have inner : terminator :: between.filter unmodified <:+ before.filter unmodified ++ terminator ::
    between.filter unmodified := List.suffix_append _ _
  rcases List.suffix_or_suffix_of_suffix suffix inner with shorter | longer
  · rcases List.suffix_cons_iff.mp shorter with rfl | shorter
    · have open' := isBurst.holds.1 terminator List.mem_cons_self
      rw [ends] at open'
      cases open'
    · exact shorter
  · have open' := isBurst.holds.1 terminator (longer.subset List.mem_cons_self)
    rw [ends] at open'
    cases open'

/-- At every key of every sequence of keys the listener is called with the one burst before it, if the key is a
terminator and the burst is long enough; and no key up to an earlier terminator is in this burst. -/
theorem scanner_bursts (a : HidScannerAdapter Λ) (listener : Λ) (events : List KeyboardEvent) (e : KeyboardEvent) :
    ∃ burst, (∀ other, Burst events e other ↔ other = burst) ∧
      (((a.stop.start listener).run events).onKey e).2 = (reported e burst).map (listener, ·) ∧
      ∀ before terminator between, events = before ++ terminator :: between → unmodified terminator = true →
        terminates terminator = true → burst <:+ between.filter unmodified := by
  have follows := follows_run (@follows_started Λ a listener) events
  rw [List.nil_append] at follows
  obtain ⟨burst, isBurst, called⟩ : ∃ burst, Burst events e burst ∧
      (((a.stop.start listener).run events).onKey e).2 = (reported e burst).map (listener, ·) := by
    cases plain : unmodified e with
    | true =>
        obtain ⟨burst, isBurst, -, called⟩ := onKey_unmodified follows plain
        exact ⟨burst, isBurst, called⟩
    | false =>
        obtain ⟨burst, longest, -⟩ := follows.buffer
        have silent (burst : List KeyboardEvent) : reported e burst = none :=
          if_neg fun reports => by simp [plain] at reports
        rw [onKey_modified plain]
        rcases @longest_reaches e _ burst longest with ⟨isBurst, -⟩ | ⟨isBurst, -⟩
        · exact ⟨burst, isBurst, by rw [silent, Option.map_none]⟩
        · exact ⟨[], isBurst, by rw [silent, Option.map_none]⟩
  refine ⟨burst, fun other => ⟨fun isBurst' => isBurst'.unique isBurst, ?_⟩, called, ?_⟩
  · rintro rfl
    exact isBurst
  · rintro before terminator between rfl plain ends
    exact burst_after plain ends isBurst

end
end SmartErp.BarcodeScanner
