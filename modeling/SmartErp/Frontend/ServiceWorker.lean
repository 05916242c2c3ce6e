import SmartErp.Foundations.Interleaving
import Mathlib.Data.Fintype.Basic

/-!
# The service worker of the frontend

The `fetch` handler of `sw.js` on GET requests to `/api/`: the stored response if there is one, and a
revalidation that goes on after it. A response carries the credentials that it was fetched under, which the
cache does not look at.
-/

namespace SmartErp.ServiceWorker
open Foundations

def RUNTIME_CAP : ℕ := 50

section
variable {γ : Type}

structure Request (γ : Type) where
  method : String
  origin : String
  pathname : String
  search : String
  headers : List (String × String)
  credentials : γ

structure Response (γ : Type) where
  status : ℕ
  vary : List String
  body : String
  credentials : γ

structure Entry (γ : Type) where
  request : Request γ
  response : Response γ

inductive Answer (γ : Type) where
  | origin (response : Response γ)
  | offline

def Request.url (req : Request γ) : String := req.origin ++ req.pathname ++ req.search

def Request.header (req : Request γ) (field : String) : Option String := req.headers.lookup field

/-- Other requests are left to the network or answered from the shell. -/
def Request.toApi (location : String) (req : Request γ) : Bool :=
  req.method = "GET" ∧ req.origin = location ∧ "/api/".toList.isPrefixOf req.pathname.toList

def Response.ok (resp : Response γ) : Bool := 200 ≤ resp.status ∧ resp.status < 300

/-- What `put` takes. -/
def Response.storable (resp : Response γ) : Bool := resp.status ≠ 206 ∧ "*" ∉ resp.vary

/-! ## The cache -/

def Entry.serves (e : Entry γ) (req : Request γ) : Bool :=
  e.request.url = req.url ∧ ∀ field ∈ e.response.vary, e.request.header field = req.header field

abbrev Cache (γ : Type) := List (Entry γ)

namespace Cache

def lookup (cache : Cache γ) (req : Request γ) : Option (Response γ) :=
  (cache.find? (·.serves req)).map (·.response)

def delete (cache : Cache γ) (req : Request γ) : Cache γ := cache.filter fun e => !e.serves req

def put (cache : Cache γ) (req : Request γ) (resp : Response γ) : Cache γ := cache.delete req ++ [⟨req, resp⟩]

def keys (cache : Cache γ) : List (Request γ) := cache.map (·.request)

end Cache

/-! ## Steps of a request -/

inductive Call (γ : Type) where
  | requested (req : Request γ)
  | fetching (req : Request γ) (cached : Option (Response γ))
  | storing (req : Request γ) (cached : Option (Response γ)) (resp : Response γ)
  | listing (req : Request γ) (cached : Option (Response γ)) (resp : Response γ)
  | evicting (req : Request γ) (cached : Option (Response γ)) (resp : Response γ) (keys : List (Request γ))
  | revalidated (req : Request γ) (cached : Option (Response γ)) (resp : Response γ)
  | settled (req : Request γ) (answer : Answer γ)

inductive Move where
  | lookup
  | respond (status : ℕ) (vary : List String) (body : String)
  | put
  | keys
  | delete
  | reject
  deriving DecidableEq

/-- What is left when the promise of the network ends in null. -/
def unfetched (cached : Option (Response γ)) : Answer γ := cached.elim .offline .origin

def staleWhileRevalidate (location : String) : Move → Cache γ → Call γ → Option (Cache γ × Call γ)
  | .lookup, cache, .requested req =>
      if req.toApi location then some (cache, .fetching req (cache.lookup req)) else none
  | .respond status vary body, cache, .fetching req cached =>
      let resp : Response γ := ⟨status, vary, body, req.credentials⟩
      some (cache, if resp.ok then .storing req cached resp else .settled req (.origin (cached.getD resp)))
  | .put, cache, .storing req cached resp =>
      if resp.storable then some (cache.put req resp, .listing req cached resp)
      else some (cache, .settled req (unfetched cached))
  | .keys, cache, .listing req cached resp =>
      let keys := cache.keys
      if keys.length ≤ RUNTIME_CAP then some (cache, .revalidated req cached resp)
      else some (cache, .evicting req cached resp (keys.take (keys.length - RUNTIME_CAP)))
  | .delete, cache, .evicting req cached resp (key :: keys) =>
      some (cache.delete key, if keys.isEmpty then .revalidated req cached resp else .evicting req cached resp keys)
  -- The network, or a call to the cache, fails.
  | .reject, cache, .fetching req cached | .reject, cache, .storing req cached _
  | .reject, cache, .listing req cached _ | .reject, cache, .evicting req cached _ _ =>
      some (cache, .settled req (unfetched cached))
  | _, _, _ => none

namespace Call

def request : Call γ → Request γ
  | requested req | fetching req _ | storing req _ _ | listing req _ _ | evicting req _ _ _
  | revalidated req _ _ | settled req _ => req

/-- What the handler has responded with; a stored response does not wait for the network. -/
def answer : Call γ → Option (Answer γ)
  | requested _ => none
  | fetching _ cached | storing _ cached _ | listing _ cached _ | evicting _ cached _ _ => cached.map .origin
  | revalidated _ cached resp => some (.origin (cached.getD resp))
  | settled _ answer => some answer

def isRequested : Call γ → Bool
  | requested _ => true
  | _ => false

def isRevalidated : Call γ → Bool
  | revalidated .. => true
  | _ => false

def evictions : Call γ → Option (List (Request γ))
  | evicting _ _ _ keys => some keys
  | _ => none

end Call

variable {κ : Type} [DecidableEq κ] {location : String} {s t : Pool κ (Cache γ) (Call γ)} {moves : List (κ × Move)}

def Completes (location : String) (s : Pool κ (Cache γ) (Call γ)) (move : κ × Move) : Prop :=
  (s.calls move.1).isRevalidated = false ∧
    ((Pool.next (staleWhileRevalidate location) s move).calls move.1).isRevalidated

/-- A lookup finds nothing that was fetched under other credentials, and a response is put while each trim that
goes on has it still to delete, or keeps an entry that it replaces. -/
def Undisturbed (s : Pool κ (Cache γ) (Call γ)) (move : κ × Move) : Prop :=
  match move.2, s.calls move.1 with
  | .lookup, .requested req => ∀ resp ∈ s.shared.lookup req, resp.credentials = req.credentials
  | .put, .storing req _ resp => resp.storable → ∀ j, ∀ keys ∈ (s.calls j).evictions,
      (∃ key ∈ keys, (⟨req, resp⟩ : Entry γ).serves key) ∨
        ∃ e ∈ s.shared, e.serves req ∧ ∀ key ∈ keys, e.serves key = false
  | _, _ => True

instance [DecidableEq γ] [Fintype κ] (s : Pool κ (Cache γ) (Call γ)) (move : κ × Move) :
    Decidable (Undisturbed s move) := by
  unfold Undisturbed
  split <;> infer_instance

/-! ## What a step does -/

def Call.waiting : Call γ → Option (Request γ × Option (Response γ))
  | fetching req cached | storing req cached _ | listing req cached _ | evicting req cached _ _ => some (req, cached)
  | requested _ | revalidated .. | settled .. => none

inductive Step : Move → Cache γ → Call γ → Cache γ → Call γ → Prop
  | lookup {cache req} : Step .lookup cache (.requested req) cache (.fetching req (cache.lookup req))
  | ok {cache req cached status vary body} : Step (.respond status vary body) cache (.fetching req cached) cache
      (.storing req cached ⟨status, vary, body, req.credentials⟩)
  | notOk {cache req cached status vary body} : Step (.respond status vary body) cache (.fetching req cached) cache
      (.settled req (.origin (cached.getD ⟨status, vary, body, req.credentials⟩)))
  | put {cache req cached resp} : resp.storable →
      Step .put cache (.storing req cached resp) (cache.put req resp) (.listing req cached resp)
  | few {cache req cached resp} : cache.length ≤ RUNTIME_CAP →
      Step .keys cache (.listing req cached resp) cache (.revalidated req cached resp)
  | many {cache req cached resp} : Step .keys cache (.listing req cached resp) cache
      (.evicting req cached resp (cache.keys.take (cache.keys.length - RUNTIME_CAP)))
  | delete {cache req cached resp key keys} : Step .delete cache (.evicting req cached resp (key :: keys))
      (cache.delete key) (.evicting req cached resp keys)
  | last {cache req cached resp key} : Step .delete cache (.evicting req cached resp [key]) (cache.delete key)
      (.revalidated req cached resp)
  | fail {move cache call req cached} : call.waiting = some (req, cached) →
      Step move cache call cache (.settled req (unfetched cached))

theorem step_cases {move : Move} {cache cache' : Cache γ} {call call' : Call γ}
    (step : staleWhileRevalidate location move cache call = some (cache', call')) :
    Step move cache call cache' call' := by
  cases call with
  | requested req =>
      cases move with
      | lookup =>
          rw [staleWhileRevalidate] at step
          split at step <;> cases step
          exact .lookup
      | respond | put | keys | delete | reject => cases step
  | fetching req cached =>
      cases move with
      | respond status vary body =>
          cases step
          split
          · exact .ok
          · exact .notOk
      | reject =>
          cases step
          exact .fail rfl
      | lookup | put | keys | delete => cases step
  | storing req cached resp =>
      cases move with
      | put =>
          rw [staleWhileRevalidate] at step
          split at step
          · rename_i storable
            cases step
            exact .put storable
          · cases step
            exact .fail rfl
      | reject =>
          cases step
          exact .fail rfl
      | lookup | respond | keys | delete => cases step
  | listing req cached resp =>
      cases move with
      | keys =>
          rw [staleWhileRevalidate] at step
          split at step
          · rename_i few
            cases step
            rw [Cache.keys, List.length_map] at few
            exact .few few
          · cases step
            exact .many
      | reject =>
          cases step
          exact .fail rfl
      | lookup | respond | put | delete => cases step
  | evicting req cached resp keys =>
      cases move with
      | delete =>
          cases keys with
          | nil => cases step
          | cons key keys =>
              cases step
              cases keys with
              | nil => exact .last
              | cons => exact .delete
      | reject =>
          cases step
          exact .fail rfl
      | lookup | respond | put | keys => cases step
  | revalidated | settled => cases move <;> cases step

/-! ## Credentials -/

def Call.Own : Call γ → Prop
  | requested _ => True
  | fetching req cached => ∀ r ∈ cached, r.credentials = req.credentials
  | storing req cached resp | listing req cached resp | evicting req cached resp _ | revalidated req cached resp =>
      (∀ r ∈ cached, r.credentials = req.credentials) ∧ resp.credentials = req.credentials
  | settled req answer => ∀ r, answer = .origin r → r.credentials = req.credentials

theorem own_getD {req : Request γ} {cached : Option (Response γ)} {resp : Response γ}
    (own : ∀ r ∈ cached, r.credentials = req.credentials) (fetched : resp.credentials = req.credentials) :
    (cached.getD resp).credentials = req.credentials := by
  cases cached with
  | none => exact fetched
  | some r => exact own r rfl

theorem own_unfetched {req : Request γ} {cached : Option (Response γ)}
    (own : ∀ r ∈ cached, r.credentials = req.credentials) : (Call.settled req (unfetched cached)).Own := by
  intro r origin
  cases cached with
  | none => cases origin
  | some r' =>
      cases origin
      exact own r rfl

theorem own_map {req : Request γ} {cached : Option (Response γ)} {r : Response γ}
    (own : ∀ r ∈ cached, r.credentials = req.credentials) (answer : cached.map Answer.origin = some (.origin r)) :
    r.credentials = req.credentials := by
  obtain ⟨r', stored, same⟩ := Option.map_eq_some_iff.mp answer
  cases same
  exact own r stored

theorem Call.Own.answer {call : Call γ} (own : call.Own) {r : Response γ} (answer : call.answer = some (.origin r)) :
    r.credentials = call.request.credentials := by
  cases call with
  | requested => cases answer
  | fetching => exact own_map own answer
  | storing | listing | evicting => exact own_map own.1 answer
  | revalidated =>
      cases answer
      exact own_getD own.1 own.2
  | settled req a =>
      cases answer
      exact own r rfl

theorem Call.Own.waiting {call : Call γ} (own : call.Own) {req : Request γ} {cached : Option (Response γ)}
    (waits : call.waiting = some (req, cached)) :
    (∀ r ∈ cached, r.credentials = req.credentials) ∧ call.request = req := by
  cases call with
  | fetching =>
      cases waits
      exact ⟨own, rfl⟩
  | storing | listing | evicting =>
      cases waits
      exact ⟨own.1, rfl⟩
  | requested | revalidated | settled => cases waits

theorem Step.own {move : Move} {cache cache' : Cache γ} {call call' : Call γ} (own : call.Own)
    (found : move = .lookup → ∀ resp ∈ cache.lookup call.request, resp.credentials = call.request.credentials)
    (step : Step move cache call cache' call') : call'.Own ∧ call'.request = call.request := by
  cases step with
  | lookup => exact ⟨found rfl, rfl⟩
  | ok => exact ⟨⟨own, rfl⟩, rfl⟩
  | notOk =>
      refine ⟨fun r origin => ?_, rfl⟩
      cases origin
      exact own_getD own rfl
  | put | few | many | delete | last => exact ⟨own, rfl⟩
  | fail waits =>
      obtain ⟨own, request⟩ := own.waiting waits
      exact ⟨own_unfetched own, request.symm⟩

/-! ## The cap -/

namespace Cache

def left (cache : Cache γ) (keys : List (Request γ)) : Cache γ :=
  cache.filter fun e => keys.all fun key => !e.serves key

theorem left_nil (cache : Cache γ) : cache.left [] = cache :=
  List.filter_eq_self.mpr fun _ _ => rfl

theorem left_cons (cache : Cache γ) (key : Request γ) (keys : List (Request γ)) :
    cache.left (key :: keys) = (cache.delete key).left keys := by
  unfold left delete
  rw [List.filter_filter]
  congr 1
  funext e
  rw [List.all_cons, Bool.and_comm]

theorem left_delete_le (cache : Cache γ) (key : Request γ) (keys : List (Request γ)) :
    ((cache.delete key).left keys).length ≤ (cache.left keys).length :=
  (List.filter_sublist.filter _).length_le

theorem serves_self (e : Entry γ) : e.serves e.request := by
  unfold Entry.serves
  simp

theorem length_filter_le_drop {α : Type} {p : α → Bool} {n : ℕ} {l : List α} (gone : ∀ a ∈ l.take n, p a = false) :
    (l.filter p).length ≤ l.length - n := by
  have first : (l.take n).filter p = [] := List.filter_eq_nil_iff.mpr fun a mem kept => by
    rw [gone a mem] at kept
    cases kept
  calc (l.filter p).length = ((l.take n ++ l.drop n).filter p).length := by rw [List.take_append_drop]
    _ = ((l.drop n).filter p).length := by rw [List.filter_append, first, List.nil_append]
    _ ≤ (l.drop n).length := List.length_filter_le _ _
    _ = l.length - n := List.length_drop

/-- A trim deletes the keys in excess, and with each of them at least its own entry. -/
theorem left_take_le (cache : Cache γ) :
    (cache.left (cache.keys.take (cache.keys.length - RUNTIME_CAP))).length ≤ RUNTIME_CAP := by
  have length : cache.keys.length = cache.length := List.length_map _
  have gone : ∀ e ∈ cache.take (cache.length - RUNTIME_CAP),
      (cache.keys.take (cache.keys.length - RUNTIME_CAP)).all (fun key => !e.serves key) = false := by
    intro e mem
    rw [List.all_eq_false]
    refine ⟨e.request, ?_, ?_⟩
    · rw [length, keys, ← List.map_take]
      exact List.mem_map_of_mem mem
    · rw [serves_self]
      decide
  have bound := length_filter_le_drop gone
  unfold left
  omega

theorem left_put_le {cache : Cache γ} {req : Request γ} {resp : Response γ} {keys : List (Request γ)}
    (replaces : (∃ key ∈ keys, (⟨req, resp⟩ : Entry γ).serves key) ∨
      ∃ e ∈ cache, e.serves req ∧ ∀ key ∈ keys, e.serves key = false) :
    ((cache.put req resp).left keys).length ≤ (cache.left keys).length := by
  rw [put, left, List.filter_append, List.length_append]
  rcases replaces with ⟨key, mem, listed⟩ | ⟨e, mem, replaced, kept⟩
  · have dropped : [(⟨req, resp⟩ : Entry γ)].filter (fun e => keys.all fun key => !e.serves key) = [] := by
      refine List.filter_eq_nil_iff.mpr fun e single => ?_
      rw [List.mem_singleton.mp single, Bool.not_eq_true, List.all_eq_false]
      exact ⟨key, mem, by rw [listed]; decide⟩
    rw [dropped]
    exact left_delete_le cache req keys
  · have fewer : ((cache.delete req).left keys).length < (cache.left keys).length := by
      have swap : (cache.delete req).left keys = (cache.left keys).filter fun e => !e.serves req :=
        List.filter_comm _ _ _
      rw [swap]
      refine List.length_filter_lt_length_iff_exists.mpr ⟨e, List.mem_filter.mpr ⟨mem, ?_⟩, ?_⟩
      · rw [List.all_eq_true]
        intro key listed
        rw [kept key listed]
        rfl
      · rw [replaced]
        decide
    have single := List.length_filter_le (fun e : Entry γ => keys.all fun key => !e.serves key) [⟨req, resp⟩]
    rw [List.length_singleton] at single
    unfold left at fewer ⊢
    omega

end Cache

theorem Step.writes {move : Move} {cache cache' : Cache γ} {call call' : Call γ}
    (step : Step move cache call cache' call') :
    cache' = cache ∨ (∃ key, cache' = cache.delete key) ∨
      ∃ req cached resp, move = .put ∧ call = .storing req cached resp ∧ resp.storable ∧
        cache' = cache.put req resp := by
  cases step with
  | lookup | ok | notOk | few | many | fail => exact .inl rfl
  | delete | last => exact .inr (.inl ⟨_, rfl⟩)
  | put storable => exact .inr (.inr ⟨_, _, _, rfl, rfl, storable, rfl⟩)

theorem idle {cache : Cache γ} {call : Call γ} (none : call.evictions = none) (not : call.isRevalidated = false) :
    (∀ keys ∈ call.evictions, (cache.left keys).length ≤ RUNTIME_CAP) ∧
      (call.isRevalidated → cache.length ≤ RUNTIME_CAP) := by
  rw [none, not]
  exact ⟨fun _ listed => absurd listed (Option.not_mem_none _), fun ended => absurd ended Bool.false_ne_true⟩

theorem Step.left {move : Move} {cache cache' : Cache γ} {call call' : Call γ}
    (room : ∀ keys ∈ call.evictions, (cache.left keys).length ≤ RUNTIME_CAP)
    (step : Step move cache call cache' call') :
    (∀ keys ∈ call'.evictions, (cache'.left keys).length ≤ RUNTIME_CAP) ∧
      (call'.isRevalidated → cache'.length ≤ RUNTIME_CAP) := by
  cases step with
  | lookup | ok | notOk | put | fail => exact idle rfl rfl
  | few few => exact ⟨fun _ listed => absurd listed (Option.not_mem_none _), fun _ => few⟩
  | many =>
      refine ⟨fun keys listed => ?_, fun ended => absurd ended Bool.false_ne_true⟩
      cases listed
      exact cache.left_take_le
  | @delete _ _ _ _ key keys =>
      refine ⟨fun keys' listed => ?_, fun ended => absurd ended Bool.false_ne_true⟩
      cases listed
      rw [← Cache.left_cons]
      exact room (key :: keys) rfl
  | @last _ _ _ _ key =>
      refine ⟨fun _ listed => absurd listed (Option.not_mem_none _), fun _ => ?_⟩
      rw [← Cache.left_nil (cache.delete key), ← Cache.left_cons]
      exact room [key] rfl

/-! ## Runs -/

structure Guarded (start s : Pool κ (Cache γ) (Call γ)) : Prop where
  own : ∀ i, (s.calls i).Own ∧ (s.calls i).request = (start.calls i).request
  room : ∀ i, ∀ keys ∈ (s.calls i).evictions, (s.shared.left keys).length ≤ RUNTIME_CAP

omit [DecidableEq κ] in
theorem Guarded.start (fresh : ∀ i, (s.calls i).isRequested) : Guarded s s := by
  have begun (i : κ) : ∃ req, s.calls i = .requested req := by
    have isRequested := fresh i
    cases call : s.calls i with
    | requested req => exact ⟨req, rfl⟩
    | fetching | storing | listing | evicting | revalidated | settled =>
        rw [call] at isRequested
        cases isRequested
  constructor
  · intro i
    obtain ⟨req, call⟩ := begun i
    rw [call]
    exact ⟨trivial, rfl⟩
  · intro i keys listed
    obtain ⟨req, call⟩ := begun i
    rw [call] at listed
    cases listed

theorem Guarded.next (guarded : Guarded s t) {move : κ × Move} (undisturbed : Undisturbed t move) :
    Guarded s (Pool.next (staleWhileRevalidate location) t move) ∧
      (Completes location t move →
        (Pool.next (staleWhileRevalidate location) t move).shared.length ≤ RUNTIME_CAP) := by
  obtain ⟨i, a⟩ := move
  unfold Completes
  refine Pool.next_keeps (fun u => Guarded s u ∧ ((t.calls i).isRevalidated = false ∧
    (u.calls i).isRevalidated → u.shared.length ≤ RUNTIME_CAP)) ?_ fun cache call taken => ?_
  · refine ⟨guarded, fun completes => ?_⟩
    rw [completes.1] at completes
    cases completes.2
  · have step := step_cases taken
    have found : a = .lookup → ∀ resp ∈ t.shared.lookup (t.calls i).request,
        resp.credentials = (t.calls i).request.credentials := by
      rintro rfl
      cases call : t.calls i with
      | requested req =>
          simp only [Undisturbed, call] at undisturbed
          exact undisturbed
      | fetching | storing | listing | evicting | revalidated | settled =>
          rw [call] at taken
          cases taken
    obtain ⟨own, request⟩ := step.own (guarded.own i).1 found
    obtain ⟨room, cap⟩ := step.left (guarded.room i)
    have others : ∀ j, ∀ keys ∈ (t.calls j).evictions, (cache.left keys).length ≤ RUNTIME_CAP := by
      intro j keys listed
      rcases step.writes with rfl | ⟨key, rfl⟩ | ⟨req, cached, resp, rfl, storing, storable, rfl⟩
      · exact guarded.room j keys listed
      · exact (t.shared.left_delete_le key keys).trans (guarded.room j keys listed)
      · simp only [Undisturbed, storing] at undisturbed
        exact (Cache.left_put_le (undisturbed storable j keys listed)).trans (guarded.room j keys listed)
    refine ⟨⟨?_, ?_⟩, fun completes => cap ?_⟩
    · refine (Function.forall_update_iff t.calls fun j call => call.Own ∧
        call.request = (s.calls j).request).mpr ⟨⟨own, request.trans (guarded.own i).2⟩, fun j _ => guarded.own j⟩
    · exact (Function.forall_update_iff t.calls fun _ call => ∀ keys ∈ call.evictions,
        (cache.left keys).length ≤ RUNTIME_CAP).mpr ⟨room, fun j _ => others j⟩
    · have completed := completes.2
      dsimp only at completed
      rwa [Function.update_self] at completed

/-- While no lookup finds a response of other credentials and no put grows what a trim is to leave, answers are of
the request's own credentials, and the cap holds after each revalidation. -/
theorem own_answers (fresh : ∀ i, (s.calls i).isRequested)
    (run : Run Undisturbed (Pool.next (staleWhileRevalidate location)) s moves t) :
    (∀ i response, (t.calls i).answer = some (.origin response) →
      response.credentials = (s.calls i).request.credentials) ∧
    ∀ before move after, moves = before ++ move :: after →
      Completes location (before.foldl (Pool.next (staleWhileRevalidate location)) s) move →
        ((before ++ [move]).foldl (Pool.next (staleWhileRevalidate location)) s).shared.length ≤ RUNTIME_CAP := by
  have guarded : ∀ {moves t}, Run Undisturbed (Pool.next (staleWhileRevalidate location)) s moves t → Guarded s t :=
    fun run => run.invariant (Guarded s) (.start fresh) fun _ _ guarded undisturbed => (guarded.next undisturbed).1
  constructor
  · intro i response answer
    obtain ⟨own, request⟩ := (guarded run).own i
    rw [← request]
    exact own.answer answer
  · rintro before move after rfl completes
    obtain ⟨u, start, undisturbed⟩ := run.split
    rw [← start.eq_foldl] at completes
    rw [List.foldl_append, ← start.eq_foldl]
    exact ((guarded start).next undisturbed).2 completes

end

/-! ## Two users of one device -/

def get (pathname credentials : String) : Request String where
  method := "GET"
  origin := "https://app.smarterp.it"
  pathname
  search := ""
  headers := []
  credentials

def users (pathname : Bool → String) : Pool Bool (Cache String) (Call String) :=
  ⟨[], fun i => .requested (if i then get (pathname i) "anna" else get (pathname i) "bruno")⟩

def visit (i : Bool) (body : String) : List (Bool × Move) :=
  [(i, .lookup), (i, .respond 200 [] body), (i, .put), (i, .keys)]

def visits : List (Bool × Move) := visit true "invoices" ++ visit false "customers"

def apart : Pool Bool (Cache String) (Call String) :=
  users fun i => if i then "/api/v1/invoices" else "/api/v1/customers"

theorem own_answers_apart :
    (∀ i response, ((visits.foldl (Pool.next (staleWhileRevalidate "https://app.smarterp.it")) apart).calls i).answer =
      some (.origin response) → response.credentials = (apart.calls i).request.credentials) ∧
    ∀ before move after, visits = before ++ move :: after →
      Completes "https://app.smarterp.it"
        (before.foldl (Pool.next (staleWhileRevalidate "https://app.smarterp.it")) apart) move →
        ((before ++ [move]).foldl (Pool.next (staleWhileRevalidate "https://app.smarterp.it"))
          apart).shared.length ≤ RUNTIME_CAP :=
  own_answers (by decide) (Run.ofAllMet (by decide))

/-- Bruno, on the page that Anna has visited before him, is answered with what was fetched for her. -/
theorem foreign_answer : ¬∀ (moves : List (Bool × Move)) (i : Bool) (response : Response String),
    ((moves.foldl (Pool.next (staleWhileRevalidate "https://app.smarterp.it"))
      (users fun _ => "/api/v1/invoices")).calls i).answer = some (.origin response) →
      response.credentials = ((users fun _ => "/api/v1/invoices").calls i).request.credentials := by
  intro own
  have foreign := own (visit true "invoices" ++ [(false, .lookup)]) false ⟨200, [], "invoices", "anna"⟩ rfl
  revert foreign
  decide

end SmartErp.ServiceWorker
