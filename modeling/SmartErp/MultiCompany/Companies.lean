import SmartErp.Failure
import SmartErp.Foundations.Interleaving
import SmartErp.Foundations.Table
import Mathlib.Data.List.Sort

/-!
# Companies of a tenant

`multi-company.service.ts`. `setPrimary` lists the active companies and saves those whose flag changes one
after the other, outside a transaction. The database reads the id of a request in any case of its letters, the
loop compares it with the canonical text of each row. `precedes` is the collation of `ORDER BY code`.
-/

namespace SmartErp.MultiCompany
open Foundations

/-- `id = :id` of a `uuid` column; `ParseUUIDPipe` has let through hexadecimal digits of both cases. -/
def readsAs (text : String) (id : Uuid) : Bool := String.ofList (text.toList.map Char.toLower) = uuidText id

structure Company where
  id : Uuid
  tenantId : Uuid
  code : String
  name : String
  vatNumber : Option String
  fiscalCode : Option String
  sdiDestinationCode : Option String
  pecEmail : Option String
  address : String
  isPrimary : Bool
  isActive : Bool
  deriving DecidableEq

structure CreateCompany where
  code : String
  name : String
  vatNumber : Option String := none
  fiscalCode : Option String := none
  sdiDestinationCode : Option String := none
  pecEmail : Option String := none
  address : Option String := none
  deriving DecidableEq

def CreateCompany.entity (dto : CreateCompany) (tenantId id : Uuid) : Company where
  id
  tenantId
  code := dto.code
  name := dto.name
  vatNumber := dto.vatNumber
  fiscalCode := dto.fiscalCode
  sdiDestinationCode := dto.sdiDestinationCode
  pecEmail := dto.pecEmail
  address := dto.address.getD "\x7b\x7d"
  isPrimary := false
  isActive := true

def Company.collides (a b : Company) : Bool :=
  a.id = b.id ∨ a.tenantId = b.tenantId ∧ (a.code = b.code ∨ a.vatNumber ≠ none ∧ a.vatNumber = b.vatNumber)

abbrev Companies := Table Company.id

/-! ## Steps of `create` and `setPrimary` -/

inductive Call where
  | create (dto : CreateCompany)
  | unique (dto : CreateCompany)
  | setPrimary (id : String)
  | found (id : String) (target : Company)
  | flipping (id : String) (target : Company) (all : List Company)
  | returned (company : Company)
  | failed (failure : Failure)
  deriving DecidableEq

inductive Move where
  | read
  | insert (id : Uuid) (fault : Option Failure)
  | save (fault : Option Failure)
  deriving DecidableEq

section
variable (precedes : String → String → Bool) (tenantId : Uuid)

def list (companies : Companies) : List Company :=
  (companies.rows.filter fun c => c.tenantId = tenantId ∧ c.isActive).insertionSort fun a b => precedes a.code b.code

def checkCode (companies : Companies) (dto : CreateCompany) : Call :=
  if companies.rows.any fun c => c.tenantId = tenantId ∧ c.code = dto.code then
    .failed (.conflict s!"Company {dto.code} already exists")
  else .unique dto

def findTarget (companies : Companies) (id : String) : Call :=
  match companies.rows.find? fun c => c.tenantId = tenantId ∧ readsAs id c.id with
  | none => .failed (.notFound s!"Company {id} not found")
  | some target =>
      if target.isActive then .found id target
      else .failed (.badRequest "Cannot mark an inactive company as primary")

def insert (companies : Companies) (entity : Company) (fault : Option Failure) : Companies × Call :=
  match fault with
  | some failure => (companies, .failed failure)
  | none =>
      if companies.rows.any (·.collides entity) then
        (companies, .failed (.database "duplicate key value violates unique constraint"))
      else (companies.save entity, .returned entity)

/-- One round of the loop over the companies that were listed. -/
def flip (companies : Companies) (id : String) (target : Company) (fault : Option Failure) :
    List Company → Companies × Call
  | [] => (companies, .returned target)
  | c :: rest =>
      let wasPrimary := c.isPrimary
      let c := { c with isPrimary := decide (uuidText c.id = id) }
      if wasPrimary ≠ c.isPrimary then
        match fault with
        | some failure => (companies, .failed failure)
        | none => (companies.save c, .flipping id target rest)
      else (companies, .flipping id target rest)

def act : Move → Companies → Call → Option (Companies × Call)
  | .read, companies, .create dto => some (companies, checkCode tenantId companies dto)
  | .insert id fault, companies, .unique dto => some (insert companies (dto.entity tenantId id) fault)
  | .read, companies, .setPrimary id => some (companies, findTarget tenantId companies id)
  | .read, companies, .found id target => some (companies, .flipping id target (list precedes tenantId companies))
  | .save fault, companies, .flipping id target all => some (flip companies id target fault all)
  | _, _, _ => none

def Company.primaryOf (c : Company) : Bool := c.tenantId = tenantId ∧ c.isActive ∧ c.isPrimary

def primaries (companies : Companies) : List Company := companies.rows.filter (·.primaryOf tenantId)

end

def Call.begins : Call → Bool
  | .create _ | .setPrimary _ => true
  | _ => false

section
variable {κ : Type} [DecidableEq κ] {precedes : String → String → Bool} {tenantId : Uuid}
  {s t : Pool κ Companies Call} {moves : List (κ × Move)}

structure Opening (tenantId : Uuid) (s : Pool κ Companies Call) : Prop where
  begins : ∀ i, (s.calls i).begins
  single : (primaries tenantId s.shared).length ≤ 1

/-- A save that goes through marks its company, while no other one is primary. -/
def Unopposed (tenantId : Uuid) (s : Pool κ Companies Call) (move : κ × Move) : Prop :=
  match move.2, s.calls move.1 with
  | .save none, .flipping id _ (c :: _) =>
      c.isPrimary ≠ decide (uuidText c.id = id) →
        uuidText c.id = id ∧ ∀ other ∈ primaries tenantId s.shared, other.id = c.id
  | _, _ => True

instance (s : Pool κ Companies Call) (move : κ × Move) : Decidable (Unopposed tenantId s move) := by
  unfold Unopposed
  split <;> infer_instance

/-! ## What a step writes -/

def Call.Listed (tenantId : Uuid) : Call → Prop
  | flipping _ _ all => ∀ c ∈ all, c.tenantId = tenantId ∧ c.isActive
  | _ => True

theorem list_listed {companies : Companies} {id : String} {target : Company} :
    (Call.flipping id target (list precedes tenantId companies)).Listed tenantId := by
  intro c mem
  rw [list, List.mem_insertionSort, List.mem_filter, decide_eq_true_eq] at mem
  exact mem.2

theorem checkCode_listed (companies : Companies) (dto : CreateCompany) :
    (checkCode tenantId companies dto).Listed tenantId := by
  unfold checkCode
  split <;> trivial

theorem findTarget_listed (companies : Companies) (id : String) :
    (findTarget tenantId companies id).Listed tenantId := by
  unfold findTarget
  split
  · trivial
  · split <;> trivial

theorem insert_listed (companies : Companies) (entity : Company) (fault : Option Failure) :
    (insert companies entity fault).2.Listed tenantId := by
  unfold insert
  cases fault with
  | some failure => trivial
  | none =>
      dsimp only
      split <;> trivial

theorem flip_listed {companies : Companies} {id : String} {target : Company} {fault : Option Failure}
    {all : List Company} (listed : (Call.flipping id target all).Listed tenantId) :
    (flip companies id target fault all).2.Listed tenantId := by
  cases all with
  | nil => trivial
  | cons c rest =>
      have rest' : (Call.flipping id target rest).Listed tenantId := fun d mem => listed d (List.mem_cons_of_mem c mem)
      dsimp only [flip]
      split
      · cases fault with
        | none => exact rest'
        | some failure => trivial
      · exact rest'

theorem act_listed {move : Move} {companies companies' : Companies} {call call' : Call}
    (listed : call.Listed tenantId) (step : act precedes tenantId move companies call = some (companies', call')) :
    call'.Listed tenantId := by
  unfold act at step
  split at step
  · cases step
    exact checkCode_listed companies _
  · have became : (insert companies _ _).2 = call' := congrArg Prod.snd (Option.some.inj step)
    exact became ▸ insert_listed companies _ _
  · cases step
    exact findTarget_listed companies _
  · cases step
    exact list_listed
  · have became : (flip companies _ _ _ _).2 = call' := congrArg Prod.snd (Option.some.inj step)
    exact became ▸ flip_listed listed
  · cases step

theorem insert_writes (companies : Companies) (entity : Company) (fault : Option Failure) :
    (insert companies entity fault).1 = companies ∨
      (∀ c ∈ companies.rows, c.id ≠ entity.id) ∧ (insert companies entity fault).1 = companies.save entity := by
  unfold insert
  cases fault with
  | some failure => exact .inl rfl
  | none =>
      dsimp only
      split
      · exact .inl rfl
      · rename_i apart
        refine .inr ⟨fun c mem same => apart ?_, rfl⟩
        rw [List.any_eq_true]
        exact ⟨c, mem, decide_eq_true (.inl same)⟩

theorem flip_writes (companies : Companies) (id : String) (target : Company) (fault : Option Failure)
    (all : List Company) :
    (flip companies id target fault all).1 = companies ∨
      ∃ c rest, fault = none ∧ all = c :: rest ∧ c.isPrimary ≠ decide (uuidText c.id = id) ∧
        (flip companies id target fault all).1 =
          companies.save { c with isPrimary := decide (uuidText c.id = id) } := by
  cases all with
  | nil => exact .inl rfl
  | cons c rest =>
      dsimp only [flip]
      split
      · rename_i changes
        cases fault with
        | none => exact .inr ⟨c, rest, rfl, rfl, changes, rfl⟩
        | some failure => exact .inl rfl
      · exact .inl rfl

theorem act_writes {move : Move} {companies companies' : Companies} {call call' : Call}
    (step : act precedes tenantId move companies call = some (companies', call')) :
    companies' = companies ∨
    (∃ entity, entity.isPrimary = false ∧ (∀ c ∈ companies.rows, c.id ≠ entity.id) ∧
      companies' = companies.save entity) ∨
    ∃ id target c rest, move = .save none ∧ call = .flipping id target (c :: rest) ∧
      c.isPrimary ≠ decide (uuidText c.id = id) ∧
      companies' = companies.save { c with isPrimary := decide (uuidText c.id = id) } := by
  cases call with
  | unique dto =>
      cases move with
      | insert id fault =>
          have written : (insert companies (dto.entity tenantId id) fault).1 = companies' :=
            congrArg Prod.fst (Option.some.inj step)
          rw [← written]
          rcases insert_writes companies (dto.entity tenantId id) fault with same | ⟨apart, saved⟩
          · exact .inl same
          · exact .inr (.inl ⟨_, rfl, apart, saved⟩)
      | read | save => cases step
  | flipping id target all =>
      cases move with
      | save fault =>
          have written : (flip companies id target fault all).1 = companies' :=
            congrArg Prod.fst (Option.some.inj step)
          rw [← written]
          rcases flip_writes companies id target fault all with same | ⟨c, rest, rfl, rfl, changes, saved⟩
          · exact .inl same
          · exact .inr (.inr ⟨id, target, c, rest, rfl, rfl, changes, saved⟩)
      | read | insert => cases step
  | create | setPrimary | found =>
      cases move with
      | read =>
          cases step
          exact .inl rfl
      | insert | save => cases step
  | returned | failed => cases move <;> cases step

/-! ## One primary company -/

theorem mem_primaries_save {companies : Companies} {c d : Company} :
    d ∈ primaries tenantId (companies.save c) ↔
      d = c ∧ c.primaryOf tenantId ∨ d ∈ primaries tenantId companies ∧ d.id ≠ c.id := by
  unfold primaries
  rw [List.mem_filter, List.mem_filter, Table.mem_save]
  constructor
  · rintro ⟨rfl | ⟨mem, ne⟩, primary⟩
    · exact .inl ⟨rfl, primary⟩
    · exact .inr ⟨⟨mem, primary⟩, ne⟩
  · rintro (⟨rfl, primary⟩ | ⟨⟨mem, primary⟩, ne⟩)
    · exact ⟨.inl rfl, primary⟩
    · exact ⟨.inr ⟨mem, ne⟩, primary⟩

theorem length_primaries {companies : Companies}
    (same : ∀ c ∈ primaries tenantId companies, ∀ d ∈ primaries tenantId companies, c.id = d.id) :
    (primaries tenantId companies).length ≤ 1 := by
  have nodup : ((primaries tenantId companies).map Company.id).Nodup := (companies.filter _).nodup
  cases all : primaries tenantId companies with
  | nil => exact Nat.zero_le 1
  | cons c rest =>
      cases rest with
      | nil => exact le_rfl
      | cons d rest =>
          rw [all] at same nodup
          have twice := same c List.mem_cons_self d (List.mem_cons_of_mem c List.mem_cons_self)
          simp [twice] at nodup

structure Sound (tenantId : Uuid) (s : Pool κ Companies Call) : Prop where
  single : (primaries tenantId s.shared).length ≤ 1
  listed : ∀ i, (s.calls i).Listed tenantId

omit [DecidableEq κ] in
theorem Opening.sound (opening : Opening tenantId s) : Sound tenantId s := by
  refine ⟨opening.single, fun i => ?_⟩
  have begins := opening.begins i
  cases call : s.calls i with
  | create | setPrimary => trivial
  | unique | found | flipping | returned | failed =>
      rw [call] at begins
      cases begins

theorem Sound.next (sound : Sound tenantId s) {move : κ × Move} (unopposed : Unopposed tenantId s move) :
    Sound tenantId (Pool.next (act precedes tenantId) s move) ∧
      (primaries tenantId s.shared).length ≤
        (primaries tenantId (Pool.next (act precedes tenantId) s move).shared).length := by
  obtain ⟨i, a⟩ := move
  refine Pool.next_keeps (fun u => Sound tenantId u ∧ (primaries tenantId s.shared).length ≤
    (primaries tenantId u.shared).length) ⟨sound, le_rfl⟩ fun companies call step => ?_
  have listed : ∀ j, (Function.update s.calls i call j).Listed tenantId :=
    (Function.forall_update_iff s.calls fun _ => Call.Listed tenantId).mpr
      ⟨act_listed (sound.listed i) step, fun j _ => sound.listed j⟩
  rcases act_writes step with rfl | ⟨entity, secondary, fresh, rfl⟩ | ⟨id, target, c, rest, rfl, flipping, changes, rfl⟩
  · exact ⟨⟨sound.single, listed⟩, le_rfl⟩
  · have dropped : entity.primaryOf tenantId = false := by
      simp [Company.primaryOf, secondary]
    have kept : primaries tenantId (s.shared.save entity) = primaries tenantId s.shared := by
      refine congrArg Table.rows (Table.filter_save_of_not dropped fun old found => ?_)
      exact absurd (Table.key_of_find? found) (fresh old (Table.mem_of_find? found))
    rw [kept]
    exact ⟨⟨kept.symm ▸ sound.single, listed⟩, le_rfl⟩
  · simp only [Unopposed, flipping] at unopposed
    obtain ⟨here, others⟩ := unopposed changes
    have primary : ({ c with isPrimary := decide (uuidText c.id = id) } : Company).primaryOf tenantId := by
      have member := sound.listed i
      rw [flipping] at member
      obtain ⟨tenant, active⟩ := member c List.mem_cons_self
      simp [Company.primaryOf, tenant, active, here]
    have all : ∀ d ∈ primaries tenantId (s.shared.save { c with isPrimary := decide (uuidText c.id = id) }),
        d.id = c.id := by
      intro d mem
      rcases mem_primaries_save.mp mem with ⟨rfl, -⟩ | ⟨old, -⟩
      · rfl
      · exact others d old
    have some : 0 < (primaries tenantId
        (s.shared.save { c with isPrimary := decide (uuidText c.id = id) })).length :=
      List.length_pos_of_mem (mem_primaries_save.mpr (.inl ⟨rfl, primary⟩))
    have single := length_primaries fun d hd e he => (all d hd).trans (all e he).symm
    exact ⟨⟨single, listed⟩, sound.single.trans some⟩

/-- While no save meets another primary company, there is at most one, and exactly one from the first on. -/
theorem one_primary (opening : Opening tenantId s)
    (run : Run (Unopposed tenantId) (Pool.next (act precedes tenantId)) s moves t) :
    (primaries tenantId t.shared).length ≤ 1 ∧ ∀ before after, moves = before ++ after →
      primaries tenantId (before.foldl (Pool.next (act precedes tenantId)) s).shared ≠ [] →
        (primaries tenantId t.shared).length = 1 := by
  have sound := run.strengthen (Sound tenantId) opening.sound fun _ _ sound unopposed => (sound.next unopposed).1
  have single := (run.invariant (Sound tenantId) opening.sound fun _ _ sound unopposed =>
    (sound.next unopposed).1).single
  refine ⟨single, fun before after whole made => Nat.le_antisymm single ?_⟩
  have start : Run (fun u move => Sound tenantId u ∧ Unopposed tenantId u move)
      (Pool.next (act precedes tenantId)) s before (before.foldl (Pool.next (act precedes tenantId)) s) :=
    Run.ofAllMet (AllMet.append.mp (whole ▸ sound.allMet)).1
  have kept := sound.monotone (fun u => (primaries tenantId u.shared).length)
    (fun _ _ met => (met.1.next met.2).2) whole start
  exact (List.length_pos_iff.mpr made).trans_le kept

/-! ## What consolidation falls back to -/

def fallback (precedes : String → String → Bool) (tenantId : Uuid) (companies : Companies) : Option Company :=
  ((list precedes tenantId companies).find? (·.isPrimary)).or (list precedes tenantId companies).head?

theorem fallback_primary {companies : Companies} (one : (primaries tenantId companies).length = 1) :
    ∃ c, fallback precedes tenantId companies = some c ∧ primaries tenantId companies = [c] := by
  obtain ⟨c, only⟩ := List.length_eq_one_iff.mp one
  refine ⟨c, ?_, only⟩
  have iff (d : Company) : d ∈ list precedes tenantId companies ∧ d.isPrimary ↔ d = c := by
    have member : d ∈ primaries tenantId companies ↔ d = c := by rw [only, List.mem_singleton]
    rw [← member, primaries, List.mem_filter, list, List.mem_insertionSort, List.mem_filter, Company.primaryOf,
      decide_eq_true_eq, decide_eq_true_eq, and_assoc, and_assoc]
  obtain ⟨mem, primary⟩ := (iff c).mpr rfl
  cases found : (list precedes tenantId companies).find? (·.isPrimary) with
  | none => exact absurd primary (List.find?_eq_none.mp found c mem)
  | some d =>
      have same := (iff d).mp ⟨List.mem_of_find?_eq_some found, List.find?_some (p := Company.isPrimary) found⟩
      rw [fallback, found, same]
      rfl

end

/-! ## Runs -/

def company (id : Uuid) (code : String) (isPrimary : Bool) : Company where
  id
  tenantId := 7
  code
  name := code
  vatNumber := none
  fiscalCode := none
  sdiDestinationCode := none
  pecEmail := none
  address := "\x7b\x7d"
  isPrimary
  isActive := true

-- The id of the primary company in capitals clears its flag.
example : (flip ⟨[company 10 "ACME" true], by decide⟩ "00000000-0000-0000-0000-00000000000A"
    (company 10 "ACME" true) none [company 10 "ACME" true]).1.rows = [company 10 "ACME" false] := by decide +kernel

def unmarked : Companies := ⟨[company 1 "ACME" false, company 2 "BETA" false], by decide⟩

def byCode (a b : String) : Bool := decide (a ≤ b)

/-- A company is created while another one becomes primary. -/
def apart : Pool Bool Companies Call :=
  ⟨unmarked, fun i => if i then .create ⟨"GAMMA", "Gamma", none, none, none, none, none⟩
    else .setPrimary (uuidText 2)⟩

def apartMoves : List (Bool × Move) :=
  [(false, .read), (true, .read), (false, .read), (false, .save none), (true, .insert 3 none), (false, .save none),
    (false, .save none)]

theorem one_primary_apart :
    (primaries 7 (apartMoves.foldl (Pool.next (act byCode 7)) apart).shared).length ≤ 1 ∧
      ∀ before after, apartMoves = before ++ after →
        primaries 7 (before.foldl (Pool.next (act byCode 7)) apart).shared ≠ [] →
          (primaries 7 (apartMoves.foldl (Pool.next (act byCode 7)) apart).shared).length = 1 :=
  one_primary ⟨by decide, by decide⟩ (Run.ofAllMet (by decide +kernel))

def atOnce : Pool Bool Companies Call := 
  ⟨unmarked, fun i => .setPrimary (uuidText (if i then 1 else 2))⟩

theorem two_primaries : ¬∀ moves : List (Bool × Move),
    (primaries 7 (moves.foldl (Pool.next (act byCode 7)) atOnce).shared).length ≤ 1 := by
  intro single
  have both := single [(false, .read), (true, .read), (false, .read), (true, .read), (false, .save none),
    (false, .save none), (true, .save none), (true, .save none)]
  revert both
  decide +kernel

end SmartErp.MultiCompany
