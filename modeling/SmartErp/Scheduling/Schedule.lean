import SmartErp.Failure
import SmartErp.Foundations.Double
import SmartErp.Foundations.FirstFit
import Mathlib.Data.List.Find
import Mathlib.Data.List.Nodup
import Mathlib.Data.List.Sort

/-!
# The greedy schedule

`scheduling.service.ts`. Nothing checks the body of a request, so times are any numbers, and `cursor` is an
object whose keys are the ids of the resources.
-/

namespace SmartErp.Scheduling
open Foundations

structure SchedulingJob where
  id : String
  productId : String
  quantity : JsNumber
  dueDate : String
  estimatedMinutes : JsNumber
  priority : Option JsNumber
  deriving DecidableEq

structure SchedulingResource where
  id : String
  dailyCapacityMinutes : JsNumber
  capabilities : List String
  deriving DecidableEq

structure ScheduledAssignment where
  jobId : String
  resourceId : String
  startMinutes : JsNumber
  endMinutes : JsNumber
  deriving DecidableEq

structure SchedulingResult where
  assignments : List ScheduledAssignment
  unassigned : List String
  method : String
  computedAtIso : String
  deriving DecidableEq

/-- `Array.prototype.sort`: an order of the items, of which the comparator leaves nothing open unless it is
inconsistent, as with dates that are none. -/
structure Sorting (α : Type) where
  sort : (α → α → JsNumber) → List α → List α
  perm : ∀ compare as, (sort compare as).Perm as

/-- The number a job is sorted by; `parse` is `Date.parse`. -/
def SchedulingJob.key (parse : String → JsNumber) (job : SchedulingJob) : JsNumber :=
  job.priority.getD (parse job.dueDate)

def compareJobs (parse : String → JsNumber) (a b : SchedulingJob) : JsNumber :=
  ((a.key parse).sub (b.key parse)).double

/-- What is no own property reads as no number, and `__proto__` takes no number. -/
abbrev Cursor := String → JsNumber

def Cursor.set (cursor : Cursor) (key : String) (value : JsNumber) : Cursor :=
  if key = "__proto__" then cursor else Function.update cursor key value

structure Loop where
  cursor : Cursor
  assignments : List ScheduledAssignment
  unassigned : List String

def hasRoom (resource : SchedulingResource) (filled : JsNumber) : Bool := filled.le resource.dailyCapacityMinutes

def assign (resources : List SchedulingResource) (s : Loop) (job : SchedulingJob) : Loop :=
  match resources.find? fun r => hasRoom r ((s.cursor r.id).plus job.estimatedMinutes) with
  | none => { s with unassigned := s.unassigned ++ [job.id] }
  | some resource =>
      let start := s.cursor resource.id
      let stop := start.plus job.estimatedMinutes
      { s with
        cursor := s.cursor.set resource.id stop
        assignments := s.assignments ++ [⟨job.id, resource.id, start, stop⟩] }

def initialCursor (resources : List SchedulingResource) : Cursor :=
  resources.foldl (fun cursor r => cursor.set r.id (.finite 0)) fun _ => .nan

def sortedJobs (sorting : Sorting SchedulingJob) (parse : String → JsNumber) (jobs : List SchedulingJob) :
    List SchedulingJob :=
  sorting.sort (compareJobs parse) jobs

def schedule (sorting : Sorting SchedulingJob) (parse : String → JsNumber) (jobs : List SchedulingJob)
    (resources : List SchedulingResource) (computedAtIso : String) : SchedulingResult :=
  let s := (sortedJobs sorting parse jobs).foldl (assign resources) ⟨initialCursor resources, [], []⟩
  { assignments := s.assignments, unassigned := s.unassigned, method := "greedy_v1", computedAtIso }

/-! ## A packing -/

def onResource (id : String) (assignments : List ScheduledAssignment) : List ScheduledAssignment :=
  assignments.filter (·.resourceId = id)

def Contiguous : JsNumber → List ScheduledAssignment → Prop
  | _, [] => True
  | t, a :: as => a.startMinutes = t ∧ Contiguous a.endMinutes as

def load (id : String) (assignments : List ScheduledAssignment) : JsNumber :=
  ((onResource id assignments).getLast?.map (·.endMinutes)).getD (.finite 0)

/-- `sorted` are the jobs in the order of their turns. -/
structure Packing (jobs sorted : List SchedulingJob) (resources : List SchedulingResource)
    (result : SchedulingResult) : Prop where
  once : (result.assignments.map (·.jobId) ++ result.unassigned).Perm (jobs.map (·.id))
  known : ∀ a ∈ result.assignments, (∃ r ∈ resources, a.resourceId = r.id) ∧
    ∃ job ∈ jobs, a.jobId = job.id ∧ a.endMinutes = a.startMinutes.plus job.estimatedMinutes
  contiguous : ∀ r ∈ resources, Contiguous (.finite 0) (onResource r.id result.assignments)
  disjoint : ∀ r ∈ resources,
    (onResource r.id result.assignments).Pairwise fun a b => a.endMinutes.le b.startMinutes = true
  within : ∀ r ∈ resources, ∀ a ∈ onResource r.id result.assignments,
    a.startMinutes.le a.endMinutes = true ∧ a.endMinutes.le r.dailyCapacityMinutes = true
  greedy : ∀ before job after, sorted = before ++ job :: after → job.id ∈ result.unassigned → ∀ r ∈ resources,
    hasRoom r ((load r.id (result.assignments.filter (·.jobId ∈ before.map (·.id)))).plus job.estimatedMinutes) = false

def others (resources : List SchedulingResource) : List SchedulingResource := resources.filter (·.id ≠ "__proto__")

def minutes (filled : JsNumber) (job : SchedulingJob) : JsNumber := filled.plus job.estimatedMinutes

def packed (resources : List SchedulingResource) (sorted : List SchedulingJob) :
    List (SchedulingJob × Option (SchedulingResource × JsNumber)) :=
  FirstFit.pack minutes hasRoom (others resources) (fun _ => .finite 0) sorted

/-- No job that first fit leaves over fits into an empty resource called `__proto__`. -/
def NoneForProto (resources : List SchedulingResource) (sorted : List SchedulingJob) : Prop :=
  ∀ proto ∈ resources, proto.id = "__proto__" → ∀ job, (job, none) ∈ packed resources sorted →
    hasRoom proto (minutes (.finite 0) job) = false

/-! ## The loop packs -/

def assignment (r : SchedulingResource) (p : JsNumber × SchedulingJob) : ScheduledAssignment :=
  ⟨p.2.id, r.id, p.1, minutes p.1 p.2⟩

def assigned (placed : List (SchedulingJob × Option (SchedulingResource × JsNumber))) : List ScheduledAssignment :=
  placed.filterMap fun p => p.2.map fun place => assignment place.1 (place.2, p.1)

def leftOver (placed : List (SchedulingJob × Option (SchedulingResource × JsNumber))) : List String :=
  placed.filterMap fun p => if p.2 = none then some p.1.id else none

structure Holds (resources : List SchedulingResource) (cursor : Cursor) (level : SchedulingResource → JsNumber) :
    Prop where
  proto : cursor "__proto__" = .nan
  own : ∀ r ∈ others resources, cursor r.id = level r

variable {resources : List SchedulingResource} {sorted jobs : List SchedulingJob} {cursor : Cursor}
  {level : SchedulingResource → JsNumber}

theorem mem_others {r : SchedulingResource} : r ∈ others resources ↔ r ∈ resources ∧ r.id ≠ "__proto__" := by
  simp [others]

theorem find?_eq_choose (holds : Holds resources cursor level) (job : SchedulingJob) :
    resources.find? (fun r => hasRoom r ((cursor r.id).plus job.estimatedMinutes)) =
      FirstFit.choose minutes hasRoom (others resources) level job := by
  rw [FirstFit.choose, others, List.find?_filter]
  apply List.find?_congr
  intro r mem
  by_cases proto : r.id = "__proto__"
  · have no : hasRoom r ((cursor r.id).plus job.estimatedMinutes) = false := by
      rw [proto, holds.proto, JsNumber.plus, JsNumber.nan_add]
      rfl
    rw [no]
    simp [proto]
  · rw [holds.own r (mem_others.mpr ⟨mem, proto⟩)]
    simp [proto, minutes]

theorem Holds.put (distinct : (resources.map (·.id)).Nodup) (holds : Holds resources cursor level)
    {r : SchedulingResource} (mem : r ∈ others resources) (filled : JsNumber) :
    Holds resources (cursor.set r.id filled) (Function.update level r filled) := by
  have own := (mem_others.mp mem).2
  constructor
  · rw [Cursor.set, if_neg own, Function.update_of_ne (Ne.symm own)]
    exact holds.proto
  · intro r' mem'
    rw [Cursor.set, if_neg own]
    by_cases same : r' = r
    · rw [same, Function.update_self, Function.update_self]
    · have ids : r'.id ≠ r.id := fun eq => same
        (List.inj_on_of_nodup_map distinct (mem_others.mp mem').1 (mem_others.mp mem).1 eq)
      rw [Function.update_of_ne ids, Function.update_of_ne same]
      exact holds.own r' mem'

theorem foldl_assign (distinct : (resources.map (·.id)).Nodup) (sorted : List SchedulingJob)
    {level : SchedulingResource → JsNumber} {s : Loop} (holds : Holds resources s.cursor level) :
    (sorted.foldl (assign resources) s).assignments =
        s.assignments ++ assigned (FirstFit.pack minutes hasRoom (others resources) level sorted) ∧
      (sorted.foldl (assign resources) s).unassigned =
        s.unassigned ++ leftOver (FirstFit.pack minutes hasRoom (others resources) level sorted) := by
  induction sorted generalizing s level with
  | nil => simp [FirstFit.pack, assigned, leftOver]
  | cons job sorted ih =>
    have found := find?_eq_choose holds job
    rw [List.foldl_cons, FirstFit.pack]
    obtain ⟨r, mem, chosen, -⟩ | ⟨chosen, -⟩ := FirstFit.choose_cases minutes hasRoom (others resources) level job
    · rw [chosen] at found
      have same := holds.own r mem
      have next : Holds resources (assign resources s job).cursor
          (Function.update level r (minutes (level r) job)) := by
        simp only [assign, found, same]
        exact holds.put distinct mem _
      obtain ⟨done, left⟩ := ih next
      rw [done, left, FirstFit.put_some chosen, chosen]
      simp [assign, found, same, assigned, leftOver, assignment, minutes]
    · rw [chosen] at found
      have next : Holds resources (assign resources s job).cursor level := by
        simp only [assign, found]
        exact holds
      obtain ⟨done, left⟩ := ih next
      rw [done, left, FirstFit.put_none chosen, chosen]
      simp [assign, found, assigned, leftOver]

theorem initialCursor_holds (resources : List SchedulingResource) :
    Holds resources (initialCursor resources) fun _ => .finite 0 := by
  have filled (rs : List SchedulingResource) (cursor : Cursor) :
      (rs.foldl (fun cursor r => cursor.set r.id (.finite 0)) cursor) "__proto__" = cursor "__proto__" ∧
        ∀ r : SchedulingResource, r.id ≠ "__proto__" → (r ∈ rs ∨ cursor r.id = .finite 0) →
          (rs.foldl (fun cursor r => cursor.set r.id (.finite 0)) cursor) r.id = .finite 0 := by
    induction rs generalizing cursor with
    | nil => simp
    | cons x rs ih =>
      rw [List.foldl_cons]
      obtain ⟨proto, own⟩ := ih (cursor.set x.id (.finite 0))
      constructor
      · rw [proto, Cursor.set]
        split
        · rfl
        · rename_i other
          exact Function.update_of_ne (Ne.symm other) _ _
      · intro r name mem
        apply own r name
        by_cases here : r.id = x.id
        · rw [← here, Cursor.set, if_neg name, Function.update_self]
          exact .inr rfl
        · obtain mem | set := mem
          · obtain rfl | mem := List.mem_cons.mp mem
            · exact absurd rfl here
            · exact .inl mem
          · rw [Cursor.set]
            split
            · exact .inr set
            · exact .inr ((Function.update_of_ne here _ _).trans set)
  obtain ⟨proto, own⟩ := filled resources fun _ => .nan
  exact ⟨proto, fun r mem => own r (mem_others.mp mem).2 (.inl (mem_others.mp mem).1)⟩

theorem schedule_eq (distinct : (resources.map (·.id)).Nodup) (sorting : Sorting SchedulingJob)
    (parse : String → JsNumber) (jobs : List SchedulingJob) (computedAtIso : String) :
    schedule sorting parse jobs resources computedAtIso =
      { assignments := assigned (packed resources (sortedJobs sorting parse jobs))
        unassigned := leftOver (packed resources (sortedJobs sorting parse jobs))
        method := "greedy_v1"
        computedAtIso } := by
  let start : Loop := ⟨initialCursor resources, [], []⟩
  have holds : Holds resources start.cursor fun _ => .finite 0 := initialCursor_holds resources
  obtain ⟨done, left⟩ := foldl_assign distinct (sortedJobs sorting parse jobs) holds
  simp only [schedule]
  rw [done, left]
  rfl

/-! ## What is on a resource -/

section Placed
variable {placed : List (SchedulingJob × Option (SchedulingResource × JsNumber))}

def Housed (resources : List SchedulingResource)
    (placed : List (SchedulingJob × Option (SchedulingResource × JsNumber))) : Prop :=
  ∀ p ∈ placed, ∀ place, p.2 = some place → place.1 ∈ others resources

theorem onResource_assigned (distinct : (resources.map (·.id)).Nodup) {r : SchedulingResource}
    (mem : r ∈ others resources) (housed : Housed resources placed) :
    onResource r.id (assigned placed) = (FirstFit.contents r placed).map (assignment r) := by
  induction placed with
  | nil => rfl
  | cons p placed ih =>
    have rest := ih fun q there => housed q (List.mem_cons_of_mem _ there)
    have here := housed p List.mem_cons_self
    obtain ⟨job, none | ⟨bin, start⟩⟩ := p
    · rw [FirstFit.contents_cons]
      simpa [assigned, FirstFit.contents] using rest
    · have bound := here _ rfl
      rw [FirstFit.contents_cons]
      by_cases same : bin = r
      · subst same
        simpa [assigned, onResource, FirstFit.contents, assignment] using rest
      · have ids : bin.id ≠ r.id := fun eq => same
          (List.inj_on_of_nodup_map distinct (mem_others.mp bound).1 (mem_others.mp mem).1 eq)
        simpa [assigned, onResource, FirstFit.contents, assignment, same, ids] using rest

theorem onResource_proto (housed : Housed resources placed) : onResource "__proto__" (assigned placed) = [] := by
  simp only [onResource, assigned, List.filter_eq_nil_iff, List.mem_filterMap, Option.map_eq_some_iff]
  rintro a ⟨p, mem, place, at_, rfl⟩
  have own := (mem_others.mp (housed p mem place at_)).2
  exact fun same => own (of_decide_eq_true same)

theorem load_assigned (distinct : (resources.map (·.id)).Nodup) {r : SchedulingResource} (mem : r ∈ others resources)
    (housed : Housed resources placed) :
    load r.id (assigned placed) = FirstFit.top minutes (.finite 0) (FirstFit.contents r placed) := by
  rw [load, onResource_assigned distinct mem housed, List.getLast?_map, FirstFit.top, Option.map_map]
  rfl

theorem assigned_leftOver_perm :
    ((assigned placed).map (·.jobId) ++ leftOver placed).Perm ((placed.map Prod.fst).map (·.id)) := by
  induction placed with
  | nil => exact .nil
  | cons p placed ih =>
    obtain ⟨job, none | place⟩ := p
    · simpa [assigned, leftOver] using List.perm_middle.trans (ih.cons job.id)
    · simpa [assigned, leftOver, assignment] using ih.cons job.id

theorem mem_leftOver {id : String} : id ∈ leftOver placed ↔ ∃ job, (job, none) ∈ placed ∧ job.id = id := by
  simp [leftOver, Prod.exists]

end Placed

theorem packed_housed : Housed resources (packed resources sorted) := by
  rintro ⟨job, place⟩ mem place' rfl
  exact (FirstFit.pack_room mem).1

theorem map_fst_packed : (packed resources sorted).map Prod.fst = sorted := FirstFit.map_fst_pack

theorem packed_append (before after : List SchedulingJob) :
    packed resources (before ++ after) = packed resources before ++
      FirstFit.pack minutes hasRoom (others resources) (FirstFit.levelAfter minutes hasRoom (others resources)
        (fun _ => .finite 0) before) after :=
  FirstFit.pack_append before after

theorem packed_chained (r : SchedulingResource) :
    FirstFit.Chained minutes (.finite 0) (FirstFit.contents r (packed resources sorted)) :=
  @FirstFit.pack_chained _ _ _ _ minutes hasRoom (others resources) (fun _ => .finite 0) sorted r

theorem mem_sorted {p : SchedulingJob × Option (SchedulingResource × JsNumber)} (mem : p ∈ packed resources sorted) :
    p.1 ∈ sorted := by
  have fst := List.mem_map_of_mem (f := Prod.fst) mem
  rwa [map_fst_packed] at fst

theorem contiguous_of_chained {r : SchedulingResource} {t : JsNumber} {items : List (JsNumber × SchedulingJob)}
    (chained : FirstFit.Chained minutes t items) : Contiguous t (items.map (assignment r)) := by
  induction items generalizing t with
  | nil => trivial
  | cons p items ih => exact ⟨chained.1, ih chained.2⟩

theorem contents_start (nonneg : ∀ job ∈ sorted, (JsNumber.finite 0).le job.estimatedMinutes = true)
    (r : SchedulingResource) : ∀ p ∈ FirstFit.contents r (packed resources sorted),
      (p.1.IsDouble ∧ (JsNumber.finite 0).le p.1 = true) ∧ p.1.le (minutes p.1 p.2) = true := by
  have each : ∀ p ∈ FirstFit.contents r (packed resources sorted),
      (JsNumber.finite 0).le p.2.estimatedMinutes = true :=
    fun p mem => nonneg _ (mem_sorted (FirstFit.mem_contents.mp mem))
  have keeps (l : JsNumber) (job : SchedulingJob) (start : l.IsDouble ∧ (JsNumber.finite 0).le l = true)
      (long : (JsNumber.finite 0).le job.estimatedMinutes = true) :
      (minutes l job).IsDouble ∧ (JsNumber.finite 0).le (minutes l job) = true :=
    ⟨JsNumber.isDouble_double _, JsNumber.le_trans start.2 (JsNumber.le_plus start.1 start.2 long)⟩
  have starts := (packed_chained r).forall_start keeps ⟨isDouble_zero, rfl⟩ each
  intro p mem
  have start := starts p mem
  exact ⟨start, JsNumber.le_plus start.1 start.2 (each p mem)⟩

theorem assigned_before {before after : List SchedulingJob} {job : SchedulingJob}
    (distinct : ((before ++ job :: after).map (·.id)).Nodup) :
    (assigned (packed resources (before ++ job :: after))).filter (·.jobId ∈ before.map (·.id)) =
      assigned (packed resources before) := by
  rw [packed_append, assigned, List.filterMap_append, List.filter_append]
  have first : (assigned (packed resources before)).filter (·.jobId ∈ before.map (·.id)) =
      assigned (packed resources before) := by
    rw [List.filter_eq_self]
    intro a mem
    simp only [assigned, List.mem_filterMap, Option.map_eq_some_iff] at mem
    obtain ⟨p, mem, place, -, rfl⟩ := mem
    exact decide_eq_true (List.mem_map_of_mem (mem_sorted mem))
  have last (level : SchedulingResource → JsNumber) :
      (assigned (FirstFit.pack minutes hasRoom (others resources) level (job :: after))).filter
        (·.jobId ∈ before.map (·.id)) = [] := by
    rw [List.filter_eq_nil_iff]
    intro a mem
    simp only [assigned, List.mem_filterMap, Option.map_eq_some_iff] at mem
    obtain ⟨p, mem, place, -, rfl⟩ := mem
    have later := List.mem_map_of_mem (f := Prod.fst) mem
    rw [FirstFit.map_fst_pack] at later
    rw [List.map_append, List.nodup_append] at distinct
    have apart := fun there => distinct.2.2 _ there _ (List.mem_map_of_mem (f := (·.id)) later) rfl
    simpa [assignment] using apart
  exact (congr (congrArg _ first) (last _)).trans (List.append_nil _)

/-! ## The packing -/

section Distinct
variable (distinct : (resources.map (·.id)).Nodup)
include distinct

theorem onResource_packed {sorted : List SchedulingJob} {r : SchedulingResource} (mem : r ∈ resources) :
    ∃ items : List (JsNumber × SchedulingJob),
      onResource r.id (assigned (packed resources sorted)) = items.map (assignment r) ∧ FirstFit.Chained minutes (.finite 0) items ∧
        items ⊆ FirstFit.contents r (packed resources sorted) := by
  by_cases proto : r.id = "__proto__"
  · refine ⟨[], ?_, trivial, List.nil_subset _⟩
    rw [proto]
    exact onResource_proto packed_housed
  · exact ⟨_, onResource_assigned distinct (mem_others.mpr ⟨mem, proto⟩) packed_housed, packed_chained r,
      fun _ mem => mem⟩

theorem packed_disjoint (nonneg : ∀ job ∈ sorted, (JsNumber.finite 0).le job.estimatedMinutes = true)
    {r : SchedulingResource} (mem : r ∈ resources) :
    (onResource r.id (assigned (packed resources sorted))).Pairwise
      fun a b => a.endMinutes.le b.startMinutes = true := by
  obtain ⟨items, eq, chained, sub⟩ := onResource_packed distinct mem
  rw [eq, List.pairwise_map]
  have starts := fun p there => contents_start nonneg r p (sub there)
  exact chained.pairwise (fun a b => a.le b = true) (fun _ _ _ => JsNumber.le_trans) (fun p there =>
    JsNumber.le_refl_of_le (starts p there).1.2) fun p there => (starts p there).2

theorem packed_within (nonneg : ∀ job ∈ sorted, (JsNumber.finite 0).le job.estimatedMinutes = true)
    {r : SchedulingResource} (mem : r ∈ resources) :
    ∀ a ∈ onResource r.id (assigned (packed resources sorted)),
      a.startMinutes.le a.endMinutes = true ∧ a.endMinutes.le r.dailyCapacityMinutes = true := by
  obtain ⟨items, eq, -, sub⟩ := onResource_packed distinct mem
  rw [eq, List.forall_mem_map]
  intro p there
  exact ⟨(contents_start nonneg r p (sub there)).2, (FirstFit.pack_room (FirstFit.mem_contents.mp (sub there))).2⟩

/-- Up to a job's turn the load of a resource is the level of first fit. -/
theorem load_before {before : List SchedulingJob} {r : SchedulingResource} (mem : r ∈ others resources) :
    load r.id (assigned (packed resources before)) =
      FirstFit.levelAfter minutes hasRoom (others resources) (fun _ => .finite 0) before r := by
  rw [load_assigned distinct mem packed_housed, FirstFit.levelAfter_eq]
  rfl

omit distinct in
theorem load_proto {before : List SchedulingJob} :
    load "__proto__" (assigned (packed resources before)) = .finite 0 := by
  rw [load, onResource_proto packed_housed]
  rfl

theorem greedy_others {before after : List SchedulingJob} {job : SchedulingJob}
    (ids : ((before ++ job :: after).map (·.id)).Nodup)
    (left : job.id ∈ leftOver (packed resources (before ++ job :: after))) :
    (job, none) ∈ packed resources (before ++ job :: after) ∧
      ∀ r ∈ others resources,
        hasRoom r (minutes (load r.id (assigned (packed resources before))) job) = false := by
  obtain ⟨twin, mem, same⟩ := mem_leftOver.mp left
  have here : twin = job := List.inj_on_of_nodup_map ids (mem_sorted mem) (by simp) same
  subst here
  refine ⟨mem, fun r bound => ?_⟩
  rw [load_before distinct bound]
  rw [packed_append] at mem
  rw [List.map_append, List.nodup_append] at ids
  obtain first | last := List.mem_append.mp mem
  · have early := mem_sorted first
    exact absurd rfl (ids.2.2 _ (List.mem_map_of_mem early) twin.id (by simp))
  · apply FirstFit.pack_left last _ r bound
    intro again
    have once := (List.nodup_cons.mp ids.2.1).1
    exact once (List.mem_map_of_mem again)

end Distinct

/-- The schedule is a packing just when first fit leaves nothing over that `__proto__` could take. -/
theorem schedule_packs_iff (sorting : Sorting SchedulingJob) (parse : String → JsNumber) {jobs : List SchedulingJob}
    {resources : List SchedulingResource} (computedAtIso : String) (jobIds : (jobs.map (·.id)).Nodup)
    (resourceIds : (resources.map (·.id)).Nodup)
    (nonneg : ∀ job ∈ jobs, (JsNumber.finite 0).le job.estimatedMinutes = true) :
    Packing jobs (sortedJobs sorting parse jobs) resources (schedule sorting parse jobs resources computedAtIso) ↔
      NoneForProto resources (sortedJobs sorting parse jobs) := by
  have turns : (sortedJobs sorting parse jobs).Perm jobs := sorting.perm _ jobs
  rw [schedule_eq resourceIds]
  generalize sortedJobs sorting parse jobs = sorted at turns
  have ids : (sorted.map (·.id)).Nodup := (turns.map _).nodup_iff.mpr jobIds
  have long : ∀ job ∈ sorted, (JsNumber.finite 0).le job.estimatedMinutes = true :=
    fun job mem => nonneg job (turns.mem_iff.mp mem)
  constructor
  · intro packing proto mem name job left
    obtain ⟨before, after, split⟩ := List.append_of_mem (mem_sorted left)
    have greedy := packing.greedy before job after split (mem_leftOver.mpr ⟨job, left, rfl⟩) proto mem
    rw [split] at ids
    rwa [split, assigned_before ids, name, load_proto] at greedy
  · intro none
    constructor
    · apply assigned_leftOver_perm.trans
      rw [map_fst_packed]
      exact turns.map _
    · intro a mem
      simp only [assigned, List.mem_filterMap, Option.map_eq_some_iff] at mem
      obtain ⟨p, mem, place, at_, rfl⟩ := mem
      exact ⟨⟨place.1, (mem_others.mp (packed_housed p mem place at_)).1, rfl⟩, p.1,
        turns.mem_iff.mp (mem_sorted mem), rfl, rfl⟩
    · intro r mem
      obtain ⟨items, eq, chained, -⟩ := onResource_packed resourceIds mem
      rw [eq]
      exact contiguous_of_chained chained
    · exact fun r mem => packed_disjoint resourceIds long mem
    · exact fun r mem => packed_within resourceIds long mem
    · rintro before job after rfl left r mem
      obtain ⟨spare, others⟩ := greedy_others resourceIds ids left
      rw [assigned_before ids]
      by_cases name : r.id = "__proto__"
      · rw [name, load_proto]
        exact none r mem name job spare
      · exact others r (mem_others.mpr ⟨mem, name⟩)

def inOrder : Sorting SchedulingJob where
  sort compare jobs := jobs.insertionSort fun a b => (compare a b).le (.finite 0)
  perm _ jobs := List.perm_insertionSort _ jobs

def cut (minutes : ℚ) : SchedulingJob := ⟨"cut", "P1", .finite 1, "2026-05-01", .finite minutes, some (.finite 1)⟩
def weld : SchedulingJob := ⟨"weld", "P1", .finite 1, "2026-05-02", .finite 300, some (.finite 0)⟩
def machine (id : String) : SchedulingResource := ⟨id, .finite 480, []⟩

theorem schedule_two :
    Packing [cut 200, weld] [weld, cut 200] [machine "M1"]
      (schedule inOrder (fun _ => .nan) [cut 200, weld] [machine "M1"] "2026-04-30T00:00:00.000Z") := by
  have packs : Packing [cut 200, weld] _ [machine "M1"] _ ↔ _ :=
    schedule_packs_iff inOrder (fun _ => .nan) "2026-04-30T00:00:00.000Z" (by decide) (by decide) (by decide +kernel)
  have order : sortedJobs inOrder (fun _ => .nan) [cut 200, weld] = [weld, cut 200] := by decide +kernel
  rw [order] at packs
  apply packs.mpr
  intro proto mem name
  rw [List.mem_singleton.mp mem] at name
  exact absurd name (by decide)

/-- An idle machine with an unlucky name. -/
theorem schedule_proto :
    ¬ Packing [weld] [weld] [machine "__proto__"]
      (schedule inOrder (fun _ => .nan) [weld] [machine "__proto__"] "2026-04-30T00:00:00.000Z") := by
  intro packing
  have left : weld.id ∈ (schedule inOrder (fun _ => .nan) [weld] [machine "__proto__"]
      "2026-04-30T00:00:00.000Z").unassigned := by
    decide +kernel
  have greedy := packing.greedy [] weld [] rfl left (machine "__proto__") (List.mem_singleton_self _)
  revert greedy
  decide +kernel

end SmartErp.Scheduling
