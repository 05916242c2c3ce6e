import SmartErp.Sales.Quotations
import Mathlib.Data.List.Dedup
import Mathlib.Data.List.Infix
import Mathlib.Data.List.Sort

/-!
# The sales pipeline

`getPipeline` of `sales-pipeline.service.ts`. Dates are days, times milliseconds. `readDate` is how the database
reads a text as a date, `toLowerCase` the method of the language.
-/

namespace SmartErp.Sales.Pipeline
open Foundations Sales.Quotations

abbrev Time := ℤ

inductive PipelineStage where
  | lead
  | qualifying
  | negotiation
  | won
  | delivered
  | lost
  deriving DecidableEq

structure Customer where
  id : Uuid
  tenantId : Uuid
  code : String
  name : String
  deriving DecidableEq

/-- `updatedAt` is never null, so that no other time stands in for it. -/
structure Quotation where
  id : Uuid
  tenantId : Uuid
  quotationNumber : String
  customerId : Uuid
  issueDate : ℤ
  status : QuotationStatus
  totalCents : ℤ
  currency : String
  convertedToSalesOrderId : Option Uuid := none
  updatedAt : Time
  deriving DecidableEq

structure SalesOrder where
  id : Uuid
  tenantId : Uuid
  orderNumber : String
  status : SalesOrderStatus
  deriving DecidableEq

structure ContactActivity where
  id : Uuid
  tenantId : Uuid
  customerId : Uuid
  occurredAt : Time
  deriving DecidableEq

structure Db where
  quotations : Table Quotation.id
  salesOrders : Table SalesOrder.id
  customers : Table Customer.id
  activities : Table ContactActivity.id

structure Scans where
  quotations : Scan Quotation
  activities : Scan (Uuid × Time)

structure PipelineFilters where
  stage : Option (List PipelineStage) := none
  customerId : Option Uuid := none
  customerCodeContains : Option String := none
  periodFrom : Option String := none
  periodTo : Option String := none
  minValueCents : Option JsNumber := none
  maxValueCents : Option JsNumber := none
  ownerId : Option Uuid := none
  currency : Option String := none

inductive DealStatus where
  | quotation (status : QuotationStatus)
  | salesOrder (status : SalesOrderStatus)
  | lead
  deriving DecidableEq

structure PipelineDeal where
  customerId : Uuid
  customerCode : String
  customerName : String
  stage : PipelineStage
  quotationId : Option Uuid := none
  quotationNumber : Option String := none
  salesOrderId : Option Uuid := none
  salesOrderNumber : Option String := none
  valueCents : JsNumber := .finite 0
  currency : String := "EUR"
  status : DealStatus
  issueDate : Option ℤ := none
  lastActivityAt : Option Time
  ageDays : ℤ
  deriving DecidableEq

structure StageTotal where
  count : ℕ
  valueCents : JsNumber
  deriving DecidableEq

structure PipelineSnapshot where
  asOf : Time
  totalsByStage : PipelineStage → StageTotal
  deals : List PipelineDeal

/-! ## The queries -/

/-- A filter that is a text counts where it is not empty. -/
def given (text : Option String) : Option String := text.filter (· ≠ "")

structure Parameters where
  customerId : Option Uuid
  periodFrom : Option ℤ
  periodTo : Option ℤ
  minValueCents : Option ℤ
  maxValueCents : Option ℤ
  currency : Option String

section
variable (readDate : String → Option ℤ)

def dateParam (text : String) : Except Failure ℤ :=
  require (readDate text) (.database s!"invalid input syntax for type date: \"{text}\"")

def optional {α β : Type} (param : α → Except Failure β) : Option α → Except Failure (Option β)
  | none => .ok none
  | some a => (param a).map some

def parameters (filters : PipelineFilters) : Except Failure Parameters := do
  let periodFrom ← optional (dateParam readDate) (given filters.periodFrom)
  let periodTo ← optional (dateParam readDate) (given filters.periodTo)
  let minValueCents ← optional bigintParam filters.minValueCents
  let maxValueCents ← optional bigintParam filters.maxValueCents
  return {
    customerId := filters.customerId
    currency := given filters.currency
    periodFrom, periodTo, minValueCents, maxValueCents }

end

def Parameters.admits (p : Parameters) (q : Quotation) : Bool :=
  p.customerId.all (q.customerId = ·) ∧ p.periodFrom.all (· ≤ q.issueDate) ∧ p.periodTo.all (q.issueDate ≤ ·) ∧
    p.minValueCents.all (· ≤ q.totalCents) ∧ p.maxValueCents.all (q.totalCents ≤ ·) ∧ p.currency.all (q.currency = ·)

def readQuotations (db : Db) (scan : Scan Quotation) (tenantId : Uuid) (p : Parameters) : List Quotation :=
  (scan.order (db.quotations.rows.filter fun q => q.tenantId = tenantId ∧ p.admits q)).insertionSort fun a b =>
    a.customerId < b.customerId ∨ a.customerId = b.customerId ∧ b.issueDate ≤ a.issueDate

def latestQuotationByCustomer (quotations : List Quotation) : Table Quotation.customerId :=
  quotations.foldl (fun latest q => if (latest.find? q.customerId).isSome then latest else latest.save q) ∅

def LEAD_ACTIVITY_LOOKBACK_DAYS : ℤ := 90
def LOST_LOOKBACK_DAYS : ℤ := 90

/-- The customers with an activity since then, each with the time of the last one. -/
def recentActivities (db : Db) (scan : Scan (Uuid × Time)) (tenantId : Uuid) (now : Time) : List (Uuid × Time) :=
  let sinceLead := now - LEAD_ACTIVITY_LOOKBACK_DAYS * 24 * 60 * 60 * 1000
  let recent := db.activities.rows.filter fun a => a.tenantId = tenantId ∧ sinceLead ≤ a.occurredAt
  scan.order ((recent.map (·.customerId)).dedup.filterMap fun customerId =>
    ((recent.filter (·.customerId = customerId)).map (·.occurredAt)).max?.map fun at' => (customerId, at'))

def lastActivityByCustomer (activities : List (Uuid × Time)) : Table (Prod.fst : Uuid × Time → Uuid) :=
  activities.foldl Table.save ∅

/-- `new Set(latestQuotationByCustomer.keys())`, to which the customers with activities are added. -/
def customerIds (latest : Table Quotation.customerId) (activities : List (Uuid × Time)) : List Uuid :=
  activities.foldl (fun ids a => if a.1 ∈ ids then ids else ids ++ [a.1]) (latest.rows.map (·.customerId))

def salesOrderById (db : Db) (tenantId : Uuid) (quotations : List Quotation) : Table SalesOrder.id :=
  db.salesOrders.filter fun so => so.tenantId = tenantId ∧ so.id ∈ quotations.filterMap (·.convertedToSalesOrderId)

/-! ## Deals -/

structure Composition where
  customer : Customer
  quotation : Option Quotation
  salesOrder : Option SalesOrder
  lastActivityAt : Option Time
  nowMs : Time

def stageOf (args : Composition) (q : Quotation) : Option (PipelineStage × Option SalesOrder × DealStatus) :=
  match q.status with
  | .draft | .sent => some (.qualifying, none, .quotation q.status)
  | .revised => some (.negotiation, none, .quotation q.status)
  | .accepted => some (.won, none, .quotation q.status)
  | .converted =>
      match args.salesOrder with
      | some so =>
          if so.status = .shipped ∨ so.status = .invoiced then some (.delivered, some so, .salesOrder so.status)
          else some (.won, some so, .quotation q.status)
      | none => some (.won, none, .quotation q.status)
  | .rejected | .expired =>
      if q.updatedAt < args.nowMs - LOST_LOOKBACK_DAYS * 24 * 60 * 60 * 1000 then none
      else some (.lost, none, .quotation q.status)

def days (ms : Time) : ℤ := ms / (24 * 60 * 60 * 1000)

def composeDeal (args : Composition) : Option PipelineDeal :=
  match args.quotation with
  | none => args.lastActivityAt.map fun lastActivityAt => {
      customerId := args.customer.id
      customerCode := args.customer.code
      customerName := args.customer.name
      stage := .lead
      status := .lead
      lastActivityAt := some lastActivityAt
      ageDays := days (args.nowMs - lastActivityAt) }
  | some q => (stageOf args q).map fun (stage, salesOrder, status) => {
      customerId := args.customer.id
      customerCode := args.customer.code
      customerName := args.customer.name
      stage, status
      quotationId := some q.id
      quotationNumber := some q.quotationNumber
      salesOrderId := salesOrder.map (·.id)
      salesOrderNumber := salesOrder.map (·.orderNumber)
      valueCents := (JsNumber.finite q.totalCents).double
      currency := q.currency
      issueDate := some q.issueDate
      lastActivityAt := args.lastActivityAt
      ageDays := days (args.nowMs - args.lastActivityAt.getD q.updatedAt) }

section
variable (toLowerCase : String → String)

def includes (s t : String) : Bool := t.toList <:+: s.toList

def codeMatches (filters : PipelineFilters) (code : String) : Bool :=
  (given filters.customerCodeContains).all fun text => includes (toLowerCase code) (toLowerCase text)

def passes (filters : PipelineFilters) (deal : PipelineDeal) : Bool :=
  filters.minValueCents.all (fun least => !deal.valueCents.lt least) ∧
    filters.maxValueCents.all (fun most => !most.lt deal.valueCents) ∧
      (given filters.currency).all (deal.currency = ·) ∧
        (filters.stage.filter (· ≠ [])).all (deal.stage ∈ ·)

/-- Most recent activity first, ties broken by largest value. -/
def before (a b : PipelineDeal) : Bool :=
  b.lastActivityAt.getD 0 < a.lastActivityAt.getD 0 ∨
    b.lastActivityAt.getD 0 = a.lastActivityAt.getD 0 ∧ b.valueCents.le a.valueCents

def noTotals : PipelineStage → StageTotal := fun _ => ⟨0, .finite 0⟩

def totals (deals : List PipelineDeal) : PipelineStage → StageTotal :=
  deals.foldl (fun totals d => Function.update totals d.stage
    ⟨(totals d.stage).count + 1, (totals d.stage).valueCents.plus d.valueCents⟩) noTotals

variable (readDate : String → Option ℤ)

/-- Steps 3 to 5: the deals of the customers `ids`. -/
def composeDeals (db : Db) (tenantId : Uuid) (now : Time) (filters : PipelineFilters) (quotations : List Quotation)
    (activities : List (Uuid × Time)) (ids : List Uuid) : List PipelineDeal :=
  let latest := latestQuotationByCustomer quotations
  let customerById := db.customers.filter fun c => c.tenantId = tenantId ∧ c.id ∈ ids
  let salesOrders := salesOrderById db tenantId quotations
  ids.filterMap fun customerId => do
    let customer ← (customerById.find? customerId).filter (codeMatches toLowerCase filters ·.code)
    let q := latest.find? customerId
    let deal ← composeDeal {
      customer
      quotation := q
      salesOrder := (q.bind (·.convertedToSalesOrderId)).bind salesOrders.find?
      lastActivityAt := ((lastActivityByCustomer activities).find? customerId).map (·.2)
      nowMs := now }
    if passes filters deal then some deal else none

def getPipeline (db : Db) (scans : Scans) (tenantId : Uuid) (now : Time) (filters : PipelineFilters) :
    Except Failure PipelineSnapshot := do
  let p ← parameters readDate filters
  let quotations := readQuotations db scans.quotations tenantId p
  let activities := recentActivities db scans.activities tenantId now
  let ids := customerIds (latestQuotationByCustomer quotations) activities
  if ids = [] then return ⟨now, noTotals, []⟩
  let deals := (composeDeals toLowerCase db tenantId now filters quotations activities ids).insertionSort
    fun a b => before a b
  return ⟨now, totals deals, deals⟩

/-! ## The law -/

/-- A deal without a quotation has no period. -/
def inPeriod (filters : PipelineFilters) (deal : PipelineDeal) : Bool :=
  deal.issueDate.all fun issueDate => ((given filters.periodFrom).bind readDate).all (· ≤ issueDate) ∧
    ((given filters.periodTo).bind readDate).all (issueDate ≤ ·)

def satisfies (filters : PipelineFilters) (deal : PipelineDeal) : Bool :=
  filters.customerId.all (deal.customerId = ·) ∧ codeMatches toLowerCase filters deal.customerCode ∧
    inPeriod readDate filters deal ∧ passes filters deal

def valuesOf (deals : List PipelineDeal) (stage : PipelineStage) : List JsNumber :=
  (deals.filter (·.stage = stage)).map (·.valueCents)

/-- The sum is the one of the language, which is exact below `2 ^ 53`. -/
structure Totalled (snapshot : PipelineSnapshot) (stage : PipelineStage) : Prop where
  count : (snapshot.totalsByStage stage).count = (valuesOf snapshot.deals stage).length
  valueCents : (snapshot.totalsByStage stage).valueCents =
    (valuesOf snapshot.deals stage).foldl JsNumber.plus (.finite 0)
  exact : ∀ zs : List ℤ, valuesOf snapshot.deals stage = zs.map (fun z => .finite (z : ℚ)) →
    (zs.map (|·|)).sum < 2 ^ 53 → (snapshot.totalsByStage stage).valueCents = .finite (zs.sum : ℤ)

structure Narrows (filters : PipelineFilters) (snapshot unfiltered : PipelineSnapshot) : Prop where
  deals : snapshot.deals.Perm (unfiltered.deals.filter (satisfies toLowerCase readDate filters))
  totals : ∀ stage, Totalled snapshot stage

variable (db : Db) (scans : Scans) (tenantId : Uuid) (now : Time)

def latest (p : Parameters) (customerId : Uuid) : Option Quotation :=
  (readQuotations db scans.quotations tenantId p).find? (·.customerId = customerId)

def dealOf (customer : Customer) (quotation : Option Quotation) : Option PipelineDeal :=
  composeDeal {
    customer, quotation
    salesOrder := (quotation.bind (·.convertedToSalesOrderId)).bind fun id =>
      (db.salesOrders.find? id).filter (·.tenantId = tenantId)
    lastActivityAt := ((lastActivityByCustomer (recentActivities db scans.activities tenantId now)).find?
      customer.id).map (·.2)
    nowMs := now }

def unbounded : Parameters := ⟨none, none, none, none, none, none⟩

/-- The query returns the latest quotation of the customer, or neither it nor what takes its place passes the
filters; and a lead is of the customer that is asked for, or does not pass them. -/
structure Stable (filters : PipelineFilters) (p : Parameters) (customer : Customer) : Prop where
  quotation : latest db scans tenantId p customer.id ≠ latest db scans tenantId unbounded customer.id →
    (∀ d, dealOf db scans tenantId now customer (latest db scans tenantId p customer.id) = some d →
      ¬ (codeMatches toLowerCase filters d.customerCode ∧ passes filters d)) ∧
    ∀ d, dealOf db scans tenantId now customer (latest db scans tenantId unbounded customer.id) = some d →
      ¬ satisfies toLowerCase readDate filters d
  lead : latest db scans tenantId unbounded customer.id = none → ¬ filters.customerId.all (customer.id = ·) →
    ∀ d, dealOf db scans tenantId now customer none = some d →
      ¬ (codeMatches toLowerCase filters d.customerCode ∧ passes filters d)

variable {db scans tenantId now} {p : Parameters} {filters : PipelineFilters}

/-! ## Customers -/

theorem find?_latestQuotation (quotations : List Quotation) (customerId : Uuid) :
    (latestQuotationByCustomer quotations).find? customerId = quotations.find? (·.customerId = customerId) := by
  have general (seen : Table Quotation.customerId) :
      (quotations.foldl (fun latest q => if (latest.find? q.customerId).isSome then latest else latest.save q)
        seen).find?
        customerId = (seen.find? customerId).or (quotations.find? (·.customerId = customerId)) := by
    induction quotations generalizing seen with
    | nil => simp
    | cons q rest ih =>
        rw [List.foldl_cons, ih, List.find?_cons]
        by_cases here : q.customerId = customerId
        · subst here
          cases found : seen.find? q.customerId <;> simp [found]
        · rw [decide_eq_false here]
          split_ifs
          · rfl
          · rw [Table.find?_save_of_ne seen here]
  rw [latestQuotationByCustomer, general, Table.find?_empty, Option.none_or]

theorem find?_lastActivity {activities : List (Uuid × Time)} {customerId : Uuid} :
    ((lastActivityByCustomer activities).find? customerId).isSome ↔ customerId ∈ activities.map (·.1) := by
  have general (seen : Table (Prod.fst : Uuid × Time → Uuid)) :
      ((activities.foldl Table.save seen).find? customerId).isSome ↔
        (seen.find? customerId).isSome ∨ customerId ∈ activities.map (·.1) := by
    induction activities generalizing seen with
    | nil => simp
    | cons a rest ih =>
        rw [List.foldl_cons, ih, Table.find?_save, List.map_cons, List.mem_cons]
        by_cases here : a.1 = customerId
        · simp [here]
        · have other : customerId ≠ a.1 := fun same => here same.symm
          simp [here, other]
  rw [lastActivityByCustomer, general]
  simp

theorem mem_customerIds {latest : Table Quotation.customerId} {activities : List (Uuid × Time)} :
    (customerIds latest activities).Nodup ∧ ∀ customerId, customerId ∈ customerIds latest activities ↔
      (latest.find? customerId).isSome ∨ customerId ∈ activities.map (·.1) := by
  have general (ids : List Uuid) (nodup : ids.Nodup) :
      (activities.foldl (fun ids a => if a.1 ∈ ids then ids else ids ++ [a.1]) ids).Nodup ∧ ∀ customerId,
        customerId ∈ activities.foldl (fun ids a => if a.1 ∈ ids then ids else ids ++ [a.1]) ids ↔
          customerId ∈ ids ∨ customerId ∈ activities.map (·.1) := by
    induction activities generalizing ids with
    | nil => exact ⟨nodup, fun _ => by simp⟩
    | cons a rest ih =>
        rw [List.foldl_cons]
        split_ifs with there
        · obtain ⟨distinct, mem⟩ := ih ids nodup
          refine ⟨distinct, fun customerId => ?_⟩
          rw [mem, List.map_cons, List.mem_cons]
          have known : customerId = a.1 → customerId ∈ ids := fun same => same ▸ there
          tauto
        · have longer : (ids ++ [a.1]).Nodup := by
            rw [← List.concat_eq_append]
            exact nodup.concat there
          obtain ⟨distinct, mem⟩ := ih (ids ++ [a.1]) longer
          refine ⟨distinct, fun customerId => ?_⟩
          rw [mem, List.map_cons, List.mem_cons, List.mem_append, List.mem_singleton, or_assoc]
  obtain ⟨nodup, mem⟩ := general (latest.rows.map (·.customerId)) latest.nodup
  refine ⟨nodup, fun customerId => ?_⟩
  rw [customerIds, mem, Table.find?, List.find?_isSome]
  simp

theorem find?_salesOrder {quotations : List Quotation} {q : Quotation} (mem : q ∈ quotations) :
    q.convertedToSalesOrderId.bind (salesOrderById db tenantId quotations).find? =
      q.convertedToSalesOrderId.bind fun id => (db.salesOrders.find? id).filter (·.tenantId = tenantId) := by
  cases converted : q.convertedToSalesOrderId with
  | none => rfl
  | some id =>
      have there : id ∈ quotations.filterMap (·.convertedToSalesOrderId) := List.mem_filterMap.mpr ⟨q, mem, converted⟩
      rw [Option.bind_some, Option.bind_some, salesOrderById, Table.find?_filter]
      cases found : db.salesOrders.find? id with
      | none => rfl
      | some so =>
          have here : so.id = id := Table.key_of_find? found
          simp only [Option.filter_some, here, there, and_true]

/-! ## The deals -/

theorem composeDeal_some {args : Composition} {d : PipelineDeal} (composed : composeDeal args = some d) :
    d.customerId = args.customer.id ∧ d.customerCode = args.customer.code ∧
      d.quotationId = args.quotation.map (·.id) ∧ d.issueDate = args.quotation.map (·.issueDate) ∧
        (args.quotation.isSome ∨ args.lastActivityAt.isSome) := by
  unfold composeDeal at composed
  cases quotation : args.quotation with
  | none =>
      rw [quotation] at composed
      obtain ⟨lastActivityAt, active, rfl⟩ := Option.map_eq_some_iff.mp composed
      exact ⟨rfl, rfl, rfl, rfl, .inr (by simp [active])⟩
  | some q =>
      rw [quotation] at composed
      obtain ⟨⟨stage, salesOrder, status⟩, -, rfl⟩ := Option.map_eq_some_iff.mp composed
      exact ⟨rfl, rfl, rfl, rfl, .inl rfl⟩

theorem latest_mem {customerId : Uuid} {q : Quotation} (found : latest db scans tenantId p customerId = some q) :
    q ∈ readQuotations db scans.quotations tenantId p ∧ q.customerId = customerId :=
  ⟨List.mem_of_find?_eq_some found, by simpa using List.find?_some found⟩

theorem mem_readQuotations {scan : Scan Quotation} {q : Quotation} : q ∈ readQuotations db scan tenantId p ↔
    q ∈ db.quotations.rows ∧ q.tenantId = tenantId ∧ p.admits q = true := by
  rw [readQuotations, List.mem_insertionSort, scan.mem, List.mem_filter, decide_eq_true_eq]

theorem composeDeal_eq (customer : Customer) : composeDeal {
    customer
    quotation := (latestQuotationByCustomer (readQuotations db scans.quotations tenantId p)).find? customer.id
    salesOrder := (((latestQuotationByCustomer (readQuotations db scans.quotations tenantId p)).find? customer.id).bind
      (·.convertedToSalesOrderId)).bind
        (salesOrderById db tenantId (readQuotations db scans.quotations tenantId p)).find?
    lastActivityAt := ((lastActivityByCustomer (recentActivities db scans.activities tenantId now)).find?
      customer.id).map (·.2)
    nowMs := now } = dealOf db scans tenantId now customer (latest db scans tenantId p customer.id) := by
  rw [find?_latestQuotation]
  change _ = composeDeal _
  cases found : latest db scans tenantId p customer.id with
  | none =>
      rw [latest] at found
      rw [found]
      rfl
  | some q =>
      have order := @find?_salesOrder db tenantId _ _ (latest_mem found).1
      rw [latest] at found
      rw [found, Option.bind_some, order]

variable {toLowerCase readDate}

/-- The deals of `getPipeline`, in the order of the customers. -/
def unsortedDeals (toLowerCase : String → String) (db : Db) (scans : Scans) (tenantId : Uuid) (now : Time)
    (filters : PipelineFilters) (p : Parameters) : List PipelineDeal :=
  composeDeals toLowerCase db tenantId now filters (readQuotations db scans.quotations tenantId p)
    (recentActivities db scans.activities tenantId now)
    (customerIds (latestQuotationByCustomer (readQuotations db scans.quotations tenantId p))
      (recentActivities db scans.activities tenantId now))

theorem mem_unsortedDeals {d : PipelineDeal} : d ∈ unsortedDeals toLowerCase db scans tenantId now filters p ↔
    ∃ customer ∈ db.customers.rows, customer.tenantId = tenantId ∧
      dealOf db scans tenantId now customer (latest db scans tenantId p customer.id) = some d ∧
        codeMatches toLowerCase filters d.customerCode = true ∧ passes filters d = true := by
  set ids := customerIds (latestQuotationByCustomer (readQuotations db scans.quotations tenantId p))
    (recentActivities db scans.activities tenantId now) with hids
  have known (customerId : Uuid) := (@mem_customerIds (latestQuotationByCustomer
    (readQuotations db scans.quotations tenantId p)) (recentActivities db scans.activities tenantId now)).2 customerId
  rw [unsortedDeals, composeDeals, List.mem_filterMap]
  simp only [Option.bind_eq_bind, Option.bind_eq_some_iff, Table.find?_filter, Option.filter_eq_some_iff,
    Bool.decide_and, Bool.and_eq_true, decide_eq_true_eq, Option.ite_none_right_eq_some, Option.some.injEq]
  constructor
  · rintro ⟨customerId, there, customer, ⟨⟨found, tenant, -⟩, code⟩, deal, composed, pass, rfl⟩
    obtain rfl : customer.id = customerId := Table.key_of_find? found
    rw [composeDeal_eq] at composed
    refine ⟨customer, Table.mem_of_find? found, tenant, composed, ?_, pass⟩
    rw [(composeDeal_some composed).2.1]
    exact code
  · rintro ⟨customer, mem, tenant, composed, code, pass⟩
    obtain ⟨-, customerCode, -, -, reason⟩ := composeDeal_some composed
    have there : customer.id ∈ ids := by
      rw [hids, known, find?_latestQuotation]
      obtain quoted | active := reason
      · exact .inl quoted
      · rw [Option.isSome_map, find?_lastActivity] at active
        exact .inr active
    rw [customerCode] at code
    rw [← composeDeal_eq] at composed
    exact ⟨customer.id, there, customer, ⟨⟨Table.find?_of_mem mem, tenant, there⟩, code⟩, d, composed, pass, rfl⟩

theorem composeDeals_nodup (quotations : List Quotation) (activities : List (Uuid × Time)) {ids : List Uuid}
    (nodup : ids.Nodup) : (composeDeals toLowerCase db tenantId now filters quotations activities ids).Nodup := by
  rw [composeDeals]
  apply nodup.filterMap
  intro customerId customerId' d shown shown'
  -- A deal names its customer.
  have named (id : Uuid) (customers : Table Customer.id) (q : Customer → Composition)
      (own : ∀ customer, (q customer).customer = customer)
      (shows : ((customers.find? id).filter (codeMatches toLowerCase filters ·.code)).bind (fun customer =>
        (composeDeal (q customer)).bind fun deal => if passes filters deal then some deal else none) = some d) :
      d.customerId = id := by
    simp only [Option.bind_eq_some_iff, Option.filter_eq_some_iff, Option.ite_none_right_eq_some,
      Option.some.injEq] at shows
    obtain ⟨customer, ⟨found, -⟩, deal, composed, -, rfl⟩ := shows
    rw [(composeDeal_some composed).1, own]
    exact Table.key_of_find? found
  exact (named customerId _ _ (fun _ => rfl) shown).symm.trans (named customerId' _ _ (fun _ => rfl) shown')

theorem totals_eq (deals : List PipelineDeal) (stage : PipelineStage) : totals deals stage =
    ⟨(valuesOf deals stage).length, (valuesOf deals stage).foldl JsNumber.plus (.finite 0)⟩ := by
  have general (start : PipelineStage → StageTotal) :
      deals.foldl (fun totals d => Function.update totals d.stage
        ⟨(totals d.stage).count + 1, (totals d.stage).valueCents.plus d.valueCents⟩) start stage =
      ⟨(start stage).count + (valuesOf deals stage).length,
        (valuesOf deals stage).foldl JsNumber.plus (start stage).valueCents⟩ := by
    induction deals generalizing start with
    | nil => rfl
    | cons d rest ih =>
        rw [List.foldl_cons, ih]
        by_cases here : d.stage = stage
        · subst here
          simp [valuesOf, add_assoc, add_comm 1]
        · simp [valuesOf, here, Ne.symm here]
  rw [totals, general]
  simp [noTotals]

theorem totalled (deals : List PipelineDeal) (stage : PipelineStage) : Totalled ⟨now, totals deals, deals⟩ stage where
  count := congrArg StageTotal.count (totals_eq deals stage)
  valueCents := congrArg StageTotal.valueCents (totals_eq deals stage)
  exact := by
    intro zs values safe
    have sum := congrArg StageTotal.valueCents (totals_eq deals stage)
    have start : |(0 : ℤ)| + (zs.map (|·|)).sum < 2 ^ 53 := by simpa using safe
    have plus := JsNumber.foldl_plus_safe start
    rw [values] at sum
    simpa using sum.trans (by simpa using plus)

theorem getPipeline_eq : getPipeline toLowerCase readDate db scans tenantId now filters =
    (parameters readDate filters).map fun p =>
      let deals := (unsortedDeals toLowerCase db scans tenantId now filters p).insertionSort fun a b => before a b
      ⟨now, totals deals, deals⟩ := by
  rw [getPipeline]
  cases parameters readDate filters with
  | error failure => rfl
  | ok p =>
      simp only [Except.map, unsortedDeals]
      change (if _ then _ else _) = _
      split_ifs with empty
      · rw [empty]
        rfl
      · rfl

theorem parameters_none : parameters readDate {} = .ok unbounded := rfl

theorem passes_none (d : PipelineDeal) : codeMatches toLowerCase {} d.customerCode = true ∧ passes {} d = true := by
  simp [codeMatches, passes, given]

/-! ## The filters -/

theorem optional_eq {α β : Type} {param : α → Except Failure β} {read : α → Option β} {text : Option α}
    {value : Option β} (reads : ∀ a b, param a = .ok b → read a = some b) (ok : optional param text = .ok value) :
    text.bind read = value := by
  cases text with
  | none => simpa [optional] using ok
  | some a =>
      rw [optional] at ok
      cases given : param a with
      | error failure => simp [given, Except.map] at ok
      | ok b =>
          rw [given] at ok
          have same : some b = value := by simpa [Except.map] using ok
          rw [Option.bind_some, reads a b given, same]

theorem dateParam_ok {text : String} {day : ℤ} (ok : dateParam readDate text = .ok day) : readDate text = some day := by
  rw [dateParam] at ok
  cases read : readDate text with
  | none => simp [read, require] at ok
  | some d => simpa [read, require] using ok

theorem parameters_ok (ok : parameters readDate filters = .ok p) : p.customerId = filters.customerId ∧
    (given filters.periodFrom).bind readDate = p.periodFrom ∧ (given filters.periodTo).bind readDate = p.periodTo := by
  rw [parameters] at ok
  cases source : optional (dateParam readDate) (given filters.periodFrom) with
  | error failure => simp [source, bind, Except.bind] at ok
  | ok periodFrom =>
    cases target : optional (dateParam readDate) (given filters.periodTo) with
    | error failure => simp [source, target, bind, Except.bind] at ok
    | ok periodTo =>
      have reads := fun text day => @dateParam_ok readDate text day
      rw [source, target] at ok
      cases least : optional bigintParam filters.minValueCents with
      | error failure => simp [least, bind, Except.bind] at ok
      | ok minValueCents =>
        cases most : optional bigintParam filters.maxValueCents with
        | error failure => simp [least, most, bind, Except.bind] at ok
        | ok maxValueCents =>
          rw [least, most] at ok
          obtain rfl := Except.ok.inj ok
          exact ⟨rfl, optional_eq reads source, optional_eq reads target⟩

/-- The deal of the customer is the same with the filters as without them, where it passes them. -/
def Agrees (db : Db) (scans : Scans) (tenantId : Uuid) (now : Time) (toLowerCase : String → String)
    (readDate : String → Option ℤ) (filters : PipelineFilters) (p : Parameters) (customer : Customer) : Prop :=
  ∀ d, dealOf db scans tenantId now customer (latest db scans tenantId p customer.id) = some d ∧
      codeMatches toLowerCase filters d.customerCode = true ∧ passes filters d = true ↔
    dealOf db scans tenantId now customer (latest db scans tenantId unbounded customer.id) = some d ∧
      satisfies toLowerCase readDate filters d = true

theorem latest_inj {customerId : Uuid} {p' : Parameters}
    (same : (latest db scans tenantId p customerId).map (·.id) = (latest db scans tenantId p' customerId).map (·.id)) :
    latest db scans tenantId p customerId = latest db scans tenantId p' customerId := by
  cases found : latest db scans tenantId p customerId with
  | none => rw [found] at same; exact (Option.map_eq_none_iff.mp same.symm).symm
  | some q =>
      rw [found] at same
      obtain ⟨q', found', ids⟩ := Option.map_eq_some_iff.mp same.symm
      have mem := (mem_readQuotations.mp (latest_mem found).1).1
      have mem' := (mem_readQuotations.mp (latest_mem found').1).1
      have unique := Table.find?_of_mem mem
      have ids : q'.id = q.id := ids
      rw [← ids, Table.find?_of_mem mem'] at unique
      rw [found', Option.some.inj unique]

theorem latest_unbounded {customerId : Uuid} (none' : latest db scans tenantId unbounded customerId = none) :
    latest db scans tenantId p customerId = none := by
  rw [latest, List.find?_eq_none] at none' ⊢
  intro q mem
  obtain ⟨there, tenant, -⟩ := mem_readQuotations.mp mem
  exact none' q (mem_readQuotations.mpr ⟨there, tenant, by simp [Parameters.admits, unbounded]⟩)

theorem satisfies_quotation (ok : parameters readDate filters = .ok p) {customer : Customer} {q : Quotation}
    (found : latest db scans tenantId p customer.id = some q) {d : PipelineDeal}
    (composed : dealOf db scans tenantId now customer (some q) = some d) :
    satisfies toLowerCase readDate filters d = true ↔
      codeMatches toLowerCase filters d.customerCode = true ∧ passes filters d = true := by
  obtain ⟨customerId, periodFrom, periodTo⟩ := parameters_ok ok
  obtain ⟨mem, own⟩ := latest_mem found
  obtain ⟨-, -, admitted⟩ := mem_readQuotations.mp mem
  obtain ⟨named, -, -, issued, -⟩ := composeDeal_some composed
  have issued : d.issueDate = some q.issueDate := issued
  have named : d.customerId = customer.id := named
  rw [Parameters.admits] at admitted
  simp only [decide_eq_true_eq, customerId, own] at admitted
  obtain ⟨asked, source, target, -⟩ := admitted
  simp [satisfies, inPeriod, issued, named, asked, source, target, periodFrom, periodTo]

theorem satisfies_lead {customer : Customer} {d : PipelineDeal}
    (composed : dealOf db scans tenantId now customer none = some d) :
    satisfies toLowerCase readDate filters d = true ↔ filters.customerId.all (customer.id = ·) = true ∧
      codeMatches toLowerCase filters d.customerCode = true ∧ passes filters d = true := by
  obtain ⟨named, -, -, issued, -⟩ := composeDeal_some composed
  have issued : d.issueDate = none := issued
  have named : d.customerId = customer.id := named
  simp [satisfies, inPeriod, issued, named]

theorem agrees_iff (ok : parameters readDate filters = .ok p) (customer : Customer) :
    Agrees db scans tenantId now toLowerCase readDate filters p customer ↔
      Stable toLowerCase readDate db scans tenantId now filters p customer := by
  by_cases same : latest db scans tenantId p customer.id = latest db scans tenantId unbounded customer.id
  · rw [Agrees, same]
    cases newest : latest db scans tenantId unbounded customer.id with
    | some q =>
        have found := same.trans newest
        refine ⟨fun _ => ⟨fun other => absurd same other, fun lead => ?_⟩, fun _ d => ?_⟩
        · rw [newest] at lead
          cases lead
        · exact and_congr_right fun composed => (satisfies_quotation ok found composed).symm
    | none =>
        constructor
        · intro agrees
          refine ⟨fun other => absurd same other, fun _ another d composed shown => another ?_⟩
          exact ((satisfies_lead composed).mp ((agrees d).mp ⟨composed, shown⟩).2).1
        · intro stable d
          refine and_congr_right fun composed => ?_
          rw [satisfies_lead composed]
          refine ⟨fun shown => ⟨?_, shown⟩, fun shown => shown.2⟩
          by_contra another
          exact stable.lead newest another d composed shown
  · have differ (d : PipelineDeal) (composed : dealOf db scans tenantId now customer
        (latest db scans tenantId p customer.id) = some d) : dealOf db scans tenantId now customer
          (latest db scans tenantId unbounded customer.id) ≠ some d := by
      intro composed'
      have ids := (composeDeal_some composed).2.2.1.symm.trans (composeDeal_some composed').2.2.1
      exact same (latest_inj ids)
    constructor
    · intro agrees
      refine ⟨fun _ => ⟨fun d composed shown => ?_, fun d composed shown => ?_⟩, fun lead => ?_⟩
      · exact differ d composed ((agrees d).mp ⟨composed, shown⟩).1
      · exact differ d ((agrees d).mpr ⟨composed, shown⟩).1 composed
      · exact absurd ((latest_unbounded lead).trans lead.symm) same
    · intro stable d
      obtain ⟨hidden, hidden'⟩ := stable.quotation same
      exact iff_of_false (fun shown => hidden d shown.1 shown.2) fun shown => hidden' d shown.1 shown.2

theorem customer_eq {customer customer' : Customer} {q q' : Option Quotation} {d : PipelineDeal}
    (mem : customer ∈ db.customers.rows) (mem' : customer' ∈ db.customers.rows)
    (composed : dealOf db scans tenantId now customer q = some d)
    (composed' : dealOf db scans tenantId now customer' q' = some d) : customer = customer' := by
  have ids : customer.id = customer'.id := (composeDeal_some composed).1.symm.trans (composeDeal_some composed').1
  have found := Table.find?_of_mem mem
  rw [ids, Table.find?_of_mem mem'] at found
  exact (Option.some.inj found).symm

theorem narrows_iff (ok : parameters readDate filters = .ok p) :
    (∃ snapshot unfiltered, getPipeline toLowerCase readDate db scans tenantId now filters = .ok snapshot ∧
      getPipeline toLowerCase readDate db scans tenantId now {} = .ok unfiltered ∧
        Narrows toLowerCase readDate filters snapshot unfiltered) ↔
      ∀ customer ∈ db.customers.rows, customer.tenantId = tenantId →
        Agrees db scans tenantId now toLowerCase readDate filters p customer := by
  have shows : getPipeline toLowerCase readDate db scans tenantId now filters = _ := getPipeline_eq
  have unfiltered : getPipeline toLowerCase readDate db scans tenantId now {} = _ := getPipeline_eq
  rw [ok] at shows
  rw [parameters_none] at unfiltered
  simp only [shows, unfiltered, Except.map, Except.ok.injEq, exists_eq_left', ↓existsAndEq, true_and]
  set deals := unsortedDeals toLowerCase db scans tenantId now filters p with hdeals
  set all := unsortedDeals toLowerCase db scans tenantId now {} unbounded with hall
  have perm : (deals.insertionSort fun a b => before a b).Perm
      ((all.insertionSort fun a b => before a b).filter (satisfies toLowerCase readDate filters)) ↔
        ∀ d, d ∈ deals ↔ d ∈ all ∧ satisfies toLowerCase readDate filters d = true := by
    have sorted := (List.perm_insertionSort (fun a b : PipelineDeal => before a b = true) deals)
    have sorted' := (List.perm_insertionSort (fun a b : PipelineDeal => before a b = true) all).filter
      (satisfies toLowerCase readDate filters)
    have nodup : deals.Nodup := composeDeals_nodup _ _ mem_customerIds.1
    have nodup' : all.Nodup := composeDeals_nodup _ _ mem_customerIds.1
    rw [sorted.congr_left, sorted'.congr_right, List.perm_ext_iff_of_nodup nodup (nodup'.filter _)]
    simp only [List.mem_filter]
  constructor
  · intro narrowed customer mem tenant d
    have shown := perm.mp narrowed.deals d
    rw [hdeals, hall, mem_unsortedDeals, mem_unsortedDeals] at shown
    constructor
    · rintro ⟨composed, passed⟩
      obtain ⟨⟨customer', mem', -, composed', -⟩, satisfied⟩ := shown.mp ⟨customer, mem, tenant, composed, passed⟩
      rw [customer_eq mem mem' composed composed']
      exact ⟨composed', satisfied⟩
    · rintro ⟨composed, satisfied⟩
      obtain ⟨customer', mem', -, composed', passed⟩ :=
        shown.mpr ⟨⟨customer, mem, tenant, composed, passes_none d⟩, satisfied⟩
      rw [customer_eq mem mem' composed composed']
      exact ⟨composed', passed⟩
  · intro agrees
    refine ⟨perm.mpr fun d => ?_, fun stage => totalled _ stage⟩
    rw [hdeals, hall, mem_unsortedDeals, mem_unsortedDeals]
    constructor
    · rintro ⟨customer, mem, tenant, shown⟩
      obtain ⟨composed, satisfied⟩ := (agrees customer mem tenant d).mp shown
      exact ⟨⟨customer, mem, tenant, composed, passes_none d⟩, satisfied⟩
    · rintro ⟨⟨customer, mem, tenant, composed, -⟩, satisfied⟩
      exact ⟨customer, mem, tenant, (agrees customer mem tenant d).mpr ⟨composed, satisfied⟩⟩

theorem narrows (toLowerCase : String → String) (readDate : String → Option ℤ) (db : Db) (scans : Scans)
    (tenantId : Uuid) (now : Time) (filters : PipelineFilters) :
    (∃ snapshot unfiltered, getPipeline toLowerCase readDate db scans tenantId now filters = .ok snapshot ∧
      getPipeline toLowerCase readDate db scans tenantId now {} = .ok unfiltered ∧
        Narrows toLowerCase readDate filters snapshot unfiltered) ↔
      ∃ p, parameters readDate filters = .ok p ∧ ∀ customer ∈ db.customers.rows, customer.tenantId = tenantId →
        Stable toLowerCase readDate db scans tenantId now filters p customer := by
  cases ok : parameters readDate filters with
  | error failure =>
      constructor
      · rintro ⟨snapshot, unfiltered, shown, -⟩
        simp [getPipeline_eq, ok, Except.map] at shown
      · rintro ⟨p, impossible, -⟩
        cases impossible
  | ok p =>
      rw [narrows_iff ok]
      simp only [agrees_iff ok, Except.ok.injEq, exists_eq_left']

end

/-- Of two customers the second has an accepted quotation and an activity of the last day. -/
def sampleDb : Db where
  quotations := (∅ : Table Quotation.id).save {
    id := 7, tenantId := 1, quotationNumber := "Q-2026-0007", customerId := 3, issueDate := 20570, status := .accepted
    totalCents := 120000, currency := "EUR", updatedAt := 1777248000000 }
  salesOrders := ∅
  customers := ((∅ : Table Customer.id).save ⟨2, 1, "C-A", "Cliente A srl"⟩).save ⟨3, 1, "C-B", "Cliente B srl"⟩
  activities := (∅ : Table ContactActivity.id).save ⟨9, 1, 3, 1777248000000⟩

/-- The filter for the first customer shows the second, as a lead. -/
theorem narrows_not : ¬ ∃ snapshot unfiltered,
    let now : Time := 1777334400000
    let scans : Scans := ⟨.inOrder, .inOrder⟩
    let filters : PipelineFilters := { customerId := some 2 }
    getPipeline id (fun _ => none) sampleDb scans 1 now filters = .ok snapshot ∧
      getPipeline id (fun _ => none) sampleDb scans 1 now {} = .ok unfiltered ∧
        Narrows id (fun _ => none) filters snapshot unfiltered := by
  rintro ⟨snapshot, unfiltered, shown, -, narrowed⟩
  let lead : PipelineDeal := {
    customerId := 3, customerCode := "C-B", customerName := "Cliente B srl", stage := .lead, status := .lead
    lastActivityAt := some 1777248000000, ageDays := 1 }
  have deals : getPipeline id (fun _ => none) sampleDb ⟨.inOrder, .inOrder⟩ 1 1777334400000 { customerId := some 2 } =
      .ok ⟨1777334400000, totals [lead], [lead]⟩ := rfl
  obtain rfl := Except.ok.inj (deals.symm.trans shown)
  have there := narrowed.deals.mem_iff.mp (List.mem_singleton_self lead)
  have satisfied := (List.mem_filter.mp there).2
  simp [satisfies, lead] at satisfied

end SmartErp.Sales.Pipeline
