import SmartErp.Failure

/-!
# The tenant a request names

The guard compares the tenant of the token with every tenant that the path, the query string, the body or
the header `X-Tenant-ID` names.
-/

namespace SmartErp.Auth.TenantScopeGuard
open Foundations

/-- What a parser delivers under a key; `other` stands for what is neither a string nor an array of them. -/
inductive Field where
  | absent
  | string (value : String)
  | strings (values : List String)
  | other

def Field.supplied : Field → List String
  | string value => [value]
  | strings values => values
  | absent | other => []

/-- `typeof field === 'string'` -/
def Field.ofTypeString : Field → List String
  | string value => [value]
  | absent | strings _ | other => []

theorem Field.ofTypeString_subset (field : Field) : field.ofTypeString ⊆ field.supplied := by
  cases field <;> simp [ofTypeString, supplied]

structure Fields where
  tenantId : Field
  tenant_id : Field

def Fields.all (fields : Fields) : List Field := [fields.tenantId, fields.tenant_id]

structure User where
  tenantId : Option String

structure Request where
  user : Option User
  header : Option String
  query : Fields
  params : Fields
  body : Fields
  method : String
  originalUrl : String

namespace Request

def fields (request : Request) : List Field := request.query.all ++ request.params.all ++ request.body.all

def supplied (request : Request) : List String := request.header.toList ++ request.fields.flatMap Field.supplied

def single (request : Request) : List String := request.header.toList ++ request.fields.flatMap Field.ofTypeString

theorem single_subset (request : Request) : request.single ⊆ request.supplied := by
  intro value mem
  obtain header | ⟨field, here, given⟩ := by simpa [single] using mem
  · simp [supplied, header]
  · simp only [supplied, List.mem_append, List.mem_flatMap]
    exact .inr ⟨field, here, field.ofTypeString_subset given⟩

def collectClaimedTenantIds (request : Request) : List String :=
  request.header.toList.filter (· ≠ "") ++
    (request.query.tenantId.ofTypeString ++ request.query.tenant_id.ofTypeString ++
      request.params.tenantId.ofTypeString ++ request.params.tenant_id.ofTypeString ++
      request.body.tenantId.ofTypeString ++ request.body.tenant_id.ofTypeString)

theorem mem_collectClaimedTenantIds {request : Request} {claim : String} (truthy : claim ≠ "") :
    claim ∈ request.collectClaimedTenantIds ↔ claim ∈ request.single := by
  simp [collectClaimedTenantIds, single, fields, Fields.all, truthy]

def warning (request : Request) (tokenTenantId claim : String) : String :=
  s!"Tenant scope violation: token tenant={tokenTenantId} " ++
    s!"attempted access to tenant={claim} on {request.method} {request.originalUrl}"

def violation (request : Request) (tokenTenantId : String) : Option String :=
  request.collectClaimedTenantIds.find? fun claim => claim ≠ "" ∧ claim ≠ tokenTenantId

def canActivate (request : Request) : Except Failure Bool × List String :=
  match request.user.bind (·.tenantId) with
  | none => (.ok true, [])
  | some tokenTenantId =>
    if tokenTenantId = "" then (.ok true, [])
    else match request.violation tokenTenantId with
      | none => (.ok true, [])
      | some claim =>
        (.error (.forbidden "Cross-tenant access denied: token does not match requested tenant"),
          [request.warning tokenTenantId claim])

def Offends (request : Request) (tokenTenantId : String) : Prop :=
  ∃ claim ∈ request.single, claim ≠ "" ∧ claim ≠ tokenTenantId

theorem violation_eq_none {request : Request} {tokenTenantId : String} :
    request.violation tokenTenantId = none ↔ ¬ request.Offends tokenTenantId := by
  simp only [violation, List.find?_eq_none, decide_eq_true_eq, Offends]
  constructor
  · rintro clean ⟨claim, mem, truthy, differs⟩
    exact clean claim ((mem_collectClaimedTenantIds truthy).mpr mem) ⟨truthy, differs⟩
  · intro clean claim mem offends
    exact clean ⟨claim, (mem_collectClaimedTenantIds offends.1).mp mem, offends⟩

/-- The token has a tenant, and a value that the guard sees is another one. -/
def Caught (request : Request) (token : Option String) : Prop :=
  ∃ tokenTenantId, token = some tokenTenantId ∧ tokenTenantId ≠ "" ∧ request.Offends tokenTenantId

theorem canActivate_cases {request : Request} {user : User} (authenticated : request.user = some user) :
    ((∃ message, request.canActivate.1 = .error (.forbidden message)) ∧ request.Caught user.tenantId) ∨
      (request.canActivate.1 = .ok true ∧ ¬ request.Caught user.tenantId) := by
  cases token : user.tenantId with
  | none => simp [canActivate, Caught, authenticated, token]
  | some tokenTenantId =>
    by_cases empty : tokenTenantId = ""
    · simp [canActivate, Caught, authenticated, token, empty]
    · cases found : request.violation tokenTenantId with
      | none =>
        have clean := violation_eq_none.mp found
        simp [canActivate, Caught, authenticated, token, empty, found, clean]
      | some claim =>
        have offends : request.Offends tokenTenantId := by
          by_contra clean
          rw [violation_eq_none.mpr clean] at found
          cases found
        simp [canActivate, Caught, authenticated, token, empty, found, offends]

/-- Another tenant anywhere in the request is refused, and the token's own everywhere is let through. -/
structure Exhaustive (request : Request) (token : Option String) : Prop where
  refuses : (∃ value ∈ request.supplied, token ≠ some value) →
    ∃ message, request.canActivate.1 = .error (.forbidden message)
  passes : (∀ value ∈ request.supplied, token = some value) → request.canActivate.1 = .ok true

theorem not_caught {request : Request} {token : Option String}
    (own : ∀ value ∈ request.supplied, token = some value) : ¬ request.Caught token := by
  rintro ⟨tokenTenantId, rfl, -, claim, mem, -, differs⟩
  exact differs (Option.some.inj (own claim (request.single_subset mem))).symm

theorem canActivate_exhaustive {request : Request} {user : User} (authenticated : request.user = some user) :
    request.Exhaustive user.tenantId ↔
      ((∃ value ∈ request.supplied, user.tenantId ≠ some value) → request.Caught user.tenantId) := by
  obtain ⟨refused, caught⟩ | ⟨passed, clean⟩ := canActivate_cases authenticated
  · refine ⟨fun _ _ => caught, fun _ => ⟨fun _ => refused, fun own => absurd caught (not_caught own)⟩⟩
  · constructor
    · intro exhaustive other
      obtain ⟨message, refused⟩ := exhaustive.refuses other
      rw [passed] at refused
      cases refused
    · intro covered
      exact ⟨fun other => absurd (covered other) clean, fun _ => passed⟩

def emptyFields : Fields := ⟨.absent, .absent⟩

/-- `GET /api/…?tenantId=A&tenantId=B` with a token of `A`. -/
def repeatedQuery : Request where
  user := some ⟨some "A"⟩
  header := none
  query := ⟨.strings ["A", "B"], .absent⟩
  params := emptyFields
  body := emptyFields
  method := "GET"
  originalUrl := "/api/sales/orders?tenantId=A&tenantId=B"

theorem repeatedQuery_passes :
    repeatedQuery.user = some ⟨some "A"⟩ ∧ ¬ repeatedQuery.Exhaustive (some "A") := by
  refine ⟨rfl, fun exhaustive => ?_⟩
  have other : ∃ value ∈ repeatedQuery.supplied, some "A" ≠ some value :=
    ⟨"B", by decide, by decide⟩
  obtain ⟨message, refused⟩ := exhaustive.refuses other
  have passed : repeatedQuery.canActivate.1 = .ok true := rfl
  rw [passed] at refused
  cases refused

/-- The same request with a body that names `B` in the plain. -/
def namedBody : Request := { repeatedQuery with body := ⟨.string "B", .other⟩ }

theorem namedBody_exhaustive : namedBody.user = some ⟨some "A"⟩ ∧ namedBody.Exhaustive (some "A") := by
  have authenticated : namedBody.user = some ⟨some "A"⟩ := rfl
  refine ⟨authenticated, (canActivate_exhaustive authenticated).mpr fun _ => ?_⟩
  exact ⟨"A", rfl, by decide, "B", by decide, by decide, by decide⟩

end SmartErp.Auth.TenantScopeGuard.Request
