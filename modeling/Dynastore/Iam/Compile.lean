import Dynastore.Iam.AttributePredicate
import Dynastore.Iam.Resolve

/-! `compile_read_filter` projects the effective policies of a principal in a read scope into an
access filter. Whether a policy is about the scope is probed on representative paths. -/

namespace Dynastore.Iam

open Access (AccessClause AccessFilter)

structure Principal where
  customPolicies : List Policy
  attributes : Document

def readActions : List String :=
  ["GET", "SEARCH", "READ"]

/-- `_policy_has_read_action`, which for a DENY also tries the verb of a search request. -/
def Policy.hasReadAction (py : Python) (policy : Policy) : Bool :=
  policy.actions.isEmpty ||
    (if policy.effect = .deny then readActions ++ ["POST"] else readActions).any
      (policy.matchesAction py)

def nonempty (text : Option String) : Option String :=
  text.filter (· ≠ "")

def readScopeProbePaths (catalogId collectionId assetId : Option String) : List String :=
  match catalogId, nonempty collectionId with
  | none, _ => ["/"]
  | some cat, some col =>
    ["/stac/catalogs/" ++ cat ++ "/collections/" ++ col ++ "/items",
      "/stac/catalogs/" ++ cat ++ "/collections/" ++ col ++ "/items/_probe_",
      "/features/catalogs/" ++ cat ++ "/collections/" ++ col ++ "/items",
      "/search/catalogs/" ++ cat ++ "/geoid-search",
      "/stac/catalogs/" ++ cat ++ "/search"] ++
    match nonempty assetId with
    | none => []
    | some asset =>
      ["/assets/catalogs/" ++ cat ++ "/collections/" ++ col ++ "/assets/" ++ asset,
        "/assets/catalogs/" ++ cat ++ "/collections/" ++ col]
  | some cat, none =>
    ["/stac/catalogs/" ++ cat, "/stac/catalogs/" ++ cat ++ "/collections",
      "/stac/catalogs/" ++ cat ++ "/collections/_probe_/items",
      "/stac/catalogs/" ++ cat ++ "/collections/_probe_/items/_probe_",
      "/features/catalogs/" ++ cat,
      "/features/catalogs/" ++ cat ++ "/collections/_probe_/items",
      "/search/catalogs/" ++ cat ++ "/geoid-search",
      "/stac/catalogs/" ++ cat ++ "/search"] ++
    match nonempty assetId with
    | none => []
    | some asset =>
      ["/assets/catalogs/" ++ cat ++ "/assets/" ++ asset, "/assets/catalogs/" ++ cat]

def Policy.matchesReadScope (py : Python) (policy : Policy) (probePaths : List String) : Bool :=
  probePaths.any (policy.matchesResource py)

/-- The scope a filter is compiled for, with the attributes of the principal. -/
structure ReadScope where
  catalogId : Option String
  collectionId : Option String
  assetId : Option String
  attributes : Document

def ReadScope.relevant (scope : ReadScope) (py : Python) (policy : Policy) : Bool :=
  policy.hasReadAction py && policy.matchesReadScope py
      (readScopeProbePaths scope.catalogId scope.collectionId scope.assetId)

def ReadScope.clause (scope : ReadScope) (predicates : List Access.FieldPredicate) : AccessClause :=
  scopeClause (predicates.map .field) scope.catalogId scope.collectionId

/-! ## One policy -/

/-- What one policy contributes: `dropped` is an ALLOW that cannot be expressed, `closed` a
DENY that cannot. -/
inductive PolicyClause where
  | nothing
  | dropped
  | closed
  | allowAll
  | allow (clause : AccessClause)
  | deny (clause : AccessClause)
deriving DecidableEq

def ReadScope.allowClause (scope : ReadScope) (predicates : List Access.FieldPredicate) :
    PolicyClause :=
  if predicates.isEmpty && (scopePredicates scope.catalogId scope.collectionId).isEmpty then
    .allowAll
  else .allow (scope.clause predicates)

def ReadScope.compilePolicy (scope : ReadScope) (py : Python) (policy : Policy) :
    Except Raised PolicyClause :=
  if scope.relevant py policy then
    match compileConditions py scope.attributes policy.conditions with
    | .error raised => .error raised
    | .ok result =>
      match policy.effect, result with
      | .deny, .uncompilable => .ok .closed
      | .allow, .uncompilable => .ok .dropped
      | _, .unsatisfiable => .ok .nothing
      | .deny, .satisfied => .ok (.deny (scope.clause []))
      | .deny, .predicates predicates => .ok (.deny (scope.clause predicates))
      | .allow, .satisfied => .ok (scope.allowClause [])
      | .allow, .predicates predicates => .ok (scope.allowClause predicates)
  else .ok .nothing

/-! ## The filter -/

structure Clauses where
  allow : List AccessClause
  deny : List AccessClause
  uncompilable : Bool
  allowAll : Bool

def Clauses.none : Clauses :=
  ⟨[], [], false, false⟩

def Clauses.add (clauses : Clauses) : PolicyClause → Clauses
  | .allow clause => { clauses with allow := clauses.allow ++ [clause] }
  | .deny clause => { clauses with deny := clauses.deny ++ [clause] }
  | .dropped => { clauses with uncompilable := true }
  | .allowAll => { clauses with allowAll := true }
  | .nothing => clauses
  | .closed => clauses

/-- The loop; a `closed` policy ends it without clauses. -/
def ReadScope.compilePolicies (scope : ReadScope) (py : Python) :
    List Policy → Clauses → Except Raised (Option Clauses)
  | [], clauses => .ok (some clauses)
  | policy :: rest, clauses =>
    match scope.compilePolicy py policy with
    | .error raised => .error raised
    | .ok .closed => .ok .none
    | .ok result => scope.compilePolicies py rest (clauses.add result)

structure FilterRequest where
  principals : List String
  catalogId : Option String
  collectionId : Option String
  assetId : Option String
  principal : Option Principal
  principalId : Option String

def FilterRequest.resolution (request : FilterRequest) : Resolution where
  principals := request.principals
  catalogId := request.catalogId
  customPolicies := (request.principal.map Principal.customPolicies).getD []
  principalId := request.principalId
  collectionId := request.collectionId

def FilterRequest.scope (request : FilterRequest) : ReadScope where
  catalogId := request.catalogId
  collectionId := request.collectionId
  assetId := request.assetId
  attributes := (request.principal.map Principal.attributes).getD []

def Clauses.filter (clauses : Clauses) (grants : List AccessClause × Bool) : AccessFilter :=
  let uncompilable := clauses.uncompilable || grants.2
  if clauses.allowAll then { allowAll := true, deny := clauses.deny, uncompilable }
  else .fromClauses (clauses.allow ++ grants.1) clauses.deny uncompilable

def PolicyService.grantClauses (service : PolicyService) (py : Python)
    (request : FilterRequest) : List AccessClause × Bool :=
  service.compileGrantAttributeClauses py request.principalId request.catalogId request.collectionId

def PolicyService.compileReadFilter (service : PolicyService) (py : Python)
    (request : FilterRequest) : Except Raised AccessFilter :=
  match request.scope.compilePolicies py
      (service.resolveEffectivePolicies request.resolution) .none with
  | .error raised => .error raised
  | .ok .none => .ok (.denyEverything true)
  | .ok (some clauses) => .ok (clauses.filter (service.grantClauses py request))

/-! ## What the loop collects -/

section Collected

variable {clauses : Clauses}

@[simp]
theorem mem_allow_add :
    clause ∈ (clauses.add result).allow ↔ clause ∈ clauses.allow ∨ result = .allow clause := by
  cases result <;> simp [Clauses.add, eq_comm]

@[simp]
theorem mem_deny_add :
    clause ∈ (clauses.add result).deny ↔ clause ∈ clauses.deny ∨ result = .deny clause := by
  cases result <;> simp [Clauses.add, eq_comm]

@[simp]
theorem allowAll_add :
    (clauses.add result).allowAll ↔ clauses.allowAll ∨ result = .allowAll := by
  cases result <;> simp [Clauses.add]

end Collected

variable {scope : ReadScope} {py : Python}

/-- The clauses behind the loop are those before it and what the policies contribute. -/
structure Collects (scope : ReadScope) (py : Python) (policies : List Policy)
    (before after : Clauses) : Prop where
  notClosed : ∀ policy ∈ policies,
    ∃ result, scope.compilePolicy py policy = .ok result ∧ result ≠ .closed
  allow : ∀ clause, clause ∈ after.allow ↔ clause ∈ before.allow ∨
    ∃ policy ∈ policies, scope.compilePolicy py policy = .ok (.allow clause)
  deny : ∀ clause, clause ∈ after.deny ↔ clause ∈ before.deny ∨
    ∃ policy ∈ policies, scope.compilePolicy py policy = .ok (.deny clause)
  allowAll : after.allowAll = true ↔ before.allowAll = true ∨
    ∃ policy ∈ policies, scope.compilePolicy py policy = .ok .allowAll

variable {before after : Clauses}

theorem Collects.cons (compiled : scope.compilePolicy py policy = .ok result)
    (notClosed : result ≠ .closed) (collects : Collects scope py rest (before.add result) after) :
    Collects scope py (policy :: rest) before after where
  notClosed := by
    intro other mem
    rcases List.mem_cons.mp mem with eq | mem
    · subst eq
      exact ⟨result, compiled, notClosed⟩
    · exact collects.notClosed other mem
  allow clause := by
    rw [collects.allow, mem_allow_add, or_assoc]
    simp [compiled]
  deny clause := by
    rw [collects.deny, mem_deny_add, or_assoc]
    simp [compiled]
  allowAll := by
    rw [collects.allowAll, allowAll_add, or_assoc]
    simp [compiled]

theorem collects_of_compilePolicies
    (compiled : scope.compilePolicies py policies before = .ok (some after)) :
    Collects scope py policies before after := by
  induction policies generalizing before with
  | nil =>
    cases compiled
    constructor <;> simp
  | cons policy _ ih =>
    rw [ReadScope.compilePolicies] at compiled
    cases step : scope.compilePolicy py policy with
    | error => simp [step] at compiled
    | ok result =>
      by_cases closed : result = .closed
      · simp [step, closed] at compiled
      · simp only [step] at compiled
        exact .cons step closed (ih compiled)

theorem exists_of_open (opened : ∀ policy ∈ policies,
      ∃ result, scope.compilePolicy py policy = .ok result ∧ result ≠ .closed) (before : Clauses) :
    ∃ after, scope.compilePolicies py policies before = .ok (some after) := by
  induction policies generalizing before with
  | nil => exact ⟨before, rfl⟩
  | cons policy _ ih =>
    have ⟨result, step, notClosed⟩ := opened policy (.head _)
    have ⟨after, compiled⟩ :=
      ih (fun other mem => opened other (.tail _ mem)) (before.add result)
    refine ⟨after, ?_⟩
    rw [ReadScope.compilePolicies, step]
    simp only [compiled]

end Dynastore.Iam
