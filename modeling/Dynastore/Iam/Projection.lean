import Dynastore.Iam.Compile
import Dynastore.Iam.Evaluate

/-! The compiled read filter is documented as an equal-or-stricter projection of the engine: a
document it admits can be fetched on its own path. The two sides read the policies through different
eyes, representative paths on the one and the path of the item on the other, and this module says
exactly when that lets a document through. -/

namespace Dynastore.Iam

open List Option PolicyService ReadScope

open Access (AccessClause AccessFilter FieldPredicate Predicate)

structure ItemDocument (catalogId : String) where
  collection : String
  id : String
  fields : Document
  in_catalog : fields.get "catalog_id" = .text catalogId
  in_collection : fields.get "collection_id" = .text collection

def ItemDocument.path {catalogId : String} (item : ItemDocument catalogId) : String :=
  "/stac/catalogs/" ++ catalogId ++ "/collections/" ++ item.collection ++ "/items/" ++ item.id

structure ReadRequest where
  principals : List String
  catalogId : String
  collectionId : Option String
  principal : Option Principal
  principalId : Option String

namespace ReadRequest

def filterRequest (request : ReadRequest) : FilterRequest where
  principals := request.principals
  catalogId := some request.catalogId
  collectionId := request.collectionId
  assetId := none
  principal := request.principal
  principalId := request.principalId

def itemResolution (request : ReadRequest) (item : ItemDocument request.catalogId) : Resolution :=
  { request.filterRequest.resolution with collectionId := some item.collection }

def Locates (request : ReadRequest) (item : ItemDocument request.catalogId) : Prop :=
  request.collectionId = none ∨ request.collectionId = some item.collection

structure Fetches (request : ReadRequest) (item : ItemDocument request.catalogId)
    (ctx : EvaluationContext) : Prop where
  path : ctx.path = item.path
  method : ctx.method = "GET"
  attributes : ctx.principalAttributes = request.principal.map Principal.attributes
  audience :
    ctx.catalogLookupPublic = (FieldPredicate.mk "visibility" ["public"]).matches item.fields

end ReadRequest

variable (service : PolicyService) (py : Python) (request : ReadRequest)
  (item : ItemDocument request.catalogId) (ctx : EvaluationContext)

def EqualOrStricter : Prop :=
  ∀ filter, service.compileReadFilter py request.filterRequest = .ok filter →
    filter.admits py item.fields = true → service.Allows py (request.itemResolution item) ctx

/-! ## The view of the filter -/

def CondResult.holdsFor (document : Document) : CondResult → Bool
  | .satisfied => true
  | .predicates conjuncts => conjuncts.all (·.matches document)
  | .unsatisfiable => false
  | .uncompilable => false

section View

variable (scope : ReadScope) (document : Document) (policy : Policy)

def ReadScope.Fails : Prop :=
  scope.relevant py policy ∧
    ∃ raised, compileConditions py scope.attributes policy.conditions = .error raised

def ReadScope.Offers : Prop :=
  policy.effect = .allow ∧ scope.relevant py policy ∧
    ∃ result, compileConditions py scope.attributes policy.conditions = .ok result ∧
      result.holdsFor document

/-- The filter takes the DENY policy to cover the document, as it does where it cannot
express the conditions. -/
def ReadScope.Hides : Prop :=
  policy.effect = .deny ∧ scope.relevant py policy ∧
    ∃ result, compileConditions py scope.attributes policy.conditions = .ok result ∧
      (result = .uncompilable ∨ result.holdsFor document)

end View

/-! ## The drift -/

def Policy.About (path : String) (policy : Policy) : Prop :=
  policy.methodMatch py "GET" ∧ policy.matchesResource py path

def Policy.FiresOn (path : String) (policy : Policy) : Prop :=
  policy.About py path ∧ evaluateAll py ctx policy.effect policy.conditions = .ok true

/-- The ways in which the filter and the engine can read a policy differently. -/
inductive Policy.Drifts (policy : Policy) : Prop
  /-- A DENY fires on the item, and neither the probe paths nor the read verbs show it. -/
  | lostPath (effect : policy.effect = .deny) (fires : policy.FiresOn py ctx item.path)
      (unseen : ¬ request.filterRequest.scope.relevant py policy)
  /-- A DENY fires on the item, and is compiled to predicates that its document does not meet. -/
  | lostConditions (result : CondResult) (effect : policy.effect = .deny)
      (fires : policy.FiresOn py ctx item.path)
      (compiled : compileConditions py request.filterRequest.scope.attributes policy.conditions =
        .ok result)
      (expressible : result ≠ .uncompilable) (unmet : ¬ result.holdsFor item.fields)
  /-- An ALLOW offers the document and is not about the path of the item. -/
  | phantomPath (offers : request.filterRequest.scope.Offers py item.fields policy)
      (elsewhere : ¬ policy.About py item.path)
  /-- An ALLOW offers the document, and its conditions do not hold of the request. -/
  | phantomConditions (offers : request.filterRequest.scope.Offers py item.fields policy)
      (unmet : evaluateAll py ctx policy.effect policy.conditions = .ok false)
  /-- A condition raises for the item that the filter has compiled. -/
  | raises (raised : Raised) (about : policy.About py item.path)
      (evaluated : evaluateAll py ctx policy.effect policy.conditions = .error raised)
      (compiled : ¬ request.filterRequest.scope.Fails py policy)
      (unhidden : ¬ request.filterRequest.scope.Hides py item.fields policy)

/-- The policies resolved for the requested scope do not drift, those that count against the item
in its own collection are among them, and those that count for it are resolved there too. -/
structure Aligned : Prop where
  steady : ∀ policy ∈ service.resolveEffectivePolicies request.filterRequest.resolution,
    ¬ policy.Drifts py request item ctx
  denies : ∀ policy ∈ service.resolveEffectivePolicies (request.itemResolution item),
    policy.effect = .deny →
    policy ∈ service.resolveEffectivePolicies request.filterRequest.resolution
  raising : ∀ policy ∈ service.resolveEffectivePolicies (request.itemResolution item),
    (∃ raised, evaluateAll py ctx policy.effect policy.conditions = .error raised) →
    policy ∈ service.resolveEffectivePolicies request.filterRequest.resolution
  allows : ∀ policy ∈ service.resolveEffectivePolicies request.filterRequest.resolution,
    policy.effect = .allow →
    policy ∈ service.resolveEffectivePolicies (request.itemResolution item)
  /-- Attribute predicates of a grant offer nothing that no policy offers. -/
  grants : ∀ clause ∈ (service.grantClauses py request.filterRequest).1,
    clause.matches py item.fields →
    ∃ policy ∈ service.resolveEffectivePolicies request.filterRequest.resolution,
      request.filterRequest.scope.Offers py item.fields policy

/-- An ALLOW without conditions that both sides take to be about the item. -/
structure Policy.Opens (policy : Policy) : Prop where
  effect : policy.effect = .allow
  conditions : policy.conditions = []
  relevant : request.filterRequest.scope.relevant py policy
  about : policy.About py item.path

inductive Refusal (path : String) (policies : List Policy) : Prop
  /-- A condition of a policy about the request raises. -/
  | raised (policy : Policy) (raised : Raised) (member : policy ∈ policies)
      (about : policy.About py path)
      (raises : evaluateAll py ctx policy.effect policy.conditions = .error raised)
  /-- No ALLOW fires on the path of the item. -/
  | uncovered (uncovered : ∀ policy ∈ policies, policy.effect = .allow →
      ¬ policy.FiresOn py ctx path)
  /-- A DENY that fires on the path of the item is not outranked. -/
  | denied (deny : Policy) (member : deny ∈ policies) (effect : deny.effect = .deny)
      (fires : deny.FiresOn py ctx path)
      (unranked : ∀ policy ∈ policies, policy.effect = .allow →
        policy.FiresOn py ctx path → policy.priority ≤ deny.priority)

/-- The filter offers the document and nothing it sees hides it, while the engine, with the
policies and the path of the item itself, refuses it. -/
@[mk_iff]
structure Leak : Prop where
  compiled : ∀ policy ∈ service.resolveEffectivePolicies request.filterRequest.resolution,
    ¬ request.filterRequest.scope.Fails py policy
  unhidden : ∀ policy ∈ service.resolveEffectivePolicies request.filterRequest.resolution,
    ¬ request.filterRequest.scope.Hides py item.fields policy
  offered : (∃ policy ∈ service.resolveEffectivePolicies request.filterRequest.resolution,
      request.filterRequest.scope.Offers py item.fields policy) ∨
    ∃ clause ∈ (service.grantClauses py request.filterRequest).1,
      clause.matches py item.fields = true
  refused : Refusal py ctx item.path
    (service.resolveEffectivePolicies (request.itemResolution item))

/-! ## What a filter admits -/

section Admitted

variable {service py request item ctx}
variable {scope : ReadScope} {document : Document}

def ReadScope.Located (py : Python) (scope : ReadScope) (document : Document) : Prop :=
  ∀ predicate ∈ scopePredicates scope.catalogId scope.collectionId,
    predicate.matches py document = true

section

variable (located : scope.Located py document)

include located

theorem ReadScope.Located.matches_clause :
    (scope.clause predicates).matches py document = predicates.all (·.matches document) := by
  have pinned : (scopePredicates scope.catalogId scope.collectionId).all
      (·.matches py document) := List.all_eq_true.mpr located
  simp only [clause, scopeClause, AccessClause.matches, List.all_append, pinned,
    List.all_map, Bool.true_and]
  rfl

omit located in
theorem ReadScope.Located.of_matches_scopeClause
    (matched : (scopeClause predicates scope.catalogId scope.collectionId).matches py document =
      true) : scope.Located py document := by
  intro predicate mem
  rw [scopeClause, AccessClause.matches, List.all_eq_true] at matched
  exact matched predicate (List.mem_append_left _ mem)

omit located in
theorem exists_compilePolicy_iff :
    (∃ result, scope.compilePolicy py policy = .ok result) ↔ ¬ scope.Fails py policy := by
  unfold compilePolicy ReadScope.Fails
  by_cases relevant : scope.relevant py policy
  · rw [if_pos relevant]
    cases compileConditions py scope.attributes policy.conditions with
    | error => simp [relevant]
    | ok result => cases policy.effect <;> cases result <;> simp
  · simp [relevant]

omit located in
theorem allowClause_cases :
    (scope.allowClause predicates = .allowAll ∧ predicates = [] ∧
      scopePredicates scope.catalogId scope.collectionId = []) ∨
    scope.allowClause predicates = .allow (scope.clause predicates) := by
  unfold allowClause
  split
  next bare =>
    rw [Bool.and_eq_true, List.isEmpty_iff, List.isEmpty_iff] at bare
    exact .inl ⟨rfl, bare⟩
  · exact .inr rfl

omit located in
theorem allowClause_allows :
    scope.allowClause predicates ≠ .closed ∧
      ∀ clause, scope.allowClause predicates ≠ .deny clause := by
  unfold allowClause
  split <;> simp

theorem ReadScope.Located.allowClause_iff :
    (scope.allowClause predicates = .allowAll ∨
      ∃ clause, scope.allowClause predicates = .allow clause ∧ clause.matches py document) ↔
      predicates.all (·.matches document) := by
  rcases allowClause_cases with ⟨all, empty, _⟩ | allow
  · rw [all, empty]
    simp
  · simp [allow, located.matches_clause]

theorem ReadScope.Located.hides_iff : scope.Hides py document policy ↔
      scope.compilePolicy py policy = .ok .closed ∨
      ∃ clause, scope.compilePolicy py policy = .ok (.deny clause) ∧
        clause.matches py document := by
  unfold compilePolicy ReadScope.Hides
  by_cases relevant : scope.relevant py policy
  · rw [if_pos relevant]
    cases compileConditions py scope.attributes policy.conditions with
    | error => simp
    | ok result =>
      cases policy.effect with
      | allow => cases result <;> simp [allowClause_allows]
      | deny =>
        cases result <;>
          simp [relevant, CondResult.holdsFor, located.matches_clause]
  · simp [relevant]

theorem ReadScope.Located.offers_iff : scope.Offers py document policy ↔
      scope.compilePolicy py policy = .ok .allowAll ∨
      ∃ clause, scope.compilePolicy py policy = .ok (.allow clause) ∧
        clause.matches py document := by
  unfold compilePolicy ReadScope.Offers
  by_cases relevant : scope.relevant py policy
  · rw [if_pos relevant]
    cases compileConditions py scope.attributes policy.conditions with
    | error => simp
    | ok result =>
      cases policy.effect with
      | allow =>
        cases result <;>
          simp [relevant, CondResult.holdsFor, located.allowClause_iff]
      | deny => cases result <;> simp
  · simp [relevant]

theorem ReadScope.Located.unmatched_deny_iff (collects : Collects scope py policies .none clauses) :
    (∀ clause ∈ clauses.deny, clause.matches py document = false) ↔
      ∀ policy ∈ policies, ¬ scope.Hides py document policy := by
  constructor
  · intro unmatched policy mem hides
    rcases located.hides_iff.mp hides with closed | ⟨clause, compiled, matched⟩
    · have ⟨result, compiled, notClosed⟩ := collects.notClosed policy mem
      rw [closed] at compiled
      exact notClosed (Except.ok.inj compiled).symm
    · have listed := (collects.deny clause).mpr (.inr ⟨policy, mem, compiled⟩)
      rw [unmatched clause listed] at matched
      cases matched
  · intro unhidden clause listed
    rcases (collects.deny clause).mp listed with none | ⟨policy, mem, compiled⟩
    · cases none
    · rw [← Bool.not_eq_true]
      intro matched
      exact unhidden policy mem (located.hides_iff.mpr (.inr ⟨clause, compiled, matched⟩))

theorem ReadScope.Located.offered_iff (collects : Collects scope py policies .none clauses) :
    (clauses.allowAll ∨ ∃ clause ∈ clauses.allow, clause.matches py document) ↔
      ∃ policy ∈ policies, scope.Offers py document policy := by
  simp only [collects.allowAll, collects.allow, located.offers_iff, Clauses.none,
    not_mem_nil, false_or, Bool.false_eq_true]
  constructor
  · rintro (⟨policy, mem, compiled⟩ | ⟨clause, ⟨policy, mem, compiled⟩, matched⟩)
    · exact ⟨policy, mem, .inl compiled⟩
    · exact ⟨policy, mem, .inr ⟨clause, compiled, matched⟩⟩
  · rintro ⟨policy, mem, compiled | ⟨clause, compiled, matched⟩⟩
    · exact .inl ⟨policy, mem, compiled⟩
    · exact .inr ⟨clause, ⟨policy, mem, compiled⟩, matched⟩

theorem ReadScope.Located.admits_filter_iff (collects : Collects scope py policies .none clauses) :
    (clauses.filter grants).admits py document ↔
      (∀ policy ∈ policies, ¬ scope.Hides py document policy) ∧
      ((∃ policy ∈ policies, scope.Offers py document policy) ∨
        ∃ clause ∈ grants.1, clause.matches py document) := by
  rw [← located.unmatched_deny_iff collects, ← located.offered_iff collects, Clauses.filter]
  cases clauses.allowAll with
  | true => simp [AccessFilter.admits_clauses]
  | false =>
    simp only [Bool.false_eq_true, if_false, AccessFilter.admits_fromClauses, mem_append,
      or_and_right, exists_or, false_or]

end

theorem exists_allowClause (compiled : scope.compilePolicy py policy = .ok result)
    (allows : result = .allowAll ∨ ∃ clause, result = .allow clause) :
    ∃ predicates, scope.allowClause predicates = result := by
  unfold compilePolicy at compiled
  split at compiled
  · split at compiled
    · cases compiled
    · split at compiled
      all_goals first
        | exact ⟨_, Except.ok.inj compiled⟩
        | cases compiled
          simp at allows
  · cases compiled
    simp at allows

theorem exists_scopeClause_of_mem_grantClauses {clause : AccessClause}
    (mem : clause ∈ (service.grantClauses py filterRequest).1) :
    ∃ predicates, clause =
      scopeClause predicates filterRequest.catalogId filterRequest.collectionId := by
  unfold grantClauses compileGrantAttributeClauses at mem
  split at mem
  · simp only [List.mem_filterMap, List.mem_map] at mem
    obtain ⟨_, ⟨_, _, rfl⟩, present⟩ := mem
    unfold GrantRow.attributeClause at present
    split at present
    · cases present
    · split at present
      · cases present
      · split at present
        · cases present
        next compiled _ => exact ⟨compiled, (Option.some.inj present).symm⟩
  · cases mem

theorem ReadScope.located_of_admits {filter : AccessFilter}
    (compiled : service.compileReadFilter py filterRequest = .ok filter)
    (admitted : filter.admits py document) : filterRequest.scope.Located py document := by
  unfold compileReadFilter at compiled
  split at compiled
  · cases compiled
  · cases compiled
    simp at admitted
  next clauses loop =>
    cases compiled
    have collects := collects_of_compilePolicies loop
    have offered : clauses.allowAll ∨
        ∃ clause ∈ clauses.allow ++ (service.grantClauses py filterRequest).1,
          clause.matches py document := by
      unfold Clauses.filter at admitted
      split at admitted
      next opened => exact .inl opened
      · exact .inr ((AccessFilter.admits_fromClauses _ _ _).mp admitted).2
    rcases offered with opened | ⟨clause, mem, matched⟩
    · rcases collects.allowAll.mp opened with none | ⟨policy, _, allowed⟩
      · cases none
      · have ⟨predicates, eq⟩ := exists_allowClause allowed (.inl rfl)
        rcases allowClause_cases with ⟨_, _, bare⟩ | pinned
        · intro _ mem
          rw [bare] at mem
          cases mem
        · rw [pinned] at eq
          cases eq
    · rcases mem_append.mp mem with collected | granted
      · rcases (collects.allow clause).mp collected with none | ⟨_, _, allowed⟩
        · cases none
        · have ⟨predicates, eq⟩ := exists_allowClause allowed (.inr ⟨clause, rfl⟩)
          rcases allowClause_cases with ⟨all, _⟩ | pinned
          · rw [all] at eq
            cases eq
          · rw [pinned] at eq
            cases eq
            exact .of_matches_scopeClause matched
      · have ⟨predicates, eq⟩ := exists_scopeClause_of_mem_grantClauses granted
        subst eq
        exact .of_matches_scopeClause matched

theorem exists_admits_iff (located : filterRequest.scope.Located py document) :
    (∃ filter, service.compileReadFilter py filterRequest = .ok filter ∧
      filter.admits py document) ↔
    (∀ policy ∈ service.resolveEffectivePolicies filterRequest.resolution,
      ¬ filterRequest.scope.Fails py policy) ∧
    (∀ policy ∈ service.resolveEffectivePolicies filterRequest.resolution,
      ¬ filterRequest.scope.Hides py document policy) ∧
    ((∃ policy ∈ service.resolveEffectivePolicies filterRequest.resolution,
        filterRequest.scope.Offers py document policy) ∨
      ∃ clause ∈ (service.grantClauses py filterRequest).1,
        clause.matches py document) := by
  unfold compileReadFilter
  constructor
  · intro ⟨filter, compiled, admitted⟩
    split at compiled
    · cases compiled
    · cases compiled
      simp at admitted
    next loop =>
      cases compiled
      have collects := collects_of_compilePolicies loop
      refine ⟨?_, (located.admits_filter_iff collects).mp admitted⟩
      intro policy mem
      have ⟨result, compiled, _⟩ := collects.notClosed policy mem
      exact exists_compilePolicy_iff.mp ⟨result, compiled⟩
  · intro ⟨compiled, unhidden, offered⟩
    have notClosed : ∀ policy ∈ service.resolveEffectivePolicies filterRequest.resolution,
        ∃ result, filterRequest.scope.compilePolicy py policy = .ok result ∧
          result ≠ .closed := by
      intro policy mem
      have ⟨result, step⟩ := exists_compilePolicy_iff.mpr (compiled policy mem)
      refine ⟨result, step, ?_⟩
      intro closed
      exact unhidden policy mem (located.hides_iff.mpr (.inl (closed ▸ step)))
    have ⟨clauses, loop⟩ := exists_of_open notClosed .none
    rw [loop]
    exact ⟨_, rfl, (located.admits_filter_iff (collects_of_compilePolicies loop)).mpr
      ⟨unhidden, offered⟩⟩

end Admitted

/-! ## The projection -/

section Projection

variable {service py request item ctx}

theorem ReadRequest.Locates.located (locates : request.Locates item) :
    request.filterRequest.scope.Located py item.fields := by
  have catalog : (Predicate.field ⟨"catalog_id", [request.catalogId]⟩).matches py item.fields
      := by
    simp [Predicate.matches, FieldPredicate.matches, item.in_catalog, Access.isOneOf]
  have collection : (Predicate.field ⟨"collection_id", [item.collection]⟩).matches py
      item.fields := by
    simp [Predicate.matches, FieldPredicate.matches, item.in_collection, Access.isOneOf]
  intro _ mem
  rcases locates with whole | pinned
  · simp only [FilterRequest.scope, ReadRequest.filterRequest, scopePredicates, whole,
      map_some, map_none, toList_some, toList_none,
      append_nil, mem_singleton] at mem
    exact mem ▸ catalog
  · simp only [FilterRequest.scope, ReadRequest.filterRequest, scopePredicates, pinned,
      map_some, toList_some, singleton_append, mem_cons,
      not_mem_nil, or_false] at mem
    rcases mem with eq | eq
    · exact eq ▸ catalog
    · exact eq ▸ collection

theorem ReadRequest.Fetches.applies_iff (fetches : request.Fetches item ctx) (policy : Policy) :
    policy.applies py ctx ↔ policy.About py item.path := by
  rw [Policy.applies, fetches.method, fetches.path, Bool.and_eq_true, Policy.About]

theorem ReadRequest.Fetches.fires_iff (fetches : request.Fetches item ctx) (policy : Policy) :
    policy.fires py ctx ↔ policy.FiresOn py ctx item.path := by
  rw [Policy.fires, Bool.and_eq_true, fetches.applies_iff, Policy.FiresOn]
  cases evaluateAll py ctx policy.effect policy.conditions <;> simp

theorem ReadRequest.Fetches.mem_firing_iff (fetches : request.Fetches item ctx) :
    policy ∈ firing py ctx effect policies ↔
      policy ∈ policies ∧ policy.FiresOn py ctx item.path ∧ policy.effect = effect := by
  simp only [firing, mem_filter, Bool.and_eq_true, beq_iff_eq, fetches.fires_iff]

theorem ReadRequest.Fetches.not_allows_iff (fetches : request.Fetches item ctx) :
    ¬ service.Allows py resolution ctx ↔
      Refusal py ctx item.path (service.resolveEffectivePolicies resolution) := by
  rw [allows_iff]
  constructor
  · intro refused
    by_cases raises : ∃ policy ∈ service.resolveEffectivePolicies resolution, policy.Raises py ctx
    · have ⟨policy, mem, applies, raised, evaluated⟩ := raises
      exact .raised policy raised mem ((fetches.applies_iff policy).mp applies) evaluated
    · by_cases covered : ∃ policy ∈ service.resolveEffectivePolicies resolution,
          policy.effect = .allow ∧ policy.FiresOn py ctx item.path
      · have ⟨first, firstMember, firstAllow, firstFires⟩ := covered
        have nonempty : firing py ctx .allow (service.resolveEffectivePolicies resolution) ≠ [] :=
          ne_nil_of_mem (fetches.mem_firing_iff.mpr ⟨firstMember, firstFires, firstAllow⟩)
        have ⟨deny, denyFiring, unranked⟩ :=
          exists_unoutranked nonempty fun outranked => refused ⟨raises, outranked⟩
        have ⟨mem, fires, effect⟩ := fetches.mem_firing_iff.mp denyFiring
        refine .denied deny mem effect fires ?_
        intro policy policyMember allow policyFires
        exact unranked policy (fetches.mem_firing_iff.mpr ⟨policyMember, policyFires, allow⟩)
      · refine .uncovered fun policy mem allow fires => covered ⟨policy, mem, allow, fires⟩
  · intro refusal ⟨quiet, allow, allowFires, outranks⟩
    have ⟨mem, fires, effect⟩ := fetches.mem_firing_iff.mp allowFires
    cases refusal with
    | raised policy raised mem about raises =>
      exact quiet ⟨policy, mem, (fetches.applies_iff policy).mpr about, raised, raises⟩
    | uncovered uncovered => exact uncovered allow mem effect fires
    | denied deny denyMember denyEffect denyFires unranked =>
      have below := outranks deny (fetches.mem_firing_iff.mpr ⟨denyMember, denyFires, denyEffect⟩)
      exact absurd (unranked allow mem effect fires) (not_le.mpr below)

theorem equalOrStricter_iff_not_leak (located : request.Locates item)
    (fetches : request.Fetches item ctx) :
    EqualOrStricter service py request item ctx ↔ ¬ Leak service py request item ctx := by
  constructor
  · intro stricter leak
    have ⟨filter, compiled, admitted⟩ :=
      (exists_admits_iff located.located).mpr ⟨leak.compiled, leak.unhidden, leak.offered⟩
    exact (fetches.not_allows_iff).mpr leak.refused (stricter filter compiled admitted)
  · intro tight filter compiled admitted
    by_contra refused
    have ⟨compiles, unhidden, offered⟩ :=
      (exists_admits_iff located.located).mp ⟨filter, compiled, admitted⟩
    exact tight ⟨compiles, unhidden, offered, (fetches.not_allows_iff).mp refused⟩

theorem ReadScope.Offers.compiled {scope : ReadScope} (offers : scope.Offers py document policy) :
    ¬ scope.Fails py policy ∧ ¬ scope.Hides py document policy := by
  obtain ⟨effect, relevant, result, compiled, holds⟩ := offers
  refine ⟨?_, ?_⟩
  · rintro ⟨-, raised, failed⟩
    rw [compiled] at failed
    cases failed
  · rintro ⟨denies, -⟩
    rw [effect] at denies
    cases denies

/-- An ALLOW that offers the document fires, unless it drifts. -/
theorem Policy.firesOn_of_offers (steady : ¬ policy.Drifts py request item ctx)
    (offers : request.filterRequest.scope.Offers py item.fields policy) :
    policy.FiresOn py ctx item.path := by
  by_cases about : policy.About py item.path
  · cases evaluated : evaluateAll py ctx policy.effect policy.conditions with
    | ok holds =>
      cases holds with
      | true => exact ⟨about, evaluated⟩
      | false => exact absurd (.phantomConditions offers evaluated) steady
    | error raised =>
      exact absurd (.raises raised about evaluated offers.compiled.1 offers.compiled.2) steady
  · exact absurd (.phantomPath offers about) steady

/-- The filter sees a DENY that fires, unless it drifts. -/
theorem Policy.hides_of_firesOn (steady : ¬ policy.Drifts py request item ctx)
    (effect : policy.effect = .deny) (fires : policy.FiresOn py ctx item.path)
    (compiles : ¬ request.filterRequest.scope.Fails py policy) :
    request.filterRequest.scope.Hides py item.fields policy := by
  by_cases relevant : request.filterRequest.scope.relevant py policy
  · cases compiled : compileConditions py request.filterRequest.scope.attributes
      policy.conditions with
    | error raised => exact absurd ⟨relevant, raised, compiled⟩ compiles
    | ok result =>
      refine ⟨effect, relevant, result, compiled, ?_⟩
      by_contra unseen
      rw [not_or] at unseen
      exact steady (.lostConditions result effect fires compiled unseen.1 unseen.2)
  · exact absurd (.lostPath effect fires relevant) steady

/-- Steady policies that count on both sides leak nothing. -/
theorem not_refusal_of_steady {resolved own : List Policy}
    (steady : ∀ policy ∈ resolved, ¬ policy.Drifts py request item ctx)
    (denies : ∀ policy ∈ own, policy.effect = .deny → policy ∈ resolved)
    (raising : ∀ policy ∈ own,
      (∃ raised, evaluateAll py ctx policy.effect policy.conditions = .error raised) →
      policy ∈ resolved)
    (allows : ∀ policy ∈ resolved, policy.effect = .allow → policy ∈ own)
    (compiled : ∀ policy ∈ resolved, ¬ request.filterRequest.scope.Fails py policy)
    (unhidden : ∀ policy ∈ resolved, ¬ request.filterRequest.scope.Hides py item.fields policy)
    (offered : ∃ policy ∈ resolved, request.filterRequest.scope.Offers py item.fields policy) :
    ¬ Refusal py ctx item.path own := by
  intro refused
  cases refused with
  | raised policy raised mem about evaluated =>
    have listed := raising policy mem ⟨raised, evaluated⟩
    exact steady policy listed
      (.raises raised about evaluated (compiled policy listed) (unhidden policy listed))
  | uncovered uncovered =>
    have ⟨policy, mem, offers⟩ := offered
    exact uncovered policy (allows policy mem offers.1) offers.1
      (policy.firesOn_of_offers (steady policy mem) offers)
  | denied deny mem effect fires =>
    have listed := denies deny mem effect
    exact unhidden deny listed
      (deny.hides_of_firesOn (steady deny listed) effect fires (compiled deny listed))

theorem Aligned.not_leak (aligned : Aligned service py request item ctx) :
    ¬ Leak service py request item ctx := by
  intro ⟨compiled, unhidden, offered, refused⟩
  refine not_refusal_of_steady aligned.steady aligned.denies aligned.raising aligned.allows compiled
    unhidden ?_ refused
  rcases offered with offered | ⟨clause, mem, matched⟩
  · exact offered
  · exact aligned.grants clause mem matched

end Projection

/-! ## One policy alone -/

def serviceWithoutStorage : PolicyService where
  iamStorage := none
  storedPolicy _ _ _ := none
  storedPolicy_id := nofun
  physicalSchema _ := none
  internalCollectionId _ _ := none

/-- The request of a principal who has the given policies and no others. -/
abbrev ReadRequest.holding (request : ReadRequest) (policies : List Policy) : ReadRequest :=
  { request with
    principals := []
    principal := request.principal.map fun principal =>
      { principal with customPolicies := policies }
    principalId := none }

section Holding

variable {py request item ctx}

theorem leak_holding_iff (identified : request.principal.isSome) (policies : List Policy) :
    Leak serviceWithoutStorage py (request.holding policies) item ctx ↔
      (∀ policy ∈ policies, ¬ request.filterRequest.scope.Fails py policy) ∧
      (∀ policy ∈ policies, ¬ request.filterRequest.scope.Hides py item.fields policy) ∧
      (∃ policy ∈ policies, request.filterRequest.scope.Offers py item.fields policy) ∧
      Refusal py ctx item.path policies := by
  obtain ⟨principal, present⟩ := Option.isSome_iff_exists.mp identified
  have resolved (collectionId : Option String) : serviceWithoutStorage.resolveEffectivePolicies
      { (request.holding policies).filterRequest.resolution with collectionId := collectionId } =
        policies := by
    simp [ReadRequest.filterRequest, FilterRequest.resolution, present, resolveEffectivePolicies,
      flatPolicies, flatRoles, grantRows]
  have scope : (request.holding policies).filterRequest.scope = request.filterRequest.scope := by
    simp [ReadRequest.filterRequest, FilterRequest.scope, present]
  have grants : (serviceWithoutStorage.grantClauses py (request.holding policies).filterRequest).1
      = [] := rfl
  rw [leak_iff, scope, grants, ReadRequest.itemResolution, resolved, resolved]
  simp

theorem Policy.Opens.offers {opener : Policy} (opens : opener.Opens py request item) :
    request.filterRequest.scope.Offers py item.fields opener := by
  refine ⟨opens.effect, opens.relevant, .satisfied, ?_, rfl⟩
  rw [opens.conditions]
  rfl

theorem Policy.Opens.steady {opener : Policy} (opens : opener.Opens py request item) :
    ¬ opener.Drifts py request item ctx := by
  have holds : evaluateAll py ctx opener.effect opener.conditions = .ok true := by
    rw [opens.conditions]
    rfl
  intro drifts
  cases drifts with
  | lostPath effect | lostConditions _ effect => simp [opens.effect] at effect
  | phantomPath _ elsewhere => exact elsewhere opens.about
  | phantomConditions _ unmet => simp [holds] at unmet
  | raises _ _ evaluated => simp [holds] at evaluated

/-- A policy that the filter takes to leave the document alone, while the engine stops at it. -/
theorem leak_beside_opener {opener : Policy} (identified : request.principal.isSome)
    (opens : opener.Opens py request item)
    (compiled : ¬ request.filterRequest.scope.Fails py policy)
    (unhidden : ¬ request.filterRequest.scope.Hides py item.fields policy)
    (refused : Refusal py ctx item.path [policy, opener]) :
    Leak serviceWithoutStorage py (request.holding [policy, opener]) item ctx := by
  have offered := opens.offers
  refine (leak_holding_iff identified _).mpr
    ⟨?_, ?_, ⟨opener, .tail _ (.head _), offered⟩, refused⟩
  · simp [compiled, offered.compiled.1]
  · simp [unhidden, offered.compiled.2]

theorem leaks_of_drifts {opener : Policy} (identified : request.principal.isSome)
    (opens : opener.Opens py request item) (below : opener.priority ≤ policy.priority)
    (drifts : policy.Drifts py request item ctx) :
    Leak serviceWithoutStorage py (request.holding [policy]) item ctx ∨
      Leak serviceWithoutStorage py (request.holding [policy, opener]) item ctx := by
  have denied (effect : policy.effect = .deny) (fires : policy.FiresOn py ctx item.path) :
      Refusal py ctx item.path [policy, opener] := by
    refine .denied policy (.head _) effect fires ?_
    intro other mem allow _
    simp only [mem_cons, not_mem_nil, or_false] at mem
    rcases mem with rfl | rfl
    · simp [effect] at allow
    · exact below
  have alone (offers : request.filterRequest.scope.Offers py item.fields policy)
      (silent : ¬ policy.FiresOn py ctx item.path) :
      Leak serviceWithoutStorage py (request.holding [policy]) item ctx := by
    refine (leak_holding_iff identified _).mpr ⟨?_, ?_, ⟨policy, .head _, offers⟩, .uncovered ?_⟩
    · simp [offers.compiled.1]
    · simp [offers.compiled.2]
    · simp [silent]
  cases drifts with
  | lostPath effect fires unseen =>
    exact .inr (leak_beside_opener identified opens (fun fails => unseen fails.1)
      (fun hides => unseen hides.2.1) (denied effect fires))
  | lostConditions result effect fires compiled expressible unmet =>
    refine .inr (leak_beside_opener identified opens ?_ ?_ (denied effect fires))
    · rintro ⟨-, raised, failed⟩
      simp [compiled] at failed
    · rintro ⟨-, -, other, found, seen⟩
      rw [compiled, Except.ok.injEq] at found
      subst found
      exact seen.elim expressible unmet
  | phantomPath offers elsewhere => exact .inl (alone offers fun fires => elsewhere fires.1)
  | phantomConditions offers unmet =>
    refine .inl (alone offers fun fires => ?_)
    have holds := fires.2
    simp [unmet] at holds
  | raises raised about evaluated compiled unhidden =>
    exact .inr (leak_beside_opener identified opens compiled unhidden
      (.raised policy raised (.head _) about evaluated))

end Holding

def readCatalog : Policy := ⟨"read_catalog", .allow, 0, ["GET"], ["/stac/catalogs/c1/"], []⟩

def hideItem : Policy :=
  ⟨"hide_item", .deny, 0, ["GET"], ["/stac/catalogs/c1/collections/k1/items/secret"], []⟩

def catalogReader : ReadRequest where
  principals := []
  catalogId := "c1"
  collectionId := none
  principal := some
    { customPolicies :=
        [readCatalog, hideItem]
      attributes := [] }
  principalId := none

def itemOfCatalog (id : String) : ItemDocument catalogReader.catalogId where
  collection := "k1"
  id := id
  fields := [("catalog_id", .text "c1"), ("collection_id", .text "k1")]
  in_catalog := rfl
  in_collection := rfl

def fetchOf (id : String) : EvaluationContext where
  path := (itemOfCatalog id).path
  method := "GET"
  queryParams := []
  headers := []
  principalId := none
  catalogId := some "c1"
  principalAttributes := some []
  extras := []
  lookupAudience _ := some false
  handlers type _ _ := .error (.handler type "")

theorem fetches_fetchOf (id : String) : catalogReader.Fetches (itemOfCatalog id) (fetchOf id) :=
  ⟨rfl, rfl, rfl, rfl⟩

theorem readCatalog_opens : readCatalog.Opens .literal catalogReader (itemOfCatalog "open") :=
  ⟨rfl, rfl, by decide, by decide, by decide⟩

theorem hideItem_steady :
    ¬ hideItem.Drifts .literal catalogReader (itemOfCatalog "open") (fetchOf "open") := by
  have elsewhere : ¬ Policy.About .literal (itemOfCatalog "open").path hideItem :=
    fun about => absurd about.2 (by decide)
  intro drifts
  cases drifts with
  | lostPath _ fires | lostConditions _ _ fires => exact elsewhere fires.1
  | phantomPath offers | phantomConditions offers => cases offers.1
  | raises _ about => exact elsewhere about

theorem open_item_aligned : Aligned serviceWithoutStorage .literal catalogReader
    (itemOfCatalog "open") (fetchOf "open") where
  steady policy mem := by
    rcases List.mem_pair.mp mem with rfl | rfl
    · exact readCatalog_opens.steady
    · exact hideItem_steady
  denies _ mem _ := mem
  raising _ mem _ := mem
  allows _ mem _ := mem
  grants := nofun

end Dynastore.Iam
