import Dynastore.Access.Elasticsearch
import Dynastore.Iam.Projection

/-! `compile_read_access_filter` is what every search goes through. It compiles one filter per
collection of the search and combines them; unlike a direct read it never passes the principal's id,
so the grants of the principal are not resolved. -/

namespace Dynastore.Iam

open PolicyService ReadScope

open Access (AccessFilter FieldPredicate Predicate)

/-- The arguments of `compile_read_access_filter`; a missing list is the empty one. -/
structure SearchRequest where
  catalogId : Option String
  collections : List String
  principals : List String
  principal : Option Principal

/-- The arguments of one `compile_read_filter` for the caller of the search. -/
def SearchRequest.filterRequest (request : SearchRequest)
    (collectionId principalId : Option String) : FilterRequest where
  principals := request.principals
  catalogId := request.catalogId
  collectionId := collectionId
  assetId := none
  principal := request.principal
  principalId := principalId

namespace PolicyService

variable (service : PolicyService) (py : Python) (request : SearchRequest)

def compileEach : List String → Except Raised (List AccessFilter)
  | [] => .ok []
  | collection :: rest =>
    match service.compileReadFilter py (request.filterRequest (some collection) none) with
    | .error raised => .error raised
    | .ok filter =>
      match compileEach rest with
      | .error raised => .error raised
      | .ok filters => .ok (filter :: filters)

def compileScopes : Except Raised AccessFilter :=
  match request.collections with
  | [] => service.compileReadFilter py (request.filterRequest none none)
  | [collection] => service.compileReadFilter py (request.filterRequest (some collection) none)
  | collections =>
    match service.compileEach py request collections with
    | .error raised => .error raised
    | .ok filters => .ok (.unionOf filters)

end PolicyService

/-- `compile_read_access_filter`; `perms` is absent without a registered engine. -/
def compileReadAccessFilter (perms : Option PolicyService) (py : Python)
    (request : SearchRequest) : Except Raised AccessFilter :=
  match perms with
  | none => .ok .denyEverything
  | some service => service.compileScopes py request

structure CollectionDocument where
  collection : String
  fields : Document
  in_collection : fields.get "collection_id" = .text collection

/-! ## One filter per collection -/

section Scopes

variable {service : PolicyService} {py : Python} {request : SearchRequest}

theorem CollectionDocument.eq_of_admits {document : CollectionDocument} {collection : String}
    (compiled : service.compileReadFilter py
      (request.filterRequest (some collection) principalId) = .ok filter)
    (admitted : filter.admits py document.fields) : document.collection = collection := by
  have located := located_of_admits compiled admitted
  have pinned : (Predicate.field ⟨"collection_id", [collection]⟩).matches py document.fields =
      true := by
    apply located
    simp [FilterRequest.scope, SearchRequest.filterRequest, scopePredicates]
  simpa [Predicate.matches, FieldPredicate.matches, document.in_collection, Access.isOneOf]
    using pinned

theorem compileEach_ok (compiled : service.compileEach py request collections = .ok filters) :
    (∃ filter ∈ filters, filter.admits py document) ↔ ∃ collection ∈ collections, ∃ filter,
        service.compileReadFilter py (request.filterRequest (some collection) none) = .ok filter ∧
        filter.admits py document := by
  induction collections generalizing filters with
  | nil =>
    cases compiled
    simp
  | cons _ _ ih =>
    rw [compileEach] at compiled
    split at compiled
    · cases compiled
    next own =>
      split at compiled
      · cases compiled
      next compiledRest =>
        cases compiled
        simp [own, ih compiledRest]

theorem exists_compileEach_iff :
    (∃ filters, service.compileEach py request collections = .ok filters) ↔
      ∀ collection ∈ collections, ∃ filter,
        service.compileReadFilter py (request.filterRequest (some collection) none) =
          .ok filter := by
  induction collections with
  | nil => simp [compileEach]
  | cons collection rest ih =>
    rw [compileEach, List.forall_mem_cons, ← ih]
    cases service.compileReadFilter py (request.filterRequest (some collection) none) with
    | error => simp
    | ok =>
      cases service.compileEach py request rest with
      | _ => simp

end Scopes

/-! ## Several collections -/

/-- The filter of a search over several collections admits a document iff its collection is
one of them and the filter of a search over that collection alone admits it. -/
theorem several_collections_isolated (perms : Option PolicyService) (py : Python)
    (request : SearchRequest) (several : 2 ≤ request.collections.length) (filter : AccessFilter)
    (compiled : compileReadAccessFilter perms py request = .ok filter)
    (document : CollectionDocument) :
    filter.admits py document.fields = true ↔ document.collection ∈ request.collections ∧
      ∃ own, compileReadAccessFilter perms py
          { request with collections := [document.collection] } = .ok own ∧
        own.admits py document.fields = true := by
  obtain ⟨_, collections, _, _⟩ := request
  cases perms with
  | none =>
    cases compiled
    simp [compileReadAccessFilter]
  | some =>
    match collections with
    | first :: second :: rest =>
      simp only [compileReadAccessFilter, compileScopes] at compiled
      split at compiled
      · cases compiled
      next each =>
        cases compiled
        rw [AccessFilter.admits_unionOf, compileEach_ok each]
        constructor
        · rintro ⟨_, mem, own, ownCompiled, admitted⟩
          have same := document.eq_of_admits ownCompiled admitted
          subst same
          exact ⟨mem, own, ownCompiled, admitted⟩
        · rintro ⟨mem, own, ownCompiled, admitted⟩
          exact ⟨document.collection, mem, own, ownCompiled, admitted⟩

/-! A search over two collections of a catalog, one of which is denied. -/

def searchOf (collections : List String) : SearchRequest where
  catalogId := some "c1"
  collections := collections
  principals := []
  principal := some
    { customPolicies :=
        [⟨"read_catalog", .allow, 0, ["GET"], ["/stac/catalogs/c1/"], []⟩,
          ⟨"hide_k2", .deny, 0, ["GET"], ["/stac/catalogs/c1/collections/k2"], []⟩]
      attributes := [] }

def documentOf (collection : String) : CollectionDocument where
  collection := collection
  fields := [("catalog_id", .text "c1"), ("collection_id", .text collection)]
  in_collection := rfl

theorem two_collections_isolated :
    ∃ filter, compileReadAccessFilter (some serviceWithoutStorage) .literal
        (searchOf ["k1", "k2"]) = .ok filter ∧
      (filter.admits .literal (documentOf "k1").fields = true ↔ "k1" ∈ ["k1", "k2"] ∧
        ∃ own, compileReadAccessFilter (some serviceWithoutStorage) .literal
            (searchOf ["k1"]) = .ok own ∧
          own.admits .literal (documentOf "k1").fields = true) :=
  ⟨_, rfl, several_collections_isolated (some serviceWithoutStorage) .literal
    (searchOf ["k1", "k2"]) (Nat.le_refl 2) _ rfl (documentOf "k1")⟩

/-! ## Whether a scope compiles -/

section Raises

variable (py : Python) (scope : ReadScope)

/-- The DENY cannot be expressed, and the loop ends with a filter that denies everything. -/
def ReadScope.Closes (policy : Policy) : Prop :=
  policy.effect = .deny ∧ scope.relevant py policy ∧
    compileConditions py scope.attributes policy.conditions = .ok .uncompilable

def ReadScope.Raises : List Policy → Prop
  | [] => False
  | policy :: rest => scope.Fails py policy ∨ (¬ scope.Closes py policy ∧ Raises rest)

variable {py scope}

theorem compilePolicy_eq_closed_iff :
    scope.compilePolicy py policy = .ok .closed ↔ scope.Closes py policy := by
  unfold compilePolicy ReadScope.Closes
  by_cases relevant : scope.relevant py policy
  · rw [if_pos relevant]
    cases compileConditions py scope.attributes policy.conditions with
    | error => simp
    | ok result =>
      cases policy.effect with
      | allow => cases result <;> simp [allowClause_allows]
      | deny => cases result <;> simp [relevant]
  · simp [relevant]

theorem compilePolicies_eq_error_iff (before : Clauses) :
    (∃ raised, scope.compilePolicies py policies before = .error raised) ↔
      scope.Raises py policies := by
  induction policies generalizing before with
  | nil => simp [compilePolicies, ReadScope.Raises]
  | cons policy _ ih =>
    rw [compilePolicies, ReadScope.Raises, ← compilePolicy_eq_closed_iff]
    cases step : scope.compilePolicy py policy with
    | error =>
      have fails : scope.Fails py policy := by
        by_contra compiles
        obtain ⟨result, compiled⟩ := exists_compilePolicy_iff.mpr compiles
        rw [step] at compiled
        cases compiled
      simp [fails]
    | ok result =>
      have passes : ¬ scope.Fails py policy := exists_compilePolicy_iff.mp ⟨result, step⟩
      by_cases closed : result = .closed
      · simp [closed, passes]
      · simp only [Except.ok.injEq, closed, passes, not_false_eq_true, true_and, false_or,
          ← ih (before.add result)]

theorem exists_compileReadFilter_iff {service : PolicyService} :
    (∃ filter, service.compileReadFilter py request = .ok filter) ↔
      ¬ request.scope.Raises py (service.resolveEffectivePolicies request.resolution) := by
  rw [← compilePolicies_eq_error_iff .none, compileReadFilter]
  cases request.scope.compilePolicies py
      (service.resolveEffectivePolicies request.resolution) .none with
  | error => simp
  | ok clauses => cases clauses <;> simp

theorem not_fails_of_not_raises (passes : ¬ scope.Raises py policies)
    (opened : ∀ policy ∈ policies, ¬ scope.Closes py policy) :
    ∀ policy ∈ policies, ¬ scope.Fails py policy := by
  induction policies with
  | nil => simp
  | cons first rest ih =>
    rw [ReadScope.Raises, not_or] at passes
    have restPasses : ¬ scope.Raises py rest := fun raises =>
      passes.2 ⟨opened first (.head _), raises⟩
    have restOpened := fun policy mem => opened policy (List.mem_cons_of_mem first mem)
    intro policy mem
    rcases List.mem_cons.mp mem with eq | mem
    · exact eq ▸ passes.1
    · exact ih restPasses restOpened policy mem

end Raises

/-! ## The authority behind a search -/

namespace SearchRequest

variable (request : SearchRequest)

/-- The collections that filters are compiled for; `none` is the whole catalog. -/
def scopes : List (Option String) :=
  if request.collections.isEmpty then [none] else request.collections.map some

def scopeOf (document : CollectionDocument) : Option String :=
  if request.collections.isEmpty then none else some document.collection

end SearchRequest

section Authority

variable (service : PolicyService) (py : Python) (request : SearchRequest)
  (principalId : String) (document : CollectionDocument)

def SameAuthority : Prop :=
  ∀ filter, compileReadAccessFilter (some service) py request = .ok filter →
    filter.admits py document.fields = true → ∃ direct, service.compileReadFilter py
          (request.filterRequest (request.scopeOf document) (some principalId)) = .ok direct ∧
        direct.admits py document.fields = true

/-- The policies that the search sees let the document through, and one that the principal's
grants add fails or hides it. -/
structure Bypass : Prop where
  compiled : ∀ collectionId ∈ request.scopes,
    ¬ (request.filterRequest collectionId none).scope.Raises py
      (service.resolveEffectivePolicies (request.filterRequest collectionId none).resolution)
  inScope : request.scopeOf document ∈ request.scopes
  located : (request.filterRequest (request.scopeOf document) none).scope.Located py document.fields
  unhidden : ∀ policy ∈ service.resolveEffectivePolicies
      (request.filterRequest (request.scopeOf document) none).resolution,
    ¬ (request.filterRequest (request.scopeOf document) none).scope.Hides py document.fields policy
  offered : ∃ policy ∈ service.resolveEffectivePolicies
      (request.filterRequest (request.scopeOf document) none).resolution,
    (request.filterRequest (request.scopeOf document) none).scope.Offers py document.fields policy
  refused : ∃ policy, service.Grants
      (request.filterRequest (request.scopeOf document) (some principalId)).resolution policy ∧
    ((request.filterRequest (request.scopeOf document) none).scope.Fails py policy ∨
      (request.filterRequest (request.scopeOf document) none).scope.Hides py document.fields policy)

end Authority

section Exact

variable {service : PolicyService} {py : Python} {request : SearchRequest}
  {principalId : String} {document : CollectionDocument}

theorem compileScopes_admits_iff (named : request.collections ≠ []) :
    (∃ filter, service.compileScopes py request = .ok filter ∧ filter.admits py fields) ↔
      ∃ filters, service.compileEach py request request.collections = .ok filters ∧
        ∃ filter ∈ filters, filter.admits py fields := by
  unfold compileScopes
  split
  next none => exact absurd none named
  next collection single =>
    rw [single, compileEach]
    cases service.compileReadFilter py (request.filterRequest (some collection) .none) with
    | error => simp
    | ok => simp [compileEach]
  · cases service.compileEach py request request.collections with
    | error => simp
    | ok => simp [AccessFilter.admits_unionOf]

theorem search_admits_iff :
    (∃ filter, compileReadAccessFilter (some service) py request = .ok filter ∧
      filter.admits py document.fields) ↔
    (∀ collectionId ∈ request.scopes, ∃ filter,
      service.compileReadFilter py (request.filterRequest collectionId none) = .ok filter) ∧
    request.scopeOf document ∈ request.scopes ∧
    ∃ own, service.compileReadFilter py
        (request.filterRequest (request.scopeOf document) none) = .ok own ∧
      own.admits py document.fields := by
  by_cases unnamed : request.collections = []
  · have scopes : request.scopes = [none] := by simp [SearchRequest.scopes, unnamed]
    have scopeOf : request.scopeOf document = none := by simp [SearchRequest.scopeOf, unnamed]
    rw [scopes, scopeOf, List.forall_mem_singleton, compileReadAccessFilter]
    simp only [compileScopes, unnamed, List.mem_singleton, true_and]
    constructor
    · rintro ⟨filter, compiled, admitted⟩
      exact ⟨⟨filter, compiled⟩, filter, compiled, admitted⟩
    · exact And.right
  · have scopes : request.scopes = request.collections.map some := by
      simp [SearchRequest.scopes, unnamed]
    have scopeOf : request.scopeOf document = some document.collection := by
      simp [SearchRequest.scopeOf, unnamed]
    rw [scopes, scopeOf, List.forall_mem_map, ← exists_compileEach_iff, compileReadAccessFilter,
      compileScopes_admits_iff unnamed, List.mem_map_of_injective (Option.some_injective _)]
    constructor
    · rintro ⟨filters, each, admitted⟩
      obtain ⟨_, mem, own, compiled, admitted⟩ :=
        (compileEach_ok each).mp admitted
      have same := document.eq_of_admits compiled admitted
      subst same
      exact ⟨⟨filters, each⟩, mem, own, compiled, admitted⟩
    · rintro ⟨⟨filters, each⟩, mem, own, compiled, admitted⟩
      exact ⟨filters, each, (compileEach_ok each).mpr
        ⟨document.collection, mem, own, compiled, admitted⟩⟩

theorem direct_admits_iff {collectionId : Option String}
    (searched : ∃ own, service.compileReadFilter py (request.filterRequest collectionId none) =
        .ok own ∧ own.admits py fields) :
    (∃ direct, service.compileReadFilter py
        (request.filterRequest collectionId (some principalId)) = .ok direct ∧
      direct.admits py fields) ↔
    ∀ policy, service.Grants
        (request.filterRequest collectionId (some principalId)).resolution policy →
      ¬ (request.filterRequest collectionId none).scope.Fails py policy ∧
      ¬ (request.filterRequest collectionId none).scope.Hides py fields policy := by
  obtain ⟨own, compiled, admitted⟩ := searched
  have located := located_of_admits compiled admitted
  have ⟨unfailing, unhidden, offered⟩ := (exists_admits_iff located).mp ⟨own, compiled, admitted⟩
  have held : ∀ policy, policy ∈ service.resolveEffectivePolicies
        (request.filterRequest collectionId (some principalId)).resolution ↔
      policy ∈ service.resolveEffectivePolicies
        (request.filterRequest collectionId none).resolution ∨
        service.Grants
          (request.filterRequest collectionId (some principalId)).resolution policy := by
    intro policy
    rw [mem_resolveEffectivePolicies_iff]
    exact Iff.rfl
  have directLocated :
      (request.filterRequest collectionId (some principalId)).scope.Located py fields := located
  rw [exists_admits_iff directLocated]
  constructor
  · intro ⟨directUnfailing, directUnhidden, _⟩ policy granted
    exact ⟨directUnfailing policy ((held policy).mpr (.inr granted)),
      directUnhidden policy ((held policy).mpr (.inr granted))⟩
  · intro spared
    refine ⟨?_, ?_, .inl ?_⟩
    · intro policy mem
      rcases (held policy).mp mem with searched | granted
      · exact unfailing policy searched
      · exact (spared policy granted).1
    · intro policy mem
      rcases (held policy).mp mem with searched | granted
      · exact unhidden policy searched
      · exact (spared policy granted).2
    · rcases offered with ⟨policy, mem, offers⟩ | ⟨_, mem, _⟩
      · exact ⟨policy, (held policy).mpr (.inl mem), offers⟩
      · cases mem

/-- A search keeps the authority of the direct read exactly where it bypasses no grant. -/
theorem sameAuthority_iff (service : PolicyService) (py : Python) (request : SearchRequest)
    (principalId : String) (document : CollectionDocument) :
    SameAuthority service py request principalId document ↔
      ¬ Bypass service py request principalId document := by
  constructor
  · intro same bypass
    have opened : ∀ policy ∈ service.resolveEffectivePolicies
          (request.filterRequest (request.scopeOf document) none).resolution,
        ¬ (request.filterRequest (request.scopeOf document) none).scope.Closes py policy :=
      fun policy mem closes => bypass.unhidden policy mem
        ⟨closes.1, closes.2.1, .uncompilable, closes.2.2, .inl rfl⟩
    have searched := (exists_admits_iff bypass.located).mpr
      ⟨not_fails_of_not_raises (bypass.compiled _ bypass.inScope) opened, bypass.unhidden,
        .inl bypass.offered⟩
    have ⟨filter, compiled, admitted⟩ := search_admits_iff.mpr
      ⟨fun _ mem => exists_compileReadFilter_iff.mpr (bypass.compiled _ mem),
        bypass.inScope, searched⟩
    have spared := (direct_admits_iff searched).mp (same filter compiled admitted)
    have ⟨policy, granted, refused⟩ := bypass.refused
    exact refused.elim (spared policy granted).1 (spared policy granted).2
  · intro honoured filter compiled admitted
    have ⟨compiles, inScope, searched⟩ := search_admits_iff.mp ⟨filter, compiled, admitted⟩
    rw [direct_admits_iff searched]
    intro policy granted
    have ⟨own, ownCompiled, ownAdmitted⟩ := searched
    have located := located_of_admits ownCompiled ownAdmitted
    have ⟨_, unhidden, offered⟩ := (exists_admits_iff located).mp searched
    have offered := offered.resolve_right fun ⟨_, mem, _⟩ => by cases mem
    rw [← not_or]
    intro refused
    exact honoured
      { compiled := fun collectionId mem =>
          exists_compileReadFilter_iff.mp (compiles collectionId mem)
        inScope, located, unhidden, offered
        refused := ⟨policy, granted, refused⟩ }

end Exact

/-! A reader whose grants deny what their own policy allows. -/

def searchWithOwnPolicy : SearchRequest where
  catalogId := some "c1"
  collections := ["k1"]
  principals := []
  principal := some { customPolicies := [{ readPolicy with id := "own" }], attributes := [] }

/-- The deny grant hides the document from the direct filter and not from the search. -/
theorem deny_grant_bypassed :
    ¬ SameAuthority (editorPlatform [grantOf .policy "read" .deny]) .literal searchWithOwnPolicy
      "u1" (documentOf "k1") := by
  intro same
  have ⟨direct, compiled, admitted⟩ := same _ rfl rfl
  cases compiled
  exact absurd admitted (by decide)

end Dynastore.Iam
