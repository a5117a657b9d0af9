import Dynastore.Iam.Projection

/-! A grant row may carry `attribute_predicates`, documented to narrow what the grant lets its
principal read. The rows of the tables meet the compiled filter here: the queries of the PostgreSQL
storage do not select the column, the granted policies are compiled without it, and the clauses made
of it are ALLOW clauses whatever the effect of the row. -/

namespace Dynastore.Iam

open List

open Access (AccessClause Predicate)

/-! ## The grants tables -/

structure StoredGrant extends GrantRecord where
  attributePredicates : List Value

/-- What a query returns of the row; `selected` says whether it selects the column. -/
def StoredGrant.row (selected : Bool) (grant : StoredGrant) : GrantRow :=
  { grant.selected with
    attributePredicates := if selected then .list grant.attributePredicates else .null }

structure GrantStore where
  roles : String → String → Option Role
  grants : String → List StoredGrant
  now : Int
  selectsPredicates : Bool

namespace GrantStore

variable (store : GrantStore)

def rows (principalId schema : String) (collectionId : Option String) : List StoredGrant :=
  let active := fun schema => (store.grants schema).filter (·.activeFor principalId store.now)
  let catalog :=
    if schema = "" ∨ schema = "iam" then []
    else
      match collectionId with
      | some collectionId => (active schema).filter (·.inScope collectionId)
      | none => active schema
  active "iam" ++ catalog

def storage : IamStorage where
  getRole := store.roles
  resolveEffectiveGrants := some fun principalId schema collectionId =>
    some ((store.rows principalId schema collectionId).map
      (StoredGrant.row store.selectsPredicates))

def service (base : PolicyService) : PolicyService :=
  { base with iamStorage := some store.storage }

end GrantStore

/-! ## What a row says and what its clause keeps of it -/

/-- The element is a predicate that can be compiled, and `holds` is true of what it compiles
to. -/
def PredicateElement (holds : Predicate → Prop) (element : Value) : Prop :=
  ∃ entries predicate compiled, element = .dict entries ∧
    AttributePredicate.parse entries = some predicate ∧ predicate.compile = some compiled ∧
    holds compiled

def PredicateElements (holds : Predicate → Prop) (elements : List Value) : Prop :=
  ∀ element ∈ elements, (∃ entries, element = .dict entries) → PredicateElement holds element

def StoredGrant.SatisfiedBy (py : Python) (grant : StoredGrant) (document : Document) : Prop :=
  ∀ element ∈ grant.attributePredicates, PredicateElement (·.matches py document = true) element

theorem predicateElements_dict :
    PredicateElements holds (.dict entries :: rest) ↔
      (∃ predicate compiled, AttributePredicate.parse entries = some predicate ∧
        predicate.compile = some compiled ∧ holds compiled) ∧
      PredicateElements holds rest := by
  unfold PredicateElements
  rw [forall_mem_cons]
  refine and_congr_left' ⟨?_, ?_⟩
  · intro first
    obtain ⟨_, predicate, compiled, eq, found⟩ := first ⟨entries, rfl⟩
    cases eq
    exact ⟨predicate, compiled, found⟩
  · rintro ⟨predicate, compiled, found⟩ _
    exact ⟨entries, predicate, compiled, rfl, found⟩

theorem predicateElements_other (other : ∀ entries, element ≠ .dict entries) :
    PredicateElements holds (element :: rest) ↔ PredicateElements holds rest := by
  unfold PredicateElements
  rw [forall_mem_cons]
  refine and_iff_right ?_
  rintro ⟨entries, eq⟩
  exact absurd eq (other entries)

theorem exists_parsePredicates_iff :
    (∃ predicates, parsePredicates elements = some predicates ∧
      (compileAttributePredicates predicates).2 = false ∧
      ∀ compiled ∈ (compileAttributePredicates predicates).1, holds compiled) ↔
    PredicateElements holds elements := by
  unfold compileAttributePredicates
  induction elements with
  | nil => simp [parsePredicates, PredicateElements]
  | cons element rest ih =>
    by_cases dict : ∃ entries, element = .dict entries
    · obtain ⟨entries, rfl⟩ := dict
      rw [predicateElements_dict, ← ih, parsePredicates]
      cases AttributePredicate.parse entries with
      | none => simp
      | some predicate =>
        cases parsePredicates rest with
        | none => simp
        | some =>
          cases compiled : predicate.compile with
          | none => simp [compiled]
          | some first =>
            have own : (∃ parsed result, some predicate = some parsed ∧
                parsed.compile = some result ∧ holds result) ↔ holds first := by
              simp [compiled]
            rw [own]
            simp only [compiled, filterMap_cons_some, any_cons,
              Option.isNone_some, Bool.false_or, Option.some.injEq, exists_eq_left',
              forall_mem_cons]
            exact and_left_comm
    · have other : ∀ entries, element ≠ .dict entries := fun entries eq =>
        dict ⟨entries, eq⟩
      rw [predicateElements_other other, ← ih]
      cases element with
      | dict entries => exact absurd rfl (other entries)
      | null | bool | number | text | list => rfl

theorem exists_attributeClause_iff {grant : StoredGrant} {holds : AccessClause → Prop} :
    (∃ clause, ((grant.row selected).attributeClause py catalogId collectionId).1 = some clause ∧
      holds clause) ↔
    selected ∧ grant.attributePredicates ≠ [] ∧
      ∃ predicates, parsePredicates grant.attributePredicates = some predicates ∧
        (compileAttributePredicates predicates).2 = false ∧
        holds (scopeClause (compileAttributePredicates predicates).1 catalogId collectionId) := by
  have raw : (grant.row selected).rawPredicates py =
      if selected then grant.attributePredicates else [] := by
    cases selected <;> rfl
  unfold GrantRow.attributeClause
  rw [raw]
  cases selected with
  | false => simp
  | true =>
    cases elements : grant.attributePredicates with
    | nil => simp
    | cons first rest =>
      simp only [if_true, isEmpty_cons, Bool.false_eq_true, if_false]
      cases parsePredicates (first :: rest) with
      | none => simp
      | some predicates =>
        simp only [Option.some.injEq, exists_eq_left']
        rcases compileAttributePredicates predicates with ⟨_, uncompilable⟩
        cases uncompilable <;> simp

/-! ## The restriction -/

def FilterRequest.identified (request : FilterRequest) (principalId : String) : FilterRequest :=
  { request with principalId := some principalId }

section Restriction

variable (base : PolicyService) (store : GrantStore) (py : Python) (request : FilterRequest)
  (principalId : String) (document : Document)

def GrantStore.inScope : List StoredGrant :=
  store.rows principalId (base.resolveSchema request.catalogId)
    (base.resolveCollectionInternalId request.catalogId request.collectionId)

def GrantStore.forClauses : List StoredGrant :=
  store.rows principalId (base.resolveSchema request.catalogId) request.collectionId

/-- The rows that either read of the tables takes to be about the scope: the policies are resolved
with the internal id of the collection, the clauses with the id as requested. -/
def GrantStore.rowsRead : List StoredGrant :=
  store.inScope base request principalId ++ store.forClauses base request principalId

/-- The principal holds no ALLOW about the scope other than by rows with predicates. -/
structure GrantsOnly : Prop where
  held : ∀ policy ∈ (store.service base).flatPolicies (request.identified principalId).resolution ++
      (request.identified principalId).resolution.customPolicies,
    policy.effect = .allow → ¬ request.scope.relevant py policy
  restricted : ∀ grant ∈ store.rowsRead base request principalId, grant.attributePredicates ≠ []

def AttributesRestrict : Prop :=
  (∀ filter document, (store.service base).compileReadFilter py (request.identified principalId) =
      .ok filter → filter.admits py document = true →
    ∃ grant ∈ store.rowsRead base request principalId,
      grant.effect = .allow ∧ grant.SatisfiedBy py document) ∧
  ∀ grant ∈ store.forClauses base request principalId, ∀ clause,
    ((grant.row store.selectsPredicates).attributeClause py request.catalogId
      request.collectionId).1 = some clause →
    grant.effect = .allow ∧
      ∀ element ∈ grant.attributePredicates, PredicateElement (fun _ => True) element

inductive Loosened : Prop
  /-- The policies of the granted roles let some document through by themselves: the clauses of
  the rows stand beside them and take nothing away. -/
  | policies (document : Document) (located : request.scope.Located py document)
      (unfailing : ∀ policy ∈ (store.service base).resolveEffectivePolicies
        (request.identified principalId).resolution, ¬ request.scope.Fails py policy)
      (unhidden : ∀ policy ∈ (store.service base).resolveEffectivePolicies
        (request.identified principalId).resolution, ¬ request.scope.Hides py document policy)
      (policy : Policy)
      (granted : (store.service base).Grants (request.identified principalId).resolution policy)
      (offered : request.scope.Offers py document policy)
  /-- A deny row, or one with an element that is no dictionary, has a clause. -/
  | clause (selected : store.selectsPredicates = true) (grant : StoredGrant)
      (member : grant ∈ store.forClauses base request principalId)
      (restricted : grant.attributePredicates ≠ [])
      (compiles : PredicateElements (fun _ => True) grant.attributePredicates)
      (unfit : grant.effect = .deny ∨
        ∃ element ∈ grant.attributePredicates, ∀ entries, element ≠ .dict entries)

end Restriction

/-! ## What the policies see of a document -/

/-- The scope is pinned by two fields, and the conditions of policies are about the visibility. -/
def seenFields : List String :=
  ["catalog_id", "collection_id", "visibility"]

def seenOf (document : Document) : Document :=
  seenFields.map fun field => (field, document.get field)

theorem get_seenOf (seen : field ∈ seenFields) :
    (seenOf document).get field = document.get field := by
  simp only [seenFields, mem_cons, not_mem_nil, or_false] at seen
  rcases seen with rfl | rfl | rfl <;> rfl

theorem get_seenOf_attribute : (seenOf document).get ("_attrs." ++ key) = .null := by
  have other : ∀ field ∈ seenFields, ("_attrs." ++ key == field) = false := by
    simp only [seenFields, forall_mem_cons]
    simp [String.ext_iff]
  simp only [seenFields, forall_mem_cons] at other
  simp [seenOf, seenFields, Document.get, lookup_cons, other]

def CondResult.AboutVisibility : CondResult → Prop
  | .predicates conjuncts => ∀ predicate ∈ conjuncts, predicate.field = "visibility"
  | _ => True

theorem aboutVisibility_compileAttributeMatch
    (compiled : compileAttributeMatch py attributes attrPath operator expected = .ok result) :
    result.AboutVisibility := by
  unfold compileAttributeMatch at compiled
  repeat' split at compiled
  all_goals cases compiled <;> trivial

theorem aboutVisibility_orResult {field : Option String}
    (known : ∀ name ∈ field, name = "visibility") :
    (orResult field values sawUncompilable).AboutVisibility := by
  unfold orResult
  split
  · trivial
  · cases field with
    | none => trivial
    | some name => simpa [CondResult.AboutVisibility] using known name rfl

mutual

theorem aboutVisibility_compileCondition {py : Python} {attributes : Document} :
    ∀ {condition : Condition} {result : CondResult},
      compileCondition py attributes condition = .ok result → result.AboutVisibility
  | .catalogLookupPublicAllowed, _, compiled => by
    cases compiled
    simp [CondResult.AboutVisibility]
  | .attributeMatch .., _, compiled => by
    rw [compileCondition] at compiled
    exact aboutVisibility_compileAttributeMatch compiled
  | .conjunction _, _, compiled => by
    rw [compileCondition] at compiled
    exact aboutVisibility_compileAnd (by simp) compiled
  | .disjunction _, _, compiled => by
    rw [compileCondition] at compiled
    split at compiled
    · cases compiled
      trivial
    · exact aboutVisibility_compileOr (by simp) compiled
  | .negation _, _, compiled => by
    cases compiled
    trivial
  | .negationOfNothing, _, compiled => by
    cases compiled
    trivial
  | .other .., _, compiled => by
    cases compiled
    trivial

theorem aboutVisibility_compileAnd {py : Python} {attributes : Document} :
    ∀ {conditions : List Condition} {predicates : List Access.FieldPredicate}
      {sawUncompilable : Bool} {result : CondResult},
      (∀ predicate ∈ predicates, predicate.field = "visibility") →
      compileAnd py attributes predicates sawUncompilable conditions = .ok result →
      result.AboutVisibility
  | [], predicates, sawUncompilable, _, known, compiled => by
    rw [compileAnd] at compiled
    cases compiled
    unfold predicateResult
    repeat' split
    all_goals trivial
  | condition :: _, _, _, _, known, compiled => by
    rw [compileAnd] at compiled
    split at compiled
    · cases compiled
      trivial
    · exact aboutVisibility_compileAnd known compiled
    next more own =>
      have about : (CondResult.predicates more).AboutVisibility :=
        aboutVisibility_compileCondition own
      refine aboutVisibility_compileAnd (fun predicate mem => ?_) compiled
      exact (mem_append.mp mem).elim (known predicate) (about predicate)
    · exact aboutVisibility_compileAnd known compiled
    · cases compiled

theorem aboutVisibility_compileOr {py : Python} {attributes : Document} :
    ∀ {conditions : List Condition} {field : Option String} {values : List String}
      {sawUncompilable : Bool} {result : CondResult},
      (∀ name ∈ field, name = "visibility") →
      compileOr py attributes field values sawUncompilable conditions = .ok result →
      result.AboutVisibility
  | [], _, _, _, _, known, compiled => by
    rw [compileOr] at compiled
    cases compiled
    exact aboutVisibility_orResult known
  | condition :: _, _, _, _, _, known, compiled => by
    rw [compileOr] at compiled
    split at compiled
    · cases compiled
      trivial
    · exact aboutVisibility_compileOr known compiled
    next branch own =>
      have about : (CondResult.predicates [branch]).AboutVisibility :=
        aboutVisibility_compileCondition own
      split at compiled
      · refine aboutVisibility_compileOr (fun name same => ?_) compiled
        cases same
        exact about branch (mem_singleton_self branch)
      · exact aboutVisibility_compileOr known compiled
    · exact aboutVisibility_compileOr known compiled
    · cases compiled

end

section Seen

variable {py : Python} {scope : ReadScope} {document : Document}

theorem holdsFor_seenOf
    (compiled : compileConditions py attributes conditions = .ok result) :
    result.holdsFor (seenOf document) = result.holdsFor document := by
  have about : result.AboutVisibility := aboutVisibility_compileAnd (by simp) compiled
  cases result with
  | predicates conjuncts =>
    rw [Bool.eq_iff_iff, CondResult.holdsFor, CondResult.holdsFor, all_eq_true, all_eq_true]
    refine forall₂_congr fun predicate mem => ?_
    have seen : predicate.field ∈ seenFields := by
      simp [about predicate mem, seenFields]
    simp only [Access.FieldPredicate.matches, get_seenOf seen]
  | satisfied | unsatisfiable | uncompilable => rfl

theorem located_seenOf (located : scope.Located py document) :
    scope.Located py (seenOf document) := by
  intro predicate mem
  have seen : ∃ pinned : Access.FieldPredicate, predicate = .field pinned ∧
      pinned.field ∈ seenFields := by
    simp only [scopePredicates, mem_append, Option.mem_toList, Option.map_eq_some_iff] at mem
    rcases mem with ⟨_, _, rfl⟩ | ⟨_, _, rfl⟩
    · exact ⟨_, rfl, by simp [seenFields]⟩
    · exact ⟨_, rfl, by simp [seenFields]⟩
  obtain ⟨pinned, rfl, seen⟩ := seen
  have matched := located _ mem
  simpa only [Predicate.matches, Access.FieldPredicate.matches, get_seenOf seen] using matched

theorem hides_seenOf_iff :
    scope.Hides py (seenOf document) policy ↔ scope.Hides py document policy := by
  refine and_congr_right fun _ => and_congr_right fun _ => exists_congr fun result => ?_
  refine and_congr_right fun compiled => ?_
  rw [holdsFor_seenOf compiled]

theorem offers_seenOf_iff :
    scope.Offers py (seenOf document) policy ↔ scope.Offers py document policy := by
  refine and_congr_right fun _ => and_congr_right fun _ => exists_congr fun result => ?_
  refine and_congr_right fun compiled => ?_
  rw [holdsFor_seenOf compiled]

/-- Every predicate of a row needs an attribute, and a document as the policies see it has none. -/
theorem StoredGrant.not_satisfiedBy_seenOf {grant : StoredGrant}
    (restricted : grant.attributePredicates ≠ []) : ¬ grant.SatisfiedBy py (seenOf document) := by
  intro satisfied
  obtain ⟨element, rest, elements⟩ := exists_cons_of_ne_nil restricted
  obtain ⟨_, predicate, compiled, _, _, compiles, matched⟩ :=
    satisfied element (elements ▸ mem_cons_self)
  unfold AttributePredicate.compile at compiles
  split at compiles
  all_goals cases compiles
  all_goals
    simp [Predicate.matches, Access.FieldPredicate.matches, Access.RangePredicate.matches,
      get_seenOf_attribute, Access.isOneOf] at matched

end Seen

section Exact

variable {base : PolicyService} {store : GrantStore} {py : Python} {request : FilterRequest}
  {principalId : String} {document : Document}

theorem mem_grantClauses :
    clause ∈ ((store.service base).grantClauses py (request.identified principalId)).1 ↔
      ∃ grant ∈ store.forClauses base request principalId,
        ((grant.row store.selectsPredicates).attributeClause py request.catalogId
          request.collectionId).1 = some clause := by
  change clause ∈ (((store.forClauses base request principalId).map
    (StoredGrant.row store.selectsPredicates)).map
      (·.attributeClause py request.catalogId request.collectionId)).filterMap Prod.fst ↔ _
  simp

theorem matches_attributeClause_iff {grant : StoredGrant}
    (located : request.scope.Located py document) :
    (∃ clause, ((grant.row store.selectsPredicates).attributeClause py request.catalogId
        request.collectionId).1 = some clause ∧ clause.matches py document) ↔
      store.selectsPredicates ∧ grant.attributePredicates ≠ [] ∧
        PredicateElements (·.matches py document) grant.attributePredicates := by
  have pinned : ∀ predicates, (scopeClause predicates request.catalogId
      request.collectionId).matches py document ↔
        ∀ predicate ∈ predicates, predicate.matches py document := by
    intro _
    have scope : (scopePredicates request.catalogId request.collectionId).all
        (·.matches py document) := all_eq_true.mpr located
    simp only [scopeClause, AccessClause.matches, all_append, scope, Bool.true_and, all_eq_true]
  rw [exists_attributeClause_iff, ← exists_parsePredicates_iff]
  simp only [pinned]

theorem GrantsOnly.offers_iff (only : GrantsOnly base store py request principalId) :
    (∃ policy ∈ (store.service base).resolveEffectivePolicies
        (request.identified principalId).resolution, request.scope.Offers py document policy) ↔
      ∃ policy, (store.service base).Grants (request.identified principalId).resolution policy ∧
        request.scope.Offers py document policy := by
  simp only [PolicyService.mem_resolveEffectivePolicies_iff]
  constructor
  · rintro ⟨policy, held | granted, offers⟩
    · exact absurd offers.2.1 (only.held policy held offers.1)
    · exact ⟨policy, granted, offers⟩
  · rintro ⟨policy, granted, offers⟩
    exact ⟨policy, .inr granted, offers⟩

/-- A row has a clause although its effect or its elements rule it out. -/
theorem exists_unfit_clause_iff (py : Python) (request : FilterRequest) (grant : StoredGrant) :
    (∃ clause, ((grant.row store.selectsPredicates).attributeClause py request.catalogId
        request.collectionId).1 = some clause ∧
      ¬ (grant.effect = .allow ∧
        ∀ element ∈ grant.attributePredicates, PredicateElement (fun _ => True) element)) ↔
    store.selectsPredicates ∧ grant.attributePredicates ≠ [] ∧
      PredicateElements (fun _ => True) grant.attributePredicates ∧
      (grant.effect = .deny ∨
        ∃ element ∈ grant.attributePredicates, ∀ entries, element ≠ .dict entries) := by
  have compiles : (∃ predicates, parsePredicates grant.attributePredicates = some predicates ∧
      (compileAttributePredicates predicates).2 = false) ↔
        PredicateElements (fun _ => True) grant.attributePredicates := by
    rw [← exists_parsePredicates_iff]
    simp
  have unfit : PredicateElements (fun _ => True) grant.attributePredicates →
      (¬ (grant.effect = .allow ∧
        ∀ element ∈ grant.attributePredicates, PredicateElement (fun _ => True) element) ↔
      (grant.effect = .deny ∨
        ∃ element ∈ grant.attributePredicates, ∀ entries, element ≠ .dict entries)) := by
    intro elements
    rw [not_and_or]
    refine or_congr (by cases grant.effect <;> simp) ?_
    rw [not_forall₂]
    refine exists_congr fun element => ⟨?_, ?_⟩
    · intro ⟨mem, malformed⟩
      refine ⟨mem, fun entries eq => malformed ?_⟩
      exact elements element mem ⟨entries, eq⟩
    · intro ⟨mem, other⟩
      exact ⟨mem, fun ⟨entries, _, _, eq, _⟩ => other entries eq⟩
  rw [exists_attributeClause_iff]
  refine and_congr_right fun _ => and_congr_right fun _ => ?_
  constructor
  · intro ⟨predicates, parsed, compiled, bad⟩
    have elements := compiles.mp ⟨predicates, parsed, compiled⟩
    exact ⟨elements, (unfit elements).mp bad⟩
  · intro ⟨elements, bad⟩
    have ⟨predicates, parsed, compiled⟩ := compiles.mpr elements
    exact ⟨predicates, parsed, compiled, (unfit elements).mpr bad⟩

end Exact

/-- The predicates restrict what is read exactly where the granted policies let no document through
by themselves and the rows that have a clause are allow rows whose elements are all read. -/
theorem attributesRestrict_iff (base : PolicyService) (store : GrantStore) (py : Python)
    (request : FilterRequest) (principalId : String)
    (only : GrantsOnly base store py request principalId) :
    AttributesRestrict base store py request principalId ↔
      ¬ Loosened base store py request principalId := by
  constructor
  · intro ⟨documents, clauses⟩ loosened
    cases loosened with
    | policies document located unfailing unhidden policy granted offered =>
      -- Without its attributes the document is admitted as before and satisfies no row.
      have seen : (request.identified principalId).scope.Located py (seenOf document) :=
        located_seenOf located
      have ⟨filter, compiled, admitted⟩ := (exists_admits_iff seen).mpr
        ⟨unfailing, fun policy mem hides => unhidden policy mem (hides_seenOf_iff.mp hides),
          .inl (only.offers_iff.mpr ⟨policy, granted, offers_seenOf_iff.mpr offered⟩)⟩
      have ⟨grant, mem, _, satisfied⟩ := documents filter _ compiled admitted
      exact grant.not_satisfiedBy_seenOf (only.restricted grant mem) satisfied
    | clause selected grant mem restricted compiles unfit =>
      have ⟨clause, contributed, bad⟩ :=
        (exists_unfit_clause_iff py request grant).mpr ⟨selected, restricted, compiles, unfit⟩
      exact bad (clauses grant mem clause contributed)
  · intro tight
    have clauses : ∀ grant ∈ store.forClauses base request principalId, ∀ clause,
        ((grant.row store.selectsPredicates).attributeClause py request.catalogId
          request.collectionId).1 = some clause →
        grant.effect = .allow ∧
          ∀ element ∈ grant.attributePredicates, PredicateElement (fun _ => True) element := by
      intro grant mem clause contributed
      by_contra bad
      have ⟨selected, restricted, compiles, unfit⟩ :=
        (exists_unfit_clause_iff py request grant).mp ⟨clause, contributed, bad⟩
      exact tight (.clause selected grant mem restricted compiles unfit)
    refine ⟨fun filter document compiled admitted => ?_, clauses⟩
    have located := ReadScope.located_of_admits compiled admitted
    have ⟨unfailing, unhidden, offered⟩ :=
      (exists_admits_iff located).mp ⟨filter, compiled, admitted⟩
    rcases offered with offered | ⟨clause, mem, matched⟩
    · have ⟨policy, granted, offers⟩ := only.offers_iff.mp offered
      exact absurd (.policies document located unfailing unhidden policy granted offers) tight
    · have ⟨grant, listed, contributed⟩ := mem_grantClauses.mp mem
      have ⟨allow, elements⟩ := clauses grant listed clause contributed
      refine ⟨grant, mem_append_right _ listed, allow, fun element stored => ?_⟩
      have ⟨_, _, holding⟩ :=
        (matches_attributeClause_iff located).mp ⟨clause, contributed, matched⟩
      have ⟨entries, _, _, eq, _⟩ := elements element stored
      exact holding element stored ⟨entries, eq⟩

/-! One principal with one grant on the role `editor`, whose policy allows every read. -/

def departmentIs (value : String) : Value :=
  .dict [("key", .text "dept"), ("op", .text "eq"), ("values", .list [.text value])]

def editorGrant (effect : Effect) (attributePredicates : List Value) : StoredGrant :=
  { grantOf .role "editor" effect with attributePredicates }

def editorStore (selectsPredicates : Bool) (grant : StoredGrant) : GrantStore where
  roles name schema :=
    if name = "editor" ∧ schema = "iam" then some ⟨"editor", ["read"]⟩ else none
  grants schema := if schema = "iam" then [grant] else []
  now := 1
  selectsPredicates := selectsPredicates

def catalogRead : FilterRequest where
  principals := []
  catalogId := some "c1"
  collectionId := none
  assetId := none
  principal := none
  principalId := none

def documentOfDepartment (dept : String) : Document :=
  [("catalog_id", .text "c1"), ("_attrs.dept", .text dept)]

theorem grantsOnly_editorStore :
    GrantsOnly (editorPlatform []) (editorStore selectsPredicates (editorGrant effect [element]))
      .literal catalogRead "u1" := by
  constructor
  · intro _ held
    cases held
  · intro _ mem
    rcases mem_append.mp mem with mem | mem <;> cases mem with
    | head => exact cons_ne_nil element []
    | tail _ mem => cases mem

/-- The grant of a role that the tables no longer hold: only the clause of the row is left. -/
def retiredStore : GrantStore :=
  { editorStore true (editorGrant .allow [departmentIs "a"]) with roles := fun _ _ => none }

theorem not_loosened_retiredStore :
    ¬ Loosened (editorPlatform []) retiredStore .literal catalogRead "u1" := by
  intro loosened
  cases loosened with
  | policies _ _ _ _ _ granted =>
    have member := PolicyService.mem_resolveEffectivePolicies_iff.mpr (.inr granted)
    cases member
  | clause _ _ mem _ _ unfit =>
    cases mem_singleton.mp mem
    rcases unfit with deny | ⟨_, stored, other⟩
    · cases deny
    · cases mem_singleton.mp stored
      exact other _ rfl

theorem retired_role_restricted :
    AttributesRestrict (editorPlatform []) retiredStore .literal catalogRead "u1" ∧
      ∃ filter, (retiredStore.service (editorPlatform [])).compileReadFilter .literal
          (catalogRead.identified "u1") = .ok filter ∧
        filter.admits .literal (documentOfDepartment "a") = true ∧
        filter.admits .literal (documentOfDepartment "b") = false := by
  refine ⟨(attributesRestrict_iff _ _ _ _ _ ⟨?_, ?_⟩).mpr not_loosened_retiredStore, _, rfl, ?_⟩
  · intro _ held
    cases held
  · exact (@grantsOnly_editorStore true _ _).restricted
  · decide

/-- The tables of PostgreSQL lose the predicate of an allow row on the way. With the column
selected, a deny row has an ALLOW clause of its own and so has a row of junk. -/
theorem predicates_do_not_restrict : ¬ AttributesRestrict (editorPlatform [])
      (editorStore false (editorGrant .allow [departmentIs "a"])) .literal catalogRead "u1" ∧
    ¬ AttributesRestrict (editorPlatform [])
      (editorStore true (editorGrant .deny [departmentIs "a"])) .literal catalogRead "u1" ∧
    ¬ AttributesRestrict (editorPlatform []) (editorStore true (editorGrant .allow [.text "junk"]))
      .literal catalogRead "u1" := by
  refine ⟨?_, ?_, ?_⟩
  · intro ⟨documents, _⟩
    obtain ⟨_, mem, _, satisfied⟩ := documents _ (documentOfDepartment "b") rfl rfl
    have only : ∀ grant ∈ (editorStore false (editorGrant .allow [departmentIs "a"])).rowsRead
        (editorPlatform []) catalogRead "u1", grant = editorGrant .allow [departmentIs "a"] := by
      intro grant mem
      rcases mem_append.mp mem with mem | mem <;> exact mem_singleton.mp mem
    cases only _ mem
    obtain ⟨_, _, _, eq, parsed, compiled, holds⟩ :=
      satisfied (departmentIs "a") (mem_singleton_self _)
    cases eq
    cases parsed
    cases compiled
    exact absurd holds (by decide)
  · intro ⟨_, clauses⟩
    have ⟨allow, _⟩ := clauses _ (mem_singleton_self _) _ rfl
    cases allow
  · intro ⟨_, clauses⟩
    have ⟨_, elements⟩ := clauses _ (mem_singleton_self _) _ rfl
    obtain ⟨_, _, _, eq, _⟩ := elements (.text "junk") (mem_singleton_self _)
    cases eq

end Dynastore.Iam
