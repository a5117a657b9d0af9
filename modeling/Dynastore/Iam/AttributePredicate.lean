import Dynastore.Iam.Policy

/-! The `attribute_predicates` of a grant row, read from JSON and compiled into one ALLOW clause per
row. -/

namespace Dynastore.Iam

open Access (RangeKind Predicate AccessClause)

inductive PredicateOp where
  | isIn
  | eq
  | lte (kind : RangeKind)
  | gte (kind : RangeKind)
  | between (kind : RangeKind)
  | unknown (text : String)

def PredicateOp.ofText : String → PredicateOp
  | "in" => .isIn
  | "eq" => .eq
  | "lte" => .lte .numeric
  | "lte:timestamp" => .lte .timestamp
  | "gte" => .gte .numeric
  | "gte:timestamp" => .gte .timestamp
  | "between" => .between .numeric
  | "between:timestamp" => .between .timestamp
  | text => .unknown text

def validKey (key : String) : Bool :=
  match key.toList with
  | [] => false
  | first :: rest =>
    (first.isAlpha || first == '_') && rest.all fun char => char.isAlphanum || char == '_'

structure AttributePredicate where
  key : String
  op : PredicateOp
  values : List String
  key_valid : validKey key = true

def textsOf : List Value → Option (List String)
  | [] => some []
  | .text content :: rest => (textsOf rest).map (content :: ·)
  | _ :: _ => none

/-- `AttributePredicate(**entries)`, absent where the validation raises. -/
def AttributePredicate.parse (entries : List (String × Value)) : Option AttributePredicate :=
  match entries.lookup "key", entries.lookup "op", (entries.lookup "values").getD (.list []) with
  | some (.text key), some (.text op), .list elements =>
    match textsOf elements with
    | some values =>
      if valid : validKey key = true then some ⟨key, .ofText op, values, valid⟩ else none
    | none => none
  | _, _, _ => none

/-- The compilers of `PREDICATE_REGISTRY`, absent where the predicate is uncompilable. -/
def AttributePredicate.compile (predicate : AttributePredicate) : Option Predicate :=
  let field := "_attrs." ++ predicate.key
  match predicate.op, predicate.values with
  | .isIn, [] => none
  | .isIn, values => some (.field ⟨field, values⟩)
  | .eq, [value] => some (.field ⟨field, [value]⟩)
  | .lte kind, [bound] => some (.range ⟨field, .lte bound, kind⟩)
  | .gte kind, [bound] => some (.range ⟨field, .gte bound, kind⟩)
  | .between kind, [low, high] => some (.range ⟨field, .between low high, kind⟩)
  | _, _ => none

/-- `compile_attribute_predicates`: what compiles, and whether something does not. -/
def compileAttributePredicates (predicates : List AttributePredicate) : List Predicate × Bool :=
  (predicates.filterMap AttributePredicate.compile, predicates.any (·.compile.isNone))

def GrantRow.rawPredicates (py : Python) (row : GrantRow) : List Value :=
  match row.attributePredicates with
  | .list elements => elements
  | .text content =>
    match py.jsonLoads content with
    | some (.list elements) => elements
    | _ => []
  | _ => []

/-- The dictionaries among the elements, parsed; elements of other types are passed over. -/
def parsePredicates : List Value → Option (List AttributePredicate)
  | [] => some []
  | .dict entries :: rest =>
    match AttributePredicate.parse entries, parsePredicates rest with
    | some predicate, some predicates => some (predicate :: predicates)
    | _, _ => none
  | _ :: rest => parsePredicates rest

def scopePredicates (catalogId collectionId : Option String) : List Predicate :=
  (catalogId.map fun id => Predicate.field ⟨"catalog_id", [id]⟩).toList ++
    (collectionId.map fun id => Predicate.field ⟨"collection_id", [id]⟩).toList

def scopeClause (predicates : List Predicate) (catalogId collectionId : Option String) :
    AccessClause :=
  ⟨scopePredicates catalogId collectionId ++ predicates⟩

/-- The clause a grant row contributes, and whether it is dropped as uncompilable. -/
def GrantRow.attributeClause (py : Python) (row : GrantRow)
    (catalogId collectionId : Option String) : Option AccessClause × Bool :=
  if (row.rawPredicates py).isEmpty then (none, false)
  else
    match parsePredicates (row.rawPredicates py) with
    | none => (none, true)
    | some predicates =>
      match compileAttributePredicates predicates with
      | (_, true) => (none, true)
      | (compiled, false) => (some (scopeClause compiled catalogId collectionId), false)

/-- `_compile_grant_attribute_clauses`. Unlike the policy resolver it passes the
collection id as it is. -/
def PolicyService.compileGrantAttributeClauses (service : PolicyService) (py : Python)
    (principalId catalogId collectionId : Option String) : List AccessClause × Bool :=
  match principalId, service.iamStorage.bind (·.resolveEffectiveGrants) with
  | some principalId, some resolveGrants =>
    let rows :=
      (resolveGrants principalId (service.resolveSchema catalogId) collectionId).getD []
    let clauses := rows.map (·.attributeClause py catalogId collectionId)
    (clauses.filterMap Prod.fst, clauses.any Prod.snd)
  | _, _ => ([], false)

end Dynastore.Iam
