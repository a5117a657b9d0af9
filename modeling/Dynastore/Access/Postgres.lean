import Dynastore.Access.Filter

/-! `access_filter_to_pg_clause` translates the attribute predicates of the ALLOW clauses; every
other predicate, the DENY clauses and the sub-filters are left out. -/

namespace Dynastore.Access

inductive AttributeCondition where
  | isAnyOf (key : String) (values : List String)
  | inRange (key : String) (range : Range) (kind : RangeKind)
deriving DecidableEq

/-- The clause: `FALSE`, or a disjunction of conjunctions. -/
inductive PgClause where
  | never
  | anyOf (clauses : List (List AttributeCondition))
deriving DecidableEq

def firstClassColumns : List String :=
  ["catalog_id", "collection_id", "visibility", "owner"]

def safeAttrKey (key : String) : Bool :=
  !key.toList.isEmpty && key.toList.all fun char => char.isAlphanum || char == '_'

def attrKey (field : String) : Option String :=
  (afterStart "_attrs." field).filter safeAttrKey

def Predicate.toPg : Predicate → Option AttributeCondition
  | .field predicate =>
    if predicate.field ∈ firstClassColumns ∨ predicate.values = [] then none
    else (attrKey predicate.field).map (.isAnyOf · predicate.values)
  | .range predicate =>
    (attrKey predicate.field).map (.inRange · predicate.range predicate.kind)

def AccessClause.toPg (clause : AccessClause) : Option (List AttributeCondition) :=
  let parts := clause.predicates.filterMap Predicate.toPg
  if parts.isEmpty then none else some parts

/-- `access_filter_to_pg_clause`, absent where no restriction is expressed. -/
def AccessFilter.toPgClause (filter : AccessFilter) : Option PgClause :=
  if filter.denyAll then some .never
  else if filter.allow.isEmpty then if filter.allowAll then none else some .never
  else
    let parts := filter.allow.filterMap AccessClause.toPg
    if parts.isEmpty then none else some (.anyOf parts)

end Dynastore.Access
