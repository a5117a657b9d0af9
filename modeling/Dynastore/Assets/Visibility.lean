import Dynastore.Access.Filter

/-! Which asset ids the caller of a request may see. Everything that goes wrong on the way to the
answer hides all of them. -/

namespace Dynastore.Assets

open Access (AccessFilter AccessClause)

/-- The snapshot of the caller that the authorization middleware publishes. -/
structure RequestVisibility where
  principals : List String
  principalId : Option String

/-- What the code that serves a request finds in its context: the snapshot, if any, and the
listing filters of the registered provider, which may raise. -/
structure Request where
  visibility : Option RequestVisibility
  assetListingFilter : Option (RequestVisibility → String → Option String → Option AccessFilter)

def idsOfClause (clause : AccessClause) : List String :=
  match clause.predicates with
  | [.field predicate] => if predicate.field = "id" then predicate.values else []
  | _ => []

def extractIdConstraint (filter : AccessFilter) : Option (List String) :=
  if filter.denyAll then some []
  else if filter.isUnconditional then none
  else if !filter.union.isEmpty || !filter.deny.isEmpty || filter.allowAll then some []
  else some (filter.allow.flatMap idsOfClause)

def resolveAssetListingIds (request : Request) (catalogId : String)
    (collectionId : Option String) : Option (List String) :=
  match request.visibility with
  | none => none
  | some visibility =>
    match request.assetListingFilter with
    | none => some []
    | some provider =>
      match provider visibility catalogId collectionId with
      | none => some []
      | some filter => extractIdConstraint filter

end Dynastore.Assets
