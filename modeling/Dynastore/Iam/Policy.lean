import Mathlib.Data.List.Dedup
import Dynastore.Iam.Condition

/-! The rows the policy service reads, and the service with the reads it is built on. -/

namespace Dynastore.Iam

structure Policy where
  id : String
  effect : Effect
  priority : Int
  actions : List String
  resources : List String
  conditions : List Condition

def Policy.matchesAction (py : Python) (policy : Policy) (action : String) : Bool :=
  policy.actions.any (py.reMatch · action)

def Policy.matchesResource (py : Python) (policy : Policy) (resource : String) : Bool :=
  policy.resources.any (py.reMatch · resource)

def Policy.denied (policy : Policy) : Policy :=
  { policy with effect := .deny }

structure Role where
  name : String
  policies : List String

inductive ObjectKind where
  | role
  | policy
  | other (kind : String)
deriving DecidableEq

/-- A grant as the resolver reads it. `attributePredicates` is `null` for a row whose
query did not select the column. -/
structure GrantRow where
  objectKind : ObjectKind
  objectRef : String
  effect : Effect
  attributePredicates : Value

def GrantRow.contribute (row : GrantRow) (policy : Policy) : Policy :=
  if row.effect = .deny then policy.denied else policy

/-- The reads of `iam_storage`. `resolveEffectiveGrants` is absent for a storage without
it, and its result is absent when it raises. -/
structure IamStorage where
  getRole : (name schema : String) → Option Role
  resolveEffectiveGrants : Option ((principalId schema : String) → (collectionId : Option String) →
      Option (List GrantRow))

structure PolicyService where
  iamStorage : Option IamStorage
  storedPolicy : (id schema partitionKey : String) → Option Policy
  storedPolicy_id : ∀ {id schema partitionKey policy},
    storedPolicy id schema partitionKey = some policy → policy.id = id
  physicalSchema : (catalogId : String) → Option String
  internalCollectionId : (catalogId collectionId : String) → Option String

namespace PolicyService

variable (service : PolicyService)

def resolveSchema (catalogId : Option String) : String :=
  match catalogId with
  | none => "iam"
  | some catalogId =>
    if catalogId = "" ∨ catalogId = "_system_" then "iam"
    else (service.physicalSchema catalogId).getD "iam"

def resolveCollectionInternalId (catalogId collectionId : Option String) : Option String :=
  match catalogId, collectionId with
  | some catalogId, some collectionId =>
    if catalogId = "" ∨ collectionId = "" then some collectionId
    else some ((service.internalCollectionId catalogId collectionId).getD collectionId)
  | _, collectionId => collectionId

def getRole (name schema : String) : Option Role :=
  service.iamStorage.bind (·.getRole name schema)

def getPolicy (id : String) (catalogId : Option String) : Option Policy :=
  let partitionKey :=
    match catalogId with
    | some catalogId => if catalogId = "" then "global" else catalogId
    | none => "global"
  service.storedPolicy id (service.resolveSchema catalogId) partitionKey

def findPolicy (catalogId : Option String) (id : String) : Option Policy :=
  match service.getPolicy id catalogId with
  | some policy => some policy
  | none => if catalogId.any (· ≠ "") then service.getPolicy id none else none

variable {service}

theorem findPolicy_id {id : String} (found : service.findPolicy catalogId id = some policy) :
    policy.id = id := by
  unfold findPolicy at found
  split at found
  next eq =>
    exact service.storedPolicy_id (found ▸ eq)
  · split at found
    · exact service.storedPolicy_id found
    · cases found

end PolicyService

/-! ## The grants table -/

/-- A row of a `grants` table, with the columns its queries read. -/
structure GrantRecord where
  subjectKind : String
  subjectRef : String
  objectKind : ObjectKind
  objectRef : String
  effect : Effect
  validFrom : Int
  validUntil : Option Int
  resourceKind : Option String
  resourceRef : Option String

def GrantRecord.activeFor (record : GrantRecord) (principalId : String) (now : Int) : Bool :=
  record.subjectKind = "principal" && record.subjectRef = principalId &&
    record.validFrom ≤ now && record.validUntil.all (now < ·)

def GrantRecord.inScope (record : GrantRecord) (collectionId : String) : Bool :=
  record.resourceKind.isNone ||
    (record.resourceKind = some "collection" && record.resourceRef = some collectionId)

/-- What both SELECT lists return of a row: they leave `attribute_predicates` out. -/
def GrantRecord.selected (record : GrantRecord) : GrantRow where
  objectKind := record.objectKind
  objectRef := record.objectRef
  effect := record.effect
  attributePredicates := .null

/-- `PostgresIamStorage.resolve_effective_grants`. A schema whose table is missing has no
rows. -/
def resolveEffectiveGrants (grants : String → List GrantRecord) (now : Int)
    (principalId schema : String) (collectionId : Option String) : List GrantRow :=
  let active := fun schema => (grants schema).filter (·.activeFor principalId now)
  let catalog :=
    if schema = "" ∨ schema = "iam" then []
    else
      match collectionId with
      | some collectionId => (active schema).filter (·.inScope collectionId)
      | none => active schema
  (active "iam" ++ catalog).map GrantRecord.selected

def postgresIamStorage (roles : String → String → Option Role)
    (grants : String → List GrantRecord) (now : Int) : IamStorage where
  getRole := roles
  resolveEffectiveGrants := some fun principalId schema collectionId =>
    some (resolveEffectiveGrants grants now principalId schema collectionId)

end Dynastore.Iam
