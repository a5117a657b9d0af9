import Dynastore.Ingest.Sidecar

/-! `insert_or_update_distributed` of `item_distributed.py`: the item is looked up by the identity
rules of the write policy, the policy decides what a match means, and the hub row and the sidecar
rows are inserted or updated. Looking up, deciding and writing are separate functions here; a
decision is what all that is written hangs on. -/

namespace Dynastore.Ingest

inductive WriteConflictPolicy where
  | update
  | newVersion
  | refuse
  | refuseReturn
  | refuseFail
deriving DecidableEq

inductive BatchConflictPolicy where
  | refuse
deriving DecidableEq

structure IdentityRule where
  matchOn : List ComputedKind
  onMatch : Option WriteConflictPolicy
deriving DecidableEq

def IdentityRule.name (rule : IdentityRule) : String :=
  String.intercalate "," (rule.matchOn.map ComputedKind.value)

structure ItemsWritePolicy where
  identity : List IdentityRule
  onConflict : WriteConflictPolicy
  onBatchConflict : Option BatchConflictPolicy
  enableValidity : Bool
  enableBatchInsert : Bool

def hubTable : String := ""

def placeTable : String := "place"

/-- A collection on PostgreSQL. Its sidecars are the effective ones: no two of one kind, and
always the attributes. Each has a table of its own beside the hub. -/
structure Collection where
  catalogId : String
  collectionId : String
  postgres : Postgres
  policy : Option ItemsWritePolicy
  sidecars : List Sidecar
  /-- Empty where partitioning is disabled. -/
  partitionKeys : List String
  distinct : (hubTable :: placeTable :: sidecars.map Sidecar.sidecarId).Nodup
  attributed : ∃ config, Sidecar.attributes config ∈ sidecars

/-- A prepared item. The payloads of the sidecars and of the place table leave out the
geoid, which is that of the plan. -/
structure Plan where
  geoid : Geoid
  hubPayload : Payload
  sidecarPayloads : List (String × Payload)
  placePayload : Option Payload
  context : Context

structure ConflictError where
  message : String
  geoid : Geoid
  matcher : String
deriving DecidableEq

/-- `SidecarRejectedError`, and the entry of a report it becomes. -/
structure Rejection where
  geoid : Option Geoid
  externalId : Option String
  sidecarId : Option String
  matcher : Option String
  reason : String
  message : String
deriving DecidableEq

inductive WriteError where
  | conflict (error : ConflictError)
  | rejected (rejection : Rejection)
  | valueError (message : String)
  | runtimeError (message : String)
  | database (message : String)
deriving DecidableEq

def WriteError.isConflict : WriteError → Bool
  | .conflict _ => true
  | _ => false

inductive Result where
  | row (geoid : Geoid) (hub : Row)
  | echoed (geoid : Geoid)

/-! ## Identity resolution -/

namespace Collection

variable (collection : Collection)

/-- The lookups read the table of the geometries, which a collection without geometries
does not have; a lookup fails with the message of the server. -/
def hasGeometries : Bool :=
  collection.sidecars.any (·.sidecarId = "geometries")

def resolveExistingItem (store : Store) (context : Context) (matcher : ComputedKind)
    (sidecar : Sidecar) : Except String (Option ActiveRec) :=
  match sidecar.query collection.postgres matcher context with
  | none => .ok none
  | some query =>
    if collection.hasGeometries then
      .ok ((store.newest Item.transactionTime query).map fun found => ⟨found.1, found.2⟩)
    else .error "relation of the geometries does not exist"

def fieldHits (store : Store) (context : Context) (matcher : ComputedKind) :
    Except String (List (Geoid × ActiveRec)) := do
  let records ← collection.sidecars.mapM (collection.resolveExistingItem store context matcher)
  return Dict.firstBy (fun record => some record.geoid) (records.filterMap id)

def ruleHits (store : Store) (context : Context) :
    List ComputedKind → Except String (Option (List (List (Geoid × ActiveRec))))
  | [] => .ok (some [])
  | matcher :: matchers => do
      let hits ← collection.fieldHits store context matcher
      if hits.isEmpty then return none
      let others ← ruleHits store context matchers
      return others.map (hits :: ·)

def commonRecord : List (List (Geoid × ActiveRec)) → Option ActiveRec
  | [] => none
  | first :: others =>
    (first.find? fun hit => others.all fun hits => hits.any (·.1 = hit.1)).map Prod.snd

def resolveRule (store : Store) (context : Context) (rule : IdentityRule) :
    Except String (Option ActiveRec) := do
  let hits ← collection.ruleHits store context rule.matchOn
  return hits.bind commonRecord

def resolveRules (store : Store) (context : Context) :
    List IdentityRule → Except String (Option (ActiveRec × IdentityRule))
  | [] => .ok none
  | rule :: rules => do
      match ← collection.resolveRule store context rule with
      | some record => return some (record, rule)
      | none => resolveRules store context rules

def rules : List IdentityRule :=
  match collection.policy with
  | some policy => policy.identity
  | none => [⟨[.externalId], none⟩]

def resolve (store : Store) (context : Context) :
    Except String (Option (ActiveRec × IdentityRule)) :=
  collection.resolveRules store context collection.rules

end Collection

/-! ## The decision -/

def selectEffectiveOnConflict (policy : Option ItemsWritePolicy) (rule : IdentityRule) :
    WriteConflictPolicy :=
  match policy with
  | none => .update
  | some policy => rule.onMatch.getD policy.onConflict

def effectiveOnConflict (policy : Option ItemsWritePolicy) (rule : IdentityRule) :
    WriteConflictPolicy :=
  let selected := selectEffectiveOnConflict policy rule
  if selected = .newVersion ∧ !policy.any ItemsWritePolicy.enableValidity then .update
  else selected

inductive Decision where
  | unacceptable (sidecarId : String)
  | conflict (error : ConflictError)
  | echo (geoid : Geoid)
  | insert
  | newVersion (record : ActiveRec)
  | refuse (record : ActiveRec) (rule : IdentityRule)
  | update (record : ActiveRec)
deriving DecidableEq

/-- The decisions that write nothing and raise nothing that ends the batch. -/
def Decision.isIdle : Decision → Bool
  | .unacceptable _ => true
  | .echo _ => true
  | .refuse _ _ => true
  | _ => false

def Decision.conflictError : Decision → Option ConflictError
  | .conflict error => some error
  | _ => none

def Decision.bare : Decision → Decision
  | .newVersion record => .newVersion ⟨record.geoid, none⟩
  | .refuse record rule => .refuse ⟨record.geoid, none⟩ rule
  | .update record => .update ⟨record.geoid, none⟩
  | decision => decision

def duplicateError (geoid : Geoid) (rule : IdentityRule) : ConflictError :=
  let name := rule.name
  { message := s!"Write refused: duplicate detected via [{name}] (geoid={geoid}); " ++
      "policy=refuse_batch"
    geoid, matcher := name }

def identityMatchError (geoid : Geoid) (rule : IdentityRule) : ConflictError :=
  let name := rule.name
  { message := s!"Write refused: identity match via [{name}] (geoid={geoid}); " ++
      "policy=REFUSE_FAIL"
    geoid, matcher := name }

def decisionOn (policy : Option ItemsWritePolicy) : Option (ActiveRec × IdentityRule) → Decision
  | none => .insert
  | some (record, rule) =>
    if policy.bind ItemsWritePolicy.onBatchConflict = some .refuse then
      .conflict (duplicateError record.geoid rule)
    else
      match effectiveOnConflict policy rule with
      | .refuseFail => .conflict (identityMatchError record.geoid rule)
      | .refuseReturn => .echo record.geoid
      | .newVersion => .newVersion record
      | .refuse => .refuse record rule
      | .update => .update record

namespace Collection

variable (collection : Collection)

def unacceptable (plan : Plan) : Option String :=
  (collection.sidecars.find? fun sidecar =>
    !sidecar.isAcceptable plan.hubPayload plan.context).map Sidecar.sidecarId

def decision (store : Store) (plan : Plan) : Except WriteError Decision :=
  match collection.unacceptable plan with
  | some sidecarId => .ok (.unacceptable sidecarId)
  | none =>
    match collection.resolve store plan.context with
    | .error message => .error (.database message)
    | .ok found => .ok (decisionOn collection.policy found)

/-! ## Writing -/

def sameKey (conflictColumns : List String) (left right : Row) : Bool :=
  conflictColumns.all fun column => left column = right column

/-- `INSERT .. ON CONFLICT (conflictColumns) DO UPDATE`, among the rows of one geoid. -/
def upsertRows (columnDefault : String → Cell) (conflictColumns : List String)
    (payload : Payload) (rows : List Row) : List Row :=
  let row := Row.ofPayload columnDefault payload
  if rows.any (sameKey conflictColumns row) then
    rows.map fun old =>
      if sameKey conflictColumns row old then
        old.overwrite (payload.filter fun entry => !conflictColumns.contains entry.1)
      else old
  else rows ++ [row]

def upsertSidecarTable (item : Item) (table : String) (conflictColumns : List String)
    (payload : Payload) : Item :=
  { item with
    sidecars := fun other =>
      if other = table then
        upsertRows (collection.postgres.columnDefault table) conflictColumns payload
          (item.sidecars table)
      else item.sidecars other }

def conflictColumns (sidecar : Sidecar) : List String :=
  collection.partitionKeys.filter (!sidecar.identityColumns.contains ·) ++ sidecar.identityColumns

def stripUndeclaredColumns (sidecar : Sidecar) (payload : Payload) : Payload :=
  if sidecar.hasValidity || collection.partitionKeys.contains "validity" then payload
  else payload.filter (·.1 ≠ "validity")

def finalPayload (plan : Plan) (hubRow : Row) (context : Context) (sidecar : Sidecar) :
    Option Payload :=
  match plan.sidecarPayloads.lookup sidecar.sidecarId, sidecar.isMandatory with
  | none, false => none
  | payload, _ =>
    some (collection.stripUndeclaredColumns sidecar
      (sidecar.finalizeUpsertPayload (payload.getD []) hubRow context))

def preparePlace (plan : Plan) : Sidecar → Option Payload
  | .geometries _ => plan.placePayload
  | _ => none

/-- One sidecar of an item that is inserted. `pad` is what a statement makes of the payload
of a table before it is written. -/
def insertSidecar (pad : String → Payload → Payload) (plan : Plan) (item : Item)
    (sidecar : Sidecar) : Item :=
  match collection.finalPayload plan item.hub plan.context sidecar with
  | none => item
  | some payload =>
    let written := collection.upsertSidecarTable item sidecar.sidecarId
      (collection.conflictColumns sidecar) (pad sidecar.sidecarId payload)
    match preparePlace plan sidecar with
    | none => written
    | some place =>
      collection.upsertSidecarTable written placeTable ["geoid"] (pad placeTable place)

def insertedItem (pad : String → Payload → Payload) (plan : Plan) : Item :=
  collection.sidecars.foldl (collection.insertSidecar pad plan)
    { hub := Row.ofPayload (collection.postgres.columnDefault hubTable)
        (pad hubTable plan.hubPayload)
      sidecars := fun _ => [] }

def newItem (plan : Plan) : Item :=
  collection.insertedItem (fun _ payload => payload) plan

def executeDistributedInsert (store : Store) (plan : Plan) :
    Except WriteError (Store × Option Result) :=
  match store.get plan.geoid with
  | some _ => .error (.database "duplicate key value violates unique constraint")
  | none =>
    let item := collection.newItem plan
    .ok (store.put plan.geoid item, some (.row plan.geoid item.hub))

def expireItem (expireAt : Int) (item : Item) : Item :=
  { item with
    sidecars := fun table =>
      match collection.sidecars.find? fun sidecar => sidecar.sidecarId = table with
      | some sidecar =>
        if sidecar.enableValidity then
          (item.sidecars table).map (sidecar.expireVersion expireAt)
        else item.sidecars table
      | none => item.sidecars table }

/-- The close point of the archived version: where the new one starts. -/
def expireAt (plan : Plan) : Int :=
  (plan.context.validFrom <|> (plan.hubPayload.lookup "valid_from").bind Cell.instant <|>
    (plan.hubPayload.lookup "transaction_time").bind Cell.instant).getD plan.context.clock

def archive (store : Store) (record : ActiveRec) (plan : Plan) : Store :=
  match store.get record.geoid with
  | some item => store.put record.geoid (collection.expireItem (expireAt plan) item)
  | none => store

def updateValidity (plan : Plan) (record : ActiveRec) : Range :=
  record.validity.getD ⟨plan.context.validFrom <|> some plan.context.clock, plan.context.validTo⟩

def updateHubPayload (plan : Plan) (record : ActiveRec) : Payload :=
  if collection.partitionKeys.contains "validity" &&
    (record.validity.isSome || (plan.hubPayload.lookup "validity").isNone) then
    Dict.assign plan.hubPayload "validity" (.range (updateValidity plan record))
  else plan.hubPayload

def updateSidecar (plan : Plan) (hubPayload : Payload) (context : Context) (item : Item)
    (sidecar : Sidecar) : Item :=
  match collection.finalPayload plan (Row.ofPayload (fun _ => .null) hubPayload) context
    sidecar with
  | none => item
  | some payload =>
    collection.upsertSidecarTable item sidecar.sidecarId
      (collection.conflictColumns sidecar) payload

def updatedItem (plan : Plan) (record : ActiveRec) (item : Item) : Item :=
  let hubPayload := collection.updateHubPayload plan record
  let context := { plan.context with validity := some (updateValidity plan record) }
  collection.sidecars.foldl (collection.updateSidecar plan hubPayload context)
    { item with hub := item.hub.overwrite (hubPayload.filter (·.1 ≠ "geoid")) }

def executeDistributedUpdate (store : Store) (plan : Plan) (record : ActiveRec) :
    Store × Option Result :=
  match store.get record.geoid with
  | none => (store, none)
  | some item =>
    let updated := collection.updatedItem plan record item
    (store.put record.geoid updated, some (.row record.geoid updated.hub))

def validateUpdate (plan : Plan) (record : ActiveRec) : Option String :=
  collection.sidecars.findSome? fun sidecar =>
    (sidecar.validateUpdate ((plan.sidecarPayloads.lookup sidecar.sidecarId).getD []) record
      plan.context).map fun error =>
      let sidecarId := sidecar.sidecarId
      s!"Sidecar {sidecarId} rejected update: {error}"

def notAcceptable (plan : Plan) (sidecarId : String) : Rejection :=
  let catalogId := collection.catalogId
  let collectionId := collection.collectionId
  { geoid := none, externalId := plan.context.externalId, sidecarId := some sidecarId
    matcher := none, reason := "sidecar_not_acceptable"
    message := s!"Sidecar '{sidecarId}' refused the feature " ++
      s!"for collection '{catalogId}/{collectionId}'" }

def refusedByPolicy (plan : Plan) (record : ActiveRec) : Rejection :=
  let catalogId := collection.catalogId
  let collectionId := collection.collectionId
  { geoid := some record.geoid, externalId := plan.context.externalId, sidecarId := none
    matcher := none, reason := "write_policy_refuse"
    message := s!"Feature refused by write policy for collection " ++
      s!"'{catalogId}/{collectionId}'" }

def perform (store : Store) (plan : Plan) : Decision → Except WriteError (Store × Option Result)
  | .unacceptable sidecarId => .error (.rejected (collection.notAcceptable plan sidecarId))
  | .conflict error => .error (.conflict error)
  | .echo geoid => .ok (store, some (.echoed geoid))
  | .insert => collection.executeDistributedInsert store plan
  | .newVersion record =>
    collection.executeDistributedInsert (collection.archive store record plan) plan
  | .refuse record _ => .error (.rejected (collection.refusedByPolicy plan record))
  | .update record =>
    match collection.validateUpdate plan record with
    | some message => .error (.valueError message)
    | none => .ok (collection.executeDistributedUpdate store plan record)

def insertOrUpdateDistributed (store : Store) (plan : Plan) :
    Except WriteError (Store × Option Result) := do
  collection.perform store plan (← collection.decision store plan)

end Collection

end Dynastore.Ingest
