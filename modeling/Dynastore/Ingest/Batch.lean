import Dynastore.Ingest.Distributed

/-! Two ways of writing prepared plans in one transaction. `writeEach` calls
`insert_or_update_distributed` on one plan after the other. `batchInsertOrUpdateDistributed` looks
all plans up first, inserts the new ones with one statement per table and hands the rest to the
single-row path.

A statement for several rows names every column that one of its rows sets, and a row that leaves
such a column out gets NULL, not the default of the column. -/

namespace Dynastore.Ingest

/-- What became of a plan. A plan whose row was not found has no result. -/
inductive Outcome where
  | written (result : Result)
  | rejected (rejection : Rejection)
  | missing

/-- The store after a list of plans, and what became of each of them. -/
structure Report where
  store : Store
  outcomes : List Outcome

def writeAll {Entry : Type} (write : Store → Entry → Except WriteError (Store × Outcome)) :
    Store → List Entry → Except WriteError Report
  | store, [] => .ok ⟨store, []⟩
  | store, entry :: entries =>
    match write store entry with
    | .error error => .error error
    | .ok (next, outcome) =>
      match writeAll write next entries with
      | .error error => .error error
      | .ok report => .ok { report with outcomes := outcome :: report.outcomes }

theorem writeAll_cons_ok (done : writeAll write store (entry :: entries) = .ok report) :
    ∃ next outcome later, write store entry = .ok (next, outcome) ∧
      writeAll write next entries = .ok later ∧
      report = { later with outcomes := outcome :: later.outcomes } := by
  rw [writeAll] at done
  split at done
  · cases done
  next next outcome first =>
    split at done
    · cases done
    next later rest =>
      cases done
      exact ⟨next, outcome, later, first, rest, rfl⟩

def Rejection.forPlan (rejection : Rejection) (plan : Plan) : Rejection :=
  { rejection with geoid := some (rejection.geoid.getD plan.geoid) }

namespace Collection

variable (collection : Collection)

def writeOne (store : Store) (plan : Plan) : Except WriteError (Store × Outcome) :=
  match collection.insertOrUpdateDistributed store plan with
  | .ok (next, some result) => .ok (next, .written result)
  | .ok (next, none) => .ok (next, .missing)
  | .error (.rejected rejection) => .ok (store, .rejected (rejection.forPlan plan))
  | .error error => .error error

/-! ## Identity lookups for a whole list -/

def isBatchable : ComputedKind → Bool
  | .externalId => true
  | .geometryHash => true
  | _ => false

def allRulesBatchable : Bool :=
  collection.rules.all fun rule => rule.matchOn.all isBatchable

/-- The newest record of each of the values asked for. No more than its geoid is read. -/
def distinctOn (store : Store) (query : String → Item → Option (Option Range))
    (values : List String) : List (String × Geoid) :=
  values.dedup.filterMap fun value =>
    (store.newest Item.transactionTime (query value)).map fun found => (value, found.1)

def batchResolveByExternalId (store : Store) (externalIds : List String) :
    Except String (List (String × Geoid)) :=
  match externalIds, collection.sidecars.find? (·.sidecarId = "attributes") with
  | _ :: _, some (.attributes config) =>
    if config.enableExternalId then
      if collection.hasGeometries then
        .ok (distinctOn store (Sidecar.sameExternalId config) externalIds)
      else .error "relation of the geometries does not exist"
    else .ok []
  | _, _ => .ok []

def batchResolveByGeometryHash (store : Store) (hashes : List String) :
    Except String (List (String × Geoid)) :=
  match hashes with
  | [] => .ok []
  | _ :: _ =>
    if collection.hasGeometries then
      .ok (distinctOn store (Sidecar.sameGeometryHash collection.postgres) hashes)
    else .error "relation of the geometries does not exist"

def batchHit (byExternalId byGeometryHash : List (String × Geoid)) (context : Context) :
    ComputedKind → Option Geoid
  | .externalId =>
    (present context.externalId).bind fun externalId => byExternalId.lookup externalId
  | .geometryHash =>
    (present context.geometryHash).bind fun hash => byGeometryHash.lookup hash
  | _ => none

def batchRule (byExternalId byGeometryHash : List (String × Geoid)) (context : Context)
    (rule : IdentityRule) : Option Geoid :=
  match rule.matchOn.mapM (batchHit byExternalId byGeometryHash context) with
  | some (first :: others) => if others.all (· = first) then some first else none
  | _ => none

def batchResolve (store : Store) (accepted : List Plan) (context : Context) :
    Except String (Option (ActiveRec × IdentityRule)) :=
  if collection.allRulesBatchable then do
    let byExternalId ← collection.batchResolveByExternalId store
      (accepted.filterMap (present ·.context.externalId))
    let byGeometryHash ← collection.batchResolveByGeometryHash store
      (accepted.filterMap (present ·.context.geometryHash))
    return collection.rules.findSome? fun rule =>
      (batchRule byExternalId byGeometryHash context rule).map fun geoid =>
        (⟨geoid, none⟩, rule)
  else collection.resolve store context

def accepted (plans : List Plan) : List Plan :=
  plans.filter fun plan => (collection.unacceptable plan).isNone

def batchDecisions (store : Store) (plans : List Plan) : Except String (List (Plan × Decision)) :=
  plans.mapM fun plan =>
    match collection.unacceptable plan with
    | some sidecarId => .ok (plan, .unacceptable sidecarId)
    | none =>
      (collection.batchResolve store (collection.accepted plans) plan.context).map
        fun found => (plan, decisionOn collection.policy found)

/-! ## Statements for several rows -/

/-- NULL for the columns that only other rows of the statement set. -/
def padTo (columns : List String) (payload : Payload) : Payload :=
  payload ++ (columns.filter fun column => !(payload.map Prod.fst).contains column).map
    fun column => (column, .null)

def hubColumns (inserts : List Plan) : List String :=
  inserts.flatMap fun plan => plan.hubPayload.map Prod.fst

def batchHubRow (inserts : List Plan) (plan : Plan) : Row :=
  Row.ofPayload (collection.postgres.columnDefault hubTable)
    (padTo (hubColumns inserts) plan.hubPayload)

def sidecarColumns (inserts : List Plan) (table : String) : List String :=
  inserts.flatMap fun plan => collection.sidecars.flatMap fun sidecar =>
    match collection.finalPayload plan (collection.batchHubRow inserts plan) plan.context
      sidecar with
    | none => []
    | some payload =>
      (if sidecar.sidecarId = table then payload.map Prod.fst else []) ++
      (if placeTable = table then ((preparePlace plan sidecar).getD []).map Prod.fst else [])

def padding (inserts : List Plan) (table : String) : Payload → Payload :=
  if table = hubTable then padTo (hubColumns inserts)
  else padTo (collection.sidecarColumns inserts table)

def batchItem (inserts : List Plan) (plan : Plan) : Item :=
  collection.insertedItem (collection.padding inserts) plan

/-- The hub statement and the statements of the sidecars, for all plans to insert. -/
def batchInsert (store : Store) (inserts : List Plan) : Except WriteError Store :=
  if (inserts.map Plan.geoid).Nodup ∧ ∀ plan ∈ inserts, store.get plan.geoid = none then
    .ok (inserts.foldl
      (fun store plan => store.put plan.geoid (collection.batchItem inserts plan)) store)
  else .error (.database "duplicate key value violates unique constraint")

/-! ## The batch -/

def batchNotAcceptable (plan : Plan) (sidecarId : String) : Rejection :=
  { geoid := some plan.geoid, externalId := plan.context.externalId
    sidecarId := some sidecarId, matcher := none, reason := "sidecar_not_acceptable"
    message := s!"Sidecar '{sidecarId}' refused the feature" }

def batchRefused (plan : Plan) (record : ActiveRec) (rule : IdentityRule) : Rejection :=
  { geoid := some record.geoid, externalId := plan.context.externalId, sidecarId := none
    matcher := some rule.name, reason := "write_policy_refuse"
    message := "Feature refused by write policy" }

/-- A plan after the insert statements: what is not inserted, echoed or rejected goes
through the single-row path, whose rejections are not caught here. -/
def finishPlan (inserts : List Plan) (store : Store) :
    Plan × Decision → Except WriteError (Store × Outcome)
  | (plan, .unacceptable sidecarId) => .ok (store, .rejected (batchNotAcceptable plan sidecarId))
  | (_, .conflict error) => .error (.conflict error)
  | (_, .echo geoid) => .ok (store, .written (.echoed geoid))
  | (plan, .insert) =>
    .ok (store, .written (.row plan.geoid (collection.batchItem inserts plan).hub))
  | (plan, .refuse record rule) => .ok (store, .rejected (batchRefused plan record rule))
  | (plan, _) =>
    match collection.insertOrUpdateDistributed store plan with
    | .ok (next, some result) => .ok (next, .written result)
    | .ok (next, none) => .ok (next, .missing)
    | .error error => .error error

def insertPartition (decisions : List (Plan × Decision)) : List Plan :=
  (decisions.filter (·.2 = .insert)).map Prod.fst

def batchInsertOrUpdateDistributed (store : Store) (plans : List Plan) : Except WriteError Report :=
  match collection.batchDecisions store plans with
  | .error message => .error (.database message)
  | .ok decisions =>
    match decisions.findSome? (Decision.conflictError ·.2) with
    | some error => .error (.conflict error)
    | none =>
      let inserts := insertPartition decisions
      match collection.batchInsert store inserts with
      | .error error => .error error
      | .ok inserted => writeAll (collection.finishPlan inserts) inserted decisions

theorem batch_ok {collection : Collection}
    (done : collection.batchInsertOrUpdateDistributed store plans = .ok report) :
    ∃ decisions inserted, collection.batchDecisions store plans = .ok decisions ∧
      collection.batchInsert store (insertPartition decisions) = .ok inserted ∧
      writeAll (collection.finishPlan (insertPartition decisions)) inserted decisions =
        .ok report := by
  unfold batchInsertOrUpdateDistributed at done
  split at done
  · cases done
  next decisions taken =>
    split at done
    · cases done
    · simp only at done
      split at done
      · cases done
      next inserted ahead => exact ⟨decisions, inserted, taken, ahead, done⟩

end Collection

/-! ## A collection of parcels -/

def plainPostgres : Postgres where
  columnDefault _ _ := .null
  geometryHash row :=
    match row "geom" with
    | .text geometry => some geometry
    | _ => none
  attributesHash _ := none
  geohash _ := none
  attributesDigest attributes := attributes
  geohashOf wkb _ := wkb

def parcels (onConflict : WriteConflictPolicy) (onBatchConflict : Option BatchConflictPolicy) :
    Collection where
  catalogId := "land"
  collectionId := "parcels"
  postgres := plainPostgres
  policy := some
    { identity := [⟨[.externalId], none⟩], onConflict, onBatchConflict
      enableValidity := false, enableBatchInsert := true }
  sidecars := [.geometries ⟨none⟩, .attributes ⟨true, false, some "context", true⟩]
  partitionKeys := []
  distinct := by decide
  attributed := ⟨_, List.mem_cons_of_mem _ List.mem_cons_self⟩

def parcel (geoid : Geoid) (externalId geometry : String) (instant : Int) : Plan where
  geoid := geoid
  hubPayload := [("transaction_time", .time instant), ("deleted_at", .null)]
  sidecarPayloads :=
    [("geometries", [("geom", .text geometry)]),
      ("attributes", [("external_id", .text externalId)])]
  placePayload := none
  context :=
    { externalId := some externalId, geometryHash := some geometry, featureAttributes := none
      wkbHexProcessed := some geometry, validFrom := none, validTo := none, validity := none
      clock := instant }

def storedParcel : Store :=
  Register.empty.put 1 ((parcels .update none).newItem (parcel 1 "b" "p" 10))

end Dynastore.Ingest
