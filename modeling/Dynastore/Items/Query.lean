import Dynastore.Access.Postgres
import Dynastore.Foundation.Select

/-! The items of a collection as rows of its hub table with their sidecar rows, the requests on
them, and the statement the query optimizer builds for a request. -/

namespace Dynastore.Items

open Access (AccessFilter AttributeCondition PgClause)

/-! ## Items -/

structure Envelope where
  visibility : Option String
  owner : Option String
  attrs : Document

/-- A hub row with its sidecar rows. A UUID is the number it encodes, `sidecars` are the
sidecar tables that hold a row for it, and `columns` has the value of each SQL expression
of the field index as text. -/
structure ItemRow where
  geoid : Nat
  deleted : Bool
  externalId : Option String
  sidecars : List String
  columns : List (String × String)
  envelope : Option Envelope

def accessDocument (catalogId collectionId : String) (envelope : Option Envelope) : Document :=
  [("catalog_id", .text catalogId), ("collection_id", .text collectionId)] ++
    ((envelope.bind (·.visibility)).map fun text => ("visibility", Value.text text)).toList ++
    ((envelope.bind (·.owner)).map fun text => ("owner", Value.text text)).toList ++
    (envelope.elim [] (·.attrs)).map fun entry => ("_attrs." ++ entry.1, entry.2)

def ItemRow.document (row : ItemRow) (catalogId collectionId : String) : Document :=
  accessDocument catalogId collectionId row.envelope

/-! ## Collections -/

inductive ConsumerType where
  | generic
  | ogcFeatures
  | stac
  | ogcRecords
  | custom (name : String)
deriving DecidableEq

/-- A sidecar of a driver configuration with what its implementation says. The module of
the envelope sidecar registers it when it is loaded; its table has a TEXT `geoid`, while
that of the hub and of the other sidecars is a UUID. -/
structure Sidecar where
  sidecarId : String
  accessEnvelope : Bool
  registered : Bool
  serves : Option (List ConsumerType)
  mainGeometry : Bool
  defaultSort : Bool
  providesFeatureId : Bool
  envelopeRegistered : accessEnvelope = true → registered = true ∧ serves = none := by decide

def Sidecar.geoidColumn (sidecar : Sidecar) : Sql.ColumnType :=
  if sidecar.accessEnvelope then .text else .uuid

def Sidecar.joinAlias (sidecar : Sidecar) : String :=
  "sc_" ++ sidecar.sidecarId

def Sidecar.join (sidecar : Sidecar) : Sql.Join :=
  { tableAlias := sidecar.joinAlias, baseColumn := .uuid, joinedColumn := sidecar.geoidColumn }

/-- An entry of the field index: `sqlExpression` is a column of `tableAlias`, and no list of
functions stands for all of them. -/
structure FieldDef where
  name : String
  sidecarId : String
  tableAlias : String
  sqlExpression : String
  aggregations : Option (List String)
  transformations : Option (List String)
  filterable : Bool
  sortable : Bool
  groupable : Bool

def supports (functions : Option (List String)) (function : String) : Bool :=
  functions.all fun names => names.contains "*" || names.contains function

/-! ## Requests -/

structure FieldSelection where
  field : String
  aggregation : Option String
  transformation : Option String

/-- A structured filter, by its field and the rows its rendered comparison holds of. -/
structure FilterCondition where
  field : String
  test : ItemRow → Bool

/-- A piece of raw SQL by its words, the aliases it names once its fields are replaced by
their expressions, and the rows it holds of. -/
structure RawCondition where
  words : List String
  aliases : List String
  test : ItemRow → Bool

/-- What the item queries read of a `QueryRequest`; `spatial` and `datetime` are whether `bbox`
or `intersects`, and `datetime`, hold anything, and `rawWhere` is no empty text. -/
structure QueryRequest where
  select : List FieldSelection
  filters : List FilterCondition
  sort : List String
  groupBy : List String
  rawSelectWords : List String
  rawWhere : Option RawCondition
  cqlFilter : Option String
  itemIds : List String
  spatial : Bool
  datetime : Bool
  accessFilter : Option AccessFilter

namespace QueryRequest

variable (request : QueryRequest)

def selectsAll : Bool :=
  request.select.any (·.field = "*")

def aggregates : Bool :=
  request.select.any (·.aggregation.isSome)

def countOnly : Bool :=
  !request.select.isEmpty && request.select.all (·.aggregation.isSome)

def fields : List String :=
  request.select.map (·.field) ++ request.filters.map (·.field) ++ request.sort ++ request.groupBy

/-- An empty filter counts as none. -/
def cqlText : Option String :=
  request.cqlFilter.filter (· ≠ "")

end QueryRequest

def hubQueryFields : List String :=
  ["geoid", "deleted_at", "transaction_time", "write_id"]

/-- The driver configuration of a collection as the optimizer reads it: `dynamicField` is
what its sidecars resolve on demand, `validityAlias` the table with a validity column,
`parseCql` the translation of a CQL filter over its fields. -/
structure PgCollection where
  sidecars : List Sidecar
  fieldIndex : List FieldDef
  dynamicField : String → Option FieldDef
  validityAlias : Option String
  parseCql : String → Except String (Option RawCondition)

/-- The database server: its UUID texts, what it says of the select list and the casts of a
request, and its JSON comparisons. -/
structure Postgres where
  uuid : String → Option Nat
  uuidText : Nat → String
  projection : QueryRequest → Option Sql.Error
  satisfies : AttributeCondition → Option Envelope → Bool

inductive QueryError where
  | value (message : String)
  | sql (error : Sql.Error)
deriving DecidableEq

namespace PgCollection

variable (collection : PgCollection)

/-! ## Validation -/

/-- Check one named field: hub fields and `exempt` ones pass where the index lacks them. -/
def checkField (exempt : List String) (unknown name : String) (check : FieldDef → List String) :
    List String :=
  match collection.fieldIndex.find? (·.name = name) with
  | some field => check field
  | none =>
    if name ∈ hubQueryFields ∨ name ∈ exempt then []
    else (collection.dynamicField name).elim [unknown ++ name] check

def checkSelection (selection : FieldSelection) : List String :=
  if selection.field = "*" then []
  else collection.checkField [] "Unknown field: " selection.field fun field =>
    ((selection.aggregation.filter fun name => !supports field.aggregations name).map fun name =>
      s!"Field {selection.field} does not support aggregation {name}").toList ++
    ((selection.transformation.filter fun name =>
        !supports field.transformations name).map fun name =>
      s!"Field {selection.field} does not support transformation {name}").toList

def checkFilter (filter : FilterCondition) : List String :=
  -- without a validity column the filter is dropped later, so it is no error here
  let exempt := if collection.validityAlias.isNone then ["validity"] else []
  collection.checkField exempt "Cannot filter by unknown field: " filter.field fun field =>
    if field.filterable then [] else [s!"Field {filter.field} is not filterable"]

def checkSort (name : String) : List String :=
  collection.checkField [] "Cannot sort by unknown field: " name fun field =>
    if field.sortable then [] else [s!"Field {name} is not sortable"]

def checkGroupBy (name : String) : List String :=
  collection.checkField [] "Cannot group by unknown field: " name fun field =>
    if field.groupable then [] else [s!"Field {name} is not groupable"]

def checkUngrouped (request : QueryRequest) : List String :=
  if request.groupBy.isEmpty || request.selectsAll then []
  else
    (request.select.filter fun selection =>
      !request.groupBy.contains selection.field && selection.aggregation.isNone).map
      fun selection =>
        s!"Field {selection.field} is selected but neither grouped nor aggregated; " ++
          "add it to group_by or apply an aggregation"

def validateQuery (request : QueryRequest) : List String :=
  request.select.flatMap collection.checkSelection ++
    request.filters.flatMap collection.checkFilter ++
    request.sort.flatMap collection.checkSort ++
    request.groupBy.flatMap collection.checkGroupBy ++
    checkUngrouped request

/-- The names that are looked up: not the wildcard, nor a filter that is dropped for want of
a validity column. -/
def resolvedNames (request : QueryRequest) : List String :=
  ((request.select.map (·.field)).filter (· ≠ "*")) ++
    ((request.filters.map (·.field)).filter fun name =>
      !(name = "validity" && collection.validityAlias.isNone)) ++
    request.sort ++ request.groupBy

/-- The field index once the request is validated: a field resolved on demand is kept. -/
def indexFor (request : QueryRequest) : List FieldDef :=
  collection.fieldIndex ++ (collection.resolvedNames request).filterMap fun name =>
    if name ∈ hubQueryFields ∨ collection.fieldIndex.any (·.name = name) then none
    else collection.dynamicField name

def fieldFor (request : QueryRequest) (name : String) : Option FieldDef :=
  (collection.indexFor request).find? (·.name = name)

/-! ## Sidecars -/

def servesActiveConsumer (consumer : ConsumerType) (sidecar : Sidecar) : Bool :=
  !sidecar.registered || sidecar.serves.all (·.contains consumer)

def dropUnconditionalEnvelope (request : QueryRequest) (sidecars : List Sidecar) : List Sidecar :=
  if request.accessFilter.any (·.isUnconditional) then sidecars.filter (!·.accessEnvelope)
  else sidecars

def namedByRaw (request : QueryRequest) (words : List String) (sidecar : Sidecar) : Bool :=
  words.contains sidecar.joinAlias ||
    (collection.indexFor request).any fun field =>
      field.name ≠ "geoid" && words.contains field.name && field.sidecarId = sidecar.sidecarId

def requiresSidecar (request : QueryRequest) (raw : List RawCondition) (sidecar : Sidecar) : Bool :=
  (request.fields.any fun name =>
      (collection.fieldFor request name).any (·.sidecarId = sidecar.sidecarId)) ||
    collection.namedByRaw request (raw.flatMap (·.words) ++ request.rawSelectWords) sidecar ||
    (!request.countOnly && sidecar.registered && sidecar.mainGeometry) ||
    sidecar.accessEnvelope

def determineRequiredSidecars (consumer : ConsumerType) (request : QueryRequest)
    (raw : List RawCondition) : List Sidecar :=
  dropUnconditionalEnvelope request
    (if request.selectsAll then collection.sidecars.filter (servesActiveConsumer consumer)
      else collection.sidecars.filter (collection.requiresSidecar request raw))

/-! ## The statement -/

def liveCondition : Sql.Condition ItemRow :=
  { aliases := ["h"], holds := fun row => !row.deleted }

def filterCondition (request : QueryRequest) (filter : FilterCondition) :
    Option (Sql.Condition ItemRow) :=
  let tableAlias :=
    if filter.field ∈ hubQueryFields then some "h"
    else if filter.field = "validity" then collection.validityAlias
    else (collection.fieldFor request filter.field).map (·.tableAlias)
  tableAlias.map fun name => { aliases := [name], holds := filter.test }

def rawCondition (raw : RawCondition) : Sql.Condition ItemRow :=
  { aliases := raw.aliases, holds := raw.test }

/-- The join of the sidecar that gives the default order is an INNER one. -/
def sortCondition (request : QueryRequest) (sidecars : List Sidecar) :
    Option (Sql.Condition ItemRow) :=
  if request.sort.isEmpty && request.groupBy.isEmpty && !request.aggregates then
    (sidecars.find? (·.defaultSort)).map fun sidecar =>
      { aliases := [], holds := fun row => row.sidecars.contains sidecar.sidecarId }
  else none

/-- `apply_query_context` of the envelope sidecar, whose clause names the alias `ae`. -/
def accessCondition (postgres : Postgres) (filter : Option AccessFilter) :
    Option (Sql.Condition ItemRow) :=
  match filter.elim (some PgClause.never) AccessFilter.toPgClause with
  | none => none
  | some .never => some { aliases := [], holds := fun _ => false }
  | some (.anyOf clauses) =>
    some
      { aliases := ["ae"]
        holds := fun row =>
          clauses.any fun parts => parts.all fun part => postgres.satisfies part row.envelope }

/-- The restriction to `item_ids`, on the geoid or on the external id where the read policy
makes that the feature id. -/
def itemIdsCondition (postgres : Postgres) (externalIdAsFeatureId : Bool)
    (request : QueryRequest) (sidecars : List Sidecar) : Option (Sql.Condition ItemRow) :=
  if request.itemIds.isEmpty then none
  else
    match sidecars.find? fun sidecar => externalIdAsFeatureId && sidecar.providesFeatureId with
    | none =>
      some
        { aliases := ["h"]
          holds := fun row => request.itemIds.any fun id => postgres.uuid id = some row.geoid }
    | some sidecar =>
      some
        { aliases := [sidecar.joinAlias, "h"]
          holds := fun row =>
            request.itemIds.contains (row.externalId.getD (postgres.uuidText row.geoid)) }

def statement (postgres : Postgres) (consumer : ConsumerType) (externalIdAsFeatureId : Bool)
    (request : QueryRequest) (raw : List RawCondition) : Sql.Select ItemRow :=
  -- a required sidecar without a registered implementation is passed over
  let sidecars :=
    (collection.determineRequiredSidecars consumer request raw).filter (·.registered)
  { base := "h"
    joins := sidecars.map Sidecar.join
    projection := postgres.projection { request with accessFilter := none }
    conditions :=
      liveCondition :: request.filters.filterMap (collection.filterCondition request) ++
        raw.map rawCondition ++ (sortCondition request sidecars).toList ++
        (sidecars.filter (·.accessEnvelope)).flatMap (fun _ =>
          (accessCondition postgres request.accessFilter).toList) ++
        (itemIdsCondition postgres externalIdAsFeatureId request sidecars).toList }

def rawConditions (request : QueryRequest) : Except String (List RawCondition) :=
  match request.cqlText with
  | none => .ok request.rawWhere.toList
  | some text =>
    match collection.parseCql text with
    | .error message => .error ("Invalid CQL filter: " ++ message)
    | .ok parsed => .ok (request.rawWhere.toList ++ parsed.toList)

/-- `_apply_query_transformations` with `build_optimized_query`. -/
def buildQuery (postgres : Postgres) (consumer : ConsumerType) (externalIdAsFeatureId : Bool)
    (request : QueryRequest) : Except QueryError (Sql.Select ItemRow) :=
  match collection.rawConditions request with
  | .error message => .error (.value message)
  | .ok raw =>
    match collection.validateQuery request with
    | [] => .ok (collection.statement postgres consumer externalIdAsFeatureId request raw)
    | errors => .error (.value ("Invalid query: " ++ String.intercalate "; " errors))

def Refuses (request : QueryRequest) : Prop :=
  (∃ message, collection.rawConditions request = .error message) ∨
    collection.validateQuery request ≠ []

/-! ## The envelope join -/

def AccessAware : Prop :=
  ∃ sidecar ∈ collection.sidecars, sidecar.accessEnvelope = true

variable {collection}

theorem buildQuery_of_refuses (refused : collection.Refuses request) (postgres : Postgres)
    (consumer : ConsumerType) (externalIdAsFeatureId : Bool) :
    ∃ error, collection.buildQuery postgres consumer externalIdAsFeatureId request =
      .error error := by
  unfold buildQuery
  cases parsed : collection.rawConditions request with
  | error message => exact ⟨.value message, rfl⟩
  | ok =>
    have invalid : collection.validateQuery request ≠ [] := by
      simpa [Refuses, parsed] using refused
    cases errors : collection.validateQuery request with
    | nil => exact absurd errors invalid
    | cons => exact ⟨_, rfl⟩

theorem buildQuery_of_not_refuses (valid : ¬ collection.Refuses request) (postgres : Postgres)
    (consumer : ConsumerType) (externalIdAsFeatureId : Bool) :
    ∃ statement, collection.buildQuery postgres consumer externalIdAsFeatureId request =
      .ok statement := by
  unfold buildQuery
  cases parsed : collection.rawConditions request with
  | error message => exact absurd (.inl ⟨message, parsed⟩) valid
  | ok =>
    cases errors : collection.validateQuery request with
    | nil => exact ⟨_, rfl⟩
    | cons => exact absurd (.inr (by simp [errors])) valid

theorem not_accepted_of_accessAware (aware : collection.AccessAware)
    (restricted : request.accessFilter.any (·.isUnconditional) = false)
    {statement : Sql.Select ItemRow}
    (built : collection.buildQuery postgres consumer externalIdAsFeatureId request = .ok statement)
    : ¬ statement.Accepted := by
  have ⟨sidecar, listed, envelope⟩ := aware
  unfold buildQuery at built
  split at built
  · cases built
  · rename_i raw parsed
    split at built
    · cases built
      have required : sidecar ∈ collection.determineRequiredSidecars consumer request raw := by
        have ⟨registered, serves⟩ := sidecar.envelopeRegistered envelope
        rw [determineRequiredSidecars, dropUnconditionalEnvelope, if_neg (by simp [restricted])]
        split
        · simp [listed, servesActiveConsumer, serves]
        · simp [listed, requiresSidecar, envelope]
      have joined : sidecar.join ∈
          (collection.statement postgres consumer externalIdAsFeatureId request raw).joins :=
        List.mem_map_of_mem
          (List.mem_filter.mpr ⟨required, (sidecar.envelopeRegistered envelope).1⟩)
      intro accepted
      have sameType := accepted.1 sidecar.join joined
      simp [Sidecar.join, Sidecar.geoidColumn, envelope] at sameType
    · cases built

end PgCollection

end Dynastore.Items
