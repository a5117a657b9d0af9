import Dynastore.Ingest.Sidecar
import Dynastore.Items.Driver

/-! `build_optimized_query` clause by clause: the select list with the columns that sidecars
project, the joins, the conditions, the grouping and the order. Of an expression the statement keeps
the alias of its table and its text over that table; of a projection, the aliases it names and its
output name. -/

namespace Dynastore.Items

open Access (AccessFilter AttributeCondition PgClause)
open Ingest (Cell)

/-! ## Requests in full -/

structure Selection where
  field : String
  outputAlias : Option String
  aggregation : Option String
  transformation : Option String

def Selection.output (selection : Selection) : String :=
  (selection.outputAlias.filter (· ≠ "")).getD selection.field

def Selection.wildcard : Selection := ⟨"*", none, none, none⟩

theorem Selection.wildcard_ne_nil : [Selection.wildcard] ≠ [] := List.cons_ne_nil _ _

inductive Direction where
  | asc
  | desc
deriving DecidableEq

/-- A structured filter, by what its comparison says of a value of the field. -/
structure Comparison where
  field : String
  test : Cell → Bool

/-- Raw SQL of the select list: the words in it, the aliases it names, its output name,
whether its text ends in an `id`, and whether it is an aggregate. -/
structure RawSelect where
  words : List String
  aliases : List String
  output : String
  namesId : Bool
  aggregated : Bool

structure Expression where
  tableAlias : String
  term : String
deriving DecidableEq

/-- A column in raw SQL: a bare name, or an expression on a table. A constant stands where a
column was replaced by one. -/
inductive RawReference where
  | bare (name : String)
  | qualified (expression : Expression)
  | constant (term : String)
deriving DecidableEq

def RawReference.words : RawReference → List String
  | bare name => [name]
  | qualified expression => [expression.tableAlias, expression.term]
  | constant term => [term]

def RawReference.tableAlias : RawReference → Option String
  | bare _ => none
  | qualified expression => some expression.tableAlias
  | constant _ => none

/-- Raw SQL of the WHERE clause: the columns it reads, what it says of their values, and the
other words in it. -/
structure RawWhere where
  references : List RawReference
  otherWords : List String
  test : List Cell → Bool

def RawWhere.words (raw : RawWhere) : List String :=
  raw.references.flatMap RawReference.words ++ raw.otherWords

/-- `QueryRequest`; an empty select list is read as the wildcard. -/
structure Query where
  select : List Selection
  filters : List Comparison
  sort : List (String × Direction)
  groupBy : List String
  limit : Option Nat
  offset : Option Nat
  rawSelects : List RawSelect
  rawWhere : Option RawWhere
  itemIds : List String
  accessFilter : Option AccessFilter
  skipGeometry : Bool
  selects : select ≠ []

namespace Query

variable (query : Query)

def rawConditions : List RawCondition :=
  query.rawWhere.toList.map fun raw => ⟨raw.words, [], fun _ => true⟩

def request : QueryRequest where
  select := query.select.map fun selection =>
    ⟨selection.field, selection.aggregation, selection.transformation⟩
  filters := query.filters.map fun filter => ⟨filter.field, fun _ => true⟩
  sort := query.sort.map Prod.fst
  groupBy := query.groupBy
  rawSelectWords := query.rawSelects.flatMap RawSelect.words
  rawWhere := query.rawConditions.head?
  cqlFilter := none
  itemIds := query.itemIds
  spatial := false
  datetime := false
  accessFilter := query.accessFilter

def selectsAll : Bool := query.request.selectsAll

def aggregates : Bool := query.request.aggregates

def needs (name : String) : Bool :=
  (query.select.map Selection.field ++ query.filters.map Comparison.field ++
    query.sort.map Prod.fst).contains name

def includes (names : List String) (otherwise : Bool) : Bool :=
  if query.groupBy.isEmpty then otherwise else names.any query.groupBy.contains

end Query

/-! ## The columns of the sidecars -/

structure Projection where
  aliases : List String
  output : String
  namesId : Bool
  aggregated : Bool
deriving DecidableEq

namespace SidecarConfig

def column (config : SidecarConfig) (name : String) : Projection :=
  ⟨[config.sidecar.joinAlias], name, false, false⟩

def renamed (config : SidecarConfig) (name : String) : Projection :=
  ⟨[config.sidecar.joinAlias], name, name = "id", false⟩

variable (query : Query) (includeAll : Bool)

def shows (names : List String) (otherwise : Bool) : Bool :=
  includeAll || query.includes names otherwise

def attributeColumns (own : AttributesConfig) : List Projection :=
  let config := attributes own
  let wild := query.selectsAll
  ((own.externalIdField.filter fun name => shows query includeAll [name, "id"]
      (query.needs name || query.needs "id" || wild)).toList.map config.column) ++
    ((own.assetIdField.filter fun name => shows query includeAll [name]
      (query.needs name || wild)).toList.map config.column) ++
    (if own.jsonb then
      if includeAll || query.groupBy.isEmpty then [config.column own.jsonbColumnName] else []
    else
      (own.attributeSchema.filter fun name => shows query includeAll [name]
        (query.needs name || wild)).map config.column) ++
    ((own.columnarStats.filter fun name => shows query includeAll [name]
      (query.needs name || wild)).map config.column) ++
    (if own.jsonbStats && shows query includeAll ["attribute_stats"]
        (query.needs "attribute_stats" || wild) then [config.column "attribute_stats"] else [])

def geometryColumns (own : GeometriesConfig) : List Projection :=
  let config := geometries own
  let wild := query.selectsAll
  (if !query.skipGeometry && shows query includeAll [own.geomColumn, "geometry"]
      (query.needs own.geomColumn || query.needs "geometry" || wild)
    then [config.renamed own.geomColumn] else []) ++
    ((own.bboxColumn.filter fun name => shows query includeAll ["bbox", name]
      (query.needs "bbox" || query.needs name || wild)).toList.map config.renamed) ++
    (((own.h3Resolutions.map fun resolution => s!"h3_res{resolution}") ++
        own.s2Resolutions.map fun resolution => s!"s2_res{resolution}").filter
      fun name => shows query includeAll [name] (query.needs name || wild)).map config.column ++
    ((own.columnarStats.map GeometryStat.name).filter fun name => shows query includeAll [name]
      (query.needs name || wild)).map config.column ++
    (if own.jsonbStats && shows query includeAll ["geom_stats"]
        (query.needs "geom_stats" || wild) then [config.column "geom_stats"] else [])

def getSelectFields (config : SidecarConfig) : List Projection :=
  match config with
  | attributes own => attributeColumns query includeAll own
  | geometries own => geometryColumns query includeAll own
  | itemMetadata =>
    if query.groupBy.isEmpty then
      ["item_title", "item_description", "item_keywords"].map config.column
    else []
  | stacMetadata _ =>
    ["external_extensions", "external_assets", "stac_extra_fields"].map config.column
  | accessEnvelope _ => []

def contextFields (config : SidecarConfig) : List Projection :=
  match config with
  | attributes own => attributeColumns query false own
  | geometries own => geometryColumns query false own
  | itemMetadata =>
    if query.selectsAll || query.select.any fun selection =>
        selection.field.startsWith "item_" ||
          ["title", "description", "keywords"].contains selection.field
    then itemMetadata.getSelectFields query false else []
  | stacMetadata _ => []
  | accessEnvelope _ => []

end SidecarConfig

/-! ## Clauses -/

structure Join where
  config : SidecarConfig
  inner : Bool

def Join.tableAlias (join : Join) : String := join.config.sidecar.joinAlias

inductive Condition where
  /-- `h.deleted_at IS NULL`. -/
  | live
  | comparison (expression : Expression) (test : Cell → Bool)
  /-- Raw SQL with its fields replaced by their expressions. -/
  | raw (references : List RawReference) (test : List Cell → Bool)
  /-- `FALSE`. -/
  | never
  /-- The clause of the access filter, over the envelope under the alias `ae`. -/
  | access (clauses : List (List AttributeCondition))
  /-- `h.geoid = ANY(CAST(:_item_ids AS uuid[]))`. -/
  | geoidIn (ids : List String)
  /-- `COALESCE(column, h.geoid::text) = ANY(:_item_ids)`. -/
  | featureIdIn (column : Expression) (ids : List String)

def Condition.aliases : Condition → List String
  | live => ["h"]
  | comparison expression _ => [expression.tableAlias]
  | raw references _ => references.filterMap RawReference.tableAlias
  | never => []
  | access _ => ["ae"]
  | geoidIn _ => ["h"]
  | featureIdIn column _ => [column.tableAlias, "h"]

/-- A key of ORDER BY; the default order names its column without an alias. -/
structure OrderKey where
  tableAlias : Option String
  term : String
  direction : Direction

structure Statement where
  select : List Projection
  joins : List Join
  conditions : List Condition
  groupBy : List Expression
  orderBy : List OrderKey
  limit : Option Nat
  offset : Option Nat

def uniqueSelects (seen : List String) : List Projection → List Projection
  | [] => []
  | projection :: rest =>
    if projection.output ∈ seen then uniqueSelects seen rest
    else projection :: uniqueSelects (projection.output :: seen) rest

namespace DriverConfig

variable (config : DriverConfig) (consumer : ConsumerType) (externalIdAsFeatureId : Bool)
  (query : Query)

def fieldFor (name : String) : Option FieldDef :=
  config.collection.fieldFor query.request name

def expressionFor (name : String) : Option Expression :=
  if name ∈ hubQueryFields then some ⟨"h", name⟩
  else (config.fieldFor query name).map fun field => ⟨field.tableAlias, field.sqlExpression⟩

def joinedSidecars : List SidecarConfig :=
  config.sidecars.filter fun sidecar => sidecar.sidecar.registered &&
    ((config.collection.determineRequiredSidecars consumer query.request
      query.rawConditions).map Sidecar.sidecarId).contains sidecar.sidecarId

/-! ### The select list -/

def groupedOrAggregated (selection : Selection) : Bool :=
  query.groupBy.isEmpty || query.groupBy.contains selection.field || selection.aggregation.isSome

def fieldProjection (selection : Selection) : Option Projection :=
  (config.fieldFor query selection.field).map fun field =>
    ⟨[field.tableAlias], selection.output, false, selection.aggregation.isSome⟩

def explicitFieldNames : List String :=
  (query.select.map Selection.field).filter (· ≠ "*") ++ query.rawSelects.map RawSelect.output

def wildcardSelects (joined : List SidecarConfig) : List Projection :=
  (if query.groupBy.isEmpty then [⟨["h"], "*", false, false⟩] else []) ++
    (joined.flatMap fun sidecar =>
      (sidecar.getSelectFields query query.groupBy.isEmpty).filter fun projection =>
        projection.output ∉ explicitFieldNames query) ++
    query.select.filterMap fun selection =>
      if selection.field = "*" || !groupedOrAggregated query selection then none
      else config.fieldProjection query selection

/-- A hub field is projected under its own name, whatever is asked of it. -/
def explicitSelects : List Projection :=
  (if !query.aggregates && query.groupBy.isEmpty &&
      !(query.select.map Selection.field).contains "geoid"
    then [⟨["h"], "geoid", false, false⟩] else []) ++
    query.select.filterMap fun selection =>
      if !groupedOrAggregated query selection then none
      else if selection.field ∈ hubQueryFields then some ⟨["h"], selection.field, false, false⟩
      else config.fieldProjection query selection

def groupBySelects (selected : List Projection) : List Projection :=
  (query.groupBy.filter fun name => name ∉ selected.map Projection.output).filterMap fun name =>
    (config.expressionFor query name).map fun expression =>
      ⟨[expression.tableAlias], name, false, false⟩

def featureIdSidecar (joined : List SidecarConfig) : Option SidecarConfig :=
  joined.find? fun sidecar => externalIdAsFeatureId && sidecar.sidecar.providesFeatureId

def idProjection (joined : List SidecarConfig) : Projection :=
  match featureIdSidecar externalIdAsFeatureId joined with
  | some sidecar => ⟨[sidecar.sidecar.joinAlias, "h"], "id", true, false⟩
  | none => ⟨["h"], "id", true, false⟩

def rawProjection (raw : RawSelect) : Projection :=
  ⟨raw.aliases, raw.output, raw.namesId, raw.aggregated⟩

def selectList (joined : List SidecarConfig) : List Projection :=
  let named := if query.selectsAll then config.wildcardSelects query joined
    else config.explicitSelects query
  let unique := uniqueSelects [] (named ++ config.groupBySelects query named ++
    query.rawSelects.map rawProjection ++
    joined.flatMap fun sidecar => sidecar.contextFields query)
  if query.groupBy.isEmpty && !unique.any Projection.namesId then
    unique ++ [idProjection externalIdAsFeatureId joined]
  else unique

/-! ### Conditions -/

def filterCondition (filter : Comparison) : Option Condition :=
  if filter.field ∈ hubQueryFields then some (.comparison ⟨"h", filter.field⟩ filter.test)
  else if filter.field = "validity" then
    config.resolveValidityAlias.map fun name => .comparison ⟨name, "validity"⟩ filter.test
  else (config.fieldFor query filter.field).map fun field =>
    .comparison ⟨field.tableAlias, field.sqlExpression⟩ filter.test

/-- Bare names of the field become its expression, unless that expression is in the text
already. -/
def substituteField (references : List RawReference) (field : FieldDef) : List RawReference :=
  let expression : Expression := ⟨field.tableAlias, field.sqlExpression⟩
  if field.name = "geoid" || references.contains (.qualified expression) then references
  else references.map fun reference =>
    if reference = .bare field.name then .qualified expression else reference

def namesValidity (term : String) : Bool :=
  ["validity", "lower(validity)", "upper(validity)"].contains term

def unboundedPeriod : String := "'(,)'::tstzrange"

/-- Every remaining word `validity` is replaced, also one that has an alias before it, which
then has two. -/
def substituteValidity (validityAlias : Option String) : RawReference → RawReference
  | .bare name =>
    if name = "validity" then
      validityAlias.elim (.constant unboundedPeriod) fun name => .qualified ⟨name, "validity"⟩
    else .bare name
  | .qualified expression =>
    if namesValidity expression.term then
      .qualified ⟨expression.tableAlias ++ "." ++ validityAlias.getD unboundedPeriod,
        expression.term⟩
    else .qualified expression
  | .constant term => .constant term

def processedReferences (raw : RawWhere) : List RawReference :=
  ((config.collection.indexFor query.request).foldl substituteField raw.references).map
    (substituteValidity config.resolveValidityAlias)

def rawCondition (raw : RawWhere) : Condition :=
  .raw (config.processedReferences query raw) raw.test

def accessCondition : Option Condition :=
  match query.accessFilter.elim (some PgClause.never) AccessFilter.toPgClause with
  | none => none
  | some .never => some .never
  | some (.anyOf clauses) => some (.access clauses)

def featureIdColumn : SidecarConfig → Option String
  | .attributes own => own.externalIdField
  | _ => none

def itemIdsCondition (joined : List SidecarConfig) : Option Condition :=
  if query.itemIds.isEmpty then none
  else
    match featureIdSidecar externalIdAsFeatureId joined with
    | none => some (.geoidIn query.itemIds)
    | some sidecar => some (.featureIdIn
        ⟨sidecar.sidecar.joinAlias, (featureIdColumn sidecar).getD ""⟩ query.itemIds)

def conditions (joined : List SidecarConfig) : List Condition :=
  .live :: query.filters.filterMap (config.filterCondition query) ++
    query.rawWhere.toList.map (config.rawCondition query) ++
    (joined.filter (·.sidecar.accessEnvelope)).flatMap (fun _ => (accessCondition query).toList) ++
    (itemIdsCondition externalIdAsFeatureId query joined).toList

/-! ### Joins, grouping and order -/

def defaultOrder : Bool :=
  query.sort.isEmpty && query.groupBy.isEmpty && !query.aggregates

def joins (joined : List SidecarConfig) : List Join :=
  let provider := if defaultOrder query then joined.find? (·.sidecar.defaultSort) else none
  joined.map fun sidecar =>
    ⟨sidecar, provider.any (·.sidecarId = sidecar.sidecarId)⟩

def groupByList : List Expression :=
  if query.groupBy.isEmpty then
    if query.aggregates then
      (query.select.filter fun selection =>
        selection.aggregation.isNone && selection.field ≠ "*").filterMap fun selection =>
          config.expressionFor query selection.field
    else []
  else query.groupBy.filterMap (config.expressionFor query)

def getDefaultSort : SidecarConfig → List OrderKey
  | .attributes own => own.externalIdField.toList.map fun column => ⟨none, column, .asc⟩
  | _ => []

def orderBy (joined : List SidecarConfig) : List OrderKey :=
  if query.sort.isEmpty then
    if defaultOrder query then
      ((joined.find? (·.sidecar.defaultSort)).map getDefaultSort).getD []
    else []
  else query.sort.filterMap fun key =>
    (config.expressionFor query key.1).map fun expression =>
      ⟨some expression.tableAlias, expression.term, key.2⟩

def statement : Statement :=
  let joined := config.joinedSidecars consumer query
  { select := config.selectList externalIdAsFeatureId query joined
    joins := joins query joined
    conditions := config.conditions externalIdAsFeatureId query joined
    groupBy := config.groupByList query
    orderBy := config.orderBy query joined
    limit := query.limit
    offset := query.offset }

def buildOptimizedQuery : Except String Statement :=
  match config.collection.validateQuery query.request with
  | [] => .ok (config.statement consumer externalIdAsFeatureId query)
  | errors => .error ("Invalid query: " ++ String.intercalate "; " errors)

variable {config consumer externalIdAsFeatureId query} in
theorem buildOptimizedQuery_of_valid (valid : config.collection.validateQuery query.request = []) :
    config.buildOptimizedQuery consumer externalIdAsFeatureId query =
      .ok (config.statement consumer externalIdAsFeatureId query) := by
  rw [buildOptimizedQuery, valid]

end DriverConfig

end Dynastore.Items
