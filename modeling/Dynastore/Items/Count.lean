import Dynastore.Foundation.Table
import Dynastore.Items.Query
import Mathlib.Data.List.Dedup

/-! `stream_items` with `include_total_count` on PostgreSQL, and when its total tells a caller about
rows that the caller's access filter hides. -/

namespace Dynastore.Items

open PgCollection

open Access (AccessFilter)

structure ItemsCountConfig where
  estimateCount : Bool := true
  exactCountThreshold : Int := 50000

/-- What the service resolves for a collection before it reads a row. Its read policy says
which id a feature has, and `pushdown` is the select list it narrows a request to. -/
structure ItemCollection where
  catalogId : String
  collectionId : String
  physSchema : Option String
  physTable : Option String
  config : PgCollection
  countConfig : Option ItemsCountConfig
  externalIdAsFeatureId : Bool
  pushdown : QueryRequest → Option (List FieldSelection)

abbrev HubTable := Table ItemRow ItemRow.geoid

def QueryRequest.hasFilters (request : QueryRequest) : Bool :=
  !request.filters.isEmpty || request.rawWhere.isSome || request.cqlText.isSome ||
    !request.itemIds.isEmpty || request.spatial || request.datetime

/-! ## Counting -/

/-- The rows a statement returns for the selected ones: each of them, one for each group,
or a single row of aggregates. -/
inductive Shape where
  | rows
  | groups (expressions : List String)
  | aggregate

def ItemRow.column (row : ItemRow) (expression : String) : Option String :=
  row.columns.lookup expression

def Shape.count (selected : List ItemRow) : Shape → Nat
  | .rows => selected.length
  | .groups expressions => (selected.map fun row => expressions.map row.column).dedup.length
  | .aggregate => 1

theorem Shape.count_perm (shape : Shape) (same : these.Perm others) :
    shape.count these = shape.count others := by
  cases shape with
  | rows => exact same.length_eq
  | groups => exact (same.map _).dedup.length_eq
  | aggregate => rfl

def PgCollection.expression (config : PgCollection) (request : QueryRequest) (name : String) :
    String :=
  if name ∈ hubQueryFields then "h." ++ name
  else (config.fieldFor request name).elim name (·.sqlExpression)

def PgCollection.shape (config : PgCollection) (request : QueryRequest) : Shape :=
  if !request.groupBy.isEmpty then .groups (request.groupBy.map (config.expression request))
  else if request.aggregates then
    let grouped := request.select.filter fun selection =>
      selection.aggregation.isNone && selection.field ≠ "*"
    if !grouped.isEmpty then .groups (grouped.map fun selection =>
      config.expression request selection.field)
    -- next to a wildcard the aggregation is not rendered
    else if request.selectsAll then .rows
    else .aggregate
  else .rows

namespace ItemCollection

variable (collection : ItemCollection) (postgres : Postgres) (consumer : ConsumerType)

def estimates : Bool :=
  (collection.countConfig.getD {}).estimateCount

def threshold : Int :=
  (collection.countConfig.getD {}).exactCountThreshold

def exactCount (request : QueryRequest) (table : HubTable) : Except QueryError Nat :=
  match collection.config.buildQuery postgres consumer false request with
  | .error error => .error error
  | .ok statement =>
    match statement.run table.rows with
    | .error error => .error (.sql error)
    | .ok selected => .ok ((collection.config.shape request).count selected)

/-- `_resolve_number_matched`, where `reltuples` is the number of rows of the hub table. -/
def resolveNumberMatched (request : QueryRequest) (table : HubTable) : Except QueryError Nat :=
  let reltuples := table.rows.length
  if collection.estimates && !request.hasFilters && decide (collection.threshold ≤ reltuples) then
    .ok reltuples
  else collection.exactCount postgres consumer request table

def narrow (request : QueryRequest) : QueryRequest :=
  { request with select := (collection.pushdown request).getD request.select }

def totalCount (request : QueryRequest) (table : HubTable) : Except QueryError Nat :=
  if collection.physSchema.isNone then
    .error (.value s!"Collection '{collection.catalogId}/{collection.collectionId}' not found.")
  else if collection.physTable.isNone then .ok 0
  else
    match collection.config.buildQuery postgres consumer false (collection.narrow request) with
    | .error error => .error error
    | .ok _ => collection.resolveNumberMatched postgres consumer (collection.narrow request) table

/-! ## What the total depends on -/

/-- The collection is provisioned and the request passes validation. -/
def Serves (request : QueryRequest) : Prop :=
  collection.physSchema ≠ none ∧ collection.physTable ≠ none ∧
    ¬ collection.config.Refuses (collection.narrow request)

variable {collection postgres consumer} {request : QueryRequest} {left right : HubTable}

theorem narrow_hasFilters : (collection.narrow request).hasFilters = request.hasFilters := rfl

theorem totalCount_of_not_serves (unserved : ¬ collection.Serves request) :
    collection.totalCount postgres consumer request left =
      collection.totalCount postgres consumer request right := by
  unfold totalCount
  split
  · rfl
  split
  · rfl
  rename_i schema table
  have refused : collection.config.Refuses (collection.narrow request) := by
    by_contra valid
    refine unserved ⟨?_, ?_, valid⟩
    · simpa using schema
    · simpa using table
  have ⟨error, built⟩ := buildQuery_of_refuses refused postgres consumer false
  rw [built]

theorem totalCount_of_serves (served : collection.Serves request) :
    collection.totalCount postgres consumer request table =
      collection.resolveNumberMatched postgres consumer (collection.narrow request) table := by
  have ⟨schema, physical, valid⟩ := served
  have ⟨statement, built⟩ := buildQuery_of_not_refuses valid postgres consumer false
  rw [totalCount, if_neg (by simpa using schema), if_neg (by simpa using physical), built]

theorem resolveNumberMatched_of_threshold_le
    (estimable : (collection.estimates && !request.hasFilters))
    (large : collection.threshold ≤ table.rows.length) :
    collection.resolveNumberMatched postgres consumer request table = .ok table.rows.length := by
  rw [resolveNumberMatched, if_pos (by simp [estimable, large])]

theorem resolveNumberMatched_perm (same : left.rows.Perm right.rows) :
    collection.resolveNumberMatched postgres consumer request left =
      collection.resolveNumberMatched postgres consumer request right := by
  have counted : collection.exactCount postgres consumer request left =
      collection.exactCount postgres consumer request right := by
    unfold exactCount
    split
    · rfl
    · rename_i statement built
      by_cases accepted : statement.Accepted
      · rw [Sql.Select.run_of_accepted accepted, Sql.Select.run_of_accepted accepted]
        simp only
        rw [Shape.count_perm _ (same.filter _)]
      · have ⟨error, failed⟩ := Sql.Select.run_of_not_accepted accepted
        rw [failed, failed]
  unfold resolveNumberMatched
  rw [counted, same.length_eq]

theorem exactCount_of_restricted (aware : collection.config.AccessAware)
    (restricted : request.accessFilter.any (·.isUnconditional) = false) :
    collection.exactCount postgres consumer request left =
      collection.exactCount postgres consumer request right := by
  unfold exactCount
  split
  · rfl
  · rename_i statement built
    have ⟨error, failed⟩ := Sql.Select.run_of_not_accepted
      (not_accepted_of_accessAware aware restricted built)
    rw [failed, failed]

/-! ## Hidden rows -/

variable (collection postgres consumer)

def TotalHidesRows (py : Python) (filter : AccessFilter) (request : QueryRequest) : Prop :=
  ∀ left right : HubTable,
    (∀ row, filter.admits py (row.document collection.catalogId collection.collectionId) = true →
      (row ∈ left.rows ↔ row ∈ right.rows)) →
    collection.totalCount postgres consumer request left =
      collection.totalCount postgres consumer request right

def copies (row : ItemRow) (count : Nat) : HubTable where
  rows := (List.range count).map fun offset => { row with geoid := row.geoid + offset }
  distinct := by
    rw [List.map_map]
    refine List.nodup_range.map ?_
    intro first second same
    simpa using same

theorem copies_length (row : ItemRow) : (copies row count).rows.length = count := by
  simp [copies]

variable {collection postgres consumer} {py : Python} {filter : AccessFilter}

theorem exists_different_totals {row : ItemRow}
    (hidden : filter.admits py (row.document collection.catalogId collection.collectionId) = false)
    (served : collection.Serves request)
    (estimable : (collection.estimates && !request.hasFilters)) :
    ¬ collection.TotalHidesRows postgres consumer py filter request := by
  intro hides
  have total (count : Nat) (large : collection.threshold ≤ count) :
      collection.totalCount postgres consumer request (copies row count) = .ok count := by
    rw [totalCount_of_serves served, resolveNumberMatched_of_threshold_le, copies_length]
    · rwa [narrow_hasFilters]
    · rwa [copies_length]
  have unseen (count : Nat) (copy : ItemRow) (mem : copy ∈ (copies row count).rows) :
      filter.admits py (copy.document collection.catalogId collection.collectionId) = false := by
    simp only [copies, List.mem_map] at mem
    obtain ⟨_, _, rfl⟩ := mem
    exact hidden
  let count := collection.threshold.toNat
  have same := hides (copies row count) (copies row (count + 1)) (by
    intro copy admitted
    constructor
    · intro mem
      simp [unseen count copy mem] at admitted
    · intro mem
      simp [unseen (count + 1) copy mem] at admitted)
  rw [total count (by omega), total (count + 1) (by omega)] at same
  simp at same

theorem totalHidesRows_of_admits_all (all : ∀ row : ItemRow,
      filter.admits py (row.document collection.catalogId collection.collectionId)) :
    collection.TotalHidesRows postgres consumer py filter request := by
  intro left right same
  have permuted : left.rows.Perm right.rows :=
    (List.perm_ext_iff_of_nodup left.distinct.of_map right.distinct.of_map).mpr
      fun row => same row (all row)
  by_cases served : collection.Serves request
  · rw [totalCount_of_serves served, totalCount_of_serves served]
    exact resolveNumberMatched_perm permuted
  · exact totalCount_of_not_serves served

theorem totalHidesRows_of_exact (aware : collection.config.AccessAware)
    (restriction : request.accessFilter = some filter)
    (exact : (collection.estimates && !request.hasFilters) = false) :
    collection.TotalHidesRows postgres consumer py filter request := by
  by_cases unconditional : filter.isUnconditional
  · exact totalHidesRows_of_admits_all fun _ => AccessFilter.admits_of_isUnconditional unconditional
  · intro _ _ _
    by_cases served : collection.Serves request
    · have counted (table : HubTable) :
          collection.resolveNumberMatched postgres consumer (collection.narrow request) table =
            collection.exactCount postgres consumer (collection.narrow request) table :=
        if_neg (by simp [narrow_hasFilters, exact])
      rw [totalCount_of_serves served, totalCount_of_serves served, counted, counted]
      refine exactCount_of_restricted aware ?_
      simp [narrow, restriction, unconditional]
    · exact totalCount_of_not_serves served

/-- For a collection with the envelope sidecar, the total keeps hidden rows to itself exactly
where no planner estimate can be returned for the request, or the filter hides nothing. -/
theorem totalHidesRows_iff (aware : collection.config.AccessAware)
    (restriction : request.accessFilter = some filter) :
    collection.TotalHidesRows postgres consumer py filter request ↔
      collection.physSchema = none ∨ collection.physTable = none ∨
      collection.config.Refuses (collection.narrow request) ∨
      collection.estimates = false ∨ request.hasFilters = true ∨
      ∀ row : ItemRow,
        filter.admits py (row.document collection.catalogId collection.collectionId) = true := by
  constructor
  · intro hides
    by_contra exposed
    simp only [not_or, not_forall] at exposed
    obtain ⟨schema, physical, valid, estimates, unfiltered, row, hidden⟩ := exposed
    refine exists_different_totals (by simpa using hidden) ⟨schema, physical, valid⟩ ?_ hides
    simp [estimates, unfiltered]
  · intro condition
    rcases condition with missing | missing | refused | exact | filtered | all
    · exact fun _ _ _ => totalCount_of_not_serves fun served => served.1 missing
    · exact fun _ _ _ => totalCount_of_not_serves fun served => served.2.1 missing
    · exact fun _ _ _ => totalCount_of_not_serves fun served => served.2.2 refused
    · exact totalHidesRows_of_exact aware restriction (by simp [exact])
    · exact totalHidesRows_of_exact aware restriction (by simp [filtered])
    · exact totalHidesRows_of_admits_all all

/-! A provisioned collection with the envelope sidecar and no other, read under a filter that
admits public items only. -/

def envelopeSidecar : Sidecar where
  sidecarId := "access_envelope"
  accessEnvelope := true
  registered := true
  serves := none
  mainGeometry := false
  defaultSort := false
  providesFeatureId := false

def secured : ItemCollection where
  catalogId := "c"
  collectionId := "k"
  physSchema := some "s_c"
  physTable := some "t_k"
  config :=
    { sidecars := [envelopeSidecar]
      fieldIndex := []
      dynamicField := fun _ => none
      validityAlias := none
      parseCql := fun _ => .ok none }
  countConfig := none
  externalIdAsFeatureId := false
  pushdown := fun _ => none

def plainPostgres : Postgres where
  uuid _ := none
  uuidText _ := ""
  projection _ := none
  satisfies _ _ := false

def publicOnly : AccessFilter :=
  { allow := [⟨[.field ⟨"visibility", ["public"]⟩]⟩] }

def browse (itemIds : List String) : QueryRequest where
  select := [⟨"*", none, none⟩]
  filters := []
  sort := []
  groupBy := []
  rawSelectWords := []
  rawWhere := none
  cqlFilter := none
  itemIds := itemIds
  spatial := false
  datetime := false
  accessFilter := some publicOnly

def privateRow : ItemRow where
  geoid := 0
  deleted := false
  externalId := none
  sidecars := []
  columns := []
  envelope := some ⟨some "private", none, []⟩

theorem secured_accessAware : secured.config.AccessAware :=
  ⟨envelopeSidecar, by simp [secured], rfl⟩

theorem secured_serves (itemIds : List String) : secured.Serves (browse itemIds) := by
  refine ⟨by simp [secured], by simp [secured], ?_⟩
  intro refused
  rcases refused with ⟨_, parsed⟩ | invalid
  · simp [narrow, browse, rawConditions, QueryRequest.cqlText] at parsed
  · exact invalid rfl

theorem filtered_total_hides_rows :
    secured.config.AccessAware ∧ (browse ["1"]).accessFilter = some publicOnly ∧
    secured.TotalHidesRows plainPostgres .generic Python.literal publicOnly (browse ["1"]) :=
  ⟨secured_accessAware, rfl,
    (totalHidesRows_iff secured_accessAware rfl).mpr (.inr (.inr (.inr (.inr (.inl rfl)))))⟩

/-- A caller who may see no item of the collection reads its number of rows, at the default
count configuration. -/
theorem hidden_rows_counted :
    publicOnly.admits Python.literal (privateRow.document "c" "k") = false ∧
    secured.totalCount plainPostgres .generic (browse []) (copies privateRow 50000) = .ok 50000 ∧
    secured.totalCount plainPostgres .generic (browse []) (copies privateRow 50001) = .ok 50001 ∧
    ¬ secured.TotalHidesRows plainPostgres .generic Python.literal publicOnly (browse []) := by
  have hidden : publicOnly.admits Python.literal (privateRow.document "c" "k") = false := by
    decide
  have total (count : Nat) (large : 50000 ≤ count) :
      secured.totalCount plainPostgres .generic (browse []) (copies privateRow count) =
        .ok count := by
    have threshold : secured.threshold = 50000 := rfl
    rw [totalCount_of_serves (secured_serves []), resolveNumberMatched_of_threshold_le rfl,
      copies_length]
    rw [copies_length]
    omega
  exact ⟨hidden, total 50000 (by omega), total 50001 (by omega),
    exists_different_totals hidden (secured_serves []) rfl⟩

end ItemCollection

end Dynastore.Items
