import Dynastore.Items.Reach

/-! A statement is closed when every alias that occurs in it is introduced exactly once, by the hub
or by one join. The joins come from the analysis of the request and the references from the fields,
the columns and the conditions, so the two have to agree. They do not for the access envelope, nor,
beside a wildcard, for the fields of a sidecar that does not serve the consumer. -/

namespace Dynastore.Items

open List Option Condition

namespace DriverConfig

variable {config : DriverConfig} {consumer : ConsumerType} {externalIdAsFeatureId : Bool}
  {query : Query}

/-! ## The columns of the sidecars -/

theorem aliases_attributeColumns :
    ∀ projection ∈ SidecarConfig.attributeColumns query includeAll own,
      projection.aliases = ["sc_attributes"] := by
  intro _ listed
  simp only [SidecarConfig.attributeColumns, List.mem_append, List.mem_map,
    List.mem_ite_nil_right, List.mem_singleton] at listed
  rcases listed with (((⟨_, _, rfl⟩ | ⟨_, _, rfl⟩) | stored) | ⟨_, _, rfl⟩) | ⟨_, rfl⟩
  case inl.inl.inr =>
    split at stored
    · rw [(List.mem_ite_nil_right.mp stored).2 |> List.mem_singleton.mp]
      rfl
    · obtain ⟨_, _, rfl⟩ := List.mem_map.mp stored
      rfl
  all_goals rfl

theorem aliases_geometryColumns :
    ∀ projection ∈ SidecarConfig.geometryColumns query includeAll own,
      projection.aliases = ["sc_geometries"] := by
  intro _ listed
  simp only [SidecarConfig.geometryColumns, List.mem_append, List.mem_map,
    List.mem_ite_nil_right, List.mem_singleton] at listed
  rcases listed with (((⟨_, rfl⟩ | ⟨_, _, rfl⟩) | ⟨_, _, rfl⟩) | ⟨_, _, rfl⟩) | ⟨_, rfl⟩ <;> rfl

theorem aliases_getSelectFields (sidecar : SidecarConfig) :
    ∀ projection ∈ sidecar.getSelectFields query includeAll,
      projection.aliases = [sidecar.sidecar.joinAlias] := by
  intro projection listed
  cases sidecar with
  | attributes => exact aliases_attributeColumns projection listed
  | geometries => exact aliases_geometryColumns projection listed
  | itemMetadata =>
    obtain ⟨_, _, rfl⟩ := mem_map.mp (mem_ite_nil_right.mp listed).2
    rfl
  | stacMetadata =>
    obtain ⟨_, _, rfl⟩ := mem_map.mp listed
    rfl
  | accessEnvelope => cases listed

theorem aliases_contextFields (sidecar : SidecarConfig) :
    ∀ projection ∈ sidecar.contextFields query,
      projection.aliases = [sidecar.sidecar.joinAlias] := by
  intro projection listed
  cases sidecar with
  | attributes => exact aliases_attributeColumns projection listed
  | geometries => exact aliases_geometryColumns projection listed
  | itemMetadata =>
    exact aliases_getSelectFields .itemMetadata projection (mem_ite_nil_right.mp listed).2
  | _ => cases listed

/-! ## The select list -/

def projections (config : DriverConfig) (consumer : ConsumerType) (query : Query) :
    List Projection :=
  let joined := config.joinedSidecars consumer query
  let named := if query.selectsAll then config.wildcardSelects query joined
    else config.explicitSelects query
  named ++ config.groupBySelects query named ++ query.rawSelects.map rawProjection ++
    joined.flatMap fun sidecar => sidecar.contextFields query

variable {projection : Projection} {name : String}

theorem mem_of_mem_uniqueSelects (kept : projection ∈ uniqueSelects seen list) :
    projection ∈ list := by
  induction list generalizing seen with
  | nil => cases kept
  | cons _ _ ih =>
    rw [uniqueSelects] at kept
    split at kept
    · exact .tail _ (ih kept)
    · rcases mem_cons.mp kept with rfl | later
      · exact .head _
      · exact .tail _ (ih later)

def Renders (query : Query) (selection : Selection) : Prop :=
  selection ∈ query.select ∧ selection.field ≠ "*" ∧
    (query.selectsAll = false → selection.field ∉ hubQueryFields)

/-- Where a projection takes its tables from. -/
inductive Origin (config : DriverConfig) (consumer : ConsumerType) (query : Query)
    (projection : Projection) : Prop
  | hub (own : projection.aliases = ["h"])
  | sidecar (joined : sidecar ∈ config.joinedSidecars consumer query)
    (own : projection.aliases = [sidecar.sidecar.joinAlias])
  | field (rendered : Renders query selection)
    (found : config.fieldFor query selection.field = some field)
    (own : projection =
      ⟨[field.tableAlias], selection.output, false, selection.aggregation.isSome⟩)
  | group (mem : key ∈ query.groupBy) (found : config.expressionFor query key = some expression)
    (own : projection.aliases = [expression.tableAlias])
  | raw (mem : text ∈ query.rawSelects) (own : projection = rawProjection text)

theorem origin_of_column {columns : SidecarConfig → List Projection}
    (own : ∀ sidecar, ∀ projection ∈ columns sidecar,
      projection.aliases = [sidecar.sidecar.joinAlias])
    (mem : projection ∈ (config.joinedSidecars consumer query).flatMap columns) :
    config.Origin consumer query projection := by
  obtain ⟨sidecar, joined, column⟩ := List.mem_flatMap.mp mem
  exact .sidecar joined (own sidecar projection column)

theorem origin_of_wildcard (wildcard : query.selectsAll)
    (listed : projection ∈ config.wildcardSelects query (config.joinedSidecars consumer query)) :
    config.Origin consumer query projection := by
  rcases List.mem_append.mp listed with earlier | chosen
  · rcases List.mem_append.mp earlier with hub | column
    · rw [List.mem_singleton.mp (List.mem_ite_nil_right.mp hub).2]
      exact .hub rfl
    · refine origin_of_column (fun sidecar other mem => ?_) column
      exact aliases_getSelectFields sidecar other (List.mem_of_mem_filter mem)
  · obtain ⟨selection, mem, rendered⟩ := List.mem_filterMap.mp chosen
    split at rendered
    · cases rendered
    next shown =>
      obtain ⟨field, found, rfl⟩ := Option.map_eq_some_iff.mp rendered
      rw [Bool.or_eq_true, not_or, decide_eq_true_eq] at shown
      exact .field ⟨mem, shown.1, by simp [wildcard]⟩ found rfl

theorem origin_of_explicit (explicit : ¬ query.selectsAll)
    (listed : projection ∈ config.explicitSelects query) :
    config.Origin consumer query projection := by
  rcases List.mem_append.mp listed with hub | chosen
  · rw [List.mem_singleton.mp (List.mem_ite_nil_right.mp hub).2]
    exact .hub rfl
  · obtain ⟨selection, mem, rendered⟩ := List.mem_filterMap.mp chosen
    split at rendered
    · cases rendered
    · split at rendered
      · cases rendered
        exact .hub rfl
      next other =>
        obtain ⟨field, found, rfl⟩ := Option.map_eq_some_iff.mp rendered
        refine .field ⟨mem, fun star => explicit ?_, fun _ => other⟩ found rfl
        simp only [Query.selectsAll, QueryRequest.selectsAll, Query.request,
          List.any_map, List.any_eq_true, Function.comp_apply, decide_eq_true_eq]
        exact ⟨selection, mem, star⟩

theorem projections_origin (listed : projection ∈ config.projections consumer query) :
    config.Origin consumer query projection := by
  rcases List.mem_append.mp listed with earlier | context
  · rcases List.mem_append.mp earlier with earlier | raw
    · rcases List.mem_append.mp earlier with named | grouped
      · split at named
        next wildcard => exact origin_of_wildcard wildcard named
        next explicit => exact origin_of_explicit explicit named
      · obtain ⟨_, mem, rendered⟩ := List.mem_filterMap.mp grouped
        obtain ⟨_, found, rfl⟩ := Option.map_eq_some_iff.mp rendered
        exact .group (List.mem_of_mem_filter mem) found rfl
    · obtain ⟨_, mem, rfl⟩ := List.mem_map.mp raw
      exact .raw mem rfl
  · exact origin_of_column aliases_contextFields context

/-! ## The condition -/

def groupedNames (query : Query) : List String :=
  if query.groupBy.isEmpty then
    if query.aggregates then
      (query.select.filter fun selection =>
        selection.aggregation.isNone && selection.field ≠ "*").map Selection.field
    else []
  else query.groupBy

/-- Every table that the request needs is one that the analysis joins. -/
structure Covers (config : DriverConfig) (consumer : ConsumerType) (query : Query) : Prop where
  /-- The selected fields, unless an earlier projection has the same output name. -/
  selected : ∀ selection field, Renders query selection →
    config.fieldFor query selection.field = some field →
    ⟨[field.tableAlias], selection.output, false, selection.aggregation.isSome⟩ ∈
      uniqueSelects [] (config.projections consumer query) →
    config.Serves consumer query field
  filtered : ∀ filter ∈ query.filters, filter.field ≠ "validity" →
    config.ServesName consumer query filter.field
  valid : ∀ filter ∈ query.filters, filter.field = "validity" →
    ∀ name, config.resolveValidityAlias = some name → config.Reaches consumer query name
  grouped : ∀ name ∈ groupedNames query, config.ServesName consumer query name
  sorted : ∀ key ∈ query.sort, config.ServesName consumer query key.1
  /-- Raw SQL names no table but those that are joined. -/
  rawSelected : ∀ text ∈ query.rawSelects,
    rawProjection text ∈ uniqueSelects [] (config.projections consumer query) →
    ∀ name ∈ text.aliases, config.Reaches consumer query name
  rawFiltered : ∀ raw ∈ query.rawWhere, ∀ name ∈ (config.rawCondition query raw).aliases,
    config.Reaches consumer query name
  /-- No clause of the access filter compares the envelope. -/
  unrestricted : (∃ sidecar ∈ config.sidecars, sidecar.sidecar.accessEnvelope = true) →
    ∀ filter, query.accessFilter = some filter → filter.isUnconditional = false →
    ∀ clauses, filter.toPgClause ≠ some (.anyOf clauses)

/-! ## Clause by clause -/

section Clauses

variable (config consumer query)

abbrev ReachesAll (names : List String) : Prop :=
  ∀ name ∈ names, config.Reaches consumer query name

abbrev FilterCovered (filter : Comparison) : Prop :=
  (filter.field ≠ "validity" → config.ServesName consumer query filter.field) ∧
    (filter.field = "validity" → ∀ name, config.resolveValidityAlias = some name →
      config.Reaches consumer query name)

abbrev AccessCovered : Prop :=
  (∃ sidecar ∈ config.sidecars, sidecar.sidecar.accessEnvelope) →
    ∀ filter, query.accessFilter = some filter → filter.isUnconditional = false →
    ∀ clauses, filter.toPgClause ≠ some (.anyOf clauses)

end Clauses

theorem mem_groupedNames (mem : name ∈ query.groupBy) : name ∈ groupedNames query := by
  unfold groupedNames
  rw [if_neg]
  · exact mem
  · rw [List.isEmpty_iff]
    exact ne_nil_of_mem mem

theorem named_of_groupedNames (mem : name ∈ groupedNames query) :
    name ∈ query.request.fields := by
  unfold groupedNames at mem
  split at mem
  · split at mem
    · obtain ⟨_, chosen, rfl⟩ := mem_map.mp mem
      exact named_of_select (mem_of_mem_filter chosen)
    · cases mem
  · exact named_of_groupBy mem

theorem groupByList_eq :
    config.groupByList query = (groupedNames query).filterMap (config.expressionFor query) := by
  unfold groupByList groupedNames
  split
  · split
    · rw [filterMap_map]
      rfl
    · rfl
  · rfl

theorem featureIdSidecar_mem
    (found : featureIdSidecar externalIdAsFeatureId joined = some sidecar) :
    sidecar ∈ joined :=
  mem_of_find?_eq_some found

theorem reaches_idProjection : config.ReachesAll consumer query
    (idProjection externalIdAsFeatureId (config.joinedSidecars consumer query)).aliases := by
  unfold idProjection
  cases found : featureIdSidecar externalIdAsFeatureId (config.joinedSidecars consumer query) with
  | none =>
    intro _ mem
    rw [mem_singleton.mp mem]
    exact reaches_hub
  | some =>
    simp only [forall_mem_cons]
    exact ⟨reaches_of_joined (featureIdSidecar_mem found), reaches_hub, by simp⟩

theorem reaches_select_iff
    (grouped : ∀ name ∈ groupedNames query, config.ServesName consumer query name) :
    (∀ projection ∈ config.selectList externalIdAsFeatureId query
        (config.joinedSidecars consumer query),
        config.ReachesAll consumer query projection.aliases) ↔
      (∀ selection field, Renders query selection →
        config.fieldFor query selection.field = some field →
        ⟨[field.tableAlias], selection.output, false, selection.aggregation.isSome⟩ ∈
          uniqueSelects [] (config.projections consumer query) →
        config.Serves consumer query field) ∧
      ∀ text ∈ query.rawSelects,
        rawProjection text ∈ uniqueSelects [] (config.projections consumer query) →
        config.ReachesAll consumer query text.aliases := by
  have unique : (∀ projection ∈ config.selectList externalIdAsFeatureId query
      (config.joinedSidecars consumer query), config.ReachesAll consumer query projection.aliases) ↔
      ∀ projection ∈ uniqueSelects [] (config.projections consumer query),
        config.ReachesAll consumer query projection.aliases := by
    change (∀ projection ∈ if _ && !(uniqueSelects [] (config.projections consumer query)).any _
      then uniqueSelects [] (config.projections consumer query) ++ _ else _, _) ↔ _
    split
    · simp only [forall_mem_append, forall_mem_singleton]
      exact and_iff_left reaches_idProjection
    · rfl
  rw [unique]
  constructor
  · intro reached
    constructor
    · intro _ field rendered found kept
      exact (reaches_iff_serves (named_of_select rendered.1) found).mp (reached _ kept _ (.head _))
    · intro _ mem kept name named
      exact reached _ kept name named
  · intro covered _ kept name named
    cases projections_origin (mem_of_mem_uniqueSelects kept) with
    | hub own =>
      rw [own, mem_singleton] at named
      subst named
      exact reaches_hub
    | sidecar joined own =>
      rw [own, mem_singleton] at named
      subst named
      exact reaches_of_joined joined
    | field rendered found own =>
      subst own
      rw [mem_singleton.mp named]
      exact (reaches_iff_serves (named_of_select rendered.1) found).mpr
        (covered.1 _ _ rendered found kept)
    | group mem found own =>
      rw [own, mem_singleton] at named
      subst named
      exact (reaches_expressionFor (named_of_groupBy mem)).mpr
        (grouped _ (mem_groupedNames mem)) _ found
    | raw mem own =>
      subst own
      exact covered.2 _ mem kept name named

theorem reaches_filter_iff {filter : Comparison} (mem : filter ∈ query.filters) :
    (∀ condition, config.filterCondition query filter = some condition →
        config.ReachesAll consumer query condition.aliases) ↔
      config.FilterCovered consumer query filter := by
  unfold FilterCovered ReachesAll
  by_cases hub : filter.field ∈ hubQueryFields
  · have other : filter.field ≠ "validity" := by
      intro same
      rw [same] at hub
      revert hub
      decide
    simp [filterCondition, hub, ServesName, aliases, reaches_hub, other]
  · unfold filterCondition
    rw [if_neg hub]
    by_cases validity : filter.field = "validity"
    · cases config.resolveValidityAlias with
      | none => simp [validity]
      | some => simp [validity, aliases]
    · rw [if_neg validity, ← reaches_expressionFor (named_of_filter mem)]
      unfold expressionFor
      rw [if_neg hub]
      cases config.fieldFor query filter.field with
      | none => simp [validity]
      | some => simp [validity, aliases]

theorem reaches_access_iff : (∀ condition ∈ ((config.joinedSidecars consumer query).filter
        (·.sidecar.accessEnvelope)).flatMap (fun _ => (accessCondition query).toList),
        config.ReachesAll consumer query condition.aliases) ↔ config.AccessCovered query := by
  constructor
  · intro reached declared filter given restricted clauses translated
    obtain ⟨sidecar, mem, envelope⟩ := declared
    obtain ⟨registered, everyone⟩ := sidecar.sidecar.envelopeRegistered envelope
    have joined : sidecar ∈ config.joinedSidecars consumer query := by
      refine mem_joinedSidecars.mpr ⟨mem, registered, ?_, ?_⟩
      · split
        · simp [PgCollection.servesActiveConsumer, everyone]
        · simp [PgCollection.requiresSidecar, envelope]
      · simp [given, restricted]
    have condition : accessCondition query = some (.access clauses) := by
      simp [accessCondition, given, translated]
    have named := reached (.access clauses) (mem_flatMap.mpr
      ⟨sidecar, mem_filter.mpr ⟨joined, envelope⟩, by rw [condition]; exact (.head _)⟩)
      "ae" mem_cons_self
    rcases named with hub | ⟨other, _, _, _, same⟩
    · exact absurd hub (by decide)
    · exact other.sidecar.joinAlias_ne_envelope same.symm
  · intro unrestricted _ listed _ named
    obtain ⟨sidecar, chosen, translated⟩ := mem_flatMap.mp listed
    obtain ⟨joined, envelope⟩ := mem_filter.mp chosen
    obtain ⟨mem, _, _, kept⟩ := mem_joinedSidecars.mp joined
    have rendered := mem_toList.mp translated
    unfold accessCondition at rendered
    split at rendered
    · cases rendered
    · cases rendered
      cases named
    next clauses translated =>
      cases given : query.accessFilter with
      | none =>
        rw [given] at translated
        cases translated
      | some filter =>
        rw [given] at translated kept
        have restricted : filter.isUnconditional = false := by
          rw [← Bool.not_eq_true]
          exact fun unconditional => kept ⟨unconditional, envelope⟩
        exact absurd translated
          (unrestricted ⟨sidecar, mem, envelope⟩ filter given restricted clauses)

theorem reaches_itemIds : ∀ condition, itemIdsCondition externalIdAsFeatureId query
        (config.joinedSidecars consumer query) = some condition →
      config.ReachesAll consumer query condition.aliases := by
  intro _ rendered
  unfold itemIdsCondition at rendered
  split at rendered
  · cases rendered
  · split at rendered
    · cases rendered
      intro _ named
      rw [mem_singleton.mp named]
      exact reaches_hub
    next found =>
      cases rendered
      simp only [aliases, forall_mem_cons]
      exact ⟨reaches_of_joined (featureIdSidecar_mem found), reaches_hub, by simp⟩

theorem reaches_conditions_iff : (∀ condition ∈ config.conditions externalIdAsFeatureId query
        (config.joinedSidecars consumer query),
        config.ReachesAll consumer query condition.aliases) ↔
      (∀ filter ∈ query.filters, config.FilterCovered consumer query filter) ∧
      (∀ raw ∈ query.rawWhere,
        config.ReachesAll consumer query (config.rawCondition query raw).aliases) ∧
      config.AccessCovered query := by
  have filters : (∀ condition ∈ query.filters.filterMap (config.filterCondition query),
      config.ReachesAll consumer query condition.aliases) ↔
      ∀ filter ∈ query.filters, config.FilterCovered consumer query filter := by
    simp only [mem_filterMap]
    constructor
    · intro reached filter mem
      exact (reaches_filter_iff mem).mp
        fun condition rendered => reached condition ⟨filter, mem, rendered⟩
    · intro covered condition listed
      obtain ⟨filter, mem, rendered⟩ := listed
      exact (reaches_filter_iff mem).mpr (covered filter mem) condition rendered
  have raw : (∀ condition ∈ query.rawWhere.toList.map (config.rawCondition query),
      config.ReachesAll consumer query condition.aliases) ↔ ∀ raw ∈ query.rawWhere,
        config.ReachesAll consumer query (config.rawCondition query raw).aliases := by
    simp
  have ids : ∀ condition ∈ (itemIdsCondition externalIdAsFeatureId query
      (config.joinedSidecars consumer query)).toList,
      config.ReachesAll consumer query condition.aliases := by
    intro condition listed
    exact reaches_itemIds condition (mem_toList.mp listed)
  have live : config.ReachesAll consumer query live.aliases := by
    intro _ named
    rw [mem_singleton.mp named]
    exact reaches_hub
  unfold conditions
  rw [forall_mem_append, forall_mem_append, forall_mem_append,
    forall_mem_cons, filters, raw, reaches_access_iff, and_iff_left ids, and_iff_right live,
    and_assoc]

theorem reaches_groupBy_iff :
    (∀ expression ∈ config.groupByList query, config.Reaches consumer query expression.tableAlias) ↔
      ∀ name ∈ groupedNames query, config.ServesName consumer query name := by
  rw [groupByList_eq]
  simp only [mem_filterMap]
  constructor
  · intro reached name mem
    exact (reaches_expressionFor (named_of_groupedNames mem)).mp
      fun expression resolved => reached expression ⟨name, mem, resolved⟩
  · intro served expression listed
    obtain ⟨name, mem, resolved⟩ := listed
    exact (reaches_expressionFor (named_of_groupedNames mem)).mpr (served name mem)
      expression resolved

theorem reaches_orderBy_iff :
    (∀ name ∈ (config.orderBy query (config.joinedSidecars consumer query)).filterMap
        OrderKey.tableAlias, config.Reaches consumer query name) ↔
      ∀ key ∈ query.sort, config.ServesName consumer query key.1 := by
  unfold orderBy
  split
  next unsorted =>
    have default : (if defaultOrder query then (((config.joinedSidecars consumer query).find?
        (·.sidecar.defaultSort)).map getDefaultSort).getD [] else []).filterMap
          OrderKey.tableAlias = [] := by
      split
      · cases (config.joinedSidecars consumer query).find? (·.sidecar.defaultSort) with
        | none => rfl
        | some sidecar =>
          cases sidecar with
          | attributes own =>
            cases external : own.externalIdField <;> simp [getDefaultSort, external]
          | _ => rfl
      · rfl
    rw [default, isEmpty_iff.mp unsorted]
    simp
  · simp only [mem_filterMap]
    constructor
    · intro reached key mem
      refine (reaches_expressionFor (named_of_sort mem)).mp ?_
      intro expression resolved
      exact reached _ ⟨_, ⟨key, mem, by rw [resolved]; rfl⟩, rfl⟩
    · intro served _ listed
      obtain ⟨_, ⟨key, mem, rendered⟩, named⟩ := listed
      obtain ⟨expression, resolved, rfl⟩ := map_eq_some_iff.mp rendered
      cases named
      exact (reaches_expressionFor (named_of_sort mem)).mpr (served key mem) expression
        resolved

theorem reaches_joins : ∀ join ∈ joins query (config.joinedSidecars consumer query),
      config.ReachesAll consumer query ["h", join.tableAlias] := by
  intro _ listed
  obtain ⟨_, joined, rfl⟩ := mem_map.mp listed
  simp only [forall_mem_cons]
  exact ⟨reaches_hub, reaches_of_joined joined, by simp⟩

/-- A statement is closed where the analysis covers the request. -/
theorem closed_iff_covers (config : DriverConfig) (consumer : ConsumerType)
    (externalIdAsFeatureId : Bool) (query : Query) :
    (config.statement consumer externalIdAsFeatureId query).Closed ↔
      config.Covers consumer query := by
  have parts : (∀ name ∈ (config.statement consumer externalIdAsFeatureId query).named,
        config.Reaches consumer query name) ↔
      (∀ projection ∈ config.selectList externalIdAsFeatureId query
        (config.joinedSidecars consumer query),
        config.ReachesAll consumer query projection.aliases) ∧
      (∀ condition ∈ config.conditions externalIdAsFeatureId query
        (config.joinedSidecars consumer query),
        config.ReachesAll consumer query condition.aliases) ∧
      (∀ expression ∈ config.groupByList query,
        config.Reaches consumer query expression.tableAlias) ∧
      ∀ name ∈ (config.orderBy query (config.joinedSidecars consumer query)).filterMap
        OrderKey.tableAlias, config.Reaches consumer query name := by
    have text : (config.statement consumer externalIdAsFeatureId query).named =
        (config.selectList externalIdAsFeatureId query
          (config.joinedSidecars consumer query)).flatMap Projection.aliases ++
        (joins query (config.joinedSidecars consumer query)).flatMap
          (fun join => ["h", join.tableAlias]) ++
        (config.conditions externalIdAsFeatureId query
          (config.joinedSidecars consumer query)).flatMap aliases ++
        (config.groupByList query).map Expression.tableAlias ++
        (config.orderBy query (config.joinedSidecars consumer query)).filterMap
          OrderKey.tableAlias := rfl
    rw [text, forall_mem_append, forall_mem_append, forall_mem_append,
      forall_mem_append, forall_mem_flatMap, forall_mem_flatMap,
      List.forall_mem_flatMap, List.forall_mem_map, and_iff_left reaches_joins, and_assoc,
      and_assoc]
  rw [closed_iff_reaches, parts, reaches_conditions_iff, reaches_groupBy_iff, reaches_orderBy_iff]
  constructor
  · intro reached
    obtain ⟨select, ⟨filters, raw, access⟩, grouped, sorted⟩ := reached
    obtain ⟨selected, rawSelected⟩ := (reaches_select_iff grouped).mp select
    exact
      { selected, rawSelected, grouped, sorted
        filtered := fun filter mem => (filters filter mem).1
        valid := fun filter mem => (filters filter mem).2
        rawFiltered := raw
        unrestricted := access }
  · intro covers
    exact ⟨(reaches_select_iff covers.grouped).mpr ⟨covers.selected, covers.rawSelected⟩,
      ⟨fun filter mem => ⟨covers.filtered filter mem, covers.valid filter mem⟩,
        covers.rawFiltered, covers.unrestricted⟩, covers.grouped, covers.sorted⟩

end DriverConfig

/-! ## Surveys with an access envelope -/

def surveyAttributes : AttributesConfig where
  assetIdField := some "asset_id"
  externalIdField := some "external_id"
  attributeSchema := []
  jsonb := true
  jsonbColumnName := "attributes"
  jsonbIndexedPaths := []
  enableValidity := false
  columnarStats := []
  jsonbStats := false

def surveyGeometries : GeometriesConfig where
  geomColumn := "geom"
  bboxColumn := some "bbox_geom"
  writeBbox := true
  h3Resolutions := []
  s2Resolutions := []
  columnarStats := []
  jsonbStats := false

def surveys : DriverConfig where
  sidecars := [.geometries surveyGeometries, .attributes surveyAttributes,
    .accessEnvelope "access_envelope"]
  partitionKeys := []
  schemaFields := []
  parseCql _ := .ok none
  distinct := by decide

def regionalQuery : Query where
  select := [⟨"*", none, none, none⟩]
  filters := []
  sort := []
  groupBy := []
  limit := none
  offset := none
  rawSelects := []
  rawWhere := none
  itemIds := []
  accessFilter := some { allow := [⟨[.field ⟨"_attrs.region", ["north"]⟩]⟩] }
  skipGeometry := false
  selects := by decide

/-- The clause of the access filter names the envelope by an alias that no join introduces. -/
theorem envelope_alias_missing : surveys.collection.validateQuery regionalQuery.request = [] ∧
    ∃ built, surveys.buildOptimizedQuery .ogcFeatures false regionalQuery = .ok built ∧
      "ae" ∈ built.named ∧
      built.introduced = ["h", "sc_geometries", "sc_attributes", "sc_access_envelope"] ∧
      ¬ built.Closed := by
  have valid : surveys.collection.validateQuery regionalQuery.request = [] := by decide
  have named : "ae" ∈ (surveys.statement .ogcFeatures false regionalQuery).named := by decide
  refine ⟨valid, _, DriverConfig.buildOptimizedQuery_of_valid valid, named, by decide, ?_⟩
  intro closed
  exact absurd (closed "ae" named) (by decide)

end Dynastore.Items
