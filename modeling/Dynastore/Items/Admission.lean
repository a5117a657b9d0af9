import Dynastore.Items.Source

/-! A joined sidecar that no condition reads takes no row away, as it is joined by a LEFT JOIN. So
the hub rows that a request selects from are those that its conditions admit, over one row of every
sidecar, of which the INNER JOIN of the default order keeps the ones it finds a row for
(`mem_selectsFrom`). -/

namespace Dynastore.Items

open List Condition

open Ingest (Geoid Item Store)

/-- How a request takes its ids and its raw SQL: the column of the ids, none where they are
geoids, and the columns of the raw SQL. -/
structure Reading where
  idColumn : Option Expression
  rawColumns : List Expression

def Reading.takes (reading : Reading) (server : Server) (ids : List String) (row : JoinedRow) :
    Bool :=
  match reading.idColumn with
  | none => ids.any fun id => server.uuid id = some row.geoid
  | some column => (server.featureId row column).any ids.contains

namespace DriverConfig

section Definitions

variable (config : DriverConfig) (consumer : ConsumerType) (externalIdAsFeatureId : Bool)
  (server : Server) (query : Query)

def Accepts : Prop :=
  config.collection.validateQuery query.request = []
deriving Decidable

/-- The hub rows that the request's statement selects from, unless the server refuses it. -/
def selectsFrom (store : Store) : Option (Finset Geoid) :=
  (config.statement consumer externalIdAsFeatureId query).members server store

def tables : List String :=
  "h" :: (config.joinedSidecars consumer query).map (·.sidecar.joinAlias)

def ordersBy : Option SidecarConfig :=
  if defaultOrder query then
    (config.joinedSidecars consumer query).find? (·.sidecar.defaultSort)
  else none

/-- The INNER JOIN of the default order finds a row of the item. -/
abbrev Ordered (item : Item) : Prop :=
  ∀ provider, config.ordersBy consumer query = some provider → provider.matching item ≠ []

def identifiesBy : Option SidecarConfig :=
  featureIdSidecar externalIdAsFeatureId (config.joinedSidecars consumer query)

def reading : Reading where
  idColumn := (config.identifiesBy consumer externalIdAsFeatureId query).map fun sidecar =>
    ⟨sidecar.sidecar.joinAlias, (featureIdColumn sidecar).getD ""⟩
  rawColumns := (query.rawWhere.toList.flatMap (config.processedReferences query)).filterMap
    (server.locate (config.tables consumer query))

/-- The server can run the conditions: no envelope is joined, whose geoid is a text; filters
and raw SQL find their columns; and ids that are taken as geoids are UUIDs. -/
structure Runs : Prop where
  typed : ∀ sidecar ∈ config.sidecars, sidecar.sidecar.accessEnvelope = true →
    query.accessFilter.any (·.isUnconditional) = true
  filtered : ∀ filter ∈ query.filters, ∀ expression test,
    config.filterCondition query filter = some (.comparison expression test) →
      config.Reaches consumer query expression.tableAlias
  located : ∀ raw, query.rawWhere = some raw → ∀ reference ∈ config.processedReferences query raw,
      (server.locate (config.tables consumer query) reference).isSome = true
  castable : config.identifiesBy consumer externalIdAsFeatureId query = none →
    ∀ id ∈ query.itemIds, (server.uuid id).isSome = true

structure Admits (reading : Reading) (row : JoinedRow) : Prop where
  live : row.tables "h" "deleted_at" = .null
  filtered : ∀ filter ∈ query.filters, ∀ expression test,
    config.filterCondition query filter = some (.comparison expression test) →
      test (server.read row expression) = true
  rawFiltered : ∀ raw, query.rawWhere = some raw →
    raw.test (reading.rawColumns.map (server.read row)) = true
  identified : query.itemIds = [] ∨ reading.takes server query.itemIds row = true

def itemRows (geoid : Geoid) (item : Item) : List JoinedRow :=
  (choices (server.hubTables geoid item)
    (config.sidecars.map fun sidecar => (sidecar.sidecar.joinAlias, sidecar.outer item))).map
      (⟨geoid, ·⟩)

def Admitted (reading : Reading) (geoid : Geoid) (item : Item) : Prop :=
  ∃ row ∈ config.itemRows server geoid item, config.Admits server query reading row

end Definitions

variable {config : DriverConfig} {consumer : ConsumerType} {externalIdAsFeatureId : Bool}
  {server : Server} {query : Query}

/-! ## Unread sidecars -/

theorem introduced_eq_tables : (config.statement consumer externalIdAsFeatureId query).introduced =
      config.tables consumer query :=
  introduced_statement

theorem mem_tables : name ∈ config.tables consumer query ↔ config.Reaches consumer query name := by
  have bound : name ∈ (config.statement consumer false query).introduced ↔
      config.Reaches consumer query name := mem_introduced
  rwa [introduced_eq_tables] at bound

theorem joins_statement : (config.statement consumer externalIdAsFeatureId query).joins =
      (config.joinedSidecars consumer query).map fun sidecar =>
        ⟨sidecar, (config.ordersBy consumer query).any (·.sidecarId = sidecar.sidecarId)⟩ :=
  rfl

variable {condition : Condition} {sidecar : SidecarConfig} {item : Item} {geoid : Geoid}
  {row : JoinedRow} {store : Store}

theorem holds_congr {tables : List String} (hub : "h" ∈ tables)
    (runs : condition.runs server tables) (sameGeoid : left.geoid = right.geoid)
    (same : ∀ name ∈ tables, left.tables name = right.tables name) :
    condition.holds server tables left = condition.holds server tables right := by
  have sameRead : ∀ expression : Expression, expression.tableAlias ∈ tables →
      server.read left expression = server.read right expression := by
    intro expression mem
    rw [Server.read, Server.read, same _ mem]
  cases condition with
  | live => simp only [holds, same _ hub]
  | comparison expression =>
    simp only [holds, sameRead expression (contains_iff_mem.mp runs)]
  | raw references =>
    have located : ∀ expression ∈ references.filterMap (server.locate tables),
        expression.tableAlias ∈ tables := by
      intro expression mem
      obtain ⟨reference, _, found⟩ := mem_filterMap.mp mem
      cases reference with
      | bare name =>
        simp only [Server.locate] at found
        split at found
        next table single =>
          cases found
          have mem : table ∈ tables.filter fun table =>
              (server.columns table).contains name := by rw [single]; exact mem_singleton_self _
          exact mem_of_mem_filter mem
        · cases found
      | qualified =>
        simp only [Server.locate] at found
        split at found
        next bound =>
          cases found
          exact bound
        · cases found
      | constant =>
        cases found
        exact hub
    simp only [holds]
    rw [map_congr_left fun expression mem => sameRead expression (located expression mem)]
  | never => rfl
  | access => simp only [holds, same _ (contains_iff_mem.mp runs)]
  | geoidIn => simp only [holds, sameGeoid]
  | featureIdIn column =>
    simp only [holds, Server.featureId, sameGeoid, sameRead column (contains_iff_mem.mp runs)]

theorem outer_ne_nil : sidecar.outer item ≠ [] := by
  unfold SidecarConfig.outer
  split
  · exact cons_ne_nil _ _
  next filled => simpa using filled

theorem outer_of_matching
    (found : sidecar.matching item ≠ []) : sidecar.outer item = sidecar.matching item := by
  rw [SidecarConfig.outer, if_neg (by simpa using found)]

theorem mem_of_ordersBy (ordered : config.ordersBy consumer query = some provider) :
    provider ∈ config.joinedSidecars consumer query := by
  unfold ordersBy at ordered
  split at ordered
  · exact mem_of_find?_eq_some ordered
  · cases ordered

theorem mem_sidecars_of_joined
    (joined : sidecar ∈ config.joinedSidecars consumer query) : sidecar ∈ config.sidecars :=
  (mem_joinedSidecars.mp joined).1

theorem nodup_aliases : (config.sidecars.map (·.sidecar.joinAlias)).Nodup := by
  apply List.Nodup.map_on
  · intro _ leftMem _ rightMem same
    exact eq_of_sidecarId leftMem rightMem (Sidecar.sidecarId_of_joinAlias same)
  · exact List.Nodup.of_map _ config.distinct

theorem nodup_itemTable :
    ((config.sidecars.map fun sidecar =>
      (sidecar.sidecar.joinAlias, sidecar.outer item)).map Prod.fst).Nodup := by
  rw [map_map]
  exact nodup_aliases

theorem filled_itemTable :
    ∀ entry ∈ config.sidecars.map fun sidecar =>
      (sidecar.sidecar.joinAlias, sidecar.outer item), entry.2 ≠ [] := by
  intro _ mem
  obtain ⟨_, _, rfl⟩ := mem_map.mp mem
  exact outer_ne_nil

theorem mem_itemRows (joined : row ∈ config.itemRows server geoid item) :
    row.geoid = geoid ∧ row.tables "h" = server.hubTables geoid item "h" ∧
      ∀ sidecar ∈ config.sidecars, row.tables sidecar.sidecar.joinAlias ∈ sidecar.outer item := by
  obtain ⟨_, taken, rfl⟩ := mem_map.mp joined
  obtain ⟨each, others⟩ := (mem_choices nodup_itemTable).mp taken
  refine ⟨rfl, ?_, ?_⟩
  · apply others
    rw [map_map]
    intro named
    obtain ⟨sidecar, _, same⟩ := mem_map.mp named
    exact sidecar.sidecar.joinAlias_ne_hub same
  · intro _ mem
    exact each _ (mem_map_of_mem mem)

theorem exists_itemRow (mem : sidecar ∈ config.sidecars) (found : own ∈ sidecar.outer item) :
    ∃ row ∈ config.itemRows server geoid item, row.tables sidecar.sidecar.joinAlias = own := by
  obtain ⟨choice, (taken : choice ∈ choices (server.hubTables geoid item) _), same⟩ :=
    exists_choice_of_mem nodup_itemTable filled_itemTable
      (mem_map_of_mem mem) found
  exact ⟨⟨geoid, choice⟩, mem_map_of_mem taken, same⟩

theorem exists_mem_itemRows : ∃ row, row ∈ config.itemRows server geoid item := by
  obtain ⟨choice, (taken : choice ∈ choices (server.hubTables geoid item) _)⟩ :=
    exists_mem_choices filled_itemTable
  exact ⟨⟨geoid, choice⟩, mem_map_of_mem taken⟩

theorem nodup_joinedAliases :
    ((config.joinedSidecars consumer query).map (·.sidecar.joinAlias)).Nodup :=
  nodup_aliases.sublist (filter_sublist.map _)

theorem rows_joins (kept : config.Ordered consumer query item) :
    ((config.statement consumer externalIdAsFeatureId query).joins.map fun join =>
        (join.tableAlias, join.rows item)) =
      (config.joinedSidecars consumer query).map fun sidecar =>
        (sidecar.sidecar.joinAlias, sidecar.outer item) := by
  rw [joins_statement, map_map]
  apply map_congr_left
  intro sidecar joined
  have rows : Join.rows
      ⟨sidecar, (config.ordersBy consumer query).any (·.sidecarId = sidecar.sidecarId)⟩ item =
        sidecar.outer item := by
    rw [Join.rows]
    split
    next inner =>
      obtain ⟨provider, ordered, same⟩ := (Option.any_eq_true _ _).mp inner
      have eq : provider = sidecar := eq_of_sidecarId
        (mem_sidecars_of_joined (mem_of_ordersBy ordered)) (mem_sidecars_of_joined joined)
        (of_decide_eq_true same)
      subst eq
      exact (outer_of_matching (kept provider ordered)).symm
    · rfl
  simp only [Function.comp_apply, rows]
  rfl

/-- What reads the joined tables alone is found among the joined rows where it is found among
all rows of the item, and the INNER JOIN finds something. -/
theorem exists_joinedRow_iff {test : JoinedRow → Prop}
    (reads : ∀ left right : JoinedRow, left.geoid = right.geoid →
      (∀ name ∈ config.tables consumer query, left.tables name = right.tables name) →
      test left → test right) :
    (∃ row ∈ (config.statement consumer externalIdAsFeatureId query).joinedRows server geoid item,
        test row) ↔
      (∃ row ∈ config.itemRows server geoid item, test row) ∧
        config.Ordered consumer query item := by
  by_cases kept : config.Ordered consumer query item
  · rw [and_iff_left kept, Statement.joinedRows, rows_joins kept, itemRows]
    simp only [mem_map, exists_exists_and_eq_and]
    have readsTables : ReadsOnly (config.tables consumer query) fun choice =>
        test ⟨geoid, choice⟩ :=
      fun left right same holds => reads ⟨geoid, left⟩ ⟨geoid, right⟩ rfl same holds
    apply exists_choice_congr readsTables
    · rw [map_map]
      exact nodup_joinedAliases
    · exact nodup_itemTable
    · intro _ mem
      obtain ⟨sidecar, joined, rfl⟩ := mem_map.mp mem
      exact mem_map_of_mem (mem_sidecars_of_joined joined)
    · intro _ named known
      rw [map_map] at known ⊢
      rcases mem_cons.mp named with rfl | joined
      · obtain ⟨sidecar, _, same⟩ := mem_map.mp known
        exact (sidecar.sidecar.joinAlias_ne_hub same).elim
      · exact joined
    · exact filled_itemTable
  · constructor
    · intro found
      obtain ⟨_, joined, _⟩ := found
      exfalso
      apply kept
      intro provider ordered empty
      obtain ⟨_, taken, _⟩ := mem_map.mp joined
      have mem := mem_of_ordersBy ordered
      rw [mem_choices (by rw [joins_statement, map_map, map_map]; exact nodup_joinedAliases)]
        at taken
      have none := taken.1 (provider.sidecar.joinAlias, provider.matching item) (by
        rw [joins_statement, map_map]
        refine mem_map.mpr ⟨provider, mem, ?_⟩
        simp [ordered, Join.rows, Join.tableAlias])
      rw [empty] at none
      cases none
    · intro found
      exact (kept found.2).elim

/-! ## The conditions -/

theorem filterCondition_eq {filter : Comparison}
    (given : config.filterCondition query filter = some condition) :
    ∃ expression, condition = .comparison expression filter.test := by
  unfold filterCondition at given
  split at given
  · cases given
    exact ⟨_, rfl⟩
  · split at given
    · obtain ⟨_, _, rfl⟩ := Option.map_eq_some_iff.mp given
      exact ⟨_, rfl⟩
    · obtain ⟨_, _, rfl⟩ := Option.map_eq_some_iff.mp given
      exact ⟨_, rfl⟩

variable (typed : ∀ sidecar ∈ config.sidecars, sidecar.sidecar.accessEnvelope →
  query.accessFilter.any (·.isUnconditional))

include typed in
theorem not_envelope_of_joined (joined : sidecar ∈ config.joinedSidecars consumer query) :
    sidecar.sidecar.accessEnvelope = false := by
  obtain ⟨mem, _, required⟩ := mem_joinedSidecars.mp joined
  cases envelope : sidecar.sidecar.accessEnvelope with
  | false => rfl
  | true => exact (required.2 ⟨typed sidecar mem envelope, envelope⟩).elim

include typed in
theorem forall_conditions {P : Condition → Prop} :
    (∀ condition ∈ (config.statement consumer externalIdAsFeatureId query).conditions,
        P condition) ↔
      P .live ∧ (∀ filter ∈ query.filters, ∀ expression test,
          config.filterCondition query filter = some (.comparison expression test) →
            P (.comparison expression test)) ∧
        (∀ raw, query.rawWhere = some raw → P (config.rawCondition query raw)) ∧
        ∀ condition, itemIdsCondition externalIdAsFeatureId query
          (config.joinedSidecars consumer query) = some condition → P condition := by
  have plain : (config.joinedSidecars consumer query).filter (·.sidecar.accessEnvelope) = [] := by
    rw [filter_eq_nil_iff]
    intro _ joined
    rw [not_envelope_of_joined typed joined]
    exact Bool.false_ne_true
  have listed : (config.statement consumer externalIdAsFeatureId query).conditions =
      .live :: (query.filters.filterMap (config.filterCondition query) ++
        query.rawWhere.toList.map (config.rawCondition query) ++
        (itemIdsCondition externalIdAsFeatureId query
          (config.joinedSidecars consumer query)).toList) := by
    show config.conditions externalIdAsFeatureId query (config.joinedSidecars consumer query) = _
    rw [conditions, plain, flatMap_nil, append_nil, cons_append, cons_append]
  have filters : (∀ condition ∈ query.filters.filterMap (config.filterCondition query),
      P condition) ↔ ∀ filter ∈ query.filters, ∀ expression test,
        config.filterCondition query filter = some (.comparison expression test) →
          P (.comparison expression test) := by
    constructor
    · intro each filter mem expression _ given
      exact each _ (mem_filterMap.mpr ⟨filter, mem, given⟩)
    · intro each _ mem
      obtain ⟨filter, filterMem, given⟩ := mem_filterMap.mp mem
      obtain ⟨expression, rfl⟩ := filterCondition_eq given
      exact each filter filterMem expression _ given
  rw [listed, forall_mem_cons, forall_mem_append, forall_mem_append, filters,
    forall_mem_map, and_assoc]
  simp only [Option.mem_toList]

theorem runs_iff : (config.statement consumer externalIdAsFeatureId query).runs server ↔
      config.Runs consumer externalIdAsFeatureId server query := by
  have typed : ((config.statement consumer externalIdAsFeatureId query).joins.all fun join =>
      join.config.sidecar.geoidColumn = .uuid) ↔
        ∀ sidecar ∈ config.sidecars, sidecar.sidecar.accessEnvelope →
          query.accessFilter.any (·.isUnconditional) := by
    rw [all_eq_true, joins_statement, forall_mem_map]
    constructor
    · intro uuids sidecar mem envelope
      by_contra restricted
      have required : config.Requires consumer query sidecar := by
        refine ⟨?_, fun dropped => restricted dropped.1⟩
        split
        · have serves := (sidecar.sidecar.envelopeRegistered envelope).2
          simp [PgCollection.servesActiveConsumer, serves]
        · simp [PgCollection.requiresSidecar, envelope]
      have joined := uuids sidecar (mem_joinedSidecars.mpr
        ⟨mem, (sidecar.sidecar.envelopeRegistered envelope).1, required⟩)
      simp [Sidecar.geoidColumn, envelope] at joined
    · intro typed sidecar joined
      simp [Sidecar.geoidColumn, not_envelope_of_joined typed joined]
  have ids : (∀ condition, itemIdsCondition externalIdAsFeatureId query
      (config.joinedSidecars consumer query) = some condition →
        condition.runs server (config.tables consumer query)) ↔
      (config.identifiesBy consumer externalIdAsFeatureId query = none →
        ∀ id ∈ query.itemIds, (server.uuid id).isSome) := by
    unfold itemIdsCondition identifiesBy
    cases none : query.itemIds with
    | nil => simp
    | cons =>
      cases found : featureIdSidecar externalIdAsFeatureId
        (config.joinedSidecars consumer query) with
      | none => simp [runs]
      | some sidecar =>
        have joined := mem_of_find?_eq_some found
        have reached : sidecar.sidecar.joinAlias ∈ config.tables consumer query :=
          mem_cons_of_mem _ (mem_map_of_mem joined)
        simp [runs, reached]
  rw [Statement.runs, Bool.and_eq_true, typed, all_eq_true]
  constructor
  · intro runs
    obtain ⟨plain, each⟩ := runs
    rw [introduced_eq_tables, forall_conditions plain, ids] at each
    obtain ⟨_, filtered, located, castable⟩ := each
    refine ⟨plain, ?_, ?_, castable⟩
    · intro filter mem expression test given
      have bound := filtered filter mem expression test given
      rw [runs, contains_iff_mem, mem_tables] at bound
      exact bound
    · intro raw given
      exact all_eq_true.mp (located raw given)
  · intro runs
    refine ⟨runs.typed, ?_⟩
    rw [introduced_eq_tables, forall_conditions runs.typed, ids]
    refine ⟨rfl, ?_, ?_, runs.castable⟩
    · intro filter mem expression test given
      rw [Condition.runs, contains_iff_mem, mem_tables]
      exact runs.filtered filter mem expression test given
    · intro raw given
      exact all_eq_true.mpr (runs.located raw given)

theorem holds_iff_admits (runs : config.Runs consumer externalIdAsFeatureId server query) :
    (config.statement consumer externalIdAsFeatureId query).holds server row ↔
      config.Admits server query
        (config.reading consumer externalIdAsFeatureId server query) row := by
  have ids : (∀ condition, itemIdsCondition externalIdAsFeatureId query
      (config.joinedSidecars consumer query) = some condition →
        condition.holds server (config.tables consumer query) row) ↔
      (query.itemIds = [] ∨ (config.reading consumer externalIdAsFeatureId server query).takes
        server query.itemIds row) := by
    unfold itemIdsCondition Reading.takes reading identifiesBy
    cases none : query.itemIds with
    | nil => simp
    | cons =>
      cases found : featureIdSidecar externalIdAsFeatureId
        (config.joinedSidecars consumer query) with
      | none => simp [holds]
      | some => simp [holds]
  have rawHolds : ∀ raw, query.rawWhere = some raw →
      (config.rawCondition query raw).holds server (config.tables consumer query) row =
        raw.test ((config.reading consumer externalIdAsFeatureId server query).rawColumns.map
          (server.read row)) := by
    intro raw given
    simp only [rawCondition, holds, reading, given, Option.toList_some,
      flatMap_cons, flatMap_nil, append_nil]
  rw [Statement.holds, all_eq_true, introduced_eq_tables, forall_conditions runs.typed, ids]
  constructor
  · intro each
    obtain ⟨live, filtered, rawFiltered, identified⟩ := each
    refine ⟨of_decide_eq_true live, filtered, ?_, identified⟩
    intro raw given
    rw [← rawHolds raw given]
    exact rawFiltered raw given
  · intro admits
    refine ⟨decide_eq_true admits.live, admits.filtered, ?_, admits.identified⟩
    intro raw given
    rw [rawHolds raw given]
    exact admits.rawFiltered raw given

/-- The hub rows that a request selects from: those admitted as the request is read, of which
the default order keeps those with a row to order by. -/
theorem mem_selectsFrom (runs : config.Runs consumer externalIdAsFeatureId server query) :
    (∃ members,
      config.selectsFrom consumer externalIdAsFeatureId server query store = some members ∧
        geoid ∈ members) ↔
      ∃ item, store.get geoid = some item ∧
        config.Admitted server query (config.reading consumer externalIdAsFeatureId server query)
          geoid item ∧ config.Ordered consumer query item := by
  have accepted := runs_iff.mpr runs
  have reads : ∀ left right : JoinedRow, left.geoid = right.geoid →
      (∀ name ∈ config.tables consumer query, left.tables name = right.tables name) →
      (config.statement consumer externalIdAsFeatureId query).holds server left →
      (config.statement consumer externalIdAsFeatureId query).holds server right := by
    intro _ _ sameGeoid same holds
    rw [Statement.runs, Bool.and_eq_true] at accepted
    rw [Statement.holds, all_eq_true] at holds ⊢
    rw [introduced_eq_tables] at holds ⊢
    intro condition mem
    have runs := all_eq_true.mp accepted.2 condition mem
    rw [introduced_eq_tables] at runs
    rw [← holds_congr (mem_tables.mpr reaches_hub) runs sameGeoid same]
    exact holds condition mem
  have each : ∀ item, (∃ row ∈ (config.statement consumer externalIdAsFeatureId query).joinedRows
      server geoid item, (config.statement consumer externalIdAsFeatureId query).holds server row) ↔
      config.Admitted server query (config.reading consumer externalIdAsFeatureId server query)
          geoid item ∧ config.Ordered consumer query item := by
    intro _
    rw [exists_joinedRow_iff reads]
    simp only [holds_iff_admits runs, Admitted]
  rw [selectsFrom, Statement.mem_members accepted]
  simp only [each]

theorem selectsFrom_of_not_runs
    (refused : ¬ config.Runs consumer externalIdAsFeatureId server query) :
    config.selectsFrom consumer externalIdAsFeatureId server query store = none := by
  apply Statement.members_of_not_runs
  rw [← Bool.not_eq_true, runs_iff]
  exact refused

end DriverConfig

end Dynastore.Items
