import Dynastore.Items.Statement

/-! The sidecars that the analysis of a request joins, and the tables of the fields it names. A
field is reached where its table is joined: that is where its sidecar serves the request and is not
the access envelope, whose expressions call it `ae` while it is joined as `sc_access_envelope`. -/

namespace Dynastore.Items

open List PgCollection SidecarConfig QueryRequest

namespace Statement

def introduced (statement : Statement) : List String :=
  "h" :: statement.joins.map Join.tableAlias

def named (statement : Statement) : List String :=
  statement.select.flatMap Projection.aliases ++
    statement.joins.flatMap (fun join => ["h", join.tableAlias]) ++
    statement.conditions.flatMap Condition.aliases ++
    statement.groupBy.map Expression.tableAlias ++
    statement.orderBy.filterMap OrderKey.tableAlias

def Closed (statement : Statement) : Prop :=
  ∀ name ∈ statement.named, statement.introduced.count name = 1

end Statement

theorem Sidecar.joinAlias_ne_hub (sidecar : Sidecar) : sidecar.joinAlias ≠ "h" := by
  intro same
  have letters := congrArg String.toList same
  simp [joinAlias, String.toList_append] at letters

theorem Sidecar.joinAlias_ne_envelope (sidecar : Sidecar) : sidecar.joinAlias ≠ "ae" := by
  intro same
  have letters := congrArg String.toList same
  simp [joinAlias, String.toList_append] at letters

theorem Sidecar.sidecarId_of_joinAlias {left right : Sidecar}
    (same : left.joinAlias = right.joinAlias) : left.sidecarId = right.sidecarId := by
  have letters := congrArg String.toList same
  simp only [joinAlias, String.toList_append, append_cancel_left_eq] at letters
  exact String.toList_injective letters

namespace DriverConfig

variable {config : DriverConfig} {consumer : ConsumerType} {query : Query}

theorem eq_of_sidecarId (leftMem : left ∈ config.sidecars) (rightMem : right ∈ config.sidecars)
    (same : left.sidecarId = right.sidecarId) : left = right :=
  inj_on_of_nodup_map config.distinct leftMem rightMem same

/-! ## The joins -/

/-- The analysis wants the sidecar: beside a wildcard all that serve the consumer, otherwise
those the request names, and not an envelope that has nothing to check. -/
def Requires (config : DriverConfig) (consumer : ConsumerType) (query : Query)
    (sidecar : SidecarConfig) : Prop :=
  (if query.selectsAll then PgCollection.servesActiveConsumer consumer sidecar.sidecar
    else config.collection.requiresSidecar query.request query.rawConditions sidecar.sidecar) =
      true ∧
    ¬ (query.accessFilter.any (·.isUnconditional) = true ∧ sidecar.sidecar.accessEnvelope = true)

variable {sidecar : SidecarConfig} {name : String} {field : FieldDef}

theorem mem_determineRequiredSidecars_iff (mem : sidecar ∈ config.sidecars) :
    sidecar.sidecarId ∈ (config.collection.determineRequiredSidecars consumer query.request
        query.rawConditions).map Sidecar.sidecarId ↔ config.Requires consumer query sidecar := by
  -- a sidecar of the same id is the sidecar itself
  have own : ∀ keep : Sidecar → Bool,
      (∃ entry ∈ (config.sidecars.map SidecarConfig.sidecar).filter keep,
        entry.sidecarId = sidecar.sidecarId) ↔ keep sidecar.sidecar := by
    intro _
    constructor
    · intro found
      obtain ⟨entry, entryMem, same⟩ := found
      obtain ⟨listed, kept⟩ := mem_filter.mp entryMem
      obtain ⟨_, otherMem, rfl⟩ := mem_map.mp listed
      rw [eq_of_sidecarId otherMem mem same] at kept
      exact kept
    · intro kept
      exact ⟨_, mem_filter.mpr ⟨mem_map_of_mem mem, kept⟩, rfl⟩
  have filtered : config.collection.determineRequiredSidecars consumer query.request
      query.rawConditions = (config.sidecars.map SidecarConfig.sidecar).filter fun entry =>
        (if query.selectsAll then servesActiveConsumer consumer entry
          else config.collection.requiresSidecar query.request query.rawConditions entry) &&
        !(query.accessFilter.any (·.isUnconditional) && entry.accessEnvelope) := by
    unfold determineRequiredSidecars dropUnconditionalEnvelope
    have same : query.request.accessFilter = query.accessFilter := rfl
    have wildcard : query.request.selectsAll = query.selectsAll := rfl
    have listed : config.collection.sidecars = config.sidecars.map SidecarConfig.sidecar := rfl
    rw [same, wildcard, listed]
    cases query.accessFilter.any (·.isUnconditional) <;> cases query.selectsAll <;>
      simp [filter_filter, Bool.and_comm]
  rw [filtered, mem_map, own, Requires, Bool.and_eq_true, Bool.not_eq_true',
    Bool.and_eq_false_iff, not_and_or, Bool.not_eq_true, Bool.not_eq_true]

theorem mem_joinedSidecars : sidecar ∈ config.joinedSidecars consumer query ↔
      sidecar ∈ config.sidecars ∧ sidecar.sidecar.registered ∧
        config.Requires consumer query sidecar := by
  unfold joinedSidecars
  rw [mem_filter, Bool.and_eq_true, contains_iff_mem]
  constructor
  · intro joined
    exact ⟨joined.1, joined.2.1, (mem_determineRequiredSidecars_iff joined.1).mp joined.2.2⟩
  · intro joined
    exact ⟨joined.1, joined.2.1, (mem_determineRequiredSidecars_iff joined.1).mpr joined.2.2⟩

def Reaches (config : DriverConfig) (consumer : ConsumerType) (query : Query) (name : String) :
    Prop :=
  name = "h" ∨ ∃ sidecar ∈ config.sidecars, sidecar.sidecar.registered = true ∧
    config.Requires consumer query sidecar ∧ name = sidecar.sidecar.joinAlias

theorem introduced_statement : (config.statement consumer externalIdAsFeatureId query).introduced =
      "h" :: (config.joinedSidecars consumer query).map (·.sidecar.joinAlias) := by
  simp [Statement.introduced, statement, joins, Join.tableAlias, Function.comp_def]

theorem mem_introduced : name ∈ (config.statement consumer externalIdAsFeatureId query).introduced ↔
      config.Reaches consumer query name := by
  rw [introduced_statement, mem_cons, mem_map, Reaches]
  simp only [mem_joinedSidecars]
  constructor
  · intro found
    rcases found with hub | ⟨sidecar, ⟨mem, registered, required⟩, rfl⟩
    · exact .inl hub
    · exact .inr ⟨sidecar, mem, registered, required, rfl⟩
  · intro found
    rcases found with hub | ⟨sidecar, mem, registered, required, rfl⟩
    · exact .inl hub
    · exact .inr ⟨sidecar, ⟨mem, registered, required⟩, rfl⟩

theorem nodup_introduced :
    (config.statement consumer externalIdAsFeatureId query).introduced.Nodup := by
  rw [introduced_statement, nodup_cons]
  constructor
  · intro mem
    obtain ⟨sidecar, _, same⟩ := mem_map.mp mem
    exact sidecar.sidecar.joinAlias_ne_hub same
  · apply List.Nodup.map_on
    · intro _ leftMem _ rightMem same
      exact eq_of_sidecarId (mem_of_mem_filter leftMem) (mem_of_mem_filter rightMem)
        (Sidecar.sidecarId_of_joinAlias same)
    · exact (List.Nodup.of_map _ config.distinct).filter _

theorem closed_iff_reaches : (config.statement consumer externalIdAsFeatureId query).Closed ↔
      ∀ name ∈ (config.statement consumer externalIdAsFeatureId query).named,
        config.Reaches consumer query name := by
  constructor
  · intro closed name named
    rw [← mem_introduced]
    exact count_pos_iff.mp (by rw [closed name named]; exact Nat.one_pos)
  · intro reached name named
    exact count_eq_one_of_mem nodup_introduced (mem_introduced.mpr (reached name named))

/-! ## The fields that a request names -/

theorem named_of_select (mem : selection ∈ query.select) :
    selection.field ∈ query.request.fields := by
  simp only [fields, Query.request, map_map, mem_append, mem_map, Function.comp_apply]
  exact .inl (.inl (.inl ⟨selection, mem, rfl⟩))

theorem named_of_filter {filter : Comparison} (mem : filter ∈ query.filters) :
    filter.field ∈ query.request.fields := by
  simp only [fields, Query.request, map_map, mem_append, mem_map, Function.comp_apply]
  exact .inl (.inl (.inr ⟨filter, mem, rfl⟩))

theorem named_of_sort (mem : key ∈ query.sort) : key.1 ∈ query.request.fields := by
  simp only [fields, Query.request, mem_append, mem_map]
  exact .inl (.inr ⟨key, mem, rfl⟩)

theorem named_of_groupBy (mem : name ∈ query.groupBy) : name ∈ query.request.fields := by
  simp only [fields, Query.request, mem_append]
  exact .inr mem

def Serves (config : DriverConfig) (consumer : ConsumerType) (query : Query) (field : FieldDef) :
    Prop :=
  field.tableAlias = "h" ∨ ∃ owner ∈ config.sidecars, owner.sidecarId = field.sidecarId ∧
    owner.sidecar.accessEnvelope = false ∧
    (query.selectsAll = true → PgCollection.servesActiveConsumer consumer owner.sidecar = true)

theorem requires_of_named (named : name ∈ query.request.fields)
    (found : config.fieldFor query name = some field) (owned : field.sidecarId = owner.sidecarId)
    (plain : owner.sidecar.accessEnvelope = false)
    (serves : query.selectsAll → PgCollection.servesActiveConsumer consumer owner.sidecar) :
    config.Requires consumer query owner := by
  constructor
  · split
    next wildcard => exact serves wildcard
    · unfold requiresSidecar
      have fieldNamed : (query.request.fields.any fun name =>
          (config.collection.fieldFor query.request name).any
            (·.sidecarId = owner.sidecar.sidecarId)) := by
        rw [any_eq_true]
        refine ⟨name, named, ?_⟩
        have resolved : config.collection.fieldFor query.request name = some field := found
        rw [resolved, Option.any_some, decide_eq_true_eq]
        exact owned
      rw [fieldNamed]
      rfl
  · intro dropped
    rw [plain] at dropped
    cases dropped.2

theorem reaches_iff_serves
    (named : name ∈ query.request.fields) (found : config.fieldFor query name = some field) :
    config.Reaches consumer query field.tableAlias ↔ config.Serves consumer query field := by
  obtain ⟨owner, mem, registered, owned, table⟩ := exists_owner_of_fieldFor found
  constructor
  · intro reached
    rcases reached with hub | ⟨sidecar, sidecarMem, _, required, same⟩
    · exact .inl hub
    · rcases table with hub | table
      · exact .inl hub
      · refine .inr ⟨owner, mem, owned.symm, ?_⟩
        unfold fieldAlias at table
        split at table
        next =>
          exact absurd (same.symm.trans table) sidecar.sidecar.joinAlias_ne_envelope
        next plain =>
          have eq : owner = sidecar := eq_of_sidecarId mem sidecarMem
            (Sidecar.sidecarId_of_joinAlias (table.symm.trans same))
          subst eq
          refine ⟨by simpa using plain, ?_⟩
          intro wildcard
          have wanted := required.1
          rw [if_pos wildcard] at wanted
          exact wanted
  · intro served
    rcases served with hub | ⟨other, otherMem, same, plain, serves⟩
    · exact .inl hub
    · have eq : other = owner := eq_of_sidecarId otherMem mem (same.trans owned)
      subst eq
      rcases table with hub | table
      · exact .inl hub
      · refine .inr ⟨other, mem, registered, requires_of_named named found owned plain serves, ?_⟩
        rw [table, fieldAlias, if_neg (by simp [plain])]

theorem reaches_hub : config.Reaches consumer query "h" := .inl rfl

theorem reaches_of_joined (joined : sidecar ∈ config.joinedSidecars consumer query) :
    config.Reaches consumer query sidecar.sidecar.joinAlias := by
  obtain ⟨mem, registered, required⟩ := mem_joinedSidecars.mp joined
  exact .inr ⟨sidecar, mem, registered, required, rfl⟩

/-- A field by its name, in the clauses after the select list: nothing is asked of the hub's
own fields. -/
def ServesName (config : DriverConfig) (consumer : ConsumerType) (query : Query)
    (name : String) : Prop :=
  name ∉ hubQueryFields → ∀ field, config.fieldFor query name = some field →
    config.Serves consumer query field

theorem reaches_expressionFor (named : name ∈ query.request.fields) :
    (∀ expression, config.expressionFor query name = some expression →
        config.Reaches consumer query expression.tableAlias) ↔
      config.ServesName consumer query name := by
  unfold expressionFor ServesName
  by_cases hub : name ∈ hubQueryFields
  · simp [hub, reaches_hub]
  · constructor
    · intro reached _ field found
      refine (reaches_iff_serves named found).mp
        (reached ⟨field.tableAlias, field.sqlExpression⟩ ?_)
      rw [if_neg hub, found]
      rfl
    · intro served _ resolved
      rw [if_neg hub] at resolved
      obtain ⟨field, found, rfl⟩ := Option.map_eq_some_iff.mp resolved
      exact (reaches_iff_serves named found).mpr (served hub field found)

end DriverConfig

end Dynastore.Items
