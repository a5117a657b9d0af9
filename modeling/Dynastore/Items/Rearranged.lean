import Dynastore.Items.Admission

/-! Requests that ask for the same rows and differ in what they project and how they sort. Their
conditions are the same but for the way ids and raw SQL are read. Counting a field that is selected
already changes neither the joined tables nor the way a request is read, and leaves it without a
default order (`exists_unordered`). -/

namespace Dynastore.Items

open List PgCollection QueryRequest

/-- The rearranged request asks for the same rows: it differs in what it projects and how it
sorts. -/
structure Query.Rearranges (query rearranged : Query) : Prop where
  filters : rearranged.filters = query.filters
  rawWhere : rearranged.rawWhere = query.rawWhere
  itemIds : rearranged.itemIds = query.itemIds
  accessFilter : rearranged.accessFilter = query.accessFilter
  groupBy : rearranged.groupBy = []
  limit : rearranged.limit = none
  offset : rearranged.offset = none

/-- The request with its first field counted as well, so that its rows are aggregated. -/
def Query.counted (query : Query) : Query :=
  { query with
    select := query.select ++ [⟨(query.select.head query.selects).field, none, some "count", none⟩]
    selects := List.append_ne_nil_of_right_ne_nil _ (List.cons_ne_nil _ _) }

namespace DriverConfig

variable {config : DriverConfig} {consumer : ConsumerType} {externalIdAsFeatureId : Bool}
  {server : Server} {query : Query}

/-! ## Conditions -/

variable {rearranged : Query} {references : List RawReference} {field : FieldDef}
  {fields : List FieldDef}

theorem fieldFor_of_resolved (resolved : name ∈ config.collection.resolvedNames request)
    (own : name ∉ hubQueryFields) :
    config.collection.fieldFor request name =
      (config.collection.fieldIndex.find? (·.name = name)).or
        (config.collection.dynamicField name) := by
  rw [PgCollection.fieldFor, PgCollection.indexFor, find?_append]
  cases found : config.collection.fieldIndex.find? (·.name = name) with
  | some => rfl
  | none =>
    have unlisted : config.collection.fieldIndex.any (·.name = name) = false := by
      rw [any_eq_false]
      intro field mem
      exact find?_eq_none.mp found field mem
    have named : ∀ other field, config.collection.dynamicField other = some field →
        field.name = other := by
      intro other field dynamic
      obtain ⟨_, _, given⟩ := exists_of_findSome?_eq_some dynamic
      exact (SidecarConfig.defines_of_dynamic given).2
    cases result : find? (fun field : FieldDef => decide (field.name = name))
        ((config.collection.resolvedNames request).filterMap fun other =>
          if other ∈ hubQueryFields ∨ config.collection.fieldIndex.any (·.name = other) then none
          else config.collection.dynamicField other) with
    | some field =>
      obtain ⟨other, _, given⟩ := mem_filterMap.mp (mem_of_find?_eq_some result)
      split at given
      · cases given
      · have same : field.name = name := by simpa using find?_some result
        rw [← same, named other field given, given]
    | none =>
      cases dynamic : config.collection.dynamicField name with
      | none => rfl
      | some field =>
        have mem : field ∈ (config.collection.resolvedNames request).filterMap fun other =>
            if other ∈ hubQueryFields ∨ config.collection.fieldIndex.any (·.name = other)
            then none else config.collection.dynamicField other := by
          refine mem_filterMap.mpr ⟨name, resolved, ?_⟩
          rw [if_neg (by simp [own, unlisted]), dynamic]
        exact (find?_eq_none.mp result field mem
          (decide_eq_true (named name field dynamic))).elim

theorem filterCondition_rearranged {filter : Comparison}
    (same : rearranged.filters = query.filters) (mem : filter ∈ query.filters) :
    config.filterCondition rearranged filter = config.filterCondition query filter := by
  have resolved : ∀ other : Query, filter ∈ other.filters → filter.field ≠ "validity" →
      filter.field ∈ config.collection.resolvedNames other.request := by
    intro other listed kept
    have named : filter.field ∈ other.request.filters.map (·.field) :=
      mem_map_of_mem (f := FilterCondition.field)
        (mem_map_of_mem (f := fun filter : Comparison =>
          (⟨filter.field, fun _ => true⟩ : FilterCondition)) listed)
    simp only [resolvedNames, mem_append]
    exact .inl (.inl (.inr (mem_filter.mpr ⟨named, by simp [kept]⟩)))
  unfold filterCondition fieldFor
  by_cases hub : filter.field ∈ hubQueryFields
  · rw [if_pos hub, if_pos hub]
  · by_cases validity : filter.field = "validity"
    · rw [if_neg hub, if_neg hub, if_pos validity, if_pos validity]
    · rw [if_neg hub, if_neg hub, if_neg validity, if_neg validity,
        fieldFor_of_resolved (resolved query mem validity) hub,
        fieldFor_of_resolved (resolved rearranged (same ▸ mem) validity) hub]

theorem admits_rearranged {reading : Reading} (rearranges : query.Rearranges rearranged) :
    config.Admits server rearranged reading row ↔ config.Admits server query reading row := by
  have filters : ∀ filter ∈ query.filters,
      config.filterCondition rearranged filter = config.filterCondition query filter :=
    fun filter mem => filterCondition_rearranged rearranges.filters mem
  constructor
  · intro admits
    refine ⟨admits.live, ?_, ?_, ?_⟩
    · intro filter mem expression test given
      exact admits.filtered filter (rearranges.filters ▸ mem) expression test
        (filters filter mem ▸ given)
    · exact rearranges.rawWhere ▸ admits.rawFiltered
    · exact rearranges.itemIds ▸ admits.identified
  · intro admits
    refine ⟨admits.live, ?_, ?_, ?_⟩
    · intro filter mem expression test given
      rw [rearranges.filters] at mem
      exact admits.filtered filter mem expression test (filters filter mem ▸ given)
    · exact rearranges.rawWhere ▸ admits.rawFiltered
    · exact rearranges.itemIds ▸ admits.identified

/-! ## A request without its default order -/

theorem mem_head_field :
    (query.select.head query.selects).field ∈ query.select.map Selection.field :=
  mem_map_of_mem (head_mem _)

theorem selectsAll_counted : query.counted.selectsAll = query.selectsAll := by
  have first := head_mem query.selects
  apply Bool.eq_iff_iff.mpr
  simp only [Query.selectsAll, selectsAll, Query.request, Query.counted,
    any_map, any_append, any_cons, any_nil, Bool.or_false, Bool.or_eq_true,
    any_eq_true, Function.comp_apply, decide_eq_true_eq]
  constructor
  · intro selected
    rcases selected with earlier | same
    · exact earlier
    · exact ⟨_, first, same⟩
  · exact .inl

theorem indexFor_counted (query : Query) : ∃ before extra after,
    config.collection.indexFor query.request = before ++ after ∧
      config.collection.indexFor query.counted.request = before ++ extra ++ after ∧
      ∀ field ∈ extra, field ∈ before := by
  let resolve : String → Option FieldDef := fun name =>
    if name ∈ hubQueryFields ∨ config.collection.fieldIndex.any (·.name = name) then none
    else config.collection.dynamicField name
  let selected := (query.request.select.map (·.field)).filter (· ≠ "*")
  let others := ((query.request.filters.map (·.field)).filter fun name =>
    !(name = "validity" && config.collection.validityAlias.isNone)) ++
      query.request.sort ++ query.request.groupBy
  refine ⟨config.collection.fieldIndex ++ selected.filterMap resolve,
    ([(query.select.head query.selects).field].filter (· ≠ "*")).filterMap resolve,
    others.filterMap resolve, ?_, ?_, ?_⟩
  · simp only [indexFor, resolvedNames, filterMap_append, append_assoc, selected, others, resolve]
  · simp only [indexFor, resolvedNames, filterMap_append,
      append_assoc, selected, others, resolve, Query.counted, Query.request, map_append,
      filter_append, map_cons, map_nil]
  · intro _ mem
    obtain ⟨name, named, given⟩ := mem_filterMap.mp mem
    obtain ⟨single, plain⟩ := mem_filter.mp named
    apply mem_append_right
    refine mem_filterMap.mpr ⟨name, mem_filter.mpr ⟨?_, plain⟩, given⟩
    rw [mem_singleton.mp single]
    simp only [Query.request, map_map]
    exact mem_head_field

theorem find?_repeated {before extra after : List α} (repeated : ∀ entry ∈ extra, entry ∈ before) :
    (before ++ extra ++ after).find? p = (before ++ after).find? p := by
  rw [find?_append, find?_append, find?_append]
  cases found : before.find? p with
  | some => rfl
  | none =>
    have absent : extra.find? p = none := by
      rw [find?_eq_none] at found ⊢
      exact fun entry mem => found entry (repeated entry mem)
    rw [absent]
    rfl

theorem fieldFor_counted : config.collection.fieldFor query.counted.request name =
      config.collection.fieldFor query.request name := by
  obtain ⟨_, _, _, given, counted, repeated⟩ :=
    indexFor_counted query
  rw [PgCollection.fieldFor, PgCollection.fieldFor, given, counted, find?_repeated repeated]

def Replaced (references : List RawReference) (field : FieldDef) : Prop :=
  field.name = "geoid" ∨ .qualified ⟨field.tableAlias, field.sqlExpression⟩ ∈ references ∨
    .bare field.name ∉ references

theorem substituteField_of_replaced
    (replaced : Replaced references field) : substituteField references field = references := by
  unfold substituteField
  rcases replaced with geoid | present | absent
  · simp [geoid]
  · simp [present]
  · dsimp only
    split
    · rfl
    · calc references.map (fun reference => if reference = .bare field.name then
              .qualified ⟨field.tableAlias, field.sqlExpression⟩ else reference)
          = references.map id := by
            apply map_congr_left
            intro reference mem
            exact if_neg fun same : reference = .bare field.name => absent (same ▸ mem)
        _ = references := map_id references

theorem replaced_substituteField (replaced : Replaced references field ∨ other = field) :
    Replaced (substituteField references other) field := by
  unfold substituteField
  dsimp only
  split
  next skipped =>
    rcases replaced with replaced | rfl
    · exact replaced
    · rw [Bool.or_eq_true, decide_eq_true_eq, contains_iff_mem] at skipped
      exact skipped.imp_right .inl
  · rcases replaced with (geoid | present | absent) | rfl
    · exact .inl geoid
    · refine .inr (.inl (mem_map.mpr ⟨_, present, if_neg ?_⟩))
      exact RawReference.noConfusion
    · refine .inr (.inr fun mem => ?_)
      obtain ⟨reference, listed, given⟩ := mem_map.mp mem
      split at given
      · cases given
      · exact absent (given ▸ listed)
    · refine .inr (.inr fun mem => ?_)
      obtain ⟨reference, _, given⟩ := mem_map.mp mem
      split at given
      · cases given
      next ne => exact ne given

theorem replaced_foldl (replaced : Replaced references field ∨ field ∈ fields) :
    Replaced (fields.foldl substituteField references) field := by
  induction fields generalizing references with
  | nil => exact replaced.resolve_right not_mem_nil
  | cons _ _ ih =>
    apply ih
    rcases replaced with replaced | listed
    · exact .inl (replaced_substituteField (.inl replaced))
    · rcases mem_cons.mp listed with rfl | later
      · exact .inl (replaced_substituteField (.inr rfl))
      · exact .inr later

theorem foldl_of_replaced (replaced : ∀ field ∈ fields, Replaced references field) :
    fields.foldl substituteField references = references := by
  induction fields with
  | nil => rfl
  | cons _ _ ih =>
    obtain ⟨first, others⟩ := forall_mem_cons.mp replaced
    rw [foldl_cons, substituteField_of_replaced first]
    exact ih others

theorem processedReferences_counted (raw : RawWhere) :
    config.processedReferences query.counted raw = config.processedReferences query raw := by
  obtain ⟨_, _, _, given, counted, repeated⟩ := indexFor_counted query
  rw [processedReferences, processedReferences, given, counted, foldl_append,
    foldl_append, foldl_append,
    foldl_of_replaced fun field mem => replaced_foldl (.inr (repeated field mem))]

theorem mem_fields_counted : name ∈ query.counted.request.fields ↔ name ∈ query.request.fields := by
  have named : name ∈ query.select.map Selection.field ∨
      name = (query.select.head query.selects).field ↔
        name ∈ query.select.map Selection.field :=
    or_iff_left_of_imp fun same => same ▸ mem_head_field
  have selected : query.request.select.map (·.field) = query.select.map Selection.field := by
    simp [Query.request, Function.comp_def]
  have counted : query.counted.request.select.map (·.field) =
      query.select.map Selection.field ++ [(query.select.head query.selects).field] := by
    simp [Query.request, Query.counted, Function.comp_def]
  rw [fields, fields, selected, counted]
  simp only [mem_append, mem_singleton, named]
  rfl

theorem requiresSidecar_counted (unaggregated : query.aggregates = false) (sidecar : Sidecar) :
    config.collection.requiresSidecar query.counted.request query.counted.rawConditions sidecar =
      config.collection.requiresSidecar query.request query.rawConditions sidecar := by
  have fields : (query.counted.request.fields.any fun name =>
      (config.collection.fieldFor query.counted.request name).any
        (·.sidecarId = sidecar.sidecarId)) =
      query.request.fields.any fun name =>
        (config.collection.fieldFor query.request name).any (·.sidecarId = sidecar.sidecarId) := by
    apply Bool.eq_iff_iff.mpr
    simp only [any_eq_true, mem_fields_counted, fieldFor_counted]
  have named : ∀ words, config.collection.namedByRaw query.counted.request words sidecar =
      config.collection.namedByRaw query.request words sidecar := by
    intro _
    obtain ⟨before, extra, after, given, counted, repeated⟩ := indexFor_counted query
    have sameFields : ∀ field, field ∈ before ++ extra ++ after ↔ field ∈ before ++ after := by
      intro field
      simp only [mem_append]
      constructor
      · intro listed
        rcases listed with (first | second) | third
        · exact .inl first
        · exact .inl (repeated field second)
        · exact .inr third
      · exact fun listed => listed.imp_left .inl
    apply Bool.eq_iff_iff.mpr
    rw [namedByRaw, namedByRaw, given, counted]
    simp only [Bool.or_eq_true, any_eq_true, sameFields]
  have first : (query.select.head query.selects).aggregation.isSome = false := by
    rw [← Bool.not_eq_true]
    intro aggregated
    have found : query.aggregates := by
      simp only [Query.aggregates, aggregates, Query.request, any_map, any_eq_true]
      exact ⟨_, head_mem query.selects, aggregated⟩
    rw [unaggregated] at found
    cases found
  have plain : ∀ other : Query, query.select.head query.selects ∈ other.select →
      other.request.countOnly = false := by
    intro _ mem
    rw [← Bool.not_eq_true]
    intro only
    simp only [countOnly, Query.request, all_map, Bool.and_eq_true, all_eq_true] at only
    have aggregated := only.2 _ mem
    rw [Function.comp_apply, first] at aggregated
    cases aggregated
  rw [requiresSidecar, requiresSidecar, fields, named,
    plain query (head_mem _), plain query.counted (mem_append_left _ (head_mem _))]
  rfl

theorem joinedSidecars_counted (unaggregated : query.aggregates = false) :
    config.joinedSidecars consumer query.counted = config.joinedSidecars consumer query := by
  have required : config.collection.determineRequiredSidecars consumer query.counted.request
      query.counted.rawConditions = config.collection.determineRequiredSidecars consumer
        query.request query.rawConditions := by
    unfold determineRequiredSidecars dropUnconditionalEnvelope
    have wildcard : query.counted.request.selectsAll = query.request.selectsAll :=
      selectsAll_counted
    have requires : config.collection.requiresSidecar query.counted.request
        query.counted.rawConditions = config.collection.requiresSidecar query.request
          query.rawConditions :=
      funext (requiresSidecar_counted unaggregated)
    rw [wildcard, requires]
    rfl
  rw [joinedSidecars, joinedSidecars, required]

theorem ordersBy_counted : config.ordersBy consumer query.counted = none := by
  have aggregated : query.counted.aggregates := by
    simp [Query.aggregates, aggregates, Query.request, Query.counted]
  simp [ordersBy, defaultOrder, aggregated]

theorem reading_counted (unaggregated : query.aggregates = false) :
    config.reading consumer externalIdAsFeatureId server query.counted =
      config.reading consumer externalIdAsFeatureId server query := by
  have raw : query.counted.rawWhere = query.rawWhere := rfl
  have processed : config.processedReferences query.counted = config.processedReferences query :=
    funext processedReferences_counted
  rw [reading, reading, identifiesBy, identifiesBy, tables, tables,
    joinedSidecars_counted unaggregated, raw, processed]

theorem runs_of_same (filters : other.filters = query.filters)
    (raw : other.rawWhere = query.rawWhere) (ids : other.itemIds = query.itemIds)
    (access : other.accessFilter = query.accessFilter)
    (joined : config.joinedSidecars consumer other = config.joinedSidecars consumer query)
    (processed : config.processedReferences other = config.processedReferences query)
    (runs : config.Runs consumer externalIdAsFeatureId server query) :
    config.Runs consumer externalIdAsFeatureId server other := by
  have sameTables : config.tables consumer other = config.tables consumer query := by
    rw [tables, tables, joined]
  refine ⟨access ▸ runs.typed, ?_, ?_, ?_⟩
  · intro filter mem expression test given
    rw [filters] at mem
    rw [filterCondition_rearranged filters mem] at given
    rw [← mem_tables, sameTables, mem_tables]
    exact runs.filtered filter mem expression test given
  · rw [raw, processed, sameTables]
    exact runs.located
  · rw [ids, identifiesBy, joined]
    exact runs.castable

theorem runs_counted (unaggregated : query.aggregates = false) :
    config.Runs consumer externalIdAsFeatureId server query.counted ↔
      config.Runs consumer externalIdAsFeatureId server query := by
  have joined : config.joinedSidecars consumer query.counted =
      config.joinedSidecars consumer query := joinedSidecars_counted unaggregated
  have processed : config.processedReferences query.counted = config.processedReferences query :=
    funext processedReferences_counted
  constructor
  · exact runs_of_same rfl rfl rfl rfl joined.symm processed.symm
  · exact runs_of_same rfl rfl rfl rfl joined processed

theorem accepts_counted (accepted : config.Accepts query) (ungrouped : query.groupBy = []) :
    config.Accepts query.counted := by
  have grouped : query.counted.groupBy = [] := ungrouped
  unfold Accepts validateQuery at accepted ⊢
  simp only [append_eq_nil_iff] at accepted ⊢
  obtain ⟨⟨⟨⟨selected, filters⟩, sorted⟩, groups⟩, _⟩ := accepted
  refine ⟨⟨⟨⟨?_, filters⟩, sorted⟩, groups⟩, ?_⟩
  · rw [flatMap_eq_nil_iff] at selected ⊢
    intro selection mem
    have listed : selection ∈ query.request.select ++
        [⟨(query.select.head query.selects).field, some "count", none⟩] := by
      simpa [Query.request, Query.counted] using mem
    rcases mem_append.mp listed with earlier | counted
    · exact selected selection earlier
    · rw [mem_singleton.mp counted]
      exact checkSelection_count (selected _ (mem_map_of_mem (head_mem query.selects)))
  · simp [checkUngrouped, Query.request, grouped]

theorem exists_unordered (rearranges : query.Rearranges rearranged)
    (accepted : config.Accepts rearranged) :
    ∃ unordered, query.Rearranges unordered ∧ config.Accepts unordered ∧
      config.ordersBy consumer unordered = none ∧
      config.reading consumer externalIdAsFeatureId server unordered =
        config.reading consumer externalIdAsFeatureId server rearranged ∧
      (config.Runs consumer externalIdAsFeatureId server unordered ↔
        config.Runs consumer externalIdAsFeatureId server rearranged) := by
  by_cases unaggregated : rearranged.aggregates = false
  · exact ⟨rearranged.counted,
      ⟨rearranges.filters, rearranges.rawWhere, rearranges.itemIds, rearranges.accessFilter,
        rearranges.groupBy, rearranges.limit, rearranges.offset⟩,
      accepts_counted accepted rearranges.groupBy, ordersBy_counted,
      reading_counted unaggregated, runs_counted unaggregated⟩
  · refine ⟨rearranged, rearranges, accepted, ?_, rfl, Iff.rfl⟩
    simp [ordersBy, defaultOrder, unaggregated]

theorem exists_selectsFrom (rearranges : query.Rearranges rearranged)
    (runs : config.Runs consumer externalIdAsFeatureId server rearranged) :
    ∃ members,
      config.selectsFrom consumer externalIdAsFeatureId server rearranged store = some members ∧
      ∀ geoid, geoid ∈ members ↔ ∃ item, store.get geoid = some item ∧ config.Admitted server query
          (config.reading consumer externalIdAsFeatureId server rearranged) geoid item ∧
        config.Ordered consumer rearranged item := by
  obtain ⟨members, given⟩ := Statement.exists_members_of_runs (runs_iff.mpr runs)
  refine ⟨members, given, ?_⟩
  intro geoid
  have admitted : ∀ reading item, config.Admitted server rearranged reading geoid item ↔
      config.Admitted server query reading geoid item := by
    intro _ _
    simp only [Admitted, admits_rearranged rearranges]
  have selected : (∃ members, config.selectsFrom consumer externalIdAsFeatureId server rearranged
      store = some members ∧ geoid ∈ members) ↔ _ := mem_selectsFrom runs
  rw [selectsFrom, given] at selected
  simp only [Option.some.injEq, exists_eq_left', admitted] at selected
  exact selected

theorem isSome_selectsFrom :
    (config.selectsFrom consumer externalIdAsFeatureId server query store).isSome ↔
      config.Runs consumer externalIdAsFeatureId server query := by
  constructor
  · intro some
    by_contra refused
    rw [selectsFrom_of_not_runs refused] at some
    cases some
  · intro runs
    obtain ⟨_, given⟩ := Statement.exists_members_of_runs (runs_iff.mpr runs)
    rw [selectsFrom, given]
    rfl

end DriverConfig

end Dynastore.Items
