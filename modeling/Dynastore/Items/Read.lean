import Dynastore.Items.Count
import Dynastore.Tools.Identifier

/-! `get_item` with its two ways to the stored item: the document of the envelope index under the
id, and the optimized SQL on PostgreSQL. -/

namespace Dynastore.Items

open List Option PgCollection

open Access (AccessFilter)

/-! ## Stores -/

structure StoredItem where
  collectionId : String
  document : Document

structure IndexedItem where
  id : String
  collectionId : String
  envelope : Option Envelope

/-- The envelope index of a catalog. `available` is the check of the dispatcher, `present`
that of the driver, and `presents` says of which sources the transformers and the item
pipeline make a feature. -/
structure EnvelopeIndex where
  available : Bool
  present : Bool
  items : Table IndexedItem IndexedItem.id
  presents : IndexedItem → Bool

/-- The driver that the routing configuration gives for READ; `unresolved` where the
resolution raises. -/
inductive ReadDriver where
  | unresolved
  | postgresql
  | elasticsearchEnvelope
deriving DecidableEq

structure ItemStore where
  table : HubTable
  index : EnvelopeIndex

/-! ## The read -/

def EnvelopeIndex.readEntity (index : EnvelopeIndex) (catalogId itemId : String) :
    Option StoredItem :=
  if index.present then
    ((index.items.lookup itemId).filter index.presents).map fun item =>
      { collectionId := item.collectionId
        document := accessDocument catalogId item.collectionId item.envelope }
  else none

namespace ItemCollection

variable (collection : ItemCollection) (postgres : Postgres) (consumer : ConsumerType)

def itemRequest (itemId : String) (filter : Option AccessFilter) : QueryRequest where
  select := [⟨"*", none, none⟩]
  filters := []
  sort := []
  groupBy := []
  rawSelectWords := []
  rawWhere := none
  cqlFilter := none
  itemIds := [itemId]
  spatial := false
  datetime := false
  accessFilter := filter

/-- The PostgreSQL path of `get_item`; `isUuid` is the check of the UUID constructor. -/
def getItemRow (isUuid : String → Bool) (table : HubTable) (itemId : String)
    (filter : Option AccessFilter) : Except QueryError (Option ItemRow) :=
  if collection.physSchema.isNone || collection.physTable.isNone then .ok none
  else if !collection.externalIdAsFeatureId && !isUuid itemId then .ok none
  else
    match collection.config.buildQuery postgres consumer collection.externalIdAsFeatureId
      (itemRequest itemId filter) with
    | .error error => .error error
    | .ok statement =>
      match statement.run table.rows with
      | .error error => .error (.sql error)
      | .ok rows => .ok rows.head?

def getItem (isUuid : String → Bool) (driver : ReadDriver) (store : ItemStore) (itemId : String)
    (filter : Option AccessFilter) : Except QueryError (Option StoredItem) :=
  match (invalidIdentifier collection.catalogId).or (invalidIdentifier collection.collectionId) with
  | some message => .error (.value message)
  | none =>
    if driver = .elasticsearchEnvelope ∧ store.index.available = true then
      .ok (store.index.readEntity collection.catalogId itemId)
    else
      (collection.getItemRow postgres consumer isUuid store.table itemId filter).map
        fun row => row.map fun found =>
          { collectionId := collection.collectionId
            document := found.document collection.catalogId collection.collectionId }

/-! ## The row a read selects -/

def joinedSidecars : List Sidecar :=
  (collection.config.sidecars.filter (PgCollection.servesActiveConsumer consumer)).filter
    (·.registered)

/-- The row is live, is found by the join that gives the default order, and has the id. -/
def identifies (itemId : String) (row : ItemRow) : Bool :=
  !row.deleted &&
  ((collection.joinedSidecars consumer).find? (·.defaultSort)).all
    (fun sidecar => row.sidecars.contains sidecar.sidecarId) &&
  match (collection.joinedSidecars consumer).find? fun sidecar =>
    collection.externalIdAsFeatureId && sidecar.providesFeatureId with
  | none => postgres.uuid itemId = some row.geoid
  | some _ => row.externalId.getD (postgres.uuidText row.geoid) = itemId

/-- The PostgreSQL path gets as far as reading rows. -/
def Readable (isUuid : String → Bool) (itemId : String) : Prop :=
  collection.physSchema ≠ none ∧ collection.physTable ≠ none ∧
  (collection.externalIdAsFeatureId = false → isUuid itemId = true) ∧
  postgres.projection (itemRequest itemId none) = none

variable {collection postgres consumer} {isUuid : String → Bool} {table : HubTable}
  {itemId : String} {filter : Option AccessFilter}

theorem determineRequiredSidecars_itemRequest (unaware : ¬ collection.config.AccessAware) :
    (collection.config.determineRequiredSidecars consumer (itemRequest itemId filter) []).filter
        (·.registered) =
      collection.joinedSidecars consumer := by
  have kept : ∀ sidecars : List Sidecar,
      (∀ sidecar ∈ sidecars, sidecar ∈ collection.config.sidecars) →
      dropUnconditionalEnvelope (itemRequest itemId filter) sidecars = sidecars := by
    intro _ listed
    unfold dropUnconditionalEnvelope
    split
    · refine filter_eq_self.mpr ?_
      intro sidecar mem
      have plain : ¬ sidecar.accessEnvelope :=
        fun envelope => unaware ⟨sidecar, listed sidecar mem, envelope⟩
      simpa using plain
    · rfl
  rw [determineRequiredSidecars, kept]
  · rfl
  · intro _ mem
    exact mem_of_mem_filter mem

def itemStatement (collection : ItemCollection) (postgres : Postgres) (consumer : ConsumerType)
    (itemId : String) (filter : Option AccessFilter) : Sql.Select ItemRow :=
  collection.config.statement postgres consumer collection.externalIdAsFeatureId
    (itemRequest itemId filter) []

section

variable (unaware : ¬ collection.config.AccessAware)

include unaware

theorem not_accessEnvelope_of_mem_joinedSidecars
    (joined : sidecar ∈ collection.joinedSidecars consumer) : sidecar.accessEnvelope = false := by
  have listed : sidecar ∈ collection.config.sidecars :=
    mem_of_mem_filter (mem_of_mem_filter joined)
  by_contra envelope
  exact unaware ⟨sidecar, listed, by simpa using envelope⟩

theorem itemStatement_eq : collection.itemStatement postgres consumer itemId filter =
      { base := "h"
        joins := (collection.joinedSidecars consumer).map Sidecar.join
        projection := postgres.projection (itemRequest itemId none)
        conditions := PgCollection.liveCondition ::
          (PgCollection.sortCondition (itemRequest itemId filter)
            (collection.joinedSidecars consumer)).toList ++
          (PgCollection.itemIdsCondition postgres collection.externalIdAsFeatureId
            (itemRequest itemId filter) (collection.joinedSidecars consumer)).toList } := by
  have plain : (collection.joinedSidecars consumer).filter (·.accessEnvelope) = [] := by
    refine filter_eq_nil_iff.mpr ?_
    intro _ joined
    simp [not_accessEnvelope_of_mem_joinedSidecars unaware joined]
  rw [itemStatement, statement, determineRequiredSidecars_itemRequest unaware, plain]
  simp [itemRequest]

theorem itemStatement_holds :
    (collection.itemStatement postgres consumer itemId filter).holds row =
      collection.identifies postgres consumer itemId row := by
  rw [itemStatement_eq unaware, identifies]
  simp only [Sql.Select.holds, liveCondition, sortCondition,
    itemIdsCondition, itemRequest, cons_append, all_cons, all_append]
  cases (collection.joinedSidecars consumer).find? (·.defaultSort) <;>
    cases (collection.joinedSidecars consumer).find? fun sidecar =>
      collection.externalIdAsFeatureId && sidecar.providesFeatureId <;>
    simp [QueryRequest.aggregates, Bool.and_assoc]

omit unaware in
theorem itemIdsCondition_aliases {sidecars : List Sidecar}
    (built : PgCollection.itemIdsCondition postgres external request sidecars = some condition)
    (named : tableAlias ∈ condition.aliases) :
    tableAlias = "h" ∨ ∃ sidecar ∈ sidecars, sidecar.joinAlias = tableAlias := by
  unfold itemIdsCondition at built
  split at built
  · cases built
  · split at built
    · cases built
      exact .inl (by simpa using named)
    · rename_i sidecar provider
      cases built
      simp only [mem_cons, not_mem_nil, or_false] at named
      rcases named with sidecarAlias | hub
      · exact .inr ⟨sidecar, mem_of_find?_eq_some provider, sidecarAlias.symm⟩
      · exact .inl hub

theorem itemStatement_accepted_iff :
    (collection.itemStatement postgres consumer itemId filter).Accepted ↔
      postgres.projection (itemRequest itemId none) = none := by
  rw [itemStatement_eq unaware]
  constructor
  · intro accepted
    exact accepted.2.1
  · intro projected
    refine ⟨?_, projected, ?_⟩
    · intro _ mem
      rcases List.mem_map.mp mem with ⟨sidecar, joined, same⟩
      subst same
      simp [Sidecar.join, Sidecar.geoidColumn,
        not_accessEnvelope_of_mem_joinedSidecars unaware joined]
    · intro _ mem _ named
      simp only [List.cons_append, List.mem_cons, List.mem_append, Option.mem_toList] at mem
      rcases mem with _ | sorting | ids
      · simp_all [liveCondition, Sql.Select.aliases]
      · simp only [sortCondition, Option.ite_none_right_eq_some, Option.map_eq_some_iff] at sorting
        rcases sorting with ⟨_, sidecar, _, same⟩
        simp [← same] at named
      · have idAliases := itemIdsCondition_aliases ids named
        simp only [Sql.Select.aliases, List.map_map, List.mem_cons, List.mem_map]
        rcases idAliases with hub | ⟨sidecar, joined, same⟩
        · exact .inl hub
        · exact .inr ⟨sidecar, joined, same⟩

omit unaware in
theorem getItemRow_eq : collection.getItemRow postgres consumer isUuid table itemId filter =
      if collection.physSchema.isNone || collection.physTable.isNone then .ok none
      else if !collection.externalIdAsFeatureId && !isUuid itemId then .ok none
      else match (collection.itemStatement postgres consumer itemId filter).run table.rows with
        | .error error => .error (.sql error)
        | .ok rows => .ok rows.head? := rfl

theorem getItemRow_of_readable (readable : collection.Readable postgres isUuid itemId) :
    collection.getItemRow postgres consumer isUuid table itemId filter =
      .ok (table.rows.find? (collection.identifies postgres consumer itemId)) := by
  have ⟨schema, physical, identified, projected⟩ := readable
  have accepted : (collection.itemStatement postgres consumer itemId filter).Accepted :=
    (itemStatement_accepted_iff unaware).mpr projected
  have selects : (collection.itemStatement postgres consumer itemId filter).holds =
      collection.identifies postgres consumer itemId :=
    funext fun _ => itemStatement_holds unaware
  rw [getItemRow_eq, if_neg (by simp [schema, physical]),
    if_neg (by simpa using identified), Sql.Select.run_of_accepted accepted, selects]
  simp only [head?_filter]

theorem readable_of_getItemRow
    (found : collection.getItemRow postgres consumer isUuid table itemId filter = .ok (some row)) :
    collection.Readable postgres isUuid itemId := by
  rw [getItemRow_eq] at found
  split at found
  · cases found
  split at found
  · cases found
  rename_i stored identified
  have ⟨schema, physical⟩ : collection.physSchema ≠ none ∧ collection.physTable ≠ none := by
    simpa using stored
  have accepted : (collection.itemStatement postgres consumer itemId filter).Accepted := by
    by_contra rejected
    have ⟨error, failed⟩ := Sql.Select.run_of_not_accepted rejected
    simp [failed] at found
  exact ⟨schema, physical, by simpa using identified,
    (itemStatement_accepted_iff unaware).mp accepted⟩

end

theorem isUnconditional_of_getItemRow (aware : collection.config.AccessAware)
    (found : collection.getItemRow postgres consumer isUuid table itemId filter = .ok (some row)) :
    filter.any (·.isUnconditional) := by
  by_contra restricted
  have restricted : (itemRequest itemId filter).accessFilter.any (·.isUnconditional) = false := by
    simpa [itemRequest] using restricted
  have rejected : ¬ (collection.itemStatement postgres consumer itemId filter).Accepted :=
    not_accepted_of_accessAware aware restricted rfl
  have ⟨error, failed⟩ := Sql.Select.run_of_not_accepted rejected
  rw [getItemRow_eq, failed] at found
  split at found
  · cases found
  split at found
  · cases found
  · cases found

/-! ## Row access -/

variable (collection postgres consumer)

/-- A feature is only returned of an item of the collection that the filter admits. -/
def ReadEnforces (py : Python) (isUuid : String → Bool) (driver : ReadDriver) (store : ItemStore)
    (itemId : String) (filter : AccessFilter) : Prop :=
  ∀ item, collection.getItem postgres consumer isUuid driver store itemId (some filter) =
      .ok (some item) →
    item.collectionId = collection.collectionId ∧ filter.admits py item.document = true

variable {collection postgres consumer} {py : Python} {driver : ReadDriver} {store : ItemStore}
  {scope : AccessFilter}

theorem readEntity_eq_some {index : EnvelopeIndex} {catalogId : String} :
    index.readEntity catalogId itemId = some stored ↔
      ∃ item, index.present ∧ index.items.lookup itemId = some item ∧ index.presents item ∧
        stored = ⟨item.collectionId,
          accessDocument catalogId item.collectionId item.envelope⟩ := by
  unfold EnvelopeIndex.readEntity
  cases index.present with
  | false => simp
  | true =>
    simp only [if_true, map_eq_some_iff, filter_eq_some_iff, true_and]
    constructor
    · intro ⟨item, ⟨found, presented⟩, same⟩
      exact ⟨item, found, presented, same.symm⟩
    · intro ⟨item, found, presented, same⟩
      exact ⟨item, ⟨found, presented⟩, same.symm⟩

theorem getItem_of_indexed (catalogCheck : invalidIdentifier collection.catalogId = none)
    (collectionCheck : invalidIdentifier collection.collectionId = none)
    (indexed : driver = .elasticsearchEnvelope ∧ store.index.available) :
    collection.getItem postgres consumer isUuid driver store itemId filter =
      .ok (store.index.readEntity collection.catalogId itemId) := by
  rw [getItem, catalogCheck, collectionCheck]
  exact if_pos indexed

theorem valid_of_getItem
    (returned : collection.getItem postgres consumer isUuid driver store itemId filter = .ok item) :
    invalidIdentifier collection.catalogId = none ∧
      invalidIdentifier collection.collectionId = none := by
  unfold getItem at returned
  split at returned
  · cases returned
  next checked => simpa using checked

/-- The index may hold an item of another collection under the id. -/
theorem not_enforced_of_indexed (catalogCheck : invalidIdentifier collection.catalogId = none)
    (collectionCheck : invalidIdentifier collection.collectionId = none)
    (indexed : driver = .elasticsearchEnvelope ∧ available = true) :
    ¬ ∀ store : ItemStore, store.index.available = available → ∀ itemId scope,
      collection.ReadEnforces postgres consumer py isUuid driver store itemId scope := by
  intro enforced
  let stray : IndexedItem := ⟨"item", collection.collectionId ++ "_", none⟩
  let store : ItemStore := ⟨Table.empty, available, true, Table.empty.upsert stray, fun _ => true⟩
  have found : store.index.readEntity collection.catalogId "item" = some ⟨stray.collectionId,
      accessDocument collection.catalogId stray.collectionId stray.envelope⟩ :=
    readEntity_eq_some.mpr ⟨stray, rfl, by rw [Table.lookup_upsert]; rfl, rfl, rfl⟩
  have read : collection.collectionId ++ "_" = collection.collectionId :=
    (enforced store rfl "item" {} _
      ((getItem_of_indexed catalogCheck collectionCheck indexed).trans (congrArg _ found))).1
  simpa using congrArg String.length read

theorem getItem_of_not_indexed (catalogCheck : invalidIdentifier collection.catalogId = none)
    (collectionCheck : invalidIdentifier collection.collectionId = none)
    (unindexed : ¬ (driver = .elasticsearchEnvelope ∧ store.index.available)) :
    collection.getItem postgres consumer isUuid driver store itemId filter = .ok (some stored) ↔
      ∃ row, collection.getItemRow postgres consumer isUuid store.table itemId filter =
          .ok (some row) ∧
        stored = ⟨collection.collectionId,
          row.document collection.catalogId collection.collectionId⟩ := by
  rw [getItem, catalogCheck, collectionCheck]
  simp only [or_none, if_neg unindexed]
  cases collection.getItemRow postgres consumer isUuid store.table itemId filter with
  | error => simp [Except.map]
  | ok row =>
    cases row with
    | none => simp [Except.map]
    | some =>
      simp only [Except.map, map_some, Except.ok.injEq, some.injEq, exists_eq_left']
      exact eq_comm

/-- On PostgreSQL the filter is enforced for every table exactly where the collection declares the
envelope sidecar, or no read gets to a row. -/
theorem rows_enforce_iff (py : Python) :
    (∀ (table : HubTable) itemId scope row,
      collection.getItemRow postgres consumer isUuid table itemId (some scope) = .ok (some row) →
      scope.admits py (row.document collection.catalogId collection.collectionId)) ↔
    collection.config.AccessAware ∨ ∀ itemId row, collection.Readable postgres isUuid itemId →
      ¬ collection.identifies postgres consumer itemId row := by
  by_cases aware : collection.config.AccessAware
  · simp only [aware, true_or, iff_true]
    intro _ _ _ row found
    exact AccessFilter.admits_of_isUnconditional (isUnconditional_of_getItemRow aware found)
  · simp only [aware, false_or]
    constructor
    · intro enforced itemId row readable identified
      have admitted := enforced (Table.empty.upsert row) itemId { denyAll := true } row (by
        rw [getItemRow_of_readable aware readable]
        simp [Table.upsert, Table.empty, identified])
      simp [AccessFilter.admits] at admitted
    · intro unreached table itemId _ row found
      have readable := readable_of_getItemRow aware found
      rw [getItemRow_of_readable aware readable, Except.ok.injEq] at found
      exact absurd (find?_some found) (unreached itemId row readable)

/-- Reads by id enforce row access, whatever is stored and whatever the filter, exactly where
PostgreSQL serves them and the collection declares the envelope sidecar, or no read gets to a
row. -/
theorem reads_enforce_iff (collection : ItemCollection) (postgres : Postgres)
    (consumer : ConsumerType) (py : Python) (isUuid : String → Bool) (driver : ReadDriver)
    (available : Bool) :
    (∀ store : ItemStore, store.index.available = available → ∀ itemId scope,
        collection.ReadEnforces postgres consumer py isUuid driver store itemId scope) ↔
      (invalidIdentifier collection.catalogId = none →
        invalidIdentifier collection.collectionId = none →
        ¬ (driver = .elasticsearchEnvelope ∧ available = true) ∧
          (collection.config.AccessAware ∨
            ∀ itemId row, collection.Readable postgres isUuid itemId →
            ¬ collection.identifies postgres consumer itemId row)) := by
  rw [← rows_enforce_iff py]
  constructor
  · intro enforced catalogCheck collectionCheck
    have unindexed : ¬ (driver = .elasticsearchEnvelope ∧ available = true) := fun indexed =>
      not_enforced_of_indexed catalogCheck collectionCheck indexed enforced
    refine ⟨unindexed, ?_⟩
    intro table itemId scope row found
    refine (enforced ⟨table, available, false, Table.empty, fun _ => false⟩ rfl itemId scope
      ⟨collection.collectionId, _⟩ ?_).2
    exact (getItem_of_not_indexed catalogCheck collectionCheck unindexed).mpr ⟨row, found, rfl⟩
  · rintro condition store rfl itemId scope _ returned
    have ⟨catalogCheck, collectionCheck⟩ := valid_of_getItem returned
    have ⟨unindexed, ofRows⟩ := condition catalogCheck collectionCheck
    have ⟨row, found, same⟩ :=
      (getItem_of_not_indexed catalogCheck collectionCheck unindexed).mp returned
    subst same
    exact ⟨rfl, ofRows store.table itemId scope row found⟩

/-! A private item of another collection, stored in the envelope index of the catalog. -/

def privateItem : IndexedItem where
  id := "item"
  collectionId := "archive"
  envelope := some ⟨some "private", none, []⟩

def privateStore : ItemStore where
  table := Table.empty
  index :=
    { available := true
      present := true
      items := ⟨[privateItem], by decide⟩
      presents := fun _ => true }

/-- Read through a collection it is not part of, under a filter that hides it. -/
theorem private_item_read : secured.collectionId = "k" ∧
    secured.getItem plainPostgres .generic (fun _ => true) .elasticsearchEnvelope privateStore
        "item" (some publicOnly) =
      .ok (some ⟨"archive", accessDocument "c" "archive" privateItem.envelope⟩) ∧
    publicOnly.admits Python.literal (accessDocument "c" "archive" privateItem.envelope) =
      false := by
  refine ⟨rfl, ?_, by decide⟩
  rfl

end ItemCollection

end Dynastore.Items
