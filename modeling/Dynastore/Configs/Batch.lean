import Dynastore.Configs.Effective
import Dynastore.Configs.Computed
import Mathlib.Data.List.Dedup

/-! `get_configs_batch` reads the rows of many collections at once and hands each row to the id that
asked for it. Of several ids of one collection only the last is handed the row. -/

namespace Dynastore.Configs

open List Option

/-- A call of `get_configs_batch` on a connection, with what it finds. -/
structure BatchCall where
  classes : Registry
  surroundings : Surroundings
  store : ConfigStore
  classKey : String
  catalogId : String
  collectionIds : List String

def resolveAll (resolve : String → Except ConfigError PluginConfig) :
    List String → Except ConfigError (List (String × PluginConfig))
  | [] => .ok []
  | id :: ids =>
    match resolve id, resolveAll resolve ids with
    | .ok config, .ok configs => .ok ((id, config) :: configs)
    | .error error, _ | _, .error error => .error error

namespace BatchCall

variable (call : BatchCall)

def getCatalogConfig : Except ConfigError PluginConfig :=
  getConfig call.classes call.surroundings call.store call.classKey (some call.catalogId) none

/-- `get_config` for one collection, which raises where the catalog does not exist. -/
def getCollectionConfig (collectionId : String) : Except ConfigError PluginConfig :=
  match getPlatformConfig call.classes call.store call.classKey,
      call.surroundings.physSchema call.catalogId with
  | .ok _, none => .error (.unresolvedSchema call.catalogId)
  | _, _ => getConfig call.classes call.surroundings call.store call.classKey
      (some call.catalogId) (some collectionId)

def internalId (collectionId : String) : String :=
  call.surroundings.internalId call.catalogId collectionId

def delta (collectionId : String) : Option Document :=
  collectionDelta call.surroundings call.store call.classKey call.catalogId collectionId

def internalToExternal : List (String × String) :=
  Dict.collect call.internalId id call.collectionIds

/-- The rows that the query returns, with the internal ids of their collections. -/
def rows : List (String × Document) :=
  (call.collectionIds.map call.internalId).dedup.filterMap fun internalId =>
    (call.surroundings.physSchema call.catalogId).bind fun physSchema =>
      (storedData call.store (.collection physSchema internalId) call.classKey).map fun data =>
        (internalId, data)

def externalId (row : String × Document) : String :=
  (call.internalToExternal.lookup row.1).getD row.1

def collectionDeltaById : List (String × Document) :=
  Dict.collect call.externalId Prod.snd call.rows

/-- The configuration that the batch makes for one id, over the platform's. -/
def resolve (live : PluginConfig) (collectionId : String) : Except ConfigError PluginConfig :=
  mergeDeltas call.classes call.classKey
    ((call.surroundings.snapshotBase call.catalogId call.classKey).getD live)
    ((catalogDelta call.surroundings call.store call.classKey call.catalogId).toList ++
      (call.collectionDeltaById.lookup collectionId).toList)

def getConfigsBatch : Except ConfigError (List (String × PluginConfig)) :=
  match getPlatformConfig call.classes call.store call.classKey with
  | .error error => .error error
  | .ok live => resolveAll (call.resolve live) call.collectionIds

/-- The id comes last among those of its collection in the list. -/
def IsLastForm (collectionId : String) : Prop :=
  call.internalToExternal.lookup (call.internalId collectionId) = some collectionId

variable {call}

theorem resolveAll_spec (resolve : String → Except ConfigError PluginConfig) :
    (∃ configs, resolveAll resolve ids = .ok configs ∧
        ∀ id ∈ ids, (configs.lookup id).map .ok = some (resolve id)) ∨
      ((resolveAll resolve ids).toOption = none ∧ ∃ id ∈ ids, (resolve id).toOption = none) := by
  induction ids with
  | nil => exact .inl ⟨[], rfl, nofun⟩
  | cons first ids ih =>
    cases own : resolve first with
    | error =>
      exact .inr ⟨by simp [resolveAll, own, Except.toOption], first, mem_cons_self,
        by rw [own]; rfl⟩
    | ok config =>
      rcases ih with ⟨configs, rest, all⟩ | ⟨raised, id, mem, failed⟩
      · refine .inl ⟨(first, config) :: configs, by simp [resolveAll, own, rest], ?_⟩
        intro id mem
        by_cases same : id = first
        · simp [same, own]
        · rw [lookup_cons, beq_false_of_ne same]
          exact all id (mem_of_ne_of_mem same mem)
      · refine .inr ⟨?_, id, mem_cons_of_mem _ mem, failed⟩
        cases rest : resolveAll resolve ids with
        | error => simp [resolveAll, own, rest, Except.toOption]
        | ok => simp [rest, Except.toOption] at raised

theorem mem_rows :
    row ∈ call.rows ↔ ∃ id ∈ call.collectionIds, call.internalId id = row.1 ∧
      call.delta id = some row.2 := by
  rw [rows, mem_filterMap]
  constructor
  · rintro ⟨_, asked, found⟩
    obtain ⟨physSchema, resolved, found⟩ := bind_eq_some_iff.mp found
    obtain ⟨_, stored, rfl⟩ := map_eq_some_iff.mp found
    obtain ⟨id, mem, rfl⟩ := mem_map.mp (mem_dedup.mp asked)
    exact ⟨id, mem, rfl, bind_eq_some_iff.mpr ⟨physSchema, resolved, stored⟩⟩
  · rintro ⟨_, mem, same, found⟩
    obtain ⟨_, resolved, stored⟩ := bind_eq_some_iff.mp found
    refine ⟨row.1, mem_dedup.mpr (same ▸ mem_map_of_mem mem), ?_⟩
    rw [resolved, bind_some, ← same]
    exact map_eq_some_iff.mpr ⟨row.2, stored, Prod.ext same rfl⟩

theorem delta_congr (same : call.internalId left = call.internalId right) :
    call.delta left = call.delta right :=
  congrArg (fun internalId => (call.surroundings.physSchema call.catalogId).bind fun physSchema =>
    storedData call.store (.collection physSchema internalId) call.classKey) same

/-- A row is mapped back to the last id of its collection. -/
theorem externalId_of_mem (mem : row ∈ call.rows) :
    call.IsLastForm (call.externalId row) ∧ call.internalId (call.externalId row) = row.1 ∧
      call.delta (call.externalId row) = some row.2 := by
  obtain ⟨id, idMem, sameId, stored⟩ := mem_rows.mp mem
  cases mapped : call.internalToExternal.lookup row.1 with
  | none =>
    rw [internalToExternal, Dict.lookup_collect, map_eq_none_iff, find?_eq_none]
      at mapped
    exact absurd (decide_eq_true sameId) (mapped id (mem_reverse.mpr idMem))
  | some =>
    obtain ⟨_, _, lastId, rfl⟩ := Dict.of_lookup_collect mapped
    simp only [externalId, mapped, getD_some, id_eq, IsLastForm, lastId, true_and]
    exact (delta_congr (lastId.trans sameId.symm)).trans stored

theorem lookup_of_not_last (other : ¬ call.IsLastForm collectionId) :
    call.collectionDeltaById.lookup collectionId = none := by
  cases found : call.collectionDeltaById.lookup collectionId with
  | none => rfl
  | some =>
    obtain ⟨_, mem, rfl, _⟩ := Dict.of_lookup_collect found
    exact absurd (externalId_of_mem mem).1 other

theorem lookup_of_last (last : call.IsLastForm collectionId) :
    call.collectionDeltaById.lookup collectionId = call.delta collectionId := by
  cases own : call.delta collectionId with
  | none =>
    cases found : call.collectionDeltaById.lookup collectionId with
    | none => rfl
    | some =>
      obtain ⟨row, mem, rfl, _⟩ := Dict.of_lookup_collect found
      cases own.symm.trans (externalId_of_mem mem).2.2
  | some data =>
    obtain ⟨id, idMem, sameId, _⟩ := Dict.of_lookup_collect last
    have mem : (call.internalId collectionId, data) ∈ call.rows :=
      mem_rows.mpr ⟨id, idMem, sameId, (delta_congr sameId).trans own⟩
    have mappedBack : call.externalId (call.internalId collectionId, data) = collectionId := by
      rw [externalId, last, getD_some]
    have unique : ∀ row ∈ call.rows,
        call.externalId row = call.externalId (call.internalId collectionId, data) →
          row = (call.internalId collectionId, data) := by
      intro _ rowMem same
      obtain ⟨_, rowId, rowDelta⟩ := externalId_of_mem rowMem
      rw [same, mappedBack] at rowId rowDelta
      exact Prod.ext rowId.symm (some.inj (rowDelta.symm.trans own))
    exact mappedBack ▸ Dict.lookup_collect_of_unique mem unique

/-- The batch returns for each id of the list the configuration that `get_config` returns. -/
def Agrees (call : BatchCall) : Prop :=
  ∀ id ∈ call.collectionIds, ∃ config, call.getCollectionConfig id = .ok config ∧
    call.getConfigsBatch.toOption.bind (·.lookup id) = some config

/-- The batch agrees with `get_config` exactly if `get_config` returns for each id of the list,
and each id is the last of its collection there or the collection's row changes nothing. -/
theorem agrees_iff (call : BatchCall) :
    call.Agrees ↔ ∀ id ∈ call.collectionIds, ∃ config, call.getCollectionConfig id = .ok config ∧
      (call.IsLastForm id ∨ call.getCatalogConfig = .ok config) := by
  unfold Agrees getConfigsBatch
  cases platform : getPlatformConfig call.classes call.store call.classKey with
  | error error =>
    have raises (id : String) : call.getCollectionConfig id = .error error := by
      simp [getCollectionConfig, getConfig, platform]
    simp [raises]
  | ok live =>
    have resolved {id : String} {config : PluginConfig}
        (returned : call.getCollectionConfig id = .ok config) :
        call.resolve live id = .ok config ↔
          call.IsLastForm id ∨ call.getCatalogConfig = .ok config := by
      by_cases last : call.IsLastForm id
      · refine iff_of_true ?_ (.inl last)
        rw [getCollectionConfig, platform] at returned
        split at returned
        · cases returned
        · rwa [getConfig_eq_mergeDeltas platform, bind_some, ← delta, ← lookup_of_last last]
            at returned
      · rw [or_iff_right last, getCatalogConfig, getConfig_eq_mergeDeltas platform, resolve,
          lookup_of_not_last last]
        rfl
    rcases resolveAll_spec (call.resolve live) with
      ⟨configs, all, found⟩ | ⟨raised, id, mem, failed⟩
    · refine forall₂_congr fun id mem => exists_congr fun config =>
        and_congr_right fun returned => ?_
      rw [← resolved returned]
      have own := found id mem
      cases looked : configs.lookup id with
      | none => simp [looked] at own
      | some =>
        rw [looked] at own
        simp [all, looked, Except.toOption, ← some.inj own]
    · simp only [raised]
      refine iff_of_false (fun agrees => ?_) fun agrees => ?_
      · obtain ⟨config, _, absent⟩ := agrees id mem
        cases absent
      · obtain ⟨config, returned, settled⟩ := agrees id mem
        rw [(resolved returned).mpr settled] at failed
        cases failed

/-- The external and the internal id of one provisioned collection. -/
def bothForms : BatchCall where
  classes := driverClasses
  surroundings := { driverSurroundings with internalId := fun _ _ => "k" }
  store := Table.empty.upsert ⟨.collection "s_c" "k", "items_postgresql_driver_config",
    "items_postgresql_driver_config", "1", [("physical_table", .text "t_k")], 1⟩
  classKey := "items_postgresql_driver_config"
  catalogId := "c"
  collectionIds := ["roads", "k"]

theorem earlier_form_unprovisioned : ¬ bothForms.Agrees := by
  intro agrees
  obtain ⟨_, single, batch⟩ := agrees "roads" (by decide)
  have provisioned : (bothForms.getCollectionConfig "roads").toOption.map
      (·.values "physical_table") = some (.text "t_k") := by decide
  have unprovisioned : (bothForms.getConfigsBatch.toOption.bind (·.lookup "roads")).map
      (·.values "physical_table") = some .null := by decide
  rw [single] at provisioned
  rw [batch] at unprovisioned
  cases provisioned.symm.trans unprovisioned

end BatchCall

end Dynastore.Configs
