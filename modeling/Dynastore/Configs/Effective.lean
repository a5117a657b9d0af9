import Dynastore.Configs.Write
import Dynastore.Foundation.Dict

/-! The defaults snapshot of a catalog as its row holds it, and what the merge of the tiers gives
for one field: the value of the collection row, or else the one that the collection inherits from
the tiers above. -/

namespace Dynastore.Configs

theorem declares_of_mem {cls : ConfigClass} (mem : field ∈ cls.fields) : cls.declares field.name :=
  List.any_eq_true.mpr ⟨field, mem, by simp⟩

/-! ## Defaults snapshots -/

def snapshotRefKey : String :=
  "__catalog_defaults_snapshot__"

/-- `select_snapshot_base`: the entry of the class, unless the class has changed since. An
entry is validated as a payload is, so that a forbidden key spoils it. -/
def selectSnapshotBase (classes : Registry) (snapshot : Option Document) (classKey : String) :
    Option PluginConfig :=
  match snapshot.bind (·.lookup classKey) with
  | some (.dict entry) =>
    match Document.get entry "schema_id", Document.get entry "data" with
    | .text schemaId, .dict data =>
      if schemaId = (classes classKey).schemaId ∧ ((classes classKey).extra = .forbid →
          data.all fun given => (classes classKey).declares given.1)
      then (validateStoredConfig classes classKey data).toOption
      else none
    | _, _ => none
  | _ => none

def Surroundings.withSnapshots (env : Surroundings) (classes : Registry)
    (store : ConfigStore) : Surroundings where
  physSchema := env.physSchema
  internalId := env.internalId
  snapshotBase catalogId := selectSnapshotBase classes
    ((env.physSchema catalogId).bind fun physSchema =>
      storedData store (.catalog physSchema) snapshotRefKey)
  isMaterialized := env.isMaterialized
  validateHandlers := env.validateHandlers
  now := env.now

variable {classes : Registry} {store : ConfigStore} {classKey catalogId : String}
  {config : PluginConfig}

variable {field : String} {collectionId : Option String} {read : PluginConfig}

theorem classKey_of_validateStoredConfig
    (valid : validateStoredConfig classes classKey data = .ok config) :
    config.classKey = classKey := by
  simp only [validateStoredConfig] at valid
  split at valid
  · cases valid
  · cases valid
    rfl

theorem classKey_of_selectSnapshotBase
    (selected : selectSnapshotBase classes snapshot classKey = some config) :
    config.classKey = classKey := by
  unfold selectSnapshotBase at selected
  split at selected
  · split at selected
    · split at selected
      · cases valid : validateStoredConfig classes classKey _ with
        | error =>
          rw [valid] at selected
          cases selected
        | ok =>
          rw [valid] at selected
          cases selected
          exact classKey_of_validateStoredConfig valid
      · cases selected
    · cases selected
  · cases selected

theorem classKey_of_getPlatformConfig
    (returned : getPlatformConfig classes store classKey = .ok config) :
    config.classKey = classKey := by
  unfold getPlatformConfig at returned
  split at returned
  · exact classKey_of_validateStoredConfig returned
  · unfold defaultOrRaise at returned
    split at returned
    · cases returned
      rfl
    · cases returned

/-! ## Values of single fields -/

theorem lookup_overlay :
    (overlay base delta).lookup field = (delta.lookup field).or (base.lookup field) := by
  unfold overlay
  rw [List.lookup_append]
  cases given : delta.lookup field with
  | none =>
    have kept : (delta.lookup field).isNone := by rw [given]; rfl
    rw [Dict.lookup_filter (fun key => (delta.lookup key).isNone) kept]
    simp
  | some =>
    have dropped : (delta.lookup field).isNone = false := by rw [given]; rfl
    rw [Dict.lookup_filter_of_not (fun key => (delta.lookup key).isNone) dropped]
    simp

theorem lookup_dump (declared : (classes config.classKey).declares field) :
    (config.dump classes).lookup field = some (config.values field) := by
  have mem : field ∈ (config.cls classes).fields.map (·.name) := by
    simpa [ConfigClass.declares, PluginConfig.cls] using declared
  rw [PluginConfig.dump, Dict.lookup_map, if_pos (List.mem_append_left _ mem)]

theorem lookup_serialize (declared : (classes config.classKey).declares field) :
    (config.serialize classes).lookup field =
      if field ∈ config.fieldsSet then some (config.values field) else none := by
  unfold PluginConfig.serialize
  split
  next isSet =>
    rw [Dict.lookup_filter (fun key => decide (key ∈ config.fieldsSet)) (by simpa using isSet)]
    exact lookup_dump declared
  next unset =>
    exact Dict.lookup_filter_of_not (fun key => decide (key ∈ config.fieldsSet))
      (by simpa using unset) _

theorem values_of_validateStoredConfig
    (valid : validateStoredConfig classes classKey data = .ok config)
    (declared : (classes classKey).declares field) :
    config.values field = (data.lookup field).getD ((classes classKey).default field) := by
  simp only [validateStoredConfig] at valid
  split at valid
  · cases valid
  · cases valid
    have kept : (classes classKey).declares field ||
        decide ((classes classKey).extra = .allow) := by simp [declared]
    exact congrArg (·.getD ((classes classKey).default field))
      (Dict.lookup_filter (fun key => (classes classKey).declares key ||
        decide ((classes classKey).extra = .allow)) kept data)

section

variable (classes : Registry) (env : Surroundings) (store : ConfigStore)
  (classKey catalogId : String)

def catalogDelta : Option Document :=
  (env.physSchema catalogId).bind fun physSchema =>
    storedData store (.catalog physSchema) classKey

def collectionDelta (collectionId : String) : Option Document :=
  (env.physSchema catalogId).bind fun physSchema =>
    storedData store (.collection physSchema (env.internalId catalogId collectionId))
      classKey

/-- What a collection has in a field that its own row leaves open: the value of the catalog
row, or else that of the catalog's snapshot or, without one, of the platform. -/
def inheritedValue (field : String) : Value :=
  ((catalogDelta env store classKey catalogId).bind (·.lookup field)).getD <|
    match env.snapshotBase catalogId classKey, getPlatformConfig classes store classKey with
    | some base, _ => base.values field
    | none, .ok live => live.values field
    | none, .error _ => .null

end

def Surroundings.SnapshotsTyped (env : Surroundings) : Prop :=
  ∀ catalogId classKey base,
    env.snapshotBase catalogId classKey = some base → base.classKey = classKey

theorem snapshotsTyped_withSnapshots (env : Surroundings) :
    (env.withSnapshots classes store).SnapshotsTyped := by
  intro _ _ _ selected
  exact classKey_of_selectSnapshotBase selected

variable {env : Surroundings}

theorem base_of_getConfig (typed : env.SnapshotsTyped)
    (returned : getConfig classes env store classKey (some catalogId) collectionId = .ok read) :
    ∃ live, getPlatformConfig classes store classKey = .ok live ∧
      ((env.snapshotBase catalogId classKey).getD live).classKey = classKey := by
  cases platform : getPlatformConfig classes store classKey with
  | error =>
    simp only [getConfig, platform] at returned
    cases returned
  | ok live =>
    refine ⟨live, rfl, ?_⟩
    cases selected : env.snapshotBase catalogId classKey with
    | none => exact classKey_of_getPlatformConfig platform
    | some base => exact typed catalogId classKey base selected

/-- The tiers put over the base; an unchanged base is not validated again. -/
def mergeDeltas (classes : Registry) (classKey : String) (base : PluginConfig) :
    List Document → Except ConfigError PluginConfig
  | [] => .ok base
  | delta :: deltas =>
    validateStoredConfig classes classKey ((delta :: deltas).foldl overlay (base.dump classes))

theorem getConfig_eq_mergeDeltas (platform : getPlatformConfig classes store classKey = .ok live) :
    getConfig classes env store classKey (some catalogId) collectionId =
      mergeDeltas classes classKey ((env.snapshotBase catalogId classKey).getD live)
        ((catalogDelta env store classKey catalogId).toList ++
          (collectionId.bind (collectionDelta env store classKey catalogId)).toList) := by
  cases collectionId with
  | none =>
    cases resolved : env.physSchema catalogId with
    | none => simp [getConfig, platform, catalogDelta, resolved, mergeDeltas]
    | some physSchema =>
      cases catalog : storedData store (.catalog physSchema) classKey <;>
        simp [getConfig, platform, catalogDelta, resolved, mergeDeltas, catalog]
  | some collectionId =>
    cases resolved : env.physSchema catalogId with
    | none => simp [getConfig, platform, catalogDelta, collectionDelta, resolved, mergeDeltas]
    | some physSchema =>
      cases catalog : storedData store (.catalog physSchema) classKey <;>
        cases collection : storedData store (.collection physSchema
          (env.internalId catalogId collectionId)) classKey <;>
        simp [getConfig, platform, catalogDelta, collectionDelta, resolved, mergeDeltas,
          catalog, collection]

theorem classKey_of_getConfig (typed : env.SnapshotsTyped)
    (returned : getConfig classes env store classKey (some catalogId) collectionId = .ok read) :
    read.classKey = classKey := by
  obtain ⟨_, platform, base⟩ := base_of_getConfig typed returned
  rw [getConfig_eq_mergeDeltas platform] at returned
  unfold mergeDeltas at returned
  split at returned
  · cases returned
    exact base
  · exact classKey_of_validateStoredConfig returned

theorem lookup_foldl_overlay (deltas : List Document) (found : base.lookup field = some value) :
    (deltas.foldl overlay base).lookup field =
      some (deltas.foldl (fun value delta => (delta.lookup field).getD value) value) := by
  induction deltas generalizing base value with
  | nil => exact found
  | cons delta _ ih =>
    apply ih
    rw [lookup_overlay, found]
    cases given : delta.lookup field <;> simp [given]

theorem values_of_mergeDeltas (typed : base.classKey = classKey)
    (declared : (classes classKey).declares field)
    (merged : mergeDeltas classes classKey base deltas = .ok read) :
    read.values field =
      (deltas.foldl (fun value delta => (delta.lookup field).getD value) (base.values field)) := by
  have dumped : (base.dump classes).lookup field = some (base.values field) := by
    apply lookup_dump
    rw [typed]
    exact declared
  cases deltas with
  | nil =>
    cases merged
    rfl
  | cons delta deltas =>
    rw [values_of_validateStoredConfig merged declared,
      lookup_foldl_overlay (delta :: deltas) dumped]
    rfl

theorem values_of_getConfig {collectionId field : String} (typed : env.SnapshotsTyped)
    (declared : (classes classKey).declares field)
    (returned : getConfig classes env store classKey (some catalogId)
      (some collectionId) = .ok read) :
    read.values field = ((collectionDelta env store classKey catalogId collectionId).bind
        (·.lookup field)).getD (inheritedValue classes env store classKey catalogId
          field) := by
  obtain ⟨live, platform, base⟩ := base_of_getConfig typed returned
  have inherits : inheritedValue classes env store classKey catalogId field =
      ((catalogDelta env store classKey catalogId).bind (·.lookup field)).getD
        (((env.snapshotBase catalogId classKey).getD live).values field) := by
    unfold inheritedValue
    cases env.snapshotBase catalogId classKey <;> simp [platform]
  rw [getConfig_eq_mergeDeltas platform] at returned
  rw [values_of_mergeDeltas base declared returned, inherits, Option.bind_some]
  cases catalogDelta env store classKey catalogId <;>
    cases collectionDelta env store classKey catalogId collectionId <;> rfl

end Dynastore.Configs
