import Dynastore.Configs.Store
import Dynastore.Foundation.Attempt
import Dynastore.Tools.Identifier

/-! `set_config` and `set_config_by_ref` at the three tiers. Every path serialises the instance
before it checks anything, and persists that text at the end. -/

namespace Dynastore.Configs

/-- What a write that returns has done: the row it stored, unless it was skipped, and the
instance as the checks and handlers have left it. -/
structure Written where
  row : Option ConfigRow
  config : PluginConfig

def Written.commit (written : Written) (store : ConfigStore) : ConfigStore :=
  written.row.elim store store.upsert

section

variable (classes : Registry) (py : Python) (env : Surroundings) (store : ConfigStore)
  (config : PluginConfig) (checkImmutability : Bool)

/-! ## Shared steps -/

def configRow (scope : Scope) (refKey : String) : ConfigRow where
  scope := scope
  refKey := refKey
  classKey := config.classKey
  schemaId := (config.cls classes).schemaId
  data := config.serialize classes
  updatedAt := env.now

def persist (row : ConfigRow) : Option Nat → Except ConfigError ConfigRow
  | none => .ok row
  | some version =>
    if (store.lookup row.key).any (·.updatedAt = version) then .ok row
    else .error (.versionConflict row.classKey version)

def validateAndPersist (checked : PluginConfig) (scope : Scope) (refKey : String)
    (catalogId collectionId : Option String) (expectedVersion : Option Nat) :
    Except ConfigError Written :=
  match env.validateHandlers checked catalogId collectionId with
  | .error error => .error error
  | .ok handled =>
    (persist store (configRow classes env config scope refKey) expectedVersion).map
      fun row => { row := some row, config := handled }

def checkIdentifier (identifier : String) : Except ConfigError Unit :=
  match invalidIdentifier identifier with
  | some message => .error (.invalidIdentifier message)
  | none => .ok ()

def resolvePhysSchema (catalogId : String) : Except ConfigError String :=
  match env.physSchema catalogId with
  | some physSchema => .ok physSchema
  | none => .error (.unresolvedSchema catalogId)

/-- A write at platform scope; an instance without a set field is skipped at every scope. -/
def atPlatform (write : Scope → Except ConfigError Written) : Except ConfigError Written :=
  if (config.serialize classes).isEmpty then .ok { row := none, config } else write .platform

def atCatalog (catalogId : String) (write : Scope → Except ConfigError Written) :
    Except ConfigError Written := do
  checkIdentifier catalogId
  if (config.serialize classes).isEmpty then .ok { row := none, config }
  else do
    let physSchema ← resolvePhysSchema env catalogId
    write (.catalog physSchema)

def atCollection (catalogId collectionId : String)
    (write : Scope → Except ConfigError Written) : Except ConfigError Written := do
  checkIdentifier catalogId
  checkIdentifier collectionId
  if (config.serialize classes).isEmpty then .ok { row := none, config }
  else do
    let physSchema ← resolvePhysSchema env catalogId
    write (.collection physSchema (env.internalId catalogId collectionId))

def enforceAgainst (current new : PluginConfig) (catalogId collectionId : Option String)
    (restrictToFields : Option (List String)) : Except ConfigError PluginConfig :=
  let materialized := env.isMaterialized current.classKey catalogId collectionId
  match enforceConfigImmutability classes py materialized current new restrictToFields with
  | some error => .error error
  | none => .ok new

def enforceFirstWriteAgainstInherited (restored : PluginConfig)
    (catalogId collectionId : Option String) : Except ConfigError PluginConfig :=
  if restored.fieldsSet.isEmpty then .ok restored
  else do
    let inherited ← getConfig classes env store restored.classKey catalogId collectionId
    enforceAgainst classes py env inherited restored catalogId collectionId
      (some restored.fieldsSet)

/-- `_enforce_write_immutability` of the catalog and collection tiers. -/
def enforceWriteImmutability (currentData : Option Document)
    (catalogId collectionId : Option String) : Except ConfigError PluginConfig :=
  match currentData with
  | some data => do
      let current ← validateStoredConfig classes config.classKey data
      let restored := restoreSystemAssignedFields classes config (some current)
      enforceAgainst classes py env current restored catalogId collectionId none
  | none =>
    let restored := restoreSystemAssignedFields classes config none
    enforceFirstWriteAgainstInherited classes py env store restored catalogId
      collectionId

/-! ## `set_config` -/

def checkTierConfig (scope : Scope) (catalogId collectionId : Option String) :
    Except ConfigError PluginConfig :=
  if checkImmutability then
    enforceWriteImmutability classes py env store config
      (storedData store scope config.classKey) catalogId collectionId
  else .ok config

def setTierConfig (scope : Scope) (catalogId collectionId : Option String)
    (expectedVersion : Option Nat) : Except ConfigError Written := do
  let checked ← checkTierConfig classes py env store config checkImmutability scope
    catalogId collectionId
  validateAndPersist classes env store config checked scope config.classKey catalogId
    collectionId expectedVersion

/-- The platform tier validates the stored row whether or not it is compared, and has nothing
to compare a first write with. -/
def checkPlatformConfig : Except ConfigError PluginConfig :=
  match storedData store .platform config.classKey with
  | some data => do
      let oldConfig ← validateStoredConfig classes config.classKey data
      if checkImmutability then
        enforceAgainst classes py env oldConfig
          (restoreSystemAssignedFields classes config (some oldConfig)) none none none
      else .ok config
  | none =>
    if checkImmutability then .ok (restoreSystemAssignedFields classes config none)
    else .ok config

def setPlatformConfig (expectedVersion : Option Nat) : Except ConfigError Written :=
  atPlatform classes config fun scope => do
    let checked ← checkPlatformConfig classes py env store config checkImmutability
    validateAndPersist classes env store config checked scope config.classKey none none
      expectedVersion

def setCatalogConfig (catalogId : String) (expectedVersion : Option Nat) :
    Except ConfigError Written :=
  atCatalog classes env config catalogId fun scope =>
    setTierConfig classes py env store config checkImmutability scope (some catalogId)
      none expectedVersion

def setCollectionConfig (catalogId collectionId : String) (expectedVersion : Option Nat) :
    Except ConfigError Written :=
  atCollection classes env config catalogId collectionId fun scope =>
    setTierConfig classes py env store config checkImmutability scope (some catalogId)
      (some (env.internalId catalogId collectionId)) expectedVersion

def setConfig (catalogId collectionId : Option String) (expectedVersion : Option Nat) :
    Except ConfigError Written :=
  match catalogId, collectionId with
  | none, some _ => .error .catalogRequired
  | some catalog, some collection =>
    setCollectionConfig classes py env store config checkImmutability catalog
      collection expectedVersion
  | some catalog, none =>
    setCatalogConfig classes py env store config checkImmutability catalog
      expectedVersion
  | none, none =>
    setPlatformConfig classes py env store config checkImmutability expectedVersion

/-! ## `set_config_by_ref` -/

def checkTierConfigByRef (scope : Scope) (refKey : String)
    (catalogId collectionId : Option String) : Except ConfigError PluginConfig :=
  match store.lookup (scope, refKey) with
  | some existing =>
    if existing.classKey ≠ config.classKey then
      .error (.otherClass refKey existing.classKey config.classKey)
    else if checkImmutability then do
      let current ← validateStoredConfig classes config.classKey existing.data
      enforceAgainst classes py env current config catalogId collectionId none
    else .ok config
  | none => .ok config

/-- The ref-keyed write of every tier, which does not restore machine-assigned fields. -/
def setTierConfigByRef (scope : Scope) (refKey : String) (catalogId collectionId : Option String) :
    Except ConfigError Written := do
  let checked ← checkTierConfigByRef classes py env store config checkImmutability scope
    refKey catalogId collectionId
  validateAndPersist classes env store config checked scope refKey catalogId collectionId none

def setPlatformConfigByRef (refKey : String) : Except ConfigError Written :=
  atPlatform classes config fun scope =>
    setTierConfigByRef classes py env store config checkImmutability scope refKey none
      none

def setCatalogConfigByRef (refKey catalogId : String) : Except ConfigError Written :=
  atCatalog classes env config catalogId fun scope =>
    setTierConfigByRef classes py env store config checkImmutability scope refKey
      (some catalogId) none

def setCollectionConfigByRef (refKey catalogId collectionId : String) :
    Except ConfigError Written :=
  atCollection classes env config catalogId collectionId fun scope =>
    setTierConfigByRef classes py env store config checkImmutability scope refKey
      (some catalogId) (some (env.internalId catalogId collectionId))

def setConfigByRef (refKey : String) (catalogId collectionId : Option String) :
    Except ConfigError Written :=
  match catalogId, collectionId with
  | none, some _ => .error .catalogRequired
  | some catalog, some collection =>
    setCollectionConfigByRef classes py env store config checkImmutability refKey catalog collection
  | some catalog, none =>
    setCatalogConfigByRef classes py env store config checkImmutability refKey catalog
  | none, none =>
    setPlatformConfigByRef classes py env store config checkImmutability refKey

end

/-! ## What a write stores -/

def targetScope (env : Surroundings) : Option String → Option String → Option Scope
  | none, none => some .platform
  | none, some _ => none
  | some catalogId, none => (env.physSchema catalogId).map .catalog
  | some catalogId, some collectionId =>
    (env.physSchema catalogId).map fun physSchema =>
      .collection physSchema (env.internalId catalogId collectionId)

variable {classes : Registry} {env : Surroundings} {config : PluginConfig}
  {catalogId collectionId : Option String} {written : Written}

variable {scope : Scope}

theorem validateAndPersist_eq_ok
    (returned : validateAndPersist classes env store config checked scope refKey
      catalogId collectionId expectedVersion = .ok written) :
    ∃ handled, env.validateHandlers checked catalogId collectionId = .ok handled ∧
      (∀ version, expectedVersion = some version →
        (store.lookup (scope, refKey)).any (·.updatedAt = version)) ∧
      written = ⟨some (configRow classes env config scope refKey), handled⟩ := by
  unfold validateAndPersist at returned
  split at returned
  · cases returned
  · rename_i handled accepted
    refine ⟨handled, accepted, ?_⟩
    cases expectedVersion with
    | none =>
      cases returned
      exact ⟨nofun, rfl⟩
    | some =>
      simp only [persist] at returned
      split at returned
      next matching =>
        cases returned
        refine ⟨?_, rfl⟩
        intro _ same
        cases same
        exact matching
      · cases returned

theorem row_of_checked {check : Except ConfigError PluginConfig}
    (returned : (check >>= fun checked => validateAndPersist classes env store config checked scope
      refKey catalogId collectionId expectedVersion) = .ok written) :
    written.row = some (configRow classes env config scope refKey) := by
  obtain ⟨_, _, persisted⟩ := exists_of_bind_eq_ok returned
  obtain ⟨_, _, _, wrote⟩ := validateAndPersist_eq_ok persisted
  rw [wrote]

theorem physSchema_of_resolvePhysSchema
    (resolved : resolvePhysSchema env catalog = .ok physSchema) :
    env.physSchema catalog = some physSchema := by
  unfold resolvePhysSchema at resolved
  split at resolved
  · rename_i found
    cases resolved
    exact found
  · cases resolved

/-- A write that returns was skipped, for want of a set field, or reached its scope. -/
def Reached (classes : Registry) (env : Surroundings) (config : PluginConfig)
    (catalogId collectionId : Option String) (write : Scope → Except ConfigError Written)
    (written : Written) : Prop :=
  (config.serialize classes = [] ∧ written = ⟨none, config⟩) ∨
    config.serialize classes ≠ [] ∧ ∃ scope,
      targetScope env catalogId collectionId = some scope ∧ write scope = .ok written

section

variable {refKey : String}

theorem reached_of_branch {reach : Except ConfigError Written}
    (returned : (if (config.serialize classes).isEmpty then .ok ⟨none, config⟩ else reach) =
      .ok written)
    (resolves : reach = .ok written → ∃ scope,
      targetScope env catalogId collectionId = some scope ∧ write scope = .ok written) :
    Reached classes env config catalogId collectionId write written := by
  split at returned
  next empty =>
    cases returned
    exact .inl ⟨List.isEmpty_iff.mp empty, rfl⟩
  next nonempty =>
    exact .inr ⟨fun empty => nonempty (List.isEmpty_iff.mpr empty), resolves returned⟩

theorem reached_atPlatform (returned : atPlatform classes config write = .ok written) :
    Reached classes env config none none write written :=
  reached_of_branch returned fun wrote => ⟨.platform, rfl, wrote⟩

theorem reached_atCatalog (returned : atCatalog classes env config catalog write = .ok written) :
    Reached classes env config (some catalog) none write written := by
  obtain ⟨_, _, identified⟩ := exists_of_bind_eq_ok returned
  apply reached_of_branch identified
  intro reach
  obtain ⟨_, resolved, wrote⟩ := exists_of_bind_eq_ok reach
  exact ⟨_, by simp [targetScope, physSchema_of_resolvePhysSchema resolved], wrote⟩

theorem reached_atCollection
    (returned : atCollection classes env config catalog collection write = .ok written) :
    Reached classes env config (some catalog) (some collection) write written := by
  obtain ⟨_, _, first⟩ := exists_of_bind_eq_ok returned
  obtain ⟨_, _, second⟩ := exists_of_bind_eq_ok first
  apply reached_of_branch second
  intro reach
  obtain ⟨_, resolved, wrote⟩ := exists_of_bind_eq_ok reach
  exact ⟨_, by simp [targetScope, physSchema_of_resolvePhysSchema resolved], wrote⟩

def StoresGiven (classes : Registry) (env : Surroundings) (config : PluginConfig)
    (catalogId collectionId : Option String) (refKey : String) (written : Written) : Prop :=
  ∀ row, written.row = some row → ∃ scope, targetScope env catalogId collectionId = some scope ∧
      row = configRow classes env config scope refKey

theorem storesGiven_of_reached
    (reached : Reached classes env config catalogId collectionId write written)
    (stores : ∀ scope, write scope = .ok written →
      written.row = some (configRow classes env config scope refKey)) :
    StoresGiven classes env config catalogId collectionId refKey written := by
  intro _ found
  rcases reached with ⟨_, skipped⟩ | ⟨_, scope, addressed, wrote⟩
  · rw [skipped] at found
    cases found
  · rw [stores scope wrote] at found
    cases found
    exact ⟨scope, addressed, rfl⟩

end

theorem storesGiven_setConfig
    (returned : setConfig classes py env store config checkImmutability catalogId
      collectionId expectedVersion = .ok written) :
    StoresGiven classes env config catalogId collectionId config.classKey written := by
  unfold setConfig at returned
  split at returned
  · cases returned
  · exact storesGiven_of_reached (reached_atCollection returned) fun _ => row_of_checked
  · exact storesGiven_of_reached (reached_atCatalog returned) fun _ => row_of_checked
  · exact storesGiven_of_reached (reached_atPlatform returned) fun _ => row_of_checked

theorem storesGiven_setConfigByRef
    (returned : setConfigByRef classes py env store config checkImmutability refKey
      catalogId collectionId = .ok written) :
    StoresGiven classes env config catalogId collectionId refKey written := by
  unfold setConfigByRef at returned
  split at returned
  · cases returned
  · exact storesGiven_of_reached (reached_atCollection returned) fun _ => row_of_checked
  · exact storesGiven_of_reached (reached_atCatalog returned) fun _ => row_of_checked
  · exact storesGiven_of_reached (reached_atPlatform returned) fun _ => row_of_checked

end Dynastore.Configs
