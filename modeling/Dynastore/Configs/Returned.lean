import Dynastore.Configs.Effective

/-! `set_config` returns the instance as the restoration of machine-assigned fields and the validate
handlers have left it, and stores the text that was taken of it before both. -/

namespace Dynastore.Configs

open List Option

section

variable (classes : Registry) (env : Surroundings) (store : ConfigStore)
  (config : PluginConfig) (checkImmutability : Bool) (catalogId collectionId : Option String)
  (expectedVersion : Option Nat)

def storedRow (classKey : String) : Option ConfigRow :=
  (targetScope env catalogId collectionId).bind fun scope =>
    store.lookup (scope, classKey)

/-- The fields that a stored row sets; without a row there are none. -/
def decoded (row : Option ConfigRow) : Document :=
  row.elim [] (·.data)

def afterCall (result : Except ConfigError Written) : ConfigStore :=
  match result with
  | .error _ => store
  | .ok written => written.commit store

def VersionStored : Prop :=
  ∀ version, expectedVersion = some version →
    (storedRow env store catalogId collectionId config.classKey).any (·.updatedAt = version) = true

def StoresReturned (written : Written) : Prop :=
  decoded (storedRow env (written.commit store) catalogId collectionId
      config.classKey) = written.config.serialize classes ∧
    VersionStored env store config catalogId collectionId expectedVersion

def currentConfig : Option PluginConfig :=
  (targetScope env catalogId collectionId).bind fun scope =>
    (storedData store scope config.classKey).bind fun data =>
      (validateStoredConfig classes config.classKey data).toOption

/-- Every Computed field is sent with its stored value, and left out without one. -/
def SendsStored : Prop :=
  ∀ name ∈ (classes config.classKey).computedFields,
    let stored := (currentConfig classes env store config catalogId collectionId).elim
      Value.null (·.values name)
    (name ∈ config.fieldsSet ↔ stored ≠ .null) ∧
      (name ∈ config.fieldsSet → config.values name = stored)

def checkedConfig : PluginConfig :=
  if checkImmutability then
    restoreSystemAssignedFields classes config
      (currentConfig classes env store config catalogId collectionId)
  else config

def internalCollection : Option String :=
  catalogId.bind fun catalog => collectionId.map (env.internalId catalog)

/-- The validate handlers leave the set fields of the instance as they are. -/
def HandlersKeepSet : Prop :=
  ∀ handled, env.validateHandlers
      (checkedConfig classes env store config checkImmutability catalogId collectionId)
      catalogId (internalCollection env catalogId collectionId) = .ok handled →
    handled.serialize classes = (checkedConfig classes env store config checkImmutability catalogId
        collectionId).serialize classes

/-- A config without set fields meets an unset row of the expected version; any other one
passes restoration and handlers unchanged. -/
def PassesUnchanged : Prop :=
  (config.serialize classes = [] →
    decoded (storedRow env store catalogId collectionId config.classKey) = [] ∧
      VersionStored env store config catalogId collectionId expectedVersion) ∧
  (config.serialize classes ≠ [] → (checkImmutability = true →
      SendsStored classes env store config catalogId collectionId) ∧
    HandlersKeepSet classes env store config checkImmutability catalogId collectionId)

end

/-- Validate handlers leave the class and the machine-assigned fields of an instance alone. -/
structure Surroundings.SpareComputed (env : Surroundings) (classes : Registry) :
    Prop where
  sameClass : ∀ config catalogId collectionId handled,
    env.validateHandlers config catalogId collectionId = .ok handled →
      handled.classKey = config.classKey
  sameSet : ∀ config catalogId collectionId handled,
    env.validateHandlers config catalogId collectionId = .ok handled →
      ∀ name ∈ (classes config.classKey).computedFields,
        (name ∈ handled.fieldsSet ↔ name ∈ config.fieldsSet)
  sameValue : ∀ config catalogId collectionId handled,
    env.validateHandlers config catalogId collectionId = .ok handled →
      ∀ name ∈ (classes config.classKey).computedFields, handled.values name = config.values name

variable {classes : Registry} {py : Python} {env : Surroundings} {store : ConfigStore}
  {config : PluginConfig} {checkImmutability : Bool} {catalogId collectionId : Option String}
  {expectedVersion : Option Nat} {written : Written}

/-! ## Serialised instances -/

theorem of_serialize_eq {left right : PluginConfig} (sameClass : left.classKey = right.classKey)
    (same : left.serialize classes = right.serialize classes)
    (declared : (classes right.classKey).declares name) :
    (name ∈ left.fieldsSet ↔ name ∈ right.fieldsSet) ∧
      (name ∈ right.fieldsSet → left.values name = right.values name) := by
  have looked := congrArg (·.lookup name) same
  simp only [lookup_serialize declared, lookup_serialize (sameClass ▸ declared)] at looked
  by_cases leftSet : name ∈ left.fieldsSet <;> by_cases rightSet : name ∈ right.fieldsSet <;>
    simp_all

theorem serialize_eq_of {left right : PluginConfig} (sameClass : left.classKey = right.classKey)
    (sameExtra : left.extraNames classes = right.extraNames classes)
    (agree : ∀ name, (name ∈ left.fieldsSet ↔ name ∈ right.fieldsSet) ∧
      (name ∈ right.fieldsSet → left.values name = right.values name)) :
    left.serialize classes = right.serialize classes := by
  unfold PluginConfig.serialize PluginConfig.dump PluginConfig.cls
  rw [sameClass, sameExtra, List.filter_map, List.filter_map]
  have kept (names : List String) :
      names.filter ((fun entry : String × Value => decide (entry.1 ∈ left.fieldsSet)) ∘
          fun name => (name, left.values name)) =
        names.filter ((fun entry : String × Value => decide (entry.1 ∈ right.fieldsSet)) ∘
          fun name => (name, right.values name)) := by
    apply filter_congr
    intro name _
    exact decide_eq_decide.mpr (agree name).1
  rw [kept]
  apply map_congr_left
  intro name mem
  rw [(agree name).2 (by simpa using (mem_filter.mp mem).2)]

/-! ## What a call that returns has gone through -/

theorem eq_of_enforceAgainst
    (passed : enforceAgainst classes py env current new catalogId collectionId
      restrictToFields = .ok result) : result = new := by
  simp only [enforceAgainst] at passed
  split at passed
  · cases passed
  · cases passed
    rfl

theorem eq_of_checkTierConfig (addressed : targetScope env catalogId collectionId = some scope)
    (passed : checkTierConfig classes py env store config checkImmutability scope
      catalogId collection = .ok checked) :
    checked = checkedConfig classes env store config checkImmutability catalogId
      collectionId := by
  unfold checkTierConfig at passed
  unfold checkedConfig currentConfig
  rw [addressed, bind_some]
  split at passed
  next checks =>
    rw [if_pos checks]
    unfold enforceWriteImmutability at passed
    split at passed
    next stored =>
      obtain ⟨_, valid, compared⟩ := exists_of_bind_eq_ok passed
      rw [eq_of_enforceAgainst compared, stored, bind_some, valid]
      rfl
    next absent =>
      rw [absent, bind_none]
      simp only [enforceFirstWriteAgainstInherited] at passed
      split at passed
      · cases passed
        rfl
      · obtain ⟨_, _, compared⟩ := exists_of_bind_eq_ok passed
        exact eq_of_enforceAgainst compared
  next unchecked =>
    rw [if_neg unchecked]
    cases passed
    rfl

theorem eq_of_checkPlatformConfig
    (passed : checkPlatformConfig classes py env store config checkImmutability = .ok checked) :
    checked = checkedConfig classes env store config checkImmutability none none := by
  unfold checkPlatformConfig at passed
  simp only [checkedConfig, currentConfig, targetScope, bind_some]
  split at passed
  next stored =>
    obtain ⟨_, valid, compared⟩ := exists_of_bind_eq_ok passed
    rw [stored, bind_some, valid]
    split at compared
    next checks =>
      rw [if_pos checks]
      exact eq_of_enforceAgainst compared
    next unchecked =>
      rw [if_neg unchecked]
      cases compared
      rfl
  next absent =>
    rw [absent]
    split at passed
    next checks =>
      rw [if_pos checks]
      cases passed
      rfl
    next unchecked =>
      rw [if_neg unchecked]
      cases passed
      rfl

/-- A call that returns wrote nothing, or has run the handlers on the checked instance, found
the expected version and written the row of the instance it was given. -/
theorem setConfig_cases
    (returned : setConfig classes py env store config checkImmutability catalogId
      collectionId expectedVersion = .ok written) :
    (config.serialize classes = [] ∧ written = ⟨none, config⟩) ∨
      config.serialize classes ≠ [] ∧ ∃ scope handled,
        targetScope env catalogId collectionId = some scope ∧
        env.validateHandlers (checkedConfig classes env store config checkImmutability catalogId
            collectionId) catalogId (internalCollection env catalogId collectionId) =
          .ok handled ∧
        VersionStored env store config catalogId collectionId expectedVersion ∧
        written = ⟨some (configRow classes env config scope config.classKey),
          handled⟩ := by
  have reached : Reached classes env config catalogId collectionId (fun scope =>
      validateAndPersist classes env store config
        (checkedConfig classes env store config checkImmutability catalogId collectionId) scope
        config.classKey catalogId (internalCollection env catalogId collectionId)
        expectedVersion) written := by
    unfold setConfig at returned
    split at returned
    · cases returned
    · refine (reached_atCollection returned).imp_right (.imp_right ?_)
      rintro ⟨scope, addressed, wrote⟩
      obtain ⟨checked, passed, persisted⟩ := exists_of_bind_eq_ok wrote
      exact ⟨scope, addressed, eq_of_checkTierConfig addressed passed ▸ persisted⟩
    · refine (reached_atCatalog returned).imp_right (.imp_right ?_)
      rintro ⟨scope, addressed, wrote⟩
      obtain ⟨checked, passed, persisted⟩ := exists_of_bind_eq_ok wrote
      exact ⟨scope, addressed, eq_of_checkTierConfig addressed passed ▸ persisted⟩
    · rcases reached_atPlatform returned with skipped | ⟨nonempty, scope, addressed, wrote⟩
      · exact .inl skipped
      · obtain ⟨_, passed, persisted⟩ := exists_of_bind_eq_ok wrote
        exact .inr ⟨nonempty, scope, addressed, eq_of_checkPlatformConfig passed ▸ persisted⟩
  refine reached.imp_right (.imp_right ?_)
  rintro ⟨scope, addressed, persisted⟩
  obtain ⟨handled, accepted, current, wrote⟩ := validateAndPersist_eq_ok persisted
  refine ⟨scope, handled, addressed, accepted, ?_, wrote⟩
  intro version expected
  rw [storedRow, addressed, bind_some]
  exact current version expected

/-! ## Restored fields -/

theorem declares_of_mem_computedFields {cls : ConfigClass} (computed : name ∈ cls.computedFields) :
    cls.declares name := by
  simp only [ConfigClass.computedFields, List.mem_map, mem_filter] at computed
  obtain ⟨_, ⟨mem, _⟩, rfl⟩ := computed
  exact declares_of_mem mem

/-- Restoration touches declared fields only. -/
theorem extraNames_restored :
    (restoreSystemAssignedFields classes config current).extraNames classes =
      config.extraNames classes := by
  have declared (name : String) (computed : name ∈ (config.cls classes).computedFields) :
      (config.cls classes).declares name = true := declares_of_mem_computedFields computed
  have own :
      (restoreSystemAssignedFields classes config current).cls classes = config.cls classes :=
    rfl
  unfold PluginConfig.extraNames
  rw [own]
  split
  · have given : (restoreSystemAssignedFields classes config current).fieldsSet.filter
        (!(config.cls classes).declares ·) =
        config.fieldsSet.filter (!(config.cls classes).declares ·) ++ [] := by
      simp only [restoreSystemAssignedFields, filter_append, List.filter_filter]
      congr 1
      · apply filter_congr
        intro name _
        by_cases computed : name ∈ (config.cls classes).computedFields <;>
          simp [computed, declared]
      · rw [filter_eq_nil_iff]
        intro name mem
        simp [declared name mem]
    rw [given, append_nil]
  · rfl

/-- Restoration leaves the set fields as they are exactly when the machine-assigned ones are
sent as they are stored. -/
theorem serialize_checkedConfig_iff :
    (checkedConfig classes env store config checkImmutability catalogId
        collectionId).serialize classes = config.serialize classes ↔
      (checkImmutability →
        SendsStored classes env store config catalogId collectionId) := by
  unfold checkedConfig
  split
  next checks =>
    simp only [checks, true_imp_iff]
    constructor
    · intro same name computed
      have field := of_serialize_eq (by rfl) same (declares_of_mem_computedFields computed)
      rw [mem_restored_of_computed computed, values_restored_of_computed computed] at field
      exact ⟨field.1.symm, fun isSet => (field.2 isSet).symm⟩
    · intro sends
      refine serialize_eq_of (by rfl) extraNames_restored ?_
      intro name
      by_cases computed : name ∈ (classes config.classKey).computedFields
      · rw [mem_restored_of_computed computed, values_restored_of_computed computed]
        have field := sends name computed
        exact ⟨field.1.symm, fun isSet => (field.2 isSet).symm⟩
      · rw [mem_restored_of_given computed, values_restored_of_given computed]
        exact ⟨Iff.rfl, fun _ => rfl⟩
  next unchecked => simp [unchecked]

/-- Where the handlers spare machine-assigned fields, the instance they leave has the fields
that the caller set exactly when neither they nor the restoration change one. -/
theorem serialize_handled_iff {handled : PluginConfig} (spared : env.SpareComputed classes)
    (accepted : env.validateHandlers
      (checkedConfig classes env store config checkImmutability catalogId collectionId)
      catalogId (internalCollection env catalogId collectionId) = .ok handled) :
    config.serialize classes = handled.serialize classes ↔ (checkImmutability →
        SendsStored classes env store config catalogId collectionId) ∧
      HandlersKeepSet classes env store config checkImmutability catalogId
        collectionId := by
  have keeps : HandlersKeepSet classes env store config checkImmutability catalogId
      collectionId ↔ handled.serialize classes =
        (checkedConfig classes env store config checkImmutability catalogId
          collectionId).serialize classes := by
    unfold HandlersKeepSet
    rw [accepted]
    constructor
    · exact fun kept => kept handled rfl
    · intro kept _ same
      cases same
      exact kept
  rw [keeps, ← serialize_checkedConfig_iff]
  constructor
  · intro same
    have restored : (checkedConfig classes env store config checkImmutability catalogId
        collectionId).serialize classes = config.serialize classes := by
      rw [serialize_checkedConfig_iff]
      intro checks name computed
      have checkedEq : checkedConfig classes env store config checkImmutability
          catalogId collectionId = restoreSystemAssignedFields classes config
            (currentConfig classes env store config catalogId collectionId) :=
        if_pos checks
      rw [checkedEq] at accepted
      have kept := spared.sameClass _ _ _ _ accepted
      have sameClass : handled.classKey = config.classKey := kept
      have field := of_serialize_eq sameClass same.symm (declares_of_mem_computedFields computed)
      rw [spared.sameSet _ _ _ _ accepted name computed,
        spared.sameValue _ _ _ _ accepted name computed, mem_restored_of_computed computed,
        values_restored_of_computed computed] at field
      exact ⟨field.1.symm, fun isSet => (field.2 isSet).symm⟩
    exact ⟨restored, same.symm.trans restored.symm⟩
  · intro unchanged
    exact (unchanged.2.trans unchanged.1).symm

/-! ## Stored and returned -/

def routingClasses : Registry := fun _ =>
  { name := "ItemsRoutingConfig"
    schemaId := "1"
    fields := [⟨"operations", .immutable, .list []⟩]
    extra := .forbid
    constructible := true
    invalid := fun _ => none }

/-- `_validate_items_routing_config` with the installed drivers that it appends. -/
def routingSurroundings (installed : List Value) : Surroundings where
  physSchema _ := some "s_c"
  internalId _ collectionId := collectionId
  snapshotBase _ _ := none
  isMaterialized _ _ _ := false
  validateHandlers config _ _ :=
    .ok { config with
      values := fun name => match config.values name with
        | .list listed => .list (listed ++ installed)
        | other => other }
  now := 1

def routingConfig : PluginConfig where
  classKey := "items_routing_config"
  values _ := .list [.text "items_postgresql_driver"]
  fieldsSet := ["operations"]

theorem spareComputed_routingSurroundings (installed : List Value) :
    (routingSurroundings installed).SpareComputed routingClasses where
  sameClass config catalogId collectionId handled accepted := by
    cases accepted
    rfl
  sameSet config catalogId collectionId handled accepted name computed := by
    cases accepted
    exact Iff.rfl
  sameValue config catalogId collectionId handled accepted name computed := by
    simp [routingClasses, ConfigClass.computedFields] at computed

end Dynastore.Configs
