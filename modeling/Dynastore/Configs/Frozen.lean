import Dynastore.Configs.Effective

/-! Once a collection holds data, its Immutable fields are not to change. The checks of a write
compare the row of the collection with the new instance, each filled up with the defaults of the
class, whereas a read fills the row up with what the collection inherits. -/

namespace Dynastore.Configs

inductive WritePath where
  | setConfig (expectedVersion : Option Nat)
  | setConfigByRef

section

variable (classes : Registry) (py : Python) (env : Surroundings) (store : ConfigStore)
  (path : WritePath) (config : PluginConfig) (catalogId collectionId : String)

def writeCollection : Except ConfigError Written :=
  match path with
  | .setConfig expectedVersion =>
    setConfig classes py (env.withSnapshots classes store) store config true
      (some catalogId) (some collectionId) expectedVersion
  | .setConfigByRef =>
    setConfigByRef classes py (env.withSnapshots classes store) store config true
      config.classKey (some catalogId) (some collectionId)

def effectiveConfig (classKey : String) : Except ConfigError PluginConfig :=
  getConfig classes (env.withSnapshots classes store) store classKey (some catalogId)
    (some collectionId)

def KeepsImmutable (classKey : String) (before after : PluginConfig) : Prop :=
  ∀ field ∈ (classes classKey).fields, field.mutability = .immutable →
    py.equals (before.values field.name) (after.values field.name) = true

/-- The document that the new instance is compared with. An empty one counts as absent on the
first path only. -/
def comparedRow : Option Document :=
  match path with
  | .setConfig _ => collectionDelta env store config.classKey catalogId collectionId
  | .setConfigByRef => (env.physSchema catalogId).bind fun physSchema =>
    (store.lookup (.collection physSchema (env.internalId catalogId collectionId),
      config.classKey)).map (·.data)

/-- A field that only one of the stored and the new document has inherits the default of its
class. The path that compares nothing with a first write sets it to what it inherits. -/
def FieldSpared (name : String) : Prop :=
  let inherited := inheritedValue classes (env.withSnapshots classes store) store
    config.classKey catalogId name
  match comparedRow env store path config catalogId collectionId with
  | some data =>
    (name ∈ config.fieldsSet ↔ (data.lookup name).isSome = true) ∨
      py.equals inherited ((classes config.classKey).default name) = true
  | none =>
    path = .setConfigByRef → name ∈ config.fieldsSet →
      py.equals inherited (config.values name) = true

end

variable {classes : Registry} {py : Python} {env : Surroundings} {store : ConfigStore}
  {path : WritePath} {config : PluginConfig} {catalogId collectionId : String}
  {written : Written} {scope : Scope}

/-! ## What a write that returns has checked -/

theorem equals_of_enforceAgainst
    (passed : enforceAgainst classes py env current new catalogId collectionId
      restrictToFields = .ok result) (sameClass : current.classKey = new.classKey)
    (materialized : env.isMaterialized new.classKey catalogId collectionId)
    (mem : field ∈ (classes new.classKey).fields) (immutable : field.mutability = .immutable)
    (compared : ∀ names, restrictToFields = some names → field.name ∈ names) :
    py.equals (current.values field.name) (new.values field.name) := by
  simp only [enforceAgainst] at passed
  split at passed
  · cases passed
  · rename_i accepted
    simp only [enforceConfigImmutability, PluginConfig.cls, sameClass, ne_eq, not_true_eq_false,
      if_false, List.findSome?_eq_none_iff] at accepted
    have unrestricted : restrictToFields.any (!·.contains field.name) = false := by
      cases restrictToFields with
      | none => rfl
      | some names => simpa using compared names rfl
    have verdict := accepted field mem
    rw [unrestricted] at verdict
    simpa [immutable, materialized] using verdict

theorem not_mem_computedFields {cls : ConfigClass} (distinct : (cls.fields.map (·.name)).Nodup)
    (mem : field ∈ cls.fields) (immutable : field.mutability = .immutable) :
    field.name ∉ cls.computedFields := by
  intro computed
  simp only [ConfigClass.computedFields, List.mem_map, List.mem_filter,
    decide_eq_true_eq] at computed
  obtain ⟨other, ⟨otherMem, assigned⟩, sameName⟩ := computed
  have same : other = field := List.inj_on_of_nodup_map distinct otherMem mem sameName
  rw [same, immutable] at assigned
  cases assigned

def checkCollectionWrite (classes : Registry) (py : Python) (env : Surroundings)
    (store : ConfigStore) (path : WritePath) (config : PluginConfig) (scope : Scope)
    (catalogId internalId : String) : Except ConfigError PluginConfig :=
  match path with
  | .setConfig _ =>
    checkTierConfig classes py env store config true scope (some catalogId) (some internalId)
  | .setConfigByRef =>
    checkTierConfigByRef classes py env store config true scope config.classKey
      (some catalogId) (some internalId)

def collectionRow (classes : Registry) (env : Surroundings) (store : ConfigStore)
    (config : PluginConfig) (catalogId collectionId physSchema : String) : ConfigRow :=
  configRow classes (env.withSnapshots classes store) config
    (.collection physSchema (env.internalId catalogId collectionId)) config.classKey

theorem writeCollection_cases
    (returned : writeCollection classes py env store path config catalogId collectionId =
      .ok written) :
    (config.serialize classes = [] ∧ written.row = none) ∨
      config.serialize classes ≠ [] ∧ ∃ physSchema checked,
        env.physSchema catalogId = some physSchema ∧
        written.row =
          some (collectionRow classes env store config catalogId collectionId physSchema) ∧
        checkCollectionWrite classes py (env.withSnapshots classes store) store path
          config (.collection physSchema (env.internalId catalogId collectionId))
          catalogId (env.internalId catalogId collectionId) = .ok checked := by
  cases path with
  | _ =>
    simp only [writeCollection, setConfig, setCollectionConfig, setConfigByRef,
      setCollectionConfigByRef] at returned
    rcases reached_atCollection returned with ⟨empty, skipped⟩ | ⟨nonempty, _, addressed, wrote⟩
    · exact .inl ⟨empty, by rw [skipped]⟩
    · obtain ⟨checked, passed, _⟩ := exists_of_bind_eq_ok wrote
      obtain ⟨physSchema, resolved, rfl⟩ := Option.map_eq_some_iff.mp addressed
      exact .inr ⟨nonempty, physSchema, checked, resolved, row_of_checked wrote, passed⟩

section Checked

variable (distinct : ((classes config.classKey).fields.map (·.name)).Nodup)
  (mem : field ∈ (classes config.classKey).fields) (immutable : field.mutability = .immutable)
  (materialized : env.isMaterialized config.classKey (some catalogId)
    (some (env.internalId catalogId collectionId)))
  (resolved : env.physSchema catalogId = some physSchema)
  (passed : checkCollectionWrite classes py env store path config
    (.collection physSchema (env.internalId catalogId collectionId)) catalogId
    (env.internalId catalogId collectionId) = .ok checked)

include distinct mem immutable materialized resolved passed

theorem equals_of_compared {data : Document}
    (found : comparedRow env store path config catalogId collectionId = some data) :
    py.equals ((data.lookup field.name).getD ((classes config.classKey).default field.name))
      (config.values field.name) := by
  have declared := declares_of_mem mem
  cases path with
  | setConfig =>
    have stored : storedData store (.collection physSchema (env.internalId catalogId collectionId))
        config.classKey = some data := by
      simpa [comparedRow, collectionDelta, resolved] using found
    simp only [checkCollectionWrite, checkTierConfig, if_true, stored,
      enforceWriteImmutability] at passed
    obtain ⟨current, valid, compared⟩ := exists_of_bind_eq_ok passed
    have sameClass := classKey_of_validateStoredConfig valid
    have given := not_mem_computedFields distinct mem immutable
    rw [← values_of_validateStoredConfig valid declared, ← values_restored_of_given given]
    refine equals_of_enforceAgainst compared sameClass materialized mem immutable ?_
    rintro names ⟨⟩
  | setConfigByRef =>
    simp only [comparedRow, resolved, Option.bind_some, Option.map_eq_some_iff] at found
    obtain ⟨_, stored, rfl⟩ := found
    simp only [checkCollectionWrite, checkTierConfigByRef, stored, if_true] at passed
    split at passed
    · cases passed
    · obtain ⟨_, valid, compared⟩ := exists_of_bind_eq_ok passed
      have sameClass := classKey_of_validateStoredConfig valid
      rw [← values_of_validateStoredConfig valid declared]
      refine equals_of_enforceAgainst compared sameClass materialized mem immutable ?_
      rintro _ ⟨⟩

/-- Where `set_config` finds no row, the fields that the instance sets are compared with what
the collection inherits. -/
theorem equals_of_first {expectedVersion : Option Nat} (typed : env.SnapshotsTyped)
    (settled : env.internalId catalogId (env.internalId catalogId collectionId) =
        env.internalId catalogId collectionId) (first : path = .setConfig expectedVersion)
    (absent : collectionDelta env store config.classKey catalogId collectionId = none)
    (isSet : field.name ∈ config.fieldsSet) :
    py.equals (inheritedValue classes env store config.classKey catalogId field.name)
      (config.values field.name) := by
  subst first
  have declared := declares_of_mem mem
  have given := not_mem_computedFields distinct mem immutable
  have stored : storedData store (.collection physSchema (env.internalId catalogId collectionId))
      config.classKey = none := by
    simpa [collectionDelta, resolved] using absent
  simp only [checkCollectionWrite, checkTierConfig, if_true, stored,
    enforceWriteImmutability, enforceFirstWriteAgainstInherited] at passed
  have restoredSet :
      field.name ∈ (restoreSystemAssignedFields classes config none).fieldsSet :=
    (mem_restored_of_given given).mpr isSet
  split at passed
  next empty =>
    rw [List.isEmpty_iff.mp empty] at restoredSet
    cases restoredSet
  · obtain ⟨_, read, compared⟩ := exists_of_bind_eq_ok passed
    have sameClass := classKey_of_getConfig typed read
    have unwritten : collectionDelta env store config.classKey catalogId
        (env.internalId catalogId collectionId) = none := by
      rw [← absent, collectionDelta, settled, collectionDelta]
    have value := values_of_getConfig typed declared read
    rw [unwritten, Option.bind_none, Option.getD_none] at value
    rw [← value, ← values_restored_of_given given]
    refine equals_of_enforceAgainst compared sameClass materialized mem immutable ?_
    intro _ restricted
    cases restricted
    exact restoredSet

end Checked

/-! ## What a read finds after the write -/

theorem storedData_upsert_of_ne (other : row.key ≠ (scope, refKey)) :
    storedData (store.upsert row) scope refKey = storedData store scope refKey := by
  rw [storedData, Table.lookup_upsert, if_neg other, storedData]

theorem storedData_upsert_self (nonempty : row.data ≠ []) :
    storedData (store.upsert row) row.scope row.refKey = some row.data := by
  have found : (store.upsert row).lookup (row.scope, row.refKey) = some row := by
    rw [Table.lookup_upsert]
    exact if_pos rfl
  rw [storedData, found]
  simp [Option.filter, nonempty]

theorem withSnapshots_upsert (placed : row.scope = .collection physSchema internalId) :
    env.withSnapshots classes (store.upsert row) =
      env.withSnapshots classes store := by
  have same : ∀ other refKey, storedData (store.upsert row) (.catalog other) refKey =
      storedData store (.catalog other) refKey := by
    intro _ _
    apply storedData_upsert_of_ne
    simp [ConfigRow.key, placed]
  simp only [Surroundings.withSnapshots, same]

theorem inheritedValue_upsert (placed : row.scope = .collection physSchema internalId) :
    inheritedValue classes env (store.upsert row) classKey catalogId name =
      inheritedValue classes env store classKey catalogId name := by
  have platform : storedData (store.upsert row) .platform classKey =
      storedData store .platform classKey := by
    apply storedData_upsert_of_ne
    simp [ConfigRow.key, placed]
  have catalog : ∀ other, storedData (store.upsert row) (.catalog other) classKey =
      storedData store (.catalog other) classKey := by
    intro _
    apply storedData_upsert_of_ne
    simp [ConfigRow.key, placed]
  simp only [inheritedValue, catalogDelta, getPlatformConfig, platform, catalog]

theorem values_of_reread (declared : (classes config.classKey).declares name)
    (nonempty : config.serialize classes ≠ [])
    (resolved : env.physSchema catalogId = some physSchema)
    (stored : written.row =
      some (collectionRow classes env store config catalogId collectionId physSchema))
    (reread : effectiveConfig classes env (written.commit store) catalogId collectionId
      config.classKey = .ok after) :
    after.values name =
      if name ∈ config.fieldsSet then config.values name
      else inheritedValue classes (env.withSnapshots classes store) store
        config.classKey catalogId name := by
  have committed : written.commit store =
      store.upsert (collectionRow classes env store config catalogId collectionId physSchema) := by
    rw [Written.commit, stored]
    rfl
  rw [effectiveConfig, committed] at reread
  rw [values_of_getConfig (snapshotsTyped_withSnapshots _) declared reread,
    inheritedValue_upsert rfl, withSnapshots_upsert rfl]
  have own : collectionDelta (env.withSnapshots classes store)
      (store.upsert (collectionRow classes env store config catalogId collectionId physSchema))
      config.classKey catalogId collectionId = some (config.serialize classes) := by
    have reached : (env.withSnapshots classes store).physSchema catalogId =
        some physSchema := resolved
    rw [collectionDelta, reached, Option.bind_some]
    exact storedData_upsert_self nonempty
  rw [own, Option.bind_some, lookup_serialize declared]
  split <;> rfl

/-! ## Fields that stay as they are -/

theorem lookup_comparedRow :
    (comparedRow env store path config catalogId collectionId).bind (·.lookup name) =
      (collectionDelta env store config.classKey catalogId collectionId).bind
        (·.lookup name) := by
  cases path with
  | setConfig => rfl
  | setConfigByRef =>
    simp only [comparedRow, collectionDelta, storedData]
    cases env.physSchema catalogId with
    | none => rfl
    | some physSchema =>
      rw [Option.bind_some, Option.bind_some]
      cases store.lookup (.collection physSchema
          (env.internalId catalogId collectionId), config.classKey) with
      | none => rfl
      | some row =>
        cases empty : row.data with
        | _ => simp [empty, Option.filter]

/-- One field, given what the write has checked of it: `own` is the value of the row that was
compared and `inherited` the value under it. -/
theorem equals_iff_of_compared {own : Option Value} {inherited default new : Value}
    [Decidable isSet] (equality : Equivalence fun left right => py.equals left right)
    (compared : py.equals (own.getD default) new) (padded : ¬ isSet → new = default) :
    py.equals (own.getD inherited) (if isSet then new else inherited) ↔
      (isSet ↔ own.isSome) ∨ py.equals inherited default := by
  by_cases given : isSet
  · cases own with
    | none =>
      have same : py.equals default new := compared
      simp only [given, Option.getD_none, Option.isSome_none, Bool.false_eq_true, iff_false,
        not_true_eq_false, false_or]
      exact ⟨fun kept => equality.trans kept (equality.symm same),
        fun kept => equality.trans kept same⟩
    | some value =>
      have same : py.equals value new := compared
      simp [given, same]
  · cases own with
    | none => simp [given, equality.refl inherited]
    | some value =>
      have same : py.equals value default := padded given ▸ compared
      simp only [given, Option.getD_some, Option.isSome_some, iff_true, false_or]
      exact ⟨fun kept => equality.trans (equality.symm kept) same,
        fun kept => equality.trans same (equality.symm kept)⟩

/-- A checked write to a collection with data leaves the effective Immutable fields unchanged
exactly when it sets no field at all or spares each of them. -/
theorem keepsImmutable_iff_fieldSpared (classes : Registry) (py : Python) (env : Surroundings)
    (store : ConfigStore) (path : WritePath) (config : PluginConfig)
    (catalogId collectionId : String) (written : Written) (before after : PluginConfig)
    (equality : Equivalence fun left right => py.equals left right = true)
    (distinct : ((classes config.classKey).fields.map (·.name)).Nodup)
    (padded : ∀ name, name ∉ config.fieldsSet →
      config.values name = (classes config.classKey).default name)
    (settled : env.internalId catalogId (env.internalId catalogId collectionId) =
        env.internalId catalogId collectionId)
    (materialized : env.isMaterialized config.classKey (some catalogId)
      (some (env.internalId catalogId collectionId)) = true)
    (returned : writeCollection classes py env store path config catalogId collectionId =
      .ok written)
    (read : effectiveConfig classes env store catalogId collectionId config.classKey = .ok before)
    (reread : effectiveConfig classes env (written.commit store) catalogId collectionId
      config.classKey = .ok after) :
    KeepsImmutable classes py config.classKey before after ↔ config.serialize classes = [] ∨
        ∀ field ∈ (classes config.classKey).fields, field.mutability = .immutable →
          FieldSpared classes py env store path config catalogId collectionId
            field.name := by
  rcases writeCollection_cases returned with
    ⟨empty, skipped⟩ | ⟨nonempty, physSchema, checked, resolved, stored, passed⟩
  · have unchanged : written.commit store = store := by
      rw [Written.commit, skipped]
      rfl
    rw [unchanged, read] at reread
    cases reread
    exact ⟨fun _ => .inl empty, fun _ _ _ _ => equality.refl _⟩
  · simp only [nonempty, false_or]
    apply forall_congr'
    intro field
    apply forall_congr'
    intro mem
    apply forall_congr'
    intro immutable
    have declared := declares_of_mem mem
    have typed : (env.withSnapshots classes store).SnapshotsTyped :=
      snapshotsTyped_withSnapshots env
    have landed : (env.withSnapshots classes store).isMaterialized config.classKey
        (some catalogId) (some (env.internalId catalogId collectionId)) :=
      materialized
    have ready : (env.withSnapshots classes store).physSchema catalogId =
        some physSchema := resolved
    have own : (collectionDelta (env.withSnapshots classes store) store config.classKey
        catalogId collectionId).bind (·.lookup field.name) =
        (comparedRow env store path config catalogId collectionId).bind
          (·.lookup field.name) :=
      (lookup_comparedRow).symm
    rw [values_of_getConfig typed declared read,
      values_of_reread declared nonempty resolved stored reread, own]
    cases found : comparedRow env store path config catalogId collectionId with
    | some data =>
      simp only [FieldSpared, found, Option.bind_some]
      apply equals_iff_of_compared equality _ (padded field.name)
      have compared : comparedRow (env.withSnapshots classes store) store path config
          catalogId collectionId = some data := found
      exact equals_of_compared distinct mem immutable landed ready passed compared
    | none =>
      simp only [FieldSpared, found, Option.bind_none, Option.getD_none]
      by_cases isSet : field.name ∈ config.fieldsSet
      · rw [if_pos isSet]
        cases path with
        | setConfig =>
          have kept := equals_of_first distinct mem immutable landed ready passed typed settled
            rfl found isSet
          exact ⟨fun _ => nofun, fun _ => kept⟩
        | setConfigByRef => simp [isSet]
      · rw [if_neg isSet]
        exact ⟨fun _ _ given => absurd given isSet, fun _ => equality.refl _⟩

/-! A write policy whose validity a catalog has changed from the default, and a collection
with data whose own row says nothing about it. -/

def policyClasses : Registry := fun _ =>
  { name := "ItemsWritePolicy"
    schemaId := "1"
    fields := [⟨"validity", .immutable, .null⟩, ⟨"on_batch_conflict", .mutable, .null⟩]
    extra := .forbid
    constructible := true
    invalid := fun _ => none }

def renderedEquality : Python :=
  { Python.literal with
    equals := fun left right => Python.literal.str left == Python.literal.str right }

theorem equivalence_renderedEquality :
    Equivalence fun left right => renderedEquality.equals left right = true where
  refl value := by simp [renderedEquality]
  symm {left right} same := by
    simp only [renderedEquality, beq_iff_eq] at same ⊢
    exact same.symm
  trans {left middle right} first second := by
    simp only [renderedEquality, beq_iff_eq] at first second ⊢
    exact first.trans second

def landedSurroundings : Surroundings where
  physSchema _ := some "s_c"
  internalId _ collectionId := collectionId
  snapshotBase _ _ := none
  isMaterialized _ _ _ := true
  validateHandlers config _ _ := .ok config
  now := 2

def policyRow (scope : Scope) (data : Document) : ConfigRow where
  scope := scope
  refKey := "items_write_policy"
  classKey := "items_write_policy"
  schemaId := "1"
  data := data
  updatedAt := 1

def policyStore : ConfigStore :=
  (Table.empty.upsert (policyRow (.catalog "s_c") [("validity", .text "tracked")])).upsert
    (policyRow (.collection "s_c" "k") [("on_batch_conflict", .text "refuse_batch")])

def policyConfig (field : String) (value : Value) : PluginConfig where
  classKey := "items_write_policy"
  values name := if name = field then value else .null
  fieldsSet := [field]

theorem keepsImmutable_iff_fieldSpared_batch : ∃ written before after,
      writeCollection policyClasses renderedEquality landedSurroundings policyStore
        (.setConfig none) (policyConfig "on_batch_conflict" .null) "c" "k" = .ok written ∧
      effectiveConfig policyClasses landedSurroundings policyStore "c" "k"
        "items_write_policy" = .ok before ∧
      effectiveConfig policyClasses landedSurroundings (written.commit policyStore) "c" "k"
        "items_write_policy" = .ok after ∧
      (KeepsImmutable policyClasses renderedEquality "items_write_policy" before after ↔
        (policyConfig "on_batch_conflict" .null).serialize policyClasses = [] ∨
          ∀ field ∈ (policyClasses "items_write_policy").fields, field.mutability = .immutable →
            FieldSpared policyClasses renderedEquality landedSurroundings policyStore
              (.setConfig none) (policyConfig "on_batch_conflict" .null) "c" "k" field.name) := by
  refine ⟨_, _, _, rfl, rfl, rfl, ?_⟩
  apply keepsImmutable_iff_fieldSpared policyClasses renderedEquality landedSurroundings
    policyStore (.setConfig none) (policyConfig "on_batch_conflict" .null) "c" "k"
  · exact equivalence_renderedEquality
  · decide
  · intro _ _
    simp only [policyConfig, policyClasses, ConfigClass.default, List.find?, ite_self]
    split
    · rfl
    · split <;> rfl
  · rfl
  · rfl
  · rfl
  · rfl
  · rfl

/-- A collection that tracks validity, as its catalog says, stops to do so when a checked write
sends the default of the class. -/
theorem validity_reset_to_default : ∃ written before after,
      writeCollection policyClasses renderedEquality landedSurroundings policyStore
        (.setConfig none) (policyConfig "validity" .null) "c" "k" = .ok written ∧
      effectiveConfig policyClasses landedSurroundings policyStore "c" "k"
        "items_write_policy" = .ok before ∧
      effectiveConfig policyClasses landedSurroundings (written.commit policyStore) "c" "k"
        "items_write_policy" = .ok after ∧
      before.values "validity" = .text "tracked" ∧ after.values "validity" = .null ∧
      ¬ KeepsImmutable policyClasses renderedEquality "items_write_policy" before after := by
  refine ⟨_, _, _, rfl, rfl, rfl, rfl, rfl, ?_⟩
  intro kept
  have same := kept ⟨"validity", .immutable, .null⟩ (by simp [policyClasses]) rfl
  revert same
  decide

end Dynastore.Configs
