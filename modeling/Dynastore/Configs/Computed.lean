import Dynastore.Configs.Write
import Dynastore.Foundation.Execution

/-! What sequences of writes leave in the Computed fields of the stored rows. A run keeps beside the
store the value that each field of each row was last given by a trusted write, one without the
immutability check. -/

namespace Dynastore.Configs

open Execution

inductive WriteKind where
  | setConfig (expectedVersion : Option Nat)
  | setConfigByRef (refKey : String)

structure Call where
  kind : WriteKind
  config : PluginConfig
  catalogId : Option String
  collectionId : Option String
  checkImmutability : Bool
  surroundings : Surroundings

structure Tracked where
  store : ConfigStore
  assigned : Scope × String → String → Option Value

namespace Call

variable (call : Call)

def refKey : String :=
  match call.kind with
  | .setConfig _ => call.config.classKey
  | .setConfigByRef refKey => refKey

def perform (classes : Registry) (py : Python) (store : ConfigStore) : Except ConfigError Written :=
  match call.kind with
  | .setConfig expectedVersion =>
    setConfig classes py call.surroundings store call.config call.checkImmutability
      call.catalogId call.collectionId expectedVersion
  | .setConfigByRef refKey =>
    setConfigByRef classes py call.surroundings store call.config call.checkImmutability refKey
      call.catalogId call.collectionId

/-- A checked call that stores a row sets a Computed field of it to the assigned value only. -/
def SparesComputed (classes : Registry) (py : Python) (tracked : Tracked) : Prop :=
  call.checkImmutability = true →
    ∀ written row, call.perform classes py tracked.store = .ok written → written.row = some row →
    ∀ field ∈ (call.config.cls classes).computedFields, field ∈ call.config.fieldsSet →
      tracked.assigned row.key field = some (call.config.values field)

end Call

namespace Tracked

def start (store : ConfigStore) : Tracked where
  store := store
  assigned key field := (store.lookup key).bind (·.data.lookup field)

def put (tracked : Tracked) (trusted : Bool) (row : ConfigRow) : Tracked where
  store := tracked.store.upsert row
  assigned key field :=
    if trusted ∧ row.key = key then (row.data.lookup field).or (tracked.assigned key field)
    else tracked.assigned key field

def step (classes : Registry) (py : Python) (tracked : Tracked) (call : Call) : Tracked :=
  match call.perform classes py tracked.store with
  -- a call that raises is rolled back
  | .error _ => tracked
  | .ok written => written.row.elim tracked (tracked.put !call.checkImmutability)

/-- Every stored Computed field is absent or has the value last assigned to it. -/
def ComputedAssigned (classes : Registry) (tracked : Tracked) : Prop :=
  ∀ key row, tracked.store.lookup key = some row → ∀ field ∈ (classes row.classKey).computedFields,
      row.data.lookup field = none ∨ row.data.lookup field = tracked.assigned key field

end Tracked

variable {classes : Registry} {py : Python} {tracked : Tracked} {call : Call}

theorem Tracked.computedAssigned_start (store : ConfigStore) :
    (Tracked.start store).ComputedAssigned classes := by
  intro key row found _ _
  have stored : store.lookup key = some row := found
  simp [Tracked.start, stored]

theorem of_lookup_serialize {config : PluginConfig}
    (found : (config.serialize classes).lookup field = some value) :
    field ∈ config.fieldsSet ∧ value = config.values field := by
  rcases List.lookup_eq_some_iff.mp found with ⟨_, _, split, _⟩
  have mem : (field, value) ∈ config.serialize classes := by simp [split]
  simp only [PluginConfig.serialize, PluginConfig.dump, List.mem_filter, List.mem_map,
    decide_eq_true_eq] at mem
  rcases mem with ⟨⟨_, _, same⟩, isSet⟩
  cases same
  exact ⟨isSet, rfl⟩

theorem Call.storesGiven_perform (returned : call.perform classes py store = .ok written) :
    StoresGiven classes call.surroundings call.config call.catalogId call.collectionId
      call.refKey written := by
  unfold Call.perform at returned
  unfold Call.refKey
  split at returned
  · exact storesGiven_setConfig returned
  · exact storesGiven_setConfigByRef returned

theorem Tracked.computedAssigned_put (before : tracked.ComputedAssigned classes)
    (spared : trusted = false → ∀ field ∈ (classes row.classKey).computedFields,
      ∀ value, row.data.lookup field = some value → tracked.assigned row.key field = some value) :
    (tracked.put trusted row).ComputedAssigned classes := by
  intro key stored found field computed
  have lookup : (tracked.store.upsert row).lookup key = some stored := found
  rw [Table.lookup_upsert] at lookup
  by_cases same : row.key = key
  · rw [if_pos same] at lookup
    cases lookup
    cases written : row.data.lookup field with
    | none => exact .inl rfl
    | some value =>
      cases trusted with
      | true => simp [Tracked.put, same, written]
      | false => simpa [Tracked.put, same] using (spared rfl field computed value written).symm
  · rw [if_neg same] at lookup
    simpa [Tracked.put, same] using before key stored lookup field computed

theorem Tracked.computedAssigned_step (before : tracked.ComputedAssigned classes)
    (spares : call.SparesComputed classes py tracked) :
    (tracked.step classes py call).ComputedAssigned classes := by
  unfold Tracked.step
  split
  · exact before
  · rename_i written returned
    cases stored : written.row with
    | none => exact before
    | some row =>
      have ⟨_, _, given⟩ := Call.storesGiven_perform returned row stored
      subst given
      refine Tracked.computedAssigned_put before ?_
      intro untrusted field computed _ found
      have ⟨isSet, same⟩ := of_lookup_serialize found
      rw [same]
      exact spares (by simpa using untrusted) written _ returned stored field computed isSet

/-- In every run whose checked calls store a Computed field with the value last assigned to it
only, every state reached holds no other value there. -/
theorem computedAssigned_of_spares (classes : Registry) (py : Python) (store : ConfigStore)
    (calls : List Call)
    (spares : Guarded (Tracked.step classes py) (fun tracked call =>
      call.SparesComputed classes py tracked) (Tracked.start store) calls) :
    ∀ before after, calls = before ++ after →
      (run (Tracked.step classes py) (Tracked.start store) before).ComputedAssigned classes := by
  intro _ _ split
  subst split
  refine invariant_run ?_ (Tracked.computedAssigned_start store)
    ((guarded_append _).mp spares).1
  intro _ _ holds spared
  exact Tracked.computedAssigned_step holds spared

/-! The class of the driver of a collection, on an empty store. -/

/-- A missing `engine_ref` is completed by a validator of the class. -/
def driverClasses : Registry := fun _ =>
  { name := "ItemsPostgresqlDriverConfig"
    schemaId := "1"
    fields :=
      [⟨"engine_ref", .writeOnce, .text "postgresql_engine"⟩, ⟨"physical_table", .computed, .null⟩,
        ⟨"sidecars", .computed, .list []⟩,
        ⟨"partitioning", .immutable,
          .dict [("enabled", .bool false), ("partition_keys", .list [])]⟩]
    extra := .allow
    constructible := true
    invalid := fun _ => none }

def driverSurroundings : Surroundings where
  physSchema _ := some "s_c"
  internalId _ collectionId := collectionId
  snapshotBase _ _ := none
  isMaterialized _ _ _ := false
  validateHandlers config _ _ := .ok config
  now := 1

def driverCall (checkImmutability : Bool) (given : Document) : Call where
  kind := .setConfig none
  config :=
    { classKey := "items_postgresql_driver_config"
      values := fun name => (given.lookup name).getD
        ((driverClasses "items_postgresql_driver_config").default name)
      fieldsSet := given.map Prod.fst }
  catalogId := some "c"
  collectionId := some "k"
  checkImmutability := checkImmutability
  surroundings := driverSurroundings

def driverKey : Scope × String :=
  (.collection "s_c" "k", "items_postgresql_driver_config")

/-- The provisioner assigns a table name, a caller changes the partitioning, and another one, who
sets the table name beside another engine, is refused. -/
def provisionThenEdit : List Call :=
  [driverCall false [("physical_table", .text "t_k")],
    driverCall true [("partitioning",
      .dict [("enabled", .bool true), ("partition_keys", .list [.text "geoid"])])],
    driverCall true [("engine_ref", .text "pg_archive"), ("physical_table", .text "victim")]]

theorem provisionThenEdit_computedAssigned :
    Guarded (Tracked.step driverClasses Python.literal) (fun tracked call =>
      call.SparesComputed driverClasses Python.literal tracked) (Tracked.start Table.empty)
      provisionThenEdit ∧
    (run (Tracked.step driverClasses Python.literal) (Tracked.start Table.empty)
      provisionThenEdit).ComputedAssigned driverClasses := by
  have spares : Guarded (Tracked.step driverClasses Python.literal) (fun tracked call =>
      call.SparesComputed driverClasses Python.literal tracked) (Tracked.start Table.empty)
      provisionThenEdit := by
    refine ⟨?_, ?_, ?_, trivial⟩
    · intro checked
      cases checked
    · intro _ _ _ _ _ field computed isSet
      have machine : field = "physical_table" ∨ field = "sidecars" := by
        simpa [driverCall, PluginConfig.cls, driverClasses, ConfigClass.computedFields]
          using computed
      have edited : field = "partitioning" := by simpa [driverCall] using isSet
      rw [edited] at machine
      exact absurd machine (by decide)
    · intro _ _ _ returned
      cases returned
  exact ⟨spares, computedAssigned_of_spares driverClasses Python.literal Table.empty
    provisionThenEdit spares provisionThenEdit [] (by simp)⟩

/-- A checked write puts the caller's table name into the row. -/
theorem caller_assigns_physical_table :
    let calls := [driverCall true [("physical_table", .text "victim")]]
    let reached := run (Tracked.step driverClasses Python.literal) (Tracked.start Table.empty) calls
    (reached.store.lookup driverKey).map (·.data) = some [("physical_table", .text "victim")] ∧
      reached.assigned driverKey "physical_table" = none ∧
      ¬ reached.ComputedAssigned driverClasses := by
  intro _ reached
  have stored : (reached.store.lookup driverKey).map (·.data) =
      some [("physical_table", .text "victim")] := rfl
  have unassigned : reached.assigned driverKey "physical_table" = none := rfl
  refine ⟨stored, unassigned, ?_⟩
  intro assigned
  rcases Option.map_eq_some_iff.mp stored with ⟨row, found, data⟩
  have computed : "physical_table" ∈ (driverClasses row.classKey).computedFields := by
    simp [driverClasses, ConfigClass.computedFields]
  have value : row.data.lookup "physical_table" = some (.text "victim") := by
    rw [data]
    rfl
  rcases assigned driverKey row found "physical_table" computed with absent | same
  · simp [value] at absent
  · simp [value, unassigned] at same

end Dynastore.Configs
