import Dynastore.Foundation.Value

/-! Configuration classes with the mutability of their fields, instances of them, and the two checks
that a write by an outside caller goes through. -/

namespace Dynastore.Configs

inductive Mutability where
  | mutable
  | writeOnce
  | immutable
  | computed
deriving DecidableEq

structure ConfigField where
  name : String
  mutability : Mutability
  default : Value

/-- What a class does with a key that it does not declare. -/
inductive ExtraPolicy where
  | forbid
  | ignore
  | allow
deriving DecidableEq

/-- A configuration class. `invalid` is the message of the validation error that a document
gives, `constructible` says that no field is required. -/
structure ConfigClass where
  name : String
  schemaId : String
  fields : List ConfigField
  extra : ExtraPolicy
  constructible : Bool
  invalid : Document → Option String

abbrev Registry := String → ConfigClass

structure PluginConfig where
  classKey : String
  values : String → Value
  fieldsSet : List String

inductive ConfigError where
  | invalidIdentifier (message : String)
  | catalogRequired
  | unresolvedSchema (catalogId : String)
  | unresolvedConfig (classKey : String)
  | invalid (message : String)
  | writeOnceField (className field : String) (current new : Value)
  | immutableField (className field : String) (current new : Value)
  | versionConflict (classKey : String) (expectedVersion : Nat)
  | otherClass (refKey storedClassKey classKey : String)

def ConfigClass.computedFields (cls : ConfigClass) : List String :=
  (cls.fields.filter (·.mutability = .computed)).map (·.name)

def ConfigClass.default (cls : ConfigClass) (name : String) : Value :=
  (cls.fields.find? (·.name = name)).elim .null (·.default)

def ConfigClass.declares (cls : ConfigClass) (name : String) : Bool :=
  cls.fields.any (·.name = name)

namespace PluginConfig

variable (classes : Registry) (config : PluginConfig)

def cls : ConfigClass :=
  classes config.classKey

/-- The extra keys of an instance count as set. -/
def extraNames : List String :=
  if (config.cls classes).extra = .allow then
    config.fieldsSet.filter (!(config.cls classes).declares ·)
  else []

def dump : Document :=
  ((config.cls classes).fields.map (·.name) ++ config.extraNames classes).map fun name =>
    (name, config.values name)

def serialize : Document :=
  (config.dump classes).filter (·.1 ∈ config.fieldsSet)

end PluginConfig

/-- `_validate_stored_config`; what the class does not declare is dropped, unless it allows it. -/
def validateStoredConfig (classes : Registry) (classKey : String) (data : Document) :
    Except ConfigError PluginConfig :=
  let cls := classes classKey
  let known := data.filter fun entry => cls.declares entry.1 || cls.extra = .allow
  match cls.invalid known with
  | some message => .error (.invalid message)
  | none =>
    .ok
      { classKey
        values := fun name => (known.lookup name).getD (cls.default name)
        fieldsSet := known.map Prod.fst }

/-- Machine-assigned fields go back to the stored value, or are unset without one. -/
def restoreSystemAssignedFields (classes : Registry) (config : PluginConfig)
    (currentConfig : Option PluginConfig) : PluginConfig :=
  let computed := (config.cls classes).computedFields
  let currentVal name := currentConfig.elim Value.null (·.values name)
  { config with
    values := fun name => if name ∈ computed then currentVal name else config.values name
    fieldsSet :=
      config.fieldsSet.filter (· ∉ computed) ++
        computed.filter fun name => !(currentVal name matches .null) }

theorem mem_restored_of_computed (computed : name ∈ (classes config.classKey).computedFields) :
    name ∈ (restoreSystemAssignedFields classes config current).fieldsSet ↔
      current.elim Value.null (·.values name) ≠ .null := by
  have known : name ∈ (config.cls classes).computedFields := computed
  cases value : current.elim Value.null (·.values name) <;>
    simp [restoreSystemAssignedFields, known, value]

theorem values_restored_of_computed (computed : name ∈ (classes config.classKey).computedFields) :
    (restoreSystemAssignedFields classes config current).values name =
      current.elim Value.null (·.values name) :=
  if_pos computed

theorem mem_restored_of_given (given : name ∉ (classes config.classKey).computedFields) :
    name ∈ (restoreSystemAssignedFields classes config current).fieldsSet ↔
      name ∈ config.fieldsSet := by
  have unknown : name ∉ (config.cls classes).computedFields := given
  simp [restoreSystemAssignedFields, unknown]

theorem values_restored_of_given (given : name ∉ (classes config.classKey).computedFields) :
    (restoreSystemAssignedFields classes config current).values name = config.values name :=
  if_neg given

def enforceConfigImmutability (classes : Registry) (py : Python) (materialized : Bool)
    (current new : PluginConfig) (restrictToFields : Option (List String)) : Option ConfigError :=
  if new.classKey ≠ current.classKey then none
  else (current.cls classes).fields.findSome? fun field =>
    let currentVal := current.values field.name
    let newVal := new.values field.name
    let same := py.equals currentVal newVal
    if restrictToFields.any (!·.contains field.name) then none
    else match field.mutability with
      | .writeOnce =>
        if currentVal matches .null || same then none
        else some (.writeOnceField (current.cls classes).name field.name currentVal newVal)
      | .immutable =>
        if !materialized || same then none
        else some (.immutableField (current.cls classes).name field.name currentVal newVal)
      | .mutable | .computed => none

end Dynastore.Configs
