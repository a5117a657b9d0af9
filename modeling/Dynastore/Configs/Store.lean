import Dynastore.Configs.Config
import Dynastore.Foundation.Table

/-! The rows of the platform, catalog and collection tables, and the effective configuration that a
read merges from them. -/

namespace Dynastore.Configs

inductive Scope where
  | platform
  | catalog (physSchema : String)
  | collection (physSchema internalId : String)
deriving DecidableEq

structure ConfigRow where
  scope : Scope
  refKey : String
  classKey : String
  schemaId : String
  data : Document
  updatedAt : Nat

def ConfigRow.key (row : ConfigRow) : Scope × String :=
  (row.scope, row.refKey)

abbrev ConfigStore := Table ConfigRow ConfigRow.key

/-- What a call finds outside the configuration tables: physical schemas once the catalog
exists, internal collection ids, the defaults snapshots of catalogs, whether data has landed,
the validate handlers, which may change the instance, and the clock. -/
structure Surroundings where
  physSchema : String → Option String
  internalId : String → String → String
  snapshotBase : String → String → Option PluginConfig
  isMaterialized : String → Option String → Option String → Bool
  validateHandlers : PluginConfig → Option String → Option String → Except ConfigError PluginConfig
  now : Nat

def storedData (store : ConfigStore) (scope : Scope) (refKey : String) : Option Document :=
  ((store.lookup (scope, refKey)).map (·.data)).filter (!·.isEmpty)

def defaultOrRaise (classes : Registry) (classKey : String) : Except ConfigError PluginConfig :=
  if (classes classKey).constructible then
    .ok { classKey, values := (classes classKey).default, fieldsSet := [] }
  else .error (.unresolvedConfig classKey)

def getPlatformConfig (classes : Registry) (store : ConfigStore) (classKey : String) :
    Except ConfigError PluginConfig :=
  match storedData store .platform classKey with
  | some data => validateStoredConfig classes classKey data
  | none => defaultOrRaise classes classKey

def overlay (base delta : Document) : Document :=
  base.filter (fun entry => (delta.lookup entry.1).isNone) ++ delta

def getConfig (classes : Registry) (env : Surroundings) (store : ConfigStore)
    (classKey : String) (catalogId collectionId : Option String) :
    Except ConfigError PluginConfig :=
  match getPlatformConfig classes store classKey with
  | .error error => .error error
  | .ok live =>
    match catalogId with
    | none => .ok live
    | some catalog =>
      let base := (env.snapshotBase catalog classKey).getD live
      let catalogDelta := (env.physSchema catalog).bind fun physSchema =>
        storedData store (.catalog physSchema) classKey
      let collectionDelta := (env.physSchema catalog).bind fun physSchema =>
        collectionId.bind fun collection =>
          storedData store (.collection physSchema (env.internalId catalog collection)) classKey
      match catalogDelta.toList ++ collectionDelta.toList with
      | [] => .ok base
      | deltas => validateStoredConfig classes classKey (deltas.foldl overlay (base.dump classes))

end Dynastore.Configs
