import Dynastore.Foundation.Execution
import Dynastore.Foundation.Labelled
import Dynastore.Tools.Identifier
import Mathlib.Algebra.Ring.Nat

/-! A catalog or collection has a generated internal id and a public label. `create_catalog` and
`create_collection` turn labels down that look like an internal id, so that a value is at most one
of the two; a rename only checks that the label is an identifier which nobody else holds. -/

namespace Dynastore.Catalogs

open Execution List Option LabelledTable

/-! ## Generated names -/

def base32Alphabet : List Char := "23456789abcdefghijklmnopqrstuvwx".toList

def base32Char (digit : Nat) : Char :=
  base32Alphabet.getD (digit % 32) '2'

def base32Digits : Nat → Nat → List Char
  | 0, _ => []
  | count + 1, number => base32Char number :: base32Digits count (number / 32)

/-- `generate_physical_name`, of the random bits of a UUID. -/
def generatePhysicalName (kind : String) (uuid : Nat) : String :=
  kind ++ "_" ++ String.ofList (base32Digits 13 (uuid % 2 ^ 65)).reverse

def isBase32 (char : Char) : Bool :=
  ('2' ≤ char && char ≤ '9') || ('a' ≤ char && char ≤ 'x')

def isInternalPhysicalName (value kind : String) : Bool :=
  let head := (kind ++ "_").toList
  let suffix := value.toList.drop head.length
  head.isPrefixOf value.toList && suffix.length == 13 && suffix.all isBase32

theorem isBase32_base32Char : isBase32 (base32Char digit) := by
  have all : ∀ remainder < 32, isBase32 (base32Alphabet.getD remainder '2') := by decide
  exact all _ (Nat.mod_lt _ (by decide))

theorem length_base32Digits (count : Nat) : (base32Digits count number).length = count := by
  induction count generalizing number with
  | zero => rfl
  | succ _ ih => rw [base32Digits, length_cons, ih]

theorem isBase32_of_mem_base32Digits {count number : Nat} (mem : char ∈ base32Digits count number) :
    isBase32 char := by
  induction count generalizing number with
  | zero => cases mem
  | succ _ ih =>
    rcases mem_cons.mp mem with same | later
    · rw [same]
      exact isBase32_base32Char
    · exact ih later

theorem isInternalPhysicalName_generate :
    isInternalPhysicalName (generatePhysicalName kind uuid) kind := by
  simp only [isInternalPhysicalName, generatePhysicalName, String.toList_append,
    String.toList_ofList, Bool.and_eq_true, List.drop_left, beq_iff_eq, List.length_reverse,
    length_base32Digits, List.all_eq_true, List.mem_reverse, List.isPrefixOf_iff_prefix,
    List.prefix_append, true_and]
  intro _ mem
  exact isBase32_of_mem_base32Digits mem

/-! ## The registry -/

abbrev LabelTable := LabelledTable String String Unit

/-- `catalog.catalogs`, and the table `collections` of each schema. -/
structure LabelRegistry where
  catalogs : LabelTable
  collections : String → LabelTable

namespace LabelRegistry

variable (registry : LabelRegistry)

def resolveCatalogId (externalId : String) : Option String :=
  registry.catalogs.resolve externalId

/-- `resolve_physical_schema`: the schema is the id of a live catalog. -/
def resolvePhysicalSchema (catalogId : String) : Option String :=
  (registry.catalogs.liveRow catalogId).map (·.id)

def resolveCollectionId (catalogId externalId : String) : Option String :=
  (registry.resolvePhysicalSchema catalogId).bind fun schema =>
    (registry.collections schema).resolve externalId

def toInternalCatalogId (catalogId : String) : String :=
  (registry.resolveCatalogId catalogId).getD catalogId

def toInternalCollectionId (catalogId collectionId : String) : String :=
  (registry.resolveCollectionId catalogId collectionId).getD collectionId

def setCollections (catalogId : String) (table : LabelTable) : LabelRegistry :=
  { registry with
    collections := fun other => if other = catalogId then table else registry.collections other }

def purgeCatalog (catalogId : String) : LabelRegistry :=
  { registry with catalogs := registry.catalogs.remove catalogId }.setCollections catalogId .empty

end LabelRegistry

/-- `_insert_…_row_with_pk_retry`: another name is drawn while the one drawn is taken. -/
def insertWithPkRetry (table : LabelTable) (kind externalId : String) :
    Nat → List Nat → Option LabelTable
  | 0, _ | _ + 1, [] => none
  | attempts + 1, uuid :: uuids =>
    match table.insert (generatePhysicalName kind uuid) externalId () with
    | some inserted => some inserted
    | none =>
      if table.rows.any fun row => row.live && row.label = externalId then none
      else insertWithPkRetry table kind externalId attempts uuids

/-- `_CATALOG_PK_MAX_RETRIES` and `_COLLECTION_PK_MAX_RETRIES`. -/
def pkMaxRetries : Nat := 5

def labelRefused (kind externalId : String) : Bool :=
  (invalidIdentifier externalId).isSome || isInternalPhysicalName externalId kind

def reclaimLabel (table : LabelTable) (externalId : String) : LabelTable :=
  match table.retired externalId with
  | some row => table.remove row.id
  | none => table

def renameRow (table : LabelTable) (id newExternalId : String) : Option LabelTable :=
  if (invalidIdentifier newExternalId).isSome then none
  else
    match table.liveRow id with
    | none => none
    | some row => if row.label = newExternalId then some table else table.relabel id newExternalId

namespace LabelRegistry

variable (registry : LabelRegistry)

def reclaimCatalog (externalId : String) : LabelRegistry :=
  match registry.catalogs.retired externalId with
  | some row => registry.purgeCatalog row.id
  | none => registry

def createCatalog (externalId : String) (uuids : List Nat) : Option LabelRegistry :=
  if labelRefused "c" externalId then none
  else
    (insertWithPkRetry (registry.reclaimCatalog externalId).catalogs "c" externalId pkMaxRetries
      uuids).map fun catalogs => { registry.reclaimCatalog externalId with catalogs }

def createCollection (catalogId externalId : String) (uuids : List Nat) : Option LabelRegistry :=
  if (invalidIdentifier catalogId).isSome || labelRefused "col" externalId then none
  else
    (registry.resolvePhysicalSchema (registry.toInternalCatalogId catalogId)).bind fun schema =>
      (insertWithPkRetry (reclaimLabel (registry.collections schema) externalId) "col" externalId
        pkMaxRetries uuids).map (registry.setCollections schema)

def renameCatalog (internalId newExternalId : String) : Option LabelRegistry :=
  (renameRow registry.catalogs internalId newExternalId).map fun catalogs =>
    { registry with catalogs }

def renameCollection (catalogInternalId collectionInternalId newExternalId : String) :
    Option LabelRegistry :=
  (registry.resolvePhysicalSchema catalogInternalId).bind fun schema =>
    (renameRow (registry.collections schema) collectionInternalId newExternalId).map
      (registry.setCollections schema)

/-- A soft delete tombstones the row, and so does a forced one unless no provisioner is
active, when it purges the catalog at once. -/
def deleteCatalog (catalogId : String) (force : Bool) (checklist : List String) :
    Option LabelRegistry :=
  if (invalidIdentifier catalogId).isSome then none
  else
    (registry.resolveCatalogId catalogId).map fun internalId =>
      if force && checklist.isEmpty then registry.purgeCatalog internalId
      else { registry with catalogs := registry.catalogs.retire internalId }

def deprovisionCatalog (catalogId : String) : Option LabelRegistry :=
  some (registry.purgeCatalog catalogId)

def deleteCollectionRow (schema collectionId : String) (force : Bool) : LabelRegistry :=
  registry.setCollections schema (if force then (registry.collections schema).remove collectionId
      else (registry.collections schema).retire collectionId)

def deleteCollection (catalogId collectionId : String) (force : Bool) : Option LabelRegistry :=
  if (invalidIdentifier catalogId).isSome || (invalidIdentifier collectionId).isSome then none
  else
    (registry.resolvePhysicalSchema (registry.toInternalCatalogId catalogId)).map fun schema =>
      registry.deleteCollectionRow schema
        (registry.toInternalCollectionId (registry.toInternalCatalogId catalogId) collectionId)
        force

end LabelRegistry

/-! ## Runs -/

inductive LabelOp where
  | createCatalog (externalId : String) (uuids : List Nat)
  | createCollection (catalogId externalId : String) (uuids : List Nat)
  | renameCatalog (internalId newExternalId : String)
  | renameCollection (catalogInternalId collectionInternalId newExternalId : String)
  | deleteCatalog (catalogId : String) (force : Bool) (checklist : List String)
  | deprovisionCatalog (catalogId : String)
  | deleteCollection (catalogId collectionId : String) (force : Bool)

namespace LabelRegistry

variable (registry : LabelRegistry)

def execute : LabelOp → Option LabelRegistry
  | .createCatalog externalId uuids => registry.createCatalog externalId uuids
  | .createCollection catalogId externalId uuids =>
    registry.createCollection catalogId externalId uuids
  | .renameCatalog internalId newExternalId => registry.renameCatalog internalId newExternalId
  | .renameCollection catalogInternalId collectionInternalId newExternalId =>
    registry.renameCollection catalogInternalId collectionInternalId newExternalId
  | .deleteCatalog catalogId force checklist => registry.deleteCatalog catalogId force checklist
  | .deprovisionCatalog catalogId => registry.deprovisionCatalog catalogId
  | .deleteCollection catalogId collectionId force =>
    registry.deleteCollection catalogId collectionId force

def step (op : LabelOp) : LabelRegistry :=
  (registry.execute op).getD registry

def initial : LabelRegistry := ⟨.empty, fun _ => .empty⟩

def LabelsDisjoint : Prop :=
  (∀ row ∈ registry.catalogs, row.live → isInternalPhysicalName row.label "c" = false ∧
      registry.resolveCatalogId row.label = some row.id ∧
      registry.resolveCatalogId row.id = none) ∧
  ∀ catalogId schema, registry.resolvePhysicalSchema catalogId = some schema →
    ∀ row ∈ registry.collections schema, row.live → isInternalPhysicalName row.label "col" = false ∧
        registry.resolveCollectionId catalogId row.label = some row.id ∧
        registry.resolveCollectionId catalogId row.id = none

end LabelRegistry

def RenamesToLabel : LabelOp → Prop
  | .renameCatalog _ newExternalId => isInternalPhysicalName newExternalId "c" = false
  | .renameCollection _ _ newExternalId => isInternalPhysicalName newExternalId "col" = false
  | .createCatalog .. | .createCollection .. | .deleteCatalog .. | .deprovisionCatalog ..
  | .deleteCollection .. => True

/-! ## What every step keeps -/

structure Apart (kind : String) (table : LabelTable) : Prop where
  ids : ∀ row ∈ table, isInternalPhysicalName row.id kind
  labels : ∀ row ∈ table, row.live → isInternalPhysicalName row.label kind = false

section Apart

variable {kind : String} {table : LabelTable}

theorem apart_empty : Apart kind .empty where
  ids _ mem := absurd mem LabelledTable.not_mem_empty
  labels _ mem := absurd mem LabelledTable.not_mem_empty

section

variable (apart : Apart kind table)

include apart

theorem Apart.remove (id : String) : Apart kind (table.remove id) where
  ids row mem := apart.ids row (LabelledTable.mem_remove.mp mem).1
  labels row mem := apart.labels row (LabelledTable.mem_remove.mp mem).1

theorem Apart.retire (id : String) : Apart kind (table.retire id) where
  ids row mem := by
    obtain ⟨before, present, same⟩ := exists_of_mem_retire mem
    exact same ▸ apart.ids before present
  labels row mem live := apart.labels row (mem_of_mem_retire mem live) live

variable {externalId : String} {after : LabelTable}

theorem Apart.insert (accepted : isInternalPhysicalName externalId kind = false)
    (inserted : table.insert (generatePhysicalName kind uuid) externalId () = some after) :
    Apart kind after where
  ids row mem := by
    rcases mem_of_insert inserted mem with rfl | old
    · exact isInternalPhysicalName_generate
    · exact apart.ids row old
  labels row mem live := by
    rcases mem_of_insert inserted mem with rfl | old
    · exact accepted
    · exact apart.labels row old live

theorem Apart.insertWithPkRetry (accepted : isInternalPhysicalName externalId kind = false)
    (inserted : insertWithPkRetry table kind externalId attempts uuids = some after) :
    Apart kind after := by
  induction attempts generalizing uuids with
  | zero => cases inserted
  | succ _ ih =>
    cases uuids with
    | nil => cases inserted
    | cons =>
      simp only [Catalogs.insertWithPkRetry] at inserted
      split at inserted
      next success =>
        cases inserted
        exact apart.insert accepted success
      · split at inserted
        · cases inserted
        · exact ih inserted

theorem Apart.reclaimLabel (externalId : String) : Apart kind (reclaimLabel table externalId) := by
  unfold Catalogs.reclaimLabel
  split
  · exact apart.remove _
  · exact apart

theorem Apart.renameRow {id newExternalId : String}
    (accepted : isInternalPhysicalName newExternalId kind = false)
    (renamed : renameRow table id newExternalId = some after) : Apart kind after := by
  unfold Catalogs.renameRow at renamed
  split at renamed
  · cases renamed
  · split at renamed
    · cases renamed
    · split at renamed
      · cases renamed
        exact apart
      · constructor
        · intro row mem
          obtain ⟨before, present, same, _⟩ := mem_of_relabel renamed mem
          exact same ▸ apart.ids before present
        · intro _ mem live
          obtain ⟨before, present, _, kept | given⟩ :=
            mem_of_relabel renamed mem
          · exact kept ▸ apart.labels before present (kept ▸ live)
          · rw [given]
            exact accepted

theorem Apart.resolve (mem : row ∈ table) (live : row.live) :
    table.resolve row.label = some row.id ∧ table.resolve row.id = none := by
  refine ⟨resolve_of_mem mem live, ?_⟩
  cases found : table.resolve row.id with
  | none => rfl
  | some =>
    obtain ⟨other, present, otherLive, same, _⟩ := mem_of_resolve found
    have internal := apart.ids row mem
    rw [← same, apart.labels other present otherLive] at internal
    cases internal

end

end Apart

structure LabelInvariant (registry : LabelRegistry) : Prop where
  catalogs : Apart "c" registry.catalogs
  collections : ∀ schema, Apart "col" (registry.collections schema)

section Invariant

variable {registry : LabelRegistry}

section

variable (inv : LabelInvariant registry)

include inv

theorem LabelInvariant.setCollections (schema : String) (apart : Apart "col" table) :
    LabelInvariant (registry.setCollections schema table) where
  catalogs := inv.catalogs
  collections other := by
    unfold LabelRegistry.setCollections
    dsimp only
    split
    · exact apart
    · exact inv.collections other

theorem LabelInvariant.purgeCatalog (catalogId : String) :
    LabelInvariant (registry.purgeCatalog catalogId) := by
  have removed : LabelInvariant { registry with catalogs := registry.catalogs.remove catalogId } :=
    ⟨inv.catalogs.remove catalogId, inv.collections⟩
  exact removed.setCollections catalogId apart_empty

theorem LabelInvariant.reclaimCatalog (externalId : String) :
    LabelInvariant (registry.reclaimCatalog externalId) := by
  unfold LabelRegistry.reclaimCatalog
  split
  · exact inv.purgeCatalog _
  · exact inv

omit inv in
theorem not_internal_of_labelRefused (accepted : ¬ labelRefused kind externalId) :
    isInternalPhysicalName externalId kind = false := by
  simp only [labelRefused, Bool.or_eq_true, not_or, Bool.not_eq_true] at accepted
  exact accepted.2

variable {externalId catalogId : String} {uuids : List Nat} {after : LabelRegistry} {force : Bool}

namespace LabelInvariant

theorem createCatalog
    (created : registry.createCatalog externalId uuids = some after) : LabelInvariant after := by
  simp only [LabelRegistry.createCatalog] at created
  split at created
  · cases created
  next accepted =>
    have cleared := inv.reclaimCatalog externalId
    obtain ⟨_, inserted, rfl⟩ := map_eq_some_iff.mp created
    exact ⟨cleared.catalogs.insertWithPkRetry (not_internal_of_labelRefused accepted) inserted,
      cleared.collections⟩

theorem createCollection
    (created : registry.createCollection catalogId externalId uuids = some after) :
    LabelInvariant after := by
  simp only [LabelRegistry.createCollection] at created
  split at created
  · cases created
  next accepted =>
    simp only [Bool.or_eq_true, not_or] at accepted
    obtain ⟨schema, _, insertion⟩ := bind_eq_some_iff.mp created
    obtain ⟨_, inserted, rfl⟩ := map_eq_some_iff.mp insertion
    apply inv.setCollections
    exact ((inv.collections schema).reclaimLabel externalId).insertWithPkRetry
      (not_internal_of_labelRefused accepted.2) inserted

theorem deleteCollection
    (deleted : registry.deleteCollection catalogId collectionId force = some after) :
    LabelInvariant after := by
  simp only [LabelRegistry.deleteCollection] at deleted
  split at deleted
  · cases deleted
  · obtain ⟨schema, _, rfl⟩ := map_eq_some_iff.mp deleted
    apply inv.setCollections
    split
    · exact (inv.collections schema).remove _
    · exact (inv.collections schema).retire _

theorem deleteCatalog (deleted : registry.deleteCatalog catalogId force checklist = some after) :
    LabelInvariant after := by
  simp only [LabelRegistry.deleteCatalog] at deleted
  split at deleted
  · cases deleted
  · obtain ⟨internalId, _, rfl⟩ := map_eq_some_iff.mp deleted
    split
    · exact inv.purgeCatalog internalId
    · exact ⟨inv.catalogs.retire internalId, inv.collections⟩

theorem execute (renames : RenamesToLabel op) (executed : registry.execute op = some after) :
    LabelInvariant after := by
  cases op with
  | createCatalog => exact inv.createCatalog executed
  | createCollection => exact inv.createCollection executed
  | renameCatalog =>
    obtain ⟨_, renamed, rfl⟩ := map_eq_some_iff.mp executed
    exact ⟨inv.catalogs.renameRow renames renamed, inv.collections⟩
  | renameCollection =>
    obtain ⟨schema, _, update⟩ := bind_eq_some_iff.mp executed
    obtain ⟨_, renamed, rfl⟩ := map_eq_some_iff.mp update
    exact inv.setCollections schema ((inv.collections schema).renameRow renames renamed)
  | deleteCatalog => exact inv.deleteCatalog executed
  | deprovisionCatalog catalogId =>
    cases executed
    exact inv.purgeCatalog catalogId
  | deleteCollection => exact inv.deleteCollection executed

theorem labelsDisjoint : registry.LabelsDisjoint := by
  constructor
  · intro row mem live
    exact ⟨inv.catalogs.labels row mem live, inv.catalogs.resolve mem live⟩
  · intro _ schema resolved row mem live
    have found := (inv.collections schema).resolve mem live
    refine ⟨(inv.collections schema).labels row mem live, ?_, ?_⟩
    · rw [LabelRegistry.resolveCollectionId, resolved]
      exact found.1
    · rw [LabelRegistry.resolveCollectionId, resolved]
      exact found.2

end LabelInvariant

end

end Invariant

/-- Labels and internal ids stay apart in every run whose renames take a proper label. -/
theorem labels_disjoint_of_renames (ops : List LabelOp) (renames : ∀ op ∈ ops, RenamesToLabel op) :
    (run LabelRegistry.step .initial ops).LabelsDisjoint := by
  have kept : ∀ registry op, LabelInvariant registry → RenamesToLabel op →
      LabelInvariant (registry.step op) := by
    intro registry op inv renames
    unfold LabelRegistry.step
    cases executed : registry.execute op with
    | none => exact inv
    | some => exact inv.execute renames executed
  have initial : LabelInvariant .initial := ⟨apart_empty, fun _ => apart_empty⟩
  exact (invariant_run kept initial (guarded_of_forall renames _)).labelsDisjoint

def createAndRename : List LabelOp :=
  [.createCatalog "survey" [0], .createCatalog "census" [1],
    .createCollection "survey" "roads" [0], .renameCatalog "c_2222222222223" "census_2026"]

theorem labels_disjoint_createAndRename : (∀ op ∈ createAndRename, RenamesToLabel op) ∧
      (run LabelRegistry.step .initial createAndRename).LabelsDisjoint ∧
      (run LabelRegistry.step .initial createAndRename).resolveCatalogId "census_2026" =
        some "c_2222222222223" := by
  have renames : ∀ op ∈ createAndRename, RenamesToLabel op := by
    intro _ mem
    simp only [createAndRename, mem_cons, not_mem_nil, or_false] at mem
    rcases mem with rfl | rfl | rfl | rfl
    · trivial
    · trivial
    · trivial
    · exact (by decide +kernel : isInternalPhysicalName "census_2026" "c" = false)
  exact ⟨renames, labels_disjoint_of_renames createAndRename renames, by decide +kernel⟩

def renameToInternalId : List LabelOp :=
  [.createCatalog "survey" [0], .createCatalog "census" [1],
    .renameCatalog "c_2222222222223" "c_2222222222222"]

theorem internal_id_resolves_as_label :
    let registry := run LabelRegistry.step .initial renameToInternalId
    registry.catalogs.rows = [⟨"c_2222222222223", "c_2222222222222", true, ()⟩,
      ⟨"c_2222222222222", "survey", true, ()⟩] ∧
    registry.resolveCatalogId "c_2222222222222" = some "c_2222222222223" ∧
    ¬ registry.LabelsDisjoint := by
  intro registry
  have rows : registry.catalogs.rows = [⟨"c_2222222222223", "c_2222222222222", true, ()⟩,
      ⟨"c_2222222222222", "survey", true, ()⟩] := by
    decide +kernel
  refine ⟨rows, by decide +kernel, ?_⟩
  intro disjoint
  have mem : ⟨"c_2222222222223", "c_2222222222222", true, ()⟩ ∈ registry.catalogs := by
    exact .head _
  have refused := (disjoint.1 _ mem rfl).1
  revert refused
  decide +kernel

end Dynastore.Catalogs
