import Dynastore.Assets.Asset
import Dynastore.Assets.Visibility
import Mathlib.Data.List.Sort

/-! The single-row read with its visibility check, the upsert and the bulk delete. Each statement is
described by the keys under which it leaves the stored row alone. -/

namespace Dynastore.Assets

abbrev Database := String → Tenant

inductive AssetError where
  /-- A read raised, or did not end in time. -/
  | unavailable
  | assetNotFound (assetId catalogId : String)
  | catalogNotFound (catalogId : String)
  | constraintViolated (key : AssetKey)
  | referenced (assetId : String) (blocking : List AssetReference)

/-- What the asset code takes from the catalog service and from the host language. -/
structure Surroundings where
  py : Python
  resolveCatalogId : String → Option String
  resolveCollectionId : String → String → Option String
  resolvePhysicalSchema : String → Option String

/-- The visible-id set of the caller is absent or contains the asset. -/
def Request.sees (request : Request) (key : AssetKey) : Bool :=
  match resolveAssetListingIds request key.catalogId key.collectionId with
  | none => true
  | some ids => ids.contains key.assetId

/-! ## Statements of a delete -/

structure Selection where
  catalogId : String
  assetId : Option String
  collectionId : Option String

def Selection.selects (selection : Selection) (row : Asset) : Bool :=
  row.key.catalogId = selection.catalogId &&
    -- An empty id counts as absent.
    match selection.assetId.filter (· ≠ "") with
    | some assetId =>
      row.key.assetId = assetId && row.key.collectionId = selection.collectionId
    | none => selection.collectionId.isNone || row.key.collectionId = selection.collectionId

theorem Selection.not_selects {selection : Selection} {assets : AssetTable}
    (other : key ∉ (assets.rows.filter selection.selects).map (·.key)) (row : Asset)
    (found : assets.lookup key = some row) : selection.selects row = false := by
  by_contra selected
  apply other
  rw [← Table.key_of_lookup found]
  exact List.mem_map_of_mem (List.mem_filter.mpr
    ⟨Table.mem_of_lookup found, by simpa using selected⟩)

def olderReference (left right : AssetReference) : Prop :=
  left.assetId < right.assetId ∨ (left.assetId = right.assetId ∧ left.createdAt ≤ right.createdAt)

instance : DecidableRel olderReference := fun _ _ => instDecidableOr

def checkBlockingReferences (tenant : Tenant) (catalogId : String) (assetIds : List String) :
    List AssetReference :=
  (tenant.references.filter fun reference =>
    reference.catalogId = catalogId && assetIds.contains reference.assetId &&
      !reference.cascadeDelete && reference.validUntil.isNone).insertionSort olderReference

def softDelete (selection : Selection) (now : Int) : Update Asset Asset.key where
  guard := selection.selects
  assign row := { row with status := .deleted, updatedAt := some now }

def stampReferences (catalogId : String) (assetIds : List String) (now : Int)
    (reference : AssetReference) : AssetReference :=
  if reference.catalogId = catalogId && assetIds.contains reference.assetId &&
      reference.validUntil.isNone then
    { reference with validUntil := some now }
  else reference

def truthy (text : Option String) : Bool :=
  text.any (· ≠ "")

/-! ## The driver -/

namespace Surroundings

variable (env : Surroundings)

def stored (database : Database) (key : AssetKey) : Option Asset :=
  match env.resolvePhysicalSchema key.catalogId with
  | none => none
  | some schema => (database schema).assets.lookup key

def driverGet (database : Database) (request : Request) (key : AssetKey) : Option Asset :=
  if !request.sees key then none
  else (env.stored database key).filter Asset.live

/-- `index_asset`: on a conflict the columns take the new values except `created_at`. -/
def indexAsset (database : Database) (catalogId : String) (document : Asset) (now : Int) :
    Except AssetError Database :=
  match env.resolvePhysicalSchema catalogId with
  | none => .error (.catalogNotFound catalogId)
  | some schema =>
    let tenant := database schema
    let key := { document.key with catalogId }
    let replaced := tenant.assets.lookup key
    let row :=
      { document with
        key
        createdAt := (replaced.map (·.createdAt)).getD document.createdAt
        updatedAt := some (document.updatedAt.getD now) }
    if accepts tenant.assets row then
      .ok (Function.update database schema
        { tenant with assets := tenant.assets.upsert row })
    else .error (.constraintViolated key)

/-- `delete_assets_bulk`: the matched rows, or the references that block, of which there is
at least one. -/
def deleteAssetsBulk (database : Database) (selection : Selection) (hard : Bool) (now : Int) :
    Except (AssetReference × List AssetReference) (List Asset × Database) :=
  match env.resolvePhysicalSchema selection.catalogId with
  | none => .ok ([], database)
  | some schema =>
    let tenant := database schema
    let rows := tenant.assets.rows.filter selection.selects
    let owned := (rows.filter fun row => truthy row.ownedBy).map (·.key.assetId)
    if rows.isEmpty then .ok ([], database)
    else if hard then
      match checkBlockingReferences tenant selection.catalogId owned with
      | [] =>
        .ok (rows, Function.update database schema
          { tenant with assets := tenant.assets.delete selection.selects })
      | first :: rest => .error (first, rest)
    else
      .ok (rows, Function.update database schema
        { assets := tenant.assets.execute (softDelete selection now)
          references := tenant.references.map
            (stampReferences selection.catalogId (rows.map (·.key.assetId)) now) })

/-! ## What a statement leaves alone -/

variable {env}

variable {database written : Database} {key : AssetKey} {now : Int}

theorem key_of_stored (found : env.stored database key = some asset) : asset.key = key := by
  unfold stored at found
  split at found
  · cases found
  · exact Table.key_of_lookup found

theorem driverGet_eq_some : env.driverGet database request key = some asset ↔
      env.stored database key = some asset ∧ asset.status ≠ .deleted ∧
        request.sees key := by
  unfold driverGet
  cases request.sees key with
  | false => simp
  | true => simp [Option.filter_eq_some_iff, Asset.live]

theorem stored_update (same : tenant.assets.lookup key = (database schema).assets.lookup key) :
    env.stored (Function.update database schema tenant) key =
      env.stored database key := by
  unfold stored
  split
  · rfl
  · rename_i resolved _
    by_cases eq : resolved = schema
    · rw [eq, Function.update_self, same]
    · rw [Function.update_of_ne eq]

theorem stored_indexAsset (indexed : env.indexAsset database catalogId document now = .ok written)
    (other : key ≠ { document.key with catalogId }) :
    env.stored written key = env.stored database key := by
  unfold indexAsset at indexed
  split at indexed
  · cases indexed
  · dsimp only at indexed
    split at indexed
    · cases indexed
      apply stored_update
      rw [Table.lookup_upsert]
      exact if_neg (Ne.symm other)
    · cases indexed

theorem stored_deleteAssetsBulk {hard : Bool}
    (deleted : env.deleteAssetsBulk database selection hard now = .ok (rows, written))
    (other : key ∉ rows.map (·.key)) : env.stored written key = env.stored database key := by
  unfold deleteAssetsBulk at deleted
  split at deleted
  · cases deleted
    rfl
  dsimp only at deleted
  split at deleted
  · cases deleted
    rfl
  split at deleted
  · split at deleted
    · cases deleted
      exact stored_update (Table.lookup_delete_of_not_selected (Selection.not_selects other))
    · cases deleted
  · cases deleted
    exact stored_update (Table.lookup_execute_of_not_guard (Selection.not_selects other))

end Surroundings

end Dynastore.Assets
