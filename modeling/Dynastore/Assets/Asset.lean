import Dynastore.Foundation.Table
import Dynastore.Foundation.Value

/-! The rows of the `assets` and `asset_references` tables of a tenant schema, what PostgreSQL
checks of a row, and the merge patch of a metadata document. -/

namespace Dynastore.Assets

/-- The columns of `assets_identity_uq`; no collection for an asset of the catalog tier. -/
structure AssetKey where
  catalogId : String
  collectionId : Option String
  assetId : String
deriving DecidableEq

inductive AssetType where
  | vectorial
  | raster
  | asset
deriving DecidableEq

inductive AssetKind where
  | physical
  | virtual
deriving DecidableEq

inductive AssetStatus where
  | pending
  | active
  | failed
  | deleted
deriving DecidableEq

structure Asset where
  key : AssetKey
  assetType : AssetType
  kind : AssetKind
  status : AssetStatus
  filename : Option String
  href : Option String
  uri : Option String
  contentHash : Option String
  sizeBytes : Option Nat
  createdAt : Int
  updatedAt : Option Int
  metadata : Document
  ownedBy : Option String

def Asset.live (asset : Asset) : Bool :=
  asset.status ≠ .deleted

abbrev AssetTable := Table Asset Asset.key

/-- A reference of an entity to the assets of one id, in whatever collection they are. -/
structure AssetReference where
  catalogId : String
  assetId : String
  refType : String
  refId : String
  cascadeDelete : Bool
  createdAt : Int
  validUntil : Option Int

structure Tenant where
  assets : AssetTable
  references : List AssetReference

/-! ## Constraints -/

def Asset.identified (asset : Asset) : Bool :=
  match asset.kind with
  | .physical => asset.filename.isSome
  | .virtual => asset.href.isSome

/-- Two rows that one of the partial unique indexes refuses beside each other. Rows without
a collection are distinct for them, as any row is with a NULL among the columns. -/
def Asset.collides (left right : Asset) : Bool :=
  left.live && right.live && left.key.catalogId = right.key.catalogId &&
    left.key.collectionId.isSome && left.key.collectionId = right.key.collectionId &&
    match left.kind, right.kind with
    | .physical, .physical => left.filename.isSome && left.filename = right.filename
    | .virtual, .virtual => left.href.isSome && left.href = right.href
    | _, _ => false

/-- The row violates no constraint once it replaces the one of its key. -/
def accepts (assets : AssetTable) (row : Asset) : Bool :=
  row.identified && assets.rows.all fun other => other.key = row.key || !row.collides other

/-! ## Merge patches -/

def assign (result : Document) (key : String) (value : Value) : Document :=
  if result.any (·.1 = key) then
    result.map fun entry => if entry.1 = key then (key, value) else entry
  else result ++ [(key, value)]

def pop (result : Document) (key : String) : Document :=
  result.filter (·.1 ≠ key)

def entriesOf : Value → Document
  | .dict entries => entries
  | _ => []

mutual

def mergePatch (target : Value) : Value → Value
  | .dict entries => .dict (mergeEntries (entriesOf target) entries)
  | patch => patch

def mergeEntries (result : Document) : List (String × Value) → Document
  | [] => result
  | (key, .null) :: rest => mergeEntries (pop result key) rest
  | (key, value) :: rest =>
    mergeEntries (assign result key (mergePatch (result.get key) value)) rest

end

end Dynastore.Assets
