import Dynastore.Assets.Driver
import Dynastore.Foundation.Cache
import Dynastore.Foundation.Execution
import Dynastore.Foundation.Pool

/-! `AssetService` over the driver, with the cache that its reads without a connection share, on a
local backend. An entry of the cache is looked up by the ids alone; the model records beside it who
the reader was that filled it. The calls run interleaved. Reads that miss at the same time wait for
one rebuild, which runs in the context of the call that started it, and a write commits before its
call invalidates. -/

namespace Dynastore.Assets

/-- A document in the cache, and the request in whose context the driver returned it. -/
structure CachedRead where
  document : Option Asset
  reader : Request

/-- A call of `get_asset` that found no fresh entry, with the stale one if there was one; it has
joined once it waits for the rebuild. -/
structure PendingRead where
  key : AssetKey
  request : Request
  candidate : Option CachedRead
  joined : Bool

/-- A task of `_inflight_rebuilds`, with the document once its query has returned. -/
structure SharedRebuild where
  reader : Request
  document : Option (Option Asset)

/-- `invalidations` has the entries that the calls whose write has committed are going to drop. -/
structure State where
  database : Database
  cache : Cache AssetKey CachedRead
  reads : Pool PendingRead
  rebuilds : AssetKey → Option SharedRebuild
  invalidations : Pool (List AssetKey)

/-- The circumstances of one call: the context it is made in, whether it hands over a
connection, and the clock in milliseconds. -/
structure Call where
  request : Request
  connected : Bool
  now : Int

/-- What a write leaves in the database, and the entries to be dropped after it. -/
structure Written where
  database : Database
  stale : List AssetKey

def staleGrace : Int := 300000

structure AssetCreate where
  assetId : String
  assetType : AssetType := .asset
  kind : AssetKind := .physical
  filename : Option String := none
  href : Option String := none
  uri : Option String := none
  metadata : Document := []
  ownedBy : Option String := none

/-- What a storage backend reports of an upload that has landed. -/
structure Upload where
  uri : String
  ownedBy : String
  ticketId : Option String
  assetId : Option String
  sizeBytes : Option Nat
  contentHash : Option String

namespace Surroundings

variable (env : Surroundings)

def resolveExternalIds (catalogId : String) (collectionId : Option String) :
    String × Option String :=
  let internal := (env.resolveCatalogId catalogId).getD catalogId
  (internal, collectionId.map fun external =>
    (env.resolveCollectionId internal external).getD external)

def keyOf (catalogId assetId : String) (collectionId : Option String) : AssetKey :=
  let ids := env.resolveExternalIds catalogId collectionId
  ⟨ids.1, ids.2, assetId⟩

def rowTicketId (row : Asset) : Option String :=
  match row.metadata.get "_upload" with
  | .dict upload =>
    match Document.get upload "ticket_id" with
    | .null => none
    | ticket => some (env.py.str ticket)
  | _ => none

/-! ## Writes -/

variable (database : Database) (call : Call)

def createAsset (catalogId : String) (asset : AssetCreate) (collectionId : Option String) :
    Except AssetError (Asset × Written) :=
  let ids := env.resolveExternalIds catalogId collectionId
  let document : Asset :=
    { key := ⟨ids.1, ids.2, asset.assetId⟩
      assetType := asset.assetType
      kind := asset.kind
      status := .active
      filename := asset.filename
      href := asset.href
      uri := asset.uri
      contentHash := none
      sizeBytes := none
      createdAt := call.now
      updatedAt := none
      metadata := asset.metadata
      ownedBy := asset.ownedBy }
  match env.indexAsset database ids.1 document call.now with
  | .error error => .error error
  | .ok indexed =>
    let created := (env.driverGet indexed call.request document.key).getD document
    .ok (created, ⟨indexed, [⟨ids.1, ids.2, created.key.assetId⟩]⟩)

/-- The common end of an update and a patch: write the document that was read back with new
metadata. -/
def saveMetadata (ids : String × Option String) (assetId : String) (current : Asset)
    (metadata : Document) : Except AssetError (Asset × Written) :=
  let document :=
    { current with
      key := { current.key with collectionId := ids.2 }
      metadata
      updatedAt := some call.now }
  match env.indexAsset database ids.1 document call.now with
  | .error error => .error error
  | .ok indexed =>
    let updated := (env.driverGet indexed call.request ⟨ids.1, ids.2, assetId⟩).getD document
    .ok (updated, ⟨indexed, [⟨ids.1, ids.2, updated.key.assetId⟩]⟩)

/-- `update_asset` from where its `get_asset` has returned `current`. -/
def updateAsset (catalogId assetId : String) (metadata : Document) (collectionId : Option String)
    (current : Option Asset) : Except AssetError (Asset × Written) :=
  let ids := env.resolveExternalIds catalogId collectionId
  match current with
  | none => .error (.assetNotFound assetId ids.1)
  | some current => env.saveMetadata database call ids assetId current metadata

/-- `patch_asset` from where its `get_asset` has returned `current`. -/
def patchAsset (catalogId assetId : String) (metadata : Option Document)
    (collectionId : Option String) (current : Option Asset) : Except AssetError (Asset × Written) :=
  let ids := env.resolveExternalIds catalogId collectionId
  match current, metadata with
  | none, _ => .error (.assetNotFound assetId ids.1)
  | some current, none => .ok (current, ⟨database, []⟩)
  | some current, some patch =>
    env.saveMetadata database call ids assetId current
      (entriesOf (mergePatch (.dict current.metadata) (.dict patch)))

def activation (key : AssetKey) (upload : Upload) (now : Int) : Update Asset Asset.key where
  guard row := row.key = key
  assign row :=
    { row with
      status := .active
      uri := some upload.uri
      ownedBy := some upload.ownedBy
      contentHash := upload.contentHash
      sizeBytes := upload.sizeBytes
      metadata := pop row.metadata "_upload"
      updatedAt := some now }

def pendingRow (assets : AssetTable) (catalogId : String) (upload : Upload)
    (collectionId : Option String) : Option Asset :=
  let rows := (assets.rows.filter fun row =>
    row.key.catalogId = catalogId && row.key.collectionId = collectionId &&
      row.kind = .physical && row.status = .pending).insertionSort
        fun left right => left.createdAt ≤ right.createdAt
  let byTicket := upload.ticketId.bind fun ticket =>
    rows.find? fun row => env.rowTicketId row = some ticket
  let byId := upload.assetId.bind fun assetId => rows.find? (·.key.assetId = assetId)
  byTicket.or byId

def finalizePendingUpload (catalogId : String) (upload : Upload)
    (collectionId : Option String) : Except AssetError (Option Asset × Written) :=
  match env.resolvePhysicalSchema catalogId with
  | none => .ok (none, ⟨database, []⟩)
  | some schema =>
    let tenant := database schema
    match env.pendingRow tenant.assets catalogId upload collectionId with
    | none => .ok (none, ⟨database, []⟩)
    | some chosen =>
      let key : AssetKey := ⟨catalogId, collectionId, chosen.key.assetId⟩
      let activated := Function.update database schema
        { tenant with assets := tenant.assets.execute (activation key upload call.now) }
      .ok (env.driverGet activated call.request
          (env.keyOf catalogId chosen.key.assetId collectionId), ⟨activated, [key]⟩)

def deleteAssets (catalogId : String) (assetId : Option String) (collectionId : Option String)
    (hard : Bool) : Except AssetError (Nat × Written) :=
  let ids := env.resolveExternalIds catalogId collectionId
  match env.deleteAssetsBulk database ⟨ids.1, assetId, ids.2⟩ hard call.now with
  | .error (first, rest) =>
    .error (.referenced first.assetId ((first :: rest).filter (·.assetId = first.assetId)))
  | .ok (rows, deleted) => .ok (rows.length, ⟨deleted, rows.map (·.key)⟩)

end Surroundings

/-! ## Runs -/

inductive Operation where
  /-- A call that is answered at once, or waits under its id. -/
  | get (id : Nat) (call : Call) (catalogId assetId : String) (collectionId : Option String)
  /-- The call waits for the rebuild in flight, or starts one. -/
  | join (id : Nat)
  /-- The rebuild has its turn: it looks into the cache again, or reads the database. -/
  | query (key : AssetKey) (now : Int)
  /-- The rebuild stores what it has read, and the calls that wait for it return it. -/
  | store (key : AssetKey) (now ttl : Int)
  /-- The rebuild raises; a stale entry absorbs that. -/
  | fail (key : AssetKey)
  | timeout (id : Nat)
  | cancel (id : Nat)
  | create (id : Nat) (call : Call) (catalogId : String) (asset : AssetCreate)
      (collectionId : Option String)
  | update (id : Nat) (call : Call) (catalogId assetId : String) (metadata : Document)
      (collectionId : Option String) (current : Option Asset)
      (own : ∀ asset ∈ current, asset.key.assetId = assetId)
  | patch (id : Nat) (call : Call) (catalogId assetId : String) (metadata : Option Document)
      (collectionId : Option String) (current : Option Asset)
      (own : ∀ asset ∈ current, asset.key.assetId = assetId)
  | finalize (id : Nat) (call : Call) (catalogId : String) (upload : Upload)
      (collectionId : Option String)
  | delete (id : Nat) (call : Call) (catalogId : String) (assetId collectionId : Option String)
      (hard : Bool)
  | invalidate (id : Nat)
  /-- A write that no invalidation follows: of another component, of another process, or of
  a call that raises in between. -/
  | write (statement : Database → Database)
  /-- Entries that the cache gives up for its size or its clock. -/
  | evict (keys : AssetKey → Bool)

namespace State

variable (env : Surroundings) (state : State)

def getAsset (id : Nat) (call : Call) (key : AssetKey) : State :=
  if call.connected || (state.cache.hit call.now key).isSome || (state.reads id).isSome then state
  else
    let candidate := state.cache.lookup staleGrace call.now key
    { state with reads := state.reads.put id ⟨key, call.request, candidate, false⟩ }

def join (id : Nat) : State :=
  match state.reads id with
  | some ⟨key, request, candidate, false⟩ =>
    { state with
      reads := state.reads.put id ⟨key, request, candidate, true⟩
      rebuilds := Function.update state.rebuilds key
        (some ((state.rebuilds key).getD ⟨request, none⟩)) }
  | _ => state

/-- The rebuild has ended, and with it the calls that wait for it. -/
def settle (key : AssetKey) : State :=
  { state with
    reads := fun id => (state.reads id).filter fun read => !(read.joined && read.key = key)
    rebuilds := Function.update state.rebuilds key none }

def query (key : AssetKey) (now : Int) : State :=
  match state.rebuilds key with
  | some ⟨reader, none⟩ =>
    if (state.cache.hit now key).isSome then state.settle key
    else
      { state with
        rebuilds := Function.update state.rebuilds key
          (some ⟨reader, some (env.driverGet state.database reader key)⟩) }
  | _ => state

def store (key : AssetKey) (now ttl : Int) : State :=
  match state.rebuilds key with
  | some ⟨reader, some document⟩ =>
    { state with cache := state.cache.store key ⟨⟨document, reader⟩, now, ttl⟩ }.settle key
  | _ => state

def commit (id : Nat) : Except AssetError (Result × Written) → State
  | .error _ => state
  | .ok (_, written) =>
    if (state.invalidations id).isSome then state
    else
      { state with
        database := written.database
        invalidations := state.invalidations.put id written.stale }

def invalidate (id : Nat) : State :=
  match state.invalidations id with
  | some keys =>
    { state with
      cache := state.cache.drop (· ∈ keys)
      invalidations := state.invalidations.remove id }
  | none => state

def unread (database : Database) : State :=
  ⟨database, .empty, .empty, fun _ => none, .empty⟩

end State

def step (env : Surroundings) (state : State) : Operation → State
  | .get id call catalogId assetId collectionId =>
    state.getAsset id call (env.keyOf catalogId assetId collectionId)
  | .join id => state.join id
  | .query key now => state.query env key now
  | .store key now ttl => state.store key now ttl
  | .fail key => if (state.rebuilds key).isSome then state.settle key else state
  | .timeout id => { state with reads := state.reads.remove id }
  | .cancel id => { state with reads := state.reads.remove id }
  | .create id call catalogId asset collectionId =>
    state.commit id (env.createAsset state.database call catalogId asset collectionId)
  | .update id call catalogId assetId metadata collectionId current _ =>
    state.commit id
      (env.updateAsset state.database call catalogId assetId metadata collectionId current)
  | .patch id call catalogId assetId metadata collectionId current _ =>
    state.commit id
      (env.patchAsset state.database call catalogId assetId metadata collectionId current)
  | .finalize id call catalogId upload collectionId =>
    state.commit id (env.finalizePendingUpload state.database call catalogId upload collectionId)
  | .delete id call catalogId assetId collectionId hard =>
    state.commit id (env.deleteAssets state.database call catalogId assetId collectionId hard)
  | .invalidate id => state.invalidate id
  | .write statement => { state with database := statement state.database }
  | .evict keys => { state with cache := state.cache.drop (keys · = true) }

/-! ## Answers -/

/-- A call that waits for the rebuild of the key. -/
def State.Waits (state : State) (key : AssetKey) (request : Request)
    (candidate : Option CachedRead) : Prop :=
  ∃ id, state.reads id = some ⟨key, request, candidate, true⟩

/-- The operation has a call of `get_asset` made for this request return what was read. -/
def State.Gives (env : Surroundings) (state : State) (key : AssetKey) (request : Request)
    (read : CachedRead) : Operation → Prop
  | .get _ call catalogId assetId collectionId =>
    key = env.keyOf catalogId assetId collectionId ∧ request = call.request ∧
      if call.connected then read = ⟨env.driverGet state.database request key, request⟩
      else state.cache.hit call.now key = some read
  | .query other now => key = other ∧ (∃ reader, state.rebuilds key = some ⟨reader, none⟩) ∧
      state.cache.hit now key = some read ∧ ∃ candidate, state.Waits key request candidate
  | .store other _ _ => key = other ∧
      state.rebuilds key = some ⟨read.reader, some read.document⟩ ∧
      ∃ candidate, state.Waits key request candidate
  | .fail other => key = other ∧ (state.rebuilds key).isSome = true ∧
      state.Waits key request (some read)
  | .timeout id => state.reads id = some ⟨key, request, some read, true⟩
  | _ => False

end Dynastore.Assets
