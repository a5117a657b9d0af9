import Dynastore.Foundation.Pool
import Dynastore.Workclass.Effect
import Dynastore.Workclass.Hydration
import Dynastore.Workclass.WriteBatch

/-! One driver's index as it follows the hub rows of the items. Writers commit hub rows and then the
obligation for them. Drains claim obligations, read the hub again, send what they read to
Elasticsearch and mark the obligations by the answers. Each of these is a step of its own, of any
drain and in any order; a drain that dies takes no further step, and a call that fails may still
reach Elasticsearch later. -/

namespace Dynastore.Workclass

open Tasks (Time)

structure Setting (Content Address : Type) where
  driverId : String
  home : String → String × String
  buildCanonicalDoc : String → Content → Document
  driver : EsItemsDriver
  cluster : EsCluster Address

structure Stamp where
  opId : Nat
  day : Day
  now : Time

/-- A write-id batch in the hands of a drain: the operations not yet submitted. -/
structure WriteBatch where
  claim : StorageRow
  rest : List IndexableOp

structure World (Content Address : Type) where
  hub : Hub Content
  writeIds : List String
  /-- Obligations of writes whose hub rows are committed. -/
  owed : List StorageRow
  ledger : StorageLedger
  documents : EsDocuments Address
  /-- Rows read by a drain and not yet sent, with their documents. -/
  hydrated : Pool (StorageRow × Document)
  /-- Sub-chunks on their way, their drain waiting for the answer. -/
  requests : Pool SubChunk
  batches : Pool WriteBatch
  /-- Calls their drain has given up on and that have not arrived. -/
  strays : Pool (List IndexableOp)
  /-- Outcomes decided and not yet written. -/
  marks : List Mark

inductive Op (Content : Type) where
  | upsert (writeId catalogId collectionId : String) (items : List (String × Content))
      (grouped : Bool) (stamp : Stamp)
  | delete (writeId item : String) (stamp : Stamp)
  | enqueue (index : Nat)
  | sweep (item : String) (stamp : Stamp)
  | claimBatch (ownerId : String) (leaseSeconds : Int) (batchSize : Nat) (now : Time)
      (lockedRows : List (Day × Nat))
  | hydrate (slot number : Nat)
  | hydrateBatch (slot number : Nat)
  | giveUp (number : Nat)
  | send (slot : Nat) (slots : List Nat)
  | arrive (slot : Nat)
  | lose (slot : Nat)
  | arriveChunk (slot size : Nat)
  | loseChunk (slot size : Nat)
  | arriveStray (slot : Nat)
  | writeMark (index : Nat) (now : Time)

namespace Setting

variable {Content Address : Type} (setting : Setting Content Address)

def target (item : String) : BulkTarget where
  index := setting.driver.itemsIndexName (setting.home item).1
  id := item
  routing := setting.driver.collectionRouting (setting.home item).2

def indexed (item : String) (content : Content) : Document :=
  setting.driver.simplify (setting.home item).1 (setting.home item).2
    (setting.buildCanonicalDoc item content)

/-! ## Writers -/

def writeObligation (writeId catalogId collectionId : String) (op : StorageOp) (stamp : Stamp) :
    StorageRow :=
  WriteIdOutboxRecord.row stamp.day stamp.now catalogId
    { opId := stamp.opId
      driverId := setting.driverId
      collectionId := collectionId
      op := op
      writeId := writeId
      idempotencyKey := writeId }

def itemObligation (item : String) (op : StorageOp) (stamp : Stamp) : StorageRow :=
  OutboxRecord.row stamp.day stamp.now (setting.home item).1
    { opId := stamp.opId
      driverId := setting.driverId
      collectionId := (setting.home item).2
      op := op
      itemId := some item
      idempotencyKey := item }

def obligations (writeId catalogId collectionId : String) (items : List (String × Content))
    (grouped : Bool) (stamp : Stamp) : List StorageRow :=
  if grouped then [setting.writeObligation writeId catalogId collectionId .upsert stamp]
  else items.zipIdx.map fun entry =>
    setting.itemObligation entry.1.1 .upsert { stamp with opId := stamp.opId + entry.2 }

def writeHub (writeId : String) (items : List (String × Content)) (hub : Hub Content) :
    Hub Content :=
  items.foldl (fun hub entry =>
    hub.upsert { geoid := entry.1, content := entry.2, writeId := writeId, deleted := false }) hub

def freshWrite (world : World Content Address) (writeId catalogId collectionId : String)
    (items : List (String × Content)) : Bool :=
  writeId != "" && !world.writeIds.contains writeId &&
    items.all fun entry => setting.home entry.1 == (catalogId, collectionId)

def upsert (world : World Content Address) (writeId catalogId collectionId : String)
    (items : List (String × Content)) (grouped : Bool) (stamp : Stamp) : World Content Address :=
  if setting.freshWrite world writeId catalogId collectionId items then
    { world with
      hub := writeHub writeId items world.hub
      writeIds := writeId :: world.writeIds
      owed := setting.obligations writeId catalogId collectionId items grouped stamp ++ world.owed }
  else world

/-- `delete_item`: the tombstone keeps the content and takes the write id. -/
def delete (world : World Content Address) (writeId item : String) (stamp : Stamp) :
    World Content Address :=
  match world.hub.lookup item with
  | some row =>
    if !row.deleted && setting.freshWrite world writeId (setting.home item).1
        (setting.home item).2 [] then
      { world with
        hub := world.hub.upsert { row with writeId := writeId, deleted := true }
        writeIds := writeId :: world.writeIds
        owed := setting.writeObligation writeId (setting.home item).1 (setting.home item).2
          .delete stamp :: world.owed }
    else world
  | none => world

def enqueue (world : World Content Address) (index : Nat) : World Content Address :=
  match world.owed[index]? with
  | some row =>
    match world.ledger.table.insert row with
    | some _ =>
      { world with
        owed := world.owed.eraseIdx index
        ledger := world.ledger.insertAll [row] }
    | none => world
  | none => world

/-- `sweep_missing_obligations`: an id-only obligation for a hub row. -/
def sweep (world : World Content Address) (item : String) (stamp : Stamp) : World Content Address :=
  match world.hub.lookup item with
  | some row =>
    { world with
      ledger := world.ledger.insertAll
        [setting.itemObligation item (if row.deleted then .delete else .upsert) stamp] }
  | none => world

/-! ## Drains -/

/-- An id-only row is read again: a delete needs no read, an upsert without an
active hub row is done. -/
def hydrate (world : World Content Address) (slot : Nat) (claim : StorageRow) :
    World Content Address :=
  match claim.entityId.filter (· != ""), claim.op with
  | none, _ => { world with marks := (claim, .dead) :: world.marks }
  | some _, .delete => { world with hydrated := world.hydrated.put slot (claim, []) }
  | some item, .upsert =>
    match world.hub.active item with
    | some content =>
      { world with
        hydrated := world.hydrated.put slot (claim, setting.buildCanonicalDoc item content) }
    | none => { world with marks := (claim, .done) :: world.marks }

/-- `_read_primary_write_batch`: the active rows of a write, or its tombstones. -/
def readPrimaryWriteBatch (hub : Hub Content) (claim : StorageRow) (writeId : String) :
    List IndexableOp :=
  (hub.rows.filter fun row =>
    setting.home row.geoid == (claim.catalogId, claim.collectionId.getD "") &&
      row.writeId == writeId && row.deleted == (claim.op == .delete)).zipIdx.map fun entry =>
        { opId := entry.2
          op := claim.op
          catalogId := claim.catalogId
          collectionId := claim.collectionId.getD ""
          itemId := some entry.1.geoid
          payload := if claim.op = .delete then []
            else setting.buildCanonicalDoc entry.1.geoid entry.1.content
          idempotencyKey := entry.1.geoid }

def hydrateBatch (world : World Content Address) (slot : Nat) (claim : StorageRow)
    (writeId : String) : World Content Address :=
  match setting.readPrimaryWriteBatch world.hub claim writeId with
  | [] => { world with marks := (claim, .done) :: world.marks }
  | ops => { world with batches := world.batches.put slot { claim := claim, rest := ops } }

def gather (world : World Content Address) (slots : List Nat) : Option SubChunk :=
  let pending := slots.filterMap world.hydrated
  if distinct : (pending.map fun entry => entry.1.opId).Nodup then
    some { pending := pending, distinct := distinct }
  else none

section Calls

variable [DecidableEq Address]

/-- A chunk of a write-id batch reaches Elasticsearch and its answer is read. -/
def arriveChunk (world : World Content Address) (slot size : Nat) (batch : WriteBatch) :
    World Content Address :=
  let chunk := batch.rest.take size
  let called := setting.driver.indexBulk setting.cluster none world.documents chunk
  match flushWriteIdChunk chunk (.reported called.2), batch.rest.drop size with
  | none, [] =>
    { world with
      documents := called.1
      batches := world.batches.remove slot
      marks := (batch.claim, .done) :: world.marks }
  | none, rest =>
    { world with
      documents := called.1
      batches := world.batches.put slot { batch with rest := rest } }
  | some (action, _), _ =>
    { world with
      documents := called.1
      batches := world.batches.remove slot
      marks := (batch.claim, action) :: world.marks }

def arrive (world : World Content Address) (slot : Nat) (chunk : SubChunk) :
    World Content Address :=
  let called := setting.driver.indexBulk setting.cluster none world.documents chunk.ops
  { world with
    documents := called.1
    requests := world.requests.remove slot
    marks := applyOutcomes chunk.rows called.2 ++ world.marks }

def step (world : World Content Address) : Op Content → World Content Address
  | .upsert writeId catalogId collectionId items grouped stamp =>
    setting.upsert world writeId catalogId collectionId items grouped stamp
  | .delete writeId item stamp => setting.delete world writeId item stamp
  | .enqueue index => enqueue world index
  | .sweep item stamp => setting.sweep world item stamp
  | .claimBatch ownerId leaseSeconds batchSize now lockedRows =>
    { world with
      ledger := world.ledger.claim
        (claimBatch ownerId leaseSeconds batchSize now lockedRows world.ledger.table) }
  | .hydrate slot number =>
    match world.ledger.issued number with
    | some claim =>
      match writeIdOf claim with
      | some _ => world
      | none => setting.hydrate world slot claim
    | none => world
  | .hydrateBatch slot number =>
    match world.ledger.issued number with
    | some claim =>
      match writeIdOf claim with
      | some writeId => setting.hydrateBatch world slot claim writeId
      | none => world
    | none => world
  | .giveUp number =>
    match world.ledger.issued number with
    | some claim => { world with marks := (claim, .retry) :: world.marks }
    | none => world
  | .send slot slots =>
    match gather world slots with
    | some chunk =>
      { world with
        hydrated := slots.foldl Pool.remove world.hydrated
        requests := world.requests.put slot chunk }
    | none => world
  | .arrive slot =>
    match world.requests slot with
    | some chunk => setting.arrive world slot chunk
    | none => world
  | .lose slot =>
    match world.requests slot with
    | some chunk =>
      { world with
        requests := world.requests.remove slot
        strays := world.strays.put slot chunk.ops
        marks := (chunk.rows.map fun row => (row, .retry)) ++ world.marks }
    | none => world
  | .arriveChunk slot size =>
    match world.batches slot with
    | some batch => setting.arriveChunk world slot size batch
    | none => world
  | .loseChunk slot size =>
    match world.batches slot with
    | some batch =>
      { world with
        batches := world.batches.remove slot
        strays := world.strays.put slot (batch.rest.take size)
        marks := (batch.claim, .retry) :: world.marks }
    | none => world
  | .arriveStray slot =>
    match world.strays slot with
    | some ops =>
      { world with
        documents :=
          (setting.cluster.bulk world.documents (ops.map setting.driver.action)).1
        strays := world.strays.remove slot }
    | none => world
  | .writeMark index now =>
    match world.marks[index]? with
    | some (claim, outcome) =>
      { world with
        ledger := world.ledger.write (outcome.statement claim (claim.claimedBy.getD "") now)
        marks := world.marks.eraseIdx index }
    | none => world

end Calls

def initial : World Content Address where
  hub := Table.empty
  writeIds := []
  owed := []
  ledger := Ledger.empty
  documents := fun _ => none
  hydrated := Pool.empty
  requests := Pool.empty
  batches := Pool.empty
  strays := Pool.empty
  marks := []

end Setting

end Dynastore.Workclass
