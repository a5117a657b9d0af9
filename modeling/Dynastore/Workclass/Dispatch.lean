import Dynastore.Workclass.Storage

/-! `IndexDispatcher.fan_out_bulk`: the operations of one call go to every indexer in the `INDEX`
lane of the routing config of their tier, as rows of the storage outbox. The row keeps the driver,
the scope and the id of the entity; its `entity_kind` is always the literal of the insert statement.
-/

namespace Dynastore.Workclass

open List

open Tasks (Time)

inductive Tier where
  | item
  | collection
  | catalog
  | asset
deriving DecidableEq, Repr

inductive Lane where
  | write
  | read
  | index
deriving DecidableEq, Repr

structure DriverEntry where
  driverRef : String
  inputTransformers : List String := []
deriving DecidableEq, Repr

abbrev Routing := List (Lane × List DriverEntry)

/-- `index_entries`: the entries of the `INDEX` lane, once per driver. -/
def indexEntries (operations : Routing) : List DriverEntry :=
  (Dict.firstBy (fun entry => some entry.driverRef)
    ((operations.lookup .index).getD [])).map Prod.snd

def Routing.refs (operations : Routing) : List String :=
  operations.flatMap fun lane => lane.2.map DriverEntry.driverRef

structure IndexContext where
  tier : Tier
  catalog : String
  collection : Option String := none
deriving DecidableEq, Repr

def IndexContext.collectionId (ctx : IndexContext) : String := ctx.collection.getD ""

structure IndexOp where
  opType : StorageOp
  entityId : String
  writeId : Option String := none
deriving DecidableEq, Repr

def IndexOp.batchId (op : IndexOp) : Option String := op.writeId.filter (· != "")

structure Dispatcher where
  /-- The routing config of a tier in a scope, none where the lookup raises. -/
  resolveRouting : Tier → String → Option String → Option Routing
  /-- The indexers registered in this process. -/
  registered : String → Bool
  /-- Whether the input transformers of the entry take the operation. -/
  transforms : DriverEntry → IndexOp → Bool
  /-- A task run that absorbs the writes of the catalog. -/
  absorbs : String → Bool
  /-- `_primary_supports_write_id_reads`. -/
  supportsWriteIds : String → Option String → Bool
  /-- There is a connection to enqueue on and the insert succeeds. -/
  durable : Bool
  /-- `generate_uuidv7` for the operation of an entry. -/
  newId : String → IndexOp → Nat
  today : Day
  now : Time

namespace Dispatcher

variable (dispatcher : Dispatcher)

def buildStoragePlaneRecords (driverId : String) (ctx : IndexContext) (ops : List IndexOp) :
    List WriteIdOutboxRecord × List OutboxRecord :=
  let batchId := fun op : IndexOp =>
    if dispatcher.supportsWriteIds ctx.catalog ctx.collection then op.batchId else none
  (ops.filterMap fun op => (batchId op).map fun writeId =>
      { opId := dispatcher.newId driverId op
        driverId := driverId
        collectionId := ctx.collectionId
        op := op.opType
        writeId := writeId
        idempotencyKey := writeId },
    (ops.filter fun op => (batchId op).isNone).map fun op =>
      { opId := dispatcher.newId driverId op
        driverId := driverId
        collectionId := ctx.collectionId
        op := op.opType
        itemId := some op.entityId
        idempotencyKey := op.entityId })

/-- The rows both `_enqueue_obligation` and `_enqueue_storage_plane_ids`
insert. -/
def enqueueRows (driverId : String) (ctx : IndexContext) (ops : List IndexOp) : List StorageRow :=
  if dispatcher.durable then
    let records := dispatcher.buildStoragePlaneRecords driverId ctx ops
    enqueueStorageOpWriteId dispatcher.today dispatcher.now ctx.catalog records.1 ++
      enqueueStorageOpIdOnly dispatcher.today dispatcher.now ctx.catalog records.2
  else []

/-- `fan_out_bulk`: the rows it enqueues. Operations absorbed by a task run are
dispatched inline and leave no row. -/
def fanOutBulk (ctx : IndexContext) (ops : List IndexOp) : List StorageRow :=
  match dispatcher.resolveRouting ctx.tier ctx.catalog ctx.collection with
  | none => []
  | some routing =>
    (indexEntries routing).flatMap fun entry =>
      if !dispatcher.registered entry.driverRef then
        ops.flatMap fun op => dispatcher.enqueueRows entry.driverRef ctx [op]
      else
        let entryOps := ops.filter (dispatcher.transforms entry)
        if ctx.tier = .item then dispatcher.enqueueRows entry.driverRef ctx entryOps
        else if dispatcher.absorbs ctx.catalog then []
        else dispatcher.enqueueRows entry.driverRef ctx entryOps

/-! ## What a row carries -/

variable {dispatcher} {ctx : IndexContext} {ops : List IndexOp} {row : StorageRow}

theorem of_mem_enqueueRows (mem : row ∈ dispatcher.enqueueRows driverId ctx ops) :
    row.driverId = driverId ∧ row.catalogId = ctx.catalog ∧
      row.collectionId = some ctx.collectionId ∧
      (writeIdOf row ≠ none ∨ (writeIdOf row = none ∧ ∃ op ∈ ops, row.entityId = some op.entityId ∧
          row.idempotencyKey = some op.entityId)) := by
  unfold enqueueRows at mem
  split at mem
  · rcases mem_append.mp mem with grouped | idOnly
    · obtain ⟨record, recordMem, rfl⟩ := mem_map.mp grouped
      obtain ⟨entry, entryMem, rfl⟩ := mem_map.mp recordMem
      obtain ⟨original, originalMem, rfl⟩ := Dict.mem_of_mem_collect entryMem
      obtain ⟨op, _, named⟩ := mem_filterMap.mp originalMem
      obtain ⟨writeId, found, rfl⟩ := Option.map_eq_some_iff.mp named
      have nonempty : writeId ≠ "" := by
        split at found
        · simpa using (Option.filter_eq_some_iff.mp found).2
        · cases found
      simp [writeIdOf, WriteIdOutboxRecord.row, nonempty]
    · obtain ⟨_, recordMem, rfl⟩ := mem_map.mp idOnly
      obtain ⟨_, entryMem, rfl⟩ := mem_map.mp recordMem
      obtain ⟨_, originalMem, rfl⟩ := Dict.mem_of_mem_collect entryMem
      obtain ⟨op, opMem, rfl⟩ := mem_map.mp originalMem
      exact ⟨rfl, rfl, rfl, .inr ⟨rfl, op, (mem_filter.mp opMem).1, rfl, rfl⟩⟩
  · cases mem

theorem exists_enqueueRows (mem : row ∈ dispatcher.fanOutBulk ctx ops) :
    ∃ driverRef kept, kept ⊆ ops ∧ row ∈ dispatcher.enqueueRows driverRef ctx kept := by
  unfold fanOutBulk at mem
  split at mem
  · cases mem
  · obtain ⟨entry, _, inEntry⟩ := mem_flatMap.mp mem
    split at inEntry
    · obtain ⟨op, opMem, inOp⟩ := mem_flatMap.mp inEntry
      exact ⟨entry.driverRef, [op], by simpa using opMem, inOp⟩
    · split at inEntry
      · exact ⟨entry.driverRef, _, filter_sublist.subset, inEntry⟩
      · split at inEntry
        · cases inEntry
        · exact ⟨entry.driverRef, _, filter_sublist.subset, inEntry⟩

theorem of_mem_fanOutBulk (mem : row ∈ dispatcher.fanOutBulk ctx ops) :
    row.catalogId = ctx.catalog ∧ row.collectionId = some ctx.collectionId ∧ (writeIdOf row ≠ none ∨
        (writeIdOf row = none ∧ ∃ op ∈ ops, row.entityId = some op.entityId ∧
          row.idempotencyKey = some op.entityId)) := by
  obtain ⟨_, _, subset, enqueued⟩ := exists_enqueueRows mem
  obtain ⟨_, catalog, collection, carried⟩ := of_mem_enqueueRows enqueued
  refine ⟨catalog, collection, carried.imp_right ?_⟩
  rintro ⟨idOnly, op, opMem, named⟩
  exact ⟨idOnly, op, subset opMem, named⟩

end Dispatcher

end Dynastore.Workclass
