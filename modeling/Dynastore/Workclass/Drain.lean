import Dynastore.Tools.AdaptiveChunk
import Dynastore.Workclass.Dispatch
import Dynastore.Workclass.Hydration
import Dynastore.Workclass.Replay
import Dynastore.Workclass.WriteBatch

/-! `StorageDrainTask.drain_once` on the rows it has claimed. The rows of a driver without an
indexer are dead-lettered or retried by the items routing config. The rows of the others are
hydrated and streamed to the indexer in sub-chunks bounded by a byte budget. -/

namespace Dynastore.Workclass

open Tasks (Time)

inductive RegisteredDriver where
  | itemsElasticsearch (available : Bool)
  | itemsElasticsearchEnvelope (available : Bool)
  | other
deriving DecidableEq, Repr

structure DrainProcess where
  collectionIndex : String → Option RegisteredDriver
  assetIndex : String → Option RegisteredDriver
  /-- The live routing configs, none where the read raises. -/
  routing : Tier → String → Option String → Option Routing
  maxAttempts : Nat := 200
  maxAgeSeconds : Nat := 7 * 24 * 60 * 60
  now : Time

/-- What becomes of a claimed row. Rows of a driver that is not resolved can be
dead for two reasons of their own. -/
inductive DrainOutcome where
  | settled (outcome : StorageOutcome)
  | driverUnregistered
  | unresolvableDriverExhausted
deriving DecidableEq, Repr

structure Drained where
  submissions : List Submission
  marks : List (StorageRow × DrainOutcome)

namespace DrainProcess

variable (process : DrainProcess)

/-- `_resolve_indexer`: only the two Elasticsearch items drivers have an
adapter. -/
def resolveIndexer (driverId : String) : Bool :=
  match (process.collectionIndex driverId).or (process.assetIndex driverId) with
  | some (.itemsElasticsearch available) => available
  | some (.itemsElasticsearchEnvelope available) => available
  | some .other => false
  | none => false

/-- `_resolve_routing_membership`: the drivers in any lane of the items routing
config of the collection. -/
def resolveRoutingMembership (catalogId collectionId : String) : Option (List String) :=
  if collectionId = "" then none
  else
    match process.routing .item catalogId (some collectionId) with
    | none => none
    | some routing => if routing.refs.isEmpty then none else some routing.refs

def unresolvableRowExhausted (row : StorageRow) : Bool :=
  (decide (0 < process.maxAttempts) && decide (process.maxAttempts ≤ row.attempts)) ||
    (decide (0 < process.maxAgeSeconds) &&
      decide (seconds process.maxAgeSeconds ≤ process.now - row.createdAt))

def handleUnresolvableRows (driverId : String) (driverRows : List StorageRow) :
    List (StorageRow × DrainOutcome) :=
  (Dict.group (fun row => (row.catalogId, row.collectionId.getD "")) driverRows).flatMap
    fun scope =>
      let unregistered :=
        (process.resolveRoutingMembership scope.1.1 scope.1.2).any fun membership =>
          !membership.contains driverId
      if unregistered then scope.2.map fun row => (row, .driverUnregistered)
      else scope.2.map fun row =>
        (row, if process.unresolvableRowExhausted row then .unresolvableDriverExhausted
          else .settled .retry)

end DrainProcess

/-! ## Streaming the rows of a driver -/

/-- What the drain of one driver meets: the hub, the answers of the indexer call
by call, and the byte estimates that cut the sub-chunks. -/
structure DrainCycle (Content : Type) where
  reads : DrainReads Content
  reply : Nat → IndexReply
  byteBudget : Nat
  estimateDocBytes : Document → Nat

/-- `flushed` has the rows of each sub-chunk beside the answer of the indexer. -/
structure Stream where
  pending : List (StorageRow × IndexableOp) := []
  pendingBytes : Nat := 0
  bytes : Nat := 0
  submissions : List Submission := []
  flushed : List (List StorageRow × IndexReply) := []
  marks : List Mark := []

def idOnlyReadProbeRows : Nat := 1

def idOnlyReadChunkRows : Nat := 50

namespace Stream

def mark (stream : Stream) (row : StorageRow) (outcome : StorageOutcome) : Stream :=
  { stream with marks := stream.marks ++ [(row, outcome)] }

end Stream

namespace DrainCycle

variable {Content : Type} (cycle : DrainCycle Content)

def flush (stream : Stream) : Stream :=
  match stream.pending with
  | [] => stream
  | pending =>
    let rows := pending.map Prod.fst
    let ops := pending.map Prod.snd
    let answer := cycle.reply stream.submissions.length
    { stream with
      pending := []
      pendingBytes := 0
      submissions := stream.submissions ++ [(ops, answer)]
      flushed := stream.flushed ++ [(rows, answer)]
      marks := stream.marks ++
        match answer with
        | .raised _ => rows.map fun row => (row, .retry)
        | .reported result => applyOutcomes rows result }

def append (stream : Stream) (row : StorageRow) (op : IndexableOp) : Stream :=
  let docBytes := cycle.estimateDocBytes op.payload
  let appended :=
    { stream with
      pending := stream.pending ++ [(row, op)]
      pendingBytes := stream.pendingBytes + docBytes
      bytes := stream.bytes + docBytes }
  if cycle.byteBudget ≤ appended.pendingBytes then cycle.flush appended else appended

/-- The first pass over the rows: deletes are streamed, rows that name nothing
are dead, the others are left to the next passes. -/
def classify (stream : Stream) (row : StorageRow) : Stream :=
  match writeIdOf row, row.entityId.filter (· != ""), row.op with
  | some _, _, _ => stream
  | none, none, _ => stream.mark row .dead
  | none, some _, .upsert => stream
  | none, some _, .delete => cycle.append stream row (rowToOp row [])

def writeIdGroup (stream : Stream) (group : (String × String × StorageOp × String) × StorageRow) :
    Stream :=
  let ((catalogId, collectionId, op, writeId), ledgerRow) := group
  let settled := processWriteIdGroup cycle.byteBudget cycle.estimateDocBytes
    (fun call => cycle.reply (stream.submissions.length + call))
    (cycle.reads.readPrimaryWriteBatch catalogId collectionId op writeId)
  { stream with
    submissions := stream.submissions ++ settled.1
    marks := stream.marks ++ [(ledgerRow, settled.2.1)] }

def hydrateRow (inputs : String → Option Content) (stream : Stream) (row : StorageRow) : Stream :=
  match row.entityId.bind inputs with
  | none => stream.mark row .done
  | some content =>
    match cycle.reads.buildCanonicalDoc row.catalogId (row.collectionId.getD "") content with
    | .error _ => stream.mark row .retry
    | .ok doc => cycle.append stream row (rowToOp row doc)

/-- The adaptive read loop over an id-only group. Every chunk takes at least one
row, so as many rounds as there are rows suffice. -/
def readGroup (scope : String × String) : (rounds chunkRows : Nat) → Stream → List StorageRow →
    Stream
  | _, _, stream, [] => stream
  | 0, _, stream, _ => stream
  | rounds + 1, chunkRows, stream, row :: rows =>
    let rowChunk := (row :: rows).take chunkRows
    let rest := (row :: rows).drop chunkRows
    match cycle.reads.readCanonicalInputs scope.1 scope.2
        (rowChunk.filterMap StorageRow.entityId) with
    | .error _ =>
      readGroup scope rounds chunkRows
        (rowChunk.foldl (fun stream row => stream.mark row .retry) stream) rest
    | .ok inputs =>
      let hydrated := rowChunk.foldl (cycle.hydrateRow inputs) stream
      readGroup scope rounds
        (Tools.nextAdaptiveChunkRows (hydrated.bytes - stream.bytes) rowChunk.length
          cycle.byteBudget chunkRows idOnlyReadChunkRows) hydrated rest

def writeIdGroups (driverRows : List StorageRow) :
    List ((String × String × StorageOp × String) × StorageRow) :=
  Dict.collect (fun row =>
    (row.catalogId, row.collectionId.getD "", row.op, (writeIdOf row).getD "")) id
    (driverRows.filter fun row => (writeIdOf row).isSome)

def idOnlyGroups (driverRows : List StorageRow) : List ((String × String) × List StorageRow) :=
  Dict.group (fun row => (row.catalogId, row.collectionId.getD ""))
    (driverRows.filter fun row => (writeIdOf row).isNone &&
      (row.entityId.filter (· != "")).isSome && row.op == .upsert)

def processDriverRows (driverRows : List StorageRow) : Stream :=
  let classified := driverRows.foldl cycle.classify {}
  let grouped := (writeIdGroups driverRows).foldl cycle.writeIdGroup classified
  cycle.flush ((idOnlyGroups driverRows).foldl (fun stream group =>
    cycle.readGroup group.1 group.2.length (min idOnlyReadProbeRows idOnlyReadChunkRows) stream
      group.2) grouped)

end DrainCycle

def drainOnce {Content : Type} (process : DrainProcess) (cycle : String → DrainCycle Content)
    (rows : List StorageRow) : List (String × Drained) :=
  (Dict.group StorageRow.driverId rows).map fun driver =>
    (driver.1,
      if process.resolveIndexer driver.1 then
        let stream := (cycle driver.1).processDriverRows driver.2
        { submissions := stream.submissions
          marks := stream.marks.map fun mark => (mark.1, .settled mark.2) }
      else
        { submissions := []
          marks := process.handleUnresolvableRows driver.1 driver.2 })

end Dynastore.Workclass
