import Dynastore.Foundation.Dict
import Dynastore.Foundation.Ledger
import Dynastore.Tasks.Task

/-! Rows of `tasks.storage`, the two inserts of `storage_emit.py` and the claim and outcome
statements of `storage_drain_task.py`. A row without a payload stands for one entity (`entity_id`)
or for one primary write batch (`write_id`). -/

namespace Dynastore.Workclass

open Tasks (Time)

/-- A `DATE`, counted in days. -/
abbrev Day := Int

/-- `make_interval(secs => count)` in the unit of `Time`. -/
def seconds (count : Int) : Int := count * 1000000

def backoffSeconds : List Int := [1, 5, 30, 5 * 60, 30 * 60]

def backoff (attempts : Nat) : Int :=
  backoffSeconds.getD (min attempts (backoffSeconds.length - 1)) 0

inductive StorageOp where
  | upsert
  | delete
deriving DecidableEq, Repr

inductive StorageStatus where
  | ready
  | inFlight
  | done
  | dead
deriving DecidableEq, Repr

structure StorageRow where
  opId : Nat
  day : Day
  catalogId : String
  driverId : String
  collectionId : Option String := none
  entityKind : String := "item"
  entityId : Option String := none
  op : StorageOp
  status : StorageStatus := .ready
  readyAt : Time
  writeId : Option String := none
  idempotencyKey : Option String := none
  claimVersion : Nat := 0
  claimedBy : Option String := none
  claimedAt : Option Time := none
  attempts : Nat := 0
  createdAt : Time
  finishedAt : Option Time := none
deriving DecidableEq, Repr

def StorageRow.key (row : StorageRow) : Day × Nat := (row.day, row.opId)

abbrev StorageTable := Table StorageRow StorageRow.key

abbrev StorageLedger := Ledger StorageRow StorageRow.key

abbrev StorageStatement := Update StorageRow StorageRow.key

/-! ## Enqueue -/

/-- An id-only obligation. -/
structure OutboxRecord where
  opId : Nat
  driverId : String
  collectionId : String
  op : StorageOp
  itemId : Option String
  idempotencyKey : String
deriving DecidableEq, Repr

structure WriteIdOutboxRecord where
  opId : Nat
  driverId : String
  collectionId : String
  op : StorageOp
  writeId : String
  idempotencyKey : String
deriving DecidableEq, Repr

/-- The row `_enqueue_storage_id_only` inserts; `entity_kind` is the literal
`'item'` of the statement. -/
def OutboxRecord.row (today : Day) (now : Time) (catalogId : String) (record : OutboxRecord) :
    StorageRow :=
  { opId := record.opId
    day := today
    catalogId := catalogId
    driverId := record.driverId
    collectionId := some record.collectionId
    entityKind := "item"
    entityId := record.itemId
    op := record.op
    idempotencyKey := some record.idempotencyKey
    readyAt := now
    createdAt := now }

def WriteIdOutboxRecord.row (today : Day) (now : Time) (catalogId : String)
    (record : WriteIdOutboxRecord) : StorageRow :=
  { opId := record.opId
    day := today
    catalogId := catalogId
    driverId := record.driverId
    collectionId := some record.collectionId
    entityKind := "item"
    entityId := none
    op := record.op
    writeId := some record.writeId
    idempotencyKey := some record.idempotencyKey
    readyAt := now
    createdAt := now }

def coalesceIdOnlyRows (rows : List OutboxRecord) : List OutboxRecord :=
  (Dict.collect (fun record => (record.driverId, record.collectionId, record.itemId)) id
    rows).map Prod.snd

def coalesceWriteIdRows (rows : List WriteIdOutboxRecord) : List WriteIdOutboxRecord :=
  (Dict.collect (fun record =>
    (record.driverId, record.collectionId, record.op, record.writeId)) id rows).map Prod.snd

def enqueueStorageOpIdOnly (today : Day) (now : Time) (catalogId : String)
    (rows : List OutboxRecord) : List StorageRow :=
  (coalesceIdOnlyRows rows).map (OutboxRecord.row today now catalogId)

def enqueueStorageOpWriteId (today : Day) (now : Time) (catalogId : String)
    (rows : List WriteIdOutboxRecord) : List StorageRow :=
  (coalesceWriteIdRows rows).map (WriteIdOutboxRecord.row today now catalogId)

variable {now : Time}

theorem status_of_enqueueIdOnly (mem : row ∈ enqueueStorageOpIdOnly today now catalogId records) :
    row.status = .ready := by
  obtain ⟨_, _, rfl⟩ := List.mem_map.mp mem
  rfl

theorem status_of_enqueueWriteId (mem : row ∈ enqueueStorageOpWriteId today now catalogId records) :
    row.status = .ready := by
  obtain ⟨_, _, rfl⟩ := List.mem_map.mp mem
  rfl

def StorageRow.obligation (row : StorageRow) : String × String × Option String × Option String ×
    StorageOp × Option String × Option String :=
  (row.driverId, row.catalogId, row.collectionId, row.entityId, row.op, row.writeId,
    row.idempotencyKey)

def writeIdOf (row : StorageRow) : Option String := row.writeId.filter (· != "")

/-! ## Claim and outcomes -/

namespace StorageRow

def claimable (now : Time) (leaseSeconds : Int) (row : StorageRow) : Bool :=
  (row.status == .ready && decide (row.readyAt ≤ now)) || (row.status == .inFlight &&
      row.claimedAt.any fun claimedAt => decide (claimedAt < now - seconds leaseSeconds))

def order (left right : StorageRow) : Prop :=
  left.readyAt < right.readyAt ∨ (left.readyAt = right.readyAt ∧ left.opId ≤ right.opId)
deriving Decidable

/-- The `WHERE` clause of every outcome write: the claim is still the row's. -/
def heldBy (claim : StorageRow) (ownerId : String) (row : StorageRow) : Bool :=
  row.day == claim.day && row.opId == claim.opId && row.claimedBy == some ownerId &&
    row.claimVersion == claim.claimVersion

theorem key_of_heldBy {claim row : StorageRow} (held : claim.heldBy ownerId row) :
    row.key = claim.key ∧ row.claimVersion = claim.claimVersion := by
  simp only [heldBy, Bool.and_eq_true, beq_iff_eq] at held
  exact ⟨Prod.ext held.1.1.1 held.1.1.2, held.2⟩

end StorageRow

def claimBatch (ownerId : String) (leaseSeconds : Int) (batchSize : Nat) (now : Time)
    (lockedRows : List (Day × Nat)) (table : StorageTable) : StorageStatement where
  guard row :=
    ((table.picked (StorageRow.claimable now leaseSeconds) StorageRow.order batchSize
      lockedRows).map StorageRow.key).contains row.key
  assign row :=
    { row with
      status := .inFlight
      claimedAt := some now
      claimedBy := some ownerId
      claimVersion := row.claimVersion + 1 }

def markDone (claim : StorageRow) (ownerId : String) (now : Time) : StorageStatement where
  guard := claim.heldBy ownerId
  assign row := { row with status := .done, finishedAt := some now }

/-- `_mark_retry`. The backoff is the one of the attempts the claim saw. -/
def markRetry (claim : StorageRow) (ownerId : String) (now : Time) : StorageStatement where
  guard := claim.heldBy ownerId
  assign row :=
    { row with
      status := .ready
      attempts := row.attempts + 1
      claimedBy := none
      claimedAt := none
      readyAt := now + seconds (backoff claim.attempts) }

def markDead (claim : StorageRow) (ownerId : String) (now : Time) : StorageStatement where
  guard := claim.heldBy ownerId
  assign row := { row with status := .dead, finishedAt := some now }

inductive StorageOutcome where
  | done
  | retry
  | dead
deriving DecidableEq, Repr

def StorageOutcome.statement : StorageOutcome → StorageRow → String → Time → StorageStatement
  | .done => markDone
  | .retry => markRetry
  | .dead => markDead

namespace StorageOutcome

theorem guard_statement (outcome : StorageOutcome) :
    (outcome.statement claim ownerId now).guard = claim.heldBy ownerId := by
  cases outcome <;> rfl

theorem claimVersion_statement (outcome : StorageOutcome) (row : StorageRow) :
    ((outcome.statement claim ownerId now).assign row).claimVersion = row.claimVersion := by
  cases outcome <;> rfl

end StorageOutcome

end Dynastore.Workclass
