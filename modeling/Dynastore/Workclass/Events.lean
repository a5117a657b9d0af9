import Dynastore.Foundation.Value
import Dynastore.Workclass.Storage

/-! Rows of `tasks.events`, the insert of `events_emit.py`, the claim and outcome statements of
`event_drain_task.py` and the requeue statements of `maintenance.py`. -/

namespace Dynastore.Workclass

open Tasks (Time)

inductive EventStatus where
  | pending
  | processing
  | completed
  | deadLetter
deriving DecidableEq, Repr

structure EventRow where
  eventId : Nat
  day : Day
  shard : Nat
  catalogId : Option String := none
  scope : String := "platform"
  eventType : String
  status : EventStatus := .pending
  payload : Document := []
  claimVersion : Nat := 0
  ownerId : Option String := none
  lockedUntil : Option Time := none
  retryCount : Nat := 0
  maxRetries : Option Int := none
  errorMessage : Option String := none
  createdAt : Time
  processedAt : Option Time := none

def EventRow.content (row : EventRow) : String × Document := (row.eventType, row.payload)

def EventRow.key (row : EventRow) : Day × Nat := (row.day, row.eventId)

abbrev EventTable := Table EventRow EventRow.key

abbrev EventLedger := Ledger EventRow EventRow.key

abbrev EventStatement := Update EventRow EventRow.key

structure EventEmission where
  eventType : String
  scope : String
  catalogId : Option String
  payload : Document
  shard : Nat

def emitEventRow (today : Day) (now : Time) (eventId : Nat) (emission : EventEmission) : EventRow :=
  { eventId := eventId
    day := today
    shard := emission.shard
    catalogId := emission.catalogId
    scope := (if emission.scope = "" then "platform" else emission.scope).toLower
    eventType := emission.eventType
    payload := emission.payload
    createdAt := now }

/-! ## Claim and outcomes -/

namespace EventRow

def claimable (now : Time) (row : EventRow) : Bool :=
  (row.status == .pending || row.status == .processing) &&
    row.lockedUntil.all fun lockedUntil => decide (lockedUntil ≤ now)

def order (left right : EventRow) : Prop :=
  left.createdAt < right.createdAt ∨
    (left.createdAt = right.createdAt ∧ left.eventId ≤ right.eventId)
deriving Decidable

/-- The `WHERE` clause of every outcome write: the claim is still the row's. -/
def heldBy (claim : EventRow) (ownerId : String) (row : EventRow) : Bool :=
  row.day == claim.day && row.eventId == claim.eventId && row.ownerId == some ownerId &&
    row.claimVersion == claim.claimVersion

theorem key_of_heldBy {claim row : EventRow} {ownerId : String} (held : claim.heldBy ownerId row) :
    row.key = claim.key ∧ row.claimVersion = claim.claimVersion := by
  simp only [heldBy, Bool.and_eq_true, beq_iff_eq] at held
  exact ⟨Prod.ext held.1.1.1 held.1.1.2, held.2⟩

end EventRow

namespace Events

def claimBatch (ownerId : String) (leaseSeconds : Int) (batchSize : Nat) (now : Time)
    (lockedRows : List (Day × Nat)) (table : EventTable) : EventStatement where
  guard row :=
    ((table.picked (EventRow.claimable now) EventRow.order batchSize lockedRows).map
      EventRow.key).contains row.key
  assign row :=
    { row with
      status := .processing
      ownerId := some ownerId
      lockedUntil := some (now + seconds leaseSeconds)
      claimVersion := row.claimVersion + 1 }

/-- `_mark_done_many`: one statement for the delivered rows of a batch. -/
def markDoneMany (claims : List EventRow) (ownerId : String) (now : Time) : EventStatement where
  guard row := claims.any fun claim => claim.heldBy ownerId row
  assign row :=
    { row with
      status := .completed
      ownerId := none
      lockedUntil := none
      processedAt := some now }

def defaultMaxRetries : Int := 3

/-- `_mark_retry`. The cap and the backoff are those of the claimed row. -/
def markRetry (claim : EventRow) (ownerId : String) (error : String) (now : Time) :
    EventStatement where
  guard := claim.heldBy ownerId
  assign row :=
    let exhausted := decide (claim.maxRetries.getD defaultMaxRetries ≤ row.retryCount + 1)
    { row with
      status := if exhausted then .deadLetter else .pending
      retryCount := row.retryCount + 1
      errorMessage := some error
      ownerId := none
      lockedUntil := if exhausted then none else some (now + seconds (backoff claim.retryCount))
      processedAt := some now }

/-! ## Requeue -/

def requeueRow (resetRetries : Bool) (row : EventRow) : EventRow :=
  { row with
    status := .pending
    retryCount := if resetRetries then 0 else row.retryCount
    lockedUntil := none
    errorMessage := none
    ownerId := none
    processedAt := none }

def requeueDeadLetterEvent (eventId : Nat) (day : Day) (resetRetries : Bool) : EventStatement where
  guard row := row.day == day && row.eventId == eventId && row.status == .deadLetter
  assign := requeueRow resetRetries

def requeueDeadLetterEventsByType (eventType : String) (since : Option Time) (limit : Nat)
    (resetRetries : Bool) (table : EventTable) : EventStatement where
  guard row :=
    ((((table.rows.filter fun row => row.status == .deadLetter && row.eventType == eventType &&
      since.all fun bound => decide (bound ≤ row.createdAt)).insertionSort
        fun left right => right.createdAt ≤ left.createdAt).take limit).map
          EventRow.key).contains row.key
  assign := requeueRow resetRetries

end Events

end Dynastore.Workclass
