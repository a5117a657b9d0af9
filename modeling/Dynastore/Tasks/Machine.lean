import Dynastore.Foundation.Execution
import Dynastore.Tasks.Statements

/-! Workers, dispatchers, the reaper and operators act on one table, one SQL statement at a time.
Creating a task takes two statements, the dedup check and the `INSERT`; a session that has passed
its check waits in `inflight` until its `INSERT` runs. -/

namespace Dynastore.Tasks

open List

structure World where
  table : TaskTable
  inflight : List (Nat × Creation) := []

inductive Op where
  | beginCreate (session : Nat) (creation : Creation)
  | insertCreated (session : Nat) (dbNow : Time)
  | claimNext (request : ClaimRequest) (clock : Clock) (lockedRows : List (Time × TaskId))
  | claimBatch (request : ClaimRequest) (clock : Clock) (batchSize : Nat)
      (lockedRows : List (Time × TaskId))
  | claimForExecution (clock : Clock) (taskId : TaskId) (schema ownerId : String)
      (visibilityTimeout : Int)
  | claimForDispatch (dbNow : Time) (taskId : TaskId) (ownerId : String) (lockedUntil : Time)
      (expectedOwner priorOwnerId : Option String)
  | heartbeatTasks (clock : Clock) (tasks : List (TaskId × Time)) (visibilityTimeout : Int)
  | heartbeatTaskIfActive (clock : Clock) (taskId : TaskId) (visibilityTimeout : Int)
      (createdAt : Option Time)
  | completeTask (ref : TaskRef) (finishedAt : Time) (outputs : Option String)
  | failTask (dbNow : Time) (ref : TaskRef) (finishedAt : Time) (errorMessage : String)
      (retry : Bool)
  | deadLetterTask (ref : TaskRef) (finishedAt : Time) (errorMessage : String)
  | resetTaskToPending (utcnow : Time) (taskId : TaskId) (backoff : Option Int)
  | updateTask (taskId : TaskId) (schema : String) (update : TaskUpdate)
  | reapStuckTasks (dbNow : Time) (hardCap : Int) (lockedRows : List (Time × TaskId))
  | requeueDeadLetterTask (taskId : TaskId) (resetRetries : Bool)
      (catalogId collectionId : Option String)
  | requeueDeadLetterTasksByType (taskType : String) (since : Option Time) (limit : Nat)
      (resetRetries : Bool) (inputsMatch : List (String × String))

def Op.statement (config : TasksConfig) (table : TaskTable) : Op → TaskStatement
  | .beginCreate .. | .insertCreated .. => .nothing
  | .claimNext request clock lockedRows =>
    Tasks.claimNext config request clock lockedRows table
  | .claimBatch request clock batchSize lockedRows =>
    Tasks.claimBatch config request clock batchSize lockedRows table
  | .claimForExecution clock taskId schema ownerId visibilityTimeout =>
    Tasks.claimForExecution clock taskId schema ownerId visibilityTimeout
  | .claimForDispatch dbNow taskId ownerId lockedUntil expectedOwner priorOwnerId =>
    Tasks.claimForDispatch dbNow taskId ownerId lockedUntil expectedOwner priorOwnerId
  | .heartbeatTasks clock tasks visibilityTimeout =>
    Tasks.heartbeatTasks clock tasks visibilityTimeout
  | .heartbeatTaskIfActive clock taskId visibilityTimeout createdAt =>
    Tasks.heartbeatTaskIfActive clock taskId visibilityTimeout createdAt
  | .completeTask ref finishedAt outputs => Tasks.completeTask ref finishedAt outputs
  | .failTask dbNow ref finishedAt errorMessage retry =>
    Tasks.failTask config dbNow ref finishedAt errorMessage retry
  | .deadLetterTask ref finishedAt errorMessage =>
    Tasks.deadLetterTask ref finishedAt errorMessage
  | .resetTaskToPending utcnow taskId backoff => Tasks.resetTaskToPending utcnow taskId backoff
  | .updateTask taskId schema update => Tasks.updateTask taskId schema update
  | .reapStuckTasks dbNow hardCap lockedRows =>
    Tasks.reapStuckTasks config dbNow hardCap lockedRows
  | .requeueDeadLetterTask taskId resetRetries catalogId collectionId =>
    Tasks.requeueDeadLetterTask config taskId resetRetries catalogId collectionId
  | .requeueDeadLetterTasksByType taskType since limit resetRetries inputsMatch =>
    Tasks.requeueDeadLetterTasksByType taskType since limit resetRetries inputsMatch table

def step (config : TasksConfig) (world : World) (op : Op) : World :=
  match op with
  | .beginCreate session creation =>
    -- a session runs one call at a time
    if (world.inflight.lookup session).isSome || dedupHit world.table creation then world
    else { world with inflight := (session, creation) :: world.inflight }
  | .insertCreated session dbNow =>
    match world.inflight.lookup session with
    | none => world
    | some creation =>
      { table := insertRow world.table (creation.row config dbNow)
        inflight := world.inflight.filter fun entry => entry.1 != session }
  | op => { world with table := world.table.execute (op.statement config world.table) }

variable {row : TaskRow} {table : TaskTable} {config : TasksConfig} {request : ClaimRequest}
  {clock : Clock} {lockedRows : List (Time × TaskId)}

theorem lookup_step (found : world.table.lookup key = some row) :
    (step config world op).table.lookup key =
      some ((op.statement config world.table).apply row) := by
  cases op with
  | beginCreate =>
    simp only [step, Op.statement, Update.apply_nothing]
    split <;> exact found
  | insertCreated =>
    simp only [step, Op.statement, Update.apply_nothing]
    split
    · exact found
    · rcases insertRow_cases with unchanged | inserted
      · rw [unchanged]
        exact found
      · exact Table.lookup_insert_of_some inserted found
  | _ => simp only [step, Table.lookup_execute, found, Option.map_some]

/-! ## What the selections of a statement contain -/

theorem mem_oldestFirst : row ∈ oldestFirst rows ↔ row ∈ rows :=
  mem_insertionSort _

theorem mem_of_key_contains {picked : List TaskRow}
    (fromTable : ∀ pick ∈ picked, pick ∈ table.rows) (mem : row ∈ table.rows)
    (contained : (picked.map TaskRow.key).contains row.key) : row ∈ picked := by
  rw [contains_iff_mem, mem_map] at contained
  rcases contained with ⟨pick, pickMem, sameKey⟩
  exact table.eq_of_key_eq (fromTable pick pickMem) mem sameKey ▸ pickMem

/-- `claim_next` selects a claimable row. -/
theorem claimable_of_claimNext (mem : row ∈ table.rows)
    (selected : (claimNext config request clock lockedRows table).guard row) :
    request.claimable config clock.utcnow row := by
  simp only [claimNext, Option.any_eq_true, beq_iff_eq] at selected
  rcases selected with ⟨_, picked, sameKey⟩
  have pickSkipped := (mem_oldestFirst).mp (mem_of_head? picked)
  have pickClaimable := mem_filter.mp (mem_filter.mp pickSkipped).1
  rw [← table.eq_of_key_eq pickClaimable.1 mem sameKey]
  exact pickClaimable.2

/-- `claim_batch` selects pending rows. -/
theorem pending_of_claimBatch {batchSize : Nat} (mem : row ∈ table.rows)
    (selected : (claimBatch config request clock batchSize lockedRows table).guard row) :
    row.status = .pending := by
  have pickedRow : ∀ pick ∈ claimBatchPick config request clock batchSize lockedRows table,
      pick ∈ table.rows ∧ pick.status = .pending := by
    intro pick pickMem
    have sorted := (mem_oldestFirst).mp (mem_of_mem_take pickMem)
    have kept := mem_filter.mp (mem_filter.mp sorted).1
    exact ⟨kept.1, by simpa using (Bool.and_eq_true_iff.mp kept.2).2⟩
  have inPick := mem_of_key_contains (fun pick pickMem => (pickedRow pick pickMem).1)
    mem selected
  exact (pickedRow row inPick).2

def Op.claimant : Op → Option String
  | .claimNext request _ _ => some request.ownerId
  | .claimBatch request _ _ _ => some request.ownerId
  | .claimForExecution _ _ _ ownerId _ => some ownerId
  | _ => none

/-- A claim selects no finished row. -/
theorem live_of_claim {op : Op} (claims : op.claimant.isSome) (mem : row ∈ table.rows)
    (selected : (op.statement config table).guard row) : row.status.terminal = false := by
  cases op with
  | claimNext =>
    have claimable := claimable_of_claimNext mem selected
    simp only [ClaimRequest.claimable, Bool.and_eq_true, beq_iff_eq] at claimable
    rw [claimable.1.1.1]
    rfl
  | claimBatch =>
    rw [pending_of_claimBatch mem selected]
    rfl
  | claimForExecution =>
    simp only [Op.statement, claimForExecution, Bool.and_eq_true, Bool.not_eq_true'] at selected
    exact selected.1.2
  | _ => cases claims

end Dynastore.Tasks
