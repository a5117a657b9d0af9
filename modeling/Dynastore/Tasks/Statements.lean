import Dynastore.Tasks.Task

/-! Each function of `tasks_module.py` and `maintenance.py` that writes existing rows is the
statement it sends: its `WHERE` clause as a guard and its `SET` list as an assignment. A comparison
with `NULL` is not true, so an absent column value fails every guard that compares it. -/

namespace Dynastore.Tasks

/-- The process clock (`datetime.now`) and the database clock (`NOW()`). -/
structure Clock where
  utcnow : Time
  dbNow : Time

/-! ## Claims -/

structure ClaimRequest where
  asyncTaskTypes : List String
  syncTaskTypes : List String
  visibilityTimeout : Int
  ownerId : String

def ClaimRequest.modeFilter (request : ClaimRequest) (row : TaskRow) : Bool :=
  (row.executionMode == .asynchronous && request.asyncTaskTypes.contains row.taskType) ||
    (row.executionMode == .synchronous && request.syncTaskTypes.contains row.taskType)

def ClaimRequest.claimable (request : ClaimRequest) (config : TasksConfig) (now : Time)
    (row : TaskRow) : Bool :=
  row.status == .pending && decide (now - config.lookback ≤ row.timestamp) &&
    row.lockedUntil.all (fun locked => decide (locked ≤ now)) && request.modeFilter row

def oldestFirst (rows : List TaskRow) : List TaskRow :=
  rows.insertionSort fun left right => left.timestamp ≤ right.timestamp

def distinctOnCatalog : List TaskRow → List TaskRow
  | [] => []
  | row :: rest =>
    row :: (distinctOnCatalog rest).filter fun other => other.catalogId != row.catalogId

/-- `FOR UPDATE SKIP LOCKED`: `lockedRows` are the rows other transactions hold. -/
def skipLocked (lockedRows : List (Time × TaskId)) (rows : List TaskRow) : List TaskRow :=
  rows.filter fun row => !lockedRows.contains row.key

def claimRow (request : ClaimRequest) (clock : Clock) (row : TaskRow) : TaskRow :=
  { row with
    status := .active
    lockedUntil := some (clock.utcnow + request.visibilityTimeout)
    ownerId := some request.ownerId
    startedAt := row.startedAt.or (some clock.dbNow)
    lastHeartbeatAt := some clock.dbNow }

def claimNextPick (config : TasksConfig) (request : ClaimRequest) (clock : Clock)
    (lockedRows : List (Time × TaskId)) (table : TaskTable) : Option TaskRow :=
  (oldestFirst (skipLocked lockedRows
    (table.rows.filter (request.claimable config clock.utcnow)))).head?

def claimNext (config : TasksConfig) (request : ClaimRequest) (clock : Clock)
    (lockedRows : List (Time × TaskId)) (table : TaskTable) : TaskStatement where
  guard row := (claimNextPick config request clock lockedRows table).any fun pick =>
    pick.key == row.key
  assign := claimRow request clock

/-- The `locked` rows of `claim_batch`: the oldest claimable row of each
catalog below the retry cap, oldest first, up to the batch size. -/
def claimBatchPick (config : TasksConfig) (request : ClaimRequest) (clock : Clock)
    (batchSize : Nat) (lockedRows : List (Time × TaskId)) (table : TaskTable) : List TaskRow :=
  let candidates := distinctOnCatalog (oldestFirst (table.rows.filter fun row =>
    request.claimable config clock.utcnow row && decide (row.retryCount < config.hardRetryCap)))
  (oldestFirst (skipLocked lockedRows (table.rows.filter fun row =>
    (candidates.map TaskRow.key).contains row.key && row.status == .pending))).take batchSize

def claimBatch (config : TasksConfig) (request : ClaimRequest) (clock : Clock)
    (batchSize : Nat) (lockedRows : List (Time × TaskId)) (table : TaskTable) : TaskStatement where
  guard row :=
    ((claimBatchPick config request clock batchSize lockedRows table).map TaskRow.key).contains
      row.key
  assign row := { claimRow request clock row with errorMessage := none }

def claimForExecution (clock : Clock) (taskId : TaskId) (schema ownerId : String)
    (visibilityTimeout : Int) : TaskStatement where
  guard row :=
    row.taskId == taskId && row.catalogId == schema && !row.status.terminal &&
      !(row.status == .active &&
        row.lockedUntil.any (fun locked => decide (clock.dbNow < locked)) &&
        row.ownerId != some ownerId)
  assign row :=
    { row with
      status := .active
      ownerId := some ownerId
      lockedUntil := some (clock.utcnow + visibilityTimeout)
      startedAt := row.startedAt.or (some clock.dbNow)
      lastHeartbeatAt := some clock.dbNow }

/-- SQL `LIKE`: `%` is any run of characters, `_` one character and a
backslash quotes the next character. -/
def sqlLike : List Char → List Char → Bool
  | [], text => text.isEmpty
  | '%' :: pattern, text => text.tails.any (sqlLike pattern)
  | '_' :: pattern, text =>
    match text with
    | [] => false
    | _ :: rest => sqlLike pattern rest
  | '\\' :: quoted :: pattern, text =>
    match text with
    | [] => false
    | head :: rest => head == quoted && sqlLike pattern rest
  | char :: pattern, text =>
    match text with
    | [] => false
    | head :: rest => head == char && sqlLike pattern rest

def claimForDispatch (dbNow : Time) (taskId : TaskId) (ownerId : String) (lockedUntil : Time)
    (expectedOwner priorOwnerId : Option String) : TaskStatement where
  guard row :=
    row.taskId == taskId && row.status == .active &&
      match row.ownerId with
      | none => true
      | some owner =>
        expectedOwner.any (fun expected => sqlLike (expected.toList ++ ['%']) owner.toList) ||
          owner == ownerId || priorOwnerId == some owner
  assign row :=
    { row with
      ownerId := some ownerId
      lockedUntil := some lockedUntil
      lastHeartbeatAt := some dbNow
      startedAt := none }

/-! ## Heartbeats -/

def heartbeatTasks (clock : Clock) (tasks : List (TaskId × Time)) (visibilityTimeout : Int) :
    TaskStatement where
  guard row := tasks.contains (row.taskId, row.timestamp) && row.status == .active
  assign row :=
    { row with
      lockedUntil := some (clock.utcnow + visibilityTimeout)
      lastHeartbeatAt := some clock.dbNow }

def heartbeatTaskIfActive (clock : Clock) (taskId : TaskId) (visibilityTimeout : Int)
    (createdAt : Option Time) : TaskStatement where
  guard row :=
    row.taskId == taskId && createdAt.all (fun created => row.timestamp == created) &&
      row.status == .active
  assign row :=
    { row with
      lockedUntil := some (clock.utcnow + visibilityTimeout)
      lastHeartbeatAt := some clock.dbNow }

/-! ## Terminal writes -/

/-- The row a terminal write addresses, with its two optional guards. -/
structure TaskRef where
  taskId : TaskId
  ownerId : Option String := none
  createdAt : Option Time := none

def TaskRef.selects (ref : TaskRef) (row : TaskRow) : Bool :=
  row.taskId == ref.taskId && ref.createdAt.all (fun created => row.timestamp == created) &&
    ref.ownerId.all (fun owner => row.ownerId == some owner)

def completeTask (ref : TaskRef) (finishedAt : Time) (outputs : Option String) : TaskStatement where
  guard := ref.selects
  assign row :=
    { row with
      status := .completed
      progress := some 100
      finishedAt := some finishedAt
      outputs := outputs
      lockedUntil := none
      ownerId := none }

def TaskRow.retriesRemain (row : TaskRow) (hardCap : Int) : Bool :=
  row.retryCount + 1 < min row.maxRetries hardCap

/-- `POWER(2, n) || ' seconds'`, in microseconds. -/
def backoffMicroseconds (exponent : Int) : Int :=
  if 0 ≤ exponent then Int.pow 2 exponent.toNat * 1000000
  else 1000000 / Int.pow 2 (-exponent).toNat

/-- `fail_task`. A row that runs out of retries keeps its `owner_id`. -/
def failTask (config : TasksConfig) (dbNow : Time) (ref : TaskRef) (finishedAt : Time)
    (errorMessage : String) (retry : Bool) : TaskStatement where
  guard := ref.selects
  assign row :=
    if retry then
      { row with
        status := if row.retriesRemain config.hardRetryCap then .pending else .deadLetter
        errorMessage := some <|
          if config.hardRetryCap ≤ row.retryCount + 1 then
            errorMessage ++ " [hard retry cap " ++ toString config.hardRetryCap ++ " reached]"
          else errorMessage
        retryCount := row.retryCount + 1
        lockedUntil :=
          if row.retriesRemain config.hardRetryCap then
            some (dbNow + backoffMicroseconds (row.retryCount + 1))
          else none
        finishedAt :=
          if row.retriesRemain config.hardRetryCap then row.finishedAt else some finishedAt
        ownerId := if row.retriesRemain config.hardRetryCap then none else row.ownerId }
    else
      { row with
        status := .failed
        errorMessage := some errorMessage
        finishedAt := some finishedAt
        lockedUntil := none
        ownerId := none }
  keeps := by
    intro row
    cases retry <;> rfl

def deadLetterTask (ref : TaskRef) (finishedAt : Time) (errorMessage : String) : TaskStatement where
  guard := ref.selects
  assign row :=
    { row with
      status := .deadLetter
      errorMessage := some errorMessage
      finishedAt := some finishedAt
      lockedUntil := none
      ownerId := none }

def resetTaskToPending (utcnow : Time) (taskId : TaskId) (backoff : Option Int) :
    TaskStatement where
  guard row := row.taskId == taskId && row.status == .active
  assign row :=
    { row with
      status := .pending
      lockedUntil := backoff.map fun delay => utcnow + delay
      ownerId := none
      lastHeartbeatAt := none }

/-! ## Free-form updates -/

/-- `TaskUpdate`: `none` is an unset field, `some none` one set to `None`. -/
structure TaskUpdate where
  status : Option (Option TaskStatus) := none
  progress : Option (Option (Fin 101)) := none
  outputs : Option (Option String) := none
  errorMessage : Option (Option String) := none
  lockedUntil : Option (Option Time) := none
  lastHeartbeatAt : Option (Option Time) := none
  ownerId : Option (Option String) := none
  retryCount : Option (Option Int) := none
  dismissConfirmedAt : Option (Option Time) := none

/-- `status` and `retry_count` are `NOT NULL`: the statement raises. -/
def TaskUpdate.violatesNotNull (update : TaskUpdate) : Bool :=
  update.status == some none || update.retryCount == some none

def updateTask (taskId : TaskId) (schema : String) (update : TaskUpdate) : TaskStatement where
  guard row := row.taskId == taskId && row.catalogId == schema && !update.violatesNotNull
  assign row :=
    { row with
      status := (update.status.bind id).getD row.status
      progress := update.progress.elim row.progress fun value => value.map Fin.val
      outputs := update.outputs.getD row.outputs
      errorMessage := update.errorMessage.getD row.errorMessage
      lockedUntil := update.lockedUntil.getD row.lockedUntil
      lastHeartbeatAt := update.lastHeartbeatAt.getD row.lastHeartbeatAt
      ownerId := update.ownerId.getD row.ownerId
      retryCount := (update.retryCount.bind id).getD row.retryCount
      dismissConfirmedAt := update.dismissConfirmedAt.getD row.dismissConfirmedAt }

/-! ## The reaper -/

/-- `DRAIN_WORKCLASS_TASK_TYPES` get `DRAIN_RECLAIM_GRACE_SECONDS`. -/
def reclaimGrace (taskType : String) : Int :=
  if ["event_drain", "storage_drain", "storage_drain_offload"].contains taskType then
    600 * 1000000
  else 0

/-- The row's cap is reached. `max_retries` is `NOT NULL`, so
`p_max_retries` never stands in for it. -/
def TaskRow.reapsToDeadLetter (row : TaskRow) (hardCap : Int) : Bool :=
  min row.maxRetries hardCap ≤ row.retryCount + 1

def reapStuckTasks (config : TasksConfig) (dbNow : Time) (hardCap : Int)
    (lockedRows : List (Time × TaskId)) : TaskStatement where
  guard row :=
    (row.status == .active || row.status == .running) &&
      row.lockedUntil.any (fun locked => decide (locked < dbNow - reclaimGrace row.taskType)) &&
      !lockedRows.contains row.key
  assign row :=
    { row with
      status := if row.reapsToDeadLetter hardCap then .deadLetter else .pending
      retryCount := row.retryCount + 1
      ownerId := none
      lockedUntil := none
      lastHeartbeatAt := none
      finishedAt := if row.reapsToDeadLetter hardCap then some dbNow else none
      errorMessage := some <|
        if row.reapsToDeadLetter hardCap then
          if hardCap ≤ row.retryCount + 1 then
            "Reaped: hard retry cap (" ++ toString hardCap ++ ") reached"
          else "Reaped: max_retries (" ++ toString row.maxRetries ++ ") reached"
        else "Reaped by " ++ config.schema ++ ".reap_stuck_tasks (heartbeat expired)" }

/-! ## Dead-letter requeue -/

def requeueRow (resetRetries : Bool) (row : TaskRow) : TaskRow :=
  { row with
    status := .pending
    retryCount := if resetRetries then 0 else row.retryCount
    lockedUntil := none
    finishedAt := none
    errorMessage := none
    ownerId := none }

/-- `requeue_dead_letter_task`. The collection is ignored without a catalog. -/
def requeueDeadLetterTask (config : TasksConfig) (taskId : TaskId) (resetRetries : Bool)
    (catalogId collectionId : Option String) : TaskStatement where
  guard row :=
    row.taskId == taskId && row.status.requeueable &&
      catalogId.all (fun catalog => row.catalogId == catalog &&
        collectionId.all (fun collection => row.collectionId == some collection)) &&
      (resetRetries || decide (row.retryCount < config.hardRetryCap))
  assign := requeueRow resetRetries

/-- `ORDER BY finished_at DESC`, where PostgreSQL puts `NULL` first. -/
def finishedNoEarlier (left right : TaskRow) : Bool :=
  match left.finishedAt, right.finishedAt with
  | none, _ => true
  | some _, none => false
  | some leftAt, some rightAt => decide (rightAt ≤ leftAt)

/-- `_SAFE_JSONB_KEY`. The `$` of the pattern also matches before a final
line break. -/
def safeJsonbKey (name : String) : Bool :=
  let chars := name.toList
  let text := if chars.getLast? = some '\n' then chars.dropLast else chars
  let letter := fun char : Char => char.isAlpha || char == '_'
  match text with
  | [] => false
  | head :: rest => letter head && rest.all fun char => letter char || char.isDigit

def requeueVictims (taskType : String) (since : Option Time) (limit : Nat)
    (inputsMatch : List (String × String)) (table : TaskTable) : List TaskRow :=
  ((table.rows.filter fun row =>
    row.status.requeueable && row.taskType == taskType &&
      since.all (fun start => row.finishedAt.any fun finished => decide (start ≤ finished)) &&
      inputsMatch.all fun wanted => row.input wanted.1 == some wanted.2).insertionSort
        fun left right => finishedNoEarlier left right).take limit

/-- An unsafe key of `inputs_match` raises before the statement is sent. -/
def requeueDeadLetterTasksByType (taskType : String) (since : Option Time) (limit : Nat)
    (resetRetries : Bool) (inputsMatch : List (String × String)) (table : TaskTable) :
    TaskStatement where
  guard row :=
    inputsMatch.all (fun wanted => safeJsonbKey wanted.1) &&
    ((requeueVictims taskType since limit inputsMatch table).map TaskRow.key).contains row.key
  assign := requeueRow resetRetries

end Dynastore.Tasks
