import Mathlib.Data.List.Sort
import Dynastore.Foundation.Table

/-! The columns of `tasks.tasks` with the defaults of its DDL, the statuses of a row, and the two
statements that bring a row into the table. Inserts are guarded by the primary key `(timestamp,
task_id)` and by the partial unique index `idx_tasks_dedup`. -/

namespace Dynastore.Tasks

/-- Instants, in microseconds since the epoch. -/
abbrev Time := Int

/-- A UUID, as its number. PostgreSQL orders UUIDs by it. -/
abbrev TaskId := Nat

/-- Top-level keys of the `inputs` document with the text `inputs->>'key'`
gives for them. -/
abbrev Inputs := List (String × String)

inductive TaskStatus where
  | created
  | pending
  | active
  | running
  | completed
  | failed
  | dismissed
  | deadLetter
deriving DecidableEq, Repr

namespace TaskStatus

def text : TaskStatus → String
  | created => "CREATED"
  | pending => "PENDING"
  | active => "ACTIVE"
  | running => "RUNNING"
  | completed => "COMPLETED"
  | failed => "FAILED"
  | dismissed => "DISMISSED"
  | deadLetter => "DEAD_LETTER"

def terminal : TaskStatus → Bool
  | completed | failed | dismissed | deadLetter => true
  | created | pending | active | running => false

/-- The statuses that the dedup check and `idx_tasks_dedup` leave out. Unlike
`terminal`, they do not include `dismissed`. -/
def releasesDedup : TaskStatus → Bool
  | completed | failed | deadLetter => true
  | created | pending | active | running | dismissed => false

def requeueable : TaskStatus → Bool
  | deadLetter | failed => true
  | created | pending | active | running | completed | dismissed => false

theorem terminal_of_releasesDedup {status : TaskStatus}
    (releases : status.releasesDedup) : status.terminal := by
  cases status <;> simp_all [releasesDedup, terminal]

end TaskStatus

inductive ExecutionMode where
  | synchronous
  | asynchronous
deriving DecidableEq, Repr

structure TaskRow where
  taskId : TaskId
  catalogId : String
  scope : String := "CATALOG"
  callerId : Option String := none
  taskType : String
  type : String := "task"
  executionMode : ExecutionMode := .asynchronous
  status : TaskStatus := .pending
  progress : Option Nat := some 0
  inputs : Option Inputs := none
  outputs : Option String := none
  errorMessage : Option String := none
  dedupKey : Option String := none
  timestamp : Time
  startedAt : Option Time := none
  finishedAt : Option Time := none
  dismissConfirmedAt : Option Time := none
  collectionId : Option String := none
  lockedUntil : Option Time := none
  lastHeartbeatAt : Option Time := none
  ownerId : Option String := none
  retryCount : Int := 0
  maxRetries : Int := 3
deriving DecidableEq, Repr

namespace TaskRow

def key (row : TaskRow) : Time × TaskId := (row.timestamp, row.taskId)

/-- `inputs->>'key'`, `NULL` when the document or the key is missing. -/
def input (row : TaskRow) (name : String) : Option String :=
  row.inputs.bind fun inputs => inputs.lookup name

def reserves (row : TaskRow) (catalogId dedupKey : String) : Bool :=
  row.dedupKey == some dedupKey && row.catalogId == catalogId && !row.status.releasesDedup

end TaskRow

abbrev TaskTable := Table TaskRow TaskRow.key

abbrev TaskStatement := Update TaskRow TaskRow.key

/-! ## Creation -/

structure TaskCreate where
  callerId : Option String := none
  taskType : String
  type : String := "task"
  inputs : Inputs := []
  collectionId : Option String := none
  title : Option String := none
  executionMode : ExecutionMode := .asynchronous
  scope : String := "CATALOG"
  maxRetries : Option Int := none
  dedupKey : Option String := none

/-- What the task module reads from its environment: the task registry, the
default title, the schema that holds the table, the platform-wide retry cap
and the claim lookback window. -/
structure TasksConfig where
  taskKind : String → Option String := fun _ => none
  defaultTitle : String := "Task"
  schema : String := "tasks"
  hardRetryCap : Int := 5
  lookback : Int := 30 * 24 * 3600 * 1000000

def resolveTaskTypeKind (config : TasksConfig) (taskType fallback : String) : String :=
  (config.taskKind taskType).getD fallback

def dictSet (name value : String) : Inputs → Inputs
  | [] => [(name, value)]
  | (other, old) :: rest =>
    if other = name then (name, value) :: rest else (other, old) :: dictSet name value rest

/-- `_serialize_inputs`: an empty document is stored as `NULL`. -/
def serializeInputs : Inputs → Option Inputs
  | [] => none
  | inputs => some inputs

/-- The title and correlation id that `create_task` folds into the inputs. -/
def effectiveInputs (config : TasksConfig) (data : TaskCreate)
    (correlationId : Option String) : Inputs :=
  let stored := (data.inputs.lookup "title").getD ""
  let titled :=
    match data.title with
    | some title => dictSet "title" title data.inputs
    | none =>
      if stored = "" then dictSet "title" config.defaultTitle data.inputs else data.inputs
  match correlationId with
  | some correlation => dictSet "_request_correlation_id" correlation titled
  | none => titled

/-- A call that is about to insert a row: its arguments, with the id and the
creation time the call generated for itself. -/
inductive Creation where
  | createTask (data : TaskCreate) (schema : String) (initialStatus : TaskStatus)
      (ownerId : Option String) (lockedUntil : Option Time)
      (correlationId : Option String) (taskId : TaskId) (creationTime : Time)
  | enqueue (data : TaskCreate) (schemaName : String) (dedupKey : Option String)
      (executionMode : ExecutionMode) (scope : String) (taskId : TaskId) (creationTime : Time)

namespace Creation

def catalogId : Creation → String
  | createTask _ schema .. => schema
  | enqueue _ schemaName .. => schemaName

/-- The key the call checks before it inserts. `enqueue` looks at its own
parameter only. -/
def dedupKey : Creation → Option String
  | createTask data .. => data.dedupKey
  | enqueue _ _ dedupKey .. => dedupKey

def row (config : TasksConfig) (dbNow : Time) : Creation → TaskRow
  | createTask data schema initialStatus ownerId lockedUntil correlationId taskId creationTime =>
    { taskId := taskId
      catalogId := schema
      scope := data.scope
      callerId := data.callerId
      taskType := data.taskType
      type := resolveTaskTypeKind config data.taskType data.type
      executionMode := data.executionMode
      inputs := serializeInputs (effectiveInputs config data correlationId)
      timestamp := creationTime
      collectionId := data.collectionId
      dedupKey := data.dedupKey
      status := initialStatus
      maxRetries := data.maxRetries.getD 3
      ownerId := ownerId
      lockedUntil := lockedUntil
      lastHeartbeatAt := if initialStatus = .active then some dbNow else none }
  | enqueue data schemaName dedupKey executionMode scope taskId creationTime =>
    { taskId := taskId
      catalogId := schemaName
      scope := scope
      callerId := data.callerId
      taskType := data.taskType
      type := resolveTaskTypeKind config data.taskType data.type
      executionMode := executionMode
      inputs := serializeInputs data.inputs
      timestamp := creationTime
      collectionId := data.collectionId
      dedupKey := dedupKey }

@[simp] theorem catalogId_row (creation : Creation) :
    (creation.row config dbNow).catalogId = creation.catalogId := by
  cases creation <;> rfl

@[simp] theorem dedupKey_row (creation : Creation) :
    (creation.row config dbNow).dedupKey = creation.dedupKey := by
  cases creation <;> rfl

end Creation

def dedupHit (table : TaskTable) (creation : Creation) : Bool :=
  match creation.dedupKey with
  | some dedupKey => table.rows.any fun row => row.reserves creation.catalogId dedupKey
  | none => false

/-- `idx_tasks_dedup` refuses the row: another row reserves the same key with
the same timestamp. -/
def dedupIndexConflict (table : TaskTable) (row : TaskRow) : Bool :=
  match row.dedupKey with
  | some dedupKey => !row.status.releasesDedup && table.rows.any fun other =>
    other.reserves row.catalogId dedupKey && other.timestamp == row.timestamp
  | none => false

/-- The `INSERT`. A conflict raises for `create_task` and does nothing for
`enqueue`; the table stays as it is either way. -/
def insertRow (table : TaskTable) (row : TaskRow) : TaskTable :=
  if dedupIndexConflict table row then table else (table.insert row).getD table

theorem insertRow_cases :
    insertRow table row = table ∨ table.insert row = some (insertRow table row) := by
  unfold insertRow
  split
  · exact .inl rfl
  · cases inserted : table.insert row with
    | none => exact .inl rfl
    | some => exact .inr rfl

end Dynastore.Tasks
