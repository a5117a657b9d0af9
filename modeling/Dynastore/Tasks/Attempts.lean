import Dynastore.Tasks.Machine

/-! Claiming a row that is not `ACTIVE` starts an attempt, which holds the row for as long as the
row stays `ACTIVE`. The dispatcher that runs the attempt writes the row through five calls. Three of
them are guarded by the runner id of the process, `reset_task_to_pending` and the batched heartbeat
by nothing but the row's status. -/

namespace Dynastore.Tasks

open Execution

/-- One claim of a row: the `number`-th, made under a runner id. -/
structure Attempt where
  key : Time × TaskId
  number : Nat
  runnerId : String
deriving DecidableEq

/-- The queue together with the attempts made so far, those among them whose
row was taken back to `PENDING`, and the attempt that holds each row. -/
structure History where
  world : World
  started : List Attempt := []
  lost : List Attempt := []
  current : Time × TaskId → Option Attempt := fun _ => none

/-- The attempt that the operation starts on a row. Claiming an `ACTIVE` row
passes the running attempt on to another owner and starts none. -/
def History.claimed (history : History) (config : TasksConfig) (op : Op)
    (key : Time × TaskId) : Option Attempt :=
  match op.claimant, history.world.table.lookup key with
  | some runnerId, some row =>
    if (op.statement config history.world.table).guard row && row.status != .active then
      some ⟨key, (history.started.filter fun attempt => attempt.key == key).length, runnerId⟩
    else none
  | _, _ => none

def World.isActive (world : World) (key : Time × TaskId) : Bool :=
  (world.table.lookup key).any fun row => row.status == .active

/-- The attempts whose row the reaper or a reset takes back to `PENDING`. -/
def History.takenBack (history : History) (config : TasksConfig) (op : Op) : List Attempt :=
  match op with
  | .reapStuckTasks .. | .resetTaskToPending .. =>
    history.world.table.rows.filterMap fun row =>
      if (op.statement config history.world.table).guard row &&
          ((op.statement config history.world.table).apply row).status == .pending then
        history.current row.key
      else none
  | _ => []

def History.record (config : TasksConfig) (history : History) (op : Op) : History where
  world := step config history.world op
  started := (history.world.table.rows.filterMap fun row => history.claimed config op row.key) ++
    history.started
  lost := history.takenBack config op ++ history.lost
  current key :=
    match history.claimed config op key with
    | some attempt => some attempt
    | none => if (step config history.world op).isActive key then history.current key else none

/-- The calls `_dispatch_one` and its heartbeat make for an attempt. -/
inductive AttemptWrite where
  | complete (finishedAt : Time) (outputs : Option String)
  | fail (dbNow finishedAt : Time) (errorMessage : String) (retry : Bool)
  | deadLetter (finishedAt : Time) (errorMessage : String)
  | reset (utcnow : Time) (backoff : Int)
  | heartbeat (clock : Clock) (visibilityTimeout : Int) (others : List (TaskId × Time))

/-- The operation sent on behalf of an attempt. The terminal writes carry the
runner id and the creation time; a heartbeat covers every task the process has
registered. -/
def Attempt.op (attempt : Attempt) : AttemptWrite → Op
  | .complete finishedAt outputs =>
    .completeTask ⟨attempt.key.2, some attempt.runnerId, some attempt.key.1⟩ finishedAt outputs
  | .fail dbNow finishedAt errorMessage retry =>
    .failTask dbNow ⟨attempt.key.2, some attempt.runnerId, some attempt.key.1⟩ finishedAt
      errorMessage retry
  | .deadLetter finishedAt errorMessage =>
    .deadLetterTask ⟨attempt.key.2, some attempt.runnerId, some attempt.key.1⟩ finishedAt
      errorMessage
  | .reset utcnow backoff => .resetTaskToPending utcnow attempt.key.2 (some backoff)
  | .heartbeat clock visibilityTimeout others =>
    .heartbeatTasks clock ((attempt.key.2, attempt.key.1) :: others) visibilityTimeout

/-- An operation of anybody, or a write issued on behalf of an attempt. -/
inductive Event where
  | any (op : Op)
  | onBehalf (attempt : Attempt) (write : AttemptWrite)

def Event.op : Event → Op
  | any op => op
  | onBehalf attempt write => attempt.op write

def observe (config : TasksConfig) (history : History) (event : Event) : History :=
  history.record config event.op

/-- The attempt lost its claim, and the row is now held by another one. -/
def Attempt.Stale (attempt : Attempt) (history : History) : Prop :=
  attempt ∈ history.lost ∧ ∃ holder, history.current attempt.key = some holder ∧ holder ≠ attempt

def StaleHarmless (config : TasksConfig) (history : History) (events : List Event) : Prop :=
  ∀ before attempt write after, events = before ++ .onBehalf attempt write :: after →
    attempt.Stale (run (observe config) history before) →
    (run (observe config) history (before ++ [.onBehalf attempt write])).world.table.lookup
        attempt.key =
      (run (observe config) history before).world.table.lookup attempt.key

/-- The write cannot touch this row: it is one of the three that carry the
runner id, and the row is owned under another id. A heartbeat is harmless only
when it writes the lease that is there already, a reset never is. -/
def AttemptWrite.Misses (attempt : Attempt) (row : TaskRow) : AttemptWrite → Prop
  | .complete .. | .fail .. | .deadLetter .. => row.ownerId ≠ some attempt.runnerId
  | .reset .. => False
  | .heartbeat clock visibilityTimeout _ =>
    row.lockedUntil = some (clock.utcnow + visibilityTimeout) ∧
      row.lastHeartbeatAt = some clock.dbNow

def Event.Fenced (history : History) : Event → Prop
  | .any _ => True
  | .onBehalf attempt write =>
    attempt.Stale history →
      ∀ row, history.world.table.lookup attempt.key = some row → write.Misses attempt row

/-! ## One write -/

def History.HoldersActive (history : History) : Prop :=
  ∀ key holder, history.current key = some holder → history.world.isActive key = true

theorem isActive_iff (world : World) (key : Time × TaskId) : world.isActive key ↔
      ∃ row, world.table.lookup key = some row ∧ row.status = .active := by
  simp [World.isActive, Option.any_eq_true]

variable {config : TasksConfig} {attempt : Attempt}

theorem status_of_claimant {op : Op} (claims : op.claimant = some runnerId)
    (selected : (op.statement config table).guard row) :
    ((op.statement config table).apply row).status = .active := by
  rw [Update.apply_of_guard selected]
  cases op with
  | claimNext | claimBatch | claimForExecution => rfl
  | _ => cases claims

theorem holdersActive_record (config : TasksConfig) (history : History) :
    (history.record config op).HoldersActive := by
  intro key holder held
  simp only [History.record] at held ⊢
  split at held
  · rename_i attempt claimedEq
    simp only [History.claimed] at claimedEq
    split at claimedEq
    · rename_i runnerId row claims found
      split at claimedEq
      · rename_i selected
        exact (isActive_iff _ _).mpr ⟨_, lookup_step found,
          status_of_claimant claims (Bool.and_eq_true_iff.mp selected).1⟩
      · cases claimedEq
    · cases claimedEq
  · split at held
    · assumption
    · cases held

/-- How an attempt names its row in the three final writes. -/
def Attempt.ref (attempt : Attempt) : TaskRef :=
  ⟨attempt.key.2, some attempt.runnerId, some attempt.key.1⟩

theorem selects_ref_iff (keyed : row.key = attempt.key) :
    attempt.ref.selects row ↔ row.ownerId = some attempt.runnerId := by
  have keyFst : row.timestamp = attempt.key.1 := congrArg Prod.fst keyed
  have keySnd : row.taskId = attempt.key.2 := congrArg Prod.snd keyed
  simp [Attempt.ref, TaskRef.selects, keyFst, keySnd]

theorem apply_eq_self_iff_unowned {update : TaskStatement}
    (active : row.status = .active) (keyed : row.key = attempt.key)
    (guarded : update.guard = attempt.ref.selects) (leaves : (update.assign row).status ≠ .active) :
    update.apply row = row ↔ row.ownerId ≠ some attempt.runnerId := by
  rw [← not_iff_not, not_not, ← selects_ref_iff keyed, ← guarded]
  constructor
  · intro changed
    by_contra unselected
    exact changed (Update.apply_of_not_guard (by simpa using unselected))
  · intro selected unchanged
    rw [Update.apply_of_guard selected] at unchanged
    apply leaves
    rw [unchanged]
    exact active

theorem apply_eq_self_iff_misses (config : TasksConfig) (active : row.status = .active)
    (keyed : row.key = attempt.key) :
    ((attempt.op write).statement config table).apply row = row ↔ write.Misses attempt row := by
  have keyFst : row.timestamp = attempt.key.1 := congrArg Prod.fst keyed
  have keySnd : row.taskId = attempt.key.2 := congrArg Prod.snd keyed
  cases write with
  | complete =>
    exact apply_eq_self_iff_unowned active keyed rfl
      (by simp [Attempt.op, Op.statement, completeTask])
  | fail _ _ _ retry =>
    refine apply_eq_self_iff_unowned active keyed rfl ?_
    cases retry with
    | false => simp [Attempt.op, Op.statement, failTask]
    | true =>
      simp only [Attempt.op, Op.statement, failTask, if_true]
      split <;> simp
  | deadLetter =>
    exact apply_eq_self_iff_unowned active keyed rfl
      (by simp [Attempt.op, Op.statement, deadLetterTask])
  | reset utcnow backoff =>
    have selected : ((attempt.op (.reset utcnow backoff)).statement config table).guard row
        := by
      simp [Attempt.op, Op.statement, resetTaskToPending, keySnd, active]
    rw [Update.apply_of_guard selected]
    simp only [AttemptWrite.Misses, iff_false]
    intro unchanged
    have status := congrArg TaskRow.status unchanged
    rw [active] at status
    cases status
  | heartbeat clock visibilityTimeout others =>
    have selected : ((attempt.op (.heartbeat clock visibilityTimeout others)).statement config
        table).guard row := by
      simp [Attempt.op, Op.statement, heartbeatTasks, keyFst, keySnd, active]
    rw [Update.apply_of_guard selected]
    constructor
    · intro unchanged
      have locked := congrArg TaskRow.lockedUntil unchanged
      have beat := congrArg TaskRow.lastHeartbeatAt unchanged
      exact ⟨locked.symm, beat.symm⟩
    · rintro ⟨_, _⟩
      cases row
      simp_all [Attempt.op, Op.statement, heartbeatTasks]

/-! ## Runs -/

theorem holdersActive_run (config : TasksConfig) :
    (run (observe config) { world := world } events).HoldersActive := by
  rcases List.eq_nil_or_concat events with initial | ⟨_, _, last⟩
  · subst initial
    intro _ _ held
    cases held
  · rw [last, List.concat_eq_append, run_append]
    exact holdersActive_record config _

theorem lookup_onBehalf_iff
    (stale : attempt.Stale (run (observe config) { world := world } before)) :
    (run (observe config) { world := world }
          (before ++ [.onBehalf attempt write])).world.table.lookup attempt.key =
        (run (observe config) { world := world } before).world.table.lookup attempt.key ↔
      ∀ row, (run (observe config) { world := world } before).world.table.lookup attempt.key =
        some row → write.Misses attempt row := by
  rcases stale with ⟨_, holder, held, _⟩
  rcases (isActive_iff _ _).mp (holdersActive_run config attempt.key holder held) with
    ⟨row, found, active⟩
  have stepped : (run (observe config) { world := world }
      (before ++ [.onBehalf attempt write])).world.table.lookup attempt.key =
      some (((attempt.op write).statement config
        (run (observe config) { world := world } before).world.table).apply row) := by
    rw [run_append, run_cons, run_nil]
    exact lookup_step found
  rw [stepped, found, Option.some.injEq,
    apply_eq_self_iff_misses config active (Table.key_of_lookup found)]
  constructor
  · intro misses _ same
    cases same
    exact misses
  · intro misses
    exact misses row rfl

/-- Stale attempts are harmless in a run exactly when each of their writes
misses the row its successor holds. -/
theorem staleHarmless_iff (config : TasksConfig) (world : World) (events : List Event) :
    StaleHarmless config { world := world } events ↔
      Guarded (observe config) (fun history event => event.Fenced history)
        { world := world } events := by
  rw [guarded_iff_forall_split]
  constructor
  · intro harmless before event after split
    cases event with
    | any => trivial
    | onBehalf attempt write =>
      intro stale
      exact (lookup_onBehalf_iff stale).mp (harmless before attempt write after split stale)
  · intro fenced before attempt write after split stale
    exact (lookup_onBehalf_iff stale).mpr
      (fenced before (.onBehalf attempt write) after split stale)

/-- The lease of a task lapses, the reaper takes the row back and the same
process claims it again; then the first attempt finishes. -/
def reclaimedBySameProcess : List Event :=
  [.any (.beginCreate 1 (.createTask { taskType := "ingest" } "c1" .pending none none none 7 100)),
    .any (.insertCreated 1 100),
    .any (.claimBatch ⟨["ingest"], [], 300, "worker@host"⟩ ⟨110, 110⟩ 10 []),
    .any (.reapStuckTasks 500 5 []),
    .any (.claimBatch ⟨["ingest"], [], 300, "worker@host"⟩ ⟨510, 510⟩ 10 []),
    .onBehalf ⟨(100, 7), 0, "worker@host"⟩ (.complete 520 none)]

/-- As above, but another process claims the row again; then the heartbeat of
the first one runs. -/
def heartbeatAfterReclaim : List Event :=
  [.any (.beginCreate 1 (.createTask { taskType := "ingest" } "c1" .pending none none none 7 100)),
    .any (.insertCreated 1 100),
    .any (.claimBatch ⟨["ingest"], [], 300, "worker@left"⟩ ⟨110, 110⟩ 10 []),
    .any (.reapStuckTasks 500 5 []),
    .any (.claimBatch ⟨["ingest"], [], 300, "worker@right"⟩ ⟨510, 510⟩ 10 []),
    .onBehalf ⟨(100, 7), 0, "worker@left"⟩ (.heartbeat ⟨520, 520⟩ 300 [])]

theorem stale_writes_reach_successor :
    ¬StaleHarmless {} { world := ⟨Table.empty, []⟩ } reclaimedBySameProcess ∧
      ¬StaleHarmless {} { world := ⟨Table.empty, []⟩ } heartbeatAfterReclaim := by
  constructor
  · intro harmless
    have changed := harmless (reclaimedBySameProcess.take 5) _ _ [] rfl
      ⟨by decide, ⟨(100, 7), 1, "worker@host"⟩, by decide, by decide⟩
    revert changed
    decide
  · intro harmless
    have changed := harmless (heartbeatAfterReclaim.take 5) _ _ [] rfl
      ⟨by decide, ⟨(100, 7), 1, "worker@right"⟩, by decide, by decide⟩
    revert changed
    decide

end Dynastore.Tasks
