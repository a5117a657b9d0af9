import Dynastore.Tasks.Machine

/-! Claims, heartbeats, resets and the reaper look at the status of a row before they write it.
`complete_task`, `fail_task`, `dead_letter_task` and `update_task` do not, so a finished row stays
finished in exactly those runs that never aim one of these at a row with another terminal status. -/

namespace Dynastore.Tasks

open Execution Option

/-- The operation gives every terminal row it selects the status the row
already has. -/
def Op.SparesTerminal (config : TasksConfig) (table : TaskTable) : Op → Prop
  | .completeTask ref _ _ =>
    ∀ row ∈ table.rows, ref.selects row → row.status.terminal → row.status = .completed
  | .failTask _ ref _ _ true =>
    ∀ row ∈ table.rows, ref.selects row → row.status.terminal →
      row.status = .deadLetter ∧ row.retriesRemain config.hardRetryCap = false
  | .failTask _ ref _ _ false =>
    ∀ row ∈ table.rows, ref.selects row → row.status.terminal → row.status = .failed
  | .deadLetterTask ref _ _ =>
    ∀ row ∈ table.rows, ref.selects row → row.status.terminal → row.status = .deadLetter
  | .updateTask taskId schema update =>
    ∀ row ∈ table.rows, (Tasks.updateTask taskId schema update).guard row → row.status.terminal →
      ∀ status, update.status = some (some status) → row.status = status
  | _ => True

def Op.isRequeue : Op → Bool
  | .requeueDeadLetterTask .. | .requeueDeadLetterTasksByType .. => true
  | _ => false

/-- The operation is a dead-letter requeue and selects the row under `key`. -/
def Op.Requeues (config : TasksConfig) (table : TaskTable) (key : Time × TaskId) (op : Op) : Prop :=
  op.isRequeue = true ∧
    ∃ row, table.lookup key = some row ∧ (op.statement config table).guard row = true

def World.HasStatus (world : World) (key : Time × TaskId) (status : TaskStatus) : Prop :=
  ∃ row, world.table.lookup key = some row ∧ row.status = status

/-- Once a row is terminal it keeps its status, in every later state of the
run, until a requeue is applied to it. -/
def TerminalAbsorbing (config : TasksConfig) (world : World) (ops : List Op) : Prop :=
  ∀ before after rest, ops = before ++ after ++ rest →
    ∀ key row, (run (step config) world before).table.lookup key = some row →
      row.status.terminal = true →
      Guarded (step config) (fun current op => ¬op.Requeues config current.table key)
        (run (step config) world before) after →
      (run (step config) world (before ++ after)).HasStatus key row.status

/-! ## One step -/

variable {update : TaskStatement} {row : TaskRow} {config : TasksConfig} {table : TaskTable}
  {op : Op}

private theorem status_apply (same : update.guard row → (update.assign row).status = row.status) :
    (update.apply row).status = row.status := by
  by_cases selected : update.guard row
  · rw [Update.apply_of_guard selected, same selected]
  · rw [Update.apply_of_not_guard (by simpa using selected)]

private theorem status_apply_of_live_guard (live : update.guard row → row.status.terminal = false)
    (terminal : row.status.terminal) : (update.apply row).status = row.status := by
  apply status_apply
  intro selected
  rw [live selected] at terminal
  cases terminal

private theorem status_changed
    (selected : update.guard row) (ne : row.status ≠ (update.assign row).status) :
    (update.apply row).status ≠ row.status := by
  rw [Update.apply_of_guard selected]
  exact ne.symm

theorem status_statement_of_spares (mem : row ∈ table.rows) (terminal : row.status.terminal)
    (spares : op.SparesTerminal config table)
    (unrequeued : op.isRequeue → (op.statement config table).guard row = false) :
    ((op.statement config table).apply row).status = row.status := by
  cases op with
  | beginCreate | insertCreated => rfl
  | claimNext | claimBatch | claimForExecution =>
    exact status_apply_of_live_guard (live_of_claim rfl mem) terminal
  | completeTask ref finishedAt outputs | deadLetterTask ref finishedAt errorMessage =>
    exact status_apply fun selected => (spares row mem selected terminal).symm
  | failTask _ _ _ _ retry =>
    apply status_apply
    intro selected
    cases retry with
    | false => exact (spares row mem selected terminal).symm
    | true =>
      rcases spares row mem selected terminal with ⟨parked, exhausted⟩
      simp [Op.statement, failTask, exhausted, parked]
  | resetTaskToPending =>
    apply status_apply_of_live_guard _ terminal
    intro selected
    simp only [Op.statement, resetTaskToPending, Bool.and_eq_true, beq_iff_eq] at selected
    simp [selected.2, TaskStatus.terminal]
  | updateTask _ _ update =>
    apply status_apply
    intro selected
    have agrees := spares row mem selected terminal
    cases written : update.status.bind id with
    | none => simp only [Op.statement, updateTask, written, getD_none]
    | some status =>
      have setTo : update.status = some (some status) := by
        simpa [bind_eq_some_iff] using written
      simp [Op.statement, updateTask, setTo, agrees status setTo]
  | reapStuckTasks =>
    apply status_apply_of_live_guard _ terminal
    intro selected
    simp only [Op.statement, reapStuckTasks, Bool.and_eq_true, Bool.or_eq_true,
      beq_iff_eq] at selected
    rcases selected.1.1 with active | running
    · simp [active, TaskStatus.terminal]
    · simp [running, TaskStatus.terminal]
  | requeueDeadLetterTask | requeueDeadLetterTasksByType =>
    rw [Update.apply_of_not_guard (unrequeued rfl)]
  | _ =>
    exact status_apply fun _ => rfl

theorem exists_changed_of_not_spares (strikes : ¬op.SparesTerminal config table) :
    op.isRequeue = false ∧ ∃ row ∈ table.rows, row.status.terminal ∧
      ((op.statement config table).apply row).status ≠ row.status := by
  cases op with
  | completeTask ref finishedAt outputs | deadLetterTask ref finishedAt errorMessage =>
    simp only [Op.SparesTerminal, not_forall] at strikes
    rcases strikes with ⟨row, mem, selected, terminal, ne⟩
    exact ⟨rfl, row, mem, terminal, status_changed selected ne⟩
  | failTask _ _ _ _ retry =>
    cases retry with
    | false =>
      simp only [Op.SparesTerminal, not_forall] at strikes
      rcases strikes with ⟨row, mem, selected, terminal, ne⟩
      exact ⟨rfl, row, mem, terminal, status_changed selected ne⟩
    | true =>
      simp only [Op.SparesTerminal, not_forall] at strikes
      rcases strikes with ⟨row, mem, selected, terminal, ne⟩
      refine ⟨rfl, row, mem, terminal, status_changed selected ?_⟩
      intro same
      by_cases remain : row.retriesRemain config.hardRetryCap
      · -- with retries left the row would have to be pending already
        simp only [Op.statement, failTask, remain, if_true] at same
        rw [same] at terminal
        cases terminal
      · simp only [Op.statement, failTask, remain, if_true] at same
        exact ne ⟨same, by simpa using remain⟩
  | updateTask =>
    simp only [Op.SparesTerminal, not_forall] at strikes
    rcases strikes with ⟨row, mem, selected, terminal, _, setTo, ne⟩
    refine ⟨rfl, row, mem, terminal, status_changed selected ?_⟩
    simpa only [Op.statement, updateTask, setTo, bind_some, id, getD_some] using
      ne
  | _ => exact absurd trivial strikes

/-! ## Runs -/

/-- Terminal statuses are absorbing in a run exactly when every `complete_task`,
`fail_task`, `dead_letter_task` and `update_task` of the run finds the terminal
rows it selects already in the status it writes. -/
theorem terminalAbsorbing_iff (config : TasksConfig) (world : World) (ops : List Op) :
    TerminalAbsorbing config world ops ↔
      Guarded (step config) (fun current op => op.SparesTerminal config current.table)
        world ops := by
  constructor
  · intro absorbing
    rw [guarded_iff_forall_split]
    intro before op after split
    by_contra strikes
    rcases exists_changed_of_not_spares strikes with
      ⟨notRequeue, row, mem, terminal, changed⟩
    have found := (run (step config) world before).table.lookup_of_mem mem
    have unrequeued : ¬op.Requeues config (run (step config) world before).table row.key := by
      intro requeues
      rw [requeues.1] at notRequeue
      cases notRequeue
    rcases absorbing before [op] after (by simpa using split) row.key row found terminal
      ⟨unrequeued, trivial⟩ with ⟨later, foundLater, same⟩
    rw [run_append, run_cons, run_nil, lookup_step found] at foundLater
    cases foundLater
    exact changed same
  · intro spares _ _ _ split key row found terminal unrequeued
    subst split
    have sparesAfter := ((guarded_append _).mp ((guarded_append _).mp spares).1).2
    rw [run_append]
    have preserved : ∀ (current : World) op, current.HasStatus key row.status →
        (op.SparesTerminal config current.table ∧ ¬op.Requeues config current.table key) →
        (step config current op).HasStatus key row.status := by
      rintro _ _ ⟨later, foundLater, same⟩ ⟨sparesOp, unrequeuedOp⟩
      refine ⟨_, lookup_step foundLater, ?_⟩
      rw [← same]
      apply status_statement_of_spares (Table.mem_of_lookup foundLater) (same ▸ terminal) sparesOp
      intro isRequeue
      by_contra selected
      exact unrequeuedOp ⟨isRequeue, later, foundLater, by simpa using selected⟩
    exact invariant_run preserved ⟨row, found, rfl⟩ (guarded_and sparesAfter unrequeued)

/-- A worker claims a task, the task is dismissed while it runs, and the
worker then reports a failure. -/
def dismissedThenFailed : List Op :=
  [.beginCreate 1 (.createTask { taskType := "ingest" } "c1" .pending none none none 7 100),
    .insertCreated 1 100,
    .claimNext ⟨["ingest"], [], 300, "w1"⟩ ⟨110, 110⟩ [],
    .updateTask 7 "c1" { status := some (some .dismissed) },
    .failTask 120 ⟨7, some "w1", some 100⟩ 120 "boom" true]

/-- The dismissed row goes back to `PENDING`: `update_task` left the worker as
its owner, and `fail_task` does not look at the status. -/
theorem dismissed_row_requeued_by_failure :
    ¬TerminalAbsorbing {} ⟨Table.empty, []⟩ dismissedThenFailed := by
  intro absorbing
  have found : ((run (step {}) ⟨Table.empty, []⟩ (dismissedThenFailed.take 4)).table.lookup
      (100, 7)).map TaskRow.status = some .dismissed := by decide
  have requeued : ((run (step {}) ⟨Table.empty, []⟩ dismissedThenFailed).table.lookup
      (100, 7)).map TaskRow.status = some .pending := by decide
  rcases map_eq_some_iff.mp found with ⟨row, foundRow, dismissed⟩
  rcases absorbing (dismissedThenFailed.take 4) (dismissedThenFailed.drop 4) [] (by simp)
    (100, 7) row foundRow (by rw [dismissed]; rfl) ⟨fun requeues => absurd requeues.1 (by decide),
      trivial⟩ with ⟨later, foundLater, same⟩
  rw [List.take_append_drop] at foundLater
  rw [foundLater, map_some, same, dismissed] at requeued
  cases requeued

end Dynastore.Tasks
