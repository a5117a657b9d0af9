import Dynastore.Tasks.Machine

/-! A dispatcher gives a claimed row that its task class refuses back to the queue, unless no live
worker has the capability the row needs; such a row it sends to the dead letters. -/

namespace Dynastore.Tasks

/-- What the dispatcher learns on the way. The oracle is asked once more under the lock,
where a time-out counts as live, and `raises` is an error of the database. `inputsKey` is
the entry of `TASK_TYPE_CAPABILITY_INPUTS_KEY` for the type of the row. -/
structure RefusalAnswers where
  requiredCapability : Option String
  live : Bool
  gotLock : Bool
  liveUnderLock : Bool
  raises : Bool
  inputsKey : Option String

/-- The message quotes the id, here one without quotes and backslashes. -/
def deadCapabilityErrorMessage (capabilityId : String) : String :=
  "reaped: no live worker advertises capability '" ++ capabilityId ++
    "' (check SCOPE/B6 — module not loaded in any reachable pool)"

def deadCapabilityRow (dbNow : Time) (capabilityId : String) (row : TaskRow) : TaskRow :=
  { row with
    status := .deadLetter
    errorMessage := some (deadCapabilityErrorMessage capabilityId)
    finishedAt := some dbNow
    ownerId := none
    lockedUntil := none }

def dlqRefused (dbNow : Time) (capabilityId : String) (refused : TaskRow) : TaskStatement where
  guard row :=
    row.timestamp == refused.timestamp && row.taskId == refused.taskId &&
      row.status == .pending && row.retryCount == 0
  assign := deadCapabilityRow dbNow capabilityId

def dlqSiblings (dbNow : Time) (capabilityId taskType inputsKey : String) : TaskStatement where
  guard row :=
    row.taskType == taskType && row.status == .pending && row.retryCount == 0 &&
      row.input inputsKey == some capabilityId
  assign := deadCapabilityRow dbNow capabilityId

/-- `_maybe_dlq_unclaimable`: the table it leaves, and its answer. -/
def maybeDlqUnclaimable (answers : RefusalAnswers) (dbNow : Time) (capabilityId : String)
    (refused : TaskRow) (table : TaskTable) : TaskTable × Bool :=
  if answers.live || !answers.gotLock || answers.liveUnderLock || answers.raises then
    (table, false)
  else if table.rows.any (dlqRefused dbNow capabilityId refused).guard then
    let updated := table.execute (dlqRefused dbNow capabilityId refused)
    (answers.inputsKey.elim updated fun inputsKey =>
      updated.execute (dlqSiblings dbNow capabilityId refused.taskType inputsKey), true)
  else (table, false)

/-- The path of `_dispatch_one` for a row that `can_claim` refuses. -/
def dispatchRefused (answers : RefusalAnswers) (clock : Clock) (backoff : Int) (refused : TaskRow)
    (table : TaskTable) : TaskTable :=
  let (reached, dlqed) :=
    match answers.requiredCapability with
    | some capabilityId =>
      maybeDlqUnclaimable answers clock.dbNow capabilityId refused table
    | none => (table, false)
  if dlqed then reached
  else reached.execute (resetTaskToPending clock.utcnow refused.taskId (some backoff))

/-- The oracle reports the capability dead throughout and nothing stands in the way. -/
def deadThroughout (capabilityId : String) (inputsKey : Option String) : RefusalAnswers where
  requiredCapability := some capabilityId
  live := false
  gotLock := true
  liveUnderLock := false
  raises := false
  inputsKey := inputsKey

def DeadLettered (key : Time × TaskId) (table : TaskTable) : Prop :=
  ∃ row, table.lookup key = some row ∧ row.status = .deadLetter

section

variable {table : TaskTable}

theorem guard_dlqRefused_iff : (dlqRefused dbNow capabilityId refused).guard row ↔
    row.key = refused.key ∧ row.status = .pending ∧ row.retryCount = 0 := by
  simp [dlqRefused, TaskRow.key, and_assoc]

theorem any_dlqRefused_iff : table.rows.any (dlqRefused dbNow capabilityId refused).guard ↔
      ∃ row, table.lookup refused.key = some row ∧ row.status = .pending ∧ row.retryCount = 0 := by
  rw [List.any_eq_true]
  constructor
  · rintro ⟨row, mem, selected⟩
    obtain ⟨keyed, waiting⟩ := guard_dlqRefused_iff.mp selected
    exact ⟨row, keyed ▸ table.lookup_of_mem mem, waiting⟩
  · rintro ⟨row, found, waiting⟩
    exact ⟨row, Table.mem_of_lookup found,
      guard_dlqRefused_iff.mpr ⟨Table.key_of_lookup found, waiting⟩⟩

/-- A row in the dead letters stays there under the other two statements. -/
theorem DeadLettered.execute
    (spares : ∀ row : TaskRow, row.status = .deadLetter → update.guard row = false)
    (dead : DeadLettered key table) : DeadLettered key (table.execute update) := by
  obtain ⟨row, found, status⟩ := dead
  refine ⟨row, ?_, status⟩
  rw [Table.lookup_execute, found, Option.map_some, Update.apply_of_not_guard (spares row status)]

theorem deadLettered_reset_iff :
    DeadLettered key (table.execute (resetTaskToPending now taskId backoff)) ↔
      DeadLettered key table := by
  constructor
  · rintro ⟨_, foundLater, dead⟩
    rw [Table.lookup_execute, Option.map_eq_some_iff] at foundLater
    obtain ⟨row, found, rfl⟩ := foundLater
    refine ⟨row, found, ?_⟩
    by_cases active : (resetTaskToPending now taskId backoff).guard row
    · rw [Update.apply_of_guard active] at dead
      cases dead
    · rwa [Update.apply_of_not_guard (by simpa using active)] at dead
  · refine DeadLettered.execute ?_
    intro _ dead
    simp [resetTaskToPending, dead]

end

theorem deadLettered_dispatchRefused_iff (capabilityId : String) (inputsKey : Option String)
    (clock : Clock) (backoff : Int) (refused : TaskRow) (table : TaskTable) :
    DeadLettered refused.key
        (dispatchRefused (deadThroughout capabilityId inputsKey) clock backoff refused table) ↔
      ∃ row, table.lookup refused.key = some row ∧
        (row.status = .deadLetter ∨ row.status = .pending ∧ row.retryCount = 0) := by
  by_cases waiting : table.rows.any (dlqRefused clock.dbNow capabilityId refused).guard
  · obtain ⟨row, found, pending, untried⟩ := any_dlqRefused_iff.mp waiting
    refine iff_of_true ?_ ⟨row, found, .inr ⟨pending, untried⟩⟩
    have updated : DeadLettered refused.key
        (table.execute (dlqRefused clock.dbNow capabilityId refused)) := by
      refine ⟨deadCapabilityRow clock.dbNow capabilityId row, ?_, rfl⟩
      rw [Table.lookup_execute, found, Option.map_some, Update.apply_of_guard
        (guard_dlqRefused_iff.mpr ⟨Table.key_of_lookup found, pending, untried⟩)]
      rfl
    simp only [dispatchRefused, deadThroughout, maybeDlqUnclaimable, waiting]
    cases inputsKey with
    | none => exact updated
    | some =>
      refine updated.execute ?_
      intro row dead
      simp [dlqSiblings, dead]
  · have kept :
        dispatchRefused (deadThroughout capabilityId inputsKey) clock backoff refused table =
        table.execute (resetTaskToPending clock.utcnow refused.taskId (some backoff)) := by
      simp [dispatchRefused, deadThroughout, maybeDlqUnclaimable, waiting]
    rw [kept, deadLettered_reset_iff]
    constructor
    · rintro ⟨row, found, dead⟩
      exact ⟨row, found, .inl dead⟩
    · rintro ⟨row, found, dead | idle⟩
      · exact ⟨row, found, dead⟩
      · exact absurd (any_dlqRefused_iff.mpr ⟨row, found, idle⟩) waiting

/-- The claim makes the row `ACTIVE`, so the compare-and-set misses it. -/
theorem not_deadLettered_of_picked {refused : TaskRow} {claimedAt : Clock}
    (picked : refused ∈ claimBatchPick config request claimedAt batchSize lockedRows table)
    (capabilityId : String) (inputsKey : Option String) (clock : Clock) (backoff : Int) :
    ¬ DeadLettered refused.key
      (dispatchRefused (deadThroughout capabilityId inputsKey) clock backoff refused
        (table.execute (claimBatch config request claimedAt batchSize lockedRows table))) := by
  rw [deadLettered_dispatchRefused_iff]
  rintro ⟨claimed, found, idle⟩
  rw [Table.lookup_execute, Option.map_eq_some_iff] at found
  obtain ⟨row, stored, rfl⟩ := found
  have selected : (claimBatch config request claimedAt batchSize lockedRows table).guard row := by
    rw [claimBatch, List.contains_iff_mem, Table.key_of_lookup stored]
    exact List.mem_map_of_mem picked
  rw [Update.apply_of_guard selected] at idle
  rcases idle with ⟨⟨⟩⟩ | ⟨⟨⟩, _⟩

/-- A refused row whose capability is dead ends in the dead letters exactly if it is there
already or waits in the queue again, without a failed attempt. A row that has just been claimed
never does. -/
theorem refused_deadLetter_iff (capabilityId : String) (inputsKey : Option String) (clock : Clock)
    (backoff : Int) (refused : TaskRow) (table : TaskTable) :
    (DeadLettered refused.key
        (dispatchRefused (deadThroughout capabilityId inputsKey) clock backoff refused table) ↔
      ∃ row, table.lookup refused.key = some row ∧
        (row.status = .deadLetter ∨ row.status = .pending ∧ row.retryCount = 0)) ∧
    ∀ config request claimedAt batchSize lockedRows,
      refused ∈ claimBatchPick config request claimedAt batchSize lockedRows table →
      ¬ DeadLettered refused.key
        (dispatchRefused (deadThroughout capabilityId inputsKey) clock backoff refused
          (table.execute (claimBatch config request claimedAt batchSize lockedRows table))) :=
  ⟨deadLettered_dispatchRefused_iff capabilityId inputsKey clock backoff refused table,
    fun _ _ _ _ _ picked =>
      not_deadLettered_of_picked picked capabilityId inputsKey clock backoff⟩

def waitingRow : TaskRow :=
  { taskId := 7, catalogId := "c1", taskType := "gdal", timestamp := 100 }

def waitingQueue : TaskTable := ⟨[waitingRow], by simp⟩

theorem claimed_row_not_deadLettered :
    waitingRow ∈ claimBatchPick {} ⟨["gdal"], [], 300, "w1"⟩ ⟨110, 110⟩ 10 [] waitingQueue ∧
    ¬ DeadLettered waitingRow.key
      (dispatchRefused (deadThroughout "gdal" none) ⟨120, 120⟩ 30 waitingRow (waitingQueue.execute
        (claimBatch {} ⟨["gdal"], [], 300, "w1"⟩ ⟨110, 110⟩ 10 [] waitingQueue))) := by
  have picked : waitingRow ∈
      claimBatchPick {} ⟨["gdal"], [], 300, "w1"⟩ ⟨110, 110⟩ 10 [] waitingQueue := by decide
  exact ⟨picked, not_deadLettered_of_picked picked "gdal" none ⟨120, 120⟩ 30⟩

end Dynastore.Tasks
