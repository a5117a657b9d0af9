import Dynastore.Tasks.Terminal

/-! The dedup check and the `INSERT` are two statements, the unique index contains the creation
time, and a requeue never looks at the key. The key therefore protects a task only in runs in which
creations of one key do not overlap and no row of a key comes back to life beside another. -/

namespace Dynastore.Tasks

open Execution List TaskRow

/-- The `(catalog_id, dedup_key)` of a row, `none` without a key. -/
def TaskRow.dedupIdentity (row : TaskRow) : Option (String × String) :=
  row.dedupKey.map fun dedupKey => (row.catalogId, dedupKey)

def Creation.dedupIdentity (creation : Creation) : Option (String × String) :=
  creation.dedupKey.map fun dedupKey => (creation.catalogId, dedupKey)

def TaskRow.live (row : TaskRow) : Bool := !row.status.terminal

def UniqueLive (table : TaskTable) : Prop :=
  ∀ left ∈ table.rows, ∀ right ∈ table.rows, left.live → right.live →
    left.dedupIdentity.isSome → left.dedupIdentity = right.dedupIdentity → left = right

instance (table : TaskTable) : Decidable (UniqueLive table) := by
  unfold UniqueLive
  infer_instance

def Op.revives (config : TasksConfig) (table : TaskTable) (row : TaskRow) : Op → Bool
  | .failTask _ ref _ _ true =>
    ref.selects row && row.status.terminal && row.retriesRemain config.hardRetryCap
  | .updateTask taskId schema update =>
    (Tasks.updateTask taskId schema update).guard row && row.status.terminal &&
      (update.status.bind id).any fun status => !status.terminal
  | .requeueDeadLetterTask taskId resetRetries catalogId collectionId =>
    (Tasks.requeueDeadLetterTask config taskId resetRetries catalogId collectionId).guard row
  | .requeueDeadLetterTasksByType taskType since limit resetRetries inputsMatch =>
    (Tasks.requeueDeadLetterTasksByType taskType since limit resetRetries inputsMatch
      table).guard row
  | _ => false

/-- A creation starts while no other creation of its key is between its check
and its `INSERT`. A row with a key is revived alone, while no row of the key is
live and no creation of the key is under way. -/
def Op.Serialised (config : TasksConfig) (world : World) (op : Op) : Prop :=
  match op with
  | .beginCreate _ creation =>
    creation.dedupIdentity.isSome →
      ∀ entry ∈ world.inflight, entry.2.dedupIdentity ≠ creation.dedupIdentity
  | op =>
    ∀ row ∈ world.table.rows, op.revives config world.table row → row.dedupIdentity.isSome →
      (∀ other ∈ world.table.rows, other.live → other.dedupIdentity ≠ row.dedupIdentity) ∧
      (∀ other ∈ world.table.rows, op.revives config world.table other →
        other.dedupIdentity = row.dedupIdentity → other = row) ∧
      ∀ entry ∈ world.inflight, entry.2.dedupIdentity ≠ row.dedupIdentity

instance (config : TasksConfig) (world : World) (op : Op) :
    Decidable (op.Serialised config world) := by
  letI implication {p q : Prop} [Decidable p] [Decidable q] : Decidable (p → q) :=
    instDecidableForall
  cases op <;> (dsimp only [Op.Serialised]; infer_instance)

/-! ## One statement -/

theorem dedupIdentity_statement (op : Op) :
    ((op.statement config table).apply row).dedupIdentity = row.dedupIdentity := by
  by_cases selected : (op.statement config table).guard row
  · rw [Update.apply_of_guard selected]
    cases op with
    | failTask _ _ _ _ retry => cases retry <;> rfl
    | _ => rfl
  · rw [Update.apply_of_not_guard (by simpa using selected)]

variable {config : TasksConfig} {table : TaskTable} {op : Op} {row : TaskRow} {world : World}

theorem terminal_statement_of_not_revives (mem : row ∈ table.rows) (terminal : row.status.terminal)
    (unrevived : op.revives config table row = false) :
    ((op.statement config table).apply row).status.terminal := by
  by_cases selected : (op.statement config table).guard row
  swap
  · rw [Update.apply_of_not_guard (by simpa using selected)]
    exact terminal
  cases op with
  | completeTask | deadLetterTask =>
    rw [Update.apply_of_guard selected]
    rfl
  | failTask _ ref _ _ retry =>
    rw [Update.apply_of_guard selected]
    cases retry with
    | false => rfl
    | true =>
      have selectedRef : ref.selects row := selected
      simp only [Op.revives, selectedRef, terminal, Bool.true_and] at unrevived
      simp [Op.statement, failTask, unrevived, TaskStatus.terminal]
  | updateTask taskId schema update =>
    rw [Update.apply_of_guard selected]
    have selectedUpdate : (Tasks.updateTask taskId schema update).guard row := selected
    simp only [Op.revives, selectedUpdate, terminal, Bool.true_and] at unrevived
    simp only [Op.statement, updateTask]
    cases written : update.status.bind id with
    | none => exact terminal
    | some =>
      rw [written, Option.any_some] at unrevived
      simpa using unrevived
  | requeueDeadLetterTask | requeueDeadLetterTasksByType =>
    exact absurd selected (by simpa [Op.revives, Op.statement] using unrevived)
  | _ =>
    -- the other statements do not reach a terminal row, or leave its status alone
    refine (congrArg TaskStatus.terminal
      (status_statement_of_spares mem terminal ?_ ?_)).trans terminal
    · trivial
    · simp [Op.isRequeue]

theorem live_or_revives_of_live_statement (mem : row ∈ table.rows)
    (live : ((op.statement config table).apply row).live) :
    row.live ∨ op.revives config table row := by
  by_contra neither
  simp only [not_or, Bool.not_eq_true, TaskRow.live, Bool.not_eq_false'] at neither
  have terminal := terminal_statement_of_not_revives mem neither.1 neither.2
  simp [TaskRow.live, terminal] at live

theorem dedupIdentity_row (config : TasksConfig) (dbNow : Time) (creation : Creation) :
    (creation.row config dbNow).dedupIdentity = creation.dedupIdentity := by
  simp [dedupIdentity, Creation.dedupIdentity]

/-! ## Rows of one key -/

/-- How many rows carry this `(catalog_id, dedup_key)`. Statements neither
delete rows nor change the two columns, so this counts the tasks ever created
with the key. -/
def carriers (table : TaskTable) (identity : String × String) : Nat :=
  table.rows.countP fun row => row.dedupIdentity == some identity

@[simp] theorem carriers_execute (config : TasksConfig) (table : TaskTable) (op : Op)
    (identity : String × String) :
    carriers (table.execute (op.statement config table)) identity = carriers table identity := by
  rw [carriers, Table.execute, countP_map, carriers]
  congr 1
  funext row
  rw [Function.comp_apply, dedupIdentity_statement]

theorem carriers_insert (accepted : table.insert row = some inserted) (identity : String × String) :
    carriers inserted identity =
      carriers table identity + if row.dedupIdentity = some identity then 1 else 0 := by
  rw [carriers, (Table.insert_eq_some accepted).2, countP_append, carriers]
  simp [countP_singleton]

theorem carriers_le_insertRow :
    carriers table identity ≤ carriers (insertRow table row) identity := by
  rcases insertRow_cases with unchanged | inserted
  · rw [unchanged]
  · rw [carriers_insert inserted]
    exact Nat.le_add_right _ _

theorem insertRow_of_unused (keyed : row.dedupIdentity = some identity)
    (unused : carriers table identity = 0) (fresh : row.key ∉ table.rows.map TaskRow.key) :
    table.insert row = some (insertRow table row) := by
  have noConflict : dedupIndexConflict table row = false := by
    simp only [dedupIdentity, Option.map_eq_some_iff] at keyed
    obtain ⟨_, keyEq, rfl⟩ := keyed
    rw [dedupIndexConflict, keyEq]
    simp only [Bool.and_eq_false_iff, any_eq_false]
    right
    intro other mem conflict
    rw [carriers, countP_eq_zero] at unused
    simp only [reserves, Bool.and_eq_true, beq_iff_eq] at conflict
    apply unused other mem
    simp [dedupIdentity, conflict.1.1.1, conflict.1.1.2]
  rw [insertRow, noConflict]
  simp [Table.insert, fresh]

/-! ## Runs -/

/-- What serialised runs preserve: live rows are unique, no creation under way
has a live row of its key beside it, and no two of them share a key. -/
structure DedupInvariant (world : World) : Prop where
  unique : UniqueLive world.table
  unoccupied : ∀ entry ∈ world.inflight, entry.2.dedupIdentity.isSome →
    ∀ row ∈ world.table.rows, row.live → row.dedupIdentity ≠ entry.2.dedupIdentity
  apart : ∀ left ∈ world.inflight, ∀ right ∈ world.inflight, left.2.dedupIdentity.isSome →
    left.2.dedupIdentity = right.2.dedupIdentity → left = right

theorem dedupIdentity_ne_of_not_dedupHit
    (passed : dedupHit table creation = false) (keyed : creation.dedupIdentity.isSome)
    (mem : row ∈ table.rows) (live : row.live) :
    row.dedupIdentity ≠ creation.dedupIdentity := by
  intro same
  cases keyEq : creation.dedupKey with
  | none => simp [Creation.dedupIdentity, keyEq] at keyed
  | some =>
    simp only [Creation.dedupIdentity, TaskRow.dedupIdentity, keyEq, Option.map_some,
      Option.map_eq_some_iff, Prod.mk.injEq] at same
    rcases same with ⟨_, rowKeyEq, catalogEq, sameKey⟩
    subst sameKey
    simp only [dedupHit, keyEq, any_eq_false] at passed
    have held : row.status.releasesDedup = false := by
      by_contra releases
      have terminal := TaskStatus.terminal_of_releasesDedup (by simpa using releases)
      simp [TaskRow.live, terminal] at live
    exact passed row mem (by simp [TaskRow.reserves, rowKeyEq, catalogEq, held])

theorem dedupInvariant_beginCreate (inv : DedupInvariant world)
    (serialised : (Op.beginCreate session creation).Serialised config world) :
    DedupInvariant (step config world (.beginCreate session creation)) := by
  simp only [step]
  split
  · exact inv
  · rename_i passed
    simp only [Bool.or_eq_true, not_or, Bool.not_eq_true] at passed
    constructor
    · exact inv.unique
    · intro entry entryMem keyed row mem live
      rcases mem_cons.mp entryMem with rfl | entryMem
      · exact dedupIdentity_ne_of_not_dedupHit passed.2 keyed mem live
      · exact inv.unoccupied entry entryMem keyed row mem live
    · intro left leftMem right rightMem keyed same
      rcases mem_cons.mp leftMem with rfl | leftMem
      · rcases mem_cons.mp rightMem with rfl | rightMem
        · rfl
        · exact absurd same.symm (serialised keyed right rightMem)
      · rcases mem_cons.mp rightMem with rfl | rightMem
        · exact absurd same (serialised (same ▸ keyed) left leftMem)
        · exact inv.apart left leftMem right rightMem keyed same

theorem DedupInvariant.leave (inv : DedupInvariant world) (session : Nat) :
    DedupInvariant
      { world with inflight := world.inflight.filter fun entry => entry.1 != session } where
  unique := inv.unique
  unoccupied entry mem := inv.unoccupied entry (List.mem_of_mem_filter mem)
  apart left leftMem right rightMem :=
    inv.apart left (mem_of_mem_filter leftMem) right (mem_of_mem_filter rightMem)

theorem dedupInvariant_insertCreated (inv : DedupInvariant world) :
    DedupInvariant (step config world (.insertCreated session dbNow)) := by
  simp only [step]
  split
  · exact inv
  rename_i creation found
  have entryMem : (session, creation) ∈ world.inflight := by
    rcases lookup_eq_some_iff.mp found with ⟨_, _, inflightEq, _⟩
    simp [inflightEq]
  rcases insertRow_cases with unchanged | inserted
  · rw [unchanged]
    exact inv.leave session
  · have rows := (Table.insert_eq_some inserted).2
    have newIdentity := dedupIdentity_row config dbNow creation
    constructor
    · intro left leftMem right rightMem leftLive rightLive keyed same
      simp only [rows, mem_append, mem_singleton] at leftMem rightMem
      rcases leftMem with leftMem | rfl
      · rcases rightMem with rightMem | rfl
        · exact inv.unique left leftMem right rightMem leftLive rightLive keyed same
        · rw [newIdentity] at same
          exact absurd same (inv.unoccupied _ entryMem (same ▸ keyed) left leftMem leftLive)
      · rcases rightMem with rightMem | rfl
        · rw [newIdentity] at same keyed
          exact absurd same.symm (inv.unoccupied _ entryMem keyed right rightMem rightLive)
        · rfl
    · intro entry mem keyed row rowMem live
      simp only [rows, mem_append, mem_singleton] at rowMem
      rcases rowMem with rowMem | rfl
      · exact (inv.leave session).unoccupied entry mem keyed row rowMem live
      · -- the inserted row has the key of the session that just left
        rw [newIdentity]
        intro same
        have stays : entry ∈ world.inflight ∧ entry.1 ≠ session := by
          simpa using mem_filter.mp mem
        have entryEq := inv.apart entry stays.1 _ entryMem keyed same.symm
        exact stays.2 (congrArg Prod.fst entryEq)
    · exact (inv.leave session).apart

theorem dedupInvariant_execute (inv : DedupInvariant world)
    (alone : ∀ row ∈ world.table.rows, op.revives config world.table row →
      row.dedupIdentity.isSome →
        (∀ other ∈ world.table.rows, other.live → other.dedupIdentity ≠ row.dedupIdentity) ∧
        (∀ other ∈ world.table.rows, op.revives config world.table other →
          other.dedupIdentity = row.dedupIdentity → other = row) ∧
        ∀ entry ∈ world.inflight, entry.2.dedupIdentity ≠ row.dedupIdentity) :
    DedupInvariant
      { world with table := world.table.execute (op.statement config world.table) } := by
  constructor
  · intro _ leftMem _ rightMem leftLive rightLive keyed same
    rcases (Table.mem_execute _).mp leftMem with ⟨_, oldLeftMem, rfl⟩
    rcases (Table.mem_execute _).mp rightMem with ⟨_, oldRightMem, rfl⟩
    rw [dedupIdentity_statement] at keyed
    rw [dedupIdentity_statement, dedupIdentity_statement] at same
    congr 1
    rcases live_or_revives_of_live_statement oldLeftMem leftLive with wasLive | revived
    · rcases live_or_revives_of_live_statement oldRightMem rightLive with
        rightWasLive | rightRevived
      · exact inv.unique _ oldLeftMem _ oldRightMem wasLive rightWasLive keyed same
      · exact absurd same ((alone _ oldRightMem rightRevived (same ▸ keyed)).1 _ oldLeftMem wasLive)
    · rcases live_or_revives_of_live_statement oldRightMem rightLive with
        rightWasLive | rightRevived
      · exact absurd same.symm ((alone _ oldLeftMem revived keyed).1 _ oldRightMem rightWasLive)
      · exact ((alone _ oldLeftMem revived keyed).2.1 _ oldRightMem rightRevived same.symm).symm
  · intro entry entryMem keyed _ rowMem live
    rcases (Table.mem_execute _).mp rowMem with ⟨old, oldMem, rfl⟩
    rw [dedupIdentity_statement]
    rcases live_or_revives_of_live_statement oldMem live with wasLive | revived
    · exact inv.unoccupied entry entryMem keyed old oldMem wasLive
    · intro same
      exact (alone old oldMem revived (same ▸ keyed)).2.2 entry entryMem same.symm
  · exact inv.apart

theorem dedupInvariant_step (world : World) (op : Op) (inv : DedupInvariant world)
    (serialised : op.Serialised config world) : DedupInvariant (step config world op) := by
  cases op with
  | beginCreate => exact dedupInvariant_beginCreate inv serialised
  | insertCreated => exact dedupInvariant_insertCreated inv
  | _ => exact dedupInvariant_execute inv serialised

/-- In every run whose creations of one key do not overlap and whose revivals
find their key free, each dedup key has at most one live task. -/
theorem uniqueLive_run (config : TasksConfig) {world : World} {ops : List Op}
    (unique : UniqueLive world.table) (idle : world.inflight = [])
    (serialised : Guarded (step config) (fun current op => op.Serialised config current) world ops)
    : UniqueLive (run (step config) world ops).table := by
  have initial : DedupInvariant world := ⟨unique, by simp [idle], by simp [idle]⟩
  exact (invariant_run dedupInvariant_step initial serialised).unique

/-- A task fails for good, and is requeued after its key has been used again
and that second task has completed. -/
def reusedThenRequeued : List Op :=
  [.beginCreate 1 (.enqueue { taskType := "ingest" } "c1" (some "k") .asynchronous "CATALOG" 7 100),
    .insertCreated 1 100,
    .failTask 110 ⟨7, none, some 100⟩ 110 "boom" false,
    .beginCreate 2
      (.enqueue { taskType := "ingest" } "c1" (some "k") .asynchronous "CATALOG" 8 120),
    .insertCreated 2 120,
    .completeTask ⟨8, none, some 120⟩ 130 none,
    .requeueDeadLetterTask 7 true none none]

theorem uniqueLive_reusedThenRequeued :
    UniqueLive (run (step {}) ⟨Table.empty, []⟩ reusedThenRequeued).table := by
  refine uniqueLive_run {} (by decide) rfl ?_
  decide

def overlappingCreations : List Op :=
  [.beginCreate 1 (.enqueue { taskType := "ingest" } "c1" (some "k") .asynchronous "CATALOG" 7 100),
    .beginCreate 2
      (.enqueue { taskType := "ingest" } "c1" (some "k") .asynchronous "CATALOG" 8 101),
    .insertCreated 1 100,
    .insertCreated 2 101]

def requeuedBesideLive : List Op :=
  [.beginCreate 1 (.enqueue { taskType := "ingest" } "c1" (some "k") .asynchronous "CATALOG" 7 100),
    .insertCreated 1 100,
    .failTask 110 ⟨7, none, some 100⟩ 110 "boom" false,
    .beginCreate 2
      (.enqueue { taskType := "ingest" } "c1" (some "k") .asynchronous "CATALOG" 8 120),
    .insertCreated 2 120,
    .requeueDeadLetterTask 7 true none none]

theorem two_live_rows_of_one_key :
    ¬UniqueLive (run (step {}) ⟨Table.empty, []⟩ overlappingCreations).table ∧
      ¬UniqueLive (run (step {}) ⟨Table.empty, []⟩ requeuedBesideLive).table := by
  decide

end Dynastore.Tasks
