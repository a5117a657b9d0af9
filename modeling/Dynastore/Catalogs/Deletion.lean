import Dynastore.Catalogs.Cascade
import Dynastore.Foundation.Execution
import Dynastore.Foundation.Pool

/-! Registry rows of catalogs and collections are removed in five places: the two forced deletes,
the two creates over a soft-deleted label, and the deprovision step of the core. Each runs its
statements in one transaction, any of which may raise. The cleanup task is inserted on a connection
of its own, so it is committed, and may be run, before the transaction ends. -/

namespace Dynastore.Catalogs

open Execution List Option Pool

/-- A row of `catalog.catalogs`, or, with a collection id, of the `collections` of a tenant. -/
structure RegistryRow where
  catalogId : String
  collectionId : Option String
  externalId : String
  tombstoned : Bool
deriving DecidableEq

namespace RegistryRow

def scopeRef (row : RegistryRow) : ScopeRef :=
  match row.collectionId with
  | none => .ofCatalog row.catalogId
  | some collectionId => .ofCollection row.catalogId collectionId

def tenant (row : RegistryRow) : Option String :=
  row.collectionId.map fun _ => row.catalogId

theorem scopeRef_of_tenant_eq_none {row : RegistryRow} (platform : row.tenant = none) :
    row.scopeRef = .ofCatalog row.catalogId := by
  rw [scopeRef, map_eq_none_iff.mp platform]

end RegistryRow

/-! ## Writes of a transaction -/

inductive RowWrite where
  | insert (row : RegistryRow)
  | tombstone (scopeRef : ScopeRef)
  | delete (scopeRef : ScopeRef)
  /-- The rows of the collections go with the schema. -/
  | dropSchema (catalogId : String)
deriving DecidableEq

namespace RowWrite

def removes : RowWrite → ScopeRef → Bool
  | .delete removed, scopeRef => scopeRef = removed
  | .dropSchema catalogId, scopeRef =>
    scopeRef.scope = .collection ∧ scopeRef.catalogId = catalogId
  | .insert _, _ | .tombstone _, _ => false

def apply (rows : List RegistryRow) : RowWrite → List RegistryRow
  | .insert row => rows ++ [row]
  | .tombstone scopeRef =>
    rows.map fun row => if row.scopeRef = scopeRef then { row with tombstoned := true } else row
  | .delete scopeRef => rows.filter fun row => !(RowWrite.delete scopeRef).removes row.scopeRef
  | .dropSchema catalogId =>
    rows.filter fun row => !(RowWrite.dropSchema catalogId).removes row.scopeRef

end RowWrite

def applyWrites (rows : List RegistryRow) (writes : List RowWrite) : List RegistryRow :=
  writes.foldl RowWrite.apply rows

def Registered (rows : List RegistryRow) (scopeRef : ScopeRef) : Prop :=
  ∃ row ∈ rows, row.scopeRef = scopeRef
deriving Decidable

theorem registered_apply (write : RowWrite) (registered : Registered rows scopeRef)
    (kept : write.removes scopeRef = false) : Registered (write.apply rows) scopeRef := by
  obtain ⟨row, mem, rfl⟩ := registered
  cases write with
  | insert => exact ⟨row, mem_append_left _ mem, rfl⟩
  | tombstone =>
    refine ⟨_, mem_map_of_mem mem, ?_⟩
    split <;> rfl
  | _ =>
    refine ⟨row, mem_filter.mpr ⟨mem, ?_⟩, rfl⟩
    rw [kept]
    rfl

theorem registered_applyWrites (registered : Registered rows scopeRef)
    (kept : ∀ write ∈ writes, write.removes scopeRef = false) :
    Registered (applyWrites rows writes) scopeRef := by
  induction writes generalizing rows with
  | nil => exact registered
  | cons write _ ih =>
    have first := registered_apply write registered (kept write (.head _))
    apply ih first
    intro other mem
    exact kept other (.tail _ mem)

/-! ## Programs -/

inductive Statement where
  | snapshotAndEnqueue (scopeRef : ScopeRef)
  | write (write : RowWrite)
  /-- `DROP SCHEMA … CASCADE`, where the row of the catalog still names one. -/
  | dropSchema (catalogId : String)
  /-- The search of `create_collection` for a soft-deleted holder of the label. -/
  | reclaimCollection (catalogId externalId : String)
  | reclaimCatalog (externalId : String)
  /-- The tombstone of a forced delete, its check that the row exists, and the branch on the
  checklist of the provisioners that are active. -/
  | tombstoneCatalog (catalogId : String) (checklist : List String)
  /-- An event, a hook or a query that touches no registry row. -/
  | other (what : String)

def purgeCollectionStorage (scopeRef : ScopeRef) : List Statement :=
  [.other "resolve_physical_table", .other "destroy_collection",
    .other "hard_destroy_collection", .other "drop_storage", .write (.delete scopeRef),
    .other "delete_collection_metadata", .other "DELETE FROM collection_configs"]

/-- `_purge_catalog_storage`, and with it the deprovision step of `catalog_core`. -/
def purgeCatalogStorage (catalogId : String) : List Statement :=
  [.snapshotAndEnqueue (.ofCatalog catalogId), .dropSchema catalogId,
    .write (.delete (.ofCatalog catalogId))]

inductive Entry where
  | deleteCollection (catalogId collectionId : String)
  | deleteCatalog (catalogId : String) (checklist : List String)
  | createCollection (catalogId collectionId externalId : String)
  | createCatalog (catalogId externalId : String)
  | catalogCoreDeprovision (catalogId : String)

def Entry.program : Entry → List Statement
  | .deleteCollection catalogId collectionId =>
    [.other "resolve_physical_schema", .snapshotAndEnqueue (.ofCollection catalogId collectionId),
      .other "BEFORE_COLLECTION_HARD_DELETION"] ++
    purgeCollectionStorage (.ofCollection catalogId collectionId) ++
    [.other "COLLECTION_HARD_DELETION", .other "AFTER_COLLECTION_HARD_DELETION"]
  | .deleteCatalog catalogId checklist =>
    [.other "list_catalog_configs", .other "BEFORE_CATALOG_HARD_DELETION",
      .tombstoneCatalog catalogId checklist]
  | .createCollection catalogId collectionId externalId =>
    [.other "get_catalog_model", .other "resolve_physical_schema",
      .reclaimCollection catalogId externalId, .other "get_driver_config",
      .write (.insert ⟨catalogId, some collectionId, externalId, false⟩),
      .other "init_collection", .other "set_config", .other "upsert_collection_metadata",
      .other "COLLECTION_CREATION"]
  | .createCatalog catalogId externalId =>
    [.other "BEFORE_CATALOG_CREATION", .reclaimCatalog externalId,
      .write (.insert ⟨catalogId, none, externalId, false⟩), .other "build_checklist",
      .other "create_task"]
  | .catalogCoreDeprovision catalogId => purgeCatalogStorage catalogId

/-- What is looked up before the transaction: `_get_lifecycle` of a collection to delete, and
`_lookup_tombstoned_catalog` of a catalog to deprovision. -/
def Entry.Admitted (rows : List RegistryRow) : Entry → Prop
  | .deleteCollection catalogId collectionId =>
    Registered rows (.ofCollection catalogId collectionId)
  | .catalogCoreDeprovision catalogId => Registered rows (.ofCatalog catalogId)
  | .deleteCatalog .. | .createCollection .. | .createCatalog .. => True

instance (rows : List RegistryRow) : DecidablePred (Entry.Admitted rows)
  | .deleteCollection .. => inferInstanceAs (Decidable (Registered ..))
  | .catalogCoreDeprovision .. => inferInstanceAs (Decidable (Registered ..))
  | .deleteCatalog .. | .createCollection .. | .createCatalog .. => isTrue trivial

/-! ## Transactions -/

/-- An open transaction: the statements to come, what the owners describe while it is open,
its writes, and the scopes it has taken a snapshot of. -/
structure Transaction where
  pending : List Statement
  describe : Describe
  writes : List RowWrite
  snapshots : List ScopeRef

/-- The row would break the primary key of its table, or the label of a live row there. -/
def Conflicts (rows : List RegistryRow) (inserted : RegistryRow) : Prop :=
  ∃ row ∈ rows, row.tenant = inserted.tenant ∧ (row.scopeRef = inserted.scopeRef ∨
      row.tombstoned = false ∧ row.externalId = inserted.externalId)
deriving Decidable

/-- The soft-deleted holder of a label; a query takes the first there is. -/
def tombstonedHolder (rows : List RegistryRow) (tenant : Option String) (externalId : String) :
    Option RegistryRow :=
  rows.find? fun row => row.tombstoned ∧ row.externalId = externalId ∧ row.tenant = tenant

namespace Transaction

variable (registry : List ResourceOwner) (rows : List RegistryRow) (id : Nat)
  (transaction : Transaction) (rest : List Statement)

def next (pending : List Statement) : Transaction × List CascadeTask :=
  ({ transaction with pending }, [])

def nextWrite (write : RowWrite) : Transaction × List CascadeTask :=
  ({ transaction with pending := rest, writes := transaction.writes ++ [write] }, [])

def cascadeTask (scopeRef : ScopeRef) (refs : List CleanupRef) : CascadeTask :=
  { scopeRef, mode := .hard, refs, status := .unfinished, origin := id }

def enqueue (scopeRef : ScopeRef) (refs : List CleanupRef) : Transaction × List CascadeTask :=
  ({ transaction with pending := rest, snapshots := scopeRef :: transaction.snapshots },
    if refs = [] then [] else [cascadeTask id scopeRef refs])

/-- What a statement leaves of the transaction and the task it inserts; nothing where it
raises. The searches for a row come before the first write of their programs. -/
def execute : Statement → Option (Transaction × List CascadeTask)
  | .snapshotAndEnqueue scopeRef =>
    (snapshot registry transaction.describe scopeRef).map (transaction.enqueue id rest scopeRef)
  | .write (.insert row) =>
    if Conflicts (applyWrites rows transaction.writes) row then none
    else some (transaction.nextWrite rest (.insert row))
  | .write write => some (transaction.nextWrite rest write)
  | .dropSchema catalogId =>
    if Registered (applyWrites rows transaction.writes) (.ofCatalog catalogId) then
      some (transaction.nextWrite rest (.dropSchema catalogId))
    else some (transaction.next rest)
  | .reclaimCollection catalogId externalId =>
    match tombstonedHolder rows (some catalogId) externalId with
    | some row => some (transaction.next (purgeCollectionStorage row.scopeRef ++ rest))
    | none => some (transaction.next rest)
  | .reclaimCatalog externalId =>
    match tombstonedHolder rows none externalId with
    | some row => some (transaction.next (purgeCatalogStorage row.catalogId ++ rest))
    | none => some (transaction.next rest)
  | .tombstoneCatalog catalogId checklist =>
    if Registered rows (.ofCatalog catalogId) then
      some (transaction.next ([.write (.tombstone (.ofCatalog catalogId))] ++
        (if checklist = [] then purgeCatalogStorage catalogId
          else [.other "provisioning_checklist", .other "create_task"]) ++
        [.other "CATALOG_METADATA_CHANGED"] ++ rest))
    else some (transaction.next rest)
  | .other _ => some (transaction.next rest)

def removed : List RegistryRow :=
  rows.filter fun row => transaction.writes.any (·.removes row.scopeRef)

end Transaction

/-! ## The machine -/

/-- A committed removal of a registry row, with what its owners described at the time. -/
structure Removal where
  scopeRef : ScopeRef
  refs : List CleanupRef

/-- `removals` and `cleanups` record what has happened; nothing reads them. -/
structure DeletionState where
  rows : List RegistryRow
  tasks : List CascadeTask
  transactions : Pool Transaction
  started : Nat
  removals : List Removal
  cleanups : List (ScopeRef × CleanupRef)

inductive DeletionOp where
  | start (entry : Entry) (describe : Describe)
  /-- The next statement of a transaction, or its commit. -/
  | advance (id : Nat)
  /-- The next statement, or the commit, raises. -/
  | fail (id : Nat)
  /-- A worker runs a cleanup task, and the owners answer. -/
  | runTask (index : Nat) (cleanupOne : CleanupRef → CleanupMode → Option CleanupOutcome)
      (persisted : Bool)
  | softDelete (scopeRef : ScopeRef)

namespace DeletionState

variable (registry : List ResourceOwner) (state : DeletionState)

def start (entry : Entry) (describe : Describe) : DeletionState :=
  if entry.Admitted state.rows then
    { state with
      transactions := state.transactions.put state.started
        { pending := entry.program, describe, writes := [], snapshots := [] }
      started := state.started + 1 }
  else state

def rollback (id : Nat) : DeletionState :=
  { state with transactions := state.transactions.remove id }

def commit (id : Nat) (transaction : Transaction) : DeletionState :=
  { state with
    rows := applyWrites state.rows transaction.writes
    transactions := state.transactions.remove id
    removals := state.removals ++ (transaction.removed state.rows).map fun row =>
      { scopeRef := row.scopeRef
        refs := described registry transaction.describe row.scopeRef } }

def keep (id : Nat) (result : Transaction × List CascadeTask) : DeletionState :=
  { state with
    transactions := state.transactions.put id result.1
    tasks := state.tasks ++ result.2 }

def proceed (id : Nat) (transaction : Transaction) : DeletionState :=
  match transaction.pending with
  | [] => state.commit registry id transaction
  | statement :: rest =>
    match transaction.execute registry state.rows id rest statement with
    | some result => state.keep id result
    | none => state.rollback id

def runTask (index : Nat) (cleanupOne : CleanupRef → CleanupMode → Option CleanupOutcome)
    (persisted : Bool) (task : CascadeTask) : DeletionState :=
  if task.status = .unfinished then
    { state with
      tasks := state.tasks.set index (task.run registry cleanupOne persisted)
      cleanups := state.cleanups ++ (task.calls registry).map fun ref => (task.scopeRef, ref) }
  else state

def step : DeletionOp → DeletionState
  | .start entry describe => state.start entry describe
  | .advance id =>
    match state.transactions id with
    | some transaction => state.proceed registry id transaction
    | none => state
  | .fail id => state.rollback id
  | .runTask index cleanupOne persisted =>
    match state.tasks[index]? with
    | some task => state.runTask registry index cleanupOne persisted task
    | none => state
  | .softDelete scopeRef =>
    { state with rows := (RowWrite.tombstone scopeRef).apply state.rows }

def initial (rows : List RegistryRow) : DeletionState where
  rows
  tasks := []
  transactions := .empty
  started := 0
  removals := []
  cleanups := []

def Removed (scopeRef : ScopeRef) : Prop :=
  ∃ removal ∈ state.removals, removal.scopeRef = scopeRef
deriving Decidable

def Enqueued (scopeRef : ScopeRef) (refs : List CleanupRef) : Prop :=
  ∃ task ∈ state.tasks, task.scopeRef = scopeRef ∧ task.Carries refs
deriving Decidable

/-- Owners are called on the refs of a scope after its row was removed, and each removed row
has a task with the refs of its owners. -/
def CleanupFollowsDeletion : Prop :=
  (∀ call ∈ state.cleanups, state.Removed call.1) ∧ ∀ removal ∈ state.removals, removal.refs ≠ [] →
      state.Enqueued removal.scopeRef removal.refs
deriving Decidable

end DeletionState

def DeletionState.NothingEnqueued (state : DeletionState) (id : Nat) : Prop :=
  ∀ task ∈ state.tasks, task.origin ≠ id
deriving Decidable

/-- A commit removes only rows that the transaction took a snapshot for, or whose owners
describe nothing; a statement raises only before the cleanup task is inserted. -/
def Transaction.Orderly (registry : List ResourceOwner) (state : DeletionState) (id : Nat)
    (transaction : Transaction) : Prop :=
  match transaction.pending with
  | [] => ∀ row ∈ transaction.removed state.rows, row.scopeRef ∉ transaction.snapshots →
      described registry transaction.describe row.scopeRef = []
  | statement :: rest =>
    (transaction.execute registry state.rows id rest statement).isNone → state.NothingEnqueued id

/-- No transaction is rolled back after its cleanup task was inserted, no task is run while the
transaction it was inserted in is open, and commits are orderly. -/
def Orderly (registry : List ResourceOwner) (state : DeletionState) : DeletionOp → Prop
  | .advance id => ∀ transaction ∈ state.transactions id, transaction.Orderly registry state id
  | .fail id => state.NothingEnqueued id
  | .runTask index _ _ => ∀ task ∈ state.tasks[index]?, (state.transactions task.origin).isNone
  | .start .. | .softDelete .. => True

section Deciding

variable (registry : List ResourceOwner) (state : DeletionState)

instance (id : Nat) : (transaction : Transaction) →
    Decidable (transaction.Orderly registry state id)
  | ⟨[], describe, writes, snapshots⟩ =>
    inferInstanceAs (Decidable (∀ row ∈ Transaction.removed state.rows
      ⟨[], describe, writes, snapshots⟩, _ → _))
  | ⟨_ :: _, _, _, _⟩ => inferInstanceAs (Decidable (_ → state.NothingEnqueued id))

instance : (op : DeletionOp) → Decidable (Orderly registry state op)
  | .advance id => inferInstanceAs (Decidable (∀ transaction ∈ state.transactions id, _))
  | .fail .. => inferInstanceAs (Decidable (state.NothingEnqueued _))
  | .runTask index .. => inferInstanceAs (Decidable (∀ task ∈ state.tasks[index]?, _))
  | .start .. | .softDelete .. => isTrue trivial

end Deciding

/-! ## What every step keeps -/

section Invariant

variable {registry : List ResourceOwner} {state after : DeletionState} {transaction : Transaction}

def DeletionState.Known (state : DeletionState) (scopeRef : ScopeRef) : Prop :=
  Registered state.rows scopeRef ∨ state.Removed scopeRef

structure DeletionState.Extends (state after : DeletionState) : Prop where
  known : ∀ scopeRef, state.Known scopeRef → after.Known scopeRef
  removed : ∀ scopeRef, state.Removed scopeRef → after.Removed scopeRef
  enqueued : ∀ scopeRef refs, state.Enqueued scopeRef refs → after.Enqueued scopeRef refs

def Transaction.Describes (transaction : Transaction) (scopeRef : ScopeRef) : Prop :=
  .snapshotAndEnqueue scopeRef ∈ transaction.pending ∨ scopeRef ∈ transaction.snapshots

/-- A snapshot is of a scope that has or had a row, its row is deleted in the same transaction,
and a task carries it. -/
structure Transaction.Sound (registry : List ResourceOwner) (state : DeletionState)
    (transaction : Transaction) : Prop where
  known : ∀ scopeRef, transaction.Describes scopeRef → state.Known scopeRef
  deletes : ∀ scopeRef, transaction.Describes scopeRef →
    .write (.delete scopeRef) ∈ transaction.pending ∨ .delete scopeRef ∈ transaction.writes
  enqueued : ∀ scopeRef ∈ transaction.snapshots,
    described registry transaction.describe scopeRef ≠ [] →
      state.Enqueued scopeRef (described registry transaction.describe scopeRef)

section

variable (sound : transaction.Sound registry state)

include sound

theorem Transaction.Sound.extend
    (extended : state.Extends after) : transaction.Sound registry after where
  known scopeRef describes := extended.known scopeRef (sound.known scopeRef describes)
  deletes := sound.deletes
  enqueued scopeRef taken nonempty :=
    extended.enqueued scopeRef _ (sound.enqueued scopeRef taken nonempty)

theorem Transaction.Sound.move {writes : List RowWrite} (added : List Statement)
    (head : transaction.pending = statement :: rest)
    (kept : ∀ write ∈ transaction.writes, write ∈ writes)
    (done : ∀ scopeRef, statement = .write (.delete scopeRef) → .delete scopeRef ∈ writes)
    (fresh : ∀ scopeRef, .snapshotAndEnqueue scopeRef ∈ added →
      state.Known scopeRef ∧ .write (.delete scopeRef) ∈ added) :
    ({ transaction with pending := added ++ rest, writes } : Transaction).Sound registry state := by
  have older : ∀ scopeRef, .snapshotAndEnqueue scopeRef ∈ rest ∨
      scopeRef ∈ transaction.snapshots → transaction.Describes scopeRef := by
    intro scopeRef describes
    refine describes.imp_left fun mem => ?_
    rw [head]
    exact .tail _ mem
  constructor
  case known =>
    intro scopeRef describes
    rcases describes with mem | taken
    · rcases mem_append.mp mem with new | old
      · exact (fresh scopeRef new).1
      · exact sound.known scopeRef (older scopeRef (.inl old))
    · exact sound.known scopeRef (older scopeRef (.inr taken))
  case deletes =>
    have carried : ∀ scopeRef, transaction.Describes scopeRef →
        .write (.delete scopeRef) ∈ added ++ rest ∨ .delete scopeRef ∈ writes := by
      intro scopeRef describes
      rcases sound.deletes scopeRef describes with mem | written
      · rw [head] at mem
        rcases mem_cons.mp mem with first | later
        · exact .inr (done scopeRef first.symm)
        · exact .inl (mem_append_right _ later)
      · exact .inr (kept _ written)
    intro scopeRef describes
    rcases describes with mem | taken
    · rcases mem_append.mp mem with new | old
      · exact .inl (mem_append_left _ (fresh scopeRef new).2)
      · exact carried scopeRef (older scopeRef (.inl old))
    · exact carried scopeRef (older scopeRef (.inr taken))
  case enqueued => exact sound.enqueued

theorem Transaction.Sound.write {write : RowWrite} (head : transaction.pending = statement :: rest)
    (written : ∀ scopeRef, statement = .write (.delete scopeRef) → write = .delete scopeRef) :
    (transaction.nextWrite rest write).1.Sound registry state := by
  apply sound.move [] head
  · intro _ mem
    exact mem_append_left _ mem
  · intro scopeRef same
    rw [written scopeRef same]
    exact mem_append_right _ (.head _)
  · intro _ mem
    cases mem

theorem Transaction.Sound.enqueue {id : Nat}
    (head : transaction.pending = .snapshotAndEnqueue scopeRef :: rest)
    (taken : snapshot registry transaction.describe scopeRef = some refs)
    (extended : state.Extends after)
    (inserted : ∀ task ∈ (transaction.enqueue id rest scopeRef refs).2, task ∈ after.tasks) :
    (transaction.enqueue id rest scopeRef refs).1.Sound registry after := by
  have older : ∀ other, (transaction.enqueue id rest scopeRef refs).1.Describes other →
      transaction.Describes other := by
    intro other describes
    unfold Transaction.Describes
    rw [head]
    rcases describes with mem | snapshotted
    · exact .inl (.tail _ mem)
    · rcases mem_cons.mp snapshotted with same | before
      · exact .inl (same ▸ mem_cons_self)
      · exact .inr before
  constructor
  case known =>
    intro other describes
    exact extended.known other (sound.known other (older other describes))
  case deletes =>
    intro other describes
    have deleted := sound.deletes other (older other describes)
    rw [head] at deleted
    refine deleted.imp_left fun mem => ?_
    rcases mem_cons.mp mem with first | later
    · cases first
    · exact later
  case enqueued =>
    intro other mem nonempty
    rcases mem_cons.mp mem with same | before
    · subst same
      have whole := described_of_snapshot taken
      change described registry transaction.describe other ≠ [] at nonempty
      change after.Enqueued other (described registry transaction.describe other)
      rw [whole] at nonempty ⊢
      refine ⟨Transaction.cascadeTask id other refs, inserted _ ?_, rfl,
        fun ref held => ⟨ref, held, rfl⟩⟩
      simp [Transaction.enqueue, nonempty]
    · exact extended.enqueued other _ (sound.enqueued other before nonempty)

end

theorem DeletionState.Extends.refl : state.Extends state :=
  ⟨fun _ known => known, fun _ removed => removed, fun _ _ enqueued => enqueued⟩

theorem extends_of_tasks (state : DeletionState) (transactions : Pool Transaction) (started : Nat)
    (cleanups : List (ScopeRef × CleanupRef))
    (kept : ∀ scopeRef refs, state.Enqueued scopeRef refs →
      ∃ task ∈ tasks, task.scopeRef = scopeRef ∧ task.Carries refs) :
    state.Extends { state with tasks, transactions, started, cleanups } :=
  ⟨fun _ known => known, fun _ removed => removed, kept⟩

theorem extends_keep (state : DeletionState) (id : Nat) (result : Transaction × List CascadeTask) :
    state.Extends (state.keep id result) := by
  apply extends_of_tasks
  rintro _ _ ⟨task, mem, carries⟩
  exact ⟨task, mem_append_left _ mem, carries⟩

theorem extends_commit (registry : List ResourceOwner) (state : DeletionState) (id : Nat)
    (transaction : Transaction) : state.Extends (state.commit registry id transaction) := by
  have removedStay : ∀ scopeRef, state.Removed scopeRef →
      (state.commit registry id transaction).Removed scopeRef := by
    rintro scopeRef ⟨removal, mem, same⟩
    exact ⟨removal, List.mem_append_left _ mem, same⟩
  refine ⟨?_, removedStay, fun _ _ enqueued => enqueued⟩
  rintro scopeRef (registered | removed)
  · by_cases gone : transaction.writes.any (·.removes scopeRef)
    · obtain ⟨row, mem, rfl⟩ := registered
      refine .inr ⟨_, List.mem_append_right _ (List.mem_map_of_mem (a := row) ?_), rfl⟩
      exact List.mem_filter.mpr ⟨mem, gone⟩
    · refine .inl (registered_applyWrites registered fun write written => ?_)
      simp only [List.any_eq_true, not_exists, not_and, Bool.not_eq_true] at gone
      exact gone write written
  · exact .inr (removedStay scopeRef removed)

theorem extends_softDelete (state : DeletionState) (scopeRef : ScopeRef) :
    state.Extends { state with rows := (RowWrite.tombstone scopeRef).apply state.rows } := by
  refine ⟨?_, fun _ removed => removed, fun _ _ enqueued => enqueued⟩
  intro _ known
  exact known.imp_left fun registered =>
    registered_apply (.tombstone scopeRef) registered rfl

variable {task : CascadeTask}

theorem extends_runTask (registry : List ResourceOwner)
    (cleanupOne : CleanupRef → CleanupMode → Option CleanupOutcome) (persisted : Bool)
    (found : state.tasks[index]? = some task) :
    state.Extends (state.runTask registry index cleanupOne persisted task) := by
  unfold DeletionState.runTask
  split
  · apply extends_of_tasks
    rintro _ _ ⟨other, mem, same, carries⟩
    obtain ⟨place, placed⟩ := mem_iff_getElem?.mp mem
    by_cases here : place = index
    · subst here
      obtain rfl : task = other := some.inj (found.symm.trans placed)
      refine ⟨_, List.mem_set (List.getElem?_eq_some_iff.mp found).1 _,
        (CascadeTask.scopeRef_run).trans same, carries.run persisted⟩
    · refine ⟨other, mem_iff_getElem?.mpr ⟨place, ?_⟩, same, carries⟩
      rw [getElem?_set_ne (Ne.symm here)]
      exact placed
  · exact .refl

theorem snapshots_purgeCatalogStorage
    (mem : .snapshotAndEnqueue scopeRef ∈ purgeCatalogStorage catalogId) :
    scopeRef = .ofCatalog catalogId ∧
      .write (.delete scopeRef) ∈ purgeCatalogStorage catalogId := by
  simp only [purgeCatalogStorage, mem_cons, Statement.snapshotAndEnqueue.injEq,
    reduceCtorEq, not_mem_nil, or_false] at mem
  exact ⟨mem, by simp [purgeCatalogStorage, mem]⟩

/-- A statement takes a snapshot, writes a row, or puts statements in front of the rest; these
delete the row of each scope they take a snapshot of. -/
theorem Transaction.execute_cases {id : Nat}
    (executed : transaction.execute registry rows id rest statement = some result) :
    (∃ scopeRef refs, statement = .snapshotAndEnqueue scopeRef ∧
      snapshot registry transaction.describe scopeRef = some refs ∧
      result = transaction.enqueue id rest scopeRef refs) ∨
    (∃ write, (∀ scopeRef, statement = .write (.delete scopeRef) → write = .delete scopeRef) ∧
      result = transaction.nextWrite rest write) ∨
    ∃ added, (∀ scopeRef, statement ≠ .write (.delete scopeRef)) ∧
      (∀ scopeRef, .snapshotAndEnqueue scopeRef ∈ added →
        Registered rows scopeRef ∧ .write (.delete scopeRef) ∈ added) ∧
      result = transaction.next (added ++ rest) := by
  cases statement with
  | snapshotAndEnqueue scopeRef =>
    obtain ⟨refs, taken, rfl⟩ := map_eq_some_iff.mp executed
    exact .inl ⟨scopeRef, refs, rfl, taken, rfl⟩
  | write write =>
    refine .inr (.inl ⟨write, fun _ same => Statement.write.inj same, ?_⟩)
    cases write with
    | insert =>
      simp only [Transaction.execute] at executed
      split at executed
      · cases executed
      · exact (some.inj executed).symm
    | _ => exact (some.inj executed).symm
  | dropSchema =>
    simp only [Transaction.execute] at executed
    split at executed
    · cases executed
      exact .inr (.inl ⟨_, by simp, rfl⟩)
    · cases executed
      exact .inr (.inr ⟨[], by simp, by simp, rfl⟩)
  | reclaimCollection =>
    simp only [Transaction.execute] at executed
    split at executed
    · cases executed
      refine .inr (.inr ⟨_, by simp, ?_, rfl⟩)
      simp [purgeCollectionStorage]
    · cases executed
      exact .inr (.inr ⟨[], by simp, by simp, rfl⟩)
  | reclaimCatalog =>
    simp only [Transaction.execute] at executed
    split at executed
    next row found =>
      cases executed
      refine .inr (.inr ⟨_, by simp, ?_, rfl⟩)
      intro scopeRef mem
      obtain ⟨rfl, deleted⟩ := snapshots_purgeCatalogStorage mem
      have matched := find?_some found
      simp only [decide_eq_true_eq] at matched
      rw [← RegistryRow.scopeRef_of_tenant_eq_none matched.2.2] at deleted ⊢
      exact ⟨⟨row, mem_of_find?_eq_some found, rfl⟩, deleted⟩
    · cases executed
      exact .inr (.inr ⟨[], by simp, by simp, rfl⟩)
  | tombstoneCatalog catalogId checklist =>
    simp only [Transaction.execute] at executed
    split at executed
    next present =>
      cases executed
      refine .inr (.inr ⟨_, by simp, ?_, rfl⟩)
      intro scopeRef mem
      by_cases none : checklist = []
      · have purged : .snapshotAndEnqueue scopeRef ∈ purgeCatalogStorage catalogId := by
          simpa [none] using mem
        obtain ⟨rfl, deleted⟩ := snapshots_purgeCatalogStorage purged
        exact ⟨present, by simp [deleted, none]⟩
      · simp [none] at mem
    · cases executed
      exact .inr (.inr ⟨[], by simp, by simp, rfl⟩)
  | other =>
    cases executed
    exact .inr (.inr ⟨[], by simp, by simp, rfl⟩)

theorem Transaction.Sound.execute {id : Nat}
    (sound : transaction.Sound registry state) (head : transaction.pending = statement :: rest)
    (executed : transaction.execute registry state.rows id rest statement = some result) :
    result.1.Sound registry (state.keep id result) := by
  have extended := extends_keep state id result
  rcases Transaction.execute_cases executed with
    ⟨scopeRef, refs, rfl, taken, rfl⟩ | ⟨write, written, rfl⟩ | ⟨added, inert, fresh, rfl⟩
  · exact sound.enqueue head taken extended fun _ mem => mem_append_right _ mem
  · exact (sound.write head written).extend extended
  · refine (sound.move added head (fun _ mem => mem)
      (fun scopeRef same => absurd same (inert scopeRef)) ?_).extend extended
    intro scopeRef mem
    exact (fresh scopeRef mem).imp_left .inl

theorem tasks_of_execute {id : Nat}
    (executed : transaction.execute registry rows id rest statement = some result) :
    (∀ task ∈ result.2, task.origin = id ∧ task.scopeRef ∈ result.1.snapshots) ∧
      ∀ scopeRef ∈ transaction.snapshots, scopeRef ∈ result.1.snapshots := by
  rcases Transaction.execute_cases executed with
    ⟨scopeRef, refs, _, _, rfl⟩ | ⟨write, _, rfl⟩ | ⟨added, _, _, rfl⟩
  · constructor
    · intro _ mem
      simp only [Transaction.enqueue, mem_ite_nil_left, mem_singleton] at mem
      rw [mem.2]
      exact ⟨rfl, mem_cons_self⟩
    · exact fun _ mem => .tail _ mem
  · simp [Transaction.nextWrite]
  · simp [Transaction.next]

/-! ## The invariant -/

structure DeletionInvariant (registry : List ResourceOwner) (state : DeletionState) : Prop where
  sound : ∀ id transaction, state.transactions id = some transaction →
    transaction.Sound registry state ∧ id < state.started
  begun : ∀ task ∈ state.tasks, task.origin < state.started
  /-- A task is for a removed scope, or its transaction is still open. -/
  settled : ∀ task ∈ state.tasks, state.Removed task.scopeRef ∨ ∃ transaction,
    state.transactions task.origin = some transaction ∧ task.scopeRef ∈ transaction.snapshots
  follows : state.CleanupFollowsDeletion

theorem deletionInvariant_initial :
    DeletionInvariant registry (.initial rows) where
  sound id transaction found := by cases found
  begun task mem := by cases mem
  settled task mem := by cases mem
  follows := by
    constructor
    · intro _ mem
      cases mem
    · intro _ mem
      cases mem

theorem sound_program {entry : Entry} (admitted : entry.Admitted state.rows) (describe : Describe) :
    (⟨entry.program, describe, [], []⟩ : Transaction).Sound registry state := by
  have described : ∀ scopeRef, .snapshotAndEnqueue scopeRef ∈ entry.program →
      state.Known scopeRef ∧ .write (.delete scopeRef) ∈ entry.program := by
    intro scopeRef mem
    cases entry with
    | deleteCollection catalogId collectionId =>
      obtain rfl : scopeRef = .ofCollection catalogId collectionId := by
        simpa [Entry.program, purgeCollectionStorage] using mem
      exact ⟨.inl admitted, by simp [Entry.program, purgeCollectionStorage]⟩
    | catalogCoreDeprovision =>
      obtain ⟨rfl, deleted⟩ := snapshots_purgeCatalogStorage mem
      exact ⟨.inl admitted, deleted⟩
    | _ => simp [Entry.program] at mem
  constructor
  case known =>
    rintro scopeRef (mem | taken)
    · exact (described scopeRef mem).1
    · cases taken
  case deletes =>
    rintro scopeRef (mem | taken)
    · exact .inl (described scopeRef mem).2
    · cases taken
  case enqueued =>
    intro _ taken
    cases taken

section

variable (inv : DeletionInvariant registry state)

include inv

theorem DeletionInvariant.extend {id : Nat} (extended : state.Extends after)
    (opened : state.transactions id = some transaction) :
    transaction.Sound registry after ∧ id < state.started :=
  (inv.sound id transaction opened).imp_left (·.extend extended)

theorem DeletionInvariant.start (entry : Entry)
    (describe : Describe) : DeletionInvariant registry (state.start entry describe) := by
  unfold DeletionState.start
  split
  next admitted =>
    have unchanged := extends_of_tasks state
      (state.transactions.put state.started ⟨entry.program, describe, [], []⟩)
      (state.started + 1) state.cleanups (fun _ _ enqueued => enqueued)
    refine ⟨?_, fun task mem => Nat.lt_succ_of_lt (inv.begun task mem), ?_, inv.follows⟩
    · intro _ transaction found
      rcases put_cases found with ⟨rfl, rfl⟩ | ⟨_, found⟩
      · exact ⟨(sound_program admitted describe).extend unchanged, Nat.lt_succ_self _⟩
      · exact (inv.extend unchanged found).imp_right Nat.lt_succ_of_lt
    · intro task mem
      refine (inv.settled task mem).imp_right ?_
      rintro ⟨transaction, found, taken⟩
      exact ⟨transaction, (put_of_ne (Nat.ne_of_lt (inv.begun task mem))).trans found, taken⟩
  · exact inv

/-- What a run of a task cleans up is removed, since its transaction has ended. -/
theorem DeletionInvariant.runTask (cleanupOne : CleanupRef → CleanupMode → Option CleanupOutcome)
    (persisted : Bool) (found : state.tasks[index]? = some task)
    (ended : state.transactions task.origin = none) :
    DeletionInvariant registry (state.runTask registry index cleanupOne persisted task) := by
  have extended := extends_runTask registry cleanupOne persisted found
  have removed : state.Removed task.scopeRef := by
    rcases inv.settled task (mem_of_getElem? found) with removed | inside
    · exact removed
    · obtain ⟨_, opened, _⟩ := inside
      rw [ended] at opened
      cases opened
  unfold DeletionState.runTask at extended ⊢
  split at extended
  next unfinished =>
    rw [if_pos unfinished]
    have older : ∀ other ∈ state.tasks.set index (task.run registry cleanupOne persisted),
        ∃ before ∈ state.tasks, before.scopeRef = other.scopeRef ∧
          before.origin = other.origin := by
      intro other mem
      rcases mem_or_eq_of_mem_set mem with kept | changed
      · exact ⟨other, kept, rfl, rfl⟩
      · exact ⟨task, mem_of_getElem? found, by rw [changed, CascadeTask.scopeRef_run],
          by rw [changed, CascadeTask.origin_run]⟩
    constructor
    case sound => exact fun _ _ opened => inv.extend extended opened
    case begun =>
      intro other mem
      obtain ⟨before, kept, _, origin⟩ := older other mem
      exact origin ▸ inv.begun before kept
    case settled =>
      intro other mem
      obtain ⟨before, kept, scopeRef, origin⟩ := older other mem
      exact scopeRef ▸ origin ▸ inv.settled before kept
    case follows =>
      constructor
      · intro call mem
        rcases mem_append.mp mem with old | new
        · exact inv.follows.1 call old
        · obtain ⟨_, _, rfl⟩ := mem_map.mp new
          exact removed
      · intro removal mem nonempty
        exact extended.enqueued _ _ (inv.follows.2 removal mem nonempty)
  next finished =>
    rw [if_neg finished]
    exact inv

theorem DeletionInvariant.rollback {id : Nat} (none : ∀ task ∈ state.tasks, task.origin ≠ id) :
    DeletionInvariant registry (state.rollback id) where
  sound _ _ found := inv.extend (extends_of_tasks _ _ _ _ fun _ _ enqueued => enqueued)
    (of_remove_eq_some found)
  begun := inv.begun
  settled := by
    intro task mem
    refine (inv.settled task mem).imp_right ?_
    rintro ⟨transaction, found, taken⟩
    exact ⟨transaction, (remove_of_ne (none task mem)).trans found, taken⟩
  follows := inv.follows

theorem DeletionInvariant.keep {id : Nat} (opened : state.transactions id = some transaction)
    (head : transaction.pending = statement :: rest)
    (executed : transaction.execute registry state.rows id rest statement = some result) :
    DeletionInvariant registry (state.keep id result) := by
  have extended := extends_keep state id result
  obtain ⟨soundHere, belowHere⟩ := inv.sound id transaction opened
  obtain ⟨inserted, snapshotsStay⟩ := tasks_of_execute executed
  constructor
  case sound =>
    intro _ _ found
    rcases put_cases found with ⟨rfl, rfl⟩ | ⟨_, found⟩
    · exact ⟨soundHere.execute head executed, belowHere⟩
    · exact inv.extend extended found
  case begun =>
    intro task mem
    rcases mem_append.mp mem with old | new
    · exact inv.begun task old
    · rw [(inserted task new).1]
      exact belowHere
  case settled =>
    intro task mem
    rcases mem_append.mp mem with old | new
    · refine (inv.settled task old).imp_right ?_
      rintro ⟨before, found, taken⟩
      by_cases here : task.origin = id
      · rw [here, opened] at found
        cases found
        exact ⟨result.1, if_pos here, snapshotsStay _ taken⟩
      · exact ⟨before, (put_of_ne here).trans found, taken⟩
    · exact .inr ⟨result.1, if_pos (inserted task new).1, (inserted task new).2⟩
  case follows =>
    refine ⟨inv.follows.1, ?_⟩
    intro removal mem nonempty
    exact extended.enqueued _ _ (inv.follows.2 removal mem nonempty)

omit inv in
theorem removed_commit {id : Nat} (sound : transaction.Sound registry state)
    (finished : transaction.pending = []) (taken : scopeRef ∈ transaction.snapshots) :
    (state.commit registry id transaction).Removed scopeRef := by
  have deleted : .delete scopeRef ∈ transaction.writes := by
    rcases sound.deletes scopeRef (.inr taken) with pending | written
    · rw [finished] at pending
      cases pending
    · exact written
  rcases sound.known scopeRef (.inr taken) with registered | removed
  · obtain ⟨row, mem, rfl⟩ := registered
    refine ⟨_, mem_append_right _ (mem_map_of_mem (a := row) ?_), rfl⟩
    refine mem_filter.mpr ⟨mem, any_eq_true.mpr ⟨_, deleted, ?_⟩⟩
    simp [RowWrite.removes]
  · exact (extends_commit registry state id transaction).removed scopeRef removed

theorem DeletionInvariant.commit {id : Nat}
    (opened : state.transactions id = some transaction) (finished : transaction.pending = [])
    (covered : ∀ row ∈ transaction.removed state.rows, row.scopeRef ∉ transaction.snapshots →
      described registry transaction.describe row.scopeRef = []) :
    DeletionInvariant registry (state.commit registry id transaction) := by
  have extended := extends_commit registry state id transaction
  obtain ⟨soundHere, _⟩ := inv.sound id transaction opened
  constructor
  case sound =>
    exact fun _ _ found => inv.extend extended (of_remove_eq_some found)
  case begun => exact inv.begun
  case settled =>
    intro task mem
    rcases inv.settled task mem with removed | ⟨before, found, taken⟩
    · exact .inl (extended.removed _ removed)
    · by_cases here : task.origin = id
      · rw [here, opened] at found
        cases found
        exact .inl (removed_commit soundHere finished taken)
      · exact .inr ⟨before, (remove_of_ne here).trans found, taken⟩
  case follows =>
    constructor
    · intro call mem
      exact extended.removed _ (inv.follows.1 call mem)
    · intro removal mem nonempty
      rcases mem_append.mp mem with old | new
      · exact inv.follows.2 removal old nonempty
      · obtain ⟨row, gone, rfl⟩ := mem_map.mp new
        by_cases taken : row.scopeRef ∈ transaction.snapshots
        · exact soundHere.enqueued row.scopeRef taken nonempty
        · exact absurd (covered row gone taken) nonempty

theorem DeletionInvariant.step (orderly : Orderly registry state op) :
    DeletionInvariant registry (state.step registry op) := by
  cases op with
  | start entry describe => exact inv.start entry describe
  | advance =>
    simp only [DeletionState.step]
    split
    next transaction opened =>
      have proceeds := orderly transaction opened
      unfold Transaction.Orderly at proceeds
      unfold DeletionState.proceed
      split at proceeds
      next finished => exact inv.commit opened finished proceeds
      next head =>
        split
        next executed => exact inv.keep opened head executed
        next raised =>
          rw [raised] at proceeds
          exact inv.rollback (proceeds rfl)
    · exact inv
  | fail => exact inv.rollback orderly
  | runTask _ cleanupOne persisted =>
    simp only [DeletionState.step]
    split
    next task found =>
      exact inv.runTask cleanupOne persisted found (isNone_iff_eq_none.mp (orderly task found))
    · exact inv
  | softDelete scopeRef =>
    have extended := extends_softDelete state scopeRef
    exact { inv with sound := fun _ _ opened => inv.extend extended opened }

end

end Invariant

/-- In every run whose steps are orderly, cleanup follows the committed deletion, and each
committed deletion is followed by its cleanup task. -/
theorem cleanup_follows_deletion_of_orderly (registry : List ResourceOwner)
    (rows : List RegistryRow) (ops : List DeletionOp)
    (orderly : Guarded (DeletionState.step registry) (Orderly registry) (.initial rows) ops) :
    (run (DeletionState.step registry) (.initial rows) ops).CleanupFollowsDeletion := by
  have kept : ∀ state op, DeletionInvariant registry state → Orderly registry state op →
      DeletionInvariant registry (state.step registry op) := by
    intro _ _ inv orderly
    exact inv.step orderly
  exact (invariant_run kept deletionInvariant_initial orderly).follows

/-! ## Runs on a collection with one index -/

/-- `storage.routing_driven`, the owner that drops what the configured drivers hold. -/
def routingDrivenOwner : ResourceOwner :=
  ⟨"storage.routing_driven", [.catalog, .collection]⟩

def indexRef : CleanupRef :=
  ⟨"storage_driver", "items_elasticsearch_driver", "storage.routing_driven",
    [("registry", .text "items")], 0⟩

def describeIndex : Describe := fun _ scopeRef =>
  if scopeRef.scope = .collection then some [indexRef] else some []

def roads (tombstoned : Bool) : List RegistryRow :=
  [⟨"c_2222222222222", none, "survey", false⟩,
    ⟨"c_2222222222222", some "col_2222222222222", "roads", tombstoned⟩]

def succeeds : CleanupRef → CleanupMode → Option CleanupOutcome := fun _ _ => some .done

def deleteThenClean : List DeletionOp :=
  [.start (.deleteCollection "c_2222222222222" "col_2222222222222") describeIndex] ++
    List.replicate 13 (.advance 0) ++ [.runTask 0 succeeds true]

theorem cleanup_follows_deletion_deleteThenClean :
    Guarded (DeletionState.step [routingDrivenOwner]) (Orderly [routingDrivenOwner])
        (.initial (roads false)) deleteThenClean ∧
      (run (DeletionState.step [routingDrivenOwner]) (.initial (roads false))
        deleteThenClean).CleanupFollowsDeletion ∧
      (run (DeletionState.step [routingDrivenOwner]) (.initial (roads false))
        deleteThenClean).cleanups = [(.ofCollection "c_2222222222222" "col_2222222222222",
          indexRef)] := by
  have orderly : Guarded (DeletionState.step [routingDrivenOwner])
      (Orderly [routingDrivenOwner]) (.initial (roads false)) deleteThenClean := by
    decide +kernel
  exact ⟨orderly, cleanup_follows_deletion_of_orderly [routingDrivenOwner] (roads false)
    deleteThenClean orderly, by decide +kernel⟩

def cleanAfterRollback : List DeletionOp :=
  [.start (.deleteCollection "c_2222222222222" "col_2222222222222") describeIndex] ++
    List.replicate 6 (.advance 0) ++ [.fail 0, .runTask 0 succeeds true]

def reclaimRoads : List DeletionOp :=
  [.start (.createCollection "c_2222222222222" "col_3333333333333" "roads") describeIndex] ++
    List.replicate 17 (.advance 0)

/-- The index of a collection that is still there is dropped, and the index of one that is
gone has no cleanup task. -/
theorem cleanup_without_deletion_and_deletion_without_cleanup :
    let kept := run (DeletionState.step [routingDrivenOwner]) (.initial (roads false))
      cleanAfterRollback
    let reclaimed := run (DeletionState.step [routingDrivenOwner]) (.initial (roads true))
      reclaimRoads
    (kept.rows = roads false ∧
      kept.cleanups = [(.ofCollection "c_2222222222222" "col_2222222222222", indexRef)] ∧
      ¬ kept.CleanupFollowsDeletion) ∧
    reclaimed.tasks.length = 0 ∧
      reclaimed.Removed (.ofCollection "c_2222222222222" "col_2222222222222") ∧
      ¬ reclaimed.CleanupFollowsDeletion := by
  decide +kernel

end Dynastore.Catalogs
