import Dynastore.Caching.Row
import Dynastore.Catalogs.Labels

/-! `resolve_catalog_id` and `resolve_collection_id` look a label up through a cache. A rename, a
forced delete of a catalog and `create_collection` drop the labels they know of from the cache once
they have committed; `create_catalog` and a soft delete of a catalog do so before, inside the
transaction, and `delete_collection` drops none. A collection is looked up, and cached, under the
catalog id of the call, which may be the internal id or the label of the catalog; a rename drops the
former only. What the lookup of the schema of a collection answers is left open: without one nothing
is cached and no id is answered, as in a lookup that fails, and with the schema of another catalog
the lookup returns what it finds there. -/

namespace Dynastore.Catalogs

open Execution Caching

inductive LabelKey where
  | catalog (externalId : String)
  | collection (catalogId externalId : String)
deriving DecidableEq

/-- The schema of the catalog that an id names: internal ids come first. -/
def LabelRegistry.schemaNamed (registry : LabelRegistry) (catalogId : String) : String :=
  if (registry.catalogs.liveRow catalogId).isSome then catalogId
  else registry.toInternalCatalogId catalogId

def LabelRegistry.holder (registry : LabelRegistry) : LabelKey → Option String
  | .catalog externalId => registry.resolveCatalogId externalId
  | .collection catalogId externalId =>
    (registry.collections (registry.schemaNamed catalogId)).resolve externalId

def lookupResult (holder : Option String) : Value :=
  holder.elim .null .text

/-! ## Operations -/

/-- An operation with the internal ids that it has resolved before its transaction. -/
inductive LabelWrite where
  | createCatalog (externalId : String) (uuids : List Nat)
  | createCollection (catalogId externalId : String) (uuids : List Nat)
  | renameCatalog (internalId newExternalId : String)
  | renameCollection (catalogInternalId collectionInternalId newExternalId : String)
  | deleteCatalog (externalId internalId : String) (force : Bool) (checklist : List String)
  | deleteCollection (catalogId collectionId : String) (force : Bool)
deriving DecidableEq

def LabelWrite.commit (registry : LabelRegistry) : LabelWrite → Option LabelRegistry
  | .createCatalog externalId uuids => registry.createCatalog externalId uuids
  | .createCollection catalogId externalId uuids =>
    registry.createCollection catalogId externalId uuids
  | .renameCatalog internalId newExternalId => registry.renameCatalog internalId newExternalId
  | .renameCollection catalogInternalId collectionInternalId newExternalId =>
    registry.renameCollection catalogInternalId collectionInternalId newExternalId
  | .deleteCatalog _ internalId force checklist =>
    if force && checklist.isEmpty then some (registry.purgeCatalog internalId)
    else some { registry with catalogs := registry.catalogs.retire internalId }
  | .deleteCollection catalogId collectionId force =>
    some (registry.deleteCollectionRow catalogId collectionId force)

inductive LabelAction where
  | commit (write : LabelWrite)
  | drop (key : LabelKey)
deriving DecidableEq

def renameActions (write : LabelWrite) (table : LabelTable) (id newExternalId : String)
    (key : String → LabelKey) : List LabelAction :=
  match table.liveRow id with
  | some row =>
    if row.label = newExternalId then []
    else [.commit write, .drop (key row.label), .drop (key newExternalId)]
  | none => []

def LabelWrite.actions (registry : LabelRegistry) (write : LabelWrite) : List LabelAction :=
  match write with
  | .createCatalog externalId _ => [.drop (.catalog externalId), .commit write]
  | .createCollection catalogId externalId _ =>
    [.commit write, .drop (.collection catalogId externalId)]
  | .renameCatalog internalId newExternalId =>
    renameActions write registry.catalogs internalId newExternalId .catalog
  | .renameCollection catalogInternalId collectionInternalId newExternalId =>
    renameActions write (registry.collections catalogInternalId) collectionInternalId
      newExternalId (.collection catalogInternalId)
  | .deleteCatalog externalId _ force _ =>
    if force then [.commit write, .drop (.catalog externalId)]
    else [.drop (.catalog externalId), .commit write]
  | .deleteCollection .. => [.commit write]

/-! ## The service -/

/-- The registry, the cached lookup of each label, and what the operations under way have left
to do. -/
structure ResolveState where
  registry : LabelRegistry
  rows : LabelKey → CachedRow
  operations : Pool (List LabelAction)

inductive ResolveOp where
  /-- A step of a resolve call, of the lookup it waits for or of a clear. -/
  | lookup (key : LabelKey) (op : CachedOp)
  | select (key : LabelKey) (id : Nat)
  | finish (key : LabelKey) (id : Nat) (succeeds : Bool) (ttl : Option Int) (version write : Nat)
  /-- A lookup that was given the schema of another catalog returns what it has read there. -/
  | finishElsewhere (key : LabelKey) (id : Nat) (found : Option String) (ttl : Option Int)
      (version write : Nat)
  | start (id : Nat) (write : LabelWrite)
  | act (id clear : Nat) (loopRunning : Bool)
  /-- A transaction is rolled back. -/
  | abandon (id : Nat)

namespace ResolveState

variable (state : ResolveState)

def rowOp : ResolveOp → LabelKey → Option RowOp
  | .lookup key op, other => if other = key then some (.cache op) else none
  | .select key id, other => if other = key then some (.select id) else none
  | .finish key id succeeds ttl version write, other =>
    if other = key then some (.finish id succeeds ttl version write) else none
  | .act id clear loopRunning, other =>
    match state.operations id with
    | some (.drop key :: rest) =>
      if other = key then
        some (.invalidate clear loopRunning (rest.all (· matches .drop _)))
      else none
    | some (.commit write :: rest) =>
      let holder := ((write.commit state.registry).getD state.registry).holder other
      if holder = state.registry.holder other then none
      else some (.commit (lookupResult holder) (!rest.contains (.drop other)))
    | _ => none
  | _, _ => none

def nextRegistry : ResolveOp → LabelRegistry
  | .act id _ _ =>
    match state.operations id with
    | some (.commit write :: _) => (write.commit state.registry).getD state.registry
    | _ => state.registry
  | _ => state.registry

def nextOperations : ResolveOp → Pool (List LabelAction)
  | .start id write =>
    if (state.operations id).isSome then state.operations
    else state.operations.put id (write.actions state.registry)
  | .act id _ _ =>
    match state.operations id with
    | some (.commit write :: rest) =>
      if (write.commit state.registry).isSome then state.operations.put id rest
      else state.operations.remove id
    | some (.drop _ :: rest) => state.operations.put id rest
    | _ => state.operations.remove id
  | .abandon id => state.operations.remove id
  | _ => state.operations

def nextRow (config : LabelKey → CachedConfig) (op : ResolveOp) (key : LabelKey) : CachedRow :=
  match op with
  | .finishElsewhere other id found ttl version write =>
    if key = other then
      (state.rows key).advance (config key)
        (.finish id (some (lookupResult found)) ttl version write)
    else state.rows key
  | _ => (state.rowOp op key).elim (state.rows key) ((state.rows key).step (config key))

def step (config : LabelKey → CachedConfig) (state : ResolveState) (op : ResolveOp) :
    ResolveState where
  registry := state.nextRegistry op
  rows := state.nextRow config op
  operations := state.nextOperations op

def initial (registry : LabelRegistry) : ResolveState where
  registry
  rows key := .start (lookupResult (registry.holder key))
  operations := .empty

/-- Where every operation that changed the holder of the label is through, the calls that have
started since answer with nothing or with the live row that carries the label. -/
def ResolvesLive (key : LabelKey) : Prop :=
  (state.rows key).required = (state.rows key).version → ∀ answer ∈ (state.rows key).cached.answers,
      (state.rows key).cached.floor ≤ answer.since →
        ∀ id, answer.produced.value = .text id → state.registry.holder key = some id

end ResolveState

/-- The steps of each lookup are undisturbed, and no lookup works in the schema of a catalog that
its catalog id does not name. -/
structure LabelsUndisturbed (config : LabelKey → CachedConfig) (state : ResolveState)
    (op : ResolveOp) : Prop where
  rows : ∀ key rowOp, state.rowOp op key = some rowOp →
    Undisturbed (config key) (state.rows key) rowOp
  inPlace : ∀ key id found ttl version write,
    op ≠ .finishElsewhere key id found ttl version write

/-! ## What every step keeps -/

section Invariant

variable {config : LabelKey → CachedConfig} {state : ResolveState} {key : LabelKey}

structure ResolveInvariant (config : LabelKey → CachedConfig) (state : ResolveState) : Prop where
  rows : ∀ key, RowInvariant (config key) (state.rows key)
  current : ∀ key, (state.rows key).rowAt (state.rows key).version =
    lookupResult (state.registry.holder key)

theorem ResolveState.rowOp_cases (state : ResolveState) (op : ResolveOp) (key : LabelKey) :
    (state.rowOp op key = none ∧ (state.nextRegistry op).holder key = state.registry.holder key) ∨
      (∃ rowOp, state.rowOp op key = some rowOp ∧ (∀ value through, rowOp ≠ .commit value through) ∧
        state.nextRegistry op = state.registry) ∨
      ∃ through, state.rowOp op key =
        some (.commit (lookupResult ((state.nextRegistry op).holder key)) through) := by
  cases op with
  | lookup other op | select other id | finish other id succeeds ttl version write =>
    by_cases same : key = other
    · exact .inr (.inl ⟨_, if_pos same, nofun, rfl⟩)
    · exact .inl ⟨if_neg same, rfl⟩
  | act id =>
    simp only [ResolveState.rowOp, ResolveState.nextRegistry]
    rcases state.operations id with _ | _ | ⟨action, _⟩
    · exact .inl ⟨rfl, rfl⟩
    · exact .inl ⟨rfl, rfl⟩
    · cases action with
      | drop other =>
        by_cases same : key = other
        · exact .inr (.inl ⟨_, if_pos same, nofun, rfl⟩)
        · exact .inl ⟨if_neg same, rfl⟩
      | commit write =>
        by_cases same : ((write.commit state.registry).getD state.registry).holder key =
            state.registry.holder key
        · exact .inl ⟨if_pos same, same⟩
        · exact .inr (.inr ⟨_, if_neg same⟩)
  | _ => exact .inl ⟨rfl, rfl⟩

theorem LabelsUndisturbed.nextRow (undisturbed : LabelsUndisturbed config state op)
    (key : LabelKey) : state.nextRow config op key =
      (state.rowOp op key).elim (state.rows key) ((state.rows key).step (config key)) := by
  unfold ResolveState.nextRow
  split
  next id found ttl version write =>
    exact absurd rfl (undisturbed.inPlace _ id found ttl version write)
  · rfl

theorem ResolveInvariant.step (inv : ResolveInvariant config state) (op : ResolveOp)
    (undisturbed : LabelsUndisturbed config state op) :
    ResolveInvariant config (state.step config op) where
  rows key := by
    unfold ResolveState.step
    simp only [undisturbed.nextRow key]
    cases effect : state.rowOp op key with
    | none => simpa [effect] using inv.rows key
    | some rowOp =>
      simpa [effect] using (inv.rows key).step rowOp (undisturbed.rows key rowOp effect)
  current key := by
    have current := inv.current key
    unfold ResolveState.step
    simp only [undisturbed.nextRow key]
    rcases state.rowOp_cases op key with ⟨effect, same⟩ | ⟨rowOp, effect, reads, same⟩ |
      ⟨through, effect⟩
    · simpa [effect, same] using current
    · rcases (state.rows key).step_cases (config key) rowOp with
        ⟨value, through, rfl⟩ | ⟨rowAt, version⟩
      · exact absurd rfl (reads value through)
      · simpa [effect, same, rowAt, version] using current
    · cases through <;> simp [effect, CachedRow.step, CachedRow.commit, CachedRow.demand]

theorem ResolveInvariant.resolvesLive (inv : ResolveInvariant config state)
    (key : LabelKey) : state.ResolvesLive key := by
  intro settled _ mem since _ given
  obtain ⟨version, asked, current, value⟩ :=
    CachedRow.exists_version_of_answer (inv.rows key) (inv.rows key).covers mem
      since
  have latest : version = (state.rows key).version := Nat.le_antisymm current (settled ▸ asked)
  rw [latest, inv.current key, given] at value
  cases held : state.registry.holder key with
  | none =>
    rw [held] at value
    cases value
  | some =>
    rw [held] at value
    cases value
    rfl

end Invariant

/-- In every run whose operations disturb no lookup of the labels that they change, a label
resolves to nothing or to its live holder. -/
theorem resolves_live_of_undisturbed (config : LabelKey → CachedConfig) (registry : LabelRegistry)
    (ops : List ResolveOp)
    (undisturbed : Guarded (ResolveState.step config) (LabelsUndisturbed config)
      (.initial registry) ops) :
    ∀ key, (run (ResolveState.step config) (.initial registry) ops).ResolvesLive key := by
  have initial : ResolveInvariant config (.initial registry) :=
    ⟨fun _ => rowInvariant_start, fun _ => rfl⟩
  exact (invariant_run (fun _ op inv guard => inv.step op guard) initial undisturbed).resolvesLive

/-! A collection of a catalog, behind a local cache. -/

def roadsKey (catalogId : String) : LabelKey := .collection catalogId "roads"

def surveyRegistry : LabelRegistry :=
  run LabelRegistry.step .initial [.createCatalog "survey" [0]]

def coldResolve (key : LabelKey) (call lookup : Nat) : List ResolveOp :=
  [.lookup key (.call call), .lookup key (.join call lookup),
    .lookup key (.startRebuild lookup), .select key lookup,
    .finish key lookup true (some 300) 0 0, .lookup key (.wake call)]

def createThenResolve (catalogId : String) : List ResolveOp :=
  [.start 0 (.createCollection "c_2222222222222" "roads" [0]), .act 0 0 true, .act 0 0 true] ++
    coldResolve (roadsKey catalogId) 1 2

theorem undisturbed_at
    (only : ∀ other, state.rowOp op other = if other = key then some rowOp else none)
    (undisturbed : Undisturbed (config key) (state.rows key) rowOp)
    (inPlace : ∀ key id found ttl version write,
      op ≠ .finishElsewhere key id found ttl version write) :
    LabelsUndisturbed config state op := by
  refine ⟨fun _ _ found => ?_, inPlace⟩
  rw [only] at found
  split at found
  next same =>
    cases found
    exact same ▸ undisturbed
  · cases found

theorem resolves_live_createThenResolve : Guarded (ResolveState.step fun _ => graceful false)
        (LabelsUndisturbed fun _ => graceful false) (.initial surveyRegistry)
        (createThenResolve "survey") ∧
      ∀ key, (run (ResolveState.step fun _ => graceful false) (.initial surveyRegistry)
        (createThenResolve "survey")).ResolvesLive key := by
  have undisturbed : Guarded (ResolveState.step fun _ => graceful false)
      (LabelsUndisturbed fun _ => graceful false) (.initial surveyRegistry)
      (createThenResolve "survey") := by
    refine ⟨⟨nofun, nofun⟩, ⟨?_, nofun⟩, ?_, ?_, ?_, ?_, ?_, ?_, ?_, trivial⟩
    · -- no label has been looked up yet
      intro _ rowOp effect
      change (if _ then none else some (RowOp.commit _ _)) = some rowOp at effect
      split at effect
      · cases effect
      · cases effect
        exact fun _ => ⟨rfl, rfl, Pool.all_empty, fun _ => rfl⟩
    · exact undisturbed_at (fun _ => rfl) ⟨rfl, nofun, Pool.all_empty, fun _ => rfl⟩ nofun
    · exact undisturbed_at (fun _ => rfl) (fun _ => rfl) nofun
    · exact undisturbed_at (fun _ => rfl) trivial nofun
    · exact undisturbed_at (fun _ => rfl) (fun _ => rfl) nofun
    · exact undisturbed_at (fun _ => rfl) trivial nofun
    · exact undisturbed_at (fun _ => rfl) trivial nofun
    · exact undisturbed_at (fun _ => rfl) trivial nofun
  exact ⟨undisturbed, resolves_live_of_undisturbed (fun _ => graceful false) surveyRegistry
    (createThenResolve "survey") undisturbed⟩

def deleteThenResolve : List ResolveOp :=
  createThenResolve "c_2222222222222" ++
    [.start 3 (.deleteCollection "c_2222222222222" "col_2222222222222" false), .act 3 0 true,
      .lookup (roadsKey "c_2222222222222") (.call 4)]

/-- The collection was looked up under the label of its catalog when it is renamed. -/
def renameThenResolve : List ResolveOp :=
  createThenResolve "survey" ++
    [.start 3 (.renameCollection "c_2222222222222" "col_2222222222222" "streets"), .act 3 0 true,
      .act 3 0 true, .act 3 0 true, .lookup (roadsKey "survey") (.call 4)]

/-- The label has lost its holder by an operation that is through, and still resolves. -/
def ResolvesGone (reached : ResolveState) (key : LabelKey) : Prop :=
  reached.registry.holder key = none ∧ reached.operations 3 = some [] ∧ ¬ reached.ResolvesLive key

theorem resolvesGone_of_answer {reached : ResolveState} {key : LabelKey}
    (gone : reached.registry.holder key = none) (through : reached.operations 3 = some [])
    (settled : (reached.rows key).required = (reached.rows key).version)
    (answered : ∃ answer rest, (reached.rows key).cached.answers = answer :: rest ∧
      (reached.rows key).cached.floor ≤ answer.since ∧
      answer.produced.value = .text "col_2222222222222") : ResolvesGone reached key := by
  refine ⟨gone, through, fun live => ?_⟩
  obtain ⟨answer, _, answers, since, value⟩ := answered
  have held := live settled answer (answers ▸ List.mem_cons_self) since _ value
  cases gone.symm.trans held

theorem deleted_collection_resolved :
    ResolvesGone (run (ResolveState.step fun _ => graceful false) (.initial surveyRegistry)
      deleteThenResolve) (roadsKey "c_2222222222222") ∧
    ResolvesGone (run (ResolveState.step fun _ => graceful false) (.initial surveyRegistry)
      renameThenResolve) (roadsKey "survey") := by
  constructor
  · exact resolvesGone_of_answer (by decide +kernel) (by decide +kernel) rfl
      ⟨_, _, rfl, by decide +kernel, rfl⟩
  · exact resolvesGone_of_answer (by decide +kernel) (by decide +kernel) rfl
      ⟨_, _, rfl, by decide +kernel, rfl⟩

end Dynastore.Catalogs
