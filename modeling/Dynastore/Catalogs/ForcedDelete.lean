import Dynastore.Catalogs.Provisioning
import Dynastore.Tools.Identifier

/-! `delete_catalog(id, force=True)` resolves the id as the label of a live catalog. A catalog that
is already soft-deleted is not found that way, nor is one that the soft-delete reaper names by its
internal id, and the call returns as a repeated soft delete would. -/

namespace Dynastore.Catalogs

open LabelledTable

inductive DeleteError where
  | invalidIdentifier (message : String)
  /-- A query that expects one row at most finds several. -/
  | multipleResults
  /-- A statement of the transaction has raised. -/
  | raised
deriving DecidableEq

/-- The registry, the tasks, and the cache from labels to internal ids. -/
structure CatalogState where
  catalogs : CatalogTable
  tasks : List ProvisionTask
  labelCache : String → Option String

namespace CatalogState

variable (state : CatalogState)

/-- `resolve_catalog_id`, which asks the registry where the cache has nothing. -/
def resolveCatalogId (externalId : String) : Option String :=
  match state.labelCache externalId with
  | some id => some id
  | none => state.catalogs.resolve externalId

def tombstonedCatalogId (externalId : String) : Except DeleteError (Option String) :=
  match state.catalogs.rows.filter fun row => row.live = false ∧ row.label = externalId with
  | [] => .ok none
  | [row] => .ok (some row.id)
  | _ :: _ :: _ => .error .multipleResults

def Exists (id : String) : Prop := ∃ row ∈ state.catalogs.rows, row.id = id
deriving Decidable

def dispatchDeprovision (id : String) (checklist : Checklist) : CatalogState :=
  { state with
    catalogs := (state.catalogs.retire id).modify id fun data =>
      { data with provisioningStatus := .deleting, checklist := some checklist }
    tasks := createTask state.tasks
      { catalogId := id, operation := .deprovisionHard, defer := false, finished := false } }

def purge (id : String) : CatalogState :=
  { state with catalogs := state.catalogs.remove id }

def beginDeletion (id : String) : Checklist → CatalogState
  | [] => state.purge id
  | step :: steps => state.dispatchDeprovision id (step :: steps)

def invalidateLabel (externalId : String) : CatalogState :=
  { state with
    labelCache := fun other => if other = externalId then none else state.labelCache other }

end CatalogState

section Delete

variable (registry : List Provisioner) (activity : Activity) (raises : Bool) (state : CatalogState)

def hardDelete (id externalId : String) : Except DeleteError (Bool × CatalogState) :=
  if raises then .error .raised
  else if state.Exists id then
    .ok (true, (state.beginDeletion id
      (buildChecklist registry activity .catalog false)).invalidateLabel externalId)
  else .ok (false, state)

/-- `delete_catalog(catalog_id, force=True)`; `raises` is whether its transaction does. -/
def deleteCatalog (catalogId : String) : Except DeleteError (Bool × CatalogState) :=
  match invalidIdentifier catalogId with
  | some message => .error (.invalidIdentifier message)
  | none =>
    match state.resolveCatalogId catalogId with
    | some id => hardDelete registry activity raises state id catalogId
    | none => (state.tombstonedCatalogId catalogId).map fun tombstoned =>
      (tombstoned.isSome, state)

end Delete

/-- The row is gone, or on its way: tombstoned, marked, and with a task to remove it. -/
def CatalogState.Deleted (state : CatalogState) (id : String) : Prop :=
  ∀ row ∈ state.catalogs, row.id = id → row.live = false ∧
    row.data.provisioningStatus = .deleting ∧ Deprovisioning state.tasks id

def Addresses (state : CatalogState) (name : String) (row : CatalogRow) : Prop :=
  state.labelCache name = some row.id ∨ state.labelCache name = none ∧ row.live ∧ row.label = name

/-! ## What a forced delete does -/

section Effect

variable {registry : List Provisioner} {activity : Activity} {raises : Bool}
  {state : CatalogState} {row : CatalogRow} {name : String}

theorem resolveCatalogId_eq_some_iff (mem : row ∈ state.catalogs) :
    state.resolveCatalogId name = some row.id ↔ Addresses state name row := by
  unfold CatalogState.resolveCatalogId Addresses
  cases cached : state.labelCache name with
  | some => simp
  | none =>
    simp only [reduceCtorEq, true_and, false_or]
    constructor
    · intro found
      obtain ⟨holder, present, live, label, same⟩ := mem_of_resolve found
      obtain rfl : holder = row := eq_of_id_eq present mem same
      exact ⟨live, label⟩
    · intro holder
      rw [← holder.2]
      exact resolve_of_mem mem holder.1

theorem deleted_dispatchDeprovision (state : CatalogState) (id : String) (checklist : Checklist) :
    (state.dispatchDeprovision id checklist).Deleted id := by
  intro _ mem same
  obtain ⟨_, present, rfl⟩ := mem_modify.mp mem
  obtain ⟨_, _, rfl⟩ := mem_retire.mp present
  rw [modifiedRow_id] at same
  refine ⟨?_, ?_, ?_⟩
  · rw [modifiedRow_live]
    rw [retiredRow_id] at same
    rw [retiredRow, if_pos same]
  · rw [modifiedRow, if_pos same]
  · exact deprovisioning_createTask rfl rfl

variable {id other : String} {returned : Bool} {after : CatalogState}

theorem deleted_dispatchDeprovision_of_ne (ne : id ≠ other) :
    (state.dispatchDeprovision id checklist).Deleted other ↔ state.Deleted other := by
  have tasks := deprovisioning_createTask_of_ne state.tasks
    { catalogId := id, operation := .deprovisionHard, defer := false, finished := false }
    ne
  have untouched : ∀ before : CatalogRow, before.id = other →
      modifiedRow id (fun data => { data with
        provisioningStatus := .deleting, checklist := some checklist })
        (retiredRow id before) = before := by
    intro before same
    have elsewhere : before.id ≠ id := fun eq => ne (eq.symm.trans same)
    rw [retiredRow, if_neg elsewhere, modifiedRow, if_neg elsewhere]
  constructor
  · intro deleted before present same
    have moved := deleted before (mem_modify.mpr
      ⟨_, mem_retire.mpr ⟨before, present, rfl⟩, untouched before same⟩) same
    exact ⟨moved.1, moved.2.1, tasks.mp moved.2.2⟩
  · intro deleted _ mem same
    obtain ⟨_, present, rfl⟩ := mem_modify.mp mem
    obtain ⟨before, kept, rfl⟩ := mem_retire.mp present
    rw [modifiedRow_id, retiredRow_id] at same
    rw [untouched before same]
    have held := deleted before kept same
    exact ⟨held.1, held.2.1, tasks.mpr held.2.2⟩

theorem deleted_purge (id : String) : (state.purge id).Deleted id := by
  intro _ mem same
  exact absurd same (mem_remove.mp mem).2

theorem deleted_purge_of_ne (ne : id ≠ other) :
    (state.purge id).Deleted other ↔ state.Deleted other := by
  constructor
  · intro deleted before present same
    apply deleted before (mem_remove.mpr ⟨present, ?_⟩) same
    intro eq
    exact ne (eq.symm.trans same)
  · intro deleted after mem same
    exact deleted after (mem_remove.mp mem).1 same

theorem deleted_beginDeletion (id : String) :
    (state.beginDeletion id checklist).Deleted other ↔ id = other ∨ state.Deleted other := by
  by_cases here : id = other
  · subst here
    simp only [true_or, iff_true]
    cases checklist with
    | nil => exact deleted_purge id
    | cons step steps => exact deleted_dispatchDeprovision state id (step :: steps)
  · simp only [here, false_or]
    cases checklist with
    | nil => exact deleted_purge_of_ne here
    | cons => exact deleted_dispatchDeprovision_of_ne here

theorem deleted_hardDelete (mem : row ∈ state.catalogs)
    (result : hardDelete registry activity raises state id name = .ok (returned, after)) :
    after.Deleted row.id ↔ id = row.id ∨ state.Deleted row.id := by
  unfold hardDelete at result
  split at result
  · cases result
  · split at result
    · cases result
      exact deleted_beginDeletion id
    next absent =>
      cases result
      have ne : id ≠ row.id := fun same => absent ⟨row, mem, same.symm⟩
      simp only [ne, false_or]

theorem deleteCatalog_cases
    (result : deleteCatalog registry activity raises state name = .ok (returned, after)) :
    (after.catalogs = state.catalogs ∧ after.tasks = state.tasks) ∨
    ∃ id, state.resolveCatalogId name = some id ∧ state.Exists id ∧
      after = (state.beginDeletion id (buildChecklist registry activity .catalog
        false)).invalidateLabel name := by
  unfold deleteCatalog at result
  split at result
  · cases result
  · split at result
    next id resolved =>
      unfold hardDelete at result
      split at result
      · cases result
      · split at result
        next exist =>
          cases result
          exact .inr ⟨id, resolved, exist, rfl⟩
        · cases result
          exact .inl ⟨rfl, rfl⟩
    · cases probed : state.tombstonedCatalogId name with
      | error =>
        rw [probed] at result
        cases result
      | ok =>
        rw [probed] at result
        cases result
        exact .inl ⟨rfl, rfl⟩

end Effect

/-- A forced delete that returns has taken effect on a catalog exactly if the name stands for
it, or it was being deleted already. -/
theorem forced_delete_takes_effect_iff (registry : List Provisioner) (activity : Activity)
    (raises : Bool) (state : CatalogState) (name : String) (row : CatalogRow)
    (member : row ∈ state.catalogs) (returned : Bool) (after : CatalogState)
    (result : deleteCatalog registry activity raises state name = .ok (returned, after)) :
    after.Deleted row.id ↔ Addresses state name row ∨ state.Deleted row.id := by
  unfold deleteCatalog at result
  split at result
  · cases result
  · rw [← resolveCatalogId_eq_some_iff member]
    split at result
    next resolved =>
      rw [deleted_hardDelete member result, resolved, Option.some.injEq]
    next unresolved =>
      obtain ⟨tombstoned, _, same⟩ : ∃ tombstoned, state.tombstonedCatalogId name = .ok tombstoned ∧
            (tombstoned.isSome, state) = (returned, after) := by
        cases probed : state.tombstonedCatalogId name with
        | error =>
          rw [probed] at result
          cases result
        | ok tombstoned =>
          rw [probed] at result
          exact ⟨tombstoned, rfl, Except.ok.inj result⟩
      cases same
      simp [unresolved]

/-! ## A catalog that is soft-deleted -/

def surveyRow (live : Bool) : CatalogRow :=
  ⟨"c_2222222222222", "survey", live, ⟨.ready, none, some 0⟩⟩

def surveyState (live : Bool) : CatalogState where
  catalogs := ⟨[surveyRow live], List.pairwise_singleton _ _, List.pairwise_singleton _ _⟩
  tasks := []
  labelCache _ := none

theorem forced_delete_takes_effect_survey :
    ∃ after, deleteCatalog [catalogCore] (fun _ => some true) false (surveyState true) "survey" =
        .ok (true, after) ∧
      Addresses (surveyState true) "survey" (surveyRow true) ∧
      after.Deleted "c_2222222222222" := by
  have addresses : Addresses (surveyState true) "survey" (surveyRow true) :=
    .inr ⟨rfl, rfl, rfl⟩
  refine ⟨_, rfl, addresses, ?_⟩
  exact (forced_delete_takes_effect_iff [catalogCore] (fun _ => some true) false
    (surveyState true) "survey" (surveyRow true) (.head _) true _ rfl).mpr (.inl addresses)

/-- By its label or by its id, the soft-deleted catalog stays as it is. -/
theorem forced_delete_of_tombstoned_without_effect :
    deleteCatalog [catalogCore] (fun _ => some true) false (surveyState false) "survey" =
      .ok (true, surveyState false) ∧
    deleteCatalog [catalogCore] (fun _ => some true) false (surveyState false)
      "c_2222222222222" = .ok (false, surveyState false) ∧
    ¬ (surveyState false).Deleted "c_2222222222222" := by
  refine ⟨rfl, rfl, ?_⟩
  intro deleted
  have marked := (deleted (surveyRow false) (.head _) rfl).2.1
  cases marked

end Dynastore.Catalogs
