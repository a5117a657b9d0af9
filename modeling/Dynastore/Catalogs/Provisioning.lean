import Dynastore.Foundation.Labelled
import Mathlib.Data.List.Sort

/-! The readiness of a catalog is a checklist with a step for each provisioner that is active for
it. The checklist says which status the row of the catalog has. -/

namespace Dynastore.Catalogs

inductive StepState where
  | pending | complete | failed | skipped | degraded | deferred
deriving DecidableEq

def StepState.terminalGood : StepState → Bool
  | .complete | .skipped | .degraded | .deferred => true
  | .pending | .failed => false

inductive ProvisioningStatus where
  | provisioning | deleting | ready | failed | conflict
deriving DecidableEq

inductive ProvisionScope where
  | catalog | collection
deriving DecidableEq

abbrev Checklist := List (String × StepState)

/-- `evaluate_checklist`: no answer while a step is pending and none has failed. -/
def evaluateChecklist (checklist : Checklist) : Option ProvisioningStatus :=
  if checklist = [] then some .ready
  else if checklist.any (·.2 = .failed) then some .failed
  else if checklist.all (·.2.terminalGood) then some .ready
  else none

/-! ## The registry of provisioners -/

/-- `provision` and `deprovision` are whether the provisioner has such a hook. -/
structure Provisioner where
  key : String
  priority : Int
  scope : ProvisionScope
  deferrable : Bool
  provision : Bool
  deprovision : Bool
deriving DecidableEq

def catalogCore : Provisioner :=
  ⟨"catalog_core", 0, .catalog, false, true, true⟩

/-- What the predicates `is_active` answer, by key; nothing where one raises. -/
abbrev Activity := String → Option Bool

def Provisioner.before (left right : Provisioner) : Prop :=
  left.priority < right.priority ∨ left.priority = right.priority ∧ left.key ≤ right.key
deriving Decidable

section Registry

variable (registry : List Provisioner) (activity : Activity) (scope : ProvisionScope) (defer : Bool)

def sortedProvisioners : List Provisioner :=
  (registry.filter fun provisioner =>
    provisioner.scope = scope ∧ ¬ (defer ∧ provisioner.deferrable)).insertionSort Provisioner.before

def activeOf (provisioners : List Provisioner) : List Provisioner :=
  provisioners.filter fun provisioner => activity provisioner.key = some true

/-- `build_checklist`: a deferred create keeps the steps it holds back as such. -/
def buildChecklist : Checklist :=
  (activeOf activity (sortedProvisioners registry scope false)).map fun provisioner =>
    (provisioner.key, if defer ∧ provisioner.deferrable then .deferred else .pending)

def activeProvisioners : List (List Provisioner) :=
  (activeOf activity (sortedProvisioners registry scope defer)).splitBy fun left right =>
    left.priority = right.priority

end Registry

/-! ## Catalogs and their tasks -/

/-- The columns of `catalog.catalogs` beside ids, labels and `deleted_at`. -/
structure CatalogData where
  provisioningStatus : ProvisioningStatus
  checklist : Option Checklist
  firstReadyAt : Option Nat
deriving DecidableEq

abbrev CatalogRow := LabelledRow String String CatalogData

abbrev CatalogTable := LabelledTable String String CatalogData

inductive ProvisionOperation where
  | provision | deprovisionSoft | deprovisionHard
deriving DecidableEq

/-- A row of task type `catalog_provision`; its tenant is the catalog. -/
structure ProvisionTask where
  catalogId : String
  operation : ProvisionOperation
  defer : Bool
  finished : Bool
deriving DecidableEq

def ProvisionTask.dedupKey (task : ProvisionTask) : Option String :=
  match task.operation with
  | .deprovisionHard => some ("catalog_provision:deprovision_hard:" ++ task.catalogId)
  | .provision | .deprovisionSoft => none

/-- `create_task`: an unfinished task of the tenant with the same key stands for the new one. -/
def createTask (tasks : List ProvisionTask) (task : ProvisionTask) : List ProvisionTask :=
  if task.dedupKey.isSome ∧ ∃ other ∈ tasks, other.dedupKey = task.dedupKey ∧
      other.catalogId = task.catalogId ∧ other.finished = false then tasks
  else tasks ++ [task]

def Deprovisioning (tasks : List ProvisionTask) (catalogId : String) : Prop :=
  ∃ task ∈ tasks, task.operation = .deprovisionHard ∧ task.catalogId = catalogId ∧
    task.finished = false
deriving Decidable

theorem mem_of_mem_createTask
    (mem : other ∈ createTask tasks task) : other ∈ tasks ∨ other = task := by
  unfold createTask at mem
  split at mem
  · exact .inl mem
  · exact (List.mem_append.mp mem).imp_right List.mem_singleton.mp

theorem deprovisioning_createTask (hard : task.operation = .deprovisionHard)
    (unfinished : task.finished = false) :
    Deprovisioning (createTask tasks task) task.catalogId := by
  unfold createTask
  split
  next duplicate =>
    obtain ⟨other, mem, same, tenant, running⟩ := duplicate.2
    refine ⟨other, mem, ?_, tenant, running⟩
    unfold ProvisionTask.dedupKey at same
    rw [hard] at same
    cases operation : other.operation with
    | deprovisionHard => rfl
    | _ =>
      rw [operation] at same
      cases same
  · exact ⟨task, List.mem_append_right _ (.head _), hard, rfl, unfinished⟩

theorem deprovisioning_createTask_of_ne (tasks : List ProvisionTask) (task : ProvisionTask)
    (ne : task.catalogId ≠ catalogId) :
    Deprovisioning (createTask tasks task) catalogId ↔ Deprovisioning tasks catalogId := by
  unfold createTask
  split
  · exact Iff.rfl
  · constructor
    · intro found
      obtain ⟨other, mem, hard, tenant, running⟩ := found
      rcases List.mem_append.mp mem with old | new
      · exact ⟨other, old, hard, tenant, running⟩
      · rw [List.mem_singleton.mp new] at tenant
        exact absurd tenant ne
    · intro found
      obtain ⟨other, mem, rest⟩ := found
      exact ⟨other, List.mem_append_left _ mem, rest⟩

end Dynastore.Catalogs
