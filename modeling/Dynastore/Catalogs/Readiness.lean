import Dynastore.Catalogs.Provisioning
import Dynastore.Foundation.Dict
import Dynastore.Foundation.Execution

/-! Steps of a checklist are marked, drained and reset under a lock of the row, and after each the
checklist says which status the row has. `first_ready_at` is stamped with the first status `ready`
and decides what listings show. -/

namespace Dynastore.Catalogs

open Execution

/-! ## The writes to a row -/

namespace CatalogData

variable (data : CatalogData) (now : Nat)

def stamp (status : ProvisioningStatus) : Option Nat :=
  if status = .ready then some (data.firstReadyAt.getD now) else data.firstReadyAt

def writeStatus (status : ProvisioningStatus) (checklist : Option Checklist) : CatalogData :=
  { provisioningStatus := status, checklist, firstReadyAt := data.stamp now status }

def writeChecklist (checklist : Checklist) : CatalogData :=
  match evaluateChecklist checklist with
  | some status => data.writeStatus now status (some checklist)
  | none => { data with checklist := some checklist }

def markProvisioningStep (key : String) (state : StepState) : CatalogData :=
  match data.checklist with
  | some checklist => data.writeChecklist now (Dict.assign checklist key state)
  | none => data

def drained (state : StepState) (checklist : Checklist) : Checklist :=
  checklist.map fun step => (step.1, if step.2 = .pending then state else step.2)

def drainPendingChecklistSteps (state : StepState) : CatalogData :=
  match data.checklist with
  | some checklist =>
    if checklist.any (·.2 = .pending) then data.writeChecklist now (drained state checklist)
    else data
  | none => data

def resetStep (force includeDeferred : Bool) (state : StepState) : StepState :=
  if state = .deferred ∧ ¬ includeDeferred then state
  else if force ∨ (state ≠ .complete ∧ state ≠ .skipped) then .pending
  else state

def resetSteps (force includeDeferred : Bool) (ensureKeys : List String) (checklist : Checklist) :
    Checklist :=
  ensureKeys.foldl (fun steps key => Dict.setDefault steps key .pending)
    (checklist.map fun step => (step.1, resetStep force includeDeferred step.2))

def resetChecklistForReprovision (force includeDeferred : Bool) (ensureKeys : List String) :
    CatalogData :=
  match resetSteps force includeDeferred ensureKeys (data.checklist.getD []) with
  | [] => data
  | step :: steps =>
    data.writeStatus now ((evaluateChecklist (step :: steps)).getD .provisioning)
      (some (step :: steps))

def updateProvisioningStatus (status : ProvisioningStatus) : CatalogData :=
  data.writeStatus now status data.checklist

/-- The row as `create_catalog` commits it: with steps to wait for, or born ready. -/
def created : Checklist → CatalogData
  | [] => ⟨.ready, none, some now⟩
  | step :: steps => ⟨.provisioning, some (step :: steps), none⟩

def Barrier : Prop :=
  data.provisioningStatus = .ready →
    ∀ step ∈ data.checklist.getD [], step.2 ≠ .pending ∧ step.2 ≠ .failed

def AllGood : Prop := ∀ step ∈ data.checklist.getD [], step.2.terminalGood

end CatalogData

/-! ## The registry -/

inductive ReadinessOp where
  | create (id externalId : String) (activity : Activity) (defer : Bool) (now : Nat)
  | mark (id key : String) (state : StepState) (now : Nat)
  | drain (id : String) (state : StepState) (now : Nat)
  | reset (id : String) (force includeDeferred : Bool) (ensureKeys : List String) (now : Nat)
  | updateStatus (id : String) (status : ProvisioningStatus) (now : Nat)

def readinessStep (registry : List Provisioner) (catalogs : CatalogTable) :
    ReadinessOp → CatalogTable
  | .create id externalId activity defer now =>
    (catalogs.insert id externalId
      (CatalogData.created now (buildChecklist registry activity .catalog defer))).getD catalogs
  | .mark id key state now =>
    catalogs.modify id fun data => data.markProvisioningStep now key state
  | .drain id state now =>
    catalogs.modify id fun data => data.drainPendingChecklistSteps now state
  | .reset id force includeDeferred ensureKeys now =>
    catalogs.modify id fun data =>
      data.resetChecklistForReprovision now force includeDeferred ensureKeys
  | .updateStatus id status now =>
    catalogs.modify id fun data => data.updateProvisioningStatus now status

/-- Steps are marked with terminal states, and the status is set by hand only to others than
`ready`. -/
def ReadinessOp.Terminal : ReadinessOp → Prop
  | .mark _ _ state _ => state ≠ .pending
  | .updateStatus _ status _ => status ≠ .ready
  | .create .. | .drain .. | .reset .. => True

instance : DecidablePred ReadinessOp.Terminal
  | .mark _ _ state _ => inferInstanceAs (Decidable (state ≠ .pending))
  | .updateStatus _ status _ => inferInstanceAs (Decidable (status ≠ .ready))
  | .create .. | .drain .. | .reset .. => isTrue trivial

/-- `list_catalogs` with its defaults, and what it may be narrowed by: ids, a search, a page. -/
def listCatalogs (catalogs : CatalogTable) (ids : Option (List String))
    (searched : CatalogRow → Bool) (limit offset : Nat) : List CatalogRow :=
  (((catalogs.rows.filter fun row => row.live && row.data.firstReadyAt.isSome &&
    ids.all (row.id ∈ ·) && searched row).insertionSort fun left right => left.id ≤ right.id).drop
      offset).take limit

/-! ## What every write keeps -/

/-- A write keeps the barrier and the stamp, and stamps only a row whose steps are good. -/
structure Proper (change : CatalogData → CatalogData) : Prop where
  barrier : ∀ data, data.Barrier → (change data).Barrier
  kept : ∀ data time, data.firstReadyAt = some time → (change data).firstReadyAt = some time
  stamped : ∀ data, (change data).firstReadyAt ≠ none →
    data.firstReadyAt ≠ none ∨ (change data).AllGood

variable {checklist : Checklist} {state : StepState}

theorem evaluateChecklist_eq_ready (ready : evaluateChecklist checklist = some .ready) :
    ∀ step ∈ checklist, step.2.terminalGood := by
  unfold evaluateChecklist at ready
  split at ready
  next empty =>
    intro _ mem
    rw [empty] at mem
    cases mem
  · split at ready
    · cases ready
    · split at ready
      next good => exact List.all_eq_true.mp good
      · cases ready

theorem evaluateChecklist_ne_none
    (terminal : ∀ step ∈ checklist, step.2 ≠ .pending) : evaluateChecklist checklist ≠ none := by
  unfold evaluateChecklist
  split
  · exact Option.some_ne_none _
  · split
    · exact Option.some_ne_none _
    next failed =>
      split
      · exact Option.some_ne_none _
      next bad =>
        refine absurd (List.all_eq_true.mpr ?_) bad
        intro step mem
        have unfailed : step.2 ≠ .failed := by
          intro same
          exact failed (List.any_eq_true.mpr ⟨step, mem, by simp [same]⟩)
        have unpending := terminal step mem
        cases state : step.2 <;> simp_all [StepState.terminalGood]

theorem ne_of_terminalGood (good : state.terminalGood) : state ≠ .pending ∧ state ≠ .failed := by
  cases state <;> simp_all [StepState.terminalGood]

section Writes

variable {data : CatalogData}

theorem stamp_of_some (set : data.firstReadyAt = some time) :
    data.stamp now status = some time := by
  unfold CatalogData.stamp
  split
  · rw [set]
    rfl
  · exact set

theorem of_stamp_ne_none (set : data.stamp now status ≠ none) :
    data.firstReadyAt ≠ none ∨ status = .ready := by
  unfold CatalogData.stamp at set
  split at set
  next ready => exact .inr ready
  · exact .inl set

theorem barrier_writeChecklist
    (unready : evaluateChecklist checklist = none → data.provisioningStatus ≠ .ready) :
    (data.writeChecklist now checklist).Barrier := by
  unfold CatalogData.writeChecklist
  split
  next status evaluated =>
    intro ready step mem
    change status = .ready at ready
    rw [ready] at evaluated
    exact ne_of_terminalGood (evaluateChecklist_eq_ready evaluated step mem)
  next undecided =>
    intro ready
    exact absurd ready (unready undecided)

theorem firstReadyAt_writeChecklist (set : data.firstReadyAt = some time) :
    (data.writeChecklist now checklist).firstReadyAt = some time := by
  unfold CatalogData.writeChecklist
  split
  · exact stamp_of_some set
  · exact set

theorem stamped_writeChecklist (set : (data.writeChecklist now checklist).firstReadyAt ≠ none) :
    data.firstReadyAt ≠ none ∨ (data.writeChecklist now checklist).AllGood := by
  unfold CatalogData.writeChecklist at set ⊢
  split at set
  next evaluated =>
    refine (of_stamp_ne_none set).imp_right ?_
    intro ready
    rw [ready] at evaluated
    exact evaluateChecklist_eq_ready evaluated
  · exact .inl set

end Writes

theorem proper_mark (terminal : state ≠ .pending) :
    Proper fun data => data.markProvisioningStep now key state := by
  constructor
  case barrier =>
    intro data barrier
    unfold CatalogData.markProvisioningStep
    split
    next present =>
      apply barrier_writeChecklist
      intro undecided ready
      refine evaluateChecklist_ne_none ?_ undecided
      intro step mem
      rcases Dict.mem_of_mem_assign mem with old | new
      · refine (barrier ready step ?_).1
        rw [present]
        exact old
      · rw [new]
        exact terminal
    · exact barrier
  case kept =>
    intro data _ set
    simp only [CatalogData.markProvisioningStep]
    split
    · exact firstReadyAt_writeChecklist set
    · exact set
  case stamped =>
    intro _ set
    simp only [CatalogData.markProvisioningStep] at set ⊢
    split at set
    · exact stamped_writeChecklist set
    · exact .inl set

theorem proper_drain : Proper fun data => data.drainPendingChecklistSteps now state := by
  constructor
  case barrier =>
    intro data barrier
    unfold CatalogData.drainPendingChecklistSteps
    split
    next present =>
      split
      next pending =>
        apply barrier_writeChecklist
        intro _ ready
        obtain ⟨step, mem, same⟩ := List.any_eq_true.mp pending
        refine absurd (decide_eq_true_eq.mp same) (barrier ready step ?_).1
        rw [present]
        exact mem
      · exact barrier
    · exact barrier
  case kept =>
    intro data _ set
    simp only [CatalogData.drainPendingChecklistSteps]
    split
    · split
      · exact firstReadyAt_writeChecklist set
      · exact set
    · exact set
  case stamped =>
    intro _ set
    simp only [CatalogData.drainPendingChecklistSteps] at set ⊢
    split at set
    · split at set
      next pending =>
        rw [if_pos pending]
        exact stamped_writeChecklist set
      · exact .inl set
    · exact .inl set

theorem proper_reset :
    Proper fun data =>
      data.resetChecklistForReprovision now force includeDeferred ensureKeys := by
  have good : ∀ checklist : Checklist, (evaluateChecklist checklist).getD .provisioning = .ready →
      ∀ step ∈ checklist, step.2.terminalGood := by
    intro checklist ready
    cases evaluated : evaluateChecklist checklist with
    | none =>
      rw [evaluated] at ready
      cases ready
    | some =>
      rw [evaluated] at ready
      exact evaluateChecklist_eq_ready (evaluated.trans (congrArg some ready))
  constructor
  case barrier =>
    intro data barrier
    unfold CatalogData.resetChecklistForReprovision
    split
    · exact barrier
    · intro ready step mem
      exact ne_of_terminalGood (good _ ready step mem)
  case kept =>
    intro data _ set
    simp only [CatalogData.resetChecklistForReprovision]
    split
    · exact set
    · exact stamp_of_some set
  case stamped =>
    intro _ set
    simp only [CatalogData.resetChecklistForReprovision] at set ⊢
    split at set
    · exact .inl set
    · exact (of_stamp_ne_none set).imp_right (good _)

/-! ## Runs -/

section Runs

variable {registry : List Provisioner} {catalogs : CatalogTable} {op : ReadinessOp}

theorem readinessStep_cases (terminal : op.Terminal) :
    readinessStep registry catalogs op = catalogs ∨
    (∃ id externalId now checklist, catalogs.insert id externalId
      (CatalogData.created now checklist) = some (readinessStep registry catalogs op)) ∨
    ∃ id change,
      Proper change ∧ readinessStep registry catalogs op = catalogs.modify id change := by
  cases op with
  | create id externalId activity defer now =>
    cases inserted : catalogs.insert id externalId (CatalogData.created now
        (buildChecklist registry activity .catalog defer)) with
    | none =>
      left
      simp only [readinessStep, inserted, Option.getD_none]
    | some =>
      right
      left
      refine ⟨id, externalId, now, _, inserted.trans ?_⟩
      simp only [readinessStep, inserted, Option.getD_some]
  | mark id => exact .inr (.inr ⟨id, _, proper_mark terminal, rfl⟩)
  | drain id => exact .inr (.inr ⟨id, _, proper_drain, rfl⟩)
  | reset id =>
    exact .inr (.inr ⟨id, _, proper_reset, rfl⟩)
  | updateStatus id =>
    refine .inr (.inr ⟨id, _, ?_, rfl⟩)
    exact ⟨fun _ _ ready => absurd ready terminal, fun _ _ set => stamp_of_some set,
      fun _ set => .inl ((of_stamp_ne_none set).resolve_right terminal)⟩

theorem barrier_step (terminal : op.Terminal) (barrier : ∀ row ∈ catalogs, row.data.Barrier) :
    ∀ row ∈ readinessStep registry catalogs op, row.data.Barrier := by
  intro row mem
  rcases readinessStep_cases terminal with same | inserted | modified
  · rw [same] at mem
    exact barrier row mem
  · obtain ⟨id, _, _, checklist, inserted⟩ := inserted
    rcases LabelledTable.mem_of_insert inserted mem with new | old
    · rw [new]
      intro ready _ mem
      cases checklist with
      | nil => cases mem
      | cons => cases ready
    · exact barrier row old
  · obtain ⟨_, _, proper, same⟩ := modified
    rw [same] at mem
    exact LabelledTable.forall_mem_modify (fun data => proper.barrier data) barrier row mem

theorem stamp_step (terminal : op.Terminal)
    (mem : row ∈ catalogs) (set : row.data.firstReadyAt = some time) :
    ∃ after ∈ readinessStep registry catalogs op,
      after.id = row.id ∧ after.data.firstReadyAt = some time := by
  rcases readinessStep_cases terminal with same | inserted | modified
  · rw [same]
    exact ⟨row, mem, rfl, set⟩
  · obtain ⟨_, _, _, _, inserted⟩ := inserted
    exact ⟨row, LabelledTable.mem_insert_of_mem inserted mem, rfl, set⟩
  · obtain ⟨id, change, proper, same⟩ := modified
    rw [same]
    refine ⟨_, LabelledTable.mem_modify.mpr ⟨row, mem, rfl⟩,
      LabelledTable.modifiedRow_id id change row, ?_⟩
    exact LabelledTable.modifiedRow_of_forall (fun data => proper.kept data time) set

theorem stamped_step (terminal : op.Terminal)
    (mem : row ∈ readinessStep registry catalogs op) (set : row.data.firstReadyAt ≠ none) :
    (∃ before ∈ catalogs, before.id = row.id ∧ before.data.firstReadyAt ≠ none) ∨
      row.data.AllGood := by
  rcases readinessStep_cases terminal with same | inserted | modified
  · rw [same] at mem
    exact .inl ⟨row, mem, rfl, set⟩
  · obtain ⟨id, _, _, checklist, inserted⟩ := inserted
    rcases LabelledTable.mem_of_insert inserted mem with new | old
    · rw [new] at set ⊢
      refine .inr fun _ mem => ?_
      cases checklist with
      | nil => cases mem
      | cons => exact absurd rfl set
    · exact .inl ⟨row, old, rfl, set⟩
  · obtain ⟨id, _, proper, same⟩ := modified
    rw [same] at mem
    obtain ⟨before, present, rfl⟩ := LabelledTable.mem_modify.mp mem
    by_cases here : before.id = id
    · subst here
      rw [LabelledTable.modifiedRow_data] at set ⊢
      refine (proper.stamped _ set).imp_left ?_
      intro earlier
      exact ⟨before, present, (LabelledTable.modifiedRow_id _ _ _).symm, earlier⟩
    · rw [LabelledTable.modifiedRow, if_neg here] at set ⊢
      exact .inl ⟨before, present, rfl, set⟩

theorem stamp_run (terminal : ∀ op ∈ ops, op.Terminal) (mem : row ∈ catalogs)
    (set : row.data.firstReadyAt = some time) :
    ∃ after ∈ run (readinessStep registry) catalogs ops,
      after.id = row.id ∧ after.data.firstReadyAt = some time := by
  induction ops generalizing catalogs row with
  | nil => exact ⟨row, mem, rfl, set⟩
  | cons op _ ih =>
    obtain ⟨_, present, same, kept⟩ :=
      stamp_step (terminal op (.head _)) mem set
    obtain ⟨after, found, sameLater, keptLater⟩ := ih
      (fun other later => terminal other (.tail _ later)) present kept
    exact ⟨after, found, sameLater.trans same, keptLater⟩

theorem exists_allGood_of_stamped (terminal : ∀ op ∈ ops, op.Terminal)
    (mem : row ∈ run (readinessStep registry) .empty ops) (set : row.data.firstReadyAt ≠ none) :
    ∃ earlier, earlier <+: ops ∧ ∃ before ∈ run (readinessStep registry) .empty earlier,
      before.id = row.id ∧ before.data.AllGood := by
  induction ops using List.reverseRecOn generalizing row with
  | nil => exact absurd mem LabelledTable.not_mem_empty
  | append_singleton ops op ih =>
    rw [run_append] at mem
    have last := terminal op (List.mem_append_right _ (.head _))
    rcases stamped_step last mem set with old | good
    · obtain ⟨_, present, same, setBefore⟩ := old
      obtain ⟨earlier, isPrefix, first, found, sameFirst, good⟩ := ih
        (fun other held => terminal other (List.mem_append_left _ held)) present setBefore
      exact ⟨earlier, isPrefix.trans (List.prefix_append ops [op]), first, found,
        sameFirst.trans same, good⟩
    · refine ⟨ops ++ [op], List.prefix_rfl, row, ?_, rfl, good⟩
      rw [run_append]
      exact mem

end Runs

theorem readiness_barrier_of_run (registry : List Provisioner) (ops : List ReadinessOp)
    (terminal : ∀ op ∈ ops, op.Terminal) :
    (∀ row ∈ run (readinessStep registry) .empty ops, row.data.Barrier) ∧
    (∀ earlier later, ops = earlier ++ later →
      ∀ row ∈ run (readinessStep registry) .empty earlier, ∀ time,
        row.data.firstReadyAt = some time →
        ∃ after ∈ run (readinessStep registry) .empty ops,
          after.id = row.id ∧ after.data.firstReadyAt = some time) ∧
    ∀ ids searched limit offset,
      ∀ row ∈ listCatalogs (run (readinessStep registry) .empty ops) ids searched limit offset,
        ∃ earlier, earlier <+: ops ∧ ∃ before ∈ run (readinessStep registry) .empty earlier,
          before.id = row.id ∧ before.data.AllGood := by
  refine ⟨?_, ?_, ?_⟩
  · have preserved : ∀ (catalogs : CatalogTable) (op : ReadinessOp),
        (∀ row ∈ catalogs, row.data.Barrier) → op.Terminal →
        ∀ row ∈ readinessStep registry catalogs op, row.data.Barrier :=
      fun _ _ barrier held => barrier_step held barrier
    refine invariant_run preserved ?_ (guarded_of_forall terminal LabelledTable.empty)
    intro row mem
    exact absurd mem LabelledTable.not_mem_empty
  · intro _ _ split row mem _ set
    subst split
    rw [run_append]
    exact stamp_run (fun op held => terminal op (List.mem_append_right _ held)) mem set
  · intro _ _ _ _ _ listed
    have sorted := List.mem_of_mem_drop (List.mem_of_mem_take listed)
    have filtered := List.mem_filter.mp ((List.mem_insertionSort _).mp sorted)
    simp only [Bool.and_eq_true] at filtered
    exact exists_allGood_of_stamped terminal filtered.1
      (Option.isSome_iff_ne_none.mp filtered.2.1.1.2)

def bucketRegistry : List Provisioner :=
  [⟨"gcp_bucket", 100, .catalog, true, true, true⟩, catalogCore]

def bucketRun : List ReadinessOp :=
  [.create "c_1" "survey" (fun _ => some true) false 0, .mark "c_1" "catalog_core" .complete 1,
    .mark "c_1" "gcp_bucket" .complete 2, .reset "c_1" true false [] 3]

theorem readiness_barrier_bucketRun : (∀ op ∈ bucketRun, op.Terminal) ∧
    ((listCatalogs (run (readinessStep bucketRegistry) .empty bucketRun) none (fun _ => true)
      10 0).map fun row => (row.id, row.data.provisioningStatus)) = [("c_1", .provisioning)] ∧
    ∀ row ∈ listCatalogs (run (readinessStep bucketRegistry) .empty bucketRun) none
        (fun _ => true) 10 0,
      ∃ earlier, earlier <+: bucketRun ∧
        ∃ before ∈ run (readinessStep bucketRegistry) .empty earlier,
          before.id = row.id ∧ before.data.AllGood :=
  ⟨by decide, by decide +kernel,
    (readiness_barrier_of_run bucketRegistry bucketRun (by decide)).2.2 none (fun _ => true) 10 0⟩

end Dynastore.Catalogs
