import Dynastore.Catalogs.ForcedDelete
import Dynastore.Catalogs.Readiness
import Dynastore.Foundation.Pool
import Mathlib.Data.List.SplitBy

/-! A forced delete leaves the schema and the row to a task, which runs the deprovision hooks in
groups, from the highest priority down; the hook of `catalog_core` is the one that removes. Which
provisioners take part is asked of their predicates at the delete and again in every attempt, and
the delete has overwritten the record of what was provisioned. -/

namespace Dynastore.Catalogs

open Execution List LabelledTable

/-! ## Attempts of a task -/

def coreKey : String := "catalog_core"

structure DeprovisionAttempt where
  task : Nat
  catalogId : String
  /-- What is still to end of the group that runs. -/
  current : List Provisioner
  later : List (List Provisioner)
  /-- A hook of the group has raised. -/
  failed : Bool

/-- How `_run_provisioner` ends: with the step marked, with a mark that raises, or with a hook
that raises, which may have done its work before. -/
inductive HookOutcome where
  | returned | unmarked
  | raised (effective : Bool)
deriving DecidableEq

namespace HookOutcome

def effective : HookOutcome → Bool
  | .returned | .unmarked => true
  | .raised effective => effective

def successful : HookOutcome → Bool
  | .returned | .unmarked => true
  | .raised _ => false

end HookOutcome

section Groups

variable (registry : List Provisioner) (activity : Activity)

/-- Every active provisioner, the deferrable ones too, from the highest priority down. -/
def deprovisionGroups : List (List Provisioner) :=
  (activeProvisioners registry activity .catalog false).reverse

/-- The completed steps whose provisioners have something to tear down; what `catalog_core` has
is the removal itself. -/
def owing (checklist : Checklist) : List String :=
  (checklist.filter fun step => step.2 = .complete && step.1 ≠ coreKey &&
    registry.any fun provisioner => provisioner.key = step.1 && provisioner.scope = .catalog &&
      provisioner.deprovision).map (·.1)

end Groups

/-! ## The system -/

/-- The last four fields are a record: the ids that were ever created, the steps that were
complete when their catalog was deleted, the deprovision hooks that have returned, and each
removed catalog with the hooks it still needed. -/
structure TeardownState where
  base : CatalogState
  attempts : Pool DeprovisionAttempt
  created : List String
  owed : List (String × String)
  released : List (String × String)
  removals : List (String × List String)

namespace TeardownState

variable (registry : List Provisioner) (activity : Activity) (state : TeardownState)

def initial : TeardownState :=
  ⟨⟨.empty, [], fun _ => none⟩, .empty, [], [], [], []⟩

def outstanding (id : String) : List String :=
  (state.owed.filter fun pair => pair.1 = id && pair ∉ state.released).map (·.2)

def Complete : Prop := ∀ removal ∈ state.removals, removal.2 = []
deriving Decidable

/-- The new contents of the database; a row that is in it no longer was removed. -/
def advance (base : CatalogState) : TeardownState :=
  { state with
    base
    removals := state.removals ++ (state.base.catalogs.rows.filter fun row =>
      base.catalogs.rows.all (·.id ≠ row.id)).map fun row => (row.id, state.outstanding row.id) }

def purge (id : String) : TeardownState := state.advance (state.base.purge id)

/-- What a provision run, a mark or a drain writes to the row. -/
def write (id : String) (change : CatalogData → CatalogData) : TeardownState :=
  { state with base := { state.base with catalogs := state.base.catalogs.modify id change } }

def finishTask (index : Nat) : TeardownState :=
  { state with base := { state.base with
      tasks := state.base.tasks.modify index fun task => { task with finished := true } } }

def launch (attemptId : Nat) (attempt : DeprovisionAttempt) : TeardownState :=
  { state with attempts := state.attempts.put attemptId attempt }

def drop (attemptId : Nat) : TeardownState :=
  { state with attempts := state.attempts.remove attemptId }

def release (id key : String) : TeardownState :=
  { state with released := (id, key) :: state.released }

/-- The task that provisions a new catalog is left out with the writes of its runs. -/
def insertCatalog (id externalId : String) (data : CatalogData) : Option TeardownState :=
  (state.base.catalogs.insert id externalId data).map fun catalogs =>
    { state with base := { state.base with catalogs }, created := id :: state.created }

/-- A create purges the tombstoned row that it finds under its label. -/
def reclaim : Option String → TeardownState
  | none => state
  | some id => state.purge id

/-- `ONE_OR_NONE` takes the first of the tombstoned rows. -/
def create (id externalId : String) (defer : Bool) (now : Nat) : TeardownState :=
  ((state.reclaim ((state.base.catalogs.retired externalId).map (·.id))).insertCatalog id externalId
    (.created now (buildChecklist registry activity .catalog defer))).getD state

def owe (resolved : Option String) : TeardownState :=
  { state with
    owed := state.owed ++ state.base.catalogs.rows.flatMap fun row =>
      if resolved = some row.id then
        (owing registry (row.data.checklist.getD [])).map fun key => (row.id, key)
      else [] }

def served (cached : Option String) : CatalogState :=
  { state.base with labelCache := fun _ => cached }

def delete (name : String) (cached : Option String) (raises : Bool) : TeardownState :=
  match deleteCatalog registry activity raises (state.served cached) name with
  | .error _ => state
  | .ok (_, after) =>
    (state.owe registry ((state.served cached).resolveCatalogId name)).advance after

/-- An attempt works on tombstoned rows too; without a row there is nothing to do. -/
def start (attemptId index : Nat) : TeardownState :=
  match state.base.tasks[index]? with
  | none => state
  | some task =>
    if task.finished ∨ (state.attempts attemptId).isSome then state
    else if state.base.Exists task.catalogId then
      state.launch attemptId ⟨index, task.catalogId, [], deprovisionGroups registry activity, false⟩
    else state.finishTask index

def removeCore (id key : String) (outcome : HookOutcome) : TeardownState :=
  if key = coreKey ∧ outcome.effective then state.purge id else state

def worked (id key : String) (outcome : HookOutcome) : TeardownState :=
  if outcome.successful then (state.removeCore id key outcome).release id key
  else state.removeCore id key outcome

def runProvisioner (attemptId : Nat) (attempt : DeprovisionAttempt) (provisioner : Provisioner)
    (outcome : HookOutcome) : TeardownState :=
  if provisioner.deprovision then
    (state.worked attempt.catalogId provisioner.key outcome).launch attemptId
      { attempt with
        current := attempt.current.erase provisioner
        failed := attempt.failed || outcome ≠ .returned }
  else
    state.launch attemptId { attempt with current := attempt.current.erase provisioner }

def finish (attemptId : Nat) (key : String) (outcome : HookOutcome) : TeardownState :=
  match state.attempts attemptId with
  | none => state
  | some attempt =>
    match attempt.current.find? (·.key = key) with
    | none => state
    | some provisioner => state.runProvisioner attemptId attempt provisioner outcome

/-- A group has ended: the next one runs, or the attempt ends with the task done, failed for
good, or left to a retry. -/
def next (attemptId : Nat) (retry : Bool) : TeardownState :=
  match state.attempts attemptId with
  | none => state
  | some attempt =>
    if attempt.current ≠ [] then state
    else if attempt.failed then
      if retry then state.drop attemptId else (state.drop attemptId).finishTask attempt.task
    else
      match attempt.later with
      | [] => (state.drop attemptId).finishTask attempt.task
      | group :: later => state.launch attemptId { attempt with current := group, later }

end TeardownState

inductive TeardownOp where
  | create (id externalId : String) (activity : Activity) (defer : Bool) (now : Nat)
  | write (id : String) (change : CatalogData → CatalogData)
  | delete (name : String) (cached : Option String) (activity : Activity) (raises : Bool)
  | start (attemptId index : Nat) (activity : Activity)
  | finish (attemptId : Nat) (key : String) (outcome : HookOutcome)
  | next (attemptId : Nat) (retry : Bool)
  | crash (attemptId : Nat)

def teardownStep (registry : List Provisioner) (state : TeardownState) : TeardownOp → TeardownState
  | .create id externalId activity defer now =>
    state.create registry activity id externalId defer now
  | .write id change => state.write id change
  | .delete name cached activity raises => state.delete registry activity name cached raises
  | .start attemptId index activity => state.start registry activity attemptId index
  | .finish attemptId key outcome => state.finish attemptId key outcome
  | .next attemptId retry => state.next attemptId retry
  | .crash attemptId => state.drop attemptId

/-! ## The condition -/

section Condition

variable (registry : List Provisioner) (state : TeardownState)

/-- A new id is one that never was, and the label is not one of a tombstoned catalog that still
needs a hook. -/
def OrderlyCreate (id externalId : String) : Prop :=
  id ∉ state.created ∧ ∀ row ∈ state.base.catalogs.rows, row.live = false → row.label = externalId →
      state.outstanding row.id = []
deriving Decidable

/-- The delete does not purge at once what needs a hook, and a repeated one finds no step that
has been completed since. -/
def OrderlyDelete (name : String) (cached : Option String) (activity : Activity) : Prop :=
  ∀ row ∈ state.base.catalogs.rows, (state.served cached).resolveCatalogId name = some row.id →
      ((state.owe registry (some row.id)).outstanding row.id = [] ∨
        ∃ provisioner ∈ registry, provisioner.scope = .catalog ∧
          activity provisioner.key = some true) ∧
      (row.live = true ∨ ∀ key ∈ owing registry (row.data.checklist.getD []),
        (row.id, key) ∈ state.owed ∨ (row.id, key) ∈ state.released)
deriving Decidable

/-- The provisioner of the step takes part, in a group before that of `catalog_core`. -/
def TakesPart (activity : Activity) (key : String) : Prop :=
  activity key = some true ∧ ∃ provisioner ∈ registry,
    provisioner.key = key ∧ provisioner.scope = .catalog ∧ provisioner.deprovision ∧
      ∀ core ∈ registry, core.key = coreKey → core.priority < provisioner.priority
deriving Decidable

/-- An attempt with `catalog_core` has every provisioner whose hook is still needed. -/
def OrderlyStart (index : Nat) (activity : Activity) : Prop :=
  ∀ task ∈ state.base.tasks[index]?, activity coreKey = some true →
    ∀ key ∈ state.outstanding task.catalogId, TakesPart registry activity key
deriving Decidable

def OrderlyTeardown : TeardownOp → Prop
  | .create id externalId _ _ _ => OrderlyCreate state id externalId
  | .delete name cached activity _ => OrderlyDelete registry state name cached activity
  | .start _ index activity => OrderlyStart registry state index activity
  | .write .. | .finish .. | .next .. | .crash .. => True

instance : (op : TeardownOp) → Decidable (OrderlyTeardown registry state op)
  | .create .. => inferInstanceAs (Decidable (OrderlyCreate ..))
  | .delete .. => inferInstanceAs (Decidable (OrderlyDelete ..))
  | .start .. => inferInstanceAs (Decidable (OrderlyStart ..))
  | .write .. | .finish .. | .next .. | .crash .. => isTrue trivial

end Condition

/-! ## The order of the groups -/

/-- Before a group with `catalog_core`, each key is one of a hook that has been seen. -/
def Covered (keys : List String) : List Provisioner → List (List Provisioner) → Prop
  | _, [] => True
  | seen, group :: later =>
    ((∃ core ∈ group, core.key = coreKey) →
      ∀ key ∈ keys, ∃ provisioner ∈ seen, provisioner.key = key ∧ provisioner.deprovision) ∧
    Covered keys (seen ++ group) later

variable {keys : List String} {groups : List (List Provisioner)} {attempt : DeprovisionAttempt}

theorem Covered.mono (covered : Covered keys seen groups) (subset : ∀ key ∈ fewer, key ∈ keys)
    (kept : ∀ key ∈ fewer, ∀ provisioner ∈ seen, provisioner.key = key →
      provisioner.deprovision → provisioner ∈ other) : Covered fewer other groups := by
  induction groups generalizing seen other with
  | nil => trivial
  | cons _ _ ih =>
    constructor
    · intro core key mem
      obtain ⟨provisioner, found, same, hook⟩ := covered.1 core key (subset key mem)
      exact ⟨provisioner, kept key mem provisioner found same hook, same, hook⟩
    · apply ih covered.2
      intro key mem provisioner found same hook
      rcases mem_append.mp found with earlier | here
      · exact mem_append_left _ (kept key mem provisioner earlier same hook)
      · exact mem_append_right _ here

structure Descending (groups : List (List Provisioner)) : Prop where
  equal : ∀ group ∈ groups, ∀ left ∈ group, ∀ right ∈ group, left.priority = right.priority
  ordered : groups.Pairwise fun earlier later =>
    ∀ left ∈ earlier, ∀ right ∈ later, right.priority ≤ left.priority

/-- A hook of a higher priority than `catalog_core` has been seen before it, since neither its
own group nor a later one has such a priority. -/
theorem covered_of_descending (descending : Descending groups)
    (present : (∃ core ∈ groups.flatten, core.key = coreKey) → ∀ key ∈ keys, ∃ provisioner,
      (provisioner ∈ seen ∨ provisioner ∈ groups.flatten) ∧ provisioner.key = key ∧
        provisioner.deprovision ∧ ∀ core ∈ groups.flatten, core.key = coreKey →
          core.priority < provisioner.priority) : Covered keys seen groups := by
  induction groups generalizing seen with
  | nil => trivial
  | cons group later ih =>
    constructor
    · intro found key mem
      obtain ⟨core, here, same⟩ := found
      have inGroups : core ∈ group ++ later.flatten := mem_append_left _ here
      obtain ⟨provisioner, place, sameKey, hook, above⟩ := present ⟨core, inGroups, same⟩ key mem
      refine ⟨provisioner, ?_, sameKey, hook⟩
      have higher := above core inGroups same
      rcases place with seenBefore | listed
      · exact seenBefore
      · rcases mem_append.mp listed with beside | after
        · have level := descending.equal group (.head _) core here provisioner beside
          omega
        · obtain ⟨other, held, inside⟩ := mem_flatten.mp after
          have lower := rel_of_pairwise_cons descending.ordered held core here provisioner inside
          omega
    · apply ih
      · exact ⟨fun other held => descending.equal other (.tail _ held), descending.ordered.of_cons⟩
      · intro found key mem
        obtain ⟨core, here, same⟩ := found
        obtain ⟨provisioner, place, sameKey, hook, above⟩ :=
          present ⟨core, mem_append_right _ here, same⟩ key mem
        refine ⟨provisioner, ?_, sameKey, hook, ?_⟩
        · rcases place with seenBefore | listed
          · exact .inl (mem_append_left _ seenBefore)
          · rcases mem_append.mp listed with beside | after
            · exact .inl (mem_append_right _ beside)
            · exact .inr after
        · intro other inLater sameOther
          exact above other (mem_append_right _ inLater) sameOther

instance : IsTrans Provisioner Provisioner.before where
  trans left middle right first second := by
    unfold Provisioner.before at *
    rcases first with lower | same
    · rcases second with lower' | same'
      · exact .inl (lower.trans lower')
      · exact .inl (same'.1 ▸ lower)
    · rcases second with lower' | same'
      · exact .inl (same.1 ▸ lower')
      · exact .inr ⟨same.1.trans same'.1, String.le_trans same.2 same'.2⟩

instance : Std.Total Provisioner.before where
  total left right := by
    unfold Provisioner.before
    rcases lt_trichotomy left.priority right.priority with lower | same | higher
    · exact .inl (.inl lower)
    · rcases String.le_total left.key right.key with less | more
      · exact .inl (.inr ⟨same, less⟩)
      · exact .inr (.inr ⟨same.symm, more⟩)
    · exact .inr (.inl higher)

def SamePriority (left right : Provisioner) : Prop := left.priority = right.priority

instance : IsTrans Provisioner SamePriority := ⟨fun _ _ _ first second => first.trans second⟩

instance : Std.Symm SamePriority := ⟨fun _ _ same => same.symm⟩

theorem mem_flatten_deprovisionGroups :
    provisioner ∈ (deprovisionGroups registry activity).flatten ↔
      provisioner ∈ registry ∧ provisioner.scope = .catalog ∧
        activity provisioner.key = some true := by
  have reversed : provisioner ∈ (deprovisionGroups registry activity).flatten ↔
      provisioner ∈ (activeProvisioners registry activity .catalog false).flatten := by
    simp only [deprovisionGroups, mem_flatten, mem_reverse]
  rw [reversed, activeProvisioners, flatten_splitBy, activeOf, sortedProvisioners,
    mem_filter, mem_insertionSort, mem_filter]
  simp [and_assoc]

theorem descending_deprovisionGroups : Descending (deprovisionGroups registry activity) := by
  have sorted : ((activeProvisioners registry activity .catalog false).flatten).Pairwise
      fun left right => left.priority ≤ right.priority := by
    rw [activeProvisioners, flatten_splitBy, activeOf, sortedProvisioners]
    apply List.Pairwise.filter
    exact (pairwise_insertionSort Provisioner.before _).imp
      fun before => before.elim (·.le) (·.1.le)
  constructor
  case equal =>
    intro group mem left leftIn right rightIn
    have chain := isChain_of_mem_splitBy (mem_reverse.mp mem)
    have level : group.Pairwise SamePriority := by
      apply isChain_iff_pairwise.mp
      refine chain.imp ?_
      intro left right same
      simpa [SamePriority] using same
    have reflexive : ∀ provisioner ∈ group, SamePriority provisioner provisioner := fun _ _ => rfl
    exact List.Pairwise.forall_of_forall reflexive level leftIn rightIn
  case ordered =>
    unfold deprovisionGroups
    rw [pairwise_reverse]
    refine (pairwise_flatten.mp sorted).2.imp ?_
    intro _ _ ordered left leftIn right rightIn
    exact ordered right rightIn left leftIn

/-! ## What every step keeps -/

def Dispatched (tasks : List ProvisionTask) (id : String) : Prop :=
  ∃ task ∈ tasks, task.catalogId = id

theorem dispatched_iff (id : String) : Dispatched tasks id ↔ id ∈ tasks.map (·.catalogId) :=
  mem_map.symm

theorem dispatched_modify (id : String) :
    Dispatched (tasks.modify index fun task => { task with finished := true }) id ↔
      Dispatched tasks id := by
  have same : (tasks.modify index fun task => { task with finished := true }).map (·.catalogId) =
      tasks.map (·.catalogId) := by
    apply ext_getElem?
    intro place
    rw [getElem?_map, getElem?_map, getElem?_modify]
    cases tasks[place]? with
    | none => rfl
    | some =>
      by_cases here : index = place
      · simp [here]
      · simp [here]
  rw [dispatched_iff, dispatched_iff, same]

/-- An attempt that runs `catalog_core` has nothing left to wait for, and one that will has it
ahead, unless it ends before. -/
structure DeprovisionAttempt.Sound (attempt : DeprovisionAttempt) (keys : List String) : Prop where
  current : (∃ core ∈ attempt.current, core.key = coreKey) → keys = []
  later : attempt.failed = false → Covered keys attempt.current attempt.later

theorem DeprovisionAttempt.Sound.mono
    (sound : attempt.Sound keys) (subset : ∀ key ∈ fewer, key ∈ keys) : attempt.Sound fewer where
  current core := by
    have none := sound.current core
    apply eq_nil_iff_forall_not_mem.mpr
    intro key mem
    rw [none] at subset
    exact not_mem_nil (subset key mem)
  later running := (sound.later running).mono subset fun _ _ _ found _ _ => found

/-- A provisioner that has ended is missed only where its key is still needed. -/
theorem DeprovisionAttempt.Sound.erase (sound : attempt.Sound keys) (provisioner : Provisioner)
    {failed : Bool} (subset : ∀ key ∈ fewer, key ∈ keys)
    (released : failed = false → attempt.failed = false ∧ ∀ key ∈ fewer, provisioner.key = key →
      provisioner.deprovision = false) :
    ({ attempt with current := attempt.current.erase provisioner, failed } :
      DeprovisionAttempt).Sound fewer where
  current core := by
    obtain ⟨core, mem, same⟩ := core
    exact (sound.mono subset).current ⟨core, mem_of_mem_erase mem, same⟩
  later running := by
    obtain ⟨before, others⟩ := released running
    refine (sound.later before).mono subset ?_
    intro key mem _ found same hook
    refine (mem_erase_of_ne ?_).mpr found
    intro eq
    subst eq
    rw [others key mem same] at hook
    cases hook

structure TeardownInvariant (state : TeardownState) : Prop where
  complete : state.Complete
  known : ∀ row ∈ state.base.catalogs, row.id ∈ state.created
  deleted : ∀ id, Dispatched state.base.tasks id →
    id ∈ state.created ∧ ∀ row ∈ state.base.catalogs, row.id = id → row.live = false
  attempts : state.attempts.All fun attempt =>
    Dispatched state.base.tasks attempt.catalogId ∧
      attempt.Sound (state.outstanding attempt.catalogId)

section Primitives

variable {state : TeardownState} {id : String}

theorem mem_outstanding :
    key ∈ state.outstanding id ↔ (id, key) ∈ state.owed ∧ (id, key) ∉ state.released := by
  unfold TeardownState.outstanding
  rw [mem_map]
  constructor
  · intro found
    obtain ⟨pair, mem, same⟩ := found
    obtain ⟨owed, holds⟩ := mem_filter.mp mem
    rw [Bool.and_eq_true, decide_eq_true_eq, decide_eq_true_eq] at holds
    have whole : pair = (id, key) := Prod.ext holds.1 same
    rw [← whole]
    exact ⟨owed, holds.2⟩
  · intro found
    refine ⟨(id, key), mem_filter.mpr ⟨found.1, ?_⟩, rfl⟩
    simp [found.2]

namespace TeardownInvariant

theorem initial : TeardownInvariant .initial where
  complete _ mem := nomatch mem
  known row mem := absurd mem LabelledTable.not_mem_empty
  deleted _ found := by
    obtain ⟨_, mem, _⟩ := found
    cases mem
  attempts := Pool.all_empty

section

variable (inv : TeardownInvariant state)

include inv

theorem write (id : String)
    (change : CatalogData → CatalogData) : TeardownInvariant (state.write id change) where
  complete := inv.complete
  known row mem := by
    obtain ⟨before, present, rfl⟩ := mem_modify.mp mem
    rw [modifiedRow_id]
    exact inv.known before present
  deleted other found := by
    obtain ⟨created, dead⟩ := inv.deleted other found
    refine ⟨created, ?_⟩
    intro _ mem same
    obtain ⟨before, present, rfl⟩ := mem_modify.mp mem
    rw [modifiedRow_id] at same
    rw [modifiedRow_live]
    exact dead before present same
  attempts := inv.attempts

theorem finishTask (index : Nat) : TeardownInvariant (state.finishTask index) where
  complete := inv.complete
  known := inv.known
  deleted id found := inv.deleted id ((dispatched_modify id).mp found)
  attempts := by
    refine inv.attempts.imp ?_
    intro _ _ _ holds
    exact ⟨(dispatched_modify _).mpr holds.1, holds.2⟩

theorem drop (attemptId : Nat) : TeardownInvariant (state.drop attemptId) where
  complete := inv.complete
  known := inv.known
  deleted := inv.deleted
  attempts := inv.attempts.remove attemptId

theorem launch (attemptId : Nat) (dispatched : Dispatched state.base.tasks attempt.catalogId)
    (sound : attempt.Sound (state.outstanding attempt.catalogId)) :
    TeardownInvariant (state.launch attemptId attempt) where
  complete := inv.complete
  known := inv.known
  deleted := inv.deleted
  attempts := inv.attempts.put attemptId ⟨dispatched, sound⟩

theorem release (id key : String) : TeardownInvariant (state.release id key) where
  complete := inv.complete
  known := inv.known
  deleted := inv.deleted
  attempts := by
    refine inv.attempts.imp ?_
    intro _ _ _ holds
    refine ⟨holds.1, holds.2.mono ?_⟩
    intro _ mem
    obtain ⟨owed, unreleased⟩ := mem_outstanding.mp mem
    exact mem_outstanding.mpr ⟨owed, fun released => unreleased (.tail _ released)⟩

variable {base : CatalogState}

/-- Rows that stay dead, none lost that needs a hook, and new tasks for dead rows only. -/
theorem advance (rows : ∀ row ∈ base.catalogs, ∃ before ∈ state.base.catalogs,
      before.id = row.id ∧ (before.live = false → row.live = false))
    (settled : ∀ row ∈ state.base.catalogs, (∀ other ∈ base.catalogs, other.id ≠ row.id) →
      state.outstanding row.id = [])
    (tasks : ∀ id, Dispatched base.tasks id → Dispatched state.base.tasks id ∨
      id ∈ state.created ∧ ∀ row ∈ base.catalogs, row.id = id → row.live = false)
    (kept : ∀ id, Dispatched state.base.tasks id → Dispatched base.tasks id) :
    TeardownInvariant (state.advance base) where
  complete removal mem := by
    rcases mem_append.mp mem with old | new
    · exact inv.complete removal old
    · obtain ⟨row, lost, rfl⟩ := mem_map.mp new
      obtain ⟨present, gone⟩ := mem_filter.mp lost
      apply settled row present
      intro other held
      exact of_decide_eq_true (all_eq_true.mp gone other held)
  known row mem := by
    obtain ⟨before, present, same, _⟩ := rows row mem
    rw [← same]
    exact inv.known before present
  deleted id found := by
    rcases tasks id found with old | new
    · obtain ⟨created, dead⟩ := inv.deleted id old
      refine ⟨created, ?_⟩
      intro row mem sameId
      obtain ⟨before, present, same, stays⟩ := rows row mem
      exact stays (dead before present (same.trans sameId))
    · exact new
  attempts := by
    refine inv.attempts.imp ?_
    intro _ _ _ holds
    exact ⟨kept _ holds.1, holds.2⟩

theorem removed
    (rows : base.catalogs = state.base.catalogs.remove id) (tasks : base.tasks = state.base.tasks)
    (settled : state.outstanding id = []) : TeardownInvariant (state.advance base) := by
  apply inv.advance
  · intro row mem
    rw [rows] at mem
    exact ⟨row, (mem_remove.mp mem).1, rfl, fun dead => dead⟩
  · intro row present gone
    by_cases here : row.id = id
    · rw [here]
      exact settled
    · rw [rows] at gone
      exact absurd rfl (gone row (mem_remove.mpr ⟨present, here⟩))
  · intro other found
    rw [tasks] at found
    exact .inl found
  · intro _ found
    rw [tasks]
    exact found

theorem insertCatalog {after : TeardownState} (fresh : id ∉ state.created)
    (inserted : state.insertCatalog id externalId data = some after) :
    TeardownInvariant after := by
  obtain ⟨_, found, rfl⟩ := Option.map_eq_some_iff.mp inserted
  constructor
  case complete => exact inv.complete
  case known =>
    intro row mem
    rcases mem_of_insert found mem with new | old
    · rw [new]
      exact .head _
    · exact .tail _ (inv.known row old)
  case deleted =>
    intro other dispatched
    obtain ⟨created, dead⟩ := inv.deleted other dispatched
    refine ⟨mem_cons_of_mem _ created, ?_⟩
    intro row mem same
    rcases mem_of_insert found mem with new | old
    · rw [new] at same
      rw [← same] at created
      exact absurd created fresh
    · exact dead row old same
  case attempts => exact inv.attempts

theorem owe (repeated : ∀ row ∈ state.base.catalogs, resolved = some row.id → row.live ∨
      ∀ key ∈ owing registry (row.data.checklist.getD []),
        (row.id, key) ∈ state.owed ∨ (row.id, key) ∈ state.released) :
    TeardownInvariant (state.owe registry resolved) where
  complete := inv.complete
  known := inv.known
  deleted := inv.deleted
  attempts := by
    refine inv.attempts.imp ?_
    intro _ _ _ holds
    refine ⟨holds.1, holds.2.mono ?_⟩
    intro _ mem
    obtain ⟨owed, unreleased⟩ := mem_outstanding.mp mem
    refine mem_outstanding.mpr ⟨?_, unreleased⟩
    rcases mem_append.mp owed with old | new
    · exact old
    · obtain ⟨row, present, inside⟩ := mem_flatMap.mp new
      split at inside
      next same =>
        obtain ⟨other, owing, eq⟩ := mem_map.mp inside
        obtain ⟨sameId, rfl⟩ := Prod.mk.inj eq
        -- the catalog has a task, so its row is dead and the delete is a repeated one
        have dead := (inv.deleted _ holds.1).2 row present sameId
        rcases repeated row present same with live | settled
        · rw [dead] at live
          cases live
        · rw [sameId] at settled
          exact (settled other owing).resolve_right unreleased
      · cases inside

theorem dispatch (rows : base.catalogs = state.base.catalogs)
    (tasks : base.tasks = state.base.tasks) (exist : base.Exists id) :
    TeardownInvariant
      (state.advance ((base.dispatchDeprovision id checklist).invalidateLabel name)) := by
  have dead := deleted_dispatchDeprovision base id checklist
  apply inv.advance
  · intro row mem
    obtain ⟨_, found, rfl⟩ := mem_modify.mp mem
    obtain ⟨before, present, rfl⟩ := mem_retire.mp found
    rw [rows] at present
    refine ⟨before, present, ?_, ?_⟩
    · rw [modifiedRow_id, retiredRow_id]
    · intro gone
      rw [modifiedRow_live]
      unfold retiredRow
      split
      · rfl
      · exact gone
  · intro row present gone
    rw [← rows] at present
    refine absurd ?_ (gone _ (mem_modify.mpr ⟨_, mem_retire.mpr ⟨row, present, rfl⟩, rfl⟩))
    rw [modifiedRow_id, retiredRow_id]
  · intro other found
    obtain ⟨task, mem, same⟩ := found
    rcases mem_of_mem_createTask mem with old | new
    · rw [tasks] at old
      exact .inl ⟨task, old, same⟩
    · subst new same
      obtain ⟨row, present, here⟩ := exist
      rw [rows] at present
      refine .inr ⟨here ▸ inv.known row present, ?_⟩
      intro row mem sameId
      exact (dead row mem sameId).1
  · intro _ found
    obtain ⟨task, mem, same⟩ := found
    rw [← tasks] at mem
    refine ⟨task, ?_, same⟩
    unfold CatalogState.invalidateLabel CatalogState.dispatchDeprovision createTask
    split
    · exact mem
    · exact mem_append_left _ mem

end

end TeardownInvariant

end Primitives

/-! ## Every step -/

section Steps

variable {state : TeardownState}

namespace TeardownInvariant

theorem create (inv : TeardownInvariant state) {id externalId : String}
    (orderly : OrderlyCreate state id externalId) (defer : Bool) (now : Nat) :
    TeardownInvariant (state.create registry activity id externalId defer now) := by
  unfold TeardownState.create
  have reclaimed : TeardownInvariant
      (state.reclaim ((state.base.catalogs.retired externalId).map (·.id))) := by
    cases found : state.base.catalogs.retired externalId with
    | none => exact inv
    | some row =>
      have holds := find?_some found
      rw [decide_eq_true_eq] at holds
      exact inv.removed rfl rfl
        (orderly.2 row (mem_of_find?_eq_some found) holds.1 holds.2)
  have same : ∀ tombstoned, (state.reclaim tombstoned).created = state.created := by
    rintro (_ | _) <;> rfl
  cases inserted : (state.reclaim
      ((state.base.catalogs.retired externalId).map (·.id))).insertCatalog id externalId
      (.created now (buildChecklist registry activity .catalog defer)) with
  | none => exact inv
  | some => exact reclaimed.insertCatalog (same _ ▸ orderly.1) inserted

theorem delete (inv : TeardownInvariant state)
    (orderly : OrderlyDelete registry state name cached activity) (raises : Bool) :
    TeardownInvariant (state.delete registry activity name cached raises) := by
  unfold TeardownState.delete
  split
  · exact inv
  next result =>
    have owed : TeardownInvariant
        (state.owe registry ((state.served cached).resolveCatalogId name)) :=
      inv.owe fun row present same => (orderly row present same).2
    rcases deleteCatalog_cases result with same | began
    · apply owed.advance
      · intro row mem
        rw [same.1] at mem
        exact ⟨row, mem, rfl, fun dead => dead⟩
      · intro row present gone
        rw [same.1] at gone
        exact absurd rfl (gone row present)
      · intro id found
        rw [same.2] at found
        exact .inl found
      · intro id found
        rw [same.2]
        exact found
    · obtain ⟨_, resolved, exist, rfl⟩ := began
      cases checklist : buildChecklist registry activity .catalog false with
      | cons => exact owed.dispatch rfl rfl exist
      | nil =>
        refine owed.removed rfl rfl ?_
        obtain ⟨row, present, rfl⟩ := exist
        rcases (orderly row present resolved).1 with settled | active
        · rw [resolved]
          exact settled
        · obtain ⟨provisioner, mem, scope, active⟩ := active
          have listed : provisioner ∈
              activeOf activity (sortedProvisioners registry .catalog false) := by
            simp [activeOf, sortedProvisioners, mem, scope, active]
          exact absurd checklist (ne_nil_of_mem (mem_map_of_mem listed))

theorem start (inv : TeardownInvariant state)
    (orderly : OrderlyStart registry state index activity) (attemptId : Nat) :
    TeardownInvariant (state.start registry activity attemptId index) := by
  unfold TeardownState.start
  split
  · exact inv
  next task found =>
    split
    · exact inv
    · split
      · refine inv.launch attemptId ⟨task, mem_of_getElem? found, rfl⟩ ⟨?_, ?_⟩
        · intro core
          obtain ⟨_, mem, _⟩ := core
          cases mem
        · intro _
          apply covered_of_descending descending_deprovisionGroups
          intro core key mem
          obtain ⟨core, inside, same⟩ := core
          have active := (mem_flatten_deprovisionGroups.mp inside).2.2
          rw [same] at active
          obtain ⟨takes, provisioner, listed, sameKey, scope, hook, above⟩ :=
            orderly task found active key mem
          refine ⟨provisioner, .inr (mem_flatten_deprovisionGroups.mpr ⟨listed, scope, ?_⟩),
            sameKey, hook, ?_⟩
          · rw [sameKey]
            exact takes
          · intro other inGroups otherSame
            exact above other (mem_flatten_deprovisionGroups.mp inGroups).1 otherSame
      · exact inv.finishTask index

theorem worked (inv : TeardownInvariant state) {id key : String}
    (settled : key = coreKey → state.outstanding id = []) (outcome : HookOutcome) :
    TeardownInvariant (state.worked id key outcome) := by
  have removed : TeardownInvariant (state.removeCore id key outcome) := by
    unfold TeardownState.removeCore
    split
    next core => exact inv.removed rfl rfl (settled core.1)
    · exact inv
  unfold TeardownState.worked
  split
  · exact removed.release id key
  · exact removed

end TeardownInvariant

theorem of_mem_outstanding_worked {id key needed : String}
    (mem : needed ∈ (state.worked id key outcome).outstanding id) :
    needed ∈ state.outstanding id ∧ (outcome.successful → key ≠ needed) := by
  have same : (state.removeCore id key outcome).outstanding id = state.outstanding id := by
    unfold TeardownState.removeCore
    split <;> rfl
  unfold TeardownState.worked at mem
  split at mem
  · obtain ⟨owed, unreleased⟩ := mem_outstanding.mp mem
    rw [← same]
    refine ⟨mem_outstanding.mpr ⟨owed, fun released => unreleased (.tail _ released)⟩, ?_⟩
    intro _ eq
    subst eq
    exact unreleased (.head _)
  · next unsuccessful =>
    rw [same] at mem
    exact ⟨mem, fun successful => absurd successful unsuccessful⟩

namespace TeardownInvariant

theorem finish (inv : TeardownInvariant state) (attemptId : Nat) (key : String)
    (outcome : HookOutcome) : TeardownInvariant (state.finish attemptId key outcome) := by
  unfold TeardownState.finish
  split
  · exact inv
  next attempt found =>
    obtain ⟨dispatched, sound⟩ := inv.attempts attemptId attempt found
    split
    · exact inv
    next provisioner running =>
      have mem := mem_of_find?_eq_some running
      unfold TeardownState.runProvisioner
      split
      · have settled : provisioner.key = coreKey → state.outstanding attempt.catalogId = [] :=
          fun core => sound.current ⟨provisioner, mem, core⟩
        refine (inv.worked settled outcome).launch attemptId ?_ ?_
        · unfold TeardownState.worked TeardownState.removeCore
          split <;> split <;> exact dispatched
        · refine sound.erase provisioner (fun _ held => (of_mem_outstanding_worked held).1) ?_
          intro passed
          rw [Bool.or_eq_false_iff, decide_eq_false_iff_not, not_not] at passed
          refine ⟨passed.1, ?_⟩
          intro _ held same
          have successful : outcome.successful := by
            rw [passed.2]
            rfl
          exact absurd same ((of_mem_outstanding_worked held).2 successful)
      next none =>
        refine inv.launch attemptId dispatched (sound.erase provisioner (fun _ held => held) ?_)
        intro passed
        exact ⟨passed, fun _ _ _ => Bool.eq_false_iff.mpr none⟩

theorem next (inv : TeardownInvariant state) (attemptId : Nat) (retry : Bool) :
    TeardownInvariant (state.next attemptId retry) := by
  unfold TeardownState.next
  split
  · exact inv
  next attempt found =>
    obtain ⟨dispatched, sound⟩ := inv.attempts attemptId attempt found
    split
    · exact inv
    next ended =>
      rw [ne_eq, not_not] at ended
      split
      · split
        · exact inv.drop attemptId
        · exact (inv.drop attemptId).finishTask attempt.task
      next running =>
        split
        · exact (inv.drop attemptId).finishTask attempt.task
        next groups =>
          have covered := sound.later (Bool.eq_false_iff.mpr running)
          rw [ended, groups] at covered
          refine inv.launch attemptId dispatched ⟨?_, fun _ => covered.2⟩
          intro core
          apply eq_nil_iff_forall_not_mem.mpr
          intro key mem
          obtain ⟨_, absent, _⟩ := covered.1 core key mem
          cases absent

theorem step (inv : TeardownInvariant state) (orderly : OrderlyTeardown registry state op) :
    TeardownInvariant (teardownStep registry state op) := by
  cases op with
  | create _ _ _ defer now => exact inv.create orderly defer now
  | write id change => exact inv.write id change
  | delete _ _ _ raises => exact inv.delete orderly raises
  | start attemptId => exact inv.start orderly attemptId
  | finish attemptId key outcome => exact inv.finish attemptId key outcome
  | next attemptId retry => exact inv.next attemptId retry
  | crash attemptId => exact inv.drop attemptId

end TeardownInvariant

end Steps

/-- In every orderly run a catalog is removed only when no hook is left that its completed
steps need. -/
theorem teardown_complete_of_orderly (registry : List Provisioner) (ops : List TeardownOp)
    (orderly : Guarded (teardownStep registry) (OrderlyTeardown registry) .initial ops) :
    (run (teardownStep registry) .initial ops).Complete := by
  have preserved : ∀ state op, TeardownInvariant state → OrderlyTeardown registry state op →
      TeardownInvariant (teardownStep registry state op) :=
    fun _ _ inv orderly => inv.step orderly
  exact (invariant_run preserved TeardownInvariant.initial orderly).complete

/-! ## The core and a bucket -/

def provisioned : List TeardownOp :=
  [.create "c_1" "survey" (fun _ => some true) false 0,
    .write "c_1" fun data => data.markProvisioningStep 1 "catalog_core" .complete,
    .write "c_1" fun data => data.markProvisioningStep 2 "gcp_bucket" .complete]

def deleted (activity : Activity) : List TeardownOp :=
  provisioned ++ [.delete "survey" none activity false, .start 0 0 activity, .next 0 true]

def bucketFirst : List TeardownOp :=
  deleted (fun _ => some true) ++
    [.finish 0 "gcp_bucket" .returned, .next 0 true, .finish 0 "catalog_core" .returned]

theorem teardown_complete_bucketFirst :
    Guarded (teardownStep bucketRegistry) (OrderlyTeardown bucketRegistry) .initial bucketFirst ∧
    (run (teardownStep bucketRegistry) .initial bucketFirst).removals = [("c_1", [])] ∧
    (run (teardownStep bucketRegistry) .initial bucketFirst).Complete := by
  have orderly : Guarded (teardownStep bucketRegistry) (OrderlyTeardown bucketRegistry) .initial
      bucketFirst := by decide +kernel
  exact ⟨orderly, by decide +kernel,
    teardown_complete_of_orderly bucketRegistry bucketFirst orderly⟩

/-- The catalog is removed without the hook of its bucket when `provision_enabled` was switched
off after the bucket was made, when both have one priority, and when a create takes its label
before the first attempt. -/
theorem removed_before_bucket : ¬ (run (teardownStep bucketRegistry) .initial
      (deleted (fun key => some (key = "catalog_core")) ++
        [.finish 0 "catalog_core" .returned])).Complete ∧
    ¬ (run (teardownStep [⟨"gcp_bucket", 0, .catalog, true, true, true⟩, catalogCore]) .initial
      (deleted (fun _ => some true) ++ [.finish 0 "catalog_core" .returned])).Complete ∧
    ¬ (run (teardownStep bucketRegistry) .initial (deleted (fun _ => some true) ++
        [.create "c_2" "survey" (fun _ => some true) false 3])).Complete := by
  decide +kernel

end Dynastore.Catalogs
