import Dynastore.Foundation.Execution
import Dynastore.Foundation.Pool

/-! The registry row of a collection has a transitional overlay, `lifecycle_status`, over its
`deleted_at`. Four actors write it: the finalizer of the creation and the mark of a forced delete by
id alone, a soft delete where the row is live, and the reaper where the row is still being
provisioned. Each statement is one step of the machine. -/

namespace Dynastore.Catalogs

open Execution Option

inductive CollectionLifecycle where
  | missing | active | tombstoned | provisioning | deleting
deriving DecidableEq

def CollectionLifecycle.value : CollectionLifecycle → String
  | .missing => "missing"
  | .active => "active"
  | .tombstoned => "tombstoned"
  | .provisioning => "provisioning"
  | .deleting => "deleting"

inductive LifecycleStatus where
  | provisioning | deleting
deriving DecidableEq

/-- `tombstoned` is whether `deleted_at` is set. -/
structure CollectionRow where
  tombstoned : Bool
  lifecycleStatus : Option LifecycleStatus
deriving DecidableEq

/-- `get_lifecycle`: the overlay outranks `deleted_at`. -/
def getLifecycle : Option CollectionRow → CollectionLifecycle
  | none => .missing
  | some row =>
    match row.lifecycleStatus with
    | some .deleting => .deleting
    | some .provisioning => .provisioning
    | none => if row.tombstoned then .tombstoned else .active

def ensureAlive (row : Option CollectionRow) : Except String Unit :=
  match getLifecycle row with
  | .active => .ok ()
  | lifecycle => .error lifecycle.value

theorem ensureAlive_eq_ok_iff : ensureAlive row = .ok () ↔ row = some ⟨false, none⟩ := by
  rcases row with _ | ⟨tombstoned, _ | status⟩
  · simp [ensureAlive, getLifecycle]
  · cases tombstoned <;> simp [ensureAlive, getLifecycle]
  · cases status <;> simp [ensureAlive, getLifecycle]

/-! ## The statements -/

def setLifecycleStatus (status : Option LifecycleStatus) (row : CollectionRow) : CollectionRow :=
  { row with lifecycleStatus := status }

def softDeleteRow (row : CollectionRow) : CollectionRow :=
  if row.tombstoned then row else ⟨true, none⟩

def clearProvisioning (row : CollectionRow) : CollectionRow :=
  if row.lifecycleStatus = some .provisioning then setLifecycleStatus none row else row

/-! ## The actors -/

inductive Actor where
  | finalizeProvisioning
  | softDelete
  /-- The mark of a forced delete, in a transaction of its own or in its caller's. -/
  | markDeleting (joined : Bool)
  | purge
  | clearProvisioning
  /-- The reaper has found the row marked and is about to call `delete_collection`. -/
  | redrive
deriving DecidableEq

/-- `marked` records that a forced delete has committed its mark. -/
structure LifecycleState where
  row : Option CollectionRow
  created : Bool
  actors : Pool Actor
  marked : Bool

inductive LifecycleOp where
  /-- The commit of `create_collection`; the finalizer is started if the row is born
  provisioning. -/
  | create (id : Nat) (provisioning : Bool)
  /-- The lifecycle gate of `delete_collection`. -/
  | delete (id : Nat) (force joined : Bool)
  /-- A reaper tick selects the row as stuck. -/
  | reap (id : Nat)
  | act (id : Nat)
  /-- The next statement of the actor raises; the actor gives up. -/
  | fail (id : Nat)

namespace LifecycleState

variable (state : LifecycleState)

def begin (id : Nat) (actor : Actor) : LifecycleState :=
  { state with actors := state.actors.put id actor }

def finish (id : Nat) : LifecycleState :=
  { state with actors := state.actors.remove id }

def writeRow (change : CollectionRow → CollectionRow) : LifecycleState :=
  { state with row := state.row.map change }

def create (id : Nat) (provisioning : Bool) : LifecycleState :=
  if state.created then state
  else if provisioning then
    { state with
      row := some ⟨false, some .provisioning⟩
      created := true
      actors := state.actors.put id .finalizeProvisioning }
  else { state with row := some ⟨false, none⟩, created := true }

def gate (id : Nat) (force joined : Bool) : LifecycleState :=
  match getLifecycle state.row, force with
  | .missing, _ => state.finish id
  | .tombstoned, false => state.finish id
  | _, false => state.begin id .softDelete
  | _, true => state.begin id (.markDeleting joined)

/-- A tick re-drives the deletion of a marked row and clears the overlay of a stuck creation. -/
def reap (id : Nat) : LifecycleState :=
  match getLifecycle state.row with
  | .provisioning => state.begin id .clearProvisioning
  | .deleting => state.begin id .redrive
  | .missing | .active | .tombstoned => state

def act (id : Nat) : Actor → LifecycleState
  | .finalizeProvisioning => (state.writeRow (setLifecycleStatus none)).finish id
  | .softDelete => (state.writeRow softDeleteRow).finish id
  | .markDeleting false =>
    { (state.writeRow (setLifecycleStatus (some .deleting))).begin id .purge with
      marked := state.marked || state.row.isSome }
  -- Mark and purge are committed together.
  | .markDeleting true =>
    { state.finish id with row := none, marked := state.marked || state.row.isSome }
  | .purge => { state.finish id with row := none }
  | .clearProvisioning => (state.writeRow Catalogs.clearProvisioning).finish id
  | .redrive => state.gate id true false

def step : LifecycleOp → LifecycleState
  | .create id provisioning => if (state.actors id).isSome then state
      else state.create id provisioning
  | .delete id force joined => if (state.actors id).isSome then state
      else state.gate id force joined
  | .reap id => if (state.actors id).isSome then state else state.reap id
  | .act id =>
    match state.actors id with
    | some actor => state.act id actor
    | none => state
  | .fail id => state.finish id

def initial : LifecycleState where
  row := none
  created := false
  actors := .empty
  marked := false

/-- After the mark the row is gone, or writes to the collection are refused. -/
def Refused : Prop :=
  state.marked → state.row = none ∨ ∃ reason, ensureAlive state.row = .error reason

end LifecycleState

/-- No finalizer clears the overlay of a row that is live and marked for deletion. -/
def FinalizerSpares (state : LifecycleState) : LifecycleOp → Prop
  | .act id => state.actors id = some .finalizeProvisioning →
      state.row ≠ some ⟨false, some .deleting⟩
  | .create .. | .delete .. | .reap .. | .fail .. => True

/-! ## What every step keeps -/

section Invariant

variable {state : LifecycleState}

/-- Only a forced delete marks a row, the row of a marked collection is marked or tombstoned,
and a row that was created does not come back. -/
structure LifecycleInvariant (state : LifecycleState) : Prop where
  marks : ∀ row, state.row = some row → row.lifecycleStatus = some .deleting → state.marked
  kept : state.marked → ∀ row, state.row = some row →
    row.lifecycleStatus = some .deleting ∨ row.tombstoned
  existed : state.row.isSome ∨ state.marked → state.created

theorem lifecycleInvariant_initial : LifecycleInvariant .initial where
  marks row found := by cases found
  kept marked := by cases marked
  existed present := by rcases present with found | marked <;> contradiction

section

variable (inv : LifecycleInvariant state)

include inv

namespace LifecycleInvariant

theorem of_eq (row : other.row = state.row) (marked : other.marked = state.marked)
    (created : other.created = state.created) : LifecycleInvariant other := by
  constructor
  · rw [row, marked]
    exact inv.marks
  · rw [row, marked]
    exact inv.kept
  · rw [row, marked, created]
    exact inv.existed

theorem gate (id : Nat)
    (force joined : Bool) : LifecycleInvariant (state.gate id force joined) := by
  unfold LifecycleState.gate
  split <;> exact inv.of_eq rfl rfl rfl

theorem writeRow
    (marks : ∀ row, state.row = some row → (change row).lifecycleStatus = some .deleting →
      row.lifecycleStatus = some .deleting)
    (kept : ∀ row, state.row = some row → row.lifecycleStatus = some .deleting ∨ row.tombstoned →
        (change row).lifecycleStatus = some .deleting ∨ (change row).tombstoned) :
    LifecycleInvariant (state.writeRow change) := by
  constructor
  case marks =>
    intro row found marked
    obtain ⟨before, present, rfl⟩ := map_eq_some_iff.mp found
    exact inv.marks before present (marks before present marked)
  case kept =>
    intro marked _ found
    obtain ⟨before, present, rfl⟩ := map_eq_some_iff.mp found
    exact kept before present (inv.kept marked before present)
  case existed =>
    intro present
    apply inv.existed
    simpa [LifecycleState.writeRow] using present

theorem create (id : Nat)
    (provisioning : Bool) : LifecycleInvariant (state.create id provisioning) := by
  unfold LifecycleState.create
  split
  · exact inv
  next fresh =>
    have unmarked : state.marked ≠ true := fun marked => fresh (inv.existed (.inr marked))
    split
    all_goals
      constructor
      · intro _ found marked
        cases found
        cases marked
      · intro marked
        exact absurd marked unmarked
      · intro _
        rfl

theorem gone (row : other.row = none) (existed : other.marked → state.row.isSome ∨ state.marked)
    (created : other.created = state.created) : LifecycleInvariant other := by
  constructor
  · intro found present
    rw [row] at present
    cases present
  · intro _ _ present
    rw [row] at present
    cases present
  · rw [row, created]
    rintro (present | marked)
    · cases present
    · exact inv.existed (existed marked)

theorem act {id : Nat}
    (spares : actor = .finalizeProvisioning → state.row ≠ some ⟨false, some .deleting⟩) :
    LifecycleInvariant (state.act id actor) := by
  cases actor with
  | finalizeProvisioning =>
    have cleared : LifecycleInvariant (state.writeRow (setLifecycleStatus none)) := by
      apply inv.writeRow
      · intro row present marked
        cases marked
      · intro row present before
        right
        obtain ⟨tombstoned, status⟩ := row
        cases tombstoned with
        | true => rfl
        | false =>
          have deleting : status = some .deleting := before.resolve_right Bool.false_ne_true
          exact absurd (deleting ▸ present) (spares rfl)
    exact cleared.of_eq rfl rfl rfl
  | softDelete =>
    have deleted : LifecycleInvariant (state.writeRow softDeleteRow) := by
      apply inv.writeRow
      · intro row present marked
        unfold softDeleteRow at marked
        split at marked
        · exact marked
        · cases marked
      · intro row present before
        unfold softDeleteRow
        split
        · exact before
        · exact .inr rfl
    exact deleted.of_eq rfl rfl rfl
  | markDeleting joined =>
    cases joined with
    | false =>
      constructor
      · intro row found marked
        obtain ⟨before, present, _⟩ := map_eq_some_iff.mp found
        simp [LifecycleState.act, present]
      · intro marked row found
        obtain ⟨before, _, rfl⟩ := map_eq_some_iff.mp found
        exact .inl rfl
      · intro present
        apply inv.existed
        simp only [LifecycleState.act, LifecycleState.begin, LifecycleState.writeRow,
          isSome_map, Bool.or_eq_true] at present
        exact present.elim .inl Or.symm
    | true =>
      refine inv.gone rfl ?_ rfl
      intro marked
      simp only [LifecycleState.act, Bool.or_eq_true] at marked
      exact marked.symm
  | purge => exact inv.gone rfl .inr rfl
  | clearProvisioning =>
    have cleared : LifecycleInvariant (state.writeRow Catalogs.clearProvisioning) := by
      apply inv.writeRow
      · intro row present marked
        unfold Catalogs.clearProvisioning at marked
        split at marked
        · cases marked
        · exact marked
      · intro _ _ before
        unfold Catalogs.clearProvisioning
        split
        next provisioning =>
          rw [provisioning] at before
          refine before.imp_left ?_
          intro same
          cases same
        · exact before
    exact cleared.of_eq rfl rfl rfl
  | redrive => exact inv.gate id true false

theorem step (spares : FinalizerSpares state op) : LifecycleInvariant (state.step op) := by
  cases op with
  | create id provisioning =>
    simp only [LifecycleState.step]
    split
    · exact inv
    · exact inv.create id provisioning
  | delete id force joined =>
    simp only [LifecycleState.step]
    split
    · exact inv
    · exact inv.gate id force joined
  | reap =>
    simp only [LifecycleState.step, LifecycleState.reap]
    split
    · exact inv
    · split <;> exact inv.of_eq rfl rfl rfl
  | act =>
    simp only [LifecycleState.step]
    split
    next found =>
      apply inv.act
      intro finalizer
      exact spares (finalizer ▸ found)
    · exact inv
  | fail => exact inv.of_eq rfl rfl rfl

theorem refused : state.Refused := by
  intro marked
  cases present : state.row with
  | none => exact .inl rfl
  | some row =>
    right
    cases alive : ensureAlive (some row) with
    | error reason => exact ⟨reason, rfl⟩
    | ok =>
      obtain rfl : row = ⟨false, none⟩ := some.inj (ensureAlive_eq_ok_iff.mp alive)
      rcases inv.kept marked _ present with deleting | tombstoned
      · cases deleting
      · cases tombstoned

end LifecycleInvariant

theorem not_refused_of_finalizer
    (clears : ¬ FinalizerSpares state op) : ¬ (state.step op).Refused := by
  cases op with
  | act =>
    simp only [FinalizerSpares, not_forall, not_not] at clears
    obtain ⟨finalizer, present⟩ := clears
    have marked : state.marked := inv.marks _ present rfl
    simp [LifecycleState.step, finalizer, LifecycleState.act, LifecycleState.Refused,
      LifecycleState.writeRow, LifecycleState.finish, present, marked, setLifecycleStatus,
      ensureAlive, getLifecycle]
  | _ => exact absurd trivial clears

end

end Invariant

/-- A collection marked for deletion stays closed in all states of a run exactly if no
finalizer clears the mark of a live row. -/
theorem refused_iff_finalizer_spares (ops : List LifecycleOp) :
    (∀ before, before <+: ops → (run LifecycleState.step .initial before).Refused) ↔
      Guarded LifecycleState.step FinalizerSpares .initial ops := by
  have kept : ∀ state op, LifecycleInvariant state → FinalizerSpares state op →
      LifecycleInvariant (state.step op) := by
    intro _ op inv spares
    exact inv.step spares
  constructor
  · intro refused
    -- Up to the first finalizer that clears a mark the invariant holds.
    induction ops using List.reverseRecOn with
    | nil => trivial
    | append_singleton ops op ih =>
      have earlier := ih fun before isPrefix =>
        refused before (isPrefix.trans (List.prefix_append _ _))
      have inv := invariant_run kept lifecycleInvariant_initial earlier
      refine (guarded_append _).mpr ⟨earlier, ?_, trivial⟩
      by_contra clears
      apply not_refused_of_finalizer inv clears
      have last := refused (ops ++ [op]) List.prefix_rfl
      rwa [run_append] at last
  · rintro spares _ ⟨_, rfl⟩
    have guarded := ((guarded_append _).mp spares).1
    exact (invariant_run kept lifecycleInvariant_initial guarded).refused

/-- A collection is created, a forced delete marks it and fails to purge it, and the finalizer
of the creation comes last. -/
def finalizeAfterMark : List LifecycleOp :=
  [.create 0 true, .delete 1 true false, .act 1, .fail 1, .act 0]

theorem marked_collection_active_again :
    let state := run LifecycleState.step .initial finalizeAfterMark
    state.marked = true ∧ ensureAlive state.row = .ok () ∧ ¬ state.Refused := by
  refine ⟨rfl, rfl, ?_⟩
  intro refused
  rcases refused rfl with missing | refusal
  · cases missing
  · obtain ⟨_, refusal⟩ := refusal
    cases refusal

end Dynastore.Catalogs
