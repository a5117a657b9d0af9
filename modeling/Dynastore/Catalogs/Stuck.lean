import Dynastore.Catalogs.Lifecycle

/-! A tick of the reaper looks for collections that carry an overlay and were created longer ago
than the threshold: the row does not say since when it has carried its overlay. A creation is one
transaction with one time, and a scan may leave a row out, for the limit or for its lock. -/

namespace Dynastore.Catalogs

open Execution

/-- `since` is no column: it is the time from which the row has had its present overlay. -/
structure TimedRow extends CollectionRow where
  createdAt : Int
  since : Int

def TimedRow.write (now : Int) (change : CollectionRow → CollectionRow) (row : TimedRow) :
    TimedRow :=
  { row with
    toCollectionRow := change row.toCollectionRow
    since := if (change row.toCollectionRow).lifecycleStatus = row.lifecycleStatus then row.since
      else now }

/-- A collection that a scan returned, as the scan found it. -/
structure Scanned where
  status : LifecycleStatus
  since : Int
  now : Int
deriving DecidableEq

/-- The conditions of `_STUCK_PROVISIONING_SQL` and `_STUCK_DELETING_SQL`. -/
def TimedRow.scan (threshold now : Int) (row : TimedRow) : Option Scanned :=
  row.lifecycleStatus.bind fun status =>
    if row.createdAt + threshold < now then some ⟨status, row.since, now⟩ else none

/-- `acted` has the scanned rows whose mark was cleared or whose delete was driven again. -/
structure ReaperState where
  row : Option TimedRow
  scanned : List Scanned
  acted : List Scanned

inductive ReaperOp where
  | create (now : Int) (provisioning : Bool)
  | finalizeProvisioning (now : Int)
  | softDelete (now : Int)
  | markDeleting (now : Int)
  | purge
  | scan (now : Int)
  /-- The tick goes on with a row that it scanned. -/
  | act (now : Int) (scanned : Scanned)

namespace ReaperState

def act (state : ReaperState) (now : Int) (scanned : Scanned) : ReaperState :=
  match scanned.status with
  | .provisioning =>
    -- no row is updated unless it is still provisioning
    if state.row.any (·.lifecycleStatus = some .provisioning) then
      { state with
        row := state.row.map (.write now clearProvisioning), acted := scanned :: state.acted }
    else state
  | .deleting =>
    { state with
      row := state.row.map (.write now (setLifecycleStatus (some .deleting)))
      acted := scanned :: state.acted }

def step (threshold : Int) (state : ReaperState) : ReaperOp → ReaperState
  | .create now provisioning =>
    if state.row.isSome then state
    else { state with
      row := some ⟨⟨false, if provisioning then some .provisioning else none⟩, now, now⟩ }
  | .finalizeProvisioning now =>
    { state with row := state.row.map (.write now (setLifecycleStatus none)) }
  | .softDelete now => { state with row := state.row.map (.write now softDeleteRow) }
  | .markDeleting now =>
    { state with row := state.row.map (.write now (setLifecycleStatus (some .deleting))) }
  | .purge => { state with row := none }
  | .scan now =>
    { state with scanned := (state.row.bind (·.scan threshold now)).toList ++ state.scanned }
  | .act now scanned => if scanned ∈ state.scanned then state.act now scanned else state

/-- A scan later than the threshold after the creation of a row that is marked for deletion is
also as late after the mark. -/
def MarkedInTime (threshold : Int) (state : ReaperState) : ReaperOp → Prop
  | .scan now => ∀ row, state.row = some row → row.lifecycleStatus = some .deleting →
      row.createdAt + threshold < now → row.since + threshold ≤ now
  | _ => True

/-- A row has been provisioning since its creation. -/
def Born (row : Option TimedRow) : Prop :=
  ∀ own, row = some own → own.lifecycleStatus = some .provisioning → own.since = own.createdAt

theorem Born.write {row : Option TimedRow} (born : Born row) (now : Int)
    (keeps : ∀ own, (change own).lifecycleStatus = some .provisioning →
      own.lifecycleStatus = some .provisioning) : Born (row.map (.write now change)) := by
  intro _ found status
  obtain ⟨before, present, rfl⟩ := Option.map_eq_some_iff.mp found
  have earlier := keeps _ status
  simp only [TimedRow.write] at status ⊢
  rw [if_pos (status.trans earlier.symm)]
  exact born before present earlier

structure Sound (threshold : Int) (state : ReaperState) : Prop where
  born : Born state.row
  due : ∀ scanned ∈ state.scanned, scanned.since + threshold ≤ scanned.now
  acted : ∀ scanned ∈ state.acted, scanned ∈ state.scanned

theorem sound_step (threshold : Int) (state : ReaperState) (op : ReaperOp)
    (sound : state.Sound threshold) (inTime : state.MarkedInTime threshold op) :
    (state.step threshold op).Sound threshold := by
  obtain ⟨born, due, acted⟩ := sound
  cases op with
  | create =>
    simp only [step]
    split
    · exact ⟨born, due, acted⟩
    · exact ⟨by rintro own ⟨⟩ _; rfl, due, acted⟩
  | finalizeProvisioning now => exact ⟨born.write now nofun, due, acted⟩
  | softDelete now => exact ⟨born.write now (by grind [softDeleteRow]), due, acted⟩
  | markDeleting now => exact ⟨born.write now nofun, due, acted⟩
  | purge => exact ⟨nofun, due, acted⟩
  | scan =>
    refine ⟨born, ?_, fun scanned mem => List.mem_append_right _ (acted scanned mem)⟩
    intro scanned mem
    rcases List.mem_append.mp mem with found | old
    · obtain ⟨own, present, selected⟩ := Option.bind_eq_some_iff.mp (Option.mem_toList.mp found)
      obtain ⟨status, carried, selected⟩ := Option.bind_eq_some_iff.mp selected
      split at selected
      next past =>
        cases selected
        cases status with
        | provisioning =>
          rw [born own present carried]
          exact Int.le_of_lt past
        | deleting => exact inTime own present carried past
      · cases selected
    · exact due scanned old
  | act now scanned =>
    simp only [step]
    split
    next mem =>
      have more : ∀ other ∈ scanned :: state.acted, other ∈ state.scanned :=
        List.forall_mem_cons.mpr ⟨mem, acted⟩
      unfold act
      split
      · split
        · exact ⟨born.write now (by grind [clearProvisioning]), due, more⟩
        · exact ⟨born, due, acted⟩
      · exact ⟨born.write now nofun, due, more⟩
    · exact ⟨born, due, acted⟩

end ReaperState

/-- If no old collection is scanned sooner than the threshold after it was marked for deletion, the
reaper acts only on collections that had been in their state for the threshold when it scanned
them. -/
theorem acted_on_stuck (threshold : Int) (ops : List ReaperOp)
    (inTime : Guarded (ReaperState.step threshold) (ReaperState.MarkedInTime threshold)
      ⟨none, [], []⟩ ops) :
    ∀ scanned ∈ (run (ReaperState.step threshold) ⟨none, [], []⟩ ops).acted,
      scanned.since + threshold ≤ scanned.now := by
  have sound := invariant_run (ReaperState.sound_step threshold)
    ⟨by rintro _ ⟨⟩, List.forall_mem_nil _, List.forall_mem_nil _⟩ inTime
  exact fun scanned mem => sound.due scanned (sound.acted scanned mem)

/-- A creation that is never finalized is cleared, and a forced delete that does not come to its end
is driven again. -/
def stuckTwice : List ReaperOp :=
  [.create 0 true, .scan 901, .act 901 ⟨.provisioning, 0, 901⟩, .markDeleting 1000, .scan 1900,
    .act 1900 ⟨.deleting, 1000, 1900⟩]

theorem stuckTwice_acted_on :
    (run (ReaperState.step 900) ⟨none, [], []⟩ stuckTwice).acted =
        [⟨.deleting, 1000, 1900⟩, ⟨.provisioning, 0, 901⟩] ∧
    ∀ scanned ∈ (run (ReaperState.step 900) ⟨none, [], []⟩ stuckTwice).acted,
      scanned.since + 900 ≤ scanned.now :=
  ⟨by decide, acted_on_stuck 900 _ ⟨trivial, by rintro row ⟨⟩ ⟨⟩, trivial, trivial,
    by rintro row ⟨⟩ _ _; decide, trivial, trivial⟩⟩

/-- A collection of yesterday is marked by a forced delete and scanned one second later. -/
theorem young_delete_redriven :
    ¬ ∀ scanned ∈ (run (ReaperState.step 900) ⟨none, [], []⟩
      [.create 0 false, .markDeleting 86400, .scan 86401,
        .act 86401 ⟨.deleting, 86400, 86401⟩]).acted,
      scanned.since + 900 ≤ scanned.now := by
  decide

end Dynastore.Catalogs
