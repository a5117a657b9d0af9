import Dynastore.Catalogs.Lifecycle

/-! `delete_collection(force=True)` asks for the lifecycle of the collection before it opens its
transaction, the statements of the purge do not mind a missing row, and the transaction emits
`COLLECTION_HARD_DELETION` in any case. Two purges of one row wait for each other, so that a purge
is one operation with its commit. -/

namespace Dynastore.Catalogs

open Execution

/-- The registry row, the number of forced deletes between their gate and their end, which are
all alike, and the committed transactions that emitted the event, with whether they removed the
row. -/
structure HardDeletion where
  row : Option CollectionRow
  inside : Nat
  emitted : List Bool

inductive HardDeletionOp where
  /-- A caller or a reaper calls `delete_collection`. -/
  | gate
  | markDeleting
  | purge
  /-- The delete raises, and its transaction is rolled back. -/
  | fail
  /-- A soft delete, a finalizer or the reaper writes the row. -/
  | write (change : CollectionRow → CollectionRow)

namespace HardDeletion

def step (state : HardDeletion) : HardDeletionOp → HardDeletion
  | .gate =>
    if getLifecycle state.row = .missing then state else { state with inside := state.inside + 1 }
  | .markDeleting => { state with row := state.row.map (setLifecycleStatus (some .deleting)) }
  | .purge =>
    if state.inside = 0 then state
    else ⟨none, state.inside - 1, state.row.isSome :: state.emitted⟩
  | .fail => { state with inside := state.inside - 1 }
  | .write change => { state with row := state.row.map change }

/-- A forced delete passes its gate only when no other one is on its way. -/
def Alone (state : HardDeletion) : HardDeletionOp → Prop
  | .gate => state.inside = 0
  | _ => True

structure Sound (state : HardDeletion) : Prop where
  inside : state.inside ≤ if state.row.isSome then 1 else 0
  emitted : state.emitted = [] ∨ state.emitted = [true] ∧ state.row = none

theorem sound_step (state : HardDeletion) (op : HardDeletionOp) (sound : state.Sound)
    (alone : state.Alone op) : (state.step op).Sound := by
  obtain ⟨inside, emitted⟩ := sound
  cases op with
  | gate =>
    simp only [step]
    split
    · exact ⟨inside, emitted⟩
    next present =>
      cases found : state.row with
      | none => simp [found, getLifecycle] at present
      | some =>
        have first : state.inside = 0 := alone
        exact ⟨by simp [first], by simpa [found] using emitted⟩
  | purge =>
    simp only [step]
    split
    · exact ⟨inside, emitted⟩
    next deleting =>
      -- the row is there, since a delete is on its way
      cases found : state.row with
      | none => simp [found, deleting] at inside
      | some =>
        exact ⟨Nat.sub_le_of_le_add (by simpa [found] using inside),
          .inr (by simpa [found] using emitted)⟩
  | fail => exact ⟨Nat.le_trans (Nat.sub_le _ _) inside, emitted⟩
  | markDeleting => exact ⟨by simpa [step] using inside, by simpa [step] using emitted⟩
  | write => exact ⟨by simpa [step] using inside, by simpa [step] using emitted⟩

end HardDeletion

/-- If forced deletes of a collection do not overlap, at most one transaction emits the event, and
it is one that removed the row. -/
theorem torn_down_once (row : Option CollectionRow) (ops : List HardDeletionOp)
    (alone : Guarded HardDeletion.step HardDeletion.Alone ⟨row, 0, []⟩ ops) :
    (run HardDeletion.step ⟨row, 0, []⟩ ops).emitted.length ≤ 1 ∧
      false ∉ (run HardDeletion.step ⟨row, 0, []⟩ ops).emitted := by
  have sound := invariant_run HardDeletion.sound_step ⟨Nat.zero_le _, .inl rfl⟩ alone
  rcases sound.emitted with none | ⟨one, _⟩
  · simp [none]
  · simp [one]

theorem torn_down_by_repeated_delete : (run HardDeletion.step ⟨some ⟨false, none⟩, 0, []⟩
      [.gate, .markDeleting, .purge, .gate]).emitted.length ≤ 1 ∧
    false ∉ (run HardDeletion.step ⟨some ⟨false, none⟩, 0, []⟩
      [.gate, .markDeleting, .purge, .gate]).emitted :=
  torn_down_once _ _ ⟨rfl, trivial, trivial, rfl, trivial⟩

/-- Two callers pass the gate before either has purged the collection. -/
theorem torn_down_twice : ¬ ((run HardDeletion.step ⟨some ⟨false, none⟩, 0, []⟩
      [.gate, .gate, .markDeleting, .markDeleting, .purge, .purge]).emitted.length ≤ 1 ∨
    false ∉ (run HardDeletion.step ⟨some ⟨false, none⟩, 0, []⟩
      [.gate, .gate, .markDeleting, .markDeleting, .purge, .purge]).emitted) := by
  decide

end Dynastore.Catalogs
