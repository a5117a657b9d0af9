import Dynastore.Caching.Invalidation

/-! What a cached function stores, hands to waiting calls and answers with has been produced by an
execution that returned it. A property that every returned value has is therefore kept by every
step. -/

namespace Dynastore.Caching

variable {state : CachedState} {holds : Produced → Prop} {least low : Nat}

/-! ## Values on their way -/

def Stage.Holds (holds : Produced → Prop) (executions : Nat) : Stage → Prop
  | .asking own => TierHolds holds own
  | .answered own shared => TierHolds holds own ∧ TierHolds holds shared
  | .rejecting _ | .queued => True
  | .loading candidate | .waiting candidate _ =>
    ∀ produced, candidate = some produced → holds produced
  | .resolved candidate result =>
    (∀ produced, candidate = some produced → holds produced) ∧
      ∀ produced, result = some produced → holds produced
  | .running execution => execution < executions

/-- Whatever the function has produced has the property, and what runs has started. There are
`least` executions, and the floor has risen to `low`, at the least. -/
structure CachedState.Holds (holds : Produced → Prop) (least low : Nat) (state : CachedState) :
    Prop where
  grown : least ≤ state.executions
  raised : low ≤ state.floor
  bounded : state.floor ≤ state.executions
  own : TierHolds holds state.l1
  shared : TierHolds holds state.l2
  writes : state.writes.All fun write => TierHolds holds (some write.1)
  processes : state.processes.All fun process => process.stage.Holds holds state.executions
  answers : ∀ answer ∈ state.answers, holds answer.produced

theorem TierHolds.imp (kept : TierHolds holds tier)
    (implies : ∀ produced, holds produced → other produced) : TierHolds other tier :=
  fun entry value => implies _ (kept entry value)

theorem Stage.Holds.imp {stage : Stage} (kept : stage.Holds holds before)
    (implies : ∀ produced, holds produced → other produced) (later : before ≤ after) :
    stage.Holds other after := by
  cases stage with
  | asking => exact TierHolds.imp kept implies
  | answered => exact ⟨kept.1.imp implies, kept.2.imp implies⟩
  | rejecting version | queued => trivial
  | resolved =>
    exact ⟨fun produced eq => implies _ (kept.1 produced eq),
      fun produced eq => implies _ (kept.2 produced eq)⟩
  | running => exact Nat.lt_of_lt_of_le kept later
  | _ => exact fun produced eq => implies _ (kept produced eq)

theorem Stage.Holds.carries {stage : Stage} (kept : stage.Holds holds executions) :
    stage.Carries holds holds True := by
  cases stage with
  | running => trivial
  | _ => exact kept

theorem Stage.Holds.of_carries {stage : Stage} (carries : stage.Carries holds holds False) :
    stage.Holds holds executions := by
  cases stage with
  | running => exact carries.elim
  | _ => exact carries

namespace CachedState.Holds

section

variable (kept : state.Holds holds least low)

include kept

/-- What every produced value comes to have, whatever the function produced comes to have. -/
theorem imp {other : Produced → Prop}
    (implies : ∀ produced, holds produced → other produced) : state.Holds other least low where
  grown := kept.grown
  raised := kept.raised
  bounded := kept.bounded
  own := kept.own.imp implies
  shared := kept.shared.imp implies
  writes := kept.writes.imp fun _ _ _ held => held.imp implies
  processes := kept.processes.imp fun _ _ _ held => held.imp implies (Nat.le_refl _)
  answers answer mem := implies _ (kept.answers answer mem)

/-! ## What each step keeps -/

omit kept in
theorem moves :
    Moves config (CachedState.Holds holds least low) holds (fun _ => holds) (fun _ => True)
      (fun _ => True) where
  rebuilds := trivial
  answerable _ _ _ held := held
  held kept found := ⟨trivial, (kept.processes _ _ found).carries⟩
  reading kept _ _ := ⟨trivial, kept.shared⟩
  written kept pending := kept.writes _ _ pending
  put id kept _ carries _ :=
    { kept with processes := kept.processes.put id (.of_carries carries) }
  start {state} id kept :=
    have started : state.processes.All fun process =>
        process.stage.Holds holds (state.executions + 1) :=
      kept.processes.imp fun _ _ _ held => held.imp (fun _ same => same) (Nat.le_succ _)
    { kept with
      grown := Nat.le_succ_of_le kept.grown
      bounded := Nat.le_succ_of_le kept.bounded
      processes := started.put id (Nat.lt_succ_self _) }
  remove id kept := { kept with processes := kept.processes.remove id }
  answer id kept held :=
    { kept with
      processes := kept.processes.remove id
      answers := List.forall_mem_cons.mpr ⟨held, kept.answers⟩ }
  settle task kept held := by
    refine { kept with processes := (kept.processes.map ?_).remove task }
    intro _ stage
    unfold CachedState.resolve
    split
    next waiting =>
      split
      · rw [waiting] at stage
        exact ⟨stage, held⟩
      · exact stage
    · exact stage
  setOwn kept held := { kept with own := held }
  setShared kept held := { kept with shared := held }
  setWrite id _ kept held := { kept with writes := kept.writes.put id held }
  removeWrite id kept := { kept with writes := kept.writes.remove id }
  tick _ _ kept := { kept with }

theorem invalidate (id : Nat) (loopRunning : Bool) :
    (state.invalidate config id loopRunning).Holds holds least low := by
  have raised : Holds holds least low { state with floor := state.executions } :=
    { kept with
      raised := Nat.le_trans kept.raised kept.bounded
      bounded := Nat.le_refl _ }
  unfold CachedState.invalidate
  split
  · split
    · exact { raised with }
    · exact raised
  · exact { raised with own := tierHolds_none }

theorem startClear (id version : Nat) : (state.startClear id version).Holds holds least low := by
  unfold CachedState.startClear
  split
  · exact { kept with own := tierHolds_tombstone }
  · exact kept

theorem writeTombstone (id : Nat) (succeeds : Bool) :
    (state.writeTombstone id succeeds).Holds holds least low := by
  unfold CachedState.writeTombstone
  split
  next =>
    split
    · exact { kept with shared := tierHolds_tombstone }
    · exact { kept with }
  · exact kept

theorem step (op : CachedOp) (returns : ∀ id value ttl version write execution,
      op = .finish id (some value) ttl version write →
      state.processes id = some ⟨.rebuild, .running execution⟩ → holds ⟨execution, value⟩) :
    (state.step config op).Holds holds least low := by
  by_cases clears : op.Clears
  · cases op with
    | invalidate id loopRunning =>
      rw [CachedState.step]
      split
      · exact kept
      · exact kept.invalidate id loopRunning
    | startClear id version => exact kept.startClear id version
    | writeTombstone id succeeds => exact kept.writeTombstone id succeeds
    | _ => exact clears.elim
  · exact (moves).step kept op clears
      (fun _ => ⟨kept.own, fun _ => trivial, trivial⟩) returns

end

theorem start : CachedState.start.Holds holds 0 0 where
  grown := Nat.le_refl _
  raised := Nat.le_refl _
  bounded := Nat.le_refl _
  own := tierHolds_none
  shared := tierHolds_none
  writes := Pool.all_empty
  processes := Pool.all_empty
  answers := nofun

end CachedState.Holds

end Dynastore.Caching
