import Dynastore.Caching.Moves
import Dynastore.Foundation.Execution

/-! An invalidation drops what is stored and leaves what is on its way: an execution that started
before it still stores its result, and later calls join it. In every run in which nothing is on its
way at an invalidation, and nothing starts before its clear is through, no later call returns a
value that was produced before. -/

namespace Dynastore.Caching

open CachedState

open Execution (run Guarded)

/-! ## The condition -/

/-- The process holds a stored value that it may put back, or computes a new one. -/
def Stage.Busy : Stage → Prop
  | .asking _ | .answered _ _ | .running _ => True
  | _ => False

/-- An invalidation finds no read, execution or background write on its way, its clear is
scheduled and succeeds, and no call or rebuild starts before that. -/
def Isolated (config : CachedConfig) (state : CachedState) : CachedOp → Prop
  | .call _ | .startRebuild _ => ∀ id, state.clears id = none
  | .invalidate _ loopRunning =>
    (config.tiered = true → loopRunning = true) ∧
      state.processes.All (fun process => ¬ process.stage.Busy) ∧ ∀ write, state.writes write = none
  | .writeTombstone _ succeeds => succeeds = true
  | _ => True

/-- No execution that started before an invalidation produced the value, if the invalidation
was made before the call. -/
def CachedAnswer.Current (answer : CachedAnswer) : Prop :=
  answer.since ≤ answer.produced.execution
deriving Decidable

/-! ## The invariant -/

/-- The value of the tier, if it has one, was produced since the floor. -/
def Recent (floor : Nat) (tier : Option (Stored Entry)) : Prop :=
  ∀ entry, tier.bind Stored.payload = some entry → floor ≤ entry.produced.execution

def Role.since : Role → Nat
  | .call since => since
  | .rebuild => 0

def Stage.Sound (since floor : Nat) : Stage → Prop
  | .asking own => Recent floor own
  | .answered own shared => Recent floor own ∧ Recent floor shared
  | .rejecting _ | .queued => True
  | .loading candidate | .waiting candidate _ =>
    ∀ produced, candidate = some produced → since ≤ produced.execution
  | .resolved candidate result =>
    (∀ produced, candidate = some produced → since ≤ produced.execution) ∧
      ∀ produced, result = some produced → since ≤ produced.execution
  | .running execution => floor ≤ execution

def Process.Sound (floor : Nat) (process : Process) : Prop :=
  process.role.since ≤ floor ∧ process.stage.Sound process.role.since floor

/-- A tier can hold an older value only while a clear has yet to reach it. -/
structure CachedInvariant (config : CachedConfig) (state : CachedState) : Prop where
  bound : state.floor ≤ state.executions
  own : Recent state.floor state.l1 ∨ ∃ id, state.clears id = some .scheduled
  shared : config.tiered = true →
    Recent state.floor state.l2 ∨ ∃ id stage, state.clears id = some stage
  writes : state.writes.All fun write => Recent state.floor (some write.1)
  processes : state.processes.All (·.Sound state.floor)
  reading : state.processes.All fun process =>
    process.stage.Reading → config.tiered = true ∧ ∀ id, state.clears id = none
  answers : ∀ answer ∈ state.answers, answer.Current

section Invariant

variable {config : CachedConfig} {state : CachedState} {stage : Stage} {since floor : Nat}
  {result : Option Produced} {process : Process}

theorem recent_none : Recent floor none := nofun

theorem recent_tombstone : Recent floor (some (.tombstone version)) := nofun

/-! ## What each step preserves -/

theorem Stage.Sound.carries (sound : stage.Sound since floor) :
    stage.Carries (fun produced => floor ≤ produced.execution)
      (fun produced => since ≤ produced.execution) True := by
  cases stage with
  | running => trivial
  | _ => exact sound

theorem Stage.Carries.sound (carries : stage.Carries (fun produced => floor ≤ produced.execution)
      (fun produced => since ≤ produced.execution) False) : stage.Sound since floor := by
  cases stage with
  | running => exact carries.elim
  | _ => exact carries

theorem Process.Sound.resolve (sound : process.Sound floor)
    (recent : ∀ produced, result = some produced → floor ≤ produced.execution) :
    (CachedState.resolve task result process).Sound floor := by
  unfold CachedState.resolve
  split
  next waiting =>
    split
    · have ⟨earlier, held⟩ := sound
      rw [waiting] at held
      exact ⟨earlier, held, fun produced eq => Nat.le_trans earlier (recent produced eq)⟩
    · exact sound
  · exact sound

/-- While the floor stays, the invariant is kept by every move of a value produced since. -/
theorem moves_cachedInvariant :
    Moves config (fun state => CachedInvariant config state ∧ state.floor = floor)
      (fun produced => floor ≤ produced.execution)
      (fun role produced => role.since ≤ produced.execution) (·.since ≤ floor)
      (fun state => config.tiered ∧ ∀ id, state.clears id = none) where
  rebuilds := Nat.zero_le _
  answerable _ _ := Nat.le_trans
  held := by
    rintro state id role stage ⟨inv, rfl⟩ found
    have ⟨earlier, sound⟩ := inv.processes id _ found
    exact ⟨earlier, sound.carries⟩
  reading := by
    rintro state id role stage ⟨inv, rfl⟩ found reading
    have quiet := inv.reading id _ found reading
    exact ⟨quiet, (inv.shared quiet.1).resolve_right fun ⟨clear, _, pending⟩ => by
      cases (quiet.2 clear).symm.trans pending⟩
  written := by
    rintro state id _ ⟨inv, rfl⟩ pending
    exact inv.writes id _ pending
  put := by
    rintro state _ _ id ⟨inv, rfl⟩ earlier carries quiet
    exact ⟨{ inv with
      processes := inv.processes.put id ⟨earlier, carries.sound⟩
      reading := inv.reading.put id quiet }, rfl⟩
  start := by
    rintro state id ⟨inv, rfl⟩
    exact ⟨{ inv with
      bound := Nat.le_succ_of_le inv.bound
      processes := inv.processes.put id ⟨Nat.zero_le _, inv.bound⟩
      reading := inv.reading.put id nofun }, rfl⟩
  remove := by
    rintro state id ⟨inv, rfl⟩
    exact ⟨{ inv with
      processes := inv.processes.remove id
      reading := inv.reading.remove id }, rfl⟩
  answer := by
    rintro state _ _ id ⟨inv, rfl⟩ current
    exact ⟨{ inv with
      processes := inv.processes.remove id
      reading := inv.reading.remove id
      answers := List.forall_mem_cons.mpr ⟨current, inv.answers⟩ }, rfl⟩
  settle := by
    rintro state _ task ⟨inv, rfl⟩ recent
    exact ⟨{ inv with
      processes := (inv.processes.map fun _ sound => sound.resolve recent).remove task
      reading := (inv.reading.map fun _ quiet reading => by
        apply quiet
        unfold resolve at reading
        split at reading
        · split at reading
          · cases reading
          · exact reading
        · exact reading).remove task }, rfl⟩
  setOwn := by
    rintro state own ⟨inv, rfl⟩ recent
    exact ⟨{ inv with own := .inl recent }, rfl⟩
  setShared := by
    rintro state shared ⟨inv, rfl⟩ recent
    exact ⟨{ inv with shared := fun _ => .inl recent }, rfl⟩
  setWrite := by
    rintro state _ id _ ⟨inv, rfl⟩ recent
    exact ⟨{ inv with writes := inv.writes.put id recent }, rfl⟩
  removeWrite := by
    rintro state id ⟨inv, rfl⟩
    exact ⟨{ inv with writes := inv.writes.remove id }, rfl⟩
  tick := by
    rintro _ _ _ ⟨inv, rfl⟩
    exact ⟨{ inv with }, rfl⟩

/-! ## Invalidations -/

/-- Where nothing is on its way, the floor can rise to the present, and the tiers may then hold
older values. -/
theorem Process.Sound.raise {floor executions : Nat}
    (sound : process.Sound floor) (bound : floor ≤ executions) (idle : ¬ process.stage.Busy) :
    process.Sound executions := by
  obtain ⟨_, stage⟩ := process
  refine ⟨Nat.le_trans sound.1 bound, ?_⟩
  cases stage with
  | asking own | answered own shared | running execution => exact absurd trivial idle
  | rejecting version | queued => trivial
  | _ => exact sound.2

theorem Stage.not_reading (idle : ¬ stage.Busy) : ¬ stage.Reading := by
  intro reading
  cases stage with
  | asking own | answered own shared => exact idle trivial
  | _ => exact reading

theorem CachedInvariant.invalidate (inv : CachedInvariant config state) (id : Nat)
    (loopRunning : Bool) (isolated : Isolated config state (.invalidate id loopRunning)) :
    CachedInvariant config (state.invalidate config id loopRunning) := by
  have ⟨inLoop, idle, unwritten⟩ := isolated
  have processes : state.processes.All (·.Sound state.executions) :=
    inv.processes.imp fun id process found sound =>
      sound.raise inv.bound (idle id process found)
  have writes : state.writes.All fun write => Recent state.executions (some write.1) := by
    intro write _ pending
    cases (unwritten write).symm.trans pending
  unfold CachedState.invalidate
  split
  next tiered =>
    rw [if_pos (inLoop tiered)]
    have scheduled : state.clears.put id .scheduled id = some .scheduled := if_pos rfl
    exact
      { bound := Nat.le_refl _
        own := .inr ⟨id, scheduled⟩
        shared := fun _ => .inr ⟨id, .scheduled, scheduled⟩
        writes
        processes
        reading := fun other process found reading =>
          absurd reading (Stage.not_reading (idle other process found))
        answers := inv.answers }
  next untiered =>
    exact
      { bound := Nat.le_refl _
        own := .inl recent_none
        shared := fun tiered => absurd tiered untiered
        writes
        processes
        reading := inv.reading
        answers := inv.answers }

theorem CachedInvariant.startClear (inv : CachedInvariant config state) (id version : Nat) :
    CachedInvariant config (state.startClear id version) := by
  unfold CachedState.startClear
  split
  next scheduled =>
    have writing : state.clears.put id (.writing version) id = some (.writing version) :=
      if_pos rfl
    exact
      { inv with
        own := .inl recent_tombstone
        shared := fun _ => .inr ⟨id, .writing version, writing⟩
        reading := by
          intro other process found reading
          cases ((inv.reading other process found reading).2 id).symm.trans scheduled }
  · exact inv

theorem CachedInvariant.writeTombstone (inv : CachedInvariant config state) (id : Nat) :
    CachedInvariant config (state.writeTombstone id true) := by
  unfold CachedState.writeTombstone
  split
  next writing =>
    exact
      { inv with
        own := by
          refine inv.own.imp_right fun ⟨other, scheduled⟩ => ⟨other, ?_⟩
          have ne : other ≠ id := by
            rintro rfl
            cases scheduled.symm.trans writing
          exact (if_neg ne).trans scheduled
        shared := fun _ => .inl recent_tombstone
        reading := by
          intro other process found reading
          cases ((inv.reading other process found reading).2 id).symm.trans writing }
  · exact inv

theorem CachedInvariant.step (inv : CachedInvariant config state) (op : CachedOp)
    (isolated : Isolated config state op) : CachedInvariant config (state.step config op) := by
  by_cases clears : op.Clears
  · cases op with
    | invalidate id loopRunning =>
      rw [CachedState.step]
      split
      · exact inv
      · exact inv.invalidate id loopRunning isolated
    | startClear id version => exact inv.startClear id version
    | writeTombstone id => exact isolated ▸ inv.writeTombstone id
    | _ => exact clears.elim
  · refine ((moves_cachedInvariant).step ⟨inv, rfl⟩ op clears ?_ ?_).1
    · intro starts
      have quiet : ∀ id, state.clears id = none := by
        cases op with
        | call id | startRebuild id => exact isolated
        | _ => exact starts.elim
      have owned : Recent state.floor state.l1 := by
        refine inv.own.resolve_right ?_
        rintro ⟨clear, pending⟩
        cases (quiet clear).symm.trans pending
      exact ⟨owned, fun tiered => ⟨tiered, quiet⟩, Nat.le_refl _⟩
    · intro id _ _ _ _ _ _ running
      exact (inv.processes id _ running).2

theorem cachedInvariant_start : CachedInvariant config .start where
  bound := Nat.le_refl _
  own := .inl recent_none
  shared _ := .inl recent_none
  writes := Pool.all_empty
  processes := Pool.all_empty
  reading := Pool.all_empty
  answers := nofun

end Invariant

/-! ## Runs -/

/-- In every run whose invalidations are isolated, a call that starts after an invalidation
returns no value of an execution that started before it. -/
theorem invalidations_win (config : CachedConfig) (ops : List CachedOp)
    (isolated : Guarded (CachedState.step config) (Isolated config) .start ops) :
    ∀ answer ∈ (run (CachedState.step config) .start ops).answers, answer.Current :=
  (Execution.invariant_run (fun _ op inv guard => inv.step op guard)
    cachedInvariant_start isolated).answers

/-! A function with the default grace period. -/

def graceful (tiered : Bool) : CachedConfig where
  grace := 300
  condition := none
  tiered := tiered
  retryAttempts := 3
  requiredL2 := false

def invalidateBetween : List CachedOp :=
  [.call 0, .join 0 1, .startRebuild 1, .finish 1 (some (.text "old")) (some 60) 0 0, .wake 0,
    .invalidate 0 true,
    .call 2, .join 2 3, .startRebuild 3, .finish 3 (some (.text "new")) (some 60) 0 0, .wake 2]

theorem invalidations_win_invalidateBetween :
    Guarded (CachedState.step (graceful false)) (Isolated (graceful false)) .start
        invalidateBetween ∧
      ∀ answer ∈ (run (CachedState.step (graceful false)) .start invalidateBetween).answers,
        answer.Current := by
  have isolated : Guarded (step (graceful false)) (Isolated (graceful false)) .start
      invalidateBetween := by
    refine ⟨fun _ => rfl, trivial, fun _ => rfl, trivial, trivial, ⟨nofun, ?_, fun _ => rfl⟩,
      fun _ => rfl, trivial, fun _ => rfl, trivial, trivial, trivial⟩
    intro id _ found
    -- the call and the rebuild have ended
    rcases id with _ | _ | _ <;> cases found
  exact ⟨isolated, invalidations_win (graceful false) invalidateBetween isolated⟩

/-- An execution is on its way at the invalidation: a later call joins it, and another finds
what it stored. On a tiered backend a call can come before the scheduled clear. -/
theorem invalidated_value_returned :
    (∃ joined found, (run (CachedState.step (graceful false)) .start
      [.call 0, .join 0 1, .startRebuild 1, .invalidate 0 true, .call 2, .join 2 3,
        .finish 1 (some (.text "old")) (some 60) 0 0, .wake 2, .call 4]).answers =
          [found, joined] ∧ ¬ joined.Current ∧ ¬ found.Current) ∧
    ∃ found first, (run (CachedState.step (graceful true)) .start
      [.call 0, .serve 0 .held, .resume 0 0, .join 0 1, .startRebuild 1, .serve 1 .held,
        .resume 1 0, .finish 1 (some (.text "old")) (some 60) 1 0, .attempt 0 .written, .wake 0,
        .invalidate 0 true, .call 2, .serve 2 .held, .resume 2 0]).answers = [found, first] ∧
      ¬ found.Current :=
  ⟨⟨_, _, rfl, by decide, by decide⟩, _, _, rfl, by decide⟩

end Dynastore.Caching
