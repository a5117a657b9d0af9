import Dynastore.Caching.Produced

/-! One row of a table behind a cached function that selects it. A write commits a new row and
invalidates the cached one: after the commit, or before it, where the transaction is still open.
What a call answers with is the row at some version; the calls that start once a write is through,
committed and invalidated, are to see its version or a later one. -/

namespace Dynastore.Caching

/-- `rowAt` has the row after each committed write, and `selected` the version that the query
of an execution has read. The versions at which executions started and the version that new
calls are to see are kept for the record; nothing reads them. -/
structure CachedRow where
  cached : CachedState
  rowAt : Nat → Value
  version : Nat
  selected : Nat → Option Nat
  startedAt : Nat → Nat
  required : Nat

inductive RowOp where
  /-- A step of a call, of the rebuild or of a scheduled clear. -/
  | cache (op : CachedOp)
  /-- The query of the running rebuild. -/
  | select (id : Nat)
  /-- The rebuild returns the row it has read, or raises. -/
  | finish (id : Nat) (succeeds : Bool) (ttl : Option Int) (version write : Nat)
  /-- A write commits. It is through if it has invalidated before. -/
  | commit (row : Value) (through : Bool)
  /-- A write invalidates. It is through if it has committed before. -/
  | invalidate (id : Nat) (loopRunning through : Bool)

namespace CachedRow

variable (config : CachedConfig) (row : CachedRow)

def advance (op : CachedOp) : CachedRow :=
  { row with
    cached := row.cached.step config op
    startedAt := fun execution =>
      if execution < row.cached.executions then row.startedAt execution else row.version }

def select (id : Nat) : CachedRow :=
  match row.cached.processes id with
  | some ⟨.rebuild, .running execution⟩ =>
    { row with
      selected := fun other => if other = execution then some row.version else row.selected other }
  | _ => row

def result (id : Nat) : Option Value :=
  match row.cached.processes id with
  | some ⟨.rebuild, .running execution⟩ => (row.selected execution).map row.rowAt
  | _ => none

def finish (id : Nat) (succeeds : Bool) (ttl : Option Int) (version write : Nat) : CachedRow :=
  if succeeds then
    match row.result id with
    | some value => row.advance config (.finish id (some value) ttl version write)
    | none => row
  else row.advance config (.finish id none ttl version write)

def commit (value : Value) : CachedRow :=
  { row with
    rowAt := fun version => if version = row.version + 1 then value else row.rowAt version
    version := row.version + 1 }

def demand : CachedRow :=
  { row with
    cached := { row.cached with floor := row.cached.executions }
    required := row.version }

end CachedRow

def CachedRow.step (config : CachedConfig) (row : CachedRow) : RowOp → CachedRow
  | .cache op =>
    match op with
    | .finish .. | .invalidate .. => row
    | _ => row.advance config op
  | .select id => row.select id
  | .finish id succeeds ttl version write => row.finish config id succeeds ttl version write
  | .commit value through => if through then (row.commit value).demand else row.commit value
  | .invalidate id loopRunning through =>
    let next := row.advance config (.invalidate id loopRunning)
    if through then next.demand else next

def CachedRow.start (value : Value) : CachedRow where
  cached := .start
  rowAt _ := value
  version := 0
  selected _ := none
  startedAt _ := 0
  required := 0

/-! ## The condition -/

/-- Nothing is stored, and nothing is on its way that could be. -/
structure CachedState.Quiet (state : CachedState) : Prop where
  own : state.l1.bind Stored.payload = none
  shared : state.l2.bind Stored.payload = none
  idle : state.processes.All fun process => ¬ process.stage.Busy
  unwritten : ∀ write, state.writes write = none

/-- Invalidations are isolated, and where a write commits after its invalidation nothing has
been read in again. -/
def Undisturbed (config : CachedConfig) (row : CachedRow) : RowOp → Prop
  | .cache op => Isolated config row.cached op
  | .commit _ through => through = true → row.cached.Quiet
  | .invalidate id loopRunning _ =>
    row.cached.clears id = none ∧ Isolated config row.cached (.invalidate id loopRunning)
  | _ => True

/-! ## The invariant -/

section

variable {config : CachedConfig} {row : CachedRow}

/-- The value is the row at a version that was current since the execution started. -/
def CachedRow.Read (row : CachedRow) (produced : Produced) : Prop :=
  produced.execution < row.cached.executions ∧
    ∃ version, row.startedAt produced.execution ≤ version ∧ version ≤ row.version ∧
      row.rowAt version = produced.value

def CachedRow.Covers (row : CachedRow) (floor bound : Nat) : Prop :=
  bound ≤ row.version ∧ ∀ execution, floor ≤ execution → execution < row.cached.executions →
      bound ≤ row.startedAt execution

structure RowInvariant (config : CachedConfig) (row : CachedRow) : Prop where
  cache : CachedInvariant config row.cached
  produced : row.cached.Holds row.Read 0 0
  started : ∀ execution, execution < row.cached.executions → row.startedAt execution ≤ row.version
  selected : ∀ execution version, row.selected execution = some version →
    execution < row.cached.executions ∧ row.startedAt execution ≤ version ∧ version ≤ row.version
  covers : row.Covers row.cached.floor row.required

theorem rowInvariant_start : RowInvariant config (.start value) where
  cache := cachedInvariant_start
  produced := .start
  started _ _ := Nat.le_refl _
  selected := nofun
  covers := ⟨Nat.le_refl _, fun _ _ _ => Nat.le_refl _⟩

theorem grown_advance (inv : RowInvariant config row) :
    (row.advance config op).cached.Holds (fun _ => True) row.cached.executions
      row.cached.floor := by
  have present : row.cached.Holds (fun _ => True) row.cached.executions row.cached.floor :=
    { inv.produced.imp fun _ _ => trivial with
      grown := Nat.le_refl _
      raised := Nat.le_refl _ }
  exact present.step op fun _ _ _ _ _ _ _ _ => trivial

theorem startedAt_advance (started : execution < row.cached.executions) :
    (row.advance config op).startedAt execution = row.startedAt execution :=
  if_pos started

theorem CachedRow.Covers.advance (covers : row.Covers floor bound)
    (op : CachedOp) : (row.advance config op).Covers floor bound := by
  refine ⟨covers.1, ?_⟩
  intro execution since _
  unfold CachedRow.advance
  simp only
  split
  next earlier => exact covers.2 execution since earlier
  · exact covers.1

theorem CachedRow.Read.advance (inv : RowInvariant config row)
    (read : row.Read produced) (op : CachedOp) : (row.advance config op).Read produced := by
  obtain ⟨started, version, since, current, value⟩ := read
  refine ⟨Nat.lt_of_lt_of_le started (grown_advance inv).grown, version, ?_, current, value⟩
  rw [startedAt_advance started]
  exact since

theorem RowInvariant.advance (inv : RowInvariant config row) (op : CachedOp)
    (isolated : Isolated config row.cached op)
    (returns : ∀ id value ttl version write execution,
      op = .finish id (some value) ttl version write →
      row.cached.processes id = some ⟨.rebuild, .running execution⟩ →
        row.Read ⟨execution, value⟩) : RowInvariant config (row.advance config op) where
  cache := inv.cache.step op isolated
  produced := by
    have kept : (row.advance config op).cached.Holds row.Read 0 0 :=
      inv.produced.step op returns
    exact kept.imp fun _ read => read.advance inv op
  started execution _ := by
    unfold CachedRow.advance
    simp only
    split
    next earlier => exact inv.started execution earlier
    · exact Nat.le_refl _
  selected execution version read := by
    obtain ⟨started, since, current⟩ := inv.selected execution version read
    refine ⟨Nat.lt_of_lt_of_le started (grown_advance inv).grown, ?_, current⟩
    rw [startedAt_advance started]
    exact since
  covers := by
    have covers : (row.advance config op).Covers row.cached.floor row.required :=
      inv.covers.advance op
    refine ⟨covers.1, ?_⟩
    intro execution since
    exact covers.2 execution (Nat.le_trans (grown_advance inv).raised since)

theorem RowInvariant.select (inv : RowInvariant config row) (id : Nat) :
    RowInvariant config (row.select id) := by
  unfold CachedRow.select
  split
  next execution running =>
    have started : execution < row.cached.executions :=
      inv.produced.processes id _ running
    refine { inv with selected := ?_ }
    intro other version read
    simp only at read
    split at read
    next same =>
      cases read
      subst same
      exact ⟨started, inv.started _ started, Nat.le_refl _⟩
    · exact inv.selected other version read
  · exact inv

theorem RowInvariant.finish (inv : RowInvariant config row) (id : Nat) (succeeds : Bool)
    (ttl : Option Int) (version write : Nat) :
    RowInvariant config (row.finish config id succeeds ttl version write) := by
  unfold CachedRow.finish
  split
  · split
    next value returned =>
      apply inv.advance (.finish id (some value) ttl version write) trivial
      intro other result lifetime stamp slot execution same running
      cases same
      simp only [CachedRow.result, running, Option.map_eq_some_iff] at returned
      obtain ⟨version, selected, same⟩ := returned
      obtain ⟨started, since, current⟩ := inv.selected execution version selected
      exact ⟨started, version, since, current, same⟩
    · exact inv
  · apply inv.advance (.finish id none ttl version write) trivial
    intro _ _ _ _ _ _ same
    cases same

theorem CachedRow.Read.commit (read : row.Read produced) (value : Value) :
    (row.commit value).Read produced := by
  obtain ⟨started, version, since, current, same⟩ := read
  refine ⟨started, version, since, Nat.le_succ_of_le current, ?_⟩
  have earlier : version ≠ row.version + 1 := by omega
  exact (if_neg earlier).trans same

theorem CachedRow.Covers.commit (covers : row.Covers floor bound)
    (value : Value) : (row.commit value).Covers floor bound :=
  ⟨Nat.le_succ_of_le covers.1, covers.2⟩

theorem RowInvariant.commit (inv : RowInvariant config row) (value : Value) :
    RowInvariant config (row.commit value) where
  cache := inv.cache
  produced := inv.produced.imp fun _ read => read.commit value
  started execution earlier := Nat.le_succ_of_le (inv.started execution earlier)
  selected execution version read := by
    obtain ⟨started, since, current⟩ := inv.selected execution version read
    exact ⟨started, since, Nat.le_succ_of_le current⟩
  covers := inv.covers.commit value

/-- New calls can be asked to see the present version where the cached function would allow
for an invalidation. -/
theorem RowInvariant.demand (inv : RowInvariant config row)
    (raised : CachedInvariant config { row.cached with floor := row.cached.executions }) :
    RowInvariant config row.demand where
  cache := raised
  produced :=
    { inv.produced with
      raised := Nat.zero_le _
      bounded := Nat.le_refl _ }
  started := inv.started
  selected := inv.selected
  covers := ⟨Nat.le_refl _, fun _ since earlier => absurd earlier (Nat.not_lt.mpr since)⟩

theorem CachedInvariant.raise (inv : CachedInvariant config state)
    (quiet : state.Quiet) : CachedInvariant config { state with floor := state.executions } where
  bound := Nat.le_refl _
  own := .inl fun _ found => nomatch quiet.own.symm.trans found
  shared _ := .inl fun _ found => nomatch quiet.shared.symm.trans found
  writes write _ pending := nomatch (quiet.unwritten write).symm.trans pending
  processes := inv.processes.imp fun id process found sound =>
    sound.raise inv.bound (quiet.idle id process found)
  reading := inv.reading
  answers := inv.answers

theorem RowInvariant.step (inv : RowInvariant config row) (op : RowOp)
    (undisturbed : Undisturbed config row op) : RowInvariant config (row.step config op) := by
  cases op with
  | cache op =>
    have advances : (∀ id value ttl version write, op ≠ .finish id (some value) ttl version write) →
        RowInvariant config (row.advance config op) := by
      intro other
      apply inv.advance op undisturbed
      intro id value ttl version write execution same
      exact absurd same (other id value ttl version write)
    cases op with
    | finish id result ttl version write | invalidate id loopRunning => exact inv
    | _ => exact advances nofun
  | select id => exact inv.select id
  | finish id succeeds ttl version write => exact inv.finish id succeeds ttl version write
  | commit value =>
    simp only [CachedRow.step]
    split
    next early => exact (inv.commit value).demand (inv.cache.raise (undisturbed early))
    · exact inv.commit value
  | invalidate id loopRunning =>
    have next : RowInvariant config (row.advance config (.invalidate id loopRunning)) := by
      apply inv.advance _ undisturbed.2
      intro _ _ _ _ _ _ same
      cases same
    simp only [CachedRow.step]
    split
    · apply next.demand
      have settled : (row.cached.step config (.invalidate id loopRunning)).floor =
          (row.cached.step config (.invalidate id loopRunning)).executions :=
        by
        simp only [CachedState.step, undisturbed.1, Option.isSome_none, Bool.false_eq_true,
          if_false, CachedState.invalidate]
        split
        · split <;> rfl
        · rfl
      have same : { (row.advance config (.invalidate id loopRunning)).cached with
          floor := (row.advance config (.invalidate id loopRunning)).cached.executions } =
          (row.advance config (.invalidate id loopRunning)).cached :=
        by rw [CachedRow.advance, ← settled]
      rw [same]
      exact next.cache
    · exact next

/-! ## Answers -/

structure CachedRow.Extends (row later : CachedRow) : Prop where
  version : row.version ≤ later.version
  rowAt : ∀ version, version ≤ row.version → later.rowAt version = row.rowAt version

theorem CachedRow.extends_self : row.Extends row :=
  ⟨Nat.le_refl _, fun _ _ => rfl⟩

theorem CachedRow.extends_commit (row : CachedRow) (value : Value) :
    row.Extends (row.commit value) where
  version := Nat.le_succ _
  rowAt version earlier := by
    have ne : version ≠ row.version + 1 := by omega
    exact if_neg ne

theorem CachedRow.step_cases (config : CachedConfig) (row : CachedRow) (op : RowOp) :
    (∃ value through, op = .commit value through) ∨
      (row.step config op).rowAt = row.rowAt ∧ (row.step config op).version = row.version := by
  cases op with
  | cache op => cases op <;> exact .inr ⟨rfl, rfl⟩
  | select =>
    simp only [CachedRow.step, CachedRow.select]
    split <;> exact .inr ⟨rfl, rfl⟩
  | finish =>
    simp only [CachedRow.step, CachedRow.finish]
    split
    · split <;> exact .inr ⟨rfl, rfl⟩
    · exact .inr ⟨rfl, rfl⟩
  | commit value through => exact .inl ⟨value, through, rfl⟩
  | invalidate =>
    simp only [CachedRow.step]
    split <;> exact .inr ⟨rfl, rfl⟩

theorem CachedRow.extends_step (op : RowOp) : row.Extends (row.step config op) := by
  rcases row.step_cases config op with ⟨value, _, rfl⟩ | ⟨rowAt, version⟩
  · have committed := row.extends_commit value
    simp only [CachedRow.step]
    split
    · exact ⟨committed.version, committed.rowAt⟩
    · exact committed
  · exact ⟨Nat.le_of_eq version.symm, fun _ _ => by rw [rowAt]⟩

theorem CachedRow.Covers.step (covers : row.Covers floor bound) (op : RowOp) :
    (row.step config op).Covers floor bound := by
  cases op with
  | cache op =>
    cases op with
    | finish id result ttl version write | invalidate id loopRunning => exact covers
    | _ => exact covers.advance _
  | select =>
    simp only [CachedRow.step, CachedRow.select]
    split <;> exact covers
  | finish =>
    simp only [CachedRow.step, CachedRow.finish]
    split
    · split
      · exact covers.advance _
      · exact covers
    · exact covers.advance _
  | commit value =>
    simp only [CachedRow.step]
    split <;> exact covers.commit value
  | invalidate =>
    simp only [CachedRow.step]
    split <;> exact covers.advance _

theorem CachedRow.exists_version_of_answer (inv : RowInvariant config row)
    (covers : row.Covers floor bound) (mem : answer ∈ row.cached.answers)
    (since : floor ≤ answer.since) :
    ∃ version, bound ≤ version ∧ version ≤ row.version ∧
      row.rowAt version = answer.produced.value := by
  have current : answer.since ≤ answer.produced.execution := inv.cache.answers answer mem
  obtain ⟨started, version, after, before, value⟩ := inv.produced.answers answer mem
  refine ⟨version, ?_, before, value⟩
  exact Nat.le_trans (covers.2 _ (Nat.le_trans since current) started) after

end

end Dynastore.Caching
