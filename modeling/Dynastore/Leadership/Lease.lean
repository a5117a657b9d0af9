import Dynastore.Foundation.Pool

/-! The row of `configs.leader_lease` that the processes of one leader-only service compete for,
with the statements of `locking_tools.py`, and the two loops that run ticks under it: one tick per
acquisition (`run_leader_loop`), or a tenure that a heartbeat renews
(`run_lease_leadership_heartbeat_loop`).

There is one clock, in milliseconds. A statement takes no time, and a timeout cancels its tick on
time. -/

namespace Dynastore.Leadership

/-- One row of `configs.leader_lease`. Its owner is a process. -/
structure LeaseRow where
  owner : Nat
  epoch : Nat
  acquiredAt : Int
  renewedAt : Int
  expiresAt : Int
deriving DecidableEq, Repr

/-! ## Statements -/

/-- `_LEASE_CAS_SQL`: the row afterwards, and the row that is returned. -/
def leaseCas (ttl : Nat) (owner : Nat) (now : Int) :
    Option LeaseRow → Option LeaseRow × Option LeaseRow
  | none =>
    let row := ⟨owner, 1, now, now, now + ttl⟩
    (some row, some row)
  | some old =>
    if old.expiresAt < now ∨ old.owner = owner then
      let row :=
        { owner := owner
          epoch := if old.owner = owner then old.epoch else old.epoch + 1
          acquiredAt := if old.owner = owner then old.acquiredAt else now
          renewedAt := now
          expiresAt := now + ttl }
      (some row, some row)
    else (some old, none)

/-- `_lease_cas_round_trip`: the check without a lock comes first. -/
def leaseCasRoundTrip (ttl : Nat) (owner : Nat) (now : Int) (lease : Option LeaseRow) :
    Option LeaseRow × Option LeaseRow :=
  if lease.any fun row => row.owner != owner && decide (now < row.expiresAt) then (lease, none)
  else leaseCas ttl owner now lease

def leaseBestEffortRelease (owner : Nat) (now : Int) (lease : Option LeaseRow) : Option LeaseRow :=
  lease.map fun row => if row.owner = owner then { row with expiresAt := now } else row

theorem leaseCasRoundTrip_eq :
    leaseCasRoundTrip ttl owner now lease = leaseCas ttl owner now lease := by
  rw [leaseCasRoundTrip]
  split
  next live =>
    cases lease with
    | none => cases live
    | some row =>
      simp only [Option.any_some, Bool.and_eq_true, bne_iff_ne, decide_eq_true_eq] at live
      have kept : ¬ (row.expiresAt < now ∨ row.owner = owner) := by
        simp only [not_or, Int.not_lt]
        exact ⟨Int.le_of_lt live.2, live.1⟩
      rw [leaseCas, if_neg kept]
  · rfl

variable {now : Int} {lease : Option LeaseRow}

theorem leaseCas_won (won : (leaseCas ttl owner now lease).2 = some row) :
    (leaseCas ttl owner now lease).1 = some row ∧ row.owner = owner ∧
      row.expiresAt = now + ttl := by
  cases lease with
  | none =>
    cases won
    exact ⟨rfl, rfl, rfl⟩
  | some =>
    rw [leaseCas] at won ⊢
    split at won
    next wins =>
      cases won
      rw [if_pos wins]
      exact ⟨rfl, rfl, rfl⟩
    · cases won

theorem leaseCas_lost (lost : (leaseCas ttl owner now lease).2 = none) :
    (leaseCas ttl owner now lease).1 = lease := by
  cases lease with
  | none => cases lost
  | some =>
    rw [leaseCas] at lost ⊢
    split at lost
    · cases lost
    next loses => rw [if_neg loses]

theorem leaseCas_foreign (foreign : row.owner ≠ owner) (live : now ≤ row.expiresAt) :
    leaseCas ttl owner now (some row) = (some row, none) := by
  have kept : ¬ (row.expiresAt < now ∨ row.owner = owner) := by
    simp only [not_or, Int.not_lt]
    exact ⟨live, foreign⟩
  rw [leaseCas, if_neg kept]

theorem leaseCas_own (own : row.owner = owner) :
    ∃ renewed, leaseCas ttl owner now (some row) = (some renewed, some renewed) ∧
      renewed.owner = owner ∧ renewed.expiresAt = now + ttl := by
  rw [leaseCas, if_pos (.inr own)]
  exact ⟨_, rfl, rfl, rfl⟩

/-! ## Tick bounds -/

inductive LeaseRenewalMode where
  | perTick
  | heartbeat
deriving DecidableEq, Repr

/-- The leadership settings and the service they are applied to. -/
structure Setting where
  leaseTtl : Nat := 300000
  leaseRenewInterval : Nat := 10000
  leaseSkewMargin : Nat := 5000
  mode : LeaseRenewalMode := .perTick
  tickTimeout : Option Int := none
  cadence : Int

namespace Setting

def clamp (setting : Setting) : Int :=
  let configured := setting.tickTimeout.getD setting.cadence
  let cap : Int := setting.leaseTtl - setting.leaseSkewMargin
  if 0 < configured then min configured cap else cap

def effectiveTickTimeout (setting : Setting) : Option Int :=
  match setting.tickTimeout with
  | some timeout => some timeout
  | none => if 0 < setting.cadence then some setting.cadence else none

/-- How long a tick may take. A tick of the per-tick loop runs under the
timeout of the loop and under the clamp. -/
def tickBound (setting : Setting) : Int :=
  match setting.mode with
  | .heartbeat => setting.clamp
  | .perTick => setting.effectiveTickTimeout.elim setting.clamp fun timeout =>
    min timeout setting.clamp

end Setting

/-! ## The machine -/

/-- A process that is in a leadership context: awaiting the probe between its
acquisition and its tick, in the tick, in a tenure with its heartbeat, or at
the exit of the context. -/
inductive Process where
  | probing
  | ticking (deadline : Int)
  | tenure (lost : Bool) (renewAt : Int) (tick : Option Int)
  | leaving
deriving DecidableEq, Repr

namespace Process

def deadline : Process → Option Int
  | ticking deadline => some deadline
  | tenure _ _ tick => tick
  | _ => none

def renewing : Process → Bool
  | tenure false _ _ => true
  | _ => false

/-- The clock has come to `now`, and ticks that are overdue have been cancelled. -/
def elapse (now : Int) : Process → Process
  | ticking deadline => if deadline < now then leaving else ticking deadline
  | tenure lost renewAt tick => tenure lost renewAt (tick.filter fun deadline => now ≤ deadline)
  | process => process

@[simp] theorem renewing_elapse (process : Process) :
    (process.elapse now).renewing = process.renewing := by
  cases process with
  | ticking =>
    rw [elapse]
    split <;> rfl
  | tenure lost => cases lost <;> rfl
  | _ => rfl

theorem deadline_elapse (process : Process) :
    (process.elapse now).deadline = process.deadline.filter fun deadline => now ≤ deadline := by
  cases process with
  | ticking =>
    rw [elapse]
    split
    next overdue => exact (Option.filter_some_neg (by simpa using overdue)).symm
    next due => exact (Option.filter_some_pos (by simpa using due)).symm
  | _ => rfl

end Process

structure World where
  now : Int
  lease : Option LeaseRow
  processes : Pool Process

inductive Op where
  | wait (duration : Nat)
  | acquire (process : Nat)
  | startTick (process : Nat)
  | endTick (process : Nat)
  | renew (process : Nat)
  | renewalFails (process : Nat)
  | leave (process : Nat)
  | release (process : Nat) (reached : Bool)
  | crash (process : Nat)

namespace Setting

variable (setting : Setting)

def entered (now : Int) : Process :=
  match setting.mode with
  | .perTick => .probing
  | .heartbeat => .tenure false (now + setting.leaseRenewInterval) none

def step (world : World) : Op → World
  | .wait duration =>
    { world with
      now := world.now + duration
      processes := world.processes.map (Process.elapse (world.now + duration)) }
  | .acquire process =>
    match world.processes process with
    | some _ => world
    | none =>
      match leaseCasRoundTrip setting.leaseTtl process world.now world.lease with
      | (lease, some _) =>
        { world with
          lease := lease
          processes := world.processes.put process (setting.entered world.now) }
      | (lease, none) => { world with lease := lease }
  | .startTick process =>
    match world.processes process with
    | some .probing =>
      let next :=
        if 0 < setting.tickBound then .ticking (world.now + setting.tickBound) else .leaving
      { world with processes := world.processes.put process next }
    | some (.tenure false renewAt none) =>
      let tick := if 0 < setting.tickBound then some (world.now + setting.tickBound) else none
      { world with processes := world.processes.put process (.tenure false renewAt tick) }
    | _ => world
  | .endTick process =>
    match world.processes process with
    | some (.ticking _) => { world with processes := world.processes.put process .leaving }
    | some (.tenure lost renewAt (some _)) =>
      { world with processes := world.processes.put process (.tenure lost renewAt none) }
    | _ => world
  | .renew process =>
    match world.processes process with
    | some (.tenure false renewAt tick) =>
      -- the heartbeat sleeps one interval before each attempt
      if renewAt ≤ world.now then
        match leaseCasRoundTrip setting.leaseTtl process world.now world.lease with
        | (lease, answer) =>
          { world with
            lease := lease
            processes := world.processes.put process
              (.tenure answer.isNone (world.now + setting.leaseRenewInterval) tick) }
      else world
    | _ => world
  | .renewalFails process =>
    match world.processes process with
    | some (.tenure false renewAt tick) =>
      if renewAt ≤ world.now then
        { world with processes := world.processes.put process (.tenure true renewAt tick) }
      else world
    | _ => world
  | .leave process =>
    match world.processes process with
    | some .probing | some (.tenure _ _ none) =>
      { world with processes := world.processes.put process .leaving }
    | _ => world
  | .release process reached =>
    match world.processes process with
    | some .leaving =>
      { world with
        lease :=
          if reached then leaseBestEffortRelease process world.now world.lease
          else world.lease
        processes := world.processes.remove process }
    | _ => world
  | .crash process => { world with processes := world.processes.remove process }

end Setting

end Dynastore.Leadership
