import Dynastore.Foundation.Execution
import Dynastore.Leadership.Lease

/-! A tick is bounded from its own start, and a lease from its last successful acquisition or
renewal. The bound keeps the tick inside the lease where little time lies between the two, or where
renewals keep coming. -/

namespace Dynastore.Leadership

open Execution Option Setting

variable {setting : Setting} {world : World}

def World.Undisputed (world : World) : Prop :=
  ∀ id process, world.processes id = some process → process.deadline.isSome →
    ∀ row, world.lease = some row → row.owner = id

namespace Setting

/-- The clock does not pass the expiry of a lease whose owner's heartbeat is alive;
a renewal fails only when the tick that is running ends within the lease; and
after the probe the lease has room for the whole tick. -/
def ample (setting : Setting) (world : World) : Op → Bool
  | .wait duration =>
    world.lease.all fun row =>
      !(world.processes row.owner).any Process.renewing ||
        decide (world.now + duration ≤ row.expiresAt)
  | .renewalFails id =>
    ((world.processes id).bind Process.deadline).all fun deadline =>
      world.lease.any fun row => decide (deadline ≤ row.expiresAt)
  | .startTick id =>
    world.processes id != some .probing || world.lease.any fun row =>
      row.owner == id && decide (world.now + setting.tickBound ≤ row.expiresAt)
  | _ => true

end Setting

/-! ## The invariant -/

/-- The lease is the process's own and has not expired. While its heartbeat is
alive it will stay so; otherwise it covers the tick that is running. -/
structure Secured (world : World) (id : Nat) (process : Process) (row : LeaseRow) : Prop where
  stored : world.lease = some row
  own : row.owner = id
  live : world.now ≤ row.expiresAt
  within : ∀ deadline, process.deadline = some deadline →
    world.now ≤ deadline ∧ (process.renewing = true ∨ deadline ≤ row.expiresAt)

def Process.active (process : Process) : Prop :=
  process.renewing = true ∨ process.deadline.isSome

def Sound (world : World) : Prop :=
  ∀ id process, world.processes id = some process → process.active →
    ∃ row, Secured world id process row

theorem Sound.undisputed (sound : Sound world) : world.Undisputed := by
  intro id process present ticks _ stored
  obtain ⟨_, secured⟩ := sound id process present (.inr ticks)
  rw [secured.stored] at stored
  rw [← some.inj stored]
  exact secured.own

variable {id : Nat} {process : Process}

theorem sound_of_frame (id : Nat) (sound : Sound world) (sameTime : next.now = world.now)
    (others : ∀ other, other ≠ id → next.processes other = world.processes other)
    (kept : ∀ row, world.lease = some row → row.owner ≠ id → world.now ≤ row.expiresAt →
      next.lease = some row)
    (self : ∀ process, next.processes id = some process → process.active →
      ∃ row, Secured next id process row) : Sound next := by
  intro other process present active
  by_cases same : other = id
  · subst same
    exact self process present active
  · rw [others other same] at present
    obtain ⟨row, secured⟩ := sound other process present active
    have foreign : row.owner ≠ id := by
      rw [secured.own]
      exact same
    exact ⟨row, kept row secured.stored foreign secured.live, secured.own,
      sameTime ▸ secured.live, sameTime ▸ secured.within⟩

/-! ## Steps -/

theorem sound_wait (sound : Sound world) (guarded : setting.ample world (.wait duration)) :
    Sound (setting.step world (.wait duration)) := by
  intro id _ present active
  obtain ⟨old, oldPresent, rfl⟩ := map_eq_some_iff.mp present
  have due : ∀ deadline, (old.elapse (world.now + duration)).deadline = some deadline →
      old.deadline = some deadline ∧ world.now + duration ≤ deadline := by
    intro deadline running
    rw [Process.deadline_elapse, filter_eq_some_iff] at running
    exact ⟨running.1, by simpa using running.2⟩
  rw [Process.active, Process.renewing_elapse, isSome_iff_exists] at active
  have wasActive : old.active := by
    rcases active with renewing | ⟨deadline, running⟩
    · exact .inl renewing
    · exact .inr (isSome_iff_exists.mpr ⟨deadline, (due deadline running).1⟩)
  obtain ⟨row, secured⟩ := sound id old oldPresent wasActive
  have unexpired : old.renewing → world.now + duration ≤ row.expiresAt := by
    intro renewing
    simpa [ample, secured.stored, secured.own, oldPresent, renewing] using guarded
  refine ⟨row, secured.stored, secured.own, ?_, ?_⟩
  · rcases active with renewing | ⟨deadline, running⟩
    · exact unexpired renewing
    · -- without a heartbeat the lease covers the tick, and the tick is not overdue
      obtain ⟨wasRunning, reached⟩ := due deadline running
      rcases (secured.within deadline wasRunning).2 with renewing | covered
      · exact unexpired renewing
      · exact Int.le_trans reached covered
  · intro deadline running
    obtain ⟨wasRunning, reached⟩ := due deadline running
    rw [Process.renewing_elapse]
    exact ⟨reached, (secured.within deadline wasRunning).2⟩

theorem secured_of_rest (rest : process.renewing = false) (idle : process.deadline = none)
    (active : process.active) : ∃ row, Secured next id process row := by
  rcases active with renewing | ticks
  · rw [rest] at renewing
    cases renewing
  · rw [idle] at ticks
    cases ticks

theorem put_self (pool : Pool Process) (id : Nat) :
    pool.put id process id = some process := if_pos rfl

theorem remove_self (pool : Pool Process) (id : Nat) : pool.remove id id = none := if_pos rfl

theorem sound_put (sound : Sound world) (self : process.active →
      ∃ row, Secured { world with processes := world.processes.put id process } id process row) :
    Sound { world with processes := world.processes.put id process } := by
  refine sound_of_frame id sound rfl ?_ ?_ ?_
  · intro _ ne
    exact Pool.put_of_ne ne
  · intro _ stored _ _
    exact stored
  · intro _ present active
    obtain rfl := some.inj ((put_self _ _).symm.trans present)
    exact self active

theorem sound_acquire (id : Nat) (sound : Sound world) :
    Sound (setting.step world (.acquire id)) := by
  simp only [step, leaseCasRoundTrip_eq]
  split
  · exact sound
  next =>
    split
    next row answered =>
      have won : (leaseCas setting.leaseTtl id world.now world.lease).2 = some row := by
        rw [answered]
      obtain ⟨stored, own, expires⟩ := leaseCas_won won
      rw [answered] at stored
      refine sound_of_frame id sound rfl ?_ ?_ ?_
      · intro _ ne
        exact Pool.put_of_ne ne
      · intro _ oldStored foreign live
        rw [oldStored, leaseCas_foreign foreign live] at won
        cases won
      · intro _ present _
        obtain rfl := some.inj ((put_self _ _).symm.trans present)
        refine ⟨row, stored, own, by rw [expires]; dsimp only; omega, ?_⟩
        intro _ running
        rw [entered] at running
        split at running <;> cases running
    next answered =>
      have lost : (leaseCas setting.leaseTtl id world.now world.lease).2 = none := by rw [answered]
      have same := leaseCas_lost lost
      rw [answered] at same
      subst same
      exact sound

theorem sound_startTick (id : Nat) (sound : Sound world)
    (guarded : setting.ample world (.startTick id)) :
    Sound (setting.step world (.startTick id)) := by
  simp only [step]
  split
  next probing =>
    apply sound_put sound
    intro active
    by_cases bounded : 0 < setting.tickBound
    · rw [if_pos bounded] at active ⊢
      rw [ample, probing] at guarded
      simp only [bne_self_eq_false, Bool.false_or, any_eq_true, Bool.and_eq_true,
        beq_iff_eq, decide_eq_true_eq] at guarded
      obtain ⟨row, stored, own, room⟩ := guarded
      refine ⟨row, stored, own, by dsimp only; omega, ?_⟩
      intro deadline running
      cases running
      exact ⟨by dsimp only; omega, .inr room⟩
    · rw [if_neg bounded] at active ⊢
      exact secured_of_rest rfl rfl active
  next tenured =>
    obtain ⟨row, secured⟩ := sound id _ tenured (.inl rfl)
    apply sound_put sound
    intro _
    refine ⟨row, secured.stored, secured.own, secured.live, ?_⟩
    intro deadline running
    have started : 0 < setting.tickBound ∧ world.now + setting.tickBound = deadline := by
      by_cases bounded : 0 < setting.tickBound
      · rw [if_pos bounded] at running
        exact ⟨bounded, some.inj running⟩
      · rw [if_neg bounded] at running
        cases running
    exact ⟨by dsimp only; omega, .inl rfl⟩
  · exact sound

theorem sound_endTick (id : Nat) (sound : Sound world) :
    Sound (setting.step world (.endTick id)) := by
  simp only [step]
  split
  · exact sound_put sound fun active => secured_of_rest rfl rfl active
  next lost _ _ tenured =>
    apply sound_put sound
    intro active
    cases lost with
    | true => exact secured_of_rest rfl rfl active
    | false =>
      obtain ⟨row, secured⟩ := sound id _ tenured (.inl rfl)
      refine ⟨row, secured.stored, secured.own, secured.live, ?_⟩
      intro _ running
      cases running
  · exact sound

theorem sound_renew (id : Nat) (sound : Sound world) : Sound (setting.step world (.renew id)) := by
  simp only [step, leaseCasRoundTrip_eq]
  split
  next tenured =>
    split
    · obtain ⟨_, secured⟩ := sound id _ tenured (.inl rfl)
      obtain ⟨renewed, answered, own, expires⟩ :=
        leaseCas_own secured.own
      rw [secured.stored, answered]
      refine sound_of_frame id sound rfl ?_ ?_ ?_
      · intro _ ne
        exact Pool.put_of_ne ne
      · intro _ oldStored foreign _
        rw [secured.stored] at oldStored
        cases oldStored
        exact absurd secured.own foreign
      · intro _ present _
        obtain rfl := some.inj ((put_self _ _).symm.trans present)
        refine ⟨renewed, rfl, own, by rw [expires]; dsimp only; omega, ?_⟩
        intro deadline running
        exact ⟨(secured.within deadline running).1, .inl rfl⟩
    · exact sound
  · exact sound

theorem sound_renewalFails (id : Nat) (sound : Sound world)
    (guarded : setting.ample world (.renewalFails id)) :
    Sound (setting.step world (.renewalFails id)) := by
  simp only [step]
  split
  next tick tenured =>
    split
    · obtain ⟨row, secured⟩ := sound id _ tenured (.inl rfl)
      apply sound_put sound
      intro _
      refine ⟨row, secured.stored, secured.own, secured.live, ?_⟩
      intro deadline running
      have running : tick = some deadline := running
      have covered : deadline ≤ row.expiresAt := by
        simpa [ample, tenured, Process.deadline, running, secured.stored] using guarded
      exact ⟨(secured.within deadline running).1, .inr covered⟩
    · exact sound
  · exact sound

theorem sound_leave (id : Nat) (sound : Sound world) : Sound (setting.step world (.leave id)) := by
  simp only [step]
  split
  · exact sound_put sound fun active => secured_of_rest rfl rfl active
  · exact sound_put sound fun active => secured_of_rest rfl rfl active
  · exact sound

theorem sound_release (id : Nat) (reached : Bool) (sound : Sound world) :
    Sound (setting.step world (.release id reached)) := by
  simp only [step]
  split
  · refine sound_of_frame id sound rfl ?_ ?_ ?_
    · intro _ ne
      exact Pool.remove_of_ne ne
    · intro _ stored foreign _
      cases reached with
      | false => exact stored
      | true => simp [leaseBestEffortRelease, stored, foreign]
    · intro _ present _
      cases (remove_self _ _).symm.trans present
  · exact sound

theorem sound_crash (id : Nat) (sound : Sound world) : Sound (setting.step world (.crash id)) := by
  refine sound_of_frame id sound rfl ?_ ?_ ?_
  · intro _ ne
    exact Pool.remove_of_ne ne
  · intro _ stored _ _
    exact stored
  · intro _ present _
    cases (remove_self _ _).symm.trans present

theorem sound_step (world : World) (op : Op) (sound : Sound world)
    (guarded : setting.ample world op) : Sound (setting.step world op) := by
  cases op with
  | wait => exact sound_wait sound guarded
  | acquire id => exact sound_acquire id sound
  | startTick id => exact sound_startTick id sound guarded
  | endTick id => exact sound_endTick id sound
  | renew id => exact sound_renew id sound
  | renewalFails id => exact sound_renewalFails id sound guarded
  | leave id => exact sound_leave id sound
  | release id reached => exact sound_release id reached sound
  | crash id => exact sound_crash id sound

/-! ## Runs -/

/-- In every run in which heartbeats renew before their lease expires, no
renewal fails under a tick that may outlast the lease and no probe eats up the
margin of its tick, no tick runs on one process while another owns the lease. -/
theorem tick_within_lease (setting : Setting) (now : Int) (lease : Option LeaseRow) {ops : List Op}
    (guarded : Guarded setting.step (fun world op => setting.ample world op = true)
      ⟨now, lease, Pool.empty⟩ ops) :
    (run setting.step ⟨now, lease, Pool.empty⟩ ops).Undisputed := by
  have initial : Sound ⟨now, lease, Pool.empty⟩ := by
    intro _ _ present
    cases present
  exact (invariant_run sound_step initial guarded).undisputed

/-- A service whose ticks may take as long as the lease allows. -/
def slowTicks : Setting where
  mode := .heartbeat
  tickTimeout := some 600000
  cadence := 9000

/-- The heartbeat renews the lease during the tick, and the process leaves
after it; another process takes over. -/
def renewedTenure : List Op :=
  [.acquire 0, .startTick 0, .wait 10000, .renew 0, .wait 280000, .renew 0, .acquire 1,
    .wait 5000, .endTick 0, .leave 0, .release 0 true, .wait 1, .acquire 1, .startTick 1]

theorem tick_within_lease_renewedTenure :
    (run slowTicks.step ⟨0, none, Pool.empty⟩ renewedTenure).Undisputed := by
  apply tick_within_lease slowTicks 0 none
  decide

/-- A tick starts nine seconds after the acquisition, the first renewal fails,
and the tick is still running when the lease has expired. -/
def failedRenewal : List Op :=
  [.acquire 0, .startTick 0, .endTick 0, .wait 9000, .startTick 0, .wait 1000, .renewalFails 0,
    .wait 291000, .acquire 1]

def slowProbe : Setting where
  cadence := 600000

/-- The probe takes six seconds, and the tick that follows uses its bound. -/
def delayedTick : List Op :=
  [.acquire 0, .wait 6000, .startTick 0, .wait 294500, .acquire 1]

theorem tick_outlives_lease :
    ¬ (run slowTicks.step ⟨0, none, Pool.empty⟩ failedRenewal).Undisputed ∧
      ¬ (run slowProbe.step ⟨0, none, Pool.empty⟩ delayedTick).Undisputed := by
  constructor
  · intro undisputed
    have owned := undisputed 0 (.tenure true 10000 (some 304000)) rfl rfl
      ⟨1, 2, 301000, 301000, 601000⟩ rfl
    cases owned
  · intro undisputed
    have owned := undisputed 0 (.ticking 301000) rfl rfl ⟨1, 2, 300500, 300500, 600500⟩ rfl
    cases owned

end Dynastore.Leadership
