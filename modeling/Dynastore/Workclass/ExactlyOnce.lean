import Dynastore.Workclass.Webhooks

/-! The fan-out runs before the acknowledgement, so a drain that dies in between has its event
delivered again. The dedup key then stands in for the task that exists already, as long as that task
is unfinished. -/

namespace Dynastore.Workclass.Fanout

open Execution List Option Bool Events
open Tasks (Creation TaskRow)

variable {setting : Setting} {world : World}

/-- What an operation does, with the checks that it has passed. -/
inductive Moves (setting : Setting) (world : World) : Op → World → Prop
  | stay : Moves setting world op world
  | event : Moves setting world (.event op)
      { world with ledger := Events.step world.ledger (acknowledge world.delivered op) }
  | deliver (free : world.deliveries slot = none)
    (held : Events.held world.ledger ownerId number = some claim) :
    Moves setting world (.deliver slot ownerId number subscribed found)
      { world with
        deliveries := world.deliveries.put slot
          ⟨number, claim, if found then targets setting subscribed claim else []⟩ }
  | hit (next : world.next slot = some (delivery, subscription))
    (idle : world.tasks.inflight.lookup slot = none)
    (hit : Tasks.dedupHit world.tasks.table
      (deliveryTask setting delivery.claim subscription correlationId taskId creationTime)) :
    Moves setting world (.check slot correlationId taskId creationTime)
      { world with deliveries := world.deliveries.put slot delivery.skip }
  | begun (next : world.next slot = some (delivery, subscription))
    (idle : world.tasks.inflight.lookup slot = none)
    (passed : ¬ Tasks.dedupHit world.tasks.table
      (deliveryTask setting delivery.claim subscription correlationId taskId creationTime)) :
    Moves setting world (.check slot correlationId taskId creationTime)
      { world with
        tasks.inflight := (slot, deliveryTask setting delivery.claim subscription correlationId
          taskId creationTime) :: world.tasks.inflight }
  | insert (next : world.next slot = some (delivery, subscription))
    (found : world.tasks.inflight.lookup slot = some creation) :
    Moves setting world (.insert slot dbNow)
      { world with
        tasks := ⟨Tasks.insertRow world.tasks.table (creation.row setting.config dbNow),
          (abandon world.tasks slot).inflight⟩
        deliveries := world.deliveries.put slot delivery.skip }
  | refuse (next : world.next slot = some (delivery, subscription)) :
    Moves setting world (.refuse slot)
      { world with
        tasks := abandon world.tasks slot
        deliveries := world.deliveries.put slot delivery.skip }
  | finish (present : world.deliveries slot = some ⟨number, claim, []⟩) :
    Moves setting world (.finish slot)
      { world with
        deliveries := world.deliveries.remove slot
        delivered := number :: world.delivered }
  | crash : Moves setting world (.crash slot)
      { world with
        tasks := abandon world.tasks slot
        deliveries := world.deliveries.remove slot }
  | execute : Moves setting world (.execute op) { world with
      tasks.table := world.tasks.table.execute (op.statement setting.config world.tasks.table) }

variable {slot number : Nat} {subscription : Subscription} {event claim : EventRow}
  {after : World}

theorem moves_step (op : Op) : Moves setting world op (step setting world op) := by
  cases op with
  | event => exact .event
  | crash => exact .crash
  | deliver =>
    rw [step]
    split
    next free held => exact .deliver free held
    · exact .stay
  | check =>
    rw [step]
    split
    next next =>
      dsimp only
      split
      · exact .stay
      next idle =>
        have free := not_isSome_iff_eq_none.mp idle
        split
        next hit => exact .hit next free hit
        next passed =>
          simp only [Tasks.step, free, passed, isSome_none, Bool.or_false, Bool.false_eq_true,
            if_false]
          exact .begun next free passed
    · exact .stay
  | insert =>
    rw [step]
    split
    next next found =>
      simp only [Tasks.step, found]
      exact .insert next found
    · exact .stay
  | refuse =>
    rw [step]
    split
    next next => exact .refuse next
    · exact .stay
  | finish =>
    rw [step]
    split
    next present => exact .finish present
    · exact .stay
  | execute op =>
    rw [step]
    split
    · exact .stay
    next running =>
      cases op with
      | beginCreate | insertCreated => exact absurd rfl running
      | _ => exact .execute

/-! ## Tasks are never taken away -/

theorem Moves.tasksFor_le (moved : Moves setting world op after) (event : EventRow)
    (subscription : Subscription) :
    world.tasksFor event subscription ≤ after.tasksFor event subscription := by
  cases moved with
  | insert => exact Tasks.carriers_le_insertRow
  | execute => exact Nat.le_of_eq (Tasks.carriers_execute ..).symm
  | _ => exact Nat.le_refl _

theorem Moves.served (moved : Moves setting world op after) (served : world.served setting event) :
    after.served setting event := by
  simp only [World.served, List.all_eq_true, decide_eq_true_eq] at served ⊢
  intro subscription mem
  exact Nat.lt_of_lt_of_le (served subscription mem) (moved.tasksFor_le event subscription)

/-! ## At most one task -/

theorem mem_of_lookup {inflight : List (Nat × Creation)}
    (found : inflight.lookup slot = some creation) : (slot, creation) ∈ inflight := by
  obtain ⟨_, _, split, _⟩ := lookup_eq_some_iff.mp found
  simp [split]

/-- Keys under way are unused and belong to one session each, and no key has
two tasks. -/
structure Exclusive (tasks : Tasks.World) : Prop where
  unused : ∀ entry ∈ tasks.inflight, ∀ identity, entry.2.dedupIdentity = some identity →
    Tasks.carriers tasks.table identity = 0
  apart : ∀ left ∈ tasks.inflight, ∀ right ∈ tasks.inflight, left.2.dedupIdentity.isSome →
    left.2.dedupIdentity = right.2.dedupIdentity → left = right
  once : ∀ identity, Tasks.carriers tasks.table identity ≤ 1

namespace Exclusive

theorem abandon (exclusive : Exclusive tasks) (slot : Nat) :
    Exclusive (Fanout.abandon tasks slot) where
  unused entry mem := exclusive.unused entry (List.mem_of_mem_filter mem)
  apart left leftMem right rightMem :=
    exclusive.apart left (mem_of_mem_filter leftMem) right (mem_of_mem_filter rightMem)
  once := exclusive.once

theorem begun (exclusive : Exclusive tasks) (keyed : creation.dedupIdentity = some identity)
    (unused : Tasks.carriers tasks.table identity = 0)
    (alone : ∀ entry ∈ tasks.inflight, entry.2.dedupIdentity ≠ some identity) :
    Exclusive { tasks with inflight := (slot, creation) :: tasks.inflight } where
  unused entry mem wanted same := by
    rcases mem_cons.mp mem with rfl | mem
    · rw [keyed] at same
      rw [← some.inj same]
      exact unused
    · exact exclusive.unused entry mem wanted same
  apart left leftMem right rightMem isKeyed same := by
    rcases mem_cons.mp leftMem with rfl | leftMem
    · rcases mem_cons.mp rightMem with rfl | rightMem
      · rfl
      · exact absurd (same.symm.trans keyed) (alone right rightMem)
    · rcases mem_cons.mp rightMem with rfl | rightMem
      · exact absurd (same.trans keyed) (alone left leftMem)
      · exact exclusive.apart left leftMem right rightMem isKeyed same
  once := exclusive.once

theorem insert (exclusive : Exclusive tasks) (found : tasks.inflight.lookup slot = some creation) :
    Exclusive ⟨Tasks.insertRow tasks.table (creation.row config dbNow),
      (Fanout.abandon tasks slot).inflight⟩ := by
  have entryMem := mem_of_lookup found
  rcases Tasks.insertRow_cases with unchanged | inserted
  · rw [unchanged]
    exact exclusive.abandon slot
  · have counted := fun identity => Tasks.carriers_insert inserted identity
    simp only [Tasks.dedupIdentity_row] at counted
    constructor
    · intro entry mem identity keyed
      have stays : entry ∈ tasks.inflight ∧ entry.1 ≠ slot := by
        simpa using mem_filter.mp mem
      have other : creation.dedupIdentity ≠ some identity := by
        intro same
        have entryEq := exclusive.apart entry stays.1 _ entryMem (by rw [keyed]; rfl)
          (keyed.trans same.symm)
        exact stays.2 (congrArg Prod.fst entryEq)
      rw [counted, if_neg other]
      exact exclusive.unused entry stays.1 identity keyed
    · exact (exclusive.abandon slot).apart
    · intro identity
      rw [counted]
      split
      next keyed => rw [exclusive.unused _ entryMem identity keyed]
      · exact exclusive.once identity

theorem execute (exclusive : Exclusive tasks) (op : Tasks.Op) : Exclusive { tasks with
    table := tasks.table.execute (op.statement config tasks.table) } where
  unused entry mem identity keyed :=
    (Tasks.carriers_execute ..).trans (exclusive.unused entry mem identity keyed)
  apart := exclusive.apart
  once identity := (Tasks.carriers_execute ..).trans_le (exclusive.once identity)

end Exclusive

theorem Moves.exclusive (moved : Moves setting world op after) (exclusive : Exclusive world.tasks)
    (guarded : repeatable setting world op) : Exclusive after.tasks := by
  cases moved with
  | begun next idle passed =>
    simp only [repeatable, next, idle, all_some, isSome_none, Bool.false_or, World.reserved,
      and_eq_true, or_eq_true, beq_iff_eq, List.all_eq_true] at guarded
    apply exclusive.begun (dedupIdentity_deliveryTask ..)
    · exact guarded.1.resolve_right fun held => passed held
    · intro entry mem
      simpa using guarded.2 entry mem
  | insert _ found => exact exclusive.insert found
  | refuse | crash => exact exclusive.abandon _
  | execute => exact exclusive.execute _
  | _ => exact exclusive

/-! ## Sessions -/

def Sessions (world : World) : Prop :=
  ∀ slot creation, world.tasks.inflight.lookup slot = some creation →
    ∃ delivery subscription, world.next slot = some (delivery, subscription) ∧
      creation.dedupIdentity = some (deliveryIdentity delivery.claim subscription)

theorem lookup_filter_ne (inflight : List (Nat × Creation)) :
    (inflight.filter fun entry => entry.1 != slot).lookup other =
      if other = slot then none else inflight.lookup other := by
  induction inflight with
  | nil => simp
  | cons entry _ ih =>
    by_cases own : entry.1 = slot
    · rw [filter_cons_of_neg (by simp [own]), ih, lookup_cons]
      split
      · rfl
      next ne => rw [own, beq_false_of_ne ne]
    · rw [filter_cons_of_pos (by simpa using own), lookup_cons, lookup_cons,
        ih]
      by_cases found : other = entry.1
      · simp [found, own]
      · rw [beq_false_of_ne found]

theorem sessions_of_ended (sessions : Sessions world)
    (inflight : after.tasks.inflight = (abandon world.tasks slot).inflight)
    (others : ∀ other, other ≠ slot → after.deliveries other = world.deliveries other) :
    Sessions after := by
  intro other creation found
  rw [inflight, abandon, lookup_filter_ne] at found
  split at found
  · cases found
  next ne =>
    rw [World.next, others other ne]
    exact sessions other creation found

theorem sessions_of_idle (sessions : Sessions world)
    (inflight : after.tasks.inflight = world.tasks.inflight)
    (idle : world.tasks.inflight.lookup slot = none)
    (others : ∀ other, other ≠ slot → after.deliveries other = world.deliveries other) :
    Sessions after := by
  intro other creation found
  rw [inflight] at found
  have ne : other ≠ slot := by
    rintro rfl
    rw [idle] at found
    cases found
  rw [World.next, others other ne]
  exact sessions other creation found

theorem idle_of_next_eq_none (sessions : Sessions world)
    (nothing : world.next slot = none) : world.tasks.inflight.lookup slot = none := by
  cases found : world.tasks.inflight.lookup slot with
  | none => rfl
  | some creation =>
    obtain ⟨_, _, next, _⟩ := sessions slot creation found
    rw [nothing] at next
    cases next

theorem Moves.sessions (moved : Moves setting world op after) (sessions : Sessions world) :
    Sessions after := by
  cases moved with
  | stay | event | execute => exact sessions
  | deliver free =>
    refine sessions_of_idle sessions rfl (idle_of_next_eq_none sessions ?_) fun _ => Pool.put_of_ne
    rw [World.next, free]
    rfl
  | hit _ idle => exact sessions_of_idle sessions rfl idle fun _ => Pool.put_of_ne
  | @begun slot delivery subscription _ _ _ next =>
    intro other creation found
    simp only [lookup_cons] at found
    split at found
    next same =>
      cases found
      rw [beq_iff_eq] at same
      subst same
      exact ⟨delivery, subscription, next, rfl⟩
    · exact sessions other creation found
  | insert | refuse => exact sessions_of_ended sessions rfl fun _ => Pool.put_of_ne
  | finish present =>
    refine sessions_of_idle sessions rfl (idle_of_next_eq_none sessions ?_)
      fun _ => Pool.remove_of_ne
    rw [World.next, present]
    rfl
  | crash => exact sessions_of_ended sessions rfl fun _ => Pool.remove_of_ne

/-- A guarded `INSERT` creates the task of the next subscription. -/
theorem created_of_insert (exclusive : Exclusive world.tasks) (sessions : Sessions world)
    (next : world.next slot = some (delivery, subscription))
    (found : world.tasks.inflight.lookup slot = some creation)
    (guarded : repeatable setting world (.insert slot dbNow)) :
    0 < Tasks.carriers (Tasks.insertRow world.tasks.table (creation.row setting.config dbNow))
      (deliveryIdentity delivery.claim subscription) := by
  obtain ⟨_, _, ownNext, keyed⟩ := sessions slot creation found
  rw [next] at ownNext
  cases ownNext
  have fresh : (creation.row setting.config dbNow).key ∉
      world.tasks.table.rows.map TaskRow.key := by
    simpa [repeatable, found] using guarded
  have rowKeyed := (Tasks.dedupIdentity_row setting.config dbNow creation).trans keyed
  have inserted := Tasks.insertRow_of_unused rowKeyed
    (exclusive.unused _ (mem_of_lookup found) _ keyed) fresh
  rw [Tasks.carriers_insert inserted, if_pos rowKeyed]
  exact Nat.succ_pos _

/-! ## Every subscription is reached -/

theorem Moves.ledger (moved : Moves setting world op after) :
    after.ledger = world.ledger ∨ ∃ event, after.ledger = Events.step world.ledger event := by
  cases moved with
  | event => exact .inr ⟨_, rfl⟩
  | _ => exact .inl rfl

theorem Moves.issued (moved : Moves setting world op after)
    (issued : world.ledger.issued number = some claim) :
    after.ledger.issued number = some claim := by
  rcases moved.ledger with same | ⟨event, stepped⟩
  · rw [same]
    exact issued
  · rw [stepped]
    exact Events.issued_step issued event

/-- The fan-out works on a claim that was handed out, and a matching
subscription is still ahead of it or has its task. -/
structure Covers (setting : Setting) (world : World) (delivery : Delivery) : Prop where
  issued : world.ledger.issued delivery.number = some delivery.claim
  reached : ∀ subscription ∈ matching setting delivery.claim,
    subscription ∈ delivery.remaining ∨ 0 < world.tasksFor delivery.claim subscription

namespace Covers

theorem move (covers : Covers setting world delivery) (moved : Moves setting world op after) :
    Covers setting after delivery where
  issued := moved.issued covers.issued
  reached subscription mem := (covers.reached subscription mem).imp_right fun created =>
    Nat.lt_of_lt_of_le created (moved.tasksFor_le _ _)

theorem skip (covers : Covers setting world delivery)
    (next : delivery.remaining = subscription :: delivery.skip.remaining)
    (created : 0 < world.tasksFor delivery.claim subscription) :
    Covers setting world delivery.skip where
  issued := covers.issued
  reached other mem := by
    rcases covers.reached other mem with ahead | otherCreated
    · rw [next] at ahead
      rcases mem_cons.mp ahead with rfl | later
      · exact .inr created
      · exact .inl later
    · exact .inr otherCreated

end Covers

/-- A fan-out that has returned and an event that is completed have reached
every matching subscription. -/
structure Progress (setting : Setting) (world : World) : Prop where
  delivering : world.deliveries.All (Covers setting world)
  delivered : ∀ number ∈ world.delivered, ∃ claim, world.ledger.issued number = some claim ∧
    world.served setting claim = true
  completed : ∀ key, world.ledger.Finished Events.completed key → ∃ number claim,
    world.ledger.issued number = some claim ∧ claim.key = key ∧ world.served setting claim = true

theorem created_of_dedupHit (hit : Tasks.dedupHit world.tasks.table
      (deliveryTask setting event subscription correlationId taskId creationTime)) :
    0 < world.tasksFor event subscription := by
  obtain ⟨row, mem, reserves⟩ := any_eq_true.mp hit
  rw [World.tasksFor, Tasks.carriers, countP_pos_iff]
  refine ⟨row, mem, ?_⟩
  simp only [TaskRow.reserves, and_eq_true, beq_iff_eq] at reserves
  simp only [TaskRow.dedupIdentity, reserves.1.1, reserves.1.2, map_some, beq_iff_eq]
  rfl

theorem covers_skip (moved : Moves setting world op after)
    (delivering : world.deliveries.All (Covers setting world))
    (next : world.next slot = some (delivery, subscription))
    (created : 0 < after.tasksFor delivery.claim subscription) :
    Covers setting after delivery.skip := by
  rw [World.next, bind_eq_some_iff] at next
  obtain ⟨_, present, headed⟩ := next
  obtain ⟨_, headEq, paired⟩ := map_eq_some_iff.mp headed
  obtain ⟨rfl, rfl⟩ := Prod.mk.inj paired
  exact ((delivering slot _ present).move moved).skip (cons_head?_tail headEq).symm created

theorem covers_deliver (held : Events.held world.ledger ownerId number = some claim)
    (guarded : repeatable setting world (.deliver slot ownerId number subscribed found)) :
    Covers setting world ⟨number, claim, if found then targets setting subscribed claim else []⟩
      where
  issued := (Option.filter_eq_some_iff.mp held).1
  reached subscription mem := by
    simp only [repeatable, held, all_some, or_eq_true, and_eq_true, bne_iff_ne] at guarded
    rcases guarded with ⟨⟨looked, typed⟩, known⟩ | served
    · left
      simp only [looked, if_true]
      rw [targets_eq_matching typed known]
      exact mem
    · right
      rw [World.served, List.all_eq_true] at served
      simpa using served subscription mem

theorem Moves.delivering (moved : Moves setting world op after) (exclusive : Exclusive world.tasks)
    (sessions : Sessions world) (delivering : world.deliveries.All (Covers setting world))
    (guarded : repeatable setting world op) : after.deliveries.All (Covers setting after) := by
  -- every fan-out that stays keeps what it has reached
  have kept : world.deliveries.All (Covers setting after) :=
    delivering.imp fun _ _ _ covers => covers.move moved
  -- so it is left to look at the slot the operation acts on
  cases moved with
  | stay | event | begun | execute => exact kept
  | deliver free held => exact kept.put _ ((covers_deliver held guarded).move (.deliver free held))
  | hit next idle hit =>
    exact kept.put _ (covers_skip (.hit next idle hit) delivering next (created_of_dedupHit hit))
  | insert next found =>
    exact kept.put _ (covers_skip (.insert next found) delivering next
      (created_of_insert exclusive sessions next found guarded))
  | refuse next =>
    simp only [repeatable, next, all_some, decide_eq_true_eq] at guarded
    exact kept.put _ (covers_skip (.refuse next) delivering next guarded)
  | finish | crash => exact kept.remove _

theorem Moves.delivered (moved : Moves setting world op after) (progress : Progress setting world)
    (number : Nat) (mem : number ∈ after.delivered) :
    ∃ claim, after.ledger.issued number = some claim ∧ after.served setting claim := by
  -- what had returned before the step
  have earlier : number ∈ world.delivered →
      ∃ claim, after.ledger.issued number = some claim ∧ after.served setting claim := by
    intro known
    obtain ⟨claim, issued, served⟩ := progress.delivered number known
    exact ⟨claim, moved.issued issued, moved.served served⟩
  cases moved with
  | finish present =>
    have covers := progress.delivering _ _ present
    rcases mem_cons.mp mem with rfl | known
    · refine ⟨_, covers.issued, ?_⟩
      rw [World.served, List.all_eq_true]
      intro subscription matched
      exact decide_eq_true ((covers.reached subscription matched).resolve_left not_mem_nil)
    · exact earlier known
  | _ => exact earlier mem

theorem Moves.completed (moved : Moves setting world op after)
    (fenced : world.ledger.Fenced EventRow.claimVersion) (progress : Progress setting world)
    (key : Day × Nat) (finished : after.ledger.Finished Events.completed key) :
    ∃ number claim, after.ledger.issued number = some claim ∧
      claim.key = key ∧ after.served setting claim := by
  -- it is enough to find the claim before the step
  suffices before : ∃ number claim, world.ledger.issued number = some claim ∧
      claim.key = key ∧ world.served setting claim = true by
    obtain ⟨number, claim, issued, claimKey, served⟩ := before
    exact ⟨number, claim, moved.issued issued, claimKey, moved.served served⟩
  by_cases earlier : world.ledger.Finished Events.completed key
  · exact progress.completed key earlier
  · cases moved with
    | @event op =>
      obtain ⟨_, _, completes⟩ :=
        turns_completed world.ledger _ key fenced earlier finished
      cases op with
      | markDoneMany ownerId numbers now =>
        have changed : (Events.step world.ledger (acknowledge world.delivered
            (.markDoneMany ownerId numbers now))).table.lookup key ≠
              world.ledger.table.lookup key := by
          intro same
          obtain ⟨row, found, rowCompleted⟩ := finished
          exact earlier ⟨row, same ▸ found, rowCompleted⟩
        obtain ⟨_, number, claim, ⟨_, acknowledged⟩, own, claimKey, _⟩ :=
          Events.latest_of_outcome fenced rfl changed
        have returned : number ∈ world.delivered := by
          simpa using (mem_filter.mp acknowledged).2
        obtain ⟨stored, issued, served⟩ := progress.delivered number returned
        have same : stored = claim :=
          some.inj (issued.symm.trans (filter_eq_some_iff.mp own).1)
        exact ⟨number, claim, same ▸ issued, claimKey, same ▸ served⟩
      | _ => exact completes.elim
    | _ => exact absurd finished earlier

/-! ## Runs -/

structure Sound (setting : Setting) (world : World) : Prop where
  fenced : world.ledger.Fenced EventRow.claimVersion
  agrees : world.ledger.Agrees EventRow.content
  exclusive : Exclusive world.tasks
  sessions : Sessions world
  progress : Progress setting world

theorem sound_initial (setting : Setting) : Sound setting initial where
  fenced := .empty
  agrees := by
    intro _ mem
    cases mem
  exclusive := ⟨by rintro _ ⟨⟩, by rintro _ ⟨⟩, fun _ => Nat.zero_le 1⟩
  sessions := by
    intro _ _ found
    cases found
  progress := ⟨Pool.all_empty, by rintro _ ⟨⟩, fun _ finished =>
    absurd finished Ledger.not_finished_empty⟩

theorem sound_step (world : World) (op : Op) (sound : Sound setting world)
    (guarded : repeatable setting world op) : Sound setting (step setting world op) := by
  have moved : Moves setting world op (step setting world op) := moves_step op
  refine ⟨?_, ?_, moved.exclusive sound.exclusive guarded, moved.sessions sound.sessions,
    moved.delivering sound.exclusive sound.sessions sound.progress.delivering guarded,
    moved.delivered sound.progress, moved.completed sound.fenced sound.progress⟩
  · rcases moved.ledger with same | ⟨event, stepped⟩
    · rw [same]
      exact sound.fenced
    · rw [stepped]
      exact fenced_step _ _ sound.fenced
  · rcases moved.ledger with same | ⟨_, stepped⟩
    · rw [same]
      exact sound.agrees
    · rw [stepped]
      exact agrees_step sound.fenced sound.agrees

/-- In every run whose checks find the earlier tasks of their key unfinished and
no rival creation, whose inserts succeed and which gives up or passes over no
delivery without a task, a completed event has exactly one task for each matching subscription. -/
theorem one_task_per_subscription (setting : Setting) {ops : List Op}
    (guarded : Guarded (step setting) (fun world op => repeatable setting world op = true)
      initial ops) :
    let world := run (step setting) initial ops
    ∀ event ∈ world.ledger.table.rows, event.status = .completed →
      ∀ subscription ∈ setting.subscriptions.rows, subscription.matches event = true →
        world.tasksFor event subscription = 1 := by
  intro world event stored completed subscription mem matched
  have sound : Sound setting world := invariant_run sound_step (sound_initial setting) guarded
  have found := world.ledger.table.lookup_of_mem stored
  obtain ⟨_, claim, issued, claimKey, served⟩ :=
    sound.progress.completed event.key ⟨event, found, by simp [Events.completed, completed]⟩
  -- the claim that was delivered has the id and the content of the event
  have content := sound.agrees claim (Ledger.mem_of_issued issued) event (claimKey ▸ found)
  have sameId : claim.eventId = event.eventId := congrArg Prod.snd claimKey
  rw [World.served, List.all_eq_true] at served
  have created : 0 < world.tasksFor claim subscription := by
    simpa using served subscription
      (List.mem_filter.mpr ⟨mem, Subscription.matches_congr content subscription ▸ matched⟩)
  have sameTasks : world.tasksFor claim subscription = world.tasksFor event subscription := by
    rw [World.tasksFor, deliveryIdentity, sameId]
    rfl
  exact Nat.le_antisymm (sound.exclusive.once _) (sameTasks ▸ created)

def itemSubscription : Setting where
  config := {}
  py := Python.literal
  subscriptions := ⟨[⟨4, "gcp", "item_created", "PLATFORM", none, none⟩], by decide⟩

def deliveredOnce : List Op :=
  [.event (.emitEventRow 0 0 7 ⟨"item_created", "catalog", some "c", [], 0⟩),
    .event (.claimBatch "a" 300 100 0 []),
    .deliver 1 "a" 0 (some ["item_created"]) true,
    .check 1 none 70 10,
    .insert 1 10,
    .finish 1,
    .event (.markDoneMany "a" [0] 20),
    .execute (.completeTask ⟨70, none, some 10⟩ 30 none)]

theorem one_task_per_subscription_deliveredOnce :
    (∃ event ∈ (run (step itemSubscription) initial deliveredOnce).ledger.table.rows,
      event.status = .completed) ∧
    ∀ event ∈ (run (step itemSubscription) initial deliveredOnce).ledger.table.rows,
      event.status = .completed → ∀ subscription ∈ itemSubscription.subscriptions.rows,
        subscription.matches event = true →
          (run (step itemSubscription) initial deliveredOnce).tasksFor event subscription = 1 := by
  refine ⟨by decide, one_task_per_subscription itemSubscription ?_⟩
  decide

/-- The drain dies before its acknowledgement, and the task it created has run
when the next drain delivers the event again. -/
def redeliveredAfterCompletion : List Op :=
  [.event (.emitEventRow 0 0 7 ⟨"item_created", "catalog", some "c", [], 0⟩),
    .event (.claimBatch "a" 300 100 0 []),
    .deliver 1 "a" 0 (some ["item_created"]) true,
    .check 1 none 70 10,
    .insert 1 10,
    .crash 1,
    .execute (.claimForDispatch 15 70 "worker" 1000 none none),
    .execute (.completeTask ⟨70, none, some 10⟩ 30 none),
    .event (.claimBatch "b" 300 100 (seconds 301) []),
    .deliver 2 "b" 1 none true,
    .check 2 none 71 (seconds 302),
    .insert 2 (seconds 302),
    .finish 2,
    .event (.markDoneMany "b" [1] (seconds 303))]

/-- The set of subscribed types was read before the subscription was made. -/
def shownOldTypes : List Op :=
  [.event (.emitEventRow 0 0 7 ⟨"item_created", "catalog", some "c", [], 0⟩),
    .event (.claimBatch "a" 300 100 0 []),
    .deliver 1 "a" 0 (some []) true,
    .finish 1,
    .event (.markDoneMany "a" [0] 20)]

def HasTasks (ops : List Op) (count : Nat) : Prop :=
  ∃ event ∈ (run (step itemSubscription) initial ops).ledger.table.rows,
    event.status = .completed ∧
    ∃ subscription ∈ itemSubscription.subscriptions.rows, subscription.matches event = true ∧
      (run (step itemSubscription) initial ops).tasksFor event subscription = count

theorem redelivery_creates_second_task :
    HasTasks redeliveredAfterCompletion 2 ∧ HasTasks shownOldTypes 0 := by
  unfold HasTasks
  decide

end Dynastore.Workclass.Fanout
