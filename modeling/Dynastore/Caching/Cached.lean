import Dynastore.Caching.Tiered

/-! One process, and the calls of one decorated function with arguments that share a key. The calls,
the rebuild they share and the invalidations run interleaved: each step is what one of them does
between two points where it waits. Nothing on a local backend waits; the reads and the clears of a
tiered one wait for L2. -/

namespace Dynastore.Caching

/-- A result with the number of the execution of the function that produced it. -/
structure Produced where
  execution : Nat
  value : Value

/-- A stored result, with the time of writing and the lifetime if it is wrapped
(`_stale_wrap`). -/
structure Entry where
  produced : Produced
  wrapped : Option (Int × Int)

/-- A result `None` that was stored bare reads as no entry. -/
def Entry.readsAsNone : Entry → Bool
  | ⟨⟨_, .null⟩, none⟩ => true
  | _ => false

structure StalePolicy where
  grace : Int
  condition : Option (Value → Bool)

inductive Lookup where
  | hit (produced : Produced)
  /-- A fresh value that does not meet the condition. -/
  | rejected
  /-- Nothing, or only a stale value to fall back to. -/
  | missed (candidate : Option Produced)

namespace StalePolicy

variable (policy : StalePolicy)

def accepts (value : Value) : Bool :=
  policy.condition.all (· value)

def wrap (now : Int) (ttl : Option Int) (produced : Produced) : Entry where
  produced := produced
  wrapped := if policy.grace > 0 then ttl.map fun seconds => (now, seconds) else none

/-- `_stale_unwrap`, which only a function with a grace period applies. -/
def isStale (now : Int) (entry : Entry) : Bool :=
  policy.grace > 0 && entry.wrapped.any fun (storedAt, ttl) => now - storedAt > ttl

def examine (now : Int) : Option Entry → Lookup
  | none => .missed none
  | some entry =>
    if entry.readsAsNone then .missed none
    else if policy.isStale now entry then .missed (some entry.produced)
    else if policy.accepts entry.produced.value then .hit entry.produced
    else .rejected

theorem examine_cases :
    (∃ entry, found = some entry ∧ policy.examine now found = .hit entry.produced) ∨
      policy.examine now found = .rejected ∨ policy.examine now found = .missed none ∨
      ∃ entry, found = some entry ∧ policy.examine now found = .missed (some entry.produced) := by
  unfold examine
  split
  · exact .inr (.inr (.inl rfl))
  next entry =>
    split
    · exact .inr (.inr (.inl rfl))
    · split
      · exact .inr (.inr (.inr ⟨entry, rfl, rfl⟩))
      · split
        · exact .inl ⟨entry, rfl, rfl⟩
        · exact .inr (.inl rfl)

end StalePolicy

structure CachedConfig extends StalePolicy where
  tiered : Bool
  retryAttempts : Nat
  requiredL2 : Bool

/-! ## Processes -/

inductive Role where
  | call (since : Nat)
  | rebuild

inductive Stage where
  /-- The backend has read L1 and waits for L2. -/
  | asking (own : Option (Stored Entry))
  | answered (own shared : Option (Stored Entry))
  /-- The rejected value is being cleared in L2. -/
  | rejecting (version : Nat)
  /-- The call loads its timeout. -/
  | loading (candidate : Option Produced)
  /-- The call waits for the shared rebuild. -/
  | waiting (candidate : Option Produced) (task : Nat)
  /-- The rebuild has ended, and the call has yet to wake up. -/
  | resolved (candidate result : Option Produced)
  /-- The rebuild waits for its turn. -/
  | queued
  | running (execution : Nat)

structure Process where
  role : Role
  stage : Stage

/-- A scheduled `clear(key=...)`, which writes its tombstone to L1 and then to L2. -/
inductive ClearStage where
  | scheduled
  | writing (version : Nat)

structure CachedAnswer where
  since : Nat
  produced : Produced

/-- `current` is the task in `_inflight_rebuilds`. `floor` counts the executions that had
started at the latest invalidation; nothing reads it. -/
structure CachedState where
  l1 : Option (Stored Entry)
  l2 : Option (Stored Entry)
  clock : Int
  executions : Nat
  processes : Pool Process
  current : Option Nat
  writes : Pool (Stored Entry × Nat)
  clears : Pool ClearStage
  floor : Nat
  answers : List CachedAnswer

inductive CachedOp where
  | call (id : Nat)
  /-- The rebuild has its turn and the lock of the key. -/
  | startRebuild (id : Nat)
  | serve (id : Nat) (reply : SharedReply)
  | resume (id version : Nat)
  /-- The tombstone of a rejected value is written to L2, or fails to be. -/
  | rejected (id : Nat) (succeeds : Bool)
  /-- A call joins the rebuild in flight, or starts the task given. -/
  | join (id task : Nat)
  | timeout (id : Nat)
  | wake (id : Nat)
  /-- The function returns, or raises. The lifetime has its jitter. -/
  | finish (id : Nat) (result : Option Value) (ttl : Option Int) (version write : Nat)
  | attempt (write : Nat) (reply : WriteReply)
  /-- `cache_invalidate`, inside an event loop or not. -/
  | invalidate (id : Nat) (loopRunning : Bool)
  | startClear (id version : Nat)
  | writeTombstone (id : Nat) (succeeds : Bool)
  | cancel (id : Nat)
  | loseOwn
  | loseShared
  | tick (elapsed : Nat)

namespace CachedState

variable (config : CachedConfig) (state : CachedState)

def put (id : Nat) (role : Role) (stage : Stage) : CachedState :=
  { state with processes := state.processes.put id ⟨role, stage⟩ }

def answer (id since : Nat) (produced : Produced) : CachedState :=
  { state with
    processes := state.processes.remove id
    answers := ⟨since, produced⟩ :: state.answers }

def resolve (task : Nat) (result : Option Produced) (process : Process) : Process :=
  match process.stage with
  | .waiting candidate other =>
    if other = task then { process with stage := .resolved candidate result } else process
  | _ => process

def settle (task : Nat) (result : Option Produced) : CachedState :=
  { state with processes := (state.processes.map (resolve task result)).remove task }

def hit (id : Nat) (produced : Produced) : Role → CachedState
  | .call since => state.answer id since produced
  | .rebuild => state.settle id (some produced)

def miss (id : Nat) (candidate : Option Produced) : Role → CachedState
  | .call since => state.put id (.call since) (.loading candidate)
  | .rebuild =>
    { state.put id .rebuild (.running state.executions) with
      executions := state.executions + 1 }

def reject (id version : Nat) (role : Role) : CachedState :=
  if config.tiered then
    { state with l1 := some (.tombstone version) }.put id role (.rejecting version)
  else { state with l1 := none }.miss id none role

def examined (id version : Nat) (role : Role) (found : Option Entry) : CachedState :=
  match config.examine state.clock found with
  | .hit produced => state.hit id produced role
  | .rejected => state.reject config id version role
  | .missed candidate => state.miss id candidate role

def lookup (id : Nat) (role : Role) : CachedState :=
  if config.tiered then state.put id role (.asking state.l1)
  else state.examined config id 0 role (state.l1.bind Stored.payload)

def startRebuild (id : Nat) : CachedState :=
  match state.processes id with
  | some ⟨.rebuild, .queued⟩ => state.lookup config id .rebuild
  | _ => state

def fail (id : Nat) : Role → CachedState
  | .call _ => { state with processes := state.processes.remove id }
  | .rebuild => state.settle id none

def serve (id : Nat) (reply : SharedReply) : CachedState :=
  match state.processes id with
  | some ⟨role, .asking own⟩ =>
    match reply with
    | .held => state.put id role (.answered own state.l2)
    | .nothing => state.put id role (.answered own none)
    | .raised =>
      -- L1 alone decides, as it does where L2 has nothing
      if config.requiredL2 then state.fail id role
      else state.put id role (.answered own none)
  | _ => state

def resume (id version : Nat) : CachedState :=
  match state.processes id with
  | some ⟨role, .answered own shared⟩ =>
    let read := tieredRead own shared
    match read.refresh with
    | some stored =>
      { state with l1 := some stored }.examined config id version role read.returned
    | none => state.examined config id version role read.returned
  | _ => state

def rejected (id : Nat) (succeeds : Bool) : CachedState :=
  match state.processes id with
  | some ⟨role, .rejecting version⟩ =>
    if succeeds then { state with l2 := some (.tombstone version) }.miss id none role
    else state.miss id none role
  | _ => state

def join (id task : Nat) : CachedState :=
  match state.processes id with
  | some ⟨role, .loading candidate⟩ =>
    match state.current.filter fun running => (state.processes running).isSome with
    | some running => state.put id role (.waiting candidate running)
    | none =>
      if (state.processes task).isSome then state
      else
        { (state.put task .rebuild .queued).put id role (.waiting candidate task) with
          current := some task }
  | _ => state

/-- A call ends with a value, or with the exception if there is none. -/
def conclude (id : Nat) : Role → Option Produced → CachedState
  | .call since, some produced => state.answer id since produced
  | role, _ => state.fail id role

def timeout (id : Nat) : CachedState :=
  match state.processes id with
  | some ⟨role, .waiting candidate _⟩ => state.conclude id role candidate
  | _ => state

/-- The stale value absorbs an exception of the rebuild. -/
def wake (id : Nat) : CachedState :=
  match state.processes id with
  | some ⟨role, .resolved candidate result⟩ => state.conclude id role (result.or candidate)
  | _ => state

def store (entry : Entry) (version write : Nat) : CachedState :=
  if config.tiered then
    let next := { state with l1 := some (.envelope version entry) }
    if config.retryAttempts = 0 then next
    else
      { next with writes := state.writes.put write (.envelope version entry, config.retryAttempts) }
  else { state with l1 := some (.raw entry) }

def finish (id : Nat) (result : Option Value) (ttl : Option Int) (version write : Nat) :
    CachedState :=
  match state.processes id with
  | some ⟨.rebuild, .running execution⟩ =>
    match result with
    | none => state.settle id none
    | some value =>
      let produced : Produced := ⟨execution, value⟩
      if config.accepts value then
        (state.store config (config.wrap state.clock ttl produced) version write).settle id
          (some produced)
      else state.settle id (some produced)
  | _ => state

def retry (write : Nat) (stored : Stored Entry) (attempts : Nat) : CachedState :=
  if attempts ≤ 1 then { state with writes := state.writes.remove write }
  else { state with writes := state.writes.put write (stored, attempts - 1) }

def attempt (write : Nat) (reply : WriteReply) : CachedState :=
  match state.writes write with
  | some (stored, attempts) =>
    match reply with
    | .written => { state with l2 := some stored, writes := state.writes.remove write }
    | .lost => { state with l2 := some stored }.retry write stored attempts
    | .failed => state.retry write stored attempts
  | none => state

/-- `cache_invalidate`: a local entry is dropped at once, a tiered one by a scheduled clear.
Outside an event loop nothing is scheduled. -/
def invalidate (id : Nat) (loopRunning : Bool) : CachedState :=
  let next := { state with floor := state.executions }
  if config.tiered then
    if loopRunning then { next with clears := state.clears.put id .scheduled } else next
  else { next with l1 := none }

def startClear (id version : Nat) : CachedState :=
  match state.clears id with
  | some .scheduled =>
    { state with
      l1 := some (.tombstone version)
      clears := state.clears.put id (.writing version) }
  | _ => state

def writeTombstone (id : Nat) (succeeds : Bool) : CachedState :=
  match state.clears id with
  | some (.writing version) =>
    let next := { state with clears := state.clears.remove id }
    if succeeds then { next with l2 := some (.tombstone version) } else next
  | _ => state

/-- A caller can be cancelled, the shared rebuild never is. -/
def cancel (id : Nat) : CachedState :=
  match state.processes id with
  | some ⟨.call _, _⟩ => { state with processes := state.processes.remove id }
  | _ => state

end CachedState

def CachedState.step (config : CachedConfig) (state : CachedState) : CachedOp → CachedState
  | .call id =>
    if (state.processes id).isSome then state else state.lookup config id (.call state.floor)
  | .startRebuild id => state.startRebuild config id
  | .serve id reply => state.serve config id reply
  | .resume id version => state.resume config id version
  | .rejected id succeeds => state.rejected id succeeds
  | .join id task => state.join id task
  | .timeout id => state.timeout id
  | .wake id => state.wake id
  | .finish id result ttl version write =>
    if (state.writes write).isSome then state
    else state.finish config id result ttl version write
  | .attempt write reply => state.attempt write reply
  | .invalidate id loopRunning =>
    if (state.clears id).isSome then state else state.invalidate config id loopRunning
  | .startClear id version => state.startClear id version
  | .writeTombstone id succeeds => state.writeTombstone id succeeds
  | .cancel id => state.cancel id
  | .loseOwn => { state with l1 := none }
  | .loseShared => { state with l2 := none }
  | .tick elapsed => { state with clock := state.clock + elapsed }

def CachedState.start : CachedState where
  l1 := none
  l2 := none
  clock := 0
  executions := 0
  processes := .empty
  current := none
  writes := .empty
  clears := .empty
  floor := 0
  answers := []

end Dynastore.Caching
