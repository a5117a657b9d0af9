import Dynastore.Foundation.Counter
import Dynastore.Foundation.Execution

/-! The counters behind rate limits and lifetime quotas. `LayeredUsageCounter` decides a call on
Valkey, falls back to PostgreSQL where Valkey raises, and writes the increments of Valkey through to
PostgreSQL, at once for a lifetime quota and by a buffer for a rate window. -/

namespace Dynastore.Iam

/-! ## Buckets and keys -/

/-- A call of `incr_if_below`. A window that is missing or not positive marks a lifetime
quota. -/
structure UsageCall where
  policyId : String
  principalKey : String
  windowSeconds : Option Int
  amount : Nat
  limit : Nat
deriving DecidableEq

structure BucketKey where
  policyId : String
  principalKey : String
  windowStart : Int
deriving DecidableEq

def isLifetime (windowSeconds : Option Int) : Bool :=
  windowSeconds.all (· ≤ 0)

def bucketFor (windowSeconds : Option Int) (now : Int) : Int :=
  match windowSeconds with
  | none => 0
  | some window => if window ≤ 0 then 0 else now / window * window

def UsageCall.bucketKey (call : UsageCall) (now : Int) : BucketKey :=
  ⟨call.policyId, call.principalKey, bucketFor call.windowSeconds now⟩

def BucketKey.valkeyKey (key : BucketKey) : String :=
  "uc:" ++ key.policyId ++ ":" ++ key.principalKey ++ ":" ++ toString key.windowStart

/-! ## The two stores -/

def valkeyIncrIfBelow (counter : Counter String) (key : String) (limit amount : Nat) :
    Decision String :=
  if counter.count key + amount > limit then ⟨counter, counter.count key, false⟩
  else ⟨counter.add key amount, counter.count key + amount, true⟩

def postgresIncr (rows : Counter BucketKey) (key : BucketKey) (amount : Nat) : Counter BucketKey :=
  rows.add key amount

/-- `_INCR_IF_BELOW`: the cap guards the inserted row and the updated one. -/
def postgresIncrIfBelow (rows : Counter BucketKey) (key : BucketKey) (limit amount : Nat) :
    Decision BucketKey :=
  if amount ≤ limit then
    match rows key with
    | none => ⟨rows.add key amount, amount, true⟩
    | some count =>
      if count + amount ≤ limit then ⟨rows.add key amount, count + amount, true⟩
      else ⟨rows, count, false⟩
  else ⟨rows, rows.count key, false⟩

/-! Both stores decide alike. -/

theorem valkeyIncrIfBelow_eq :
    valkeyIncrIfBelow counter key limit amount = counter.incrIfBelow key limit amount := by
  unfold valkeyIncrIfBelow Counter.incrIfBelow
  by_cases fits : counter.count key + amount ≤ limit
  · rw [if_neg (by omega), if_pos fits]
  · rw [if_pos (by omega), if_neg fits]

theorem postgresIncrIfBelow_eq :
    postgresIncrIfBelow rows key limit amount = rows.incrIfBelow key limit amount := by
  unfold postgresIncrIfBelow Counter.incrIfBelow
  cases stored : rows key with
  | none =>
    have counted : rows.count key = 0 := by simp [Counter.count, stored]
    simp [counted]
  | some count =>
    have counted : rows.count key = count := by simp [Counter.count, stored]
    rw [counted]
    by_cases fits : count + amount ≤ limit
    · have capped : amount ≤ limit := by omega
      simp [fits, capped]
    · simp [fits]

/-! ## The layered counter -/

/-- How a request to a store ends: with an answer, unprocessed, or processed with the answer
lost. -/
inductive Reply where
  | answered
  | failed
  | lost
deriving DecidableEq

/-- What an admitted or undecided call still waits for. -/
inductive Stage where
  | fallback
  | writeThrough
deriving DecidableEq

structure InFlight where
  process : Nat
  call : UsageCall
  stage : Stage
deriving DecidableEq

/-- The stores that the processes share, their calls in flight, the deltas each has buffered,
and the calls that returned `allowed`. -/
structure LayeredState where
  valkey : Counter String
  postgres : Counter BucketKey
  inFlight : List InFlight
  buffers : Nat → List UsageCall
  admitted : List UsageCall

inductive LayeredOp where
  /-- A call reaches Valkey. -/
  | begin (process : Nat) (call : UsageCall) (now : Int) (reply : Reply)
  /-- A call whose request to Valkey raised is decided by PostgreSQL. -/
  | fallBack (entry : InFlight) (now : Int) (reply : Reply)
  /-- A call that Valkey admitted records its delta and returns. -/
  | record (entry : InFlight) (now : Int) (reply : Reply)
  /-- A call is cancelled. -/
  | cancel (entry : InFlight)
  /-- A process writes its buffer, where some of the writes may fail. -/
  | flush (process : Nat) (now : Int) (fails : String × String × Option Int → Bool)
  | restart (process : Nat)
  /-- Valkey loses keys by a restart, an eviction or an expiry. -/
  | loseValkey (lost : String → Bool)

namespace LayeredState

variable (state : LayeredState)

def begin (process : Nat) (call : UsageCall) (now : Int) : Reply → LayeredState
  | .failed => { state with inFlight := ⟨process, call, .fallback⟩ :: state.inFlight }
  | reply =>
    let decided := valkeyIncrIfBelow state.valkey (call.bucketKey now).valkeyKey call.limit
      call.amount
    if reply = .lost then
      { state with
        valkey := decided.counter
        inFlight := ⟨process, call, .fallback⟩ :: state.inFlight }
    else if decided.allowed then
      { state with
        valkey := decided.counter
        inFlight := ⟨process, call, .writeThrough⟩ :: state.inFlight }
    else { state with valkey := decided.counter }

def leave (entry : InFlight) : LayeredState :=
  { state with inFlight := state.inFlight.erase entry }

def fallBack (entry : InFlight) (now : Int) (reply : Reply) : LayeredState :=
  let decided := postgresIncrIfBelow state.postgres (entry.call.bucketKey now) entry.call.limit
    entry.call.amount
  match reply with
  | .failed => state.leave entry
  | .lost => { state.leave entry with postgres := decided.counter }
  | .answered =>
    if decided.allowed then
      { state.leave entry with
        postgres := decided.counter
        admitted := entry.call :: state.admitted }
    else { state.leave entry with postgres := decided.counter }

/-- `_record_pg_delta`, whose failure is logged and does not reach the caller. -/
def record (entry : InFlight) (now : Int) (reply : Reply) : LayeredState :=
  let returned := { state.leave entry with admitted := entry.call :: state.admitted }
  if isLifetime entry.call.windowSeconds then
    if reply = .failed then returned
    else
      { returned with
        postgres := postgresIncr state.postgres (entry.call.bucketKey now) entry.call.amount }
  else
    { returned with
      buffers := fun process =>
        if process = entry.process then state.buffers process ++ [entry.call]
        else state.buffers process }

/-- `_flush_to_postgres`, which writes the deltas of one counter as their sum. -/
def flush (process : Nat) (now : Int) (fails : String × String × Option Int → Bool) :
    LayeredState :=
  { state with
    postgres := ((state.buffers process).filter
        fun call => !fails (call.policyId, call.principalKey, call.windowSeconds)).foldl
      (fun rows call => postgresIncr rows (call.bucketKey now) call.amount) state.postgres
    buffers := fun other => if other = process then [] else state.buffers other }

def restart (process : Nat) : LayeredState :=
  { state with
    inFlight := state.inFlight.filter (·.process ≠ process)
    buffers := fun other => if other = process then [] else state.buffers other }

def step : LayeredOp → LayeredState
  | .begin process call now reply =>
    -- an amount that is not positive raises
    if call.amount = 0 then state else state.begin process call now reply
  | .fallBack entry now reply =>
    if entry ∈ state.inFlight ∧ entry.stage = .fallback then state.fallBack entry now reply
    else state
  | .record entry now reply =>
    if entry ∈ state.inFlight ∧ entry.stage = .writeThrough then state.record entry now reply
    else state
  | .cancel entry => state.leave entry
  | .flush process now fails => state.flush process now fails
  | .restart process => state.restart process
  | .loseValkey lost => { state with valkey := state.valkey.drop lost }

end LayeredState

end Dynastore.Iam
