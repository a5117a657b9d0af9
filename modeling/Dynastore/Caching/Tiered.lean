import Dynastore.Foundation.Pool
import Dynastore.Foundation.Value

/-! Several instances, each with a tier of its own in the process, over one shared tier. The machine
follows one key, since no operation on a key touches another. Calls run interleaved: each step is
what a call, or a background write, does between two points where it waits. -/

namespace Dynastore.Caching

/-- What a tier holds under a key: a version envelope, a tombstone, or a value that was written
without an envelope. -/
inductive Stored (Payload : Type u) where
  | envelope (version : Nat) (payload : Payload)
  | tombstone (version : Nat)
  | raw (payload : Payload)

variable {Payload : Type u}

/-- `_ev_parse`: the version, and the value unless it is a tombstone. -/
def evParse : Stored Payload → Nat × Option Payload
  | .envelope version payload => (version, some payload)
  | .tombstone version => (version, none)
  | .raw payload => (0, some payload)

def Stored.version (stored : Stored Payload) : Nat := (evParse stored).1

def Stored.payload (stored : Stored Payload) : Option Payload := (evParse stored).2

/-- What a read of both tiers comes to: the value returned, and what is written to L1 on the
way. -/
structure TieredRead (Payload : Type u) where
  returned : Option Payload
  refresh : Option (Stored Payload)

def readShared (own : Option (Stored Payload)) (shared : Stored Payload) : TieredRead Payload :=
  match shared.payload with
  | some payload => ⟨some payload, some (.envelope shared.version payload)⟩
  | none =>
    -- the tombstone replaces a value in L1, so that it is not served later
    if (own.bind Stored.payload).isSome then ⟨none, some (.tombstone shared.version)⟩
    else ⟨none, none⟩

def tieredRead : Option (Stored Payload) → Option (Stored Payload) → TieredRead Payload
  | none, none => ⟨none, none⟩
  | some own, none => ⟨own.payload, none⟩
  | none, some shared => readShared none shared
  | some own, some shared =>
    if own.version ≤ shared.version then readShared (some own) shared else ⟨own.payload, none⟩

section Reads

variable {own shared : Option (Stored Payload)} {payload : Payload}

theorem returned_of_tieredRead (returned : (tieredRead own shared).returned = some payload) :
    (∃ stored, shared = some stored ∧ stored.payload = some payload) ∨
      ∃ stored, own = some stored ∧ stored.payload = some payload ∧
        ∀ other, shared = some other → ¬ stored.version ≤ other.version := by
  have ofShared : ∀ own (stored : Stored Payload),
      (readShared own stored).returned = some payload → stored.payload = some payload := by
    intro own _ returned
    unfold readShared at returned
    split at returned
    next found =>
      cases returned
      exact found
    · split at returned <;> cases returned
  match own, shared with
  | none, none => cases returned
  | some own, none => exact .inr ⟨own, rfl, returned, nofun⟩
  | none, some shared => exact .inl ⟨shared, rfl, ofShared none shared returned⟩
  | some own, some shared =>
    rw [tieredRead] at returned
    split at returned
    · exact .inl ⟨shared, rfl, ofShared _ shared returned⟩
    next newer =>
      refine .inr ⟨own, rfl, returned, ?_⟩
      rintro _ ⟨⟩
      exact newer

theorem refresh_of_tieredRead (refreshed : (tieredRead own shared).refresh = some stored)
    (value : stored.payload = some payload) :
    ∃ other, shared = some other ∧ other.payload = some payload ∧
      stored.version = other.version := by
  have ofShared : ∀ own (other : Stored Payload), (readShared own other).refresh = some stored →
      other.payload = some payload ∧ stored.version = other.version := by
    intro own _ refreshed
    unfold readShared at refreshed
    split at refreshed
    next found =>
      cases refreshed
      exact ⟨found.trans value, rfl⟩
    · split at refreshed
      · cases refreshed
        cases value
      · cases refreshed
  match own, shared with
  | none, none => cases refreshed
  | some own, none => cases refreshed
  | none, some shared => exact ⟨shared, rfl, ofShared none shared refreshed⟩
  | some own, some shared =>
    rw [tieredRead] at refreshed
    split at refreshed
    · exact ⟨shared, rfl, ofShared _ shared refreshed⟩
    · cases refreshed

end Reads

/-! ## Instances -/

/-- A value with the number of the `set` call that wrote it. -/
structure Written where
  call : Nat
  value : Value

/-- A background write to L2. `attempts` are left. -/
structure Write where
  written : Written
  exist : Option Bool
  attempts : Nat

inductive TieredCall where
  /-- A read that has seen L1 and waits for L2. -/
  | asking (node since : Nat) (own : Option (Stored Written))
  /-- The same with the reply of L2. -/
  | answered (node since : Nat) (own shared : Option (Stored Written))
  /-- A clear that waits for its tombstone in L2. -/
  | clearing (number : Nat)

/-- What a read returned, and the number of the latest clear whose tombstone was written when
it started. -/
structure TieredAnswer where
  since : Nat
  returned : Option Written

/-- `begun` is the number of the next `set` or `clear` call, and `floor` that of the latest
clear whose tombstone has been written to L2; no call reads `floor`. -/
structure TieredState where
  l1 : Nat → Option (Stored Written)
  l2 : Option (Stored Written)
  begun : Nat
  calls : Pool TieredCall
  writes : Pool Write
  floor : Nat
  answers : List TieredAnswer

/-- How L2 answers a read: with what it holds, with nothing where the backend swallows an
error, or with an exception. -/
inductive SharedReply where
  | held
  | nothing
  | raised
deriving DecidableEq

/-- How an attempt to write L2 ends. A reply can be lost after the write was made. -/
inductive WriteReply where
  | written
  | lost
  | failed
deriving DecidableEq

inductive TieredOp where
  | get (id node : Nat)
  | serve (id : Nat) (reply : SharedReply)
  | resume (id : Nat)
  /-- A `set`, whose write to L2 has an id of its own. -/
  | set (write node : Nat) (value : Value) (exist : Option Bool)
  | attempt (write : Nat) (reply : WriteReply)
  | clear (id node : Nat)
  | writeTombstone (id : Nat) (succeeds : Bool)
  | cancel (id : Nat)
  /-- The entry expires or is evicted. -/
  | loseOwn (node : Nat)
  | loseShared

/-- How a backend is set up: `timeNs n` is the clock at the start of the call with number `n`. -/
structure TieredConfig where
  timeNs : Nat → Nat
  retryAttempts : Nat
  requiredL2 : Bool

def permits (exist : Option Bool) (present : Bool) : Bool :=
  exist.all (· == present)

namespace TieredState

variable (state : TieredState)

def setOwn (node : Nat) (stored : Option (Stored Written)) : TieredState :=
  { state with l1 := fun other => if other = node then stored else state.l1 other }

def answer (id since : Nat) (returned : Option Written) : TieredState :=
  { state with
    calls := state.calls.remove id
    answers := ⟨since, returned⟩ :: state.answers }

def get (id node : Nat) : TieredState :=
  { state with calls := state.calls.put id (.asking node state.floor (state.l1 node)) }

def serve (config : TieredConfig) (id : Nat) (reply : SharedReply) : TieredState :=
  match state.calls id with
  | some (.asking node since own) =>
    match reply with
    | .held => { state with calls := state.calls.put id (.answered node since own state.l2) }
    | .nothing => { state with calls := state.calls.put id (.answered node since own none) }
    | .raised =>
      if config.requiredL2 then { state with calls := state.calls.remove id }
      else state.answer id since (own.bind Stored.payload)
  | _ => state

def resume (id : Nat) : TieredState :=
  match state.calls id with
  | some (.answered node since own shared) =>
    let read := tieredRead own shared
    match read.refresh with
    | some stored => (state.setOwn node (some stored)).answer id since read.returned
    | none => state.answer id since read.returned
  | _ => state

/-- `set`: a conditional write that L1 rejects goes no further. -/
def set (config : TieredConfig) (write node : Nat) (value : Value) (exist : Option Bool) :
    TieredState :=
  let next := { state with begun := state.begun + 1 }
  let written : Written := ⟨state.begun, value⟩
  if permits exist (state.l1 node).isSome then
    let next := next.setOwn node (some (.envelope (config.timeNs state.begun) written))
    -- without attempts the background task ends before its first one
    if config.retryAttempts = 0 then next
    else { next with writes := state.writes.put write ⟨written, exist, config.retryAttempts⟩ }
  else next

/-- An attempt that is reported as failed is repeated while attempts are left. -/
def retry (id : Nat) (write : Write) : TieredState :=
  if write.attempts ≤ 1 then { state with writes := state.writes.remove id }
  else
    { state with writes := state.writes.put id { write with attempts := write.attempts - 1 } }

def writeShared (config : TieredConfig) (written : Written) : TieredState :=
  { state with l2 := some (.envelope (config.timeNs written.call) written) }

def attempt (config : TieredConfig) (id : Nat) (reply : WriteReply) : TieredState :=
  match state.writes id with
  | some write =>
    if permits write.exist state.l2.isSome then
      match reply with
      | .written =>
        { state.writeShared config write.written with writes := state.writes.remove id }
      | .lost => (state.writeShared config write.written).retry id write
      | .failed => state.retry id write
    else state.retry id write
  | none => state

def clear (config : TieredConfig) (id node : Nat) : TieredState :=
  { state.setOwn node (some (.tombstone (config.timeNs state.begun))) with
    begun := state.begun + 1
    calls := state.calls.put id (.clearing state.begun) }

def writeTombstone (config : TieredConfig) (id : Nat) (succeeds : Bool) : TieredState :=
  match state.calls id with
  | some (.clearing number) =>
    if succeeds then
      { state with
        l2 := some (.tombstone (config.timeNs number))
        calls := state.calls.remove id
        floor := max state.floor number }
    else { state with calls := state.calls.remove id }
  | _ => state

end TieredState

def TieredState.step (config : TieredConfig) (state : TieredState) : TieredOp → TieredState
  | .get id node => if (state.calls id).isSome then state else state.get id node
  | .serve id reply => state.serve config id reply
  | .resume id => state.resume id
  | .set write node value exist =>
    if (state.writes write).isSome then state else state.set config write node value exist
  | .attempt write reply => state.attempt config write reply
  | .clear id node => if (state.calls id).isSome then state else state.clear config id node
  | .writeTombstone id succeeds => state.writeTombstone config id succeeds
  | .cancel id => { state with calls := state.calls.remove id }
  | .loseOwn node => state.setOwn node none
  | .loseShared => { state with l2 := none }

/-- Instances before their first call, with at most a value from before the envelopes in
L2. -/
def TieredState.start (found : Option Value) : TieredState where
  l1 _ := none
  l2 := found.map fun value => .raw ⟨0, value⟩
  begun := 1
  calls := .empty
  writes := .empty
  floor := 0
  answers := []

end Dynastore.Caching
