import Dynastore.Foundation.Counter
import Dynastore.Foundation.Pool
import Dynastore.Foundation.Value

/-! One process that resolves the bindings of a principal through a cache keyed by binding versions.
The versions live in a shared store, and the process keeps each for a moment in a memo of its own.
Without a shared store a bump does nothing and every version is 0. The calls run interleaved: each
step of the machine is what a call does between two points where it waits. -/

namespace Dynastore.Iam

/-- Bindings with the versions of the store at the time the resolver read them. -/
structure Resolved where
  bindings : Value
  versions : String → Nat

/-- `_VERSION_L1_TTL`, in milliseconds. -/
def versionTtl : Int := 2000

def resolutionKey (provider subjectId schema : String) (platform catalog : Nat) : String :=
  "iam:phantom:" ++ provider ++ ":" ++ subjectId ++ ":" ++ schema ++ ":" ++ toString platform ++
    ":" ++ toString catalog

/-- What becomes of a version that was read: the answer of the call, or the platform's or the
catalog's part of a resolution key. -/
inductive Use where
  | answer
  | platform (schema : String)
  | catalog (platform : Nat)

inductive PhantomStage where
  /-- `get_count`, with the value once the store has served it. -/
  | reading (schema : String) (fetched : Option Nat) (use : Use)
  /-- `incr`, with the version the bump leads to once the store was asked. -/
  | bumping (schema : String) (target : Option Nat)
  | lookingUp (schema : String) (platform catalog : Nat)
  | resolving (schema : String) (platform catalog : Nat)
  /-- The resolver runs for a call that found no shared store. -/
  | direct (schema : String)
  | storing (schema : String) (platform catalog : Nat) (result : Resolved)

structure PhantomCall where
  since : String → Nat
  stage : PhantomStage

inductive PhantomAnswer where
  | version (schema : String) (value : Nat) (since : String → Nat)
  | bindings (schema : String) (result : Resolved) (since : String → Nat)

/-- The shared store with the versions and the cached resolutions, and the process with its
memo, its calls and what they answered; `backend` says whether `_distributed_backend` finds the
store. `floors` has the version that the completed bumps of each schema lead to; no call reads
it. -/
structure PhantomState where
  backend : Bool
  versions : Counter String
  entries : List (String × Resolved)
  memo : String → Option (Nat × Int)
  clock : Int
  calls : Pool PhantomCall
  floors : String → Nat
  answers : List PhantomAnswer

/-- How the store answers a read of a version: with the counter, with nothing where the
backend swallows an error, or with an exception. -/
inductive ReadReply where
  | counter
  | nothing
  | raised
deriving DecidableEq

inductive PhantomOp where
  | getVersion (id : Nat) (schema : String)
  | bump (id : Nat) (schema : String)
  | resolve (id : Nat) (schema : String)
  /-- The store serves a version read. -/
  | serve (id : Nat) (reply : ReadReply)
  /-- The reply reaches the call. -/
  | resume (id : Nat)
  | increment (id : Nat) (succeeds : Bool)
  /-- A bump evicts the memo and returns. -/
  | evict (id : Nat)
  /-- The resolution cache answers; a hit is any of the payloads set under the key. -/
  | lookup (id : Nat) (hit : Option Nat)
  | runResolver (id : Nat) (bindings : Value)
  /-- The payload is set, unless that fails, and the call returns. -/
  | finish (id : Nat) (stored : Bool)
  | cancel (id : Nat)
  | tick (elapsed : Nat)
  /-- Entries expire or are evicted. -/
  | expire (lost : String → Bool)
  /-- The shared store is registered, or is gone. -/
  | register (present : Bool)

namespace PhantomState

variable (state : PhantomState)

def answer (id : Nat) (answer : PhantomAnswer) : PhantomState :=
  { state with calls := state.calls.remove id, answers := answer :: state.answers }

def wait (id : Nat) (since : String → Nat) (stage : PhantomStage) : PhantomState :=
  { state with calls := state.calls.put id ⟨since, stage⟩ }

def memoized (schema : String) : Option Nat :=
  match state.memo schema with
  | some (value, at_) => if state.clock - at_ < versionTtl then some value else none
  | none => none

/-- The version that `get_binding_version` returns without a question to the store. -/
def known (schema : String) : Option Nat :=
  if state.backend then state.memoized schema else some 0

/-- The catalog's version of a resolution; the platform's own schema has only one. -/
def readCatalog (id : Nat) (since : String → Nat) (schema : String) (platform : Nat) :
    PhantomState :=
  if schema = "" ∨ schema = "iam" then state.wait id since (.lookingUp schema platform platform)
  else
    match state.known schema with
    | some catalog => state.wait id since (.lookingUp schema platform catalog)
    | none => state.wait id since (.reading schema none (.catalog platform))

/-- `get_binding_version` returned. -/
def useVersion (id : Nat) (since : String → Nat) (schema : String) (value : Nat) :
    Use → PhantomState
  | .answer => state.answer id (.version schema value since)
  | .platform target => state.readCatalog id since target value
  | .catalog platform => state.wait id since (.lookingUp schema platform value)

def getBindingVersion (id : Nat) (since : String → Nat) (schema : String) (use : Use) :
    PhantomState :=
  match state.known schema with
  | some value => state.useVersion id since schema value use
  | none => state.wait id since (.reading schema none use)

def serve (id : Nat) (reply : ReadReply) : PhantomState :=
  match state.calls id with
  | some ⟨since, .reading schema none use⟩ =>
    match reply with
    | .counter =>
      state.wait id since (.reading schema (some (state.versions.count schema)) use)
    | .nothing => state.wait id since (.reading schema (some 0) use)
    | .raised => state.useVersion id since schema 0 use
  | _ => state

def memoize (schema : String) (value : Nat) : PhantomState :=
  { state with
    memo := fun other => if other = schema then some (value, state.clock) else state.memo other }

def resume (id : Nat) : PhantomState :=
  match state.calls id with
  | some ⟨since, .reading schema (some value) use⟩ =>
    (state.memoize schema value).useVersion id since schema value use
  | _ => state

def increment (id : Nat) (succeeds : Bool) : PhantomState :=
  match state.calls id with
  | some ⟨since, .bumping schema none⟩ =>
    { state with
      versions := if succeeds then state.versions.add schema 1 else state.versions
      calls := state.calls.put id
        ⟨since, .bumping schema (some (state.versions.count schema + 1))⟩ }
  | _ => state

def evictMemo (schema : String) : PhantomState :=
  { state with memo := fun other => if other = schema then none else state.memo other }

/-- A bump returned. -/
def bumped (schema : String) (target : Nat) : PhantomState :=
  { state with
    floors := fun other =>
      if other = schema then max (state.floors schema) target else state.floors other }

def bump (id : Nat) (schema : String) : PhantomState :=
  if state.backend then state.wait id state.floors (.bumping schema none)
  else state.bumped schema (state.versions.count schema + 1)

def evict (id : Nat) : PhantomState :=
  match state.calls id with
  | some ⟨_, .bumping schema (some target)⟩ =>
    { (state.evictMemo schema).bumped schema target with calls := state.calls.remove id }
  | _ => state

def cancel (id : Nat) : PhantomState :=
  match state.calls id with
  | some ⟨_, .bumping schema _⟩ =>
    { state.evictMemo schema with calls := state.calls.remove id }
  | _ => { state with calls := state.calls.remove id }

def runResolver (id : Nat) (bindings : Value) : PhantomState :=
  match state.calls id with
  | some ⟨since, .resolving schema platform catalog⟩ =>
    state.wait id since (.storing schema platform catalog ⟨bindings, state.versions.count⟩)
  | some ⟨since, .direct schema⟩ =>
    state.answer id (.bindings schema ⟨bindings, state.versions.count⟩ since)
  | _ => state

variable (provider subjectId : String)

def payloads (schema : String) (platform catalog : Nat) : List Resolved :=
  (state.entries.filter (·.1 = resolutionKey provider subjectId schema platform catalog)).map
    Prod.snd

def lookup (id : Nat) (hit : Option Nat) : PhantomState :=
  match state.calls id with
  | some ⟨since, .lookingUp schema platform catalog⟩ =>
    match hit.bind fun index =>
      (state.payloads provider subjectId schema platform catalog)[index]? with
    | some result => state.answer id (.bindings schema result since)
    | none => state.wait id since (.resolving schema platform catalog)
  | _ => state

def finish (id : Nat) (stored : Bool) : PhantomState :=
  match state.calls id with
  | some ⟨since, .storing schema platform catalog result⟩ =>
    let entry := (resolutionKey provider subjectId schema platform catalog, result)
    { state with
      entries := if stored then entry :: state.entries else state.entries
      calls := state.calls.remove id
      answers := .bindings schema result since :: state.answers }
  | _ => state

end PhantomState

def PhantomState.step (provider subjectId : String) (state : PhantomState) :
    PhantomOp → PhantomState
  | .getVersion id schema =>
    if (state.calls id).isSome then state
    else state.getBindingVersion id state.floors schema .answer
  | .bump id schema =>
    if (state.calls id).isSome then state
    else state.bump id schema
  | .resolve id schema =>
    if (state.calls id).isSome then state
    else if state.backend then state.getBindingVersion id state.floors "iam" (.platform schema)
    else state.wait id state.floors (.direct schema)
  | .serve id reply => state.serve id reply
  | .resume id => state.resume id
  | .increment id succeeds => state.increment id succeeds
  | .evict id => state.evict id
  | .lookup id hit => state.lookup provider subjectId id hit
  | .runResolver id bindings => state.runResolver id bindings
  | .finish id stored => state.finish provider subjectId id stored
  | .cancel id => state.cancel id
  | .tick elapsed => { state with clock := state.clock + elapsed }
  | .expire lost => { state with entries := state.entries.filter fun entry => !lost entry.1 }
  | .register present => { state with backend := present }

/-- A process before its first call, with a store that has versions and no resolutions. -/
def PhantomState.start (backend : Bool) (versions : Counter String) : PhantomState where
  backend := backend
  versions := versions
  entries := []
  memo _ := none
  clock := 0
  calls := .empty
  floors _ := 0
  answers := []

end Dynastore.Iam
