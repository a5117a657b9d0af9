import Dynastore.Caching.Key

/-! A decorated function with all its keys, over the store of its process and the shared tier. The
calls of this machine follow one another: what runs at the same time as a clear is the subject of
single invalidations. -/

namespace Dynastore.Caching

/-- The server behind L2. `globs` is its match of a pattern; a pattern without special
characters in front of a star stands for what starts with it. -/
structure ValkeyServer where
  keyStart : String
  globs : String → String → Bool
  literal : ∀ text key, (∀ symbol ∈ text.toList, symbol ∉ "*?[]\\".toList) →
    globs (text ++ "*") key = startsWith text key

inductive GroupClear where
  | all
  | below (sub : String)
deriving DecidableEq

/-- Whether a clear is called inside an event loop, and whether L2 carries it out. -/
structure Occasion where
  loopRunning : Bool
  sharedAnswers : Bool

structure Network where
  reads : Bool
  clears : Bool
  writes : Bool

inductive Attempt where
  | returned (value : Value) (ttl : Option Int)
  | raised
  /-- The caller gives up before the function has run. -/
  | timedOut

structure GroupAnswer where
  arguments : List Argument
  /-- The function ran for this call. -/
  ran : Bool
  produced : Produced

/-- `resolved` is whether the backend is tiered, once it is resolved, and `current` whether that
was in the present `_backend_generation`; `own` is its store in the process. -/
structure GroupState where
  resolved : Option Bool
  current : Bool
  registered : Bool
  own : String → Option (Stored Entry)
  shared : String → Option (Stored Entry)
  clock : Int
  executions : Nat
  answers : List GroupAnswer

inductive GroupOp where
  | call (arguments : List Argument) (network : Network) (version : Nat) (attempt : Attempt)
  | loseOwn (lost : String → Bool)
  | loseShared (lost : String → Bool)
  | tick (elapsed : Nat)
  /-- A shared backend is registered or unregistered. -/
  | changeBackend (registered : Bool)

namespace CachedFunction

variable (function : CachedFunction)

/-- The sync wrapper stores results bare and knows no stale values. -/
def policy : StalePolicy :=
  if function.isAsync then function.toStalePolicy else { function.toStalePolicy with grace := 0 }

def group : GroupClear → String
  | .all => function.ns
  | .below sub => sub

/-- A sync function has no `cache_clear_prefix`. -/
def offers : GroupClear → Bool
  | .all => true
  | .below _ => function.isAsync

def sweepsOwn (tiered : Bool) (occasion : Occasion) (clear : GroupClear) (key : String) : Bool :=
  if function.isAsync then
    if tiered then
      occasion.loopRunning && startsWith (function.keyMark ++ function.group clear ++ ":") key
    else
      match clear with
      | .all => true
      | .below sub => startsWith (function.keyMark ++ sub ++ "|") key
  else
    match clear with
    | .all => startsWith (function.ns ++ ":") key
    | .below _ => false

def sweepsShared (server : ValkeyServer) (occasion : Occasion) (clear : GroupClear)
    (key : String) : Bool :=
  occasion.loopRunning && occasion.sharedAnswers &&
    server.globs (server.keyStart ++ (function.keyMark ++ function.group clear) ++ "|*")
      (server.keyStart ++ key)

end CachedFunction

namespace GroupState

variable (function : CachedFunction) (state : GroupState)

/-- A call resolves the backend first: at the first call, and after a change of backend. -/
def outdated : Bool :=
  match state.resolved with
  | none => true
  | some _ => function.isAsync && function.distributed && !state.current

/-- `_resolve_backend`, with an empty store in the process. -/
def resolve : GroupState :=
  if state.outdated function then
    { state with
      resolved := some (function.isAsync && function.distributed && state.registered)
      current := true
      own := fun _ => none }
  else state

def usesShared : Bool :=
  state.resolved.getD false

def setOwn (key : String) (stored : Option (Stored Entry)) : GroupState :=
  { state with own := fun other => if other = key then stored else state.own other }

def setShared (key : String) (stored : Stored Entry) : GroupState :=
  { state with shared := fun other => if other = key then some stored else state.shared other }

def read (network : Network) (key : String) : TieredRead Entry :=
  if state.usesShared then
    tieredRead (state.own key) (if network.reads then state.shared key else none)
  else ⟨(state.own key).bind Stored.payload, none⟩

def clearKey (network : Network) (version : Nat) (key : String) : GroupState :=
  if state.usesShared then
    let next := state.setOwn key (some (.tombstone version))
    if network.clears then next.setShared key (.tombstone version) else next
  else state.setOwn key none

def store (network : Network) (version : Nat) (key : String) (entry : Entry) : GroupState :=
  if state.usesShared then
    let next := state.setOwn key (some (.envelope version entry))
    if network.writes then next.setShared key (.envelope version entry) else next
  else state.setOwn key (some (.raw entry))

def answer (arguments : List Argument) (ran : Bool) (produced : Produced) : GroupState :=
  { state with answers := ⟨arguments, ran, produced⟩ :: state.answers }

def fallBack (arguments : List Argument) (ran : Bool) : Option Produced → GroupState
  | some candidate => state.answer arguments ran candidate
  | none => state

def rebuild (arguments : List Argument) (key : String) (network : Network) (version : Nat)
    (candidate : Option Produced) : Attempt → GroupState
  | .returned value ttl =>
    let produced : Produced := ⟨state.executions, value⟩
    let next := { state with executions := state.executions + 1 }
    if function.accepts value then
      (next.store network version key
        (function.policy.wrap state.clock ttl produced)).answer arguments true produced
    else next.answer arguments true produced
  | .raised =>
    { state with executions := state.executions + 1 }.fallBack arguments true candidate
  | .timedOut => state.fallBack arguments false candidate

def refresh (key : String) (read : TieredRead Entry) : GroupState :=
  match read.refresh with
  | some stored => state.setOwn key (some stored)
  | none => state

def callResolved (arguments : List Argument) (key : String) (network : Network) (version : Nat)
    (attempt : Attempt) : GroupState :=
  let read := state.read network key
  let next := state.refresh key read
  match function.policy.examine state.clock read.returned with
  | .hit produced => next.answer arguments false produced
  | .rejected =>
    (next.clearKey network version key).rebuild function arguments key network version
      none attempt
  | .missed candidate =>
    next.rebuild function arguments key network version candidate attempt

/-- `cache_clear` or `cache_clear_prefix`, with the clear that it schedules carried out. An
unresolved backend is passed over. -/
def clearGroup (server : ValkeyServer) (occasion : Occasion) (clear : GroupClear) : GroupState :=
  match state.resolved with
  | none => state
  | some tiered =>
    { state with
      own := fun key =>
        if function.sweepsOwn tiered occasion clear key then none else state.own key
      shared := fun key =>
        if tiered && function.sweepsShared server occasion clear key then none
        else state.shared key }

end GroupState

def GroupState.step (function : CachedFunction) (digest : Digest) (state : GroupState) :
    GroupOp → GroupState
  | .call arguments network version attempt =>
    (state.resolve function).callResolved function arguments
      (function.buildKey digest arguments) network version attempt
  | .loseOwn lost => { state with own := fun key => if lost key then none else state.own key }
  | .loseShared lost =>
    { state with shared := fun key => if lost key then none else state.shared key }
  | .tick elapsed => { state with clock := state.clock + elapsed }
  | .changeBackend registered => { state with registered, current := false }

end Dynastore.Caching
