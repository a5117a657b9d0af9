import Dynastore.Caching.Row
import Dynastore.Configs.Effective

/-! `get_config` without a connection reads each tier through a cache of its own and merges what
they answer. `set_config` on its own commits and then invalidates; inside a transaction of its
caller it invalidates and returns before the commit, and `delete_config` invalidates before its
transaction ends in any case. -/

namespace Dynastore.Configs

open Execution Caching

abbrev TierKey := Scope × String

structure ConfigRequest where
  classKey : String
  catalogId : Option String
  collectionId : Option String
deriving DecidableEq

def documentOf : Value → Option Document
  | .dict (entry :: rest) => some (entry :: rest)
  | _ => none

section Requests

variable (classes : Registry) (env : Surroundings) (request : ConfigRequest)

def tierKeys : List TierKey :=
  let catalog := request.catalogId.bind fun catalogId =>
    (env.physSchema catalogId).map fun physSchema => (catalogId, physSchema)
  [(.platform, request.classKey)] ++
    (catalog.toList.flatMap fun (_, physSchema) =>
      [(.catalog physSchema, snapshotRefKey), (.catalog physSchema, request.classKey)]) ++
    (catalog.toList.flatMap fun (catalogId, physSchema) =>
      request.collectionId.toList.map fun collectionId =>
        (.collection physSchema (env.internalId catalogId collectionId), request.classKey))

def platformTier (classKey : String) : Option Document → Except ConfigError PluginConfig
  | some data => validateStoredConfig classes classKey data
  | none => defaultOrRaise classes classKey

def tierDeltas (document : Scope → String → Option Document) : List Document :=
  let catalogDelta := request.catalogId.bind fun catalogId =>
    (env.physSchema catalogId).bind fun physSchema =>
      document (.catalog physSchema) request.classKey
  let collectionDelta := request.catalogId.bind fun catalogId =>
    (env.physSchema catalogId).bind fun physSchema =>
      request.collectionId.bind fun collectionId =>
        document (.collection physSchema (env.internalId catalogId collectionId)) request.classKey
  catalogDelta.toList ++ collectionDelta.toList

def mergeTiers (document : Scope → String → Option Document) : Except ConfigError PluginConfig :=
  match platformTier classes request.classKey (document .platform request.classKey) with
  | .error error => .error error
  | .ok live =>
    match request.catalogId with
    | none => .ok live
    | some catalogId =>
      let snapshot := selectSnapshotBase classes
        ((env.physSchema catalogId).bind fun physSchema =>
          document (.catalog physSchema) snapshotRefKey) request.classKey
      mergeDeltas classes request.classKey (snapshot.getD live) (tierDeltas env request document)

end Requests

/-! ## The service -/

inductive WriteStage where
  /-- The statement has run, and nobody else sees it. -/
  | opened
  | committed
  /-- The cached row is dropped, and the transaction still open. -/
  | cleared

/-- A call that writes a row. `alone` is whether it opened its transaction itself. -/
structure ConfigWrite where
  key : TierKey
  row : Value
  deletes : Bool
  alone : Bool
  stage : WriteStage

def ConfigWrite.early (write : ConfigWrite) : Bool :=
  write.deletes || !write.alone

/-- A read under way, with what the tiers asked of new calls when it started. -/
structure ReadStart where
  request : ConfigRequest
  floor : TierKey → Nat
  required : TierKey → Nat

/-- What a read has returned, and the rows that the tiers answered with. -/
structure Got where
  request : ConfigRequest
  required : TierKey → Nat
  values : List Value
  result : Except ConfigError PluginConfig

structure ServiceState where
  tiers : TierKey → CachedRow
  writes : Pool ConfigWrite
  reads : Pool ReadStart
  memo : ConfigRequest → Option (List Value × Except ConfigError PluginConfig)
  answers : List Got

inductive ServiceOp where
  /-- A step of a call to the cached function of a tier, of its rebuild or of a clear. -/
  | tier (key : TierKey) (op : CachedOp)
  | select (key : TierKey) (id : Nat)
  | finish (key : TierKey) (id : Nat) (succeeds : Bool) (ttl : Option Int) (version write : Nat)
  | set (id : Nat) (key : TierKey) (data : Document) (alone : Bool)
  | delete (id : Nat) (key : TierKey) (alone : Bool)
  | commit (id : Nat)
  | invalidate (id clear : Nat) (loopRunning : Bool)
  /-- A transaction is rolled back, or a delete has found no row. -/
  | abandon (id : Nat)
  | startRead (id : Nat) (request : ConfigRequest)
  /-- A read has an answer of each tier, to a call made since it started. -/
  | finishRead (id : Nat) (pick : TierKey → Nat)
  /-- The validated instance falls out of the memo. -/
  | evict (request : ConfigRequest)

namespace ServiceState

variable (classes : Registry) (env : Surroundings) (state : ServiceState)

def rowOp : ServiceOp → Option (TierKey × RowOp)
  | .tier key op => some (key, .cache op)
  | .select key id => some (key, .select id)
  | .finish key id succeeds ttl version write =>
    some (key, .finish id succeeds ttl version write)
  | .commit id => (state.writes id).bind fun write =>
    match write.stage with
    | .opened => if write.early then none else some (write.key, .commit write.row false)
    | .committed => none
    | .cleared => some (write.key, .commit write.row true)
  | .invalidate id clear loopRunning => (state.writes id).bind fun write =>
    match write.stage with
    | .opened =>
      if write.early then some (write.key, .invalidate clear loopRunning false) else none
    | .committed => some (write.key, .invalidate clear loopRunning true)
    | .cleared => none
  | _ => none

def openWrite (id : Nat) (write : ConfigWrite) : ServiceState :=
  if (state.writes id).isSome then state
  else { state with writes := state.writes.put id write, memo := fun _ => none }

def moveWrite (id : Nat) (stage : WriteStage) (write : ConfigWrite) : ServiceState :=
  { state with writes := state.writes.put id { write with stage } }

def endWrite (id : Nat) : ServiceState :=
  { state with writes := state.writes.remove id }

def commitWrite (id : Nat) : ServiceState :=
  match state.writes id with
  | some write =>
    match write.stage with
    | .opened => if write.early then state else state.moveWrite id .committed write
    | .committed => state
    | .cleared => state.endWrite id
  | none => state

def invalidateWrite (id : Nat) : ServiceState :=
  match state.writes id with
  | some write =>
    match write.stage with
    | .opened => if write.early then state.moveWrite id .cleared write else state
    | .committed => state.endWrite id
    | .cleared => state
  | none => state

def startRead (id : Nat) (request : ConfigRequest) : ServiceState :=
  if (state.reads id).isSome then state
  else
    { state with
      reads := state.reads.put id
        { request
          floor := fun key => (state.tiers key).cached.floor
          required := fun key => (state.tiers key).required } }

/-- The rows that the picked answers of the tiers have, if the calls were made in time. -/
def collect (read : ReadStart) (pick : TierKey → Nat) : Option (List Value) :=
  (tierKeys env read.request).mapM fun key =>
    (((state.tiers key).cached.answers[pick key]?).filter fun answer =>
      read.floor key ≤ answer.since).map (·.produced.value)

def documents (request : ConfigRequest) (values : List Value) (scope : Scope)
    (refKey : String) : Option Document :=
  (((tierKeys env request).zip values).lookup (scope, refKey)).bind documentOf

/-- What a read makes of the rows: a validated instance is served again for the same rows,
and kept where it is one that a tier has changed. -/
def resolve (request : ConfigRequest) (values : List Value) :
    Except ConfigError PluginConfig × Option (List Value × Except ConfigError PluginConfig) :=
  let document := documents env request values
  match (state.memo request).filter (·.1 = values) with
  | some (kept, result) => (result, some (kept, result))
  | none =>
    let result := mergeTiers classes env request document
    (result, if tierDeltas env request document = [] then state.memo request
      else some (values, result))

def finishRead (id : Nat) (pick : TierKey → Nat) : ServiceState :=
  match state.reads id with
  | some read =>
    match state.collect env read pick with
    | some values =>
      let resolved := state.resolve classes env read.request values
      { state with
        reads := state.reads.remove id
        memo := fun other => if other = read.request then resolved.2 else state.memo other
        answers :=
          { request := read.request
            required := read.required
            values
            result := resolved.1 } :: state.answers }
    | none => state
  | none => state

def control : ServiceOp → ServiceState
  | .set id key data alone =>
    state.openWrite id
      { key, row := .dict data, deletes := false, alone, stage := .opened }
  | .delete id key alone =>
    state.openWrite id { key, row := .null, deletes := true, alone, stage := .opened }
  | .commit id => state.commitWrite id
  | .invalidate id _ _ => state.invalidateWrite id
  | .abandon id => state.endWrite id
  | .startRead id request => state.startRead id request
  | .finishRead id pick => state.finishRead classes env id pick
  | .evict request =>
    { state with memo := fun other => if other = request then none else state.memo other }
  | .tier .. | .select .. | .finish .. => state

def step (config : TierKey → CachedConfig) (state : ServiceState) (op : ServiceOp) : ServiceState :=
  match state.rowOp op with
  | some (key, rowOp) =>
    { state.control classes env op with
      tiers := fun other =>
        if other = key then (state.tiers key).step (config key) rowOp else state.tiers other }
  | none => state.control classes env op

def start (rows : TierKey → Value) : ServiceState where
  tiers key := .start (rows key)
  writes := .empty
  reads := .empty
  memo _ := none
  answers := []

end ServiceState

def TierUndisturbed (config : TierKey → CachedConfig) (state : ServiceState) (op : ServiceOp) :
    Prop :=
  ∀ key rowOp, state.rowOp op = some (key, rowOp) → Undisturbed (config key) (state.tiers key) rowOp

/-- The read merges rows that were committed, none older than its tier asked for when the read
started. -/
structure Got.Fresh (got : Got) (classes : Registry) (env : Surroundings)
    (tiers : TierKey → CachedRow) : Prop where
  merged : got.result = mergeTiers classes env got.request
    (ServiceState.documents env got.request got.values)
  reflects : ∀ entry ∈ (tierKeys env got.request).zip got.values,
    ∃ version, got.required entry.1 ≤ version ∧ version ≤ (tiers entry.1).version ∧
      (tiers entry.1).rowAt version = entry.2

/-! ## What every step keeps -/

section Invariant

variable {classes : Registry} {env : Surroundings} {config : TierKey → CachedConfig}
  {state : ServiceState}

structure ServiceInvariant (classes : Registry) (env : Surroundings)
    (config : TierKey → CachedConfig) (state : ServiceState) : Prop where
  tiers : ∀ key, RowInvariant (config key) (state.tiers key)
  reads : state.reads.All fun read =>
    ∀ key, (state.tiers key).Covers (read.floor key) (read.required key)
  memo : ∀ request values result, state.memo request = some (values, result) →
    result = mergeTiers classes env request (ServiceState.documents env request values)
  answers : ∀ got ∈ state.answers, got.Fresh classes env state.tiers

theorem serviceInvariant_start :
    ServiceInvariant classes env config (.start rows) where
  tiers _ := rowInvariant_start
  reads := Pool.all_empty
  memo := nofun
  answers := nofun

structure Controlled (classes : Registry) (env : Surroundings)
    (state next : ServiceState) : Prop where
  tiers : next.tiers = state.tiers
  reads : next.reads.All fun read =>
    ∀ key, (state.tiers key).Covers (read.floor key) (read.required key)
  memo : ∀ request values result, next.memo request = some (values, result) →
    result = mergeTiers classes env request (ServiceState.documents env request values)
  answers : ∀ got ∈ next.answers, got.Fresh classes env state.tiers

theorem ServiceInvariant.controlled_self (inv : ServiceInvariant classes env config state) :
    Controlled classes env state state where
  tiers := rfl
  reads := inv.reads
  memo := inv.memo
  answers := inv.answers

section

variable (controlled : Controlled classes env state state)

include controlled

theorem Controlled.of_writes : Controlled classes env state { state with writes := writes } :=
  { controlled with }

theorem Controlled.openWrite (id : Nat) (write : ConfigWrite) :
    Controlled classes env state (state.openWrite id write) := by
  unfold ServiceState.openWrite
  split
  · exact controlled
  · exact { controlled with memo := nofun }

theorem Controlled.commitWrite
    (id : Nat) : Controlled classes env state (state.commitWrite id) := by
  unfold ServiceState.commitWrite
  split
  next =>
    split
    · split
      · exact controlled
      · exact controlled.of_writes
    · exact controlled
    · exact controlled.of_writes
  · exact controlled

theorem Controlled.invalidateWrite
    (id : Nat) : Controlled classes env state (state.invalidateWrite id) := by
  unfold ServiceState.invalidateWrite
  split
  next =>
    split
    · split
      · exact controlled.of_writes
      · exact controlled
    · exact controlled.of_writes
    · exact controlled
  · exact controlled

end

section

variable (inv : ServiceInvariant classes env config state)

include inv

theorem ServiceInvariant.startRead (id : Nat) (request : ConfigRequest) :
    Controlled classes env state (state.startRead id request) := by
  unfold ServiceState.startRead
  split
  · exact inv.controlled_self
  · exact
      { inv.controlled_self with
        reads := inv.reads.put id fun key => (inv.tiers key).covers }

theorem ServiceInvariant.resolve (request : ConfigRequest) (values : List Value) :
    (state.resolve classes env request values).1 = mergeTiers classes env request
          (ServiceState.documents env request values) ∧
      ∀ kept result, (state.resolve classes env request values).2 = some (kept, result) →
        result = mergeTiers classes env request
          (ServiceState.documents env request kept) := by
  simp only [ServiceState.resolve]
  split
  next kept result found =>
    obtain ⟨stored, same⟩ := Option.filter_eq_some_iff.mp found
    have eq : kept = values := by simpa using same
    have merged := inv.memo request kept result stored
    refine ⟨eq ▸ merged, ?_⟩
    intro _ _ served
    cases served
    exact merged
  · refine ⟨rfl, ?_⟩
    intro kept result remembered
    split at remembered
    · exact inv.memo request kept result remembered
    · cases remembered
      rfl

theorem ServiceInvariant.finishRead (id : Nat) (pick : TierKey → Nat) :
    Controlled classes env state (state.finishRead classes env id pick) := by
  unfold ServiceState.finishRead
  split
  next read started =>
    split
    next values collected =>
      have resolved := inv.resolve read.request values
      refine
        { inv.controlled_self with
          reads := inv.reads.remove id
          memo := ?_
          answers := List.forall_mem_cons.mpr ⟨⟨resolved.1, ?_⟩, inv.answers⟩ }
      · intro request kept result remembered
        simp only at remembered
        split at remembered
        next same =>
          subst same
          exact resolved.2 kept result remembered
        · exact inv.memo request kept result remembered
      · intro entry mem
        have answered := Attempt.of_mem_zip_mapM collected mem
        simp only [Option.map_eq_some_iff, Option.filter_eq_some_iff] at answered
        obtain ⟨_, ⟨given, since⟩, value⟩ := answered
        obtain ⟨version, asked, current, same⟩ :=
          CachedRow.exists_version_of_answer (inv.tiers entry.1)
            (inv.reads id read started entry.1) (List.mem_of_getElem? given)
            (by simpa using since)
        exact ⟨version, asked, current, same.trans value⟩
    · exact inv.controlled_self
  · exact inv.controlled_self

theorem ServiceInvariant.control (op : ServiceOp) :
    Controlled classes env state (state.control classes env op) := by
  have controlled := inv.controlled_self
  cases op with
  | set id key data alone | delete id key alone => exact controlled.openWrite id _
  | commit id => exact controlled.commitWrite id
  | invalidate id => exact controlled.invalidateWrite id
  | abandon => exact controlled.of_writes
  | startRead id request => exact inv.startRead id request
  | finishRead id pick => exact inv.finishRead id pick
  | evict =>
    refine { controlled with memo := ?_ }
    intro other values result remembered
    simp only [ServiceState.control] at remembered
    split at remembered
    · cases remembered
    · exact inv.memo other values result remembered
  | _ => exact controlled

omit inv in
theorem Got.Fresh.extend {got : Got} (fresh : got.Fresh classes env tiers)
    (extend : ∀ key, (tiers key).Extends (later key)) : got.Fresh classes env later where
  merged := fresh.merged
  reflects entry mem := by
    obtain ⟨version, asked, current, same⟩ := fresh.reflects entry mem
    refine ⟨version, asked, Nat.le_trans current (extend entry.1).version, ?_⟩
    rw [(extend entry.1).rowAt version current]
    exact same

theorem ServiceInvariant.step (op : ServiceOp) (undisturbed : TierUndisturbed config state op) :
    ServiceInvariant classes env config
      (state.step classes env config op) := by
  have controlled := inv.control op
  unfold ServiceState.step
  split
  next key rowOp effect =>
    have moved : ∀ other,
        (if other = key then (state.tiers key).step (config key) rowOp else state.tiers other) =
          (if other = key then (state.tiers other).step (config other) rowOp
            else state.tiers other) := by
      intro other
      split
      next same => rw [same]
      · rfl
    have extend : ∀ other, (state.tiers other).Extends
        (if other = key then (state.tiers key).step (config key) rowOp
          else state.tiers other) := by
      intro other
      rw [moved]
      split
      · exact CachedRow.extends_step _
      · exact CachedRow.extends_self
    exact
      { tiers := by
          intro other
          simp only [moved]
          split
          next same =>
            subst same
            exact (inv.tiers other).step rowOp (undisturbed other rowOp effect)
          · exact inv.tiers other
        reads := controlled.reads.imp fun _ _ _ covers other => by
          simp only [moved]
          split
          · exact (covers other).step rowOp
          · exact covers other
        memo := controlled.memo
        answers := fun got mem => (controlled.answers got mem).extend extend }
  · exact
      { tiers := controlled.tiers ▸ inv.tiers
        reads := by
          rw [controlled.tiers]
          exact controlled.reads
        memo := controlled.memo
        answers := by
          rw [controlled.tiers]
          exact controlled.answers }

end

end Invariant

/-! ## Runs -/

def lifetimeClasses : Registry := fun _ =>
  { name := "CachePluginConfig"
    schemaId := "1"
    fields := [⟨"l1_default_ttl_seconds", .mutable, .number "30"⟩]
    extra := .forbid
    constructible := true
    invalid := fun _ => none }

def lifetimeSurroundings : Surroundings where
  physSchema _ := none
  internalId _ collectionId := collectionId
  snapshotBase _ _ := none
  isMaterialized _ _ _ := false
  validateHandlers config _ _ := .ok config
  now := 1

def lifetimeKey : TierKey :=
  (.platform, "cache_plugin_config")

def lifetimeRequest : ConfigRequest where
  classKey := "cache_plugin_config"
  catalogId := none
  collectionId := none

def lifetimeRow (seconds : String) : Value :=
  .dict [("l1_default_ttl_seconds", .number seconds)]

def coldRead (read call rebuild : Nat) : List ServiceOp :=
  [.startRead read lifetimeRequest, .tier lifetimeKey (.call call),
    .tier lifetimeKey (.join call rebuild), .tier lifetimeKey (.startRebuild rebuild),
    .select lifetimeKey rebuild, .finish lifetimeKey rebuild true (some 60) 0 0,
    .tier lifetimeKey (.wake call), .finishRead read fun _ => 0]

def writeThenRead : List ServiceOp :=
  [.set 0 lifetimeKey [("l1_default_ttl_seconds", .number "10")] true, .commit 0,
    .invalidate 0 0 true] ++ coldRead 0 1 2

def readBeforeCommit : List ServiceOp :=
  [.set 0 lifetimeKey [("l1_default_ttl_seconds", .number "10")] false,
    .invalidate 0 0 true] ++ coldRead 0 1 2 ++
    [.commit 0, .startRead 3 lifetimeRequest, .tier lifetimeKey (.call 4), .finishRead 3 fun _ => 0]

end Dynastore.Configs
