import Dynastore.Caching.Group
import Dynastore.Foundation.Execution

/-! A clear of a group is meant to let none of its entries be served again. It selects the entries
by how their keys start, and some keys start differently: those of sync functions and of the tier in
the process, hashed ones, and the key that is the group itself. -/

namespace Dynastore.Caching

open Option GroupState

open Execution (run)

/-! ## What can be returned -/

/-- The value that a call may return without a run of the function. -/
def Lookup.offered : Lookup → Option Produced
  | .hit produced => some produced
  | .rejected => none
  | .missed candidate => candidate

/-- A wrapped value is offered at the latest when it is stale; a bare one if it is accepted. -/
def StalePolicy.Returnable (policy : StalePolicy) (entry : Entry) : Prop :=
  (0 < policy.grace ∧ entry.wrapped.isSome = true) ∨
    (policy.accepts entry.produced.value = true ∧ entry.readsAsNone = false)

namespace StalePolicy

variable {policy : StalePolicy} {entry : Entry}

theorem returnable_of_isStale (stale : policy.isStale now entry) : policy.Returnable entry := by
  rw [isStale, Bool.and_eq_true, decide_eq_true_eq] at stale
  refine .inl ⟨stale.1, ?_⟩
  cases wrapped : entry.wrapped with
  | none =>
    rw [wrapped] at stale
    cases stale.2
  | some => rfl

theorem returnable_of_offered (offered : (policy.examine now found).offered = some produced) :
    ∃ entry, found = some entry ∧ entry.produced = produced ∧ policy.Returnable entry := by
  cases found with
  | none => cases offered
  | some entry =>
    refine ⟨entry, rfl, ?_⟩
    rw [examine] at offered
    split at offered
    · cases offered
    next present =>
      split at offered
      next stale =>
        cases offered
        exact ⟨rfl, returnable_of_isStale stale⟩
      · split at offered
        next accepted =>
          cases offered
          exact ⟨rfl, .inr ⟨accepted, Bool.eq_false_iff.mpr present⟩⟩
        · cases offered

theorem readsAsNone_eq_false (wrapped : entry.wrapped.isSome) :
    entry.readsAsNone = false := by
  unfold Entry.readsAsNone
  split
  · cases wrapped
  · rfl

theorem exists_offered (now : Int) (returnable : policy.Returnable entry) : ∃ elapsed : Nat,
      (policy.examine (now + elapsed) (some entry)).offered = some entry.produced := by
  rcases returnable with ⟨_, wrapped⟩ | ⟨accepted, present⟩
  · obtain ⟨⟨storedAt, ttl⟩, times⟩ := isSome_iff_exists.mp wrapped
    refine ⟨(storedAt + ttl + 1 - now).toNat, ?_⟩
    have stale : policy.isStale (now + (storedAt + ttl + 1 - now).toNat) entry := by
      simp only [isStale, times, any_some, Bool.and_eq_true, decide_eq_true_eq]
      omega
    rw [examine, readsAsNone_eq_false wrapped, stale]
    rfl
  · refine ⟨0, ?_⟩
    rw [examine, present, accepted]
    cases policy.isStale (now + (0 : Nat)) entry <;> rfl

end StalePolicy

/-! ## The condition -/

/-- What a function has cached: a sync one only in its own store, and nothing that is yet to be
computed. -/
structure Contents (function : CachedFunction) where
  state : GroupState
  sync : function.isAsync = false → state.resolved = some false
  pastOwn : ∀ key entry, (state.own key).bind Stored.payload = some entry →
    entry.produced.execution < state.executions
  pastShared : ∀ key entry, (state.shared key).bind Stored.payload = some entry →
    entry.produced.execution < state.executions

section Clearing

variable (function : CachedFunction) (digest : Digest) (server : ValkeyServer)
  (contents : Contents function) (occasion : Occasion) (clear : GroupClear)

/-- After the clear, however calls, losses, changes of backend and time go on, a call for
arguments in the group returns nothing from before it unless the function runs. -/
def GroupCleared : Prop :=
  function.offers clear = true → ∀ ops, ∀ answer ∈ (run (GroupState.step function digest)
    { contents.state.clearGroup function server occasion clear with answers := [] } ops).answers,
    InGroup (function.group clear) (function.logicalKey answer.arguments) → answer.ran = false →
      contents.state.executions ≤ answer.produced.execution

/-- A call can come to read L2: the backend is tiered, or it is resolved again where a shared one
is registered. -/
def GroupState.reachesShared (state : GroupState) : Bool :=
  state.usesShared || (function.isAsync && function.distributed)

inductive Survives (key : String) (entry : Entry) : Prop
  | own (tiered : Bool) (resolved : contents.state.resolved = some tiered)
      (current : contents.state.outdated function = false)
      (kept : (contents.state.own key).bind Stored.payload = some entry)
      (missed : function.sweepsOwn tiered occasion clear key = false)
  | shared (reached : contents.state.reachesShared function = true)
      (kept : (contents.state.shared key).bind Stored.payload = some entry)
      (missed : contents.state.resolved = some true →
        function.sweepsShared server occasion clear key = false)

structure Survivor : Prop where
  offered : function.offers clear = true
  left : ∃ arguments entry, InGroup (function.group clear) (function.logicalKey arguments) ∧
      function.policy.Returnable entry ∧
        Survives function server contents occasion clear (function.buildKey digest arguments) entry

end Clearing

section Calls

variable {function : CachedFunction} {state : GroupState}

theorem answers_refresh (read : TieredRead Entry) :
    (state.refresh key read).answers = state.answers := by
  unfold refresh
  split <;> rfl

theorem answers_callResolved_timedOut (offered : (function.policy.examine state.clock
      (state.read network key).returned).offered = some produced) :
    (state.callResolved function arguments key network version .timedOut).answers =
      ⟨arguments, false, produced⟩ :: state.answers := by
  unfold callResolved
  simp only
  split
  next eq =>
    rw [eq] at offered
    cases offered
    simp only [answer, answers_refresh]
  next eq =>
    rw [eq] at offered
    cases offered
  next eq =>
    rw [eq] at offered
    cases offered
    simp only [rebuild, fallBack, answer, answers_refresh]

end Calls

/-! ## Survivors are returned -/

section Survivors

variable {function : CachedFunction} {digest : Digest} {server : ValkeyServer}
  {contents : Contents function} {occasion : Occasion} {clear : GroupClear}

variable {state : GroupState} {network : Network} {entry : Entry}

theorem clock_resolve : (state.resolve function).clock = state.clock := by
  unfold resolve
  split <;> rfl

theorem outdated_resolve : (state.resolve function).outdated function = false := by
  unfold resolve
  split
  · simp [outdated]
  next current => exact Bool.eq_false_iff.mpr current

theorem usesShared_resolve (registered : state.registered)
    (reached : state.reachesShared function) (changed : state.current = false) :
    (state.resolve function).usesShared := by
  rw [reachesShared, Bool.or_eq_true] at reached
  unfold resolve
  split
  next outdated =>
    unfold GroupState.outdated at outdated
    rcases reached with tiered | shareable
    · split at outdated
      next unresolved =>
        rw [usesShared, unresolved] at tiered
        cases tiered
      · rw [Bool.and_eq_true] at outdated
        simp [usesShared, registered, outdated.1]
    · simp [usesShared, registered, shareable]
  next current =>
    rcases reached with tiered | shareable
    · exact tiered
    · refine absurd ?_ current
      unfold outdated
      split
      · rfl
      · rw [shareable, changed]
        rfl

theorem read_own (offline : network.reads = false) (current : state.outdated function = false)
    (kept : (state.own key).bind Stored.payload = some entry) :
    ((state.resolve function).read network key).returned = some entry := by
  have unchanged : state.resolve function = state := by
    rw [resolve, if_neg (Bool.eq_false_iff.mp current)]
  rw [unchanged, GroupState.read, offline]
  split
  · rw [← kept]
    cases state.own key <;> rfl
  · exact kept

theorem read_shared (online : network.reads) (uses : (state.resolve function).usesShared)
    (lost : state.own key = none) (kept : (state.shared key).bind Stored.payload = some entry) :
    ((state.resolve function).read network key).returned = some entry := by
  have own : (state.resolve function).own key = none := by
    unfold resolve
    split
    · rfl
    · exact lost
  have shared : (state.resolve function).shared = state.shared := by
    unfold resolve
    split <;> rfl
  rw [GroupState.read, if_pos uses, own, online, if_pos rfl, shared]
  rw [← kept]
  cases state.shared _ with
  | none => rfl
  | some stored =>
    rw [tieredRead, readShared, bind_some]
    cases stored.payload <;> rfl

theorem mem_answers_call (read : ((state.resolve function).read network
      (function.buildKey digest arguments)).returned = some entry)
    (offered : (function.policy.examine state.clock (some entry)).offered = some produced) :
    ⟨arguments, false, produced⟩ ∈
      (state.step function digest (.call arguments network 0 .timedOut)).answers := by
  rw [← clock_resolve, ← read] at offered
  rw [step, answers_callResolved_timedOut offered]
  exact .head _

theorem outdated_clearGroup :
    (state.clearGroup function server occasion clear).outdated function =
      state.outdated function := by
  unfold clearGroup
  split <;> rfl

theorem reachesShared_clearGroup :
    (state.clearGroup function server occasion clear).reachesShared function =
      state.reachesShared function := by
  unfold clearGroup
  split <;> rfl

theorem own_clearGroup (server : ValkeyServer) (resolved : state.resolved = some tiered) :
    (state.clearGroup function server occasion clear).own key =
      if function.sweepsOwn tiered occasion clear key then none else state.own key := by
  unfold clearGroup
  split
  next unresolved => cases unresolved.symm.trans resolved
  next found =>
    cases found.symm.trans resolved
    rfl

theorem shared_clearGroup (server : ValkeyServer) :
    (state.clearGroup function server occasion clear).shared key =
      if state.resolved = some true ∧ function.sweepsShared server occasion clear key
      then none else state.shared key := by
  unfold clearGroup
  split
  next unresolved => simp [unresolved]
  next resolved => simp [resolved]

theorem not_groupCleared_of_survivor
    (survivor : Survivor function digest server contents occasion clear) :
    ¬ GroupCleared function digest server contents occasion clear := by
  intro cleared
  have ⟨offered, arguments, entry, inGroup, returnable, survives⟩ := survivor
  have ⟨elapsed, presented⟩ := StalePolicy.exists_offered
    (contents.state.clearGroup function server occasion clear).clock returnable
  have final := fun ops mem =>
    cleared offered ops ⟨arguments, false, entry.produced⟩ mem inGroup rfl
  cases survives with
  | own _ resolved current kept missed =>
    have left := (own_clearGroup server resolved).trans (if_neg (Bool.eq_false_iff.mp missed))
    have later := final [.tick elapsed, .call arguments ⟨false, false, false⟩ 0 .timedOut]
      (mem_answers_call (read_own rfl (outdated_clearGroup.trans current)
        ((congrArg (bind · Stored.payload) left).trans kept)) presented)
    exact absurd (contents.pastOwn _ entry kept) (Nat.not_lt.mpr later)
  | shared reached kept missed =>
    have left := (shared_clearGroup server).trans
      (if_neg fun ⟨resolved, swept⟩ => Bool.eq_false_iff.mp (missed resolved) swept)
    have reached : (contents.state.clearGroup function server occasion clear).reachesShared
        function := reachesShared_clearGroup.trans reached
    have later := final [.changeBackend true, .loseOwn fun _ => true, .tick elapsed,
        .call arguments ⟨true, true, true⟩ 0 .timedOut]
      (mem_answers_call (read_shared rfl (usesShared_resolve rfl reached rfl) rfl
        ((congrArg (bind · Stored.payload) left).trans kept)) presented)
    exact absurd (contents.pastShared _ entry kept) (Nat.not_lt.mpr later)

end Survivors

/-! ## Without survivors nothing is returned -/

section Purge

variable (function : CachedFunction) (digest : Digest) (group : String) (floor : Nat)

def Member (key : String) : Prop :=
  ∃ arguments, InGroup group (function.logicalKey arguments) ∧
    function.buildKey digest arguments = key

def Spent (tier : Option (Stored Entry)) : Prop :=
  ∀ entry, tier.bind Stored.payload = some entry → function.policy.Returnable entry →
    floor ≤ entry.produced.execution

structure Purged (state : GroupState) : Prop where
  bound : floor ≤ state.executions
  own : state.outdated function = false → ∀ key, Member function digest group key →
    Spent function floor (state.own key)
  shared : state.reachesShared function = true → ∀ key, Member function digest group key →
    Spent function floor (state.shared key)
  answers : ∀ answer ∈ state.answers, InGroup group (function.logicalKey answer.arguments) →
    answer.ran = false → floor ≤ answer.produced.execution

end Purge

section Purging

variable {function : CachedFunction} {digest : Digest} {group : String} {floor : Nat}
  {state : GroupState} {arguments : List Argument}

theorem spent_tombstone (version : Nat) : Spent function floor (some (.tombstone version)) := nofun

theorem spent_of_payload (value : stored.payload = some entry)
    (later : floor ≤ entry.produced.execution) : Spent function floor (some stored) := by
  intro _ eq _
  cases value.symm.trans eq
  exact later

section

variable (purged : Purged function digest group floor state)

include purged

theorem Purged.setOwn (key : String) {stored : Option (Stored Entry)}
    (spent : Member function digest group key → Spent function floor stored) :
    Purged function digest group floor (state.setOwn key stored) :=
  { purged with
    own := by
      intro current other mem
      simp only [GroupState.setOwn]
      split
      next same => exact spent (same ▸ mem)
      · exact purged.own current other mem }

theorem Purged.setShared (key : String)
    (spent : Member function digest group key → Spent function floor (some stored)) :
    Purged function digest group floor (state.setShared key stored) :=
  { purged with
    shared := by
      intro reached other mem
      simp only [GroupState.setShared]
      split
      next same => exact spent (same ▸ mem)
      · exact purged.shared reached other mem }

theorem Purged.answer (later : InGroup group (function.logicalKey arguments) → ran = false →
      floor ≤ produced.execution) :
    Purged function digest group floor (state.answer arguments ran produced) :=
  { purged with answers := List.forall_mem_cons.mpr ⟨later, purged.answers⟩ }

theorem Purged.execute :
    Purged function digest group floor { state with executions := state.executions + 1 } :=
  { purged with bound := Nat.le_succ_of_le purged.bound }

theorem Purged.resolve : Purged function digest group floor (state.resolve function) := by
  unfold GroupState.resolve
  split
  · exact
      { purged with
        own := fun _ _ _ => nofun
        shared := by
          intro reached
          apply purged.shared
          -- A backend that is resolved as tiered belongs to a function that may share.
          simp only [reachesShared, usesShared, getD_some, Bool.or_eq_true, Bool.and_eq_true]
            at reached ⊢
          exact .inr (reached.elim And.left id) }
  · exact purged

theorem Purged.clearKey (network : Network) (version : Nat) (key : String) :
    Purged function digest group floor (state.clearKey network version key) := by
  unfold GroupState.clearKey
  split
  · have owned := purged.setOwn key fun _ => spent_tombstone version
    split
    · exact owned.setShared key fun _ => spent_tombstone version
    · exact owned
  · exact purged.setOwn key fun _ => nofun

theorem Purged.store (network : Network) (version : Nat) (key : String)
    (later : floor ≤ entry.produced.execution) :
    Purged function digest group floor (state.store network version key entry) := by
  have stamped : Spent function floor (some (.envelope version entry)) :=
    spent_of_payload rfl later
  unfold GroupState.store
  split
  · have owned := purged.setOwn key fun _ => stamped
    split
    · exact owned.setShared key fun _ => stamped
    · exact owned
  · exact purged.setOwn key fun _ => spent_of_payload rfl later

theorem Purged.fallBack (later : ∀ produced, candidate = some produced →
      InGroup group (function.logicalKey arguments) → ran = false → floor ≤ produced.execution) :
    Purged function digest group floor (state.fallBack arguments ran candidate) := by
  cases candidate with
  | none => exact purged
  | some produced => exact purged.answer (later produced rfl)

theorem Purged.rebuild (network : Network) (version : Nat) (key : String)
    (later : ∀ produced, candidate = some produced →
      InGroup group (function.logicalKey arguments) → floor ≤ produced.execution)
    (attempt : Attempt) :
    Purged function digest group floor
      (state.rebuild function arguments key network version candidate attempt) := by
  cases attempt with
  | returned =>
    rw [GroupState.rebuild]
    split
    · apply Purged.answer
      · apply purged.execute.store
        exact purged.bound
      · intro _ unrun
        cases unrun
    · apply purged.execute.answer
      intro _ unrun
      cases unrun
  | raised =>
    apply purged.execute.fallBack
    intro _ _ _ unrun
    cases unrun
  | timedOut =>
    apply purged.fallBack
    intro produced eq inGroup _
    exact later produced eq inGroup

omit purged in
theorem reachesShared_of_usesShared (uses : state.usesShared) : state.reachesShared function := by
  rw [reachesShared, uses, Bool.true_or]

theorem Purged.read (current : state.outdated function = false) (network : Network)
    (mem : Member function digest group key)
    (returned : (state.read network key).returned = some entry)
    (returnable : function.policy.Returnable entry) : floor ≤ entry.produced.execution := by
  have own := purged.own current key mem
  unfold GroupState.read at returned
  split at returned
  next reached =>
    have shared := purged.shared (reachesShared_of_usesShared reached) key mem
    rcases returned_of_tieredRead returned with ⟨stored, found, value⟩ | ⟨_, found, value, _⟩
    · split at found
      · apply shared entry _ returnable
        rw [found]
        exact value
      · cases found
    · apply own entry _ returnable
      rw [found]
      exact value
  · exact own entry returned returnable

theorem Purged.refresh (network : Network) (key : String) : Purged function digest group floor
      (state.refresh key (state.read network key)) := by
  unfold GroupState.refresh
  split
  next refreshed =>
    refine purged.setOwn key fun mem entry value returnable => ?_
    unfold GroupState.read at refreshed
    split at refreshed
    next reached =>
      have ⟨other, found, same, _⟩ := refresh_of_tieredRead refreshed value
      split at found
      · apply purged.shared (reachesShared_of_usesShared reached) key mem entry _ returnable
        rw [found]
        exact same
      · cases found
    · cases refreshed
  · exact purged

theorem Purged.callResolved (current : state.outdated function = false) (network : Network)
    (version : Nat) (attempt : Attempt) :
    Purged function digest group floor
      (state.callResolved function arguments (function.buildKey digest arguments) network version
        attempt) := by
  have refreshed := purged.refresh network (function.buildKey digest arguments)
  have offered : ∀ produced, (function.policy.examine state.clock (state.read network
        (function.buildKey digest arguments)).returned).offered = some produced →
      InGroup group (function.logicalKey arguments) → floor ≤ produced.execution := by
    intro produced eq inGroup
    obtain ⟨_, returned, rfl, returnable⟩ := StalePolicy.returnable_of_offered eq
    exact purged.read current network ⟨arguments, inGroup, rfl⟩ returned returnable
  unfold GroupState.callResolved
  simp only
  split
  next produced eq =>
    rw [eq] at offered
    exact refreshed.answer fun inGroup _ => offered produced rfl inGroup
  · have dropped := refreshed.clearKey network version (function.buildKey digest arguments)
    apply dropped.rebuild
    intro _ absent
    cases absent
  next eq =>
    rw [eq] at offered
    exact refreshed.rebuild network version _ offered attempt

omit purged in
theorem Spent.lose (spent : Spent function floor tier) (lost : Bool) :
    Spent function floor (if lost then none else tier) := by
  cases lost with
  | true => nofun
  | false => exact spent

theorem Purged.step (op : GroupOp) :
    Purged function digest group floor (state.step function digest op) := by
  cases op with
  | call _ network version attempt =>
    exact purged.resolve.callResolved outdated_resolve network version attempt
  | loseOwn lost =>
    exact { purged with
      own := fun current key mem => (purged.own current key mem).lose (lost key) }
  | loseShared lost =>
    exact { purged with
      shared := fun reached key mem => (purged.shared reached key mem).lose (lost key) }
  | tick => exact { purged with }
  | changeBackend =>
    refine { purged with own := fun current => purged.own ?_ }
    unfold outdated at current ⊢
    split at current
    · cases current
    next resolved =>
      have shareless : (function.isAsync && function.distributed) = false := by
        simpa [GroupState.step] using current
      simp only [GroupState.step] at resolved
      rw [resolved, shareless]
      rfl

end

theorem exists_resolved (current : state.outdated function = false) :
    ∃ tiered, state.resolved = some tiered := by
  unfold outdated at current
  split at current
  · cases current
  next tiered resolved => exact ⟨tiered, resolved⟩

theorem purged_clearGroup (offered : function.offers clear)
    (none : ¬ Survivor function digest server contents occasion clear) :
    Purged function digest (function.group clear) contents.state.executions
      { contents.state.clearGroup function server occasion clear with answers := [] } where
  bound := by
    unfold clearGroup
    split <;> rfl
  own := by
    rintro current _ ⟨arguments, inGroup, rfl⟩ entry kept returnable
    have current : contents.state.outdated function = false :=
      outdated_clearGroup.symm.trans current
    have ⟨tiered, resolved⟩ := exists_resolved current
    simp only [own_clearGroup server resolved] at kept
    split at kept
    · cases kept
    next missed =>
      exact absurd ⟨offered, arguments, entry, inGroup, returnable,
        .own tiered resolved current kept (Bool.eq_false_iff.mpr missed)⟩ none
  shared := by
    rintro reached _ ⟨arguments, inGroup, rfl⟩ entry kept returnable
    have reached : contents.state.reachesShared function :=
      reachesShared_clearGroup.symm.trans reached
    simp only [shared_clearGroup server] at kept
    split at kept
    · cases kept
    next missed =>
      refine absurd ⟨offered, arguments, entry, inGroup, returnable,
        .shared reached kept fun resolved => ?_⟩ none
      exact Bool.eq_false_iff.mpr fun swept => missed ⟨resolved, swept⟩
  answers := nofun

end Purging

theorem groupCleared_of_not_survivor
    (none : ¬ Survivor function digest server contents occasion clear) :
    GroupCleared function digest server contents occasion clear := by
  intro offered ops
  have preserved : ∀ state op,
      Purged function digest (function.group clear) contents.state.executions state →
        Purged function digest (function.group clear) contents.state.executions
          (state.step function digest op) := fun _ op purged => purged.step op
  have initial := purged_clearGroup offered none
  exact (Execution.invariant_run_of_step preserved initial ops).answers

/-- A clear of a group is complete exactly where it leaves no entry of the group behind that a
call can return. -/
theorem groupCleared_iff (function : CachedFunction) (digest : Digest) (server : ValkeyServer)
    (contents : Contents function) (occasion : Occasion) (clear : GroupClear) :
    GroupCleared function digest server contents occasion clear ↔
      ¬ Survivor function digest server contents occasion clear :=
  ⟨fun cleared survivor => not_groupCleared_of_survivor survivor cleared,
    groupCleared_of_not_survivor⟩

/-! A function with one result in the store of its process. -/

def keptResult : Entry := ⟨⟨0, .text "old"⟩, none⟩

def cachedOnce (function : CachedFunction) (digest : Digest) (arguments : List Argument)
    (tiered : Bool) (sync : function.isAsync = false → tiered = false) : Contents function where
  state :=
    { resolved := some tiered
      current := true
      registered := tiered
      own := fun key =>
        if key = function.buildKey digest arguments then some (.raw keptResult) else none
      shared := fun _ => none
      clock := 0
      executions := 1
      answers := [] }
  sync isSync := congrArg some (sync isSync)
  pastOwn := by
    intro key entry kept
    simp only at kept
    split at kept
    · cases kept
      exact Nat.zero_lt_one
    · cases kept
  pastShared := nofun

theorem not_groupCleared_cachedOnce (sync : function.isAsync = false → tiered = false)
    (offered : function.offers clear) (unconditional : function.policy.accepts (.text "old"))
    (inGroup : InGroup (function.group clear) (function.logicalKey arguments))
    (missed :
      function.sweepsOwn tiered occasion clear (function.buildKey digest arguments) = false) :
    ¬ GroupCleared function digest server (cachedOnce function digest arguments tiered sync)
      occasion clear := by
  apply not_groupCleared_of_survivor
  refine ⟨offered, arguments, keptResult, inGroup, .inr ⟨unconditional, rfl⟩, ?_⟩
  refine .own tiered rfl (by simp [outdated, cachedOnce]) ?_ missed
  simp only [cachedOnce, if_pos]
  rfl

def stubDigest : Digest where
  hex _ := "0"
  digits := by simp

def stubServer : ValkeyServer where
  keyStart := "ds:"
  globs pattern key := startsWith (String.ofList pattern.toList.dropLast) key
  literal := by
    intro text key _
    simp

def configFunction (isAsync : Bool) : CachedFunction where
  grace := 300
  condition := none
  ns := "collection_config"
  ignored := []
  typed := false
  keyBuilder := none
  isAsync := isAsync
  distributed := true

def renderedArgument (text : String) : Argument := ⟨"key", some text, "str", 0⟩

def textOfLength (length : Nat) : String := String.ofList (List.replicate length 'x')

theorem length_textOfLength : (textOfLength length).length = length :=
  String.length_ofList.trans List.length_replicate

/-- The entries outlive the clear of the namespace of a sync function, the clear of the
namespace on a tiered backend, and the clear of a group on a local backend under a key that is
long enough to be hashed. -/
theorem cleared_entries_returned : ¬ GroupCleared (configFunction false) stubDigest stubServer
      (cachedOnce (configFunction false) stubDigest [renderedArgument "'c1'"] false fun _ => rfl)
      ⟨true, true⟩ .all ∧
    ¬ GroupCleared (configFunction true) stubDigest stubServer
      (cachedOnce (configFunction true) stubDigest [renderedArgument "'c1'"] true nofun)
      ⟨true, true⟩ .all ∧
    ¬ GroupCleared (configFunction true) stubDigest stubServer
      (cachedOnce (configFunction true) stubDigest
        [renderedArgument "'c1'", renderedArgument (textOfLength 200)] false nofun)
      ⟨true, true⟩ (.below "collection_config|'c1'") := by
  refine ⟨?_, ?_, ?_⟩
  · exact not_groupCleared_cachedOnce _ rfl rfl (by decide) (by decide)
  · exact not_groupCleared_cachedOnce _ rfl rfl (by decide) (by decide)
  · have key : (configFunction true).logicalKey
        [renderedArgument "'c1'", renderedArgument (textOfLength 200)] =
          "collection_config|'c1'|" ++ textOfLength 200 := rfl
    have hashed : (configFunction true).buildKey stubDigest
        [renderedArgument "'c1'", renderedArgument (textOfLength 200)] = "sv1|0" := by
      have long : ("collection_config|'c1'|" ++ textOfLength 200).length > 200 := by
        rw [String.length_append, length_textOfLength]
        decide
      rw [CachedFunction.buildKey, CachedFunction.makeCacheKey, key]
      exact congrArg ("sv1|" ++ ·) (if_pos long)
    apply not_groupCleared_cachedOnce _ rfl rfl
    · exact .inr startsWith_append
    · rw [hashed]
      decide

end Dynastore.Caching
