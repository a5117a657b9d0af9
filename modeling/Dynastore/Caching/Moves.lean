import Dynastore.Caching.Cached

/-! A cached function moves values: from a tier into a read, from there to a caller or back into a
tier, and from an execution to all that wait for it. A property that every single move keeps is kept
by every step; only invalidations are left to it. -/

namespace Dynastore.Caching

def TierHolds (holds : Produced → Prop) (tier : Option (Stored Entry)) : Prop :=
  ∀ entry, tier.bind Stored.payload = some entry → holds entry.produced

section

variable {holds : Produced → Prop}

theorem tierHolds_none : TierHolds holds none := nofun

theorem tierHolds_tombstone : TierHolds holds (some (.tombstone version)) := nofun

theorem tierHolds_of_payload
    (value : stored.payload = some entry) (produced : holds entry.produced) :
    TierHolds holds (some stored) := by
  intro _ eq
  cases value.symm.trans eq
  exact produced

theorem tierHolds_refresh (kept : TierHolds holds shared)
    (refreshed : (tieredRead own shared).refresh = some stored) :
    TierHolds holds (some stored) := by
  intro entry value
  obtain ⟨_, found, same, _⟩ := refresh_of_tieredRead refreshed value
  subst found
  exact kept entry same

theorem holds_none (produced : Produced) (eq : none = some produced) : holds produced :=
  nomatch eq

theorem holds_some (held : holds produced) (other : Produced) (eq : some produced = some other) :
    holds other := by
  cases eq
  exact held

end

def Stage.Reading : Stage → Prop
  | .asking _ | .answered _ _ => True
  | _ => False

/-- What the stage has read from a tier has the first property, what it may answer with the
second. -/
def Stage.Carries (value told : Produced → Prop) (running : Prop) : Stage → Prop
  | .asking own => TierHolds value own
  | .answered own shared => TierHolds value own ∧ TierHolds value shared
  | .rejecting _ | .queued => True
  | .loading candidate | .waiting candidate _ =>
    ∀ produced, candidate = some produced → told produced
  | .resolved candidate result =>
    (∀ produced, candidate = some produced → told produced) ∧
      ∀ produced, result = some produced → told produced
  | .running _ => running

/-- The moves that keep `inv`: values in tiers have `value`, a process of a role that `may` run
answers with what it is `told`, and it reads where `reads` holds. -/
structure Moves (config : CachedConfig) (inv : CachedState → Prop) (value : Produced → Prop)
    (told : Role → Produced → Prop) (may : Role → Prop) (reads : CachedState → Prop) : Prop where
  rebuilds : may .rebuild
  answerable : ∀ role produced, may role → value produced → told role produced
  held : ∀ {state id role stage}, inv state → state.processes id = some ⟨role, stage⟩ →
    may role ∧ stage.Carries value (told role) True
  reading : ∀ {state id role stage}, inv state → state.processes id = some ⟨role, stage⟩ →
    stage.Reading → reads state ∧ TierHolds value state.l2
  written : ∀ {state id write}, inv state → state.writes id = some write →
    TierHolds value (some write.1)
  put : ∀ {state role stage} (id : Nat), inv state → may role →
    stage.Carries value (told role) False → (stage.Reading → reads state) →
    inv (state.put id role stage)
  start : ∀ {state} (id : Nat), inv state →
    inv { state.put id .rebuild (.running state.executions) with
      executions := state.executions + 1 }
  remove : ∀ {state} (id : Nat), inv state →
    inv { state with processes := state.processes.remove id }
  answer : ∀ {state since produced} (id : Nat), inv state → told (.call since) produced →
    inv (state.answer id since produced)
  settle : ∀ {state result} (task : Nat), inv state →
    (∀ produced, result = some produced → value produced) → inv (state.settle task result)
  setOwn : ∀ {state own}, inv state → TierHolds value own → inv { state with l1 := own }
  setShared : ∀ {state shared}, inv state → TierHolds value shared → inv { state with l2 := shared }
  setWrite : ∀ {state stored} (id attempts : Nat), inv state → TierHolds value (some stored) →
    inv { state with writes := state.writes.put id (stored, attempts) }
  removeWrite : ∀ {state} (id : Nat), inv state →
    inv { state with writes := state.writes.remove id }
  tick : ∀ {state} (clock : Int) (current : Option Nat), inv state →
    inv { state with clock := clock, current := current }

def CachedOp.Starts : CachedOp → Prop
  | .call _ | .startRebuild _ => True
  | _ => False

def CachedOp.Clears : CachedOp → Prop
  | .invalidate _ _ | .startClear _ _ | .writeTombstone _ _ => True
  | _ => False

namespace Moves

variable {config : CachedConfig} {inv : CachedState → Prop} {value : Produced → Prop}
  {told : Role → Produced → Prop} {may : Role → Prop} {reads : CachedState → Prop}
  {state : CachedState}

section

variable (moves : Moves config inv value told may reads)

include moves

section

variable (kept : inv state)

include kept

theorem fail (id : Nat) (role : Role) : inv (state.fail id role) := by
  cases role with
  | call => exact moves.remove id kept
  | rebuild => exact moves.settle id kept holds_none

theorem hit (id : Nat) (allowed : may role) (held : value produced) :
    inv (state.hit id produced role) := by
  cases role with
  | call => exact moves.answer id kept (moves.answerable _ _ allowed held)
  | rebuild => exact moves.settle id kept (holds_some held)

theorem miss (id : Nat) (allowed : may role)
    (held : ∀ produced, candidate = some produced → value produced) :
    inv (state.miss id candidate role) := by
  cases role with
  | call =>
    refine moves.put id kept allowed ?_ nofun
    exact fun produced eq => moves.answerable _ _ allowed (held produced eq)
  | rebuild => exact moves.start id kept

theorem reject (id version : Nat) (allowed : may role) :
    inv (state.reject config id version role) := by
  unfold CachedState.reject
  split
  · exact moves.put id (moves.setOwn kept tierHolds_tombstone) allowed trivial nofun
  · exact moves.miss (moves.setOwn kept tierHolds_none) id allowed holds_none

theorem examined (id version : Nat) (allowed : may role)
    (held : ∀ entry, found = some entry → value entry.produced) :
    inv (state.examined config id version role found) := by
  unfold CachedState.examined
  rcases config.examine_cases with
    ⟨entry, present, eq⟩ | eq | eq | ⟨entry, present, eq⟩
  · rw [eq]
    exact moves.hit kept id allowed (held entry present)
  · rw [eq]
    exact moves.reject kept id version allowed
  · rw [eq]
    exact moves.miss kept id allowed holds_none
  · rw [eq]
    exact moves.miss kept id allowed (holds_some (held entry present))

theorem lookup (id : Nat) (allowed : may role)
    (owned : TierHolds value state.l1) (read : config.tiered → reads state) :
    inv (state.lookup config id role) := by
  unfold CachedState.lookup
  split
  next tiered => exact moves.put id kept allowed owned fun _ => read tiered
  · exact moves.examined kept id 0 allowed owned

theorem startRebuild (id : Nat) (owned : TierHolds value state.l1)
    (read : config.tiered → reads state) : inv (state.startRebuild config id) := by
  unfold CachedState.startRebuild
  split
  · exact moves.lookup kept id moves.rebuilds owned read
  · exact kept

theorem serve (id : Nat) (reply : SharedReply) : inv (state.serve config id reply) := by
  unfold CachedState.serve
  split
  next role own asking =>
    obtain ⟨allowed, owned⟩ := moves.held kept asking
    obtain ⟨read, shared⟩ := moves.reading kept asking trivial
    have unanswered : inv (state.put id role (.answered own none)) :=
      moves.put id kept allowed ⟨owned, tierHolds_none⟩ fun _ => read
    cases reply with
    | held => exact moves.put id kept allowed ⟨owned, shared⟩ fun _ => read
    | nothing => exact unanswered
    | raised =>
      simp only
      split
      · exact moves.fail kept id role
      · exact unanswered
  · exact kept

theorem resume (id version : Nat) : inv (state.resume config id version) := by
  unfold CachedState.resume
  split
  next own shared answered =>
    obtain ⟨allowed, owned, other⟩ := moves.held kept answered
    have returned : ∀ entry, (tieredRead own shared).returned = some entry →
        value entry.produced := by
      intro entry returned
      rcases returned_of_tieredRead returned with ⟨stored, rfl, holds⟩ | ⟨_, rfl, holds, _⟩
      · exact other entry holds
      · exact owned entry holds
    simp only
    split
    next refreshed =>
      have refreshing := moves.setOwn kept (tierHolds_refresh other refreshed)
      exact moves.examined refreshing id version allowed returned
    · exact moves.examined kept id version allowed returned
  · exact kept

theorem rejected (id : Nat) (succeeds : Bool) : inv (state.rejected id succeeds) := by
  unfold CachedState.rejected
  split
  next rejecting =>
    have allowed := (moves.held kept rejecting).1
    split
    · exact moves.miss (moves.setShared kept tierHolds_tombstone) id allowed holds_none
    · exact moves.miss kept id allowed holds_none
  · exact kept

theorem join (id task : Nat) : inv (state.join id task) := by
  unfold CachedState.join
  split
  next role candidate loading =>
    obtain ⟨allowed, held⟩ := moves.held kept loading
    split
    next => exact moves.put id kept allowed held nofun
    · split
      · exact kept
      · have queued : inv (state.put task .rebuild .queued) :=
          moves.put task kept moves.rebuilds trivial nofun
        have waiting : inv ((state.put task .rebuild .queued).put id role
            (.waiting candidate task)) := moves.put id queued allowed held nofun
        exact moves.tick _ (some task) waiting
  · exact kept

theorem conclude (id : Nat) (role : Role)
    (held : ∀ produced, result = some produced → told role produced) :
    inv (state.conclude id role result) := by
  unfold CachedState.conclude
  split
  next produced => exact moves.answer id kept (held produced rfl)
  · exact moves.fail kept id role

theorem timeout (id : Nat) : inv (state.timeout id) := by
  unfold CachedState.timeout
  split
  next role _ _ waiting =>
    exact moves.conclude kept id role (moves.held kept waiting).2
  · exact kept

theorem wake (id : Nat) : inv (state.wake id) := by
  unfold CachedState.wake
  split
  next role _ result resolved =>
    obtain ⟨_, stale, fresh⟩ := moves.held kept resolved
    apply moves.conclude kept id role
    intro produced eq
    cases result with
    | none => exact stale produced eq
    | some => exact fresh produced eq
  · exact kept

theorem store (held : value entry.produced) (version write : Nat) :
    inv (state.store config entry version write) := by
  have stamped : TierHolds value (some (.envelope version entry)) :=
    tierHolds_of_payload rfl held
  unfold CachedState.store
  split
  · split
    · exact moves.setOwn kept stamped
    · exact moves.setWrite write _ (moves.setOwn kept stamped) stamped
  · exact moves.setOwn kept (tierHolds_of_payload rfl held)

theorem finish (id : Nat) (result : Option Value) (ttl : Option Int) (version write : Nat)
    (returns : ∀ execution outcome, state.processes id = some ⟨.rebuild, .running execution⟩ →
      result = some outcome → value ⟨execution, outcome⟩) :
    inv (state.finish config id result ttl version write) := by
  unfold CachedState.finish
  split
  next execution running =>
    cases result with
    | none => exact moves.settle id kept holds_none
    | some outcome =>
      have held := returns execution outcome running rfl
      simp only
      split
      · exact moves.settle id (moves.store kept held version write) (holds_some held)
      · exact moves.settle id kept (holds_some held)
  · exact kept

theorem retry (write : Nat) (held : TierHolds value (some stored)) (attempts : Nat) :
    inv (state.retry write stored attempts) := by
  unfold CachedState.retry
  split
  · exact moves.removeWrite write kept
  · exact moves.setWrite write _ kept held

theorem attempt (write : Nat) (reply : WriteReply) : inv (state.attempt write reply) := by
  unfold CachedState.attempt
  split
  next stored attempts pending =>
    have held : TierHolds value (some stored) := moves.written kept pending
    cases reply with
    | written => exact moves.removeWrite write (moves.setShared kept held)
    | lost => exact moves.retry (moves.setShared kept held) write held attempts
    | failed => exact moves.retry kept write held attempts
  · exact kept

theorem cancel (id : Nat) : inv (state.cancel id) := by
  unfold CachedState.cancel
  split
  · exact moves.remove id kept
  · exact kept

/-- A read starts where the tier of the process can be trusted, and a function returns a value
that has the property. -/
theorem step (op : CachedOp) (uncleared : ¬ op.Clears)
    (starts : op.Starts → TierHolds value state.l1 ∧ (config.tiered → reads state) ∧
      may (.call state.floor))
    (returns : ∀ id outcome ttl version write execution,
      op = .finish id (some outcome) ttl version write →
      state.processes id = some ⟨.rebuild, .running execution⟩ → value ⟨execution, outcome⟩) :
    inv (state.step config op) := by
  cases op with
  | call id =>
    obtain ⟨owned, read, allowed⟩ := starts trivial
    rw [CachedState.step]
    split
    · exact kept
    · exact moves.lookup kept id allowed owned read
  | startRebuild id => exact moves.startRebuild kept id (starts trivial).1 (starts trivial).2.1
  | serve id reply => exact moves.serve kept id reply
  | resume id version => exact moves.resume kept id version
  | rejected id succeeds => exact moves.rejected kept id succeeds
  | join id task => exact moves.join kept id task
  | timeout id => exact moves.timeout kept id
  | wake id => exact moves.wake kept id
  | finish id _ ttl version write =>
    rw [CachedState.step]
    split
    · exact kept
    · apply moves.finish kept id
      intro execution outcome running eq
      subst eq
      exact returns id outcome ttl version write execution rfl running
  | attempt write reply => exact moves.attempt kept write reply
  | cancel id => exact moves.cancel kept id
  | loseOwn => exact moves.setOwn kept tierHolds_none
  | loseShared => exact moves.setShared kept tierHolds_none
  | tick => exact moves.tick _ _ kept
  | _ => exact absurd trivial uncleared

end

end

end Moves

end Dynastore.Caching
