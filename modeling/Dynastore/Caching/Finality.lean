import Dynastore.Caching.Tiered
import Dynastore.Foundation.Execution
import Mathlib.Order.Monotone.Basic

/-! A tombstone carries a fresh version, so that it is documented to win over every write that
started before it. Reads compare versions, but writes to L2 do not: a value that reaches L2 behind
the tombstone replaces it. The invalidation is final in every run in which L2 is written in the
order of the calls and keeps the tombstone for as long as it is needed. -/

namespace Dynastore.Caching

open TieredState

open Execution (run Guarded)

/-! ## The condition -/

def Stored.Since (floor : Nat) (stored : Stored Written) : Prop :=
  ∀ written, stored.payload = some written → floor ≤ written.call

def TieredCall.Holds (stored : Stored Written) : TieredCall → Prop
  | .asking _ _ own => own = some stored
  | .answered _ _ own shared => own = some stored ∨ shared = some stored
  | .clearing _ => False

def TieredState.Holds (state : TieredState) (stored : Stored Written) : Prop :=
  (∃ node, state.l1 node = some stored) ∨ ∃ id call, state.calls id = some call ∧ call.Holds stored

/-- L2 answers reads, is not written by a call that started before a clear whose tombstone it
had, and loses the key only when no older value is left in an L1 or in a waiting read. -/
def InOrder (state : TieredState) : TieredOp → Prop
  | .serve _ reply => reply = .held
  | .attempt id reply => reply ≠ .failed →
      ∀ write, state.writes id = some write → state.floor ≤ write.written.call
  | .writeTombstone id succeeds => succeeds = true →
      ∀ number, state.calls id = some (.clearing number) → state.floor ≤ number
  | .loseShared => ∀ stored, state.Holds stored → stored.Since state.floor
  | _ => True

/-- The value was not set before a clear whose tombstone was written when the read started. -/
def TieredAnswer.Final (answer : TieredAnswer) : Prop :=
  ∀ written, answer.returned = some written → answer.since ≤ written.call

instance : DecidablePred TieredAnswer.Final
  | ⟨_, none⟩ => .isTrue nofun
  | ⟨since, some written⟩ =>
    decidable_of_iff (since ≤ written.call)
      ⟨fun later _ equal => Option.some.inj equal ▸ later, fun final => final written rfl⟩

/-! ## The invariant -/

/-- A value of L1, or one that a read holds, is recent or loses against L2. -/
def Stored.Covered (timeNs : Nat → Nat) (floor : Nat) (shared : Option (Stored Written))
    (stored : Stored Written) : Prop :=
  ∀ written, stored.payload = some written → stored.version ≤ timeNs written.call ∧
      (written.call < floor → ∃ newer, shared = some newer ∧ stored.version ≤ newer.version)

def TieredCall.Sound (floor begun : Nat) : TieredCall → Prop
  | .asking _ since _ => since ≤ floor
  | .answered _ since own shared =>
    (⟨since, (tieredRead own shared).returned⟩ : TieredAnswer).Final
  | .clearing number => number < begun

structure TieredInvariant (timeNs : Nat → Nat) (state : TieredState) : Prop where
  bound : state.floor ≤ state.begun
  shared : ∀ stored, state.l2 = some stored →
    stored.Since state.floor ∧ stored.Covered timeNs state.floor state.l2
  held : ∀ stored, state.Holds stored → stored.Covered timeNs state.floor state.l2
  calls : state.calls.All (·.Sound state.floor state.begun)
  answers : ∀ answer ∈ state.answers, answer.Final

section Invariant

variable {timeNs : Nat → Nat} {state : TieredState} {floor : Nat} {stored : Stored Written}
  {shared : Option (Stored Written)}

theorem Stored.covered_tombstone (version : Nat) :
    (Stored.tombstone version : Stored Written).Covered timeNs floor shared := by
  intro _ eq
  cases eq

theorem Stored.Covered.of_newer (covered : stored.Covered timeNs floor shared)
    (monotone : Monotone timeNs) (later : raised ≤ number)
    (version : newer.version = timeNs number) : stored.Covered timeNs raised (some newer) := by
  intro written value
  have stamped := (covered written value).1
  refine ⟨stamped, fun _ => ⟨newer, rfl, ?_⟩⟩
  have called : written.call ≤ number := by omega
  rw [version]
  exact Nat.le_trans stamped (monotone called)

/-! ## What is held after a step -/

theorem TieredState.holds_setOwn (holds : (state.setOwn node own).Holds stored) :
    own = some stored ∨ state.Holds stored := by
  rcases holds with ⟨other, kept⟩ | waiting
  · unfold setOwn at kept
    simp only at kept
    split at kept
    · exact .inl kept
    · exact .inr (.inl ⟨other, kept⟩)
  · exact .inr (.inr waiting)

variable {id : Nat} {call : TieredCall} {config : TieredConfig}

theorem TieredState.holds_put
    (holds : { state with calls := state.calls.put id call }.Holds stored) :
    call.Holds stored ∨ state.Holds stored := by
  rcases holds with own | ⟨other, waiting, found, holds⟩
  · exact .inr (.inl own)
  · rcases Pool.put_eq_some found with same | kept
    · exact .inl (same ▸ holds)
    · exact .inr (.inr ⟨other, waiting, kept, holds⟩)

/-! ## What each step preserves -/

namespace TieredInvariant

section

variable (inv : TieredInvariant timeNs state)

include inv

theorem setOwn (node : Nat) (own : Option (Stored Written))
    (covered : ∀ stored, own = some stored → stored.Covered timeNs state.floor state.l2) :
    TieredInvariant timeNs (state.setOwn node own) :=
  { inv with
    held := fun stored holds =>
      (holds_setOwn holds).elim (covered stored) (inv.held stored) }

theorem put (id : Nat) (sound : call.Sound state.floor state.begun)
    (covered : ∀ stored, call.Holds stored → stored.Covered timeNs state.floor state.l2) :
    TieredInvariant timeNs { state with calls := state.calls.put id call } :=
  { inv with
    held := fun stored holds =>
      (holds_put holds).elim (covered stored) (inv.held stored)
    calls := inv.calls.put id sound }

theorem remove (id : Nat) : TieredInvariant timeNs { state with calls := state.calls.remove id } :=
  { inv with
    held := by
      rintro stored (own | ⟨other, waiting, found, holds⟩)
      · exact inv.held stored (.inl own)
      · exact inv.held stored (.inr ⟨other, waiting, Pool.of_remove_eq_some found, holds⟩)
    calls := inv.calls.remove id }

theorem answer (id : Nat) (final : TieredAnswer.Final ⟨since, returned⟩) :
    TieredInvariant timeNs (state.answer id since returned) :=
  { inv.remove id with answers := List.forall_mem_cons.mpr ⟨final, inv.answers⟩ }

theorem begin : TieredInvariant timeNs { state with begun := state.begun + 1 } :=
  { inv with
    bound := Nat.le_succ_of_le inv.bound
    calls := by
      refine inv.calls.imp fun _ call _ sound => ?_
      cases call with
      | clearing => exact Nat.lt_succ_of_lt sound
      | _ => exact sound }

theorem replace (above : state.floor ≤ raised) (bound : raised ≤ state.begun)
    (recent : ∀ stored, shared = some stored →
      stored.Since raised ∧ stored.Covered timeNs raised shared)
    (covered : ∀ stored, state.Holds stored → stored.Covered timeNs raised shared) :
    TieredInvariant timeNs { state with l2 := shared, floor := raised } where
  bound := bound
  shared := recent
  held := covered
  calls := by
    refine inv.calls.imp fun _ call _ sound => ?_
    cases call with
    | asking => exact Nat.le_trans sound above
    | _ => exact sound
  answers := inv.answers

theorem get (id node : Nat) : TieredInvariant timeNs (state.get id node) := by
  apply inv.put id (Nat.le_refl _)
  intro stored own
  exact inv.held stored (.inl ⟨node, own⟩)

theorem serve (config : TieredConfig)
    (id : Nat) : TieredInvariant timeNs (state.serve config id .held) := by
  unfold TieredState.serve
  split
  next since own asking =>
    have earlier : since ≤ state.floor := inv.calls id _ asking
    have owned : ∀ stored, own = some stored →
        stored.Covered timeNs state.floor state.l2 := by
      intro stored eq
      exact inv.held stored (.inr ⟨id, _, asking, eq⟩)
    refine inv.put id ?_ ?_
    · intro written returned
      rcases returned_of_tieredRead returned with
        ⟨stored, found, value⟩ | ⟨stored, found, value, newest⟩
      · exact Nat.le_trans earlier ((inv.shared stored found).1 written value)
      · -- an older value would have lost against L2
        by_contra older
        have older : written.call < since := Nat.lt_of_not_le older
        have ⟨newer, present, version⟩ := (owned stored found written value).2 (by omega)
        exact newest newer present version
    · intro stored holds
      rcases holds with own | present
      · exact owned stored own
      · exact (inv.shared stored present).2
  · exact inv

theorem resume (id : Nat) : TieredInvariant timeNs (state.resume id) := by
  unfold TieredState.resume
  split
  next node _ _ _ answered =>
    have final := inv.calls id _ answered
    simp only
    split
    next refreshed =>
      refine TieredInvariant.answer (inv.setOwn node _ ?_) id final
      rintro _ ⟨⟩ written value
      have ⟨other, present, kept, version⟩ := refresh_of_tieredRead refreshed value
      rw [version]
      exact inv.held other (.inr ⟨id, _, answered, .inr present⟩) written kept
    · exact inv.answer id final
  · exact inv

end

theorem set (inv : TieredInvariant config.timeNs state) (write node : Nat) (value : Value)
    (exist : Option Bool) :
    TieredInvariant config.timeNs (state.set config write node value exist) := by
  have begun := inv.begin
  unfold TieredState.set
  split
  · have owned := begun.setOwn node
      (some (.envelope (config.timeNs state.begun) ⟨state.begun, value⟩)) (by
        rintro _ ⟨⟩ written ⟨⟩
        refine ⟨Nat.le_refl _, fun older => ?_⟩
        exact absurd older (Nat.not_lt.mpr inv.bound))
    split
    · exact owned
    · exact { owned with }
  · exact begun

theorem writeShared (monotone : Monotone config.timeNs) (inv : TieredInvariant config.timeNs state)
    (later : state.floor ≤ written.call) :
    TieredInvariant config.timeNs (state.writeShared config written) := by
  apply inv.replace (Nat.le_refl _) inv.bound
  · rintro _ ⟨⟩
    refine ⟨?_, ?_⟩
    · rintro _ ⟨⟩
      exact later
    · rintro _ ⟨⟩
      exact ⟨Nat.le_refl _, fun older => absurd older (Nat.not_lt.mpr later)⟩
  · intro stored holds
    exact (inv.held stored holds).of_newer monotone later rfl

theorem retry (inv : TieredInvariant timeNs state) (id : Nat)
    (write : Write) : TieredInvariant timeNs (state.retry id write) := by
  unfold TieredState.retry
  split
  · exact { inv with }
  · exact { inv with }

theorem attempt (monotone : Monotone config.timeNs) (inv : TieredInvariant config.timeNs state)
    (id : Nat) (reply : WriteReply) (ordered : InOrder state (.attempt id reply)) :
    TieredInvariant config.timeNs (state.attempt config id reply) := by
  unfold TieredState.attempt
  split
  next write pending =>
    split
    · cases reply with
      | written =>
        have later := ordered (by decide) write pending
        exact { inv.writeShared monotone later with }
      | lost =>
        have later := ordered (by decide) write pending
        exact (inv.writeShared monotone later).retry id write
      | failed => exact inv.retry id write
    · exact inv.retry id write
  · exact inv

theorem clear (inv : TieredInvariant config.timeNs state) (id node : Nat) :
    TieredInvariant config.timeNs (state.clear config id node) := by
  have owned := inv.begin.setOwn node (some (.tombstone (config.timeNs state.begun)))
    (by
      rintro _ ⟨⟩
      exact Stored.covered_tombstone _)
  exact owned.put id (Nat.lt_succ_self _) nofun

theorem writeTombstone (monotone : Monotone config.timeNs)
    (inv : TieredInvariant config.timeNs state) (id : Nat) (succeeds : Bool)
    (ordered : InOrder state (.writeTombstone id succeeds)) :
    TieredInvariant config.timeNs (state.writeTombstone config id succeeds) := by
  unfold TieredState.writeTombstone
  split
  next number clearing =>
    cases succeeds with
    | false => exact inv.remove id
    | true =>
      have later : state.floor ≤ number := ordered rfl number clearing
      have begun : number < state.begun := inv.calls id _ clearing
      rw [if_pos rfl, Nat.max_eq_right later]
      refine TieredInvariant.remove (inv.replace later (Nat.le_of_lt begun) ?_ ?_) id
      · rintro _ ⟨⟩
        exact ⟨nofun, Stored.covered_tombstone _⟩
      · intro stored holds
        exact (inv.held stored holds).of_newer monotone (Nat.le_refl number) rfl
  · exact inv

theorem loseShared (inv : TieredInvariant timeNs state) (ordered : InOrder state .loseShared) :
    TieredInvariant timeNs { state with l2 := none } := by
  apply inv.replace (Nat.le_refl _) inv.bound
  · rintro _ ⟨⟩
  · intro stored holds written value
    refine ⟨(inv.held stored holds written value).1, fun _ => ?_⟩
    have later := ordered stored holds written value
    omega

theorem step (monotone : Monotone config.timeNs)
    (inv : TieredInvariant config.timeNs state) (op : TieredOp)
    (ordered : InOrder state op) : TieredInvariant config.timeNs (state.step config op) := by
  cases op with
  | get id node =>
    rw [TieredState.step]
    split
    · exact inv
    · exact inv.get id node
  | serve id => exact ordered ▸ inv.serve config id
  | resume id => exact inv.resume id
  | set write node value exist =>
    rw [TieredState.step]
    split
    · exact inv
    · exact inv.set write node value exist
  | attempt write reply => exact inv.attempt monotone write reply ordered
  | clear id node =>
    rw [TieredState.step]
    split
    · exact inv
    · exact inv.clear id node
  | writeTombstone id succeeds => exact inv.writeTombstone monotone id succeeds ordered
  | cancel id => exact inv.remove id
  | loseOwn node =>
    apply inv.setOwn node none
    rintro _ ⟨⟩
  | loseShared => exact inv.loseShared ordered

end TieredInvariant

theorem tieredInvariant_start :
    TieredInvariant timeNs (.start found) where
  bound := Nat.zero_le _
  shared := by
    intro stored present
    have ⟨value, _, eq⟩ := Option.map_eq_some_iff.mp present
    subst eq
    refine ⟨fun _ _ => Nat.zero_le _, ?_⟩
    rintro _ ⟨⟩
    exact ⟨Nat.zero_le _, nofun⟩
  held := by
    rintro _ (⟨_, own⟩ | ⟨_, _, waiting, _⟩)
    · cases own
    · cases waiting
  calls := Pool.all_empty
  answers := nofun

end Invariant

/-! ## Runs -/

/-- In every run in order, with clocks that agree on the order of the calls, a read returns no
value set before a clear whose tombstone was written when the read started. -/
theorem clears_final (config : TieredConfig) (monotone : Monotone config.timeNs)
    (found : Option Value) (ops : List TieredOp)
    (ordered : Guarded (TieredState.step config) InOrder (.start found) ops) :
    ∀ answer ∈ (run (TieredState.step config) (.start found) ops).answers, answer.Final :=
  (Execution.invariant_run (fun _ op inv guard => inv.step monotone op guard)
    tieredInvariant_start ordered).answers

def threeAttempts : TieredConfig where
  timeNs number := number
  retryAttempts := 3
  requiredL2 := false

/-- A value that reaches L2, a clear by another instance, and a read by a third. -/
def clearAfterWrite : List TieredOp :=
  [.set 0 0 (.text "old") none, .attempt 0 .written, .clear 0 1, .writeTombstone 0 true,
    .get 1 2, .serve 1 .held, .resume 1]

theorem clears_final_clearAfterWrite :
    Guarded (TieredState.step threeAttempts) InOrder (.start none) clearAfterWrite ∧
      ∀ answer ∈ (run (TieredState.step threeAttempts) (.start none) clearAfterWrite).answers,
        answer.Final := by
  have ordered : Guarded (step threeAttempts) InOrder (.start none)
      clearAfterWrite := by
    refine ⟨trivial, ?_, trivial, ?_, trivial, rfl, trivial, trivial⟩
    · intro _ _ _
      exact Nat.zero_le _
    · intro _ _ _
      exact Nat.zero_le _
  exact ⟨ordered, clears_final threeAttempts monotone_id none clearAfterWrite ordered⟩

/-- The background write of a value set before the clear replaces the tombstone, and an
instance without a tombstone of its own returns the value. -/
theorem write_behind_tombstone_returned : (run (TieredState.step threeAttempts) (.start none)
      [.set 0 0 (.text "old") none, .clear 0 1, .writeTombstone 0 true, .attempt 0 .written,
        .get 1 2, .serve 1 .held, .resume 1]).answers = [⟨2, some ⟨1, .text "old"⟩⟩] ∧
    ¬ TieredAnswer.Final ⟨2, some ⟨1, .text "old"⟩⟩ :=
  ⟨rfl, by decide⟩

end Dynastore.Caching
