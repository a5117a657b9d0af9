import Mathlib.Data.List.Count
import Dynastore.Iam.UsageCounter

/-! A quota without a window is documented as one that is never exceeded. What admits a call is
whichever store answers, so the bound rests on that store counting everything admitted so far. -/

namespace Dynastore.Iam

open List LayeredState

open Execution (run Guarded)

structure QuotaKey where
  policyId : String
  principalKey : String
deriving DecidableEq

def QuotaKey.row (key : QuotaKey) : BucketKey :=
  ⟨key.policyId, key.principalKey, 0⟩

def UsageCall.draws (key : QuotaKey) (call : UsageCall) : Bool :=
  isLifetime call.windowSeconds && call.policyId == key.policyId &&
    call.principalKey == key.principalKey

def InFlight.records (key : QuotaKey) (entry : InFlight) : Bool :=
  entry.stage == .writeThrough && entry.call.draws key

namespace LayeredState

def admittedFor (state : LayeredState) (key : QuotaKey) : Nat :=
  state.admitted.countP (·.draws key)

/-- The number of calls that Valkey admitted on the quota and that are still to be recorded. -/
def recording (state : LayeredState) (key : QuotaKey) : Nat :=
  state.inFlight.countP (·.records key)

/-- Before the first call of any process, whatever the stores hold. -/
def start (valkey : Counter String) (postgres : Counter BucketKey) : LayeredState where
  valkey := valkey
  postgres := postgres
  inFlight := []
  buffers _ := []
  admitted := []

end LayeredState

def LayeredOp.UsesLimit (key : QuotaKey) (limit : Nat) : LayeredOp → Prop
  | .begin _ call _ _ => call.draws key → call.limit = limit
  | _ => True

/-- The store that decides a call counts what the other one and the calls in flight count, and
what Valkey admits is recorded. -/
def Complete (key : QuotaKey) (state : LayeredState) : LayeredOp → Prop
  | .begin _ call _ reply => call.draws key → reply = .answered →
      state.postgres.count key.row + state.recording key ≤ state.valkey.count key.row.valkeyKey
  | .fallBack entry _ _ => entry.call.draws key → state.recording key = 0
  | .record entry _ reply => entry.call.draws key → reply ≠ .failed
  | _ => True

/-! ## The invariant -/

structure QuotaInvariant (key : QuotaKey) (limit : Nat) (state : LayeredState) : Prop where
  counted : state.admittedFor key ≤ state.postgres.count key.row
  bounded : state.admittedFor key + state.recording key ≤ limit
  calls : ∀ entry ∈ state.inFlight, entry.call.draws key →
    entry.call.limit = limit ∧ 0 < entry.call.amount

section Invariant

variable {key : QuotaKey} {limit : Nat} {state next : LayeredState} {call : UsageCall}

theorem bucketKey_of_draws (draws : call.draws key) : call.bucketKey now = key.row := by
  obtain ⟨_, _, windowSeconds, _, _⟩ := call
  simp only [UsageCall.draws, Bool.and_eq_true, beq_iff_eq] at draws
  obtain ⟨⟨lifetime, samePolicy⟩, samePrincipal⟩ := draws
  have bucket : bucketFor windowSeconds now = 0 := by
    cases windowSeconds with
    | none => rfl
    | some window =>
      have nonpositive : window ≤ 0 := by simpa [isLifetime] using lifetime
      exact if_pos nonpositive
  rw [UsageCall.bucketKey, QuotaKey.row, bucket, samePolicy, samePrincipal]

theorem recording_leave_le : (state.leave entry).recording key ≤ state.recording key :=
  List.Sublist.countP_le erase_sublist

theorem recording_leave (mem : entry ∈ state.inFlight) (records : entry.records key) :
    (state.leave entry).recording key + 1 = state.recording key := by
  have positive : 0 < state.recording key := countP_pos_iff.mpr ⟨entry, mem, records⟩
  have erased : (state.leave entry).recording key = state.recording key - 1 := by
    unfold recording leave
    rw [countP_erase, if_pos ⟨mem, records⟩]
  omega

section

variable (inv : QuotaInvariant key limit state)

include inv

theorem QuotaInvariant.unadmitted (admitted : next.admittedFor key = state.admittedFor key)
    (row : state.postgres.count key.row ≤ next.postgres.count key.row)
    (recording : next.recording key ≤ state.recording key)
    (calls : ∀ entry ∈ next.inFlight, entry ∈ state.inFlight ∨
      (entry.call.draws key → entry.call.limit = limit ∧ 0 < entry.call.amount)) :
    QuotaInvariant key limit next where
  counted := by
    rw [admitted]
    exact Nat.le_trans inv.counted row
  bounded := by
    have bounded := inv.bounded
    omega
  calls entry mem :=
    (calls entry mem).elim (inv.calls entry) id

theorem quotaInvariant_join (valkey : Counter String)
    (uses : entry.call.draws key → entry.call.limit = limit) (positive : 0 < entry.call.amount)
    (fits : entry.records key → state.admittedFor key + state.recording key + 1 ≤ limit) :
    QuotaInvariant key limit { state with valkey, inFlight := entry :: state.inFlight } where
  counted := inv.counted
  bounded := by
    have bounded := inv.bounded
    rw [recording, countP_cons]
    change state.admittedFor key + (state.recording key + _) ≤ limit
    split
    next records =>
      have fits := fits records
      omega
    · omega
  calls other mem := by
    rcases mem_cons.mp mem with eq | mem
    · subst eq
      exact fun draws => ⟨uses draws, positive⟩
    · exact inv.calls other mem

/-- Valkey admits a call on the quota only below the limit, and by the condition it counts all
that is admitted or about to be. -/
theorem quotaInvariant_begin (process : Nat) (uses : call.draws key → call.limit = limit)
    (positive : 0 < call.amount) (complete : call.draws key → reply = .answered →
      state.postgres.count key.row + state.recording key ≤ state.valkey.count key.row.valkeyKey) :
    QuotaInvariant key limit (state.begin process call now reply) := by
  have fellBack : ∀ valkey, QuotaInvariant key limit
      { state with valkey, inFlight := ⟨process, call, .fallback⟩ :: state.inFlight } := by
    intro valkey
    refine quotaInvariant_join inv valkey uses positive ?_
    intro records
    cases records
  cases reply with
  | failed => exact fellBack state.valkey
  | lost => exact fellBack _
  | answered =>
    simp only [begin, reduceCtorEq, if_false, valkeyIncrIfBelow_eq]
    split
    next allowed =>
      refine quotaInvariant_join inv _ uses positive ?_
      intro records
      have draws : call.draws key := by simpa [InFlight.records] using records
      rw [Counter.incrIfBelow_allowed, bucketKey_of_draws draws, uses draws] at allowed
      have counts := complete draws rfl
      have counted := inv.counted
      omega
    · exact inv.unadmitted rfl (Nat.le_refl _) (Nat.le_refl _) fun _ mem => .inl mem

theorem quotaInvariant_leave (entry : InFlight) : QuotaInvariant key limit (state.leave entry) :=
  inv.unadmitted rfl (Nat.le_refl _) recording_leave_le fun _ mem =>
    .inl (mem_of_mem_erase mem)

theorem quotaInvariant_admit (rows : Counter BucketKey) (buffers : Nat → List UsageCall)
    (row : state.postgres.count key.row ≤ rows.count key.row)
    (counted : call.draws key → state.postgres.count key.row + 1 ≤ rows.count key.row)
    (fits : call.draws key → state.admittedFor key + state.recording key + 1 ≤ limit) :
    QuotaInvariant key limit
      { state with postgres := rows, buffers, admitted := call :: state.admitted } := by
  have before := inv.counted
  have bounded := inv.bounded
  have admitted : admittedFor
      { state with postgres := rows, buffers, admitted := call :: state.admitted } key =
        state.admittedFor key + if call.draws key then 1 else 0 := countP_cons
  refine ⟨?_, ?_, inv.calls⟩
  · rw [admitted]
    change _ ≤ rows.count key.row
    split
    next draws =>
      have counted := counted draws
      omega
    · omega
  · rw [admitted]
    change _ + state.recording key ≤ limit
    split
    next draws =>
      have fits := fits draws
      omega
    · omega

theorem quotaInvariant_fallBack (mem : entry ∈ state.inFlight) (reply : Reply)
    (complete : entry.call.draws key → state.recording key = 0) :
    QuotaInvariant key limit (state.fallBack entry now reply) := by
  have left := quotaInvariant_leave inv entry
  have grown : ∀ rows, state.postgres.count key.row ≤ rows.count key.row →
      QuotaInvariant key limit { state.leave entry with postgres := rows } := fun _ row =>
    left.unadmitted rfl row (Nat.le_refl _) fun _ mem => .inl mem
  simp only [fallBack, postgresIncrIfBelow_eq]
  cases reply with
  | failed => exact left
  | lost => exact grown _ Counter.count_le_incrIfBelow
  | answered =>
    simp only
    split
    next allowed =>
      refine quotaInvariant_admit left _ _ Counter.count_le_incrIfBelow ?_ ?_
      · intro draws
        have positive := (inv.calls entry mem draws).2
        rw [← bucketKey_of_draws draws, Counter.count_of_allowed allowed]
        exact Nat.add_le_add_left positive _
      · intro draws
        have ⟨sameLimit, positive⟩ := inv.calls entry mem draws
        rw [Counter.incrIfBelow_allowed, bucketKey_of_draws draws, sameLimit] at allowed
        have nothing := complete draws
        have kept : (state.leave entry).recording key ≤ state.recording key :=
          recording_leave_le
        have counted := inv.counted
        change state.admittedFor key + _ + 1 ≤ limit
        omega
    · exact grown _ Counter.count_le_incrIfBelow

theorem quotaInvariant_record
    (mem : entry ∈ state.inFlight) (waits : entry.stage = .writeThrough) (reply : Reply)
    (complete : entry.call.draws key → reply ≠ .failed) :
    QuotaInvariant key limit (state.record entry now reply) := by
  have left := quotaInvariant_leave inv entry
  have fits : entry.call.draws key →
      (state.leave entry).admittedFor key + (state.leave entry).recording key + 1 ≤ limit := by
    intro draws
    have records : entry.records key := by simp [InFlight.records, waits, draws]
    have moved := recording_leave mem records
    have bounded := inv.bounded
    change state.admittedFor key + _ + 1 ≤ limit
    omega
  unfold record
  by_cases lifetime : isLifetime entry.call.windowSeconds
  · simp only [lifetime, if_true]
    split
    next failed =>
      refine quotaInvariant_admit left _ _ (Nat.le_refl _) ?_ fits
      intro draws
      exact absurd failed (complete draws)
    · refine quotaInvariant_admit left _ _ (Counter.count_le_count_add _ _ _ _) ?_ fits
      intro draws
      have positive := (inv.calls entry mem draws).2
      rw [← bucketKey_of_draws draws, postgresIncr, Counter.count_add_self]
      exact Nat.add_le_add_left positive _
  · simp only [lifetime]
    refine quotaInvariant_admit left _ _ (Nat.le_refl _) ?_ fits
    intro draws
    simp [UsageCall.draws, lifetime] at draws

omit inv in
theorem count_le_foldl_postgresIncr (calls : List UsageCall) (rows : Counter BucketKey) :
    rows.count bucket ≤ (calls.foldl
      (fun rows call => postgresIncr rows (call.bucketKey now) call.amount) rows).count bucket := by
  induction calls generalizing rows with
  | nil => exact Nat.le_refl _
  | cons call _ ih =>
    exact Nat.le_trans (Counter.count_le_count_add rows _ bucket call.amount) (ih _)

theorem quotaInvariant_step (uses : op.UsesLimit key limit) (complete : Complete key state op) :
    QuotaInvariant key limit (state.step op) := by
  cases op with
  | begin process =>
    simp only [step]
    split
    · exact inv
    next positive =>
      exact quotaInvariant_begin inv process uses (Nat.pos_of_ne_zero positive) complete
  | fallBack _ _ reply =>
    simp only [step]
    split
    next waiting => exact quotaInvariant_fallBack inv waiting.1 reply complete
    · exact inv
  | record _ _ reply =>
    simp only [step]
    split
    next waiting => exact quotaInvariant_record inv waiting.1 waiting.2 reply complete
    · exact inv
  | cancel entry => exact quotaInvariant_leave inv entry
  | flush =>
    exact inv.unadmitted rfl (count_le_foldl_postgresIncr _ _) (Nat.le_refl _)
      fun _ mem => .inl mem
  | restart =>
    exact inv.unadmitted rfl (Nat.le_refl _)
      (List.Sublist.countP_le filter_sublist) fun _ mem =>
        .inl (mem_filter.mp mem).1
  | loseValkey =>
    exact inv.unadmitted rfl (Nat.le_refl _) (Nat.le_refl _) fun _ mem => .inl mem

end

end Invariant

/-- In a run whose steps keep the deciding store complete, no more calls are admitted on a
lifetime quota than its limit. -/
theorem quota_not_exceeded (key : QuotaKey) (limit : Nat) (valkey : Counter String)
    (postgres : Counter BucketKey) (ops : List LayeredOp)
    (uses : ∀ op ∈ ops, op.UsesLimit key limit)
    (complete : Guarded LayeredState.step (Complete key) (.start valkey postgres) ops) :
    (run LayeredState.step (.start valkey postgres) ops).admittedFor key ≤ limit := by
  have initial : QuotaInvariant key limit (.start valkey postgres) :=
    ⟨Nat.zero_le _, Nat.zero_le _, nofun⟩
  have usesLimit : Guarded step (fun _ op => op.UsesLimit key limit)
      (.start valkey postgres) ops := by
    rw [Execution.guarded_iff_forall_split]
    rintro _ op _ rfl
    exact uses op (by simp)
  have preserved : ∀ state op, QuotaInvariant key limit state →
      Complete key state op ∧ op.UsesLimit key limit → QuotaInvariant key limit (state.step op) :=
    fun _ _ inv guard => quotaInvariant_step inv guard.2 guard.1
  have inv := Execution.invariant_run preserved initial (Execution.guarded_and complete usesLimit)
  exact Nat.le_trans (Nat.le_add_right _ _) inv.bounded

/-! A quota of one call. -/

def oneCall : UsageCall :=
  ⟨"p", "u", none, 1, 1⟩

def emptyStart : LayeredState :=
  .start (fun _ => none) (fun _ => none)

/-- Valkey admits the call, is lost, and a second call falls back to PostgreSQL. -/
def recordedThenLost : List LayeredOp :=
  [.begin 0 oneCall 0 .answered, .record ⟨0, oneCall, .writeThrough⟩ 0 .answered,
    .loseValkey fun _ => true, .begin 1 oneCall 0 .failed,
    .fallBack ⟨1, oneCall, .fallback⟩ 0 .answered]

theorem recordedThenLost_within_quota :
    (run LayeredState.step emptyStart recordedThenLost).admittedFor ⟨"p", "u"⟩ ≤ 1 := by
  refine quota_not_exceeded ⟨"p", "u"⟩ 1 _ _ recordedThenLost ?_ ?_
  · intro _ mem
    simp only [recordedThenLost, mem_cons, not_mem_nil, or_false] at mem
    rcases mem with eq | eq | eq | eq | eq <;> subst eq
    · exact fun _ => rfl
    · trivial
    · trivial
    · exact fun _ => rfl
    · trivial
  · refine ⟨fun _ _ => by decide, fun _ => by decide, trivial, ?_, fun _ => by decide, trivial⟩
    intro _ failed
    cases failed

/-- Valkey admits a second call after it lost the first, and after PostgreSQL admitted one
during an outage. -/
theorem quota_exceeded : ¬ (run LayeredState.step emptyStart
        [.begin 0 oneCall 0 .answered, .record ⟨0, oneCall, .writeThrough⟩ 0 .answered,
          .loseValkey fun _ => true,
          .begin 0 oneCall 0 .answered,
          .record ⟨0, oneCall, .writeThrough⟩ 0 .answered]).admittedFor ⟨"p", "u"⟩ ≤ 1 ∧
    ¬ (run LayeredState.step emptyStart
        [.begin 0 oneCall 0 .failed, .fallBack ⟨0, oneCall, .fallback⟩ 0 .answered,
          .begin 0 oneCall 0 .answered,
          .record ⟨0, oneCall, .writeThrough⟩ 0 .answered]).admittedFor ⟨"p", "u"⟩ ≤ 1 := by
  decide

end Dynastore.Iam
