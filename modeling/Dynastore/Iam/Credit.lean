import Mathlib.Algebra.BigOperators.Group.List.Basic
import Mathlib.Algebra.Ring.Nat
import Dynastore.Iam.UsageCounter

/-! PostgreSQL is to hold, for each window, what Valkey admitted in it. A buffered increment carries
no time of its own: a flush takes the increments of a process out of its buffer and then writes them
row by row, and the bucket of each is computed at its write. Between the answer of Valkey and the
buffer no clock is read, so that a call is one operation here. -/

namespace Dynastore.Iam

open Execution (run Guarded)

/-- Where an increment waits: in the buffer of a process, or in a flush. -/
inductive Holder where
  | buffer (process : Nat)
  | flush (flush : Nat)
deriving DecidableEq

structure Delta where
  holder : Holder
  call : UsageCall
deriving DecidableEq

/-- The key under which a flush merges increments. -/
def UsageCall.target (call : UsageCall) : String × String × Option Int :=
  (call.policyId, call.principalKey, call.windowSeconds)

/-- What Valkey admitted, by bucket, and the time of the last operation are a record; nothing
reads them. -/
structure WindowState where
  rows : Counter BucketKey
  pending : List Delta
  admitted : Counter BucketKey
  clock : Int

inductive WindowOp where
  | accept (process : Nat) (call : UsageCall) (now : Int)
  | startFlush (flush process : Nat) (now : Int)
  | write (flush : Nat) (target : String × String × Option Int) (now : Int)

def WindowOp.now : WindowOp → Int
  | .accept _ _ now | .startFlush _ _ now | .write _ _ now => now

def Delta.taken (flush process : Nat) (delta : Delta) : Delta :=
  if delta.holder = .buffer process then { delta with holder := .flush flush } else delta

def Delta.isWritten (flush : Nat) (target : String × String × Option Int) (delta : Delta) : Bool :=
  delta.holder = .flush flush ∧ delta.call.target = target

namespace WindowState

def start (clock : Int) : WindowState :=
  ⟨fun _ => none, [], fun _ => none, clock⟩

def step (state : WindowState) : WindowOp → WindowState
  | .accept process call now =>
    let admitted := state.admitted.add (call.bucketKey now) call.amount
    if isLifetime call.windowSeconds then
      ⟨postgresIncr state.rows (call.bucketKey now) call.amount, state.pending, admitted, now⟩
    else ⟨state.rows, state.pending ++ [⟨.buffer process, call⟩], admitted, now⟩
  | .startFlush flush process now =>
    { state with
      pending := state.pending.map (Delta.taken flush process)
      clock := now }
  | .write flush target now =>
    { state with
      rows := (state.pending.filter (Delta.isWritten flush target)).foldl
        (fun rows delta => postgresIncr rows (delta.call.bucketKey now) delta.call.amount)
        state.rows
      pending := state.pending.filter (!Delta.isWritten flush target ·)
      clock := now }

/-- No window has closed since the last operation over an increment that is still pending. -/
def Timely (state : WindowState) (op : WindowOp) : Prop :=
  ∀ delta ∈ state.pending, delta.call.bucketKey op.now = delta.call.bucketKey state.clock

end WindowState

/-- What the increments add to a row if they are written now. -/
def load (now : Int) (key : BucketKey) (deltas : List Delta) : Nat :=
  (deltas.map fun delta => if delta.call.bucketKey now = key then delta.call.amount else 0).sum

theorem count_add (rows : Counter BucketKey) (call : UsageCall) :
    (rows.add (call.bucketKey now) call.amount).count key =
      rows.count key + if call.bucketKey now = key then call.amount else 0 := by
  split
  next eq => rw [eq, Counter.count_add_self]
  next ne => exact Counter.count_add_of_ne _ (Ne.symm ne)

theorem count_foldl (rows : Counter BucketKey) (key : BucketKey) :
    (deltas.foldl
      (fun rows delta => postgresIncr rows (delta.call.bucketKey now) delta.call.amount)
      rows).count key = rows.count key + load now key deltas := by
  induction deltas generalizing rows with
  | nil => rfl
  | cons _ _ ih =>
    rw [List.foldl_cons, ih, postgresIncr, count_add, Nat.add_assoc]
    rfl

theorem load_filter (now : Int) (written : Delta → Bool) :
    load now key (deltas.filter written) + load now key (deltas.filter (!written ·)) =
      load now key deltas := by
  have sums := ((List.filter_append_perm written deltas).map fun delta =>
    if delta.call.bucketKey now = key then delta.call.amount else 0).sum_eq
  simpa [load] using sums

theorem load_taken (flush process : Nat) :
    load now key (deltas.map (Delta.taken flush process)) = load now key deltas := by
  have same : ∀ delta, (Delta.taken flush process delta).call = delta.call := by
    intro delta
    unfold Delta.taken
    split <;> rfl
  simp only [load, List.map_map, Function.comp_def, same]

/-- What Valkey admitted in a window is in its row or pending. -/
theorem conserved_step (state : WindowState) (op : WindowOp)
    (conserved : ∀ key, state.rows.count key + load state.clock key state.pending =
      state.admitted.count key) (timely : state.Timely op) (key : BucketKey) :
    (state.step op).rows.count key + load (state.step op).clock key (state.step op).pending =
      (state.step op).admitted.count key := by
  have total := conserved key
  have kept : load op.now key state.pending = load state.clock key state.pending := by
    unfold load
    rw [List.map_congr_left fun delta mem => by rw [timely delta mem]]
  rw [← kept] at total
  cases op with
  | accept process call now =>
    simp only [WindowOp.now] at total
    simp only [WindowState.step]
    split
    · simp only [postgresIncr, count_add]
      omega
    · have joined : load now key (state.pending ++ [⟨.buffer process, call⟩]) =
          load now key state.pending + if call.bucketKey now = key then call.amount else 0 := by
        simp [load]
      simp only [count_add, joined]
      omega
  | startFlush =>
    simp only [WindowState.step, load_taken]
    exact total
  | write =>
    simp only [WindowState.step, count_foldl]
    rw [Nat.add_assoc, load_filter]
    exact total

def flushedAt (first second : Int) : List WindowOp :=
  [.accept 0 ⟨"p", "t", some 60, 1, 10⟩ 59, .accept 0 ⟨"p", "u", some 60, 1, 10⟩ 59,
    .startFlush 0 0 59, .write 0 ("p", "t", some 60) first, .write 0 ("p", "u", some 60) second]

end Dynastore.Iam
