import Mathlib.Data.List.Nodup
import Dynastore.Foundation.Execution

/-! `AsyncBufferAggregator` hands what it has buffered to a callback, at a threshold, after an
interval, and once more when it is stopped. The lock on the buffer is never held across an `await`,
so that a flush is two operations: the buffer is swapped out, and the callback ends. -/

namespace Dynastore.Tools

open Execution (run)

/-- An item is named by its number among the calls of `add`. `batches` are those swapped out whose
callback has not ended, in the order in which the callback gets them, `delivered` is what went to
executions of the callback that ran to completion, and `stops` is the number of `stop` calls that
have their flush to make. -/
structure Aggregator where
  buffer : List Nat
  added : Nat
  batches : List (List Nat)
  delivered : List Nat
  looping : Bool
  stops : Nat
deriving DecidableEq

inductive AggregatorOp where
  | add
  /-- `_trigger_flush`, by the loop or by `stop`, up to its `await`. -/
  | flush
  | complete
  | stop
deriving DecidableEq

namespace Aggregator

def start : Aggregator :=
  ⟨[], 0, [], [], true, 0⟩

def swap (state : Aggregator) : Aggregator :=
  if state.buffer = [] then state
  else { state with buffer := [], batches := state.batches ++ [state.buffer] }

def step (state : Aggregator) : AggregatorOp → Aggregator
  | .add => { state with buffer := state.buffer ++ [state.added], added := state.added + 1 }
  | .flush =>
    -- the loop awaits its batch, a `stop` does not wait for the batch of another one
    if state.looping then if state.batches = [] then state.swap else state
    else if state.stops = 0 then state else { state.swap with stops := state.stops - 1 }
  | .complete =>
    { state with
      batches := state.batches.tail
      delivered := state.delivered ++ state.batches.headD [] }
  -- to cancel a task that awaits another one cancels that one, and the callback with it
  | .stop =>
    { state with
      batches := if state.looping then [] else state.batches
      looping := false
      stops := state.stops + 1 }

def Returned (state : Aggregator) : Prop :=
  state.stops = 0 ∧ state.batches = []

def held (state : Aggregator) : List Nat :=
  state.delivered ++ state.batches.flatten ++ state.buffer

/-- Until `stop` is called nothing gets lost. -/
structure Sound (state : Aggregator) : Prop where
  held : state.held = List.range state.added
  looping : state.looping = true
  nonempty : [] ∉ state.batches

/-- Once it is called, an item that was added before is held as often as it was then, and it is
out of the buffer after the last swap. -/
structure Settled (item times : Nat) (state : Aggregator) : Prop where
  held : state.held.count item = times
  earlier : item < state.added
  stopping : state.looping = false
  swapped : state.stops = 0 → item ∉ state.buffer

@[simp]
theorem held_swap (state : Aggregator) : state.swap.held = state.held := by
  unfold swap
  split <;> simp [held]

@[simp]
theorem buffer_swap (state : Aggregator) : state.swap.buffer = [] := by
  unfold swap
  split
  · assumption
  · rfl

@[simp]
theorem added_swap (state : Aggregator) : state.swap.added = state.added := by
  unfold swap
  split <;> rfl

@[simp]
theorem looping_swap (state : Aggregator) : state.swap.looping = state.looping := by
  unfold swap
  split <;> rfl

@[simp]
theorem held_complete (state : Aggregator) : (state.step .complete).held = state.held := by
  cases pending : state.batches with
  | nil => simp [step, held, pending]
  | cons => simp [step, held, pending]

theorem held_flush (state : Aggregator) : (state.step .flush).held = state.held := by
  simp only [step]
  split
  · split
    · exact state.held_swap
    · rfl
  · split
    · rfl
    · exact state.held_swap

theorem added_flush (state : Aggregator) : (state.step .flush).added = state.added := by
  simp only [step]
  split <;> split <;> simp

theorem sound_step (state : Aggregator) (op : AggregatorOp) (sound : state.Sound)
    (going : op ≠ .stop) : (state.step op).Sound := by
  obtain ⟨held, looping, nonempty⟩ := sound
  cases op with
  | stop => contradiction
  | add =>
    refine ⟨?_, looping, nonempty⟩
    rw [step, List.range_succ, ← held]
    simp [Aggregator.held]
  | flush =>
    refine ⟨by rw [held_flush, added_flush, held], ?_, ?_⟩
    · rw [step, if_pos looping]
      split <;> simp [looping]
    · rw [step, if_pos looping, swap]
      split
      · split
        · exact nonempty
        next full => simpa [nonempty] using Ne.symm full
      · exact nonempty
  | complete =>
    exact ⟨by rw [held_complete, held]; rfl, looping, mt List.mem_of_mem_tail nonempty⟩

theorem settled_step (state : Aggregator) (op : AggregatorOp) (settled : state.Settled item times) :
    (state.step op).Settled item times := by
  obtain ⟨held, earlier, stopping, swapped⟩ := settled
  cases op with
  | add =>
    have other : state.added ≠ item := Nat.ne_of_gt earlier
    refine ⟨?_, Nat.lt_succ_of_lt earlier, stopping, fun none => ?_⟩
    · simpa [step, Aggregator.held, other] using held
    · simpa [step, other.symm] using swapped none
  | flush =>
    refine ⟨by rw [held_flush, held], by rwa [added_flush], ?_, ?_⟩
    · rw [step, if_neg (by simp [stopping])]
      split <;> simp [stopping]
    · rw [step, if_neg (by simp [stopping])]
      split
      next none => exact fun _ => swapped none
      next => simp
  | complete => exact ⟨by rw [held_complete, held], earlier, stopping, swapped⟩
  | stop => exact ⟨by simpa [Aggregator.held, step, stopping] using held, earlier, rfl, nofun⟩

/-- When `stop` returns, every item whose `add` came before the call has been passed on exactly
once, if and only if no callback was awaited by the loop at the call. -/
theorem delivered_on_stop_iff (before after : List AggregatorOp) (only : .stop ∉ before)
    (returned : (run step ((run step start before).step .stop) after).Returned) :
    (∀ item < (run step start before).added,
      (run step ((run step start before).step .stop) after).delivered.count item = 1) ↔
    (run step start before).batches = [] := by
  have going : ∀ op ∈ before, op ≠ .stop := fun _ mem stops => only (stops ▸ mem)
  have sound : (run step start before).Sound :=
    Execution.invariant_run sound_step ⟨rfl, rfl, nofun⟩ (Execution.guarded_of_forall going start)
  generalize run step start before = called at *
  obtain ⟨held, looping, nonempty⟩ := sound
  have counted : ∀ item < called.added,
      (run step (called.step .stop) after).delivered.count item =
        (called.delivered ++ called.buffer).count item := by
    intro item earlier
    have settled : (called.step .stop).Settled item
        ((called.delivered ++ called.buffer).count item) := by
      exact ⟨by simp [Aggregator.held, step, looping], earlier, rfl, nofun⟩
    have settled := Execution.invariant_run_of_step settled_step settled after
    have out := List.count_eq_zero.mpr (settled.swapped returned.1)
    simpa [Aggregator.held, returned.2, out] using settled.held
  have once : ∀ item < called.added,
      (called.delivered ++ called.buffer).count item + called.batches.flatten.count item = 1 := by
    intro item earlier
    have one := List.count_eq_one_of_mem List.nodup_range (List.mem_range.mpr earlier)
    simp only [← held, Aggregator.held, List.count_append] at one ⊢
    omega
  constructor
  · intro delivered
    refine List.eq_nil_iff_forall_not_mem.mpr fun batch waiting => ?_
    obtain ⟨item, mem⟩ := List.exists_mem_of_ne_nil batch fun empty => nonempty (empty ▸ waiting)
    have mem : item ∈ called.batches.flatten := List.mem_flatten.mpr ⟨batch, waiting, mem⟩
    have earlier : item < called.added := by
      rw [← List.mem_range, ← held, Aggregator.held]
      exact List.mem_append_left _ (List.mem_append_right _ mem)
    have passed := delivered item earlier
    have split := once item earlier
    have waits := List.count_pos_iff.mpr mem
    rw [counted item earlier] at passed
    omega
  · intro idle item earlier
    have split := once item earlier
    rw [idle] at split
    rw [counted item earlier]
    exact split

theorem delivered_when_idle : (run step start [.add]).batches = [] ∧ ∀ item < 1, (run step
    ((run step start [.add]).step .stop) [.flush, .complete]).delivered.count item = 1 :=
  ⟨rfl, (delivered_on_stop_iff [.add] [.flush, .complete] (by decide) ⟨rfl, rfl⟩).mpr rfl⟩

/-- The loop has swapped the buffer out when `stop` is called. -/
theorem lost_on_stop :
    (run step ((run step start [.add, .flush]).step .stop) [.flush]).Returned ∧
    ¬ ∀ item < (run step start [.add, .flush]).added,
      (run step ((run step start [.add, .flush]).step .stop) [.flush]).delivered.count item = 1 :=
  ⟨⟨rfl, rfl⟩, by decide⟩

theorem held_sublist_step (state : Aggregator) (op : AggregatorOp)
    (kept : state.held.Sublist (.range state.added)) :
    (state.step op).held.Sublist (.range (state.step op).added) := by
  cases op with
  | add => simpa [step, held, List.range_succ] using kept.append_right [state.added]
  | flush => rwa [held_flush, added_flush]
  | complete => rwa [held_complete]
  | stop =>
    refine .trans ?_ kept
    simp only [step, held]
    split <;> simp

/-- In any order of adds, flushes and stops, items are passed on in the order of their `add`
and none of them twice. -/
theorem delivered_in_order (ops : List AggregatorOp) :
    (run step start ops).delivered.Sublist (.range (run step start ops).added) := by
  have kept : (run step start ops).held.Sublist _ :=
    Execution.invariant_run_of_step held_sublist_step (by decide) ops
  rw [held, List.append_assoc] at kept
  exact (List.sublist_append_left ..).trans kept

end Aggregator

end Dynastore.Tools
