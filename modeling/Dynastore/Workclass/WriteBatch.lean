import Dynastore.Workclass.Indexer

/-! A ledger row with a `write_id` stands for all operations of one primary write. The drain
hydrates them, hands them to the indexer in chunks bounded by a byte budget and settles the whole
row by the first chunk that is not a full pass. -/

namespace Dynastore.Workclass

open List

inductive IndexReply where
  | raised (error : String)
  | reported (result : BulkIndexResult)

abbrev Submission := List IndexableOp × IndexReply

/-- `_flush_write_id_chunk`: none where the loop goes on, otherwise the action
it stops with and the reason. -/
def flushWriteIdChunk (chunk : List IndexableOp) : IndexReply → Option (StorageOutcome × String)
  | .raised error => some (.retry, error)
  | .reported result =>
    match result.transient, result.poison with
    | (_, reason) :: _, _ => some (.retry, reason)
    | [], (_, reason) :: _ => some (.dead, reason)
    | [], [] =>
      if result.passed.length = chunk.length then none
      else some (.retry, "indexer omitted op_id from grouped write_id batch")

section Loop

variable (byteBudget : Nat) (estimateDocBytes : Document → Nat) (reply : Nat → IndexReply)

/-- The loop over the hydrated operations, with the pending chunk and its size.
`call` counts the calls of the indexer so far. -/
def drainWriteBatch : (call : Nat) → (pendingChunk : List IndexableOp) →
    (pendingChunkBytes : Nat) → List IndexableOp →
    List Submission × (StorageOutcome × Option String)
  | _, [], _, [] => ([], (.done, none))
  | call, chunk, _, [] =>
    ([(chunk, reply call)],
      match flushWriteIdChunk chunk (reply call) with
      | some (action, reason) => (action, some reason)
      | none => (.done, none))
  | call, pendingChunk, pendingChunkBytes, op :: ops =>
    let chunk := pendingChunk ++ [op]
    let chunkBytes := pendingChunkBytes + estimateDocBytes op.payload
    if byteBudget ≤ chunkBytes then
      match flushWriteIdChunk chunk (reply call) with
      | some (action, reason) => ([(chunk, reply call)], (action, some reason))
      | none =>
        let rest := drainWriteBatch (call + 1) [] 0 ops
        ((chunk, reply call) :: rest.1, rest.2)
    else drainWriteBatch call chunk chunkBytes ops

/-- One write-id group of `_process_driver_rows`: the calls of the indexer and
the mark for the ledger row. -/
def processWriteIdGroup (hydrated : Except String (List IndexableOp)) :
    List Submission × (StorageOutcome × Option String) :=
  match hydrated with
  | .error exc => ([], (.retry, some ("write_id_hydration_failed: " ++ exc)))
  | .ok [] => ([], (.done, none))
  | .ok hydratedOps => drainWriteBatch byteBudget estimateDocBytes reply 0 [] 0 hydratedOps

/-! ## The loop chunk by chunk -/

def writeIdChunks : (pendingChunk : List IndexableOp) → (pendingChunkBytes : Nat) →
    List IndexableOp → List (List IndexableOp)
  | [], _, [] => []
  | chunk, _, [] => [chunk]
  | pendingChunk, pendingChunkBytes, op :: ops =>
    let chunk := pendingChunk ++ [op]
    let chunkBytes := pendingChunkBytes + estimateDocBytes op.payload
    if byteBudget ≤ chunkBytes then chunk :: writeIdChunks [] 0 ops
    else writeIdChunks chunk chunkBytes ops

def exchanges : (call : Nat) → List (List IndexableOp) → List Submission
  | _, [] => []
  | call, chunk :: chunks => (chunk, reply call) :: exchanges (call + 1) chunks

theorem flatten_writeIdChunks :
    (writeIdChunks byteBudget estimateDocBytes pendingChunk pendingChunkBytes ops).flatten =
      pendingChunk ++ ops := by
  induction ops generalizing pendingChunk pendingChunkBytes with
  | nil => cases pendingChunk <;> simp [writeIdChunks]
  | cons _ _ ih =>
    simp only [writeIdChunks]
    split
    · simp [ih]
    · simp [ih]

theorem ne_nil_of_mem_writeIdChunks
    (mem : chunk ∈ writeIdChunks byteBudget estimateDocBytes pendingChunk pendingChunkBytes ops) :
    chunk ≠ [] := by
  induction ops generalizing pendingChunk pendingChunkBytes with
  | nil =>
    cases pendingChunk with
    | nil => cases mem
    | cons =>
      simp only [writeIdChunks, mem_singleton] at mem
      simp [mem]
  | cons _ _ ih =>
    simp only [writeIdChunks] at mem
    split at mem
    · rcases mem_cons.mp mem with rfl | later
      · simp
      · exact ih later
    · exact ih mem

theorem map_fst_exchanges (call : Nat) (chunks : List (List IndexableOp)) :
    (exchanges reply call chunks).map Prod.fst = chunks := by
  induction chunks generalizing call with
  | nil => rfl
  | cons _ _ ih => simp [exchanges, ih]

end Loop

/-- The loop over exchanges that are already cut: it stops at the first that
is not a full pass. -/
def settleExchanges : List Submission → List Submission × (StorageOutcome × Option String)
  | [] => ([], (.done, none))
  | exchange :: rest =>
    match flushWriteIdChunk exchange.1 exchange.2 with
    | some (action, reason) => ([exchange], (action, some reason))
    | none => (exchange :: (settleExchanges rest).1, (settleExchanges rest).2)

theorem drainWriteBatch_eq_settleExchanges (byteBudget : Nat) (estimateDocBytes : Document → Nat)
    (call : Nat) (pendingChunk : List IndexableOp) (pendingChunkBytes : Nat) :
    drainWriteBatch byteBudget estimateDocBytes reply call pendingChunk pendingChunkBytes ops =
      settleExchanges (exchanges reply call
        (writeIdChunks byteBudget estimateDocBytes pendingChunk pendingChunkBytes ops)) := by
  induction ops generalizing call pendingChunk pendingChunkBytes with
  | nil =>
    cases pendingChunk with
    | nil => rfl
    | cons head rest =>
      simp only [drainWriteBatch, writeIdChunks, exchanges, settleExchanges]
      cases flushWriteIdChunk (head :: rest) (reply call) <;> rfl
  | cons _ _ ih =>
    simp only [drainWriteBatch, writeIdChunks]
    split
    · simp only [exchanges, settleExchanges, ih]
    · exact ih _ _ _

/-! ## No operation is lost -/

def IndexReply.names : IndexReply → IndexableOp → Prop
  | .raised _, _ => False
  | .reported result, op => op.opId ∈ result.passed ∨ op.opId ∈ result.poison.map Prod.fst

/-- Every operation was submitted, and each was reported as passed or poison by
the call it was submitted in. -/
def AllReported (ops : List IndexableOp) (submissions : List Submission) : Prop :=
  submissions.flatMap Prod.fst = ops ∧
    ∀ submission ∈ submissions, ∀ op ∈ submission.1, submission.2.names op

theorem allReported_cons :
    AllReported (exchange.1 ++ ops) (exchange :: submissions) ↔
      (∀ op ∈ exchange.1, exchange.2.names op) ∧ AllReported ops submissions := by
  rw [AllReported, AllReported, flatMap_cons, append_cancel_left_eq, forall_mem_cons, and_left_comm]

def FullPass (exchange : Submission) : Prop :=
  flushWriteIdChunk exchange.1 exchange.2 = none

def StopsWithRetry (exchanges : List Submission) : Prop :=
  ∃ before stop after reason, exchanges = before ++ stop :: after ∧
    (∀ exchange ∈ before, FullPass exchange) ∧
    flushWriteIdChunk stop.1 stop.2 = some (.retry, reason)

/-- All exchanges but the last are full passes, and every operation is named in
the reply to its chunk. -/
def CoversBatch (exchanges : List Submission) : Prop :=
  (∀ exchange ∈ exchanges.dropLast, FullPass exchange) ∧
    ∀ exchange ∈ exchanges, ∀ op ∈ exchange.1, exchange.2.names op

theorem outcome_retry_iff (exchanges : List Submission) :
    (settleExchanges exchanges).2.1 = .retry ↔ StopsWithRetry exchanges := by
  induction exchanges with
  | nil =>
    constructor
    · rintro ⟨⟩
    · rintro ⟨before, stop, after, reason, split, _⟩
      simp at split
  | cons exchange rest ih =>
    rw [settleExchanges]
    cases flushed : flushWriteIdChunk exchange.1 exchange.2 with
    | some result =>
      rcases result with ⟨_, reason⟩
      constructor
      · rintro rfl
        exact ⟨[], exchange, rest, reason, rfl, by simp, flushed⟩
      · rintro ⟨before, stop, after, _, split, passes, stopped⟩
        cases before with
        | nil =>
          cases split
          rw [flushed] at stopped
          cases stopped
          rfl
        | cons =>
          cases split
          have passed := passes exchange (.head _)
          rw [FullPass, flushed] at passed
          cases passed
    | none =>
      rw [ih]
      constructor
      · rintro ⟨before, stop, after, reason, rfl, passes, stopped⟩
        refine ⟨exchange :: before, stop, after, reason, rfl, ?_, stopped⟩
        intro earlier mem
        rcases mem_cons.mp mem with rfl | later
        · exact flushed
        · exact passes earlier later
      · rintro ⟨before, stop, after, reason, split, passes, stopped⟩
        cases before with
        | nil =>
          cases split
          rw [flushed] at stopped
          cases stopped
        | cons _ before =>
          cases split
          exact ⟨before, stop, after, reason, rfl,
            fun earlier mem => passes earlier (.tail _ mem), stopped⟩

theorem allReported_iff_covers {exchanges : List Submission}
    (nonempty : ∀ exchange ∈ exchanges, exchange.1 ≠ [])
    (settled : (settleExchanges exchanges).2.1 ≠ .retry) :
    AllReported (exchanges.flatMap Prod.fst) (settleExchanges exchanges).1 ↔
      CoversBatch exchanges := by
  induction exchanges with
  | nil => simp [settleExchanges, AllReported, CoversBatch]
  | cons exchange rest ih =>
    have restNonempty : ∀ later ∈ rest, later.1 ≠ [] :=
      fun later mem => nonempty later (.tail _ mem)
    rw [settleExchanges] at settled ⊢
    cases flushed : flushWriteIdChunk exchange.1 exchange.2 with
    | some =>
      rw [AllReported, CoversBatch]
      simp only [flatMap_cons, flatMap_nil, append_nil, mem_singleton, forall_eq]
      -- what the loop did not reach is empty only where there is nothing left
      have unsent : exchange.1 = exchange.1 ++ rest.flatMap Prod.fst ↔ rest = [] := by
        rw [self_eq_append_right, flatMap_eq_nil_iff]
        constructor
        · intro empties
          by_contra leftover
          obtain ⟨later, mem⟩ := exists_mem_of_ne_nil rest leftover
          exact restNonempty later mem (empties later mem)
        · rintro rfl
          simp
      rw [unsent]
      constructor
      · rintro ⟨rfl, named⟩
        exact ⟨by simp, by simpa using named⟩
      · rintro ⟨passes, named⟩
        refine ⟨?_, named exchange (.head _)⟩
        by_contra leftover
        have passed := passes exchange (by
          rw [dropLast_cons_of_ne_nil leftover]
          exact (.head _))
        rw [FullPass, flushed] at passed
        cases passed
    | none =>
      rw [flushed] at settled
      have tail := ih restNonempty settled
      change AllReported (exchange.1 ++ rest.flatMap Prod.fst)
        (exchange :: (settleExchanges rest).1) ↔ _
      rw [allReported_cons, tail, CoversBatch, CoversBatch]
      constructor
      · rintro ⟨named, passes, restNamed⟩
        refine ⟨?_, forall_mem_cons.mpr ⟨named, restNamed⟩⟩
        cases rest with
        | nil => simp
        | cons => exact forall_mem_cons.mpr ⟨flushed, passes⟩
      · rintro ⟨passes, named⟩
        refine ⟨named exchange (.head _), ?_, (forall_mem_cons.mp named).2⟩
        cases rest with
        | nil => simp
        | cons => exact (forall_mem_cons.mp passes).2

/-- A write-id row is never settled with an operation lost exactly when the
indexer's replies ask for a retry before anything else goes wrong, or cover the
batch. -/
theorem writeIdBatch_complete_iff (byteBudget : Nat) (estimateDocBytes : Document → Nat)
    (reply : Nat → IndexReply) (ops : List IndexableOp) :
    ((processWriteIdGroup byteBudget estimateDocBytes reply (.ok ops)).2.1 ≠ .retry →
        AllReported ops (processWriteIdGroup byteBudget estimateDocBytes reply (.ok ops)).1) ↔
      (StopsWithRetry (exchanges reply 0 (writeIdChunks byteBudget estimateDocBytes [] 0 ops)) ∨
        CoversBatch
          (exchanges reply 0 (writeIdChunks byteBudget estimateDocBytes [] 0 ops))) := by
  have processed : processWriteIdGroup byteBudget estimateDocBytes reply (.ok ops) =
      settleExchanges
        (exchanges reply 0 (writeIdChunks byteBudget estimateDocBytes [] 0 ops)) := by
    rw [← drainWriteBatch_eq_settleExchanges]
    cases ops <;> rfl
  have chunksOf := map_fst_exchanges reply 0 (writeIdChunks byteBudget estimateDocBytes [] 0 ops)
  have allOps : ops = (exchanges reply 0
      (writeIdChunks byteBudget estimateDocBytes [] 0 ops)).flatMap Prod.fst := by
    rw [flatMap_def, chunksOf, flatten_writeIdChunks, nil_append]
  have nonempty : ∀ exchange ∈ exchanges reply 0
      (writeIdChunks byteBudget estimateDocBytes [] 0 ops), exchange.1 ≠ [] := by
    intro _ mem
    have chunkMem := mem_map_of_mem (f := Prod.fst) mem
    rw [chunksOf] at chunkMem
    exact ne_nil_of_mem_writeIdChunks byteBudget estimateDocBytes chunkMem
  rw [processed]
  by_cases retried : (settleExchanges
      (exchanges reply 0 (writeIdChunks byteBudget estimateDocBytes [] 0 ops))).2.1 = .retry
  · simp [retried, (outcome_retry_iff _).mp retried]
  · have unretried := (outcome_retry_iff _).not.mp retried
    have covers := allReported_iff_covers nonempty retried
    rw [← allOps] at covers
    simp [retried, unretried, covers]

/-! ## A poisoned first chunk -/

def hydratedOp (opId : Nat) (key : String) : IndexableOp where
  opId := opId
  op := .upsert
  catalogId := "c"
  collectionId := "k"
  itemId := some key
  payload := [("id", .text key)]
  idempotencyKey := key

/-- The indexer rejects item `i` and would have taken item `j`. -/
def rejectsFirst : Nat → IndexReply
  | 0 => .reported ⟨[], [], [(1, "400 mapper_parsing_exception: no reason")]⟩
  | _ => .reported ⟨[2], [], []⟩

/-- With a budget of one document per chunk the row is dead after the first
chunk, and the second operation is never submitted. -/
theorem poisoned_chunk_drops_the_rest :
    ¬ ∀ (byteBudget : Nat) (estimateDocBytes : Document → Nat) (reply : Nat → IndexReply)
        (ops : List IndexableOp),
      (processWriteIdGroup byteBudget estimateDocBytes reply (.ok ops)).2.1 ≠ .retry →
        AllReported ops
          (processWriteIdGroup byteBudget estimateDocBytes reply (.ok ops)).1 := by
  intro complete
  have reported := complete 10 (fun _ => 10) rejectsFirst [hydratedOp 1 "i", hydratedOp 2 "j"]
    (by decide)
  have submitted := congrArg (map IndexableOp.opId) reported.1
  exact absurd submitted (by decide)

end Dynastore.Workclass
