import Dynastore.Tools.AdaptiveChunk
import Dynastore.Ingest.Effect

/-! The write phase of `ItemService.upsert` on a PostgreSQL collection. The prepared plans are cut
into chunks, sized from the bytes of the chunk before, and each chunk is written in a transaction of
its own: by the batch path where it is enabled and the chunk has more than one plan, by the
single-row path otherwise and where the batch path fails. An error rolls back the chunk it is raised
in and ends the upsert; the chunks before it stay committed. -/

namespace Dynastore.Ingest

def ingestChunkByteBudget : Nat := 16 * 1024 * 1024

def ingestChunkProbeRows : Nat := 1

/-- The size of the chunk after one of the given size; `bytes` estimates the payloads of a
plan. -/
def nextChunkRows (bytes : Plan → Nat) (ceiling rows : Nat) (chunk : List Plan) : Nat :=
  Tools.nextAdaptiveChunkRows (chunk.foldl (fun total plan => total + bytes plan) 0)
    chunk.length ingestChunkByteBudget rows ceiling

variable {bytes : Plan → Nat}

theorem nextChunkRows_pos (positive : 0 < rows) : 0 < nextChunkRows bytes ceiling rows chunk := by
  unfold nextChunkRows Tools.nextAdaptiveChunkRows
  split
  · exact positive
  · exact Nat.lt_of_lt_of_le Nat.zero_lt_one (Nat.le_max_left _ _)

/-- The chunks of the plans, from a first size on. A chunk has at least one plan, so that
there are no more chunks than plans. -/
def chunksFrom (bytes : Plan → Nat) (ceiling : Nat) :
    (fuel rows : Nat) → List Plan → List (List Plan)
  | 0, _, _ => []
  | _ + 1, _, [] => []
  | fuel + 1, rows, plan :: plans =>
    (plan :: plans).take rows :: chunksFrom bytes ceiling fuel
        (nextChunkRows bytes ceiling rows ((plan :: plans).take rows))
        ((plan :: plans).drop rows)

def chunks (bytes : Plan → Nat) (ceiling : Nat) (plans : List Plan) : List (List Plan) :=
  chunksFrom bytes ceiling plans.length (min ingestChunkProbeRows ceiling) plans

theorem flatten_chunksFrom (positive : 0 < rows) (enough : plans.length ≤ fuel) :
    (chunksFrom bytes ceiling fuel rows plans).flatten = plans := by
  induction fuel generalizing rows plans with
  | zero =>
    rw [List.length_eq_zero_iff.mp (Nat.le_zero.mp enough)]
    rfl
  | succ fuel ih =>
    cases plans with
    | nil => rfl
    | cons plan plans =>
      have shorter : ((plan :: plans).drop rows).length ≤ fuel := by
        rw [List.length_drop]
        omega
      rw [chunksFrom, List.flatten_cons, ih (nextChunkRows_pos positive) shorter,
        List.take_append_drop]

theorem flatten_chunks (positive : 0 < ceiling) (plans : List Plan) :
    (chunks bytes ceiling plans).flatten = plans :=
  flatten_chunksFrom (Nat.lt_min.mpr ⟨Nat.zero_lt_one, positive⟩) le_rfl

/-- What an upsert leaves: the store, the error it raised and what became of the plans of
the chunks that were committed. -/
structure Upserted where
  store : Store
  error : Option WriteError
  outcomes : List Outcome

namespace Collection

variable (collection : Collection)

/-- The single-row path of a chunk: a plan whose row is not found ends the upsert. -/
def writeRow (store : Store) (plan : Plan) : Except WriteError (Store × Outcome) :=
  match collection.writeOne store plan with
  | .ok (_, .missing) =>
    let geoid := plan.geoid
    .error (.runtimeError s!"Failed to upsert item. Geoid: {geoid}")
  | written => written

def usesBatchInsert : Bool :=
  collection.policy.any ItemsWritePolicy.enableBatchInsert

def writeChunk (store : Store) (chunk : List Plan) : Except WriteError Report :=
  if collection.usesBatchInsert && 1 < chunk.length then
    match collection.batchInsertOrUpdateDistributed store chunk with
    | .ok report => .ok report
    | .error (.conflict error) => .error (.conflict error)
    | .error _ => writeAll collection.writeRow store chunk
  else writeAll collection.writeRow store chunk

theorem writeChunk_ok {collection : Collection}
    (done : collection.writeChunk store chunk = .ok report) :
    collection.batchInsertOrUpdateDistributed store chunk = .ok report ∨
      writeAll collection.writeRow store chunk = .ok report := by
  unfold writeChunk at done
  split at done
  · split at done
    next batch => exact .inl (batch.trans done)
    · cases done
    · exact .inr done
  · exact .inr done

def writeChunks : Store → List (List Plan) → Upserted
  | store, [] => ⟨store, none, []⟩
  | store, chunk :: rest =>
    match collection.writeChunk store chunk with
    | .error error => ⟨store, some error, []⟩
    | .ok report =>
      let later := writeChunks report.store rest
      { later with outcomes := report.outcomes ++ later.outcomes }

/-- The write phase: `ceiling` is the `ingest_chunk_size` of the collection. -/
def upsert (bytes : Plan → Nat) (ceiling : Nat) (store : Store) (plans : List Plan) : Upserted :=
  collection.writeChunks store (chunks bytes ceiling plans)

end Collection

end Dynastore.Ingest
