import Dynastore.Ingest.Upsert

/-! When an upsert raises a conflict, the chunks before the one that raises it are committed. So the
tables are as before the call just when none of their plans was written: each of them is rejected or
echoed against the store before the call. -/

namespace Dynastore.Ingest

open List

variable {plans : List Plan}

/-! ## Lists of plans -/

theorem writeAll_marks (idle : Store → Entry → Prop)
    (each : ∀ store, ∀ entry ∈ entries, ∀ next outcome, write store entry = .ok (next, outcome) →
        (next = store ∧ idle store entry) ∨ Marked plans next)
    (done : writeAll write store entries = .ok report) :
    (report.store = store ∧ ∀ entry ∈ entries, idle store entry) ∨
      Marked plans report.store := by
  induction entries generalizing store report with
  | nil =>
    cases done
    exact .inl ⟨rfl, by simp⟩
  | cons entry _ ih =>
    obtain ⟨next, outcome, later, first, rest, rfl⟩ := writeAll_cons_ok done
    have tail := ih (fun store entry mem => each store entry (.tail _ mem)) rest
    rcases each store entry (.head _) next outcome first with
      ⟨rfl, own⟩ | marked
    · rcases tail with ⟨kept, others⟩ | marked
      · exact .inl ⟨kept, forall_mem_cons.mpr ⟨own, others⟩⟩
      · exact .inr marked
    · rcases tail with ⟨kept, _⟩ | later
      · exact .inr (by rw [show later.store = next from kept]; exact marked)
      · exact .inr later

theorem writeAll_of_idle
    (each : ∀ entry ∈ entries, ∃ outcome, write store entry = .ok (store, outcome)) :
    ∃ outcomes, writeAll write store entries = .ok ⟨store, outcomes⟩ := by
  induction entries with
  | nil => exact ⟨[], rfl⟩
  | cons entry _ ih =>
    obtain ⟨outcome, first⟩ := each entry (.head _)
    obtain ⟨outcomes, rest⟩ := ih fun other mem =>
      each other (.tail _ mem)
    refine ⟨outcome :: outcomes, ?_⟩
    rw [writeAll, first]
    simp only [rest]

namespace Collection

variable {collection : Collection} {store next : Store} {plan : Plan}

/-! ## The single-row path -/

theorem writeOne_of_idle (idle : collection.Idle store plan) :
    ∃ outcome, outcome ≠ .missing ∧ collection.writeOne store plan = .ok (store, outcome) := by
  obtain ⟨decision, decided, idle⟩ := idle
  unfold writeOne insertOrUpdateDistributed
  rw [decided]
  cases decision with
  | conflict error | insert | newVersion record | update record => cases idle
  | _ => exact ⟨_, by simp, rfl⟩

theorem writeRow_of_idle (idle : collection.Idle store plan) :
    ∃ outcome, collection.writeRow store plan = .ok (store, outcome) := by
  obtain ⟨outcome, present, written⟩ := writeOne_of_idle idle
  refine ⟨outcome, ?_⟩
  rw [writeRow, written]
  cases outcome with
  | missing => exact absurd rfl present
  | _ => rfl

variable {outcome : Outcome} {inserts chunk : List Plan} {decision : Decision}

/-! ## The batch path -/

theorem isIdle_bare (decision : Decision) : decision.bare.isIdle = decision.isIdle := by
  cases decision <;> rfl

theorem isIdle_congr {left right : Decision} (same : left.bare = right.bare) :
    left.isIdle = right.isIdle := by
  rw [← isIdle_bare left, ← isIdle_bare right, same]

theorem lookup_padTo (given : payload.lookup column = some cell) :
    (padTo columns payload).lookup column = some cell := by
  rw [padTo, lookup_append, given]
  rfl

theorem batchInsert_marks (timed : ∀ plan ∈ inserts, plan ∈ plans ∧ plan.IsTimed)
    (done : collection.batchInsert store inserts = .ok next) :
    (next = store ∧ inserts = []) ∨ Marked plans next := by
  unfold batchInsert at done
  split at done
  · cases done
    rcases eq_nil_or_concat inserts with rfl | ⟨_, last, eq⟩
    · exact .inl ⟨rfl, rfl⟩
    · obtain ⟨mem, lastTimed⟩ := timed last (by rw [eq]; simp)
      refine .inr ?_
      nth_rewrite 2 [eq]
      rw [concat_eq_append, foldl_append]
      exact marked_put _ mem (stamped_insertedItem
        (fun _ _ _ given => lookup_padTo given) lastTimed)
  · cases done

theorem finishPlan_marks (mem : plan ∈ plans) (timed : plan.IsTimed)
    (done : collection.finishPlan inserts store (plan, decision) = .ok (next, outcome)) :
    (next = store ∧ (decision.isIdle ∨ decision = .insert ∨ collection.Idle store plan)) ∨
      Marked plans next := by
  rcases finishPlan_cases done with
    ⟨kept, ⟨idle, _⟩ | ⟨geoid, rfl, _⟩ | ⟨inserted, _⟩⟩ | ⟨result, written, _⟩
  · exact .inl ⟨kept, .inl idle⟩
  · exact .inl ⟨kept, .inl rfl⟩
  · exact .inl ⟨kept, .inr (.inl inserted)⟩
  · rcases idle_or_marked mem timed written with ⟨kept, idle⟩ | marked
    · exact .inl ⟨kept, .inr (.inr idle)⟩
    · exact .inr marked

theorem batch_marks (timed : ∀ plan ∈ chunk, plan ∈ plans ∧ plan.IsTimed)
    (done : collection.batchInsertOrUpdateDistributed store chunk = .ok report) :
    (report.store = store ∧ ∀ plan ∈ chunk, collection.Idle store plan) ∨
      Marked plans report.store := by
  obtain ⟨decisions, inserted, taken, statements, done⟩ := batch_ok done
  have entryTimed : ∀ entry ∈ decisions, entry.1 ∈ plans ∧ entry.1.IsTimed :=
    fun entry mem => timed entry.1 (exists_decision_of_entry taken mem).1
  have rest := writeAll_marks (fun store entry => entry.2.isIdle ∨ entry.2 = .insert ∨
      collection.Idle store entry.1)
    (fun _ entry mem _ _ written =>
      finishPlan_marks (entryTimed entry mem).1 (entryTimed entry mem).2 written)
    done
  have first : (inserted = store ∧ insertPartition decisions = []) ∨
      Marked plans inserted :=
    batchInsert_marks
      (fun plan mem => entryTimed (plan, .insert) (mem_insertPartition.mp mem))
      statements
  rcases rest with ⟨kept, idle⟩ | marked
  · rcases first with ⟨rfl, nothing⟩ | marked
    · refine .inl ⟨kept, ?_⟩
      intro plan mem
      obtain ⟨decision, found⟩ := exists_entry_of_plan taken mem
      obtain ⟨_, own, decided, same⟩ := exists_decision_of_entry taken found
      rcases idle _ found with rejected | inserted | single
      · exact ⟨own, decided, (isIdle_congr same).trans rejected⟩
      · have inPartition : plan ∈ insertPartition decisions := by
          rw [mem_insertPartition]
          exact (show decision = .insert from inserted) ▸ found
        rw [nothing] at inPartition
        cases inPartition
      · exact single
    · exact .inr (kept ▸ marked)
  · exact .inr marked

theorem batch_of_idle (idle : ∀ plan ∈ chunk, collection.Idle store plan) : (∃ outcomes,
      collection.batchInsertOrUpdateDistributed store chunk = .ok ⟨store, outcomes⟩) ∨
    ∃ message,
      collection.batchInsertOrUpdateDistributed store chunk = .error (.database message) := by
  unfold batchInsertOrUpdateDistributed
  cases taken : collection.batchDecisions store chunk with
  | error message => exact .inr ⟨message, rfl⟩
  | ok decisions =>
    have idleEntries : ∀ entry ∈ decisions, entry.2.isIdle := by
      intro entry mem
      obtain ⟨inChunk, _, decided, same⟩ := exists_decision_of_entry taken mem
      obtain ⟨decision, decided', isIdle⟩ := idle entry.1 inChunk
      rw [decided] at decided'
      cases decided'
      exact (isIdle_congr same).symm.trans isIdle
    have quiet : decisions.findSome? (Decision.conflictError ·.2) = none := by
      rw [findSome?_eq_none_iff]
      intro entry mem
      have rejected := idleEntries entry mem
      cases decision : entry.2 with
      | conflict => rw [decision] at rejected; cases rejected
      | _ => rfl
    have nothing : insertPartition decisions = [] := by
      rw [eq_nil_iff_forall_not_mem]
      intro plan mem
      cases idleEntries _ (mem_insertPartition.mp mem)
    have each : ∀ entry ∈ decisions, ∃ outcome,
        collection.finishPlan (insertPartition decisions) store entry = .ok (store, outcome) :=
      fun entry mem => by
        obtain ⟨_, decision⟩ := entry
        have idle := idleEntries _ mem
        cases decision with
        | conflict error | insert | newVersion record | update record => cases idle
        | _ => exact ⟨_, rfl⟩
    obtain ⟨outcomes, finished⟩ := writeAll_of_idle each
    refine .inl ⟨outcomes, ?_⟩
    simp only [quiet]
    rw [nothing] at finished ⊢
    exact finished

/-! ## Chunks -/

theorem writeChunk_marks (timed : ∀ plan ∈ chunk, plan ∈ plans ∧ plan.IsTimed)
    (done : collection.writeChunk store chunk = .ok report) :
    (report.store = store ∧ ∀ plan ∈ chunk, collection.Idle store plan) ∨
      Marked plans report.store :=
  (writeChunk_ok done).elim (batch_marks timed)
    (writeAll_marks collection.Idle fun _ plan mem _ _ written => by
      unfold writeRow at written
      split at written
      · cases written
      · obtain ⟨listed, own⟩ := timed plan mem
        unfold writeOne at written
        split at written
        next done => cases written; exact idle_or_marked listed own done
        next done => cases written; exact idle_or_marked listed own done
        next raised => cases written; exact .inl ⟨rfl, idle_of_rejected raised⟩
        · cases written)

theorem writeChunk_of_idle (idle : ∀ plan ∈ chunk, collection.Idle store plan) :
    ∃ outcomes, collection.writeChunk store chunk = .ok ⟨store, outcomes⟩ := by
  have rows := writeAll_of_idle fun plan mem => writeRow_of_idle (idle plan mem)
  unfold writeChunk
  split
  · rcases batch_of_idle idle with ⟨outcomes, written⟩ | ⟨_, failed⟩
    · exact ⟨outcomes, by rw [written]⟩
    · rw [failed]
      exact rows
  · exact rows

theorem writeChunks_marks {chunks : List (List Plan)}
    (timed : ∀ chunk ∈ chunks, ∀ plan ∈ chunk, plan ∈ plans ∧ plan.IsTimed)
    (marked : Marked plans store) : Marked plans (collection.writeChunks store chunks).store := by
  induction chunks generalizing store with
  | nil => exact marked
  | cons chunk _ ih =>
    rw [writeChunks]
    cases written : collection.writeChunk store chunk with
    | error => exact marked
    | ok =>
      apply ih fun other mem => timed other (.tail _ mem)
      rcases writeChunk_marks (timed chunk (.head _)) written with
        ⟨kept, _⟩ | marked
      · exact kept ▸ marked
      · exact marked

/-- The plan is dated, as Phase 2 dates it: with a time that no stored row carries. -/
def IsDatedFor (store : Store) (plan : Plan) : Prop :=
  ∃ instant, plan.hubPayload.lookup "transaction_time" = some (.time instant) ∧
    ∀ geoid item, store.get geoid = some item → item.hub "transaction_time" ≠ .time instant

theorem not_marked (dated : ∀ plan ∈ plans, IsDatedFor store plan) : ¬ Marked plans store := by
  rintro ⟨geoid, item, stored, plan, mem, stamped⟩
  obtain ⟨_, given, unused⟩ := dated plan mem
  rw [given, Option.some.injEq] at stamped
  exact unused geoid item stored stamped.symm

/-- The chunks before the one that raises the conflict hold only plans that are rejected or
echoed against the store before the call. -/
def RefusedBeforeWriting (collection : Collection) (store : Store)
    (chunks : List (List Plan)) : Prop :=
  ∃ before chunk after error, chunks = before ++ chunk :: after ∧
    (∀ earlier ∈ before, ∀ plan ∈ earlier, collection.Idle store plan) ∧
    collection.writeChunk store chunk = .error (.conflict error)

theorem store_of_refusedBeforeWriting {chunks : List (List Plan)}
    (refused : collection.RefusedBeforeWriting store chunks) :
    (collection.writeChunks store chunks).store = store := by
  obtain ⟨before, _, _, _, rfl, idle, raised⟩ := refused
  induction before with
  | nil =>
    rw [nil_append, writeChunks, raised]
  | cons earlier _ ih =>
    obtain ⟨_, written⟩ := writeChunk_of_idle (idle earlier (.head _))
    rw [cons_append, writeChunks, written]
    exact ih fun other mem => idle other (.tail _ mem)

theorem refusedBeforeWriting_of_store {chunks : List (List Plan)}
    (timed : ∀ chunk ∈ chunks, ∀ plan ∈ chunk, plan ∈ plans ∧ plan.IsTimed)
    (unmarked : ¬ Marked plans store)
    (raised : (collection.writeChunks store chunks).error = some (.conflict error))
    (kept : (collection.writeChunks store chunks).store = store) :
    collection.RefusedBeforeWriting store chunks := by
  induction chunks with
  | nil => cases raised
  | cons chunk rest ih =>
    rw [writeChunks] at raised kept
    cases written : collection.writeChunk store chunk with
    | error =>
      rw [written] at raised
      cases raised
      exact ⟨[], chunk, rest, error, rfl, by simp, written⟩
    | ok report =>
      simp only [written] at raised kept
      have restTimed := fun other mem => timed other (mem_cons_of_mem chunk mem)
      rcases writeChunk_marks (timed chunk (.head _)) written with
        ⟨same, idle⟩ | marked
      · rw [same] at raised kept
        obtain ⟨before, refused, after, cause, split, idleBefore, conflict⟩ :=
          ih restTimed raised kept
        refine ⟨chunk :: before, refused, after, cause, by rw [split]; rfl, ?_, conflict⟩
        exact forall_mem_cons.mpr ⟨idle, idleBefore⟩
      · have final : Marked plans (collection.writeChunks report.store rest).store :=
          writeChunks_marks restTimed marked
        rw [kept] at final
        exact absurd final unmarked

/-- An upsert that raises a conflict has written nothing just when the plans of the chunks
committed before were all rejected or echoed. -/
theorem refused_upsert_writes_nothing_iff (collection : Collection) (bytes : Plan → Nat)
    {ceiling : Nat} (positive : 0 < ceiling) (store : Store) (plans : List Plan)
    (dated : ∀ plan ∈ plans, IsDatedFor store plan) {error : ConflictError}
    (raised : (collection.upsert bytes ceiling store plans).error = some (.conflict error)) :
    (collection.upsert bytes ceiling store plans).store = store ↔
      collection.RefusedBeforeWriting store (chunks bytes ceiling plans) := by
  have timed : ∀ chunk ∈ chunks bytes ceiling plans, ∀ plan ∈ chunk,
      plan ∈ plans ∧ plan.IsTimed := by
    intro _ chunkMem plan planMem
    have mem : plan ∈ plans := by
      rw [← flatten_chunks positive plans]
      exact mem_flatten_of_mem chunkMem planMem
    obtain ⟨instant, given, _⟩ := dated plan mem
    exact ⟨mem, instant, given⟩
  constructor
  · intro kept
    exact refusedBeforeWriting_of_store timed (not_marked dated) raised kept
  · exact store_of_refusedBeforeWriting

theorem isDatedFor_storedParcel (later : instant ≠ 10) :
    IsDatedFor storedParcel (parcel geoid externalId geometry instant) := by
  refine ⟨instant, rfl, ?_⟩
  intro other _ stored eq
  by_cases own : other = 1
  · subst own
    cases stored
    cases eq
    exact later rfl
  · rw [storedParcel, Register.get_put_of_ne _ own, Register.get_empty] at stored
    cases stored

/-- A list whose first item is refused leaves the parcels alone. -/
theorem refused_upsert_writes_nothing_first :
    ((parcels .update (some .refuse)).upsert (fun _ => 1) 50 storedParcel
      [parcel 2 "b" "q" 11, parcel 3 "c" "r" 12]).store = storedParcel := by
  have raised : ((parcels .update (some .refuse)).upsert (fun _ => 1) 50 storedParcel
      [parcel 2 "b" "q" 11, parcel 3 "c" "r" 12]).error =
        some (.conflict (duplicateError 1 ⟨[.externalId], none⟩)) := rfl
  refine (refused_upsert_writes_nothing_iff _ _ (by decide) _ _ ?_ raised).mpr
    ⟨[], _, _, duplicateError 1 ⟨[.externalId], none⟩, rfl, by simp, rfl⟩
  intro _ mem
  simp only [mem_cons, not_mem_nil, or_false] at mem
  rcases mem with rfl | rfl
  · exact isDatedFor_storedParcel (by decide)
  · exact isDatedFor_storedParcel (by decide)

/-- The first item of the list stays written when the second is refused. -/
theorem refused_upsert_keeps_first_item :
    ((parcels .update (some .refuse)).upsert (fun _ => 1) 50 storedParcel
      [parcel 2 "a" "q" 11, parcel 3 "b" "r" 12]).error.any WriteError.isConflict = true ∧
    ((parcels .update (some .refuse)).upsert (fun _ => 1) 50 storedParcel
      [parcel 2 "a" "q" 11, parcel 3 "b" "r" 12]).store ≠ storedParcel := by
  refine ⟨by decide, ?_⟩
  intro kept
  have found : ((((parcels .update (some .refuse)).upsert (fun _ => 1) 50 storedParcel
      [parcel 2 "a" "q" 11, parcel 3 "b" "r" 12]).store).get 2).isSome := by decide
  rw [kept] at found
  revert found
  decide

end Collection

end Dynastore.Ingest
