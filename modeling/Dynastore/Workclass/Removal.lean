import Dynastore.Workclass.Effect

/-! Elasticsearch places a document by its index, its id and its routing. A bulk action is routed as
the driver says, the geometry ladder always by the collection, and it runs after all actions of the
request. A delete therefore misses a copy that the ladder has placed elsewhere, or places after it.
-/

namespace Dynastore.Workclass

open List

open Execution (run)

/-- One call of `index_bulk`, with what Elasticsearch answers to the documents it
is asked to index. -/
structure IndexerCall where
  ops : List IndexableOp
  answers : BulkTarget → Document → BulkItem
  failure : Option String := none

def IndexerCall.cluster (call : IndexerCall) : EsCluster BulkTarget where
  locate := id
  index := call.answers

namespace EsItemsDriver

def handle (driver : EsItemsDriver) (documents : EsDocuments BulkTarget) (call : IndexerCall) :
    EsDocuments BulkTarget :=
  (driver.indexBulk call.cluster call.failure documents call.ops).1

/-- Where the ladder indexes a document that is recovered under the operation's
key. -/
def ladderTarget (driver : EsItemsDriver) (op : IndexableOp) : BulkTarget where
  index := driver.itemsIndexName op.catalogId
  id := op.idempotencyKey
  routing := if op.collectionId = "" then none else some op.collectionId

/-- The operations of the call on the id at hand all go to its home, and where
Elasticsearch accepts a document from the ladder, that one goes home too and the
call has no delete of the id. -/
structure Settles (driver : EsItemsDriver) (home : BulkTarget) (call : IndexerCall) : Prop where
  routed : ∀ op ∈ call.ops, op.idempotencyKey = home.id → driver.actionTarget op = home
  degraded : ∀ op ∈ call.ops, ∀ upsert ∈ call.ops, op.idempotencyKey = home.id →
    upsert.idempotencyKey = home.id → upsert.op = .upsert →
    ∀ candidate ∈ driver.degrade (driver.simplifyPayload upsert),
      (call.answers (driver.ladderTarget op) candidate).accepted = true →
      driver.ladderTarget op = home ∧
        ∀ other ∈ call.ops, other.idempotencyKey = home.id → other.op = .upsert

variable {driver : EsItemsDriver} {home target : BulkTarget} {call : IndexerCall}
  {documents : EsDocuments BulkTarget}

theorem Settles.recovered (settles : driver.Settles home call)
    (found : driver.recovered call.cluster call.ops home.id = some saved) :
    saved.1 = home ∧ (∃ upsert ∈ call.ops, upsert.idempotencyKey = home.id ∧ upsert.op = .upsert) ∧
      ∀ other ∈ call.ops, other.idempotencyKey = home.id → other.op = .upsert := by
  rw [EsItemsDriver.recovered] at found
  split at found
  next op _ opFound docFound =>
    obtain ⟨candidate, accepted, rfl⟩ := Option.map_eq_some_iff.mp found
    obtain ⟨opMem, opKey⟩ := opByKey_mem opFound
    obtain ⟨upsert, mem, upsertKey, rfl⟩ := Dict.of_lookup_collect docFound
    obtain ⟨upsertMem, isUpsert⟩ := mem_filter.mp mem
    have atTarget : driver.ladderTarget op = ⟨driver.itemsIndexName op.catalogId, home.id,
          if op.collectionId = "" then none else some op.collectionId⟩ := by
      rw [ladderTarget, opKey]
    have isAccepted : (call.answers (driver.ladderTarget op) candidate).accepted := by
      rw [atTarget]
      exact find?_some (p := call.cluster.accepts _) accepted
    obtain ⟨same, upserts⟩ := settles.degraded op opMem upsert upsertMem opKey upsertKey
      (by simpa using isUpsert) candidate (mem_of_find?_eq_some accepted) isAccepted
    exact ⟨atTarget.symm.trans same, ⟨upsert, upsertMem, upsertKey, by simpa using isUpsert⟩,
      upserts⟩
  · cases found

theorem handle_eq_bulk (sent : call.failure = none) (sameId : target.id = home.id)
    (unsaved : ∀ saved, driver.recovered call.cluster call.ops home.id = some saved →
      saved.1 ≠ target) :
    driver.handle documents call target =
      (call.cluster.bulk documents (call.ops.map driver.action)).1 target := by
  rw [handle, sent]
  cases ops : call.ops with
  | nil => rfl
  | cons head =>
    rw [← ops]
    have mem : head ∈ call.ops := by rw [ops]; exact .head _
    rw [driver.indexBulk_of_mem call.cluster documents mem]
    apply foldl_recover_of_ne
    intro pair _ saved found here
    by_cases own : pair.1 = home.id
    · exact unsaved saved (own ▸ found) here
    · exact own ((id_of_recovered found).symm.trans ((congrArg BulkTarget.id here).trans sameId))

theorem handle_of_ne (settles : driver.Settles home call) (sameId : target.id = home.id)
    (away : target ≠ home) : driver.handle documents call target = documents target := by
  cases failed : call.failure with
  | some =>
    rw [handle, failed]
    cases call.ops <;> rfl
  | none =>
    rw [handle_eq_bulk failed sameId fun _ found here =>
      away (here.symm.trans (settles.recovered found).1)]
    refine bulk_of_elsewhere fun op mem here => ?_
    have own : op.idempotencyKey = home.id := (congrArg BulkTarget.id here).trans sameId
    exact away (here.symm.trans (settles.routed op mem own))

theorem writesAt_of_delete (settles : driver.Settles home call) (mem : op ∈ call.ops)
    (own : op.idempotencyKey = home.id) (isDelete : op.op = .delete) :
    driver.WritesAt call.cluster home none op := by
  refine ⟨settles.routed op mem own, ?_⟩
  rw [written, isDelete]

theorem handle_of_deletes (settles : driver.Settles home call)
    (deletes : ∀ op ∈ call.ops, op.idempotencyKey = home.id → op.op = .delete)
    (gone : documents home = none) : driver.handle documents call home = none := by
  cases failed : call.failure with
  | some =>
    rw [handle, failed]
    cases call.ops <;> exact gone
  | none =>
    have kept : (call.cluster.bulk documents (call.ops.map driver.action)).1 home = documents home ∨
        (call.cluster.bulk documents (call.ops.map driver.action)).1 home = none := by
      refine bulk_of_writesAt documents fun op mem here => ?_
      have own : op.idempotencyKey = home.id := congrArg BulkTarget.id here
      exact writesAt_of_delete settles mem own (deletes op mem own)
    rw [handle_eq_bulk failed rfl, kept.elim (·.trans gone) id]
    intro _ found
    obtain ⟨_, ⟨upsert, mem, own, isUpsert⟩, _⟩ := settles.recovered found
    cases (deletes upsert mem own).symm.trans isUpsert

theorem handle_of_delete (settles : driver.Settles home call) (sent : call.failure = none)
    (ops : call.ops = first ++ delete :: rest) (isDelete : delete.op = .delete)
    (own : delete.idempotencyKey = home.id)
    (deletes : ∀ op ∈ rest, op.idempotencyKey = home.id → op.op = .delete) :
    driver.handle documents call home = none := by
  have mem : delete ∈ call.ops := by simp [ops]
  have unsaved : ∀ saved, driver.recovered call.cluster call.ops home.id = some saved →
      saved.1 ≠ home := by
    intro saved found
    cases isDelete.symm.trans ((settles.recovered found).2.2 delete mem own)
  rw [handle_eq_bulk sent rfl unsaved, ops]
  refine bulk_of_brought (fun op later here => ?_)
    (act_of_delete (writesAt_of_delete settles mem own isDelete) isDelete)
  have ownOp : op.idempotencyKey = home.id := congrArg BulkTarget.id here
  exact writesAt_of_delete settles (by simp [ops, later]) ownOp (deletes op later ownOp)

theorem sent_of_passed (passed : opId ∈
    (driver.indexBulk call.cluster call.failure documents call.ops).2.passed) :
    call.failure = none := by
  cases failed : call.failure with
  | none => rfl
  | some =>
    rw [failed] at passed
    cases ops : call.ops <;> rw [ops] at passed <;> cases passed

/-! ## Runs -/

/-- In the state a delete of the id passes, and only deletes of the id come after
it. -/
def DeletedLast (driver : EsItemsDriver) (home : BulkTarget) (state : EsDocuments BulkTarget)
    (call : IndexerCall) (later : List IndexerCall) : Prop :=
  ∃ first delete rest, call.ops = first ++ delete :: rest ∧ delete.op = .delete ∧
    delete.idempotencyKey = home.id ∧
    delete.opId ∈ (driver.indexBulk call.cluster call.failure state call.ops).2.passed ∧
    ∀ op ∈ rest ++ later.flatMap IndexerCall.ops, op.idempotencyKey = home.id → op.op = .delete

/-- Once a delete has passed and no upsert comes after it, no document with the id
is left, in every run whose calls settle. -/
theorem removed_of_settles (driver : EsItemsDriver) (home : BulkTarget)
    (documents : EsDocuments BulkTarget) (earlier later : List IndexerCall) (call : IndexerCall)
    (absent : ∀ target, target.id = home.id → documents target = none)
    (settles : ∀ other ∈ earlier ++ call :: later, driver.Settles home other)
    (deleted : driver.DeletedLast home (run driver.handle documents earlier) call later) :
    ∀ target, target.id = home.id →
      run driver.handle documents (earlier ++ call :: later) target = none := by
  obtain ⟨_, _, _, ops, isDelete, own, passed, last⟩ := deleted
  intro target sameId
  by_cases away : target = home
  · subst away
    have settledCall := settles call (by simp)
    have gone : driver.handle (run driver.handle documents earlier) call target = none :=
      handle_of_delete settledCall (sent_of_passed passed) ops isDelete own
        fun op mem => last op (mem_append_left _ mem)
    have kept : ∀ (state : EsDocuments BulkTarget) (other : IndexerCall), state target = none →
        other ∈ later → driver.handle state other target = none :=
      fun state other none mem => handle_of_deletes (settles other (by simp [mem]))
        (fun op opMem => last op (mem_append_right _ (mem_flatMap.mpr ⟨other, mem, opMem⟩))) none
    rw [Execution.run_append, Execution.run_cons]
    exact Execution.invariant_run kept gone (Execution.guarded_of_forall (fun _ mem => mem) _)
  · have kept : ∀ (state : EsDocuments BulkTarget) (other : IndexerCall), state target = none →
        driver.Settles home other → driver.handle state other target = none :=
      fun _ _ none settled => (handle_of_ne settled sameId away).trans none
    exact Execution.invariant_run kept (absent target sameId)
      (Execution.guarded_of_forall settles documents)

/-! The envelope driver does not route. A second document of the item is
rejected, and the ladder has a coarser one accepted. -/

def unroutedDriver : EsItemsDriver where
  itemsIndexName catalogId := catalogId ++ "-envelope-items"
  collectionRouting _ := none
  simplify _ _ payload := payload
  degrade _ := [[("geometry", .text "box")]]

/-- One operation on item `i`, of which the cluster rejects a document without a
geometry. -/
def callWith (opId : Nat) (op : StorageOp) (payload : Document) : IndexerCall where
  ops := [{ sentOp opId op "i" with payload := payload }]
  answers _ source := { status := some (if source.isEmpty then 400 else 201) }

theorem removed_routed_item :
    run plainDriver.handle (fun _ => none) [callWith 1 .upsert [("geometry", .text "line")],
      callWith 2 .delete []] ⟨"c-items", "i", some "k"⟩ = none := by
  refine plainDriver.removed_of_settles ⟨"c-items", "i", some "k"⟩ (fun _ => none)
    [callWith 1 .upsert [("geometry", .text "line")]] [] (callWith 2 .delete []) (fun _ _ => rfl)
    ?_ ⟨[], { sentOp 2 .delete "i" with payload := [] }, [], rfl, rfl, rfl, by decide, nofun⟩ _ rfl
  have settled : ∀ opId op payload,
      plainDriver.Settles ⟨"c-items", "i", some "k"⟩ (callWith opId op payload) := by
    intro opId op payload
    refine ⟨fun sent mem _ => ?_, nofun⟩
    rw [mem_singleton.mp mem]
    rfl
  intro call mem
  rcases mem_cons.mp mem with rfl | last
  · exact settled 1 .upsert _
  · rw [mem_singleton.mp last]
    exact settled 2 .delete []

theorem copy_left_by_ladder :
    ¬ ∀ (driver : EsItemsDriver) (home : BulkTarget) (documents : EsDocuments BulkTarget)
      (earlier later : List IndexerCall) (call : IndexerCall),
      (∀ target, target.id = home.id → documents target = none) →
      driver.DeletedLast home (run driver.handle documents earlier) call later →
      ∀ target, target.id = home.id →
        run driver.handle documents (earlier ++ call :: later) target = none := by
  intro removed
  have gone := removed unroutedDriver ⟨"c-envelope-items", "i", none⟩ (fun _ => none)
    [callWith 1 .upsert [("geometry", .text "line")], callWith 2 .upsert []] []
    (callWith 3 .delete []) (fun _ _ => rfl)
    ⟨[], { sentOp 3 .delete "i" with payload := [] }, [], rfl, rfl, rfl, by decide, nofun⟩
    ⟨"c-envelope-items", "i", some "k"⟩ rfl
  cases gone

end EsItemsDriver

end Dynastore.Workclass
