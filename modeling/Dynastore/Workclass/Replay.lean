import Dynastore.Workclass.Indexer

/-! A sub-chunk of claimed rows goes to the bulk indexer and `_apply_outcomes` marks each row by
what the indexer reports. A delete is reported as passed only where its document is still in the
index: the answer 404 to a delete that has nothing left to do is taken for a rejection. -/

namespace Dynastore.Workclass

open List EsItemsDriver

/-- `_row_to_op`, with the document built for the row as its payload. -/
def rowToOp (row : StorageRow) (payload : Document) : IndexableOp where
  opId := row.opId
  op := row.op
  catalogId := row.catalogId
  collectionId := row.collectionId.getD ""
  itemId := row.entityId
  payload := payload
  idempotencyKey := row.idempotencyKey.getD ""

abbrev Mark := StorageRow × StorageOutcome

def applyOutcomes (rows : List StorageRow) (result : BulkIndexResult) : List Mark :=
  let rowsById := Dict.collect StorageRow.opId id rows
  let marks := fun (outcome : StorageOutcome) (ids : List Nat) =>
    ids.filterMap fun opId => (rowsById.lookup opId).map fun row => (row, outcome)
  let transientIds := result.transient.map Prod.fst
  let poisonIds := result.poison.map Prod.fst
  marks .done result.passed ++ marks .retry transientIds ++ marks .dead poisonIds ++
    (rowsById.filter fun entry =>
      !(result.passed ++ transientIds ++ poisonIds).contains entry.1).map
        fun entry => (entry.2, .retry)

theorem mem_of_rowsById (found : (Dict.collect StorageRow.opId id rows).lookup opId = some row) :
    row ∈ rows ∧ row.opId = opId := by
  obtain ⟨_, mem, sameId, rfl⟩ := Dict.of_lookup_collect found
  exact ⟨mem, sameId⟩

theorem of_mem_applyOutcomes (mem : mark ∈ applyOutcomes rows result) :
    mark.1 ∈ rows ∧ (mark.2 = .done → mark.1.opId ∈ result.passed) := by
  have looked : ∀ {outcome : StorageOutcome} {ids : List Nat},
      mark ∈ ids.filterMap (fun opId =>
          ((Dict.collect StorageRow.opId id rows).lookup opId).map fun row => (row, outcome)) →
        mark.1 ∈ rows ∧ mark.1.opId ∈ ids ∧ mark.2 = outcome := by
    intro _ _ found
    obtain ⟨_, idMem, named⟩ := mem_filterMap.mp found
    obtain ⟨row, rowFound, rfl⟩ := Option.map_eq_some_iff.mp named
    obtain ⟨rowMem, rfl⟩ := mem_of_rowsById rowFound
    exact ⟨rowMem, idMem, rfl⟩
  simp only [applyOutcomes, mem_append] at mem
  rcases mem with ((done | retry) | dead) | omitted
  · exact ⟨(looked done).1, fun _ => (looked done).2.1⟩
  · exact ⟨(looked retry).1, fun done => absurd (done.symm.trans (looked retry).2.2) (by simp)⟩
  · exact ⟨(looked dead).1, fun done => absurd (done.symm.trans (looked dead).2.2) (by simp)⟩
  · obtain ⟨_, entryMem, rfl⟩ := mem_map.mp omitted
    obtain ⟨_, rowMem, rfl⟩ := Dict.mem_of_mem_collect (mem_of_mem_filter entryMem)
    exact ⟨rowMem, fun done => by cases done⟩

/-- The pending rows of one flush, each with its document. Their ids are the
UUIDs they were enqueued under. -/
structure SubChunk where
  pending : List (StorageRow × Document)
  distinct : (pending.map fun entry => entry.1.opId).Nodup

namespace SubChunk

def rows (chunk : SubChunk) : List StorageRow := chunk.pending.map Prod.fst

def ops (chunk : SubChunk) : List IndexableOp :=
  chunk.pending.map fun entry => rowToOp entry.1 entry.2

variable {Address : Type} [DecidableEq Address]

def report (chunk : SubChunk) (driver : EsItemsDriver) (cluster : EsCluster Address)
    (documents : EsDocuments Address) : BulkIndexResult :=
  (driver.indexBulk cluster none documents chunk.ops).2

def marks (chunk : SubChunk) (driver : EsItemsDriver) (cluster : EsCluster Address)
    (documents : EsDocuments Address) : List Mark :=
  applyOutcomes chunk.rows (chunk.report driver cluster documents)

theorem distinct_ops (chunk : SubChunk) : (chunk.ops.map IndexableOp.opId).Nodup := by
  have sameIds : chunk.ops.map IndexableOp.opId =
      chunk.pending.map fun entry => entry.1.opId := by
    simp [ops, Function.comp_def, rowToOp]
  rw [sameIds]
  exact chunk.distinct

theorem lookup_rowsById (chunk : SubChunk) (mem : row ∈ chunk.rows) :
    (Dict.collect StorageRow.opId id chunk.rows).lookup opId = some row ↔ row.opId = opId := by
  have distinctIds : (chunk.rows.map StorageRow.opId).Nodup := by
    simpa [rows, Function.comp_def] using chunk.distinct
  constructor
  · exact fun found => (mem_of_rowsById found).2
  · rintro rfl
    exact Dict.lookup_collect_of_unique mem fun _ otherMem sameId =>
      inj_on_of_nodup_map distinctIds otherMem mem sameId

theorem mem_applyOutcomes (chunk : SubChunk) (mem : row ∈ chunk.rows) :
    ((row, .done) ∈ applyOutcomes chunk.rows result ↔ row.opId ∈ result.passed) ∧
      ((row, .dead) ∈ applyOutcomes chunk.rows result ↔
        row.opId ∈ result.poison.map Prod.fst) := by
  have marked : ∀ (outcome given : StorageOutcome) (ids : List Nat),
      (row, outcome) ∈ ids.filterMap (fun opId =>
          ((Dict.collect StorageRow.opId id chunk.rows).lookup opId).map fun row =>
            (row, given)) ↔ row.opId ∈ ids ∧ given = outcome := by
    intro _ _ _
    rw [mem_filterMap]
    constructor
    · rintro ⟨_, idMem, found⟩
      obtain ⟨_, otherFound, pairEq⟩ := Option.map_eq_some_iff.mp found
      cases pairEq
      rw [(chunk.lookup_rowsById mem).mp otherFound]
      exact ⟨idMem, rfl⟩
    · rintro ⟨idMem, rfl⟩
      exact ⟨row.opId, idMem, by
        rw [(chunk.lookup_rowsById mem).mpr rfl, Option.map_some]⟩
  simp only [applyOutcomes, mem_append, marked]
  simp

end SubChunk

/-! ## Deletes -/

section Deletes

variable {Address : Type} [DecidableEq Address]

def Refused (driver : EsItemsDriver) (cluster : EsCluster Address) (op : IndexableOp) : Prop :=
  op.op = .upsert ∧ (classifyItem (cluster.index (cluster.locate (driver.actionTarget op))
      (driver.simplifyPayload op))).isPoison = true

/-- Every delete of the batch is the last operation with its key, and its
document is in the index when its turn comes, with no rejected upsert of the
key before it; or the ladder re-indexes the document of an upsert of the key. -/
def DeletesFindDocuments (driver : EsItemsDriver) (cluster : EsCluster Address)
    (documents : EsDocuments Address) (ops : List IndexableOp) : Prop :=
  ∀ before op after, ops = before ++ op :: after → op.op = .delete →
    (∀ later ∈ after, later.idempotencyKey ≠ op.idempotencyKey) ∧
      ((driver.recovered cluster ops op.idempotencyKey).isSome = true ∨
        (((cluster.bulk documents (before.map driver.action)).1
            (cluster.locate (driver.actionTarget op))).isSome = true ∧
          ∀ earlier ∈ before, earlier.idempotencyKey = op.idempotencyKey →
            ¬ Refused driver cluster earlier))

variable {driver : EsItemsDriver} {cluster : EsCluster Address}
  {documents : EsDocuments Address} {op : IndexableOp} {before : List IndexableOp}

theorem classify_delete (isDelete : op.op = .delete) :
    classifyItem (driver.answerOf cluster documents before op) =
      if ((cluster.bulk documents (before.map driver.action)).1
          (cluster.locate (driver.actionTarget op))).isSome then .passed
      else .poison "404 no reason" := by
  rw [answerOf, action, isDelete]
  simp only [EsCluster.act]
  cases present : (cluster.bulk documents (before.map driver.action)).1
      (cluster.locate (driver.actionTarget op)) with
  | none => exact classifyItem_notFound _
  | some => rfl

theorem classify_upsert (isUpsert : op.op = .upsert) :
    classifyItem (driver.answerOf cluster documents before op) =
      classifyItem (cluster.index (cluster.locate (driver.actionTarget op))
        (driver.simplifyPayload op)) := by
  rw [answerOf, action, isUpsert]
  rfl

theorem split_cases (same : first ++ left :: rest = front ++ right :: back) :
    (left ∈ front ∧ right ∈ rest) ∨ (first = front ∧ left = right) ∨ left ∈ back := by
  rcases append_eq_append_iff.mp same with ⟨gap, rfl, tail⟩ | ⟨gap, rfl, tail⟩
  · cases gap with
    | nil =>
      cases tail
      exact .inr (.inl ⟨by simp, rfl⟩)
    | cons =>
      cases tail
      exact .inl ⟨by simp, by simp⟩
  · cases gap with
    | nil =>
      cases tail
      exact .inr (.inl ⟨by simp, rfl⟩)
    | cons =>
      cases tail
      exact .inr (.inr (by simp))

variable {after : List IndexableOp}

theorem findsDocument_of_reported (distinct : (ops.map IndexableOp.opId).Nodup)
    (split : ops = before ++ op :: after) (isDelete : op.op = .delete)
    (passed : op.opId ∈ (driver.indexBulk cluster none documents ops).2.passed)
    (unpoisoned : op.opId ∉ (driver.indexBulk cluster none documents ops).2.poison.map Prod.fst) :
    (∀ later ∈ after, later.idempotencyKey ≠ op.idempotencyKey) ∧
      ((driver.recovered cluster ops op.idempotencyKey).isSome ∨
        (((cluster.bulk documents (before.map driver.action)).1
            (cluster.locate (driver.actionTarget op))).isSome ∧
          ∀ earlier ∈ before, earlier.idempotencyKey = op.idempotencyKey →
            ¬ Refused driver cluster earlier)) := by
  have mem : op ∈ ops := by rw [split]; simp
  rw [driver.mem_passed_indexBulk cluster documents distinct mem] at passed
  rw [driver.mem_poison_indexBulk cluster documents distinct mem] at unpoisoned
  refine ⟨last_of_opByKey (split ▸ distinct) (split ▸ passed.1), ?_⟩
  by_cases saved : (driver.recovered cluster ops op.idempotencyKey).isSome
  · exact .inl saved
  · have clean : ∀ first other rest, ops = first ++ other :: rest →
        other.idempotencyKey = op.idempotencyKey →
        (classifyItem (driver.answerOf cluster documents first other)).isPoison ≠ true :=
      fun first other rest cut same poison =>
        unpoisoned ⟨passed.1, by simpa using saved, first, other, rest, cut, same, poison⟩
    refine .inr ⟨?_, ?_⟩
    · by_contra absent
      apply clean before op after split rfl
      rw [classify_delete isDelete, if_neg absent]
      rfl
    · intro earlier earlierMem same refused
      obtain ⟨first, second, rfl⟩ := append_of_mem earlierMem
      apply clean first earlier (second ++ op :: after) (by simp [split]) same
      rw [classify_upsert refused.1]
      exact refused.2

theorem reported_of_findDocuments (distinct : (ops.map IndexableOp.opId).Nodup)
    (find : DeletesFindDocuments driver cluster documents ops)
    (mem : op ∈ ops) (isDelete : op.op = .delete) :
    op.opId ∈ (driver.indexBulk cluster none documents ops).2.passed ∧
      op.opId ∉ (driver.indexBulk cluster none documents ops).2.poison.map Prod.fst := by
  obtain ⟨before, after, split⟩ := append_of_mem mem
  obtain ⟨last, settled⟩ := find before op after split isDelete
  rw [driver.mem_passed_indexBulk cluster documents distinct mem,
    driver.mem_poison_indexBulk cluster documents distinct mem]
  constructor
  · refine ⟨?_, before, op, after, split, rfl, ?_⟩
    · rw [split]
      exact opByKey_of_last last
    · rw [classify_delete isDelete]
      rcases settled with saved | ⟨present, _⟩
      · split_ifs
        · exact .inl rfl
        · exact .inr ⟨rfl, saved⟩
      · rw [if_pos present]
        exact .inl rfl
  · rintro ⟨_, unsaved, first, other, rest, cut, same, poison⟩
    rcases settled with saved | ⟨present, clean⟩
    · rw [Option.isNone_iff_eq_none.mp unsaved] at saved
      cases saved
    · rcases split_cases (cut.symm.trans split) with ⟨inBefore, inRest⟩ | ⟨rfl, rfl⟩ | inAfter
      · cases kind : other.op with
        | delete => exact (find first other rest cut kind).1 op inRest same.symm
        | upsert =>
          rw [classify_upsert kind] at poison
          exact clean other inBefore same ⟨kind, poison⟩
      · rw [classify_delete isDelete, if_pos present] at poison
        cases poison
      · exact last other inAfter same

/-- Every delete of a sub-chunk is reported as passed and marked done, and none
is marked dead, exactly when the deletes find their documents. -/
theorem deletes_pass_iff_find_documents (driver : EsItemsDriver) (cluster : EsCluster Address)
    (documents : EsDocuments Address) (chunk : SubChunk) :
    (∀ row ∈ chunk.rows, row.op = .delete →
        row.opId ∈ (chunk.report driver cluster documents).passed ∧
        (row, .done) ∈ chunk.marks driver cluster documents ∧
        (row, .dead) ∉ chunk.marks driver cluster documents) ↔
      DeletesFindDocuments driver cluster documents chunk.ops := by
  constructor
  · intro pass _ op _ split isDelete
    have mem : op ∈ chunk.ops := by rw [split]; simp
    obtain ⟨entry, entryMem, rfl⟩ := mem_map.mp mem
    have rowMem : entry.1 ∈ chunk.rows := mem_map_of_mem entryMem
    obtain ⟨passed, _, notDead⟩ := pass entry.1 rowMem isDelete
    rw [SubChunk.marks, (chunk.mem_applyOutcomes rowMem).2] at notDead
    exact findsDocument_of_reported chunk.distinct_ops split isDelete passed notDead
  · intro find _ rowMem isDelete
    obtain ⟨entry, entryMem, rfl⟩ := mem_map.mp rowMem
    have mem : rowToOp entry.1 entry.2 ∈ chunk.ops := mem_map_of_mem entryMem
    obtain ⟨passed, unpoisoned⟩ :=
      reported_of_findDocuments chunk.distinct_ops find mem isDelete
    exact ⟨passed, (chunk.mem_applyOutcomes rowMem).1.mpr passed,
      fun dead => unpoisoned ((chunk.mem_applyOutcomes rowMem).2.mp dead)⟩

end Deletes

/-! ## A replayed delete -/

def deleteRow : StorageRow where
  opId := 7
  day := 0
  catalogId := "c"
  driverId := "items_elasticsearch_driver"
  collectionId := some "k"
  entityId := some "i"
  op := .delete
  status := .inFlight
  readyAt := 0
  idempotencyKey := some "i"
  claimVersion := 2
  claimedBy := some "storage_drain:b"
  claimedAt := some 400
  createdAt := 0

def deleteChunk : SubChunk where
  pending := [(deleteRow, [])]
  distinct := by decide

def storedItem : EsDocuments BulkTarget :=
  Function.update (fun _ => none) ⟨"c-items", "i", some "k"⟩ (some [("id", .text "i")])

/-- The drain that deleted the document died before it marked the row, so the
next drain deletes it again. -/
theorem replayed_delete_is_dead : ¬ (∀ (driver : EsItemsDriver) (cluster : EsCluster BulkTarget)
        (documents : EsDocuments BulkTarget) (chunk : SubChunk), ∀ row ∈ chunk.rows,
        row.op = .delete → row.opId ∈ (chunk.report driver cluster documents).passed ∧
          (row, .done) ∈ chunk.marks driver cluster documents ∧
          (row, .dead) ∉ chunk.marks driver cluster documents) := by
  intro always
  have marked := always plainDriver openCluster
    (plainDriver.indexBulk openCluster none storedItem deleteChunk.ops).1 deleteChunk deleteRow
    (by simp [deleteChunk, SubChunk.rows]) rfl
  exact marked.2.2 (by decide)

end Dynastore.Workclass
