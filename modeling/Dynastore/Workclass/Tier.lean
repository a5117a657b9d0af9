import Dynastore.Workclass.Drain

/-! The outbox does not record the tier of an obligation. The drain reads every upsert back as an
item and asks the items routing config whether a driver is still configured, so it loses obligations
of the other tiers: it settles them for want of an item with that id, or dead-letters them as
unregistered. -/

namespace Dynastore.Workclass

variable {Content : Type}

/-! ## Why a row is done -/

def RowAccepted (submissions : List Submission) (row : StorageRow) : Prop :=
  ∃ ops result doc, (ops, IndexReply.reported result) ∈ submissions ∧ rowToOp row doc ∈ ops ∧
    row.opId ∈ result.passed

def RowAbsent (reads : DrainReads Content) (row : StorageRow) : Prop :=
  ∃ item, row.entityId = some item ∧
    (reads.hub row.catalogId (row.collectionId.getD "")).active item = none

def Named (row : StorageRow) : Prop := (row.entityId.filter (· != "")).isSome = true

/-- Only the given rows are pending, with their own operations, and marked. Rows
that refer to no write are done only when they name an item that is absent or
whose operation passed. -/
structure Stream.Justified (reads : DrainReads Content) (rows : List StorageRow)
    (stream : Stream) : Prop where
  pending : ∀ entry ∈ stream.pending, entry.1 ∈ rows ∧ Named entry.1 ∧
    ∃ doc, entry.2 = rowToOp entry.1 doc
  marked : ∀ mark ∈ stream.marks, mark.1 ∈ rows
  done : ∀ row, (row, .done) ∈ stream.marks → writeIdOf row = none →
    Named row ∧ (RowAbsent reads row ∨ RowAccepted stream.submissions row)

theorem RowAccepted.append (accepted : RowAccepted submissions row) (more : List Submission) :
    RowAccepted (submissions ++ more) row := by
  obtain ⟨ops, result, doc, mem, rest⟩ := accepted
  exact ⟨ops, result, doc, List.mem_append_left _ mem, rest⟩

namespace DrainCycle

variable {cycle : DrainCycle Content} {driverRows : List StorageRow} {stream : Stream}
  {row : StorageRow}

section

variable (justified : stream.Justified cycle.reads driverRows)

include justified

theorem justified_add {next : Stream} (pending : ∀ entry ∈ next.pending, entry ∈ stream.pending)
    (marks : next.marks = stream.marks ++ more)
    (submissions : next.submissions = stream.submissions ++ sent)
    (known : ∀ mark ∈ more, mark.1 ∈ driverRows)
    (why : ∀ row, (row, .done) ∈ more → writeIdOf row = none →
      Named row ∧ (RowAbsent cycle.reads row ∨ RowAccepted next.submissions row)) :
    next.Justified cycle.reads driverRows where
  pending := fun entry mem => justified.pending entry (pending entry mem)
  marked := by
    intro mark mem
    rw [marks] at mem
    rcases List.mem_append.mp mem with old | new
    · exact justified.marked mark old
    · exact known mark new
  done := by
    intro row mem idOnly
    rw [marks] at mem
    rcases List.mem_append.mp mem with old | new
    · obtain ⟨named, why⟩ := justified.done row old idOnly
      exact ⟨named, why.imp_right fun accepted => submissions ▸ accepted.append _⟩
    · exact why row new idOnly

theorem justified_mark (known : row ∈ driverRows)
    (why : outcome = .done → Named row ∧ RowAbsent cycle.reads row) :
    (stream.mark row outcome).Justified cycle.reads driverRows := by
  refine justified_add justified (fun _ mem => mem) rfl (List.append_nil _).symm
    (fun _ new => List.mem_singleton.mp new ▸ known) ?_
  intro other new _
  cases List.mem_singleton.mp new
  exact ⟨(why rfl).1, .inl (why rfl).2⟩

theorem justified_flush : (cycle.flush stream).Justified cycle.reads driverRows := by
  unfold flush
  split
  · exact justified
  next =>
    refine justified_add justified (by simp) rfl rfl ?_ ?_
    · intro mark new
      have rowMem : mark.1 ∈ stream.pending.map Prod.fst := by
        split at new
        · obtain ⟨row, rowMem, rfl⟩ := List.mem_map.mp new
          exact rowMem
        · exact (of_mem_applyOutcomes new).1
      obtain ⟨entry, entryMem, same⟩ := List.mem_map.mp rowMem
      rw [← same]
      exact (justified.pending entry entryMem).1
    intro row new _
    cases answered : cycle.reply stream.submissions.length with
    | raised =>
      rw [answered] at new
      obtain ⟨_, _, marked⟩ := List.mem_map.mp new
      cases marked
    | reported result =>
      rw [answered] at new
      obtain ⟨rowMem, passed⟩ := of_mem_applyOutcomes new
      obtain ⟨entry, entryMem, rfl⟩ := List.mem_map.mp rowMem
      obtain ⟨_, named, doc, isOp⟩ := justified.pending entry entryMem
      refine ⟨named, .inr ?_⟩
      refine ⟨stream.pending.map Prod.snd, result, doc, by simp, ?_, passed rfl⟩
      rw [← isOp]
      exact List.mem_map_of_mem entryMem

theorem justified_append (known : row ∈ driverRows) (named : Named row) (doc : Document) :
    (cycle.append stream row (rowToOp row doc)).Justified cycle.reads driverRows := by
  have appended : ∀ pendingBytes bytes : Nat, Stream.Justified cycle.reads driverRows
      { stream with
        pending := stream.pending ++ [(row, rowToOp row doc)]
        pendingBytes := pendingBytes
        bytes := bytes } := by
    intro _ _
    refine ⟨?_, justified.marked, justified.done⟩
    intro entry mem
    rcases List.mem_append.mp mem with old | new
    · exact justified.pending entry old
    · rw [List.mem_singleton.mp new]
      exact ⟨known, named, doc, rfl⟩
  unfold append
  simp only
  split
  · exact justified_flush (appended _ _)
  · exact appended _ _

theorem justified_classify (known : row ∈ driverRows) :
    (cycle.classify stream row).Justified cycle.reads driverRows := by
  unfold classify
  split
  · exact justified
  · exact justified_mark justified known (by rintro ⟨⟩)
  · exact justified
  next found _ => exact justified_append justified known (by rw [Named, found]; rfl) []

theorem justified_writeIdGroup (known : group.2 ∈ driverRows) (refers : writeIdOf group.2 ≠ none) :
    (cycle.writeIdGroup stream group).Justified cycle.reads driverRows := by
  refine justified_add justified (fun _ mem => mem) rfl rfl
    (fun _ new => List.mem_singleton.mp new ▸ known) ?_
  intro row new idOnly
  have same : row = group.2 := congrArg Prod.fst (List.mem_singleton.mp new)
  exact absurd (same ▸ idOnly) refers

end

def InScope (scope : String × String) (row : StorageRow) : Prop :=
  (row.catalogId, row.collectionId.getD "") = scope ∧ Named row

theorem justified_hydrateRow (justified : stream.Justified cycle.reads driverRows)
    (known : row ∈ driverRows) (inScope : InScope scope row) :
    (cycle.hydrateRow (cycle.reads.hub scope.1 scope.2).active stream row).Justified
      cycle.reads driverRows := by
  obtain ⟨rfl, named⟩ := inScope
  obtain ⟨item, found⟩ := Option.isSome_iff_exists.mp named
  have isItem := (Option.filter_eq_some_iff.mp found).1
  unfold hydrateRow
  split
  next absent =>
    refine justified_mark justified known fun _ => ⟨named, item, isItem, ?_⟩
    rw [isItem] at absent
    exact absent
  · split
    · exact justified_mark justified known (by rintro ⟨⟩)
    · exact justified_append justified known named _

theorem justified_foldl {rows : List Row} (justified : stream.Justified cycle.reads driverRows)
    (steps : ∀ row ∈ rows, ∀ stream : Stream, stream.Justified cycle.reads driverRows →
      (step stream row).Justified cycle.reads driverRows) :
    (rows.foldl step stream).Justified cycle.reads driverRows := by
  induction rows generalizing stream with
  | nil => exact justified
  | cons row _ ih =>
    exact ih (steps row (.head _) stream justified)
      fun later mem => steps later (List.mem_cons_of_mem row mem)

theorem justified_readGroup (chunkRows : Nat) {rows : List StorageRow}
    (justified : stream.Justified cycle.reads driverRows)
    (inScope : ∀ row ∈ rows, row ∈ driverRows ∧ InScope scope row) :
    (cycle.readGroup scope rounds chunkRows stream rows).Justified cycle.reads driverRows := by
  induction rounds generalizing chunkRows stream rows with
  | zero => cases rows <;> exact justified
  | succ _ ih =>
    cases rows with
    | nil => exact justified
    | cons row rows =>
      have rest : ∀ later ∈ (row :: rows).drop chunkRows,
          later ∈ driverRows ∧ InScope scope later :=
        fun later mem => inScope later (List.mem_of_mem_drop mem)
      rw [readGroup]
      split
      · refine ih _ (justified_foldl justified ?_) rest
        intro failed mem stream before
        exact justified_mark before (inScope failed (List.mem_of_mem_take mem)).1 (by rintro ⟨⟩)
      next inputs found =>
        have fromHub : inputs = (cycle.reads.hub scope.1 scope.2).active := by
          unfold DrainReads.readCanonicalInputs at found
          split at found
          · cases found
          · exact (Except.ok.inj found).symm
        refine ih _ (justified_foldl justified ?_) rest
        intro hydrated mem _ before
        obtain ⟨known, located⟩ := inScope hydrated (List.mem_of_mem_take mem)
        rw [fromHub]
        exact justified_hydrateRow before known located

theorem justified_processDriverRows (cycle : DrainCycle Content) :
    (cycle.processDriverRows driverRows).Justified cycle.reads driverRows := by
  have start : Stream.Justified cycle.reads driverRows {} := ⟨by simp, by simp, by simp⟩
  refine justified_flush (justified_foldl (justified_foldl (justified_foldl start ?_) ?_) ?_)
  · exact fun row known stream before => justified_classify before known
  · intro group mem stream before
    obtain ⟨row, rowMem, rfl⟩ := Dict.mem_of_mem_collect mem
    obtain ⟨known, refers⟩ := List.mem_filter.mp rowMem
    refine justified_writeIdGroup before known ?_
    intro idOnly
    have found : writeIdOf row = none := idOnly
    rw [found] at refers
    cases refers
  · intro _ mem _ before
    refine justified_readGroup _ before ?_
    intro _ rowMem
    obtain ⟨kept, scope⟩ := Dict.mem_of_mem_group mem rowMem
    obtain ⟨known, named⟩ := List.mem_filter.mp kept
    simp only [Bool.and_eq_true] at named
    exact ⟨known, scope, named.1.2⟩

end DrainCycle

/-! ## Keeping the tier -/

/-- What a drain meets: the cycle of each driver, and the primary stores of the
tiers above the items. -/
structure Surroundings (Content : Type) where
  cycle : String → DrainCycle Content
  stored : IndexContext → String → Bool

def Surroundings.Present (env : Surroundings Content) (driverId : String)
    (ctx : IndexContext) (entity : String) : Prop :=
  match ctx.tier with
  | .item =>
    ((env.cycle driverId).reads.hub ctx.catalog ctx.collectionId).active entity ≠ none
  | _ => env.stored ctx entity = true

def Marked (drained : List (String × Drained)) (row : StorageRow) (outcome : DrainOutcome) : Prop :=
  ∃ part ∈ drained, (row, outcome) ∈ part.2.marks

/-- The indexer of the driver accepted an operation for the entity. The indexers
of the drain write the items index, so their operations are about items. -/
def Accepted (drained : List (String × Drained)) (driverId : String) (ctx : IndexContext)
    (entity : String) : Prop :=
  ctx.tier = .item ∧ ∃ part ∈ drained, part.1 = driverId ∧
    ∃ ops result op, (ops, IndexReply.reported result) ∈ part.2.submissions ∧ op ∈ ops ∧
      op.catalogId = ctx.catalog ∧ op.collectionId = ctx.collectionId ∧
      op.idempotencyKey = entity ∧ op.opId ∈ result.passed

/-- The driver is in the `INDEX` lane of the routing config of the tier. -/
def DrainProcess.Configured (process : DrainProcess) (ctx : IndexContext) (driverId : String) :
    Prop :=
  ∃ routing, process.routing ctx.tier ctx.catalog ctx.collection = some routing ∧
    driverId ∈ (indexEntries routing).map DriverEntry.driverRef

variable (Content) in
/-- Whatever the drain meets and claims along with the row: it marks the row done
only when the indexer accepted an operation for the entity or the entity is
gone, and it does not dead-letter the row as unregistered while the driver is
configured for the tier. -/
def KeepsTier (process : DrainProcess) (ctx : IndexContext) (entity : String)
    (claimed : StorageRow) : Prop :=
  ∀ (env : Surroundings Content) (rows : List StorageRow), claimed ∈ rows →
    (Marked (drainOnce process env.cycle rows) claimed (.settled .done) →
      Accepted (drainOnce process env.cycle rows) claimed.driverId ctx entity ∨
        ¬ env.Present claimed.driverId ctx entity) ∧
    (Marked (drainOnce process env.cycle rows) claimed .driverUnregistered →
      ¬ process.Configured ctx claimed.driverId)

/-- Where the drain has an indexer for the driver, the row names an item, or
names nothing. Where it has none, the driver is not configured for the tier any
more, or the items routing config is unreadable, empty or lists the driver. -/
def TierKept (process : DrainProcess) (ctx : IndexContext) (entity : String)
    (claimed : StorageRow) : Prop :=
  if process.resolveIndexer claimed.driverId then
    writeIdOf claimed = none ∧ (ctx.tier = .item ∨ entity = "")
  else
    process.Configured ctx claimed.driverId →
      ∀ membership, process.resolveRoutingMembership ctx.catalog ctx.collectionId =
        some membership → claimed.driverId ∈ membership

structure Obliges (ctx : IndexContext) (entity : String) (row : StorageRow) : Prop where
  catalog : row.catalogId = ctx.catalog
  collection : row.collectionId.getD "" = ctx.collectionId
  named : writeIdOf row = none → row.entityId = some entity ∧ row.idempotencyKey = some entity

def StandsFor (row : StorageRow) (op : IndexOp) : Prop :=
  row.entityId = some op.entityId ∨ ∃ writeId, op.batchId = some writeId ∧
    writeIdOf row = some writeId

theorem obliges_of_fanOut {dispatcher : Dispatcher}
    (enqueued : row ∈ dispatcher.fanOutBulk ctx ops) (stands : StandsFor row op)
    (claims : claimed.obligation = row.obligation) : Obliges ctx op.entityId claimed := by
  obtain ⟨catalog, collection, carried⟩ := Dispatcher.of_mem_fanOutBulk enqueued
  simp only [StorageRow.obligation, Prod.mk.injEq] at claims
  obtain ⟨_, sameCatalog, sameCollection, sameEntity, _, sameWrite, sameKey⟩ := claims
  refine ⟨sameCatalog.trans catalog, by rw [sameCollection, collection]; rfl, ?_⟩
  intro idOnly
  rw [writeIdOf, sameWrite] at idOnly
  rcases carried with refers | ⟨_, other, _, entity, key⟩
  · exact absurd idOnly refers
  · rcases stands with named | ⟨_, _, refers⟩
    · have same : other.entityId = op.entityId := Option.some.inj (entity.symm.trans named)
      rw [sameEntity, sameKey, ← same]
      exact ⟨entity, key⟩
    · rw [writeIdOf, idOnly] at refers
      cases refers

theorem stream_of_marked_done
    (marked : Marked (drainOnce process cycle rows) row (.settled .done)) :
    process.resolveIndexer row.driverId ∧
      ∃ driverRows, (row.driverId, driverRows) ∈ Dict.group StorageRow.driverId rows ∧
        (row, .done) ∈ ((cycle row.driverId).processDriverRows driverRows).marks := by
  obtain ⟨_, partMem, markMem⟩ := marked
  obtain ⟨⟨driverId, driverRows⟩, groupMem, rfl⟩ := List.mem_map.mp partMem
  split at markMem
  next resolved =>
    obtain ⟨mark, streamMem, same⟩ := List.mem_map.mp markMem
    cases mark with
    | mk =>
      cases same
      have known := ((cycle driverId).justified_processDriverRows).marked _ streamMem
      obtain ⟨_, rfl⟩ := Dict.mem_of_mem_group groupMem known
      exact ⟨resolved, driverRows, groupMem, streamMem⟩
  · obtain ⟨_, _, scopeMem⟩ := List.mem_flatMap.mp markMem
    simp only at scopeMem
    split at scopeMem
    · obtain ⟨_, _, same⟩ := List.mem_map.mp scopeMem
      cases same
    · obtain ⟨_, _, same⟩ := List.mem_map.mp scopeMem
      split at same <;> cases same

theorem unlisted_of_marked_unregistered
    (marked : Marked (drainOnce process cycle rows) row .driverUnregistered) :
    process.resolveIndexer row.driverId = false ∧
      ∃ membership, process.resolveRoutingMembership row.catalogId (row.collectionId.getD "") =
        some membership ∧ row.driverId ∉ membership := by
  obtain ⟨_, partMem, markMem⟩ := marked
  obtain ⟨⟨_, _⟩, groupMem, rfl⟩ := List.mem_map.mp partMem
  split at markMem
  · obtain ⟨_, _, same⟩ := List.mem_map.mp markMem
    cases same
  next unresolved =>
    obtain ⟨⟨_, _⟩, scopeMem, inScope⟩ := List.mem_flatMap.mp markMem
    simp only at inScope
    split at inScope
    next unlisted =>
      obtain ⟨_, rowMem, same⟩ := List.mem_map.mp inScope
      cases same
      obtain ⟨driverMem, rfl⟩ := Dict.mem_of_mem_group scopeMem rowMem
      obtain ⟨_, rfl⟩ := Dict.mem_of_mem_group groupMem driverMem
      cases found : process.resolveRoutingMembership row.catalogId
          (row.collectionId.getD "") with
      | none =>
        rw [found] at unlisted
        cases unlisted
      | some membership =>
        rw [found] at unlisted
        exact ⟨Bool.eq_false_iff.mpr unresolved, membership, rfl, by simpa using unlisted⟩
    · obtain ⟨_, _, same⟩ := List.mem_map.mp inScope
      split at same <;> cases same

variable {claimed : StorageRow}

theorem keepsTier_of_tierKept (obliges : Obliges ctx entity claimed)
    (kept : TierKept process ctx entity claimed) :
    KeepsTier Content process ctx entity claimed := by
  intro env _ _
  refine ⟨?_, ?_⟩
  · intro marked
    obtain ⟨resolved, _, groupMem, done⟩ := stream_of_marked_done marked
    rw [TierKept, if_pos resolved] at kept
    obtain ⟨idOnly, itemOrEmpty⟩ := kept
    obtain ⟨entityOf, key⟩ := obliges.named idOnly
    obtain ⟨named, why⟩ :=
      ((env.cycle claimed.driverId).justified_processDriverRows).done claimed done idOnly
    rcases itemOrEmpty with isItem | empty
    · rcases why with ⟨item, isEntity, absent⟩ | ⟨ops, result, _, submitted, opMem, passed⟩
      · right
        have same : item = entity := Option.some.inj (isEntity.symm.trans entityOf)
        rw [Surroundings.Present, isItem, ← obliges.catalog, ← obliges.collection, ← same]
        exact not_not.mpr absent
      · left
        refine ⟨isItem, _, List.mem_map_of_mem groupMem, rfl, ops, result, _, ?_, opMem,
          obliges.catalog, obliges.collection, ?_, passed⟩
        · simpa [resolved] using submitted
        · simp [rowToOp, key]
    · rw [Named, entityOf, empty] at named
      cases named
  · intro marked configured
    obtain ⟨unresolved, membership, found, outside⟩ := unlisted_of_marked_unregistered marked
    rw [TierKept, if_neg (by simp [unresolved])] at kept
    rw [obliges.catalog, obliges.collection] at found
    exact outside (kept configured membership found)

/-! ## Where the tier is lost -/

namespace DrainCycle

variable {cycle : DrainCycle Content}

theorem processDriverRows_of_empty_batch {writeId : String} (refers : writeIdOf row = some writeId)
    (empty : cycle.reads.readPrimaryWriteBatch row.catalogId (row.collectionId.getD "") row.op
      writeId = .ok []) : cycle.processDriverRows [row] = { marks := [(row, .done)] } := by
  simp [processDriverRows, classify, writeIdGroups, idOnlyGroups, refers, Dict.collect,
    Dict.assign, Dict.group, writeIdGroup, empty, processWriteIdGroup, flush]

theorem processDriverRows_of_absent {item : String} (idOnly : writeIdOf row = none)
    (named : row.entityId.filter (· != "") = some item) (isUpsert : row.op = .upsert)
    (readable : cycle.reads.canonicalError row.catalogId (row.collectionId.getD "") [item] = none)
    (absent : (cycle.reads.hub row.catalogId (row.collectionId.getD "")).active item = none) :
    cycle.processDriverRows [row] = { marks := [(row, .done)] } := by
  have isItem := (Option.filter_eq_some_iff.mp named).1
  have classified : [row].foldl cycle.classify {} = {} := by
    rw [List.foldl_cons, classify, idOnly, named, isUpsert]
    rfl
  have groups : idOnlyGroups [row] = [((row.catalogId, row.collectionId.getD ""), [row])] := by
    have selected : [row].filter (fun row => (writeIdOf row).isNone &&
        (row.entityId.filter (· != "")).isSome && row.op == .upsert) = [row] := by
      rw [List.filter_cons_of_pos (by rw [idOnly, named, isUpsert]; rfl), List.filter_nil]
    rw [idOnlyGroups, selected]
    rfl
  have noWrites : writeIdGroups [row] = [] := by
    simp [writeIdGroups, idOnly, Dict.collect]
  have read : cycle.reads.readCanonicalInputs row.catalogId (row.collectionId.getD "") [item] =
      .ok (cycle.reads.hub row.catalogId (row.collectionId.getD "")).active := by
    rw [DrainReads.readCanonicalInputs, readable]
  rw [processDriverRows, classified, noWrites, groups]
  simp [readGroup, idOnlyReadProbeRows, idOnlyReadChunkRows, isItem, read, hydrateRow, absent,
    Stream.mark, flush]

theorem done_of_passed {item : String} (idOnly : writeIdOf row = none)
    (named : row.entityId.filter (· != "") = some item) (isDelete : row.op = .delete)
    (passed : cycle.reply 0 = .reported ⟨[row.opId], [], []⟩) :
    (row, .done) ∈ (cycle.processDriverRows [row]).marks := by
  by_cases full : cycle.byteBudget ≤ cycle.estimateDocBytes [] <;>
    simp [processDriverRows, classify, writeIdGroups, idOnlyGroups, idOnly, named, isDelete,
      Dict.collect, Dict.group, append, rowToOp, full, flush, passed, applyOutcomes, Dict.assign]

end DrainCycle

def adverse (Content : Type) [Inhabited Content] (ctx : IndexContext) (entity : String)
    (row : StorageRow) : Surroundings Content where
  cycle _ :=
    { reads :=
        { hub := fun _ _ =>
            if ctx.tier = .item then ⟨[⟨entity, default, "", false⟩], by simp⟩ else Table.empty
          canonicalError := fun _ _ _ => none
          primaryError := fun _ _ _ => none
          buildCanonicalDoc := fun _ _ _ => .ok [] }
      reply := fun _ => .reported ⟨[row.opId], [], []⟩
      byteBudget := 1
      estimateDocBytes := fun _ => 0 }
  stored _ _ := true

section Adverse

variable (Content : Type) [Inhabited Content] {ctx : IndexContext} {entity : String}
  {row : StorageRow}

theorem present_adverse : (adverse Content ctx entity row).Present driverId ctx entity := by
  unfold Surroundings.Present
  split
  next isItem => simp [adverse, isItem, Hub.active, Table.lookup]
  · rfl

omit [Inhabited Content] in
theorem drainOnce_singleton {cycle : String → DrainCycle Content}
    (resolved : process.resolveIndexer row.driverId) :
    drainOnce process cycle [row] = [(row.driverId,
        { submissions := ((cycle row.driverId).processDriverRows [row]).submissions
          marks := ((cycle row.driverId).processDriverRows [row]).marks.map fun mark =>
            (mark.1, .settled mark.2) })] := by
  simp [drainOnce, Dict.group, Dict.append, resolved]

theorem done_in_adverse {process : DrainProcess} (obliges : Obliges ctx entity row)
    (resolved : process.resolveIndexer row.driverId)
    (lost : ¬ (writeIdOf row = none ∧ (ctx.tier = .item ∨ entity = ""))) :
    Marked (drainOnce process (adverse Content ctx entity row).cycle [row]) row (.settled .done) ∧
      ¬ Accepted (drainOnce process (adverse Content ctx entity row).cycle [row])
        row.driverId ctx entity := by
  have marked_of_done :
      (row, .done) ∈ (((adverse Content ctx entity row).cycle row.driverId).processDriverRows
        [row]).marks →
      Marked (drainOnce process (adverse Content ctx entity row).cycle [row]) row
        (.settled .done) := by
    intro done
    rw [drainOnce_singleton Content resolved]
    exact ⟨_, List.mem_singleton_self _, List.mem_map.mpr ⟨_, done, rfl⟩⟩
  cases refers : writeIdOf row with
  | some writeId =>
    have nonempty : writeId ≠ "" := by
      simpa using (Option.filter_eq_some_iff.mp refers).2
    have empty : ((adverse Content ctx entity row).cycle row.driverId).reads.readPrimaryWriteBatch
        row.catalogId (row.collectionId.getD "") row.op writeId = .ok [] := by
      by_cases isItem : ctx.tier = .item
      · simp [DrainReads.readPrimaryWriteBatch, adverse, isItem, Ne.symm nonempty]
        rfl
      · simp [DrainReads.readPrimaryWriteBatch, adverse, isItem, Table.empty]
        rfl
    have settled := DrainCycle.processDriverRows_of_empty_batch refers empty
    refine ⟨marked_of_done (by rw [settled]; simp), ?_⟩
    rw [drainOnce_singleton Content resolved, settled]
    rintro ⟨_, _, partMem, _, _, _, _, submitted, _⟩
    rw [List.mem_singleton.mp partMem] at submitted
    cases submitted
  | none =>
    have tierLost : ctx.tier ≠ .item ∧ entity ≠ "" := by
      simpa [refers, not_or] using lost
    obtain ⟨entityOf, _⟩ := obliges.named refers
    have named : row.entityId.filter (· != "") = some entity := by
      simp [entityOf, tierLost.2]
    refine ⟨marked_of_done ?_, fun accepted => tierLost.1 accepted.1⟩
    cases kind : row.op with
    | upsert =>
      rw [DrainCycle.processDriverRows_of_absent refers named kind rfl (by
        simp [adverse, tierLost.1, Hub.active, Table.lookup, Table.empty])]
      simp
    | delete => exact DrainCycle.done_of_passed refers named kind rfl

end Adverse

theorem tierKept_of_keepsTier [Inhabited Content] (obliges : Obliges ctx entity claimed)
    (keeps : KeepsTier Content process ctx entity claimed) :
    TierKept process ctx entity claimed := by
  obtain ⟨doneOnlyIf, deadOnlyIf⟩ :=
    keeps (adverse Content ctx entity claimed) [claimed] List.mem_cons_self
  unfold TierKept
  split
  next resolved =>
    by_contra lost
    obtain ⟨marked, unaccepted⟩ := done_in_adverse Content obliges resolved lost
    rcases doneOnlyIf marked with accepted | absent
    · exact unaccepted accepted
    · exact absent (present_adverse Content)
  next unresolved =>
    intro configured _ found
    by_contra outside
    refine deadOnlyIf ?_ configured
    rw [← obliges.catalog, ← obliges.collection] at found
    refine ⟨_, List.mem_map_of_mem (List.mem_singleton_self _), ?_⟩
    simp [unresolved, DrainProcess.handleUnresolvableRows, Dict.group, Dict.append, found, outside]

/-- An obligation of a fan-out keeps its tier in every drain exactly when the
drain has no indexer for its driver and the items routing config does not rule
the driver out, or it names an item of the item tier. -/
theorem obligation_keeps_tier_iff [Inhabited Content] (dispatcher : Dispatcher)
    (process : DrainProcess) (ctx : IndexContext) (ops : List IndexOp) {row claimed : StorageRow}
    {op : IndexOp} (enqueued : row ∈ dispatcher.fanOutBulk ctx ops) (stands : StandsFor row op)
    (claims : claimed.obligation = row.obligation) :
    KeepsTier Content process ctx op.entityId claimed ↔
      TierKept process ctx op.entityId claimed := by
  have obliges := obliges_of_fanOut enqueued stands claims
  exact ⟨tierKept_of_keepsTier obliges, keepsTier_of_tierKept obliges⟩

/-! ## A collection and an item -/

def defaultRouting : Tier → String → Option String → Option Routing
  | .item, _, _ => some [(.write, [{ driverRef := "items_postgresql_driver" }]),
        (.read, [{ driverRef := "items_elasticsearch_driver" },
          { driverRef := "items_postgresql_driver" }]),
        (.index, [{ driverRef := "items_elasticsearch_driver" }])]
  | .collection, _, _ => some [(.write, [{ driverRef := "collection_postgresql_driver" }]),
        (.read, [{ driverRef := "collection_postgresql_driver" },
          { driverRef := "collection_elasticsearch_driver" }]),
        (.index, [{ driverRef := "collection_elasticsearch_driver" }])]
  | _, _, _ => none

def defaultDispatcher : Dispatcher where
  resolveRouting := defaultRouting
  registered _ := true
  transforms _ _ := true
  absorbs _ := false
  supportsWriteIds _ _ := true
  durable := true
  newId _ _ := 1
  today := 0
  now := 0

def defaultProcess : DrainProcess where
  collectionIndex driverId :=
    if driverId = "items_elasticsearch_driver" then some (.itemsElasticsearch true)
    else if driverId = "items_postgresql_driver" then some .other
    else none
  assetIndex _ := none
  routing := defaultRouting
  now := 0

def obligationRow (driverId entity : String) : StorageRow where
  opId := 1
  day := 0
  catalogId := "c"
  driverId := driverId
  collectionId := some "k"
  entityId := some entity
  op := .upsert
  readyAt := 0
  idempotencyKey := some entity
  createdAt := 0

theorem item_obligation_keeps_tier : obligationRow "items_elasticsearch_driver" "i" ∈
        defaultDispatcher.fanOutBulk ⟨.item, "c", some "k"⟩ [⟨.upsert, "i", none⟩] ∧
      KeepsTier Unit defaultProcess ⟨.item, "c", some "k"⟩ "i"
        (obligationRow "items_elasticsearch_driver" "i") := by
  have enqueued : obligationRow "items_elasticsearch_driver" "i" ∈
      defaultDispatcher.fanOutBulk ⟨.item, "c", some "k"⟩ [⟨.upsert, "i", none⟩] := by decide
  have stands : StandsFor (obligationRow "items_elasticsearch_driver" "i")
      ⟨.upsert, "i", none⟩ := .inl rfl
  exact ⟨enqueued, (obligation_keeps_tier_iff defaultDispatcher defaultProcess _ _ enqueued stands
    rfl).mpr ⟨rfl, .inl rfl⟩⟩

/-- The metadata of collection `k` is written. Its obligation is dead-lettered as
unregistered, because the items routing config does not list the indexer of
collections. -/
theorem collection_obligation_loses_tier :
    ¬ ∀ (dispatcher : Dispatcher) (process : DrainProcess) (ctx : IndexContext)
        (ops : List IndexOp) (row claimed : StorageRow) (op : IndexOp),
      row ∈ dispatcher.fanOutBulk ctx ops → StandsFor row op → claimed.obligation = row.obligation →
          KeepsTier Unit process ctx op.entityId claimed := by
  intro always
  have keeps := always defaultDispatcher defaultProcess ⟨.collection, "c", some "k"⟩
    [⟨.upsert, "k", none⟩] (obligationRow "collection_elasticsearch_driver" "k")
    (obligationRow "collection_elasticsearch_driver" "k") ⟨.upsert, "k", none⟩ (by decide)
    (.inl rfl) rfl
  have unregistered := (keeps (adverse Unit ⟨.collection, "c", some "k"⟩ "k"
    (obligationRow "collection_elasticsearch_driver" "k")) _ (List.mem_singleton_self _)).2
  refine unregistered ⟨_, List.mem_map_of_mem (List.mem_singleton_self _), by decide⟩ ?_
  exact ⟨_, rfl, by decide⟩

end Dynastore.Workclass
