import Dynastore.Workclass.Obligation

/-! Each step leaves every item in sync or with an obligation outstanding. Writers leave the
obligation of the write. Drains serve a row only once the item is in sync, provided that what they
send is the present state of the item or another obligation is outstanding. -/

namespace Dynastore.Workclass

open List EsItemsDriver

open Tasks (Time)

namespace Setting

variable {Content Address : Type} {setting : Setting Content Address}
  {world : World Content Address} {item : String}

variable (setting) in
def Tracks (world : World Content Address) : Prop :=
  ∀ item, setting.InSync world item ∨ setting.OutstandingBeyond world [] item

variable {hub : Hub Content} {row claim : StorageRow} {after : World Content Address}

theorem covers_congr {left right : StorageRow} (same : left.obligation = right.obligation) :
    setting.Covers hub left item ↔ setting.Covers hub right item := by
  simp only [StorageRow.obligation, Prod.mk.injEq] at same
  obtain ⟨_, catalog, collection, entity, op, write, key⟩ := same
  simp only [Covers, writeIdOf, catalog, collection, entity, op, write, key]

theorem covers_congr_hub (same : hub.lookup item = other.lookup item) :
    setting.Covers hub row item ↔ setting.Covers other row item := by
  rw [Covers, Covers, same]

theorem current_congr (same : hub.lookup item = other.lookup item) :
    setting.current hub item = setting.current other item := by
  rw [current, current, Hub.active, Hub.active, same]

theorem Pending.frame (pending : setting.Pending world row item)
    (hub : after.hub.lookup item = world.hub.lookup item)
    (stored : after.ledger.table.lookup row.key = some row)
    (unserved : ¬ Served after row item) : setting.Pending after row item where
  stored := stored
  unfinished := pending.unfinished
  covers := (covers_congr_hub hub).mpr pending.covers
  unserved := unserved

theorem OutstandingBeyond.frame (outstanding : setting.OutstandingBeyond world claims item)
    (hub : after.hub.lookup item = world.hub.lookup item)
    (owed : ∀ row ∈ world.owed, row ∈ after.owed)
    (table : ∀ row, setting.Pending world row item → after.ledger.table.lookup row.key = some row)
    (served : ∀ row, setting.Pending world row item → (∀ claim ∈ claims, ¬ Holds claim row) →
      ¬ Served after row item) : setting.OutstandingBeyond after [] item := by
  rcases outstanding with ⟨row, mem, covers⟩ | ⟨row, pending, beyond⟩
  · exact .inl ⟨row, owed row mem, (covers_congr_hub hub).mpr covers⟩
  · exact .inr ⟨row, pending.frame hub (table row pending) (served row pending beyond), by simp⟩

/-- What serves a row serves it already where no outcome `done` and no batch
came in. -/
theorem Served.mono (served : Served after row item)
    (marks : ∀ claim, (claim, .done) ∈ after.marks → (claim, .done) ∈ world.marks)
    (batches : ∀ slot batch, after.batches slot = some batch → world.batches slot = some batch) :
    Served world row item := by
  rcases served with ⟨claim, mem, holds⟩ | ⟨slot, batch, found, holds, absent⟩
  · exact .inl ⟨claim, marks claim mem, holds⟩
  · exact .inr ⟨slot, batch, batches slot batch found, holds, absent⟩

structure Calm (before after : World Content Address) : Prop where
  hub : after.hub = before.hub
  owed : after.owed = before.owed
  ledger : after.ledger = before.ledger
  documents : after.documents = before.documents
  marks : ∀ claim, (claim, .done) ∈ after.marks → (claim, .done) ∈ before.marks
  batches : ∀ slot batch, after.batches slot = some batch → before.batches slot = some batch

/-- A step that leaves the hub, what is owed and the ledger as they are. -/
structure Drains (before after : World Content Address) : Prop where
  hub : after.hub = before.hub
  owed : after.owed = before.owed
  ledger : after.ledger = before.ledger

theorem OutstandingBeyond.drain (outstanding : setting.OutstandingBeyond world claims item)
    (drains : Drains world after)
    (served : ∀ row, setting.Pending world row item → (∀ claim ∈ claims, ¬ Holds claim row) →
      Served after row item → Served world row item) :
    setting.OutstandingBeyond after [] item := by
  refine outstanding.frame (by rw [drains.hub]) (by rw [drains.owed]; exact fun _ mem => mem)
    (fun _ pending => by rw [drains.ledger]; exact pending.stored) ?_
  exact fun row pending beyond now => pending.unserved (served row pending beyond now)

/-- A drain keeps an item tracked that leaves its document or brings it up to
date and serves no pending row of it. -/
theorem Tracks.drain (tracks : setting.Tracks world) (drains : Drains world after)
    (moved : after.documents (setting.address item) = world.documents (setting.address item) ∨
      after.documents (setting.address item) = setting.current world.hub item)
    (served : ∀ row, setting.Pending world row item → Served after row item →
      Served world row item) :
    setting.InSync after item ∨ setting.OutstandingBeyond after [] item := by
  rw [InSync, drains.hub]
  rcases moved with kept | brought
  · refine (tracks item).imp (fun inSync => kept.trans inSync) ?_
    exact fun outstanding => outstanding.drain drains fun row pending _ => served row pending
  · exact .inl brought

theorem Tracks.calm (tracks : setting.Tracks world)
    (calm : Calm world after) : setting.Tracks after :=
  fun _ => tracks.drain ⟨calm.hub, calm.owed, calm.ledger⟩ (.inl (by rw [calm.documents]))
    fun _ _ served => served.mono calm.marks calm.batches

/-- A new outcome serves the rows its claim holds, and only if it is `done`. -/
theorem Served.of_mark (served : Served after row item)
    (marks : after.marks = (claim, outcome) :: world.marks)
    (batches : ∀ slot batch, after.batches slot = some batch → world.batches slot = some batch) :
    Served world row item ∨ outcome = .done ∧ Holds claim row := by
  rcases served with ⟨other, mem, holds⟩ | ⟨slot, batch, found, holds, absent⟩
  · rw [marks] at mem
    rcases mem_cons.mp mem with same | old
    · cases same
      exact .inr ⟨rfl, holds⟩
    · exact .inl (.inl ⟨other, old, holds⟩)
  · exact .inl (.inr ⟨slot, batch, batches slot batch found, holds, absent⟩)

/-! ## Writers -/

/-- A write keeps the other items tracked. -/
theorem Tracks.frame (tracks : setting.Tracks world)
    (same : hub.lookup item = world.hub.lookup item) (still : ∀ row ∈ world.owed, row ∈ owed) :
    setting.InSync { world with hub, writeIds, owed } item ∨
      setting.OutstandingBeyond { world with hub, writeIds, owed } [] item := by
  rw [InSync, current_congr same]
  exact (tracks item).imp id fun outstanding => outstanding.frame same still
    (fun _ pending => pending.stored) fun _ pending _ => pending.unserved

theorem lookup_writeHub :
    (writeHub writeId items hub).lookup item = hub.lookup item ∨
      ∃ content, (item, content) ∈ items ∧
        (writeHub writeId items hub).lookup item = some ⟨item, content, writeId, false⟩ := by
  induction items using reverseRecOn with
  | nil => exact .inl rfl
  | append_singleton items last ih =>
    have lastWrite : writeHub writeId (items ++ [last]) hub =
        (writeHub writeId items hub).upsert ⟨last.1, last.2, writeId, false⟩ := by
      rw [writeHub, foldl_append]
      rfl
    rw [lastWrite, Table.lookup_upsert]
    split
    next same =>
      cases same
      exact .inr ⟨last.2, by simp, rfl⟩
    · refine ih.imp_right ?_
      rintro ⟨content, mem, found⟩
      exact ⟨content, mem_append_left _ mem, found⟩

theorem covers_obligations (named : writeId ≠ "")
    (home : setting.home item = (catalogId, collectionId)) (mem : (item, content) ∈ items)
    (stored : hub.lookup item = some ⟨item, content, writeId, false⟩) :
    ∃ row ∈ setting.obligations writeId catalogId collectionId items grouped stamp,
      setting.Covers hub row item := by
  cases grouped with
  | true =>
    refine ⟨_, mem_singleton_self _, by rw [home]; rfl, by rw [home]; rfl, .inr ?_⟩
    refine ⟨_, stored, ?_, rfl⟩
    simp [writeIdOf, writeObligation, WriteIdOutboxRecord.row, named]
  | false =>
    obtain ⟨position, found⟩ := getElem?_of_mem mem
    have entryMem : ((item, content), position) ∈ items.zipIdx :=
      mem_zipIdx_iff_getElem?.mpr found
    exact ⟨_, mem_map_of_mem entryMem, rfl, rfl, .inl ⟨rfl, rfl, rfl⟩⟩

theorem Tracks.upsert (tracks : setting.Tracks world) (writeId catalogId collectionId : String)
    (items : List (String × Content)) (grouped : Bool) (stamp : Stamp) :
    setting.Tracks (setting.upsert world writeId catalogId collectionId items grouped stamp) := by
  unfold Setting.upsert
  split
  next fresh =>
    simp only [freshWrite, Bool.and_eq_true, bne_iff_ne, all_eq_true, beq_iff_eq] at fresh
    intro item
    rcases lookup_writeHub with kept | ⟨content, mem, stored⟩
    · exact tracks.frame kept fun _ => mem_append_right _
    · obtain ⟨row, rowMem, covers⟩ := covers_obligations fresh.1.1
        (fresh.2 (item, content) mem) mem stored
      exact .inr (.inl ⟨row, mem_append_left _ rowMem, covers⟩)
  · exact tracks

theorem Tracks.delete (tracks : setting.Tracks world) (writeId removed : String)
    (stamp : Stamp) : setting.Tracks (setting.delete world writeId removed stamp) := by
  unfold Setting.delete
  split
  next row found =>
    split
    next fresh =>
      simp only [freshWrite, Bool.and_eq_true, bne_iff_ne] at fresh
      have key : row.geoid = removed := Table.key_of_lookup found
      intro item
      have looked : (world.hub.upsert { row with writeId := writeId, deleted := true }).lookup
          item = if removed = item then some { row with writeId := writeId, deleted := true }
            else world.hub.lookup item := by
        rw [Table.lookup_upsert, key]
      by_cases same : removed = item
      · rw [if_pos same] at looked
        refine .inr (.inl ⟨_, mem_cons_self, by rw [same]; rfl, by rw [same]; rfl, .inr ?_⟩)
        refine ⟨_, looked, ?_, rfl⟩
        simp [writeIdOf, writeObligation, WriteIdOutboxRecord.row, fresh.2.1.1]
      · rw [if_neg same] at looked
        exact tracks.frame looked fun _ => mem_cons_of_mem _
    · exact tracks
  · exact tracks

/-! ## The ledger -/

theorem OutstandingBeyond.insertAll
    (outstanding : setting.OutstandingBeyond world claims item) (rows : List StorageRow) :
    setting.OutstandingBeyond { world with ledger := world.ledger.insertAll rows } [] item :=
  outstanding.frame rfl (fun _ mem => mem)
    (fun _ pending => Ledger.lookup_insertAll_of_some pending.stored)
    fun _ pending _ => pending.unserved

theorem not_served_of_unclaimed (unclaimed : row.claimedBy = none) : ¬ Served world row item := by
  rintro (⟨_, _, holds⟩ | ⟨_, _, _, holds, _⟩)
  · exact not_holds_of_unclaimed unclaimed holds
  · exact not_holds_of_unclaimed unclaimed holds

theorem not_served_of_newer (sound : Sound world) {row stored : StorageRow}
    (found : world.ledger.table.lookup row.key = some stored)
    (newer : stored.claimVersion < row.claimVersion) : ¬ Served world row item := by
  have outdated : ∀ claim ∈ world.ledger.claims, ¬ Holds claim row := by
    intro claim known holds
    obtain ⟨_, reachedFound, bound⟩ := sound.fenced.stored claim known
    rw [← holds.key.1, found] at reachedFound
    have same := Option.some.inj reachedFound
    have version := holds.key.2
    rw [← same] at bound
    omega
  rintro (⟨claim, mem, holds⟩ | ⟨slot, batch, mem, holds, _⟩)
  · exact outdated claim (sound.marks _ mem) holds
  · exact outdated batch.claim (sound.batches slot batch mem) holds

theorem Tracks.enqueue (tracks : setting.Tracks world) (sound : Sound world) (index : Nat) :
    setting.Tracks (enqueue world index) := by
  unfold Setting.enqueue
  split
  next row owed =>
    split
    next inserted accepted =>
      intro item
      refine (tracks item).imp id ?_
      have storedRow : (world.ledger.insertAll [row]).table.lookup row.key = some row := by
        have filled : (world.ledger.insertAll [row]).table = inserted := by
          simp [Ledger.insertAll, accepted]
        rw [filled]
        apply inserted.lookup_of_mem
        rw [(Table.insert_eq_some accepted).2]
        simp
      rintro (⟨other, mem, covers⟩ | ⟨other, pending, _⟩)
      · -- the obligation is still owed, or it is the row that was inserted
        obtain ⟨position, found⟩ := mem_iff_getElem?.mp mem
        by_cases here : position = index
        · rw [here, owed] at found
          rw [← Option.some.inj found] at covers mem
          obtain ⟨ready, unclaimed⟩ := sound.owed row mem
          refine .inr ⟨row, ⟨storedRow, ?_, covers, not_served_of_unclaimed unclaimed⟩, by simp⟩
          rw [ready]
          rintro ⟨⟩
        · exact .inl ⟨other, mem_eraseIdx_iff_getElem?.mpr ⟨position, here, found⟩, covers⟩
      · exact .inr ⟨other, pending.frame rfl (Ledger.lookup_insertAll_of_some pending.stored)
          pending.unserved, by simp⟩
    · exact tracks
  · exact tracks

theorem Tracks.claimBatch (tracks : setting.Tracks world) (sound : Sound world)
    (ownerId : String) (leaseSeconds : Int) (batchSize : Nat) (now : Time)
    (lockedRows : List (Day × Nat)) (table : StorageTable) :
    setting.Tracks { world with
      ledger := world.ledger.claim
        (claimBatch ownerId leaseSeconds batchSize now lockedRows table) } := by
  intro item
  refine (tracks item).imp id ?_
  rintro (owed | ⟨row, pending, _⟩)
  · exact .inl owed
  · have stored := Ledger.lookup_claim world.ledger
      (Workclass.claimBatch ownerId leaseSeconds batchSize now lockedRows table) row.key
    rw [pending.stored, Option.map_some] at stored
    by_cases selected :
        (Workclass.claimBatch ownerId leaseSeconds batchSize now lockedRows table).guard row
    · rw [Update.apply_of_guard selected] at stored
      refine .inr ⟨(Workclass.claimBatch ownerId leaseSeconds batchSize now lockedRows table).assign
        row, ⟨stored, by rintro ⟨⟩, (covers_congr rfl).mpr pending.covers, ?_⟩, by simp⟩
      exact not_served_of_newer sound pending.stored (Nat.lt_succ_self _)
    · rw [Update.apply_of_not_guard (Bool.eq_false_iff.mpr selected)] at stored
      exact .inr ⟨row, pending.frame rfl stored pending.unserved, by simp⟩

theorem Tracks.writeMark (tracks : setting.Tracks world)
    (decided : world.marks[index]? = some (claim, outcome)) (now : Time) :
    setting.Tracks { world with
      ledger := world.ledger.write (outcome.statement claim (claim.claimedBy.getD "") now)
      marks := world.marks.eraseIdx index } := by
  intro item
  refine (tracks item).imp id ?_
  rintro (owed | ⟨row, pending, _⟩)
  · exact .inl owed
  · have fewer : ∀ {other : StorageRow}, Served
        { world with
          ledger := world.ledger.write (outcome.statement claim (claim.claimedBy.getD "") now)
          marks := world.marks.eraseIdx index } other item → Served world other item :=
      fun served => served.mono (fun _ mem => mem_of_mem_eraseIdx mem) fun _ _ found => found
    have stored := Ledger.lookup_write world.ledger
      (outcome.statement claim (claim.claimedBy.getD "") now) row.key
    rw [pending.stored, Option.map_some] at stored
    by_cases holds : Holds claim row
    · rw [Update.apply_of_guard (by rw [outcome.guard_statement]; exact holds)] at stored
      have sameKey := (outcome.statement claim (claim.claimedBy.getD "") now).keeps row
      refine .inr ⟨(outcome.statement claim (claim.claimedBy.getD "") now).assign row,
        ⟨by rw [sameKey]; exact stored, ?_, ?_, ?_⟩, by simp⟩
      · cases outcome with
        | done => exact absurd (.inl ⟨claim, mem_of_getElem? decided, holds⟩) pending.unserved
        | _ => rintro ⟨⟩
      · exact (covers_congr (outcome.obligation_statement row)).mpr pending.covers
      · cases outcome with
        | done => exact absurd (.inl ⟨claim, mem_of_getElem? decided, holds⟩) pending.unserved
        | retry => exact not_served_of_unclaimed rfl
        | dead => exact fun served => pending.unserved (fewer served)
    · have unselected :
          (outcome.statement claim (claim.claimedBy.getD "") now).guard row = false := by
        rw [outcome.guard_statement]
        exact Bool.eq_false_iff.mpr holds
      rw [Update.apply_of_not_guard unselected] at stored
      exact .inr ⟨row, pending.frame rfl stored (fun served => pending.unserved (fewer served)),
        by simp⟩

/-! ## Drains -/

section Held

variable (pending : setting.Pending world row item) (sound : Sound world)
  (known : claim ∈ world.ledger.claims) (holds : Holds claim row)

include pending sound known holds

theorem Pending.obligation_eq : row.obligation = claim.obligation :=
  sound.agrees claim known row (by rw [← holds.key.1]; exact pending.stored)

theorem Pending.names (idOnly : writeIdOf claim = none) :
    claim.entityId = some item ∧ claim.idempotencyKey = some item := by
  have same := pending.obligation_eq sound known holds
  rcases ((covers_congr same).mp pending.covers).2.2 with
    ⟨_, entity, key⟩ | ⟨stored, _, grouped, _⟩
  · exact ⟨entity, key⟩
  · rw [idOnly] at grouped
    cases grouped

theorem Pending.mem_batch (grouped : writeIdOf claim = some writeId) :
    item ∈ (setting.readPrimaryWriteBatch world.hub claim writeId).map
      IndexableOp.idempotencyKey := by
  have same := pending.obligation_eq sound known holds
  obtain ⟨catalog, collection, named⟩ := (covers_congr same).mp pending.covers
  rcases named with ⟨idOnly, _⟩ | ⟨stored, found, written, kind⟩
  · rw [idOnly] at grouped
    cases grouped
  · have geoid : stored.geoid = item := Table.key_of_lookup found
    have writeIdEq : writeId = stored.writeId := Option.some.inj (grouped.symm.trans written)
    have selected : stored ∈ world.hub.rows.filter fun row =>
        setting.home row.geoid == (claim.catalogId, claim.collectionId.getD "") &&
          row.writeId == writeId && row.deleted == (claim.op == .delete) := by
      refine mem_filter.mpr ⟨Table.mem_of_lookup found, ?_⟩
      cases deleted : stored.deleted <;>
        simp [geoid, catalog, collection, writeIdEq, kind, deleted]
    obtain ⟨position, found⟩ := getElem?_of_mem selected
    rw [readPrimaryWriteBatch, map_map, ← geoid]
    exact mem_map.mpr ⟨(stored, position), mem_zipIdx_iff_getElem?.mpr found, rfl⟩

end Held

theorem Tracks.hydrate (tracks : setting.Tracks world) (sound : Sound world) (slot : Nat)
    (known : claim ∈ world.ledger.claims) (idOnly : writeIdOf claim = none)
    (upToDate : ∀ item, claim.entityId = some item → claim.op = .upsert →
      world.hub.active item = none → world.documents (setting.address item) = none ∨
        setting.OutstandingBeyond world [claim] item) :
    setting.Tracks (setting.hydrate world slot claim) := by
  have calmRead : ∀ document : Document,
      Calm world { world with hydrated := world.hydrated.put slot (claim, document) } :=
    fun _ => ⟨rfl, rfl, rfl, rfl, fun _ mem => mem, fun _ _ found => found⟩
  unfold Setting.hydrate
  split
  · exact tracks.calm ⟨rfl, rfl, rfl, rfl, by simp, fun _ _ found => found⟩
  · exact tracks.calm (calmRead _)
  next read entity kind =>
    split
    · exact tracks.calm (calmRead _)
    next absent =>
      have named : claim.entityId = some read := (Option.filter_eq_some_iff.mp entity).1
      -- the new outcome serves the rows the claim holds
      have beyondClaim : ∀ item, setting.OutstandingBeyond world [claim] item →
          setting.OutstandingBeyond
            { world with marks := (claim, .done) :: world.marks } [] item := by
        intro item outstanding
        refine outstanding.drain ⟨rfl, rfl, rfl⟩ ?_
        intro row _ beyond served
        rcases served.of_mark rfl (fun _ _ found => found) with before | ⟨_, holds⟩
        · exact before
        · exact absurd holds (beyond claim (by simp))
      intro item
      by_cases same : item = read
      · subst same
        rcases upToDate item named kind absent with missing | outstanding
        · left
          rw [InSync, current, absent]
          exact missing
        · exact .inr (beyondClaim item outstanding)
      · refine (tracks item).imp id ?_
        rintro (owed | ⟨row, pending, _⟩)
        · exact .inl owed
        · refine beyondClaim item (.inr ⟨row, pending, ?_⟩)
          intro _ mem holds
          rw [mem_singleton.mp mem] at holds
          have entityOf := (pending.names sound known holds idOnly).1
          rw [named] at entityOf
          exact same (Option.some.inj entityOf).symm

theorem Tracks.hydrateBatch (tracks : setting.Tracks world) (sound : Sound world) (slot : Nat)
    (known : claim ∈ world.ledger.claims) (grouped : writeIdOf claim = some writeId) :
    setting.Tracks (setting.hydrateBatch world slot claim writeId) := by
  intro _
  unfold Setting.hydrateBatch
  split
  next nothing =>
    refine tracks.drain ⟨rfl, rfl, rfl⟩ (.inl rfl) ?_
    intro row pending served
    rcases served.of_mark rfl (fun _ _ found => found) with before | ⟨_, holds⟩
    · exact before
    · have read := pending.mem_batch sound known holds grouped
      rw [nothing] at read
      cases read
  · refine tracks.drain ⟨rfl, rfl, rfl⟩ (.inl rfl) ?_
    rintro _ pending (mark | ⟨place, batch, found, holds, absent⟩)
    · exact .inl mark
    · rcases Pool.put_eq_some found with rfl | old
      · exact absurd (pending.mem_batch sound known holds grouped) absent
      · exact .inr ⟨place, batch, old, holds, absent⟩

/-! ## Arrivals -/

theorem CurrentBeyond.outstanding_or_allWrite (beyond : setting.CurrentBeyond world claims ops) :
    setting.OutstandingBeyond world claims item ∨
      setting.driver.AllWrite setting.cluster (setting.target item)
        (setting.current world.hub item) ops := by
  by_cases outstanding : setting.OutstandingBeyond world claims item
  · exact .inl outstanding
  · right
    intro op mem same
    have key : op.idempotencyKey = item := same
    subst key
    exact (beyond op mem).resolve_right outstanding

variable [DecidableEq Address]

theorem served_arrive (served : Served (setting.arrive world slot chunk) row item) :
    Served world row item ∨ ∃ claim ∈ chunk.rows, Holds claim row ∧ claim.opId ∈
      (setting.driver.indexBulk setting.cluster none world.documents chunk.ops).2.passed := by
  rcases served with ⟨claim, mem, holds⟩ | batch
  · rcases mem_append.mp mem with new | old
    · obtain ⟨claimMem, reported⟩ := of_mem_applyOutcomes new
      exact .inr ⟨claim, claimMem, holds, reported rfl⟩
    · exact .inl (.inl ⟨claim, old, holds⟩)
  · exact .inl (.inr batch)

theorem Tracks.arrive (tracks : setting.Tracks world) (sound : Sound world)
    (identifies : setting.cluster.Identifies) (rejectsNothing : setting.cluster.RejectsNothing)
    (sent : world.requests slot = some chunk)
    (upToDate : setting.CurrentBeyond world chunk.rows chunk.ops) :
    setting.Tracks (setting.arrive world slot chunk) := by
  intro item
  rcases upToDate.outstanding_or_allWrite with outstanding | all
  · right
    refine outstanding.drain ⟨rfl, rfl, rfl⟩ ?_
    intro row _ beyond served
    rcases served_arrive served with before | ⟨claim, mem, holds, _⟩
    · exact before
    · exact absurd holds (beyond claim mem)
  · by_cases passed : ∃ claim ∈ chunk.rows, claim.idempotencyKey = some item ∧ claim.opId ∈
        (setting.driver.indexBulk setting.cluster none world.documents chunk.ops).2.passed
    · obtain ⟨claim, claimMem, key, reported⟩ := passed
      obtain ⟨entry, entryMem, rfl⟩ := mem_map.mp claimMem
      have opMem : rowToOp entry.1 entry.2 ∈ chunk.ops := mem_map_of_mem entryMem
      have opKey : (rowToOp entry.1 entry.2).idempotencyKey = item := by
        rw [rowToOp, key]
        rfl
      exact .inl (indexBulk_of_passed identifies rejectsNothing all
        chunk.distinct_ops opMem opKey reported)
    · refine tracks.drain ⟨rfl, rfl, rfl⟩ (indexBulk_of_allWrite identifies rejectsNothing
        all) ?_
      intro _ pending served
      rcases served_arrive served with before | ⟨claim, mem, holds, reported⟩
      · exact before
      · -- no claim on the item is marked done
        obtain ⟨known, idOnly⟩ := sound.requests slot chunk sent claim mem
        exact absurd ⟨claim, mem, (pending.names sound known holds idOnly).2, reported⟩ passed

theorem drains_arriveChunk : Drains world (setting.arriveChunk world slot size batch) ∧
      (setting.arriveChunk world slot size batch).documents =
        (setting.driver.indexBulk setting.cluster none world.documents
          (batch.rest.take size)).1 := by
  unfold arriveChunk
  simp only
  split <;> exact ⟨⟨rfl, rfl, rfl⟩, rfl⟩

/-- What a chunk newly serves are rows of its batch, after a full pass, and only
for items that are not left to submit. -/
theorem served_arriveChunk (served : Served (setting.arriveChunk world slot size batch) row item) :
    Served world row item ∨ (Holds batch.claim row ∧
        (setting.driver.indexBulk setting.cluster none world.documents
          (batch.rest.take size)).2.transient = [] ∧
        item ∉ (batch.rest.drop size).map IndexableOp.idempotencyKey) := by
  unfold arriveChunk at served
  simp only at served
  split at served
  next flushed left =>
    refine (served.of_mark rfl fun _ _ found => Pool.of_remove_eq_some found).imp_right ?_
    exact fun done => ⟨done.2, transient_of_full_pass flushed, by simp [left]⟩
  next flushed _ =>
    rcases served with mark | ⟨place, other, found, holds, absent⟩
    · exact .inl (.inl mark)
    · rcases Pool.put_eq_some found with same | old
      · subst same
        exact .inr ⟨holds, transient_of_full_pass flushed, absent⟩
      · exact .inl (.inr ⟨place, other, old, holds, absent⟩)
  next flushed =>
    refine (served.of_mark rfl fun _ _ found => Pool.of_remove_eq_some found).imp_right ?_
    exact fun done => absurd done.1 (flushWriteIdChunk_ne_done flushed)

theorem Tracks.arriveChunk (tracks : setting.Tracks world) (identifies : setting.cluster.Identifies)
    (rejectsNothing : setting.cluster.RejectsNothing) (held : world.batches slot = some batch)
    (upToDate : setting.CurrentBeyond world [batch.claim] (batch.rest.take size)) :
    setting.Tracks (setting.arriveChunk world slot size batch) := by
  obtain ⟨drains, documents⟩ := @drains_arriveChunk _ _ setting world _ slot size batch
  intro item
  rcases upToDate.outstanding_or_allWrite with outstanding | all
  · right
    refine outstanding.drain drains ?_
    intro row _ beyond served
    rcases served_arriveChunk served with before | ⟨holds, _⟩
    · exact before
    · exact absurd holds (beyond batch.claim (by simp))
  by_cases submitted : item ∈ (batch.rest.take size).map IndexableOp.idempotencyKey
  · obtain ⟨op, opMem, key⟩ := mem_map.mp submitted
    by_cases settled : (setting.driver.indexBulk setting.cluster none world.documents
        (batch.rest.take size)).2.transient = []
    · left
      rw [InSync, documents, drains.hub]
      exact indexBulk_of_no_transient identifies rejectsNothing all opMem key settled
    · refine tracks.drain drains (by
        rw [documents]
        exact indexBulk_of_allWrite identifies rejectsNothing all) ?_
      intro row _ served
      rcases served_arriveChunk served with before | ⟨_, full, _⟩
      · exact before
      · exact absurd full settled
  · have kept : (setting.arriveChunk world slot size batch).documents (setting.address item) =
        world.documents (setting.address item) := by
      rw [documents]
      apply indexBulk_of_absent identifies rejectsNothing
      exact fun op opMem key => submitted (mem_map.mpr ⟨op, opMem, key⟩)
    refine tracks.drain drains (.inl kept) ?_
    intro _ _ served
    rcases served_arriveChunk served with before | ⟨holds, _, left⟩
    · exact before
    · -- the item is not in the batch at all
      refine .inr ⟨slot, batch, held, holds, ?_⟩
      rw [← take_append_drop size batch.rest, map_append, mem_append]
      exact fun mem => mem.elim submitted left

theorem Tracks.arriveStray (tracks : setting.Tracks world) (identifies : setting.cluster.Identifies)
    (strays : Pool (List IndexableOp)) (upToDate : setting.CurrentBeyond world [] ops) :
    setting.Tracks { world with
      documents := (setting.cluster.bulk world.documents (ops.map setting.driver.action)).1
      strays := strays } := by
  intro _
  rcases upToDate.outstanding_or_allWrite with outstanding | all
  · exact .inr (outstanding.drain ⟨rfl, rfl, rfl⟩ fun _ _ _ served => served)
  · exact tracks.drain ⟨rfl, rfl, rfl⟩
      (bulk_of_writesAt world.documents (all.at_address identifies))
      fun _ _ served => served

end Setting

end Dynastore.Workclass
