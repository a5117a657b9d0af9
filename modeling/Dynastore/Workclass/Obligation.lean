import Dynastore.Workclass.Pipeline

/-! When an item is in sync with the index, which rows stand for it, and which of them are served:
the drain that holds such a row will mark it done without another operation on the item. Outcomes
and work in flight always belong to claims that were handed out. -/

namespace Dynastore.Workclass

open Tasks (Time)

def Holds (claim row : StorageRow) : Prop :=
  claim.heldBy (claim.claimedBy.getD "") row = true

variable {claim row : StorageRow} {chunk : List IndexableOp}

theorem Holds.key (holds : Holds claim row) :
    row.key = claim.key ∧ row.claimVersion = claim.claimVersion :=
  StorageRow.key_of_heldBy holds

theorem not_holds_of_unclaimed (unclaimed : row.claimedBy = none) : ¬ Holds claim row := by
  simp [Holds, StorageRow.heldBy, unclaimed]

theorem StorageOutcome.obligation_statement (outcome : StorageOutcome) (row : StorageRow) :
    ((outcome.statement claim ownerId now).assign row).obligation = row.obligation := by
  cases outcome <;> rfl

theorem flushWriteIdChunk_ne_done
    (flushed : flushWriteIdChunk chunk reply = some (action, reason)) :
    action ≠ .done := by
  rintro rfl
  cases reply with
  | raised => cases flushed
  | reported =>
    simp only [flushWriteIdChunk] at flushed
    split at flushed
    · cases flushed
    · cases flushed
    · split at flushed <;> cases flushed

theorem transient_of_full_pass (flushed : flushWriteIdChunk chunk (.reported result) = none) :
    result.transient = [] := by
  simp only [flushWriteIdChunk] at flushed
  split at flushed
  · cases flushed
  · cases flushed
  next noTransient _ => exact noTransient

namespace Setting

variable {Content Address : Type} (setting : Setting Content Address)

def address (item : String) : Address := setting.cluster.locate (setting.target item)

def current (hub : Hub Content) (item : String) : Option Document :=
  (hub.active item).map (setting.indexed item)

def InSync (world : World Content Address) (item : String) : Prop :=
  world.documents (setting.address item) = setting.current world.hub item

/-- Carrying the row out brings the item up to date: it names the item, or the
write that last changed it. -/
def Covers (hub : Hub Content) (row : StorageRow) (item : String) : Prop :=
  row.catalogId = (setting.home item).1 ∧ row.collectionId = some (setting.home item).2 ∧
    ((writeIdOf row = none ∧ row.entityId = some item ∧ row.idempotencyKey = some item) ∨
      ∃ stored, hub.lookup item = some stored ∧ writeIdOf row = some stored.writeId ∧
        row.op = if stored.deleted then .delete else .upsert)

def Served (world : World Content Address) (row : StorageRow) (item : String) : Prop :=
  (∃ claim, (claim, .done) ∈ world.marks ∧ Holds claim row) ∨
    ∃ slot batch, world.batches slot = some batch ∧ Holds batch.claim row ∧
      item ∉ batch.rest.map IndexableOp.idempotencyKey

structure Pending (world : World Content Address) (row : StorageRow) (item : String) : Prop where
  stored : world.ledger.table.lookup row.key = some row
  unfinished : row.status ≠ .done
  covers : setting.Covers world.hub row item
  unserved : ¬ Served world row item

def OutstandingBeyond (world : World Content Address) (claims : List StorageRow)
    (item : String) : Prop :=
  (∃ row ∈ world.owed, setting.Covers world.hub row item) ∨
    ∃ row, setting.Pending world row item ∧ ∀ claim ∈ claims, ¬ Holds claim row

def Current (world : World Content Address) (op : IndexableOp) : Prop :=
  setting.driver.WritesAt setting.cluster (setting.address op.idempotencyKey)
    (setting.current world.hub op.idempotencyKey) op

def CurrentBeyond (world : World Content Address) (claims : List StorageRow)
    (ops : List IndexableOp) : Prop :=
  ∀ op ∈ ops, setting.Current world op ∨ setting.OutstandingBeyond world claims op.idempotencyKey

/-- Operations that arrive at Elasticsearch write the present state of their
item, or the item has an obligation outstanding that the arriving drain does
not hold. A row is given up for want of an active item only where the index has
no document of it, or the same holds. -/
def UpToDate (world : World Content Address) : Op Content → Prop
  | .hydrate _ number => ∀ claim item, world.ledger.issued number = some claim →
      claim.entityId = some item → claim.op = .upsert → world.hub.active item = none →
        world.documents (setting.address item) = none ∨ setting.OutstandingBeyond world [claim] item
  | .arrive slot => ∀ chunk, world.requests slot = some chunk →
      setting.CurrentBeyond world chunk.rows chunk.ops
  | .arriveChunk slot size => ∀ batch, world.batches slot = some batch →
      setting.CurrentBeyond world [batch.claim] (batch.rest.take size)
  | .arriveStray slot => ∀ ops, world.strays slot = some ops → setting.CurrentBeyond world [] ops
  | _ => True

/-! ## What is known of claims -/

/-- Outcomes and work in flight belong to claims that were handed out. -/
structure Sound (world : World Content Address) : Prop where
  fenced : world.ledger.Fenced StorageRow.claimVersion
  agrees : world.ledger.Agrees StorageRow.obligation
  marks : ∀ mark ∈ world.marks, mark.1 ∈ world.ledger.claims
  hydrated : world.hydrated.All fun entry =>
    entry.1 ∈ world.ledger.claims ∧ writeIdOf entry.1 = none
  requests : world.requests.All fun chunk =>
    ∀ row ∈ chunk.rows, row ∈ world.ledger.claims ∧ writeIdOf row = none
  batches : world.batches.All fun batch => batch.claim ∈ world.ledger.claims
  owed : ∀ row ∈ world.owed, row.status = .ready ∧ row.claimedBy = none

theorem sound_initial : Sound (initial : World Content Address) where
  fenced := Ledger.Fenced.empty
  agrees := by simp [Ledger.Agrees, initial, Ledger.empty]
  marks := by simp [initial]
  hydrated := Pool.all_empty
  requests := Pool.all_empty
  batches := Pool.all_empty
  owed := by simp [initial]

variable {setting} {world : World Content Address} {item : String}

namespace Sound

section

variable (sound : Sound world)

include sound

theorem mark (marks : List Mark) (known : ∀ mark ∈ marks, mark.1 ∈ world.ledger.claims) :
    Sound { world with marks := marks ++ world.marks } :=
  { sound with
    marks := fun mark mem =>
      (List.mem_append.mp mem).elim (known mark) (sound.marks mark) }

variable {chunk : SubChunk}

theorem markOne (known : claim ∈ world.ledger.claims) :
    Sound { world with marks := (claim, outcome) :: world.marks } :=
  sound.mark [(claim, outcome)] (by simpa using known)

theorem insertAll (rows : List StorageRow) :
    Sound { world with ledger := world.ledger.insertAll rows } :=
  { sound with
    fenced := sound.fenced.insertAll rows
    agrees := sound.agrees.insertAll sound.fenced rows }

theorem upsert (writeId catalogId collectionId : String)
    (items : List (String × Content)) (grouped : Bool) (stamp : Stamp) :
    Sound (setting.upsert world writeId catalogId collectionId items grouped stamp) := by
  unfold Setting.upsert
  split
  · refine { sound with owed := ?_ }
    intro row mem
    rcases List.mem_append.mp mem with new | old
    · unfold obligations at new
      split at new
      · rw [List.mem_singleton.mp new]
        exact ⟨rfl, rfl⟩
      · obtain ⟨_, _, rfl⟩ := List.mem_map.mp new
        exact ⟨rfl, rfl⟩
    · exact sound.owed row old
  · exact sound

theorem delete (writeId item : String) (stamp : Stamp) :
    Sound (setting.delete world writeId item stamp) := by
  unfold Setting.delete
  split
  · split
    · refine { sound with owed := ?_ }
      intro row mem
      rcases List.mem_cons.mp mem with rfl | old
      · exact ⟨rfl, rfl⟩
      · exact sound.owed row old
    · exact sound
  · exact sound

theorem enqueue (index : Nat) : Sound (enqueue world index) := by
  unfold Setting.enqueue
  split
  next row _ =>
    split
    · exact { sound.insertAll [row] with
        owed := fun row mem => sound.owed row (List.mem_of_mem_eraseIdx mem) }
    · exact sound
  · exact sound

theorem claimBatch (ownerId : String) (leaseSeconds : Int)
    (batchSize : Nat) (now : Time) (lockedRows : List (Day × Nat)) (table : StorageTable) :
    Sound { world with
      ledger := world.ledger.claim
        (claimBatch ownerId leaseSeconds batchSize now lockedRows table) } :=
  { sound with
    fenced := sound.fenced.claim fun _ => rfl
    agrees := sound.agrees.claim fun _ => rfl
    marks := fun mark mem => List.mem_append_right _ (sound.marks mark mem)
    hydrated := sound.hydrated.imp fun _ _ _ known =>
      ⟨List.mem_append_right _ known.1, known.2⟩
    requests := sound.requests.imp fun _ _ _ known row mem =>
      ⟨List.mem_append_right _ (known row mem).1, (known row mem).2⟩
    batches := sound.batches.imp fun _ _ _ known => List.mem_append_right _ known }

theorem hydrate (slot : Nat)
    (known : claim ∈ world.ledger.claims) (idOnly : writeIdOf claim = none) :
    Sound (setting.hydrate world slot claim) := by
  unfold Setting.hydrate
  split
  · exact sound.markOne known
  · exact { sound with hydrated := sound.hydrated.put slot ⟨known, idOnly⟩ }
  · split
    · exact { sound with hydrated := sound.hydrated.put slot ⟨known, idOnly⟩ }
    · exact sound.markOne known

theorem hydrateBatch (slot : Nat) (writeId : String) (known : claim ∈ world.ledger.claims) :
    Sound (setting.hydrateBatch world slot claim writeId) := by
  unfold Setting.hydrateBatch
  split
  · exact sound.markOne known
  · exact { sound with batches := sound.batches.put slot known }

theorem send (slot : Nat) (slots : List Nat) (gathered : gather world slots = some chunk) :
    Sound { world with
      hydrated := slots.foldl Pool.remove world.hydrated
      requests := world.requests.put slot chunk } := by
  refine { sound with hydrated := ?_, requests := sound.requests.put slot ?_ }
  · have kept : ∀ (slots : List Nat) (pool : Pool (StorageRow × Document)),
        pool.All (fun entry => entry.1 ∈ world.ledger.claims ∧ writeIdOf entry.1 = none) →
          (slots.foldl Pool.remove pool).All fun entry =>
            entry.1 ∈ world.ledger.claims ∧ writeIdOf entry.1 = none := by
      intro slots
      induction slots with
      | nil => exact fun _ all => all
      | cons slot _ ih => exact fun _ all => ih _ (all.remove slot)
    exact kept slots _ sound.hydrated
  · intro _ mem
    unfold gather at gathered
    simp only at gathered
    split at gathered
    · cases gathered
      obtain ⟨entry, entryMem, rfl⟩ := List.mem_map.mp mem
      obtain ⟨_, _, found⟩ := List.mem_filterMap.mp entryMem
      exact sound.hydrated _ entry found
    · cases gathered

variable [DecidableEq Address]

theorem arrive (slot : Nat)
    (sent : world.requests slot = some chunk) : Sound (setting.arrive world slot chunk) := by
  have cleared : Sound
      { world with
        documents :=
          (setting.driver.indexBulk setting.cluster none world.documents chunk.ops).1
        requests := world.requests.remove slot } :=
    { sound with requests := sound.requests.remove slot }
  apply cleared.mark
  intro mark mem
  exact (sound.requests slot chunk sent mark.1 (of_mem_applyOutcomes mem).1).1

theorem arriveChunk (slot size : Nat) (held : world.batches slot = some batch) :
    Sound (setting.arriveChunk world slot size batch) := by
  have known := sound.batches slot batch held
  have removed : ∀ documents : EsDocuments Address, Sound
      { world with documents := documents, batches := world.batches.remove slot } :=
    fun _ => { sound with batches := sound.batches.remove slot }
  unfold Setting.arriveChunk
  simp only
  split
  · exact (removed _).markOne known
  · exact { sound with batches := sound.batches.put slot known }
  · exact (removed _).markOne known

omit [DecidableEq Address] in
theorem writeMark (index : Nat) {outcome : StorageOutcome} (now : Time) :
    Sound { world with
      ledger := world.ledger.write (outcome.statement claim (claim.claimedBy.getD "") now)
      marks := world.marks.eraseIdx index } :=
  { sound with
    fenced := sound.fenced.write (outcome.claimVersion_statement)
    agrees := sound.agrees.write (outcome.obligation_statement)
    marks := fun mark mem => sound.marks mark (List.mem_of_mem_eraseIdx mem) }

theorem step (op : Op Content) : Sound (setting.step world op) := by
  cases op with
  | upsert writeId catalogId collectionId items grouped stamp =>
    exact sound.upsert writeId catalogId collectionId items grouped stamp
  | delete writeId item stamp => exact sound.delete writeId item stamp
  | enqueue index => exact sound.enqueue index
  | sweep =>
    simp only [Setting.step, Setting.sweep]
    split
    · exact sound.insertAll _
    · exact sound
  | claimBatch ownerId leaseSeconds batchSize now lockedRows =>
    exact sound.claimBatch ownerId leaseSeconds batchSize now lockedRows world.ledger.table
  | hydrate slot =>
    simp only [Setting.step]
    split
    next issued =>
      split
      · exact sound
      next idOnly => exact sound.hydrate slot (Ledger.mem_of_issued issued) idOnly
    · exact sound
  | hydrateBatch slot =>
    simp only [Setting.step]
    split
    next issued =>
      split
      next writeId _ => exact sound.hydrateBatch slot writeId (Ledger.mem_of_issued issued)
      · exact sound
    · exact sound
  | giveUp =>
    simp only [Setting.step]
    split
    next issued => exact sound.markOne (Ledger.mem_of_issued issued)
    · exact sound
  | send slot slots =>
    simp only [Setting.step]
    split
    next gathered => exact sound.send slot slots gathered
    · exact sound
  | arrive slot =>
    simp only [Setting.step]
    split
    next sent => exact sound.arrive slot sent
    · exact sound
  | lose slot =>
    simp only [Setting.step]
    split
    next chunk sent =>
      have cleared : Sound
          { world with
            requests := world.requests.remove slot
            strays := world.strays.put slot chunk.ops } :=
        { sound with requests := sound.requests.remove slot }
      apply cleared.mark
      intro _ mem
      obtain ⟨row, rowMem, rfl⟩ := List.mem_map.mp mem
      exact (sound.requests slot chunk sent row rowMem).1
    · exact sound
  | arriveChunk slot size =>
    simp only [Setting.step]
    split
    next held => exact sound.arriveChunk slot size held
    · exact sound
  | loseChunk slot size =>
    simp only [Setting.step]
    split
    next batch held =>
      have cleared : Sound
          { world with
            batches := world.batches.remove slot
            strays := world.strays.put slot (batch.rest.take size) } :=
        { sound with batches := sound.batches.remove slot }
      exact cleared.markOne (sound.batches slot batch held)
    · exact sound
  | arriveStray =>
    simp only [Setting.step]
    split
    · exact { sound with }
    · exact sound
  | writeMark index now =>
    simp only [Setting.step]
    split
    · exact sound.writeMark index now
    · exact sound

end

end Sound

end Setting

end Dynastore.Workclass
