import Dynastore.Workclass.Tracking

/-! An item is in sync, or an obligation for it is outstanding: this holds along every run in which
what reaches Elasticsearch is the present state of its item, or the item has another obligation
outstanding. Without that condition a drain that read the hub before a write can reach Elasticsearch
after the drain of that write, and the older document stays. -/

namespace Dynastore.Workclass

open Execution Setting

namespace Setting

variable {Content Address : Type} {setting : Setting Content Address}
  {world : World Content Address} [DecidableEq Address]

/-! ## Runs -/

theorem Tracks.step (tracks : setting.Tracks world) (sound : Sound world)
    (identifies : setting.cluster.Identifies) (rejectsNothing : setting.cluster.RejectsNothing)
    (upToDate : setting.UpToDate world op) : setting.Tracks (setting.step world op) := by
  cases op with
  | upsert writeId catalogId collectionId items grouped stamp =>
    exact tracks.upsert writeId catalogId collectionId items grouped stamp
  | delete writeId item stamp => exact tracks.delete writeId item stamp
  | enqueue index => exact tracks.enqueue sound index
  | sweep =>
    simp only [Setting.step, Setting.sweep]
    split
    · exact fun item => (tracks item).imp id fun outstanding => outstanding.insertAll _
    · exact tracks
  | claimBatch ownerId leaseSeconds batchSize now lockedRows =>
    exact tracks.claimBatch sound ownerId leaseSeconds batchSize now lockedRows world.ledger.table
  | hydrate slot =>
    simp only [Setting.step]
    split
    next claim issued =>
      split
      · exact tracks
      next idOnly =>
        exact tracks.hydrate sound slot (Ledger.mem_of_issued issued) idOnly
          fun item => upToDate claim item issued
    · exact tracks
  | hydrateBatch slot =>
    simp only [Setting.step]
    split
    next issued =>
      split
      next grouped =>
        exact tracks.hydrateBatch sound slot (Ledger.mem_of_issued issued) grouped
      · exact tracks
    · exact tracks
  | giveUp =>
    simp only [Setting.step]
    split
    next =>
      exact tracks.calm ⟨rfl, rfl, rfl, rfl, by simp, fun _ _ found => found⟩
    · exact tracks
  | send =>
    simp only [Setting.step]
    split
    · exact tracks.calm ⟨rfl, rfl, rfl, rfl, fun _ mem => mem, fun _ _ found => found⟩
    · exact tracks
  | arrive =>
    simp only [Setting.step]
    split
    next sent => exact tracks.arrive sound identifies rejectsNothing sent (upToDate _ sent)
    · exact tracks
  | lose =>
    simp only [Setting.step]
    split
    next =>
      exact tracks.calm ⟨rfl, rfl, rfl, rfl, by simp, fun _ _ found => found⟩
    · exact tracks
  | arriveChunk =>
    simp only [Setting.step]
    split
    next held => exact tracks.arriveChunk identifies rejectsNothing held (upToDate _ held)
    · exact tracks
  | loseChunk =>
    simp only [Setting.step]
    split
    next =>
      exact tracks.calm ⟨rfl, rfl, rfl, rfl, by simp, fun _ _ found => Pool.of_remove_eq_some found⟩
    · exact tracks
  | arriveStray =>
    simp only [Setting.step]
    split
    next astray => exact tracks.arriveStray identifies _ (upToDate _ astray)
    · exact tracks
  | writeMark _ now =>
    simp only [Setting.step]
    split
    next decided => exact tracks.writeMark decided now
    · exact tracks

def Quiescent (world : World Content Address) : Prop :=
  ∀ row ∈ world.ledger.table.rows, row.status = .done
deriving Decidable

/-- Along every run of up-to-date operations, whenever no row is left the index
has for each item the document of its active hub row and none without one,
unless the last write of the item has not committed its obligation. -/
theorem index_converges_at_quiescence (setting : Setting Content Address)
    (identifies : setting.cluster.Identifies) (rejectsNothing : setting.cluster.RejectsNothing)
    (ops : List (Op Content)) (upToDate : Guarded setting.step setting.UpToDate initial ops)
    (quiescent : Quiescent (run setting.step initial ops)) (item : String)
    (committed : ∀ row ∈ (run setting.step initial ops).owed,
      ¬ setting.Covers (run setting.step initial ops).hub row item) :
    (run setting.step initial ops).documents (setting.address item) =
      ((run setting.step initial ops).hub.active item).map (setting.indexed item) := by
  have preserved : ∀ world op, Sound world ∧ setting.Tracks world → setting.UpToDate world op →
      Sound (setting.step world op) ∧ setting.Tracks (setting.step world op) :=
    fun _ op holds guard =>
      ⟨holds.1.step op, holds.2.step holds.1 identifies rejectsNothing guard⟩
  have reached := invariant_run preserved ⟨sound_initial, fun _ => .inl rfl⟩ upToDate
  rcases reached.2 item with inSync | owed | ⟨row, pending, _⟩
  · exact inSync
  · obtain ⟨row, mem, covers⟩ := owed
    exact absurd covers (committed row mem)
  · exact absurd (quiescent row (Table.mem_of_lookup pending.stored)) pending.unfinished

end Setting

/-! ## Two drains -/

def titledItems : Setting String BulkTarget where
  driverId := "items_elasticsearch_driver"
  home _ := ("c", "k")
  buildCanonicalDoc item title := [("id", .text item), ("title", .text title)]
  driver := plainDriver
  cluster := openCluster

/-- Two drains have claimed and read two writes of one item, and nothing has arrived. -/
def bothDraining : List (Op String) :=
  [.upsert "w1" "c" "k" [("i", "first")] true ⟨1, 0, 0⟩, .enqueue 0,
    .claimBatch "storage_drain:a" 300 500 0 [], .hydrateBatch 0 0,
    .upsert "w2" "c" "k" [("i", "second")] true ⟨2, 0, 1⟩, .enqueue 0,
    .claimBatch "storage_drain:b" 300 500 1 [], .hydrateBatch 1 1]

def orderlyDrains : List (Op String) :=
  bothDraining ++ [.arriveChunk 0 500, .writeMark 0 2, .arriveChunk 1 500, .writeMark 0 3]

def bothDrain : World String BulkTarget := run titledItems.step initial bothDraining

def secondClaim : StorageRow := (bothDrain.ledger.issued 1).get rfl

theorem not_holds_secondClaim (found : bothDrain.batches 0 = some batch) :
    ¬ Holds batch.claim secondClaim := by
  cases found
  unfold Holds
  decide

theorem pending_secondClaim : titledItems.Pending bothDrain secondClaim "i" where
  stored := rfl
  unfinished := by decide
  covers := ⟨rfl, rfl, .inr ⟨⟨"i", "second", "w2", false⟩, rfl, rfl, rfl⟩⟩
  unserved := by
    rintro (⟨_, done, _⟩ | ⟨slot, batch, found, held, served⟩)
    · cases done
    · rcases Pool.put_cases found with ⟨rfl, rfl⟩ | ⟨_, first⟩
      · exact served (.head _)
      · rcases Pool.put_cases first with ⟨rfl, rfl⟩ | ⟨_, none⟩
        · exact not_holds_secondClaim rfl held
        · cases none

theorem index_converges_after_orderlyDrains :
    Setting.Quiescent (run titledItems.step Setting.initial orderlyDrains) ∧
      (run titledItems.step Setting.initial orderlyDrains).documents (titledItems.address "i") =
        ((run titledItems.step Setting.initial orderlyDrains).hub.active "i").map
          (titledItems.indexed "i") := by
  have quiescent : Setting.Quiescent (run titledItems.step initial orderlyDrains) := by decide
  refine ⟨quiescent,
    index_converges_at_quiescence titledItems ?_ ?_ orderlyDrains ?_ quiescent "i" ?_⟩
  · rintro left _ rfl
    rfl
  · intro _ _
    rfl
  · refine ⟨trivial, trivial, trivial, trivial, trivial, trivial, trivial, trivial, ?_, trivial, ?_,
      trivial, trivial⟩
    · -- the older document arrives while the second write is still to be indexed
      rintro batch found _ mem
      have first : titledItems.OutstandingBeyond bothDrain [batch.claim] "i" :=
        .inr ⟨_, pending_secondClaim, by simpa using not_holds_secondClaim found⟩
      cases found
      rw [List.mem_singleton.mp mem]
      exact .inr first
    · rintro _ ⟨⟩ _ mem
      left
      rw [List.mem_singleton.mp mem]
      exact ⟨rfl, rfl⟩
  · rintro _ ⟨⟩
/-- The request of the first drain arrives after that of the second. -/
def overtakenDrain : List (Op String) :=
  bothDraining ++ [.arriveChunk 1 500, .writeMark 0 2, .arriveChunk 0 500, .writeMark 0 3]

/-- Every row is done and the index has the title of the first write. -/
theorem overtaken_drain_leaves_stale_document :
    ¬ ∀ ops : List (Op String), Setting.Quiescent (run titledItems.step Setting.initial ops) →
      (run titledItems.step Setting.initial ops).owed = [] → ∀ item,
        (run titledItems.step Setting.initial ops).documents (titledItems.address item) =
          ((run titledItems.step Setting.initial ops).hub.active item).map
            (titledItems.indexed item) := by
  intro converges
  have stale : (run titledItems.step initial overtakenDrain).documents
      (titledItems.address "i") = some [("id", .text "i"), ("title", .text "first")] := rfl
  have written : (run titledItems.step initial overtakenDrain).hub.active "i" =
      some "second" := by decide
  have eq := converges overtakenDrain (by decide) rfl "i"
  rw [stale, written] at eq
  simp [titledItems, indexed, plainDriver] at eq

end Dynastore.Workclass
