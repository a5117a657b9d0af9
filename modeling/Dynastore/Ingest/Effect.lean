import Dynastore.Ingest.Resolution

/-! One inversion lemma for `insert_or_update_distributed`: a plan that goes through leaves the
store alone, or puts an item under its own geoid, under that of the record it matched, or under
both. A written item carries the transaction time of the plan, which is how a store that has been
written to is told from the one before. -/

namespace Dynastore.Ingest

open List

namespace Collection

variable {collection : Collection} {store next : Store} {plan : Plan}

theorem sidecars_upsertSidecarTable_of_ne (ne : other ≠ table) (conflictColumns : List String) :
    (collection.upsertSidecarTable item table conflictColumns payload).sidecars other =
      item.sidecars other :=
  if_neg ne

/-! ## The hub row -/

@[simp] theorem hub_insertSidecar (item : Item) (sidecar : Sidecar) :
    (collection.insertSidecar pad plan item sidecar).hub = item.hub := by
  unfold insertSidecar
  split
  · rfl
  · split <;> rfl

@[simp] theorem hub_updateSidecar (item : Item) (sidecar : Sidecar) :
    (collection.updateSidecar plan hubPayload context item sidecar).hub = item.hub := by
  unfold updateSidecar
  split <;> rfl

theorem hub_foldl (keeps : ∀ item sidecar, (write item sidecar).hub = item.hub)
    (sidecars : List Sidecar) (item : Item) : (sidecars.foldl write item).hub = item.hub := by
  induction sidecars generalizing item with
  | nil => rfl
  | cons _ _ ih => rw [foldl_cons, ih, keeps]

theorem hub_insertedItem (given : (pad hubTable plan.hubPayload).lookup column = some cell) :
    (collection.insertedItem pad plan).hub column = cell := by
  rw [insertedItem, hub_foldl hub_insertSidecar]
  simp [Row.ofPayload, given]

theorem hub_updatedItem (given : plan.hubPayload.lookup column = some cell)
    (own : column ≠ "geoid") (unversioned : column ≠ "validity") :
    (collection.updatedItem plan record item).hub column = cell := by
  have kept : (collection.updateHubPayload plan record).lookup column = some cell := by
    unfold updateHubPayload
    split
    · rw [Dict.lookup_assign, if_neg unversioned, given]
    · exact given
  have filtered : ((collection.updateHubPayload plan record).filter (·.1 ≠ "geoid")).lookup
      column = some cell := by
    rw [← kept]
    exact Dict.lookup_filter (fun column => decide (column ≠ "geoid")) (by simpa) _
  rw [updatedItem, hub_foldl hub_updateSidecar]
  simp only [Row.overwrite, filtered, Option.getD_some]

/-! ## The tables of the sidecars -/

section Tables

variable {write : Item → Sidecar → Item} {table : String}
  (keeps : ∀ item sidecar, table ≠ sidecar.sidecarId →
    (write item sidecar).sidecars table = item.sidecars table)
  {sidecars : List Sidecar}

include keeps

theorem sidecars_foldl_of_not_mem (other : table ∉ sidecars.map Sidecar.sidecarId)
    (item : Item) : (sidecars.foldl write item).sidecars table = item.sidecars table := by
  induction sidecars generalizing item with
  | nil => rfl
  | cons _ _ ih =>
    rw [map_cons, mem_cons, not_or] at other
    rw [foldl_cons, ih other.2, keeps _ _ other.1]

theorem sidecars_foldl_of_mem (distinct : (sidecars.map Sidecar.sidecarId).Nodup)
    (mem : sidecar ∈ sidecars) (own : sidecar.sidecarId = table) (item : Item) :
    ∃ before : Item, before.sidecars table = item.sidecars table ∧
      (sidecars.foldl write item).sidecars table = (write before sidecar).sidecars table := by
  induction sidecars generalizing item with
  | nil => cases mem
  | cons head _ ih =>
    rw [map_cons, nodup_cons] at distinct
    rcases mem_cons.mp mem with rfl | later
    · exact ⟨item, rfl, sidecars_foldl_of_not_mem keeps (own ▸ distinct.1) _⟩
    · have other : table ≠ head.sidecarId := by
        rintro rfl
        exact distinct.1 (own ▸ mem_map_of_mem later)
      obtain ⟨before, same, made⟩ := ih distinct.2 later (write item head)
      exact ⟨before, same.trans (keeps item head other), made⟩

end Tables

/-! ## Inversion -/

variable {record : ActiveRec} {decision : Decision}

theorem decision_cases (decided : collection.decision store plan = .ok decision) :
    (∃ sidecarId, collection.unacceptable plan = some sidecarId ∧
      decision = .unacceptable sidecarId) ∨ decision = .insert ∨
    ∃ record rule, collection.resolve store plan.context = .ok (some (record, rule)) ∧
      ((∃ error, decision = .conflict error) ∨ decision = .echo record.geoid ∨
        decision = .newVersion record ∨ decision = .update record ∨
        decision = .refuse record rule ∧ effectiveOnConflict collection.policy rule = .refuse) := by
  unfold Collection.decision at decided
  split at decided
  next refused => exact .inl ⟨_, refused, (Except.ok.inj decided).symm⟩
  · split at decided
    · cases decided
    next found resolved =>
      cases decided
      cases found with
      | none => exact .inr (.inl rfl)
      | some found =>
        refine .inr (.inr ⟨found.1, found.2, resolved, ?_⟩)
        simp only [decisionOn]
        split
        · exact .inl ⟨_, rfl⟩
        · split <;> simp_all

theorem resolve_of_decision (decided : collection.decision store plan = .ok decision)
    (about : decision = .update record ∨ decision = .newVersion record) :
    ∃ rule, collection.resolve store plan.context = .ok (some (record, rule)) := by
  rcases decision_cases decided with ⟨_, _, rfl⟩ | rfl | ⟨_, rule, found, given⟩
  · rcases about with about | about <;> cases about
  · rcases about with about | about <;> cases about
  · rcases given with ⟨_, rfl⟩ | rfl | rfl | rfl | ⟨rfl, _⟩ <;>
      rcases about with about | about <;> cases about <;> exact ⟨rule, found⟩

theorem seen_of_decision (decided : collection.decision store plan = .ok decision)
    (about : decision = .update record ∨ decision = .newVersion record) :
    ∃ item, store.get record.geoid = some item ∧ collection.Sees plan.context item := by
  obtain ⟨_, found⟩ := resolve_of_decision decided about
  exact (seen_of_resolve found).2

theorem insertOrUpdate_cases
    (done : collection.insertOrUpdateDistributed store plan = .ok (next, result)) :
    (∃ geoid, collection.decision store plan = .ok (.echo geoid) ∧ next = store ∧
      result = some (.echoed geoid)) ∨
    (collection.decision store plan = .ok .insert ∧ store.get plan.geoid = none ∧
      next = store.put plan.geoid (collection.newItem plan) ∧
      result = some (.row plan.geoid (collection.newItem plan).hub)) ∨
    (∃ record, collection.decision store plan = .ok (.newVersion record) ∧
      (collection.archive store record plan).get plan.geoid = none ∧
      next = (collection.archive store record plan).put plan.geoid (collection.newItem plan) ∧
      result = some (.row plan.geoid (collection.newItem plan).hub)) ∨
    (∃ record item, collection.decision store plan = .ok (.update record) ∧
      store.get record.geoid = some item ∧
      next = store.put record.geoid (collection.updatedItem plan record item) ∧
      result = some (.row record.geoid (collection.updatedItem plan record item).hub)) := by
  unfold insertOrUpdateDistributed at done
  cases decided : collection.decision store plan with
  | error => rw [decided] at done; cases done
  | ok decision =>
    rw [decided] at done
    change collection.perform store plan decision = _ at done
    cases decision with
    | echo geoid =>
      cases done
      exact .inl ⟨geoid, rfl, rfl, rfl⟩
    | insert =>
      rw [perform, executeDistributedInsert] at done
      split at done
      · cases done
      next free =>
        cases done
        exact .inr (.inl ⟨rfl, free, rfl, rfl⟩)
    | newVersion record =>
      rw [perform, executeDistributedInsert] at done
      split at done
      · cases done
      next free =>
        cases done
        exact .inr (.inr (.inl ⟨record, rfl, free, rfl, rfl⟩))
    | update record =>
      obtain ⟨item, stored, _⟩ := seen_of_decision decided (.inl rfl)
      rw [perform] at done
      split at done
      · cases done
      · rw [executeDistributedUpdate, stored] at done
        cases done
        exact .inr (.inr (.inr ⟨record, item, rfl, stored, rfl, rfl⟩))
    | _ => cases done

theorem finishPlan_cases
    (done : collection.finishPlan inserts store (plan, decision) = .ok (next, outcome)) :
    (next = store ∧ ((decision.isIdle ∧ ∃ rejection, outcome = .rejected rejection) ∨
      (∃ geoid, decision = .echo geoid ∧ outcome = .written (.echoed geoid)) ∨
      (decision = .insert ∧
        outcome = .written (.row plan.geoid (collection.batchItem inserts plan).hub)))) ∨
    (∃ result, collection.insertOrUpdateDistributed store plan = .ok (next, some result) ∧
      outcome = .written result) := by
  have never : ∀ {next}, collection.insertOrUpdateDistributed store plan ≠ .ok (next, none) := by
    intro next written
    rcases insertOrUpdate_cases written with ⟨_, _, _, same⟩ | ⟨_, _, _, same⟩ |
      ⟨_, _, _, _, same⟩ | ⟨_, _, _, _, _, same⟩ <;> cases same
  cases decision with
  | echo geoid => cases done; exact .inl ⟨rfl, .inr (.inl ⟨geoid, rfl, rfl⟩)⟩
  | insert => cases done; exact .inl ⟨rfl, .inr (.inr ⟨rfl, rfl⟩)⟩
  | conflict => cases done
  | newVersion record | update record =>
    simp only [finishPlan] at done
    split at done
    next written => cases done; exact .inr ⟨_, written, rfl⟩
    next written => exact absurd written never
    · cases done
  | _ => cases done; exact .inl ⟨rfl, .inl ⟨rfl, _, rfl⟩⟩

end Collection

/-! ## The mark of a write -/

def Plan.IsTimed (plan : Plan) : Prop :=
  ∃ instant, plan.hubPayload.lookup "transaction_time" = some (.time instant)

def Marked (plans : List Plan) (store : Store) : Prop :=
  ∃ geoid item, store.get geoid = some item ∧
    ∃ plan ∈ plans, plan.hubPayload.lookup "transaction_time" = some (item.hub "transaction_time")

theorem marked_put (store : Store) (mem : plan ∈ plans)
    (stamped : plan.hubPayload.lookup "transaction_time" = some (item.hub "transaction_time")) :
    Marked plans (store.put geoid item) :=
  ⟨geoid, item, store.get_put_self, plan, mem, stamped⟩

namespace Collection

variable {collection : Collection} {store next : Store} {plan : Plan}

theorem stamped_insertedItem (pads : ∀ payload column cell, payload.lookup column = some cell →
      (pad hubTable payload).lookup column = some cell) (timed : plan.IsTimed) :
    plan.hubPayload.lookup "transaction_time" =
      some ((collection.insertedItem pad plan).hub "transaction_time") := by
  obtain ⟨_, given⟩ := timed
  rw [hub_insertedItem (pads _ _ _ given), given]

theorem stamped_newItem (timed : plan.IsTimed) : plan.hubPayload.lookup "transaction_time" =
      some ((collection.newItem plan).hub "transaction_time") :=
  stamped_insertedItem (fun _ _ _ given => given) timed

theorem stamped_updatedItem (timed : plan.IsTimed) :
    plan.hubPayload.lookup "transaction_time" =
      some ((collection.updatedItem plan record item).hub "transaction_time") := by
  obtain ⟨_, given⟩ := timed
  rw [hub_updatedItem given (by decide) (by decide), given]

def Idle (collection : Collection) (store : Store) (plan : Plan) : Prop :=
  ∃ decision, collection.decision store plan = .ok decision ∧ decision.isIdle = true

theorem idle_or_marked (mem : plan ∈ plans) (timed : plan.IsTimed)
    (done : collection.insertOrUpdateDistributed store plan = .ok (next, result)) :
    (next = store ∧ collection.Idle store plan) ∨ Marked plans next := by
  rcases insertOrUpdate_cases done with ⟨_, decided, rfl, _⟩ | ⟨_, _, rfl, _⟩ |
    ⟨record, _, _, rfl, _⟩ | ⟨record, item, _, _, rfl, _⟩
  · exact .inl ⟨rfl, _, decided, rfl⟩
  · exact .inr (marked_put _ mem (stamped_newItem timed))
  · exact .inr (marked_put _ mem (stamped_newItem timed))
  · exact .inr (marked_put _ mem (stamped_updatedItem timed))

theorem idle_of_rejected
    (raised : collection.insertOrUpdateDistributed store plan = .error (.rejected rejection)) :
    collection.Idle store plan := by
  unfold insertOrUpdateDistributed at raised
  cases decided : collection.decision store plan with
  | error =>
    rw [decided] at raised
    cases raised
    unfold decision at decided
    split at decided
    · cases decided
    · split at decided <;> cases decided
  | ok decision =>
    rw [decided] at raised
    change collection.perform store plan decision = _ at raised
    refine ⟨decision, decided, ?_⟩
    cases decision with
    | conflict error | echo geoid => cases raised
    | insert | newVersion record =>
      rw [perform, executeDistributedInsert] at raised
      split at raised <;> cases raised
    | update =>
      rw [perform] at raised
      split at raised <;> cases raised
    | _ => rfl

end Collection

end Dynastore.Ingest
