import Dynastore.Workclass.Events

/-! Any number of drains claim rows and write outcomes for the claims they hold, in any order and as
often as they like. A drain that crashes writes no more, and a lease expires with the clock of the
claiming statement. The claim version of a row fences the outcome writes of every claim but the
latest. -/

namespace Dynastore.Workclass

open Execution Ledger Events
open Tasks (Time)

/-! ## Storage drains -/

namespace Storage

/-- What can happen to the storage outbox. A drain names the claim it writes
for by its number in the order the claims were handed out. -/
inductive Op where
  | enqueueIdOnly (today : Day) (now : Time) (catalogId : String) (records : List OutboxRecord)
  | enqueueWriteId (today : Day) (now : Time) (catalogId : String)
      (records : List WriteIdOutboxRecord)
  | claimBatch (ownerId : String) (leaseSeconds : Int) (batchSize : Nat) (now : Time)
      (lockedRows : List (Day × Nat))
  | mark (outcome : StorageOutcome) (ownerId : String) (number : Nat) (now : Time)

def held (ledger : StorageLedger) (ownerId : String) (number : Nat) : Option StorageRow :=
  (ledger.issued number).filter fun claim => claim.claimedBy == some ownerId

def step (ledger : StorageLedger) : Op → StorageLedger
  | .enqueueIdOnly today now catalogId records =>
    ledger.insertAll (enqueueStorageOpIdOnly today now catalogId records)
  | .enqueueWriteId today now catalogId records =>
    ledger.insertAll (enqueueStorageOpWriteId today now catalogId records)
  | .claimBatch ownerId leaseSeconds batchSize now lockedRows =>
    ledger.claim (Workclass.claimBatch ownerId leaseSeconds batchSize now lockedRows ledger.table)
  | .mark outcome ownerId number now =>
    match held ledger ownerId number with
    | some claim => ledger.write (outcome.statement claim ownerId now)
    | none => ledger

def done (row : StorageRow) : Bool := row.status == .done

def Completes (claim : StorageRow) : Op → Prop
  | .mark .done ownerId _ _ => claim.claimedBy = some ownerId
  | _ => False

theorem mem_of_held {claim : StorageRow} (own : held ledger ownerId number = some claim) :
    claim ∈ ledger.claims ∧ claim.claimedBy = some ownerId := by
  obtain ⟨issued, owner⟩ := Option.filter_eq_some_iff.mp own
  exact ⟨mem_of_issued issued, by simpa using owner⟩

theorem fenced_step (ledger : StorageLedger) (op : Op)
    (fenced : ledger.Fenced StorageRow.claimVersion) :
    (step ledger op).Fenced StorageRow.claimVersion := by
  cases op with
  | claimBatch =>
    exact fenced.claim fun _ => rfl
  | mark outcome =>
    rw [step]
    split
    next => exact fenced.write (outcome.claimVersion_statement)
    · exact fenced
  | _ => exact fenced.insertAll _

theorem fenced_run (ops : List Op) : (run step Ledger.empty ops).Fenced StorageRow.claimVersion :=
  invariant_run_of_step fenced_step .empty ops

/-- An outcome write changes the row of its claim, and only while that claim
is the row's latest. -/
theorem latest_of_mark (fenced : ledger.Fenced StorageRow.claimVersion)
    (changed : (step ledger (.mark outcome ownerId number now)).table.lookup key ≠
      ledger.table.lookup key) :
    ∃ claim row, held ledger ownerId number = some claim ∧ claim.key = key ∧
      ledger.latest key = some claim ∧ ledger.table.lookup key = some row ∧
      (step ledger (.mark outcome ownerId number now)).table.lookup key =
        some ((outcome.statement claim ownerId now).assign row) := by
  rw [step] at changed ⊢
  cases own : held ledger ownerId number with
  | none =>
    rw [own] at changed
    exact absurd rfl changed
  | some claim =>
    rw [own] at changed
    obtain ⟨row, found, selected, assigned⟩ := selected_of_write changed
    rw [outcome.guard_statement] at selected
    obtain ⟨claimKey, latest⟩ :=
      fenced.latest_of_lookup (mem_of_held own).1 found (StorageRow.key_of_heldBy selected)
    exact ⟨claim, row, rfl, claimKey, latest, found, assigned⟩

theorem turns_done (ledger : StorageLedger) (op : Op) (key : Day × Nat)
    (fenced : ledger.Fenced StorageRow.claimVersion) (unfinished : ¬ ledger.Finished done key)
    (finished : (step ledger op).Finished done key) :
    ∃ claim, ledger.latest key = some claim ∧ Completes claim op := by
  cases op with
  | enqueueIdOnly =>
    refine absurd (finished_of_insertAll ?_ finished) unfinished
    intro row inserted
    rw [done, status_of_enqueueIdOnly inserted]
    rfl
  | enqueueWriteId =>
    refine absurd (finished_of_insertAll ?_ finished) unfinished
    intro row inserted
    rw [done, status_of_enqueueWriteId inserted]
    rfl
  | claimBatch => exact absurd (finished_of_write (fun _ => rfl) finished) unfinished
  | mark outcome =>
    obtain ⟨claim, _, own, _, latest, _, assigned⟩ :=
      latest_of_mark fenced (lookup_ne_of_finished unfinished finished)
    obtain ⟨_, found, rowDone⟩ := finished
    rw [assigned] at found
    cases found
    cases outcome with
    | done => exact ⟨claim, latest, (mem_of_held own).2⟩
    | _ => cases rowDone

theorem latest_step_of_done (finished : (step ledger op).Finished done key) :
    (step ledger op).latest key = ledger.latest key := by
  cases op with
  | claimBatch =>
    exact latest_claim_of_finished (fun _ => rfl) finished
  | mark =>
    rw [step]
    split <;> rfl
  | _ => rfl

end Storage

/-! ## Event drains -/

namespace Events

inductive Op where
  | emitEventRow (today : Day) (now : Time) (eventId : Nat) (emission : EventEmission)
  | claimBatch (ownerId : String) (leaseSeconds : Int) (batchSize : Nat) (now : Time)
      (lockedRows : List (Day × Nat))
  | markDoneMany (ownerId : String) (numbers : List Nat) (now : Time)
  | markRetry (ownerId : String) (number : Nat) (error : String) (now : Time)
  | requeueDeadLetterEvent (eventId : Nat) (day : Day) (resetRetries : Bool)
  | requeueDeadLetterEventsByType (eventType : String) (since : Option Time) (limit : Nat)
      (resetRetries : Bool)

def held (ledger : EventLedger) (ownerId : String) (number : Nat) : Option EventRow :=
  (ledger.issued number).filter fun claim => claim.ownerId == some ownerId

def step (ledger : EventLedger) : Op → EventLedger
  | .emitEventRow today now eventId emission =>
    ledger.insertAll [Workclass.emitEventRow today now eventId emission]
  | .claimBatch ownerId leaseSeconds batchSize now lockedRows =>
    ledger.claim (Events.claimBatch ownerId leaseSeconds batchSize now lockedRows ledger.table)
  | .markDoneMany ownerId numbers now =>
    ledger.write (Events.markDoneMany (numbers.filterMap (held ledger ownerId)) ownerId now)
  | .markRetry ownerId number error now =>
    match held ledger ownerId number with
    | some claim => ledger.write (Events.markRetry claim ownerId error now)
    | none => ledger
  | .requeueDeadLetterEvent eventId day resetRetries =>
    ledger.write (Events.requeueDeadLetterEvent eventId day resetRetries)
  | .requeueDeadLetterEventsByType eventType since limit resetRetries =>
    ledger.write
      (Events.requeueDeadLetterEventsByType eventType since limit resetRetries ledger.table)

def completed (row : EventRow) : Bool := row.status == .completed

def Op.outcomeOf (ownerId : String) (number : Nat) : Op → Prop
  | .markDoneMany writer numbers _ => writer = ownerId ∧ number ∈ numbers
  | .markRetry writer written _ _ => writer = ownerId ∧ written = number
  | _ => False

def Op.isOutcome : Op → Bool
  | .markDoneMany .. | .markRetry .. => true
  | _ => false

def Completes (claim : EventRow) : Op → Prop
  | .markDoneMany ownerId _ _ => claim.ownerId = some ownerId
  | _ => False

variable {ledger : EventLedger} {ownerId : String} {number : Nat} {claim : EventRow}

theorem mem_of_held (own : held ledger ownerId number = some claim) :
    claim ∈ ledger.claims ∧ claim.ownerId = some ownerId := by
  obtain ⟨issued, owner⟩ := Option.filter_eq_some_iff.mp own
  exact ⟨mem_of_issued issued, by simpa using owner⟩

theorem fenced_step (ledger : EventLedger) (op : Op)
    (fenced : ledger.Fenced EventRow.claimVersion) :
    (step ledger op).Fenced EventRow.claimVersion := by
  cases op with
  | emitEventRow => exact fenced.insertAll _
  | claimBatch =>
    exact fenced.claim fun row => rfl
  | markRetry =>
    rw [step]
    split
    next => exact fenced.write fun row => rfl
    · exact fenced
  | _ => exact fenced.write fun _ => rfl

theorem fenced_run (ops : List Op) : (run step Ledger.empty ops).Fenced EventRow.claimVersion :=
  invariant_run_of_step fenced_step .empty ops

theorem agrees_step (fenced : ledger.Fenced EventRow.claimVersion)
    (agrees : ledger.Agrees EventRow.content) : (step ledger op).Agrees EventRow.content := by
  cases op with
  | emitEventRow => exact agrees.insertAll fenced _
  | claimBatch =>
    exact agrees.claim fun row => rfl
  | markRetry =>
    rw [step]
    split
    next => exact agrees.write fun row => rfl
    · exact agrees
  | _ => exact agrees.write fun _ => rfl

theorem issued_step (issued : ledger.issued number = some claim) (op : Op) :
    (step ledger op).issued number = some claim := by
  cases op with
  | claimBatch =>
    exact issued_claim_of_some issued
  | markRetry =>
    rw [step]
    split <;> exact issued
  | _ => exact issued

/-- An outcome write changes the rows of its claims, and each only while that
claim is the row's latest. -/
theorem latest_of_outcome (fenced : ledger.Fenced EventRow.claimVersion) (outcome : op.isOutcome)
    (changed : (step ledger op).table.lookup key ≠ ledger.table.lookup key) :
    ∃ ownerId number claim, op.outcomeOf ownerId number ∧
      held ledger ownerId number = some claim ∧ claim.key = key ∧
      ledger.latest key = some claim := by
  cases op with
  | markDoneMany ownerId =>
    obtain ⟨row, found, selected, _⟩ := selected_of_write changed
    obtain ⟨claim, claimMem, heldRow⟩ := List.any_eq_true.mp selected
    obtain ⟨number, numberMem, own⟩ := List.mem_filterMap.mp claimMem
    exact ⟨ownerId, number, claim, ⟨rfl, numberMem⟩, own,
      fenced.latest_of_lookup (mem_of_held own).1 found (EventRow.key_of_heldBy heldRow)⟩
  | markRetry ownerId number =>
    rw [step] at changed
    cases own : held ledger ownerId number with
    | none =>
      rw [own] at changed
      exact absurd rfl changed
    | some claim =>
      rw [own] at changed
      obtain ⟨_, found, selected, _⟩ := selected_of_write changed
      exact ⟨ownerId, number, claim, ⟨rfl, rfl⟩, own,
        fenced.latest_of_lookup (mem_of_held own).1 found (EventRow.key_of_heldBy selected)⟩
  | _ => cases outcome

theorem turns_completed (ledger : EventLedger) (op : Op) (key : Day × Nat)
    (fenced : ledger.Fenced EventRow.claimVersion) (unfinished : ¬ ledger.Finished completed key)
    (finished : (step ledger op).Finished completed key) :
    ∃ claim, ledger.latest key = some claim ∧ Completes claim op := by
  cases op with
  | emitEventRow =>
    refine absurd (finished_of_insertAll ?_ finished) unfinished
    intro _ inserted
    rw [List.mem_singleton.mp inserted]
    rfl
  | markDoneMany =>
    obtain ⟨_, _, claim, ⟨sameOwner, _⟩, own, _, latest⟩ :=
      latest_of_outcome fenced rfl (lookup_ne_of_finished unfinished finished)
    rw [sameOwner]
    exact ⟨claim, latest, (mem_of_held own).2⟩
  | markRetry =>
    rw [step] at finished
    split at finished
    next =>
      refine absurd (finished_of_write (fun _ => ?_) finished) unfinished
      simp only [markRetry]
      split <;> rfl
    · exact absurd finished unfinished
  | _ => exact absurd (finished_of_write (fun _ => rfl) finished) unfinished

theorem latest_step_of_completed (ledger : EventLedger) (op : Op) (key : Day × Nat)
    (finished : (step ledger op).Finished completed key) :
    (step ledger op).latest key = ledger.latest key := by
  cases op with
  | claimBatch =>
    exact latest_claim_of_finished (fun _ => rfl) finished
  | markRetry =>
    rw [step]
    split <;> rfl
  | _ => rfl

end Events

/-! ## Both outboxes -/

/-- In every run of the storage drains and in every run of the event drains, an
outcome write changes a row only for the latest claim of that row, and a row
that is done was made so by the drain that holds its latest claim. -/
theorem outcomes_are_fenced : (∀ ops : List Storage.Op,
      let ledger := run Storage.step Ledger.empty ops
      (∀ outcome ownerId number now key,
        (Storage.step ledger (.mark outcome ownerId number now)).table.lookup key ≠
            ledger.table.lookup key →
          ∃ claim, Storage.held ledger ownerId number = some claim ∧ claim.key = key ∧
            ledger.latest key = some claim) ∧
      (∀ key, ledger.Finished Storage.done key →
        Ledger.CompletedByLatest Storage.step Storage.done Storage.Completes Ledger.empty ops
          key)) ∧
    (∀ ops : List Events.Op,
      let ledger := run Events.step Ledger.empty ops
      (∀ op : Events.Op, op.isOutcome = true → ∀ key,
        (Events.step ledger op).table.lookup key ≠ ledger.table.lookup key →
          ∃ ownerId number claim, op.outcomeOf ownerId number ∧
            Events.held ledger ownerId number = some claim ∧ claim.key = key ∧
            ledger.latest key = some claim) ∧
      (∀ key, ledger.Finished Events.completed key →
        Ledger.CompletedByLatest Events.step Events.completed Events.Completes Ledger.empty ops
          key)) := by
  constructor
  · intro ops ledger
    refine ⟨?_, ?_⟩
    · intro outcome _ _ _ key changed
      obtain ⟨claim, _, own, claimKey, latest, _⟩ :=
        Storage.latest_of_mark (Storage.fenced_run ops) changed
      exact ⟨claim, own, claimKey, latest⟩
    · intro key finished
      exact completedByLatest_of_finished Storage.fenced_step Storage.turns_done
        (fun _ _ _ _ => Storage.latest_step_of_done) .empty
        not_finished_empty finished
  · intro ops ledger
    refine ⟨?_, ?_⟩
    · intro op outcome key changed
      exact latest_of_outcome (fenced_run ops) outcome changed
    · intro key finished
      exact completedByLatest_of_finished fenced_step turns_completed
        (fun ledger op key _ => latest_step_of_completed ledger op key) .empty
        not_finished_empty finished

/-- A drain whose lease expired and the drain that took its row over both mark
the row done. -/
def takeover : List Storage.Op :=
  [.enqueueIdOnly 0 0 "c" [⟨7, "items_elasticsearch_driver", "k", .upsert, some "i", "i"⟩],
    .claimBatch "a" 300 200 0 [],
    .claimBatch "b" 300 200 (seconds 301) [],
    .mark .done "a" 0 (seconds 302),
    .mark .done "b" 1 (seconds 303)]

theorem outcomes_are_fenced_takeover :
    Ledger.Finished Storage.done (run Storage.step Ledger.empty takeover) (0, 7) ∧
      Ledger.CompletedByLatest Storage.step Storage.done Storage.Completes Ledger.empty takeover
        (0, 7) := by
  have finished : Ledger.Finished Storage.done (run Storage.step empty takeover) (0, 7) :=
    ⟨_, rfl, by decide⟩
  exact ⟨finished, (outcomes_are_fenced.1 takeover).2 (0, 7) finished⟩

/-- No two claims of a row are handed out at one version. -/
theorem claims_never_reissued (storageOps : List Storage.Op) (eventOps : List Events.Op) :
    ((run Storage.step empty storageOps).claims.map fun claim =>
      (claim.key, claim.claimVersion)).Nodup ∧
    ((run Events.step empty eventOps).claims.map fun claim =>
      (claim.key, claim.claimVersion)).Nodup :=
  ⟨(Storage.fenced_run storageOps).nodup, (Events.fenced_run eventOps).nodup⟩

end Dynastore.Workclass
