import Mathlib.Data.List.Sort
import Dynastore.Foundation.Execution
import Dynastore.Foundation.Table

/-! A table of work rows together with the claims its workers were handed. Every claim advances the
epoch of the row it takes, and a worker holds the row as the claiming statement returned it. In a
`Fenced` ledger a claim whose epoch is still the one of the stored row is the latest claim of that
row, so a write that checks the epoch acts for the latest claim or for none. -/

namespace Dynastore

open List Option Table Update

structure Ledger (Row : Type u) {Key : Type v} (key : Row → Key) where
  table : Table Row key
  claims : List Row

namespace Table

variable {Row : Type u} {Key : Type v} {key : Row → Key} [DecidableEq Key]

/-- `SELECT .. WHERE claimable ORDER BY .. LIMIT .. FOR UPDATE SKIP LOCKED`:
`lockedRows` are the rows other transactions hold. -/
def picked (table : Table Row key) (claimable : Row → Bool) (order : Row → Row → Prop)
    [DecidableRel order] (limit : Nat) (lockedRows : List Key) : List Row :=
  ((table.rows.filter fun row => claimable row && !lockedRows.contains (key row)).insertionSort
    order).take limit

end Table

namespace Ledger

variable {Row : Type u} {Key : Type v} {key : Row → Key}

def empty : Ledger Row key := ⟨Table.empty, []⟩

/-- `UPDATE .. RETURNING`: the rows as the statement left them. -/
def returning (table : Table Row key) (update : Update Row key) : List Row :=
  (table.rows.filter update.guard).map update.assign

def claim (ledger : Ledger Row key) (update : Update Row key) : Ledger Row key where
  table := ledger.table.execute update
  claims := returning ledger.table update ++ ledger.claims

def write (ledger : Ledger Row key) (update : Update Row key) : Ledger Row key :=
  { ledger with table := ledger.table.execute update }

def issued (ledger : Ledger Row key) (number : Nat) : Option Row :=
  ledger.claims.reverse[number]?

variable {claimed : Row}

theorem mem_of_issued {ledger : Ledger Row key}
    (held : ledger.issued number = some claimed) : claimed ∈ ledger.claims :=
  mem_reverse.mp (mem_of_getElem? held)

theorem issued_claim_of_some {ledger : Ledger Row key}
    (held : ledger.issued number = some claimed) :
    (ledger.claim update).issued number = some claimed := by
  rw [issued, claim, reverse_append]
  exact List.getElem?_append_left (List.getElem?_eq_some_iff.mp held).1 ▸ held

section Lookup

variable [DecidableEq Key]

def insertAll (ledger : Ledger Row key) (rows : List Row) : Ledger Row key :=
  { ledger with table := (rows.foldlM Table.insert ledger.table).getD ledger.table }

def latest (ledger : Ledger Row key) (wanted : Key) : Option Row :=
  ledger.claims.find? fun claimed => key claimed = wanted

@[simp] theorem lookup_write (ledger : Ledger Row key) (update : Update Row key) (wanted : Key) :
    (ledger.write update).table.lookup wanted =
      (ledger.table.lookup wanted).map update.apply :=
  lookup_execute

@[simp] theorem lookup_claim (ledger : Ledger Row key) (update : Update Row key) (wanted : Key) :
    (ledger.claim update).table.lookup wanted =
      (ledger.table.lookup wanted).map update.apply :=
  lookup_execute

variable {update : Update Row key} {wanted : Key} {rows : List Row} {stored : Row}

/-- A statement changes a row only where its guard selects it. -/
theorem selected_of_write {ledger : Ledger Row key}
    (changed : (ledger.write update).table.lookup wanted ≠ ledger.table.lookup wanted) :
    ∃ row, ledger.table.lookup wanted = some row ∧ update.guard row ∧
      (ledger.write update).table.lookup wanted = some (update.assign row) := by
  rw [lookup_write] at changed ⊢
  cases found : ledger.table.lookup wanted with
  | none =>
    rw [found] at changed
    exact absurd rfl changed
  | some row =>
    have selected : update.guard row := by
      by_contra unselected
      rw [found, map_some, apply_of_not_guard (Bool.eq_false_iff.mpr unselected)] at changed
      exact changed rfl
    exact ⟨row, rfl, selected, by rw [map_some, apply_of_guard selected]⟩

theorem rows_of_foldlM_insert {table : Table Row key}
    (inserted : rows.foldlM Table.insert table = some filled) :
    filled.rows = table.rows ++ rows := by
  induction rows generalizing table with
  | nil =>
    cases inserted
    exact (append_nil _).symm
  | cons _ _ ih =>
    rw [foldlM_cons, bind_eq_bind, bind_eq_some_iff] at inserted
    obtain ⟨_, accepted, rest⟩ := inserted
    rw [ih rest, (insert_eq_some accepted).2, append_assoc, singleton_append]

theorem insertAll_cases (ledger : Ledger Row key) (rows : List Row) :
    ledger.insertAll rows = ledger ∨
      (ledger.insertAll rows).table.rows = ledger.table.rows ++ rows := by
  unfold insertAll
  cases inserted : rows.foldlM Table.insert ledger.table with
  | none => exact .inl rfl
  | some => exact .inr (rows_of_foldlM_insert inserted)

theorem lookup_insertAll_of_some {ledger : Ledger Row key}
    (found : ledger.table.lookup wanted = some stored) :
    (ledger.insertAll rows).table.lookup wanted = some stored := by
  rcases ledger.insertAll_cases rows with same | filled
  · rw [same, found]
  · rw [← key_of_lookup found]
    exact lookup_of_mem _ (filled ▸ mem_append_left _ (mem_of_lookup found))

theorem of_lookup_insertAll {ledger : Ledger Row key}
    (found : (ledger.insertAll rows).table.lookup wanted = some stored) :
    ledger.table.lookup wanted = some stored ∨ stored ∈ rows := by
  rcases ledger.insertAll_cases rows with same | filled
  · exact .inl (same ▸ found)
  · rcases mem_append.mp (filled ▸ mem_of_lookup found) with old | new
    · exact .inl (key_of_lookup found ▸ lookup_of_mem _ old)
    · exact .inr new

theorem key_of_mem_returning {table : Table Row key} (mem : claimed ∈ returning table update) :
    ∃ row, table.lookup (key claimed) = some row ∧ update.guard row ∧
      update.assign row = claimed := by
  obtain ⟨row, selected, rfl⟩ := mem_map.mp mem
  obtain ⟨stored, guarded⟩ := mem_filter.mp selected
  refine ⟨row, ?_, guarded, rfl⟩
  rw [update.keeps]
  exact table.lookup_of_mem stored

theorem latest_claim_of_not_guard {ledger : Ledger Row key}
    (unselected : ∀ row, ledger.table.lookup wanted = some row → update.guard row = false) :
    (ledger.claim update).latest wanted = ledger.latest wanted := by
  have others : (returning ledger.table update).find? (fun claimed => key claimed = wanted) =
      none := by
    rw [find?_eq_none]
    intro _ mem
    obtain ⟨row, found, guarded, _⟩ := key_of_mem_returning mem
    rw [decide_eq_true_eq]
    rintro rfl
    rw [unselected row found] at guarded
    exact Bool.noConfusion guarded
  rw [latest, claim, find?_append, others, none_or, latest]

/-! ## Fencing -/

/-- Stored rows are at least at the epoch of each of their claims, and later
claims of one row have later epochs. -/
structure Fenced (epoch : Row → Nat) (ledger : Ledger Row key) : Prop where
  stored : ∀ claimed ∈ ledger.claims,
    ∃ row, ledger.table.lookup (key claimed) = some row ∧ epoch claimed ≤ epoch row
  ordered : ledger.claims.Pairwise fun newer older =>
    key newer = key older → epoch older < epoch newer

namespace Fenced

variable {epoch : Row → Nat} {ledger : Ledger Row key}

theorem empty : Fenced epoch (Ledger.empty : Ledger Row key) where
  stored := by simp [Ledger.empty]
  ordered := List.Pairwise.nil

theorem latest_of_epoch_eq (fenced : Fenced epoch ledger) (mem : claimed ∈ ledger.claims)
    (found : ledger.table.lookup (key claimed) = some row) (current : epoch row = epoch claimed) :
    ledger.latest (key claimed) = some claimed := by
  obtain ⟨newer, _, split⟩ := append_of_mem mem
  have ordered := fenced.ordered
  rw [split, pairwise_append] at ordered
  have others : newer.find? (fun other => key other = key claimed) = none := by
    rw [find?_eq_none]
    intro other otherMem
    rw [decide_eq_true_eq]
    intro same
    -- a newer claim of the row would have moved it past this epoch
    have later := ordered.2.2 other otherMem claimed (.head _) same
    obtain ⟨_, storedFound, _⟩ := fenced.stored other
      (by rw [split]; exact mem_append_left _ otherMem)
    rw [same, found] at storedFound
    cases storedFound
    omega
  rw [latest, split, find?_append, others, none_or, find?_cons_of_pos (by simp)]

theorem latest_of_lookup (fenced : Fenced epoch ledger) (mem : claimed ∈ ledger.claims)
    (found : ledger.table.lookup wanted = some row)
    (held : key row = key claimed ∧ epoch row = epoch claimed) :
    key claimed = wanted ∧ ledger.latest wanted = some claimed := by
  have same : key claimed = wanted := held.1.symm.trans (key_of_lookup found)
  subst same
  exact ⟨rfl, fenced.latest_of_epoch_eq mem found held.2⟩

theorem write (fenced : Fenced epoch ledger)
    (keeps : ∀ row, epoch (update.assign row) = epoch row) :
    Fenced epoch (ledger.write update) where
  stored := by
    intro claimed mem
    obtain ⟨row, found, reached⟩ := fenced.stored claimed mem
    refine ⟨update.apply row, by rw [lookup_write, found, map_some], ?_⟩
    rw [column_apply keeps]
    exact reached
  ordered := fenced.ordered

theorem insertAll (fenced : Fenced epoch ledger) (rows : List Row) :
    Fenced epoch (ledger.insertAll rows) where
  stored := by
    intro claimed mem
    obtain ⟨row, found, reached⟩ := fenced.stored claimed mem
    exact ⟨row, lookup_insertAll_of_some found, reached⟩
  ordered := fenced.ordered

theorem claim (fenced : Fenced epoch ledger)
    (advances : ∀ row, epoch (update.assign row) = epoch row + 1) :
    Fenced epoch (ledger.claim update) where
  stored := by
    intro claimed mem
    rcases mem_append.mp mem with new | old
    · obtain ⟨row, found, guarded, rfl⟩ := key_of_mem_returning new
      refine ⟨update.assign row, ?_, Nat.le_refl _⟩
      rw [lookup_claim, found, map_some, apply_of_guard guarded]
    · obtain ⟨row, found, reached⟩ := fenced.stored claimed old
      refine ⟨update.apply row, by rw [lookup_claim, found, map_some], ?_⟩
      have grown : epoch row ≤ epoch (update.apply row) := by
        unfold apply
        split
        · rw [advances]
          omega
        · exact Nat.le_refl _
      exact Nat.le_trans reached grown
  ordered := by
    refine pairwise_append.mpr ⟨?_, fenced.ordered, ?_⟩
    · -- one statement takes each row once
      have distinct : ((returning ledger.table update).map key).Nodup := by
        have sameKeys : (returning ledger.table update).map key =
            (ledger.table.rows.filter update.guard).map key := by
          simp [returning, Function.comp_def, update.keeps]
        rw [sameKeys]
        exact ledger.table.distinct.sublist (filter_sublist.map key)
      rw [List.Nodup, pairwise_map] at distinct
      exact distinct.imp fun ne same => absurd same ne
    · intro _ newerMem older olderMem same
      obtain ⟨_, found, _, rfl⟩ := key_of_mem_returning newerMem
      obtain ⟨_, storedFound, _⟩ := fenced.stored older olderMem
      rw [same, storedFound] at found
      cases found
      rw [advances]
      omega

theorem nodup (fenced : Fenced epoch ledger) :
    (ledger.claims.map fun claim => (key claim, epoch claim)).Nodup :=
  fenced.ordered.map _ fun _ _ later same =>
    Nat.ne_of_gt (later (congrArg Prod.fst same)) (congrArg Prod.snd same)

end Fenced

/-! ## Columns that stay -/

def Agrees {Column : Type w} (column : Row → Column) (ledger : Ledger Row key) : Prop :=
  ∀ claimed ∈ ledger.claims, ∀ row, ledger.table.lookup (key claimed) = some row →
    column row = column claimed

namespace Agrees

variable {Column : Type w} {column : Row → Column} {ledger : Ledger Row key}

theorem write (agrees : Agrees column ledger)
    (keeps : ∀ row, column (update.assign row) = column row) :
    Agrees column (ledger.write update) := by
  intro claimed mem _ found
  rw [lookup_write, map_eq_some_iff] at found
  obtain ⟨old, oldFound, rfl⟩ := found
  rw [← agrees claimed mem old oldFound, column_apply keeps]

theorem claim (agrees : Agrees column ledger)
    (keeps : ∀ row, column (update.assign row) = column row) :
    Agrees column (ledger.claim update) := by
  intro claimed mem _ found
  rw [lookup_claim, map_eq_some_iff] at found
  obtain ⟨old, oldFound, rfl⟩ := found
  rw [column_apply keeps]
  rcases mem_append.mp mem with new | known
  · obtain ⟨source, sourceFound, _, rfl⟩ := key_of_mem_returning new
    have same : old = source := some.inj (oldFound.symm.trans sourceFound)
    rw [same]
    exact (keeps source).symm
  · exact agrees claimed known old oldFound

theorem insertAll {epoch : Row → Nat} (agrees : Agrees column ledger)
    (fenced : Fenced epoch ledger) (rows : List Row) : Agrees column (ledger.insertAll rows) := by
  intro claimed mem _ found
  obtain ⟨stored, storedFound, _⟩ := fenced.stored claimed mem
  rw [lookup_insertAll_of_some storedFound] at found
  rw [← some.inj found]
  exact agrees claimed mem stored storedFound

end Agrees

/-! ## Completion -/

def Finished (finished : Row → Bool) (ledger : Ledger Row key) (wanted : Key) : Prop :=
  ∃ row, ledger.table.lookup wanted = some row ∧ finished row = true

section Finished

variable {finished : Row → Bool} {ledger : Ledger Row key} {update : Update Row key}
  (writesOther : ∀ row, finished (update.assign row) = false)

include writesOther

theorem unselected_of_finished (done : (ledger.write update).Finished finished wanted) :
    ∃ row, ledger.table.lookup wanted = some row ∧ update.guard row = false ∧
      finished row := by
  obtain ⟨_, found, rowDone⟩ := done
  rw [lookup_write, map_eq_some_iff] at found
  obtain ⟨old, oldFound, rfl⟩ := found
  unfold apply at rowDone
  split at rowDone
  · rw [writesOther] at rowDone
    cases rowDone
  next unselected => exact ⟨old, oldFound, Bool.eq_false_iff.mpr unselected, rowDone⟩

theorem finished_of_write (done : (ledger.write update).Finished finished wanted) :
    ledger.Finished finished wanted := by
  obtain ⟨row, found, _, rowDone⟩ := unselected_of_finished writesOther done
  exact ⟨row, found, rowDone⟩

theorem latest_claim_of_finished (done : (ledger.claim update).Finished finished wanted) :
    (ledger.claim update).latest wanted = ledger.latest wanted := by
  obtain ⟨_, found, unselected, _⟩ := unselected_of_finished writesOther done
  apply latest_claim_of_not_guard
  intro _ storedFound
  cases found.symm.trans storedFound
  exact unselected

end Finished

theorem finished_of_insertAll {ledger : Ledger Row key}
    (fresh : ∀ row ∈ rows, finished row = false)
    (done : (ledger.insertAll rows).Finished finished wanted) :
    ledger.Finished finished wanted := by
  obtain ⟨row, found, rowDone⟩ := done
  rcases of_lookup_insertAll found with stored | inserted
  · exact ⟨row, stored, rowDone⟩
  · rw [fresh row inserted] at rowDone
    cases rowDone

theorem lookup_ne_of_finished {ledger next : Ledger Row key}
    (unfinished : ¬ ledger.Finished finished wanted) (done : next.Finished finished wanted) :
    next.table.lookup wanted ≠ ledger.table.lookup wanted := by
  intro same
  obtain ⟨row, found, rowDone⟩ := done
  exact unfinished ⟨row, same ▸ found, rowDone⟩

theorem not_finished_empty : ¬ (empty : Ledger Row key).Finished finished wanted := by
  rintro ⟨_, found, _⟩
  cases found

section Machine

open Execution

variable {Op : Type w} {step : Ledger Row key → Op → Ledger Row key} {finished : Row → Bool}
  {completes : Row → Op → Prop} {inv : Ledger Row key → Prop}

def CompletedByLatest (step : Ledger Row key → Op → Ledger Row key) (finished : Row → Bool)
    (completes : Row → Op → Prop) (ledger : Ledger Row key) (ops : List Op) (wanted : Key) : Prop :=
  ∃ claimed before op after, ops = before ++ op :: after ∧ completes claimed op ∧
    ¬ Finished finished (run step ledger before) wanted ∧
    Finished finished (run step ledger (before ++ [op])) wanted ∧
    (run step ledger before).latest wanted = some claimed ∧
    (run step ledger ops).latest wanted = some claimed

/-- When only the latest claim of a row can finish it, and a finished row is
not claimed, every finished row was finished by its latest claim. -/
theorem completedByLatest_of_finished (preserved : ∀ ledger op, inv ledger → inv (step ledger op))
    (turns : ∀ ledger op wanted, inv ledger → ¬ Finished finished ledger wanted →
      Finished finished (step ledger op) wanted →
        ∃ claimed, ledger.latest wanted = some claimed ∧ completes claimed op)
    (unclaimed : ∀ ledger op wanted, inv ledger → Finished finished (step ledger op) wanted →
      (step ledger op).latest wanted = ledger.latest wanted) (initial : inv ledger)
    (unfinished : ¬ Finished finished ledger wanted)
    (done : Finished finished (run step ledger ops) wanted) :
    CompletedByLatest step finished completes ledger ops wanted := by
  obtain ⟨before, op, after, rfl, turned, kept⟩ :=
    exists_turning (fun reached => Finished finished reached wanted) unfinished done
  have reached : inv (run step ledger before) := invariant_run_of_step preserved initial before
  have splitRun : ∀ since, run step ledger (before ++ op :: since) =
      run step (step (run step ledger before) op) since := by
    intro since
    rw [run_append, run_cons]
  have finishedAfter := kept [] nil_prefix
  rw [splitRun, run_nil] at finishedAfter
  obtain ⟨claimed, held, completed⟩ := turns _ op wanted reached turned finishedAfter
  have latestKept : ∀ since, since <+: after →
      (run step ledger (before ++ op :: since)).latest wanted = some claimed := by
    intro since
    induction since using reverseRecOn with
    | nil =>
      intro _
      rw [splitRun, run_nil, unclaimed _ op wanted reached finishedAfter]
      exact held
    | append_singleton since last ih =>
      intro isPrefix
      have shorter : since <+: after := (prefix_append since [last]).trans isPrefix
      have invSince : inv (run step ledger (before ++ op :: since)) :=
        invariant_run_of_step preserved initial _
      have lastStep : run step ledger (before ++ op :: (since ++ [last])) =
          step (run step ledger (before ++ op :: since)) last := by
        rw [← cons_append, ← append_assoc, run_append, run_cons, run_nil]
      have doneSince := kept _ isPrefix
      rw [lastStep] at doneSince
      rw [lastStep, unclaimed _ last wanted invSince doneSince]
      exact ih shorter
  exact ⟨claimed, before, op, after, rfl, completed, turned, kept [] nil_prefix, held,
    latestKept after prefix_rfl⟩

end Machine

end Lookup

end Ledger

end Dynastore
