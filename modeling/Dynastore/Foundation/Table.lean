import Mathlib.Data.List.Nodup

/-! A table is a list of rows no two of which share a key. An `UPDATE` statement is a guard and an
assignment that leaves the key columns alone; `execute` runs it on every row. Facts about statements
are stated through `lookup`, so that proofs about one row never mention the list. -/

namespace Dynastore

open List Option

@[ext] structure Table (Row : Type u) {Key : Type v} (key : Row → Key) where
  rows : List Row
  distinct : (rows.map key).Nodup

structure Update (Row : Type u) {Key : Type v} (key : Row → Key) where
  guard : Row → Bool
  assign : Row → Row
  keeps : ∀ row, key (assign row) = key row := by intro _; rfl

namespace Update

variable {Row : Type u} {Key : Type v} {key : Row → Key}

def apply (update : Update Row key) (row : Row) : Row :=
  if update.guard row then update.assign row else row

variable {update : Update Row key} {row : Row}

theorem apply_of_guard
    (selected : update.guard row) : update.apply row = update.assign row := by
  simp [apply, selected]

theorem apply_of_not_guard (unselected : update.guard row = false) : update.apply row = row := by
  simp [apply, unselected]

theorem column_apply {Column : Type w} {column : Row → Column}
    (keeps : ∀ row, column (update.assign row) = column row) (row : Row) :
    column (update.apply row) = column row := by
  by_cases selected : update.guard row <;> simp [apply, selected, keeps]

theorem key_apply (update : Update Row key) : key (update.apply row) = key row :=
  column_apply update.keeps row

def nothing : Update Row key where
  guard _ := false
  assign row := row

@[simp] theorem apply_nothing : (nothing : Update Row key).apply row = row := rfl

end Update

namespace Table

variable {Row : Type u} {Key : Type v} {key : Row → Key}

def empty : Table Row key := ⟨[], List.nodup_nil⟩

theorem eq_of_key_eq (table : Table Row key) (leftMem : left ∈ table.rows)
    (rightMem : right ∈ table.rows) (eq : key left = key right) : left = right :=
  inj_on_of_nodup_map table.distinct leftMem rightMem eq

/-! ## Statements -/

def execute (table : Table Row key) (update : Update Row key) : Table Row key where
  rows := table.rows.map update.apply
  distinct := by
    have sameKeys : (table.rows.map update.apply).map key = table.rows.map key := by
      simp [List.map_map, Function.comp_def, update.key_apply]
    rw [sameKeys]
    exact table.distinct

theorem mem_execute (table : Table Row key) :
    row ∈ (table.execute update).rows ↔ ∃ old ∈ table.rows, update.apply old = row := by
  simp [execute]

section Lookup

variable [DecidableEq Key]

/-- `INSERT`: none when the primary key is already taken. -/
def insert (table : Table Row key) (row : Row) : Option (Table Row key) :=
  if taken : key row ∈ table.rows.map key then none
  else some
    { rows := table.rows ++ [row]
      distinct := by
        rw [List.map_append, List.nodup_append]
        refine ⟨table.distinct, by simp, ?_⟩
        intro left leftMem right rightMem equal
        simp only [List.map_cons, List.map_nil, List.mem_singleton] at rightMem
        exact taken (rightMem ▸ equal ▸ leftMem) }

variable {table : Table Row key} {row : Row} {wanted : Key}

theorem insert_eq_some (accepted : table.insert row = some inserted) :
    key row ∉ table.rows.map key ∧ inserted.rows = table.rows ++ [row] := by
  unfold insert at accepted
  split at accepted
  · cases accepted
  · rename_i fresh
    cases accepted
    exact ⟨fresh, rfl⟩

/-! ## Lookup -/

def lookup (table : Table Row key) (wanted : Key) : Option Row :=
  table.rows.find? fun row => key row = wanted

theorem mem_of_lookup (found : table.lookup wanted = some row) : row ∈ table.rows :=
  mem_of_find?_eq_some found

theorem key_of_lookup (found : table.lookup wanted = some row) : key row = wanted := by
  simpa using find?_some found

theorem lookup_of_mem (table : Table Row key) (mem : row ∈ table.rows) :
    table.lookup (key row) = some row := by
  have present : (table.lookup (key row)).isSome := by
    rw [lookup, find?_isSome]
    exact ⟨row, mem, by simp⟩
  obtain ⟨_, foundEq⟩ := isSome_iff_exists.mp present
  rw [foundEq, table.eq_of_key_eq (mem_of_lookup foundEq) mem (key_of_lookup foundEq)]

theorem lookup_execute :
    (table.execute update).lookup wanted = (table.lookup wanted).map update.apply := by
  simp only [lookup, execute, find?_map]
  congr 2
  funext row
  simp [update.key_apply]

theorem lookup_execute_of_not_guard
    (unselected : ∀ row, table.lookup wanted = some row → update.guard row = false) :
    (table.execute update).lookup wanted = table.lookup wanted := by
  rw [lookup_execute]
  cases found : table.lookup wanted with
  | none => rfl
  | some row => rw [map_some, Update.apply_of_not_guard (unselected row found)]

theorem lookup_insert_of_some (accepted : table.insert row = some inserted)
    (found : table.lookup wanted = some stored) : inserted.lookup wanted = some stored := by
  obtain ⟨_, rows⟩ := insert_eq_some accepted
  have mem : stored ∈ inserted.rows := by
    rw [rows]
    exact mem_append_left _ (mem_of_lookup found)
  rw [← key_of_lookup found]
  exact inserted.lookup_of_mem mem

/-- `INSERT .. ON CONFLICT DO UPDATE` of whole rows. -/
def upsert (table : Table Row key) (row : Row) : Table Row key where
  rows := table.rows.filter (fun other => key other ≠ key row) ++ [row]
  distinct := by
    rw [List.map_append, List.nodup_append]
    refine ⟨table.distinct.sublist (List.filter_sublist.map key), by simp, ?_⟩
    intro left leftMem right rightMem
    simp only [List.map_cons, List.map_nil, List.mem_singleton] at rightMem
    simp only [List.mem_map, List.mem_filter, decide_eq_true_eq] at leftMem
    rcases leftMem with ⟨other, ⟨_, different⟩, same⟩
    rw [rightMem, ← same]
    exact different

theorem lookup_upsert :
    (table.upsert row).lookup wanted =
      if key row = wanted then some row else table.lookup wanted := by
  by_cases same : key row = wanted
  · have mem : row ∈ (table.upsert row).rows := by simp [upsert]
    rw [if_pos same, ← same]
    exact lookup_of_mem _ mem
  · have unselected : [row].find? (fun other => key other = wanted) = none := by simp [same]
    rw [if_neg same, lookup, upsert, find?_append, find?_filter, unselected, or_none, lookup]
    congr 1
    funext other
    by_cases found : key other = wanted
    · simp [found, Ne.symm same]
    · simp [found]

def delete (table : Table Row key) (selected : Row → Bool) : Table Row key where
  rows := table.rows.filter fun row => !selected row
  distinct := table.distinct.sublist (List.filter_sublist.map key)

theorem lookup_delete :
    (table.delete selected).lookup wanted =
      (table.lookup wanted).filter fun row => !selected row := by
  cases found : table.lookup wanted with
  | none =>
    have missing := find?_eq_none.mp found
    apply find?_eq_none.mpr
    intro row mem
    exact missing row (mem_of_mem_filter mem)
  | some row =>
    by_cases removed : selected row
    · have gone : ∀ other ∈ (table.delete selected).rows, ¬ key other = wanted := by
        intro _ mem same
        simp only [delete, mem_filter] at mem
        have eq := table.eq_of_key_eq mem.1 (mem_of_lookup found)
          (same.trans (key_of_lookup found).symm)
        rw [eq, removed] at mem
        simp at mem
      rw [filter_some_neg (by simp [removed])]
      exact find?_eq_none.mpr (by simpa using gone)
    · have mem : row ∈ (table.delete selected).rows := by
        simp only [delete, mem_filter]
        exact ⟨mem_of_lookup found, by simpa using removed⟩
      rw [filter_some_pos (by simpa using removed), ← key_of_lookup found]
      exact lookup_of_mem _ mem

theorem lookup_delete_of_not_selected
    (unselected : ∀ row, table.lookup wanted = some row → selected row = false) :
    (table.delete selected).lookup wanted = table.lookup wanted := by
  rw [lookup_delete]
  cases found : table.lookup wanted with
  | none => rfl
  | some row => rw [filter_some_pos (by simp [unselected row found])]

end Lookup

end Table

end Dynastore
