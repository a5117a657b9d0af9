import Mathlib.Data.List.Nodup

/-! Rows with an id that never changes and a label that may. The ids are the primary key of the
table, and a partial unique index keeps the labels of its live rows apart; a label of a row that is
not live is free for another one. -/

namespace Dynastore

structure LabelledRow (κ ν ρ : Type) where
  id : κ
  label : ν
  live : Bool
  data : ρ
deriving DecidableEq

structure LabelledTable (κ ν ρ : Type) where
  rows : List (LabelledRow κ ν ρ)
  /-- The primary key. -/
  ids : rows.Pairwise fun left right => left.id ≠ right.id
  /-- The partial unique index. -/
  labels : rows.Pairwise fun left right => left.live → right.live → left.label ≠ right.label

namespace LabelledTable

variable {κ ν ρ : Type}

def empty : LabelledTable κ ν ρ := ⟨[], .nil, .nil⟩

instance : Membership (LabelledRow κ ν ρ) (LabelledTable κ ν ρ) where
  mem table row := row ∈ table.rows

@[simp] theorem not_mem_empty : row ∉ (empty : LabelledTable κ ν ρ) := by
  intro mem
  cases mem

/-! ## Operations -/

/-- A row that is shown in `kept` is left as it is, and every other one is gone. -/
def restrict (table : LabelledTable κ ν ρ) (kept : LabelledRow κ ν ρ → Bool) :
    LabelledTable κ ν ρ :=
  ⟨table.rows.filter kept, table.ids.filter kept, table.labels.filter kept⟩

theorem mem_restrict {table : LabelledTable κ ν ρ} :
    row ∈ table.restrict kept ↔ row ∈ table ∧ kept row :=
  List.mem_filter

variable [DecidableEq κ] (table : LabelledTable κ ν ρ)

def resolve [DecidableEq ν] (label : ν) : Option κ :=
  (table.rows.find? fun row => row.live ∧ row.label = label).map (·.id)

def retired [DecidableEq ν] (label : ν) : Option (LabelledRow κ ν ρ) :=
  table.rows.find? fun row => row.live = false ∧ row.label = label

def liveRow (id : κ) : Option (LabelledRow κ ν ρ) :=
  table.rows.find? fun row => row.live ∧ row.id = id

def remove (id : κ) : LabelledTable κ ν ρ :=
  table.restrict fun row => row.id ≠ id

def retiredRow (id : κ) (row : LabelledRow κ ν ρ) : LabelledRow κ ν ρ :=
  if row.id = id then { row with live := false } else row

theorem retiredRow_id (id : κ) : (retiredRow id row).id = row.id := by
  unfold retiredRow
  split <;> rfl

theorem retiredRow_label (id : κ) : (retiredRow id row).label = row.label := by
  unfold retiredRow
  split <;> rfl

variable {id : κ} {label : ν} {change : ρ → ρ} {holds : ρ → Prop} {data : ρ}

theorem live_of_retiredRow (live : (retiredRow id row).live) :
    row.live ∧ retiredRow id row = row := by
  unfold retiredRow at live ⊢
  split at live
  · cases live
  · next other => exact ⟨live, if_neg other⟩

theorem ids_retire (id : κ) : (table.rows.map (retiredRow id)).Pairwise
    fun left right => left.id ≠ right.id := by
  apply List.pairwise_map.mpr
  simpa only [retiredRow_id] using table.ids

theorem labels_retire (id : κ) : (table.rows.map (retiredRow id)).Pairwise
    fun left right => left.live → right.live → left.label ≠ right.label := by
  apply List.pairwise_map.mpr
  refine table.labels.imp ?_
  intro _ _ distinct leftLive rightLive
  rw [retiredRow_label, retiredRow_label]
  exact distinct (live_of_retiredRow leftLive).1 (live_of_retiredRow rightLive).1

def retire (id : κ) : LabelledTable κ ν ρ :=
  ⟨table.rows.map (retiredRow id), table.ids_retire id, table.labels_retire id⟩

def modifiedRow (id : κ) (change : ρ → ρ) (row : LabelledRow κ ν ρ) : LabelledRow κ ν ρ :=
  if row.id = id then { row with data := change row.data } else row

@[simp] theorem modifiedRow_id (id : κ) (change : ρ → ρ) (row : LabelledRow κ ν ρ) :
    (modifiedRow id change row).id = row.id := by
  unfold modifiedRow
  split <;> rfl

@[simp] theorem modifiedRow_label (id : κ) : (modifiedRow id change row).label = row.label := by
  unfold modifiedRow
  split <;> rfl

@[simp] theorem modifiedRow_live (id : κ) : (modifiedRow id change row).live = row.live := by
  unfold modifiedRow
  split <;> rfl

theorem modifiedRow_data (row : LabelledRow κ ν ρ) :
    (modifiedRow row.id change row).data = change row.data := by
  rw [modifiedRow, if_pos rfl]

theorem ids_modify (id : κ) (change : ρ → ρ) : (table.rows.map (modifiedRow id change)).Pairwise
    fun left right => left.id ≠ right.id := by
  apply List.pairwise_map.mpr
  simpa only [modifiedRow_id] using table.ids

theorem labels_modify (id : κ) (change : ρ → ρ) : (table.rows.map (modifiedRow id change)).Pairwise
      fun left right => left.live → right.live → left.label ≠ right.label := by
  apply List.pairwise_map.mpr
  simpa only [modifiedRow_live, modifiedRow_label] using table.labels

def modify (id : κ) (change : ρ → ρ) : LabelledTable κ ν ρ :=
  ⟨table.rows.map (modifiedRow id change), table.ids_modify id change,
    table.labels_modify id change⟩

def Free (id : κ) (label : ν) : Prop :=
  ∀ row ∈ table.rows, row.id ≠ id ∧ (row.live → row.label ≠ label)

instance [DecidableEq ν] (id : κ) (label : ν) : Decidable (table.Free id label) :=
  inferInstanceAs (Decidable (∀ row ∈ table.rows, row.id ≠ id ∧ (row.live → row.label ≠ label)))

variable {table}

omit [DecidableEq κ] in
theorem ids_insert (free : table.Free id label) :
    (⟨id, label, true, data⟩ :: table.rows).Pairwise fun left right => left.id ≠ right.id := by
  refine .cons ?_ table.ids
  intro row mem
  exact (free row mem).1.symm

omit [DecidableEq κ] in
theorem labels_insert (free : table.Free id label) :
    (⟨id, label, true, data⟩ :: table.rows).Pairwise
      fun left right => left.live → right.live → left.label ≠ right.label := by
  refine .cons ?_ table.labels
  intro row mem _ live
  exact ((free row mem).2 live).symm

variable (table)

def insert [DecidableEq ν] (id : κ) (label : ν) (data : ρ) : Option (LabelledTable κ ν ρ) :=
  if free : table.Free id label then
    some ⟨⟨id, label, true, data⟩ :: table.rows, ids_insert free, labels_insert free⟩
  else none

def relabelledRow (id : κ) (label : ν) (row : LabelledRow κ ν ρ) : LabelledRow κ ν ρ :=
  if row.live ∧ row.id = id then { row with label } else row

theorem relabelledRow_id (id : κ) : (relabelledRow id label row).id = row.id := by
  unfold relabelledRow
  split <;> rfl

theorem relabelledRow_live (id : κ) : (relabelledRow id label row).live = row.live := by
  unfold relabelledRow
  split <;> rfl

def Available (id : κ) (label : ν) : Prop :=
  ∀ row ∈ table.rows, row.live → row.id ≠ id → row.label ≠ label

instance [DecidableEq ν] (id : κ) (label : ν) : Decidable (table.Available id label) :=
  inferInstanceAs (Decidable (∀ row ∈ table.rows, row.live → row.id ≠ id → row.label ≠ label))

theorem ids_relabel (id : κ) : (table.rows.map (relabelledRow id label)).Pairwise
    fun left right => left.id ≠ right.id := by
  apply List.pairwise_map.mpr
  simpa only [relabelledRow_id] using table.ids

variable {table}

theorem labels_relabel (available : table.Available id label) :
    (table.rows.map (relabelledRow id label)).Pairwise
      fun left right => left.live → right.live → left.label ≠ right.label := by
  apply List.pairwise_map.mpr
  refine (table.ids.and table.labels).imp_of_mem ?_
  intro left right leftMember rightMember distinct leftLive rightLive
  rw [relabelledRow_live] at leftLive rightLive
  obtain ⟨idsDistinct, labelsDistinct⟩ := distinct
  by_cases leftHere : left.id = id
  · have rightThere : right.id ≠ id := fun same => idsDistinct (leftHere.trans same.symm)
    simp only [relabelledRow, leftLive, leftHere, rightThere, and_true, and_false, if_true,
      if_false]
    exact (available right rightMember rightLive rightThere).symm
  · by_cases rightHere : right.id = id
    · simp only [relabelledRow, rightLive, rightHere, leftHere, and_true, and_false, if_true,
        if_false]
      exact available left leftMember leftLive leftHere
    · simp only [relabelledRow, leftHere, rightHere, and_false, if_false]
      exact labelsDistinct leftLive rightLive

variable (table)

def relabel [DecidableEq ν] (id : κ) (label : ν) : Option (LabelledTable κ ν ρ) :=
  if available : table.Available id label then
    some ⟨table.rows.map (relabelledRow id label), table.ids_relabel id,
      labels_relabel available⟩
  else none

/-! ## What the rows of a table are -/

variable {table} {row : LabelledRow κ ν ρ}

theorem mem_remove : row ∈ table.remove id ↔ row ∈ table ∧ row.id ≠ id := by
  rw [remove, mem_restrict, decide_eq_true_eq]

omit [DecidableEq κ] in
theorem eq_of_id_eq (mem : row ∈ table) (present : other ∈ table) (same : row.id = other.id) :
    row = other := by
  have distinct : (table.rows.map (·.id)).Nodup := List.pairwise_map.mpr table.ids
  exact List.inj_on_of_nodup_map distinct mem present same

theorem mem_retire : row ∈ table.retire id ↔ ∃ before ∈ table, retiredRow id before = row :=
  List.mem_map

theorem mem_modify :
    row ∈ table.modify id change ↔ ∃ before ∈ table, modifiedRow id change before = row :=
  List.mem_map

theorem modifiedRow_of_forall
    (kept : ∀ data, holds data → holds (change data)) (before : holds row.data) :
    holds (modifiedRow id change row).data := by
  unfold modifiedRow
  split
  · exact kept _ before
  · exact before

theorem forall_mem_modify
    (kept : ∀ data, holds data → holds (change data)) (before : ∀ row ∈ table, holds row.data) :
    ∀ row ∈ table.modify id change, holds row.data := by
  intro _ mem
  obtain ⟨old, present, rfl⟩ := mem_modify.mp mem
  exact modifiedRow_of_forall kept (before old present)

theorem mem_of_mem_retire (mem : row ∈ table.retire id) (live : row.live) : row ∈ table := by
  obtain ⟨_, present, rfl⟩ := List.mem_map.mp mem
  rw [(live_of_retiredRow live).2]
  exact present

theorem exists_of_mem_retire (mem : row ∈ table.retire id) :
    ∃ before ∈ table, before.id = row.id := by
  obtain ⟨before, present, rfl⟩ := List.mem_map.mp mem
  exact ⟨before, present, (retiredRow_id id).symm⟩

variable [DecidableEq ν]

theorem mem_of_insert (inserted : table.insert id label data = some after) (mem : row ∈ after) :
    row = ⟨id, label, true, data⟩ ∨ row ∈ table := by
  unfold insert at inserted
  split at inserted
  · cases inserted
    exact List.mem_cons.mp mem
  · cases inserted

theorem mem_insert_of_mem
    (inserted : table.insert id label data = some after) (mem : row ∈ table) : row ∈ after := by
  unfold insert at inserted
  split at inserted
  · cases inserted
    exact .tail _ mem
  · cases inserted

theorem mem_of_relabel (relabelled : table.relabel id label = some after) (mem : row ∈ after) :
    ∃ before ∈ table, before.id = row.id ∧ (row = before ∨ row.label = label) := by
  unfold relabel at relabelled
  split at relabelled
  · cases relabelled
    obtain ⟨before, present, rfl⟩ := List.mem_map.mp mem
    refine ⟨before, present, (relabelledRow_id id).symm, ?_⟩
    unfold relabelledRow
    split
    · exact .inr rfl
    · exact .inl rfl
  · cases relabelled

omit [DecidableEq κ] in
/-- A live row is found under its label, since it is the only one there. -/
theorem resolve_of_mem (mem : row ∈ table) (live : row.live) :
    table.resolve row.label = some row.id := by
  obtain ⟨rows, ids, labels⟩ := table
  unfold resolve
  induction rows with
  | nil => cases mem
  | cons first _ ih =>
    rw [List.find?_cons]
    rcases List.mem_cons.mp mem with same | later
    · subst same
      simp [live]
    · have distinct : first.live → first.label ≠ row.label := fun firstLive =>
        List.rel_of_pairwise_cons labels later firstLive live
      have passed : ¬ (first.live ∧ first.label = row.label) := fun found =>
        distinct found.1 found.2
      rw [decide_eq_false passed]
      exact ih ids.of_cons labels.of_cons later

omit [DecidableEq κ] in
theorem mem_of_resolve (found : table.resolve label = some id) :
    ∃ row ∈ table, row.live ∧ row.label = label ∧ row.id = id := by
  obtain ⟨row, present, rfl⟩ := Option.map_eq_some_iff.mp found
  have holds := List.find?_some present
  simp only [decide_eq_true_eq] at holds
  exact ⟨row, List.mem_of_find?_eq_some present, holds.1, holds.2, rfl⟩

end LabelledTable

end Dynastore
