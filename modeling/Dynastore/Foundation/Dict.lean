import Mathlib.Data.List.Induction
import Mathlib.Data.List.Nodup

/-! An insertion-ordered dictionary as the list of its entries. Filled with `setdefault`, the first
row of each key stays; filled by assignment, the last one does. -/

namespace Dynastore.Dict

open List Option

variable {κ ν ρ : Type} [DecidableEq κ]

def setDefault (dict : List (κ × ν)) (key : κ) (value : ν) : List (κ × ν) :=
  if key ∈ dict.map Prod.fst then dict else dict ++ [(key, value)]

def firstBy (key : ρ → Option κ) (rows : List ρ) : List (κ × ρ) :=
  rows.foldl
    (fun dict row => match key row with
      | some name => setDefault dict name row
      | none => dict) []

def assign : List (κ × ν) → κ → ν → List (κ × ν)
  | [], key, value => [(key, value)]
  | (other, old) :: rest, key, value =>
    if other = key then (key, value) :: rest else (other, old) :: assign rest key value

def collect (key : ρ → κ) (value : ρ → ν) (rows : List ρ) : List (κ × ν) :=
  rows.foldl (fun dict row => assign dict (key row) (value row)) []

def append : List (κ × List ν) → κ → ν → List (κ × List ν)
  | [], key, value => [(key, [value])]
  | (other, values) :: rest, key, value =>
    if other = key then (other, values ++ [value]) :: rest
    else (other, values) :: append rest key value

def group (key : ρ → κ) (rows : List ρ) : List (κ × List ρ) :=
  rows.foldl (fun dict row => append dict (key row) row) []

theorem nodup_setDefault (distinct : (dict.map Prod.fst).Nodup) (name : κ) :
    ((setDefault dict name value).map Prod.fst).Nodup := by
  unfold setDefault
  split
  · exact distinct
  next absent =>
    rw [map_append]
    exact distinct.append (by simp) (by simpa using absent)

section FirstBy

variable {key : ρ → Option κ}

variable {row : ρ} {name : κ}

theorem firstBy_append_none (keyless : key row = none) (rows : List ρ) :
    firstBy key (rows ++ [row]) = firstBy key rows := by
  simp [firstBy, foldl_append, keyless]

theorem firstBy_append_some (keyed : key row = some name) (rows : List ρ) :
    firstBy key (rows ++ [row]) = setDefault (firstBy key rows) name row := by
  simp [firstBy, foldl_append, keyed]

theorem mem_firstBy :
    (name, row) ∈ firstBy key rows ↔ rows.find? (key · = some name) = some row := by
  induction rows using reverseRecOn generalizing name row with
  | nil => simp [firstBy]
  | append_singleton rows last ih =>
    cases keyed : key last with
    | none =>
      rw [firstBy_append_none keyed, ih]
      simp [keyed]
    | some lastName =>
      rw [firstBy_append_some keyed, setDefault]
      by_cases present : lastName ∈ (firstBy key rows).map Prod.fst
      · rw [if_pos present, ih]
        by_cases same : lastName = name
        · subst same
          obtain ⟨entry, mem, eq⟩ := mem_map.mp present
          have found : rows.find? (key · = some lastName) = some entry.2 := by
            rw [← ih, ← eq]
            exact mem
          simp [found]
        · simp [keyed, same]
      · rw [if_neg present, mem_append, ih]
        by_cases same : lastName = name
        · subst same
          have missing : rows.find? (key · = some lastName) = none := by
            rw [← not_isSome_iff_eq_none]
            intro found
            obtain ⟨_, eq⟩ := isSome_iff_exists.mp found
            exact present (mem_map_of_mem (ih.mpr eq))
          simp [missing, keyed, eq_comm]
        · have ne : name ≠ lastName := fun eq => same eq.symm
          simp [keyed, same, ne]

theorem nodup_keys_firstBy : ((firstBy key rows).map Prod.fst).Nodup := by
  induction rows using reverseRecOn with
  | nil => simp [firstBy]
  | append_singleton _ last ih =>
    cases keyed : key last with
    | none => rwa [firstBy_append_none keyed]
    | some =>
      rw [firstBy_append_some keyed]
      exact nodup_setDefault ih _

end FirstBy

section Collect

variable {key : ρ → κ} {value : ρ → ν}

theorem lookup_assign (wanted : κ) :
    (assign dict name entry).lookup wanted =
      if wanted = name then some entry else dict.lookup wanted := by
  induction dict with
  | nil =>
    rw [assign, lookup_cons]
    by_cases found : wanted = name
    · simp [found]
    · simp [found, beq_eq_false_iff_ne.mpr found]
  | cons head _ ih =>
    rcases head with ⟨other, _⟩
    rw [assign]
    by_cases same : other = name
    · subst same
      rw [if_pos rfl, lookup_cons, lookup_cons]
      by_cases found : wanted = other
      · simp [found]
      · simp [found, beq_eq_false_iff_ne.mpr found]
    · rw [if_neg same, lookup_cons, ih, lookup_cons]
      by_cases found : wanted = other
      · simp [found, same]
      · simp [beq_eq_false_iff_ne.mpr found]

variable {wanted : κ} {found : κ × ν}

theorem lookup_filter (keep : κ → Bool) (kept : keep wanted) (dict : List (κ × ν)) :
    (dict.filter fun entry => keep entry.1).lookup wanted = dict.lookup wanted := by
  induction dict with
  | nil => rfl
  | cons head _ ih =>
    rcases head with ⟨key, _⟩
    by_cases found : wanted = key
    · subst found
      rw [filter_cons, if_pos kept, lookup_cons, lookup_cons]
      simp
    · rw [lookup_cons, beq_eq_false_iff_ne.mpr found, ← ih, filter_cons]
      split
      · rw [lookup_cons, beq_eq_false_iff_ne.mpr found]
      · rfl

/-- `{key: answer(key) for key in keys}`, over the keys that have an answer. -/
theorem lookup_filterMap (answer : κ → Option ν) (keys : List κ) :
    (keys.filterMap fun key => (answer key).map fun value => (key, value)).lookup wanted =
      if wanted ∈ keys then answer wanted else none := by
  induction keys with
  | nil => rfl
  | cons key _ ih =>
    by_cases found : wanted = key
    · subst found
      cases given : answer wanted with
      | none =>
        rw [filterMap_cons_none (by rw [given]; rfl), ih]
        simp [given]
      | some =>
        rw [filterMap_cons_some (by rw [given]; rfl), lookup_cons]
        simp
    · cases given : answer key with
      | none =>
        rw [filterMap_cons_none (by rw [given]; rfl), ih]
        simp [found]
      | some =>
        rw [filterMap_cons_some (by rw [given]; rfl), lookup_cons,
          beq_eq_false_iff_ne.mpr found, ih]
        simp [found]

theorem lookup_filter_of_not (keep : κ → Bool) (dropped : keep wanted = false)
    (dict : List (κ × ν)) : (dict.filter fun entry => keep entry.1).lookup wanted = none := by
  rw [lookup_eq_none_iff]
  intro entry mem
  have kept : keep entry.1 := (mem_filter.mp mem).2
  apply bne_iff_ne.mpr
  intro same
  rw [← same, dropped] at kept
  cases kept

/-- `{key: value(key) for key in keys}`. -/
theorem lookup_map (value : κ → ν) (keys : List κ) :
    (keys.map fun key => (key, value key)).lookup wanted =
      if wanted ∈ keys then some (value wanted) else none := by
  rw [← lookup_filterMap (fun key => some (value key)) keys, ← filterMap_eq_map]
  rfl

theorem lookup_collect : (collect key value rows).lookup wanted =
      (rows.reverse.find? (key · = wanted)).map value := by
  induction rows using reverseRecOn with
  | nil => rfl
  | append_singleton rows last ih =>
    have step : collect key value (rows ++ [last]) =
        assign (collect key value rows) (key last) (value last) := by
      rw [collect, foldl_append]
      rfl
    rw [step, lookup_assign, ih, reverse_append, reverse_singleton,
      singleton_append, find?_cons]
    by_cases found : wanted = key last
    · simp [found]
    · have other : ¬ key last = wanted := fun eq => found eq.symm
      simp [found, other]

theorem of_lookup_collect {found : ν} (here : (collect key value rows).lookup wanted = some found) :
    ∃ row ∈ rows, key row = wanted ∧ value row = found := by
  rw [lookup_collect, map_eq_some_iff] at here
  obtain ⟨row, rowFound, rfl⟩ := here
  exact ⟨row, mem_reverse.mp (mem_of_find?_eq_some rowFound),
    by simpa using find?_some rowFound, rfl⟩

theorem lookup_collect_of_unique (mem : row ∈ rows)
    (unique : ∀ other ∈ rows, key other = key row → other = row) :
    (collect key value rows).lookup (key row) = some (value row) := by
  have present : (rows.reverse.find? (key · = key row)).isSome := by
    rw [find?_isSome]
    exact ⟨row, mem_reverse.mpr mem, by simp⟩
  obtain ⟨other, found⟩ := isSome_iff_exists.mp present
  have otherMem := mem_reverse.mp (mem_of_find?_eq_some found)
  rw [lookup_collect, found, unique other otherMem (by simpa using find?_some found), map_some]

theorem mem_of_mem_assign (mem : found ∈ assign dict name entry) :
    found ∈ dict ∨ found = (name, entry) := by
  induction dict with
  | nil => exact .inr (mem_singleton.mp mem)
  | cons _ _ ih =>
    rw [assign] at mem
    split at mem
    · rcases mem_cons.mp mem with new | kept
      · exact .inr new
      · exact .inl (.tail _ kept)
    · rcases mem_cons.mp mem with rfl | later
      · exact .inl (.head _)
      · exact (ih later).imp_left (mem_cons_of_mem _)

theorem mem_of_mem_collect (mem : found ∈ collect key value rows) :
    ∃ row ∈ rows, (key row, value row) = found := by
  induction rows using reverseRecOn with
  | nil => cases mem
  | append_singleton _ last ih =>
    rw [collect, foldl_append] at mem
    rcases mem_of_mem_assign mem with old | rfl
    · obtain ⟨row, rowMem, eq⟩ := ih old
      exact ⟨row, mem_append_left _ rowMem, eq⟩
    · exact ⟨last, by simp, rfl⟩

theorem assign_of_not_mem {name : κ} (absent : name ∉ dict.map Prod.fst) :
    assign dict name entry = dict ++ [(name, entry)] := by
  induction dict with
  | nil => rfl
  | cons _ _ ih =>
    obtain ⟨other, later⟩ := not_or.mp (mem_cons.not.mp absent)
    rw [assign, if_neg (Ne.symm other), ih later, cons_append]

theorem map_fst_assign (dict : List (κ × ν)) :
    (assign dict name entry).map Prod.fst = (setDefault dict name entry).map Prod.fst := by
  induction dict with
  | nil => rfl
  | cons head rest ih =>
    rw [setDefault] at ih ⊢
    rw [assign]
    by_cases same : head.1 = name
    · simp [same]
    · have other : ¬ name = head.1 := fun eq => same eq.symm
      by_cases later : name ∈ rest.map Prod.fst <;> simp_all

theorem nodup_collect : ((collect key value rows).map Prod.fst).Nodup := by
  induction rows using reverseRecOn with
  | nil => exact .nil
  | append_singleton _ _ ih =>
    rw [collect, foldl_append, foldl_cons, foldl_nil, map_fst_assign]
    exact nodup_setDefault ih _

theorem collect_of_nodup {rows : List ρ} (distinct : (rows.map key).Nodup) :
    collect key value rows = rows.map fun row => (key row, value row) := by
  induction rows using reverseRecOn with
  | nil => rfl
  | append_singleton rows last ih =>
    rw [map_append, nodup_append] at distinct
    have absent : key last ∉ (rows.map fun row => (key row, value row)).map Prod.fst := by
      rw [List.map_map]
      exact fun mem => distinct.2.2 _ mem _ (.head _) rfl
    have built := ih distinct.1
    rw [collect] at built
    rw [collect, foldl_append, built, map_append]
    exact assign_of_not_mem absent

end Collect

theorem flatMap_append (dict : List (κ × List ν)) :
    ((append dict name value).flatMap Prod.snd).Perm (dict.flatMap Prod.snd ++ [value]) := by
  induction dict with
  | nil => exact .refl _
  | cons _ _ ih =>
    rw [append]
    split
    · simp only [flatMap_cons, append_assoc]
      exact .append_left _ perm_append_comm
    · simp only [flatMap_cons, append_assoc]
      exact .append_left _ ih

/-- The groups have all rows, each in one of them. -/
theorem flatMap_group (key : ρ → κ) : ((group key rows).flatMap Prod.snd).Perm rows := by
  induction rows using reverseRecOn with
  | nil => exact .refl _
  | append_singleton _ _ ih =>
    rw [group, foldl_append]
    exact (flatMap_append _).trans (ih.append_right _)

theorem map_fst_append (dict : List (κ × List ν)) :
    (append dict name value).map Prod.fst = (setDefault dict name [value]).map Prod.fst := by
  induction dict with
  | nil => rfl
  | cons head rest ih =>
    rw [setDefault] at ih ⊢
    rw [append]
    by_cases same : head.1 = name
    · simp [same]
    · have other : ¬ name = head.1 := fun eq => same eq.symm
      by_cases later : name ∈ rest.map Prod.fst <;> simp_all

theorem nodup_group (key : ρ → κ) : ((group key rows).map Prod.fst).Nodup := by
  induction rows using reverseRecOn with
  | nil => exact .nil
  | append_singleton _ _ ih =>
    rw [group, foldl_append, foldl_cons, foldl_nil, map_fst_append]
    exact nodup_setDefault ih _

theorem mem_of_mem_append {name other : κ} (mem : (other, values) ∈ append dict name value)
    (foundMem : found ∈ values) :
    (∃ old, (other, old) ∈ dict ∧ found ∈ old) ∨ (other = name ∧ found = value) := by
  induction dict with
  | nil =>
    rw [append, mem_singleton] at mem
    cases mem
    exact .inr ⟨rfl, mem_singleton.mp foundMem⟩
  | cons head _ ih =>
    rcases head with ⟨_, old⟩
    rw [append] at mem
    split at mem
    next same =>
      rcases mem_cons.mp mem with here | later
      · cases here
        rcases mem_append.mp foundMem with kept | new
        · exact .inl ⟨old, mem_cons_self, kept⟩
        · exact .inr ⟨same, mem_singleton.mp new⟩
      · exact .inl ⟨values, mem_cons_of_mem _ later, foundMem⟩
    · rcases mem_cons.mp mem with here | later
      · cases here
        exact .inl ⟨_, mem_cons_self, foundMem⟩
      · rcases ih later with ⟨kept, keptMem, inside⟩ | new
        · exact .inl ⟨kept, mem_cons_of_mem _ keptMem, inside⟩
        · exact .inr new

theorem mem_of_mem_group {name : κ} (mem : (name, values) ∈ group key rows)
    (rowMem : row ∈ values) :
    row ∈ rows ∧ key row = name := by
  induction rows using reverseRecOn generalizing values with
  | nil => cases mem
  | append_singleton _ _ ih =>
    rw [group, foldl_append] at mem
    rcases mem_of_mem_append mem rowMem with ⟨_, oldMem, inside⟩ | ⟨rfl, rfl⟩
    · obtain ⟨rowMem, keyEq⟩ := ih oldMem inside
      exact ⟨mem_append_left _ rowMem, keyEq⟩
    · exact ⟨by simp, rfl⟩

end Dynastore.Dict
