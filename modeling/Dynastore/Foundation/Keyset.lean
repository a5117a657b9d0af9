import Mathlib.Data.List.Sort

/-! A keyset query selects the rows behind a position of the key order. Its result is a segment of
the one ordered list of accepted rows, so pages can be studied on that list alone. `skipEvery` is
what is left of a list when the row at each page boundary is lost. -/

namespace Dynastore.Keyset

open List

section Select

variable {Row : Type u} {Key : Type v} [LinearOrder Key] (key : Row → Key)

def ordered (rows : List Row) : List Row :=
  rows.insertionSort fun left right => key left ≤ key right

def select (rows : List Row) (accepts : Row → Bool) (position : Option Key) (limit : Nat) :
    List Row :=
  (ordered key (rows.filter fun row =>
    accepts row && position.all fun start => decide (start < key row))).take limit

theorem ordered_perm : (ordered key rows).Perm rows :=
  perm_insertionSort _ _

theorem length_ordered : (ordered key rows).length = rows.length :=
  (ordered_perm key).length_eq

theorem ordered_strict (distinct : (rows.map key).Nodup) :
    (ordered key rows).Pairwise fun left right => key left < key right := by
  have sorted : (ordered key rows).Pairwise fun left right => key left ≤ key right :=
    pairwise_insertionSort _ rows
  have apart : (ordered key rows).Pairwise fun left right => key left ≠ key right := by
    rw [← pairwise_map (f := key) (R := (· ≠ ·))]
    exact ((ordered_perm key).map key).nodup_iff.mpr distinct
  exact sorted.imp₂ (fun _ _ below ne => lt_of_le_of_ne below ne) apart

theorem ordered_filter (distinct : (rows.map key).Nodup) :
    ordered key (rows.filter keep) = (ordered key rows).filter keep := by
  have distinctKept : ((rows.filter keep).map key).Nodup :=
    distinct.sublist (filter_sublist.map key)
  have samePerm : (ordered key (rows.filter keep)).Perm ((ordered key rows).filter keep) :=
    (ordered_perm key).trans ((ordered_perm key).symm.filter keep)
  refine List.Perm.eq_of_pairwise ?_ (ordered_strict key distinctKept)
    ((ordered_strict key distinct).filter keep) samePerm
  intro _ _ _ _ below above
  exact absurd above (lt_asymm below)

theorem select_none :
    select key rows accepts none limit = (ordered key (rows.filter accepts)).take limit := by
  simp [select]

theorem select_some (distinct : (rows.map key).Nodup) {before after : List Row}
    (split : ordered key (rows.filter accepts) = before ++ row :: after) (limit : Nat) :
    select key rows accepts (some (key row)) limit = after.take limit := by
  have distinctAccepted : ((rows.filter accepts).map key).Nodup :=
    distinct.sublist (filter_sublist.map key)
  have strict := ordered_strict key distinctAccepted
  rw [split, pairwise_append, pairwise_cons] at strict
  have behind : (before ++ row :: after).filter (fun other => decide (key row < key other)) =
      after := by
    rw [filter_append, filter_cons_of_neg (by simp)]
    have noneBefore : before.filter (fun other => decide (key row < key other)) = [] := by
      rw [filter_eq_nil_iff]
      intro other mem
      simpa using (strict.2.2 other mem row (by simp)).le
    have allAfter : after.filter (fun other => decide (key row < key other)) = after := by
      rw [filter_eq_self]
      intro other mem
      simpa using strict.2.1.1 other mem
    rw [noneBefore, allAfter, nil_append]
  have twoFilters : rows.filter (fun other => accepts other && decide (key row < key other)) =
      (rows.filter accepts).filter fun other => decide (key row < key other) := by
    rw [filter_filter]
    congr
    funext other
    exact Bool.and_comm _ _
  simp only [select, Option.all_some]
  rw [twoFilters, ordered_filter key distinctAccepted, split, behind]

end Select

section Skip

variable {Row : Type u}

/-- Take `room` rows, lose one, and go on with pages of `limit` rows. -/
def skipEvery (limit : Nat) : (room : Nat) → List Row → List Row
  | _, [] => []
  | 0, _ :: rest => skipEvery limit limit rest
  | room + 1, row :: rest => row :: skipEvery limit room rest

theorem length_skipEvery_le (limit room : Nat) (rows : List Row) :
    (skipEvery limit room rows).length ≤ rows.length := by
  induction rows generalizing room with
  | nil => simp [skipEvery]
  | cons _ _ ih =>
    cases room with
    | zero =>
      have shorter := ih limit
      simp only [skipEvery, length_cons]
      omega
    | succ room =>
      have shorter := ih room
      simp only [skipEvery, length_cons]
      omega

theorem skipEvery_of_length_le (fits : rows.length ≤ room) : skipEvery limit room rows = rows := by
  induction rows generalizing room with
  | nil => rfl
  | cons _ _ ih =>
    cases room with
    | zero => simp at fits
    | succ =>
      simp only [skipEvery]
      rw [ih (by simpa using fits)]

theorem skipEvery_append (full : first.length = room) :
    skipEvery limit room (first ++ row :: rest) = first ++ skipEvery limit limit rest := by
  induction first generalizing room with
  | nil =>
    subst full
    rfl
  | cons _ _ ih =>
    subst full
    simp only [cons_append, length_cons, skipEvery]
    rw [ih rfl]

theorem length_skipEvery_eq_iff :
    (skipEvery limit limit rows).length = rows.length ↔ rows.length ≤ limit := by
  constructor
  · intro sameLength
    by_contra tooLong
    have split : rows = rows.take limit ++ rows[limit] :: rows.drop (limit + 1) := by
      rw [getElem_cons_drop, take_append_drop]
    have firstLength : (rows.take limit).length = limit := by
      rw [length_take]
      omega
    rw [split, skipEvery_append firstLength] at sameLength
    have shorter := length_skipEvery_le limit limit (rows.drop (limit + 1))
    simp only [length_append, length_cons] at sameLength
    omega
  · intro fits
    rw [skipEvery_of_length_le fits]

end Skip

end Dynastore.Keyset
