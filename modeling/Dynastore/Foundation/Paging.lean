import Mathlib.Data.List.Sort
import Mathlib.Data.Multiset.Filter
import Mathlib.Data.Prod.Lex

/-! A listing is a multiset of rows that is sorted by a key. Rows with equal keys come in any order,
and in another one each time the listing is asked for. Pages of a fixed size, each cut out of an
arrangement of its own, give back every row once exactly where no boundary between two pages parts
rows that differ and have the same key (`pagesPartition_iff`). -/

namespace Dynastore

open List

variable {α κ : Type} [LinearOrder κ]

structure Arranges (key : α → κ) (rows : Multiset α) (list : List α) : Prop where
  complete : (list : Multiset α) = rows
  sorted : list.Pairwise fun first second => key first ≤ key second

def page (limit number : Nat) (list : List α) : List α :=
  (list.drop (number * limit)).take limit

/-- Whatever arrangement each page is cut out of, the pages together have every row once. -/
def PagesPartition (key : α → κ) (rows : Multiset α) (limit : Nat) : Prop :=
  ∀ arrangement : Nat → List α, (∀ number, Arranges key rows (arrangement number)) →
    ∀ count, rows.card ≤ count * limit →
      (((List.range count).flatMap fun number => page limit number (arrangement number) : List α) :
        Multiset α) = rows

section Ranks

variable (key : α → κ) (rows : Multiset α) (row : α)

def below : Nat := (rows.filter fun other => key other < key row).card

def upTo : Nat := (rows.filter fun other => key other ≤ key row).card

end Ranks

/-- No boundary between pages falls among rows that differ and have the same key. -/
def Unsplit (key : α → κ) (rows : Multiset α) (limit : Nat) : Prop :=
  ∀ row ∈ rows, ∀ other ∈ rows, row ≠ other → key row = key other →
    ∀ number, ¬ (below key rows row < number * limit ∧ number * limit < upTo key rows row)

/-! ## Arrangements -/

theorem exists_arrangement (key : α → κ) : ∃ list, Arranges key rows list := by
  let order : α → α → Prop := fun first second => key first ≤ key second
  obtain ⟨given, same⟩ := Quotient.exists_rep rows
  refine ⟨given.insertionSort order, ?_, pairwise_insertionSort order _⟩
  rw [Multiset.coe_eq_coe.mpr (perm_insertionSort order _)]
  exact same

theorem eq_append_of_sorted {key : α → κ} {list : List α}
    (sorted : list.Pairwise fun first second => key first ≤ key second) (middle : κ) :
    list = (list.filter fun row => key row < middle) ++
      ((list.filter fun row => key row = middle) ++ list.filter fun row => middle < key row) := by
  induction list with
  | nil => rfl
  | cons head rest ih =>
    obtain ⟨least, restSorted⟩ := pairwise_cons.mp sorted
    have same := ih restSorted
    rcases lt_trichotomy (key head) middle with smaller | eq | greater
    · simp only [filter_cons, smaller, smaller.ne, smaller.not_gt, decide_true,
        decide_false, if_true, Bool.false_eq_true, if_false, cons_append]
      rw [← same]
    · have none : (rest.filter fun row => decide (key row < middle)) = [] := by
        rw [filter_eq_nil_iff]
        intro row mem
        simpa [eq] using least row mem
      rw [none, nil_append] at same
      simp only [filter_cons, eq, lt_irrefl, decide_true, decide_false, if_true,
        Bool.false_eq_true, if_false, none, nil_append, cons_append]
      rw [← same]
    · have none : (rest.filter fun row => decide (key row < middle)) = [] := by
        rw [filter_eq_nil_iff]
        intro row mem
        simpa using greater.le.trans (least row mem)
      have noneEqual : (rest.filter fun row => decide (key row = middle)) = [] := by
        rw [filter_eq_nil_iff]
        intro row mem
        simpa using (greater.trans_le (least row mem)).ne'
      rw [none, noneEqual, nil_append, nil_append] at same
      simp only [filter_cons, greater, greater.ne', greater.not_gt, decide_true,
        decide_false, if_true, Bool.false_eq_true, if_false, none, noneEqual, nil_append]
      rw [← same]

theorem card_filter_or [DecidablePred p] [DecidablePred q] [DecidablePred r] {rows : Multiset α}
    (either : ∀ row, p row ↔ q row ∨ r row) (disjoint : ∀ row, q row → ¬ r row) :
    (rows.filter p).card = (rows.filter q).card + (rows.filter r).card := by
  have left : (rows.filter p).filter q = rows.filter q := by
    rw [Multiset.filter_filter]
    exact Multiset.filter_congr fun row _ => and_iff_left_of_imp fun first =>
      (either row).mpr (.inl first)
  have right : ((rows.filter p).filter fun row => ¬ q row) = rows.filter r := by
    rw [Multiset.filter_filter]
    apply Multiset.filter_congr
    intro row _
    constructor
    · intro both
      exact ((either row).mp both.2).resolve_left both.1
    · intro second
      exact ⟨fun first => disjoint row first second, (either row).mpr (.inr second)⟩
  rw [← left, ← right, ← Multiset.card_add, Multiset.filter_add_not]

section Counting

variable [DecidableEq α] {key : α → κ} {rows : Multiset α} {list : List α}

theorem count_take (arranges : Arranges key rows list) (row : α) (length : Nat) :
    (list.take length).count row =
      ((list.filter fun other => key other = key row).take (length - below key rows row)).count
        row := by
  have size : (list.filter fun other => decide (key other < key row)).length =
      below key rows row := by
    rw [below, ← arranges.complete, Multiset.filter_coe, Multiset.coe_card]
  have first : ((list.filter fun other => decide (key other < key row)).take length).count row =
      0 := by
    rw [count_eq_zero]
    intro mem
    simpa using (mem_filter.mp (mem_of_mem_take mem)).2
  have last : ∀ rest, ((list.filter fun other => decide (key row < key other)).take rest).count
      row = 0 := by
    intro _
    rw [count_eq_zero]
    intro mem
    simpa using (mem_filter.mp (mem_of_mem_take mem)).2
  conv_lhs => rw [eq_append_of_sorted arranges.sorted (key row)]
  rw [take_append, take_append, count_append, count_append, first, last, size,
    Nat.zero_add, Nat.add_zero]

omit [DecidableEq α] in
theorem upTo_eq (key : α → κ) (rows : Multiset α) (row : α) : upTo key rows row =
      below key rows row + (rows.filter fun other => key other = key row).card :=
  card_filter_or (fun _ => le_iff_lt_or_eq) fun _ smaller => smaller.ne

omit [DecidableEq α] in
theorem card_tied (arranges : Arranges key rows list) (row : α) :
    (list.filter fun other => decide (key other = key row)).length =
      (rows.filter fun other => key other = key row).card := by
  rw [← arranges.complete, Multiset.filter_coe, Multiset.coe_card]

omit [DecidableEq α] in
theorem tied_eq_replicate (arranges : Arranges key rows list) (row : α)
    (alone : ∀ other ∈ rows, key row = key other → other = row) :
    (list.filter fun other => decide (key other = key row)) =
      List.replicate (rows.filter fun other => key other = key row).card row := by
  rw [← card_tied arranges row]
  apply eq_replicate_of_mem
  intro other mem
  obtain ⟨listed, tied⟩ := mem_filter.mp mem
  apply alone other _ (of_decide_eq_true tied).symm
  rw [← arranges.complete]
  exact listed

theorem take_eq_of_unsplit {length : Nat} (arranges : Arranges key rows list)
    (otherArranges : Arranges key rows other)
    (unsplit : ∀ row ∈ rows, ∀ tied ∈ rows, row ≠ tied → key row = key tied →
      ¬ (below key rows row < length ∧ length < upTo key rows row)) :
    (list.take length : Multiset α) = other.take length := by
  rw [Multiset.ext]
  intro row
  rw [Multiset.coe_count, Multiset.coe_count]
  by_cases present : row ∈ rows
  · rw [count_take arranges, count_take otherArranges]
    by_cases alone : ∀ tied ∈ rows, key row = key tied → tied = row
    · rw [tied_eq_replicate arranges row alone, tied_eq_replicate otherArranges row alone]
    · push Not at alone
      obtain ⟨tied, tiedMem, sameKey, ne⟩ := alone
      have outside := unsplit row present tied tiedMem ne.symm sameKey
      have sizes := upTo_eq key rows row
      by_cases early : length ≤ below key rows row
      · rw [Nat.sub_eq_zero_of_le early, take_zero, take_zero]
      · have late : (rows.filter fun other => key other = key row).card ≤
            length - below key rows row := by omega
        have sameCount : ∀ {given : List α}, Arranges key rows given →
            ((given.filter fun other => decide (key other = key row)).take
              (length - below key rows row)).count row =
              (rows.filter fun other => key other = key row).count row := by
          intro given givenArranges
          rw [take_of_length_le ((card_tied givenArranges row).trans_le late),
            ← Multiset.coe_count, ← Multiset.filter_coe, givenArranges.complete]
        rw [sameCount arranges, sameCount otherArranges]
  · have absent : ∀ {given : List α}, Arranges key rows given →
        (given.take length).count row = 0 := by
      intro _ givenArranges
      rw [count_eq_zero]
      intro mem
      apply present
      rw [← givenArranges.complete]
      exact mem_of_mem_take mem
    rw [absent arranges, absent otherArranges]

end Counting

/-! ## Pages -/

theorem take_succ_page :
    list.take ((number + 1) * limit) = list.take (number * limit) ++ page limit number list := by
  rw [page, Nat.succ_mul, take_add]

variable {limit : Nat}

theorem pages_eq_take_of_unsplit {key : α → κ} (unsplit : Unsplit key rows limit)
    {arrangement : Nat → List α} (arranges : ∀ number, Arranges key rows (arrangement number))
    (listArranges : Arranges key rows list) (count : Nat) :
    (((List.range count).flatMap fun number => page limit number (arrangement number) : List α) :
      Multiset α) = list.take (count * limit) := by
  classical
  induction count with
  | zero => simp
  | succ count ih =>
    have boundary : ∀ length number, length = number * limit →
        (list.take length : Multiset α) = (arrangement count).take length := by
      intro _ number multiple
      apply take_eq_of_unsplit listArranges (arranges count)
      intro row mem tied tiedMem ne sameKey
      rw [multiple]
      exact unsplit row mem tied tiedMem ne sameKey number
    rw [range_succ, flatMap_append, ← Multiset.coe_add, ih,
      boundary _ count rfl, boundary _ (count + 1) rfl, take_succ_page, ← Multiset.coe_add,
      flatMap_cons, flatMap_nil, append_nil]

theorem pagesPartition_of_unsplit {key : α → κ} (unsplit : Unsplit key rows limit) :
    PagesPartition key rows limit := by
  intro _ arranges count enough
  obtain ⟨list, listArranges⟩ := exists_arrangement key
  have whole : list.length ≤ count * limit := by
    rw [← Multiset.coe_card, listArranges.complete]
    exact enough
  rw [pages_eq_take_of_unsplit unsplit arranges listArranges, take_of_length_le whole,
    listArranges.complete]

/-! ## A row on two pages -/

theorem flatMap_page (limit start count : Nat) (list : List α) :
    ((List.range count).flatMap fun number => page limit (start + number) list) =
      (list.drop (start * limit)).take (count * limit) := by
  induction count with
  | zero => simp
  | succ _ ih =>
    rw [range_succ, flatMap_append, ih, flatMap_cons, flatMap_nil,
      append_nil, page, Nat.succ_mul, take_add, drop_drop, Nat.add_mul]

theorem flatMap_page_switch (limit number rest : Nat) (size : back.length ≤ rest * limit) :
    ((List.range (number + rest)).flatMap fun count =>
        page limit count (if count < number then front else back)) =
      front.take (number * limit) ++ back.drop (number * limit) := by
  have early : ((range number).flatMap fun count =>
      page limit count (if count < number then front else back)) =
        front.take (number * limit) := by
    have whole := flatMap_page limit 0 number front
    rw [Nat.zero_mul, drop_zero] at whole
    rw [← whole]
    apply flatMap_congr
    intro count mem
    rw [if_pos (mem_range.mp mem), Nat.zero_add]
  have late : (((range rest).map (number + ·)).flatMap fun count =>
      page limit count (if count < number then front else back)) =
        back.drop (number * limit) := by
    have remaining : (back.drop (number * limit)).length ≤ rest * limit := by
      rw [length_drop]
      exact (Nat.sub_le _ _).trans size
    rw [← take_of_length_le remaining, ← flatMap_page, flatMap_map]
    apply flatMap_congr
    intro _ _
    rw [if_neg (Nat.not_lt.mpr (Nat.le_add_right _ _))]
  rw [range_add, flatMap_append, early, late]

section Split

variable [DecidableEq α] {key : α → κ} {rows : Multiset α}

omit [DecidableEq α] in
theorem Arranges.of_lex [LinearOrder β] {second : α → β}
    (arranges : Arranges (fun row => toLex (key row, second row)) rows list) :
    Arranges key rows list :=
  ⟨arranges.complete, arranges.sorted.imp fun ordered => Prod.Lex.monotone_fst _ _ ordered⟩

theorem count_take_lex {length : Nat} {second : α → Bool}
    (arranges : Arranges (fun other => toLex (key other, second other)) rows list)
    (apart : ∀ other, second row = second other → other = row) :
    (list.take length).count row =
      min (length - below (fun other => toLex (key other, second other)) rows row)
        (rows.count row) := by
  have alone : ∀ other ∈ rows, toLex (key row, second row) = toLex (key other, second other) →
      other = row := by
    intro other _ same
    exact apart other (congrArg Prod.snd (toLex.injective same))
  have copies : (rows.filter fun other =>
      toLex (key other, second other) = toLex (key row, second row)).card = rows.count row := by
    rw [Multiset.count_eq_card_filter_eq]
    congr 1
    apply Multiset.filter_congr
    intro other mem
    exact ⟨fun same => (alone other mem same.symm).symm, fun same => by rw [same]⟩
  rw [count_take arranges, tied_eq_replicate arranges row alone, copies, take_replicate,
    count_replicate_self]

theorem below_first (key : α → κ) (rows : Multiset α) (row : α) :
    below (fun other => toLex (key other, decide (other ≠ row))) rows row =
      below key rows row := by
  unfold below
  congr 1
  apply Multiset.filter_congr
  simp [Prod.Lex.toLex_lt_toLex]

theorem below_last (key : α → κ) (rows : Multiset α) (row : α) :
    below (fun other => toLex (key other, decide (other = row))) rows row = below key rows row +
        (rows.filter fun other => key other = key row ∧ other ≠ row).card := by
  apply card_filter_or
  · intro other
    by_cases same : other = row
    · simp [same]
    · simp [Prod.Lex.toLex_lt_toLex, same]
  · exact fun _ smaller same => smaller.ne same.1

theorem card_ties (key : α → κ) (rows : Multiset α) (row : α) :
    (rows.filter fun other => key other = key row).card = rows.count row +
      (rows.filter fun other => key other = key row ∧ other ≠ row).card := by
  rw [Multiset.count_eq_card_filter_eq]
  apply card_filter_or
  · intro other
    by_cases same : row = other
    · simp [same]
    · simp [same, Ne.symm same]
  · exact fun _ same apart => apart.2 same.symm

theorem not_pagesPartition_of_split {limit number : Nat} (rowMem : row ∈ rows)
    (otherMem : other ∈ rows) (ne : row ≠ other) (tied : key row = key other)
    (lower : below key rows row < number * limit) (upper : number * limit < upTo key rows row) :
    ¬ PagesPartition key rows limit := by
  intro partition
  obtain ⟨front, frontArranges⟩ :=
    exists_arrangement (fun other => toLex (key other, decide (other ≠ row)))
  obtain ⟨back, backArranges⟩ :=
    exists_arrangement (fun other => toLex (key other, decide (other = row)))
  have positive : 0 < limit := Nat.pos_of_ne_zero fun none => by simp [none] at lower
  have size : back.length ≤ rows.card * limit := by
    rw [← Multiset.coe_card, backArranges.complete]
    exact Nat.le_mul_of_pos_right _ positive
  have arranges : ∀ count, Arranges key rows (if count < number then front else back) := by
    intro _
    split
    · exact frontArranges.of_lex
    · exact backArranges.of_lex
  have pages := partition _ arranges (number + rows.card)
    ((Nat.le_add_left _ _).trans (Nat.le_mul_of_pos_right _ positive))
  rw [flatMap_page_switch _ _ _ size] at pages
  have counted := congrArg (Multiset.count row) pages
  rw [Multiset.coe_count, count_append] at counted
  have whole : (back.take (number * limit)).count row + (back.drop (number * limit)).count row =
      rows.count row := by
    rw [← count_append, take_append_drop, ← Multiset.coe_count, backArranges.complete]
  have inFront : (front.take (number * limit)).count row =
      min (number * limit - below key rows row) (rows.count row) := by
    rw [count_take_lex frontArranges (by simp), below_first]
  have inBack : (back.take (number * limit)).count row = min (number * limit - (below key rows row +
        (rows.filter fun other => key other = key row ∧ other ≠ row).card)) (rows.count row) := by
    rw [count_take_lex backArranges (by simp [eq_comm]), below_last]
  have own : 0 < rows.count row := Multiset.count_pos.mpr rowMem
  have others : 0 < (rows.filter fun other => key other = key row ∧ other ≠ row).card :=
    Multiset.card_pos_iff_exists_mem.mpr
      ⟨other, Multiset.mem_filter.mpr ⟨otherMem, tied.symm, ne.symm⟩⟩
  have ties := card_ties key rows row
  have sizes := upTo_eq key rows row
  omega

end Split

theorem pagesPartition_iff {key : α → κ} :
    PagesPartition key rows limit ↔ Unsplit key rows limit := by
  classical
  refine ⟨?_, pagesPartition_of_unsplit⟩
  intro partition _ rowMem _ otherMem ne tied _ within
  exact not_pagesPartition_of_split rowMem otherMem ne tied within.1 within.2 partition

end Dynastore
