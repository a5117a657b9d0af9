import Mathlib.Data.List.Nodup

/-! A choice takes one option under each name of a table of options. What is read of a choice under
some names is independent of the other names, as long as each has an option: adding or leaving out
such names changes no answer (`exists_choice_congr`). -/

namespace Dynastore

open List

variable {κ α : Type} [DecidableEq κ]

/-- Every way to take one option under each name; other names keep what they have. -/
def choices (start : κ → α) : List (κ × List α) → List (κ → α)
  | [] => [start]
  | (name, options) :: rest =>
    options.flatMap fun option => choices (Function.update start name option) rest

variable {table : List (κ × List α)} {start : κ → α}

theorem mem_choices (distinct : (table.map Prod.fst).Nodup) :
    choice ∈ choices start table ↔ (∀ entry ∈ table, choice entry.1 ∈ entry.2) ∧
        ∀ name ∉ table.map Prod.fst, choice name = start name := by
  induction table generalizing start with
  | nil =>
    rw [choices, mem_singleton]
    constructor
    · intro same
      subst same
      exact ⟨fun _ mem => (not_mem_nil mem).elim, fun _ _ => rfl⟩
    · intro same
      funext name
      exact same.2 name not_mem_nil
  | cons head _ ih =>
    obtain ⟨fresh, restDistinct⟩ := nodup_cons.mp distinct
    rw [choices, mem_flatMap]
    rw [forall_mem_cons]
    simp only [ih restDistinct, map_cons, mem_cons, not_or]
    constructor
    · intro taken
      obtain ⟨option, optionMem, each, others⟩ := taken
      have atHead : choice head.1 = option := by
        rw [others head.1 fresh, Function.update_self]
      refine ⟨⟨atHead ▸ optionMem, each⟩, ?_⟩
      intro name outside
      rw [others name outside.2, Function.update_of_ne outside.1]
    · intro taken
      obtain ⟨⟨atHead, each⟩, others⟩ := taken
      refine ⟨choice head.1, atHead, each, ?_⟩
      intro name outside
      by_cases same : name = head.1
      · rw [same, Function.update_self]
      · rw [Function.update_of_ne same]
        exact others name ⟨same, outside⟩

theorem exists_mem_choices
    (filled : ∀ entry ∈ table, entry.2 ≠ []) : ∃ choice, choice ∈ choices start table := by
  induction table generalizing start with
  | nil => exact ⟨start, mem_singleton_self _⟩
  | cons head rest ih =>
    obtain ⟨headFilled, restFilled⟩ := forall_mem_cons.mp filled
    obtain ⟨option, optionMem⟩ := exists_mem_of_ne_nil _ headFilled
    obtain ⟨choice, (taken : choice ∈ choices (Function.update start head.1 option) rest)⟩ :=
      ih restFilled
    exact ⟨choice, mem_flatMap.mpr ⟨option, optionMem, taken⟩⟩

def ReadsOnly (names : List κ) (test : (κ → α) → Prop) : Prop :=
  ∀ left right : κ → α, (∀ name ∈ names, left name = right name) → test left → test right

/-- Leaving out names that the test does not look at changes nothing, where each of them has
an option. -/
theorem exists_choice_congr (reads : ReadsOnly names test)
    (partDistinct : (part.map Prod.fst).Nodup) (wholeDistinct : (whole.map Prod.fst).Nodup)
    (within : ∀ entry ∈ part, entry ∈ whole)
    (covered : ∀ name ∈ names, name ∈ whole.map Prod.fst → name ∈ part.map Prod.fst)
    (filled : ∀ entry ∈ whole, entry.2 ≠ []) :
    (∃ choice ∈ choices start part, test choice) ↔
      ∃ choice ∈ choices start whole, test choice := by
  have unique : ∀ left ∈ whole, ∀ right ∈ whole, left.1 = right.1 → left = right :=
    fun _ leftMem _ rightMem => inj_on_of_nodup_map wholeDistinct leftMem rightMem
  constructor
  · intro found
    obtain ⟨choice, taken, holds⟩ := found
    obtain ⟨each, others⟩ := (mem_choices partDistinct).mp taken
    have extended : ∀ name, ∃ value, (name ∈ part.map Prod.fst → value = choice name) ∧
          (∀ entry ∈ whole, entry.1 = name → value ∈ entry.2) ∧
          (name ∉ whole.map Prod.fst → value = start name) := by
      intro name
      by_cases inPart : name ∈ part.map Prod.fst
      · obtain ⟨entry, entryMem, rfl⟩ := mem_map.mp inPart
        refine ⟨choice entry.1, fun _ => rfl, ?_, ?_⟩
        · intro other otherMem same
          rw [unique other otherMem entry (within entry entryMem) same]
          exact each entry entryMem
        · exact fun outside => (outside (mem_map_of_mem (within entry entryMem))).elim
      · by_cases inWhole : name ∈ whole.map Prod.fst
        · obtain ⟨entry, entryMem, rfl⟩ := mem_map.mp inWhole
          obtain ⟨option, optionMem⟩ := exists_mem_of_ne_nil _ (filled entry entryMem)
          refine ⟨option, fun absent => (inPart absent).elim, ?_,
            fun outside => (outside inWhole).elim⟩
          intro other otherMem same
          rw [unique other otherMem entry entryMem same]
          exact optionMem
        · refine ⟨start name, fun absent => (inPart absent).elim, ?_, fun _ => rfl⟩
          intro _ otherMem same
          exact (inWhole (same ▸ mem_map_of_mem otherMem)).elim
    choose extension onPart onWhole outside using extended
    refine ⟨extension, (mem_choices wholeDistinct).mpr
      ⟨fun entry mem => onWhole entry.1 entry mem rfl, outside⟩, ?_⟩
    apply reads choice extension _ holds
    intro name mem
    by_cases inPart : name ∈ part.map Prod.fst
    · exact (onPart name inPart).symm
    · rw [others name inPart, outside name fun inWhole => inPart (covered name mem inWhole)]
  · intro found
    obtain ⟨choice, taken, holds⟩ := found
    obtain ⟨each, others⟩ := (mem_choices wholeDistinct).mp taken
    refine ⟨fun name => if name ∈ part.map Prod.fst then choice name else start name,
      (mem_choices partDistinct).mpr ⟨?_, fun _ outside => if_neg outside⟩, ?_⟩
    · intro entry mem
      rw [if_pos (mem_map_of_mem mem)]
      exact each entry (within entry mem)
    · apply reads choice _ _ holds
      intro name mem
      by_cases inPart : name ∈ part.map Prod.fst
      · rw [if_pos inPart]
      · rw [if_neg inPart, others name fun inWhole => inPart (covered name mem inWhole)]

theorem exists_choice_of_mem (distinct : (table.map Prod.fst).Nodup)
    (filled : ∀ entry ∈ table, entry.2 ≠ []) (entryMem : entry ∈ table)
    (optionMem : option ∈ entry.2) : ∃ choice ∈ choices start table, choice entry.1 = option := by
  have reads : ReadsOnly [entry.1] fun choice : κ → α => choice entry.1 = option := by
    intro _ _ same taken
    rw [← same entry.1 (mem_singleton_self _)]
    exact taken
  have single : ([entry].map Prod.fst).Nodup := nodup_singleton entry.1
  apply (exists_choice_congr reads single distinct ?_ ?_ filled).mp
  · refine ⟨Function.update start entry.1 option, ?_, Function.update_self _ _ _⟩
    rw [choices, mem_flatMap]
    exact ⟨option, optionMem, mem_singleton_self _⟩
  · intro _ mem
    rw [mem_singleton.mp mem]
    exact entryMem
  · intro _ named _
    exact named

end Dynastore
