import Dynastore.Caching.LocalStore
import Mathlib.Algebra.Ring.Int.Defs

/-! The byte budget is that of all local backends of a process. Enforcement trims the backend with
the most bytes, one entry at a time, and gives a backend up as soon as an eviction frees nothing. -/

namespace Dynastore.Caching

variable {Value : Type}

/-- A registered backend, and whether it is one of the candidates. -/
structure BudgetSlot (Value : Type) where
  candidate : Bool
  backend : LocalBackend Value

theorem LocalBackend.victim_mem {backend : LocalBackend Value}
    (chosen : backend.victim = some entry) : entry ∈ backend.store := by
  have scanned : ∀ (entries : List (CacheEntry Value)) best,
      entries.foldl (fun best entry => some (best.elim entry fun best =>
        if entry.scoresBelow best then entry else best)) best = some entry →
      entry ∈ entries ∨ best = some entry := by
    intro entries
    induction entries with
    | nil => exact fun _ found => .inr found
    | cons first _ ih =>
      intro best found
      rcases ih _ found with later | now
      · exact .inl (.tail _ later)
      · cases best with
        | none => exact .inl (Option.some.inj now ▸ .head _)
        | some best =>
          simp only [Option.elim, Option.some.injEq] at now
          split at now
          · exact .inl (now ▸ .head _)
          · exact .inr (congrArg some now)
  rcases scanned _ _ chosen with sampled | ⟨⟨⟩⟩
  exact List.mem_of_mem_filter (List.mem_of_mem_take sampled)

namespace BudgetSlot

variable (slot : BudgetSlot Value)

def freed : Nat := slot.backend.victim.elim 0 CacheEntry.sizeBytes

def trim : BudgetSlot Value :=
  ⟨0 < slot.freed ∧ 0 < slot.backend.evictOneForBudget.bytes, slot.backend.evictOneForBudget⟩

def weight : Nat := slot.backend.store.length + slot.candidate.toNat

theorem weight_trim (candidate : slot.candidate = true) : slot.trim.weight < slot.weight := by
  cases chosen : slot.backend.victim with
  | none =>
    simp [weight, trim, freed, chosen, LocalBackend.evictOneForBudget, candidate]
  | some entry =>
    have shorter := slot.backend.length_pop (LocalBackend.victim_mem chosen)
    have bit := Bool.toNat_le slot.trim.candidate
    have left : slot.trim.backend.store = (slot.backend.pop entry.key).store := by
      simp [trim, LocalBackend.evictOneForBudget, chosen, LocalBackend.counted]
    rw [weight, weight, left, candidate, Bool.toNat_true]
    omega

end BudgetSlot

/-- `max(candidates, key=lambda b: b._bytes)` is the first candidate with that many bytes. -/
def mostBytes (slots : List (BudgetSlot Value)) : Option Int :=
  ((slots.filter BudgetSlot.candidate).map (·.backend.bytes)).max?

/-- The bytes that are freed, and the backends after it. -/
def trimFirst (bytes : Int) : List (BudgetSlot Value) → Nat × List (BudgetSlot Value)
  | [] => (0, [])
  | slot :: slots =>
    if slot.candidate ∧ slot.backend.bytes = bytes then (slot.freed, slot.trim :: slots)
    else ((trimFirst bytes slots).1, slot :: (trimFirst bytes slots).2)

theorem weight_trimFirst {slots : List (BudgetSlot Value)} (most : mostBytes slots = some bytes) :
    ((trimFirst bytes slots).2.map BudgetSlot.weight).sum <
      (slots.map BudgetSlot.weight).sum := by
  obtain ⟨slot, mem, same⟩ := List.mem_map.mp (List.max?_mem most)
  have found := List.mem_filter.mp mem
  clear most mem
  induction slots with
  | nil => cases found.1
  | cons other slots ih =>
    rw [trimFirst]
    split
    next first =>
      simp only [List.map_cons, List.sum_cons]
      exact Nat.add_lt_add_right (other.weight_trim first.1) _
    next later =>
      simp only [List.map_cons, List.sum_cons]
      refine Nat.add_lt_add_left (ih ⟨?_, found.2⟩) _
      rcases List.mem_cons.mp found.1 with rfl | mem
      · exact absurd ⟨found.2, same⟩ later
      · exact mem

/-- The loop of `enforce`. -/
def trimAll (budget : Nat) (total : Int) (slots : List (BudgetSlot Value)) :
    List (LocalBackend Value) :=
  match _most : mostBytes slots with
  | none => slots.map BudgetSlot.backend
  | some bytes =>
    if budget < total then
      trimAll budget (total - (trimFirst bytes slots).1) (trimFirst bytes slots).2
    else slots.map BudgetSlot.backend
termination_by (slots.map BudgetSlot.weight).sum
decreasing_by exact weight_trimFirst _most

/-- What a thread outside the event loop may trim is left out: a write of the event loop may trim
every backend. -/
def enforce (budget : Option Nat) (approxTotal : Int) (backends : List (LocalBackend Value)) :
    List (LocalBackend Value) :=
  match budget with
  | none => backends
  | some budget =>
    if approxTotal ≤ budget then backends
    else trimAll budget (backends.map LocalBackend.bytes).sum
      (backends.map fun backend => ⟨0 < backend.bytes, backend⟩)

end Dynastore.Caching
