/-! A store of counters, where a missing one counts as zero, and the atomic increment below a limit.
-/

namespace Dynastore

def Counter (Key : Type u) := Key → Option Nat

namespace Counter

variable {Key : Type u}

def count (counter : Counter Key) (key : Key) : Nat :=
  (counter key).getD 0

def drop (counter : Counter Key) (lost : Key → Bool) : Counter Key :=
  fun key => if lost key then none else counter key

variable [DecidableEq Key]

def add (counter : Counter Key) (key : Key) (amount : Nat) : Counter Key :=
  fun other => if other = key then some (counter.count key + amount) else counter other

@[simp]
theorem count_add_self (counter : Counter Key) (key : Key) :
    (counter.add key amount).count key = counter.count key + amount := by
  simp [count, add]

theorem count_add_of_ne (counter : Counter Key) (ne : other ≠ key) :
    (counter.add key amount).count other = counter.count other := by
  simp [count, add, ne]

theorem count_le_count_add (counter : Counter Key) (key other : Key) (amount : Nat) :
    counter.count other ≤ (counter.add key amount).count other := by
  by_cases same : other = key
  · subst same
    rw [count_add_self]
    omega
  · exact Nat.le_of_eq (count_add_of_ne counter same).symm

end Counter

/-- The answer of a limited increment, with the store behind it. -/
structure Decision (Key : Type u) where
  counter : Counter Key
  count : Nat
  allowed : Bool

namespace Counter

variable {Key : Type u} [DecidableEq Key]

def incrIfBelow (counter : Counter Key) (key : Key) (limit amount : Nat) : Decision Key :=
  if counter.count key + amount ≤ limit then
    ⟨counter.add key amount, counter.count key + amount, true⟩
  else ⟨counter, counter.count key, false⟩

variable {counter : Counter Key} {key : Key} {limit amount : Nat}

theorem incrIfBelow_allowed : (counter.incrIfBelow key limit amount).allowed ↔
      counter.count key + amount ≤ limit := by
  unfold incrIfBelow
  split <;> simp_all

theorem count_le_incrIfBelow :
    counter.count other ≤ (counter.incrIfBelow key limit amount).counter.count other := by
  unfold incrIfBelow
  split
  · exact counter.count_le_count_add key other amount
  · exact Nat.le_refl _

theorem count_of_allowed (allowed : (counter.incrIfBelow key limit amount).allowed) :
    (counter.incrIfBelow key limit amount).counter.count key = counter.count key + amount := by
  rw [incrIfBelow_allowed] at allowed
  rw [incrIfBelow, if_pos allowed, count_add_self]

end Counter

end Dynastore
