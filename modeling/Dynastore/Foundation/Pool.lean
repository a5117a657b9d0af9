/-! The tasks of a concurrent program by their ids. -/

namespace Dynastore

def Pool (Task : Type u) := Nat → Option Task

namespace Pool

variable {Task : Type u}

def empty : Pool Task := fun _ => none

def put (pool : Pool Task) (id : Nat) (task : Task) : Pool Task :=
  fun other => if other = id then some task else pool other

def remove (pool : Pool Task) (id : Nat) : Pool Task :=
  fun other => if other = id then none else pool other

def map (pool : Pool Task) (change : Task → Task) : Pool Task :=
  fun id => (pool id).map change

def All (pool : Pool Task) (property : Task → Prop) : Prop :=
  ∀ id task, pool id = some task → property task

variable {pool : Pool Task} {property : Task → Prop} {id : Nat} {task : Task}

variable {other : Nat} {found : Task}

theorem put_cases (present : pool.put id task other = some found) :
    other = id ∧ found = task ∨ other ≠ id ∧ pool other = some found := by
  unfold put at present
  split at present
  next same => exact .inl ⟨same, (Option.some.inj present).symm⟩
  next ne => exact .inr ⟨ne, present⟩

theorem put_eq_some (present : pool.put id task other = some found) :
    task = found ∨ pool other = some found :=
  (put_cases present).imp (·.2.symm) (·.2)

theorem put_of_ne (ne : other ≠ id) : pool.put id task other = pool other := if_neg ne

theorem remove_of_ne (ne : other ≠ id) : pool.remove id other = pool other := if_neg ne

theorem of_remove_eq_some
    (present : pool.remove id other = some found) : pool other = some found := by
  unfold remove at present
  split at present
  · cases present
  · exact present

theorem all_empty : (empty : Pool Task).All property := by
  intro _ _ found
  cases found

theorem All.put (all : pool.All property) (id : Nat) (holds : property task) :
    (pool.put id task).All property := by
  intro other found present
  rcases put_eq_some present with same | kept
  · exact same ▸ holds
  · exact all other found kept

theorem All.remove (all : pool.All property) (id : Nat) : (pool.remove id).All property := by
  intro other found present
  exact all other found (of_remove_eq_some present)

theorem All.map {other : Task → Prop} (all : pool.All property)
    (changes : ∀ task, property task → other (change task)) : (pool.map change).All other := by
  intro id _ found
  have ⟨task, present, eq⟩ := Option.map_eq_some_iff.mp found
  subst eq
  exact changes task (all id task present)

theorem All.imp {other : Task → Prop} (all : pool.All property)
    (implies : ∀ id task, pool id = some task → property task → other task) : pool.All other :=
  fun id task found => implies id task found (all id task found)

end Pool

end Dynastore
