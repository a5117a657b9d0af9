/-! A cache in front of a function: an entry is served while it is fresh, and is kept for a grace
period longer, to be served if a rebuild fails. -/

namespace Dynastore

structure CacheEntry (Value : Type v) where
  value : Value
  storedAt : Int
  ttl : Int

def Cache (Key : Type u) (Value : Type v) := Key → Option (CacheEntry Value)

namespace Cache

variable {Key : Type u} {Value : Type v}

def empty : Cache Key Value := fun _ => none

/-- The entry of the key, for as long as it lives and `grace` longer. -/
def lookup (cache : Cache Key Value) (grace now : Int) (key : Key) : Option Value :=
  ((cache key).filter fun entry => now - entry.storedAt ≤ entry.ttl + grace).map CacheEntry.value

def hit (cache : Cache Key Value) (now : Int) (key : Key) : Option Value :=
  cache.lookup 0 now key

def store [DecidableEq Key] (cache : Cache Key Value) (key : Key) (entry : CacheEntry Value) :
    Cache Key Value :=
  fun other => if other = key then some entry else cache other

def drop (cache : Cache Key Value) (dropped : Key → Prop) [DecidablePred dropped] :
    Cache Key Value :=
  fun key => if dropped key then none else cache key

variable {cache : Cache Key Value} {grace now : Int} {key other : Key} {entry : CacheEntry Value}

theorem exists_of_lookup {value : Value} (found : cache.lookup grace now key = some value) :
    ∃ entry, cache key = some entry ∧ entry.value = value := by
  have ⟨entry, kept, same⟩ := Option.map_eq_some_iff.mp found
  exact ⟨entry, (Option.filter_eq_some_iff.mp kept).1, same⟩

theorem store_cases [DecidableEq Key] {stored : CacheEntry Value}
    (found : cache.store key stored other = some entry) :
    other = key ∧ entry = stored ∨ cache other = some entry := by
  unfold store at found
  split at found
  next same => exact .inl ⟨same, (Option.some.inj found).symm⟩
  · exact .inr found

theorem drop_eq_some {dropped : Key → Prop} [DecidablePred dropped]
    (found : cache.drop dropped key = some entry) : ¬ dropped key ∧ cache key = some entry := by
  unfold drop at found
  split at found
  · cases found
  next kept => exact ⟨kept, found⟩

end Cache

end Dynastore
