import Dynastore.Caching.Tiered
import Dynastore.Foundation.Execution
import Mathlib.Data.PNat.Basic

/-! A local backend keeps the number of its bytes and of its entries beside the entries. It is
changed by its own calls, and by the enforcement of the byte budget, which may follow any of them.
-/

namespace Dynastore.Caching

open Execution

/-- `CacheItemPriority`. -/
inductive CacheItemPriority where
  | low
  | normal
  | high
  | neverRemove
deriving DecidableEq

/-- `_CacheEntry`, with its key. -/
structure CacheEntry (Value : Type) where
  key : String
  value : Value
  expiresAt : Option Int
  priority : CacheItemPriority
  sizeBytes : Nat
  hits : Nat

variable {Value : Type}

namespace CacheEntry

def isExpired (now : Int) (entry : CacheEntry Value) : Bool := entry.expiresAt.any (· < now)

/-- The lower of the scores `(hits + 1) / max(1, size_bytes)`. -/
def scoresBelow (entry best : CacheEntry Value) : Bool :=
  (entry.hits + 1) * max 1 best.sizeBytes < (best.hits + 1) * max 1 entry.sizeBytes

def isEvictable (entry : CacheEntry Value) : Bool := entry.priority ≠ .neverRemove

end CacheEntry

/-- The entries from the least recently used one on; `size` is that of `_stats`. -/
structure LocalBackend (Value : Type) where
  maxSize : ℕ+
  store : List (CacheEntry Value)
  bytes : Int
  size : Nat

/-- What `clear` is asked for; `close` clears all. -/
inductive ClearRequest where
  | key (key : String)
  | ns (ns : String)
  | tags
  | all

/-- The budget and the size of the value are those at the write. -/
inductive LocalOp (Value : Type) where
  | get (now : Int) (key : String)
  | set (now : Int) (budget : Option Nat) (deepSize : Nat) (key : String) (value : Value)
      (ttl : Option Int) (exist : Option Bool)
  | clear (request : ClearRequest)
  | exists (now : Int) (key : String)
  | evictOneForBudget

def l1EvictionSample : Nat := 8

namespace LocalBackend

def initial (maxSize : ℕ+) : LocalBackend Value := ⟨maxSize, [], 0, 0⟩

variable (backend : LocalBackend Value)

def find (key : String) : Option (CacheEntry Value) := backend.store.find? (·.key = key)

/-- `_store.pop`, and the charge for what it removes. -/
def pop (key : String) : LocalBackend Value :=
  { backend with
    store := backend.store.eraseP (·.key = key)
    bytes := backend.bytes - ((backend.find key).elim 0 CacheEntry.sizeBytes : Nat) }

def counted : LocalBackend Value := { backend with size := backend.store.length }

def drop (key : String) : LocalBackend Value :=
  if (backend.find key).isSome then (backend.pop key).counted else backend

/-- What is evicted under memory pressure. -/
def victim : Option (CacheEntry Value) :=
  ((backend.store.filter CacheEntry.isEvictable).take l1EvictionSample).foldl
    (fun best entry => some (best.elim entry fun best =>
      if entry.scoresBelow best then entry else best)) none

def evictOneForBudget : LocalBackend Value :=
  match backend.victim with
  | none => backend
  | some entry => (backend.pop entry.key).counted

/-- What is evicted for the number of the entries. -/
def oldest (first : CacheEntry Value) : CacheEntry Value :=
  (backend.store.find? CacheEntry.isEvictable).getD first

theorem oldest_mem (stored : backend.store = first :: rest) :
    backend.oldest first ∈ backend.store := by
  unfold oldest
  cases found : backend.store.find? CacheEntry.isEvictable with
  | none => exact stored ▸ .head _
  | some entry => exact List.mem_of_find?_eq_some found

theorem length_pop (mem : entry ∈ backend.store) :
    (backend.pop entry.key).store.length + 1 = backend.store.length := by
  have present : backend.store.any (·.key = entry.key) :=
    List.any_eq_true.mpr ⟨entry, mem, by simp⟩
  have positive := List.length_pos_of_mem mem
  rw [pop, List.length_eraseP, if_pos present]
  omega

def evictIfNeeded (backend : LocalBackend Value) : LocalBackend Value :=
  match _stored : backend.store with
  | [] => backend
  | first :: _ =>
    if backend.maxSize ≤ backend.store.length then
      (backend.pop (backend.oldest first).key).evictIfNeeded
    else backend
termination_by backend.store.length
decreasing_by
  exact Nat.lt_of_succ_le (Nat.le_of_eq (backend.length_pop (backend.oldest_mem _stored)))

/-- The size is over a quarter of the budget; a conditional write is not measured. -/
def isCapped (budget : Option Nat) (size : Nat) (exist : Option Bool) : Bool :=
  exist.isNone && budget.any (· < 4 * size)

/-- An entry that was there hands its hits on, and the new one goes to the end. -/
def put (entry : CacheEntry Value) : LocalBackend Value :=
  match backend.find entry.key with
  | some old => { backend with
    store := backend.store.eraseP (·.key = entry.key) ++ [{ entry with hits := old.hits }]
    bytes := backend.bytes + (entry.sizeBytes - old.sizeBytes) }
  | none => { backend.evictIfNeeded with
    store := backend.evictIfNeeded.store ++ [entry]
    bytes := backend.evictIfNeeded.bytes + entry.sizeBytes }

/-- Nothing is charged without a budget. -/
def chargedSize (budget : Option Nat) (deepSize : Nat) : Nat :=
  if budget.isSome then deepSize else 0

def set (now : Int) (budget : Option Nat) (deepSize : Nat) (key : String) (value : Value)
    (ttl : Option Int) (exist : Option Bool) : LocalBackend Value :=
  if !permits exist (backend.find key).isSome then backend
  else if isCapped budget (chargedSize budget deepSize) exist then backend.drop key
  else (backend.put
    ⟨key, value, ttl.map (now + ·), .normal, chargedSize budget deepSize, 0⟩).counted

def get (now : Int) (key : String) : LocalBackend Value :=
  match backend.find key with
  | none => backend
  | some entry =>
    if entry.isExpired now then backend.drop key
    else { backend with
      store := backend.store.eraseP (·.key = key) ++ [{ entry with hits := entry.hits + 1 }] }

def «exists» (now : Int) (key : String) : LocalBackend Value :=
  if (backend.find key).any (·.isExpired now) then backend.drop key else backend

def clearAll : LocalBackend Value :=
  { backend with store := [], bytes := backend.bytes - backend.bytes, size := 0 }

def clear : ClearRequest → LocalBackend Value
  | .key key => backend.drop key
  | .ns ns =>
    ((backend.store.map CacheEntry.key).filter ((ns ++ ":").isPrefixOf ·)).foldl drop backend
  | .tags => backend
  | .all => backend.clearAll

def step : LocalBackend Value → LocalOp Value → LocalBackend Value
  | backend, .get now key => backend.get now key
  | backend, .set now budget deepSize key value ttl exist =>
    backend.set now budget deepSize key value ttl exist
  | backend, .clear request => backend.clear request
  | backend, .exists now key => backend.exists now key
  | backend, .evictOneForBudget => backend.evictOneForBudget

/-- The byte total is that of the entries. -/
def Balanced : Prop := backend.bytes = ((backend.store.map CacheEntry.sizeBytes).sum : Nat)

structure Accounted : Prop where
  bytes : backend.Balanced
  bounded : backend.store.length ≤ backend.maxSize
  size : backend.size = backend.store.length

theorem sum_eraseP (entries : List (CacheEntry Value)) (key : String) :
    ((entries.eraseP (·.key = key)).map CacheEntry.sizeBytes).sum +
        (entries.find? (·.key = key)).elim 0 CacheEntry.sizeBytes =
      (entries.map CacheEntry.sizeBytes).sum := by
  induction entries with
  | nil => rfl
  | cons entry entries ih =>
    by_cases own : entry.key = key
    · simp [own, Nat.add_comm]
    · simp [own, ← ih, Nat.add_assoc]

variable {backend}

/-- An entry that takes the place of another changes the sum by the difference of the two. -/
theorem refile (found : backend.find key = some old) (entry : CacheEntry Value) :
    (backend.store.eraseP (·.key = key) ++ [entry]).length = backend.store.length ∧
      (((backend.store.eraseP (·.key = key) ++ [entry]).map CacheEntry.sizeBytes).sum : Int) =
        (backend.store.map CacheEntry.sizeBytes).sum + (entry.sizeBytes - old.sizeBytes) := by
  have sum := sum_eraseP backend.store key
  have mem := List.mem_of_find?_eq_some found
  have own : old.key = key := by simpa using List.find?_some found
  have count := backend.length_pop mem
  unfold find at found
  rw [found] at sum
  rw [own] at count
  simp only [pop, Option.elim, List.length_append, List.map_append, List.sum_append, List.map_cons,
    List.map_nil, List.sum_cons, List.sum_nil] at *
  exact ⟨count, by omega⟩

theorem Balanced.pop (balanced : backend.Balanced) (key : String) : (backend.pop key).Balanced := by
  have sum := sum_eraseP backend.store key
  unfold Balanced at balanced ⊢
  simp only [LocalBackend.pop, find, balanced]
  omega

theorem Balanced.evictIfNeeded (balanced : backend.Balanced) : backend.evictIfNeeded.Balanced := by
  fun_induction LocalBackend.evictIfNeeded with
  | case1 => exact balanced
  | case2 backend first _ _ _ ih => exact ih (balanced.pop _)
  | case3 => exact balanced

theorem length_evictIfNeeded_lt (backend : LocalBackend Value) :
    backend.evictIfNeeded.store.length < backend.evictIfNeeded.maxSize := by
  fun_induction LocalBackend.evictIfNeeded with
  | case1 backend stored => exact stored ▸ backend.maxSize.2
  | case2 _ _ _ _ _ ih => exact ih
  | case3 _ _ _ _ room => exact Nat.lt_of_not_le room

variable (accounted : backend.Accounted)

include accounted

theorem Accounted.pop (key : String) : (backend.pop key).counted.Accounted where
  bytes := accounted.bytes.pop key
  bounded := Nat.le_trans List.eraseP_sublist.length_le accounted.bounded
  size := rfl

theorem Accounted.drop (key : String) : (backend.drop key).Accounted := by
  unfold LocalBackend.drop
  split
  · exact accounted.pop key
  · exact accounted

theorem Accounted.evictOneForBudget : backend.evictOneForBudget.Accounted := by
  unfold LocalBackend.evictOneForBudget
  split
  · exact accounted
  · exact accounted.pop _

theorem Accounted.clear (request : ClearRequest) : (backend.clear request).Accounted := by
  cases request with
  | key key => exact accounted.drop key
  | ns ns =>
    rw [LocalBackend.clear]
    generalize (backend.store.map CacheEntry.key).filter _ = keys
    induction keys generalizing backend with
    | nil => exact accounted
    | cons key keys ih => exact ih (accounted.drop key)
  | tags => exact accounted
  | all => exact ⟨Int.sub_self _, Nat.zero_le _, rfl⟩

theorem Accounted.get (now : Int) (key : String) : (backend.get now key).Accounted := by
  unfold LocalBackend.get
  split
  · exact accounted
  next entry found =>
    split
    · exact accounted.drop key
    · obtain ⟨count, sum⟩ := refile found { entry with hits := entry.hits + 1 }
      refine ⟨?_, Nat.le_trans (Nat.le_of_eq count) accounted.bounded,
        accounted.size.trans count.symm⟩
      rw [Balanced, sum, Int.sub_self, Int.add_zero]
      exact accounted.bytes

theorem Accounted.put (entry : CacheEntry Value) : (backend.put entry).counted.Accounted := by
  have balanced := accounted.bytes.evictIfNeeded
  have room := backend.length_evictIfNeeded_lt
  unfold LocalBackend.put
  split
  next old found =>
    obtain ⟨count, sum⟩ := refile found { entry with hits := old.hits }
    refine ⟨?_, Nat.le_trans (Nat.le_of_eq count) accounted.bounded, rfl⟩
    exact (congrArg (· + _) accounted.bytes).trans sum.symm
  · refine ⟨?_, ?_, rfl⟩
    · rw [Balanced] at *
      simp [counted, balanced]
    · simpa [counted] using Nat.succ_le_of_lt room

theorem Accounted.step (op : LocalOp Value) : (backend.step op).Accounted := by
  cases op with
  | get now key => exact accounted.get now key
  | set now budget deepSize key value ttl exist =>
    change (backend.set ..).Accounted
    unfold LocalBackend.set
    split
    · exact accounted
    split
    · exact accounted.drop key
    · exact accounted.put _
  | clear request => exact accounted.clear request
  | «exists» now key =>
    change (backend.exists now key).Accounted
    unfold LocalBackend.exists
    split
    · exact accounted.drop key
    · exact accounted
  | evictOneForBudget => exact accounted.evictOneForBudget

omit accounted in
/-- The counters of a local backend agree with its entries after every run, and the entries are
never more than it may hold. -/
theorem local_backend_accounted (maxSize : ℕ+) (ops : List (LocalOp Value)) :
    (run step (initial maxSize) ops).Accounted :=
  invariant_run_of_step (fun _ op accounted => accounted.step op) ⟨rfl, Nat.zero_le _, rfl⟩ ops

end LocalBackend

end Dynastore.Caching
