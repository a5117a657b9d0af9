import Dynastore.Caching.Budget

/-! A local backend drops an expired entry when it is asked for it, and stores nothing that is over
its admission cap. A tiered backend asks L1 and L2, where a clear leaves a tombstone, and writes
what L2 answers to L1. L2 is what its `get` and its `exists` answer. -/

namespace Dynastore.Caching

variable {Payload : Type u}

/-- `_CacheEntry`. -/
structure LocalEntry (Payload : Type u) where
  value : Payload
  expiresAt : Option Int

def LocalEntry.isExpired (now : Int) (entry : LocalEntry Payload) : Bool :=
  entry.expiresAt.any (· < now)

def localGet (now : Int) :
    Option (LocalEntry Payload) → Option Payload × Option (LocalEntry Payload)
  | none => (none, none)
  | some entry => if entry.isExpired now then (none, none) else (some entry.value, some entry)

def localExists (now : Int) : Option (LocalEntry Payload) → Bool
  | none => false
  | some entry => !entry.isExpired now

/-- What a write to a local backend meets: the byte budget, the size of the value, and right after
the write the registered backends, its own one first, with the total that they have notified. -/
structure Admission where
  budget : Option Nat
  size : Nat
  key : String
  approxTotal : Int
  backends : List (LocalBackend Unit)

namespace Admission

variable (admission : Admission)

def capped (exist : Option Bool) : Bool :=
  LocalBackend.isCapped admission.budget admission.size exist

/-- The enforcement of the budget takes the new entry out of its backend. -/
def evicted : Bool :=
  (enforce admission.budget admission.approxTotal admission.backends).head?.any fun own =>
    (own.find admission.key).isNone

def keeps (exist : Option Bool) : Bool := !admission.capped exist && !admission.evicted

end Admission

/-- `_local_set_nolock` and the enforcement after it: whether the write is reported as done, and
the entry. -/
def localSet (admission : Admission) (now : Int) (ttl : Option Int) (exist : Option Bool)
    (value : Payload) (found : Option (LocalEntry Payload)) : Bool × Option (LocalEntry Payload) :=
  if permits exist found.isSome then
    (true, if admission.keeps exist then some ⟨value, ttl.map (now + ·)⟩ else none)
  else (false, found)

section Tiered

variable (admission : Admission) (now cap : Int) (own : Option (LocalEntry (Stored Payload)))
  (shared : Option (Stored Payload))

def tieredGet : Option Payload × Option (LocalEntry (Stored Payload)) :=
  let read := tieredRead (localGet now own).1 shared
  (read.returned,
    match read.refresh with
    | some stored => (localSet admission now (some cap) none stored (localGet now own).2).2
    | none => (localGet now own).2)

def tieredExists : Bool := localExists now own || shared.isSome

/-- `set`, up to the background write to L2. -/
def tieredSet (ttl : Option Int) (exist : Option Bool) (version : Nat) (value : Payload) :
    Bool × Option (LocalEntry (Stored Payload)) :=
  localSet admission now (some (ttl.elim cap (min · cap))) exist (.envelope version value) own

/-! ## Presence -/

variable (later : Admission) (ttl : Option Int)

/-- `exists` answers as `get` does, and so does the refusal of a `set` with `exist=False` that
follows the `get`. -/
def LocalConsistent (found : Option (LocalEntry Payload)) (value : Payload) : Prop :=
  localExists now found = (localGet now found).1.isSome ∧
    (localSet later now ttl (some false) value (localGet now found).2).1 =
      !(localGet now found).1.isSome

def TieredConsistent (version : Nat) (value : Payload) : Prop :=
  tieredExists now own shared = (tieredGet admission now cap own shared).1.isSome ∧
    (tieredSet later now cap (tieredGet admission now cap own shared).2 ttl (some false) version
      value).1 = !(tieredGet admission now cap own shared).1.isSome

def live : Option (Stored Payload) := (own.filter (!·.isExpired now)).map LocalEntry.value

/-- The newest of the two entries is no tombstone, and L1 takes it if it is that of L2. -/
def NewestServed : Prop :=
  (∀ stored, shared = some stored → (∀ mine, live now own = some mine →
    mine.version ≤ stored.version) → stored.payload.isSome ∧ admission.keeps none) ∧
  ∀ mine, live now own = some mine → (∀ stored, shared = some stored →
    stored.version < mine.version) → mine.payload.isSome

theorem localGet_eq (found : Option (LocalEntry Payload)) : localGet now found =
    ((found.filter (!·.isExpired now)).map LocalEntry.value,
      found.filter (!·.isExpired now)) := by
  cases found with
  | none => rfl
  | some entry => cases expired : entry.isExpired now <;> simp [localGet, Option.filter, expired]

theorem localExists_eq (found : Option (LocalEntry Payload)) :
    localExists now found = (found.filter (!·.isExpired now)).isSome := by
  cases found with
  | none => rfl
  | some entry => cases expired : entry.isExpired now <;> simp [localExists, Option.filter, expired]

theorem localSet_refused (ttl : Option Int) :
    (localSet admission now ttl (some false) value found).1 = !found.isSome := by
  cases found <;> rfl

/-- What a `set` reported as stored is read back just if L1 kept it and L2 holds nothing as new, or
L2 holds the same value. -/
theorem read_back_iff {next : Int} {exist : Option Bool} {version : Nat} {value : Payload}
    (stored : (tieredSet admission now cap own ttl exist version value).1)
    (unexpired : next ≤ now + ttl.elim cap (min · cap)) :
    (tieredGet later next cap (tieredSet admission now cap own ttl exist version value).2
      shared).1 = some value ↔
      (shared = none → admission.keeps exist) ∧ ∀ other, shared = some other →
        other.payload = some value ∨ admission.keeps exist ∧ other.version < version := by
  unfold tieredSet localSet at stored ⊢
  split at stored
  next permitted =>
    rw [if_pos permitted, tieredGet, localGet_eq]
    cases kept : admission.keeps exist with
    | false =>
      cases shared with
      | none => simp [tieredRead]
      | some shared => cases held : shared.payload <;> simp [tieredRead, readShared, held]
    | true =>
      have live : LocalEntry.isExpired next
          ⟨Stored.envelope version value, some (now + ttl.elim cap (min · cap))⟩ = false := by
        simp [LocalEntry.isExpired, unexpired]
      have stamped : (Stored.envelope version value).version = version := rfl
      have carried : (Stored.envelope version value).payload = some value := rfl
      cases shared with
      | none => simp [tieredRead, Option.filter, live, carried]
      | some shared =>
        by_cases newer : version ≤ shared.version
        · cases held : shared.payload <;> simp [tieredRead, readShared, Option.filter, live, held,
            stamped, carried, newer, Nat.not_lt.mpr newer]
        · simp [tieredRead, Option.filter, live, stamped, carried, newer, Nat.not_le.mp newer]
  · cases stored

end Tiered

/-- A write of so many bytes into an empty backend, with a budget of 100. -/
def alone (size : Nat) : Admission :=
  ⟨some 100, size, "k", size, [⟨1, [⟨"k", (), none, .normal, size, 0⟩], size, 1⟩]⟩

/-- A small value is read back before it has reached L2. -/
theorem small_value_read_back : (tieredGet (alone 10) 1 30
      (tieredSet (alone 10) 0 30 none (some 60) none 7 "value").2 none).1 =
    some "value" :=
  (read_back_iff _ _ _ _ _ _ _ rfl (by decide)).mpr ⟨fun _ => rfl, by simp⟩

/-- A value over the admission cap is reported as stored, and is in neither tier. -/
theorem large_value_not_read_back :
    (tieredSet (alone 30) 0 30 none (some 60) none 7 "value").1 ∧
    (tieredGet (alone 30) 1 30
      (tieredSet (alone 30) 0 30 none (some 60) none 7 "value").2 none).1 ≠
        some "value" := by
  decide

end Dynastore.Caching
