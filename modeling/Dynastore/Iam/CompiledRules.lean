import Dynastore.Foundation.Dict
import Dynastore.Foundation.Execution

/-! `get_or_compute` reads under the lock, compiles without it and stores under it again, so reads,
stores and changes of the size follow one another in any order. -/

namespace Dynastore.Iam

open Execution

variable {Key Value : Type}

/-- `_Entry`. -/
structure RuleEntry (Value : Type) where
  value : Value
  fetchedAt : Int
  ruleVersion : Nat

/-- The entries from the key that was inserted first on. -/
structure CompiledRuleCache (Key Value : Type) where
  maxsize : Nat
  store : List (Key × RuleEntry Value)
  positive : 0 < maxsize

inductive RuleCacheOp (Key Value : Type) where
  | configure (maxsize : Int)
  | get (key : Key) (ttlSeconds : Int) (ruleVersion : Nat) (now : Int)
  | put (key : Key) (value : Value) (ruleVersion : Nat) (now : Int)
  | clear

namespace CompiledRuleCache

/-- The cache with the size that `configure` and the constructor make of a number. -/
def sized (maxsize : Int) (store : List (Key × RuleEntry Value)) : CompiledRuleCache Key Value where
  maxsize := (max 1 maxsize).toNat
  store := store
  positive := by omega

variable [DecidableEq Key]

/-- At most one entry goes, the first one, and not the one that was stored. -/
def evict (maxsize : Nat) (key : Key) (stored : List (Key × RuleEntry Value)) :
    List (Key × RuleEntry Value) :=
  if maxsize < stored.length ∧ stored.head?.map Prod.fst ≠ some key then stored.tail else stored

variable (cache : CompiledRuleCache Key Value)

def get (key : Key) (ttlSeconds : Int) (ruleVersion : Nat) (now : Int) : Option Value :=
  ((cache.store.lookup key).filter fun entry =>
    entry.ruleVersion = ruleVersion ∧ now - entry.fetchedAt < ttlSeconds).map RuleEntry.value

def put (key : Key) (entry : RuleEntry Value) : CompiledRuleCache Key Value :=
  { cache with store := evict cache.maxsize key (Dict.assign cache.store key entry) }

def step : CompiledRuleCache Key Value → RuleCacheOp Key Value → CompiledRuleCache Key Value
  | cache, .configure maxsize => sized maxsize cache.store
  | cache, .get .. => cache
  | cache, .put key value ruleVersion now => cache.put key ⟨value, now, ruleVersion⟩
  | cache, .clear => { cache with store := [] }

/-- The size is not set below the number of the entries. -/
def KeepsRoom : CompiledRuleCache Key Value → RuleCacheOp Key Value → Prop
  | cache, .configure maxsize => cache.store.length ≤ (max 1 maxsize).toNat
  | _, _ => True

theorem length_evict_le_iff (stored : List (Key × RuleEntry Value)) :
    (evict bound key stored).length ≤ bound ↔ stored.length ≤ bound ∨
      stored.length = bound + 1 ∧ stored.head?.map Prod.fst ≠ some key := by
  unfold evict
  split
  next full =>
    rw [List.length_tail]
    refine ⟨fun within => .inr ⟨by omega, full.2⟩, fun bounded => ?_⟩
    omega
  next kept =>
    refine ⟨.inl, fun bounded => bounded.resolve_right fun beyond => ?_⟩
    exact kept ⟨by omega, beyond.2⟩

theorem length_put_le (within : cache.store.length ≤ cache.maxsize) (key : Key)
    (entry : RuleEntry Value) : (cache.put key entry).store.length ≤ cache.maxsize := by
  refine (length_evict_le_iff _).mpr ?_
  by_cases known : key ∈ cache.store.map Prod.fst
  · have names : (Dict.assign cache.store key entry).map Prod.fst = cache.store.map Prod.fst := by
      rw [Dict.map_fst_assign, Dict.setDefault, if_pos known]
    have count := congrArg List.length names
    rw [List.length_map, List.length_map] at count
    exact .inl (count ▸ within)
  · rw [Dict.assign_of_not_mem known, List.length_append]
    rcases Nat.lt_or_eq_of_le within with less | full
    · exact .inl less
    · refine .inr ⟨congrArg (· + 1) full, ?_⟩
      -- a full store is not empty, and its first key is not the new one
      cases entries : cache.store with
      | nil =>
        rw [entries] at full
        exact absurd full (Nat.ne_of_lt cache.positive)
      | cons =>
        rw [entries] at known
        exact fun same => known (Option.some.inj same ▸ .head _)

theorem mem_of_mem_evict {key : Key} (mem : found ∈ evict bound key stored) : found ∈ stored := by
  unfold evict at mem
  split at mem
  · exact List.mem_of_mem_tail mem
  · exact mem

/-- Every entry was put under its key. -/
theorem exists_put_of_mem (ops : List (RuleCacheOp Key Value))
    (mem : (key, entry) ∈ (run step (sized size []) ops).store) :
    .put key entry.value entry.ruleVersion entry.fetchedAt ∈ ops := by
  induction ops using List.reverseRecOn with
  | nil => cases mem
  | append_singleton _ op ih =>
    rw [run_append] at mem
    rw [List.mem_append]
    cases op with
    | configure => exact .inl (ih mem)
    | get => exact .inl (ih mem)
    | clear => cases mem
    | put =>
      rcases Dict.mem_of_mem_assign (mem_of_mem_evict mem) with old | new
      · exact .inl (ih old)
      · cases new
        exact .inr (.head _)

/-- The cache keeps to its size while the size is not set below the number of its entries, and
what a read returns was put under the key and the version, within the time to live. A put ends
within the size just if it had at most one entry to remove, and not the one that it stored. -/
theorem rule_cache_bounded (maxsize : Int) (ops : List (RuleCacheOp Key Value)) :
    (Guarded step KeepsRoom (sized maxsize []) ops →
      (run step (sized maxsize []) ops).store.length ≤ (run step (sized maxsize []) ops).maxsize) ∧
    (∀ key ttlSeconds ruleVersion now value,
      (run step (sized maxsize []) ops).get key ttlSeconds ruleVersion now = some value →
        ∃ fetchedAt, .put key value ruleVersion fetchedAt ∈ ops ∧ now - fetchedAt < ttlSeconds) ∧
    ∀ (cache : CompiledRuleCache Key Value) key entry,
      (cache.put key entry).store.length ≤ cache.maxsize ↔
        (Dict.assign cache.store key entry).length ≤ cache.maxsize ∨
          (Dict.assign cache.store key entry).length = cache.maxsize + 1 ∧
            (Dict.assign cache.store key entry).head?.map Prod.fst ≠ some key := by
  refine ⟨fun guarded => ?_, ?_, fun cache key entry => length_evict_le_iff _⟩
  · have kept : ∀ (cache : CompiledRuleCache Key Value) op, cache.store.length ≤ cache.maxsize →
        KeepsRoom cache op → (step cache op).store.length ≤ (step cache op).maxsize := by
      intro cache op within room
      cases op with
      | configure => exact room
      | get => exact within
      | clear => exact Nat.zero_le _
      | put => exact cache.length_put_le within _ _
    exact invariant_run kept (Nat.zero_le _) guarded
  · intro key ttlSeconds ruleVersion now value found
    obtain ⟨entry, kept, rfl⟩ := Option.map_eq_some_iff.mp found
    obtain ⟨present, fresh⟩ := Option.filter_eq_some_iff.mp kept
    obtain ⟨rfl, young⟩ := of_decide_eq_true fresh
    obtain ⟨before, after, split, _⟩ := List.lookup_eq_some_iff.mp present
    have mem : (key, entry) ∈ (run step (sized maxsize []) ops).store :=
      split ▸ List.mem_append_right _ (.head _)
    exact ⟨entry.fetchedAt, exists_put_of_mem ops mem, young⟩

/-- One entry goes for the one that is stored, though the size is now one. -/
theorem shrunk_cache_overfull :
    (run step (sized 3 []) [.put "a" 0 0 0, .put "b" 0 0 0, .put "c" 0 0 0, .configure 1,
      .put "d" 0 0 0]).store.length = 3 := by
  decide

end CompiledRuleCache

end Dynastore.Iam
