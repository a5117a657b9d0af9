import Dynastore.Assets.Service

/-! Whatever a call may yet be answered with, an entry of the cache, a stale one that the call has
found or the document of a rebuild, is what the driver would return now to the reader it was read
for. The writes of the service keep this of the cache by dropping the entries of the rows that they
change; what is under way they cannot reach. -/

namespace Dynastore.Assets

open Surroundings

variable {env : Surroundings} {state : State}

def Surroundings.liveRow (env : Surroundings) (database : Database) (key : AssetKey) :
    Option Asset :=
  (env.stored database key).filter Asset.live

def CachedRead.Current (env : Surroundings) (database : Database) (key : AssetKey)
    (read : CachedRead) : Prop :=
  read.document = env.driverGet database read.reader key

/-- A write of the key has committed, and its call has yet to drop the entry. -/
def State.Stale (state : State) (key : AssetKey) : Prop :=
  ∃ id keys, state.invalidations id = some keys ∧ key ∈ keys

structure Coherent (env : Surroundings) (state : State) : Prop where
  cache : ∀ key entry, state.cache key = some entry →
    state.Stale key ∨ entry.value.Current env state.database key
  reads : state.reads.All fun read =>
    ∀ candidate, read.candidate = some candidate → candidate.Current env state.database read.key
  rebuilds : ∀ key reader document, state.rebuilds key = some ⟨reader, some document⟩ →
    CachedRead.Current env state.database key ⟨document, reader⟩

theorem CachedRead.Current.write {read : CachedRead} (current : read.Current env database key)
    (same : env.liveRow written key = env.liveRow database key) :
    read.Current env written key := by
  rw [Current, driverGet, ← liveRow, same]
  exact current

/-! ## The condition -/

/-- A call holds a stale entry of the key, or the rebuild of the key has read the database. -/
def State.Underway (state : State) (key : AssetKey) : Prop :=
  (∃ id read, state.reads id = some read ∧ read.key = key ∧ read.candidate.isSome = true) ∨
    ∃ reader document, state.rebuilds key = some ⟨reader, some document⟩

/-- The key that an operation looks up in the cache. -/
def Operation.consults (env : Surroundings) : Operation → Option AssetKey
  | .get _ call catalogId assetId collectionId =>
    if call.connected then none else some (env.keyOf catalogId assetId collectionId)
  | .query key _ => some key
  | _ => none

/-- No write changes a row that a read of is under way, a write that no invalidation follows
changes no row that is cached, and no entry is looked up that is about to be dropped. -/
structure Undisturbed (env : Surroundings) (state : State) (operation : Operation) : Prop where
  underway : ∀ key, state.Underway key →
    env.liveRow (step env state operation).database key = env.liveRow state.database key
  cached : ∀ statement, operation = .write statement → ∀ key, state.cache key ≠ none →
    env.liveRow (statement state.database) key = env.liveRow state.database key
  invalidated : ∀ key, operation.consults env = some key → state.cache key ≠ none →
    ¬ state.Stale key

/-! ## Reads -/

section Reads

variable (coherent : Coherent env state)

include coherent

theorem Coherent.current_of_lookup {read : CachedRead}
    (settled : state.cache key ≠ none → ¬ state.Stale key)
    (found : state.cache.lookup grace now key = some read) :
    read.Current env state.database key := by
  obtain ⟨entry, cached, rfl⟩ := Cache.exists_of_lookup found
  have kept : state.cache key ≠ none := by simp [cached]
  exact (coherent.cache key entry cached).resolve_left (settled kept)

theorem Coherent.getAsset (id : Nat) (call : Call)
    (settled : call.connected = false → state.cache key ≠ none → ¬ state.Stale key) :
    Coherent env (state.getAsset id call key) := by
  unfold State.getAsset
  split
  · exact coherent
  next missed =>
    have local_ : call.connected = false := by
      cases connected : call.connected with
      | false => rfl
      | true => simp [connected] at missed
    refine { coherent with reads := coherent.reads.put id fun candidate found => ?_ }
    exact coherent.current_of_lookup (settled local_) found

theorem Coherent.setRebuild (key : AssetKey) (rebuild : Option SharedRebuild)
    (current : ∀ reader document, rebuild = some ⟨reader, some document⟩ →
      CachedRead.Current env state.database key ⟨document, reader⟩) :
    Coherent env { state with rebuilds := Function.update state.rebuilds key rebuild } where
  cache := coherent.cache
  reads := coherent.reads
  rebuilds other reader document found := by
    simp only [Function.update_apply] at found
    split at found
    next same =>
      subst same
      exact current reader document found
    · exact coherent.rebuilds other reader document found

theorem Coherent.join (id : Nat) : Coherent env (state.join id) := by
  unfold State.join
  split
  next key request candidate waiting =>
    have held := coherent.reads id _ waiting
    have shared := coherent.setRebuild key (some ((state.rebuilds key).getD ⟨request, none⟩)) <| by
      intro reader document found
      cases running : state.rebuilds key with
      | none => simp [running] at found
      | some =>
        rw [running] at found
        exact coherent.rebuilds key reader document (running.trans found)
    exact { shared with reads := coherent.reads.put id held }
  · exact coherent

theorem Coherent.settle (key : AssetKey) : Coherent env (state.settle key) := by
  have ended := coherent.setRebuild key none fun _ _ found => by cases found
  refine { ended with reads := ?_ }
  intro id read found
  have kept : ((state.reads id).filter fun read => !(read.joined && read.key = key)) =
      some read := found
  exact coherent.reads id read (Option.filter_eq_some_iff.mp kept).1

theorem Coherent.query (key : AssetKey) (now : Int) : Coherent env (state.query env key now) := by
  unfold State.query
  split
  · split
    · exact coherent.settle key
    · refine coherent.setRebuild key _ fun reader document read => ?_
      cases read
      rfl
  · exact coherent

theorem Coherent.store (key : AssetKey) (now ttl : Int) :
    Coherent env (state.store key now ttl) := by
  unfold State.store
  split
  next reader document read =>
    apply Coherent.settle
    refine { coherent with cache := fun other entry found => ?_ }
    rcases Cache.store_cases found with ⟨rfl, rfl⟩ | kept
    · exact .inr (coherent.rebuilds other reader document read)
    · exact coherent.cache other entry kept
  · exact coherent

/-! ## Writes -/

theorem Coherent.write {written : Database} (invalidations : Pool (List AssetKey))
    (underway : ∀ key, state.Underway key →
      env.liveRow written key = env.liveRow state.database key)
    (cache : ∀ key entry, state.cache key = some entry →
      (∃ id keys, invalidations id = some keys ∧ key ∈ keys) ∨
        entry.value.Current env written key) :
    Coherent env { state with database := written, invalidations } where
  cache := cache
  reads id read found candidate held := by
    have current := coherent.reads id read found candidate held
    exact current.write (underway _ (.inl ⟨id, read, found, rfl, by simp [held]⟩))
  rebuilds key reader document found := by
    have current := coherent.rebuilds key reader document found
    exact current.write (underway _ (.inr ⟨reader, document, found⟩))

theorem Coherent.commit {id : Nat} {result : Except AssetError (Result × Written)}
    (framed : ∀ value written, result = .ok (value, written) → ∀ key, key ∉ written.stale →
      env.stored written.database key = env.stored state.database key)
    (underway : ∀ key, state.Underway key →
      env.liveRow (state.commit id result).database key = env.liveRow state.database key) :
    Coherent env (state.commit id result) := by
  unfold State.commit at underway ⊢
  split
  · exact coherent
  next value written =>
    split
    · exact coherent
    next free =>
      simp only [if_neg free] at underway
      refine coherent.write _ underway fun key entry cached => ?_
      by_cases dropped : key ∈ written.stale
      · exact .inl ⟨id, written.stale, if_pos rfl, dropped⟩
      · refine (coherent.cache key entry cached).imp ?_ fun current => current.write ?_
        · rintro ⟨other, keys, pending, mem⟩
          have ne : other ≠ id := by
            rintro rfl
            simp [pending] at free
          exact ⟨other, keys, (Pool.put_of_ne ne).trans pending, mem⟩
        · rw [liveRow, framed value written rfl key dropped]
          rfl

theorem Coherent.invalidate (id : Nat) : Coherent env (state.invalidate id) := by
  unfold State.invalidate
  split
  next keys pending =>
    refine { coherent with cache := fun key entry found => ?_ }
    have left : state.cache.drop (· ∈ keys) key = some entry := found
    have ⟨kept, cached⟩ := Cache.drop_eq_some left
    refine (coherent.cache key entry cached).imp_left ?_
    rintro ⟨other, later, waiting, mem⟩
    have ne : other ≠ id := by
      rintro rfl
      cases pending.symm.trans waiting
      exact kept mem
    exact ⟨other, later, (Pool.remove_of_ne ne).trans waiting, mem⟩
  · exact coherent

end Reads

/-! ## What a write leaves alone -/

theorem assetId_readBack (same : document.key.assetId = key.assetId) :
    ((env.driverGet database request key).getD document).key.assetId = key.assetId := by
  cases fetched : env.driverGet database request key with
  | none => exact same
  | some =>
    rw [Option.getD_some, key_of_stored (driverGet_eq_some.mp fetched).1]

theorem framed_createAsset
    (created : env.createAsset database call catalogId asset collectionId = .ok (value, written))
    (kept : key ∉ written.stale) : env.stored written.database key = env.stored database key := by
  unfold createAsset at created
  dsimp only at created
  split at created
  · cases created
  next indexed =>
    cases created
    simp only [List.mem_singleton] at kept
    rw [assetId_readBack] at kept
    · exact stored_indexAsset indexed kept
    · rfl

theorem framed_saveMetadata (own : current.key.assetId = assetId)
    (saved : env.saveMetadata database call ids assetId current metadata = .ok (value, written))
    (kept : key ∉ written.stale) : env.stored written.database key = env.stored database key := by
  unfold saveMetadata at saved
  dsimp only at saved
  split at saved
  · cases saved
  next indexed =>
    cases saved
    simp only [List.mem_singleton] at kept
    rw [assetId_readBack own] at kept
    refine stored_indexAsset indexed ?_
    rw [own]
    exact kept

theorem framed_finalizePendingUpload
    (finalized : env.finalizePendingUpload database call catalogId upload collectionId =
      .ok (value, written))
    (kept : key ∉ written.stale) : env.stored written.database key = env.stored database key := by
  unfold finalizePendingUpload at finalized
  split at finalized
  · cases finalized
    rfl
  · dsimp only at finalized
    split at finalized
    · cases finalized
      rfl
    · cases finalized
      simp only [List.mem_singleton] at kept
      apply stored_update
      apply Table.lookup_execute_of_not_guard
      intro _ found
      exact decide_eq_false fun eq => kept ((Table.key_of_lookup found).symm.trans eq)

theorem framed_deleteAssets
    (deleted : env.deleteAssets database call catalogId assetId collectionId hard =
      .ok (value, written))
    (kept : key ∉ written.stale) : env.stored written.database key = env.stored database key := by
  unfold deleteAssets at deleted
  dsimp only at deleted
  split at deleted
  · cases deleted
  next bulk =>
    cases deleted
    exact stored_deleteAssetsBulk bulk kept

theorem coherent_step (state : State) (operation : Operation) (coherent : Coherent env state)
    (undisturbed : Undisturbed env state operation) : Coherent env (step env state operation) := by
  have underway := undisturbed.underway
  cases operation with
  | get id call =>
    refine coherent.getAsset id call fun unconnected => ?_
    exact undisturbed.invalidated _ (if_neg (Bool.eq_false_iff.mp unconnected))
  | join id => exact coherent.join id
  | query key now => exact coherent.query key now
  | store key now ttl => exact coherent.store key now ttl
  | fail key =>
    rw [step]
    split
    · exact coherent.settle key
    · exact coherent
  | timeout id | cancel id => exact { coherent with reads := coherent.reads.remove id }
  | create => exact coherent.commit (fun _ _ created _ => framed_createAsset created) underway
  | update id call catalogId assetId metadata collectionId current own =>
    refine coherent.commit (fun _ _ updated _ => ?_) underway
    cases current with
    | none => cases updated
    | some asset => exact framed_saveMetadata (own asset rfl) updated
  | patch id call catalogId assetId metadata collectionId current own =>
    refine coherent.commit (fun _ _ patched _ => ?_) underway
    cases current with
    | none => cases patched
    | some asset =>
      cases metadata with
      | none =>
        cases patched
        exact fun _ => rfl
      | some => exact framed_saveMetadata (own asset rfl) patched
  | finalize =>
    exact coherent.commit (fun _ _ finalized _ => framed_finalizePendingUpload finalized) underway
  | delete => exact coherent.commit (fun _ _ deleted _ => framed_deleteAssets deleted) underway
  | invalidate id => exact coherent.invalidate id
  | write statement =>
    refine coherent.write _ underway fun key entry cached => ?_
    have kept : state.cache key ≠ none := by simp [cached]
    exact (coherent.cache key entry cached).imp_right fun current =>
      current.write (undisturbed.cached statement rfl key kept)
  | evict keys =>
    refine { coherent with cache := fun key entry found => ?_ }
    have left : state.cache.drop (keys · = true) key = some entry := found
    exact coherent.cache key entry (Cache.drop_eq_some left).2

end Dynastore.Assets
