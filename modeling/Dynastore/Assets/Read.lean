import Dynastore.Assets.Coherence

/-! Whether the reads of a run respect the visibility of their callers. The cache is looked up, and
a rebuild is joined, without the caller, so that a read is answered as the first reader was. -/

namespace Dynastore.Assets

open Execution (Guarded guarded_congr_of_invariant run)

section

variable (env : Surroundings)

/-- What a call is given is the asset if it is stored, not deleted and visible to the caller; and
it is what the call would be given if nobody had read before. -/
def RespectsVisibility (state : State) (operation : Operation) : Prop :=
  ∀ key request read, state.Gives env key request read operation →
    (∀ asset, read.document = some asset ↔ env.stored state.database key = some asset ∧
      asset.status ≠ .deleted ∧ request.sees key = true) ∧
    ∀ catalogId assetId collectionId now ttl, key = env.keyOf catalogId assetId collectionId →
      (run (step env) (.unread state.database)
        [.get 0 ⟨request, false, now⟩ catalogId assetId collectionId, .join 0,
          .query key now]).Gives env key request ⟨read.document, request⟩ (.store key now ttl)

def SharedView (state : State) (operation : Operation) : Prop :=
  ∀ key request read, state.Gives env key request read operation →
    ∀ asset, env.stored state.database key = some asset → asset.status ≠ .deleted →
      read.reader.sees key = request.sees key

end

variable {env : Surroundings} {state : State} {operation : Operation} {read : CachedRead}

theorem gives_unread (found : key = env.keyOf catalogId assetId collectionId) :
    (run (step env) (.unread database)
      [.get 0 ⟨request, false, now⟩ catalogId assetId collectionId, .join 0,
        .query key now]).Gives env key request ⟨env.driverGet database request key, request⟩
      (.store key now ttl) := by
  subst found
  refine ⟨rfl, ?_, none, 0, ?_⟩
  · simp [run, step, State.query, State.join, State.getAsset, State.unread, Cache.hit, Cache.lookup,
      Cache.empty, Pool.put, Pool.empty]
  · simp [run, step, State.query, State.join, State.getAsset, State.unread, Cache.hit, Cache.lookup,
      Cache.empty, Pool.put, Pool.empty]

theorem Coherent.current_of_gives (coherent : Coherent env state)
    (undisturbed : Undisturbed env state operation)
    (given : state.Gives env key request read operation) :
    read.Current env state.database key := by
  cases operation with
  | get id call catalogId assetId collectionId =>
    obtain ⟨rfl, rfl, answered⟩ := given
    split at answered
    · rw [answered]
      rfl
    next unconnected =>
      exact coherent.current_of_lookup (undisturbed.invalidated _ (if_neg unconnected)) answered
  | query =>
    obtain ⟨rfl, _, hit, _⟩ := given
    exact coherent.current_of_lookup (undisturbed.invalidated _ rfl) hit
  | store =>
    obtain ⟨rfl, rebuilt, _⟩ := given
    exact coherent.rebuilds key read.reader read.document rebuilt
  | fail =>
    obtain ⟨rfl, _, id, waiting⟩ := given
    exact coherent.reads id _ waiting read rfl
  | timeout id => exact coherent.reads id _ given read rfl
  | _ => exact given.elim

theorem respectsVisibility_iff_sharedView (coherent : Coherent env state)
    (undisturbed : Undisturbed env state operation) :
    RespectsVisibility env state operation ↔ SharedView env state operation := by
  have seen : ∀ key request read, state.Gives env key request read operation → ∀ asset,
      read.document = some asset ↔ env.stored state.database key = some asset ∧
        asset.status ≠ .deleted ∧ read.reader.sees key := by
    intro key request read given asset
    rw [coherent.current_of_gives undisturbed given]
    exact Surroundings.driverGet_eq_some
  constructor
  · intro respects key request read given asset found live
    have answered := (respects key request read given).1 asset
    rw [seen key request read given] at answered
    simp only [found, live, true_and, ne_eq, not_false_eq_true] at answered
    exact Bool.eq_iff_iff.mpr answered
  · intro shared key request read given
    have answered : ∀ asset, read.document = some asset ↔
        env.stored state.database key = some asset ∧ asset.status ≠ .deleted ∧
          request.sees key := by
      intro asset
      rw [seen key request read given]
      refine and_congr_right fun found => and_congr_right fun live => ?_
      rw [shared key request read given asset found live]
    refine ⟨answered, fun catalogId assetId collectionId now ttl found => ?_⟩
    have alone : read.document = env.driverGet state.database request key := by
      apply Option.ext
      intro asset
      rw [answered asset, Surroundings.driverGet_eq_some]
    rw [alone]
    exact gives_unread found

theorem coherent_unread (database : Database) : Coherent env (.unread database) where
  cache _ _ found := by cases found
  reads := Pool.all_empty
  rebuilds _ _ _ found := by cases found

def internalIds : Surroundings where
  py := Python.literal
  resolveCatalogId _ := none
  resolveCollectionId _ _ := none
  resolvePhysicalSchema catalogId := some catalogId

def survey : Asset where
  key := ⟨"land", some "parcels", "survey"⟩
  assetType := .raster
  kind := .physical
  status := .active
  filename := some "survey.tif"
  href := none
  uri := none
  contentHash := none
  sizeBytes := none
  createdAt := 0
  updatedAt := none
  metadata := []
  ownedBy := none

def surveyed : Database := fun _ => ⟨⟨[survey], List.nodup_singleton _⟩, []⟩

def granted (ids : List String) : Request where
  visibility := some ⟨["user"], none⟩
  assetListingFilter := some fun _ _ _ => some { allow := [⟨[.field ⟨"id", ids⟩]⟩] }

def surveyKey : AssetKey := ⟨"land", some "parcels", "survey"⟩

def readSurvey (id : Nat) (request : Request) (now : Int) : Operation :=
  .get id ⟨request, false, now⟩ "land" "survey" (some "parcels")

/-- Two callers wait for one rebuild. -/
def sharedRebuild (second : Request) : List Operation :=
  [readSurvey 0 (granted ["survey"]) 0, .join 0, readSurvey 1 second 0, .join 1,
    .query surveyKey 10, .store surveyKey 20 60000]

/-- A third caller finds what the rebuild has stored, and a fourth one comes after a delete. -/
def sharedSurvey (second : Request) : List Operation :=
  sharedRebuild second ++
    [readSurvey 2 second 1000,
      .delete 3 ⟨second, false, 2000⟩ "land" (some "survey") (some "parcels") false, .invalidate 3,
      readSurvey 4 second 3000]

theorem undisturbed_of_read (same : (step env state operation).database = state.database)
    (reads : ∀ statement, operation ≠ .write statement)
    (settled : ∀ key, operation.consults env = some key → state.cache key ≠ none →
      ¬ state.Stale key) : Undisturbed env state operation where
  underway key _ := by rw [same]
  cached statement eq := absurd eq (reads statement)
  invalidated := settled

theorem undisturbed_sharedSurvey (second : Request) :
    Guarded (step internalIds) (Undisturbed internalIds) (.unread surveyed)
      (sharedSurvey second) := by
  have missed : ∀ state : State, ∀ key : AssetKey, state.cache surveyKey = none →
      some surveyKey = some key → state.cache key ≠ none → ¬ state.Stale key := by
    intro state key empty same cached
    cases same
    exact absurd empty cached
  refine ⟨?_, ?_, ?_, ?_, ?_, ?_, ?_, ?_, ?_, ?_, trivial⟩
  · exact undisturbed_of_read rfl nofun fun key => missed _ key rfl
  · exact undisturbed_of_read rfl nofun nofun
  · exact undisturbed_of_read rfl nofun fun key => missed _ key rfl
  · exact undisturbed_of_read rfl nofun nofun
  · exact undisturbed_of_read rfl nofun fun key => missed _ key rfl
  · exact undisturbed_of_read rfl nofun nofun
  · refine undisturbed_of_read rfl nofun fun key _ _ => ?_
    rintro ⟨_, _, pending, _⟩
    cases pending
  · refine ⟨fun key underway => ?_, nofun, nofun⟩
    -- the rebuild has ended, and nobody waits
    rcases underway with ⟨id, _, waiting, _⟩ | ⟨_, _, rebuilding⟩
    · rcases id with _ | _ | _ <;> cases waiting
    · change Function.update (Function.update (Function.update (Function.update (fun _ => none)
        surveyKey _) surveyKey _) surveyKey _) surveyKey none key = _ at rebuilding
      by_cases same : key = surveyKey <;> simp [same] at rebuilding
  · exact undisturbed_of_read rfl nofun nofun
  · exact undisturbed_of_read rfl nofun fun key => missed _ key rfl

end Dynastore.Assets
