import Dynastore.Ingest.Versions
import Dynastore.Items.Rearranged

/-! Whether the hub rows that a request selects from stay the same, whatever it projects and however
it sorts. Two things can tell rearranged requests apart: the way ids and raw SQL are read, and the
INNER JOIN of the default order, which drops items without a row to order by. -/

namespace Dynastore.Items

open Ingest (Store)

namespace DriverConfig

variable {config : DriverConfig} {consumer : ConsumerType} {externalIdAsFeatureId : Bool}
  {server : Server} {query : Query}

section Stability

variable (config) (consumer) (externalIdAsFeatureId) (server) (query)

/-- Whatever is projected and however it is sorted, the request selects from the same hub
rows. -/
def Stable (store : Store) : Prop :=
  ∀ rearranged, query.Rearranges rearranged → config.Accepts rearranged →
    config.selectsFrom consumer externalIdAsFeatureId server rearranged store =
      config.selectsFrom consumer externalIdAsFeatureId server query store

structure Settled (store : Store) : Prop where
  /-- The server runs all of the requests or none. -/
  runs : ∀ rearranged, query.Rearranges rearranged → config.Accepts rearranged →
    (config.Runs consumer externalIdAsFeatureId server rearranged ↔
      config.Runs consumer externalIdAsFeatureId server query)
  /-- Where ids or raw SQL are read in another way, that makes no difference. -/
  reads : ∀ rearranged, query.Rearranges rearranged → config.Accepts rearranged →
    config.Runs consumer externalIdAsFeatureId server rearranged →
    config.reading consumer externalIdAsFeatureId server rearranged ≠
      config.reading consumer externalIdAsFeatureId server query →
    ∀ geoid item, store.get geoid = some item → (config.Admitted server query
          (config.reading consumer externalIdAsFeatureId server rearranged) geoid item ↔
        config.Admitted server query
          (config.reading consumer externalIdAsFeatureId server query) geoid item)
  /-- Where the default order applies, every admitted item has a row to order by. -/
  ordered : ∀ rearranged, query.Rearranges rearranged → config.Accepts rearranged →
    config.Runs consumer externalIdAsFeatureId server rearranged →
    ∀ provider, config.ordersBy consumer rearranged = some provider →
    ∀ geoid item, store.get geoid = some item → config.Admitted server query
        (config.reading consumer externalIdAsFeatureId server query) geoid item →
      provider.matching item ≠ []

end Stability

variable {store : Store}

theorem admitted_of_stable
    (stable : config.Stable consumer externalIdAsFeatureId server query store)
    (leftRearranges : query.Rearranges left) (leftAccepted : config.Accepts left)
    (leftRuns : config.Runs consumer externalIdAsFeatureId server left)
    (rightRearranges : query.Rearranges right) (rightAccepted : config.Accepts right)
    (rightRuns : config.Runs consumer externalIdAsFeatureId server right)
    (stored : store.get geoid = some item) (admitted : config.Admitted server query
      (config.reading consumer externalIdAsFeatureId server left) geoid item) :
    config.Admitted server query
        (config.reading consumer externalIdAsFeatureId server right) geoid item ∧
      config.Ordered consumer right item := by
  obtain ⟨unordered, rearranges, accepted, noOrder, sameReading, sameRuns⟩ :=
    exists_unordered leftRearranges leftAccepted
  obtain ⟨members, given, memberIff⟩ :=
    exists_selectsFrom rearranges (sameRuns.mpr leftRuns)
  obtain ⟨others, otherGiven, otherIff⟩ := exists_selectsFrom rightRearranges rightRuns
  have same : members = others := by
    have eq := (stable unordered rearranges accepted).trans
      (stable right rightRearranges rightAccepted).symm
    rw [given, otherGiven] at eq
    exact Option.some.inj eq
  have mem : geoid ∈ members := by
    rw [memberIff, sameReading]
    exact ⟨item, stored, admitted, fun _ none => by simp [noOrder] at none⟩
  rw [same, otherIff] at mem
  obtain ⟨_, foundStored, foundAdmitted, ordered⟩ := mem
  cases stored.symm.trans foundStored
  exact ⟨foundAdmitted, ordered⟩

theorem settled_of_stable (accepted : config.Accepts query) (own : query.Rearranges query)
    (stable : config.Stable consumer externalIdAsFeatureId server query store) :
    config.Settled consumer externalIdAsFeatureId server query store := by
  have sameRuns : ∀ rearranged, query.Rearranges rearranged → config.Accepts rearranged →
      (config.Runs consumer externalIdAsFeatureId server rearranged ↔
        config.Runs consumer externalIdAsFeatureId server query) := by
    intro rearranged rearranges rearrangedAccepted
    rw [← isSome_selectsFrom, ← isSome_selectsFrom, stable rearranged rearranges rearrangedAccepted]
  refine ⟨sameRuns, ?_, ?_⟩
  · intro rearranged rearranges rearrangedAccepted runs _ geoid item stored
    have queryRuns := (sameRuns rearranged rearranges rearrangedAccepted).mp runs
    constructor
    · intro admitted
      exact (admitted_of_stable stable rearranges rearrangedAccepted runs own accepted queryRuns
        stored admitted).1
    · intro admitted
      exact (admitted_of_stable stable own accepted queryRuns rearranges rearrangedAccepted runs
        stored admitted).1
  · intro rearranged rearranges rearrangedAccepted runs provider ordered _ _ stored admitted
    have queryRuns := (sameRuns rearranged rearranges rearrangedAccepted).mp runs
    exact (admitted_of_stable stable own accepted queryRuns rearranges rearrangedAccepted runs
      stored admitted).2 provider ordered

theorem mem_of_settled (settled : config.Settled consumer externalIdAsFeatureId server query store)
    (rearranges : query.Rearranges rearranged) (accepted : config.Accepts rearranged)
    (runs : config.Runs consumer externalIdAsFeatureId server rearranged) :
    ∃ members,
      config.selectsFrom consumer externalIdAsFeatureId server rearranged store = some members ∧
      ∀ geoid, geoid ∈ members ↔ ∃ item, store.get geoid = some item ∧ config.Admitted server query
          (config.reading consumer externalIdAsFeatureId server query) geoid item := by
  obtain ⟨members, given, memberIff⟩ := exists_selectsFrom rearranges runs
  refine ⟨members, given, ?_⟩
  intro geoid
  have sameReading : ∀ item, store.get geoid = some item → (config.Admitted server query
          (config.reading consumer externalIdAsFeatureId server rearranged) geoid item ↔
        config.Admitted server query
          (config.reading consumer externalIdAsFeatureId server query) geoid item) := by
    intro item stored
    by_cases same : config.reading consumer externalIdAsFeatureId server rearranged =
        config.reading consumer externalIdAsFeatureId server query
    · rw [same]
    · exact settled.reads rearranged rearranges accepted runs same geoid item stored
  rw [memberIff]
  constructor
  · intro found
    obtain ⟨item, stored, admitted, _⟩ := found
    exact ⟨item, stored, (sameReading item stored).mp admitted⟩
  · intro found
    obtain ⟨item, stored, admitted⟩ := found
    refine ⟨item, stored, (sameReading item stored).mpr admitted, ?_⟩
    intro provider ordered
    exact settled.ordered rearranged rearranges accepted runs provider ordered geoid item stored
      admitted

/-- Sorting and projection leave the rows of a request as they are exactly where the request
is settled. -/
theorem stable_iff_settled {store : Store} (accepted : config.Accepts query)
    (ungrouped : query.groupBy = []) (unlimited : query.limit = none)
    (unshifted : query.offset = none) :
    config.Stable consumer externalIdAsFeatureId server query store ↔
      config.Settled consumer externalIdAsFeatureId server query store := by
  have own : query.Rearranges query := ⟨rfl, rfl, rfl, rfl, ungrouped, unlimited, unshifted⟩
  refine ⟨settled_of_stable accepted own, ?_⟩
  intro settled rearranged rearranges rearrangedAccepted
  by_cases runs : config.Runs consumer externalIdAsFeatureId server rearranged
  · have queryRuns := (settled.runs rearranged rearranges rearrangedAccepted).mp runs
    obtain ⟨members, given, memberIff⟩ := mem_of_settled settled rearranges rearrangedAccepted runs
    obtain ⟨others, otherGiven, otherIff⟩ := mem_of_settled settled own accepted queryRuns
    have same : members = others := by
      ext geoid
      rw [memberIff, otherIff]
    rw [given, otherGiven, same]
  · have refused : ¬ config.Runs consumer externalIdAsFeatureId server query := fun queryRuns =>
      runs ((settled.runs rearranged rearranges rearrangedAccepted).mpr queryRuns)
    rw [selectsFrom_of_not_runs runs, selectsFrom_of_not_runs refused]

end DriverConfig

/-! ## Lots that are valid later -/

def lotAttributes : AttributesConfig where
  assetIdField := none
  externalIdField := some "external_id"
  attributeSchema := []
  jsonb := true
  jsonbColumnName := "attributes"
  jsonbIndexedPaths := []
  enableValidity := true
  columnarStats := []
  jsonbStats := false

def lotGeometries : GeometriesConfig where
  geomColumn := "geom"
  bboxColumn := none
  writeBbox := false
  h3Resolutions := []
  s2Resolutions := []
  columnarStats := []
  jsonbStats := false

def lotTables : DriverConfig where
  sidecars := [.geometries lotGeometries, .attributes lotAttributes]
  partitionKeys := []
  schemaFields := []
  parseCql _ := .ok none
  distinct := by decide

def columnServer : Server where
  uuid text := [("1", 1), ("2", 2)].lookup text
  uuidText := toString
  columns _ := []
  term column row := row column
  admits _ _ := false

def allLots : Query where
  select := [Selection.wildcard]
  filters := []
  sort := []
  groupBy := []
  limit := none
  offset := none
  rawSelects := []
  rawWhere := none
  itemIds := []
  accessFilter := none
  skipGeometry := false
  selects := Selection.wildcard_ne_nil

def sortedLots : Query := { allLots with sort := [("external_id", .asc)] }

def laterLots : Store :=
  Execution.run Ingest.Collection.lots.commit Register.empty [Ingest.Collection.lot 1 100 500 none]

def currentLots : Store :=
  Execution.run Ingest.Collection.lots.commit Register.empty [Ingest.Collection.lot 1 100 0 none]

theorem runs_lots (rearranges : allLots.Rearranges rearranged) :
    lotTables.Runs .ogcFeatures false columnServer rearranged where
  typed sidecar mem envelope := by
    have plain : ∀ sidecar ∈ lotTables.sidecars, sidecar.sidecar.accessEnvelope = false := by decide
    rw [plain sidecar mem] at envelope
    cases envelope
  filtered := by
    rw [rearranges.filters]
    exact fun _ mem => nomatch mem
  located := by
    rw [rearranges.rawWhere]
    exact fun _ given => nomatch given
  castable _ := by
    rw [rearranges.itemIds]
    exact fun _ mem => nomatch mem

theorem matching_currentLots (stored : currentLots.get geoid = some item) :
    (SidecarConfig.attributes lotAttributes).matching item ≠ [] := by
  have placed : currentLots =
      Register.empty.put 1 (Ingest.Collection.lots.newItem (Ingest.Collection.lot 1 100 0 none)) :=
    rfl
  rw [placed] at stored
  by_cases written : geoid = 1
  · rw [written, Register.get_put_self] at stored
    cases stored
    decide
  · rw [Register.get_put_of_ne _ written, Register.get_empty] at stored
    cases stored

theorem settled_currentLots :
    lotTables.Settled .ogcFeatures false columnServer allLots currentLots where
  runs _ rearranges _ :=
    iff_of_true (runs_lots rearranges) (runs_lots ⟨rfl, rfl, rfl, rfl, rfl, rfl, rfl⟩)
  reads rearranged rearranges _ _ _ geoid item _ := by
    -- without ids and raw SQL it does not matter how these are read
    have unread : ∀ left right row, lotTables.Admits columnServer allLots left row →
        lotTables.Admits columnServer allLots right row := fun _ _ _ admits =>
      { admits with
        rawFiltered := fun _ given => nomatch given
        identified := .inl rfl }
    exact exists_congr fun row => and_congr_right fun _ => ⟨unread _ _ row, unread _ _ row⟩
  ordered rearranged _ _ _ provider ordered geoid item stored _ := by
    have only : ∀ sidecar ∈ lotTables.sidecars, sidecar.sidecar.defaultSort →
        sidecar = .attributes lotAttributes := by
      intro sidecar mem sorts
      rcases List.mem_pair.mp mem with rfl | rfl
      · cases sorts
      · rfl
    rw [DriverConfig.ordersBy] at ordered
    split at ordered
    · have sorts := List.find?_some ordered
      rw [only provider (DriverConfig.mem_sidecars_of_joined (List.mem_of_find?_eq_some ordered))
        sorts]
      exact matching_currentLots stored
    · cases ordered

theorem current_lots_stable : lotTables.Accepts allLots ∧
      lotTables.Stable .ogcFeatures false columnServer allLots currentLots := by
  have accepted : lotTables.Accepts allLots := by decide
  exact ⟨accepted, (DriverConfig.stable_iff_settled accepted rfl rfl rfl).mpr settled_currentLots⟩

/-- The lot is not valid yet at its transaction time, so that the default order leaves it out
and an explicit sort lists it. -/
theorem later_lot_unlisted :
    lotTables.Accepts allLots ∧ lotTables.Accepts sortedLots ∧ allLots.Rearranges sortedLots ∧
      lotTables.selectsFrom .ogcFeatures false columnServer allLots laterLots = some ∅ ∧
      lotTables.selectsFrom .ogcFeatures false columnServer sortedLots laterLots = some {1} ∧
      ¬ lotTables.Stable .ogcFeatures false columnServer allLots laterLots := by
  have rearranges : allLots.Rearranges sortedLots := ⟨rfl, rfl, rfl, rfl, rfl, rfl, rfl⟩
  have accepted : lotTables.Accepts sortedLots := by decide
  have unlisted : lotTables.selectsFrom .ogcFeatures false columnServer allLots laterLots =
      some ∅ := by decide
  have listed : lotTables.selectsFrom .ogcFeatures false columnServer sortedLots laterLots =
      some {1} := by decide
  refine ⟨by decide, accepted, rearranges, unlisted, listed, ?_⟩
  intro stable
  have same := stable sortedLots rearranges accepted
  exact absurd same (by decide)

end Dynastore.Items
