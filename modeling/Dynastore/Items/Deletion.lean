import Dynastore.Items.Membership

/-! `delete_item` beside `get_item`. A read takes the id as the external id or as the geoid,
according to the read policy. A delete takes it as an external id, in a version of the attributes of
whatever validity, and as the geoid only where no live item has it as its external id. -/

namespace Dynastore.Items

open List Option

open Access (AccessFilter)
open Ingest (Geoid Item Row Store)

/-- The request of `get_item`, for a caller that may read everything. -/
def itemQuery (itemId : String) : Query where
  select := [Selection.wildcard]
  filters := []
  sort := []
  groupBy := []
  limit := some 1
  offset := none
  rawSelects := []
  rawWhere := none
  itemIds := [itemId]
  accessFilter := some AccessFilter.allowEverything
  skipGeometry := false
  selects := Selection.wildcard_ne_nil

def softDelete (now : Int) (writeId : String) (item : Item) : Item :=
  { item with hub := item.hub.overwrite [("deleted_at", .time now), ("write_id", .text writeId)] }

namespace DriverConfig

variable (config : DriverConfig) (consumer : ConsumerType) (externalIdAsFeatureId : Bool)
  (server : Server)

/-- The hub rows that `get_item` chooses from; an id that is no UUID is none of the geoids. -/
def getItem (store : Store) (itemId : String) : Option (Finset Geoid) :=
  if !externalIdAsFeatureId && (server.uuid itemId).isNone then some ∅
  else config.selectsFrom consumer externalIdAsFeatureId server (itemQuery itemId) store

def identitySource : Option SidecarConfig :=
  config.sidecars.find? fun sidecar => (featureIdColumn sidecar).isSome

def carries (sidecar : SidecarConfig) (itemId : String) (item : Item) : Bool :=
  (item.sidecars sidecar.sidecarId).any fun row =>
    server.term ((featureIdColumn sidecar).getD "") row = .text itemId

def liveRows (store : Store) (test : Geoid → Item → Bool) : Finset Geoid :=
  store.keys.filter fun geoid => (store.get geoid).any fun item => item.isActive && test geoid item

def deletedByExternalId (store : Store) (itemId : String) : Finset Geoid :=
  config.identitySource.elim ∅ fun sidecar =>
    liveRows store fun _ item => carries server sidecar itemId item

def deletedByGeoid (store : Store) (itemId : String) : Finset Geoid :=
  liveRows store fun geoid _ => server.uuid itemId = some geoid

def deletedGeoids (store : Store) (itemId : String) : Finset Geoid :=
  if (config.deletedByExternalId server store itemId).card = 0 then
    deletedByGeoid server store itemId
  else config.deletedByExternalId server store itemId

/-- The store that a delete leaves, and the number of rows it reports. -/
def deleteItem (now : Int) (writeId : String) (store : Store) (itemId : String) : Store × Nat :=
  let deleted := config.deletedGeoids server store itemId
  (store.adjust fun geoid item => if geoid ∈ deleted then softDelete now writeId item else item,
    deleted.card)

def Removes (before after : Store) (geoid : Geoid) : Prop :=
  ∃ item left, before.get geoid = some item ∧ item.isActive = true ∧
    after.get geoid = some left ∧ left.isActive = false

/-- A delete removes the rows that a read by the same id may return, and no others. -/
def DeletesShown (now : Int) (writeId : String) (store : Store) (itemId : String) : Prop :=
  ∀ geoid, Removes store (config.deleteItem server now writeId store itemId).1 geoid ↔
    ∃ members, config.getItem consumer externalIdAsFeatureId server store itemId = some members ∧
      geoid ∈ members

/-! ## The ids of an item -/

/-- The id is the one under which reads show the item: by policy an external id that is valid
at the item's transaction, or else the geoid. With an external id column the default order
leaves out items without a row valid then. -/
def ShownAs (itemId : String) (geoid : Geoid) (item : Item) : Prop :=
  match config.identitySource with
  | none => server.uuid itemId = some geoid
  | some sidecar =>
    if externalIdAsFeatureId then
      ∃ row ∈ sidecar.matching item,
        server.term ((featureIdColumn sidecar).getD "") row = .text itemId ∨
          server.term ((featureIdColumn sidecar).getD "") row = .null ∧
            server.uuidText geoid = itemId
    else server.uuid itemId = some geoid ∧ sidecar.matching item ≠ []

def Carries (itemId : String) (item : Item) : Prop :=
  ∃ sidecar, config.identitySource = some sidecar ∧ carries server sidecar itemId item = true

variable {config consumer externalIdAsFeatureId server} {store : Store} {itemId : String}
  {geoid : Geoid}

theorem mem_liveRows : geoid ∈ liveRows store test ↔
      ∃ item, store.get geoid = some item ∧ item.isActive ∧ test geoid item := by
  unfold liveRows
  rw [Finset.mem_filter, Register.mem_keys]
  cases store.get geoid <;> simp

theorem mem_deletedByExternalId : geoid ∈ config.deletedByExternalId server store itemId ↔
      ∃ item, store.get geoid = some item ∧ item.isActive ∧
        config.Carries server itemId item := by
  unfold deletedByExternalId Carries
  cases found : config.identitySource with
  | none => simp
  | some =>
    rw [elim_some, mem_liveRows]
    simp

theorem mem_deletedByGeoid : geoid ∈ deletedByGeoid server store itemId ↔
      ∃ item, store.get geoid = some item ∧ item.isActive ∧
        server.uuid itemId = some geoid := by
  rw [deletedByGeoid, mem_liveRows]
  simp only [decide_eq_true_eq]

theorem active_of_deleted (deleted : geoid ∈ config.deletedGeoids server store itemId) :
    ∃ item, store.get geoid = some item ∧ item.isActive := by
  unfold deletedGeoids at deleted
  split at deleted
  · obtain ⟨item, stored, active, _⟩ := mem_deletedByGeoid.mp deleted
    exact ⟨item, stored, active⟩
  · obtain ⟨item, stored, active, _⟩ := mem_deletedByExternalId.mp deleted
    exact ⟨item, stored, active⟩

theorem removes_iff :
    Removes store (config.deleteItem server now writeId store itemId).1 geoid ↔
      geoid ∈ config.deletedGeoids server store itemId := by
  unfold Removes deleteItem
  simp only [Register.get_adjust, map_eq_some_iff]
  constructor
  · intro removed
    obtain ⟨item, _, stored, active, ⟨_, sameStored, changed⟩, inactive⟩ := removed
    by_contra kept
    rw [if_neg kept] at changed
    cases stored.symm.trans sameStored
    rw [← changed, active] at inactive
    cases inactive
  · intro deleted
    obtain ⟨item, stored, active⟩ := active_of_deleted deleted
    exact ⟨item, softDelete now writeId item, stored, active, ⟨item, stored, if_pos deleted⟩,
      by simp [softDelete, Ingest.Item.isActive, Ingest.Row.overwrite]⟩

/-! ## The rows of a read -/

variable {item : Item}

theorem joined_of_featureIdColumn (mem : sidecar ∈ config.sidecars)
    (named : (featureIdColumn sidecar).isSome) :
    sidecar ∈ config.joinedSidecars consumer (itemQuery itemId) := by
  cases sidecar with
  | attributes =>
    refine mem_joinedSidecars.mpr ⟨mem, rfl, rfl, ?_⟩
    exact fun dropped => Bool.false_ne_true dropped.2
  | _ => cases named

theorem find?_joined (named : ∀ sidecar, p sidecar → (featureIdColumn sidecar).isSome) :
    (config.joinedSidecars consumer (itemQuery itemId)).find? p = config.sidecars.find? p := by
  rw [← head?_filter, ← head?_filter]
  have same : (config.joinedSidecars consumer (itemQuery itemId)).filter p =
      config.sidecars.filter p := by
    unfold joinedSidecars
    rw [List.filter_filter]
    apply filter_congr
    intro sidecar mem
    cases wanted : p sidecar with
    | false => rfl
    | true =>
      exact (mem_filter.mp (joined_of_featureIdColumn mem (named sidecar wanted))).2
  rw [same]

theorem defaultSort_eq (sidecar : SidecarConfig) :
    sidecar.sidecar.defaultSort = (featureIdColumn sidecar).isSome := by
  cases sidecar <;> rfl

theorem providesFeatureId_eq :
    sidecar.sidecar.providesFeatureId = (featureIdColumn sidecar).isSome := by
  cases sidecar <;> rfl

theorem ordersBy_itemQuery :
    config.ordersBy consumer (itemQuery itemId) = config.identitySource := by
  have order : defaultOrder (itemQuery itemId) := rfl
  rw [ordersBy, if_pos order, identitySource, funext defaultSort_eq]
  exact find?_joined fun _ named => named

theorem identifiesBy_itemQuery :
    config.identifiesBy consumer externalIdAsFeatureId (itemQuery itemId) =
      if externalIdAsFeatureId then config.identitySource else none := by
  unfold identifiesBy featureIdSidecar
  cases externalIdAsFeatureId with
  | false => simp
  | true =>
    simp only [Bool.true_and, providesFeatureId_eq, if_true]
    exact find?_joined fun _ named => named

theorem runs_itemQuery : config.Runs consumer externalIdAsFeatureId server (itemQuery itemId) ↔
      (config.identifiesBy consumer externalIdAsFeatureId (itemQuery itemId) = none →
        (server.uuid itemId).isSome) := by
  constructor
  · intro runs geoids
    exact runs.castable geoids itemId (mem_singleton_self _)
  · intro castable
    refine ⟨fun _ _ _ => rfl, ?_, ?_, ?_⟩
    · intro _ mem
      cases mem
    · intro _ given
      cases given
    · intro geoids _ mem
      rw [mem_singleton.mp mem]
      exact castable geoids

theorem admits_itemQuery {reading : Reading} : config.Admits server (itemQuery itemId) reading row ↔
      row.tables "h" "deleted_at" = .null ∧ reading.takes server [itemId] row := by
  constructor
  · intro admits
    exact ⟨admits.live, admits.identified.resolve_left (cons_ne_nil _ _)⟩
  · intro both
    refine ⟨both.1, ?_, ?_, .inr both.2⟩
    · intro _ mem
      cases mem
    · intro _ given
      cases given

theorem takes_externalId :
    Reading.takes ⟨some column, columns⟩ server [itemId] row ↔
      server.read row column = .text itemId ∨
        server.read row column = .null ∧ server.uuidText row.geoid = itemId := by
  unfold Reading.takes Server.featureId
  cases value : server.read row column <;> simp [value]

theorem deleted_at_hub (joined : row ∈ config.itemRows server geoid item) :
    row.tables "h" "deleted_at" = .null ↔ item.isActive := by
  rw [(mem_itemRows joined).2.1]
  simp [Server.hubTables, Ingest.Item.isActive]

theorem admitted_by_geoid :
    config.Admitted server (itemQuery itemId) ⟨none, columns⟩ geoid item ↔
      item.isActive ∧ server.uuid itemId = some geoid := by
  simp only [Admitted, admits_itemQuery, Reading.takes, any_cons, any_nil,
    Bool.or_false, decide_eq_true_eq]
  constructor
  · intro found
    obtain ⟨row, joined, live, named⟩ := found
    exact ⟨(deleted_at_hub joined).mp live, (mem_itemRows joined).1 ▸ named⟩
  · intro both
    obtain ⟨row, joined⟩ := exists_mem_itemRows
    exact ⟨row, joined, (deleted_at_hub joined).mpr both.1, (mem_itemRows joined).1.symm ▸ both.2⟩

theorem admitted_by_externalId (mem : sidecar ∈ config.sidecars) :
    config.Admitted server (itemQuery itemId) ⟨some ⟨sidecar.sidecar.joinAlias, column⟩, columns⟩
        geoid item ↔
      item.isActive ∧ ∃ row ∈ sidecar.outer item, server.term column row = .text itemId ∨
          server.term column row = .null ∧ server.uuidText geoid = itemId := by
  simp only [Admitted, admits_itemQuery, takes_externalId]
  constructor
  · intro found
    obtain ⟨row, joined, live, named⟩ := found
    obtain ⟨sameGeoid, _, rows⟩ := mem_itemRows joined
    rw [sameGeoid] at named
    exact ⟨(deleted_at_hub joined).mp live, _, rows sidecar mem, named⟩
  · intro both
    obtain ⟨active, own, found, named⟩ := both
    obtain ⟨row, (joined : row ∈ config.itemRows server geoid item), same⟩ :=
      exists_itemRow mem found
    refine ⟨row, joined, (deleted_at_hub joined).mpr active, ?_⟩
    rw [Server.read, same, (mem_itemRows joined).1]
    exact named

theorem admitted_itemQuery : (config.Admitted server (itemQuery itemId)
        (config.reading consumer externalIdAsFeatureId server (itemQuery itemId)) geoid item ∧
      config.Ordered consumer (itemQuery itemId) item) ↔
      item.isActive ∧ config.ShownAs externalIdAsFeatureId server itemId geoid item := by
  rw [Ordered, ordersBy_itemQuery, reading, identifiesBy_itemQuery, ShownAs]
  cases source : config.identitySource with
  | none =>
    simp [admitted_by_geoid]
  | some sidecar =>
    have mem : sidecar ∈ config.sidecars := mem_of_find?_eq_some source
    cases externalIdAsFeatureId with
    | false => simp [admitted_by_geoid, and_assoc]
    | true =>
      simp only [if_true, map_some, admitted_by_externalId mem, some.injEq,
        forall_eq', and_assoc]
      refine and_congr_right fun _ => ?_
      constructor
      · intro found
        obtain ⟨⟨row, joined, named⟩, kept⟩ := found
        exact ⟨row, outer_of_matching kept ▸ joined, named⟩
      · intro found
        obtain ⟨row, joined, named⟩ := found
        have kept : sidecar.matching item ≠ [] := ne_nil_of_mem joined
        exact ⟨⟨row, (outer_of_matching kept).symm ▸ joined, named⟩, kept⟩

theorem mem_getItem :
    (∃ members, config.getItem consumer externalIdAsFeatureId server store itemId = some members ∧
        geoid ∈ members) ↔
      ∃ item, store.get geoid = some item ∧ item.isActive ∧
        config.ShownAs externalIdAsFeatureId server itemId geoid item := by
  have noUuid : (server.uuid itemId).isSome = false →
      (externalIdAsFeatureId → config.identitySource = none) → ∀ item,
        ¬ config.ShownAs externalIdAsFeatureId server itemId geoid item := by
    intro none noSource item shown
    have absent : server.uuid itemId ≠ some geoid := fun same => by simp [same] at none
    unfold ShownAs at shown
    split at shown
    · exact absent shown
    next source =>
      split at shown
      next external =>
        rw [noSource external] at source
        cases source
      · exact absent shown.1
  unfold getItem
  split
  next refused =>
    simp only [Bool.and_eq_true, Bool.not_eq_true', isNone_iff_eq_none] at refused
    have nothing := noUuid (by rw [refused.2]; rfl)
      (fun external => by simp [refused.1] at external)
    constructor
    · intro found
      obtain ⟨members, given, mem⟩ := found
      cases given
      cases mem
    · intro found
      obtain ⟨item, _, _, shown⟩ := found
      exact (nothing item shown).elim
  · by_cases runs : config.Runs consumer externalIdAsFeatureId server (itemQuery itemId)
    · rw [mem_selectsFrom runs]
      simp only [admitted_itemQuery]
    · rw [selectsFrom_of_not_runs runs]
      rw [runs_itemQuery, Classical.not_imp, identifiesBy_itemQuery, Bool.not_eq_true] at runs
      obtain ⟨unidentified, none⟩ := runs
      have nothing := noUuid none (fun external => by simpa [external] using unidentified)
      constructor
      · intro found
        obtain ⟨_, given, _⟩ := found
        cases given
      · intro found
        obtain ⟨item, _, _, shown⟩ := found
        exact (nothing item shown).elim

/-! ## Agreement -/

section Agreement

variable (config externalIdAsFeatureId server)

def Claimed (store : Store) (itemId : String) : Prop :=
  ∃ geoid item, store.get geoid = some item ∧ item.isActive = true ∧
    config.Carries server itemId item

/-- Reads and deletes take the id alike: where some live item has it as an external id, the
items that have it are those shown under it, and otherwise the item with that geoid is. -/
structure ResolvesAlike (store : Store) (itemId : String) : Prop where
  claimed : config.Claimed server store itemId →
    ∀ geoid item, store.get geoid = some item → item.isActive = true →
      (config.Carries server itemId item ↔
        config.ShownAs externalIdAsFeatureId server itemId geoid item)
  unclaimed : ¬ config.Claimed server store itemId →
    ∀ geoid item, store.get geoid = some item → item.isActive = true →
      (server.uuid itemId = some geoid ↔
        config.ShownAs externalIdAsFeatureId server itemId geoid item)

end Agreement

theorem mem_deletedGeoids : geoid ∈ config.deletedGeoids server store itemId ↔
      ∃ item, store.get geoid = some item ∧ item.isActive ∧
        (config.Claimed server store itemId → config.Carries server itemId item) ∧
        (¬ config.Claimed server store itemId → server.uuid itemId = some geoid) := by
  have none : (config.deletedByExternalId server store itemId).card = 0 ↔
      ¬ config.Claimed server store itemId := by
    rw [Finset.card_eq_zero, Finset.eq_empty_iff_forall_notMem]
    simp only [mem_deletedByExternalId, Claimed, not_exists]
  unfold deletedGeoids
  by_cases claimed : config.Claimed server store itemId
  · rw [if_neg (fun empty => none.mp empty claimed), mem_deletedByExternalId]
    simp [claimed]
  · rw [if_pos (none.mpr claimed), mem_deletedByGeoid]
    simp [claimed]

/-- A delete removes the rows that a read by the id may return exactly where the two take the
id alike. -/
theorem deletesShown_iff (now : Int) (writeId : String) :
    config.DeletesShown consumer externalIdAsFeatureId server now writeId store itemId ↔
      config.ResolvesAlike externalIdAsFeatureId server store itemId := by
  unfold DeletesShown
  simp only [removes_iff, mem_getItem, mem_deletedGeoids]
  constructor
  · intro same
    have each : ∀ geoid item, store.get geoid = some item → item.isActive →
        ((config.Claimed server store itemId → config.Carries server itemId item) ∧
          (¬ config.Claimed server store itemId → server.uuid itemId = some geoid) ↔
        config.ShownAs externalIdAsFeatureId server itemId geoid item) := by
      intro geoid item stored active
      have shared := same geoid
      simp only [stored, some.injEq, exists_eq_left', active, true_and] at shared
      exact shared
    constructor
    · intro claimed geoid item stored active
      have agreed := each geoid item stored active
      simp only [claimed, true_imp_iff, not_true_eq_false, false_imp_iff, and_true] at agreed
      exact agreed
    · intro unclaimed geoid item stored active
      have agreed := each geoid item stored active
      simp only [unclaimed, false_imp_iff, not_false_eq_true, true_imp_iff, true_and] at agreed
      exact agreed
  · intro alike geoid
    refine exists_congr fun item => and_congr_right fun stored => and_congr_right fun active => ?_
    by_cases claimed : config.Claimed server store itemId
    · simp only [claimed, true_imp_iff, not_true_eq_false, false_imp_iff, and_true]
      exact alike.claimed claimed geoid item stored active
    · simp only [claimed, false_imp_iff, not_false_eq_true, true_imp_iff, true_and]
      exact alike.unclaimed claimed geoid item stored active

end DriverConfig

/-! ## A lot under its geoid -/

def singleLot : Store :=
  Execution.run Ingest.Collection.lots.commit Register.empty [Ingest.Collection.lot 1 100 0 none]

/-- Reads show the lot under its geoid alone, and a delete of its external id removes it. -/
theorem lot_deleted_under_other_id :
    lotTables.getItem .ogcFeatures false columnServer singleLot "1" = some {1} ∧
      lotTables.getItem .ogcFeatures false columnServer singleLot "a" = some ∅ ∧
      DriverConfig.Removes singleLot
        (lotTables.deleteItem columnServer 200 "write" singleLot "a").1 1 ∧
      ¬ lotTables.DeletesShown .ogcFeatures false columnServer 200 "write" singleLot "a" := by
  have hidden : lotTables.getItem .ogcFeatures false columnServer singleLot "a" = some ∅ := by
    decide
  have removed : DriverConfig.Removes singleLot
      (lotTables.deleteItem columnServer 200 "write" singleLot "a").1 1 := by
    rw [DriverConfig.removes_iff]
    decide
  refine ⟨by decide, hidden, removed, ?_⟩
  intro shown
  obtain ⟨_, given, mem⟩ := (shown 1).mp removed
  cases given
  cases mem

end Dynastore.Items
