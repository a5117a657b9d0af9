import Dynastore.Ingest.Versions

/-! An update upserts a row in the table of each sidecar. It meets the row that is there only if it
brings the same cells for the columns of the conflict target, and the validity is one of them where
versions are kept. The lookup by external id reads the stored validity and the update brings it
back; the other lookups do not, and the update opens a window of its own. -/

namespace Dynastore.Ingest

open List Sidecar

def Row.Carries (row : Row) (payload : Payload) : Prop :=
  ∀ column cell, payload.lookup column = some cell → row column = cell

namespace Collection

theorem carries_overwrite (same : sameKey columns (Row.ofPayload columnDefault payload) row) :
    (row.overwrite (payload.filter fun entry => !columns.contains entry.1)).Carries payload := by
  intro column cell given
  unfold Row.overwrite
  by_cases key : column ∈ columns
  · -- The cell is not overwritten, and the key brings the one that is there.
    have agrees := all_eq_true.mp same column key
    rw [decide_eq_true_eq, Row.ofPayload, given] at agrees
    rw [Dict.lookup_filter_of_not (fun name => !columns.contains name) (by simp [key])]
    exact agrees.symm
  · rw [Dict.lookup_filter (fun name => !columns.contains name) (by simp [key]), given]
    rfl

theorem upsertRows_single_iff :
    (∃ new, upsertRows columnDefault columns payload [row] = [new] ∧ new.Carries payload) ↔
      ∀ column ∈ columns, row column = Row.ofPayload columnDefault payload column := by
  have sameKey_iff : sameKey columns (Row.ofPayload columnDefault payload) row ↔
      ∀ column ∈ columns, row column = Row.ofPayload columnDefault payload column := by
    rw [sameKey, all_eq_true]
    exact forall₂_congr fun _ _ => by rw [decide_eq_true_eq, eq_comm]
  rw [← sameKey_iff]
  constructor
  · rintro ⟨_, single, _⟩
    by_contra ne
    simp [upsertRows, ne] at single
  · exact fun same => ⟨_, by simp [upsertRows, same], carries_overwrite same⟩

variable (collection : Collection)

def updateHubRow (plan : Plan) (record : ActiveRec) : Row :=
  Row.ofPayload (fun _ => .null) (collection.updateHubPayload plan record)

def updateContext (plan : Plan) (record : ActiveRec) : Context :=
  { plan.context with validity := some (updateValidity plan record) }

def updatePayload (plan : Plan) (record : ActiveRec) (sidecar : Sidecar) : Option Payload :=
  collection.finalPayload plan (collection.updateHubRow plan record) (updateContext plan record)
    sidecar

def InPlace (plan : Plan) (record : ActiveRec) (store : Store) : Prop :=
  ∃ item, store.get record.geoid = some item ∧
    ∀ sidecar ∈ collection.sidecars, sidecar.isMandatory = true →
      ∀ payload, collection.updatePayload plan record sidecar = some payload →
        ∃ row, item.sidecars sidecar.sidecarId = [row] ∧ row.Carries payload

/-! ## The key that an update brings -/

/-- The validity of a plan whose attributes name none. Where the hub row is partitioned by
validity it takes that of the record; otherwise the hub payload comes first, then the record,
then a new window. -/
def plannedValidity (plan : Plan) (record : ActiveRec) : Range :=
  let resolved := record.validity.getD
    ⟨plan.context.validFrom <|> some plan.context.clock, plan.context.validTo⟩
  if collection.partitionKeys.contains "validity" && record.validity.isSome then resolved
  else ((plan.hubPayload.lookup "validity").bind Cell.span).getD resolved

/-- The cell that a plan has for a column of a sidecar's conflict target. Payloads and stored
rows leave out the geoid. -/
def keyCell (plan : Plan) (record : ActiveRec) (sidecar : Sidecar) (column : String) : Cell :=
  let payload := (plan.sidecarPayloads.lookup sidecar.sidecarId).getD []
  let given :=
    match sidecar with
    | .attributes config =>
      if config.enableValidity && column = "validity" && (payload.lookup "validity").isNone then
        some (Cell.range (collection.plannedValidity plan record))
      else payload.lookup column
    | .plugin own =>
      (collection.stripUndeclaredColumns sidecar (own.finalizeUpsertPayload payload
        (collection.updateHubRow plan record) (updateContext plan record))).lookup column
    | _ => payload.lookup column
  given.getD (collection.postgres.columnDefault sidecar.sidecarId column)

variable {collection} {plan : Plan} {record : ActiveRec}

variable {sidecar : Sidecar} {column : String} {item : Item}

theorem updatePayload_of_mandatory (mandatory : sidecar.isMandatory) :
    collection.updatePayload plan record sidecar =
      some (collection.stripUndeclaredColumns sidecar (sidecar.finalizeUpsertPayload
        ((plan.sidecarPayloads.lookup sidecar.sidecarId).getD [])
        (collection.updateHubRow plan record) (updateContext plan record))) := by
  unfold updatePayload finalPayload
  rw [mandatory]
  split
  next impossible => cases impossible
  · rfl

theorem lookup_stripUndeclaredColumns
    (declares : sidecar.identityColumns.contains "validity" → sidecar.hasValidity)
    (key : column ∈ collection.conflictColumns sidecar) :
    (collection.stripUndeclaredColumns sidecar payload).lookup column =
      payload.lookup column := by
  unfold stripUndeclaredColumns
  split
  · rfl
  next undeclared =>
    rw [Bool.or_eq_true, not_or] at undeclared
    have other : column ≠ "validity" := by
      rintro rfl
      rcases mem_append.mp key with partitioned | identity
      · exact undeclared.2 (contains_iff_mem.mpr (mem_filter.mp partitioned).1)
      · exact undeclared.1 (declares (contains_iff_mem.mpr identity))
    exact Dict.lookup_filter (fun name => decide (name ≠ "validity")) (decide_eq_true other) payload

theorem span_updateHubRow : ((collection.updateHubRow plan record "validity").span <|>
      (updateContext plan record).validity) = some (collection.plannedValidity plan record) := by
  unfold updateHubRow updateContext updateHubPayload plannedValidity updateValidity Row.ofPayload
  cases collection.partitionKeys.contains "validity" <;> cases record.validity <;>
    cases given : plan.hubPayload.lookup "validity" with
    | none => simp [given, Dict.lookup_assign, Cell.span]
    | some cell => cases cell <;> simp [given, Dict.lookup_assign, Cell.span]

theorem lookup_finalizeAttributes :
    (Sidecar.finalizeAttributes config payload (collection.updateHubRow plan record)
        (updateContext plan record)).lookup column =
      if config.enableValidity && column = "validity" && (payload.lookup "validity").isNone then
        some (.range (collection.plannedValidity plan record))
      else payload.lookup column := by
  unfold finalizeAttributes
  rw [span_updateHubRow]
  by_cases made : config.enableValidity && (payload.lookup "validity").isNone
  · rw [if_pos made, Dict.lookup_assign]
    rw [Bool.and_eq_true] at made
    simp [made.1, made.2]
  · rw [if_neg made, if_neg]
    simp only [Bool.and_eq_true, not_and] at made ⊢
    exact fun both => made both.1

theorem ofPayload_updatePayload (mandatory : sidecar.isMandatory)
    (final : collection.updatePayload plan record sidecar = some payload)
    (key : column ∈ collection.conflictColumns sidecar) :
    Row.ofPayload (collection.postgres.columnDefault sidecar.sidecarId) payload column =
      collection.keyCell plan record sidecar column := by
  rw [updatePayload_of_mandatory mandatory] at final
  cases final
  unfold Row.ofPayload keyCell
  cases sidecar with
  | attributes =>
    rw [lookup_stripUndeclaredColumns ?_ key, finalizeUpsertPayload, lookup_finalizeAttributes]
    intro identity
    by_contra unversioned
    simp [identityColumns, hasValidity] at identity unversioned
    simp [unversioned] at identity
  | geometries =>
    rw [lookup_stripUndeclaredColumns (by simp [identityColumns]) key]
    rfl
  | plugin => rfl
  | _ => cases mandatory

/-! ## The tables after an update -/

theorem sidecars_updatedItem (item : Item) (mem : sidecar ∈ collection.sidecars)
    (final : collection.updatePayload plan record sidecar = some payload) :
    (collection.updatedItem plan record item).sidecars sidecar.sidecarId =
      upsertRows (collection.postgres.columnDefault sidecar.sidecarId)
        (collection.conflictColumns sidecar) payload (item.sidecars sidecar.sidecarId) := by
  have keeps : ∀ item other, sidecar.sidecarId ≠ sidecarId other →
      (collection.updateSidecar plan (collection.updateHubPayload plan record)
        (updateContext plan record) item other).sidecars sidecar.sidecarId =
        item.sidecars sidecar.sidecarId :=
    fun _ _ other => by
      unfold updateSidecar
      split
      · rfl
      · exact sidecars_upsertSidecarTable_of_ne other _
  obtain ⟨_, same, made⟩ :=
    sidecars_foldl_of_mem keeps collection.nodup_sidecarIds mem rfl
      ⟨item.hub.overwrite ((collection.updateHubPayload plan record).filter (·.1 ≠ "geoid")),
        item.sidecars⟩
  unfold updatePayload updateHubRow at final
  rw [updateSidecar, final] at made
  rw [← same]
  exact made.trans (if_pos rfl)

theorem holds_payload_iff (mem : sidecar ∈ collection.sidecars) (mandatory : sidecar.isMandatory)
    (only : item.sidecars sidecar.sidecarId = [row]) :
    (∀ payload, collection.updatePayload plan record sidecar = some payload →
        ∃ new, (collection.updatedItem plan record item).sidecars sidecar.sidecarId = [new] ∧
          new.Carries payload) ↔
      ∀ column ∈ collection.conflictColumns sidecar,
        row column = collection.keyCell plan record sidecar column := by
  obtain ⟨payload, final⟩ : ∃ payload,
    collection.updatePayload plan record sidecar = some payload :=
    ⟨_, updatePayload_of_mandatory mandatory⟩
  have written := sidecars_updatedItem item mem final
  rw [only] at written
  calc _ ↔ ∃ new, (collection.updatedItem plan record item).sidecars sidecar.sidecarId = [new] ∧
          new.Carries payload := by
        rw [final]
        exact ⟨fun all => all payload rfl, fun held _ same => Option.some.inj same ▸ held⟩
    _ ↔ ∀ column ∈ collection.conflictColumns sidecar, row column =
          Row.ofPayload (collection.postgres.columnDefault sidecar.sidecarId) payload column := by
        rw [written]
        exact upsertRows_single_iff
    _ ↔ _ := forall₂_congr fun _ key => by rw [ofPayload_updatePayload mandatory final key]

/-- Where each table of an item has one row, an update happens in place just if each row of
a mandatory sidecar has, in every column of its conflict target, the cell of the plan. -/
theorem updates_in_place_iff (collection : Collection) (store next : Store) (plan : Plan)
    (record : ActiveRec) (item : Item) (result : Option Result)
    (decided : collection.decision store plan = .ok (.update record))
    (stored : store.get record.geoid = some item)
    (single : ∀ sidecar ∈ collection.sidecars, ∃ row, item.sidecars sidecar.sidecarId = [row])
    (wrote : collection.insertOrUpdateDistributed store plan = .ok (next, result)) :
    collection.InPlace plan record next ↔
      ∀ sidecar ∈ collection.sidecars, sidecar.isMandatory = true →
        ∀ row ∈ item.sidecars sidecar.sidecarId, ∀ column ∈ collection.conflictColumns sidecar,
            row column = collection.keyCell plan record sidecar column := by
  have nextIs : next.get record.geoid = some (collection.updatedItem plan record item) := by
    rcases insertOrUpdate_cases wrote with ⟨_, other, _⟩ | ⟨other, _⟩ | ⟨_, other, _⟩ |
      ⟨found, old, same, held, rfl, _⟩
    · cases decided.symm.trans other
    · cases decided.symm.trans other
    · cases decided.symm.trans other
    · cases decided.symm.trans same
      cases stored.symm.trans held
      exact Register.get_put_self _
  constructor
  · rintro ⟨written, found, held⟩ sidecar mem mandatory row stands
    cases nextIs.symm.trans found
    obtain ⟨only, alone⟩ := single sidecar mem
    rw [alone, mem_singleton] at stands
    subst stands
    exact (holds_payload_iff mem mandatory alone).mp (held sidecar mem mandatory)
  · intro same
    refine ⟨_, nextIs, fun sidecar mem mandatory => ?_⟩
    obtain ⟨row, alone⟩ := single sidecar mem
    apply (holds_payload_iff mem mandatory alone).mpr
    exact same sidecar mem mandatory row (alone ▸ mem_singleton_self row)

/-! ## Plots -/

/-- Plots have no external id and are told apart by their geometry, and a match is updated. -/
def plots : Collection where
  catalogId := "land"
  collectionId := "plots"
  postgres := plainPostgres
  policy := some
    { identity := [⟨[.geometryHash], none⟩], onConflict := .update, onBatchConflict := none
      enableValidity := true, enableBatchInsert := false }
  sidecars := [.geometries ⟨none⟩, .attributes ⟨false, true, some "valid_from", true⟩]
  partitionKeys := []
  distinct := by decide
  attributed := ⟨_, List.mem_cons_of_mem _ List.mem_cons_self⟩

def plot (geoid : Geoid) (instant validFrom : Int) (use : String) : Plan :=
  { lot geoid instant validFrom none with
    sidecarPayloads :=
      [("geometries", [("geom", .text "p")]), ("attributes", [("attributes", .text use)])] }

def fieldItem : Item := plots.newItem (plot 1 100 0 "field")

def fieldStore : Store := Register.empty.put 1 fieldItem

theorem fieldItem_single : ∀ sidecar ∈ plots.sidecars, ∃ row,
    fieldItem.sidecars sidecar.sidecarId = [row] := by
  intro _ mem
  rcases mem_cons.mp mem with rfl | mem
  · exact ⟨_, rfl⟩
  · rw [mem_singleton.mp mem]
    exact ⟨_, rfl⟩

/-- The plot is written again for the same time. -/
theorem updates_in_place_plots : ∃ next result,
    plots.insertOrUpdateDistributed fieldStore (plot 2 101 0 "orchard") = .ok (next, result) ∧
      plots.InPlace (plot 2 101 0 "orchard") ⟨1, none⟩ next := by
  refine ⟨_, _, rfl, (updates_in_place_iff plots fieldStore _ (plot 2 101 0 "orchard") ⟨1, none⟩
    fieldItem _ rfl rfl fieldItem_single rfl).mpr ?_⟩
  intro _ mem _ _ stands _ key
  rcases mem_cons.mp mem with rfl | mem
  · rw [mem_singleton.mp stands, mem_singleton.mp key]
    rfl
  · cases mem_singleton.mp mem
    rw [mem_singleton.mp stands]
    rcases mem_cons.mp key with rfl | key
    · rfl
    · rw [mem_singleton.mp key]
      rfl

/-- The plot is written again for the time from 5. It is found by its geometry and updated,
and has two rows of attributes afterwards. -/
theorem second_row_after_update :
    plots.decision fieldStore (plot 2 101 5 "orchard") = .ok (.update ⟨1, none⟩) ∧
      (∀ sidecar ∈ plots.sidecars, ∃ row, fieldItem.sidecars sidecar.sidecarId = [row]) ∧
      ∃ next result, plots.insertOrUpdateDistributed fieldStore (plot 2 101 5 "orchard") =
          .ok (next, result) ∧
        ¬ plots.InPlace (plot 2 101 5 "orchard") ⟨1, none⟩ next := by
  refine ⟨rfl, fieldItem_single, _, _, rfl, ?_⟩
  rintro ⟨_, found, held⟩
  cases found
  obtain ⟨_, one, _⟩ := held (.attributes ⟨false, true, some "valid_from", true⟩)
    (.tail _ (.head _)) rfl _ rfl
  have lengths : 2 = 1 := congrArg length one
  cases lengths

end Collection

end Dynastore.Ingest
