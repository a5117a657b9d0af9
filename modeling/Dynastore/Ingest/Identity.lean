import Dynastore.Ingest.Resolution

/-! A rule with several fields looks each of them up by itself, and each lookup answers with the
newest row that it selects. The rule matches where all lookups end at one row. A row that agrees
with the incoming item on every field is missed where one of the fields has a newer row. -/

namespace Dynastore.Ingest.Collection

open List Option Sidecar

variable {collection : Collection} {store : Store} {context : Context}
  {matcher : ComputedKind} {rule : IdentityRule}

def AgreesOn (collection : Collection) (context : Context) (item : Item) : ComputedKind → Prop
  | .externalId => ∃ externalId, present context.externalId = some externalId ∧
      ∃ row ∈ item.sidecars "attributes", row "external_id" = .text externalId
  | .geometryHash => ∃ hash, present context.geometryHash = some hash ∧
      ∃ row ∈ item.sidecars "geometries", collection.postgres.geometryHash row = some hash
  | .attributesHash => ∃ attributes, context.featureAttributes = some attributes ∧
      ∃ row ∈ item.sidecars "attributes", collection.postgres.attributesHash row =
        some (collection.postgres.attributesDigest attributes)
  | .geohash => ∃ config precision wkb, Sidecar.geometries config ∈ collection.sidecars ∧
      config.geohashPrecision = some precision ∧
      present context.wkbHexProcessed = some wkb ∧
      ∃ row ∈ item.sidecars "geometries", collection.postgres.geohash row =
        some (collection.postgres.geohashOf wkb precision)
  | .other _ => False

def AgreesOnRule (collection : Collection) (context : Context) (rule : IdentityRule) (item : Item) :
    Prop :=
  item.isActive = true ∧ ∀ matcher ∈ rule.matchOn, collection.AgreesOn context item matcher

def RuleExact (collection : Collection) (store : Store) (context : Context)
    (rule : IdentityRule) : Prop :=
  ∃ found, collection.resolveRule store context rule = .ok found ∧ (found.isSome = true ↔
      ∃ geoid item, store.get geoid = some item ∧ collection.AgreesOnRule context rule item) ∧
    ∀ record, found = some record →
      ∃ item, store.get record.geoid = some item ∧ collection.AgreesOnRule context rule item

def lookupQuery (collection : Collection) (context : Context) (matcher : ComputedKind) :
    Option (Item → Option (Option Range)) :=
  collection.sidecars.findSome? fun sidecar =>
    sidecar.query collection.postgres matcher context

/-- Of the rows that the query of the field selects, that of the geoid is the newest. -/
def Leads (collection : Collection) (store : Store) (context : Context)
    (matcher : ComputedKind) (geoid : Geoid) : Prop :=
  ∃ query, collection.lookupQuery context matcher = some query ∧
    store.Foremost Item.transactionTime query geoid

/-! ## The lookup of one field -/

def fieldHit (collection : Collection) (store : Store) (context : Context)
    (matcher : ComputedKind) : Option ActiveRec :=
  (collection.lookupQuery context matcher).bind fun query =>
    (store.newest Item.transactionTime query).map fun found => ⟨found.1, found.2⟩

variable {geoid : Geoid} {query : Item → Option (Option Range)}
  {answer : ComputedKind → Option ActiveRec} {matchers : List ComputedKind}

theorem fieldHit_eq_iff :
    (collection.fieldHit store context matcher).map ActiveRec.geoid = some geoid ↔
      collection.Leads store context matcher geoid := by
  unfold fieldHit Leads
  cases collection.lookupQuery context matcher with
  | none => simp
  | some =>
    simp only [Option.bind_some, Option.map_map, Option.some.injEq, exists_eq_left',
      ← Register.exists_newest_iff, Option.map_eq_some_iff, Function.comp_apply, Prod.exists]
    constructor
    · intro found
      obtain ⟨_, answer, newest, rfl⟩ := found
      exact ⟨answer, newest⟩
    · intro found
      obtain ⟨answer, newest⟩ := found
      exact ⟨geoid, answer, newest, rfl⟩

theorem exists_sidecar_of_lookupQuery (asks : collection.lookupQuery context matcher = some query) :
    ∃ sidecar ∈ collection.sidecars,
      sidecar.query collection.postgres matcher context = some query :=
  exists_of_findSome?_eq_some asks

theorem agrees_of_query (mem : sidecar ∈ collection.sidecars)
    (asks : sidecar.query collection.postgres matcher context = some query)
    (selects : (query item).isSome) :
    item.isActive ∧ collection.AgreesOn context item matcher := by
  unfold Sidecar.query at asks
  split at asks
  next =>
    split at asks
    · obtain ⟨externalId, given, rfl⟩ := Option.map_eq_some_iff.mp asks
      unfold sameExternalId at selects
      split at selects
      next condition =>
        rw [Option.isSome_map, List.find?_isSome] at selects
        obtain ⟨row, rowMem, carries⟩ := selects
        simp only [Bool.and_eq_true, decide_eq_true_eq] at condition carries
        exact ⟨condition.1, externalId, given, row, rowMem, carries.1⟩
      · cases selects
    · cases asks
  · obtain ⟨hash, given, rfl⟩ := Option.map_eq_some_iff.mp asks
    unfold sameGeometryHash at selects
    split at selects
    next condition =>
      simp only [Bool.and_eq_true, List.any_eq_true, decide_eq_true_eq] at condition
      exact ⟨condition.1, hash, given, condition.2⟩
    · cases selects
  · split at asks
    · obtain ⟨attributes, given, rfl⟩ := Option.map_eq_some_iff.mp asks
      unfold sameAttributesHash at selects
      split at selects
      next condition =>
        simp only [Bool.and_eq_true, List.any_eq_true, decide_eq_true_eq] at condition
        exact ⟨condition.1.1, attributes, given, condition.2⟩
      · cases selects
    · cases asks
  next config =>
    split at asks
    next precision wkb precise given =>
      cases asks
      unfold sameGeohash at selects
      split at selects
      next condition =>
        simp only [Bool.and_eq_true, List.any_eq_true, decide_eq_true_eq] at condition
        exact ⟨condition.1, config, precision, wkb, mem,
          (Option.filter_eq_some_iff.mp precise).1, given, condition.2⟩
      · cases selects
    · cases asks
  · cases asks

theorem agrees_of_leads (leads : collection.Leads store context matcher geoid) :
    ∃ item, store.get geoid = some item ∧ item.isActive ∧
      collection.AgreesOn context item matcher := by
  obtain ⟨_, asks, foremost⟩ := leads
  obtain ⟨_, mem, own⟩ := exists_sidecar_of_lookupQuery asks
  obtain ⟨_, newest⟩ := Register.exists_newest_iff.mpr foremost
  obtain ⟨item, stored, selected⟩ := Register.get_of_newest newest
  exact ⟨item, stored, agrees_of_query mem own (by rw [selected]; rfl)⟩

theorem fieldHits_of_silent (silent : collection.lookupQuery context matcher = none) :
    collection.fieldHits store context matcher = .ok [] := by
  rw [fieldHits, mapM_resolveExistingItem_of_silent (findSome?_eq_none_iff.mp silent)]
  simp [bind, Except.bind, pure, Except.pure, Dict.firstBy, filterMap_map]

theorem fieldHits_of_located (located : collection.hasGeometries) :
    collection.fieldHits store context matcher =
      .ok ((collection.fieldHit store context matcher).toList.map fun record =>
        (record.geoid, record)) := by
  unfold fieldHit
  cases asks : collection.lookupQuery context matcher with
  | none => exact fieldHits_of_silent asks
  | some =>
    obtain ⟨sidecar, mem, own⟩ := exists_sidecar_of_lookupQuery asks
    have answers : sidecar.sidecarId = answererId matcher := by
      by_contra other
      rw [query_eq_none other] at own
      cases own
    apply fieldHits_of_answer mem answers
    simp only [resolveExistingItem, own, located, if_true, bind_some]

theorem fieldHits_of_unlocated (unlocated : collection.hasGeometries = false)
    (asks : (collection.lookupQuery context matcher).isSome) :
    collection.fieldHits store context matcher ≠ .ok hits := by
  intro found
  obtain ⟨_, asks⟩ := isSome_iff_exists.mp asks
  obtain ⟨_, mem, own⟩ := exists_sidecar_of_lookupQuery asks
  unfold fieldHits at found
  cases asked : collection.sidecars.mapM
      (collection.resolveExistingItem store context matcher) with
  | error => rw [asked] at found; cases found
  | ok =>
    obtain ⟨_, _, answered⟩ := Attempt.exists_right_of_mem (Attempt.forall₂_of_mapM asked) mem
    simp [resolveExistingItem, own, unlocated] at answered

/-! ## The rule -/

def Readable (collection : Collection) (context : Context) (rule : IdentityRule) : Prop :=
  ∀ matcher, rule.matchOn.head? = some matcher →
    (collection.lookupQuery context matcher).isSome = true → collection.hasGeometries = true

theorem mapM_geoid_iff : (∃ records, matchers.mapM answer = some records ∧
        ∀ record ∈ records, record.geoid = geoid) ↔
      ∀ matcher ∈ matchers, (answer matcher).map ActiveRec.geoid = some geoid := by
  induction matchers with
  | nil => simp
  | cons matcher matchers ih =>
    rw [forall_mem_cons, ← ih, mapM_cons]
    cases answer matcher with
    | none => simp
    | some =>
      cases matchers.mapM answer with
      | _ => simp

theorem geoid_commonRecord_iff :
    (((matchers.mapM answer).map (List.map fun record => [(record.geoid, record)])).bind
        commonRecord).map ActiveRec.geoid = some geoid ↔
      matchers ≠ [] ∧
        ∀ matcher ∈ matchers, (answer matcher).map ActiveRec.geoid = some geoid := by
  rw [← mapM_geoid_iff]
  cases matchers with
  | nil => simp [commonRecord]
  | cons matcher matchers =>
    rw [List.mapM_cons]
    cases answer matcher with
    | none => simp
    | some first =>
      cases matchers.mapM answer with
      | none => simp
      | some others =>
        have common := commonRecord_singletons first others
        simp only [Option.bind_eq_bind, Option.bind_some, Option.pure_def, Option.map_some, common]
        split
        next same =>
          simp only [List.all_map, List.all_eq_true, Function.comp_apply, decide_eq_true_eq] at same
          simp only [Option.map_some, Option.some.injEq, ne_eq, reduceCtorEq,
            not_false_eq_true, true_and, exists_eq_left', List.forall_mem_cons]
          constructor
          · intro eq
            exact ⟨eq, fun record mem => (same record mem).trans eq⟩
          · exact And.left
        next differ =>
          simp only [List.all_map, List.all_eq_true, Function.comp_apply,
            decide_eq_true_eq] at differ
          simp only [Option.map_none, reduceCtorEq, ne_eq, not_false_eq_true, true_and,
            Option.some.injEq, exists_eq_left', List.forall_mem_cons, false_iff]
          intro all
          exact differ fun record mem => (all.2 record mem).trans all.1.symm

theorem silent_of_unlocated (readable : collection.Readable context rule)
    (unlocated : collection.hasGeometries = false) (fields : rule.matchOn = matcher :: matchers) :
    collection.lookupQuery context matcher = none := by
  rw [← not_isSome_iff_eq_none]
  intro asks
  have located := readable matcher (by rw [fields]; rfl) asks
  rw [unlocated] at located
  cases located

theorem resolveRule_of_readable (readable : collection.Readable context rule) :
    ∃ found, collection.resolveRule store context rule = .ok found ∧
      ∀ geoid, found.map ActiveRec.geoid = some geoid ↔ rule.matchOn ≠ [] ∧
        ∀ matcher ∈ rule.matchOn, collection.Leads store context matcher geoid := by
  simp only [← fieldHit_eq_iff]
  cases located : collection.hasGeometries with
  | true =>
    have hits : collection.ruleHits store context rule.matchOn = _ :=
      ruleHits_of_answers fun matcher _ => fieldHits_of_located located
    refine ⟨_, ?_, fun _ => geoid_commonRecord_iff⟩
    rw [resolveRule, hits]
    rfl
  | false =>
    refine ⟨none, ?_, ?_⟩
    · unfold resolveRule
      cases fields : rule.matchOn with
      | nil => rfl
      | cons =>
        have silent := silent_of_unlocated readable located fields
        rw [ruleHits_cons (fieldHits_of_silent silent)]
        rfl
    · intro _
      simp only [map_none, reduceCtorEq, false_iff, not_and]
      intro nonempty all
      obtain ⟨matcher, _, fields⟩ := exists_cons_of_ne_nil nonempty
      have silent := silent_of_unlocated readable located fields
      have hit := all matcher (fields ▸ mem_cons_self)
      simp [fieldHit, silent] at hit

theorem not_resolved_of_unreadable (unreadable : ¬ collection.Readable context rule) :
    collection.resolveRule store context rule ≠ .ok found := by
  simp only [Readable, Classical.not_forall, Bool.not_eq_true] at unreadable
  obtain ⟨matcher, first, asks, unlocated⟩ := unreadable
  obtain ⟨_, fields⟩ := head?_eq_some_iff.mp first
  unfold resolveRule
  rw [fields, ruleHits]
  cases hits : collection.fieldHits store context matcher with
  | error =>
    intro resolved
    cases resolved
  | ok => exact absurd hits (fieldHits_of_unlocated unlocated asks)

theorem agreesOnRule_of_leads (nonempty : rule.matchOn ≠ [])
    (leads : ∀ matcher ∈ rule.matchOn, collection.Leads store context matcher geoid) :
    ∃ item, store.get geoid = some item ∧ collection.AgreesOnRule context rule item := by
  obtain ⟨first, mem⟩ := exists_mem_of_ne_nil _ nonempty
  obtain ⟨item, stored, active, _⟩ := agrees_of_leads (leads first mem)
  refine ⟨item, stored, active, ?_⟩
  intro matcher matcherMem
  obtain ⟨_, ownStored, _, agrees⟩ := agrees_of_leads (leads matcher matcherMem)
  rw [stored] at ownStored
  cases ownStored
  exact agrees

/-- The rule is exact where the tables it reads are there and either no stored item matches,
or one row is the newest one of every field. -/
theorem composite_rule_exact_iff (collection : Collection) (store : Store) (context : Context)
    (rule : IdentityRule) :
    collection.RuleExact store context rule ↔ collection.Readable context rule ∧
        ((¬ ∃ geoid item, store.get geoid = some item ∧ collection.AgreesOnRule context rule item) ∨
          rule.matchOn ≠ [] ∧ ∃ geoid, ∀ matcher ∈ rule.matchOn,
            collection.Leads store context matcher geoid) := by
  by_cases readable : collection.Readable context rule
  · obtain ⟨found, (resolved : collection.resolveRule store context rule = _), ends⟩ :=
      resolveRule_of_readable readable
    have sound : ∀ record, found = some record →
        ∃ item, store.get record.geoid = some item ∧ collection.AgreesOnRule context rule item := by
      intro record isFound
      have leads := (ends record.geoid).mp (by rw [isFound]; rfl)
      exact agreesOnRule_of_leads leads.1 leads.2
    constructor
    · intro isExact
      obtain ⟨_, ownResolved, complete, _⟩ := isExact
      rw [resolved] at ownResolved
      cases ownResolved
      refine ⟨readable, ?_⟩
      cases found with
      | none => exact .inl fun stored => absurd (complete.mpr stored) (by simp)
      | some record =>
        have leads := (ends record.geoid).mp rfl
        exact .inr ⟨leads.1, record.geoid, leads.2⟩
    · intro condition
      refine ⟨found, resolved, ⟨?_, ?_⟩, sound⟩
      · intro isFound
        obtain ⟨record, isFound⟩ := isSome_iff_exists.mp isFound
        exact ⟨record.geoid, sound record isFound⟩
      · intro stored
        rcases condition.2 with absent | ⟨nonempty, geoid, leads⟩
        · exact absurd stored absent
        · have ended := (ends geoid).mpr ⟨nonempty, leads⟩
          cases found with
          | none => cases ended
          | some => rfl
  · constructor
    · intro isExact
      obtain ⟨_, resolved, _⟩ := isExact
      exact absurd resolved (not_resolved_of_unreadable readable)
    · intro condition
      exact absurd condition.1 readable

/-! ## Parcels told apart by id and geometry -/

def byIdAndGeometry : IdentityRule := ⟨[.externalId, .geometryHash], none⟩

def twoParcels : Store :=
  (Register.empty.put 1 ((parcels .update none).newItem (parcel 1 "a" "p" 10))).put 2
    ((parcels .update none).newItem (parcel 2 "a" "q" 20))

/-- The older parcel has the id and the geometry of the incoming one; it is not found, as
the newer parcel has the same id. -/
theorem older_parcel_missed :
    (parcels .update none).resolveRule twoParcels (parcel 3 "a" "p" 30).context byIdAndGeometry =
        .ok none ∧
      ¬ (parcels .update none).RuleExact twoParcels (parcel 3 "a" "p" 30).context
        byIdAndGeometry := by
  have missed : (parcels .update none).resolveRule twoParcels (parcel 3 "a" "p" 30).context
      byIdAndGeometry = .ok none := by decide
  refine ⟨missed, ?_⟩
  intro isExact
  obtain ⟨_, resolved, complete, _⟩ := isExact
  rw [missed] at resolved
  cases resolved
  have stored : twoParcels.get 1 = some ((parcels .update none).newItem (parcel 1 "a" "p" 10)) :=
    rfl
  have agrees : (parcels .update none).AgreesOnRule (parcel 3 "a" "p" 30).context byIdAndGeometry
      ((parcels .update none).newItem (parcel 1 "a" "p" 10)) := by
    refine ⟨rfl, ?_⟩
    simp only [byIdAndGeometry, forall_mem_cons]
    exact ⟨⟨"a", rfl, _, mem_cons_self, rfl⟩, ⟨"p", rfl, _, mem_cons_self, rfl⟩, by simp⟩
  exact absurd (complete.mpr ⟨1, _, stored, agrees⟩) (by simp)

end Dynastore.Ingest.Collection
