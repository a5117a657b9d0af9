import Dynastore.Foundation.Execution
import Dynastore.Ingest.Effect

/-! With a policy of new versions, an item that is written again gets a new row with a validity of
its own, and the row it is a version of is closed where the new validity starts. The versions of an
external id are the rows that carry it. They stay apart as long as each write finds the open version
as the one to close, and brings a window that starts no earlier than the close point and meets no
other version. -/

namespace Dynastore.Ingest

open Register Sidecar

/-! ## Windows -/

namespace Range

def Apart (left right : Range) : Prop :=
  ∀ instant, ¬ (left.contains instant = true ∧ right.contains instant = true)

def closedAt (expireAt : Int) (window : Range) : Range :=
  ⟨window.lowerBound, some expireAt⟩

variable {left right window : Range}

theorem Apart.symm (apart : left.Apart right) : right.Apart left :=
  fun instant both => apart instant ⟨both.2, both.1⟩

theorem contains_of_closedAt (isOpen : window.upper = none)
    (inside : (window.closedAt expireAt).contains instant) : window.contains instant := by
  have bound : window.lowerBound = window.lower := by
    unfold lowerBound isEmpty
    rw [isOpen]
    cases window.lower <;> rfl
  unfold contains closedAt at inside
  rw [bound, Bool.and_eq_true_iff] at inside
  unfold contains
  rw [inside.1, isOpen]
  rfl

theorem Apart.closedAt (isOpen : left.upper = none) (expireAt : Int)
    (apart : left.Apart right) : (left.closedAt expireAt).Apart right :=
  fun instant both => apart instant ⟨contains_of_closedAt isOpen both.1, both.2⟩

theorem apart_closedAt (starts : right.lower = some start) (later : expireAt ≤ start) :
    (left.closedAt expireAt).Apart right := by
  intro _ both
  obtain ⟨closed, started⟩ := both
  unfold contains Range.closedAt at closed
  unfold contains at started
  rw [starts] at started
  simp only [Option.all_some, Bool.and_eq_true, decide_eq_true_eq] at closed started
  omega

end Range

/-! ## The versions of an external id -/

/-- The window of a row of the attributes that carries the id. The validity is part of the
key of the table, so that a row without one, taken as unbounded here, does not arise. -/
def Row.versionOf (externalId : String) (row : Row) : Option Range :=
  if row "external_id" = .text externalId then some ((row "validity").span.getD ⟨none, none⟩)
  else none

def Item.versionAt (externalId : String) (item : Item) (index : Nat) : Option Range :=
  if item.isActive then ((item.sidecars "attributes")[index]?).bind (Row.versionOf externalId)
  else none

def versionAt (externalId : String) (store : Store) (position : Geoid × Nat) : Option Range :=
  (store.get position.1).bind fun item => item.versionAt externalId position.2

/-- The versions of the id are pairwise apart, and one of them at most is open. -/
structure Separate (externalId : String) (store : Store) : Prop where
  apart : ∀ first second left right, versionAt externalId store first = some left →
    versionAt externalId store second = some right → first ≠ second → left.Apart right
  oneOpen : ∀ first second left right, versionAt externalId store first = some left →
    versionAt externalId store second = some right → left.upper = none → right.upper = none →
      first = second

theorem separate_empty : Separate externalId Register.empty where
  apart := by
    intro first second left right found
    simp [versionAt] at found
  oneOpen := by
    intro _ _ _ _ found
    simp [versionAt] at found

section Put

variable {externalId : String} {store : Store} {geoid : Geoid} {item : Item}

theorem versionAt_put_self :
    versionAt externalId (store.put geoid item) (geoid, index) =
      item.versionAt externalId index := by
  simp [versionAt]

theorem versionAt_put_of_ne (other : position.1 ≠ geoid) :
    versionAt externalId (store.put geoid item) position = versionAt externalId store position := by
  unfold versionAt
  rw [get_put_of_ne _ other]

theorem Separate.insert (separate : Separate externalId store) (free : store.get geoid = none)
    (single : (item.sidecars "attributes").length ≤ 1)
    (clear : ∀ index window, item.versionAt externalId index = some window →
      ∀ position other, versionAt externalId store position = some other →
        other.Apart window ∧ (other.upper = none → window.upper ≠ none)) :
    Separate externalId (store.put geoid item) := by
  have first : ∀ {index : Nat} {window : Range},
      item.versionAt externalId index = some window → index = 0 := by
    intro index window found
    unfold Item.versionAt at found
    split at found
    · obtain ⟨_, present, _⟩ := Option.bind_eq_some_iff.mp found
      have bound := (List.getElem?_eq_some_iff.mp present).1
      omega
    · cases found
  have cases : ∀ {position : Geoid × Nat} {window : Range},
      versionAt externalId (store.put geoid item) position = some window →
      (position = (geoid, 0) ∧ item.versionAt externalId 0 = some window) ∨
        versionAt externalId store position = some window := by
    intro position _ found
    by_cases own : position.1 = geoid
    · obtain ⟨_, _⟩ := position
      subst own
      rw [versionAt_put_self] at found
      have zero := first found
      subst zero
      exact .inl ⟨rfl, found⟩
    · rw [versionAt_put_of_ne own] at found
      exact .inr found
  constructor
  · intro one two left right foundOne foundTwo ne
    rcases cases foundOne with ⟨rfl, newOne⟩ | oldOne
    · rcases cases foundTwo with ⟨rfl, _⟩ | oldTwo
      · exact absurd rfl ne
      · exact (clear 0 left newOne two right oldTwo).1.symm
    · rcases cases foundTwo with ⟨rfl, newTwo⟩ | oldTwo
      · exact (clear 0 right newTwo one left oldOne).1
      · exact separate.apart one two left right oldOne oldTwo ne
  · intro one two left right foundOne foundTwo openOne openTwo
    rcases cases foundOne with ⟨rfl, newOne⟩ | oldOne
    · rcases cases foundTwo with ⟨rfl, _⟩ | oldTwo
      · rfl
      · exact absurd openOne ((clear 0 left newOne two right oldTwo).2 openTwo)
    · rcases cases foundTwo with ⟨rfl, newTwo⟩ | oldTwo
      · exact absurd openTwo ((clear 0 right newTwo one left oldOne).2 openOne)
      · exact separate.oneOpen one two left right oldOne oldTwo openOne openTwo

theorem Separate.close (separate : Separate externalId store)
    (stored : store.get geoid = some item) (closes : ∀ index, closed.versionAt externalId index =
      (item.versionAt externalId index).map (Range.closedAt expireAt))
    (current :
      ∀ index window, item.versionAt externalId index = some window → window.upper = none) :
    Separate externalId (store.put geoid closed) := by
  have cases : ∀ {position : Geoid × Nat} {window : Range},
      versionAt externalId (store.put geoid closed) position = some window →
      ∃ before, versionAt externalId store position = some before ∧
        (window = before ∨ before.upper = none ∧ window = before.closedAt expireAt) := by
    intro position window found
    by_cases own : position.1 = geoid
    · obtain ⟨_, index⟩ := position
      subst own
      rw [versionAt_put_self, closes] at found
      obtain ⟨before, was, rfl⟩ := Option.map_eq_some_iff.mp found
      refine ⟨before, ?_, .inr ⟨current index before was, rfl⟩⟩
      rw [versionAt, stored]
      exact was
    · rw [versionAt_put_of_ne own] at found
      exact ⟨window, found, .inl rfl⟩
  have shrinks : ∀ {before window other : Range},
      (window = before ∨ before.upper = none ∧ window = before.closedAt expireAt) →
      before.Apart other → window.Apart other := by
    rintro _ _ _ (rfl | ⟨isOpen, rfl⟩) apart
    · exact apart
    · exact apart.closedAt isOpen expireAt
  constructor
  · intro one two left right foundOne foundTwo ne
    obtain ⟨beforeOne, wasOne, leftIs⟩ := cases foundOne
    obtain ⟨beforeTwo, wasTwo, rightIs⟩ := cases foundTwo
    have apart := separate.apart one two beforeOne beforeTwo wasOne wasTwo ne
    exact shrinks leftIs (shrinks rightIs apart.symm).symm
  · intro one two left right foundOne foundTwo openOne openTwo
    obtain ⟨_, wasOne, rfl | ⟨_, rfl⟩⟩ := cases foundOne
    · obtain ⟨_, wasTwo, rfl | ⟨_, rfl⟩⟩ := cases foundTwo
      · exact separate.oneOpen one two left right wasOne wasTwo openOne openTwo
      · cases openTwo
    · cases openOne

end Put

namespace Collection

variable {collection : Collection} {store next : Store} {plan : Plan} {externalId : String}

/-! ## New items -/

theorem length_insertSidecar (notPlace : sidecar.sidecarId ≠ placeTable)
    (empty : item.sidecars sidecar.sidecarId = []) :
    ((collection.insertSidecar pad plan item sidecar).sidecars sidecar.sidecarId).length ≤ 1 := by
  have own : ∀ columns payload, ((collection.upsertSidecarTable item sidecar.sidecarId columns
      payload).sidecars sidecar.sidecarId).length = 1 := by
    simp [upsertSidecarTable, empty, upsertRows]
  unfold insertSidecar
  split
  · rw [empty]
    exact Nat.zero_le _
  · split
    · exact (own _ _).le
    · rw [sidecars_upsertSidecarTable_of_ne notPlace]
      exact (own _ _).le

theorem sidecars_insertSidecar_of_ne (own : table ≠ sidecar.sidecarId)
    (notPlace : table ≠ placeTable) :
    (collection.insertSidecar pad plan item sidecar).sidecars table = item.sidecars table := by
  unfold insertSidecar
  split
  · rfl
  · split
    · exact sidecars_upsertSidecarTable_of_ne own _
    · rw [sidecars_upsertSidecarTable_of_ne notPlace, sidecars_upsertSidecarTable_of_ne own]

theorem length_newItem (notPlace : table ≠ placeTable) :
    ((collection.newItem plan).sidecars table).length ≤ 1 := by
  have keeps : ∀ item sidecar, table ≠ sidecar.sidecarId →
      (collection.insertSidecar (fun _ payload => payload) plan item sidecar).sidecars table =
        item.sidecars table :=
    fun _ _ other => sidecars_insertSidecar_of_ne other notPlace
  unfold newItem insertedItem
  by_cases listed : table ∈ collection.sidecars.map sidecarId
  · obtain ⟨_, mem, rfl⟩ := List.mem_map.mp listed
    obtain ⟨_, empty, made⟩ :=
      sidecars_foldl_of_mem keeps collection.nodup_sidecarIds mem rfl _
    rw [made]
    exact length_insertSidecar notPlace empty
  · rw [sidecars_foldl_of_not_mem keeps listed]
    exact Nat.zero_le _

/-! ## Writing -/

/-- Items get new versions, and the attributes keep their validity. -/
structure Versioned (collection : Collection) : Prop where
  policy : ∃ policy, collection.policy = some policy ∧ policy.onConflict = .newVersion ∧
    policy.enableValidity = true
  attributes : ∃ config, Sidecar.attributes config ∈ collection.sidecars ∧
    config.enableValidity = true

/-- A write in a transaction of its own; one that raises is rolled back. -/
def commit (collection : Collection) (store : Store) (plan : Plan) : Store :=
  match collection.insertOrUpdateDistributed store plan with
  | .ok (next, _) => next
  | .error _ => store

theorem versionAt_expireItem (versioned : collection.Versioned) (expireAt : Int) (index : Nat) :
    (collection.expireItem expireAt item).versionAt externalId index =
      (item.versionAt externalId index).map (Range.closedAt expireAt) := by
  obtain ⟨config, mem, enabled⟩ := versioned.attributes
  have row : ∀ row : Row,
      Row.versionOf externalId ((attributes config).expireVersion expireAt row) =
        (Row.versionOf externalId row).map (Range.closedAt expireAt) := by
    intro row
    have expired : (attributes config).expireVersion expireAt row = row.overwrite
        [("validity", .range ⟨(row "validity").span.bind Range.lowerBound, some expireAt⟩)] :=
      if_pos enabled
    have kept : ∀ cell, row.overwrite [("validity", cell)] "external_id" = row "external_id" :=
      fun _ => rfl
    have written : ∀ cell, row.overwrite [("validity", cell)] "validity" = cell := fun _ => rfl
    rw [expired]
    unfold Row.versionOf
    rw [kept, written]
    by_cases carries : row "external_id" = .text externalId
    · rw [if_pos carries, if_pos carries]
      cases (row "validity").span <;> rfl
    · rw [if_neg carries, if_neg carries]
      rfl
  have rows : (collection.expireItem expireAt item).sidecars "attributes" =
      (item.sidecars "attributes").map ((attributes config).expireVersion expireAt) := by
    simp only [expireItem]
    split
    next sidecar found =>
      have named : sidecar.sidecarId = "attributes" := by simpa using List.find?_some found
      have same := eq_attributes mem (List.mem_of_find?_eq_some found) named
      subst same
      exact if_pos enabled
    next missing =>
      have absent := List.find?_eq_none.mp missing _ mem
      simp [sidecarId] at absent
  unfold Item.versionAt
  have active : (collection.expireItem expireAt item).isActive = item.isActive := rfl
  rw [active, rows, List.getElem?_map]
  split
  · cases (item.sidecars "attributes")[index]? with
    | none => rfl
    | some own => exact row own
  · rfl

/-- The write finds the open version as the one to close, if any, and its own window meets
no other version. It is no update of a row in place. -/
structure Continues (collection : Collection) (externalId : String) (store : Store)
    (plan : Plan) : Prop where
  appends : ∀ record, collection.decision store plan ≠ .ok (.update record)
  current : ∀ record, collection.decision store plan = .ok (.newVersion record) →
    ∀ place window, versionAt externalId store (record.geoid, place) = some window →
      window.upper = none ∧
        ∀ index new, (collection.newItem plan).versionAt externalId index = some new →
          ∃ start, new.lower = some start ∧ expireAt plan ≤ start
  clear : ∀ index new, (collection.newItem plan).versionAt externalId index = some new →
    ∀ position other, versionAt externalId store position = some other →
      (∀ record, collection.decision store plan = .ok (.newVersion record) →
        position.1 ≠ record.geoid) →
      other.Apart new ∧ (other.upper = none → new.upper ≠ none)

theorem separate_commit (versioned : collection.Versioned) (separate : Separate externalId store)
    (continues : collection.Continues externalId store plan) :
    Separate externalId (collection.commit store plan) := by
  have single : ((collection.newItem plan).sidecars "attributes").length ≤ 1 :=
    length_newItem (by decide)
  unfold commit
  split
  next done =>
    rcases insertOrUpdate_cases done with ⟨_, _, rfl, _⟩ | ⟨decided, free, rfl, _⟩ |
      ⟨record, decided, free, rfl, _⟩ | ⟨record, _, decided, _⟩
    · exact separate
    · refine separate.insert free single ?_
      intro index new isNew position other found
      refine continues.clear index new isNew position other found ?_
      intro record isVersion
      rw [decided] at isVersion
      cases isVersion
    · obtain ⟨item, stored, _⟩ := seen_of_decision decided (.inr rfl)
      have archived : collection.archive store record plan =
          store.put record.geoid (collection.expireItem (expireAt plan) item) := by
        unfold archive
        rw [stored]
      have before : ∀ index, versionAt externalId store (record.geoid, index) =
          item.versionAt externalId index := by
        intro index
        rw [versionAt, stored]
        rfl
      have closed := separate.close stored (versionAt_expireItem versioned (expireAt plan))
        (fun index window found =>
          (continues.current record decided index window ((before index).trans found)).1)
      rw [← archived] at closed
      refine closed.insert free single ?_
      intro index new isNew position other found
      by_cases own : position.1 = record.geoid
      · obtain ⟨_, place⟩ := position
        subst own
        rw [archived, versionAt_put_self, versionAt_expireItem versioned] at found
        obtain ⟨window, was, rfl⟩ := Option.map_eq_some_iff.mp found
        obtain ⟨_, starts, later⟩ := (continues.current record decided place window
          ((before place).trans was)).2 index new isNew
        refine ⟨Range.apart_closedAt starts later, ?_⟩
        intro isOpen
        cases isOpen
      · rw [archived, versionAt_put_of_ne own] at found
        refine continues.clear index new isNew position other found ?_
        intro _ isVersion
        rw [decided] at isVersion
        cases isVersion
        exact own
    · exact absurd decided (continues.appends record)
  · exact separate

/-- The versions of an external id stay apart in every run whose writes continue them. -/
theorem versions_stay_apart (collection : Collection) (versioned : collection.Versioned)
    (externalId : String) (store : Store) (plans : List Plan) (separate : Separate externalId store)
    (guarded : Execution.Guarded collection.commit (collection.Continues externalId) store plans) :
    Separate externalId (Execution.run collection.commit store plans) :=
  Execution.invariant_run
    (fun _ _ separate continues => separate_commit versioned separate continues)
    separate guarded

/-! ## Lots -/

/-- Lots, told apart by their external id, that get a new version on each write. -/
def lots : Collection where
  catalogId := "land"
  collectionId := "lots"
  postgres := plainPostgres
  policy := some
    { identity := [⟨[.externalId], none⟩], onConflict := .newVersion, onBatchConflict := none
      enableValidity := true, enableBatchInsert := false }
  sidecars := [.geometries ⟨none⟩, .attributes ⟨true, true, some "valid_from", true⟩]
  partitionKeys := []
  distinct := by decide
  attributed := ⟨_, List.mem_cons_of_mem _ List.mem_cons_self⟩

/-- Lot a, written at an instant for the time from `validFrom` to `validTo`. -/
def lot (geoid : Geoid) (instant validFrom : Int) (validTo : Option Int) : Plan where
  geoid := geoid
  hubPayload := [("transaction_time", .time instant), ("deleted_at", .null)]
  sidecarPayloads :=
    [("geometries", [("geom", .text "p")]), ("attributes", [("external_id", .text "a")])]
  placePayload := none
  context :=
    { externalId := some "a", geometryHash := some "p", featureAttributes := none
      wkbHexProcessed := none, validFrom := some validFrom, validTo, validity := none
      clock := instant }

/-- A lot for the time from 0, then one for the time from 5. -/
theorem versions_stay_apart_lots : Separate "a" (Execution.run lots.commit Register.empty
      [lot 1 100 0 none, lot 2 101 5 none]) := by
  have first : lots.commit empty (lot 1 100 0 none) =
      empty.put 1 (lots.newItem (lot 1 100 0 none)) := rfl
  have decidedFirst : lots.decision empty (lot 1 100 0 none) = .ok .insert := rfl
  have decidedSecond : lots.decision (empty.put 1 (lots.newItem (lot 1 100 0 none)))
      (lot 2 101 5 none) = .ok (.newVersion ⟨1, some ⟨some 0, none⟩⟩) := rfl
  refine versions_stay_apart lots ⟨⟨_, rfl, rfl, rfl⟩, _,
    List.mem_cons_of_mem _ (.head _), rfl⟩ "a" _ _ separate_empty ?_
  simp only [Execution.guarded_cons, Execution.guarded_nil, and_true, first]
  refine ⟨⟨by simp [decidedFirst], by simp [decidedFirst], by simp [versionAt]⟩,
    ⟨by simp [decidedSecond], ?_, ?_⟩⟩
  · intro _ decided place _ found
    cases decided
    cases place with
    | zero =>
      cases found
      refine ⟨rfl, ?_⟩
      intro index new isNew
      cases index with
      | zero => cases isNew; exact ⟨5, rfl, by decide⟩
      | succ => cases isNew
    | succ => cases found
  · intro _ _ _ _ _ found elsewhere
    rw [versionAt_put_of_ne (elsewhere _ decidedSecond)] at found
    simp [versionAt] at found

/-- A lot for the time from 0 to 10 is closed, so that the write of one for the time from 5
does not find it: both are valid from 5 to 10. -/
theorem closed_version_overlaps : versionAt "a" (Execution.run lots.commit Register.empty
        [lot 1 100 0 (some 10), lot 2 101 5 none]) (1, 0) = some ⟨some 0, some 10⟩ ∧
      versionAt "a" (Execution.run lots.commit Register.empty
        [lot 1 100 0 (some 10), lot 2 101 5 none]) (2, 0) = some ⟨some 5, none⟩ ∧
      ¬ Separate "a" (Execution.run lots.commit Register.empty
        [lot 1 100 0 (some 10), lot 2 101 5 none]) := by
  have older : versionAt "a" (Execution.run lots.commit empty
      [lot 1 100 0 (some 10), lot 2 101 5 none]) (1, 0) = some ⟨some 0, some 10⟩ := by decide
  have newer : versionAt "a" (Execution.run lots.commit empty
      [lot 1 100 0 (some 10), lot 2 101 5 none]) (2, 0) = some ⟨some 5, none⟩ := by decide
  refine ⟨older, newer, ?_⟩
  intro separate
  exact separate.apart _ _ _ _ older newer (by decide) 5 ⟨by decide, by decide⟩

end Collection

end Dynastore.Ingest
