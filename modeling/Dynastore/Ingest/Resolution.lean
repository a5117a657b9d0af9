import Dynastore.Foundation.Attempt
import Dynastore.Ingest.Batch

/-! What an identity lookup can answer: a record of an item in the store, the same record from
stores that look alike to its queries, and from the lookups of the batch the same geoid as from
those of a single plan. -/

namespace Dynastore.Ingest

open List Option Attempt Sidecar

namespace Collection

variable {collection : Collection} {store : Store} {context : Context}

theorem nodup_sidecarIds (collection : Collection) :
    (collection.sidecars.map Sidecar.sidecarId).Nodup :=
  (nodup_cons.mp (nodup_cons.mp collection.distinct).2).2

theorem ruleHits_cons (own : collection.fieldHits store context matcher = .ok hits) :
    collection.ruleHits store context (matcher :: matchers) =
      if hits.isEmpty then .ok none
      else (collection.ruleHits store context matchers).map (Option.map (hits :: ·)) := by
  rw [ruleHits, own]
  cases hits with
  | _ => rfl

/-! ## Every record is an answer of a sidecar -/

def Answered (collection : Collection) (store : Store) (context : Context)
    (matchers : List ComputedKind) (record : ActiveRec) : Prop :=
  ∃ matcher ∈ matchers, ∃ sidecar ∈ collection.sidecars,
    collection.resolveExistingItem store context matcher sidecar = .ok (some record)

theorem answered_of_mem_fieldHits (found : collection.fieldHits store context matcher = .ok hits)
    (mem : hit ∈ hits) (own : matcher ∈ matchers) :
    collection.Answered store context matchers hit.2 := by
  obtain ⟨records, asked, returned⟩ := exists_of_bind_eq_ok found
  cases returned
  have first := Dict.mem_firstBy.mp mem
  have inRecords : some hit.2 ∈ records := by
    simpa using mem_of_find?_eq_some first
  exact ⟨matcher, own, exists_left_of_mem (forall₂_of_mapM asked) inRecords⟩

theorem answered_of_mem_ruleHits
    (found : collection.ruleHits store context matchers = .ok (some lists)) :
    ∀ hits ∈ lists, ∀ hit ∈ hits, collection.Answered store context matchers hit.2 := by
  induction matchers generalizing lists with
  | nil =>
    cases found
    intro hits mem
    cases mem
  | cons _ _ ih =>
    obtain ⟨_, own, found⟩ := exists_of_bind_eq_ok found
    split at found
    · cases found
    · obtain ⟨others, rest, found⟩ := exists_of_bind_eq_ok found
      cases others with
      | none => cases found
      | some =>
        cases found
        intro chosen mem hit hitMem
        rcases mem_cons.mp mem with rfl | later
        · exact answered_of_mem_fieldHits own hitMem mem_cons_self
        · obtain ⟨other, otherMem, answered⟩ := ih rest chosen later hit hitMem
          exact ⟨other, mem_cons_of_mem _ otherMem, answered⟩

theorem answered_of_resolveRule
    (found : collection.resolveRule store context rule = .ok (some record)) :
    collection.Answered store context rule.matchOn record := by
  obtain ⟨_, asked, returned⟩ := exists_of_bind_eq_ok found
  obtain ⟨lists, rfl, common⟩ := bind_eq_some_iff.mp (Except.ok.inj returned)
  cases lists with
  | nil => cases common
  | cons first =>
    obtain ⟨hit, hitFound, rfl⟩ := map_eq_some_iff.mp common
    exact answered_of_mem_ruleHits asked first (.head _) hit (mem_of_find?_eq_some hitFound)

theorem answered_of_resolveRules {rules : List IdentityRule}
    (found : collection.resolveRules store context rules = .ok (some (record, rule))) :
    rule ∈ rules ∧ collection.Answered store context rule.matchOn record := by
  induction rules with
  | nil => cases found
  | cons _ _ ih =>
    obtain ⟨answer, asked, found⟩ := exists_of_bind_eq_ok found
    cases answer with
    | none => exact (ih found).imp_left (mem_cons_of_mem _)
    | some =>
      cases found
      exact ⟨mem_cons_self, answered_of_resolveRule asked⟩

def Sees (collection : Collection) (context : Context) (item : Item) : Prop :=
  ∃ rule ∈ collection.rules, ∃ matcher ∈ rule.matchOn, ∃ sidecar ∈ collection.sidecars,
    ∃ query, sidecar.query collection.postgres matcher context = some query ∧ (query item).isSome

theorem seen_of_resolve (found : collection.resolve store context = .ok (some (record, rule))) :
    rule ∈ collection.rules ∧
      ∃ item, store.get record.geoid = some item ∧ collection.Sees context item := by
  obtain ⟨ruleMem, matcher, matcherMem, sidecar, sidecarMem, answered⟩ :=
    answered_of_resolveRules found
  refine ⟨ruleMem, ?_⟩
  unfold resolveExistingItem at answered
  split at answered
  · cases answered
  next query asked =>
    split at answered
    · simp only [Except.ok.injEq, map_eq_some_iff] at answered
      obtain ⟨_, newest, rfl⟩ := answered
      obtain ⟨item, stored, selected⟩ := Register.get_of_newest newest
      exact ⟨item, stored, rule, ruleMem, matcher, matcherMem, sidecar, sidecarMem, query,
        asked, by rw [selected]; rfl⟩
    · cases answered

/-! ## Stores that look alike -/

/-! ## The lookups of the batch -/

section Batch

variable {config : AttributesConfig} {sidecar : Sidecar} {matcher : ComputedKind}
  {byExternalId byGeometryHash : List (String × Geoid)} {answer : ComputedKind → Option ActiveRec}

theorem eq_attributes (mem : Sidecar.attributes config ∈ collection.sidecars)
    (sidecarMem : sidecar ∈ collection.sidecars)
    (named : sidecar.sidecarId = "attributes") : sidecar = .attributes config :=
  inj_on_of_nodup_map collection.nodup_sidecarIds sidecarMem mem named

def answererId : ComputedKind → String
  | .geohash => "geometries"
  | _ => "attributes"

theorem answererId_of_batchable (batchable : isBatchable matcher) :
    answererId matcher = "attributes" := by
  cases matcher <;> first | rfl | cases batchable

theorem query_eq_none (other : sidecar.sidecarId ≠ answererId matcher) :
    sidecar.query collection.postgres matcher context = none := by
  cases sidecar with
  | attributes config | geometries config => cases matcher <;> first | rfl | exact absurd rfl other
  | _ => rfl

theorem mapM_resolveExistingItem_of_silent {sidecars : List Sidecar}
    (silent : ∀ sidecar ∈ sidecars, sidecar.query collection.postgres matcher context = none) :
    sidecars.mapM (collection.resolveExistingItem store context matcher) =
      .ok (sidecars.map fun _ => none) := by
  apply mapM_of_forall₂
  rw [forall₂_map_right_iff, forall₂_same]
  intro sidecar mem
  rw [resolveExistingItem, silent sidecar mem]

theorem fieldHits_of_answer (mem : answerer ∈ collection.sidecars)
    (answers : answerer.sidecarId = answererId matcher) {answer : Option ActiveRec}
    (asked : collection.resolveExistingItem store context matcher answerer = .ok answer) :
    collection.fieldHits store context matcher =
      .ok (answer.toList.map fun record => (record.geoid, record)) := by
  obtain ⟨before, after, split⟩ := append_of_mem mem
  have names := collection.nodup_sidecarIds
  rw [split, map_append, map_cons, nodup_middle, nodup_cons, mem_append, not_or, answers] at names
  have others : ∀ sidecars : List Sidecar, answererId matcher ∉ sidecars.map sidecarId →
        sidecars.mapM (collection.resolveExistingItem store context matcher) =
          .ok (sidecars.map fun _ => none) := by
    intro _ absent
    apply mapM_resolveExistingItem_of_silent
    intro _ sidecarMem
    apply query_eq_none
    intro named
    exact absent (named ▸ mem_map_of_mem sidecarMem)
  have all : collection.sidecars.mapM (collection.resolveExistingItem store context matcher) =
      .ok ((before.map fun _ => none) ++ answer :: after.map fun _ => none) := by
    rw [split, mapM_append, others before names.1.1, mapM_cons, asked, others after names.1.2]
    rfl
  rw [fieldHits, all]
  cases answer <;> simp [bind, Except.bind, pure, Except.pure, Dict.firstBy, Dict.setDefault,
    filterMap_append]

theorem lookup_distinctOn (query : String → Item → Option (Option Range)) (mem : value ∈ values) :
    (distinctOn store query values).lookup value =
      (store.newest Item.transactionTime (query value)).map Prod.fst := by
  have entries : distinctOn store query values = values.dedup.filterMap fun value =>
      ((store.newest Item.transactionTime (query value)).map Prod.fst).map fun geoid =>
        (value, geoid) := by
    simp only [distinctOn, Option.map_map, Function.comp_def]
  rw [entries, Dict.lookup_filterMap, if_pos (List.mem_dedup.mpr mem)]

theorem resolve_externalId (mem : Sidecar.attributes config ∈ collection.sidecars)
    (asked : collection.batchResolveByExternalId store externalIds = .ok byExternalId)
    (listed : ∀ externalId, present context.externalId = some externalId → externalId ∈ externalIds)
    :
    ∃ answer, collection.resolveExistingItem store context .externalId (.attributes config) =
        .ok answer ∧
      answer.map ActiveRec.geoid =
        (present context.externalId).bind fun externalId => byExternalId.lookup externalId := by
  cases given : present context.externalId with
  | none =>
    simp [resolveExistingItem, query, given]
  | some externalId =>
    have inList := listed externalId given
    have found : collection.sidecars.find? (·.sidecarId = "attributes") =
        some (.attributes config) := by
      have some : (collection.sidecars.find? (·.sidecarId = "attributes")).isSome := by
        rw [find?_isSome]
        exact ⟨_, mem, by simp [sidecarId]⟩
      obtain ⟨_, eq⟩ := isSome_iff_exists.mp some
      rw [eq, eq_attributes mem (mem_of_find?_eq_some eq)
        (by simpa using find?_some eq)]
    obtain ⟨_, _, rfl⟩ := exists_cons_of_ne_nil (ne_nil_of_mem inList)
    unfold batchResolveByExternalId at asked
    rw [found] at asked
    cases enabled : config.enableExternalId with
    | false =>
      simp only [enabled] at asked
      cases asked
      simp [resolveExistingItem, query, enabled]
    | true =>
      cases located : collection.hasGeometries with
      | false => simp [enabled, located] at asked
      | true =>
        simp only [enabled, located, if_true] at asked
        cases asked
        refine ⟨_, by simp [resolveExistingItem, query, enabled, given, located]; rfl, ?_⟩
        rw [bind_some, lookup_distinctOn _ inList]
        simp [Option.map_map, Function.comp_def]

theorem resolve_geometryHash
    (asked : collection.batchResolveByGeometryHash store hashes = .ok byGeometryHash)
    (listed : ∀ hash, present context.geometryHash = some hash → hash ∈ hashes) :
    ∃ answer, collection.resolveExistingItem store context .geometryHash (.attributes config) =
        .ok answer ∧
      answer.map ActiveRec.geoid =
        (present context.geometryHash).bind fun hash => byGeometryHash.lookup hash := by
  cases given : present context.geometryHash with
  | none =>
    simp [resolveExistingItem, query, given]
  | some hash =>
    have inList := listed hash given
    obtain ⟨_, _, rfl⟩ := exists_cons_of_ne_nil (ne_nil_of_mem inList)
    unfold batchResolveByGeometryHash at asked
    cases located : collection.hasGeometries with
    | false => simp [located] at asked
    | true =>
      simp only [located, if_true] at asked
      cases asked
      refine ⟨_, by simp [resolveExistingItem, query, given, located]; rfl, ?_⟩
      rw [bind_some, lookup_distinctOn _ inList]
      simp [Option.map_map, Function.comp_def]

theorem ruleHits_of_answers
    (each : ∀ matcher ∈ matchers, collection.fieldHits store context matcher =
      .ok ((answer matcher).toList.map fun record => (record.geoid, record))) :
    collection.ruleHits store context matchers =
      .ok ((matchers.mapM answer).map (List.map fun record => [(record.geoid, record)])) := by
  induction matchers with
  | nil => rfl
  | cons matcher matchers ih =>
    rw [ruleHits_cons (each matcher (.head _)),
      ih fun other mem => each other (.tail _ mem),
      mapM_cons]
    cases answer matcher with
    | none => rfl
    | some =>
      cases matchers.mapM answer with
      | _ => rfl

theorem commonRecord_singletons (first : ActiveRec) (others : List ActiveRec) :
    commonRecord ((first :: others).map fun record => [(record.geoid, record)]) =
      if (others.map ActiveRec.geoid).all (· = first.geoid) then some first else none := by
  simp only [List.map_cons, commonRecord, List.find?_cons, List.find?_nil, List.all_map,
    Function.comp_def, List.any_cons, List.any_nil, Bool.or_false]
  split <;> rename_i condition <;> simp [condition]

theorem mapM_geoid (matchers : List ComputedKind) :
    matchers.mapM (fun matcher => (answer matcher).map ActiveRec.geoid) =
      (matchers.mapM answer).map (List.map ActiveRec.geoid) := by
  induction matchers with
  | nil => rfl
  | cons matcher matchers ih =>
    rw [mapM_cons, mapM_cons, ih]
    cases answer matcher with
    | none => rfl
    | some => cases matchers.mapM answer <;> rfl

theorem resolveRule_of_answers
    (each : ∀ matcher ∈ rule.matchOn, collection.fieldHits store context matcher =
      .ok ((answer matcher).toList.map fun record => (record.geoid, record)))
    (same : ∀ matcher ∈ rule.matchOn, (answer matcher).map ActiveRec.geoid =
      batchHit byExternalId byGeometryHash context matcher) :
    ∃ record, collection.resolveRule store context rule = .ok record ∧
      record.map ActiveRec.geoid = batchRule byExternalId byGeometryHash context rule := by
  have hits : rule.matchOn.mapM (batchHit byExternalId byGeometryHash context) =
      (rule.matchOn.mapM answer).map (map ActiveRec.geoid) := by
    rw [← mapM_geoid]
    exact mapM_congr fun matcher mem => (same matcher mem).symm
  unfold resolveRule batchRule
  rw [ruleHits_of_answers each, hits]
  cases rule.matchOn.mapM answer with
  | none => exact ⟨none, rfl, rfl⟩
  | some records =>
    cases records with
    | nil => exact ⟨none, rfl, rfl⟩
    | cons first others =>
      refine ⟨_, congrArg Except.ok (commonRecord_singletons first others), ?_⟩
      simp only [map_some, map_cons]
      split <;> rfl

theorem resolveRules_of_answers {rules : List IdentityRule}
    (each : ∀ rule ∈ rules, ∀ matcher ∈ rule.matchOn, collection.fieldHits store context matcher =
        .ok ((answer matcher).toList.map fun record => (record.geoid, record)))
    (same : ∀ rule ∈ rules, ∀ matcher ∈ rule.matchOn, (answer matcher).map ActiveRec.geoid =
      batchHit byExternalId byGeometryHash context matcher) :
    ∃ found, collection.resolveRules store context rules = .ok found ∧
      (found.map fun found => (found.1.geoid, found.2)) = rules.findSome? fun rule =>
        (batchRule byExternalId byGeometryHash context rule).map fun geoid => (geoid, rule) := by
  induction rules with
  | nil => exact ⟨none, rfl, rfl⟩
  | cons rule _ ih =>
    obtain ⟨record, own, ownEq⟩ := resolveRule_of_answers
      (each rule (.head _)) (same rule (.head _))
    obtain ⟨found, rest, restEq⟩ := ih (fun other mem => each other (.tail _ mem))
      (fun other mem => same other (.tail _ mem))
    rw [resolveRules, own, findSome?_cons, ← ownEq]
    cases record with
    | none => exact ⟨found, rest, restEq⟩
    | some record => exact ⟨some (record, rule), rfl, rfl⟩

def attributesAnswer (collection : Collection) (store : Store) (context : Context)
    (config : AttributesConfig) (matcher : ComputedKind) : Option ActiveRec :=
  (collection.resolveExistingItem store context matcher (.attributes config)).toOption.getD none

theorem attributesAnswer_of_batch (mem : Sidecar.attributes config ∈ collection.sidecars)
    (externals : collection.batchResolveByExternalId store externalIds = .ok byExternalId)
    (geometries : collection.batchResolveByGeometryHash store hashes = .ok byGeometryHash)
    (externalListed : ∀ externalId, present context.externalId = some externalId →
      externalId ∈ externalIds)
    (geometryListed : ∀ hash, present context.geometryHash = some hash → hash ∈ hashes)
    (batchable : isBatchable matcher) :
    collection.resolveExistingItem store context matcher (.attributes config) =
        .ok (collection.attributesAnswer store context config matcher) ∧
      (collection.attributesAnswer store context config matcher).map ActiveRec.geoid =
        batchHit byExternalId byGeometryHash context matcher := by
  have answered : ∃ answer,
      collection.resolveExistingItem store context matcher (.attributes config) = .ok answer ∧
        answer.map ActiveRec.geoid = batchHit byExternalId byGeometryHash context matcher := by
    cases matcher with
    | externalId => exact resolve_externalId mem externals externalListed
    | geometryHash => exact resolve_geometryHash geometries geometryListed
    | _ => cases batchable
  obtain ⟨answer, asked, same⟩ := answered
  have eq : collection.attributesAnswer store context config matcher = answer := by
    rw [attributesAnswer, asked]
    rfl
  rw [eq]
  exact ⟨asked, same⟩

/-- Where the lookups of the batch go through, each accepted plan gets from them what a
lookup of its own gives it, as far as the geoid goes. -/
theorem resolve_of_batchResolve (mem : plan ∈ plans)
    (asked : collection.batchResolve store plans plan.context = .ok found) :
    ∃ own, collection.resolve store plan.context = .ok own ∧
      (own.map fun own => (own.1.geoid, own.2)) =
        found.map fun found => (found.1.geoid, found.2) := by
  unfold batchResolve at asked
  cases batchable : collection.allRulesBatchable with
  | false =>
    rw [if_neg (by simp [batchable])] at asked
    exact ⟨found, asked, rfl⟩
  | true =>
    rw [if_pos batchable] at asked
    obtain ⟨_, externals, asked⟩ := exists_of_bind_eq_ok asked
    obtain ⟨_, geometries, asked⟩ := exists_of_bind_eq_ok asked
    cases asked
    obtain ⟨_, attributes⟩ := collection.attributed
    have each : ∀ rule ∈ collection.rules, ∀ matcher ∈ rule.matchOn, isBatchable matcher := by
      simpa [allRulesBatchable] using batchable
    have answer : ∀ rule ∈ collection.rules, ∀ matcher ∈ rule.matchOn, _ :=
      fun rule ruleMem matcher matcherMem =>
        attributesAnswer_of_batch attributes externals geometries
          (fun _ given => List.mem_filterMap.mpr ⟨plan, mem, given⟩)
          (fun _ given => List.mem_filterMap.mpr ⟨plan, mem, given⟩)
          (each rule ruleMem matcher matcherMem)
    obtain ⟨own, resolved, same⟩ := resolveRules_of_answers
      (fun rule ruleMem matcher matcherMem => fieldHits_of_answer attributes
        (answererId_of_batchable (each rule ruleMem matcher matcherMem)).symm
        (answer rule ruleMem matcher matcherMem).1)
      (fun rule ruleMem matcher matcherMem => (answer rule ruleMem matcher matcherMem).2)
    refine ⟨own, resolved, same.trans ?_⟩
    rw [List.map_findSome?]
    simp only [Option.map_map, Function.comp_def]

end Batch

/-! ## The decisions of the batch -/

theorem bare_decisionOn {policy : Option ItemsWritePolicy}
    (same : (left.map fun found => (found.1.geoid, found.2)) =
      right.map fun found => (found.1.geoid, found.2)) :
    (decisionOn policy left).bare = (decisionOn policy right).bare := by
  cases left with
  | none =>
    cases right with
    | none => rfl
    | some => cases same
  | some left =>
    cases right with
    | none => cases same
    | some right =>
      obtain ⟨⟨_, _⟩, rule⟩ := left
      obtain ⟨⟨_, _⟩, _⟩ := right
      obtain ⟨rfl, rfl⟩ := same
      simp only [decisionOn]
      by_cases guarded : policy.bind ItemsWritePolicy.onBatchConflict = some .refuse
      · rw [if_pos guarded, if_pos guarded]
      · rw [if_neg guarded, if_neg guarded]
        cases effectiveOnConflict policy rule <;> simp only [Decision.bare]

theorem decisions_of_batchDecisions
    (asked : collection.batchDecisions store plans = .ok decisions) :
    List.Forall₂ (fun plan entry => entry.1 = plan ∧
      ∃ own, collection.decision store plan = .ok own ∧ own.bare = entry.2.bare)
      plans decisions := by
  have each := (forall₂_and_left plans decisions).mpr
    ⟨fun plan (mem : plan ∈ plans) => mem, forall₂_of_mapM asked⟩
  refine each.imp ?_
  intro plan _ both
  obtain ⟨mem, taken⟩ := both
  unfold decision
  cases refused : collection.unacceptable plan with
  | some =>
    rw [refused] at taken
    cases taken
    exact ⟨rfl, _, rfl, rfl⟩
  | none =>
    simp only [refused] at taken
    obtain ⟨_, found, taken⟩ := exists_of_bind_eq_ok taken
    cases taken
    have isAccepted : plan ∈ collection.accepted plans :=
      mem_filter.mpr ⟨mem, by simp [refused]⟩
    obtain ⟨own, resolved, same⟩ := resolve_of_batchResolve isAccepted found
    refine ⟨rfl, decisionOn collection.policy own, ?_, bare_decisionOn same⟩
    rw [resolved]

theorem exists_decision_of_entry (taken : collection.batchDecisions store chunk = .ok decisions)
    (mem : entry ∈ decisions) :
    entry.1 ∈ chunk ∧
      ∃ own, collection.decision store entry.1 = .ok own ∧ own.bare = entry.2.bare := by
  obtain ⟨_, planMem, rfl, own⟩ := exists_left_of_mem (decisions_of_batchDecisions taken) mem
  exact ⟨planMem, own⟩

theorem exists_entry_of_plan (taken : collection.batchDecisions store chunk = .ok decisions)
    (mem : plan ∈ chunk) : ∃ decision, (plan, decision) ∈ decisions := by
  obtain ⟨entry, entryMem, rfl, _⟩ := exists_right_of_mem (decisions_of_batchDecisions taken) mem
  exact ⟨entry.2, entryMem⟩

theorem mem_insertPartition : plan ∈ insertPartition decisions ↔ (plan, .insert) ∈ decisions := by
  simp [insertPartition]

/-! ## Lookups of a located collection -/

section Located

variable (located : collection.hasGeometries = true)

include located

end Located

end Collection

end Dynastore.Ingest
