import Dynastore.Workclass.Bulk
import Dynastore.Workclass.Storage

/-! `ESBulkIndexer` turns index operations into a `_bulk` request and reports for each operation
whether it passed, may be retried or is poison. It correlates the answer with the operations through
their idempotency keys, so of several operations with one key only the last is ever reported. -/

namespace Dynastore.Workclass

open List Option

structure IndexableOp where
  opId : Nat
  op : StorageOp
  catalogId : String
  collectionId : String
  itemId : Option String
  payload : Document
  idempotencyKey : String

structure BulkIndexResult where
  passed : List Nat
  transient : List (Nat × String)
  poison : List (Nat × String)

def BulkIndexResult.Reports (result : BulkIndexResult) (opId : Nat) : Verdict → Prop
  | .passed => opId ∈ result.passed
  | .transient reason => (opId, reason) ∈ result.transient
  | .poison reason => (opId, reason) ∈ result.poison

/-- What the adapter asks the wrapped driver for. `degrade` gives the
candidates of the geometry ladder, coarser and coarser, and none for a document
without a geometry. -/
structure EsItemsDriver where
  itemsIndexName : String → String
  collectionRouting : String → Option String
  simplify : String → String → Document → Document
  degrade : Document → List Document

namespace EsItemsDriver

variable {Address : Type} [DecidableEq Address]

def actionTarget (driver : EsItemsDriver) (op : IndexableOp) : BulkTarget where
  index := driver.itemsIndexName op.catalogId
  id := op.idempotencyKey
  routing := driver.collectionRouting op.collectionId

def simplifyPayload (driver : EsItemsDriver) (op : IndexableOp) : Document :=
  driver.simplify op.catalogId op.collectionId op.payload

def action (driver : EsItemsDriver) (op : IndexableOp) : BulkAction :=
  match op.op with
  | .delete => .delete (driver.actionTarget op)
  | .upsert => .index (driver.actionTarget op) (driver.simplifyPayload op)

def opByKey (ops : List IndexableOp) : List (String × IndexableOp) :=
  Dict.collect IndexableOp.idempotencyKey id ops

def docByKey (driver : EsItemsDriver) (ops : List IndexableOp) : List (String × Document) :=
  Dict.collect IndexableOp.idempotencyKey driver.simplifyPayload
    (ops.filter fun op => op.op == .upsert)

/-- The document that `retry_doc_with_ladder` gets accepted for a rejected key,
and where. -/
def recovered (driver : EsItemsDriver) (cluster : EsCluster Address) (ops : List IndexableOp)
    (key : String) : Option (BulkTarget × Document) :=
  match (opByKey ops).lookup key, (driver.docByKey ops).lookup key with
  | some op, some doc =>
    let target : BulkTarget :=
      { index := driver.itemsIndexName op.catalogId
        id := key
        routing := if op.collectionId = "" then none else some op.collectionId }
    ((driver.degrade doc).find? (cluster.accepts target)).map fun candidate =>
      (target, candidate)
  | _, _ => none

/-- One pass of the loop over the poison pairs, on the stored documents. -/
def recover (driver : EsItemsDriver) (cluster : EsCluster Address) (ops : List IndexableOp)
    (documents : EsDocuments Address) (pair : String × String) : EsDocuments Address :=
  match driver.recovered cluster ops pair.1 with
  | some (target, candidate) =>
    Function.update documents (cluster.locate target) (some candidate)
  | none => documents

def classifyResponse (driver : EsItemsDriver) (cluster : EsCluster Address)
    (documents : EsDocuments Address) (ops : List IndexableOp) (items : List BulkItem) :
    EsDocuments Address × BulkIndexResult :=
  let classified := classifyBulkResponse items (ops.map IndexableOp.idempotencyKey)
  let opId := fun key => ((opByKey ops).lookup key).map IndexableOp.opId
  let reported := fun pair : String × String => (opId pair.1).map fun id => (id, pair.2)
  let recoveredPairs := classified.poison.filter fun pair =>
    (driver.recovered cluster ops pair.1).isSome
  let remainingPairs := classified.poison.filter fun pair =>
    (driver.recovered cluster ops pair.1).isNone
  (recoveredPairs.foldl (driver.recover cluster ops) documents,
    { passed := (classified.passed ++ recoveredPairs.map Prod.fst).filterMap opId
      transient := classified.transient.filterMap reported
      poison := remainingPairs.filterMap reported })

/-- `index_bulk`. `failure` is the reason when the bulk call raises before
anything reaches the cluster. -/
def indexBulk (driver : EsItemsDriver) (cluster : EsCluster Address) (failure : Option String)
    (documents : EsDocuments Address) (ops : List IndexableOp) :
    EsDocuments Address × BulkIndexResult :=
  match ops, failure with
  | [], _ => (documents, ⟨[], [], []⟩)
  | ops, some reason =>
    (documents, { passed := [], transient := ops.map fun op => (op.opId, reason), poison := [] })
  | ops, none =>
    let answer := cluster.bulk documents (ops.map driver.action)
    driver.classifyResponse cluster answer.1 ops answer.2

/-! ## What the indexer reports -/

theorem lookup_opByKey :
    (opByKey ops).lookup key = ops.reverse.find? (·.idempotencyKey = key) := by
  rw [opByKey, Dict.lookup_collect, Option.map_id]
  rfl

theorem opByKey_mem (found : (opByKey ops).lookup key = some op) :
    op ∈ ops ∧ op.idempotencyKey = key := by
  obtain ⟨_, mem, sameKey, rfl⟩ := Dict.of_lookup_collect found
  exact ⟨mem, sameKey⟩

variable {before after : List IndexableOp}

theorem opByKey_of_last (last : ∀ later ∈ after, later.idempotencyKey ≠ op.idempotencyKey) :
    (opByKey (before ++ op :: after)).lookup op.idempotencyKey = some op := by
  have laterMiss : after.reverse.find? (·.idempotencyKey = op.idempotencyKey) = none := by
    rw [find?_eq_none]
    intro later mem
    simpa using last later (mem_reverse.mp mem)
  rw [lookup_opByKey, reverse_append, reverse_cons, append_assoc,
    find?_append, laterMiss, none_or, singleton_append,
    find?_cons_of_pos (by simp)]

theorem last_of_opByKey (distinct : ((before ++ op :: after).map IndexableOp.opId).Nodup)
    (found : (opByKey (before ++ op :: after)).lookup op.idempotencyKey = some op) :
    ∀ later ∈ after, later.idempotencyKey ≠ op.idempotencyKey := by
  intro later mem same
  obtain ⟨first, second, rfl⟩ := append_of_mem mem
  -- the last operation of the rest with the key answers for it
  have laterHit : ((first ++ later :: second).reverse.find?
      (·.idempotencyKey = op.idempotencyKey)).isSome := by
    rw [find?_isSome]
    exact ⟨later, by simp, by simpa using same⟩
  obtain ⟨_, answeringEq⟩ := isSome_iff_exists.mp laterHit
  rw [lookup_opByKey, reverse_append, reverse_cons, append_assoc,
    find?_append, answeringEq, some_or] at found
  cases found
  have inRest := mem_reverse.mp (mem_of_find?_eq_some answeringEq)
  rw [map_append, map_cons] at distinct
  have fresh := (nodup_cons.mp (nodup_append.mp distinct).2.1).1
  exact fresh (mem_map_of_mem inRest)

def answerOf (driver : EsItemsDriver) (cluster : EsCluster Address)
    (documents : EsDocuments Address) (before : List IndexableOp) (op : IndexableOp) : BulkItem :=
  (cluster.act (cluster.bulk documents (before.map driver.action)).1 (driver.action op)).2

theorem itemId_answerOf (driver : EsItemsDriver) (documents : EsDocuments Address) :
    (driver.answerOf cluster documents before op).itemId op.idempotencyKey =
      op.idempotencyKey := by
  have answered : (driver.answerOf cluster documents before op).id = some op.idempotencyKey := by
    rw [answerOf, action]
    cases op.op with
    | delete =>
      simp only [EsCluster.act]
      split <;> rfl
    | upsert => rfl
  rw [BulkItem.itemId, answered]
  simp

section Reports

variable (driver : EsItemsDriver) (cluster : EsCluster Address) (documents : EsDocuments Address)
  {ops : List IndexableOp}

theorem has_bulk (verdict : Verdict) :
    (classifyBulkResponse (cluster.bulk documents (ops.map driver.action)).2
        (ops.map IndexableOp.idempotencyKey)).Has key verdict ↔
      ∃ before op after, ops = before ++ op :: after ∧ op.idempotencyKey = key ∧
        classifyItem (driver.answerOf cluster documents before op) = verdict := by
  rw [has_classify (by simp [cluster.length_bulk])]
  constructor
  · rintro ⟨_, mem, rfl, rfl⟩
    obtain ⟨before, op, after, split, rfl⟩ := (cluster.mem_zip_bulk _).mp mem
    exact ⟨before, op, after, split, (driver.itemId_answerOf documents).symm, rfl⟩
  · rintro ⟨before, op, after, split, rfl, rfl⟩
    refine ⟨(driver.answerOf cluster documents before op, op.idempotencyKey), ?_,
      (driver.itemId_answerOf documents).symm, rfl⟩
    exact (cluster.mem_zip_bulk _).mpr ⟨before, op, after, split, rfl⟩

variable {op : IndexableOp}

/-- With distinct operation ids, reports name an operation through its own key
only. -/
theorem opId_opByKey (distinct : (ops.map IndexableOp.opId).Nodup) (mem : op ∈ ops)
    (key : String) :
    ((opByKey ops).lookup key).map IndexableOp.opId = some op.opId ↔
      key = op.idempotencyKey ∧ (opByKey ops).lookup op.idempotencyKey = some op := by
  constructor
  · intro named
    obtain ⟨other, found, sameId⟩ := map_eq_some_iff.mp named
    obtain ⟨otherMem, otherKey⟩ := opByKey_mem found
    have same : other = op := inj_on_of_nodup_map distinct otherMem mem sameId
    rw [same] at found otherKey
    exact ⟨otherKey.symm, otherKey ▸ found⟩
  · rintro ⟨rfl, found⟩
    rw [found, map_some]

theorem indexBulk_of_mem (mem : op ∈ ops) : driver.indexBulk cluster none documents ops =
      driver.classifyResponse cluster (cluster.bulk documents (ops.map driver.action)).1 ops
        (cluster.bulk documents (ops.map driver.action)).2 := by
  cases ops with
  | nil => cases mem
  | cons => rfl

theorem transient_ne_nil (split : ops = before ++ op :: after)
    (verdict : classifyItem (driver.answerOf cluster documents before op) = .transient reason) :
    (driver.indexBulk cluster none documents ops).2.transient ≠ [] := by
  have mem : op ∈ ops := by rw [split]; simp
  rw [driver.indexBulk_of_mem cluster documents mem]
  have classified : (op.idempotencyKey, reason) ∈
      (classifyBulkResponse (cluster.bulk documents (ops.map driver.action)).2
        (ops.map IndexableOp.idempotencyKey)).transient :=
    (driver.has_bulk cluster documents (.transient reason)).mpr
      ⟨before, op, after, split, rfl, verdict⟩
  have answered : ((opByKey ops).lookup op.idempotencyKey).isSome := by
    rw [lookup_opByKey, find?_isSome]
    exact ⟨op, mem_reverse.mpr mem, by simp⟩
  obtain ⟨answering, found⟩ := isSome_iff_exists.mp answered
  apply ne_nil_of_mem (a := (answering.opId, reason))
  exact mem_filterMap.mpr ⟨_, classified, by simp [found]⟩

/-- What the answer to a bulk request makes the indexer report for an
operation: nothing, unless the operation answers for its key, and then the
verdicts on all entries under that key. -/
theorem reports_classifyResponse (distinct : (ops.map IndexableOp.opId).Nodup) (mem : op ∈ ops)
    (items : List BulkItem) (verdict : Verdict) :
    (driver.classifyResponse cluster documents ops items).2.Reports op.opId verdict ↔
      (opByKey ops).lookup op.idempotencyKey = some op ∧
        ∃ given, (classifyBulkResponse items (ops.map IndexableOp.idempotencyKey)).Has
            op.idempotencyKey given ∧
          given.settled (driver.recovered cluster ops op.idempotencyKey).isSome = verdict := by
  have named := opId_opByKey distinct mem
  have namedPair : ∀ (pair : String × String) (reason : String),
      (((opByKey ops).lookup pair.1).map IndexableOp.opId).map (fun id => (id, pair.2)) =
          some (op.opId, reason) ↔
        pair = (op.idempotencyKey, reason) ∧
          (opByKey ops).lookup op.idempotencyKey = some op := by
    rintro ⟨key, given⟩ reason
    constructor
    · intro found
      obtain ⟨_, idFound, pairEq⟩ := Option.map_eq_some_iff.mp found
      cases pairEq
      obtain ⟨rfl, answers⟩ := (named key).mp idFound
      exact ⟨rfl, answers⟩
    · rintro ⟨⟨⟩, answers⟩
      rw [(named _).mpr ⟨rfl, answers⟩, Option.map_some]
  cases verdict with
  | passed =>
    simp only [BulkIndexResult.Reports, classifyResponse, List.mem_filterMap, List.mem_append,
      List.mem_map, List.mem_filter, named, Verdict.settled_eq_passed_iff, Verdict.isPoison_iff]
    constructor
    · rintro ⟨_, passed | ⟨⟨_, reason⟩, ⟨poison, saved⟩, rfl⟩, rfl, answers⟩
      · exact ⟨answers, .passed, passed, .inl rfl⟩
      · exact ⟨answers, .poison reason, poison, .inr ⟨⟨reason, rfl⟩, saved⟩⟩
    · rintro ⟨answers, _, has, rfl | ⟨⟨reason, rfl⟩, saved⟩⟩
      · exact ⟨_, .inl has, rfl, answers⟩
      · exact ⟨_, .inr ⟨_, ⟨has, saved⟩, rfl⟩, rfl, answers⟩
  | transient reason =>
    simp only [BulkIndexResult.Reports, classifyResponse, List.mem_filterMap, namedPair,
      Verdict.settled_eq_transient_iff]
    constructor
    · rintro ⟨_, transient, rfl, answers⟩
      exact ⟨answers, .transient reason, transient, rfl⟩
    · rintro ⟨answers, _, has, rfl⟩
      exact ⟨_, has, rfl, answers⟩
  | poison reason =>
    simp only [BulkIndexResult.Reports, classifyResponse, List.mem_filterMap, List.mem_filter,
      namedPair, Verdict.settled_eq_poison_iff]
    constructor
    · rintro ⟨_, ⟨poison, unsaved⟩, rfl, answers⟩
      exact ⟨answers, .poison reason, poison, by simpa using unsaved, rfl⟩
    · rintro ⟨answers, _, has, unsaved, rfl⟩
      exact ⟨_, ⟨has, by simpa using unsaved⟩, rfl, answers⟩

theorem mem_passed_indexBulk (distinct : (ops.map IndexableOp.opId).Nodup) (mem : op ∈ ops) :
    op.opId ∈ (driver.indexBulk cluster none documents ops).2.passed ↔
      (opByKey ops).lookup op.idempotencyKey = some op ∧
        ∃ before other after, ops = before ++ other :: after ∧
          other.idempotencyKey = op.idempotencyKey ∧
          (classifyItem (driver.answerOf cluster documents before other) = .passed ∨
            ((classifyItem (driver.answerOf cluster documents before other)).isPoison ∧
              (driver.recovered cluster ops op.idempotencyKey).isSome)) := by
  rw [driver.indexBulk_of_mem cluster documents mem]
  refine (driver.reports_classifyResponse cluster _ distinct mem _ .passed).trans
    (and_congr_right fun _ => ?_)
  simp only [has_bulk, Verdict.settled_eq_passed_iff]
  constructor
  · rintro ⟨_, ⟨before, other, after, split, same, rfl⟩, passes⟩
    exact ⟨before, other, after, split, same, passes⟩
  · rintro ⟨before, other, after, split, same, passes⟩
    exact ⟨_, ⟨before, other, after, split, same, rfl⟩, passes⟩

theorem mem_poison_indexBulk (distinct : (ops.map IndexableOp.opId).Nodup) (mem : op ∈ ops) :
    op.opId ∈ (driver.indexBulk cluster none documents ops).2.poison.map Prod.fst ↔
      (opByKey ops).lookup op.idempotencyKey = some op ∧
        (driver.recovered cluster ops op.idempotencyKey).isNone ∧
        ∃ before other after, ops = before ++ other :: after ∧
          other.idempotencyKey = op.idempotencyKey ∧
          (classifyItem (driver.answerOf cluster documents before other)).isPoison := by
  rw [driver.indexBulk_of_mem cluster documents mem, List.mem_map]
  have reported := fun reason =>
    driver.reports_classifyResponse cluster (cluster.bulk documents (ops.map driver.action)).1
      distinct mem (cluster.bulk documents (ops.map driver.action)).2 (.poison reason)
  simp only [BulkIndexResult.Reports, has_bulk, Verdict.settled_eq_poison_iff] at reported
  constructor
  · rintro ⟨⟨_, reason⟩, poison, rfl⟩
    obtain ⟨answers, _, ⟨before, other, after, split, same, verdict⟩, unsaved, rfl⟩ :=
      (reported reason).mp poison
    exact ⟨answers, by simpa using unsaved, before, other, after, split, same,
      (Verdict.isPoison_iff _).mpr ⟨reason, verdict⟩⟩
  · rintro ⟨answers, unsaved, before, other, after, split, same, poison⟩
    obtain ⟨reason, verdict⟩ := (Verdict.isPoison_iff _).mp poison
    exact ⟨(op.opId, reason), (reported reason).mpr ⟨answers, _,
      ⟨before, other, after, split, same, verdict⟩, by simpa using unsaved, rfl⟩, rfl⟩

omit [DecidableEq Address] in
/-- With one operation to a key, only its own document can be recovered. -/
theorem recovered_of_unique (mem : op ∈ ops)
    (unique : ∀ other ∈ ops, other.idempotencyKey = op.idempotencyKey → other = op) :
    driver.recovered cluster ops op.idempotencyKey =
      driver.recovered cluster [op] op.idempotencyKey := by
  have answering : ∀ ops : List IndexableOp, op ∈ ops →
      (∀ other ∈ ops, other.idempotencyKey = op.idempotencyKey → other = op) →
      (opByKey ops).lookup op.idempotencyKey = some op ∧
        (driver.docByKey ops).lookup op.idempotencyKey =
          if op.op = .upsert then some (driver.simplifyPayload op) else none := by
    intro ops mem unique
    refine ⟨Dict.lookup_collect_of_unique mem unique, ?_⟩
    split
    next isUpsert =>
      refine Dict.lookup_collect_of_unique (mem_filter.mpr ⟨mem, by simpa using isUpsert⟩)
        fun other otherMem => unique other (mem_of_mem_filter otherMem)
    next notUpsert =>
      rw [docByKey, Dict.lookup_collect, map_eq_none_iff, find?_eq_none]
      intro other otherMem sameKey
      obtain ⟨inOps, isUpsert⟩ := mem_filter.mp (mem_reverse.mp otherMem)
      rw [unique other inOps (by simpa using sameKey)] at isUpsert
      exact notUpsert (by simpa using isUpsert)
  obtain ⟨opFound, docFound⟩ := answering ops mem unique
  obtain ⟨ownFound, ownDoc⟩ := answering [op] mem_cons_self (by simp)
  rw [recovered, recovered, opFound, docFound, ownFound, ownDoc]

/-- Each operation is reported once, with the verdict of its own entry, exactly
when no two operations of the request have the same idempotency key. Every entry
is under the id of its action, or has none. -/
theorem reports_own_entry_iff (entries : List (IndexableOp × BulkItem))
    (distinct : (entries.map fun entry => entry.1.opId).Nodup)
    (echoed : ∀ entry ∈ entries, entry.2.itemId entry.1.idempotencyKey = entry.1.idempotencyKey) :
    (∀ entry ∈ entries, ∀ verdict, (driver.classifyResponse cluster documents (entries.map Prod.fst)
          (entries.map Prod.snd)).2.Reports entry.1.opId verdict ↔
          verdict = (classifyItem entry.2).settled
            (driver.recovered cluster [entry.1] entry.1.idempotencyKey).isSome) ↔
      (entries.map fun entry => entry.1.idempotencyKey).Nodup := by
  have distinctOps : ((entries.map Prod.fst).map IndexableOp.opId).Nodup := by
    simpa [Function.comp_def] using distinct
  have reported := fun entry (mem : entry ∈ entries) =>
    driver.reports_classifyResponse cluster documents distinctOps
      (mem_map_of_mem mem) (entries.map Prod.snd)
  constructor
  · intro own
    have answers := fun entry (mem : entry ∈ entries) =>
      ((reported entry mem _).mp ((own entry mem _).mpr rfl)).1
    refine (List.Nodup.of_map _ distinct).map_on fun left leftMem right rightMem sameKey => ?_
    have sameOp := (answers left leftMem).symm.trans (sameKey ▸ answers right rightMem)
    exact inj_on_of_nodup_map distinct leftMem rightMem
      (congrArg IndexableOp.opId (some.inj sameOp))
  · intro keys entry mem verdict
    have unique : ∀ other ∈ entries,
        other.1.idempotencyKey = entry.1.idempotencyKey → other = entry :=
      fun other otherMem sameKey => inj_on_of_nodup_map keys otherMem mem sameKey
    have uniqueOp : ∀ other ∈ entries.map Prod.fst,
        other.idempotencyKey = entry.1.idempotencyKey → other = entry.1 := by
      intro other otherMem sameKey
      obtain ⟨otherEntry, entryMem, rfl⟩ := mem_map.mp otherMem
      rw [unique otherEntry entryMem sameKey]
    have opMem : entry.1 ∈ entries.map Prod.fst := mem_map_of_mem mem
    have classified : ∀ given, (classifyBulkResponse (entries.map Prod.snd)
        ((entries.map Prod.fst).map IndexableOp.idempotencyKey)).Has
          entry.1.idempotencyKey given ↔ given = classifyItem entry.2 := by
      intro given
      rw [has_classify (by simp), List.map_map, List.zip_map']
      constructor
      · rintro ⟨_, pairMem, sameKey, rfl⟩
        obtain ⟨other, otherMem, rfl⟩ := mem_map.mp pairMem
        rw [unique other otherMem ((echoed other otherMem).symm.trans sameKey.symm)]
      · rintro rfl
        exact ⟨_, mem_map_of_mem mem, (echoed entry mem).symm, rfl⟩
    rw [reported entry mem verdict, driver.recovered_of_unique cluster opMem uniqueOp]
    constructor
    · rintro ⟨_, given, has, rfl⟩
      rw [(classified given).mp has]
    · rintro rfl
      exact ⟨Dict.lookup_collect_of_unique opMem uniqueOp, _, (classified _).mpr rfl, rfl⟩

end Reports

end EsItemsDriver

def plainDriver : EsItemsDriver where
  itemsIndexName catalogId := catalogId ++ "-items"
  collectionRouting collectionId := some collectionId
  simplify _ _ payload := payload
  degrade _ := []

def openCluster : EsCluster BulkTarget where
  locate := id
  index _ _ := { status := some 201 }

def sentOp (opId : Nat) (op : StorageOp) (key : String) : IndexableOp where
  opId := opId
  op := op
  catalogId := "c"
  collectionId := "k"
  itemId := some key
  payload := []
  idempotencyKey := key

theorem reports_own_entry_two_items :
    ([sentOp 1 .upsert "i", sentOp 2 .delete "j"].map IndexableOp.idempotencyKey).Nodup ∧
      ∀ verdict, (plainDriver.classifyResponse openCluster (fun _ => none)
          [sentOp 1 .upsert "i", sentOp 2 .delete "j"]
          [{ status := some 201 }, { status := some 404 }]).2.Reports 2 verdict ↔
        verdict = .poison "404 no reason" :=
  ⟨by decide, (plainDriver.reports_own_entry_iff openCluster (fun _ => none)
    [(sentOp 1 .upsert "i", { status := some 201 }),
      (sentOp 2 .delete "j", { status := some 404 })] (by decide) (by decide)).mpr (by decide)
    (sentOp 2 .delete "j", { status := some 404 }) (by simp)⟩

/-- An upsert and a delete of one item are sent together and both succeed. -/
theorem first_of_key_unreported : ¬ ∀ (driver : EsItemsDriver) (cluster : EsCluster BulkTarget)
        (documents : EsDocuments BulkTarget) (entries : List (IndexableOp × BulkItem)),
      (entries.map fun entry => entry.1.opId).Nodup →
      (∀ entry ∈ entries, entry.2.itemId entry.1.idempotencyKey = entry.1.idempotencyKey) →
      ∀ entry ∈ entries, ∀ verdict,
        (driver.classifyResponse cluster documents (entries.map Prod.fst)
          (entries.map Prod.snd)).2.Reports entry.1.opId verdict ↔
          verdict = (classifyItem entry.2).settled
            (driver.recovered cluster [entry.1] entry.1.idempotencyKey).isSome := by
  intro own
  have reported := (own plainDriver openCluster (fun _ => none)
    [(sentOp 1 .upsert "i", { status := some 201 }), (sentOp 2 .delete "i", { status := some 200 })]
    (by decide) (by decide) (sentOp 1 .upsert "i", { status := some 201 }) (.head _)
    .passed).mpr rfl
  exact absurd (show 1 ∈ [2, 2] from reported) (by decide)

end Dynastore.Workclass
