import Dynastore.Foundation.Value

/-! What an Elasticsearch cluster makes of a `_bulk` request, and how `bulk_classify.py` reads its
answer. Actions are applied in the order of the request. A delete of a document that is not there is
answered with status 404 and without an error object; which documents the cluster accepts is left to
it. -/

namespace Dynastore.Workclass

structure BulkTarget where
  index : String
  id : String
  routing : Option String
deriving DecidableEq, Repr

inductive BulkAction where
  | delete (target : BulkTarget)
  | index (target : BulkTarget) (source : Document)

structure ErrorCause where
  type : Option String := none
  reason : Option String := none
deriving DecidableEq, Repr

structure ErrorObject extends ErrorCause where
  causedBy : List ErrorCause := []
deriving DecidableEq, Repr

structure BulkItem where
  id : Option String := none
  status : Option Int := none
  error : Option ErrorObject := none
deriving DecidableEq, Repr

def BulkItem.accepted (item : BulkItem) : Bool :=
  item.error.isNone && decide (200 ≤ item.status.getD 200) && decide (item.status.getD 200 < 300)

/-! ## Classification -/

def maxReasonLen : Nat := 2000

def maxCausedByDepth : Nat := 5

def transientErrorTypes : List String :=
  ["es_rejected_execution_exception", "cluster_block_exception", "circuit_breaking_exception",
    "node_not_connected_exception", "process_cluster_event_timeout_exception"]

def poisonErrorTypes : List String :=
  ["mapper_parsing_exception", "illegal_argument_exception", "version_conflict_engine_exception",
    "document_missing_exception", "type_missing_exception", "invalid_shape_exception"]

def ErrorCause.text (cause : ErrorCause) : String :=
  cause.type.getD "unknown" ++ ": " ++ cause.reason.getD "no reason"

def formatErrorReason : Option ErrorObject → String
  | none => "no reason"
  | some error =>
    let parts := ((error.toErrorCause :: error.causedBy).take maxCausedByDepth).map ErrorCause.text
    let text := " | caused by: ".intercalate parts
    if maxReasonLen < text.length then
      String.ofList (text.toList.take maxReasonLen) ++ "...(truncated)"
    else text

inductive Verdict where
  | passed
  | transient (reason : String)
  | poison (reason : String)
deriving DecidableEq, Repr

def Verdict.isPoison : Verdict → Bool
  | poison _ => true
  | _ => false

theorem Verdict.isPoison_iff (verdict : Verdict) :
    verdict.isPoison ↔ ∃ reason, verdict = .poison reason := by
  cases verdict <;> simp [isPoison]

/-- The verdict that counts in the end: a rejection that the geometry ladder
recovers is a pass. -/
def Verdict.settled (saved : Bool) : Verdict → Verdict
  | poison reason => if saved then passed else poison reason
  | verdict => verdict

theorem Verdict.settled_eq_passed_iff (verdict : Verdict) :
    verdict.settled saved = .passed ↔
      verdict = .passed ∨ (verdict.isPoison ∧ saved) := by
  cases verdict <;> simp [settled, isPoison]

theorem Verdict.settled_eq_transient_iff (verdict : Verdict) :
    verdict.settled saved = .transient reason ↔ verdict = .transient reason := by
  cases verdict <;> cases saved <;> simp [settled]

theorem Verdict.settled_eq_poison_iff (verdict : Verdict) :
    verdict.settled saved = .poison reason ↔ saved = false ∧ verdict = .poison reason := by
  cases verdict <;> cases saved <;> simp [settled]

/-- The branch of `classify_bulk_response` that an entry takes. -/
def classifyItem (item : BulkItem) : Verdict :=
  let status := item.status.getD 200
  let errType := (item.error.bind fun error => error.type).getD "unknown"
  let errReason := formatErrorReason item.error
  if item.accepted then .passed
  else if status = 429 then .transient ("429 rate-limited: " ++ errReason)
  else if errType ∈ transientErrorTypes ∨ 500 ≤ status then
    .transient (toString status ++ " " ++ errReason)
  else if errType ∈ poisonErrorTypes ∨ (400 ≤ status ∧ status < 500) then
    .poison (toString status ++ " " ++ errReason)
  else .transient (toString status ++ " " ++ errReason)

def BulkItem.itemId (item : BulkItem) (docId : String) : String :=
  match item.id with
  | some id => if id = "" then docId else id
  | none => docId

structure Classified where
  passed : List String
  transient : List (String × String)
  poison : List (String × String)

def Classified.add (classified : Classified) (id : String) : Verdict → Classified
  | .passed => { classified with passed := id :: classified.passed }
  | .transient reason => { classified with transient := (id, reason) :: classified.transient }
  | .poison reason => { classified with poison := (id, reason) :: classified.poison }

def classifyBulkResponse : List BulkItem → List String → Classified
  | _, [] => ⟨[], [], []⟩
  | [], docId :: ids =>
    (classifyBulkResponse [] ids).add docId
      (.transient "no bulk response entry for submitted id (truncated response)")
  | item :: items, docId :: ids =>
    (classifyBulkResponse items ids).add (item.itemId docId) (classifyItem item)

theorem classifyItem_eq_passed_iff : classifyItem item = .passed ↔ item.accepted := by
  rw [classifyItem]
  split_ifs <;> simp_all

theorem classifyItem_notFound (id : Option String) :
    classifyItem { id := id, status := some 404 } = .poison "404 no reason" := by
  rfl

def Classified.Has (classified : Classified) (id : String) : Verdict → Prop
  | .passed => id ∈ classified.passed
  | .transient reason => (id, reason) ∈ classified.transient
  | .poison reason => (id, reason) ∈ classified.poison

theorem Classified.has_add (classified : Classified) (id : String) :
    (classified.add added given).Has id verdict ↔
      (id = added ∧ verdict = given) ∨ classified.Has id verdict := by
  cases given <;> cases verdict <;> simp [Classified.add, Classified.Has]

theorem has_classify {id : String} (sameLength : items.length = ids.length) :
    (classifyBulkResponse items ids).Has id verdict ↔
      ∃ pair ∈ items.zip ids, id = pair.1.itemId pair.2 ∧ verdict = classifyItem pair.1 := by
  induction items generalizing ids with
  | nil =>
    have noIds : ids = [] := List.length_eq_zero_iff.mp sameLength.symm
    rw [noIds]
    cases verdict <;> simp [classifyBulkResponse, Classified.Has]
  | cons _ _ ih =>
    cases ids with
    | nil => cases sameLength
    | cons =>
      rw [classifyBulkResponse, Classified.has_add, ih (Nat.succ.inj sameLength)]
      simp

/-! ## The cluster -/

/-- Where an action's document lives, and what the cluster answers to a
document it is asked to index there. -/
structure EsCluster (Address : Type) where
  locate : BulkTarget → Address
  index : Address → Document → BulkItem

abbrev EsDocuments (Address : Type) := Address → Option Document

namespace EsCluster

variable {Address : Type} [DecidableEq Address] (cluster : EsCluster Address)

def accepts (target : BulkTarget) (source : Document) : Bool :=
  (cluster.index (cluster.locate target) source).accepted

def act (documents : EsDocuments Address) : BulkAction → EsDocuments Address × BulkItem
  | .delete target =>
    match documents (cluster.locate target) with
    | some _ =>
      (Function.update documents (cluster.locate target) none,
        { id := some target.id, status := some 200 })
    | none => (documents, { id := some target.id, status := some 404 })
  | .index target source =>
    (if cluster.accepts target source then
      Function.update documents (cluster.locate target) (some source) else documents,
      { cluster.index (cluster.locate target) source with id := some target.id })

def bulk : EsDocuments Address → List BulkAction → EsDocuments Address × List BulkItem
  | documents, [] => (documents, [])
  | documents, action :: actions =>
    ((bulk (cluster.act documents action).1 actions).1,
      (cluster.act documents action).2 :: (bulk (cluster.act documents action).1 actions).2)

theorem length_bulk : (cluster.bulk documents actions).2.length = actions.length := by
  induction actions generalizing documents with
  | nil => rfl
  | cons _ _ ih => simp [bulk, ih]

theorem mem_zip_bulk (id : Op → String) :
    pair ∈ (cluster.bulk documents (ops.map action)).2.zip (ops.map id) ↔
      ∃ before op after, ops = before ++ op :: after ∧
        pair = ((cluster.act (cluster.bulk documents (before.map action)).1 (action op)).2,
          id op) := by
  induction ops generalizing documents with
  | nil => simp [bulk]
  | cons head rest ih =>
    rw [List.map_cons, bulk, List.map_cons, List.zip_cons_cons, List.mem_cons, ih]
    constructor
    · rintro (rfl | ⟨before, op, after, rfl, rfl⟩)
      · exact ⟨[], head, rest, rfl, rfl⟩
      · exact ⟨head :: before, op, after, rfl, rfl⟩
    · rintro ⟨before, op, after, split, rfl⟩
      cases before with
      | nil =>
        cases split
        exact .inl rfl
      | cons _ before =>
        cases split
        exact .inr ⟨before, op, after, rfl, rfl⟩

end EsCluster

end Dynastore.Workclass
