import Dynastore.Items.Query

/-! What the clause of `access_filter_to_pg_clause` selects, next to the first-class columns that it
leaves to its caller, against the reference semantics of the filter. -/

namespace Dynastore.Access

/-! ## The translated part of a predicate -/

def Predicate.attributeKey : Predicate → Option String
  | .field predicate => if predicate.values = [] then none else attrKey predicate.field
  | .range predicate => attrKey predicate.field

def Predicate.condition (key : String) : Predicate → AttributeCondition
  | .field predicate => .isAnyOf key predicate.values
  | .range predicate => .inRange key predicate.range predicate.kind

theorem attrKey_firstClass (column : field ∈ firstClassColumns) : attrKey field = none := by
  simp only [firstClassColumns, List.mem_cons, List.not_mem_nil, or_false] at column
  rcases column with eq | eq | eq | eq <;> subst eq <;> rfl

theorem Predicate.toPg_eq (predicate : Predicate) :
    predicate.toPg = predicate.attributeKey.map predicate.condition := by
  cases predicate with
  | field predicate =>
    by_cases empty : predicate.values = []
    · simp [toPg, attributeKey, empty]
    · by_cases column : predicate.field ∈ firstClassColumns
      · simp [toPg, attributeKey, empty, column, attrKey_firstClass column]
      · simp only [toPg, attributeKey, empty, column, or_self, if_false]
        rfl
  | range => rfl

/-! ## The first-class columns -/

def Predicate.onColumn : Predicate → Bool
  | .field predicate => firstClassColumns.contains predicate.field
  | .range predicate => firstClassColumns.contains predicate.field

def AccessClause.columnsMatch (py : Python) (clause : AccessClause) (document : Document) : Bool :=
  (clause.predicates.filter Predicate.onColumn).all (·.matches py document)

mutual

/-- The restriction that the first-class predicates alone allow a caller to apply: of an
ALLOW clause those it has, of the DENY clauses those with nothing else in them. -/
def AccessFilter.columnsAdmit (py : Python) : AccessFilter → Document → Bool
  | ⟨denyAll, allowAll, allow, deny, _, union⟩, document =>
    if denyAll then false
    else if union.isEmpty then
      if deny.any fun clause =>
          clause.predicates.all Predicate.onColumn && clause.matches py document then false
      else allowAll || allow.any (·.columnsMatch py document)
    else anyColumnsAdmit py union document

def anyColumnsAdmit (py : Python) : List AccessFilter → Document → Bool
  | [], _ => false
  | filter :: rest, document => filter.columnsAdmit py document || anyColumnsAdmit py rest document

end

end Dynastore.Access

namespace Dynastore.Items

open Access (AccessClause AccessFilter AttributeCondition PgClause Predicate Range RangeKind)

/-! ## The clause on a row -/

/-- The JSON operators and casts of the server. `jsonText` is the text that `->>` gives for a
value that is no string, and `compareAs` compares two texts under the cast of a range; it is
absent where a cast fails. -/
structure JsonServer where
  jsonText : Value → String
  compareAs : RangeKind → String → String → Option Ordering

namespace JsonServer

variable (server : JsonServer)

def extract : Value → Option String
  | .null => none
  | .text content => some content
  | value => some (server.jsonText value)

def inRange (kind : RangeKind) (actual : String) : Range → Bool
  | .lte bound => (server.compareAs kind actual bound).any (· != .gt)
  | .gte bound => (server.compareAs kind actual bound).any (· != .lt)
  | .between low high =>
    (server.compareAs kind actual low).any (· != .lt) &&
      (server.compareAs kind actual high).any (· != .gt)

def satisfies (attrs : Document) : AttributeCondition → Bool
  | .isAnyOf key values => (server.extract (attrs.get key)).any values.contains
  | .inRange key range kind => (server.extract (attrs.get key)).any (server.inRange kind · range)

def selects (attrs : Document) : Option PgClause → Bool
  | none => true
  | some .never => false
  | some (.anyOf clauses) => clauses.any (·.all (server.satisfies attrs))

end JsonServer

structure EnvelopeRow where
  catalogId : String
  collectionId : String
  envelope : Envelope

def EnvelopeRow.document (row : EnvelopeRow) : Document :=
  accessDocument row.catalogId row.collectionId (some row.envelope)

/-! ## Widening -/

section Widening

variable (server : JsonServer) (py : Python) (filter : AccessFilter) (row : EnvelopeRow)

def NeverWidens : Prop :=
  server.selects row.envelope.attrs filter.toPgClause = true →
    filter.columnsAdmit py row.document = true → filter.admits py row.document = true

def ReadsAttributes (clause : AccessClause) : Prop :=
  ∃ predicate ∈ clause.predicates, predicate.attributeKey.isSome

/-- The comparisons that the translator keeps of a clause are true of the row. -/
def AttributesHold (clause : AccessClause) : Prop :=
  ∀ predicate ∈ clause.predicates, ∀ key, predicate.attributeKey = some key →
    server.satisfies row.envelope.attrs (predicate.condition key) = true

/-- The predicate is about a column, or its comparison is never true where the reference is not. -/
def Kept (predicate : Predicate) : Prop :=
  predicate.onColumn = true ∨ ∃ key, predicate.attributeKey = some key ∧ ∀ row : EnvelopeRow,
    server.satisfies row.envelope.attrs (predicate.condition key) = true →
      predicate.matches py row.document = true

/-- Nothing of the filter is left out: every DENY is about columns, there is no union, and the
ALLOW clauses keep their predicates and do not mix columns with attributes. -/
structure Faithful : Prop where
  deny : ∀ clause ∈ filter.deny, clause.predicates.all Predicate.onColumn = true
  union : filter.union = []
  allow : filter.allowAll = false → ∀ clause ∈ filter.allow, ∀ predicate ∈ clause.predicates,
    Kept server py predicate
  apart : filter.allowAll = false → filter.allow.length = 1 ∨ ∀ clause ∈ filter.allow,
    ReadsAttributes clause → ∀ predicate ∈ clause.predicates, predicate.onColumn = false

end Widening

section Exact

variable {server : JsonServer} {py : Python} {filter : AccessFilter} {row : EnvelopeRow}

theorem toPg_eq_none_iff (clause : AccessClause) :
    clause.toPg = none ↔ ¬ ReadsAttributes clause := by
  simp [AccessClause.toPg, ReadsAttributes, Predicate.toPg_eq]

theorem toPg_holds_iff (clause : AccessClause) : (∃ parts, clause.toPg = some parts ∧
      parts.all (server.satisfies row.envelope.attrs)) ↔
      ReadsAttributes clause ∧ AttributesHold server row clause := by
  have reads := toPg_eq_none_iff clause
  have holds : (clause.predicates.filterMap Predicate.toPg).all
      (server.satisfies row.envelope.attrs) ↔ AttributesHold server row clause := by
    simp only [List.all_eq_true, List.mem_filterMap, AttributesHold, Predicate.toPg_eq,
      Option.map_eq_some_iff]
    constructor
    · intro holds predicate mem key read
      exact holds _ ⟨predicate, mem, key, read, rfl⟩
    · rintro holds _ ⟨predicate, mem, key, read, rfl⟩
      exact holds predicate mem key read
  by_cases untranslated : (clause.predicates.filterMap Predicate.toPg).isEmpty
  · have absent : clause.toPg = none := if_pos untranslated
    simp [absent, reads.mp absent]
  · have present : clause.toPg = some (clause.predicates.filterMap Predicate.toPg) :=
      if_neg untranslated
    have read : ReadsAttributes clause := by
      by_contra unread
      rw [reads.mpr unread] at present
      cases present
    simp only [present, Option.some.injEq, exists_eq_left', holds, read, true_and]

theorem selects_toPgClause_iff : server.selects row.envelope.attrs filter.toPgClause ↔
      filter.denyAll = false ∧
      ((filter.allow = [] ∧ filter.allowAll) ∨
        (filter.allow ≠ [] ∧ ∀ clause ∈ filter.allow, ¬ ReadsAttributes clause) ∨
        ∃ clause ∈ filter.allow, ReadsAttributes clause ∧ AttributesHold server row clause) := by
  unfold AccessFilter.toPgClause
  cases denied : filter.denyAll with
  | true => simp [JsonServer.selects]
  | false =>
    cases allow : filter.allow with
    | nil => cases filter.allowAll <;> simp [JsonServer.selects]
    | cons first rest =>
      have parts : ((first :: rest).filterMap AccessClause.toPg).isEmpty ↔
          ∀ clause ∈ first :: rest, ¬ ReadsAttributes clause := by
        rw [List.isEmpty_iff, List.filterMap_eq_nil_iff]
        exact forall₂_congr fun clause _ => toPg_eq_none_iff clause
      have someHold : (((first :: rest).filterMap AccessClause.toPg).any
            (·.all (server.satisfies row.envelope.attrs))) ↔
          ∃ clause ∈ first :: rest,
            ReadsAttributes clause ∧ AttributesHold server row clause := by
        simp only [List.any_eq_true, List.mem_filterMap, ← toPg_holds_iff]
        constructor
        · rintro ⟨parts, ⟨clause, mem, translated⟩, holds⟩
          exact ⟨clause, mem, parts, translated, holds⟩
        · rintro ⟨clause, mem, parts, translated, holds⟩
          exact ⟨parts, ⟨clause, mem, translated⟩, holds⟩
      by_cases unread : ∀ clause ∈ first :: rest, ¬ ReadsAttributes clause
      · simp only [Bool.false_eq_true, if_false, List.isEmpty_cons, parts.mpr unread, if_true]
        exact iff_of_true rfl ⟨trivial, .inr (.inl ⟨List.cons_ne_nil first rest, unread⟩)⟩
      · simp only [Bool.false_eq_true, if_false, List.isEmpty_cons, parts, unread,
          JsonServer.selects, someHold]
        simp

theorem attributeKey_of_onColumn {predicate : Predicate} (column : predicate.onColumn) :
    predicate.attributeKey = none := by
  cases predicate with
  | field predicate =>
    rw [Predicate.attributeKey, Access.attrKey_firstClass (List.contains_iff_mem.mp column)]
    split <;> rfl
  | range predicate => exact Access.attrKey_firstClass (List.contains_iff_mem.mp column)

theorem Faithful.matches (faithful : Faithful server py filter) (limited : filter.allowAll = false)
    (mem : clause ∈ filter.allow) (attributes : AttributesHold server row clause)
    (columns : clause.columnsMatch py row.document) : clause.matches py row.document := by
  refine List.all_eq_true.mpr fun predicate inside => ?_
  rcases faithful.allow limited clause mem predicate inside with column | ⟨key, read, sound⟩
  · exact List.all_eq_true.mp columns predicate (List.mem_filter.mpr ⟨inside, column⟩)
  · exact sound row (attributes predicate inside key read)

/-- Some ALLOW clause passes both its columns and its comparisons. -/
theorem Faithful.exists_passed (faithful : Faithful server py filter)
    (limited : filter.allowAll = false)
    (selected : server.selects row.envelope.attrs filter.toPgClause)
    (columns : ∃ clause ∈ filter.allow, clause.columnsMatch py row.document) :
    ∃ clause ∈ filter.allow, AttributesHold server row clause ∧
      clause.columnsMatch py row.document := by
  obtain ⟨clause, mem, matched⟩ := columns
  rcases (selects_toPgClause_iff.mp selected).2 with
    ⟨_, granted⟩ | ⟨_, unread⟩ | ⟨other, otherMem, reads, holds⟩
  · simp [limited] at granted
  · refine ⟨clause, mem, fun predicate inside key read => absurd ?_ (unread clause mem), matched⟩
    exact ⟨predicate, inside, by simp [read]⟩
  · refine ⟨other, otherMem, holds, ?_⟩
    rcases faithful.apart limited with one | unmixed
    · obtain ⟨only, single⟩ := List.length_eq_one_iff.mp one
      rw [single, List.mem_singleton] at mem otherMem
      exact otherMem ▸ mem ▸ matched
    · have bare : other.predicates.filter Predicate.onColumn = [] :=
        List.filter_eq_nil_iff.mpr fun predicate inside => by
          simp [unmixed other otherMem reads predicate inside]
      rw [AccessClause.columnsMatch, bare]
      rfl

theorem Faithful.neverWidens (faithful : Faithful server py filter) (row : EnvelopeRow) :
    NeverWidens server py filter row := by
  intro selected columns
  have opened := (selects_toPgClause_iff.mp selected).1
  have passed (limited : filter.allowAll = false) :=
    faithful.exists_passed limited selected
  obtain ⟨denyAll, allowAll, allow, deny, uncompilable, union⟩ := filter
  cases opened
  cases faithful.union
  rw [AccessFilter.columnsAdmit] at columns
  simp only [Bool.false_eq_true, if_false, List.isEmpty_nil, if_true] at columns
  split at columns
  · cases columns
  next undenied =>
    rw [AccessFilter.admits_clauses]
    refine ⟨fun clause mem => ?_, ?_⟩
    · by_contra matched
      refine undenied (List.any_eq_true.mpr ⟨clause, mem, ?_⟩)
      rw [faithful.deny clause mem, Bool.true_and]
      simpa using matched
    · cases allowAll with
      | true => exact .inl rfl
      | false =>
        rw [Bool.false_or, List.any_eq_true] at columns
        obtain ⟨clause, mem, holds, matched⟩ := passed rfl columns
        exact .inr ⟨clause, mem, faithful.matches rfl mem holds matched⟩

theorem neverWidens_deny_iff (clause : AccessClause) :
    (∀ row, NeverWidens server py { allowAll := true, deny := [clause] } row) ↔
      clause.predicates.all Predicate.onColumn = true ∨
        ∀ row : EnvelopeRow, clause.matches py row.document = false := by
  have widens (row : EnvelopeRow) :
      NeverWidens server py { allowAll := true, deny := [clause] } row ↔
        (clause.predicates.all Predicate.onColumn = false →
          clause.matches py row.document = false) := by
    rw [NeverWidens, selects_toPgClause_iff, AccessFilter.columnsAdmit, AccessFilter.admits]
    simp only [List.isEmpty_nil, List.any_cons, List.any_nil, Bool.or_false]
    cases clause.predicates.all Predicate.onColumn <;>
      cases clause.matches py row.document <;> simp
  simp only [widens]
  cases clause.predicates.all Predicate.onColumn <;> simp

theorem neverWidens_union_iff (sub : AccessFilter) :
    (∀ row, NeverWidens server py { allowAll := true, union := [sub] } row) ↔
      ∀ row : EnvelopeRow, sub.columnsAdmit py row.document = true →
        sub.admits py row.document = true := by
  refine forall_congr' fun row => ?_
  rw [NeverWidens, selects_toPgClause_iff, AccessFilter.columnsAdmit, AccessFilter.admits]
  simp [Access.anyColumnsAdmit, AccessFilter.anyAdmits]

theorem neverWidens_predicate_iff (predicate : Predicate) :
    (∀ row, NeverWidens server py { allow := [⟨[predicate]⟩] } row) ↔
      Kept server py predicate ∨ predicate.attributeKey = none ∧
        ∀ row : EnvelopeRow, predicate.matches py row.document = true := by
  have widens (row : EnvelopeRow) : NeverWidens server py { allow := [⟨[predicate]⟩] } row ↔
      ((∀ key, predicate.attributeKey = some key →
          server.satisfies row.envelope.attrs (predicate.condition key) = true) →
        (predicate.onColumn = true → predicate.matches py row.document = true) →
        predicate.matches py row.document = true) := by
    rw [NeverWidens, selects_toPgClause_iff, AccessFilter.columnsAdmit, AccessFilter.admits]
    cases read : predicate.attributeKey <;> cases column : predicate.onColumn <;>
      simp [ReadsAttributes, AttributesHold, AccessClause.columnsMatch, AccessClause.matches, read,
        column]
  simp only [widens, Kept]
  by_cases column : predicate.onColumn
  · simp [column, attributeKey_of_onColumn column]
  · cases read : predicate.attributeKey <;> simp [column]

end Exact

def plainServer : JsonServer where
  jsonText _ := ""
  compareAs _ _ _ := none

def secretRow : EnvelopeRow where
  catalogId := "c1"
  collectionId := "k1"
  envelope := ⟨none, none, [("dept", .text "a"), ("secret", .text "yes")]⟩

def attributeClause (key value : String) : AccessClause :=
  ⟨[.field ⟨"_attrs." ++ key, [value]⟩]⟩

end Dynastore.Items
