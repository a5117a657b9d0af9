import Dynastore.Access.Filter

/-! `access_filter_to_es` translates a whole filter, sub-filters included. How the server that
answers the query orders the values of a range is a parameter. -/

namespace Dynastore.Access

/-- The part of the query language that the translator emits. A `range` has the bounds it
names, and a `bool` the lists of clauses. -/
inductive EsQuery where
  | matchAll
  | matchNone
  | terms (field : String) (values : List String)
  | range (field : String) (gte lte : Option String)
  | bool (filter should mustNot : List EsQuery) (minimumShouldMatch : Option Nat)

/-! ## The translation -/

def RangePredicate.toEs (predicate : RangePredicate) : EsQuery :=
  match predicate.range with
  | .lte bound => .range predicate.field none (some bound)
  | .gte bound => .range predicate.field (some bound) none
  | .between low high => .range predicate.field (some low) (some high)

def Predicate.toEs : Predicate → EsQuery
  | .field predicate => .terms predicate.field predicate.values
  | .range predicate => predicate.toEs

def AccessClause.toEs (clause : AccessClause) : EsQuery :=
  if clause.predicates.isEmpty then .matchAll
  else .bool (clause.predicates.map Predicate.toEs) [] [] none

mutual

/-- `access_filter_to_es`, absent where no restriction applies. -/
def AccessFilter.toEs : AccessFilter → Option EsQuery
  | ⟨denyAll, allowAll, allow, deny, _, union⟩ =>
    if denyAll then some .matchNone
    else if union.isEmpty then
      if allowAll then
        if deny.isEmpty then none else some (.bool [] [] (deny.map AccessClause.toEs) none)
      else some (.bool [] (allow.map AccessClause.toEs) (deny.map AccessClause.toEs) (some 1))
    else some (.bool [] (unionToEs union) [] (some 1))

/-- The `should` list of a union; a sub-filter without restriction matches everything. -/
def unionToEs : List AccessFilter → List EsQuery
  | [] => []
  | filter :: rest => filter.toEs.getD .matchAll :: unionToEs rest

end

/-! ## The server -/

/-- The server, with its answer to a range query on a field value. -/
structure EsServer where
  inRange : Value → (gte lte : Option String) → Bool

mutual

/-- What a keyword field indexes of a value: scalars by their text, the elements of an array. -/
def keywords : Value → List String
  | .null | .dict _ => []
  | .bool value => [if value then "true" else "false"]
  | .number literal => [literal]
  | .text content => [content]
  | .list elements => allKeywords elements

def allKeywords : List Value → List String
  | [] => []
  | value :: rest => keywords value ++ allKeywords rest

end

/-- Without the parameter, a `bool` query asks for one `should` clause if it has no other
positive clauses. -/
def requiredShould (filter should : List EsQuery) (minimumShouldMatch : Option Nat) : Nat :=
  minimumShouldMatch.getD (if filter.isEmpty && !should.isEmpty then 1 else 0)

mutual

def EsServer.selects (server : EsServer) (document : Document) : EsQuery → Bool
  | .matchAll => true
  | .matchNone => false
  | .terms field values => (keywords (document.get field)).any values.contains
  | .range field gte lte => server.inRange (document.get field) gte lte
  -- without any clause a `bool` query is `match_all`, whatever its `minimum_should_match`
  | .bool filter should mustNot minimum =>
    if filter.isEmpty && should.isEmpty && mustNot.isEmpty then true
    else
      server.countSelected document filter == filter.length &&
        server.countSelected document mustNot == 0 &&
        decide (requiredShould filter should minimum ≤ server.countSelected document should)

def EsServer.countSelected (server : EsServer) (document : Document) : List EsQuery → Nat
  | [] => 0
  | query :: rest =>
    (if server.selects document query then 1 else 0) + server.countSelected document rest

end

def EsServer.returns (server : EsServer) (document : Document) (restriction : Option EsQuery) :
    Bool :=
  restriction.all (server.selects document)

/-- The reference reading of a range on a field value; a missing field is in no range. -/
def Range.admitsValue (py : Python) (range : Range) : Value → Bool
  | .null => false
  | actual => range.admits py (py.str actual)

/-- Range queries order field values as the reference does. -/
structure EsServer.OrdersAs (server : EsServer) (py : Python) : Prop where
  lte : ∀ value bound,
    server.inRange value none (some bound) = (Range.lte bound).admitsValue py value
  gte : ∀ value bound,
    server.inRange value (some bound) none = (Range.gte bound).admitsValue py value
  between : ∀ value low high,
    server.inRange value (some low) (some high) = (Range.between low high).admitsValue py value

/-- The field holds nothing, a text or texts. -/
def isTextual : Value → Bool
  | .null | .text _ => true
  | .list elements => elements.all (· matches .text _)
  | _ => false

def Textual (document : Document) : Prop :=
  ∀ field, isTextual (document.get field)

mutual

/-- No filter without any clause occurs, in a union neither. -/
def AccessFilter.explicit : AccessFilter → Bool
  | ⟨denyAll, allowAll, allow, deny, _, union⟩ =>
    denyAll ||
      if union.isEmpty then allowAll || !allow.isEmpty || !deny.isEmpty
      else allExplicit union

def allExplicit : List AccessFilter → Bool
  | [] => true
  | filter :: rest => filter.explicit && allExplicit rest

end

/-! ## What a query selects -/

section Selected

variable {server : EsServer} {py : Python} {document : Document}

theorem EsServer.countSelected_eq_countP :
    server.countSelected document queries = queries.countP (server.selects document) := by
  induction queries with
  | nil => rw [countSelected, List.countP_nil]
  | cons _ _ ih =>
    rw [countSelected, ih, List.countP_cons, Nat.add_comm]

theorem EsServer.selects_bool (present : filter ≠ [] ∨ should ≠ [] ∨ mustNot ≠ []) :
    server.selects document (.bool filter should mustNot minimum) ↔
      (∀ query ∈ filter, server.selects document query) ∧
      (∀ query ∈ mustNot, server.selects document query = false) ∧
      requiredShould filter should minimum ≤ server.countSelected document should := by
  have clausesRead : (filter.isEmpty && should.isEmpty && mustNot.isEmpty) = false := by
    rcases present with present | present | present <;> simp [present]
  rw [selects, clausesRead]
  simp only [Bool.false_eq_true, if_false, countSelected_eq_countP, Bool.and_eq_true,
    beq_iff_eq, List.countP_eq_length, List.countP_eq_zero, decide_eq_true_eq,
    Bool.not_eq_true, and_assoc]

theorem EsServer.one_le_countSelected :
    1 ≤ server.countSelected document queries ↔
      ∃ query ∈ queries, server.selects document query := by
  rw [countSelected_eq_countP]
  exact List.countP_pos_iff

theorem any_allKeywords (textual : elements.all (· matches .text _)) (values : List String) :
    (allKeywords elements).any values.contains = elements.any (isOneOf values) := by
  induction elements with
  | nil => rfl
  | cons element rest ih =>
    rw [List.all_cons, Bool.and_eq_true] at textual
    rw [allKeywords, List.any_append, List.any_cons, ih textual.2]
    cases element with
    | text => simp [keywords, isOneOf]
    | _ => simp at textual

theorem any_keywords {predicate : FieldPredicate}
    (textual : isTextual (document.get predicate.field)) :
    (keywords (document.get predicate.field)).any predicate.values.contains =
      predicate.matches document := by
  rw [FieldPredicate.matches]
  cases found : document.get predicate.field with
  | null => rfl
  | text => simp [keywords, isOneOf]
  | list elements =>
    rw [found] at textual
    exact any_allKeywords textual predicate.values
  | _ =>
    rw [found] at textual
    cases textual

variable (ordered : server.OrdersAs py) (textual : Textual document)

include ordered textual

theorem selects_predicate (predicate : Predicate) :
    server.selects document predicate.toEs = predicate.matches py document := by
  cases predicate with
  | field predicate => exact any_keywords (textual predicate.field)
  | range predicate =>
    have reference : predicate.matches py document =
        predicate.range.admitsValue py (document.get predicate.field) := by
      unfold RangePredicate.matches Range.admitsValue
      cases document.get predicate.field <;> rfl
    rw [Predicate.toEs, Predicate.matches, reference, RangePredicate.toEs]
    cases predicate.range with
    | lte => rw [EsServer.selects, ordered.lte]
    | gte => rw [EsServer.selects, ordered.gte]
    | between => rw [EsServer.selects, ordered.between]

theorem selects_clause (clause : AccessClause) :
    server.selects document clause.toEs = clause.matches py document := by
  unfold AccessClause.toEs AccessClause.matches
  cases predicates : clause.predicates with
  | nil =>
    rfl
  | cons =>
    rw [if_neg (by simp), Bool.eq_iff_iff, EsServer.selects_bool (.inl (by simp))]
    simp [requiredShould, selects_predicate ordered textual, EsServer.countSelected]

theorem no_clause_selected (clauses : List AccessClause) :
    (∀ query ∈ clauses.map AccessClause.toEs, server.selects document query = false) ↔
      ∀ clause ∈ clauses, clause.matches py document = false := by
  simp [selects_clause ordered textual]

theorem returns_clauses (allowAll : Bool) (present : allowAll ∨ allow ≠ [] ∨ deny ≠ []) :
    server.returns document (AccessFilter.mk false allowAll allow deny uncompilable []).toEs =
      (AccessFilter.mk false allowAll allow deny uncompilable []).admits py document := by
  rw [Bool.eq_iff_iff, AccessFilter.admits_clauses, AccessFilter.toEs]
  simp only [Bool.false_eq_true, if_false, List.isEmpty_nil, if_true]
  cases allowAll with
  | true =>
    cases deny with
    | nil => simp [EsServer.returns]
    | cons clause rest =>
      have denied : (clause :: rest).map AccessClause.toEs ≠ [] := by simp
      simp only [if_true, List.isEmpty_cons, Bool.false_eq_true, if_false,
        EsServer.returns, Option.all_some,
        EsServer.selects_bool (.inr (.inr denied)), no_clause_selected ordered textual]
      simp [requiredShould]
  | false =>
    have listed : ([] : List EsQuery) ≠ [] ∨
        allow.map AccessClause.toEs ≠ [] ∨ deny.map AccessClause.toEs ≠ [] := by
      simpa using present
    simp only [Bool.false_eq_true, if_false, EsServer.returns, Option.all_some,
      EsServer.selects_bool listed, no_clause_selected ordered textual, requiredShould,
      Option.getD_some, EsServer.one_le_countSelected]
    simp [selects_clause ordered textual]

end Selected

mutual

/-- A search restricted by the translation returns what the filter admits, and everything where a
filter without clauses occurs. -/
theorem AccessFilter.returns_toEs {server : EsServer} (ordered : server.OrdersAs py)
    (textual : Textual document) : ∀ filter : AccessFilter,
      server.returns document filter.toEs = (filter.admits py document || !filter.explicit)
  | ⟨true, _, _, _, _, _⟩ => by
      simp [AccessFilter.toEs, AccessFilter.admits, AccessFilter.explicit, EsServer.returns,
        EsServer.selects]
  | ⟨false, allowAll, allow, deny, uncompilable, []⟩ => by
      by_cases present : allowAll ∨ allow ≠ [] ∨ deny ≠ []
      · have explicit : (AccessFilter.mk false allowAll allow deny uncompilable []).explicit := by
          simpa [AccessFilter.explicit, or_assoc] using present
        rw [returns_clauses ordered textual allowAll present, explicit]
        simp
      · simp only [not_or, not_not, Bool.not_eq_true] at present
        obtain ⟨rfl, rfl, rfl⟩ := present
        simp [AccessFilter.toEs, AccessFilter.explicit, EsServer.returns, EsServer.selects]
  | ⟨false, allowAll, allow, deny, uncompilable, filter :: rest⟩ => by
      have present : unionToEs (filter :: rest) ≠ [] := by simp [unionToEs]
      have either := one_le_countSelected_unionToEs ordered textual (filter :: rest)
      rw [Bool.eq_iff_iff, AccessFilter.toEs, AccessFilter.admits, AccessFilter.explicit]
      simp only [Bool.false_eq_true, if_false, List.isEmpty_cons, EsServer.returns,
        Option.all_some, EsServer.selects_bool (.inr (.inl present)), requiredShould,
        Option.getD_some, either]
      simp

theorem one_le_countSelected_unionToEs {server : EsServer} (ordered : server.OrdersAs py)
    (textual : Textual document) : ∀ union : List AccessFilter,
      (1 ≤ server.countSelected document (unionToEs union) ↔
        AccessFilter.anyAdmits py union document ∨ allExplicit union = false)
  | [] => by simp [unionToEs, EsServer.countSelected, AccessFilter.anyAdmits, allExplicit]
  | filter :: rest => by
      have selected : server.selects document (filter.toEs.getD .matchAll) =
          server.returns document filter.toEs := by
        cases filter.toEs with
        | none => rw [Option.getD_none, EsServer.selects, EsServer.returns, Option.all_none]
        | some => rfl
      have later := one_le_countSelected_unionToEs ordered textual rest
      rw [unionToEs, EsServer.countSelected, AccessFilter.anyAdmits, allExplicit, selected,
        filter.returns_toEs ordered textual]
      cases filter.admits py document <;> cases filter.explicit <;> simp_all

end

/-- The server that orders values as the reference. -/
def referenceServer (py : Python) : EsServer where
  inRange value gte lte :=
    match gte, lte with
    | none, none => true
    | none, some high => (Range.lte high).admitsValue py value
    | some low, none => (Range.gte low).admitsValue py value
    | some low, some high => (Range.between low high).admitsValue py value

theorem referenceServer_ordersAs : (referenceServer py).OrdersAs py :=
  ⟨fun _ _ => rfl, fun _ _ => rfl, fun _ _ _ => rfl⟩

def nestedUnion : AccessFilter :=
  { union :=
      [{ allowAll := true, deny := [⟨[.range ⟨"_attrs.level", .gte "5", .numeric⟩]⟩] },
        .denyEverything, { union := [{ allow := [⟨[.field ⟨"visibility", ["public"]⟩]⟩] }] }] }

end Dynastore.Access
