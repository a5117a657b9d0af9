import Dynastore.Foundation.Value

/-! The neutral projection of a read authorisation that the policy engine compiles and that the
storage drivers translate. -/

namespace Dynastore.Access

structure FieldPredicate where
  field : String
  values : List String
deriving DecidableEq

inductive RangeKind where
  | numeric
  | timestamp
deriving DecidableEq

inductive Range where
  | lte (bound : String)
  | gte (bound : String)
  | between (low high : String)
deriving DecidableEq

structure RangePredicate where
  field : String
  range : Range
  kind : RangeKind
deriving DecidableEq

inductive Predicate where
  | field (predicate : FieldPredicate)
  | range (predicate : RangePredicate)
deriving DecidableEq

structure AccessClause where
  predicates : List Predicate
deriving DecidableEq

structure AccessFilter where
  denyAll : Bool := false
  allowAll : Bool := false
  allow : List AccessClause := []
  deny : List AccessClause := []
  uncompilable : Bool := false
  union : List AccessFilter := []

/-! ## Reference semantics -/

def isOneOf (values : List String) : Value → Bool
  | .text content => values.contains content
  | _ => false

def FieldPredicate.matches (predicate : FieldPredicate) (document : Document) : Bool :=
  match document.get predicate.field with
  | .list elements => elements.any (isOneOf predicate.values)
  | actual => isOneOf predicate.values actual

def Range.admits (py : Python) (actual : String) : Range → Bool
  | .lte bound => py.compareTexts actual bound != .gt
  | .gte bound => py.compareTexts actual bound != .lt
  | .between low high =>
    py.compareTexts actual low != .lt && py.compareTexts actual high != .gt

def RangePredicate.matches (py : Python) (predicate : RangePredicate) (document : Document) :
    Bool :=
  match document.get predicate.field with
  | .null => false
  | actual => predicate.range.admits py (py.str actual)

def Predicate.matches (py : Python) (document : Document) : Predicate → Bool
  | .field predicate => predicate.matches document
  | .range predicate => predicate.matches py document

def AccessClause.matches (py : Python) (clause : AccessClause) (document : Document) : Bool :=
  clause.predicates.all (·.matches py document)

namespace AccessFilter

def denyEverything (uncompilable : Bool := false) : AccessFilter :=
  { denyAll := true, uncompilable }

def allowEverything : AccessFilter :=
  { allowAll := true }

def fromClauses (allow deny : List AccessClause) (uncompilable : Bool) : AccessFilter :=
  if allow.isEmpty then denyEverything uncompilable else { allow, deny, uncompilable }

/-- The exclusion-union of complete sub-filters; one that denies everything adds nothing. -/
def unionOf (filters : List AccessFilter) : AccessFilter :=
  let uncompilable := filters.any (·.uncompilable)
  match filters.filter (!·.denyAll) with
  | [] => denyEverything uncompilable
  | [filter] =>
    if uncompilable && !filter.uncompilable then { filter with uncompilable := true } else filter
  | live => { union := live, uncompilable }

def isUnconditional (filter : AccessFilter) : Bool :=
  filter.allowAll && !filter.denyAll && filter.deny.isEmpty && filter.union.isEmpty

mutual

def admits (py : Python) : AccessFilter → Document → Bool
  | ⟨denyAll, allowAll, allow, deny, _, union⟩, document =>
    if denyAll then false
    else if union.isEmpty then
      if deny.any (·.matches py document) then false
      else if allowAll then true
      else allow.any (·.matches py document)
    else anyAdmits py union document

def anyAdmits (py : Python) : List AccessFilter → Document → Bool
  | [], _ => false
  | filter :: rest, document => filter.admits py document || anyAdmits py rest document

end

variable {py : Python} {document : Document}

@[simp]
theorem admits_denyEverything (uncompilable : Bool) :
    (denyEverything uncompilable).admits py document = false := by
  simp [denyEverything, admits]

theorem admits_clauses (allowAll : Bool) (allow deny : List AccessClause) (uncompilable : Bool) :
    (AccessFilter.mk false allowAll allow deny uncompilable []).admits py document ↔
      (∀ clause ∈ deny, clause.matches py document = false) ∧
      (allowAll ∨ ∃ clause ∈ allow, clause.matches py document) := by
  rw [admits]
  cases hidden : deny.any (·.matches py document) with
  | true =>
    have excluded : ¬ ∀ clause ∈ deny, clause.matches py document = false := by
      simpa using hidden
    simp [excluded]
  | false =>
    have passed : ∀ clause ∈ deny, clause.matches py document = false := by
      simpa using hidden
    rw [and_iff_right passed]
    cases allowAll <;> simp

theorem admits_fromClauses (allow deny : List AccessClause) (uncompilable : Bool) :
    (fromClauses allow deny uncompilable).admits py document ↔
      (∀ clause ∈ deny, clause.matches py document = false) ∧
      ∃ clause ∈ allow, clause.matches py document := by
  unfold fromClauses
  cases allow with
  | nil => simp
  | cons =>
    rw [if_neg (by simp), admits_clauses]
    simp

theorem admits_of_isUnconditional {filter : AccessFilter} (unconditional : filter.isUnconditional) :
    filter.admits py document := by
  obtain ⟨_, _, _, _, _, _⟩ := filter
  simp only [isUnconditional, Bool.and_eq_true, Bool.not_eq_true', List.isEmpty_iff]
    at unconditional
  obtain ⟨⟨⟨rfl, rfl⟩, rfl⟩, rfl⟩ := unconditional
  simp [admits_clauses]

theorem anyAdmits_iff (union : List AccessFilter) :
    anyAdmits py union document ↔ ∃ filter ∈ union, filter.admits py document := by
  induction union with
  | nil => simp [anyAdmits]
  | cons _ _ ih => simp [anyAdmits, ih]

theorem admits_unionOf (filters : List AccessFilter) : (unionOf filters).admits py document ↔
      ∃ filter ∈ filters, filter.admits py document := by
  have dropped : (∃ filter ∈ filters, filter.admits py document) ↔
      ∃ filter ∈ filters.filter (!·.denyAll), filter.admits py document := by
    refine exists_congr fun filter => ?_
    rw [List.mem_filter, and_assoc]
    refine and_congr_right fun _ => ⟨fun admitted => ⟨?_, admitted⟩, And.right⟩
    rw [Bool.not_eq_true', ← Bool.not_eq_true]
    intro denied
    obtain ⟨denyAll, allowAll, allow, deny, uncompilable, union⟩ := filter
    subst denied
    simp [admits] at admitted
  have marked : ∀ filter : AccessFilter,
      ({ filter with uncompilable := true } : AccessFilter).admits py document =
        filter.admits py document := by
    intro filter
    obtain ⟨_, _, _, _, _, _⟩ := filter
    rw [admits, admits]
  rw [dropped, unionOf]
  generalize filters.filter (!·.denyAll) = live
  match live with
  | [] => simp
  | [filter] =>
    simp only [List.mem_singleton, exists_eq_left]
    split
    · rw [marked]
    · rfl
  | filter :: second :: rest =>
    exact anyAdmits_iff _

end AccessFilter

end Dynastore.Access
