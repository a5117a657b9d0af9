import Dynastore.Cql.Ast

/-! `_CqlToEsEvaluator` of `cql_to_es.py` on the comparison and logical nodes, and what the queries
it builds select. -/

namespace Dynastore.Cql

/-- The part of the query language that the evaluator emits for these nodes. -/
inductive EsQuery (Scalar : Type) where
  | term (field : String) (value : Scalar)
  | terms (field : String) (values : List Scalar)
  | range (field : String) (lt lte gt gte : Option Scalar)
  | wildcard (field : String) (value : String) (caseInsensitive : Bool)
  | matchText (field : String) (query : String)
  | fieldExists (field : String)
  | bool (filter should mustNot : List (EsQuery Scalar)) (minimumShouldMatch : Option Nat)

/-! ## The translation -/

structure Mappings where
  field : List (String × String)
  fulltext : List (String × String) := []

section Evaluate

variable (stores : Stores Scalar) (mappings : Mappings)

/-- `attribute` and `literal`: a property becomes the path of its field, as any
other text. -/
def Operand.evaluate : Operand Scalar → Except String Scalar
  | .attr name =>
    match mappings.field.lookup name with
    | some path => .ok (stores.text path)
    | none =>
      .error s!"Unknown queryable property '{name}' (not in field mapping)"
  | .literal value => .ok value

def EsQuery.negateIf (negated : Bool) (query : EsQuery Scalar) : EsQuery Scalar :=
  if negated then .bool [] [] [query] none else query

def ComparisonOp.range (field : String) (bound : Scalar) : ComparisonOp → EsQuery Scalar
  | lt => .range field (some bound) none none none
  | le => .range field none (some bound) none none
  | gt => .range field none none (some bound) none
  | ge => .range field none none none (some bound)

def fulltextPath : Operand Scalar → Option String
  | .attr name => if name = "" then none else mappings.fulltext.lookup name
  | .literal _ => none

def cqlAstToEsQuery : Ast Scalar → Except String (EsQuery Scalar)
  | .not subNode => do
      let sub ← cqlAstToEsQuery subNode
      return .bool [] [] [sub] none
  | .and lhs rhs => do
      let left ← cqlAstToEsQuery lhs
      let right ← cqlAstToEsQuery rhs
      return .bool [left, right] [] [] none
  | .or lhs rhs => do
      let left ← cqlAstToEsQuery lhs
      let right ← cqlAstToEsQuery rhs
      return .bool [] [left, right] [] (some 1)
  | .equal lhs rhs => do
      let left ← lhs.evaluate stores mappings
      let right ← rhs.evaluate stores mappings
      return .term (stores.key left) right
  | .notEqual lhs rhs => do
      let left ← lhs.evaluate stores mappings
      let right ← rhs.evaluate stores mappings
      return .bool [] [] [.term (stores.key left) right] none
  | .comparison op lhs rhs => do
      let left ← lhs.evaluate stores mappings
      let right ← rhs.evaluate stores mappings
      return op.range (stores.key left) right
  | .between lhs low high negated => do
      let left ← lhs.evaluate stores mappings
      let lower ← low.evaluate stores mappings
      let upper ← high.evaluate stores mappings
      return .negateIf negated (.range (stores.key left) none (some upper) none (some lower))
  | .isIn lhs subNodes negated => do
      let left ← lhs.evaluate stores mappings
      let options ← subNodes.mapM (Operand.evaluate stores mappings)
      return .negateIf negated (.terms (stores.key left) options)
  | .like lhs pattern nocase chars negated => do
      let left ← lhs.evaluate stores mappings
      match fulltextPath mappings lhs with
      | some path => return .negateIf negated (.matchText path (likeToMatchText chars pattern))
      | none =>
        return .negateIf negated (.wildcard (stores.key left) (likeToWildcard chars pattern) nocase)
  | .isNull lhs negated => do
      let left ← lhs.evaluate stores mappings
      return .negateIf (!negated) (.fieldExists (stores.key left))

end Evaluate

/-! ## What a query selects -/

abbrev EsDocument (Scalar : Type) := String → Option Scalar

def withinBounds [LinearOrder Scalar] (lt lte gt gte : Option Scalar) (value : Scalar) : Bool :=
  (lt.all fun bound => decide (value < bound)) && (lte.all fun bound => decide (value ≤ bound)) &&
    (gt.all fun bound => decide (bound < value)) && gte.all fun bound => decide (bound ≤ value)

section Selects

variable [LinearOrder Scalar] (stores : Stores Scalar) (analyzed : String → Option Scalar → Bool)
  (document : EsDocument Scalar)

mutual

/-- The query selects the document. `analyzed` is the answer of a `match` query
to the value of an analyzed field. -/
def selects : EsQuery Scalar → Bool
  | .term field value => (document field).any (· == value)
  | .terms field values => (document field).any values.contains
  | .range field lt lte gt gte => (document field).any (withinBounds lt lte gt gte)
  | .wildcard field pattern caseInsensitive =>
    (document field).any fun value =>
      Glob.matchesBy (stores.same caseInsensitive) (wildcardTokens pattern.toList)
        (stores.key value).toList
  | .matchText field query => analyzed query (document field)
  | .fieldExists field => (document field).isSome
  | .bool filter should mustNot minimum =>
    countSelected filter == filter.length && countSelected mustNot == 0 &&
      decide (minimum.getD (if filter.isEmpty && !should.isEmpty then 1 else 0) ≤
        countSelected should)

def countSelected : List (EsQuery Scalar) → Nat
  | [] => 0
  | query :: rest => (if selects query then 1 else 0) + countSelected rest

end

variable {stores analyzed document}

@[simp] theorem selects_mustNot :
    selects stores analyzed document (.bool [] [] [query] none) =
      !selects stores analyzed document query := by
  rw [selects, countSelected, countSelected, countSelected]
  cases selects stores analyzed document query <;> rfl

@[simp] theorem selects_filter :
    selects stores analyzed document (.bool [left, right] [] [] none) =
      (selects stores analyzed document left && selects stores analyzed document right) := by
  simp only [selects, countSelected]
  cases selects stores analyzed document left <;>
    cases selects stores analyzed document right <;> rfl

@[simp] theorem selects_should :
    selects stores analyzed document (.bool [] [left, right] [] (some 1)) =
      (selects stores analyzed document left || selects stores analyzed document right) := by
  rw [Bool.eq_iff_iff, selects]
  simp only [countSelected, Bool.and_eq_true, decide_eq_true_eq, Option.getD_some, Bool.or_eq_true]
  by_cases first : selects stores analyzed document left = true <;>
    by_cases second : selects stores analyzed document right = true <;> simp [first, second]

theorem selects_negateIf :
    selects stores analyzed document (.negateIf negated query) =
      (negated ^^ selects stores analyzed document query) := by
  rw [EsQuery.negateIf]
  cases negated with
  | false => rw [if_neg (by decide), Bool.false_xor]
  | true => rw [if_pos rfl, selects_mustNot, Bool.true_xor]

end Selects

end Dynastore.Cql
