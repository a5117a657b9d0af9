import Mathlib.Order.Lattice
import Dynastore.Cql.Like
import Dynastore.Foundation.Kleene

/-! The nodes of a parsed filter, and the value of a filter for an item in SQL's three-valued logic.
A property the item does not have is `NULL`. -/

namespace Dynastore.Cql

inductive Operand (Scalar : Type) where
  | attr (name : String)
  | literal (value : Scalar)

inductive ComparisonOp where
  | lt
  | le
  | gt
  | ge
deriving DecidableEq, Repr

/-- The filter nodes. `notEqual` is the node class of `<>`; the other negatable
comparisons carry a flag. -/
inductive Ast (Scalar : Type) where
  | and (lhs rhs : Ast Scalar)
  | or (lhs rhs : Ast Scalar)
  | not (subNode : Ast Scalar)
  | equal (lhs rhs : Operand Scalar)
  | notEqual (lhs rhs : Operand Scalar)
  | comparison (op : ComparisonOp) (lhs rhs : Operand Scalar)
  | between (lhs low high : Operand Scalar) (negated : Bool)
  | isIn (lhs : Operand Scalar) (subNodes : List (Operand Scalar)) (negated : Bool)
  | like (lhs : Operand Scalar) (pattern : String) (nocase : Bool) (chars : LikeSyntax)
      (negated : Bool)
  | isNull (lhs : Operand Scalar) (negated : Bool)

/-- What both stores make of scalars. `key` is the text of a scalar, as a
pattern is matched against it and as it is written where JSON wants a name;
`sameLetter` compares characters without regard to case. -/
structure Stores (Scalar : Type) where
  text : String → Scalar
  key : Scalar → String
  key_text : ∀ content, key (text content) = content
  sameLetter : Char → Char → Bool

/-- The characters of a pattern and a text are compared with or without case. -/
def Stores.same (stores : Stores Scalar) (nocase : Bool) (left right : Char) : Bool :=
  if nocase then stores.sameLetter left right else left == right

/-- The value of a property, `none` for one the item does not have. -/
abbrev Item (Scalar : Type) := String → Option Scalar

namespace Operand

def value (item : Item Scalar) : Operand Scalar → Option Scalar
  | .attr name => item name
  | .literal value => some value

def isAttribute : Operand Scalar → Bool
  | .attr _ => true
  | .literal _ => false

def attributes : Operand Scalar → List String
  | .attr name => [name]
  | .literal _ => []

end Operand

def compared (holds : Scalar → Scalar → Bool) (left right : Option Scalar) : Option Bool :=
  left.bind fun leftValue => right.map fun rightValue => holds leftValue rightValue

section Order

variable [LinearOrder Scalar]

def ComparisonOp.holds : ComparisonOp → Scalar → Scalar → Bool
  | lt, left, right => decide (left < right)
  | le, left, right => decide (left ≤ right)
  | gt, left, right => decide (right < left)
  | ge, left, right => decide (right ≤ left)

namespace Ast

def value (stores : Stores Scalar) (item : Item Scalar) : Ast Scalar → Option Bool
  | and lhs rhs => Kleene.and (lhs.value stores item) (rhs.value stores item)
  | or lhs rhs => Kleene.or (lhs.value stores item) (rhs.value stores item)
  | not subNode => Kleene.not (subNode.value stores item)
  | equal lhs rhs => compared (· == ·) (lhs.value item) (rhs.value item)
  | notEqual lhs rhs => Kleene.not (compared (· == ·) (lhs.value item) (rhs.value item))
  | comparison op lhs rhs => compared op.holds (lhs.value item) (rhs.value item)
  | between lhs low high negated =>
    Kleene.negateIf negated
      (Kleene.and (compared ComparisonOp.ge.holds (lhs.value item) (low.value item))
        (compared ComparisonOp.le.holds (lhs.value item) (high.value item)))
  | isIn lhs subNodes negated =>
    Kleene.negateIf negated
      (Kleene.any (subNodes.map fun node => compared (· == ·) (lhs.value item) (node.value item)))
  | like lhs pattern nocase chars negated =>
    Kleene.negateIf negated
      ((lhs.value item).map fun value =>
        decide (chars.Fits (stores.same nocase) pattern.toList (stores.key value).toList))
  | isNull lhs negated => Kleene.negateIf negated (some (lhs.value item).isNone)

/-- Whether a filter that is undecided for the item is so through negation: the
comparisons with a missing property that leave it undecided stand under an odd
number of negations, `<>` and the `NOT` forms counted among these. -/
def undecidedByNegation (stores : Stores Scalar) (item : Item Scalar) : Ast Scalar → Bool
  | and lhs rhs =>
    ((lhs.value stores item).isSome || lhs.undecidedByNegation stores item) &&
      ((rhs.value stores item).isSome || rhs.undecidedByNegation stores item)
  | or lhs rhs =>
    (!(lhs.value stores item).isSome && lhs.undecidedByNegation stores item) ||
      (!(rhs.value stores item).isSome && rhs.undecidedByNegation stores item)
  | not subNode => !subNode.undecidedByNegation stores item
  | notEqual .. => true
  | between _ _ _ negated | isIn _ _ negated | like _ _ _ _ negated => negated
  | equal .. | comparison .. | isNull .. => false

end Ast

end Order

namespace Ast

def attributes : Ast Scalar → List String
  | and lhs rhs | or lhs rhs => lhs.attributes ++ rhs.attributes
  | not subNode => subNode.attributes
  | equal lhs rhs | notEqual lhs rhs | comparison _ lhs rhs => lhs.attributes ++ rhs.attributes
  | between lhs low high _ => lhs.attributes ++ low.attributes ++ high.attributes
  | isIn lhs subNodes _ => lhs.attributes ++ subNodes.flatMap Operand.attributes
  | like lhs .. | isNull lhs _ => lhs.attributes

/-- Every comparison has a property on its left and literals on its right. -/
def placed : Ast Scalar → Bool
  | and lhs rhs | or lhs rhs => lhs.placed && rhs.placed
  | not subNode => subNode.placed
  | equal lhs rhs | notEqual lhs rhs | comparison _ lhs rhs =>
    lhs.isAttribute && !rhs.isAttribute
  | between lhs low high _ => lhs.isAttribute && !low.isAttribute && !high.isAttribute
  | isIn lhs subNodes _ => lhs.isAttribute && subNodes.all fun node => !node.isAttribute
  | like lhs .. | isNull lhs _ => lhs.isAttribute

/-- No `LIKE` pattern has a literal that a `wildcard` query reads otherwise. -/
def plain : Ast Scalar → Bool
  | and lhs rhs | or lhs rhs => lhs.plain && rhs.plain
  | not subNode => subNode.plain
  | like _ pattern _ chars _ => plainTokens (chars.iterLikeTokens pattern.toList)
  | _ => true

end Ast

end Dynastore.Cql
