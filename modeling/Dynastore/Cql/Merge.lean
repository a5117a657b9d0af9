/-! `merge_es_filter` adds a clause to the query that a driver has built. What the clauses of a
query ask of a document is left open. -/

namespace Dynastore.Cql

variable {Clause : Type}

/-- The `filter` of a `bool` query: a list of clauses or one clause as an object. The keys of an
object are no clauses, and a list that begins with them is malformed. -/
inductive FilterPart (Clause : Type) where
  | clauses (list : List Clause)
  | object (clause : Clause)
  | keysOf (clause : Clause) (added : List Clause)

/-- The body of a `bool` query. A `minimum_should_match` is the number that it
asks for among so many `should` clauses. -/
structure BoolBody (Clause : Type) where
  must : List Clause := []
  filter : FilterPart Clause := .clauses []
  should : List Clause := []
  mustNot : List Clause := []
  minimumShouldMatch : Option (Nat → Nat) := none

inductive BaseQuery (Clause : Type) where
  | matchAll
  | leaf (clause : Clause)
  | bool (body : BoolBody Clause)

/-- `list(filter) + [extra]`: the list of an object is that of its keys. -/
def FilterPart.appended (extra : Clause) : FilterPart Clause → FilterPart Clause
  | clauses list => .clauses (list ++ [extra])
  | object clause => .keysOf clause [extra]
  | keysOf clause added => .keysOf clause (added ++ [extra])

def mergeEsFilter : Option (BaseQuery Clause) → Clause → BaseQuery Clause
  | none, extra => .leaf extra
  | some .matchAll, extra => .leaf extra
  | some (.bool body), extra => .bool { body with filter := body.filter.appended extra }
  | some (.leaf clause), extra => .bool { filter := .clauses [clause, extra] }

/-! ## What a query selects -/

def FilterPart.read : FilterPart Clause → Option (List Clause)
  | clauses list => some list
  | object clause => some [clause]
  | keysOf _ _ => none

namespace BoolBody

variable (body : BoolBody Clause)

def askedShould : Nat :=
  body.minimumShouldMatch.elim 0 (· body.should.length)

/-- The `should` clauses are optional where the query asks for none of them, unless they are all
that it requires. -/
def requiredShould (filter : List Clause) : Nat :=
  if body.askedShould = 0 ∧ body.must.isEmpty ∧ filter.isEmpty ∧ !body.should.isEmpty then 1
  else body.askedShould

/-- A malformed query is refused. -/
def selects (holds : Clause → Bool) : Option Bool :=
  body.filter.read.map fun filter =>
    body.must.all holds && filter.all holds && !body.mustNot.any holds &&
      decide (body.requiredShould filter ≤ body.should.countP holds)

/-- The `should` clauses are all that the query requires, and it does not ask for any. -/
structure OnlyShould : Prop where
  asked : body.askedShould = 0
  must : body.must = []
  filter : body.filter = .clauses []
  should : body.should ≠ []

end BoolBody

def BaseQuery.selects (holds : Clause → Bool) : BaseQuery Clause → Option Bool
  | matchAll => some true
  | leaf clause => some (holds clause)
  | bool body => body.selects holds

/-- The document matches the clause and none of the clauses of a `bool` query
that only its `should` clauses restrict. -/
def Widens (holds : Clause → Bool) (base : Option (BaseQuery Clause)) (extra : Clause) : Prop :=
  ∃ body, base = some (.bool body) ∧ body.OnlyShould ∧ body.should.any holds = false ∧
    body.mustNot.any holds = false ∧ holds extra = true

/-- The query is a `bool` query whose `filter` is no list. -/
def Spoils (base : Option (BaseQuery Clause)) : Prop :=
  ∃ body clause, base = some (.bool body) ∧ body.filter = .object clause

namespace BoolBody

variable {body : BoolBody Clause}

theorem selects_of_onlyShould (holds : Clause → Bool) (only : body.OnlyShould) :
    body.selects holds = some (!body.mustNot.any holds && body.should.any holds) := by
  have required : body.requiredShould [] = 1 := by
    simp [requiredShould, only.asked, only.must, only.should]
  have counted : decide (1 ≤ body.should.countP holds) = body.should.any holds := by
    rw [Bool.eq_iff_iff, decide_eq_true_iff, List.one_le_countP_iff, List.any_eq_true]
  rw [selects, only.filter, FilterPart.read, Option.map_some, required, counted, only.must]
  simp

/-- Where something else is required or asked for, the `should` clauses count as they are asked. -/
theorem requiredShould_of_not_onlyShould {clauses : List Clause}
    (listed : body.filter = .clauses clauses) (others : ¬ body.OnlyShould) :
    body.requiredShould clauses = body.askedShould := by
  refine if_neg ?_
  rintro ⟨asked, must, bare, should⟩
  rw [List.isEmpty_iff] at must bare
  refine others ⟨asked, must, bare ▸ listed, ?_⟩
  simpa using should

theorem selects_appended {clauses : List Clause} (holds : Clause → Bool) :
    { body with filter := .clauses (clauses ++ [extra]) }.selects holds =
      some (body.must.all holds && (clauses.all holds && holds extra) &&
        !body.mustNot.any holds && decide (body.askedShould ≤ body.should.countP holds)) := by
  have required : { body with filter := .clauses (clauses ++ [extra]) }.requiredShould
      (clauses ++ [extra]) = body.askedShould := if_neg (by simp)
  rw [selects, FilterPart.read, Option.map_some, required]
  simp

end BoolBody

end Dynastore.Cql
