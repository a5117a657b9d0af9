/-! A statement over one base table with tables joined to it by key, so that a row stands for a base
row with what is joined to it. The server analyses the statement before it reads a row: a join has
to compare columns of one type, and a condition may only name aliases that the statement binds. What
it says of the select list is part of the statement. -/

namespace Dynastore.Sql

inductive ColumnType where
  | uuid
  | text
deriving DecidableEq

/-- A joined table, with the types of the two columns its ON clause compares. -/
structure Join where
  tableAlias : String
  baseColumn : ColumnType
  joinedColumn : ColumnType

structure Condition (Row : Type) where
  aliases : List String
  holds : Row → Bool

inductive Error where
  | operatorDoesNotExist (left right : ColumnType)
  | missingFromClause (tableAlias : String)
  | other (message : String)
deriving DecidableEq

structure Select (Row : Type) where
  base : String
  joins : List Join
  projection : Option Error
  conditions : List (Condition Row)

namespace Select

variable {Row : Type} (select : Select Row)

def aliases : List String :=
  select.base :: select.joins.map Join.tableAlias

def analyse : Option Error :=
  match select.joins.find? fun join => join.baseColumn ≠ join.joinedColumn with
  | some join => some (.operatorDoesNotExist join.baseColumn join.joinedColumn)
  | none =>
    select.projection.or
      (((select.conditions.flatMap Condition.aliases).find? (· ∉ select.aliases)).map
        .missingFromClause)

def holds (row : Row) : Bool :=
  select.conditions.all (·.holds row)

def run (rows : List Row) : Except Error (List Row) :=
  match select.analyse with
  | some error => .error error
  | none => .ok (rows.filter select.holds)

def Accepted : Prop :=
  (∀ join ∈ select.joins, join.baseColumn = join.joinedColumn) ∧
  select.projection = none ∧
  ∀ condition ∈ select.conditions, ∀ tableAlias ∈ condition.aliases, tableAlias ∈ select.aliases

variable {select}

theorem accepted_iff_analyse : select.Accepted ↔ select.analyse = none := by
  unfold Accepted analyse
  cases mismatch : select.joins.find? fun join => join.baseColumn ≠ join.joinedColumn with
  | some join =>
    have mem := List.mem_of_find?_eq_some mismatch
    have ne := List.find?_some mismatch
    simp only [ne_eq, decide_not, Bool.not_eq_true', decide_eq_false_iff_not] at ne
    simp only [reduceCtorEq, iff_false]
    exact fun accepted => ne (accepted.1 join mem)
  | none =>
    have comparable : ∀ join ∈ select.joins, join.baseColumn = join.joinedColumn := by
      simpa using List.find?_eq_none.mp mismatch
    simp only [Option.or_eq_none_iff, Option.map_eq_none_iff, List.find?_eq_none]
    constructor
    · intro ⟨_, projected, bound⟩
      refine ⟨projected, ?_⟩
      intro tableAlias mem
      have ⟨condition, listed, named⟩ := List.mem_flatMap.mp mem
      simpa using bound condition listed tableAlias named
    · intro ⟨projected, bound⟩
      refine ⟨comparable, projected, ?_⟩
      intro condition listed tableAlias named
      simpa using bound tableAlias (List.mem_flatMap.mpr ⟨condition, listed, named⟩)

theorem run_of_accepted (accepted : select.Accepted) :
    select.run rows = .ok (rows.filter select.holds) := by
  rw [run, accepted_iff_analyse.mp accepted]

theorem run_of_not_accepted (rejected : ¬ select.Accepted) :
    ∃ error, ∀ rows, select.run rows = .error error := by
  rw [accepted_iff_analyse, ← ne_eq, Option.ne_none_iff_exists'] at rejected
  have ⟨error, found⟩ := rejected
  exact ⟨error, fun _ => by rw [run, found]⟩

end Select

end Dynastore.Sql
