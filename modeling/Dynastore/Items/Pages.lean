import Dynastore.Foundation.Paging
import Dynastore.Items.Membership
import Mathlib.Data.String.Basic
import Mathlib.Data.Sum.Order

/-! The rows that a statement returns: the joined rows, or one row for each group of them, sorted by
the keys of ORDER BY and cut by LIMIT and OFFSET. The server puts rows with equal keys in any order,
in each query anew. The default order has the external id as its only key, which versions of an item
share and items need not have, and a request without it has no order. -/

namespace Dynastore.Items

open Ingest (Cell Store)

/-- How the server sorts: the place of a value in the order of its type, with NULL last; what
a key without an alias stands for, given the select list and the joined tables; and the value
of a key on a group. -/
structure Sorter (ω : Type) where
  rank : Cell → ω
  output : List Projection → List String → String → JoinedRow → Cell
  grouped : List Expression → OrderKey → List Cell → Cell

inductive ResultRow where
  | row (row : JoinedRow)
  | group (values : List Cell)

namespace Statement

variable {ω : Type} [LinearOrder ω] (statement : Statement) (sorter : Sorter ω) (server : Server)
  (store : Store)

def isGrouped : Bool :=
  !statement.groupBy.isEmpty || statement.select.any Projection.aggregated

def results : Option (Multiset ResultRow) :=
  (statement.rows server store).map fun rows =>
    if statement.isGrouped then
      if statement.groupBy.isEmpty then {.group []}
      else (rows.map fun row => statement.groupBy.map (server.read row)).dedup.map .group
    else rows.map .row

def sortValue (key : OrderKey) : ResultRow → Cell
  | .row row =>
    key.tableAlias.elim (sorter.output statement.select statement.introduced key.term row)
      fun name => server.read row ⟨name, key.term⟩
  | .group values => sorter.grouped statement.groupBy key values

def sortKey (row : ResultRow) : List (Lex (ω ⊕ ωᵒᵈ)) :=
  statement.orderBy.map fun key =>
    match key.direction with
    | .asc => toLex (.inl (sorter.rank (statement.sortValue sorter server key row)))
    | .desc =>
      toLex (.inr (OrderDual.toDual (sorter.rank (statement.sortValue sorter server key row))))

def Returns (answer : List ResultRow) : Prop :=
  ∃ results sorted, statement.results server store = some results ∧
    Arranges (statement.sortKey sorter server) results sorted ∧
    answer = statement.limit.elim (sorted.drop (statement.offset.getD 0))
      (sorted.drop (statement.offset.getD 0)).take

end Statement

def Query.page (query : Query) (limit number : Nat) : Query :=
  { query with limit := some limit, offset := some (number * limit) }

namespace DriverConfig

variable {ω : Type} [LinearOrder ω] (config : DriverConfig) (consumer : ConsumerType)
  (externalIdAsFeatureId : Bool) (sorter : Sorter ω) (server : Server) (store : Store)
  (query : Query) (limit : Nat)

def Partitions : Prop :=
  ∀ results, (config.statement consumer externalIdAsFeatureId query).results server store =
      some results →
    ∀ pages : Nat → List ResultRow, (∀ number, (config.statement consumer externalIdAsFeatureId
        (query.page limit number)).Returns sorter server store (pages number)) →
      ∀ count, results.card ≤ count * limit →
        ((List.range count).flatMap pages : Multiset ResultRow) = results

variable {config consumer externalIdAsFeatureId sorter server store query limit}

theorem returns_page_iff :
    (config.statement consumer externalIdAsFeatureId (query.page limit number)).Returns sorter
        server store answer ↔
      ∃ results sorted,
        (config.statement consumer externalIdAsFeatureId query).results server store =
            some results ∧
          Arranges ((config.statement consumer externalIdAsFeatureId query).sortKey sorter server)
            results sorted ∧
          answer = page limit number sorted :=
  Iff.rfl

theorem partitions_iff_pagesPartition :
    config.Partitions consumer externalIdAsFeatureId sorter server store query limit ↔
      ∀ results, (config.statement consumer externalIdAsFeatureId query).results server store =
          some results →
        PagesPartition ((config.statement consumer externalIdAsFeatureId query).sortKey sorter
          server) results limit := by
  constructor
  · intro partitions results given arrangement arranges count enough
    apply partitions results given _ _ count enough
    intro number
    exact returns_page_iff.mpr ⟨results, arrangement number, given, arranges number, rfl⟩
  · intro partition results given pages returns count enough
    have cut : ∀ number, ∃ sorted,
        Arranges ((config.statement consumer externalIdAsFeatureId query).sortKey sorter server)
          results sorted ∧ pages number = page limit number sorted := by
      intro number
      obtain ⟨_, sorted, same, arranges, answer⟩ := returns_page_iff.mp (returns number)
      cases given.symm.trans same
      exact ⟨sorted, arranges, answer⟩
    choose arrangement arranges answer using cut
    rw [← partition results given arrangement arranges count enough, funext answer]

end DriverConfig

/-! ## Two versions of a lot -/

/-- Texts in their order; other values come last. A bare name is a column of the attributes. -/
def textSorter : Sorter (WithTop String) where
  rank
    | .text content => content
    | _ => ⊤
  output _ _ column row := row.tables "sc_attributes" column
  grouped _ _ _ := .null

/-- A lot written at 3 for the time from 0, and again at 6 for the time from 5. -/
def lotVersions : Store :=
  Execution.run Ingest.Collection.lots.commit Register.empty
    [Ingest.Collection.lot 1 3 0 none, Ingest.Collection.lot 2 6 5 none]

end Dynastore.Items
