import Dynastore.Foundation.Choice
import Dynastore.Items.Reach

/-! What the server makes of the FROM and WHERE clauses of a statement over the tables of a
collection. An outer join that finds nothing joins a row of NULLs. The server refuses a statement
before it reads a row where a join compares a UUID with a text, where a condition names a table or a
column that is not there, or where an id is cast to a UUID and is none. -/

namespace Dynastore.Items

open Option

open Access (AttributeCondition)
open Ingest (Cell Geoid Item Row Store)

/-- The database server: its UUID texts, the columns of the table under an alias, the value of
an expression on a row of its table, and the rows of the envelope that a clause admits. -/
structure Server where
  uuid : String → Option Geoid
  uuidText : Geoid → String
  columns : String → List String
  term : String → Row → Cell
  admits : List (List AttributeCondition) → Row → Bool

structure JoinedRow where
  geoid : Geoid
  tables : String → Row

namespace Server

variable (server : Server)

def read (row : JoinedRow) (expression : Expression) : Cell :=
  server.term expression.term (row.tables expression.tableAlias)

def locate (tables : List String) : RawReference → Option Expression
  | .bare name =>
    match tables.filter fun table => (server.columns table).contains name with
    | [table] => some ⟨table, name⟩
    | _ => none
  | .qualified expression => if expression.tableAlias ∈ tables then some expression else none
  | .constant term => some ⟨"h", term⟩

def featureId (row : JoinedRow) (column : Expression) : Option String :=
  match server.read row column with
  | .null => some (server.uuidText row.geoid)
  | .text content => some content
  | _ => none

end Server

/-! ## Conditions -/

namespace Condition

variable (server : Server) (tables : List String)

def runs : Condition → Bool
  | live => true
  | comparison expression _ => tables.contains expression.tableAlias
  | raw references _ => references.all fun reference => (server.locate tables reference).isSome
  | never => true
  | access _ => tables.contains "ae"
  | geoidIn ids => ids.all fun id => (server.uuid id).isSome
  | featureIdIn column _ => tables.contains column.tableAlias

def holds (row : JoinedRow) : Condition → Bool
  | live => row.tables "h" "deleted_at" = .null
  | comparison expression test => test (server.read row expression)
  | raw references test =>
    test ((references.filterMap (server.locate tables)).map (server.read row))
  | never => false
  | access clauses => server.admits clauses (row.tables "ae")
  | geoidIn ids => ids.any fun id => server.uuid id = some row.geoid
  | featureIdIn column ids => (server.featureId row column).any ids.contains

end Condition

/-! ## Joins -/

/-- The rows that the ON clause finds. The attributes of a collection that keeps validity are
those valid at the hub row's transaction time. -/
def SidecarConfig.matching (config : SidecarConfig) (item : Item) : List Row :=
  (item.sidecars config.sidecarId).filter fun row =>
    !config.hasValidity ||
      match (row "validity").span, (item.hub "transaction_time").instant with
      | some span, some instant => span.contains instant
      | _, _ => false

def SidecarConfig.outer (config : SidecarConfig) (item : Item) : List Row :=
  if (config.matching item).isEmpty then [fun _ => .null] else config.matching item

def Join.rows (join : Join) (item : Item) : List Row :=
  if join.inner then join.config.matching item else join.config.outer item

def Server.hubTables (server : Server) (geoid : Geoid) (item : Item) (name : String) : Row :=
  if name = "h" then
    fun column => if column = "geoid" then .text (server.uuidText geoid) else item.hub column
  else fun _ => .null

namespace Statement

variable (statement : Statement) (server : Server)

def joinedRows (geoid : Geoid) (item : Item) : List JoinedRow :=
  (choices (server.hubTables geoid item)
    (statement.joins.map fun join => (join.tableAlias, join.rows item))).map (⟨geoid, ·⟩)

/-- The server can evaluate the FROM and WHERE clauses, which choose the hub rows. What it may
still refuse is a select list, a grouping or an order. -/
def runs : Bool :=
  (statement.joins.all fun join => join.config.sidecar.geoidColumn = .uuid) &&
    statement.conditions.all (·.runs server statement.introduced)

def holds (row : JoinedRow) : Bool :=
  statement.conditions.all (·.holds server statement.introduced row)

def rowsOf (geoid : Geoid) (item : Item) : List JoinedRow :=
  (statement.joinedRows server geoid item).filter (statement.holds server)

def rows (store : Store) : Option (Multiset JoinedRow) :=
  if statement.runs server then
    some (store.keys.val.bind fun geoid =>
      (store.get geoid).elim 0 fun item =>
        (statement.rowsOf server geoid item : Multiset JoinedRow))
  else none

def members (store : Store) : Option (Finset Geoid) :=
  (statement.rows server store).map fun rows => (rows.map JoinedRow.geoid).toFinset

variable {statement server}

theorem members_of_not_runs (refused : statement.runs server = false) :
    statement.members server store = none := by
  rw [members, rows, refused, if_neg Bool.false_ne_true, map_none]

theorem exists_members_of_runs (accepted : statement.runs server) :
    ∃ members, statement.members server store = some members := by
  rw [members, rows, accepted, if_pos rfl, map_some]
  exact ⟨_, rfl⟩

theorem geoid_of_mem_joinedRows (joined : row ∈ statement.joinedRows server geoid item) :
    row.geoid = geoid := by
  obtain ⟨_, _, rfl⟩ := List.mem_map.mp joined
  rfl

theorem mem_members (accepted : statement.runs server) :
    (∃ members, statement.members server store = some members ∧ geoid ∈ members) ↔
      ∃ item, store.get geoid = some item ∧
        ∃ row ∈ statement.joinedRows server geoid item, statement.holds server row := by
  simp only [members, rows, accepted, if_true, map_some, some.injEq,
    exists_eq_left', Multiset.mem_toFinset, Multiset.mem_map, Multiset.mem_bind]
  constructor
  · intro found
    obtain ⟨row, ⟨key, keyMem, rowMem⟩, same⟩ := found
    obtain ⟨item, stored⟩ := isSome_iff_exists.mp (Register.mem_keys.mp keyMem)
    rw [stored, elim_some, Multiset.mem_coe, rowsOf, List.mem_filter] at rowMem
    have owner : key = geoid := (geoid_of_mem_joinedRows rowMem.1).symm.trans same
    subst owner
    exact ⟨item, stored, row, rowMem.1, rowMem.2⟩
  · intro found
    obtain ⟨_, stored, row, joined, holds⟩ := found
    refine ⟨row, ⟨geoid, Register.mem_keys.mpr (by rw [stored]; rfl), ?_⟩,
      geoid_of_mem_joinedRows joined⟩
    rw [stored, elim_some, Multiset.mem_coe, rowsOf, List.mem_filter]
    exact ⟨joined, holds⟩

end Statement

end Dynastore.Items
