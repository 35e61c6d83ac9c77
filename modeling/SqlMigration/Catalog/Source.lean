import SqlMigration.Datum

/-!
# The source database

What the source database answers to the tool: its catalog rows, query by query, and when it
refuses. Every query runs on a connection of its own. Connections are counted; with a refusal
reason set, every connection from a given count on is refused. A query can fail with a reason
of its own, given by the query's name or, for the columns of one table, by that table's
`schema.table` name. The rows of a query are answered in the order the database holds them.
-/

namespace SqlMigration.Catalog

/-- A catalog row: field names and their values. -/
abbrev Row := List (String × Datum)

/-- The catalog queries the tool makes. -/
inductive Query where
  | tables
  | columns (schema table : String)
  | constraints
  | checks
  | sequences
  deriving DecidableEq, Repr

def Query.name : Query → String
  | .tables => "tables"
  | .columns _ _ => "columns"
  | .constraints => "constraints"
  | .checks => "checks"
  | .sequences => "sequences"

/-- The source database: its rows, its refusals, and how many connections it has seen. -/
structure SourceDatabase where
  tables : List Row := []
  columns : List (String × List Row) := []
  constraints : List Row := []
  checks : List Row := []
  sequences : List Row := []
  refusal : Option String := none
  refuseFrom : Nat := 1
  queryFailures : List (String × String) := []
  connections : Nat := 0
  deriving Repr, Inhabited

/-- Opens a connection: the database with it counted, and the refusal reason if refused. -/
def SourceDatabase.connect (db : SourceDatabase) : SourceDatabase × Option String :=
  let n := db.connections + 1
  let db := { db with connections := n }
  match db.refusal with
  | some r => if n ≥ db.refuseFrom then (db, some r) else (db, none)
  | none => (db, none)

/-- The rows the database holds for a query. -/
def SourceDatabase.rows (db : SourceDatabase) : Query → List Row
  | .tables => db.tables
  | .columns s t => (db.columns.lookup (s ++ "." ++ t)).getD []
  | .constraints => db.constraints
  | .checks => db.checks
  | .sequences => db.sequences

/-- The rows a query answers, or the reason it fails. -/
def SourceDatabase.answer (db : SourceDatabase) (q : Query) : Except String (List Row) :=
  let failure := match db.queryFailures.lookup q.name with
    | some r => some r
    | none => match q with
      | .columns s t => db.queryFailures.lookup (s ++ "." ++ t)
      | _ => none
  match failure with
  | some r => .error r
  | none => .ok (db.rows q)

end SqlMigration.Catalog
