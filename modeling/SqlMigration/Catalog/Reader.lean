import SqlMigration.Host

/-!
# Reading the catalog

The catalog reader asks the source database for its base tables, the columns of one table, its
key constraints, its check constraints and its sequences. Every query opens a connection of its
own, with the connection's time limit and a statement time limit; a refused connection is a
`CatalogError.unreachable` naming the source, a failing query a `CatalogError.queryFailed`
with the database's message, stripped. Both the connection and the query are recorded in the
host's events before they can fail.

Rows become descriptors field by field, in a fixed order, so a missing field or a value that
does not convert stops the reading at the first one:

* names, type names, lengths, defaults, definitions and clauses are kept as the row gives them,
  except that a column's data type that counts as false becomes `""`;
* a column is nullable when its flag, as text, reads `YES` in capitals;
* a sequence's type is given by its SQL name (`bigint`, `integer`, `smallint`, in any case),
  which becomes its catalog name; a type that counts as false stands for `int8`, and one that
  counts as true must be a text;
* a sequence's numbers are read as integers, and its cycle flag as a truth value.
-/

namespace SqlMigration.Catalog

open HostM

/-- The settings a connection to the source carries. -/
def connectParams (s : Connection.Source) : ConnectParams :=
  ⟨s.host, s.port, s.database, s.user, s.password, s.connectTimeout,
    "-c statement_timeout=" ++ toString s.statementTimeoutMs⟩

/-- The parameters a query is sent with. -/
def Query.params : Query → Option (String × String)
  | .columns s t => some (s, t)
  | _ => none

/-- Runs one query on a connection of its own. -/
def runQuery (src : Connection.Source) (q : Query) : HostM (List Row) := do
  record (.connect (connectParams src))
  let h ← get
  let (db, refused) := h.database.connect
  set { h with database := db }
  if let some reason := refused then failTool (.catalog (.unreachable src.display reason))
  record (.query q.name q.params)
  match db.answer q with
  | .ok rows => pure rows
  | .error reason => failTool (.catalog (.queryFailed reason))

/-- The value of a row's field, stopping when the row has none. -/
def field (r : Row) (name : String) : HostM Datum :=
  match r.lookup name with
  | some v => pure v
  | none => throw (.missingField name)

/-- Whether a text reads `YES` in capitals: `y`, `e` and `s` in either case, the long s
standing for `s`. -/
def readsYes (s : String) : Bool :=
  match s.toList with
  | [y, e, c] => (y = 'y' ∨ y = 'Y') ∧ (e = 'e' ∨ e = 'E') ∧ (c = 's' ∨ c = 'S' ∨ c.toNat = 0x17F)
  | _ => false

def intField (r : Row) (name : String) : HostM Int := do
  lift (← field r name).toInt .integer

def readColumn (r : Row) : HostM Column := do
  let name ← field r "column_name"
  let udt ← field r "udt_name"
  let dataType ← field r "data_type"
  let nullable ← field r "is_nullable"
  let length ← field r "character_maximum_length"
  let default ← field r "column_default"
  lift (Column.make
    { name := name, udtName := udt, dataType := if dataType.truthy then dataType else .text "",
      nullable := readsYes nullable.asText, length := length, default := default })
    .descriptor

/-- The catalog name of a sequence type given by its SQL name; an empty name stands for
`bigint`. -/
def sequenceUdtName (given : String) : String :=
  let key := if given.isEmpty then "bigint" else String.ofList (given.toList.map Char.toLower)
  match key with
  | "bigint" => "int8"
  | "integer" => "int4"
  | "smallint" => "int2"
  | _ => if given.isEmpty then "int8" else given

/-- The catalog name of a sequence type as the catalog gives it: a value that counts as false
stands for `bigint`, and any other must be a text. -/
def sequenceUdt : Datum → Except DatumError String
  | .text s => .ok (sequenceUdtName s)
  | d => if d.truthy then .error (.noAttribute d.kindName "lower") else .ok "int8"

def readSequence (r : Row) : HostM Sequence := do
  let schema ← field r "schemaname"
  let name ← field r "sequencename"
  let dataType ← lift (sequenceUdt (← field r "data_type")) .datum
  let start ← intField r "start_value"
  let increment ← intField r "increment_by"
  let minValue ← intField r "min_value"
  let maxValue ← intField r "max_value"
  let cycle ← field r "cycle"
  let last ← field r "last_value"
  let lastValue ← match last with
    | .null => pure none
    | v => some <$> lift v.toInt .integer
  return { schema := schema, name := name, start := start, increment := increment,
           minValue := minValue, maxValue := maxValue, cycle := cycle.truthy,
           lastValue := lastValue, dataType := dataType }

/-- A reader of the catalog of a source. -/
structure Reader where
  source : Connection.Source

namespace Reader

/-- The qualified names of the base tables. -/
def listTables (x : Reader) : HostM (List String) := do
  let rows ← runQuery x.source .tables
  rows.mapM fun r => do
    let s ← field r "table_schema"
    let t ← field r "table_name"
    return s.asText ++ "." ++ t.asText

/-- A table with its columns, in catalog order. -/
def getTable (x : Reader) (qualified : String) : HostM Table := do
  let q := QualifiedName.parse qualified
  let rows ← runQuery x.source (.columns q.schema q.table)
  let columns ← rows.mapM readColumn
  lift (Table.make q.schema q.table columns) .descriptor

/-- The key constraints, with their definitions. -/
def listConstraints (x : Reader) : HostM (List Constraint) := do
  let rows ← runQuery x.source .constraints
  rows.mapM fun r => do
    let schema ← field r "namespace"
    let table ← field r "table_name"
    let name ← field r "conname"
    let code ← field r "contype"
    let kind ← match code with
      | .text c => match ConstraintKind.ofCode? c with
        | some k => pure k
        | none => throw (.descriptor (.unknownKind code.repr))
      | d => throw (.descriptor (.unknownKind d.repr))
    let definition ← field r "definition"
    return ⟨schema, table, name, kind, definition⟩

def listChecks (x : Reader) : HostM (List CheckConstraint) := do
  let rows ← runQuery x.source .checks
  rows.mapM fun r => do
    let schema ← field r "table_schema"
    let table ← field r "table_name"
    let name ← field r "constraint_name"
    let clause ← field r "check_clause"
    return ⟨schema, table, name, clause⟩

def listSequences (x : Reader) : HostM (List Sequence) := do
  let rows ← runQuery x.source .sequences
  rows.mapM readSequence

end Reader

end SqlMigration.Catalog
