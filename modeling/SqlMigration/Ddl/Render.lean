import SqlMigration.Catalog.TypeMap
import SqlMigration.Ddl.Identifier
import SqlMigration.Sorting

/-!
# Target DDL

The statements that recreate the source schema on the target: one `Create Table` per table, key
constraints in an order that can be applied one after the other, check constraints, and
sequences restarted where the source left them. Every statement names its object under the
target schema. Rendering is a function of the descriptors alone, so equal descriptors give
equal text.

Key constraints are ordered by their key `(is foreign key, kind code, schema, table, name)`,
greatest first, so every foreign key comes before every other constraint; constraints with
equal keys keep their catalog order. Exclusion constraints have no target form and are left
out. Check constraints are ordered by `(schema, table, name)`, least first, again stably.

The catalog's names are loosely typed: a name that is not a text cannot be quoted, and keys whose
parts have no common order cannot be sorted; either stops the rendering with a `DatumError`.
Definitions, clauses and lengths are written as their text, whatever their kind.
-/

namespace SqlMigration.Ddl

/-- The schema objects are created in when none is given. -/
def defaultTargetSchema : String := "dbo"

/-- A name as the catalog gives it, quoted; only a text can be. -/
def quoteName : Datum → Except DatumError String
  | .text s => .ok (quoteIdent s)
  | d => .error (.noAttribute d.kindName "replace")

/-- `"schema"."name"` for a name as the catalog gives it. -/
def qualifyName (schema : String) (name : Datum) : Except DatumError String :=
  (quoteIdent schema ++ "." ++ ·) <$> quoteName name

/-! ## Tables -/

/-- One column: its quoted name, target type and nullability, with a trailing space. -/
def renderColumn (c : Column) : Except DatumError String := do
  let name ← quoteName c.name
  let type ← c.targetType
  return name ++ " " ++ type ++ " " ++ (if c.nullable then "NULL" else "NOT NULL") ++ " "

/-- The `Create Table` statement of a table under a target schema. -/
def renderTable (t : Table) (targetSchema : String := defaultTargetSchema) :
    Except DatumError String := do
  let columns ← t.columns.mapM renderColumn
  return "Create Table " ++ qualify targetSchema t.name ++ "(" ++ ", ".intercalate columns ++ ")"

/-! ## Key constraints -/

/-- Whether the first constraint's key is less than the second's. -/
def keyLess (a b : Constraint) : Except DatumError Bool := Datum.lessItems a.sortKey b.sortKey

/-- Key constraints, greatest key first; equal keys keep their order. -/
def orderConstraints (rs : List Constraint) : Except DatumError (List Constraint) :=
  sortDescendingWith keyLess rs

/-- The statement that adds one key constraint. -/
def renderConstraint (r : Constraint) (targetSchema : String := defaultTargetSchema) :
    Except DatumError String := do
  let table ← qualifyName targetSchema r.table
  let name ← quoteName r.name
  return "ALTER TABLE " ++ table ++ " ADD CONSTRAINT " ++ name ++ " " ++ r.definition.asText ++ ";"

/-- The key constraint statements, in application order, one per line; exclusion constraints
are left out. -/
def renderConstraints (rs : List Constraint) (targetSchema : String := defaultTargetSchema) :
    Except DatumError String := do
  let ordered ← orderConstraints rs
  let lines ← (ordered.filter (·.kind != .exclusion)).mapM (renderConstraint · targetSchema)
  return "\n".intercalate lines

/-! ## Check constraints -/

/-- Whether the first check constraint's key is less than the second's. -/
def checkLess (a b : CheckConstraint) : Except DatumError Bool :=
  Datum.lessItems a.sortKey b.sortKey

/-- Check constraints, least `(schema, table, name)` first; equal keys keep their order. -/
def orderChecks (rs : List CheckConstraint) : Except DatumError (List CheckConstraint) :=
  sortWith checkLess rs

/-- The statement that adds one check constraint; the clause is written as its text. -/
def renderCheck (r : CheckConstraint) (targetSchema : String := defaultTargetSchema) :
    Except DatumError String := do
  let table ← qualifyName targetSchema r.table
  let name ← quoteName r.name
  return "ALTER TABLE " ++ table ++ " ADD CONSTRAINT " ++ name ++ " CHECK(" ++ r.clause.asText ++
    ");"

/-- The check constraint statements in order, one per line. -/
def renderChecks (rs : List CheckConstraint) (targetSchema : String := defaultTargetSchema) :
    Except DatumError String := do
  let lines ← (← orderChecks rs).mapM (renderCheck · targetSchema)
  return "\n".intercalate lines

/-! ## Sequences -/

/-- The two statements of a sequence: create it, then restart it where the source left it. -/
def renderSequence (s : Sequence) (targetSchema : String := defaultTargetSchema) :
    Except DatumError String := do
  let name ← qualifyName targetSchema s.name
  return "CREATE SEQUENCE " ++ name ++ " AS " ++ (mapTypeName s.dataType).literal ++
    " START WITH " ++ toString s.start ++ " INCREMENT BY " ++ toString s.increment ++
    " MINVALUE " ++ toString s.minValue ++ " MAXVALUE " ++ toString s.maxValue ++
    (if s.cycle then " CYCLE;" else " NO CYCLE;") ++
    "\nALTER SEQUENCE " ++ name ++ " RESTART WITH " ++ toString s.restartValue ++ ";"

/-- The statements of the sequences in the given order, joined by line feeds. -/
def renderSequences (ss : List Sequence) (targetSchema : String := defaultTargetSchema) :
    Except DatumError String :=
  ("\n".intercalate ·) <$> ss.mapM (renderSequence · targetSchema)

end SqlMigration.Ddl
