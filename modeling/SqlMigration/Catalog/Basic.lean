import SqlMigration.Datum.Compare

/-!
# Catalog descriptors

What the source catalog reports: tables with their columns in ordinal order, key and check
constraints, and sequences. The catalog's values are loosely typed, and descriptors keep the
names, type names, lengths, defaults, definitions and clauses exactly as it gives them; only
what the tool decides on is converted (nullability, constraint kinds, the numbers and type of a
sequence).

A table is only built through `Table.make`, which refuses an empty table name, a column name
that cannot be kept in a set, and a repeated column name, so every `Table` in the library has
distinct column names. A qualified name `schema.table` splits at its first dot; a name without
a dot belongs to the `public` schema.
-/

namespace SqlMigration

/-! ## Qualified names -/

/-- The schema and local part of a qualified table name. -/
structure QualifiedName where
  schema : String
  table : String
  deriving DecidableEq, Repr

/-- The schema a name without a dot belongs to. -/
def defaultSchema : String := "public"

/-- Splits `schema.table` at the first dot; a name without a dot is a `public` table. -/
def QualifiedName.parse (s : String) : QualifiedName :=
  match s.toList.span (· ≠ '.') with
  | (_, []) => ⟨defaultSchema, s⟩
  | (schema, _ :: table) => ⟨String.ofList schema, String.ofList table⟩

/-- The qualified text of a schema and table. -/
def QualifiedName.render (q : QualifiedName) : String := q.schema ++ "." ++ q.table

/-- The part of a name after its first dot, or the whole name when it has none. -/
def localTableName (s : String) : String :=
  match s.toList.span (· ≠ '.') with
  | (_, []) => s
  | (_, _ :: table) => String.ofList table

/-! ## Columns and tables -/

/-- One column as the catalog reports it; a length or default the catalog has none for is
null. -/
structure Column where
  name : Datum
  udtName : Datum
  dataType : Datum := .text ""
  nullable : Bool := true
  length : Datum := .null
  default : Datum := .null
  deriving Repr

/-- Why a descriptor could not be built. -/
inductive DescriptorError where
  /-- A column without a name. -/
  | emptyColumnName
  /-- A table without a name. -/
  | emptyTableName
  /-- The first column name that repeats, as text, with the table's qualified name. -/
  | duplicateColumn (column table : String)
  /-- A column name that cannot be kept in a set, by its kind. -/
  | unhashableName (kind : String)
  /-- A constraint kind code that is not one of `p f u c x`, as its literal shows it. -/
  | unknownKind (shown : String)
  deriving DecidableEq, Repr

def DescriptorError.message : DescriptorError → String
  | .emptyColumnName => "Column name must not be empty."
  | .emptyTableName => "Table name must not be empty."
  | .duplicateColumn c t => s!"Duplicate column '{c}' in table '{t}'."
  | .unknownKind shown => shown ++ " is not a valid ConstraintKind"
  | .unhashableName kind => "unhashable type: " ++ Text.quoted kind

/-- A column is built only with a name that counts as true. -/
def Column.make (c : Column) : Except DescriptorError Column :=
  if c.name.truthy then .ok c else .error .emptyColumnName

/-- A base table with its columns in ordinal order. -/
structure Table where
  schema : String
  name : String
  columns : List Column := []
  deriving Repr

/-- `schema.name`. -/
def Table.qualifiedName (t : Table) : String := t.schema ++ "." ++ t.name

/-- The first problem with a list of column names, scanning left to right with the names seen
so far: a name that cannot be kept in a set, or one equal to an earlier name. -/
def namesProblem (table : String) : List Datum → List Datum → Option DescriptorError
  | _, [] => none
  | seen, n :: rest =>
    if !n.hashable then some (.unhashableName n.kindName)
    else if seen.any (Datum.same · n) then some (.duplicateColumn n.asText table)
    else namesProblem table (n :: seen) rest

/-- Builds a table, refusing an empty name and then the first problem with its column names. -/
def Table.make (schema name : String) (columns : List Column) : Except DescriptorError Table :=
  if name.isEmpty then .error .emptyTableName
  else
    let t : Table := ⟨schema, name, columns⟩
    match namesProblem t.qualifiedName [] (columns.map Column.name) with
    | some e => .error e
    | none => .ok t

/-! ## Constraints -/

/-- The kinds of key and check constraints, by their catalog codes. -/
inductive ConstraintKind where
  | primaryKey
  | foreignKey
  | unique
  | check
  | exclusion
  deriving DecidableEq, Repr

/-- The catalog code of a constraint kind. -/
def ConstraintKind.code : ConstraintKind → String
  | .primaryKey => "p"
  | .foreignKey => "f"
  | .unique => "u"
  | .check => "c"
  | .exclusion => "x"

/-- The kind with a given catalog code. -/
def ConstraintKind.ofCode? : String → Option ConstraintKind
  | "p" => some .primaryKey
  | "f" => some .foreignKey
  | "u" => some .unique
  | "c" => some .check
  | "x" => some .exclusion
  | _ => none

/-- A key constraint with its definition as the source renders it. -/
structure Constraint where
  schema : Datum
  table : Datum
  name : Datum
  kind : ConstraintKind
  definition : Datum := .text ""
  deriving Repr

/-- Foreign keys are told apart: they must follow the keys they reference. -/
def Constraint.isForeignKey (r : Constraint) : Bool := r.kind == .foreignKey

/-- The ordering key `(is foreign key, kind code, schema, table, name)`. -/
def Constraint.sortKey (r : Constraint) : List Datum :=
  [.bool r.isForeignKey, .text r.kind.code, r.schema, r.table, r.name]

/-- A check constraint; the clause is the source's boolean expression. -/
structure CheckConstraint where
  schema : Datum
  table : Datum
  name : Datum
  clause : Datum
  deriving Repr

/-- The ordering key `(schema, table, name)`. -/
def CheckConstraint.sortKey (r : CheckConstraint) : List Datum := [r.schema, r.table, r.name]

/-! ## Sequences -/

/-- A sequence's parameters. `lastValue` is absent while the sequence was never advanced. -/
structure Sequence where
  schema : Datum
  name : Datum
  start : Int
  increment : Int
  minValue : Int
  maxValue : Int
  cycle : Bool := false
  lastValue : Option Int := none
  dataType : String := "int8"
  deriving Repr

/-- Where the sequence continues: after its last value, or at its start. -/
def Sequence.restartValue (s : Sequence) : Int := s.lastValue.getD s.start

end SqlMigration
