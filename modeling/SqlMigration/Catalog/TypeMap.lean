import SqlMigration.Catalog.Basic

/-!
# Target column types

How a source column type becomes a target column type. The source names a type by its
underlying name (`int4`, `bpchar`, …) and, for enumerations and other user types, by the data
type `USER-DEFINED`. The underlying name is looked up without regard to ASCII case in a fixed
table; user-defined types and the wide text types become `varchar(max)`; anything else passes
through unchanged and is a *fallback* unless the target knows the name natively.

`mapTypeName` is total and never yields an empty literal: an empty source name is itself a
fallback to `varchar(max)`. As the catalog gives it, a type name is any value: one that counts as
false is the empty name, and one that counts as true but is no text cannot be looked up, which
is an error (`mapType`).
-/

namespace SqlMigration

/-- A target type: its literal, whether a `(length)` may follow it, and whether the source type
was passed through without a mapping. -/
structure TargetType where
  literal : String
  needsLength : Bool := true
  isFallback : Bool := false
  deriving DecidableEq, Repr

/-- The literal, with `(length)` appended when the type takes a length and one is given: the
length is written as its text, whatever its kind. -/
def TargetType.render (t : TargetType) (length : Datum) : String :=
  match t.needsLength, length with
  | true, .null => t.literal
  | true, n => t.literal ++ "(" ++ n.asText ++ ")"
  | false, _ => t.literal

/-- The target's wide text type, where text of any length goes. -/
def wideText : String := "varchar(max)"

/-- The source type names with a fixed target literal. -/
def mappedTypes : List (String × String) :=
  [("int8", "bigint"), ("int4", "int"), ("int2", "smallint"), ("bytea", "varbinary(max)"),
   ("timestamptz", "datetime2"), ("timestamp", "datetime"), ("bool", "varchar(5)"),
   ("text", wideText), ("bpchar", "char")]

/-- Source types stored as wide text whatever their declaration. -/
def wideTextTypes : List String := ["tsvector", "_text"]

/-- Type names that mean the same in both dialects, so passing them through is no fallback. -/
def nativeTypes : List String :=
  ["varchar", "char", "date", "time", "numeric", "decimal", "real", "float", "money", "xml"]

/-- Lower case as far as a comparison with an ASCII name can tell: ASCII capitals and the
Kelvin sign, whose lower case is `k`, are lowered; every other character stays, and no other
character lowers to ASCII. -/
def lowerForKey (s : String) : String :=
  s.map fun c => if c.toNat = 0x212A then 'k' else c.toLower

/-- The data type that marks enumerations and other user types. -/
def userDefined : String := "USER-DEFINED"

/-- Maps a source column type, given its underlying name and data type. -/
def mapTypeName (udt : String) (dataType : Datum := .text "") : TargetType :=
  if udt.isEmpty then ⟨wideText, false, true⟩
  else
    let key := lowerForKey udt
    match mappedTypes.lookup key with
    | some literal => ⟨literal, !literal.contains '(', false⟩
    | none =>
      if dataType.same (.text userDefined) ∨ key ∈ wideTextTypes then ⟨wideText, false, false⟩
      else ⟨udt, !udt.contains '(', key ∉ nativeTypes⟩

/-- Maps a source column type given as the catalog gives it: a name that counts as false is the
empty name, and any other name must be a text. -/
def mapType (udt : Datum) (dataType : Datum := .text "") : Except DatumError TargetType :=
  match udt with
  | .text u => .ok (mapTypeName u dataType)
  | d => if d.truthy then .error (.noAttribute d.kindName "lower") else .ok (mapTypeName "" dataType)

/-- The rendered target type of a column, length included. -/
def Column.targetType (c : Column) : Except DatumError String :=
  (·.render c.length) <$> mapType c.udtName c.dataType

/-- A column's type is known when it maps without falling back. -/
def Column.isKnown (c : Column) : Except DatumError Bool :=
  (!·.isFallback) <$> mapType c.udtName c.dataType

/-- The columns whose type passes through unmapped, in order; the first type name that cannot
be looked up stops the search. -/
def unmappedColumns (cs : List Column) : Except DatumError (List Column) :=
  cs.filterM fun c => (!·) <$> c.isKnown

end SqlMigration
