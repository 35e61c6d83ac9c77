import SqlMigration.Path
import SqlMigration.Number.Notation

/-!
# Phases, modes and reports

A migration runs in four phases, always in this order: exporting the table scripts and data,
exporting the constraint and sequence scripts, applying the scripts to the target, and loading
the data files. A *mode* says which half of the work a run does: everything, the schema only
(no data export or load), or the data only (no constraint scripts and no applying).

Each phase reports one result per object it worked on (a table, a script, a data file): whether
it succeeded, where its file is, the rows it moved, and its warnings and errors. A result reads
`[OK] kind name: N rows` with its warnings and errors on further lines; a phase report reads
`phase: S succeeded, F failed (T s)` with the time in two places.
-/

namespace SqlMigration.Migration

open Number

/-- The phases of a migration. -/
inductive Phase where
  | exportSchemaAndData
  | exportConstraints
  | applySchema
  | loadData
  deriving DecidableEq, Repr

/-- The phases, in the order a run takes them. -/
def Phase.all : List Phase := [.exportSchemaAndData, .exportConstraints, .applySchema, .loadData]

def Phase.name : Phase → String
  | .exportSchemaAndData => "export_schema_and_data"
  | .exportConstraints => "export_constraints"
  | .applySchema => "apply_schema"
  | .loadData => "load_data"

def Phase.ofName? (s : String) : Option Phase := Phase.all.find? (·.name = s)

/-- Which half of the work a run does. -/
inductive Mode where
  | all
  | schema
  | data
  deriving DecidableEq, Repr

def Mode.name : Mode → String
  | .all => "all"
  | .schema => "schema"
  | .data => "data"

def Mode.ofName? (s : String) : Option Mode := [Mode.all, .schema, .data].find? (·.name = s)

/-- Whether a mode writes and applies the schema. -/
def Mode.includesSchema : Mode → Bool
  | .data => false
  | _ => true

/-- Whether a mode moves the data. -/
def Mode.includesData : Mode → Bool
  | .schema => false
  | _ => true

/-- Whether a phase runs in a mode: the constraint and apply phases only with the schema, the
load only with the data, the first phase always. -/
def Phase.inMode (p : Phase) (m : Mode) : Bool :=
  match p with
  | .exportConstraints | .applySchema => m.includesSchema
  | .loadData => m.includesData
  | .exportSchemaAndData => true

/-- The phases a run in a mode takes. -/
def Mode.phases (m : Mode) : List Phase := Phase.all.filter (·.inMode m)

/-- The outcome of the work on one object. -/
structure ItemResult where
  name : String
  kind : String
  success : Bool := false
  path : Option Path := none
  rows : Option Int := none
  warnings : List String := []
  errors : List String := []
  deriving DecidableEq, Repr

/-- A result as text: status, kind, name and rows, then its warnings and its errors. -/
def ItemResult.text (r : ItemResult) : String :=
  let line := "[" ++ (if r.success then "OK" else "FAILED") ++ "] " ++ r.kind ++ " " ++ r.name ++
    (match r.rows with | some n => ": " ++ toString n ++ " rows" | none => "")
  let warnings := if r.warnings.isEmpty then [] else ["  Warnings: " ++ "; ".intercalate r.warnings]
  let errors := if r.errors.isEmpty then [] else ["  Errors: " ++ "; ".intercalate r.errors]
  "\n".intercalate (line :: warnings ++ errors)

/-- What one phase did, object by object, and how long it took in seconds. -/
structure PhaseReport where
  phase : Phase
  results : List ItemResult := []
  elapsed : Binary64 := .finite false 0 0
  deriving DecidableEq, Repr

/-- The number of objects that succeeded. -/
def PhaseReport.succeeded (r : PhaseReport) : Nat := (r.results.filter (·.success)).length

/-- The number of objects that failed. -/
def PhaseReport.failed (r : PhaseReport) : Nat := (r.results.filter (!·.success)).length

def PhaseReport.ok (r : PhaseReport) : Bool := r.failed = 0

/-- Times are written with two places, infinities and not-a-number by name. -/
def PhaseReport.timeLayout : Notation :=
  { positionalAbove := -400, positionalUpTo := 400, pointZero := false, expMark := "e",
    expPlus := true, expWidth := 2, infinityText := "inf", nanText := "nan" }

/-- `phase: S succeeded, F failed (T s)`. -/
def PhaseReport.summary (r : PhaseReport) : String :=
  r.phase.name ++ ": " ++ toString r.succeeded ++ " succeeded, " ++ toString r.failed ++
    " failed (" ++ PhaseReport.timeLayout.fixed 2 r.elapsed ++ "s)"

end SqlMigration.Migration
