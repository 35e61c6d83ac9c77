import SqlMigration.Migration.Report
import SqlMigration.Catalog.Reader
import SqlMigration.Catalog.TypeMap
import SqlMigration.Ddl.Render
import SqlMigration.Layout
import SqlMigration.Export
import SqlMigration.Load
import SqlMigration.Apply

/-!
# Running the phases

The orchestrator holds the collaborators a migration needs (the catalog reader, the exporter,
the loader and the applier; a phase that needs one that is missing stops at once), the artifact
layout and the target schema, and runs the phases over the host.

A phase goes on after an object fails: a tool error is written into that object's result. Any
other fault stops the phase and the run with it: a folder that cannot be created, a catalog
listing that fails, an unreachable catalog while writing scripts, a value that does not convert.
Every object is reported to the progress log before it is worked on: `Generating DDL for t`,
`Processing t` (or the data file's path), `Exporting label`, `Applying name`, with its place
and the count of objects.
-/

namespace SqlMigration.Migration

open HostM

/-- The collaborators and settings of a migration. -/
structure Orchestrator where
  catalog : Option Catalog.Reader := none
  layout : Layout
  exporter : Option Export.Exporter := none
  loader : Option Load.Loader := none
  applier : Option Apply.Applier := none
  targetSchema : String := Ddl.defaultTargetSchema

/-- A collaborator, or a stop when the phase has none. -/
def require {α} (c : Option α) (role : String) (p : Phase) : HostM α :=
  match c with
  | some x => pure x
  | none => failTool (.missingCollaborator p.name role)

/-- Runs a step and answers its result or its fault. -/
def attempt {α} (m : HostM α) : HostM (Except Fault α) :=
  tryCatch (.ok <$> m) fun e => pure (.error e)

/-- A result that failed by a tool error; any other fault goes on stopping the phase. -/
def failedBy (base : ItemResult) (e : Fault) (passUnreachable : Bool) : HostM ItemResult :=
  if e.isTool ∧ (passUnreachable ∨ ¬ e.isUnreachable) then pure { base with errors := [e.message] }
  else throw e

/-- Runs work on each item in order, reporting `label item` with its place and the count
first. -/
def eachReported {α} (label : α → String) (items : List α) (work : α → HostM ItemResult) :
    HostM (List ItemResult) :=
  items.zipIdx.mapM fun (x, i) => do
    report (label x) (i + 1) items.length
    work x

/-- The warning for a column whose type has no mapping. -/
def unmappedWarning (table : String) (c : Column) : String :=
  "Column '" ++ table ++ "." ++ c.name.asText ++ "' has unmapped type '" ++ c.udtName.asText ++
    "'; passed through unchanged."

namespace Orchestrator

/-- Writes the creation script of one table. -/
def tableSchema (o : Orchestrator) (catalog : Catalog.Reader) (name : String) : HostM ItemResult := do
  let base : ItemResult := { name := name, kind := "table" }
  match ← attempt (catalog.getTable name) with
  | .error e => failedBy base e false
  | .ok table =>
    let unmapped ← HostM.lift (unmappedColumns table.columns) .datum
    let base := { base with warnings := unmapped.map (unmappedWarning name) }
    let ddl ← HostM.lift (Ddl.renderTable table o.targetSchema) .datum
    match ← attempt (Layout.writeScript (o.layout.tableScript name) ddl) with
    | .error e => failedBy base e false
    | .ok p => pure { base with path := some p, success := true }

/-- Exports the data of one table. -/
def tableData (o : Orchestrator) (x : Export.Exporter) (name : String) : HostM ItemResult := do
  let base : ItemResult := { name := name, kind := "data" }
  match ← attempt (x.exportTable name (o.layout.dataFile name)) with
  | .error e => failedBy base e true
  | .ok r => pure { base with path := some r.path, rows := some r.rows, success := true }

/-- Phase 1: the creation script of every table, the data of every table, or both. -/
def exportSchemaAndData (o : Orchestrator) (mode : Mode) : HostM PhaseReport := do
  let phase := Phase.exportSchemaAndData
  let catalog ← require o.catalog "catalog reader" phase
  let exporter ← if mode.includesData then some <$> require o.exporter "exporter" phase
    else pure none
  if mode.includesSchema then o.layout.ensureScriptDirs
  if mode.includesData then o.layout.ensureDataDir
  let tables ← catalog.listTables
  let schema ← if mode.includesSchema then
      eachReported ("Generating DDL for " ++ ·) tables (o.tableSchema catalog)
    else pure []
  let data ← match exporter with
    | some x => eachReported ("Processing " ++ ·) tables (o.tableData x)
    | none => pure []
  return { phase := phase, results := schema ++ data }

/-- One script of phase 2: its label, its file and how its text is read and rendered. -/
structure ScriptStep where
  label : String
  path : Path
  render : HostM String

/-- The scripts of phase 2, in order: check constraints, keys and sequences. -/
def constraintSteps (o : Orchestrator) (catalog : Catalog.Reader) : List ScriptStep :=
  [⟨"check constraints", o.layout.checksScript,
      do HostM.lift (Ddl.renderChecks (← catalog.listChecks) o.targetSchema) .datum⟩,
   ⟨"keys", o.layout.keysScript,
      do HostM.lift (Ddl.renderConstraints (← catalog.listConstraints) o.targetSchema) .datum⟩,
   ⟨"sequences", o.layout.sequencesScript,
      do HostM.lift (Ddl.renderSequences (← catalog.listSequences) o.targetSchema) .datum⟩]

/-- Writes the script of one step, reporting it against the script's name. -/
def writeStep (s : ScriptStep) : HostM ItemResult := do
  let base : ItemResult := { name := s.path.name, kind := s.label }
  match ← attempt (do Layout.writeScript s.path (← s.render)) with
  | .error e => failedBy base e false
  | .ok p => pure { base with path := some p, success := true }

/-- Writes the scripts of phase 2 in order, each reported first. -/
def writeConstraintScripts (o : Orchestrator) (catalog : Catalog.Reader) : HostM (List ItemResult) :=
  eachReported (fun s => "Exporting " ++ s.label) (o.constraintSteps catalog) writeStep

/-- Phase 2: the check constraint, key and sequence scripts. -/
def exportConstraints (o : Orchestrator) : HostM PhaseReport := do
  let phase := Phase.exportConstraints
  let catalog ← require o.catalog "catalog reader" phase
  o.layout.ensureScriptDirs
  let results ← o.writeConstraintScripts catalog
  return { phase := phase, results := results }

/-- The name of a script in reports: its path below the script tree. -/
def scriptName (o : Orchestrator) (p : Path) : String :=
  (Path.mk "" ((p.relativeTo o.layout.scriptDir).getD p.parts)).render

/-- Phase 3: every script of the tree applied, in folder and then name order. -/
def applySchema (o : Orchestrator) : HostM PhaseReport := do
  let phase := Phase.applySchema
  let applier ← require o.applier "schema applier" phase
  let scripts ← o.layout.schemaScripts
  let results ← eachReported (fun p => "Applying " ++ p.name) scripts fun p => do
    let base : ItemResult := { name := o.scriptName p, kind := "script", path := some p }
    match ← attempt (applier.applyScript p) with
    | .error e => failedBy base e true
    | .ok _ => pure { base with success := true }
  return { phase := phase, results := results }

/-- Phase 4: every data file loaded into its table. -/
def loadData (o : Orchestrator) : HostM PhaseReport := do
  let phase := Phase.loadData
  let loader ← require o.loader "loader" phase
  let files ← o.layout.dataFiles
  let results ← eachReported (fun p => "Processing " ++ p.render) files fun p => do
    let base : ItemResult := { name := p.name, kind := "load", path := some p }
    match ← attempt (loader.loadFile p) with
    | .error e => failedBy base e true
    | .ok r => pure { base with rows := r.rows, success := true }
  return { phase := phase, results := results }

/-- Runs one phase. -/
def runPhase (o : Orchestrator) (mode : Mode) : Phase → HostM PhaseReport
  | .exportSchemaAndData => o.exportSchemaAndData mode
  | .exportConstraints => o.exportConstraints
  | .applySchema => o.applySchema
  | .loadData => o.loadData

/-- Runs the requested phases that the mode takes, in their order. -/
def run (o : Orchestrator) (phases : List Phase) (mode : Mode) : HostM (List PhaseReport) :=
  (Phase.all.filter fun p => phases.contains p ∧ p.inMode mode).mapM (o.runPhase mode)

end Orchestrator

end SqlMigration.Migration
