import SqlMigration.Cli.Parse
import SqlMigration.Migration.Orchestrator

/-!
# Running the program

A run reads its command line, then builds the collaborators the subcommand's phases need and
runs those phases:

* the source connection and the catalog reader only for the two export phases, and the exporter
  only when the first phase moves data;
* the target connection, the schema applier and the loader only for the apply and load phases.

A password not given on the command line comes from `PGPASSWORD` or `MSSQL_PASSWORD`, or is
empty; a trusted target connection has none. The delimiter `\t` or `tab` stands for a tab.

The run prints every phase report with its results indented below it and returns 0 when no
object failed and 1 otherwise. A tool error or an invalid value aborts the command: it is
printed after `ERROR: ` and the run returns 2. Any other fault ends the program uncaught.
-/

namespace SqlMigration.Cli

open HostM Migration

/-- How a run of the program ends. -/
inductive Exit where
  /-- The program returned this code: 0 when every object succeeded, 1 when some failed, 2
  when the command was aborted. -/
  | returned (code : Nat)
  /-- The command line reader ended the program with this code: 0 after the help or the
  version, 2 after a usage error. -/
  | exited (code : Nat)
  deriving DecidableEq, Repr

/-- What a run printed, and how it ended. -/
structure Finish where
  exit : Exit
  stdout : String := ""
  stderr : String := ""
  deriving DecidableEq, Repr

/-- The names of the log levels. -/
def logLevels : List String :=
  ["CRITICAL", "FATAL", "ERROR", "WARNING", "WARN", "INFO", "DEBUG", "NOTSET"]

/-- A level name in capitals as far as level names go: ASCII letters, and the dotless i and
the long s, which become `I` and `S`. -/
def levelKey (s : String) : String :=
  String.ofList (s.toList.map fun c =>
    if c.toNat = 0x131 then 'I' else if c.toNat = 0x17F then 'S' else c.toUpper)

/-- Checks the name of a log level, in any case. -/
def checkLevel (level : String) : HostM Unit :=
  if logLevels.contains (levelKey level) then pure () else throw (.logLevel (Text.quoted level))

/-- A delimiter as the command line gives it: `\t` and `tab` stand for a tab. -/
def parseDelimiter (s : String) : String := if s = "\\t" ∨ s = "tab" then "\t" else s

/-- A password: the one given, else the value of the environment variable, else empty. -/
def password (given : Option String) (name : String) : HostM String := do
  match given with
  | some p => pure p
  | none => return ((← get).environ.lookup name).getD ""

/-- The source connection the settings describe. -/
def sourceOf (s : Settings) : HostM Connection.Source := do
  let pw ← password s.sourcePassword "PGPASSWORD"
  lift (Connection.Source.validate
    [("host", .text s.sourceHost), ("port", .int s.sourcePort), ("database", .text s.sourceDb),
     ("user", .text s.sourceUser), ("password", .text pw)]) .validation

/-- The target connection the settings describe. -/
def targetOf (s : Settings) : HostM Connection.Target := do
  let pw ← if s.trusted then pure "" else password s.targetPassword "MSSQL_PASSWORD"
  lift (Connection.Target.validate
    [("server", .text s.targetServer), ("port", .int s.targetPort), ("database", .text s.targetDb),
     ("user", .text s.targetUser), ("password", .text pw), ("trusted_connection", .bool s.trusted),
     ("schema_name", .text s.targetSchema)]) .validation

/-- The orchestrator for the phases, with the collaborators they need and no others. -/
def build (s : Settings) (phases : List Phase) : HostM Orchestrator := do
  let delimiter := parseDelimiter s.delimiter
  let timeout := some (Command.Seconds.real s.timeout)
  let base : Orchestrator :=
    { layout := Layout.make s.scriptDir s.dataDir s.dataExtension, targetSchema := s.targetSchema }
  let withSource ←
    if phases.contains .exportSchemaAndData ∨ phases.contains .exportConstraints then do
      let src ← sourceOf s
      let exporter ← if phases.contains .exportSchemaAndData ∧ s.mode.includesData then
          some <$> lift (Export.Exporter.make src "psql" delimiter timeout) id
        else pure none
      pure { base with catalog := some ⟨src⟩, exporter := exporter }
    else pure base
  if phases.contains .applySchema ∨ phases.contains .loadData then do
    let tgt ← targetOf s
    let loader ← lift (Load.Loader.make tgt "bcp" delimiter s.batchSize timeout) id
    pure { withSource with applier := some ⟨tgt, "sqlcmd", timeout⟩, loader := some loader }
  else pure withSource

/-- The reports as printed: each summary, then its results indented by two spaces. -/
def reportText (reports : List PhaseReport) : String :=
  String.join (reports.map fun r =>
    r.summary ++ "\n" ++ String.join (r.results.map fun x => "  " ++ x.text ++ "\n"))

/-- Whether a fault aborts the command rather than the program: the tool's errors and invalid
values do; a missing row field, a value of the wrong kind, an infinite count, a system error
the tool does not wrap, and a catalog value used as a text, compared without an order or kept
in a set when it cannot be, do not. -/
def Fault.abortsCommand : Fault → Bool
  | .os _ | .missingField _ | .integer (.wrongKind _) | .integer .infinite | .datum _
  | .descriptor (.unhashableName _) => false
  | _ => true

/-- Checks the log level the settings name, if they name one. -/
def checkLogLevel (s : Settings) : HostM Unit :=
  if let some level := s.logLevel then
    unless level.isEmpty do checkLevel level
  else pure ()

/-- Runs the phases of an invocation. -/
def work (i : Invocation) : HostM (List PhaseReport) := do
  let s := i.settings
  checkLogLevel s
  let o ← build s i.command.phases
  o.run i.command.phases s.mode

/-- The code a run returns after its phases finished: 0 when no object failed, 1 otherwise. -/
def exitCode (reports : List PhaseReport) : Nat := if reports.all (·.ok) then 0 else 1

/-- Runs the phases of a command line that reads, printing their reports, or the error that
aborted the command. -/
def runInvocation (i : Invocation) : HostM Finish := do
  let r ← tryCatch (Except.ok <$> work i) fun e =>
    if Fault.abortsCommand e then pure (.error e) else throw e
  match (r : Except Fault (List PhaseReport)) with
  | .error e => return { exit := .returned 2, stderr := "ERROR: " ++ e.message ++ "\n" }
  | .ok reports => return { exit := .returned (exitCode reports), stdout := reportText reports }

/-- Runs the program on a command line. -/
def run (argv : List String) : HostM Finish := do
  match parse argv with
  | .error (.shown text) => return { exit := .exited 0, stdout := text }
  | .error (.usage prog message) =>
    return { exit := .exited 2, stderr := usageOf prog ++ prog ++ ": error: " ++ message ++ "\n" }
  | .ok i => runInvocation i

end SqlMigration.Cli
