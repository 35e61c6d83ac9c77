import SqlMigration.Host.Run
import SqlMigration.DataFile.Convert
import SqlMigration.Ddl.Identifier
import SqlMigration.Text.Lines

/-!
# Exporting a table

A table is exported by one run of `psql` with a `\copy` meta-command that writes the text COPY
format of `SELECT * FROM "schema"."table"` to a staging file beside the destination (its name
with `.pgcopy` added). The staging file is then converted into the load file, and removed
whether or not the run and the conversion succeed.

The password travels in `PGPASSWORD`, never on the command line. When `psql` reports a row
count (`COPY n` on its output) it must equal the number of rows written.
-/

namespace SqlMigration.Export

open Command Number

/-- A file name as `psql` reads it in `\copy`: single quotes, doubled inside. -/
def pathLiteral (p : Path) : String :=
  "'" ++ String.ofList (p.render.toList.flatMap fun c => if c = '\'' then ['\'', '\''] else [c]) ++ "'"

/-- Whether a character needs the escape form of a string constant. -/
def needsEscape (c : Char) : Bool := c = '\t' ∨ c = '\n' ∨ c = '\r' ∨ c = '\\'

/-- One character of a COPY option constant; control characters are written as escapes only in
the escape form. -/
def optionChar (escapeForm : Bool) : Char → List Char
  | '\\' => ['\\', '\\']
  | '\'' => ['\'', '\'']
  | '\t' => if escapeForm then ['\\', 't'] else ['\t']
  | '\n' => if escapeForm then ['\\', 'n'] else ['\n']
  | '\r' => if escapeForm then ['\\', 'r'] else ['\r']
  | c => [c]

/-- A COPY option value as a string constant: `E'...'` when it holds a tab, line feed, carriage
return or backslash, else `'...'`; backslashes and quotes are doubled. -/
def optionLiteral (value : String) : String :=
  let e := value.toList.any needsEscape
  let body := String.ofList (value.toList.flatMap (optionChar e))
  if e then "E'" ++ body ++ "'" else "'" ++ body ++ "'"

/-- The `\copy` meta-command exporting a table to a file. -/
def copyCommand (qualified : String) (destination : Path) (delimiter : String) : String :=
  let q := QualifiedName.parse qualified
  "\\copy (SELECT * FROM " ++ Ddl.qualify q.schema q.table ++ ") TO " ++ pathLiteral destination ++
    " WITH (FORMAT text, DELIMITER " ++ optionLiteral delimiter ++ ")"

/-- Where `psql` writes the export of a destination. -/
def stagingPath (destination : Path) : Except Path.Problem Path :=
  destination.withName (destination.name ++ ".pgcopy")

/-- The count of one output line `COPY n`: the line's words are exactly `COPY` and a run of
digits. -/
def countWord? (line : String) : Option String :=
  match Text.splitBlank line with
  | ["COPY", d] => if !d.isEmpty ∧ d.toList.all Text.isDigitChar then some d else none
  | _ => none

/-- The row count `psql` reported: from the last line of the form `COPY n`, if any. A digit
that is no decimal digit (a superscript) has no value. -/
def copyCount? (stdout : String) : Except IntTextError (Option Int) :=
  match ((Text.splitLines stdout).reverse.filterMap countWord?).head? with
  | some d => some <$> readInt d
  | none => .ok none

/-- An exporter: the source, the `psql` program, the field delimiter and the time limit per
table. -/
structure Exporter where
  source : Connection.Source
  program : String := "psql"
  delimiter : DataFile.Delimiter := .tab
  timeout : Option Seconds := none

/-- An exporter for a delimiter text, which must be supported. -/
def Exporter.make (source : Connection.Source) (program delimiter : String)
    (timeout : Option Seconds) : Except Fault Exporter :=
  match DataFile.Delimiter.make delimiter with
  | .ok d => .ok ⟨source, program, d, timeout⟩
  | .error _ => .error (.delimiter delimiter)

/-- The arguments of the run exporting a table to a file. -/
def Exporter.args (x : Exporter) (qualified : String) (destination : Path) : List String :=
  let s := x.source
  ["-h", s.host, "-p", toString s.port, "-U", s.user, "-d", s.database, "-v", "ON_ERROR_STOP=1",
    "-c", copyCommand qualified destination x.delimiter.text]

/-- The environment of an export run: the client encoding, and the password when there is
one. -/
def Exporter.env (x : Exporter) : List (String × String) :=
  ("PGCLIENTENCODING", "UTF8") ::
    (if x.source.password.isEmpty then [] else [("PGPASSWORD", x.source.password)])

/-- What exporting a table produced. -/
structure Exported where
  table : String
  path : Path
  rows : Nat
  deriving DecidableEq, Repr

/-- Exports a table to a load file, overwriting it. -/
def Exporter.exportTable (x : Exporter) (qualified : String) (destination : Path) :
    HostM Exported := do
  let staged ← HostM.lift (stagingPath destination) .path
  let inv : Invocation := ⟨x.program, x.args qualified staged, x.timeout, some x.env⟩
  let (outcome, rows) ← HostM.finally'
    (do
      let o ← HostM.runChecked inv
      let n ← DataFile.convertCopyText staged destination x.delimiter.text
      pure (o, n))
    (HostM.unlinkIfPresent staged)
  match ← HostM.lift (copyCount? outcome.stdout) (.integer ∘ .badText) with
  | some r =>
    if r ≠ rows then HostM.failTool (.dataFile (.countMismatch r qualified rows destination))
    else pure ⟨qualified, destination, rows⟩
  | none => pure ⟨qualified, destination, rows⟩

end SqlMigration.Export
