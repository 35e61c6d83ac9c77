import SqlMigration.Catalog.Basic
import SqlMigration.Command.Basic
import SqlMigration.Connection.Basic
import SqlMigration.DataFile.Bcp
import SqlMigration.Datum
import SqlMigration.Text.Utf8
import SqlMigration.DataFile.Delimiter
import SqlMigration.FileTree.Glob

/-!
# Faults

Everything that can stop an operation of the tool, by cause. The tool's own errors
(`ToolError`) are the ones a phase reports against a single object and then goes on: a data
file that cannot be produced, a file system step that fails, an unreachable or failing catalog,
a failing external command, or a phase without the collaborator it needs. Every other fault
(`Fault`) stops the whole step: an invalid value or setting, a system call error that the tool
does not wrap, a missing row field, a value of the wrong kind, or bytes that are not UTF-8.

Each cause has one message (`ToolError.message`, `Fault.message`).
-/

namespace SqlMigration

/-- Why a data file could not be produced. -/
inductive DataFileError where
  /-- A value with no form in the load format, by file name, row and column. -/
  | unloadable (source : String) (row column : Nat) (reason : DataFile.Reserved)
      (delimiter : String)
  /-- A system call failed while converting. -/
  | cannotConvert (source destination : Path) (e : OsError)
  /-- The staged export is not UTF-8. -/
  | notUtf8 (source : Path) (e : Text.Utf8.DecodeError)
  /-- The export reported another row count than was written. -/
  | countMismatch (reported : Int) (table : String) (written : Nat) (destination : Path)
  deriving DecidableEq, Repr

def DataFileError.message : DataFileError → String
  | .unloadable src row col reason d =>
    src ++ ": row " ++ toString row ++ ", column " ++ toString col ++ ": " ++ reason.message ++
      "; it cannot be loaded with delimiter " ++ Text.quoted d ++ "."
  | .cannotConvert src dst e =>
    "Cannot convert '" ++ src.render ++ "' to '" ++ dst.render ++ "': " ++ e.message
  | .notUtf8 src e => "'" ++ src.render ++ "' is not valid UTF-8: " ++ e.message
  | .countMismatch r table w dst =>
    "psql reported " ++ toString r ++ " row(s) for " ++ table ++ " but " ++ toString w ++
      " were written to '" ++ dst.render ++ "'."

/-- Why a step on the artifact tree failed. -/
inductive FileSystemError where
  | cannotCreate (dir : Path) (e : OsError)
  | cannotWrite (file : Path) (e : OsError)
  | noScriptDir (dir : Path)
  | noDataDir (dir : Path)
  deriving DecidableEq, Repr

def FileSystemError.message : FileSystemError → String
  | .cannotCreate d e => "Cannot create directory '" ++ d.render ++ "': " ++ e.message
  | .cannotWrite p e => "Cannot write '" ++ p.render ++ "': " ++ e.message
  | .noScriptDir d => "Script directory '" ++ d.render ++ "' does not exist."
  | .noDataDir d => "Data directory '" ++ d.render ++ "' does not exist."

/-- Why the catalog could not be read. -/
inductive CatalogError where
  /-- The source database refused the connection: its display and the reason. -/
  | unreachable (display reason : String)
  /-- A query failed, with the database's message. -/
  | queryFailed (reason : String)
  deriving DecidableEq, Repr

def CatalogError.message : CatalogError → String
  | .unreachable d r => "Could not connect to PostgreSQL at " ++ d ++ ": " ++ r
  | .queryFailed r => Text.stripBlank r

/-- The tool's own errors. -/
inductive ToolError where
  | dataFile (e : DataFileError)
  | fileSystem (e : FileSystemError)
  | catalog (e : CatalogError)
  | command (e : Command.Error)
  /-- A phase run without a collaborator it needs: the phase and the collaborator's role. -/
  | missingCollaborator (phase role : String)
  deriving DecidableEq, Repr

def ToolError.message : ToolError → String
  | .dataFile e => e.message
  | .fileSystem e => e.message
  | .catalog e => e.message
  | .command e => e.failure.message
  | .missingCollaborator p r => "Phase '" ++ p ++ "' needs a " ++ r ++ ", but none was configured."

/-- Everything that can stop an operation. -/
inductive Fault where
  /-- One of the tool's own errors. -/
  | tool (e : ToolError)
  /-- A system call error the tool does not wrap. -/
  | os (e : OsError)
  /-- A value with no descriptor. -/
  | descriptor (e : DescriptorError)
  /-- A path that cannot be derived. -/
  | path (e : Path.Problem)
  /-- A field delimiter that is not supported, as given. -/
  | delimiter (text : String)
  /-- A batch size below one. -/
  | batchSize
  /-- A value with no integer. -/
  | integer (e : IntError)
  /-- A listing pattern with `**` inside a component. -/
  | pattern
  /-- A name that is no member of a set of choices: its literal and the set's name. -/
  | notMember (shown : String) (choices : String)
  /-- A log level that does not exist, as its literal shows it. -/
  | logLevel (shown : String)
  /-- Connection settings that do not validate. -/
  | validation (e : Connection.ValidationError)
  /-- A row without a field, by the field's name. -/
  | missingField (name : String)
  /-- Bytes that are not UTF-8. -/
  | notUtf8 (e : Text.Utf8.DecodeError)
  /-- A loosely typed value used as a text or compared without an order. -/
  | datum (e : DatumError)
  deriving DecidableEq, Repr

def Fault.message : Fault → String
  | .tool e => e.message
  | .os e => e.message
  | .descriptor e => e.message
  | .path e => e.message
  | .delimiter d => DataFile.unsupportedDelimiter d
  | .batchSize => "batch_size must be at least 1"
  | .integer e => e.message
  | .pattern => invalidPatternMessage
  | .notMember shown set => shown ++ " is not a valid " ++ set
  | .logLevel shown => "Unknown log level: " ++ shown
  | .validation e => e.headline
  | .missingField n => Text.quoted n
  | .notUtf8 e => e.message
  | .datum e => e.message

/-- Whether a fault is one of the tool's own errors. -/
def Fault.isTool : Fault → Bool
  | .tool _ => true
  | _ => false

/-- Whether a fault is an unreachable catalog, which stops a step even where other tool errors
are reported per object. -/
def Fault.isUnreachable : Fault → Bool
  | .tool (.catalog (.unreachable _ _)) => true
  | _ => false

end SqlMigration
