import SqlMigration.Host
import SqlMigration.Text.Percent

/-!
# The artifact layout

Where the tool keeps what it produces: a script tree with one folder of table scripts, one of
constraint scripts and one of sequence scripts, and a data folder with one file per table. A
table's files are named by its local name with `%`, `.`, `/` and `\` percent-escaped
(`tableStem`), so the name splits into folder, stem and extension in one way only and reading
the stem back gives the table.

A script is written to a temporary sibling that is then renamed over it, so a script is either
the old one or the new one in full. Listings are sorted: scripts by folder and then name, data
files by path.
-/

namespace SqlMigration

/-- The file stem of a table: its local name, escaped. -/
def tableStem (qualified : String) : String := Text.Percent.escape (localTableName qualified)

/-- The text written for a script: the script with a final line feed, unless it is empty or
already ends with one. -/
def scriptPayload (text : String) : String :=
  if text.isEmpty ∨ text.endsWith "\n" then text else text ++ "\n"

/-- Lexicographic order on component lists, by code point. -/
def partsLE : List String → List String → Bool
  | [], _ => true
  | _ :: _, [] => false
  | a :: as, b :: bs => if a = b then partsLE as bs else decide (a < b)

/-- The folders and files of one run. -/
structure Layout where
  scriptDir : Path
  dataDir : Path
  /-- The data files' extension, without a leading dot. -/
  extension : String
  deriving DecidableEq, Repr

namespace Layout

/-- A layout from its folder texts and extension; leading dots of the extension are dropped. -/
def make (scriptDir dataDir extension : String) : Layout :=
  ⟨Path.ofString scriptDir, Path.ofString dataDir, String.ofList (extension.toList.dropWhile (· = '.'))⟩

def tablesDir (l : Layout) : Path := l.scriptDir / "1_Tables"
def constraintsDir (l : Layout) : Path := l.scriptDir / "2_Constraints"
def sequencesDir (l : Layout) : Path := l.scriptDir / "3_Sequences"
def checksScript (l : Layout) : Path := l.constraintsDir / "1_check_constraints.sql"
def keysScript (l : Layout) : Path := l.constraintsDir / "2_primary_foreign_unique_key.sql"
def sequencesScript (l : Layout) : Path := l.sequencesDir / "sequences.sql"

/-- The creation script of a table. -/
def tableScript (l : Layout) (qualified : String) : Path :=
  l.tablesDir / (tableStem qualified ++ ".sql")

/-- The data file of a table. -/
def dataFile (l : Layout) (qualified : String) : Path :=
  l.dataDir / (tableStem qualified ++ "." ++ l.extension)

/-- Creates a folder and its parents, reporting a failure against the folder. -/
def ensureDir (d : Path) : HostM Unit :=
  HostM.mapFault (HostM.makeDirs d) fun
    | .os e => .tool (.fileSystem (.cannotCreate d e))
    | f => f

/-- Creates the three script folders, in order. -/
def ensureScriptDirs (l : Layout) : HostM Unit := do
  ensureDir l.tablesDir
  ensureDir l.constraintsDir
  ensureDir l.sequencesDir

/-- Creates the data folder. -/
def ensureDataDir (l : Layout) : HostM Unit := ensureDir l.dataDir

/-- Writes a script through a temporary sibling (its name with `.tmp` added), creating the
parents first. A failed step leaves the temporary file where it is. -/
def writeScript (path : Path) (text : String) : HostM Path := do
  let tmp ← HostM.lift (path.withSuffix (path.suffix ++ ".tmp")) .path
  HostM.mapFault
    (do
      HostM.makeDirs path.parent
      HostM.writeFile tmp (Text.Utf8.encode (scriptPayload text))
      HostM.rename tmp path)
    fun
      | .os e => .tool (.fileSystem (.cannotWrite path e))
      | f => f
  return path

/-- The paths a listing found, or the fault it stopped with. -/
def listed (r : Except String (Except OsError (List Path))) : HostM (List Path) :=
  match r with
  | .error _ => throw .pattern
  | .ok (.error e) => throw (.os e)
  | .ok (.ok ps) => pure ps

/-- Whether one script comes before another: by folder below the script tree, then by name. -/
def scriptLE (l : Layout) (p q : Path) : Bool :=
  let a := (p.parent.relativeTo l.scriptDir).getD []
  let b := (q.parent.relativeTo l.scriptDir).getD []
  if a = b then decide (p.name ≤ q.name) else partsLE a b

/-- Every regular `.sql` file of the script tree, by folder and then name. -/
def schemaScripts (l : Layout) : HostM (List Path) := do
  unless ← HostM.isDir? l.scriptDir do HostM.failTool (.fileSystem (.noScriptDir l.scriptDir))
  let found ← listed ((← HostM.tree).rglob l.scriptDir "*.sql")
  let files ← found.filterM HostM.isFile?
  return files.mergeSort (l.scriptLE · ·)

/-- Every regular file of the data folder with the layout's extension, by path. -/
def dataFiles (l : Layout) : HostM (List Path) := do
  unless ← HostM.isDir? l.dataDir do HostM.failTool (.fileSystem (.noDataDir l.dataDir))
  let found ← listed ((← HostM.tree).glob l.dataDir ("*." ++ l.extension))
  let files ← found.filterM HostM.isFile?
  return files.mergeSort fun p q => partsLE (p.render.splitOn "/") (q.render.splitOn "/")

end Layout

end SqlMigration
