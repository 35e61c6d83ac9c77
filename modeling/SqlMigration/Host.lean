import SqlMigration.Fault
import SqlMigration.FileTree.Glob
import SqlMigration.Catalog.Source
import SqlMigration.Command.Script

/-!
# The host

Everything the tool acts on and everything it leaves a trace in: the file tree below the
working directory, the source database, the external programs, the environment variables,
and the records of what was run (`calls`), what the database was asked (`events`) and what
progress was reported (`progress`). Operations run in `HostM`: they change the host and may
stop with a fault, and a fault keeps every change made before it, as effects on a real system
do.
-/

namespace SqlMigration

/-- The settings of one connection to the source database, as the database sees them. -/
structure ConnectParams where
  host : String
  port : Int
  dbname : String
  user : String
  password : String
  connectTimeout : Int
  options : String
  deriving DecidableEq, Repr

/-- One thing the source database was asked. -/
inductive DbEvent where
  | connect (params : ConnectParams)
  | query (name : String) (params : Option (String × String))
  deriving DecidableEq, Repr

/-- How external programs behave: as scripted, or by running programs of the host. -/
inductive Programs where
  | scripted (script : Command.Script)
  | native
  deriving Repr, Inhabited

/-- What the tool acts on, and the records it leaves. -/
structure Host where
  tree : FileTree := {}
  database : Catalog.SourceDatabase := {}
  programs : Programs := .scripted {}
  environ : List (String × String) := []
  calls : List Command.Invocation := []
  events : List DbEvent := []
  progress : List (String × Nat × Nat) := []
  deriving Inhabited

/-- Operations on the host. -/
abbrev HostM := ExceptT Fault (StateM Host)

namespace HostM

/-- Runs an operation on a host: its result or fault, and the host after it. -/
def run {α} (h : Host) (m : HostM α) : Except Fault α × Host := (ExceptT.run m).run h

def failTool {α} (e : ToolError) : HostM α := throw (.tool e)

/-- Takes the result of a pure step, stopping with a fault built from its error. -/
def lift {ε α} (r : Except ε α) (f : ε → Fault) : HostM α :=
  match r with
  | .ok a => pure a
  | .error e => throw (f e)

/-- Runs `body`, then `cleanup` whatever happened; a fault of the cleanup replaces one of the
body. -/
def finally' {α} (body : HostM α) (cleanup : HostM Unit) : HostM α := do
  let r ← tryCatch (.ok <$> body) (fun e => pure (.error e))
  cleanup
  match (r : Except Fault α) with
  | .ok a => pure a
  | .error e => throw e

/-- Runs `body`, turning its faults by `handler`. -/
def mapFault {α} (body : HostM α) (handler : Fault → Fault) : HostM α :=
  tryCatch body fun e => throw (handler e)

/-! ## The file tree -/

def tree : HostM FileTree := return (← get).tree

/-- Applies a tree change, stopping with its system error. -/
def change (f : FileTree → Except OsError FileTree) : HostM Unit := do
  let t ← tree
  match f t with
  | .ok t' => modify fun h => { h with tree := t' }
  | .error e => throw (.os e)

/-- Reads from the tree, stopping with its system error. -/
def look {α} (f : FileTree → Except OsError α) : HostM α := do
  lift (f (← tree)) .os

def mkdir (p : Path) : HostM Unit := change (·.mkdir p)
def writeFile (p : Path) (bytes : List UInt8) : HostM Unit := change (·.writeFile p bytes)
def readFile (p : Path) : HostM (List UInt8) := look (·.readFile p)
def rename (src dst : Path) : HostM Unit := change (·.rename src dst)
def unlink (p : Path) : HostM Unit := change (·.unlink p)
def exists? (p : Path) : HostM Bool := look (·.exists? p)
def isDir? (p : Path) : HostM Bool := look (·.isDir? p)
def isFile? (p : Path) : HostM Bool := look (·.isFile? p)

/-- Removes a file, doing nothing when nothing is there. -/
def unlinkIfPresent (p : Path) : HostM Unit :=
  tryCatch (unlink p) fun e => match e with
    | .os ⟨.noEntry, _, _⟩ => pure ()
    | e => throw e

/-- A directory that could not be created is fine when it is there as a directory. -/
def existingDir (p : Path) (e : Fault) : HostM Unit := do
  if ← isDir? p then pure () else throw e

/-- Creates a directory, where a missing parent is an error and an existing directory is
fine. -/
def mkdirExistOk (p : Path) : HostM Unit :=
  tryCatch (mkdir p) fun e => match e with
    | .os ⟨.noEntry, _, _⟩ => throw e
    | .os _ => existingDir p e
    | e => throw e

/-- Creates a directory and, when its parent is missing, the parents first; a directory that
already exists is fine. -/
def makeDirs (p : Path) : HostM Unit :=
  go p.parts.length p
where
  go : Nat → Path → HostM Unit
    | 0, p => mkdirExistOk p
    | n + 1, p =>
      tryCatch (mkdir p) fun e => match e with
        | .os ⟨.noEntry, _, _⟩ => do
          go n p.parent
          mkdirExistOk p
        | .os _ => existingDir p e
        | e => throw e

/-! ## Records -/

/-- Records one report of progress. -/
def report (message : String) (current total : Nat) : HostM Unit :=
  modify fun h => { h with progress := h.progress ++ [(message, current, total)] }

/-- Records an event of the source database. -/
def record (e : DbEvent) : HostM Unit :=
  modify fun h => { h with events := h.events ++ [e] }

end HostM

end SqlMigration
