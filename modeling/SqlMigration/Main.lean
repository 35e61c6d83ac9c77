import SqlMigration.Cli.Run

/-!
# The executable

The program's entry point: it runs the command line over a host that holds an empty working
tree, takes the passwords from the process environment, and has neither the source database nor
the database tools within reach, so a phase that needs the database reports it unreachable and
one that runs a tool reports that it cannot start it. What the run prints goes to standard output
and standard error, and its code is the process's exit code.
-/

open SqlMigration

/-- The host a run of the executable works on. -/
def offlineHost (environ : List (String × String)) : Host :=
  { database := { refusal := some "could not connect to server: Connection refused" },
    programs := .native, environ := environ }

/-- Runs the tool on the command line and exits with its code. -/
def main (args : List String) : IO UInt32 := do
  let mut environ : List (String × String) := []
  for name in ["PGPASSWORD", "MSSQL_PASSWORD"] do
    if let some v ← IO.getEnv name then environ := environ ++ [(name, v)]
  let (r, _) := HostM.run (offlineHost environ) (Cli.run args)
  match r with
  | .ok f =>
    IO.print f.stdout
    IO.eprint f.stderr
    return match f.exit with
      | .returned c => c.toUInt32
      | .exited c => c.toUInt32
  | .error e =>
    IO.eprintln e.message
    return 1
