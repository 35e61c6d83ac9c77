import SqlMigration.Host.Run

/-!
# Applying scripts

A script is applied by one run of `sqlcmd` against the target database. The run stops at the
first error in the script (`-b`) and reads double-quoted names as identifiers (`-I`), which the
generated scripts rely on. With SQL authentication the password travels in `SQLCMDPASSWORD`,
never on the command line.
-/

namespace SqlMigration.Apply

open Command

/-- An applier: the target, the `sqlcmd` program and the time limit per script. -/
structure Applier where
  target : Connection.Target
  program : String := "sqlcmd"
  timeout : Option Seconds := none

/-- The arguments of the run applying a script. -/
def Applier.args (x : Applier) (script : Path) : List String :=
  let t := x.target
  ["-S", t.address, "-d", t.database] ++ t.authArgs false ++ ["-b", "-I", "-i", script.render]

/-- The environment of a run: the password variable, or none at all. -/
def Applier.env (x : Applier) : Option (List (String × String)) :=
  match x.target.passwordEnv with
  | [] => none
  | kvs => some kvs

/-- Applies one script, stopping when `sqlcmd` fails. -/
def Applier.applyScript (x : Applier) (script : Path) : HostM Outcome :=
  HostM.runChecked ⟨x.program, x.args script, x.timeout, x.env⟩

end SqlMigration.Apply
