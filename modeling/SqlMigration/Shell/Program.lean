import SqlMigration.Shell.Eval

/-!
# Running a program

A run starts one program by its name or path, with variables, arguments and a time limit, in
the tree as working directory, reading nothing.
-/

namespace SqlMigration.Shell

/-- How a run ended. -/
inductive Ending where
  /-- There is no such program. -/
  | notFound
  /-- The path names something that cannot be run. -/
  | denied
  /-- The time limit was reached; the error output written until then. -/
  | timedOut (err : Bytes)
  /-- The program exited, or a signal killed it (a negative code). -/
  | exited (code : Int) (out err : Bytes)
  deriving Repr

def runFuel : Nat := 100000

def startState (tree : FileTree) (env : List (String × String)) (lim : Limits) : State :=
  { tree := tree, limits := lim, births := env.length, tableOrder := false,
    vars := env.zipIdx.map fun ((k, v), i) => (k, { value := some v, exported := true, born := some i }) }

def resolveProgram (tree : FileTree) (program : String) : Except Ending String :=
  if program = "" ∨ program = "." ∨ program = ".." then .error .denied
  else if program.contains '/' then
    match programAt? program with
    | some _ => .ok program
    | none =>
      let p := Path.ofString program
      if p.root.isEmpty ∧ (tree.stat p).toOption.isSome then .error .denied else .error .notFound
  else if programNames.contains program then .ok ("/usr/bin/" ++ program)
  else .error .notFound

def ending (r : Except Stop Unit) (s : State) : Ending :=
  let last := s.jobs.foldl (fun m j => max m j.ends) s.elapsed
  match r with
  | .error .timeout | .error .exhausted => .timedOut s.err.toList
  | .error (.signal k) => .exited (-(k : Int)) s.out.toList s.err.toList
  | .error (.exit c) => .exited (c % 256 : Nat) s.out.toList s.err.toList
  | _ =>
    if s.limits.reached last then .timedOut s.err.toList
    else .exited (s.status % 256 : Nat) s.out.toList s.err.toList

/-- Runs a program in a tree with variables and a time limit: how it ended, and the tree after
it. -/
def start (tree : FileTree) (env : List (String × String)) (lim : Limits) (program : String)
    (args : List String) : Ending × FileTree :=
  match resolveProgram tree program with
  | .error e => (e, tree)
  | .ok path =>
    let name := (Path.ofString path).name
    let step : Sh Unit :=
      if shellNames.contains name then runShell runFuel name args true
      else runProgram runFuel path args
    let (r, s) := (ExceptT.run step).run (startState tree env lim)
    (ending r s, s.tree)

end SqlMigration.Shell
