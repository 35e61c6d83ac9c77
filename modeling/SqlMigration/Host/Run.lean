import SqlMigration.Host
import SqlMigration.Shell.Program

/-!
# Running external programs

Every run is recorded in the host's `calls`, in order, before it starts. A scripted program
answers with the next response that fits the run: a failure it reports instead of running, or
an exit code and output; a bulk export run also leaves its export file behind when the response
gives one. The file is written after the response is taken and before the outcome is returned,
so a failure to write it stops the run with the system error.
-/

namespace SqlMigration.HostM

open Command

/-- The tool error a scripted failure stands for. -/
def raisedError (program : String) (e : Raised) : ToolError :=
  .command ⟨.stated e.message, e.command.getD program, e.returncode, e.stderr, e.timedOut⟩

/-- Runs a scripted program: takes its response, reports the failure the response gives, or
writes the export file the run names and answers the response's outcome. -/
def runScripted (s : Script) (inv : Invocation) : HostM Outcome := do
  let (r, rest) := s.take inv.args
  modify fun h => { h with programs := .scripted rest }
  match r.raised with
  | some e => failTool (raisedError inv.program e)
  | none =>
    match exportTarget inv.args, r.copyBytes with
    | some p, some bytes => writeFile (Path.ofString p) bytes
    | _, _ => pure ()
    return ⟨r.command.getD inv.program, r.returncode, r.stdout, r.stderr⟩

/-- A time limit as a fraction of seconds; an infinite limit or not-a-number is none. -/
def Seconds.fraction? : Seconds → Option (Int × Nat)
  | .whole n => some (n, 1)
  | .real x => if x.isFinite then some x.toRational else none

/-- Output as text: decoded as UTF-8, with CR LF and lone CR read as line feeds. -/
def outputText (bs : List UInt8) : Except Text.Utf8.DecodeError String := do
  let s ← Text.Utf8.decode bs
  return String.ofList (crlf s.toList)
where
  crlf : List Char → List Char
    | '\r' :: '\n' :: rest => '\n' :: crlf rest
    | '\r' :: rest => '\n' :: crlf rest
    | c :: rest => c :: crlf rest
    | [] => []

/-- Runs a program of the host, with the run's variables over the host's environment. -/
def runNative (inv : Invocation) : HostM Outcome := do
  let h ← get
  -- the host's variables in their order, each replaced by the run's, then the run's new ones
  let given := inv.env.getD []
  let vars := h.environ.map (fun (k, v) => (k, (given.lookup k).getD v)) ++
    given.filter fun (k, _) => (h.environ.lookup k).isNone
  let shown := redact (inv.program :: inv.args)
  let lim : Shell.Limits := { limit := inv.timeout.bind Seconds.fraction? }
  let (ending, tree) := Shell.start h.tree vars lim inv.program inv.args
  modify fun h => { h with tree := tree }
  match ending with
  | .notFound => failTool (.command ⟨.cannotStart inv.program ⟨.noEntry, inv.program, none⟩, shown,
      none, "", false⟩)
  | .denied => failTool (.command ⟨.cannotStart inv.program ⟨.denied, inv.program, none⟩, shown,
      none, "", false⟩)
  | .timedOut err =>
    let limit := inv.timeout.getD (.whole 0)
    failTool (.command ⟨.timedOut limit shown, shown, none, String.ofList (Text.Utf8.decodeLossy err),
      true⟩)
  | .exited code out err =>
    let out ← lift (outputText out) .notUtf8
    let err ← lift (outputText err) .notUtf8
    return ⟨shown, code, out, err⟩

/-- Runs an external program, recording the run first. -/
def runCommand (inv : Invocation) : HostM Outcome := do
  modify fun h => { h with calls := h.calls ++ [inv] }
  match (← get).programs with
  | .scripted s => runScripted s inv
  | .native => runNative inv

/-- Runs an external program and stops with its failure when it exits with a non-zero code. -/
def runChecked (inv : Invocation) : HostM Outcome := do
  let o ← runCommand inv
  lift o.check (.tool ∘ .command)

end SqlMigration.HostM
