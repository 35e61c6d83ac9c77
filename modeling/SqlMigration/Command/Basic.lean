import SqlMigration.FileTree.Basic
import SqlMigration.Number.Notation
import SqlMigration.Text.Blank

/-!
# External commands

A command the tool runs: a program, its arguments, a time limit and extra environment. Its
outcome is an exit code with the captured output; a non-zero code is a failure whose detail is
the stripped error output, or the stripped standard output when the error output is blank.

Commands are shown in logs and reports with the argument after `-P` or `--password` masked as
`***`; the masked argument is not itself read as a flag.
-/

namespace SqlMigration.Command

open Number

/-- A time limit in seconds, as given: a whole number or a binary64 number. -/
inductive Seconds where
  | whole (n : Int)
  | real (x : Binary64)
  deriving DecidableEq, Repr

/-- Seconds are written with the fewest digits that read back, positionally for point positions
from -3 to 16 and with a signed exponent of at least two digits otherwise; a whole binary64
number keeps its `.0`. -/
def Seconds.layout : Notation :=
  { positionalAbove := -4, positionalUpTo := 16, pointZero := true, expMark := "e",
    expPlus := true, expWidth := 2, infinityText := "inf", nanText := "nan" }

def Seconds.text : Seconds → String
  | .whole n => toString n
  | .real x => Seconds.layout.render x

/-- One run of an external program, as the runner receives it. -/
structure Invocation where
  program : String
  args : List String
  timeout : Option Seconds := none
  env : Option (List (String × String)) := none
  deriving DecidableEq, Repr

/-- The flags whose following argument is a secret. -/
def secretFlags : List String := ["-P", "--password"]

/-- The arguments with each one after a secret flag masked. -/
def mask : Bool → List String → List String
  | _, [] => []
  | true, _ :: rest => "***" :: mask false rest
  | false, a :: rest => a :: mask (secretFlags.contains a) rest

/-- A command line as logs show it, secrets masked. -/
def redact (args : List String) : String := " ".intercalate (mask false args)

/-- The captured outcome of a command. -/
structure Outcome where
  command : String
  returncode : Int
  stdout : String := ""
  stderr : String := ""
  deriving DecidableEq, Repr

def Outcome.ok (o : Outcome) : Bool := o.returncode = 0

/-- Why a command failed. -/
inductive Failure where
  /-- It exited with a non-zero code; the detail is its stripped output. -/
  | exited (code : Int) (detail : String)
  /-- It ran out of time, shown with its limit and its masked command line. -/
  | timedOut (limit : Seconds) (shown : String)
  /-- Its program could not be started. -/
  | cannotStart (program : String) (e : OsError)
  /-- A failure with its own message. -/
  | stated (message : String)
  deriving DecidableEq, Repr

def Failure.message : Failure → String
  | .exited code detail => "Command exited with code " ++ toString code ++ ": " ++ detail
  | .timedOut limit shown => "Command timed out after " ++ limit.text ++ "s: " ++ shown
  | .cannotStart p e => "Could not start '" ++ p ++ "': " ++ e.message
  | .stated m => m

/-- A failed command with what it left: its masked command line, exit code if it exited,
error output, and whether it ran out of time. -/
structure Error where
  failure : Failure
  command : String := ""
  returncode : Option Int := none
  stderr : String := ""
  timedOut : Bool := false
  deriving DecidableEq, Repr

/-- The outcome itself when it succeeded, else the failure it is. -/
def Outcome.check (o : Outcome) : Except Error Outcome :=
  if o.ok then .ok o
  else
    let e := Text.stripBlank o.stderr
    let detail := if e.isEmpty then Text.stripBlank o.stdout else e
    .error ⟨.exited o.returncode detail, o.command, some o.returncode, o.stderr, false⟩

end SqlMigration.Command
