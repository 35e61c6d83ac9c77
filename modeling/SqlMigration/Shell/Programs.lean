import SqlMigration.Shell.Utility
import SqlMigration.Shell.Translate
import SqlMigration.Shell.Expr
import SqlMigration.Shell.Grep
import SqlMigration.Shell.Sort
import SqlMigration.Shell.Listing
import SqlMigration.Shell.Copying
import SqlMigration.Shell.Sed
import SqlMigration.Shell.Find
import SqlMigration.Shell.Seq
import SqlMigration.Shell.PrintfProgram
import SqlMigration.Shell.Lines
import SqlMigration.Shell.Dump
import SqlMigration.Shell.Cut
import SqlMigration.Shell.Uniq

/-!
# The programs

The programs found on the search path besides the shell itself, each run with the exported
variables and its arguments.
-/

namespace SqlMigration.Shell

/-- The utilities by name, each with its body over its arguments and the exported
variables. -/
def utilities : List (String × (List (String × String) → List String → Sh Unit)) :=
  [("cat", fun _ a => catUtility a), ("head", fun _ a => headUtility a),
   ("tail", fun _ a => tailUtility a), ("tee", fun _ a => teeUtility a),
   ("wc", fun _ a => wcUtility a), ("rev", fun _ a => revUtility a),
   ("tr", fun _ a => trUtility a), ("cut", fun _ a => cutUtility a),
   ("sort", fun _ a => sortUtility a), ("uniq", fun _ a => uniqUtility a),
   ("seq", fun _ a => seqUtility a), ("yes", fun _ a => yesUtility a),
   ("basename", fun _ a => basenameUtility a), ("dirname", fun _ a => dirnameUtility a),
   ("echo", fun _ a => gnuEcho a), ("printenv", printenvUtility),
   ("true", fun _ _ => setStatus 0), ("false", fun _ _ => setStatus 1),
   ("mkdir", fun _ a => mkdirUtility a), ("rm", fun _ a => rmUtility a),
   ("touch", fun _ a => touchUtility a), ("cp", fun _ a => cpUtility a),
   ("mv", fun _ a => mvUtility a), ("ls", lsUtility),
   ("sleep", fun _ a => sleepUtility a), ("expr", fun _ a => exprUtility a),
   ("grep", fun _ a => grepUtility a), ("egrep", fun _ a => grepUtility ("-E" :: a)),
   ("fgrep", fun _ a => grepUtility ("-F" :: a)), ("sed", fun _ a => sedUtility a),
   ("uname", fun _ a => unameUtility a),
   ("printf", fun _ a => printfUtility a), ("tac", fun _ a => tacUtility a),
   ("nl", fun _ a => nlUtility a), ("paste", fun _ a => pasteUtility a),
   ("fold", fun _ a => foldUtility a), ("od", fun _ a => odUtility a),
   ("base64", fun _ a => base64Utility a)]

end SqlMigration.Shell
