import SqlMigration.Shell.State
import SqlMigration.Shell.Fields
import SqlMigration.Shell.Test
import SqlMigration.Shell.TestProgram
import SqlMigration.Shell.BashPrintf
import SqlMigration.Shell.Programs
import SqlMigration.Shell.BashArith

/-!
# Commands of the shell

The commands the shell runs itself, without starting a program: those that change the shell
(`cd`, `set`, `shift`, `export`, `readonly`, `unset`, `local`, `read`, `trap`, `umask`), those
that end or leave something (`exit`, `return`, `break`, `continue`), those that describe commands
(`type`, `command -v`), and `echo`, `printf`, `test`, `kill`, `wait`.
-/

namespace SqlMigration.Shell

def keywords : List String :=
  ["!", "case", "do", "done", "elif", "else", "esac", "fi", "for", "if", "in", "then", "until",
   "while", "\x7b", "\x7d"]

def specialBuiltins : List String :=
  [".", ":", "break", "continue", "eval", "exec", "exit", "export", "readonly", "return", "set",
   "shift", "times", "trap", "unset"]

def regularBuiltins : List String :=
  ["[", "alias", "bg", "cd", "chdir", "command", "echo", "false", "fg", "getopts", "hash", "jobs",
   "kill", "local", "printf", "pwd", "read", "test", "true", "type", "ulimit", "umask", "unalias",
   "wait"]

def bashBuiltins : List String :=
  ["declare", "typeset", "let", "source", "shopt", "mapfile", "readarray"]

def defaultExecPath : String := "/bin:/usr/bin"

def shellNames : List String := ["sh", "dash", "bash"]

def programNames : List String :=
  shellNames ++ ["env", "test", "[", "kill", "pwd", "which", "xargs", "find", "awk", "mawk", "timeout"] ++
  utilities.map (·.1)

def programDirs : List String := ["/usr/local/sbin", "/usr/local/bin", "/usr/sbin", "/usr/bin", "/sbin", "/bin"]

def programAt? (path : String) : Option String :=
  let p := Path.ofString path
  let dir := "/" ++ "/".intercalate p.parts.dropLast
  if p.root = "/" ∧ programDirs.contains dir ∧ programNames.contains p.name then some p.name else none

def isVarName (s : String) : Bool :=
  match s.toList with
  | c :: rest => (c.isAlpha ∨ c = '_') ∧ rest.all fun d => d.isAlphanum ∨ d = '_'
  | [] => false

def singleQuote (s : String) : String :=
  String.ofList ('\'' :: go s.toList false)
where
  /-- The characters after the opening quote; `inDouble` while in a run of single quotes. -/
  go : List Char → Bool → List Char
    | [], inDouble => [if inDouble then '"' else '\'']
    | c :: rest, inDouble =>
      if c = '\'' then
        if inDouble then c :: go rest true else '\'' :: '"' :: c :: go rest true
      else if inDouble then '"' :: '\'' :: c :: go rest false
      else c :: go rest false

/-- A number as the shell's commands read one: decimal, from 0 to 2^31 - 1, blanks around it
allowed. -/
def shellNumber? (s : String) : Option Nat :=
  match testNumber s with
  | .ok v => if v < 0 ∨ v > 2147483647 then none else some v.toNat
  | .error _ => none

def shellNumberArg (s : String) : Sh Nat := do
  match shellNumber? s with
  | some n => return n
  | none => failWith ("Illegal number: " ++ s)

/-! ## Signals -/

/-- The signals by number, 0 to 64: the named ones, two with no name, and the real-time ones
counted up from `RTMIN` and down from `RTMAX`, which meet at 49. -/
def signalNames : List String :=
  ["EXIT", "HUP", "INT", "QUIT", "ILL", "TRAP", "ABRT", "BUS", "FPE", "KILL", "USR1", "SEGV", "USR2",
   "PIPE", "ALRM", "TERM", "STKFLT", "CHLD", "CONT", "STOP", "TSTP", "TTIN", "TTOU", "URG", "XCPU",
   "XFSZ", "VTALRM", "PROF", "WINCH", "IO", "PWR", "SYS", "32", "33", "RTMIN"] ++
  (List.range 15).map (fun i => "RTMIN+" ++ toString (i + 1)) ++
  (List.range 14).map (fun i => "RTMAX-" ++ toString (14 - i)) ++ ["RTMAX"]

def signalNamesFor (bash : Bool) : List String :=
  if bash then signalNames else signalNames.set 16 "16"

/-- The number of a signal given by number (0 too) or by a name of a table, in any case and
with or without `SIG`; the name `EXIT` only when `withExit`. -/
def signalIn? (names : List String) (s : String) (withExit : Bool) : Option Nat :=
  if ¬ s.isEmpty ∧ s.toList.all Char.isDigit then
    (s.toNat?).bind fun n => if n < 65 then some n else none
  else
    let up := s.toUpper
    let up := if up.startsWith "SIG" then String.ofList (up.toList.drop 3) else up
    match names.idxOf? up with
    | some i => if withExit ∨ i > 0 then some i else none
    | none => none

/-- The number of a signal given by number (0 too) or by name, in any case and with or without
`SIG`; the name `EXIT` only when `withExit`. -/
def signalOf? (s : String) (withExit : Bool) : Option Nat := signalIn? signalNames s withExit

def signalName (n : Nat) : String := signalNames.getD n (toString n)

def shellSignalName (n : Nat) : Sh String :=
  return (signalNamesFor (← get).bashLike).getD n (toString n)

def shellSignalOf? (s : String) (withExit : Bool) : Sh (Option Nat) :=
  return signalIn? (signalNamesFor (← get).bashLike) s withExit

/-- The description of a signal that a shell writes when it ends a command: the C library's,
the real-time ones counted from 34. -/
def signalText (n : Nat) : String :=
  let named := ["Hangup", "Interrupt", "Quit", "Illegal instruction", "Trace/breakpoint trap",
    "Aborted", "Bus error", "Floating point exception", "Killed", "User defined signal 1",
    "Segmentation fault", "User defined signal 2", "Broken pipe", "Alarm clock", "Terminated",
    "Stack fault", "Child exited", "Continued", "Stopped (signal)", "Stopped",
    "Stopped (tty input)", "Stopped (tty output)", "Urgent I/O condition",
    "CPU time limit exceeded", "File size limit exceeded", "Virtual timer expired",
    "Profiling timer expired", "Window changed", "I/O possible", "Power failure",
    "Bad system call"]
  if 1 ≤ n ∧ n ≤ 31 then named.getD (n - 1) ""
  else if 34 ≤ n ∧ n ≤ 64 then "Real-time signal " ++ toString (n - 34)
  else "Unknown signal " ++ toString n

/-- What a signal does to a process that does not catch it: end it, stop it, or nothing. -/
inductive SignalEffect where
  | terminate
  | stop
  | ignore
  deriving DecidableEq, Repr

def signalEffect (n : Nat) : SignalEffect :=
  if n = 0 ∨ n = 17 ∨ n = 18 ∨ n = 23 ∨ n = 28 then .ignore
  else if n = 19 ∨ n = 20 ∨ n = 21 ∨ n = 22 then .stop
  else .terminate

/-- The signals as `bash` lists them for `kill -l` and `trap -l`: number and name, five to a
line separated by tabs, the two unnamed ones left out; a last short line keeps the tab after
its last entry. -/
def bashSignalTable : String :=
  let entries := ((List.range 64).map (· + 1)).filter (fun i => i ≠ 32 ∧ i ≠ 33) |>.map fun i =>
    let num := toString i
    (if num.length < 2 then " " else "") ++ num ++ ") SIG" ++ signalName i
  let rec rows : Nat → List String → List String
    | 0, _ => []
    | _ + 1, [] => []
    | k + 1, es =>
      let row := "\t".intercalate (es.take 5)
      (if es.length < 5 then row ++ "\t" else row) :: rows k (es.drop 5)
  String.join ((rows entries.length entries).map (· ++ "\n"))

/-- Delivers a signal to the shell itself: a trap makes it pending, an empty trap ignores it,
and otherwise it has its default effect; signal 0 only asks whether the process is there. -/
def signalSelf (n : Nat) : Sh Unit := do
  if n = 0 then return
  match (← get).traps.lookup (← shellSignalName n) with
  | some "" => pure ()
  | some _ => modify fun s => { s with pending := s.pending ++ [n] }
  | none =>
    match signalEffect n with
    | .terminate => throw (.signal n)
    | .stop => throw .timeout
    | .ignore => pure ()

/-- The job a `%` word names: `%`, `%%` or `%+` the current (newest) one, `%-` the one before it,
and `%N` the N-th. -/
def jobOf (spec : String) : Sh Job := do
  let js := (← get).jobs
  let body := String.ofList (spec.toList.drop 1)
  if body = "" ∨ body = "%" ∨ body = "+" then
    match js.getLast? with
    | some j => pure j
    | none => failWith "No current job"
  else if body = "-" then
    match js.dropLast.getLast? with
    | some j => pure j
    | none => failWith "No previous job"
  else
    match shellNumber? body with
    | some k =>
      match js[k - 1]? with
      | some j => if k > 0 then pure j else failWith ("No such job: " ++ spec)
      | none => failWith ("No such job: " ++ spec)
    | none => failWith ("No such job: " ++ spec)

/-- `kill`: sends a signal (`-s NAME`, `-NAME`, `-N`, TERM by default) to each process; `-l`
lists the signals or names one. -/
def killBuiltin (args : List String) : Sh Unit := do
  let usage := "Usage: kill [-s sigspec | -signum | -sigspec] [pid | job]... or\nkill -l [exitstatus]"
  match args with
  | [] => failWith usage
  | first :: rest =>
    let (list, sig, pids) ← if first.startsWith "-" ∧ first.length > 1 then do
        let body := String.ofList (first.toList.drop 1)
        match ← shellSignalOf? body false with
        | some n => pure (false, some n, rest)
        | none =>
          if body = "l" then pure (true, none, rest)
          else if body = "s" then
            match rest with
            | name :: more =>
              match ← shellSignalOf? name false with
              | some n => pure (false, some n, more)
              | none => failWith ("invalid signal number or name: " ++ name)
            | [] => failWith "option requires an argument -- s"
          else if body = "-" then pure (false, some 15, rest)
          else failWith ("Illegal option -" ++ String.singleton (body.toList.headD '-'))
      else pure (false, some 15, args)
    if list then
      match pids with
      | [] =>
        if (← get).bashLike then say 1 bashSignalTable
        else say 1 ("0\n" ++ String.join (((signalNamesFor false).drop 1).map (· ++ "\n")))
        setStatus 0
      | a :: _ =>
        let n ← shellNumberArg a
        let n := if n > 128 then n - 128 else n
        if 0 < n ∧ n < signalNames.length then
          say 1 ((← shellSignalName n) ++ "\n")
          setStatus 0
        else failWith ("invalid signal number or exit status: " ++ a)
    else
      if pids.isEmpty then failWith usage
      let n := sig.getD 15
      let mut failed := false
      for p in pids do
        if p.startsWith "%" then
          let _ ← jobOf p
          complain "No such process\n"
          failed := true
          continue
        let pid ← shellNumberArg p
        let s ← get
        if pid = s.limits.pid then signalSelf n
        else if s.jobs.any (·.pid == pid) then
          if n ≠ 0 then
            modify fun s => { s with jobs := s.jobs.map fun j =>
              if j.pid = pid then { j with status := 128 + n, ends := min j.ends s.elapsed } else j }
        else
          complain "No such process\n"
          failed := true
      setStatus (if failed then 1 else 0)

def bashTrapConditions : List String := ["DEBUG", "ERR", "RETURN"]

/-- The name under which a trap condition is kept: a signal's name as the running shell gives
it, or with `bash` one of its other conditions; none when it names nothing. -/
def trapCondition? (c : String) : Sh (Option String) := do
  if (← get).bashLike ∧ bashTrapConditions.contains c.toUpper then return some c.toUpper
  match ← shellSignalOf? c true with
  | some n => return some (← shellSignalName n)
  | none => return none

/-- `trap`: lists the traps, or sets (or with `-` resets) the action of each condition. -/
def trapBuiltin (args : List String) : Sh Unit := do
  let args := match args with
    | "--" :: rest => rest
    | _ => args
  let bash := (← get).bashLike
  let listTraps (only : Option (List String)) : Sh Unit := do
    let s ← get
    let names := signalNamesFor bash ++ (if bash then bashTrapConditions else [])
    for name in names do
      match s.traps.lookup name with
      | some action =>
        if only.all (·.contains name) then
          let shown := if bash ∧ name ≠ "EXIT" ∧ ¬ bashTrapConditions.contains name then "SIG" ++ name else name
          say 1 ("trap -- " ++ singleQuote action ++ " " ++ shown ++ "\n")
      | none => pure ()
    setStatus 0
  match args with
  | [] => listTraps none
  | "-l" :: _ =>
    if bash then
      say 1 bashSignalTable
      setStatus 0
    else failWith "Illegal option -l"
  | "-p" :: names =>
    if bash then
      if names.isEmpty then listTraps none
      else
        let mut known : List String := []
        let mut failed := false
        for c in names do
          match ← trapCondition? c with
          | some name => known := known ++ [name]
          | none =>
            complain (c ++ ": invalid signal specification")
            failed := true
        listTraps (some known)
        if failed then setStatus 1
    else failWith "Illegal option -p"
  | first :: rest =>
    if first.length > 1 ∧ first.startsWith "-" ∧ ¬ first.startsWith "--" then
      if bash then
        complain (String.ofList (first.toList.take 2) ++ ": invalid option")
        say 2 "trap: usage: trap [-lp] [[arg] signal_spec ...]\n"
        setStatus 2
        return
      else failWith ("Illegal option " ++ String.ofList (first.toList.take 2))
    let given ← trapCondition? first
    let (action, conds) := if rest.isEmpty ∨ given.isSome then (none, args)
      else (some first, rest)
    let action := match action with
      | some "-" => none
      | a => a
    let mut failed := false
    for c in conds do
      match ← trapCondition? c with
      | some name =>
        modify fun s => { s with traps := (s.traps.filter (·.1 ≠ name)) ++
          (match action with | some a => [(name, a)] | none => []) }
      | none =>
        failed := true
        if bash then complain (c ++ ": invalid signal specification")
        else
          say 2 ("trap: " ++ c ++ ": bad trap\n")
          break
    setStatus (if failed then 1 else 0)

/-- `wait`: lets time pass until the named background jobs (or all of them) have ended; the
status of the last one named. -/
def waitBuiltin (args : List String) : Sh Unit := do
  let s ← get
  match args with
  | [] =>
    let ends := s.jobs.foldl (fun m j => max m j.ends) s.elapsed
    if ends > s.elapsed then pass (ends - s.elapsed)
    setStatus 0
  | pids =>
    let mut status := 0
    for p in pids do
      let pid ← if p.startsWith "%" then (·.pid) <$> jobOf p else shellNumberArg p
      match (← get).jobs.find? (·.pid == pid) with
      | some j =>
        let now := (← get).elapsed
        if j.ends > now then pass (j.ends - now)
        status := j.status
      | none => status := 127
    setStatus status

/-! ## Variables and parameters -/

def bashSetLetters : List Char := "abefhkmnptuvxBCEHPT".toList

/-- A wrong option of bash's `set`: the message, the usage, and the status 2; the stop ends the
command but not the shell. -/
def bashSetFailure {α : Type} (message : String) (usage : Bool) : Sh α := do
  let saved := (← get).utility
  modify fun s => { s with utility := some "set" }
  complain message
  modify fun s => { s with utility := saved }
  if usage then
    say 2 "set: usage: set [-abefhkmnptuvxBCEHPT] [-o option-name] [--] [-] [arg ...]\n"
  setStatus 2
  throw .discard

/-- Sets or reports options from `-x`, `+x` and `-o name` words, answering the words after them
and whether `--` ended them. -/
def setOptions (args : List String) : Sh (List String × Bool) := do
  go (args.length + 1) args
where
  letterOpt (c : Char) (on : Bool) : Sh Unit := do
    if (← get).bashLike then
      match bashLetterNames.lookup c with
      | some name => modify fun s => { s with opts := (s.opts.putNamed name on).getD s.opts }
      | none => pure ()
    else if c = 'm' ∧ on then noJobControl
    else match (← get).opts.putLetter c on with
      | some o => modify fun s => { s with opts := o }
      | none => failWith ("Illegal option " ++ (if on then "-" else "+") ++ String.singleton c)
  /-- A shell with no terminal refuses job control, and says so. -/
  noJobControl : Sh Unit := complain "can't access tty; job control turned off"
  /-- Sets or clears an option by its long name. -/
  namedOpt (name : String) (on : Bool) : Sh Unit := do
    if (← get).bashLike then
      match (← get).opts.putNamed name on with
      | some o => modify fun s => { s with opts := o }
      | none => bashSetFailure (name ++ ": invalid option name") false
    else match optionTable.find? (·.2.1 == name) with
      | some (_, _, _, upd) =>
        if name = "monitor" ∧ on then noJobControl
        else modify fun s => { s with opts := upd s.opts on }
      | none => failWith ("Illegal option -o " ++ name)
  /-- Lists the options: with their states after `-o`, as commands that set them after `+o`. -/
  listOpts (on : Bool) : Sh Unit := do
    let o := (← get).opts
    if (← get).bashLike then
      for nm in bashOptionNames do
        let v := o.named nm
        if on then
          say 1 (nm ++ String.ofList (List.replicate (15 - nm.length) ' ') ++ "\t" ++ (if v then "on" else "off") ++ "\n")
        else say 1 ("set " ++ (if v then "-o " else "+o ") ++ nm ++ "\n")
    else
      if on then say 1 "Current option settings\n"
      for (_, nm, get, _) in optionTable do
        if on then
          say 1 (nm ++ String.ofList (List.replicate (16 - nm.length) ' ') ++ (if get o then "on" else "off") ++ "\n")
        else say 1 ("set " ++ (if get o then "-o " else "+o ") ++ nm ++ "\n")
  go : Nat → List String → Sh (List String × Bool)
    | 0, args => pure (args, false)
    | _ + 1, [] => pure ([], false)
    | k + 1, a :: rest =>
      if a = "--" then pure (rest, true)
      else if a = "-" then do
        modify fun s => { s with opts := { s.opts with xtrace := false, verbose := false } }
        pure (rest, false)
      else if (a.startsWith "-" ∨ a.startsWith "+") ∧ a.length > 1 then do
        let on := a.startsWith "-"
        let letters := a.toList.drop 1
        if (← get).bashLike then
          if let some c := letters.find? fun c => ¬ (bashSetLetters.contains c ∨ c = 'o') then
            bashSetFailure ((if on then "-" else "+") ++ String.singleton c ++ ": invalid option") true
        let mut rest := rest
        for c in letters do
          if c = 'o' then
            match rest with
            | name :: more =>
              rest := more
              namedOpt name on
            | [] => listOpts on
          else letterOpt c on
        go k rest
      else pure (a :: rest, false)

def listVars (cmd : String) (pick : Var → Bool) : Sh Unit := do
  let vs := ((← get).vars.filter fun (_, v) => pick v).mergeSort fun a b => decide (a.1 ≤ b.1)
  for (k, v) in vs do
    say 1 (cmd ++ " " ++ k ++ (match v.value with | some x => "=" ++ singleQuote x | none => "") ++ "\n")

/-- `set`: lists the variables, or sets options and then the positional parameters. -/
def setBuiltin (args : List String) : Sh Unit := do
  if args.isEmpty then
    let s ← get
    let vs := s.vars.filterMap fun (k, v) => v.value.map (k, ·)
    let vs := vs.mergeSort fun a b => decide (a.1 ≤ b.1)
    for (k, v) in vs do say 1 (k ++ "=" ++ singleQuote v ++ "\n")
    setStatus 0
  else
    let r ← tryCatch (some <$> setOptions args) fun e => if e = .discard then pure none else throw e
    if let some (rest, dashes) := r then
      if dashes ∨ ¬ rest.isEmpty then
        modify fun s => { s with params := rest, optIndex := 1, optOff := none }
      setStatus 0

/-- `shift`: drops the first positional parameters (one by default). -/
def shiftBuiltin (args : List String) : Sh Unit := do
  let n ← match args with
    | a :: _ => shellNumberArg a
    | [] => pure 1
  if n > (← get).params.length then failWith "can't shift that many"
  modify fun s => { s with params := s.params.drop n, optIndex := 1, optOff := none }
  setStatus 0

/-- The option letters at the front of a command's words, each with whether a dash (not a
plus) came before it, and the words after them. -/
def leadingLetters (valid : List Char) (plus : Bool) :
    List String → Except String (List (Bool × Char) × List String)
  | [] => .ok ([], [])
  | a :: rest =>
    if a = "--" then .ok ([], rest)
    else match a.toList with
      | sign :: c :: cs =>
        if sign = '-' ∨ (plus ∧ sign = '+') then
          match (c :: cs).find? fun l => ¬ valid.contains l with
          | some bad => .error (String.ofList [sign, bad])
          | none => do
            let (ls, words) ← leadingLetters valid plus rest
            return ((c :: cs).map (fun l => (sign == '-', l)) ++ ls, words)
        else .ok ([], a :: rest)
      | _ => .ok ([], a :: rest)

/-- A wrong option of a command of `bash`: its message and the command's usage, and the
status 2. -/
def bashBadOption (option usage : String) : Sh Unit := do
  complain (option ++ ": invalid option")
  say 2 (usage ++ "\n")
  setStatus 2

def bashBadName (word : String) : Sh Unit := complain ("`" ++ word ++ "': not a valid identifier")

/-- `export` and `readonly`: mark variables, set to the written values, or list the marked
ones with `-p` or no names. -/
def markBuiltin (readonly : Bool) (args : List String) : Sh Unit := do
  let cmd := if readonly then "readonly" else "export"
  let bash := (← get).bashLike
  let list : Sh Unit := do
    listVars cmd fun v => if readonly then v.readonly else v.exported
    setStatus 0
  let (letters, names) ← if bash then
      match leadingLetters (if readonly then "aAfp".toList else "fnp".toList) false args with
      | .ok r => pure r
      | .error o =>
        bashBadOption o (cmd ++ ": usage: " ++ cmd ++
          (if readonly then " [-aAf] [name[=value] ...] or readonly -p" else " [-fn] [name[=value] ...] or export -p"))
        return
    else match args with
      | a :: rest =>
        if a = "--" then pure ([], rest)
        else match a.toList with
          | '-' :: c :: _ => if c = 'p' then pure ([(true, 'p')], rest) else failWith ("Illegal option -" ++ String.singleton c)
          | _ => pure ([], args)
      | [] => pure ([], [])
  if names.isEmpty ∨ (¬ bash ∧ letters.contains (true, 'p')) then list
  else
    let unmark := letters.contains (true, 'n')
    let mut bad := false
    for a in names do
      let (name, value) := match a.splitOn "=" with
        | n :: v :: more => (n, some ("=".intercalate (v :: more)))
        | _ => (a, none)
      if ¬ isVarName name then
        if bash then
          bashBadName a
          bad := true
          continue
        failWith (name ++ ": bad variable name")
      match value with
      | some v => setVar name v
      | none => pure ()
      let old := ((← findVar name).getD {})
      putVar name (if readonly then { old with readonly := true } else { old with exported := ¬ unmark })
    setStatus (if bad then 1 else 0)

/-- The value of an arithmetic expression of `bash`, or its error; assignments in it set
variables, array elements among them. -/
def bashArithValue (text : String) : Sh (Except BashArithError Int) := do
  let vars := (← get).vars.flatMap fun (k, v) =>
    (v.value.map (k, ·)).toList ++ v.elements.map fun (i, x) => (k ++ "[" ++ toString i ++ "]", x)
  let text := String.ofList (text.toList.dropWhile fun c => c = ' ' ∨ c = '\t' ∨ c = '\n')
  let (r, after) := evalBashArith text vars
  let changed := after.filter fun (k, x) => vars.lookup k ≠ some x
  for (k, x) in changed.reverse do
    match k.toList.span (· ≠ '[') with
    | (base, '[' :: rest) => setElement (String.ofList base) ((String.ofList rest.dropLast).toNat?.getD 0) x
    | _ => setVar k x
  return r

/-- Sets a variable to what is assigned to it: an integer variable of `bash` takes the
arithmetic value of the text, added to the value of its old one with `append`. -/
def assignVar (name v : String) (append : Bool) : Sh Unit := do
  let old := (← varValue name).getD ""
  if ¬ (((← findVar name).map (·.integer)).getD false) then
    setVar name (if append then old ++ v else v)
    return
  let value (text : String) : Sh Int := do
    match ← bashArithValue text with
    | .ok i => pure i
    | .error e =>
      complain e.text
      setStatus 1
      throw (.exit 1)
  let before ← if append then value old else pure 0
  let i ← value v
  setVar name (toString (before + i))

/-- `unset`: removes variables, or functions with `-f`; of the shell's options the last one
counts, a name that is no name ends the shell, and `a=b` names `a`. -/
def unsetBuiltin (args : List String) : Sh Unit := do
  let bash := (← get).bashLike
  let (letters, names) ← match leadingLetters (if bash then "fvn".toList else "fv".toList) false args with
    | .ok r => pure r
    | .error o =>
      if bash then
        bashBadOption o "unset: usage: unset [-f] [-v] [-n] [name ...]"
        return
      failWith ("Illegal option " ++ o)
  let flag := (letters.getLast?.map (·.2))
  let funcs := if bash then letters.contains (true, 'f') else flag = some 'f'
  let vars := letters.contains (true, 'v')
  if bash ∧ funcs ∧ vars then
    complain "cannot simultaneously unset a function and a variable"
    setStatus 1
    return
  let mut failed := false
  for a in names do
    let dropFunc := modify fun s => { s with funcs := s.funcs.filter (·.1 ≠ a) }
    if funcs then dropFunc
    else if bash ∧ letters.contains (true, 'n') then pure ()
    else match a.toList.span (· ≠ '[') with
      | (base, '[' :: rest) =>
        if bash ∧ rest.getLast? = some ']' then
          let name := String.ofList base
          let sub := String.ofList rest.dropLast
          match ← findVar name with
          | some v =>
            if v.readonly then failWith (name ++ ": is read only")
            if v.assoc then putVar name (v.dropKey sub)
            else match ← bashArithValue sub with
              | .ok i => putVar name (v.dropKey (toString i))
              | .error e =>
                modify fun s => { s with utility := none }
                complain e.text
                setStatus 1
                throw (.exit 1)
          | none => pure ()
        else if bash then
          if vars then
            bashBadName a
            failed := true
        else failWith (String.ofList base ++ ": bad variable name")
      | _ =>
        if bash then
          if ¬ isVarName a then
            if vars then
              bashBadName a
              failed := true
          else match ← findVar a with
            | some v =>
              if v.readonly then
                complain (a ++ ": cannot unset: readonly variable")
                failed := true
              else unsetVar a
            | none => unless vars do dropFunc
        else
          let name := (a.splitOn "=").headD a
          if ¬ isVarName name then failWith (name ++ ": bad variable name")
          unsetVar name
  setStatus (if failed then 1 else 0)

/-- `local`: makes variables local to the function being run, keeping their values or giving
the written ones. -/
def localBuiltin (args : List String) : Sh Unit := do
  match (← get).frames with
  | [] => failWith "not in a function"
  | frame :: outer =>
    let mut frame := frame
    for a in args do
      let (name, value) := match a.splitOn "=" with
        | n :: v :: more => (n, some ("=".intercalate (v :: more)))
        | _ => (a, none)
      if ¬ isVarName name then failWith (name ++ ": bad variable name")
      if (frame.lookup name).isNone then frame := (name, ← findVar name) :: frame
      match value with
      | some v => setVar name v
      | none => pure ()
    modify fun s => { s with frames := frame :: outer }
    setStatus 0

def doubleQuoted (v : String) : String :=
  "\"" ++ String.join (v.toList.map fun c =>
    if c = '\\' ∨ c = '"' ∨ c = '$' ∨ c = '\x60' then String.ofList ['\\', c] else String.singleton c) ++ "\""

def declaration (name : String) (v : Var) : String :=
  let attrs := (if v.array ∧ ¬ v.assoc then "a" else "") ++ (if v.assoc then "A" else "") ++
    (if v.integer then "i" else "") ++ (if v.readonly then "r" else "") ++
    (if v.exported then "x" else "")
  let attrs := if attrs.isEmpty then "--" else "-" ++ attrs
  let value := if v.assoc then
      "=(" ++ String.join (v.keyed.map fun (k, x) => "[" ++ k ++ "]=" ++ doubleQuoted x ++ " ") ++ ")"
    else if v.array then
      "=(" ++ " ".intercalate (v.elements.map fun (i, x) => "[" ++ toString i ++ "]=" ++ doubleQuoted x) ++ ")"
    else match v.value with
      | some x => "=" ++ doubleQuoted x
      | none => ""
  "declare " ++ attrs ++ " " ++ name ++ value

/-- `declare` and `typeset` of `bash`: gives variables attributes (`-r` read-only, `-x`
exported, `-a` an array, `-i` an integer, `-l` and `-u` a case) and values; in a function they
are local unless `-g`. -/
def declareBuiltin (asLocal : Bool) (args : List String) : Sh Unit := do
  if asLocal ∧ (← get).frames.isEmpty then
    complain "can only be used in a function"
    setStatus 1
    return
  let (letters, names) ← match leadingLetters "aAfFgiIlnrtuxp".toList true args with
    | .ok r => pure r
    | .error o =>
      let cmd := (← get).utility.getD "declare"
      bashBadOption o (cmd ++ ": usage: " ++ match cmd with
        | "local" => "local [option] name[=value] ..."
        | "typeset" => "typeset [-aAfFgiIlnrtux] name[=value] ... or typeset -p [-aAfFilnrtux] [name ...]"
        | _ => "declare [-aAfFgiIlnrtux] [name[=value] ...] or declare -p [-aAfFilnrtux] [name ...]")
      return
  let on := letters.filterMap fun (dash, c) => if dash then some c else none
  if on.contains 'p' then
    let mut missing := false
    for name in names do
      match ← findVar name with
      | some v => say 1 (declaration name v ++ "\n")
      | none =>
        complain (name ++ ": not found")
        missing := true
    if names.isEmpty then
      let vs := (← get).vars.mergeSort fun a b => decide (a.1 ≤ b.1)
      for (k, v) in vs do say 1 (declaration k v ++ "\n")
    setStatus (if missing then 1 else 0)
  else
    let s ← get
    let inFunction := ¬ s.frames.isEmpty ∧ ¬ on.contains 'g'
    let mut bad := false
    for a in names do
      let (name, value) := match a.splitOn "=" with
        | n :: v :: more => (n, some ("=".intercalate (v :: more)))
        | _ => (a, none)
      if ¬ isVarName name then
        bashBadName a
        bad := true
        continue
      if inFunction then
        match (← get).frames with
        | frame :: outer =>
          if (frame.lookup name).isNone then
            let old ← findVar name
            modify fun s => { s with frames := ((name, old) :: frame) :: outer }
            putVar name {}
        | [] => pure ()
      let value := value.map fun v =>
        if on.contains 'u' then v.toUpper else if on.contains 'l' then v.toLower else v
      let cur := ((← findVar name).getD {})
      let assoc := cur.assoc || on.contains 'A'
      let integer := cur.integer || on.contains 'i'
      putVar name { cur with assoc := assoc, integer := integer, array := (cur.array || on.contains 'a') ∧ ¬ assoc }
      match value with
      | some v =>
        assignVar name v false
      | none => pure ()
      let old := ((← findVar name).getD {})
      putVar name { old with readonly := old.readonly || on.contains 'r',
                             exported := old.exported || on.contains 'x' }
    setStatus (if bad then 1 else 0)

/-- What `read` is asked for: whether backslashes are plain, the array to fill, the byte that
ends the input, how many characters to read at most, the descriptor to read, whether a zero
timeout only asks for input waiting, and the variables. -/
structure ReadRequest where
  raw : Bool := false
  array : Option String := none
  delim : UInt8 := 10
  count : Option Nat := none
  fd : Option Nat := none
  poll : Bool := false
  names : List String := []

/-- What is wrong with the options of `read`: a letter it does not know, one with no value
after it, or a value it refuses, with its message. -/
inductive ReadProblem where
  | option (c : Char)
  | missing (c : Char)
  | value (message : String)

/-- A number as `bash` reads a count or a descriptor: decimal digits with an optional sign and
blanks around them, from 0 to the largest int. -/
def bashCount? (v : String) : Option Nat :=
  let blank (c : Char) : Bool := c = ' ' ∨ ('\t' ≤ c ∧ c ≤ '\r')
  let cs := (v.toList.dropWhile blank).reverse.dropWhile blank |>.reverse
  let (neg, ds) := match cs with
    | '-' :: r => (true, r)
    | '+' :: r => (false, r)
    | r => (false, r)
  if ds.isEmpty ∨ ¬ ds.all Char.isDigit then none
  else
    let n := (String.ofList ds).toNat!
    if neg then (if n = 0 then some 0 else none)
    else if n > 2147483647 then none else some n

/-- A timeout of `read` of `bash`: whether it is zero, or none when it is no timeout. -/
def bashTimeout? (v : String) : Option Bool :=
  let (neg, cs) := match v.toList with
    | '-' :: r => (true, r)
    | r => (false, r)
  let whole := cs.takeWhile (· ≠ '.')
  let frac := (cs.drop (whole.length + 1)).take 6
  if ¬ whole.all Char.isDigit ∨ ¬ frac.all Char.isDigit then none
  else
    let zero := whole.all (· = '0') ∧ frac.all (· = '0')
    if neg ∧ ¬ zero then none else some zero

/-- Reads the options of `read`: `-r` and `-p prompt`, and for `bash` also `-a array`,
`-d delim`, `-n count`, `-N count`, `-s`, `-e`, `-t timeout`, `-u fd` and `-i text`. -/
def readRequest (bash : Bool) : Nat → List String → ReadRequest → Except ReadProblem ReadRequest
  | 0, _, r => .ok r
  | _ + 1, [], r => .ok r
  | k + 1, a :: rest, r =>
    if a = "--" then .ok { r with names := rest }
    else if a.startsWith "-" ∧ a.length > 1 then
      let rec letters : Nat → List Char → List String → ReadRequest → Except ReadProblem (ReadRequest × List String)
        | 0, _, more, r => .ok (r, more)
        | _ + 1, [], more, r => .ok (r, more)
        | j + 1, c :: cs, more, r =>
          let valued := if bash then "adnNptui".toList else ['p']
          if c = 'r' then letters j cs more { r with raw := true }
          else if bash ∧ (c = 's' ∨ c = 'e') then letters j cs more r
          else if valued.contains c then do
            let (v, more) ← if ¬ cs.isEmpty then pure (String.ofList cs, more)
              else match more with
                | v :: more => pure (v, more)
                | [] => throw (.missing c)
            let count (v : String) : Except ReadProblem Nat := match bashCount? v with
              | some n => pure n
              | none => throw (.value (v ++ ": invalid number"))
            let r ← match c with
              | 'a' => pure { r with array := some v }
              | 'd' => pure { r with delim := ((Text.Utf8.encode v).headD 0) }
              | 'n' => do let n ← count v; pure { r with count := some n }
              | 'N' => do let n ← count v; pure { r with count := some n, delim := 0 }
              | 't' => match bashTimeout? v with
                | some zero => pure { r with poll := zero }
                | none => throw (.value (v ++ ": invalid timeout specification"))
              | 'u' => match bashCount? v with
                | some n => pure { r with fd := some n }
                | none => throw (.value (v ++ ": invalid file descriptor specification"))
              | _ => pure r
            .ok (r, more)
          else .error (.option c)
      match letters (a.length + 1) (a.toList.drop 1) rest r with
      | .ok (r, more) => readRequest bash k more r
      | .error e => .error e
    else .ok { r with names := a :: rest }

/-- `read`: reads a line from the standard input (a backslash joining lines and making the
next character plain unless `-r`), splits it at `IFS` into the named variables, the last taking
the rest; the status is 1 at the end of input. -/
def readBuiltin (args : List String) : Sh Unit := do
  let bash := (← get).bashLike
  let usage := "read: usage: read [-ers] [-a array] [-d delim] [-i text] [-n nchars] [-N nchars] [-p prompt] [-t timeout] [-u fd] [name ...]"
  let req ← match readRequest bash (args.length + 1) args {} with
    | .ok r => pure r
    | .error (.option c) =>
      if bash then
        bashBadOption ("-" ++ String.singleton c) usage
        throw .fault
      else failWith ("Illegal option -" ++ String.singleton c)
    | .error (.missing c) =>
      if bash then
        complain ("-" ++ String.singleton c ++ ": option requires an argument")
        say 2 (usage ++ "\n")
        setStatus 2
        throw .fault
      else failWith ("No arg for -" ++ String.singleton c ++ " option")
    | .error (.value message) =>
      complain message
      setStatus 1
      return
  if let some fd := req.fd then
    if (← channelOf fd).isNone then
      complain (toString fd ++ ": invalid file descriptor: Bad file descriptor")
      setStatus 1
      return
  let fd := req.fd.getD 0
  if (← channelOf fd).isNone then
    if bash then complain ("read error: " ++ toString fd ++ ": Bad file descriptor")
    setStatus 1
    return
  if req.poll then
    setStatus 0
    return
  let raw := req.raw
  let names := req.names
  if names.isEmpty ∧ req.array.isNone ∧ ¬ bash then failWith "arg count"
  let (input, _) ← peekRest fd
  let full (kept : Nat) : Bool := match req.count with
    | some c => kept ≥ c
    | none => false
  let rec scan : Bytes → List (UInt8 × Bool) → Nat → Nat → List (UInt8 × Bool) × Nat × Bool
    | [], acc, _, used => (acc.reverse, used, false)
    | b :: rest, acc, kept, used =>
      if full kept then (acc.reverse, used, true)
      else if b = req.delim ∧ ¬ (req.delim = 0 ∧ req.count.isSome) then (acc.reverse, used + 1, true)
      else if b = 0 then scan rest acc kept (used + 1)
      else if b = 92 ∧ ¬ raw then
        match rest with
        | 10 :: more => scan more acc kept (used + 2)
        | c :: more => scan more ((c, true) :: acc) (kept + 1) (used + 2)
        | [] => (acc.reverse, used + 1, false)
      else scan rest ((b, false) :: acc) (kept + 1) (used + 1)
  let (line, used, complete) := scan input [] 0 0
  consume fd used
  let ifs := match ← varValue "IFS" with
    | some v => v.toList
    | none => [' ', '\t', '\n']
  let text := Text.Utf8.decodeLossy (line.map (·.1))
  let chars : List (Char × Bool) :=
    if line.all (fun p => ¬ p.2) then text.map (·, false)
    else (line.map fun (b, q) => (Char.ofNat b.toNat, q))
  let pieces := chars.map fun (c, q) => if q then Piece.char c true none else Piece.char c false (some 0)
  let fields := splitFieldsAt ifs pieces
  match req.array with
  | some arr => setArray arr (fields.map fun (_, f) => piecesText f) false
  | none =>
    if names.isEmpty then setVar "REPLY" (String.ofList (chars.map (·.1)))
    else assign ifs pieces names fields
  setStatus (if complete then 0 else 1)
where
  /-- Sets the named variables to the fields in turn; the last takes the rest of the line from
  its field on, without trailing blanks, unless only its own field is left. -/
  assign (ifs : List Char) (pieces : List Piece) : List String → List (Nat × List Piece) → Sh Unit
    | [], _ => pure ()
    | [v], fs =>
      match fs with
      | [] => assignVar v "" false
      | [(_, f)] => assignVar v (piecesText f) false
      | (start, _) :: _ =>
        let trimmed := ((pieces.drop start).reverse.dropWhile fun
          | .char c false (some _) => ifs.contains c ∧ isIfsBlank c
          | _ => false).reverse
        assignVar v (piecesText trimmed) false
    | v :: vs, fs =>
      match fs with
      | (_, f) :: more => do assignVar v (piecesText f) false; assign ifs pieces vs more
      | [] => do assignVar v "" false; assign ifs pieces vs []

/-- `mapfile` and `readarray` of `bash`: the lines of the standard input into an array
(`MAPFILE` unless named), each with its line feed unless `-t`; `-d` ends lines at another
byte, `-n` reads at most some lines, `-s` skips the first ones, `-O` starts at an index. -/
def mapfileBuiltin (args : List String) : Sh Unit := do
  let rec opts : Nat → List String → (Bool × UInt8 × Option Nat × Nat × Nat × List String)
      → (Bool × UInt8 × Option Nat × Nat × Nat × List String)
    | 0, _, acc => acc
    | _ + 1, [], acc => acc
    | k + 1, a :: rest, (trim, delim, count, skip, origin, names) =>
      let value (more : List String) : String × List String :=
        if a.length > 2 then (String.ofList (a.toList.drop 2), more) else (more.headD "", more.drop 1)
      if a = "-t" then opts k rest (true, delim, count, skip, origin, names)
      else if a.startsWith "-d" then
        let (v, more) := value rest
        opts k more (trim, (Text.Utf8.encode v).headD 0, count, skip, origin, names)
      else if a.startsWith "-n" then
        let (v, more) := value rest
        opts k more (trim, delim, (v.toNat?.filter (· > 0)), skip, origin, names)
      else if a.startsWith "-s" then
        let (v, more) := value rest
        opts k more (trim, delim, count, v.toNat?.getD 0, origin, names)
      else if a.startsWith "-O" then
        let (v, more) := value rest
        opts k more (trim, delim, count, skip, v.toNat?.getD 0, names)
      else if a.startsWith "-u" ∨ a.startsWith "-C" ∨ a.startsWith "-c" then
        let (_, more) := value rest
        opts k more (trim, delim, count, skip, origin, names)
      else opts k rest (trim, delim, count, skip, origin, names ++ [a])
  let (trim, delim, count, skip, origin, names) := opts (args.length + 1) args (false, 10, none, 0, 0, [])
  let name := names.headD "MAPFILE"
  let input ← readRest 0
  let lines := splitAtByte delim input
  let complete := input.getLast? = some delim
  let items := lines.zipIdx.map fun (l, i) =>
    if trim ∨ (i + 1 = lines.length ∧ ¬ complete) then l else l ++ [delim]
  let items := items.drop skip
  let items := match count with
    | some c => items.take c
    | none => items
  let texts := items.map fun l => String.ofList (Text.Utf8.decodeLossy l)
  let old := ((← findVar name).getD {})
  let kept := if origin = 0 then { old with value := none, more := [] } else old
  putVar name (texts.zipIdx.foldl (fun v (x, i) => v.setElement (origin + i) x) { kept with array := true })
  setStatus 0

def shoptNames : List String :=
  ["dotglob", "extglob", "failglob", "globstar", "nocaseglob", "nocasematch", "nullglob",
   "expand_aliases", "lastpipe", "xpg_echo"]

/-- `shopt` of `bash`: sets (`-s`) or unsets (`-u`) options, tells with `-q` whether they are
set, or writes them with their state. -/
def shoptBuiltin (args : List String) : Sh Unit := do
  let flags := (args.takeWhile fun a => a.startsWith "-" ∧ a.length > 1).flatMap (·.toList.drop 1)
  let names := args.dropWhile fun a => a.startsWith "-" ∧ a.length > 1
  let set := (← get).shopts
  for n in names do
    if ¬ shoptNames.contains n then
      complain (n ++ ": invalid shell option name")
      setStatus 1
      return
  if flags.contains 's' then
    modify fun s => { s with shopts := (names.filter fun n => ¬ set.contains n) ++ s.shopts }
    setStatus 0
  else if flags.contains 'u' then
    modify fun s => { s with shopts := s.shopts.filter fun n => ¬ names.contains n }
    setStatus 0
  else
    let shown := if names.isEmpty then shoptNames else names
    if ¬ flags.contains 'q' then
      for n in shown do
        say 1 (n ++ String.ofList (List.replicate (15 - min 15 n.length) ' ') ++ "\t" ++
          (if set.contains n then "on" else "off") ++ "\n")
    setStatus (if shown.all set.contains then 0 else 1)

/-- The components of a path followed as written: `.` is dropped and `..` drops the component
before it. -/
def logicalParts (parts : List String) : List String :=
  (parts.foldl (fun acc c => if c = "." then acc else if c = ".." then acc.drop 1 else c :: acc) []).reverse

/-- Whether a path outside the tree names a directory every system here has: the root, the
directories at the top, and the usual ones below them. -/
def systemDirectory (parts : List String) : Bool :=
  match parts with
  | [] => true
  | [d] => ["bin", "boot", "dev", "etc", "home", "lib", "media", "mnt", "opt", "proc", "root", "run",
      "sbin", "srv", "sys", "tmp", "usr", "var"].contains d
  | ["usr", d] => ["bin", "games", "include", "lib", "local", "sbin", "share", "src"].contains d
  | ["var", d] => ["backups", "cache", "lib", "local", "log", "mail", "opt", "spool", "tmp"].contains d
  | ["dev", d] => ["fd", "pts", "shm"].contains d
  | _ => false

/-- `cd`: changes the working directory to a directory of the tree or of the system, and sets
`PWD` and `OLDPWD` to the paths of the new and the old one. -/
def cdBuiltin (args : List String) : Sh Unit := do
  let bash := (← get).bashLike
  let operands := args.filter (fun a => a ≠ "-L" ∧ a ≠ "-P")
  let refuse (message : String) : Sh Unit := do
    if bash then
      complain message
      setStatus 1
    else failWith message
  if bash ∧ operands.length > 1 then
    refuse "too many arguments"
    return
  let dest := operands.head?
  let back := dest = some "-"
  let dest ← match dest with
    | some "-" => varValue "OLDPWD"
    | some d => pure (some d)
    | none => varValue "HOME"
  if bash ∧ dest.isNone then
    refuse (if back then "OLDPWD not set" else "HOME not set")
    return
  let dest := dest.getD ""
  let dest := if dest.isEmpty then "." else dest
  let cannot (why : String) : Sh Unit :=
    refuse (if bash then dest ++ ": " ++ why else "can't cd to " ++ dest)
  let p ← pathOf dest
  let t := (← get).tree
  let parts := logicalParts ((if p.root.isEmpty then treeHomeParts else []) ++ p.parts)
  let enter (cwd : List String) (root : String) : Sh Unit := do
    let old := (← get).workDir
    modify fun s => { s with cwd := cwd, cwdRoot := root }
    let now := (← get).workDir
    exportValue "OLDPWD" old
    exportValue "PWD" now
    if back then say 1 (now ++ "\n")
    setStatus 0
  if treeHomeParts.isPrefixOf parts then
    let below := parts.drop treeHomeParts.length
    match t.resolve ⟨"", below⟩ with
    | .ok place =>
      match place.loc with
      | some loc =>
        if t.find? loc = some .dir then enter below ""
        else cannot (if (t.find? loc).isSome then "Not a directory" else "No such file or directory")
      | none => cannot "No such file or directory"
    | .error e => cannot e.text
  else if systemDirectory parts then enter parts "/"
  else cannot "No such file or directory"

/-- `umask`: the file mode creation mask, in octal or symbolically with `-S`, or a new one. -/
def umaskBuiltin (args : List String) : Sh Unit := do
  let m := (← get).umask
  match args with
  | [] =>
    let ds := Nat.toDigits 8 m
    say 1 (String.ofList (List.replicate (4 - ds.length) '0' ++ ds) ++ "\n")
    setStatus 0
  | ["-S"] =>
    let part (shift : Nat) : String :=
      let bits := 7 - (m / Nat.pow 8 shift) % 8
      String.ofList ((if bits / 4 % 2 = 1 then ['r'] else []) ++ (if bits / 2 % 2 = 1 then ['w'] else []) ++
        (if bits % 2 = 1 then ['x'] else []))
    say 1 ("u=" ++ part 2 ++ ",g=" ++ part 1 ++ ",o=" ++ part 0 ++ "\n")
    setStatus 0
  | a :: _ =>
    if ¬ a.isEmpty ∧ a.toList.all fun c => '0' ≤ c ∧ c ≤ '7' then
      modify fun s => { s with umask := a.toList.foldl (fun v c => v * 8 + (c.toNat - 48)) 0 % 512 }
      setStatus 0
    else failWith ("Illegal number: " ++ a)

/-- The resource limits `ulimit` knows, in the order `-a` lists them: the letter, the name
`-a` shows, and the soft and hard limits a run starts with. -/
def resourceLimits : List (Char × String × String × String) :=
  [('t', "time(seconds)", "unlimited", "unlimited"),
   ('f', "file(blocks)", "unlimited", "unlimited"),
   ('d', "data(kbytes)", "unlimited", "unlimited"),
   ('s', "stack(kbytes)", "8192", "unlimited"),
   ('c', "coredump(blocks)", "0", "unlimited"),
   ('m', "memory(kbytes)", "unlimited", "unlimited"),
   ('l', "locked memory(kbytes)", "8192", "8192"),
   ('p', "process", "unlimited", "unlimited"),
   ('n', "nofiles", "1048576", "1048576"),
   ('v', "vmemory(kbytes)", "unlimited", "unlimited"),
   ('w', "locks", "unlimited", "unlimited"),
   ('r', "rtprio", "0", "0")]

/-- `ulimit`: writes a resource limit (the file size without an option, every one with `-a`),
or sets it to a number or `unlimited`. -/
def ulimitBuiltin (args : List String) : Sh Unit := do
  let mut what := 'f'
  let mut all := false
  let mut hard := false
  let mut soft := false
  let mut value : Option String := none
  for a in args do
    if a.startsWith "-" ∧ a.length > 1 ∧ value.isNone then
      for c in a.toList.drop 1 do
        if c = 'H' then hard := true
        else if c = 'S' then soft := true
        else if c = 'a' then all := true
        else if (resourceLimits.lookup c).isSome then what := c
        else failWith ("Illegal option -" ++ String.singleton c)
    else value := some a
  let s ← get
  let showHard := hard ∧ ¬ soft
  let given := if showHard then s.hardLimits else s.softLimits
  let current (c : Char) : String :=
    match given.lookup c with
    | some v => v
    | none => ((resourceLimits.lookup c).map fun (_, l, h) => if showHard then h else l).getD
      "unlimited"
  if all then
    for (c, name, _) in resourceLimits do
      say 1 (name ++ String.ofList (List.replicate (20 - name.length) ' ') ++ " " ++ current c ++ "\n")
    setStatus 0
    return
  match value with
  | some v =>
    let v ← if v = "unlimited" then pure v
      else if ¬ v.isEmpty ∧ v.toList.all Char.isDigit then pure (toString v.toNat!)
      else failWith "bad number"
    let setHard := hard ∨ ¬ soft
    let setSoft := soft ∨ ¬ hard
    modify fun s => { s with
      softLimits := if setSoft then (what, v) :: s.softLimits.filter (·.1 ≠ what) else s.softLimits,
      hardLimits := if setHard then (what, v) :: s.hardLimits.filter (·.1 ≠ what) else s.hardLimits }
    setStatus 0
  | none =>
    say 1 (current what ++ "\n")
    setStatus 0

def defineAlias (aliases : List (String × String)) (name text : String) : List (String × String) :=
  if aliases.any (·.1 == name) then aliases.map (fun (k, v) => (k, if k = name then text else v))
  else aliases ++ [(name, text)]

/-- `alias`: defines each `name=text`, or writes the named aliases (all of them without
operands, in the order of the shell's table); a name with no alias is reported and makes the
status 1. -/
def aliasBuiltin (args : List String) : Sh Unit := do
  let bash := (← get).bashLike
  let shown (k v : String) : String :=
    if bash then "alias " ++ k ++ "=" ++ bashSingleQuoted v ++ "\n" else k ++ "=" ++ singleQuote v ++ "\n"
  if args.isEmpty then
    let all := (← get).aliases
    let sorted := if bash then all.mergeSort (fun a b => decide (a.1 ≤ b.1))
      else all.mergeSort (fun a b => varBucket a.1 ≤ varBucket b.1)
    for (k, v) in sorted do say 1 (shown k v)
    setStatus 0
    return
  let mut failed := false
  for a in args do
    match (a.toList.drop 1).idxOf? '=' with
    | some i =>
      let name := String.ofList (a.toList.take (i + 1))
      let text := String.ofList (a.toList.drop (i + 2))
      modify fun s => { s with aliases := defineAlias s.aliases name text }
    | none =>
      match (← get).aliases.lookup a with
      | some v => say 1 (shown a v)
      | none =>
        if bash then complain (a ++ ": not found") else say 2 ("alias: " ++ a ++ " not found\n")
        failed := true
  setStatus (if failed then 1 else 0)

/-- `unalias`: removes the named aliases, or all of them with `-a`. -/
def unaliasBuiltin (args : List String) : Sh Unit := do
  if args.head? = some "-a" then
    modify fun s => { s with aliases := [] }
    setStatus 0
    return
  let mut failed := false
  for a in args do
    if (← get).aliases.any (·.1 == a) then modify fun s => { s with aliases := s.aliases.filter (·.1 ≠ a) }
    else
      say 2 ("unalias: " ++ a ++ " not found\n")
      failed := true
  setStatus (if failed then 1 else 0)

/-! ## Describing commands -/

/-- How a name would be run: a reserved word, a function, a special or other command of the
shell, a program at a path, or nothing. -/
inductive CommandKind where
  | keyword
  | function (body : Node)
  | special
  | builtin
  | program (path : String)
  | missing
  deriving Inhabited

/-- The path of the program a name runs: itself when it names a known program by a path, else
the known program in the first program directory of `PATH` that holds it. -/
def programLookup (name : String) (unsetPath : String := "") : Sh (Option String) := do
  if name.contains '/' then
    return (programAt? name).map fun _ => name
  let path := (← varValue "PATH").getD unsetPath
  let dirs := path.splitOn ":"
  if programNames.contains name then
    return (dirs.find? (fun d => d = "/usr/bin" ∨ d = "/bin")).map (· ++ "/" ++ name)
  return none

/-- Why a program name that cannot be run fails to start, with the status that tells it: a
path to a file or directory of the tree names nothing executable (126), anything else is
missing (127). -/
def launchFailure (name : String) : Sh (String × Nat) := do
  if name.contains '/' then
    if ((← get).tree.stat (← pathOf name)).toOption.isSome then return ("Permission denied", 126)
  return ("No such file or directory", 127)

/-- `which`: the path of each program named, as found on the search path of the environment
(the first one, or each with `-a`); the status is 1 when one is missing. -/
def whichProgram (env : List (String × String)) (args : List String) : Sh Unit := do
  let all := args.head? = some "-a"
  let names := if all then args.drop 1 else args
  let path := (env.lookup "PATH").getD "/usr/local/sbin:/usr/local/bin:/usr/sbin:/usr/bin:/sbin:/bin"
  let mut missing := names.isEmpty
  for name in names do
    if name.contains '/' then
      match programAt? name with
      | some _ => say 1 (name ++ "\n")
      | none => missing := true
    else
      let found := (path.splitOn ":").filter fun d =>
        programNames.contains name ∧ (d = "/usr/bin" ∨ d = "/bin")
      let found := if all then found else found.take 1
      for d in found do say 1 (d ++ "/" ++ name ++ "\n")
      if found.isEmpty then missing := true
  setStatus (if missing then 1 else 0)

def commandKind (name : String) (noFunctions : Bool := false) : Sh CommandKind := do
  let s ← get
  if specialBuiltins.contains name ∨ (¬ s.bashLike ∧ name = "local") then return .special
  match (if noFunctions then none else s.funcs.lookup name) with
  | some body => return .function body
  | none =>
    if regularBuiltins.contains name ∨ (s.bashLike ∧ bashBuiltins.contains name) then return .builtin
    match ← programLookup name with
    | some p => return .program p
    | none => return .missing

def describeBuiltin (verbose : Bool) (names : List String) : Sh Unit := do
  let mut missing := false
  for n in names do
    if keywords.contains n then
      say 1 (if verbose then n ++ " is a shell keyword\n" else n ++ "\n")
    else if let some text := (← get).aliases.lookup n then
      say 1 (if verbose then n ++ " is an alias for " ++ text ++ "\n" else "alias " ++ n ++ "=" ++ singleQuote text ++ "\n")
    else
      match ← commandKind n with
      | .function _ => say 1 (if verbose then n ++ " is a shell function\n" else n ++ "\n")
      | .special => say 1 (if verbose then n ++ " is a special shell builtin\n" else n ++ "\n")
      | .builtin => say 1 (if verbose then n ++ " is a shell builtin\n" else n ++ "\n")
      | .program p => say 1 (if verbose then n ++ " is " ++ p ++ "\n" else p ++ "\n")
      | _ =>
        if verbose then say 1 (n ++ ": not found\n")
        missing := true
  setStatus (if missing then 127 else 0)

def kindWord : CommandKind → Option String
  | .function _ => some "function"
  | .special | .builtin => some "builtin"
  | .program _ => some "file"
  | _ => none

/-- `type` of `bash`: how each name would be run, as a sentence, or with `-t` one word (`alias`,
`keyword`, `function`, `builtin` or `file`), or with `-p` the path of a program. -/
def bashType (args : List String) : Sh Unit := do
  let flags := (args.takeWhile fun a => a.startsWith "-" ∧ a.length > 1).flatMap (·.toList.drop 1)
  let names := args.dropWhile fun a => a.startsWith "-" ∧ a.length > 1
  let mut missing := false
  for n in names do
    let kind ← commandKind n
    let defined := (← get).aliases.lookup n
    if flags.contains 't' then
      if defined.isSome then say 1 "alias\n"
      else if keywords.contains n ∨ n = "[[" ∨ n = "]]" ∨ n = "function" then say 1 "keyword\n"
      else match kindWord kind with
        | some w => say 1 (w ++ "\n")
        | none => missing := true
    else if flags.contains 'p' ∨ flags.contains 'P' then
      match kind with
      | .program p => say 1 (p ++ "\n")
      | .missing => missing := true
      | _ => pure ()
    else
      if let some text := defined then say 1 (n ++ " is aliased to \x60" ++ text ++ "'\n")
      else if keywords.contains n ∨ n = "[[" ∨ n = "]]" ∨ n = "function" then
        say 1 (n ++ " is a shell keyword\n")
      else match kind with
        | .function _ => say 1 (n ++ " is a function\n")
        | .special | .builtin => say 1 (n ++ " is a shell builtin\n")
        | .program p => say 1 (n ++ " is " ++ p ++ "\n")
        | _ =>
          complain (n ++ ": not found")
          missing := true
  setStatus (if missing then 1 else 0)

/-! ## Writing -/

def echoBuiltin (args : List String) : Sh Unit := do
  emit 1 (echo (args.map Text.Utf8.encode))
  setStatus 0

/-- The moment a run happens at, in seconds since the epoch, for what asks for the time of day:
runs here are all given one fixed moment. -/
def runEpoch : Int := 1700000000

/-- Sets a variable named as `bash` names one, an element of an array among them: `a[i]` sets
the element of index `i`, an arithmetic expression, or of key `i` in an associative array. -/
def bindName (name value : String) : Sh Unit := do
  match name.toList.span (· ≠ '[') with
  | (base, '[' :: rest) =>
    let base := String.ofList base
    let sub := String.ofList rest.dropLast
    if ((← findVar base).map (·.assoc)).getD false then setKeyed base sub value
    else match ← bashArithValue sub with
      | .ok i => setElement base i.toNat value
      | .error _ => setVar base value
  | _ => setVar name value

/-- Whether a text names a variable or an element of an array: a name, with a subscript in
brackets after it or not. -/
def isVariableRef (s : String) : Bool :=
  match s.toList.span (· ≠ '[') with
  | (base, '[' :: rest) => isShellName (String.ofList base) && rest.getLast? == some ']' && rest.length > 1
  | _ => isShellName s

/-- `printf` of `bash`: `-v name` puts the text in a variable, which may be an element of an
array, instead of writing it; the status is 1 when a number was wrong or a conversion broken,
and 2 for a wrong use. -/
def bashPrintfBuiltin (args : List String) : Sh Unit := do
  let usage : Sh Unit := do
    say 2 "printf: usage: printf [-v var] format [arguments]\n"
    setStatus 2
  if args = ["-v"] then
    complain "-v: option requires an argument"
    usage
    return
  let (target, args) : Option String × List String := match args with
    | "-v" :: v :: rest => (some v, rest)
    | a :: rest => if a.startsWith "-v" ∧ a.length > 2 then (some (String.ofList (a.toList.drop 2)), rest) else (none, args)
    | [] => (none, args)
  if let some v := target then
    unless isVariableRef v do
      complain ("`" ++ v ++ "': not a valid identifier")
      setStatus 2
      return
  let args ← match args with
    | "--" :: rest => pure rest
    | a :: _ =>
      if a.startsWith "-" ∧ a.length > 1 then
        complain (String.ofList (a.toList.take 2) ++ ": invalid option")
        usage
        return
      else pure args
    | [] => pure args
  match args with
  | [] => usage
  | fmt :: rest =>
    if fmt.isEmpty then
      if let some v := target then bindName v ""
      setStatus 0
      return
    let r := bashPrintf runEpoch (Text.Utf8.encode fmt) (rest.map Text.Utf8.encode)
    for m in r.messages do complain m
    match target with
    | some v => bindName v (String.ofList (Text.Utf8.decodeLossy (r.out.takeWhile (· ≠ 0))))
    | none => emit 1 r.out
    for (name, count) in r.counts do setVar name (toString count)
    setStatus (r.ended.getD (if r.failed then 1 else 0))

/-- `printf` of the shell: a wrong option, no format, or a broken format is an error; a number
not read in full makes the status 1. -/
def printfBuiltin (args : List String) : Sh Unit := do
  if (← get).bashLike then bashPrintfBuiltin args else
  let args ← match args with
    | "--" :: rest => pure rest
    | a :: _ =>
      if a.startsWith "-" ∧ a.length > 1 then
        failWith ("Illegal option -" ++ String.singleton (a.toList.getD 1 '-'))
      else pure args
    | [] => pure args
  match args with
  | [] => failWith "usage: printf format [arg ...]"
  | fmt :: rest =>
    let w := printf (Text.Utf8.encode fmt) (rest.map Text.Utf8.encode)
    for m in w.warnings.take (if w.broken then w.warnings.length - 1 else w.warnings.length) do
      complain m
    emit 1 w.out
    if w.broken then failWith (w.warnings.getLastD "")
    setStatus (if w.failed then 1 else 0)

/-- What the file tests see at a path: the tree from the working directory, the devices, and
the directories of the system outside the tree. -/
def treeProbe : Sh Probe := do
  let s ← get
  return fun name =>
    let p := s.pathOf name
    if name = "/dev/null" ∨ name = "/dev/stdin" ∨ name = "/dev/stdout" ∨ name = "/dev/stderr" then some (.file [])
    else match s.tree.stat p with
      | .ok e => some e
      | .error _ =>
        if ¬ p.root.isEmpty ∧ systemDirectory (logicalParts p.parts) then some .dir else none

/-- Whether two paths name one file that exists: one entry of the tree, or one path outside
it. -/
def State.sameFile (s : State) (probe : Probe) (a b : String) : Bool :=
  let key (t : String) : Option (Bool × List String) :=
    let p := s.pathOf t
    if (probe t).isNone then none
    else if p.root.isEmpty then
      match s.tree.resolve p with
      | .ok place => place.loc.map (true, ·)
      | .error _ => none
    else some (false, logicalParts p.parts)
  match key a with
  | some k => key b == some k
  | none => false

/-- Whether a name that `bash`'s `test -v` asks about is set: a positional parameter by its
number, an element of an array by its subscript (any element for `@` or `*`), or a variable,
whose element 0 is asked about when it is an array. -/
def State.isSetName (s : State) (name : String) : Bool :=
  match bashNumber? name with
  | some k => decide (0 ≤ k ∧ k ≤ s.params.length)
  | none =>
    match name.toList.span (· ≠ '[') with
    | (base, '[' :: sub) =>
      if sub.getLast? ≠ some ']' then false
      else
        let key := String.ofList sub.dropLast
        match s.vars.lookup (String.ofList base) with
        | none => false
        | some v =>
          if key = "@" ∨ key = "*" then ¬ v.keyed.isEmpty
          else if v.assoc then (v.entries.lookup key).isSome
          else match (String.ofList (key.toList.filter (· ≠ ' '))).toNat? with
            | some i => (v.element i).isSome
            | none => false
    | _ => ((s.vars.lookup name).bind (·.value)).isSome

def testWorld : Sh TestWorld := do
  let s ← get
  let probe ← treeProbe
  return { probe := probe, isSet := s.isSetName, optionOn := s.opts.named, sameFile := s.sameFile probe }

def testBuiltin (bracket : Bool) (args : List String) : Sh Unit := do
  if (← get).bashLike then
    match bashTest (← testWorld) bracket args with
    | .ok st => setStatus st
    | .error m => failWith m
  else
    if bracket ∧ args.getLast? ≠ some "]" then failWith "missing ]"
    let args := if bracket then args.dropLast else args
    match evalTest (← treeProbe) args with
    | .ok st => setStatus st
    | .error m => failWith m

def testProgram (bracket : Bool) (args : List String) : Sh Unit := do
  match programTest (← testWorld) bracket args with
  | .ok st => setStatus st
  | .error m =>
    gnuSay (if bracket then "[" else "test") m
    setStatus 2

end SqlMigration.Shell
