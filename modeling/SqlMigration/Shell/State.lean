import SqlMigration.Shell.Syntax
import SqlMigration.Shell.Format
import SqlMigration.FileTree.Basic

/-!
# The state of a running shell

What a shell holds while it runs a script: its variables (each set or unset, exported or not,
read-only or not), functions, positional parameters, options and traps; its descriptors, each
leading to the run's standard output or error output, to a file of the tree, to nowhere, to the
buffer of a pipe or command substitution, or to an input stream; and what it has written and how
long it has slept.
-/

-- powers and sums of numbers are read with the core instances, whatever else is imported
attribute [local instance (high)] instPowNat Zero.ofOfNat0

namespace SqlMigration.Shell

/-- A variable: its value (none when it is unset but has attributes), and whether it is exported
and read-only. -/
structure Var where
  value : Option String := none
  exported : Bool := false
  readonly : Bool := false
  /-- When the variable was made, which orders the variables of a bucket of the table. -/
  born : Option Nat := none
  /-- Whether the variable is an array; its element 0 is `value`. -/
  array : Bool := false
  /-- The elements of an array after element 0, by increasing index. -/
  more : List (Nat × String) := []
  /-- Whether the variable is an associative array of `bash`, its elements kept by key. -/
  assoc : Bool := false
  /-- The elements of an associative array by key, in the order they were made; the element
  of key `0` is also `value`. -/
  entries : List (String × String) := []
  /-- Whether the variable is an integer of `bash`: what is assigned to it is evaluated. -/
  integer : Bool := false
  deriving DecidableEq, Repr

def Var.elements (v : Var) : List (Nat × String) := (v.value.map (0, ·)).toList ++ v.more

def Var.element (v : Var) (i : Nat) : Option String :=
  if i = 0 then v.value else v.more.lookup i

def putElement (i : Nat) (x : String) : List (Nat × String) → List (Nat × String)
  | [] => [(i, x)]
  | (j, y) :: rest =>
    if i < j then (i, x) :: (j, y) :: rest
    else if i = j then (i, x) :: rest
    else (j, y) :: putElement i x rest

def Var.setElement (v : Var) (i : Nat) (x : String) : Var :=
  if i = 0 then { v with value := some x }
  else { v with more := putElement i x v.more, array := true }

def bashHash (key : String) : UInt32 :=
  (Text.Utf8.encode key).foldl (fun h b => (h * 16777619) ^^^ b.toUInt32) 2166136261

/-- Keys in the order `bash` walks its table of 1024 buckets: bucket by bucket, the newest
first within one. -/
def bashKeyOrder (entries : List (String × String)) : List (String × String) :=
  let bucket := fun (k : String) => (bashHash k).toNat % 1024
  ((entries.zipIdx.mergeSort fun (a, i) (b, j) =>
    bucket a.1 < bucket b.1 || (bucket a.1 == bucket b.1 && i ≥ j)).map (·.1))

/-- The elements of a variable with their keys, in the order `bash` gives them: by index for an
array, by its table for an associative one. -/
def Var.keyed (v : Var) : List (String × String) :=
  if v.assoc then bashKeyOrder v.entries else v.elements.map fun (i, x) => (toString i, x)

def Var.setKey (v : Var) (key x : String) : Var :=
  let entries := if v.entries.any (·.1 == key) then v.entries.map fun (k, y) => if k = key then (k, x) else (k, y)
    else v.entries ++ [(key, x)]
  { v with entries := entries, value := if key = "0" then some x else v.value }

/-- A variable without the element of a key: an index of an array, or a key of an associative
one. -/
def Var.dropKey (v : Var) (key : String) : Var :=
  if v.assoc then
    { v with entries := v.entries.filter (·.1 ≠ key), value := if key = "0" then none else v.value }
  else match key.toNat? with
    | some 0 => { v with value := none }
    | some i => { v with more := v.more.filter (·.1 ≠ i) }
    | none => v

def Var.withItems (v : Var) (xs : List String) : Var :=
  { v with value := xs.head?, more := (xs.drop 1).zipIdx.map fun (x, i) => (i + 1, x), array := true }

/-- Where a descriptor leads. -/
inductive Channel where
  | stdout
  | stderr
  | null
  /-- A file of the tree, written at its end. -/
  | file (p : Path)
  /-- A file outside the tree: what is written there is not seen again. -/
  | elsewhere
  /-- The full device: every write to it fails for want of space. -/
  | full
  /-- The buffer of a pipe or command substitution, by its number. -/
  | capture (k : Nat)
  /-- An input stream, by its number. -/
  | source (k : Nat)
  deriving DecidableEq, Repr

/-- An input stream: the bytes not yet read, whether more would come without end, and the size
of the regular file it reads, when it reads one. -/
structure Stream where
  rest : Bytes := []
  endless : Bool := false
  regular : Option Nat := none
  deriving Repr, Inhabited

/-- A buffer: what was written to it, and whether its writer would never have stopped. -/
structure Capture where
  bytes : Array UInt8 := #[]
  endless : Bool := false
  deriving Repr, Inhabited

/-- The options of the shell, by their letters. -/
structure Options where
  /-- `-e`: a failing command ends the shell. -/
  errexit : Bool := false
  /-- `-f`: no file name generation. -/
  noglob : Bool := false
  /-- `-n`: commands are read, not run. -/
  noexec : Bool := false
  /-- `-x`: each simple command is written to the error output before it runs. -/
  xtrace : Bool := false
  /-- `-v`: input is written to the error output as it is read. -/
  verbose : Bool := false
  /-- `-C`: `>` does not overwrite a file. -/
  noclobber : Bool := false
  /-- `-a`: every variable assigned is exported. -/
  allexport : Bool := false
  /-- `-u`: expanding an unset parameter is an error. -/
  nounset : Bool := false
  /-- `-o pipefail` of `bash`: a pipeline fails with its last failing stage. -/
  pipefail : Bool := false
  /-- `-E` of `bash`: functions run the trap on `ERR` too. -/
  errtrace : Bool := false
  /-- `-I`: an end of input does not end an interactive shell. -/
  ignoreeof : Bool := false
  /-- `-i`: the shell is interactive. -/
  interactive : Bool := false
  /-- `-m`: job control, which a shell with no terminal cannot have. -/
  monitor : Bool := false
  /-- `-s`: the commands are read from the standard input. -/
  stdin : Bool := false
  /-- `-V`: lines are edited in the manner of vi. -/
  vi : Bool := false
  /-- `-E` of `sh`: lines are edited in the manner of emacs. -/
  emacs : Bool := false
  /-- `-b`: background jobs are told of as they end. -/
  notify : Bool := false
  /-- `-p`: the privileged mode. -/
  privileged : Bool := false
  /-- `-o nolog`: function definitions are kept out of the history. -/
  nolog : Bool := false
  /-- `-o debug`: the shell's own tracing. -/
  debug : Bool := false
  /-- The other options of `bash`, which change nothing here, that are not in their first
  state. -/
  toggled : List String := []
  deriving DecidableEq, Repr

/-- The options with their letters, if they have one, and long names, in the order `set -o`
lists them; `$-` lists their letters from the last to the first. -/
def optionTable : List (Option Char × String × (Options → Bool) × (Options → Bool → Options)) :=
  [(some 'e', "errexit", (·.errexit), fun o b => { o with errexit := b }),
   (some 'f', "noglob", (·.noglob), fun o b => { o with noglob := b }),
   (some 'I', "ignoreeof", (·.ignoreeof), fun o b => { o with ignoreeof := b }),
   (some 'i', "interactive", (·.interactive), fun o b => { o with interactive := b }),
   (some 'm', "monitor", (·.monitor), fun o b => { o with monitor := b }),
   (some 'n', "noexec", (·.noexec), fun o b => { o with noexec := b }),
   (some 's', "stdin", (·.stdin), fun o b => { o with stdin := b }),
   (some 'x', "xtrace", (·.xtrace), fun o b => { o with xtrace := b }),
   (some 'v', "verbose", (·.verbose), fun o b => { o with verbose := b }),
   (some 'V', "vi", (·.vi), fun o b => { o with vi := b }),
   (some 'E', "emacs", (·.emacs), fun o b => { o with emacs := b }),
   (some 'C', "noclobber", (·.noclobber), fun o b => { o with noclobber := b }),
   (some 'a', "allexport", (·.allexport), fun o b => { o with allexport := b }),
   (some 'b', "notify", (·.notify), fun o b => { o with notify := b }),
   (some 'u', "nounset", (·.nounset), fun o b => { o with nounset := b }),
   (some 'p', "privileged", (·.privileged), fun o b => { o with privileged := b }),
   (none, "nolog", (·.nolog), fun o b => { o with nolog := b }),
   (none, "debug", (·.debug), fun o b => { o with debug := b })]

def Options.letters (o : Options) : String :=
  String.ofList (optionTable.reverse.filterMap fun (c, _, get, _) => if get o then c else none)

/-- Sets or clears the option of a letter of `sh`, if there is one; the two ways of editing
lines exclude each other when one is set by its letter. -/
def Options.putLetter (o : Options) (c : Char) (on : Bool) : Option Options :=
  match optionTable.find? (·.1 == some c) with
  | some (_, _, _, put) =>
    let o := put o on
    some (if on ∧ c = 'V' then { o with emacs := false }
      else if on ∧ c = 'E' then { o with vi := false } else o)
  | none => none

def bashOptionNames : List String :=
  ["allexport", "braceexpand", "emacs", "errexit", "errtrace", "functrace", "hashall",
   "histexpand", "history", "ignoreeof", "interactive-comments", "keyword", "monitor",
   "noclobber", "noexec", "noglob", "nolog", "notify", "nounset", "onecmd", "physical",
   "pipefail", "posix", "privileged", "verbose", "vi", "xtrace"]

def bashOptionsOn : List String := ["braceexpand", "hashall", "interactive-comments"]

/-- Whether an option `bash` names is on: those of the table and `pipefail` and `errtrace` as
they are set, and the others as they were left. -/
def Options.named (o : Options) (name : String) : Bool :=
  if ¬ bashOptionNames.contains name then false
  else match optionTable.find? (·.2.1 == name) with
    | some (_, _, get, _) => get o
    | none =>
      if name = "pipefail" then o.pipefail
      else if name = "errtrace" then o.errtrace
      else bashOptionsOn.contains name != o.toggled.contains name

/-- Sets or clears an option of `bash` by its long name, if it has one; the two ways of editing
lines exclude each other. -/
def Options.putNamed (o : Options) (name : String) (on : Bool) : Option Options :=
  if ¬ bashOptionNames.contains name then none
  else match optionTable.find? (·.2.1 == name) with
    | some (_, _, _, put) =>
      let o := put o on
      some (if on ∧ name = "vi" then { o with emacs := false }
        else if on ∧ name = "emacs" then { o with vi := false } else o)
    | none =>
      if name = "pipefail" then some { o with pipefail := on }
      else if name = "errtrace" then some { o with errtrace := on }
      else
        let rest := o.toggled.erase name
        some { o with toggled := if on == bashOptionsOn.contains name then rest else name :: rest }

def bashLetterNames : List (Char × String) :=
  [('a', "allexport"), ('b', "notify"), ('e', "errexit"), ('f', "noglob"), ('h', "hashall"),
   ('k', "keyword"), ('m', "monitor"), ('n', "noexec"), ('p', "privileged"), ('t', "onecmd"),
   ('u', "nounset"), ('v', "verbose"), ('x', "xtrace"), ('B', "braceexpand"), ('C', "noclobber"),
   ('E', "errtrace"), ('H', "histexpand"), ('P', "physical"), ('T', "functrace")]

def Options.bashLetters (o : Options) : String :=
  String.ofList (bashLetterNames.filterMap fun (c, name) => if o.named name then some c else none)

/-- A background job: its process number, status and the time it ended. -/
structure Job where
  pid : Nat
  status : Nat
  ends : Nat
  deriving DecidableEq, Repr

/-- What bounds a run: the shell's process number and its time limit in seconds, as a
fraction. -/
structure Limits where
  pid : Nat := 4242
  limit : Option (Int × Nat) := none
  deriving DecidableEq, Repr

/-- The state of a running shell. -/
structure State where
  tree : FileTree
  /-- The working directory, as components below the tree's root, or below `cwdRoot`. -/
  cwd : List String := []
  /-- Empty while the working directory is in the tree; otherwise the root of the system
  directory outside it that `cwd` names. -/
  cwdRoot : String := ""
  vars : List (String × Var) := []
  funcs : List (String × Node) := []
  params : List String := []
  arg0 : String := "sh"
  status : Nat := 0
  opts : Options := {}
  /-- The action of each trapped condition (`EXIT` or a signal name); `""` ignores it. -/
  traps : List (String × String) := []
  fds : List (Nat × Channel) := [(0, .source 0), (1, .stdout), (2, .stderr)]
  streams : Array Stream := #[{}]
  captures : Array Capture := #[]
  out : Array UInt8 := #[]
  err : Array UInt8 := #[]
  /-- Nanoseconds slept. -/
  elapsed : Nat := 0
  jobs : List Job := []
  nextPid : Nat := 4300
  /-- The resource limits set so far, soft and hard, by the letter `ulimit` gives each. -/
  softLimits : List (Char × String) := []
  /-- Why the command being run failed to write to its standard output, when it did. -/
  outError : Option String := none
  hardLimits : List (Char × String) := []
  /-- The line of the command being run, which messages name. -/
  line : Nat := 1
  /-- The line the shell's reader has reached in the text being run: past the command read,
  and 1 in a child process. -/
  readLine : Nat := 1
  /-- Whether the next text run is the body of a command substitution, which was read with the
  command around it, so that reading it again moves no reader. -/
  readAgain : Bool := false
  /-- The status of the last command substitution of the current command. -/
  substituted : Nat := 0
  /-- How many loops enclose the command being run. -/
  loops : Nat := 0
  /-- Whether the trap on `ERR` of `bash` is running, which it does not do again. -/
  inErrTrap : Bool := false
  /-- The trap on `ERR` of `bash` waiting to run after a command, and whether the shell ends
  after it for `-e`. -/
  errTrap : Option Bool := none
  /-- The saved variables of each function call being run, innermost first. -/
  frames : List (List (String × Option Var)) := []
  /-- The name bash gives the text its functions were defined in, which its messages name while
  a function runs: `environment` for the text of `-c`, read before the shell is set up. -/
  functionSource : Option String := none
  /-- The name of the utility being run, which its messages name. -/
  utility : Option String := none
  /-- The path the program being run was invoked by, when it was invoked by one: GNU programs
  name themselves so in their messages and help. -/
  invoked : Option String := none
  /-- Whether the shell is `bash`, with its additions to the language and its commands. -/
  bashLike : Bool := false
  /-- How `bash` labels the text it reads in a syntax error's message: `-c` for the text of
  its command line, `eval` for an argument of `eval`, none for a file. -/
  textLabel : Option String := some "-c"
  /-- The options of `bash` set by `shopt -s`. -/
  shopts : List String := []
  limits : Limits := {}
  /-- Signals sent to the shell whose traps have not run yet. -/
  pending : List Nat := []
  /-- The process number of the last command run in the background. -/
  lastJob : Option Nat := none
  /-- The file mode creation mask. -/
  umask : Nat := 18
  /-- The number of the next region of an expansion's result. -/
  regions : Nat := 0
  /-- Where `getopts` is inside the word it reads, when it is inside one. -/
  optOff : Option Nat := none
  /-- The place of the next word `getopts` reads, counted from 1, as the shell keeps it: setting
  `OPTIND` sets it, and new positional parameters start it at 1 again. -/
  optIndex : Nat := 1
  /-- The stamp of the next variable made. -/
  births : Nat := 0
  /-- The aliases, in the order they were first defined. -/
  aliases : List (String × String) := []
  /-- Whether the variables are a shell's, laid out in its table; otherwise they are the
  environment a program was given, in its order. -/
  tableOrder : Bool := true
  /-- How many files `.` is reading, inside one another. -/
  sourcing : Nat := 0
  /-- The files of the process substitutions of the command being run: each path and what
  reading it gives. -/
  procFiles : List (String × Bytes) := []

/-- Why a run of commands stopped before its end. -/
inductive Stop where
  /-- The shell exits with a code. -/
  | exit (code : Nat)
  /-- An error of the shell; its message is written and the status is 2. -/
  | fault
  | breakLoop (n : Nat)
  | continueLoop (n : Nat)
  | ret (code : Nat)
  /-- The shell was killed by a signal. -/
  | signal (n : Nat)
  /-- An expansion error of `bash` that drops the rest of the command read, whose status is 1;
  the shell goes on with the next one. -/
  | discard
  | timeout
  | exhausted
  deriving DecidableEq, Repr

abbrev Sh := ExceptT Stop (StateM State)

/-! ## Status and messages -/

def setStatus (n : Nat) : Sh Unit := modify fun s => { s with status := n }

def getStatus : Sh Nat := return (← get).status

def appendCapture (k : Nat) (bs : Bytes) : Sh Unit :=
  modify fun s =>
    if h : k < s.captures.size then
      let c := s.captures[k]
      { s with captures := s.captures.set k { c with bytes := c.bytes ++ bs.toArray } }
    else s

def writeChannel (c : Channel) (bs : Bytes) : Sh Unit :=
  if bs.isEmpty then pure () else
  match c with
  | .stdout => modify fun s => { s with out := s.out ++ bs.toArray }
  | .stderr => modify fun s => { s with err := s.err ++ bs.toArray }
  | .file p => modify fun s =>
    match s.tree.readFile p with
    | .ok old => { s with tree := (s.tree.writeFile p (old ++ bs)).toOption.getD s.tree }
    | .error _ => s
  | .capture k => appendCapture k bs
  | _ => pure ()

def channelOf (fd : Nat) : Sh (Option Channel) := return (← get).fds.lookup fd

def emit (fd : Nat) (bs : Bytes) : Sh Unit := do
  match ← channelOf fd with
  | some .full =>
    if fd = 1 ∧ ¬ bs.isEmpty then modify fun s => { s with outError := some "No space left on device" }
  | some c => writeChannel c bs
  | none =>
    if fd = 1 ∧ ¬ bs.isEmpty then modify fun s => { s with outError := some "Bad file descriptor" }

def say (fd : Nat) (text : String) : Sh Unit := emit fd (Text.Utf8.encode text)

/-- The name the shell's messages start with: its `$0`, or while a function of bash runs, the
text the function was defined in. -/
def State.errorName (s : State) : String :=
  if s.bashLike ∧ ¬ s.frames.isEmpty then s.functionSource.getD s.arg0 else s.arg0

/-- Writes a message of the shell to the error output: the shell's name, the line, and the
utility being run, if any. -/
def complain (message : String) : Sh Unit := do
  let s ← get
  let who := match s.utility with
    | some u => u ++ ": "
    | none => ""
  let place := if s.bashLike then "line " ++ toString s.line else toString s.line
  say 2 (s.errorName ++ ": " ++ place ++ ": " ++ who ++ message ++ "\n")

def failWith {α : Type} (message : String) : Sh α := do
  complain message
  setStatus 2
  throw .fault

/-! ## Time -/

/-- The time a program takes to start, in nanoseconds: a limit shorter than this has passed
before it can end. -/
def startupTime : Nat := 1000000

def Limits.reached (l : Limits) (elapsed : Nat) : Bool :=
  match l.limit with
  | some (p, q) => ((elapsed + startupTime) * q : Int) ≥ p * 1000000000
  | none => false

def pass (ns : Nat) : Sh Unit := do
  modify fun s => { s with elapsed := s.elapsed + ns }
  let s ← get
  if s.limits.reached s.elapsed then throw .timeout

/-! ## Input -/

def openStream (bs : Bytes) (endless : Bool := false) (regular : Bool := false) : Sh Nat := do
  let s ← get
  let st : Stream :=
    { rest := bs, endless := endless, regular := if regular then some bs.length else none }
  set { s with streams := s.streams.push st }
  return s.streams.size

def streamOf (fd : Nat) : Sh (Option Nat) := do
  match ← channelOf fd with
  | some (.source k) => return some k
  | _ => return none

def regularSize (fd : Nat) : Sh (Option Nat) := do
  match ← streamOf fd with
  | some k => return ((← get).streams.getD k {}).regular
  | none => return none

def readRest (fd : Nat) : Sh Bytes := do
  match ← streamOf fd with
  | some k =>
    let s ← get
    let st := s.streams.getD k {}
    if st.endless then throw .timeout
    set { s with streams := s.streams.set! k { st with rest := [] } }
    return st.rest
  | none => return []

def peekRest (fd : Nat) : Sh (Bytes × Bool) := do
  match ← streamOf fd with
  | some k => let st := (← get).streams.getD k {}; return (st.rest, st.endless)
  | none => return ([], false)

/-- Reads the first `n` bytes left on a descriptor. -/
def consume (fd n : Nat) : Sh Unit := do
  match ← streamOf fd with
  | some k => modify fun s =>
    let st := s.streams.getD k {}
    let rest :=
      if st.endless ∧ ¬ st.rest.isEmpty then
        let m := n % st.rest.length
        st.rest.drop m ++ st.rest.take m
      else st.rest.drop n
    { s with streams := s.streams.set! k { st with rest := rest } }
  | none => pure ()

/-- What an endless stream holds, written again until there are at least `n` bytes and `lines`
line feeds; none when that never comes. -/
def endlessPrefix (chunk : Bytes) (n lines : Nat) : Option Bytes :=
  let feeds := chunk.count 10
  if chunk.isEmpty ∨ (lines > 0 ∧ feeds = 0) then none
  else
    let copies := n / chunk.length + (if feeds = 0 then 0 else lines / feeds) + 1
    some (List.replicate copies chunk).flatten

/-! ## Variables -/

def findVar (name : String) : Sh (Option Var) := return (← get).vars.lookup name

def varValue (name : String) : Sh (Option String) := return ((← findVar name).bind (·.value))

/-- Replaces a variable's record; a variable keeps the stamp it was made with, and a new one
takes the next stamp unless it brings its own. -/
def putVar (name : String) (v : Var) : Sh Unit :=
  modify fun s =>
    let rest := s.vars.filter (·.1 ≠ name)
    match (s.vars.lookup name).bind (·.born), v.born with
    | some b, _ => { s with vars := (name, { v with born := some b }) :: rest }
    | none, some _ => { s with vars := (name, v) :: rest }
    | none, none => { s with vars := (name, { v with born := some s.births }) :: rest, births := s.births + 1 }

def setVar (name value : String) : Sh Unit := do
  let old := ((← findVar name).getD {})
  if old.readonly then
    if (← get).bashLike then
      complain (name ++ ": readonly variable")
      setStatus 1
      throw .fault
    failWith (name ++ ": is read only")
  let all := (← get).opts.allexport
  putVar name { old with value := some value, exported := old.exported || all }
  if name = "OPTIND" then
    let k := (value.toNat?).getD 1
    modify fun s => { s with optOff := none, optIndex := if k = 0 then 1 else k }

def exportValue (name value : String) : Sh Unit := do
  setVar name value
  putVar name { ((← findVar name).getD {}) with exported := true }

def setElement (name : String) (i : Nat) (x : String) : Sh Unit := do
  let old := ((← findVar name).getD {})
  if old.readonly then failWith (name ++ ": readonly variable")
  putVar name (old.setElement i x)

/-- Sets an array whole, or adds elements after its last with `append`; a read-only variable is
an error. -/
def setArray (name : String) (xs : List String) (append : Bool) : Sh Unit := do
  let old := ((← findVar name).getD {})
  if old.readonly then failWith (name ++ ": readonly variable")
  if append then
    let next := (old.elements.map (·.1 + 1)).foldl max 0
    putVar name (xs.zipIdx.foldl (fun v (x, i) => v.setElement (next + i) x) { old with array := true })
  else putVar name (old.withItems xs)

def setKeyed (name key x : String) : Sh Unit := do
  let old := ((← findVar name).getD {})
  if old.readonly then failWith (name ++ ": readonly variable")
  putVar name (old.setKey key x)

def clearArray (name : String) : Sh Unit := do
  let old := ((← findVar name).getD {})
  if old.readonly then failWith (name ++ ": readonly variable")
  putVar name { old with value := none, more := [], entries := [], array := ¬ old.assoc }

def unsetVar (name : String) : Sh Unit := do
  match ← findVar name with
  | some v =>
    if v.readonly then failWith (name ++ ": is read only")
    modify fun s => { s with vars := s.vars.filter (·.1 ≠ name) }
  | none => pure ()

/-- The bucket of the shell's variable table a name falls in: the first byte times 16 plus all
the bytes, modulo the table's 39 buckets. -/
def varBucket (name : String) : Nat :=
  let bs := Text.Utf8.encode name
  ((bs.headD 0).toNat * 16 + (bs.map UInt8.toNat).sum) % 39

/-- The variables passed to a program: the exported ones that are set, in the order of the
shell's table, bucket by bucket and the newest first within one (or, for a program's own
variables, in their order). -/
def environment : Sh (List (String × String)) := do
  let s ← get
  let vs := s.vars.filterMap fun (k, v) =>
    if v.exported then v.value.map (fun x => ((k, x), v.born.getD 0)) else none
  if ¬ s.tableOrder then return vs.map (·.1)
  let sorted := vs.mergeSort fun a b =>
    varBucket a.1.1 < varBucket b.1.1 || (varBucket a.1.1 == varBucket b.1.1 && a.2 ≥ b.2)
  return sorted.map (·.1)

def State.extglob (s : State) : Bool := s.bashLike ∧ s.shopts.contains "extglob"

/-- Whether `case` and `[[ ]]` match without regard to case: the `nocasematch` option of
`bash`. -/
def State.nocasematch (s : State) : Bool := s.bashLike ∧ s.shopts.contains "nocasematch"

def treeHome : String := "/tmp/tmpq7x2m9ka"

def treeHomeParts : List String := Path.componentsOf treeHome

def State.workDir (s : State) : String :=
  "/" ++ "/".intercalate ((if s.cwdRoot.isEmpty then treeHomeParts else []) ++ s.cwd)

/-- The path a text names, from the working directory; a path from the system's root that goes
through the tree's directory is a path of the tree. -/
def State.pathOf (s : State) (text : String) : Path :=
  let p := Path.ofString text
  if p.root.isEmpty then ⟨s.cwdRoot, s.cwd ++ p.parts⟩
  else if p.root = "/" ∧ treeHomeParts.isPrefixOf p.parts then
    ⟨"", p.parts.drop treeHomeParts.length⟩
  else p

def pathOf (text : String) : Sh Path := return (← get).pathOf text

end SqlMigration.Shell
