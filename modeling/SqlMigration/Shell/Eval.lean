import SqlMigration.Shell.Parse
import SqlMigration.Shell.Braces
import SqlMigration.Shell.BashArith
import SqlMigration.Shell.Builtin
import SqlMigration.Shell.Xargs
import SqlMigration.Shell.Awk
import SqlMigration.Shell.Timeout
import SqlMigration.Shell.Manual

/-!
# Running commands

Expansion and evaluation of the command language, over the state of `Shell.State`.
-/

namespace SqlMigration.Shell

/-! ## Helpers -/

def ifsChars : Sh (List Char) := do
  match ← varValue "IFS" with
  | some v => return v.toList
  | none => return [' ', '\t', '\n']

def freshRegion : Sh Nat := do
  let s ← get
  set { s with regions := s.regions + 1 }
  return s.regions + 1

def paramValue (name : String) : Sh (Option String) := do
  let s ← get
  match name with
  | "#" => return some (toString s.params.length)
  | "?" => return some (toString s.status)
  | "$" => return some (toString s.limits.pid)
  | "!" => return s.lastJob.map toString
  | "-" =>
    if s.bashLike then
      let o := s.opts
      return some (o.bashLetters ++ (if s.textLabel.isSome then "c" else "") ++ (if o.stdin then "s" else ""))
    else return some s.opts.letters
  | "0" => return some s.arg0
  | "LINENO" => if s.bashLike then return some (toString s.line) else varValue name
  | "BASHPID" => if s.bashLike then return some (toString s.limits.pid) else varValue name
  | "@" | "*" => return if s.params.isEmpty then none else some (" ".intercalate s.params)
  | _ =>
    if ¬ name.isEmpty ∧ name.toList.all Char.isDigit then
      let n := name.toNat!
      let index : Int :=
        if s.bashLike then n
        else
          let low := (min n 9223372036854775807) % 4294967296
          if low ≥ 2147483648 then (low : Int) - 4294967296 else low
      match index with
      | 0 => return some s.arg0
      | .ofNat (k + 1) => return s.params[k]?
      | _ => return none
    else varValue name

def attributeLetters (v : Var) : String :=
  (if v.array ∧ ¬ v.assoc then "a" else "") ++ (if v.assoc then "A" else "") ++
    (if v.integer then "i" else "") ++ (if v.readonly then "r" else "") ++
    (if v.exported then "x" else "")

/-- A value transformed by an operator of `${x@op}`: `Q` quoted, `E` with its escapes replaced,
`P` as a prompt, `A` as an assignment, `a` the attributes, `U`, `u` and `L` in upper case, with
its first letter upper case, or in lower case; none for another operator. -/
def transformValue (op : Char) (name : String) (var : Option Var) (v : Option String) : Option String :=
  match op with
  | 'Q' | 'K' | 'k' => some ((v.map bashValueQuoted).getD "")
  | 'E' => some ((v.map fun x => String.ofList ((ansiText (x.length + 2) (x.toList ++ ['\'']) []).map (·.1)
      |>.getD x.toList)).getD "")
  | 'P' => some (v.getD "")
  | 'A' =>
    some ((v.map fun x =>
      let attrs := (var.map attributeLetters).getD ""
      (if attrs.isEmpty then "" else "declare -" ++ attrs ++ " ") ++ name ++ "=" ++ bashValueQuoted x).getD "")
  | 'a' => some ((var.map attributeLetters).getD "")
  | 'U' => some ((v.getD "").toUpper)
  | 'u' => some ((v.getD "").capitalize)
  | 'L' => some ((v.getD "").toLower)
  | _ => none

/-- The pieces of a list of words, as the positional parameters or the elements of an array
expand: `"$@"` gives a field for each, `"$*"` one field with them joined by the first
separator, and unquoted they are split as usual. -/
def listPieces (ps : List String) (star quoted : Bool) (region : Nat) : Sh (List Piece) := do
  if quoted then
    if ¬ star then
      return (ps.map fun p => Piece.mark :: p.toList.map (Piece.char · true none)).intersperse [Piece.cut] |>.flatten
    else
      let sep := match ← varValue "IFS" with
        | some v => (v.toList.head?.map String.singleton).getD ""
        | none => " "
      return quotedPieces (sep.intercalate ps)
  else
    let sep : List Piece := match (← ifsChars).head? with
      | some c => [.char c false (some region)]
      | none => [.cut]
    return (ps.map fun p => p.toList.map (Piece.char · false (some region))).intersperse sep |>.flatten

/-- The words from an offset, as many as a length says when there is one: a negative offset
counts from the end, and a negative length ends that far before the end. -/
def sliceList {α : Type} (xs : List α) (off : Int) (len : Option Int) : Option (List α) :=
  let n : Int := xs.length
  let start := if off < 0 then max 0 (n + off) else min off n
  let stop : Int := match len with
    | none => n
    | some l => if l < 0 then n + l else min n (start + l)
  if stop < start then
    if len.any (· < 0) then none else some []
  else some ((xs.drop start.toNat).take (stop - start).toNat)

/-- Where a substring of `bash` starts in a list of a length: a negative offset counts from
the end. -/
def bashSliceStart (n : Nat) (off : Int) : Option Nat :=
  let start : Int := if off < 0 then n + off else off
  if start < 0 ∨ start > n then none else some start.toNat

/-- Where a substring of `bash` of a length ends: a negative length ends that far before the
end, which is an error (none) when it comes before the start. -/
def bashSliceStop (n start : Nat) (len : Int) : Option Nat :=
  if len < 0 then
    let stop : Int := n + len
    if stop < 0 ∨ stop < start then none else some stop.toNat
  else some (min n (start + len.toNat))

def setFd (fd : Nat) (c : Option Channel) : Sh Unit :=
  modify fun s => { s with fds := (s.fds.filter (·.1 ≠ fd)) ++ (c.map (fd, ·)).toList }

def restoreFds : List (Nat × Option Channel) → Sh Unit
  | [] => pure ()
  | (fd, c) :: rest => do setFd fd c; restoreFds rest

def createMessage (e : Errno) : String :=
  if FileTree.Errno.meansAbsent e then "Directory nonexistent" else e.text

def openMessage (e : Errno) : String :=
  if FileTree.Errno.meansAbsent e then "No such file" else e.text

/-- The message of a file a redirection could not open (`create` for writing): dash says what
it tried and why in its own words, bash names the file and the system's reason. -/
def openFailure (create : Bool) (target : String) (e : Errno) : Sh String := do
  if (← get).bashLike then return target ++ ": " ++ e.text
  else if create then return "cannot create " ++ target ++ ": " ++ createMessage e
  else return "cannot open " ++ target ++ ": " ++ openMessage e

def outsideDirs : List String := ["tmp", "dev", "var", "etc", "root", "home", "opt", "usr", "run"]

/-- Opens a file for reading on a descriptor: answers the message of its failure, if it
fails. -/
def openInput (fd : Nat) (target : String) : Sh (Option String) := do
    if target = "/dev/null" then
      let k ← openStream []
      setFd fd (some (.source k))
      return none
    if target = "/dev/stdin" then setFd fd (← channelOf 0); return none
    if let some bs := (← get).procFiles.lookup target then
      let k ← openStream bs
      setFd fd (some (.source k))
      return none
    let p ← pathOf target
    if ¬ p.root.isEmpty then return some (← openFailure false target .noEntry)
    match (← get).tree.stat p with
    | .ok (.file bs) =>
      let k ← openStream bs false true
      setFd fd (some (.source k))
      return none
    | .ok .dir =>
      let k ← openStream []
      setFd fd (some (.source k))
      return none
    | .error e => return some (← openFailure false target e.errno)

/-- Stops at a copying redirection whose word names no descriptor. -/
def badFdNumber {α : Type} : Sh α := do
  let s ← get
  set { s with utility := if s.textLabel = some "eval" then some "eval" else none, line := s.readLine }
  complain "Syntax error: Bad fd number"
  modify fun t => { t with line := s.line }
  setStatus 2
  throw .fault

/-- Opens the target of a redirection for a descriptor: answers the message of its failure, if
it fails. -/
def openTarget (fd : Nat) (kind : RedirKind) (target : String) : Sh (Option String) := do
  let kind := if kind = .outErr then .output else if kind = .appendOutErr then .append else kind
  if kind = .readWrite ∧ fd = 0 ∧ target ≠ "/dev/null" then
    let p ← pathOf target
    if p.root.isEmpty then
      let t := (← get).tree
      if let .error _ := t.stat p then
        if let .ok t' := t.writeFile p [] then modify fun s => { s with tree := t' }
      return ← openInput fd target
  match kind with
  | .output | .clobber | .append | .readWrite | .outErr | .appendOutErr =>
    if target = "/dev/null" then setFd fd (some .null); return none
    if target = "/dev/full" then setFd fd (some .full); return none
    if target = "/dev/stdout" then setFd fd (← channelOf 1); return none
    if target = "/dev/stderr" then setFd fd (← channelOf 2); return none
    let p ← pathOf target
    if ¬ p.root.isEmpty then
      if outsideDirs.contains (p.parts.headD "") ∧ p.parts.length ≥ 2 then
        setFd fd (some .elsewhere)
        return none
      else return some (← openFailure true target .noEntry)
    let s ← get
    let t := s.tree
    let isFile : Bool := match t.stat p with
      | .ok (.file _) => true
      | _ => false
    if kind == .output && s.opts.noclobber && isFile then
      if s.bashLike then return some (target ++ ": cannot overwrite existing file")
      return some ("cannot create " ++ target ++ ": File exists")
    let old := if kind = .output ∨ kind = .clobber then [] else (t.readFile p).toOption.getD []
    match t.writeFile p old with
    | .ok t' =>
      modify fun s => { s with tree := t' }
      setFd fd (some (.file p))
      return none
    | .error e => return some (← openFailure true target e.errno)
  | .input | .here | .hereString => openInput fd target
  | .dupOut | .dupIn =>
    if target = "-" then setFd fd none; return none
    match target.toList with
    | [d] =>
      if d.isDigit then
        let src := d.toNat - 48
        match ← channelOf src with
        | some c =>
          setFd fd (some c)
          return none
        | none => return some (toString src ++ ": Bad file descriptor")
      else badFdNumber
    | _ => badFdNumber

def dropDash (w : Word) : Word :=
  match w.reverse with
  | .lit t false :: before =>
    let t := String.ofList t.toList.dropLast
    (if t.isEmpty then before else .lit t false :: before).reverse
  | _ => w

/-- A copying redirection of bash, `>&` or `<&`, given the fields of its word (without the dash
at its end when `moving`). -/
def bashCopy (r : Redirect) (moving : Bool) (fields : List String) :
    Sh (Option String × List (Nat × Option Channel)) := do
  let ambiguous := some (r.text ++ ": ambiguous redirect")
  match fields with
  | [word] =>
    if word = "-" then
      setFd r.fd none
      return (none, [])
    else if ¬ word.isEmpty ∧ word.all Char.isDigit then
      let source := word.toNat!
      match ← channelOf source with
      | some c =>
        let wasOpen := (← channelOf r.fd).isSome
        setFd r.fd (some c)
        if moving ∧ source ≠ r.fd then
          setFd source none
          return (none, if wasOpen then [(source, some c)] else [])
        return (none, [])
      | none => return (some (word ++ ": Bad file descriptor"), [])
    else if r.kind = .dupOut ∧ r.fd = 1 ∧ ¬ moving then
      match ← openTarget 1 .output word with
      | some msg => return (some msg, [])
      | none =>
        setFd 2 (← channelOf 1)
        return (none, [])
    else return (ambiguous, [])
  | _ => return (ambiguous, [])

def guarded (act : Sh Unit) (after : Sh Unit) : Sh Unit := do
  let r ← tryCatch (do act; pure none) fun e => pure (some e)
  after
  match r with
  | some e => throw e
  | none => pure ()

/-- Runs a step that answers a value, then another whatever happens, then stops as the first
step did. -/
def guardedValue {α : Type} (act : Sh α) (after : Sh Unit) : Sh α := do
  let r : Except Stop α ← tryCatch (do let v ← act; pure (Except.ok v)) fun e => pure (Except.error e)
  after
  match r with
  | .ok v => pure v
  | .error e => throw e

def dropTrailingNewlines (s : String) : String :=
  String.ofList (s.toList.reverse.dropWhile (· = '\n')).reverse

def pushCapture : Sh Nat := do
  let s ← get
  set { s with captures := s.captures.push {} }
  return s.captures.size

def popCapture : Sh Capture := do
  let s ← get
  set { s with captures := s.captures.pop }
  return s.captures.back?.getD {}

def homeDirectories : List (String × String) :=
  [("root", "/root"), ("daemon", "/usr/sbin"), ("bin", "/bin"), ("sys", "/dev"), ("sync", "/bin"),
   ("games", "/usr/games"), ("man", "/var/cache/man"), ("lp", "/var/spool/lpd"),
   ("mail", "/var/mail"), ("news", "/var/spool/news"), ("uucp", "/var/spool/uucp"),
   ("proxy", "/bin"), ("www-data", "/var/www"), ("backup", "/var/backups"), ("list", "/var/list"),
   ("irc", "/run/ircd"), ("_apt", "/nonexistent"), ("nobody", "/nonexistent")]

/-- A word with a leading tilde-prefix replaced by a home directory: `~` alone by `HOME`, and
`~name` by the home of that account. -/
def tildeWord (w : Word) : Sh Word := do
  match w with
  | .lit s false :: rest =>
    if s.startsWith "~" then
      let cs := s.toList.drop 1
      let user := cs.takeWhile (· ≠ '/')
      if user.length = cs.length ∧ ¬ rest.isEmpty then return w
      let bash := (← get).bashLike
      let home ← if user.isEmpty then varValue "HOME"
        else if bash ∧ user = ['+'] then varValue "PWD"
        else if bash ∧ user = ['-'] then varValue "OLDPWD"
        else pure (homeDirectories.lookup (String.ofList user))
      match home with
      | some h =>
        if h.isEmpty then return w
        return .lit h true :: .lit (String.ofList (cs.drop user.length)) false :: rest
      | none => return w
    else return w
  | _ => return w

/-- The private parts of a shell's state, taken back from `saved` after a subshell or a child
shell; the tree, the streams, the output and the time go on. -/
def State.resume (saved now : State) : State :=
  { saved with tree := now.tree, streams := now.streams, captures := now.captures, out := now.out,
               err := now.err, elapsed := now.elapsed, nextPid := now.nextPid,
               regions := now.regions, status := now.status }

/-- The status a stop leaves as the shell's exit code, or the stop itself when it ends more than
the shell. -/
def exitCode (r : Option Stop) : Sh Nat := do
  match r with
  | none => getStatus
  | some (.exit c) => pure c
  | some .fault => getStatus
  | some (.ret c) => pure c
  | some (.breakLoop _) | some (.continueLoop _) | some .discard => getStatus
  | some e => throw e

/-- What the command line of a shell asks for: its options, whether the first operand is a
command text (`-c`), whether job control was asked for, and the operands. -/
structure ShellArgs where
  opts : Options := {}
  command : Bool := false
  jobControl : Bool := false
  operands : List String := []

def bashInvocationUsage (shell : String) : String :=
  String.join ["Usage:\t", shell, " [GNU long option] [option] ...\n\t", shell,
    " [GNU long option] [option] script-file ...\nGNU long options:\n",
    String.join (bashLongOptions.map fun o => "\t--" ++ o ++ "\n"),
    "Shell options:\n\t-ilrsD or -c command or -O shopt_option\t\t(invocation only)\n",
    "\t-abefhkmnptuvxBCEHPT or -o option\n"]
where
  bashLongOptions : List String :=
    ["debug", "debugger", "dump-po-strings", "dump-strings", "help", "init-file", "login",
     "noediting", "noprofile", "norc", "posix", "pretty-print", "rcfile", "restricted", "verbose",
     "version"]

/-- Reads the options of a shell's command line, up to its first operand, `-` or `--`: letters
after `-` set options and after `+` clear them, `-o NAME` names one. -/
def readShellArgs (shell : String) (bash : Bool) : Nat → List String → ShellArgs → Except String ShellArgs
  | 0, _, a => .ok a
  | _ + 1, [], a => .ok a
  | n + 1, w :: rest, a =>
    if w = "--" ∨ w = "-" then .ok { a with operands := rest }
    else if bash ∧ w.startsWith "--" then
      if bashInvocationUsage.bashLongOptions.contains (w.drop 2).toString then
        let a := if w = "--verbose" then { a with opts := { a.opts with verbose := true } } else a
        readShellArgs shell bash n rest a
      else .error (w ++ ": invalid option\n" ++ bashInvocationUsage shell)
    else if (w.startsWith "-" ∨ w.startsWith "+") ∧ w.length > 1 then
      let on := w.startsWith "-"
      let bad (c : Char) : String :=
        if bash then (if on then "-" else "+") ++ String.singleton c ++ ": invalid option\n" ++ bashInvocationUsage shell
        else "0: Illegal option " ++ (if on then "-" else "+") ++ String.singleton c ++ "\n"
      let step (acc : Except String (ShellArgs × List String)) (c : Char) :
          Except String (ShellArgs × List String) := do
        let (a, rest) ← acc
        if c = 'c' then return ({ a with command := a.command || on }, rest)
        if c = 'o' then
          match rest with
          | name :: more =>
            if bash then
              match a.opts.putNamed name on with
              | some o => return ({ a with opts := o }, more)
              | none => throw ("line 0: " ++ shell ++ ": " ++ name ++ ": invalid option name\n")
            else match optionTable.find? (·.2.1 == name) with
              | some (_, _, _, put) =>
                if name = "monitor" ∧ on then return ({ a with jobControl := true }, more)
                return ({ a with opts := put a.opts on }, more)
              | none => throw ("0: Illegal option -o " ++ name ++ "\n")
          | [] => return (a, rest)
        if bash then
          if c = 's' then return ({ a with opts := { a.opts with stdin := on } }, rest)
          if "ilrD".contains c then return (a, rest)
          match bashLetterNames.lookup c with
          | some name => return ({ a with opts := (a.opts.putNamed name on).getD a.opts }, rest)
          | none => throw (bad c)
        if c = 'l' then return (a, rest)
        if c = 'm' ∧ on then return ({ a with jobControl := true }, rest)
        match a.opts.putLetter c on with
        | some o => return ({ a with opts := o }, rest)
        | none => throw (bad c)
      match (w.toList.drop 1).foldl step (.ok (a, rest)) with
      | .ok (a, rest) => readShellArgs shell bash n rest a
      | .error msg => .error msg
    else .ok { a with operands := w :: rest }

/-- The variables a shell makes before it reads its environment, in their order: `IFS`,
`PATH`, the prompts and `OPTIND`. -/
def shellDefaults : List (String × Var) :=
  [("IFS", { value := some " \t\n" }),
   ("PATH", { value := some "/usr/local/sbin:/usr/local/bin:/usr/sbin:/usr/bin:/sbin:/bin" }),
   ("PS1", { value := some "$ " }), ("PS2", { value := some "> " }), ("PS4", { value := some "+ " }),
   ("OPTIND", { value := some "1" })]

/-- The variables of a new shell, with their stamps: the defaults first, then those of its
environment, exported, in its order, then `PPID`, the parent's process number; `IFS`, `OPTIND`
and `PPID` keep the shell's values, and an inherited variable of another default replaces it. -/
def startVars (env : List (String × String)) (parent : Nat) : List (String × Var) × Nat :=
  let defaults := shellDefaults.zipIdx.map fun ((k, v), i) =>
    let inherited := env.lookup k
    let keep := k = "IFS" ∨ k = "OPTIND"
    (k, { v with value := if keep then v.value else inherited.orElse fun _ => v.value,
                 exported := inherited.isSome, born := some i })
  let base := shellDefaults.length
  let own := (env.filter fun (k, _) => (shellDefaults.lookup k).isNone).zipIdx.map fun ((k, v), i) =>
    (k, ({ value := some v, exported := true, born := some (base + i) } : Var))
  let ppid := some (toString parent)
  let next := base + own.length
  match own.lookup "PPID" with
  | some v => (defaults ++ own.map (fun (k, w) => if k = "PPID" then (k, { v with value := ppid }) else (k, w)), next)
  | none => (defaults ++ own ++ [("PPID", { value := ppid, born := some next })], next + 1)

def bashVersionVars : List (String × String) :=
  [("BASH", "/usr/bin/bash"), ("BASH_VERSION", "5.2.15(1)-release"), ("HOSTTYPE", "x86_64"),
   ("MACHTYPE", "x86_64-pc-linux-gnu"), ("OSTYPE", "linux-gnu")]

def attempt (act : Sh Unit) : Sh (Option Stop) :=
  tryCatch (do act; pure none) fun e => pure (some e)

/-- `getopts`: the next option of the positional parameters (or of the words given) into a
variable. -/
def getopts (args : List String) : Sh Unit := do
    match args with
    | spec :: var :: given => do
      let params := (← get).params
      let words := if given.isEmpty then params else given
      let ind0 ← if (← get).bashLike then pure (((← varValue "OPTIND").bind String.toNat?).getD 1)
        else pure (← get).optIndex
      let offNow := (← get).optOff
      let (ind, off) := if ind0 > words.length + 1 then (1, none) else (ind0, offNow)
      let silent := spec.startsWith ":"
      let specChars := spec.toList
      let inWord : Option (List Char) := match off with
        | some k =>
          if ind ≤ 1 then none
          else match words[ind - 2]? with
            | some w => if k < w.length then some (w.toList.drop k) else none
            | none => none
        | none => none
      let setOptind (next : Nat) (offNext : Option Nat) : Sh Unit := do
        putVar "OPTIND" { ((← findVar "OPTIND").getD {}) with value := some (toString next) }
        modify fun s => { s with optOff := offNext, optIndex := next }
      let finish (next : Nat) (offNext : Option Nat) (c : String) (status : Nat) : Sh Unit := do
        setOptind next offNext
        setVar var c
        setStatus status
      let (cur, next) ← match inWord with
        | some cs => pure (some cs, ind)
        | none =>
          match words[ind - 1]? with
          | some w =>
            match w.toList with
            | '-' :: c :: rest =>
              if c = '-' ∧ rest.isEmpty then pure (none, ind + 1) else pure (some (c :: rest), ind + 1)
            | _ => pure (none, ind)
          | none => pure (none, ind)
      match cur with
      | none | some [] => finish next none "?" 1
      | some (c :: rest) =>
        let word := words.getD (next - 2) ""
        let offAfter : Option Nat := if rest.isEmpty then none else some (word.length - rest.length)
        match (specChars.dropWhile (· = ':')).idxOf? c, c == ':' with
        | some i, false =>
          let spec' := specChars.dropWhile (· = ':')
          if spec'.getD (i + 1) ' ' = ':' then
            if ¬ rest.isEmpty then
              setVar "OPTARG" (String.ofList rest)
              finish next none (String.singleton c) 0
            else match words[next - 1]? with
              | some v =>
                setVar "OPTARG" v
                finish (next + 1) none (String.singleton c) 0
              | none =>
                if silent then
                  setVar "OPTARG" (String.singleton c)
                  finish next none ":" 0
                else
                  say 2 ("No arg for -" ++ String.singleton c ++ " option\n")
                  unsetVar "OPTARG"
                  finish next none "?" 0
          else
            setVar "OPTARG" ""
            finish next offAfter (String.singleton c) 0
        | _, _ =>
          if silent then setVar "OPTARG" (String.singleton c)
          else
            say 2 ("Illegal option -" ++ String.singleton c ++ "\n")
            unsetVar "OPTARG"
          finish next offAfter "?" 0
    | _ => failWith "Usage: getopts optstring var [arg...]"

/-- The expansions a parameter expansion uses for its words: to text, to a pattern, to an
arithmetic value, and to the pieces of its word (quoted or not, in a region). -/
structure Expanders where
  text : Word → Sh String
  pattern : Word → Sh (List PatChar)
  arith : Word → Sh Int
  word : Word → Bool → Nat → Sh (List Piece)

/-- The pieces of a parameter expansion, the words in it expanded by `e`. -/
def expandParam (e : Expanders) (name : String) (index : Option Word) (form : ParamForm) (w extra : Word)
    (q : Bool) : Sh (List Piece) := do
    let r ← freshRegion
    let s ← get
    let sub ← match index with
      | some ix => some <$> e.text ix
      | none => pure none
    let every := sub = some "@" ∨ sub = some "*"
    let words : Option (List String) :=
      if form matches .names _ then
        let names := s.vars.filterMap fun (k, v) =>
          if k.startsWith name ∧ (v.value.isSome ∨ ¬ v.more.isEmpty ∨ ¬ v.entries.isEmpty) then some k else none
        some (names.mergeSort fun a b => decide (a ≤ b))
      else if every then some ((((s.vars.lookup name).map Var.keyed).getD []).map (·.2))
      else if index.isNone ∧ (name = "@" ∨ name = "*") then some s.params
      else none
    let star := sub = some "*" ∨ (index.isNone ∧ name = "*")
    if every then
      if let .test colon kind := form then
        let ws := words.getD []
        let present := ¬ ws.isEmpty ∧ ¬ (colon ∧ (" ".intercalate ws).isEmpty)
        let bad := "$\x7b" ++ name ++ "[" ++ (sub.getD "") ++ "]\x7d: bad substitution"
        match kind with
        | .use => return ← if present then listPieces ws star q r else e.word w q r
        | .alternative => return ← if present then e.word w q r else pure (if q then [.mark] else [])
        | _ => return ← if present then listPieces ws star q r else failWith bad
    let label := name ++ (sub.map (fun x => "[" ++ x ++ "]")).getD ""
    let number (x : Word) : Sh Int := do
      let saved := (← get).utility
      if s.bashLike then modify fun t => { t with utility := some label }
      let v ← e.arith x
      modify fun t => { t with utility := saved }
      return v
    let bounds (bounded : Bool) : Sh (Int × Option Int) := do
      let off ← number w
      let len ← if bounded then some <$> number extra else pure none
      return (off, len)
    let negativeLength {α : Type} : Sh α := do
      let msg := (← e.text extra) ++ ": substring expression < 0"
      if s.bashLike then
        complain msg
        setStatus 1
        throw .fault
      else failWith msg
    let badTransform (op : Char) : String :=
      "$\x7b" ++ name ++ (sub.map (fun x => "[" ++ x ++ "]")).getD "" ++ "@" ++ String.singleton op ++ "\x7d: bad substitution"
    match words, form with
    | some ws, .names all => listPieces ws all q r
    | some ws, .transform op =>
      match ws.mapM (fun x => transformValue op name (s.vars.lookup name) (some x)) with
      | some ts => listPieces ts star q r
      | none => failWith (badTransform op)
    | some ws, .plain => listPieces ws star q r
    | some ws, .length => return resultPieces (toString ws.length) q r
    | some _, .indirect =>
      let keys := (((s.vars.lookup name).map Var.keyed).getD []).map (·.1)
      listPieces keys star q r
    | some ws, .slice bounded =>
      let base := if every then ws else s.arg0 :: ws
      if s.bashLike then
        match bashSliceStart base.length (← number w) with
        | none => listPieces [] star q r
        | some start =>
          let rest := base.drop start
          if bounded then
            let len ← number extra
            if len < 0 then negativeLength
            listPieces (rest.take len.toNat) star q r
          else listPieces rest star q r
      else
      let (off, len) ← bounds bounded
      match sliceList base off len with
      | some part => listPieces part star q r
      | none => negativeLength
    | some ws, .trim suffix longest =>
      let ext := (← get).extglob
      let pat ← e.pattern w
      listPieces (ws.map fun x => trimValue ext x pat suffix longest) star q r
    | some ws, .recase upper all =>
      let ext := (← get).extglob
      let pat ← e.pattern w
      listPieces (ws.map fun x => recaseValue ext x pat upper all) star q r
    | some ws, .toggle all =>
      let ext := (← get).extglob
      let pat ← e.pattern w
      listPieces (ws.map fun x => toggleValue ext x pat all) star q r
    | some ws, .replace how =>
      let ext := (← get).extglob
      let pat ← e.pattern w
      let rep ← e.pattern extra
      listPieces (ws.map fun x => replaceValue ext x pat rep how) star q r
    | _, _ =>
    let v ← match sub with
      | some ix =>
        if ((s.vars.lookup name).map (·.assoc)).getD false then
          pure ((s.vars.lookup name).bind fun v => v.entries.lookup ix)
        else
        let i ← e.arith [.lit ix true]
        let elems := ((s.vars.lookup name).map Var.elements).getD []
        let last : Nat := (elems.map (·.1 + 1)).foldl max 0
        let pos : Int := if i < 0 then (last : Int) + i else i
        if pos < 0 then failWith (name ++ ": bad array subscript")
        pure (((s.vars.lookup name).bind fun v => v.element pos.toNat))
      | none =>
        if form = .indirect then do
          match ← paramValue name with
          | some target => paramValue target
          | none => pure none
        else paramValue name
    let result (text : String) : List Piece := resultPieces text q r
    let unsetError : Sh Unit := do
      if v.isNone ∧ s.opts.nounset ∧ name ≠ "@" ∧ name ≠ "*" then
        if s.bashLike then
          let shown := if name.toList.all Char.isDigit then "$" ++ name else name
          complain (shown ++ ": unbound variable")
          setStatus 127
          throw (.exit 127)
        failWith (name ++ ": parameter not set")
    match form with
    | .bad => failWith (if s.bashLike then "$\x7b" ++ name ++ "\x7d: bad substitution" else "Bad substitution")
    | .plain | .indirect => do unsetError; return result (v.getD "")
    | .names _ => return result ""
    | .transform op =>
      match transformValue op name (s.vars.lookup name) v with
      | some t => return result t
      | none => failWith (badTransform op)
    | .length => do unsetError; return result (toString (if s.bashLike then (v.getD "").length else (v.getD "").utf8ByteSize))
    | .test colon kind =>
      let present := match v with
        | some x => !(colon && x.isEmpty)
        | none => false
      match kind with
      | .use => if present then return result (v.getD "") else e.word w q r
      | .alternative => if present then e.word w q r else return (if q then [.mark] else [])
      | .assign =>
        if present then return result (v.getD "")
        else do
          let t ← e.text w
          if ¬ isVarName name then failWith (name ++ ": bad variable name")
          setVar name t
          return result t
      | .fail =>
        if present then return result (v.getD "")
        else do
          let msg ← if w.isEmpty then
              pure (if ¬ colon then "parameter not set"
                else if s.bashLike then "parameter null or not set" else "parameter not set or null")
            else e.text w
          if s.bashLike then
            complain (name ++ ": " ++ msg)
            setStatus 127
            throw (.exit 127)
          failWith (name ++ ": " ++ msg)
    | .trim suffix longest => do
      unsetError
      let pat ← e.pattern w
      return result (trimValue (← get).extglob (v.getD "") pat suffix longest)
    | .recase upper all => do
      unsetError
      let pat ← e.pattern w
      return result (recaseValue (← get).extglob (v.getD "") pat upper all)
    | .toggle all => do
      unsetError
      let pat ← e.pattern w
      return result (toggleValue (← get).extglob (v.getD "") pat all)
    | .replace how => do
      unsetError
      let pat ← e.pattern w
      let rep ← e.pattern extra
      return result (replaceValue (← get).extglob (v.getD "") pat rep how)
    | .slice bounded => do
      unsetError
      if s.bashLike ∧ v.isNone then return result ""
      if s.bashLike then
        let cs := (v.getD "").toList
        match bashSliceStart cs.length (← number w) with
        | none => return result ""
        | some start =>
          if bounded then
            match bashSliceStop cs.length start (← number extra) with
            | some stop => return result (String.ofList ((cs.drop start).take (stop - start)))
            | none => negativeLength
          else return result (String.ofList (cs.drop start))
      let (off, len) ← bounds bounded
      match sliceList (v.getD "").toList off len with
      | some cs => return result (String.ofList cs)
      | none => negativeLength

/-- How the shell generates file names: `bash` with its `extglob`, `globstar` and `dotglob`
options, and never matching `.` and `..`. -/
def globStyle (s : State) : GlobStyle :=
  { ext := s.extglob, star := s.bashLike ∧ s.shopts.contains "globstar",
    dot := s.bashLike ∧ s.shopts.contains "dotglob", skipDots := s.bashLike }

def plainBuiltin (name : String) (args : List String) : Sh Bool := do
  let s ← get
  let known := [":", "true", "false", "echo", "printf", "test", "[", "exit", "return", "break",
    "continue", "shift", "set", "unset", "export", "readonly", "local", "read", "cd", "chdir", "pwd",
    "umask", "kill", "trap", "wait", "type", "times", "declare", "typeset", "shopt", "mapfile",
    "readarray", "let", "getopts", "ulimit", "alias", "unalias"]
  if ¬ known.contains name then return false
  match name with
    | ":" | "true" => setStatus 0
    | "false" => setStatus 1
    | "echo" =>
      if s.bashLike then
        emit 1 (bashEchoBytes (s.shopts.contains "xpg_echo") args)
        setStatus 0
      else echoBuiltin args
    | "printf" => printfBuiltin args
    | "test" => testBuiltin false args
    | "[" => testBuiltin true args
    | "exit" =>
      match args with
      | [] => throw (.exit s.status)
      | a :: _ => do
        let c ← shellNumberArg a
        throw (.exit (c % 256))
    | "return" =>
      if s.bashLike ∧ s.frames.isEmpty ∧ s.sourcing = 0 then
        complain "can only \x60return' from a function or sourced script"
        setStatus 2
      else
      match args with
      | [] => throw (.ret s.status)
      | a :: _ => do
        let c ← shellNumberArg a
        throw (.ret c)
    | "break" | "continue" => do
      let k ← match args with
        | a :: _ => shellNumberArg a
        | [] => pure 1
      if k = 0 then failWith ("Illegal number: " ++ args.headD "0")
      setStatus 0
      let loops := (← get).loops
      if loops > 0 then
        let k := min k loops
        throw (if name = "break" then .breakLoop k else .continueLoop k)
    | "shift" => shiftBuiltin args
    | "set" => setBuiltin args
    | "unset" => unsetBuiltin args
    | "export" => markBuiltin false args
    | "readonly" => markBuiltin true args
    | "local" => if s.bashLike then declareBuiltin true args else localBuiltin args
    | "read" => readBuiltin args
    | "cd" | "chdir" => cdBuiltin args
    | "pwd" => do
      say 1 ((← get).workDir ++ "\n")
      setStatus 0
    | "umask" => umaskBuiltin args
    | "kill" => killBuiltin args
    | "trap" => trapBuiltin args
    | "wait" => waitBuiltin args
    | "type" => if s.bashLike then bashType args else describeBuiltin true args
    | "times" => do
      say 1 "0m0.000000s 0m0.000000s\n0m0.000000s 0m0.000000s\n"
      setStatus 0
    | "declare" | "typeset" => declareBuiltin false args
    | "shopt" => shoptBuiltin args
    | "mapfile" | "readarray" => mapfileBuiltin args
    | "let" => do
      let mut last : Int := 0
      for a in args do
        match ← bashArithValue a with
        | .ok v => last := v
        | .error err => do
          complain err.text
          setStatus 1
          return true
      setStatus (if last = 0 then 1 else 0)
    | "getopts" => getopts args
    | "ulimit" => ulimitBuiltin args
    | "alias" => aliasBuiltin args
    | "unalias" => unaliasBuiltin args
    | _ => pure ()
  return true

/-! ## Evaluation -/

set_option maxHeartbeats 400000 in
mutual

def wordPieces : Nat → Word → Sh (List Piece)
  | 0, _ => throw .exhausted
  | _ + 1, [] => pure []
  | n + 1, p :: ps => do
    let a ← partPieces n p
    let b ← wordPieces n ps
    return a ++ b

def partPieces : Nat → Part → Sh (List Piece)
  | 0, _ => throw .exhausted
  | _ + 1, .lit s q => return literalPieces s q
  | n + 1, .param name index form w extra q => paramPieces n name index form w extra q
  | n + 1, .subst src q => do
    let out ← substitute n src
    return resultPieces out q (← freshRegion)
  | n + 1, .arith e q => do
    let v ← arithValue n e
    return resultPieces v q (← freshRegion)
  | n + 1, .procSubst src output => do
    let path := "/dev/fd/" ++ toString (63 - (← get).procFiles.length)
    let bs ← if output then pure [] else (·.1) <$> captured n src
    modify fun s => { s with procFiles := s.procFiles ++ [(path, bs)] }
    return literalPieces path true

def paramPieces : Nat → String → Option Word → ParamForm → Word → Word → Bool → Sh (List Piece)
  | 0, _, _, _, _, _, _ => throw .exhausted
  | n + 1, name, index, form, w, extra, q =>
    expandParam ⟨textOf n, patternOf n, arithInt n, wordResult n⟩ name index form w extra q

/-- The pieces of the word of a parameter expansion: unquoted text in it splits like the value
of the parameter. -/
def wordResult : Nat → Word → Bool → Nat → Sh (List Piece)
  | 0, _, _, _ => throw .exhausted
  | n + 1, w, q, r => do
    let ps ← wordPieces n w
    if q then return .mark :: ps
    return ps.map fun
      | .char c false none => .char c false (some r)
      | p => p

def textOf : Nat → Word → Sh String
  | 0, _ => throw .exhausted
  | n + 1, w => return piecesText (← wordPieces n w)

def patternOf : Nat → Word → Sh (List PatChar)
  | 0, _ => throw .exhausted
  | n + 1, w => return piecesPattern (← wordPieces n w)

/-- The value of an arithmetic expansion; assignments in it set variables. -/
def arithValue : Nat → Word → Sh String
  | 0, _ => throw .exhausted
  | n + 1, e => do
    let text ← textOf n e
    if (← get).bashLike then
      match ← bashArithValue text with
      | .ok v => return toString v
      | .error err => do
        complain err.text
        setStatus 1
        throw (.exit 1)
    let vars := (← get).vars.filterMap fun (k, v) => v.value.map (k, ·)
    match evalArith text vars (← get).bashLike with
    | .ok (v, after) =>
      let changed := after.filter fun (k, x) => vars.lookup k ≠ some x
      for (k, x) in changed.reverse do setVar k x
      return toString v
    | .error (.expression m) => failWith ("arithmetic expression: " ++ m ++ ": \"" ++ text ++ "\"")
    | .error (.illegalNumber x) => failWith ("Illegal number: " ++ x)
    | .error .quotientOverflow => throw (.signal 8)

def arithInt : Nat → Word → Sh Int
  | 0, _ => throw .exhausted
  | n + 1, e => do
    if (← textOf n e).toList.all Char.isWhitespace then return 0
    return ((← arithValue n e).toInt?).getD 0

def captured : Nat → String → Sh (Bytes × Nat)
  | 0, _ => throw .exhausted
  | n + 1, src => do
    let k ← pushCapture
    let line := (← get).line
    let code ← subshell n (do
      setFd 1 (some (.capture k))
      modify fun s => { s with readAgain := true }
      let _ ← runText n src line)
    let cap ← popCapture
    if cap.endless then throw .timeout
    return (cap.bytes.toList, code)

/-- The output of a command substitution, without its trailing line feeds and its null bytes,
which no text of the shell can hold; `bash` warns that it left them out. -/
def substitute : Nat → String → Sh String
  | 0, _ => throw .exhausted
  | n + 1, src => do
    let (bs, code) ← captured n src
    modify fun s => { s with substituted := code }
    if bs.contains 0 ∧ (← get).bashLike then
      let saved := (← get).utility
      modify fun s => { s with utility := none }
      complain "warning: command substitution: ignored null byte in input"
      modify fun s => { s with utility := saved }
    return dropTrailingNewlines (String.ofList (Text.Utf8.decodeLossy (bs.filter (· ≠ 0))))

/-- The fields of words: expanded, split, and their patterns replaced by the names they
match. -/
def expandFields : Nat → List Word → Sh (List String)
  | 0, _ => throw .exhausted
  | _ + 1, [] => pure []
  | n + 1, w :: ws => do
    let s ← get
    let braced := if s.bashLike then braceWords w else [w]
    if braced.length > 1 then return (← expandFields n braced) ++ (← expandFields n ws)
    let ps ← wordPieces n (← tildeWord w)
    let ifs ← ifsChars
    let s ← get
    let fields := (splitFields ifs ps).flatMap fun f =>
      let pat := piecesPattern f
      if ¬ s.opts.noglob ∧ hasMeta s.extglob pat ∧ s.cwdRoot.isEmpty then
        match globField (globStyle s) s.tree s.cwd pat with
        | [] => if s.shopts.contains "nullglob" then [] else [piecesText f]
        | ms => ms
      else [piecesText f]
    if s.bashLike ∧ s.shopts.contains "failglob" ∧ ¬ s.opts.noglob ∧ s.cwdRoot.isEmpty then
      for f in splitFields ifs ps do
        let pat := piecesPattern f
        if hasMeta s.extglob pat ∧ (globField (globStyle s) s.tree s.cwd pat).isEmpty then
          complain ("no match: " ++ piecesText f)
          setStatus 1
          throw .discard
    return fields ++ (← expandFields n ws)

def assignValues : Nat → List Assign → Sh (List (String × String))
  | 0, _ => throw .exhausted
  | _ + 1, [] => pure []
  | n + 1, a :: rest => do
    match a.items, a.index with
    | some ws, _ => do
      if ¬ a.append then clearArray a.name
      let assoc := (((← findVar a.name).map (·.assoc)).getD false)
      let mut next : Nat := ((((← findVar a.name).map Var.elements).getD []).map (·.1 + 1)).foldl max 0
      for w in ws do
        match keyedItem? w with
        | some (kw, vw, add) =>
          let v ← textOf n (← tildeWord vw)
          if assoc then
            let key ← textOf n kw
            let old := (((← findVar a.name).bind fun x => x.entries.lookup key)).getD ""
            setKeyed a.name key (if add then old ++ v else v)
          else
            let i := (← arithInt n kw).toNat
            let old := (((← findVar a.name).bind fun x => x.element i)).getD ""
            setElement a.name i (if add then old ++ v else v)
            next := i + 1
        | none =>
          for v in ← expandFields n [w] do
            if assoc then setKeyed a.name (toString next) v else setElement a.name next v
            next := next + 1
      if ¬ assoc then
        let cur := ((← findVar a.name).getD {})
        putVar a.name { cur with array := true }
      assignValues n rest
    | none, some ix => do
      let v ← textOf n (← tildeWord a.value)
      if (((← findVar a.name).map (·.assoc)).getD false) then
        let key ← textOf n ix
        let old := (((← findVar a.name).bind fun x => x.entries.lookup key)).getD ""
        setKeyed a.name key (if a.append then old ++ v else v)
      else
        let i ← arithInt n ix
        let old := (((← findVar a.name).bind fun x => x.element i.toNat)).getD ""
        setElement a.name i.toNat (if a.append then old ++ v else v)
      assignValues n rest
    | none, none => do
      let v ← textOf n (← tildeWord a.value)
      assignVar a.name v a.append
      return (a.name, ((← varValue a.name).getD "")) :: (← assignValues n rest)

/-- Applies redirections, saving what each descriptor led to; on a failure the message is
written, the status is 2, the descriptors are put back and the answer is none. -/
def applyRedirects : Nat → List Redirect → List (Nat × Option Channel) →
    Sh (Option (List (Nat × Option Channel)))
  | 0, _, _ => throw .exhausted
  | _ + 1, [], saved => pure (some saved)
  | n + 1, r :: rs, saved => do
    let old ← channelOf r.fd
    let saved := (r.fd, old) :: saved
    let oldErr ← channelOf 2
    let both := r.kind = .outErr ∨ r.kind = .appendOutErr ∨ (r.kind = .dupOut ∧ r.fd = 1)
    let saved := if both then (2, oldErr) :: saved else saved
    let (failure, more) ← match r.kind with
      | .here => do
        let text ← textOf n r.target
        let k ← openStream (Text.Utf8.encode text)
        setFd r.fd (some (.source k))
        pure (none, [])
      | .hereString => do
        let text ← textOf n (← tildeWord r.target)
        let k ← openStream (Text.Utf8.encode (text ++ "\n"))
        setFd r.fd (some (.source k))
        pure (none, [])
      | .outErr | .appendOutErr => do
        let target ← textOf n r.target
        let kind := if r.kind = .outErr then RedirKind.output else .append
        match ← openTarget 1 kind target with
        | some msg => pure (some msg, [])
        | none => do
          setFd 2 (← channelOf 1)
          pure (none, [])
      | kind => do
        if (kind = .dupOut ∨ kind = .dupIn) ∧ (← get).bashLike then
          let moving := r.text.length > 1 ∧ r.text.endsWith "-"
          bashCopy r moving (← expandFields n [if moving then dropDash r.target else r.target])
        else
          let target ← textOf n r.target
          pure (← openTarget r.fd kind target, [])
    let saved := more ++ saved
    match failure with
    | none => applyRedirects n rs saved
    | some msg => do
      complain msg
      setStatus (if (← get).bashLike then 1 else 2)
      restoreFds saved
      return none

/-- Runs a step with redirections in place, putting the descriptors back after; false when a
redirection failed and the step did not run. -/
def withRedirects : Nat → List Redirect → Sh Unit → Sh Bool
  | 0, _, _ => throw .exhausted
  | n + 1, rs, act => do
    match ← applyRedirects n rs [] with
    | none => return false
    | some saved => do
      guarded act (restoreFds saved)
      return true

/-- Runs a step in a subshell: what it changes in the shell is undone after, `exit` ends only
the subshell, and its own trap on `EXIT` runs at its end. -/
def subshell : Nat → Sh Unit → Sh Nat
  | 0, _ => throw .exhausted
  | n + 1, act => do
    let saved ← get
    modify fun s => { s with traps := s.traps.filter (·.2 == ""), readLine := 1 }
    let r ← attempt act
    finish n r
    let code ← getStatus
    modify fun s => State.resume saved s
    setStatus code
    return code

/-- Ends a shell or subshell after its commands stopped as `r`: sets its exit code and runs
its trap on `EXIT`, which may change the code by `exit`. -/
def finish : Nat → Option Stop → Sh Unit
  | 0, _ => throw .exhausted
  | n + 1, r => do
    let code ← exitCode r
    setStatus code
    match (← get).traps.lookup "EXIT" with
    | some action =>
      modify fun s => { s with traps := s.traps.filter (·.1 ≠ "EXIT") }
      if action ≠ "" then
        let r ← attempt (do let _ ← runText n action 1)
        match r with
        | some (.exit c) => setStatus c
        | some .fault | some (.ret _) | some (.breakLoop _) | some (.continueLoop _) => pure ()
        | some e => throw e
        | none => setStatus code
    | none => pure ()

/-- Runs a script's text command list by command list, from a line; answers whether any command
ran. -/
def runText : Nat → String → Nat → Sh Bool
  | 0, _, _ => throw .exhausted
  | n + 1, src, line => do
    let bash := (← get).bashLike
    let src := if bash ∧ ¬ src.isEmpty ∧ ¬ src.endsWith "\n" then src ++ "\n" else src
    let s ← get
    set { s with readAgain := false }
    let ran ← guardedValue (runReader n (Reader.ofText src line bash) false ¬ s.readAgain)
      (modify fun t => { t with readLine := s.readLine })
    return ran

/-- Runs the commands left to a reader; with `track`, the line it reaches is the shell's
reader line. -/
def runReader : Nat → Reader → Bool → Bool → Sh Bool
  | 0, _, _, _ => throw .exhausted
  | n + 1, r, ran, track => do
    let r := { r with aliases := (← get).aliases, extglob := (← get).extglob }
    match r.next with
    | .done => pure ran
    | .error e => do
      modify fun s => { s with line := e.line }
      let s ← get
      if s.bashLike then
        let label := match s.textLabel with
          | some l => l ++ ": "
          | none => ""
        say 2 (e.bashMessage r (s.errorName ++ ": " ++ label))
        setStatus 2
        if s.textLabel = some "eval" then return true
        throw .fault
      failWith ("Syntax error: " ++ e.message)
    | .command c after => do
      if (← get).opts.verbose then
        say 2 (String.ofList (r.input.take (r.input.length - after.input.length)))
      for w in after.warnings do say 2 ((← get).arg0 ++ ": " ++ w ++ "\n")
      let after := { after with warnings := [] }
      if track then modify fun s => { s with readLine := after.line }
      match c with
      | some node =>
        if ¬ (← get).opts.noexec then
          match ← attempt (runNode n false node) with
          | some .discard => pure ()
          | some e => throw e
          | none => pure ()
        runReader n after true track
      | none => runReader n after ran track

/-- Runs the trap on `ERR` when it is due, and then the traps of the signals that arrived,
keeping the status. -/
def runPending : Nat → Sh Unit
  | 0 => throw .exhausted
  | n + 1 => do
    if let some exitAfter := (← get).errTrap then
      let status ← getStatus
      let action := ((← get).traps.lookup "ERR").getD ""
      modify fun t => { t with errTrap := none, inErrTrap := true }
      let r ← attempt (do let _ ← runText n action 1)
      modify fun t => { t with inErrTrap := false }
      setStatus status
      if let some e := r then throw e
      if exitAfter then throw (.exit status)
    match (← get).pending with
    | [] => pure ()
    | sig :: rest =>
      modify fun s => { s with pending := rest }
      match (← get).traps.lookup (← shellSignalName sig) with
      | some action =>
        let status ← getStatus
        let _ ← runText n action 1
        setStatus status
      | none => pure ()
      runPending n

/-- After a command that failed and is not a condition: makes the trap on `ERR` of `bash` due
(outside functions unless `-E` is set, and not from inside itself), which `runPending` runs
before the shell ends for `-e`; without the trap, `-e` ends the shell here. -/
def errexit : Nat → Bool → Sh Unit
  | 0, _ => throw .exhausted
  | _ + 1, tested => do
    let s ← get
    if ¬ tested ∧ s.status ≠ 0 then
      let trapDue := s.bashLike ∧ (s.frames.isEmpty ∨ s.opts.errtrace) ∧ ¬ s.inErrTrap ∧
        (s.traps.lookup "ERR").isSome
      if trapDue then modify fun t => { t with errTrap := some t.opts.errexit }
      else if s.opts.errexit then throw (.exit s.status)

/-- Runs a command; `tested` when its status is a condition, where `-e` does not apply. -/
def runNode : Nat → Bool → Node → Sh Unit
  | 0, _, _ => throw .exhausted
  | n + 1, tested, node => do
    if (← get).opts.noexec then return
    match node with
    | .skip => pure ()
    | .simple line assigns words rs => do
      runSimple n tested line assigns words rs
      if (← get).bashLike then
        let st ← getStatus
        setArray "PIPESTATUS" [toString st] false
        setStatus st
      errexit n tested
    | .pipe false [c] => runNode n tested c
    | .pipe negate stages => do
      runPipe n (tested || negate) none [] stages
      if negate then setStatus (if (← getStatus) = 0 then 1 else 0)
      else errexit n tested
    | .both a b => do
      runNode n true a
      if (← getStatus) = 0 then runNode n tested b
    | .either a b => do
      runNode n true a
      if (← getStatus) ≠ 0 then runNode n tested b
    | .seq a b => do
      runNode n tested a
      runNode n tested b
    | .background a => runBackground n a
    | .subshell body rs => do
      let code ← subshell n (do
        let ok ← withRedirects n rs (runNode n tested body)
        if ¬ ok then setStatus 2)
      setStatus code
      errexit n tested
    | .group body rs => do
      if rs.isEmpty then runNode n tested body
      else
        let ok ← withRedirects n rs (runNode n tested body)
        if ¬ ok then
          setStatus 2
          errexit n tested
    | .cond t yes no => do
      runNode n true t
      if (← getStatus) = 0 then runNode n tested yes
      else match no with
        | some e => runNode n tested e
        | none => setStatus 0
    | .loop negate t body => do
      modify fun s => { s with loops := s.loops + 1 }
      guarded (runLoop n tested negate t body 0) (modify fun s => { s with loops := s.loops - 1 })
    | .forIn line var words body => do
      modify fun s => { s with line := line }
      let items ← match words with
        | some ws => expandFields n ws
        | none => pure (← get).params
      setStatus 0
      modify fun s => { s with loops := s.loops + 1 }
      guarded (runFor n tested var items body) (modify fun s => { s with loops := s.loops - 1 })
    | .caseOf line subject items => do
      modify fun s => { s with line := line }
      let subj ← textOf n (← tildeWord subject)
      runCase n tested subj items
    | .define name body => do
      modify fun s => { s with funcs := (name, body) :: s.funcs.filter (·.1 ≠ name) }
      setStatus 0
    | .condTest line e => do
      modify fun s => { s with line := line }
      match ← condValue n e with
      | some b => setStatus (if b then 0 else 1)
      | none => setStatus 2
      errexit n tested
    | .arithTest line e => do
      modify fun s => { s with line := line }
      match ← bashArithValue (← textOf n e) with
      | .ok v => setStatus (if v ≠ 0 then 0 else 1)
      | .error err => do
        complain ("((: " ++ err.text)
        setStatus 1
      errexit n tested
    | .forArith line init test step body => do
      modify fun s => { s with line := line }
      let _ ← arithInt n init
      setStatus 0
      modify fun s => { s with loops := s.loops + 1 }
      guarded (runArithLoop n tested test step body 0) (modify fun s => { s with loops := s.loops - 1 })
    runPending n

/-- The value of a conditional expression of `[[ ... ]]`, none when it cannot be evaluated. -/
def condValue : Nat → CondExpr → Sh (Option Bool)
  | 0, _ => throw .exhausted
  | n + 1, e => do
    match e with
    | .word w => return some ¬ (← textOf n w).isEmpty
    | .not e => return (← condValue n e).map (!·)
    | .both a b =>
      match ← condValue n a with
      | some true => condValue n b
      | r => return r
    | .either a b =>
      match ← condValue n a with
      | some false => condValue n b
      | r => return r
    | .unary op w =>
      let x ← textOf n (← tildeWord w)
      match op with
      | "-z" => return some x.isEmpty
      | "-n" => return some ¬ x.isEmpty
      | "-v" => return some ((← findVar x).any fun v => v.value.isSome)
      | "-o" =>
        return some ((← get).opts.named x)
      | _ =>
        match unaryTest (← treeProbe) op x with
        | .ok b => return some b
        | .error _ => return none
    | .binary op a b =>
      let x ← textOf n (← tildeWord a)
      if op = "==" ∨ op = "=" ∨ op = "!=" then
        let pat ← patternOf n (← tildeWord b)
        let m := patternMatches true pat x (← get).nocasematch
        return some (if op = "!=" then !m else m)
      else if op = "=~" then
        let pat ← patternOf n b
        let text := pat.flatMap fun (c, q) =>
          if q ∧ "\\.[]()*+?\x7b\x7d|^$".toList.contains c then ['\\', c] else [c]
        match parseRegex text { extended := true } with
        | .error _ => return none
        | .ok rx =>
          let cs := x.toList.toArray
          match rx.search cs 0 { fold := (← get).nocasematch } with
          | some (start, hit) =>
            let whole := (cs.extract start hit.pos).toList
            let groups := (List.range rx.groups).map fun k =>
              String.ofList ((hit.group cs (k + 1)).getD [])
            setArray "BASH_REMATCH" (String.ofList whole :: groups) false
            return some true
          | none =>
            setArray "BASH_REMATCH" [] false
            return some false
      else if op = "<" ∨ op = ">" then
        let y ← textOf n (← tildeWord b)
        return some (if op = "<" then decide (x < y) else decide (y < x))
      else if ["-eq", "-ne", "-lt", "-le", "-gt", "-ge"].contains op then
        let operand (w : Word) : Sh (Option Int) := do
          let text ← textOf n w
          if text.toList.all Char.isWhitespace then return some 0
          match ← bashArithValue text with
          | .ok v => return some v
          | .error err =>
            let saved := (← get).utility
            modify fun t => { t with utility := some "[[" }
            complain err.text
            modify fun t => { t with utility := saved }
            return none
        let some i ← operand a | return some false
        let some j ← operand b | return some false
        return some (match op with
          | "-eq" => i == j | "-ne" => i != j | "-lt" => decide (i < j)
          | "-le" => decide (i ≤ j) | "-gt" => decide (i > j) | _ => decide (i ≥ j))
      else
        let y ← textOf n (← tildeWord b)
        match binaryTest (← treeProbe) x op y with
        | .ok b => return some b
        | .error _ => return none

/-- Runs an arithmetic `for` loop from its test: the body and the step while the test is not
zero; the status is the body's last, 0 when it never ran. -/
def runArithLoop : Nat → Bool → Word → Word → Node → Nat → Sh Unit
  | 0, _, _, _, _, _ => throw .exhausted
  | n + 1, tested, test, step, body, last => do
    let go ← if (← textOf n test).toList.all Char.isWhitespace then pure true
      else pure ((← arithInt n test) ≠ 0)
    if ¬ go then setStatus last
    else
      let r ← attempt (runNode n tested body)
      let st ← getStatus
      match r with
      | some (.breakLoop k) => if k > 1 then throw (.breakLoop (k - 1))
      | some (.continueLoop k) =>
        if k > 1 then throw (.continueLoop (k - 1))
        else do
          let _ ← arithInt n step
          runArithLoop n tested test step body st
      | some e => throw e
      | none =>
        let _ ← arithInt n step
        runArithLoop n tested test step body st

/-- Runs a loop's test and body while the test succeeds (or, for `until`, fails); the status
is the body's last, 0 when it never ran. -/
def runLoop : Nat → Bool → Bool → Node → Node → Nat → Sh Unit
  | 0, _, _, _, _, _ => throw .exhausted
  | n + 1, tested, negate, t, body, last => do
    let r ← attempt (runNode n true t)
    match r with
    | some (.breakLoop k) => do
      setStatus last
      if k > 1 then throw (.breakLoop (k - 1))
    | some (.continueLoop k) =>
      if k > 1 then throw (.continueLoop (k - 1)) else runLoop n tested negate t body last
    | some e => throw e
    | none =>
      if ((← getStatus) = 0) == negate then setStatus last
      else
        let r ← attempt (runNode n tested body)
        let st ← getStatus
        match r with
        | some (.breakLoop k) => if k > 1 then throw (.breakLoop (k - 1))
        | some (.continueLoop k) =>
          if k > 1 then throw (.continueLoop (k - 1)) else runLoop n tested negate t body st
        | some e => throw e
        | none => runLoop n tested negate t body st

def runFor : Nat → Bool → String → List String → Node → Sh Unit
  | 0, _, _, _, _ => throw .exhausted
  | _ + 1, _, _, [], _ => pure ()
  | n + 1, tested, var, i :: is, body => do
    assignVar var i false
    let r ← attempt (runNode n tested body)
    match r with
    | some (.breakLoop k) => if k > 1 then throw (.breakLoop (k - 1))
    | some (.continueLoop k) =>
      if k > 1 then throw (.continueLoop (k - 1)) else runFor n tested var is body
    | some e => throw e
    | none => runFor n tested var is body

def runCase : Nat → Bool → String → List (List Word × Node × CaseEnd) → Sh Unit
  | 0, _, _, _ => throw .exhausted
  | _ + 1, _, _, [] => setStatus 0
  | n + 1, tested, subj, (pats, body, ending) :: rest => do
    if ← anyMatches n subj pats then runItems n tested subj body ending rest
    else runCase n tested subj rest

/-- Runs the body of a matching `case` item, then goes on as its ending says: `;&` runs the
next body too, and `;;&` tests the next items. -/
def runItems : Nat → Bool → String → Node → CaseEnd → List (List Word × Node × CaseEnd) → Sh Unit
  | 0, _, _, _, _, _ => throw .exhausted
  | n + 1, tested, subj, body, ending, rest => do
    runNode n tested body
    match ending, rest with
    | .fallThrough, (_, next, after) :: more => runItems n tested subj next after more
    | .retest, _ => do
      let status ← getStatus
      runCase n tested subj rest
      if ¬ (← anyLeft n subj rest) then setStatus status
    | _, _ => pure ()

def anyLeft : Nat → String → List (List Word × Node × CaseEnd) → Sh Bool
  | 0, _, _ => throw .exhausted
  | _ + 1, _, [] => pure false
  | n + 1, subj, (pats, _, _) :: rest => do
    if ← anyMatches n subj pats then return true
    anyLeft n subj rest

def anyMatches : Nat → String → List Word → Sh Bool
  | 0, _, _ => throw .exhausted
  | _ + 1, _, [] => pure false
  | n + 1, subj, p :: ps => do
    if patternMatches (← get).extglob (← patternOf n p) subj (← get).nocasematch then return true
    anyMatches n subj ps

/-- Runs the stages of a pipeline, each in a subshell reading the output of the one before;
the status is the last stage's, or with `pipefail` the last that failed. -/
def runPipe : Nat → Bool → Option Nat → List Nat → List Node → Sh Unit
  | 0, _, _, _, _ => throw .exhausted
  | _ + 1, _, _, _, [] => pure ()
  | n + 1, tested, input, codes, [last] => do
    let code ← subshell n (do
      if let some k := input then setFd 0 (some (.source k))
      runNode n tested last)
    let codes := code :: codes
    let s ← get
    if s.bashLike then setArray "PIPESTATUS" (codes.reverse.map toString) false
    setStatus (if s.opts.pipefail then (codes.find? (· ≠ 0)).getD 0 else code)
  | n + 1, tested, input, codes, stage :: rest => do
    let k ← pushCapture
    let code ← subshell n (do
      if let some i := input then setFd 0 (some (.source i))
      setFd 1 (some (.capture k))
      runNode n tested stage)
    let cap ← popCapture
    let sid ← openStream cap.bytes.toList cap.endless
    runPipe n tested (some sid) (code :: codes) rest

/-- Runs a command in the background: in a subshell reading nothing, its time apart from the
shell's, as a job whose status `wait` gives. -/
def runBackground : Nat → Node → Sh Unit
  | 0, _ => throw .exhausted
  | n + 1, a => do
    let start := (← get).elapsed
    let s ← get
    let pid := s.nextPid
    set { s with nextPid := s.nextPid + 1 }
    let r ← attempt (do
      let code ← subshell n (do
        let k ← openStream []
        setFd 0 (some (.source k))
        runNode n false a)
      setStatus code)
    let code ← match r with
      | some .timeout => pure 124
      | some (.signal k) => pure (128 + k)
      | some e => throw e
      | none => getStatus
    let ends := (← get).elapsed
    modify fun s => { s with elapsed := start, jobs := s.jobs ++ [⟨pid, code, ends⟩], lastJob := some pid }
    setStatus 0

def runSimple : Nat → Bool → Nat → List Assign → List Word → List Redirect → Sh Unit
  | 0, _, _, _, _, _ => throw .exhausted
  | n + 1, tested, line, allAssigns, words, rs => do
    modify fun s => { s with line := line, substituted := 0, procFiles := [] }
    let (declared, assigns) := allAssigns.partition (·.declared)
    let fields ← expandFields n words
    let olds ← (assigns.filter fun a => a.items.isNone ∧ a.index.isNone).mapM fun a => do
      return (a.name, ← findVar a.name)
    let values ← assignValues n assigns
    for (k, old) in olds.reverse do
      match old with
      | some v => putVar k v
      | none => modify fun s => { s with vars := s.vars.filter (·.1 ≠ k) }
    if (← get).opts.xtrace then
      let ps4 := (← varValue "PS4").getD "+ "
      say 2 (ps4 ++ " ".intercalate (values.map (fun (k, v) => k ++ "=" ++ v) ++ fields) ++ "\n")
    match fields with
    | [] => do
      let ok ← withRedirects n rs (pure ())
      for (k, v) in values do setVar k v
      let sub := (← get).substituted
      setStatus (if ok then sub else 2)
    | name :: args => do
      runCommand n tested name args values rs
      if ¬ declared.isEmpty then
        let st ← getStatus
        let _ ← assignValues n declared
        setStatus st

def runCommand : Nat → Bool → String → List String → List (String × String) → List Redirect →
    Sh Unit
  | 0, _, _, _, _, _ => throw .exhausted
  | n + 1, tested, name, args, values, rs => do
    let kind ← commandKind name
    match kind with
    | .special =>
      if name = "exec" ∧ args.isEmpty then
        match ← applyRedirects n rs [] with
        | none => throw .fault
        | some _ =>
          for (k, v) in values do setVar k v
          setStatus 0
      else
        match ← applyRedirects n rs [] with
        | none => throw .fault
        | some saved =>
          for (k, v) in values do setVar k v
          guarded (invoke n tested name args kind true) (restoreFds saved)
    | _ =>
      match ← applyRedirects n rs [] with
      | none => pure ()
      | some saved =>
        let olds ← values.mapM fun (k, _) => do return (k, ← findVar k)
        let restore : Sh Unit := do
          restoreFds saved
          for (k, old) in olds.reverse do
            match old with
            | some v => putVar k v
            | none => modify fun s => { s with vars := s.vars.filter (·.1 ≠ k) }
        guarded (do
          for (k, v) in values do
            setVar k v
            let cur := ((← findVar k).getD {})
            putVar k { cur with exported := true }
          invoke n tested name args kind false) restore

/-- Runs a command of a known kind; the errors of a special command of the shell end the shell
when `fatal`. -/
def invoke : Nat → Bool → String → List String → CommandKind → Bool → Sh Unit
  | 0, _, _, _, _, _ => throw .exhausted
  | n + 1, tested, name, args, kind, fatal => do
    match kind with
    | .special | .builtin => do
      let saved := (← get).utility
      if name ≠ "command" then modify fun s => { s with utility := some name }
      modify fun s => { s with outError := none }
      let r ← attempt (runBuiltin n tested name args)
      if let some why := (← get).outError then
        complain (if (← get).bashLike then "write error: " ++ why else name ++ ": I/O error")
        modify fun s => { s with status := s.status ||| 1, outError := none }
      modify fun s => { s with utility := saved }
      match r with
      | some .fault => if fatal ∧ kind matches .special then throw .fault
      | some e => throw e
      | none => pure ()
    | .function body => callFunction n tested name body args
    | .program _ =>
      match ← attempt (runProgram n name args) with
      | some (.signal k) =>
        let s ← get
        if k ≠ 2 ∧ k ≠ 13 then
          if ¬ s.bashLike ∨ k = 15 then say 2 (signalText k ++ "\n")
          else
            let pid := toString s.nextPid
            let text := signalText k
            complain (String.ofList (List.replicate (5 - pid.length) ' ') ++ pid ++ " " ++ text ++
              String.ofList (List.replicate (24 - text.length) ' ') ++ " ".intercalate (name :: args))
        setStatus (128 + k)
      | some e => throw e
      | none => pure ()
    | _ => notFound n name

/-- Reports a command that cannot be run: one not found (127), or a file of the tree that
cannot be run (126). -/
def notFound : Nat → String → Sh Unit
  | 0, _ => throw .exhausted
  | _ + 1, name => do
    let s ← get
    if name.contains '/' then
      let p ← pathOf name
      match s.tree.stat p with
      | .ok _ =>
        complain (name ++ ": Permission denied")
        setStatus 126
        return
      | .error _ => pure ()
    let noPath := ((← varValue "PATH").getD "").isEmpty
    if s.bashLike then
      say 2 (s.errorName ++ ": line " ++ toString s.line ++ ": " ++ name ++
        (if noPath then ": No such file or directory\n" else ": command not found\n"))
    else complain (name ++ ": not found")
    setStatus 127

/-- Runs a function: its body with the arguments as positional parameters, its local variables
put back after; `return` ends it. -/
def callFunction : Nat → Bool → String → Node → List String → Sh Unit
  | 0, _, _, _, _ => throw .exhausted
  | n + 1, tested, name, body, args => do
    let before ← get
    let saved := before.params
    let callers ← findVar "FUNCNAME"
    if (← get).bashLike then
      setArray "FUNCNAME" (name :: ((callers.map Var.elements).getD []).map (·.2)) false
    modify fun s => { s with params := args, frames := [] :: s.frames, optIndex := 1, optOff := none }
    let r ← attempt (runNode n tested body)
    let frame := ((← get).frames.head?).getD []
    modify fun s => { s with params := saved, frames := s.frames.drop 1,
                             optIndex := before.optIndex, optOff := before.optOff }
    if (← get).bashLike then
      match callers with
      | some v => putVar "FUNCNAME" v
      | none => modify fun s => { s with vars := s.vars.filter (·.1 ≠ "FUNCNAME") }
    for (k, old) in frame do
      match old with
      | some v => putVar k v
      | none => modify fun s => { s with vars := s.vars.filter (·.1 ≠ k) }
    match r with
    | some (.ret c) => setStatus c
    | some e => throw e
    | none => pure ()

def runProgram : Nat → String → List String → Sh Unit
  | 0, _, _ => throw .exhausted
  | n + 1, path, args => do
    let name := (Path.ofString path).name
    let env ← environment
    let saved := (← get).utility
    let savedInvoked := (← get).invoked
    modify fun s => { s with utility := some name, outError := none,
                             invoked := if path.contains '/' then some path else none }
    let r ← attempt (do
      if let some req := infoRequest? name args then
        match req with
        | .help => say 1 ((helpText? name path).getD "")
        | .version => say 1 ((versionText? name).getD "")
        setStatus (if name = "false" then 1 else 0)
      else if shellNames.contains name then runShell n name args false
      else if name = "env" then runEnv n args
      else if name = "printf" then printfUtility args
      else if name = "test" then testProgram false args
      else if name = "[" then testProgram true args
      else if name = "kill" then killBuiltin args
      else if name = "which" then whichProgram env args
      else if name = "xargs" then runXargs n args
      else if name = "timeout" then timeoutUtility (fun p more => runProgram n p more) args
      else if name = "find" then findUtility (fun dir argv => findCommand n dir argv) args
      else if name = "awk" ∨ name = "mawk" then
        awkUtility name env ⟨fun cmd input => awkRunCommand n cmd input, fun cmd => awkCaptureCommand n cmd⟩ args
      else match utilities.lookup name with
        | some f => f env args
        | none => notFound n name)
    if let some why := (← get).outError then
      modify fun s => { s with outError := none }
      reportWriteError name why
    modify fun s => { s with utility := saved, invoked := savedInvoked }
    match r with
    | some .fault => pure ()
    | some e => throw e
    | none => pure ()

/-- Runs a command of an awk program through the shell; a shell ended by a signal has the
status 256 and the signal's number. -/
def awkShell : Nat → String → Sh Unit
  | 0, _ => throw .exhausted
  | n + 1, cmd => do
    match ← attempt (runShell n "sh" ["-c", cmd] false) with
    | some (.signal k) => setStatus (256 + k)
    | some e => throw e
    | none => pure ()

def awkRunCommand : Nat → String → Bytes → Sh Nat
  | 0, _, _ => throw .exhausted
  | n + 1, cmd, input => do
    let sid ← openStream input
    subshell n (do
      setFd 0 (some (.source sid))
      awkShell n cmd)

def awkCaptureCommand : Nat → String → Sh (Bytes × Nat)
  | 0, _ => throw .exhausted
  | n + 1, cmd => do
    let k ← pushCapture
    let code ← subshell n (do
      setFd 1 (some (.capture k))
      awkShell n cmd)
    let cap ← popCapture
    return (cap.bytes.toList, code)

/-- Runs a command for `find`: its words, from a directory of the tree when one is given;
whether it ended with status 0, or none when its program cannot be found. -/
def findCommand : Nat → Option (List String) → List String → Sh (Option Bool)
  | 0, _, _ => throw .exhausted
  | n + 1, dir, argv => do
    match argv with
    | [] => return some false
    | c :: more =>
      let saved := (← get).cwd
      if let some d := dir then modify fun s => { s with cwd := d }
      match ← programLookup c defaultExecPath with
      | none =>
        let (why, _) ← launchFailure c
        modify fun s => { s with cwd := saved }
        gnuSay "find" (localeQuote c ++ ": " ++ why)
        return none
      | some _ =>
        let r ← attempt (runProgram n c more)
        modify fun s => { s with cwd := saved }
        match r with
        | some (.signal k) =>
          gnuSay "find" (localeQuote c ++ " terminated by signal " ++ toString k)
          return some false
        | some e => throw e
        | none => return some ((← getStatus) == 0)

/-- `env`: runs a command with variables set (`NAME=value` operands, `-i` for none of the
others), or writes the variables. -/
def runEnv : Nat → List String → Sh Unit
  | 0, _ => throw .exhausted
  | n + 1, args => do
    let ignore := args.head? = some "-i" ∨ args.head? = some "-"
    let args := if ignore then args.drop 1 else args
    let sets := args.takeWhile fun a => a.contains '=' ∧ ¬ a.startsWith "="
    let rest := args.drop sets.length
    let pairs := sets.map fun a => match a.splitOn "=" with
      | k :: v => (k, "=".intercalate v)
      | [] => (a, "")
    let inherited ← environment
    let base := if ignore then [] else inherited
    let env := pairs.foldl (fun acc (k, v) =>
      if acc.any (·.1 == k) then acc.map fun (a, w) => (a, if a = k then v else w) else acc ++ [(k, v)]) base
    match rest with
    | [] =>
      for (k, v) in env do say 1 (k ++ "=" ++ v ++ "\n")
      setStatus 0
    | cmd :: more =>
      let saved ← get
      modify fun s => { s with vars := env.map (fun (k, v) => (k, { value := some v, exported := true })),
                               tableOrder := false }
      let found ← programLookup cmd defaultExecPath
      let r ← attempt (match found with
        | some _ => runProgram n cmd more
        | none => do
          let (why, code) ← launchFailure cmd
          say 2 ("env: " ++ localeQuote cmd ++ ": " ++ why ++ "\n")
          setStatus code)
      modify fun s => { s with vars := saved.vars, tableOrder := saved.tableOrder }
      match r with
      | some e => throw e
      | none => pure ()

/-- `xargs`: runs its command for each group of items of its input, as `xargsPlan` lays them
out, each run reading nothing unless the items come from a file; the status is 123 when a run
failed, and a run that ends with 255 or by a signal, a command that cannot be found, or a
complaint of the plan, stops it. -/
def runXargs : Nat → List String → Sh Unit
  | 0, _ => throw .exhausted
  | n + 1, args => do
    let env ← environment
    let taken := env.foldl (fun acc (k, v) =>
      acc + (Text.Utf8.encode k).length + (Text.Utf8.encode v).length + 2) 0
    let widest := 2097152 - 2048 - taken
    let (notes, setup) := readXargsOptions widest args
    say 2 notes
    match setup with
    | none => setStatus 1
    | some (o, command) =>
      if o.limits then say 2 (xargsLimits taken widest o.size)
      let fromFile := o.file.any (· ≠ "-")
      let input ← match o.file with
        | some f => do
          match ← readOperand f with
          | .ok bs => pure (some bs)
          | .error .isDir => pure (some [])
          | .error e => do
            say 2 ("xargs: Cannot open input file " ++ localeQuote f ++ ": " ++ readError e ++ "\n")
            pure none
        | none => some <$> readRest 0
      match input with
      | none => setStatus 1
      | some input =>
        let mut failed := false
        let mut stop : Option Nat := none
        for step in xargsPlan o command input do
          if stop.isSome then break
          match step with
          | .fail msg =>
            say 2 ("xargs: " ++ msg ++ "\n")
            stop := some 1
          | .run [] => pure ()
          | .run (c :: more) =>
            let cmd := String.ofList (Text.Utf8.decodeLossy c)
            let more := more.map fun a => String.ofList (Text.Utf8.decodeLossy a)
            if o.ask then
              say 2 (tracedCommand (cmd :: more) ++
                "xargs: failed to open /dev/tty for reading: No such device or address\n")
              stop := some 1
            else
              if o.trace then say 2 (tracedCommand (cmd :: more) ++ "\n")
              match ← programLookup cmd defaultExecPath with
              | none =>
                let (why, code) ← launchFailure cmd
                say 2 ("xargs: " ++ cmd ++ ": " ++ why ++ "\n")
                stop := some code
              | some _ =>
                let before ← get
                unless fromFile do
                  let k ← openStream []
                  setFd 0 (some (.source k))
                let r ← attempt (runProgram n cmd more)
                unless fromFile do restoreFds [(0, before.fds.lookup 0)]
                match r with
                | some (.signal sig) =>
                  say 2 ("xargs: " ++ cmd ++ ": terminated by signal " ++ toString sig ++ "\n")
                  stop := some 125
                | some e => throw e
                | none =>
                  let st ← getStatus
                  if st = 255 then
                    say 2 ("xargs: " ++ cmd ++ ": exited with status 255; aborting\n")
                    stop := some 124
                  else if st ≠ 0 then failed := true
        setStatus (stop.getD (if failed then 123 else 0))

def runBuiltin : Nat → Bool → String → List String → Sh Unit
  | 0, _, _, _ => throw .exhausted
  | n + 1, tested, name, args => do
    let s ← get
    if ← plainBuiltin name args then return
    match name with
    | "eval" => do
      let label := (← get).textLabel
      modify fun s => { s with textLabel := some "eval" }
      let r ← attempt (do
        let ran ← runText n (" ".intercalate args) 1
        if ¬ ran then setStatus 0)
      modify fun s => { s with textLabel := label }
      match r with
      | some e => throw e
      | none => pure ()
    | "." | "source" =>
      match args with
      | [] => setStatus 0
      | file :: _ => do
        if ¬ file.contains '/' ∧ ¬ s.bashLike then failWith (file ++ ": not found")
        let p ← pathOf file
        match (← get).tree.readFile p with
        | .error e => failWith ("cannot open " ++ file ++ ": " ++ openMessage e.errno)
        | .ok bs =>
          modify fun s => { s with sourcing := s.sourcing + 1 }
          let r ← attempt (do
            let ran ← runText n (String.ofList (Text.Utf8.decodeLossy bs)) 1
            if ¬ ran then setStatus 0)
          modify fun s => { s with sourcing := s.sourcing - 1 }
          match r with
          | some (.ret c) => setStatus c
          | some e => throw e
          | none => pure ()
    | "exec" =>
      match args with
      | [] => setStatus 0
      | c :: more => do
        match ← programLookup c with
        | some _ => runProgram n c more
        | none => do
          let (why, code) ← launchFailure c
          complain (c ++ ": " ++ (if code = 126 then why else "not found"))
          setStatus code
        modify fun s => { s with traps := [] }
        throw (.exit (← getStatus))
    | "command" => do
      let (letters, rest) ← match leadingLetters "pvV".toList false args with
        | .ok (ls, rest) => pure (ls.map (·.2), rest)
        | .error o =>
          modify fun s => { s with utility := some "command" }
          if s.bashLike then bashBadOption o "command: usage: command [-pVv] command [arg ...]"
          else
            complain ("Illegal option " ++ o)
            setStatus 2
          return
      if letters.contains 'V' then
        if s.bashLike then do
          modify fun s => { s with utility := some "command" }
          let mut found := false
          for nm in rest do
            bashType [nm]
            if (← getStatus) = 0 then found := true
          setStatus (if found then 0 else 1)
        else describeBuiltin true (rest.take 1)
      else if letters.contains 'v' then
        if s.bashLike then do
          let mut found := false
          for nm in rest do
            describeBuiltin false [nm]
            if (← getStatus) = 0 then found := true
          setStatus (if found then 0 else 1)
        else describeBuiltin false (rest.take 1)
      else match rest with
        | [] => setStatus 0
        | c :: more => do
          let kind ← commandKind c true
          invoke n tested c more kind false
    | _ => setStatus 0

/-- Runs the shell as a program: reads its options (`-c` for a command text, `-e`, `-x`, `-u`,
`-n` and the others), then runs the text, the named script file, or the standard input, as a new
shell that inherits the exported variables and the descriptors. -/
def runShell : Nat → String → List String → Bool → Sh Unit
  | 0, _, _, _ => throw .exhausted
  | n + 1, program, args, top => do
    match readShellArgs program (program = "bash") (args.length + 1) args {} with
    | .error msg => do
      say 2 (program ++ ": " ++ msg)
      setStatus 2
    | .ok { opts, command, jobControl, operands := rest } =>
      if jobControl ∧ program ≠ "bash" then
        say 2 (program ++ ": 0: can't access tty; job control turned off\n")
      let opts := if command ∨ ¬ rest.isEmpty then opts else { opts with stdin := true }
      let source : Except String (String × String × List String) ← if command then
          match rest with
          | src :: more => pure (.ok (src, more.headD program, more.drop 1))
          | [] => pure (.error "-c requires an argument")
        else if opts.stdin then do
          let bs ← readRest 0
          pure (.ok (String.ofList (Text.Utf8.decodeLossy bs), program, rest))
        else match rest with
          | file :: more => do
            let p ← pathOf file
            match (← get).tree.readFile p with
            | .ok bs => pure (.ok (String.ofList (Text.Utf8.decodeLossy bs), file, more))
            | .error _ => pure (.error ("cannot open " ++ file ++ ": No such file"))
          | [] => do
            let bs ← readRest 0
            pure (.ok (String.ofList (Text.Utf8.decodeLossy bs), program, []))
      match source with
      | .error msg => do
        say 2 (program ++ ": 0: " ++ msg ++ "\n")
        setStatus 2
      | .ok (script, arg0, params) =>
        let env ← environment
        let saved ← get
        let pid := saved.nextPid
        set { saved with
          vars := (startVars env saved.limits.pid).1, births := (startVars env saved.limits.pid).2
          funcs := [], params := params, arg0 := arg0, opts := opts, traps := [], loops := 0,
          frames := [], utility := none, pending := [], jobs := [], lastJob := none,
          bashLike := program = "bash", textLabel := if command then some "-c" else none,
          functionSource := if command then some "environment" else none, line := 1, nextPid := pid + 1, tableOrder := true, aliases := [],
          limits := { saved.limits with pid := pid } }
        exportValue "PWD" (← get).workDir
        if program = "bash" then
          for (k, v) in bashVersionVars do setVar k v
          let level := ((env.lookup "SHLVL").bind String.toNat?).getD 0
          setVar "SHLVL" (toString (level + 1))
          putVar "SHLVL" { ((← findVar "SHLVL").getD {}) with exported := true }
          setArray "BASH_VERSINFO" ["5", "2", "15", "1", "release", "x86_64-pc-linux-gnu"] false
        let r ← attempt (do let _ ← runText n script 1)
        let r ← attempt (finish n r)
        let code ← match r with
          | some (.signal k) =>
            unless top do modify fun s => State.resume saved s
            throw (.signal k)
          | some e => throw e
          | none => getStatus
        modify fun s => State.resume saved s
        setStatus (code % 256)

end

end SqlMigration.Shell
