import SqlMigration.Shell.SedRun
import SqlMigration.Shell.Manual

/-!
# sed

`sed` runs a script on each line of its input (its files one after another, or the standard
input).
-/

namespace SqlMigration.Shell

def sedSpec : OptSpec :=
  { flags := "bsnrzuE".toList, valued := "eflV".toList, optional := ['i'],
    longs := [("binary", 'b'), ("regexp-extended", 'r'), ("debug", longOnly 0), ("in-place", 'i'),
      ("expression", 'e'), ("file", 'f'), ("line-length", 'l'), ("null-data", 'z'),
      ("zero-terminated", 'z'), ("quiet", 'n'), ("posix", longOnly 1), ("silent", 'n'),
      ("sandbox", longOnly 2), ("separate", 's'), ("unbuffered", 'u'), ("version", versionOption),
      ("help", helpOption), ("follow-symlinks", longOnly 3)] }

def sedUsage : String :=
  String.join [
    "Usage: sed [OPTION]... \x7bscript-only-if-no-other-script\x7d [input-file]...\n\n",
    "  -n, --quiet, --silent\n",
    "                 suppress automatic printing of pattern space\n",
    "      --debug\n",
    "                 annotate program execution\n",
    "  -e script, --expression=script\n",
    "                 add the script to the commands to be executed\n",
    "  -f script-file, --file=script-file\n",
    "                 add the contents of script-file to the commands to be executed\n",
    "  --follow-symlinks\n",
    "                 follow symlinks when processing in place\n",
    "  -i[SUFFIX], --in-place[=SUFFIX]\n",
    "                 edit files in place (makes backup if SUFFIX supplied)\n",
    "  -l N, --line-length=N\n",
    "                 specify the desired line-wrap length for the \x60l' command\n",
    "  --posix\n",
    "                 disable all GNU extensions.\n",
    "  -E, -r, --regexp-extended\n",
    "                 use extended regular expressions in the script\n",
    "                 (for portability use POSIX -E).\n",
    "  -s, --separate\n",
    "                 consider files as separate rather than as a single,\n",
    "                 continuous long stream.\n",
    "      --sandbox\n",
    "                 operate in sandbox mode (disable e/r/w commands).\n",
    "  -u, --unbuffered\n",
    "                 load minimal amounts of data from the input files and flush\n",
    "                 the output buffers more often\n",
    "  -z, --null-data\n",
    "                 separate lines by NUL characters\n",
    "      --help     display this help and exit\n",
    "      --version  output version information and exit\n\n",
    "If no -e, --expression, -f, or --file option is given, then the first\n",
    "non-option argument is taken as the sed script to interpret.  All\n",
    "remaining arguments are names of input files; if no input files are\n",
    "specified, then the standard input is read.\n\n",
    "GNU sed home page: <https://www.gnu.org/software/sed/>.\n",
    "General help using GNU software: <https://www.gnu.org/gethelp/>.\n"]

/-- The number at the front of a text as the C library's `atoi` reads it, negative ones and
text without digits counting 0. -/
def leadingNumber (s : String) : Nat :=
  let cs := s.toList.dropWhile fun c => c = ' ' ∨ c = '\t' ∨ c = '\n'
  let cs := match cs with
    | '+' :: r => r
    | r => r
  (String.ofList (cs.takeWhile Char.isDigit)).toNat!

/-- A part of a script: an `-e` text (with its number) or a `-f` file (with its name). -/
inductive ScriptPart where
  | expression (k : Nat) (text : String)
  | file (name : String) (text : String)

def ScriptPart.text : ScriptPart → String
  | .expression _ t | .file _ t => t

/-- Where in its part of the script a byte of the whole script lies, as messages name it: the
expression and the byte, or the file and the line. -/
def scriptPlace (parts : List ScriptPart) (pos : Nat) : String :=
  go parts pos
where
  go : List ScriptPart → Nat → String
    | [], _ => "-e expression #1, char " ++ toString pos
    | [p], off => here p off
    | p :: more, off =>
      let len := (Text.Utf8.encode p.text).length + 1
      if off > len then go more (off - len) else here p off
  here (p : ScriptPart) (off : Nat) : String :=
    match p with
    | .expression k _ => "-e expression #" ++ toString k ++ ", char " ++ toString off
    | .file name t =>
      let before := (Text.Utf8.encode t).take off
      "file " ++ name ++ " line " ++ toString (before.count 10 + 1)

/-- The part of the script a byte of the whole script lies in, as messages name a block left
open there: the expression at its byte 0, or the file and the line. -/
def scriptPart (parts : List ScriptPart) (pos : Nat) : String :=
  let place := scriptPlace parts pos
  match place.splitOn ", char " with
  | [expr, _] => expr ++ ", char 0"
  | _ => place

/-- The name of a backup of an edited file: the suffix after the name, or with a `*` in it the
suffix with each `*` standing for the file's own name, in the file's directory. -/
def backupName (file suffix : String) : String :=
  if suffix.contains '*' then
    let pieces := file.splitOn "/"
    let named := String.intercalate (pieces.getLast?.getD file) (suffix.splitOn "*")
    if suffix.contains '/' ∨ pieces.length ≤ 1 then named
    else "/".intercalate pieces.dropLast ++ "/" ++ named
  else file ++ suffix

/-- `sed`: runs a script over its input. -/
def sedUtility (args : List String) : Sh Unit := do
  match parseOpts sedSpec args with
  | .error e =>
    say 2 ("sed: " ++ e ++ "\n" ++ sedUsage)
    setStatus 1
  | .ok p =>
    match p.opts.find? fun (c, _) => c = helpOption ∨ c = versionOption with
    | some (c, _) =>
      say 1 (if c = helpOption then sedUsage ++ "E-mail bug reports to: <bug-sed@gnu.org>.\n" else (versionText? "sed").getD "")
      setStatus 0
    | none =>
    let mut parts : List ScriptPart := []
    let mut count := 0
    for (c, v) in p.opts do
      if c = 'e' then
        count := count + 1
        parts := parts ++ [.expression count v]
      else if c = 'f' then
        match ← readOperand v with
        | .ok bs => parts := parts ++ [.file v (String.ofList (Text.Unicode.decode bs))]
        | .error e =>
          say 2 ("sed: couldn't open file " ++ v ++ ": " ++ readError e ++ "\n")
          setStatus 4
          return
    let mut files := p.operands
    if parts.isEmpty then
      match p.operands with
      | s :: rest =>
        parts := [.expression 1 s]
        count := 1
        files := rest
      | [] =>
        say 2 sedUsage
        setStatus 1
        return
    let script := Text.Unicode.decode (Text.Unicode.encode ("\n".intercalate (parts.map (·.text))).toList)
    let extended := p.has 'E' || p.has 'r'
    let posix := p.has (longOnly 1)
    match parseSed script extended posix (p.has (longOnly 2)) with
    | .error (.at pos msg) =>
      emit 2 (Text.Unicode.encode ("sed: " ++ scriptPlace parts pos ++ ": " ++ msg ++ "\n").toList)
      setStatus 1
    | .error (.unclosed pos msg) =>
      say 2 ("sed: " ++ scriptPart parts pos ++ ": " ++ msg ++ "\n")
      setStatus 1
    | .error (.plain msg status) =>
      say 2 ("sed: " ++ msg ++ "\n")
      setStatus status
    | .ok prog =>
      let inPlace := p.has 'i'
      if inPlace ∧ files.isEmpty then
        say 2 "sed: no input files\n"
        setStatus 4
        return
      for name in prog.outputs.eraseDups do
        if name ≠ "/dev/stdout" ∧ name ≠ "/dev/stderr" then
          match ← writeTreeFile name [] with
          | some e =>
            say 2 ("sed: couldn't open file " ++ name ++ ": " ++ readError e ++ "\n")
            setStatus 4
            return
          | none => pure ()
      let delim : UInt8 := if p.has 'z' then 0 else 10
      let cfg : SedConfig :=
        { quiet := p.has 'n' || prog.quiet, debug := p.has (longOnly 0),
          separate := inPlace || p.has 's', inPlace := inPlace, posix := posix, delim := delim,
          lineWidth := ((p.value? 'l').map leadingNumber).getD 70, lastExpression := max count 1 }
      let mut readable : List (String × Option Bytes) := []
      for ins in prog.instrs do
        match ins.op with
        | .readFile f | .readLine f =>
          if (readable.lookup f).isNone then
            match ← readOperand f with
            | .ok bs => readable := readable ++ [(f, some bs)]
            | .error _ => readable := readable ++ [(f, none)]
        | _ => pure ()
      let mut sources : List SedSource := []
      let mut endless : Option (Bytes × Bytes) := none
      for f in (if files.isEmpty then ["-"] else files) do
        let (chunk, unending) ← peekRest 0
        let read ← if (f = "-" ∨ f = "/dev/stdin") ∧ unending then
            match endlessPrefix chunk 160000 10000, endlessPrefix chunk 320000 20000 with
            | some bs, some longer => do endless := some (bs, longer); pure (.ok bs)
            | _, _ => throw .timeout
          else readOperand f
        match read with
        | .ok bs => sources := sources ++ [⟨f, .ok (sedLines delim bs)⟩]
        | .error .isDir =>
          let msg := if inPlace then "sed: couldn't edit " ++ f ++ ": not a regular file\n"
            else "sed: read error on " ++ f ++ ": Is a directory\n"
          sources := sources ++ [⟨f, .error (.fatal msg)⟩]
        | .error e =>
          sources := sources ++ [⟨f, .error (.missing ("sed: can't read " ++ f ++ ": " ++ readError e ++ "\n"))⟩]
      match runSed prog.instrs cfg sources readable with
      | none => throw .timeout
      | some r =>
        if let some (start, longer) := endless then
          if r.quitCode.isNone then
            let more := sources.map fun src =>
              if src.name = "-" ∨ src.name = "/dev/stdin" then ⟨src.name, .ok (sedLines delim longer)⟩ else src
            let writing := match runSed prog.instrs cfg more readable with
              | some r2 => r2.out.size > r.out.size
              | none => false
            match ← channelOf 1 with
            | some (.capture _) =>
              if !writing || start.isEmpty then throw .timeout
              emit 1 r.out.toList
              emitUnending []
              return
            | _ => throw .timeout
        for (name, bs, _) in r.written do
          if name ≠ "/dev/stdout" ∧ name ≠ "/dev/stderr" then
            let _ ← writeTreeFile name bs
        if inPlace then
          for (f, bs) in r.finished do
            match p.value? 'i' with
            | some suffix =>
              if ¬ suffix.isEmpty then
                match ← readOperand f with
                | .ok old => let _ ← writeTreeFile (backupName f suffix) old
                | .error _ => pure ()
            | none => pure ()
            let _ ← writeTreeFile f bs
          emit 1 r.console.toList
        else emit 1 r.out.toList
        emit 2 r.err
        match r.failure with
        | some (msg, status) =>
          say 2 ("sed: -e expression #" ++ toString cfg.lastExpression ++ ", char 0: " ++ msg ++ "\n")
          setStatus status
        | none =>
          setStatus (if r.halted then 4 else if r.unreadable then 2 else r.quitCode.getD 0)

end SqlMigration.Shell
