import SqlMigration.Migration.Report
import SqlMigration.Number.Literal
import SqlMigration.Text.Quoted
import SqlMigration.Text.Digit
import SqlMigration.Datum

/-!
# The command line

The tool is called as `pgmigrate COMMAND [OPTIONS]`. The top level knows only `-h`/`--help`
and `--version`; every other option belongs to the subcommand, so it is read after the
subcommand's name. Each subcommand takes the connection, artifact and execution options, and
`export-schema` and `migrate` take `--mode` as well.

Arguments are read in two passes, as the usual library parser of the tool's language reads
them:

* *classifying*: each argument is a positional one, the separator `--` (after which every
  argument is positional), or an option occurrence. A long option may be abbreviated by any
  prefix that names a single option, and may carry its value after `=`; `-hh` is `-h` twice.
  A prefix that names several options is an error at once. An argument that starts with `-` but
  names no option is an unknown option, unless it reads as a negative number or holds a space.
* *walking*: options act in order, a value option taking the next argument when that one is
  positional; the last value given wins. The first positional argument of the top level names
  the subcommand, which takes every argument after it.

Whatever is left over is reported as unrecognized, after the subcommand has read its own
arguments; a usage error names the parser that found it (`pgmigrate` or
`pgmigrate COMMAND`).
-/

namespace SqlMigration.Cli

open Number Migration

/-- The name the tool is called by. -/
def toolName : String := "pgmigrate"

/-- The text `--version` prints. -/
def versionText : String := toolName ++ " 1.0.0\n"

/-- The subcommands: one per phase, and one for the whole migration. -/
inductive Command where
  | exportSchema
  | exportConstraints
  | applySchema
  | loadData
  | migrate
  deriving DecidableEq, Repr

namespace Command

/-- The subcommands, in the order they are declared. -/
def all : List Command := [.exportSchema, .exportConstraints, .applySchema, .loadData, .migrate]

def name : Command → String
  | .exportSchema => "export-schema"
  | .exportConstraints => "export-constraints"
  | .applySchema => "apply-schema"
  | .loadData => "load-data"
  | .migrate => "migrate"

def ofName? (s : String) : Option Command := all.find? (·.name = s)

/-- The phases a subcommand runs. -/
def phases : Command → List Phase
  | .exportSchema => [.exportSchemaAndData]
  | .exportConstraints => [.exportConstraints]
  | .applySchema => [.applySchema]
  | .loadData => [.loadData]
  | .migrate => Phase.all

/-- Whether a subcommand takes `--mode`. -/
def takesMode : Command → Bool
  | .exportSchema | .migrate => true
  | _ => false

end Command

/-- What a command line sets, with the tool's defaults. A password that is not given is
`none`; it is looked up later. -/
structure Settings where
  sourceHost : String := "localhost"
  sourcePort : Int := 5432
  sourceDb : String := "postgres"
  sourceUser : String := "postgres"
  sourcePassword : Option String := none
  targetServer : String := "localhost"
  targetPort : Int := 1433
  targetDb : String := "master"
  targetUser : String := "sa"
  targetPassword : Option String := none
  targetSchema : String := "dbo"
  trusted : Bool := false
  scriptDir : String := "scripts"
  dataDir : String := "data"
  dataExtension : String := "csv"
  delimiter : String := "\t"
  batchSize : Int := 5000
  workers : Int := 1
  timeout : Binary64 := ofDecimal false 3600 0
  logLevel : Option String := none
  mode : Mode := .all

/-- A command line that reads: the subcommand and its settings. -/
structure Invocation where
  command : Command
  settings : Settings

/-- The settings by attribute name, as the parsed command line holds them; `mode` only for
the subcommands that take it. -/
def Invocation.attributes (i : Invocation) : List (String × Datum) :=
  let s := i.settings
  let opt (o : Option String) : Datum := o.elim .null .text
  [("batch_size", .int s.batchSize), ("command", .text i.command.name),
   ("data_dir", .text s.dataDir), ("data_extension", .text s.dataExtension),
   ("delimiter", .text s.delimiter), ("log_level", opt s.logLevel)] ++
  (if i.command.takesMode then [("mode", .text s.mode.name)] else []) ++
  [("script_dir", .text s.scriptDir), ("source_db", .text s.sourceDb),
   ("source_host", .text s.sourceHost), ("source_password", opt s.sourcePassword),
   ("source_port", .int s.sourcePort), ("source_user", .text s.sourceUser),
   ("target_db", .text s.targetDb), ("target_password", opt s.targetPassword),
   ("target_port", .int s.targetPort), ("target_schema", .text s.targetSchema),
   ("target_server", .text s.targetServer), ("target_user", .text s.targetUser),
   ("timeout", .real s.timeout), ("trusted", .bool s.trusted), ("workers", .int s.workers)]

/-! ## Options -/

/-- What an option does. -/
inductive Action where
  /-- Shows the help of its parser and ends the program. -/
  | help
  /-- Shows the version and ends the program. -/
  | version
  /-- Sets a flag; takes no argument. -/
  | flag (set : Settings → Settings)
  /-- Takes one argument, read by `read`: its change of the settings, or why it does not
  read. -/
  | value (read : String → Except String (Settings → Settings))

/-- An option: its spellings, in the order they are declared, what it does, the name its value
is shown by in help (empty for options without a value) and its help text. -/
structure Opt where
  names : List String
  action : Action
  metavar : String := ""
  help : String := ""

/-- The option as usage errors name it: its spellings joined by `/`. -/
def Opt.label (o : Opt) : String := "/".intercalate o.names

/-- A usage error about one option. -/
def Opt.error (o : Opt) (message : String) : String := "argument " ++ o.label ++ ": " ++ message

/-- The error of a choice that is not one of `choices`. -/
def invalidChoice (given : String) (choices : List String) : String :=
  "invalid choice: " ++ Text.quoted given ++ " (choose from " ++
    ", ".intercalate (choices.map Text.quoted) ++ ")"

/-- The name a long option's value is shown by: its name without the dashes, in capitals,
with underscores for the inner dashes. -/
def metavarOf (name : String) : String :=
  String.ofList ((name.toList.dropWhile (· = '-')).map fun c => if c = '-' then '_' else c.toUpper)

/-- An option that keeps its argument as text. -/
def textOption (name : String) (set : String → Settings → Settings) (help : String := "") : Opt :=
  { names := [name], action := .value fun v => .ok (set v), metavar := metavarOf name, help := help }

/-- An option that keeps its argument as optional text. -/
def someTextOption (name : String) (set : Option String → Settings → Settings) : Opt :=
  textOption name fun v => set (some v)

/-- An option whose argument is an integer literal. -/
def intOption (name : String) (set : Int → Settings → Settings) : Opt :=
  { names := [name], metavar := metavarOf name
    action := .value fun v => match readInt v with
      | .ok n => .ok (set n)
      | .error _ => .error ("invalid int value: " ++ Text.quoted v) }

/-- An option whose argument is a decimal number, infinities and not-a-number included. -/
def floatOption (name : String) (set : Binary64 → Settings → Settings) (help : String) : Opt :=
  { names := [name], metavar := metavarOf name, help := help
    action := .value fun v => match readFloat v with
      | some x => .ok (set x)
      | none => .error ("invalid float value: " ++ Text.quoted v) }

/-- The names of the modes, in the order they are declared. -/
def modeNames : List String := [Mode.all, .schema, .data].map Mode.name

/-- `--mode`: one of the mode names. -/
def modeOption : Opt :=
  { names := ["--mode"], metavar := "\x7b" ++ ",".intercalate modeNames ++ "\x7d"
    action := .value fun v => match Mode.ofName? v with
      | some m => .ok fun s => { s with mode := m }
      | none => .error (invalidChoice v modeNames) }

def helpOption : Opt :=
  { names := ["-h", "--help"], action := .help, help := "show this help message and exit" }

def versionOption : Opt :=
  { names := ["--version"], action := .version, help := "show program's version number and exit" }

/-- The options every subcommand takes, by help section, in the order they are declared. -/
def commonGroups : List (String × List Opt) :=
  [("source (PostgreSQL)",
    [textOption "--source-host" fun v s => { s with sourceHost := v },
     intOption "--source-port" fun v s => { s with sourcePort := v },
     textOption "--source-db" fun v s => { s with sourceDb := v },
     textOption "--source-user" fun v s => { s with sourceUser := v },
     someTextOption "--source-password" fun v s => { s with sourcePassword := v }]),
   ("target (SQL Server)",
    [textOption "--target-server" fun v s => { s with targetServer := v },
     intOption "--target-port" fun v s => { s with targetPort := v },
     textOption "--target-db" fun v s => { s with targetDb := v },
     textOption "--target-user" fun v s => { s with targetUser := v },
     someTextOption "--target-password" fun v s => { s with targetPassword := v },
     textOption "--target-schema" fun v s => { s with targetSchema := v },
     { names := ["--trusted"], action := .flag fun s => { s with trusted := true }
       help := "Use integrated authentication (-T)." }]),
   ("artifacts",
    [textOption "--script-dir" fun v s => { s with scriptDir := v },
     textOption "--data-dir" fun v s => { s with dataDir := v },
     textOption "--data-extension" fun v s => { s with dataExtension := v },
     textOption "--delimiter" (fun v s => { s with delimiter := v })
       "Field delimiter; use '\\t' or 'tab' for tab."]),
   ("execution",
    [intOption "--batch-size" fun v s => { s with batchSize := v },
     intOption "--workers" fun v s => { s with workers := v },
     floatOption "--timeout" (fun v s => { s with timeout := v })
       "Seconds allowed per external command.",
     someTextOption "--log-level" fun v s => { s with logLevel := v }])]

/-- The options of a subcommand's own section: help, and `--mode` where it is taken. -/
def Command.ownOptions (c : Command) : List Opt :=
  helpOption :: (if c.takesMode then [modeOption] else [])

/-- The options of a subcommand, in the order they are declared: help, the common ones, and
`--mode` where it is taken. -/
def Command.options (c : Command) : List Opt :=
  helpOption :: (commonGroups.flatMap Prod.snd) ++ (if c.takesMode then [modeOption] else [])

def topOptions : List Opt := [helpOption, versionOption]

/-- Every spelling of a parser's options, in declaration order, with its option. -/
def spellings (opts : List Opt) : List (String × Opt) :=
  opts.flatMap fun o => o.names.map fun n => (n, o)

/-! ## Classifying -/

/-- How the parser sees one argument. -/
inductive Slot where
  /-- `--`: every later argument is positional. -/
  | separator
  /-- A positional argument. -/
  | positional
  /-- An option occurrence: the option with the spelling it matched (none for an unknown
  option), and the value given with it. -/
  | option (found : Option (Opt × String)) (explicit : Option String)

/-- Whether an argument reads as a negative number: `-`, then digits with at most one point
that is followed by a digit; a final line break is allowed. -/
def looksNegative (arg : String) : Bool :=
  let body := match arg.toList.reverse with
    | '\n' :: rest => rest.reverse
    | cs => cs.reverse
  match body with
  | '-' :: rest =>
    let digit (c : Char) : Bool := Text.isDecimal c
    match rest.span digit with
    | (ds, []) => !ds.isEmpty
    | (_, '.' :: fs) => !fs.isEmpty && fs.all digit
    | _ => false
  | _ => false

/-- The options an argument may abbreviate, each with the spelling matched and the value given
with it: for `--x`, the spellings that start with the part before any `=`; for `-x`, the
spelling of its first two characters (the rest being its value) and the spellings that start
with the whole argument. -/
def candidates (table : List (String × Opt)) (arg : String) : List (Opt × String × Option String) :=
  match arg.toList with
  | '-' :: '-' :: _ =>
    let (pre, explicit) := match arg.toList.span (· ≠ '=') with
      | (p, _ :: v) => (String.ofList p, some (String.ofList v))
      | (p, []) => (String.ofList p, none)
    table.filterMap fun (n, o) => if pre.isPrefixOf n then some (o, n, explicit) else none
  | '-' :: c :: rest =>
    let short := String.ofList ['-', c]
    table.filterMap fun (n, o) =>
      if n = short then some (o, n, some (String.ofList rest))
      else if arg.isPrefixOf n then some (o, n, none) else none
  | _ => []

/-- How a parser with the spellings `table` sees one argument; an abbreviation of several
options is an error. -/
def classify (table : List (String × Opt)) (arg : String) : Except String Slot :=
  if arg.toList.head? ≠ some '-' then .ok .positional
  else match table.lookup arg with
  | some o => .ok (.option (some (o, arg)) none)
  | none =>
    if arg.length = 1 then .ok .positional
    else
      let split := match arg.toList.span (· ≠ '=') with
        | (p, _ :: v) => (table.lookup (String.ofList p)).map fun o =>
            Slot.option (some (o, String.ofList p)) (some (String.ofList v))
        | (_, []) => none
      match split with
      | some s => .ok s
      | none =>
        match candidates table arg with
        | [] => .ok (if looksNegative arg || arg.toList.contains ' ' then .positional
                     else .option none none)
        | [(o, n, e)] => .ok (.option (some (o, n)) e)
        | many => .error ("ambiguous option: " ++ arg ++ " could match " ++
            ", ".intercalate (many.map fun (_, n, _) => n))

/-- How a parser sees each argument, in order; the first ambiguous one is an error. -/
def classifyAll (table : List (String × Opt)) : List String → Except String (List Slot)
  | [] => .ok []
  | "--" :: rest => .ok (.separator :: rest.map fun _ => .positional)
  | a :: rest => do
    let s ← classify table a
    return s :: (← classifyAll table rest)

/-! ## Walking -/

/-- How reading a command line can end other than with an invocation. -/
inductive Stop where
  /-- A text for standard output, then success: the help or the version. -/
  | shown (text : String)
  /-- A usage error found by the parser called `prog`. -/
  | usage (prog : String) (message : String)
  deriving DecidableEq, Repr

/-- The actions one option occurrence performs, each with its argument, and how many of the
following arguments it takes. A value option takes the value given with it, or else the next
argument when that one is positional. A flag given a value is an error, except for one-letter
flags, where `-ab` stands for `-a -b`. -/
def occurrence (table : List (String × Opt)) (following : List Slot) :
    Nat → Opt → String → Option String → List (Opt × Option String) →
    Except String (List (Opt × Option String) × Nat)
  | 0, _, _, _, acc => .ok (acc, 0)
  | _ + 1, o, _, none, acc => match o.action with
    | .value _ => match following with
      | .positional :: _ => .ok (acc ++ [(o, none)], 1)
      | _ => .error (o.error "expected one argument")
    | _ => .ok (acc ++ [(o, none)], 0)
  | fuel + 1, o, spelling, some e, acc => match o.action with
    | .value _ => .ok (acc ++ [(o, some e)], 0)
    | _ =>
      let ignored := Except.error (o.error ("ignored explicit argument " ++ Text.quoted e))
      match spelling.toList[1]?, e.toList with
      | some c, d :: rest =>
        if c = '-' then ignored
        else
          let next := String.ofList ['-', d]
          match table.lookup next with
          | some o' =>
            occurrence table following fuel o' next
              (if rest.isEmpty then none else some (String.ofList rest)) (acc ++ [(o, none)])
          | none => ignored
      | _, _ => ignored

/-- Performs the actions of one occurrence in order: help and the version end the reading,
flags and values change the settings. `taken` is the argument a value option takes from the
command line when it was given none of its own. -/
def perform (prog help : String) (taken : Option String) :
    List (Opt × Option String) → Settings → Except Stop Settings
  | [], s => .ok s
  | (o, arg) :: rest, s => match o.action with
    | .help => .error (.shown help)
    | .version => .error (.shown versionText)
    | .flag set => perform prog help taken rest (set s)
    | .value read => match arg <|> taken with
      | some v => match read v with
        | .ok f => perform prog help taken rest (f s)
        | .error m => .error (.usage prog (o.error m))
      | none => perform prog help taken rest s

/-- Reads one option occurrence at the head of `args`: the settings after it and the number of
arguments it takes, itself included. -/
def readOccurrence (prog help : String) (table : List (String × Opt)) (o : Opt) (spelling : String)
    (explicit : Option String) (args : List (String × Slot)) (s : Settings) :
    Except Stop (Settings × Nat) := do
  let following := args.map Prod.snd
  let (acts, n) ← (occurrence table following (following.length + 2) o spelling explicit []).mapError
    (Stop.usage prog)
  let taken := if n = 0 then none else (args.head?).map Prod.fst
  let s ← perform prog help taken acts s
  return (s, n + 1)

/-- Walks the arguments of a subcommand: options act in order, and every other argument is left
over. -/
def walkCommand (prog help : String) (table : List (String × Opt)) :
    List (String × Slot) → Settings → List String → Except Stop (Settings × List String)
  | [], s, left => .ok (s, left)
  | (a, slot) :: rest, s, left => match slot with
    | .option (some (o, spelling)) explicit => do
      let (s', n) ← readOccurrence prog help table o spelling explicit rest s
      walkCommand prog help table (rest.drop (n - 1)) s' left
    | _ => walkCommand prog help table rest s (left ++ [a])
termination_by args => args.length
decreasing_by all_goals simp only [List.length_cons, List.length_drop]; omega

/-- Walks the top level up to the subcommand: its options act, unknown options are left over,
and the first other argument starts the subcommand's part, which is every argument from there
on (none when only a final `--` is left). -/
def walkTop (help : String) : List (String × Slot) → List String →
    Except Stop (List String × Option (List String))
  | [], left => .ok (left, none)
  | [("--", .separator)], left => .ok (left ++ ["--"], none)
  | (a, slot) :: rest, left => match slot with
    | .option (some (o, spelling)) explicit => do
      let (_, n) ← readOccurrence toolName help (spellings topOptions) o spelling explicit rest {}
      walkTop help (rest.drop (n - 1)) left
    | .option none _ => walkTop help rest (left ++ [a])
    | _ => .ok (left, some (a :: rest.map Prod.fst))
termination_by args => args.length
decreasing_by all_goals simp only [List.length_cons, List.length_drop]; omega

/-- The usage error for the arguments left over. -/
def unrecognized (left : List String) : Stop :=
  .usage toolName ("unrecognized arguments: " ++ " ".intercalate left)

end SqlMigration.Cli
