import SqlMigration.Cli.Arguments

/-!
# Help texts

The help of a parser is its usage, its description, and a section per group of options, each
option with its invocation and help text. Lines are at most 78 characters wide, and help texts
start in column 24:

* the usage is `usage: PROG` followed by each option's short form (`[-h]`, `[--mode
  {all,schema,data}]`) and then the positional arguments; when it does not fit on one line,
  the parts are filled greedily into lines indented to stand under the first part, the options
  first and the positional arguments on lines of their own;
* an entry whose invocation is at most 20 characters wide has its help on the same line;
  a longer one has it on the next line.

The texts follow from the options' spellings, value names and help texts.
-/

namespace SqlMigration.Cli

def helpWidth : Nat := 78

/-- The column where help texts start. -/
def helpColumn : Nat := 24

def spaces (n : Nat) : String := String.ofList (List.replicate n ' ')

/-- Fills parts greedily into lines joined by single spaces: a part goes on the current line
while the line, written `start` characters in, stays within `width` characters, and otherwise
starts the next line, written `base` characters in. A part wider than the room stands on a line
of its own. -/
def fillParts (width base : Nat) : Nat → List String → List String → List String
  | _, [], [] => []
  | _, [], line => [" ".intercalate line.reverse]
  | start, p :: ps, line =>
    let cur := " ".intercalate line.reverse
    if ¬ line.isEmpty ∧ start + cur.length + 1 + p.length > width then
      cur :: fillParts width base base ps [p]
    else fillParts width base start ps (p :: line)

/-- The words of a text filled into lines of at most `width` characters. -/
def wrapText (width : Nat) (text : String) : List String :=
  fillParts width 0 0 ((text.splitOn " ").filter (· ≠ "")) []

/-- An option as the usage shows it: `[-h]`, or `[--name VALUE]`. -/
def Opt.usagePart (o : Opt) : String :=
  "[" ++ o.names.headD "" ++ (if o.metavar.isEmpty then "" else " " ++ o.metavar) ++ "]"

/-- An option as its help entry shows it: every spelling, each with its value name. -/
def Opt.invocation (o : Opt) : String :=
  ", ".intercalate (o.names.map fun n => if o.metavar.isEmpty then n else n ++ " " ++ o.metavar)

/-- The usage lines of a parser called `prog` with its options and positional parts. When
they do not fit on one line, the name and the options fill the first lines and the positional
parts the next ones, every line after the first indented to stand under the first option. -/
def usageText (prog : String) (opts : List Opt) (positional : List String) : String :=
  let opening := "usage: "
  let optParts := opts.map Opt.usagePart
  let whole := " ".intercalate (prog :: optParts ++ positional)
  if opening.length + whole.length ≤ helpWidth then opening ++ whole ++ "\n\n"
  else
    let indent := opening.length + prog.length + 1
    let lines := match fillParts helpWidth indent opening.length (prog :: optParts) [] with
      | [] => []
      | l :: ls => l :: ls.map (spaces indent ++ ·)
    let more := (fillParts helpWidth indent indent positional []).map (spaces indent ++ ·)
    opening ++ "\n".intercalate (lines ++ more) ++ "\n\n"

/-- One help entry, `depth` levels in: the invocation, and the help text in its column. -/
def entryText (depth : Nat) (invocation help : String) : String :=
  let indent := 2 * depth
  let room := helpColumn - indent - 2
  let lines := wrapText (helpWidth - helpColumn) help
  match lines with
  | [] => spaces indent ++ invocation ++ "\n"
  | l :: ls =>
    let head := if invocation.length ≤ room then
        spaces indent ++ invocation ++ spaces (room - invocation.length + 2) ++ l ++ "\n"
      else spaces indent ++ invocation ++ "\n" ++ spaces helpColumn ++ l ++ "\n"
    head ++ String.join (ls.map fun x => spaces helpColumn ++ x ++ "\n")

/-- A section: its heading and its entries; nothing when it has none. -/
def sectionText (heading : String) (entries : List String) : String :=
  if entries.isEmpty then "" else "\n" ++ heading ++ ":\n" ++ String.join entries

/-- The subcommands as the top level shows them: `{a,b,...}`. -/
def commandChoices : String :=
  "\x7b" ++ ",".intercalate (Command.all.map Command.name) ++ "\x7d"

/-- The help text of each subcommand in the top level's list. -/
def Command.summary : Command → String
  | .exportSchema => "Phase 1: write table DDL and/or export table data."
  | .exportConstraints => "Phase 2: write check constraints, keys and sequences."
  | .applySchema => "Phase 3: execute the generated scripts on the target."
  | .loadData => "Phase 4: bulk load the exported data files."
  | .migrate => "Run every phase in order."

/-- What the tool does, as its help says. -/
def description : String := "Translate a PostgreSQL schema to SQL Server and move its data."

def topUsage : String := usageText toolName topOptions [commandChoices, "..."]

def topHelp : String :=
  topUsage ++ String.intercalate "\n" (wrapText helpWidth description) ++ "\n\n" ++
    ((sectionText "positional arguments"
      ((spaces 2 ++ commandChoices ++ "\n") ::
        Command.all.map fun c => entryText 2 c.name c.summary)).toList.drop 1 |> String.ofList) ++
    sectionText "options" (topOptions.map fun o => entryText 1 o.invocation o.help)

/-- The parser name of a subcommand. -/
def Command.prog (c : Command) : String := toolName ++ " " ++ c.name

def Command.usage (c : Command) : String := usageText c.prog c.options []

def Command.help (c : Command) : String :=
  let sections := ("options", c.ownOptions) :: commonGroups
  let body := String.join (sections.map fun (heading, opts) =>
    sectionText heading (opts.map fun o => entryText 1 o.invocation o.help))
  c.usage ++ String.ofList (body.toList.drop 1)

end SqlMigration.Cli
