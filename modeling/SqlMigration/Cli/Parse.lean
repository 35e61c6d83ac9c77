import SqlMigration.Cli.Help

/-!
# Reading a command line

A command line is classified and walked at the top level first, which reads its own options
up to the subcommand's name; the subcommand's parser then classifies and walks every argument
after the name. The subcommand is required and must be one of the known names. Arguments that
neither parser took are an error of the top level, reported once both have read theirs.
-/

namespace SqlMigration.Cli

/-- Reads a command line: the invocation it asks for, or how it ends the program. -/
def parse (argv : List String) : Except Stop Invocation := do
  let slots ← (classifyAll (spellings topOptions) argv).mapError (Stop.usage toolName)
  let (left, part) ← walkTop topHelp (argv.zip slots) []
  match part with
  | none | some [] => throw (.usage toolName "the following arguments are required: command")
  | some (name :: rest) =>
    match Command.ofName? name with
    | none => throw (.usage toolName
        ("argument command: " ++ invalidChoice name (Command.all.map Command.name)))
    | some c =>
      let table := spellings c.options
      let slots ← (classifyAll table rest).mapError (Stop.usage c.prog)
      let (s, left') ← walkCommand c.prog c.help table (rest.zip slots) {} []
      match left ++ left' with
      | [] => return ⟨c, s⟩
      | extra => throw (unrecognized extra)

/-- The usage lines a parser called `prog` prints above its usage errors. -/
def usageOf (prog : String) : String :=
  match Command.all.find? (·.prog = prog) with
  | some c => c.usage
  | none => topUsage

end SqlMigration.Cli
