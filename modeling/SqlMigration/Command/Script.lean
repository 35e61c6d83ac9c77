import SqlMigration.Command.Basic

/-!
# Scripted programs

External programs whose answers are given in advance, one per run: a *response* says which
runs it answers (those whose arguments, joined by spaces, contain its match text, or every run
when it has none), the exit code and output, or a failure to report instead. Each run takes the
first unused response that answers it; without one, it exits with 0 and no output. A response
used once is not used again.

The bulk export writes its file itself: for a run with an argument starting with `\copy `, the
response also gives the bytes of the file named after ` TO '` (doubled quotes standing for one),
or none to write no file.
-/

namespace SqlMigration.Command

/-- A failure a response reports instead of an outcome. -/
structure Raised where
  message : String
  command : Option String := none
  returncode : Option Int := none
  stderr : String := ""
  timedOut : Bool := false
  deriving DecidableEq, Repr

/-- The answer to one run. -/
structure Response where
  matchText : Option String := none
  returncode : Int := 0
  stdout : String := ""
  stderr : String := ""
  command : Option String := none
  /-- The bytes of the export file to write; `none` writes none. -/
  copyBytes : Option (List UInt8) := some []
  raised : Option Raised := none
  deriving DecidableEq, Repr

/-- Whether a response answers a run with these arguments. -/
def Response.answers (r : Response) (args : List String) : Bool :=
  match r.matchText with
  | none => true
  | some m =>
    let joined := (" ".intercalate args).toList
    (List.range (joined.length + 1)).any fun i => m.toList.isPrefixOf (joined.drop i)

/-- The responses still unused, in order. -/
structure Script where
  responses : List Response := []
  deriving DecidableEq, Repr, Inhabited

/-- Takes the first unused response answering a run, or the default answer. -/
def Script.take (s : Script) (args : List String) : Response × Script :=
  match s.responses.findIdx? (·.answers args) with
  | some i => (s.responses.getD i {}, ⟨s.responses.eraseIdx i⟩)
  | none => ({}, s)

/-- The file named in an export command: the text after ` TO '` up to `' WITH (FORMAT`, with
doubled quotes standing for one. -/
def exportTarget (args : List String) : Option String := do
  let cmd ← args.find? fun a => "\\copy ".isPrefixOf a
  let cs := cmd.toList
  let opening := " TO '".toList
  let closing := "' WITH (FORMAT".toList
  let start ← (List.range cs.length).find? fun i => opening.isPrefixOf (cs.drop i)
  let body := cs.drop (start + opening.length)
  let stop ← (List.range body.length).find? fun i => closing.isPrefixOf (body.drop i)
  return String.ofList (unquote (body.take stop))
where
  unquote : List Char → List Char
    | '\'' :: '\'' :: rest => '\'' :: unquote rest
    | c :: rest => c :: unquote rest
    | [] => []

end SqlMigration.Command
