import SqlMigration.Host.Run
import SqlMigration.Layout
import SqlMigration.Ddl.Identifier
import SqlMigration.DataFile.Delimiter
import SqlMigration.Text.Digit

/-!
# Loading a data file

A data file is loaded by one run of `bcp ... in` into the table its name stands for: the stem
of the file name, after its last dot, with percent escapes read back. The run names the table as
`[schema].[table]`, gives the field and row terminators in `bcp`'s notation and the batch size,
and keeps null values (`-k`).

The number of rows loaded is read from `bcp`'s output: the first line that starts, after
blanks, with digits, blanks, `row` or `rows`, blanks and `copied`, with the letters in either
case.
-/

namespace SqlMigration.Load

open Command Number

/-- The table a data file loads into. -/
def tableForFile (p : Path) : String :=
  Text.Percent.unescape ((p.stem.splitOn ".").getLastD "")

/-- Whether a character is the given lower-case ASCII letter in a case-insensitive match. The
long s matches `s` and the dotted and dotless capital and small i match `i`, as their simple
case mappings do. -/
def letterIs (l c : Char) : Bool :=
  c = l ∨ ('A' ≤ c ∧ c ≤ 'Z' ∧ c.toNat + 32 = l.toNat) ∨
    (l = 's' ∧ c.toNat = 0x17F) ∨ (l = 'i' ∧ (c.toNat = 0x130 ∨ c.toNat = 0x131))

/-- The rest of a text after a word matched letter by letter, ignoring case. -/
def afterWord : List Char → List Char → Option (List Char)
  | [], cs => some cs
  | _ :: _, [] => none
  | l :: ls, c :: cs => if letterIs l c then afterWord ls cs else none

/-- The rest after at least one blank. -/
def afterBlanks (cs : List Char) : Option (List Char) :=
  match cs with
  | c :: _ => if Text.isBlank c then some (cs.dropWhile Text.isBlank) else none
  | [] => none

/-- The digits of the row count stated at the start of a text: blanks, digits, blanks, `row`
or `rows`, blanks, `copied`. -/
def rowsCopiedAt (cs : List Char) : Option String := do
  let rest := cs.dropWhile Text.isBlank
  let digits := rest.takeWhile Text.isDecimal
  if digits.isEmpty then none
  let rest ← afterBlanks (rest.drop digits.length)
  let rest ← afterWord "row".toList rest
  let rest := match rest with
    | c :: more => if letterIs 's' c then more else rest
    | [] => rest
  let rest ← afterBlanks rest
  let _ ← afterWord "copied".toList rest
  return String.ofList digits

/-- The row count `bcp` reported, from the first line that states one; a count with more digits
than an integer literal may have is refused. -/
def rowsCopied? (stdout : String) : Except IntTextError (Option Int) :=
  match (suffixesAtLines stdout.toList).findSome? rowsCopiedAt with
  | some d => some <$> readInt d
  | none => .ok none
where
  /-- The text from each line start on. -/
  suffixesAtLines (cs : List Char) : List (List Char) :=
    cs :: ((List.range cs.length).filterMap fun i =>
      if cs[i]? = some '\n' then some (cs.drop (i + 1)) else none)

/-- A loader: the target, the `bcp` program, the delimiter, the batch size and the time limit
per file. -/
structure Loader where
  target : Connection.Target
  program : String := "bcp"
  delimiter : DataFile.Delimiter := .tab
  batchSize : Int := 5000
  timeout : Option Seconds := none

/-- A loader for a batch size of at least one and a supported delimiter; the batch size is
checked first. -/
def Loader.make (target : Connection.Target) (program delimiter : String) (batchSize : Int)
    (timeout : Option Seconds) : Except Fault Loader :=
  if batchSize < 1 then .error .batchSize
  else match DataFile.Delimiter.make delimiter with
    | .ok d => .ok ⟨target, program, d, batchSize, timeout⟩
    | .error _ => .error (.delimiter delimiter)

/-- The arguments of the run loading a file into a table. -/
def Loader.args (x : Loader) (table : String) (p : Path) : List String :=
  let t := x.target
  [Ddl.bracketIdent t.schema ++ "." ++ Ddl.bracketIdent table, "in", p.render, "-S", t.address,
    "-d", t.database] ++ t.authArgs ++
  ["-c", "-t", DataFile.loaderTerminator x.delimiter.text, "-r", DataFile.loaderTerminator "\n",
    "-b", toString x.batchSize, "-k"]

/-- What loading a file did. -/
structure Loaded where
  table : String
  path : Path
  rows : Option Int
  deriving DecidableEq, Repr

/-- Loads one data file into the table its name stands for. -/
def Loader.loadFile (x : Loader) (p : Path) : HostM Loaded := do
  let table := tableForFile p
  let o ← HostM.runChecked ⟨x.program, x.args table p, x.timeout, none⟩
  return ⟨table, p, ← HostM.lift (rowsCopied? o.stdout) (.integer ∘ .badText)⟩

end SqlMigration.Load
