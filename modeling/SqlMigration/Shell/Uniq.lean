import SqlMigration.Shell.Utility

/-!
# uniq

`uniq` writes its input with each run of adjacent equal lines made one.
-/

namespace SqlMigration.Shell

/-- How `uniq` marks runs when it writes every line of them. -/
inductive UniqMarks where
  | none
  | prepend
  | append
  | separate
  | both
  deriving DecidableEq, Repr, Inhabited

/-- What the options of `uniq` ask for. -/
structure UniqSettings where
  count : Bool := false
  unique : Bool := true
  firstRepeated : Bool := true
  laterRepeated : Bool := false
  /-- `-D` with its way of marking runs, when given. -/
  allRepeated : Option UniqMarks := none
  /-- `--group` with its way of marking runs, when given. -/
  group : Option UniqMarks := none
  skipFields : Nat := 0
  skipChars : Nat := 0
  checkChars : Option Nat := none
  ignoreCase : Bool := false
  delimiter : UInt8 := 10

def uniqCount? (s : String) : Option Nat :=
  let cs := s.toList.dropWhile fun c => c = ' ' ∨ c = '\t' ∨ c = '\n'
  let cs := match cs with
    | '+' :: r => r
    | r => r
  if cs.isEmpty ∨ ¬ cs.all Char.isDigit then none else some (String.ofList cs).toNat!

def uniqBlank (b : UInt8) : Bool := b = 32 ∨ b = 9

/-- The part of a line that is compared: after the fields and bytes skipped, and at most the
bytes checked. -/
def UniqSettings.key (o : UniqSettings) (line : Bytes) : Bytes :=
  let rest := skipFields o.skipFields line
  let rest := rest.drop o.skipChars
  match o.checkChars with
  | some k => rest.take k
  | none => rest
where
  /-- Skips fields: each a run of blanks and then a run of other bytes. -/
  skipFields : Nat → Bytes → Bytes
    | 0, bs => bs
    | k + 1, bs => skipFields k ((bs.dropWhile uniqBlank).dropWhile fun b => ¬ uniqBlank b)

def UniqSettings.same (o : UniqSettings) (a b : Bytes) : Bool :=
  if o.ignoreCase then
    let up := fun (x : UInt8) => if 97 ≤ x ∧ x ≤ 122 then x - 32 else x
    a.map up == b.map up
  else a == b

def UniqSettings.runs (o : UniqSettings) (lines : List Bytes) : List (List Bytes) :=
  let step := fun (acc : List (Bytes × List Bytes)) (l : Bytes) =>
    match acc with
    | (first, run) :: rest =>
      if o.same (o.key first) (o.key l) then (first, l :: run) :: rest else (l, [l]) :: acc
    | [] => [(l, [l])]
  ((lines.foldl step []).map fun (_, run) => run.reverse).reverse

def UniqSettings.output (o : UniqSettings) (lines : List Bytes) : Bytes :=
  let d := o.delimiter
  let runs := o.runs lines
  match o.group with
  | some marks =>
    let pieces := runs.zipIdx.map fun (run, i) =>
      let before := marks = .prepend ∨ marks = .both ∨ (i > 0 ∧ (marks = .separate ∨ marks = .append))
      (if before then [d] else []) ++ run.flatMap (· ++ [d])
    let after := (marks = .append ∨ marks = .both) ∧ ¬ runs.isEmpty
    pieces.flatten ++ (if after then [d] else [])
  | none =>
    match o.allRepeated with
    | some marks =>
      let repeated := runs.filter (·.length > 1)
      let pieces := repeated.zipIdx.map fun (run, i) =>
        let before := marks = .prepend ∨ (marks = .separate ∧ i > 0)
        (if before then [d] else []) ++ run.flatMap (· ++ [d])
      pieces.flatten
    | none =>
      runs.flatMap fun run =>
        let shown := if run.length = 1 then o.unique else o.firstRepeated
        if ¬ shown then [] else
        let counted := if o.count then
            let s := toString run.length
            (String.ofList (List.replicate (7 - s.length) ' ') ++ s ++ " ").toUTF8.toList
          else []
        counted ++ run.headD [] ++ [d]

def uniqSpec : OptSpec :=
  { flags := "cduiz".toList, valued := "fsw".toList, optional := ['D', longOnly 0],
    longs := [("count", 'c'), ("repeated", 'd'), ("all-repeated", 'D'), ("group", longOnly 0),
      ("ignore-case", 'i'), ("unique", 'u'), ("skip-fields", 'f'), ("skip-chars", 's'),
      ("check-chars", 'w'), ("zero-terminated", 'z')] }

def uniqSettings (opts : List (Char × String)) : Sh (Option UniqSettings) := do
  let mut o : UniqSettings := {}
  for (c, v) in opts do
    let number (msg : String) : Sh (Option Nat) := do
      match uniqCount? v with
      | some k => return some k
      | none =>
        gnuSay "uniq" (v ++ ": " ++ msg)
        setStatus 1
        return none
    if c = 'c' then o := { o with count := true }
    else if c = 'd' then o := { o with unique := false }
    else if c = 'u' then o := { o with firstRepeated := false }
    else if c = 'i' then o := { o with ignoreCase := true }
    else if c = 'z' then o := { o with delimiter := 0 }
    else if c = 'f' then
      let some k ← number "invalid number of fields to skip" | return none
      o := { o with skipFields := k }
    else if c = 's' then
      let some k ← number "invalid number of bytes to skip" | return none
      o := { o with skipChars := k }
    else if c = 'w' then
      let some k ← number "invalid number of bytes to compare" | return none
      o := { o with checkChars := some k }
    else if c = 'D' then
      let marks ← if v.isEmpty then pure (some UniqMarks.none) else do
        match ← chooseArgument "uniq" "--all-repeated" v [["none"], ["prepend"], ["separate"]] with
        | some 0 => pure (some UniqMarks.none)
        | some 1 => pure (some UniqMarks.prepend)
        | some _ => pure (some UniqMarks.separate)
        | none => pure none
      let some m := marks | return none
      o := { o with unique := false, laterRepeated := true, allRepeated := some m }
    else if c = longOnly 0 then
      let marks ← if v.isEmpty then pure (some UniqMarks.separate) else do
        match ← chooseArgument "uniq" "--group" v [["prepend"], ["append"], ["separate"], ["both"]] with
        | some 0 => pure (some UniqMarks.prepend)
        | some 1 => pure (some UniqMarks.append)
        | some 2 => pure (some UniqMarks.separate)
        | some _ => pure (some UniqMarks.both)
        | none => pure none
      let some m := marks | return none
      o := { o with group := some m }
  return some o

def uniqObsolete (args : List String) : List String :=
  args.flatMap fun a =>
    match a.toList with
    | '-' :: ds => if ¬ ds.isEmpty ∧ ds.all Char.isDigit then ["-f", String.ofList ds] else [a]
    | _ => [a]

/-- `uniq`: writes its input with each run of equal lines made one, as its options ask. -/
def uniqUtility (args : List String) : Sh Unit :=
  withOpts "uniq" uniqSpec (uniqObsolete args) fun p => do
    let some o ← uniqSettings p.opts | return
    let mut o := o
    let mut files : List String := []
    for a in p.operands do
      match a.toList with
      | '+' :: ds =>
        if let some k := uniqCount? (String.ofList ds) then
          o := { o with skipChars := k }
          continue
      | _ => pure ()
      if files.length = 2 then
        usageError "uniq" ("extra operand " ++ localeQuote a)
        return
      files := files ++ [a]
    if o.group.isSome ∧ (o.count ∨ ¬ o.unique ∨ ¬ o.firstRepeated ∨ o.allRepeated.isSome) then
      usageError "uniq" "--group is mutually exclusive with -c/-d/-D/-u"
      return
    if o.count ∧ o.allRepeated.isSome then
      usageError "uniq" "printing all duplicated lines and repeat counts is meaningless"
      return
    let name := files.headD "-"
    match ← readOperand name with
    | .error e =>
      gnuSay "uniq" (name ++ ": " ++ readError e)
      setStatus 1
    | .ok bs =>
      let lines := splitAtByte o.delimiter bs
      let out := o.output lines
      match files.drop 1 with
      | target :: _ =>
        if target = "-" then emit 1 out
        else
          match ← writeNamed target out with
          | some e =>
            gnuSay "uniq" (target ++ ": " ++ e.text)
            setStatus 1
            return
          | none => pure ()
      | [] => emit 1 out
      setStatus 0

end SqlMigration.Shell
