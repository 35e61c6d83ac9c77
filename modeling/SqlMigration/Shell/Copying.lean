import SqlMigration.Shell.Utility

/-!
# cp and mv

`cp` copies files, and with `-r` directories with all below them; `mv` moves (renames) files
and directories.
-/

namespace SqlMigration.Shell

/-- The last component of an operand, trailing slashes dropped, as the name a source gets in
a target directory. -/
def operandBase (s : String) : String :=
  let cs := s.toList.reverse.dropWhile (· = '/')
  if cs.isEmpty then (if s.isEmpty then "" else "/") else String.ofList (cs.takeWhile (· ≠ '/')).reverse

def insideText (dir name : String) : String :=
  if dir.endsWith "/" then dir ++ name else dir ++ "/" ++ name

/-- Where a run puts its sources: into a directory under their own names, or as the one
destination. -/
inductive Target where
  | into (dir : String)
  | exactly (dest : String)

/-- The settings of a copy or move. -/
structure TransferOptions where
  recursive : Bool := false
  noClobber : Bool := false
  verbose : Bool := false
  noTargetDir : Bool := false
  targetDir : Option String := none

def TransferOptions.ofParsed (p : Parsed) : TransferOptions :=
  { recursive := p.has 'r' || p.has 'R' || p.has 'a', noClobber := p.has 'n',
    verbose := p.has 'v', noTargetDir := p.has 'T', targetDir := p.value? 't' }

/-- Finds the target of a run from its operands, or reports why there is none; answers the
sources and the target. -/
def findTarget (prog : String) (o : TransferOptions) (operands : List String) :
    Sh (Option (List String × Target)) := do
  let t := (← get).tree
  let isDir (s : String) : Sh (Except Errno Bool) := do
    match t.stat (← pathOf s) with
    | .ok e => return .ok (e == .dir)
    | .error e => return .error e.errno
  match o.targetDir with
  | some d =>
    if o.noTargetDir then
      gnuSay prog "cannot combine --target-directory (-t) and --no-target-directory (-T)"
      setStatus 1
      return none
    match ← isDir d with
    | .ok true =>
      if operands.isEmpty then
        usageError prog "missing file operand"
        return none
      return some (operands, .into d)
    | .ok false =>
      gnuSay prog ("target directory " ++ gnuQuote d ++ ": Not a directory")
      setStatus 1
      return none
    | .error e =>
      gnuSay prog ("target directory " ++ gnuQuote d ++ ": " ++ e.text)
      setStatus 1
      return none
  | none =>
    match operands with
    | [] =>
      usageError prog "missing file operand"
      return none
    | [a] =>
      usageError prog ("missing destination file operand after " ++ gnuQuote a)
      return none
    | _ =>
      let dest := operands.getLastD ""
      let srcs := operands.dropLast
      if o.noTargetDir then
        if srcs.length > 1 then
          usageError prog ("extra operand " ++ gnuQuote (operands.getD 2 ""))
          return none
        return some (srcs, .exactly dest)
      match ← isDir dest with
      | .ok true => return some (srcs, .into dest)
      | r =>
        if srcs.length > 1 then
          let why := match r with
            | .error e => e.text
            | _ => Errno.notDir.text
          gnuSay prog ("target " ++ gnuQuote dest ++ ": " ++ why)
          setStatus 1
          return none
        return some (srcs, .exactly dest)

def Target.destOf (tg : Target) (src : String) : String :=
  match tg with
  | .into d => insideText d (operandBase src)
  | .exactly d => d

/-- What copying one entry gave: the tree, the lines `-v` writes, and the errors. -/
structure CopyResult where
  tree : FileTree
  said : List String := []
  errors : List String := []

/-- Copies the entry at `src` (named `srcText`) to `dst` (named `dstText`) in a tree; a
directory with all below it. -/
def copyEntry (o : TransferOptions) (top : List String) (topNames : String × String) :
    Nat → CopyResult → List String →
    String → List String → String → CopyResult
  | 0, r, _, _, _, _ => r
  | k + 1, r, src, srcText, dst, dstText =>
    let said := if o.verbose then [gnuQuote srcText ++ " -> " ++ gnuQuote dstText] else []
    match r.tree.find? src, r.tree.find? dst with
    | none, _ => { r with errors := r.errors ++ ["cannot stat " ++ gnuQuote srcText ++ ": No such file or directory"] }
    | some (.file bs), existing =>
      match existing with
      | some .dir =>
        { r with errors := r.errors ++ ["cannot overwrite directory " ++ gnuQuote dstText ++ " with non-directory"] }
      | some (.file _) =>
        if o.noClobber then r
        else { r with tree := r.tree.set dst (.file bs), said := r.said ++ said }
      | none =>
        if r.tree.find? dst.dropLast != some .dir then
          { r with errors := r.errors ++ ["cannot create regular file " ++ gnuQuote dstText ++ ": " ++
            (if (r.tree.find? dst.dropLast).isSome then Errno.notDir.text else Errno.noEntry.text)] }
        else { r with tree := r.tree.set dst (.file bs), said := r.said ++ said }
    | some .dir, existing =>
      let made : Except String CopyResult := match existing with
        | some (.file _) =>
          .error ("cannot overwrite non-directory " ++ gnuQuote dstText ++ " with directory " ++ gnuQuote srcText)
        | some .dir => .ok r
        | none =>
          if r.tree.find? dst.dropLast != some .dir then
            .error ("cannot create directory " ++ gnuQuote dstText ++ ": " ++
              (if (r.tree.find? dst.dropLast).isSome then Errno.notDir.text else Errno.noEntry.text))
          else .ok { r with tree := r.tree.set dst .dir, said := r.said ++ said }
      match made with
      | .error e => { r with errors := r.errors ++ [e] }
      | .ok r =>
        let kids := ((r.tree.children src).map (·.1)).mergeSort fun a b => decide (a ≤ b)
        kids.foldl (fun r kid =>
          if src ++ [kid] == top then
            { r with errors := r.errors ++ ["cannot copy a directory, " ++ gnuQuote topNames.1 ++
              ", into itself, " ++ gnuQuote topNames.2] }
          else copyEntry o top topNames k r (src ++ [kid]) (insideText srcText kid) (dst ++ [kid]) (insideText dstText kid)) r

def placeOf (t : FileTree) (p : Path) : Option (List String) :=
  (t.resolve p).toOption.bind FileTree.Place.loc

/-- `cp`: copies files, and with `-r` directories. -/
def cpUtility (args : List String) : Sh Unit := do
  let spec : OptSpec :=
    { flags := "abdfHilLnPprRsTuvxZ".toList, valued := "tS".toList,
      optional := [longOnly 0, longOnly 1, longOnly 2],
      longs := [("archive", 'a'), ("attributes-only", longOnly 3), ("backup", longOnly 0),
        ("copy-contents", longOnly 4), ("dereference", 'L'), ("force", 'f'),
        ("interactive", 'i'), ("link", 'l'), ("no-clobber", 'n'), ("no-dereference", 'P'),
        ("no-preserve", longOnly 5), ("no-target-directory", 'T'), ("one-file-system", 'x'),
        ("parents", longOnly 6), ("path", longOnly 6), ("preserve", longOnly 1),
        ("recursive", 'R'), ("remove-destination", longOnly 7), ("sparse", longOnly 8),
        ("reflink", longOnly 2), ("strip-trailing-slashes", longOnly 9),
        ("suffix", 'S'), ("symbolic-link", 's'), ("target-directory", 't'),
        ("update", 'u'), ("verbose", 'v'), ("context", 'Z')] }
  match parseOpts spec args with
  | .error e => usageError "cp" e
  | .ok p =>
  let o := TransferOptions.ofParsed p
  let some (srcs, tg) ← findTarget "cp" o p.operands | return
  let mut failed := false
  for src in srcs do
    let dest := tg.destOf src
    let t := (← get).tree
    let spath ← pathOf src
    let dpath ← pathOf dest
    if src = "/dev/null" ∧ ¬ o.recursive then
      match ← writeTreeFile dest [] with
      | none => if o.verbose then say 1 (gnuQuote src ++ " -> " ++ gnuQuote dest ++ "\n")
      | some e =>
        gnuSay "cp" ("cannot create regular file " ++ gnuQuote dest ++ ": " ++ e.text)
        failed := true
      continue
    match t.stat spath with
    | .error e =>
      gnuSay "cp" ("cannot stat " ++ gnuQuote src ++ ": " ++ e.errno.text)
      failed := true
    | .ok entry =>
      if entry == .dir ∧ ¬ o.recursive then
        gnuSay "cp" ("-r not specified; omitting directory " ++ gnuQuote src)
        failed := true
      else
        match placeOf t spath, placeOf t dpath with
        | some sloc, some dloc =>
          if sloc == dloc then
            gnuSay "cp" (gnuQuote src ++ " and " ++ gnuQuote dest ++ " are the same file")
            failed := true
          else
            let r := copyEntry o dloc (src, dest) (t.entries.length + 2) { tree := t } sloc src dloc dest
            modify fun s => { s with tree := r.tree }
            for line in r.said do say 1 (line ++ "\n")
            for e in r.errors do gnuSay "cp" e
            if ¬ r.errors.isEmpty then failed := true
        | _, _ =>
          let why := match t.resolve dpath with
            | .error e => e.text
            | .ok _ => "Permission denied"
          gnuSay "cp" ("cannot create regular file " ++ gnuQuote dest ++ ": " ++ why)
          failed := true
  setStatus (if failed then 1 else 0)

/-- `mv`: moves files and directories. -/
def mvUtility (args : List String) : Sh Unit := do
  let spec : OptSpec :=
    { flags := "bfinTuvZ".toList, valued := "tS".toList, optional := [longOnly 0],
      longs := [("backup", longOnly 0), ("context", 'Z'), ("force", 'f'), ("interactive", 'i'),
        ("no-clobber", 'n'), ("no-target-directory", 'T'), ("strip-trailing-slashes", longOnly 1),
        ("suffix", 'S'), ("target-directory", 't'), ("update", 'u'), ("verbose", 'v')] }
  match parseOpts spec args with
  | .error e => usageError "mv" e
  | .ok p =>
  let o := TransferOptions.ofParsed p
  let some (srcs, tg) ← findTarget "mv" o p.operands | return
  let mut failed := false
  for src in srcs do
    let dest := tg.destOf src
    let t := (← get).tree
    let spath ← pathOf src
    let dpath ← pathOf dest
    match t.stat spath with
    | .error e =>
      gnuSay "mv" ("cannot stat " ++ gnuQuote src ++ ": " ++ e.errno.text)
      failed := true
    | .ok entry =>
      let same := match placeOf t spath, placeOf t dpath with
        | some a, some b => a == b
        | _, _ => false
      if same then
        gnuSay "mv" (gnuQuote src ++ " and " ++ gnuQuote dest ++ " are the same file")
        failed := true
      else if o.noClobber ∧ (t.stat dpath).toOption.isSome then pure ()
      else
        match t.stat dpath, entry with
        | .ok .dir, .file _ =>
          gnuSay "mv" ("cannot overwrite directory " ++ gnuQuote dest ++ " with non-directory")
          failed := true
        | .ok (.file _), .dir =>
          gnuSay "mv" ("cannot overwrite non-directory " ++ gnuQuote dest ++ " with directory " ++ gnuQuote src)
          failed := true
        | _, _ =>
          match t.rename spath dpath with
          | .ok t' =>
            modify fun s => { s with tree := t' }
            if o.verbose then say 1 ("renamed " ++ gnuQuote src ++ " -> " ++ gnuQuote dest ++ "\n")
          | .error e =>
            let msg := match e.errno with
              | .invalid => "cannot move " ++ gnuQuote src ++ " to a subdirectory of itself, " ++ gnuQuote dest
              | .notEmpty => "cannot overwrite " ++ gnuQuote dest ++ ": " ++ e.errno.text
              | err => "cannot move " ++ gnuQuote src ++ " to " ++ gnuQuote dest ++ ": " ++ err.text
            gnuSay "mv" msg
            failed := true
  setStatus (if failed then 1 else 0)

end SqlMigration.Shell
