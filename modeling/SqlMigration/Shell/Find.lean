import SqlMigration.Shell.Utility
import SqlMigration.Shell.Regex
import SqlMigration.Shell.Listing

/-!
# find

`find` walks the tree below each of its starting points (the working directory when none is
given), each directory before what it holds, and evaluates an expression at every entry it
meets.
-/

namespace SqlMigration.Shell

/-- How a number of a test is compared: `+n` more than, `-n` less than, `n` exactly. -/
inductive FindCmp where
  | more | less | exactly
  deriving DecidableEq, Repr

def FindCmp.holds : FindCmp → Nat → Nat → Bool
  | .more, v, n => decide (v > n)
  | .less, v, n => decide (v < n)
  | .exactly, v, n => v == n

/-- How `-perm` compares the permission bits: exactly, all of them set, or any of them. -/
inductive PermKind where
  | exactly | allOf | anyOf
  deriving DecidableEq, Repr

/-- A piece of a `-printf` format. -/
inductive FindFormat where
  /-- Bytes written as they are. -/
  | text (bs : Bytes)
  /-- A directive, with its flags, width and precision. -/
  | field (flags : List Char) (width : Option Nat) (precision : Option Nat) (directive : Char)
  /-- `\c`: nothing more of the format is written. -/
  | stop
  deriving Repr

/-- A `find` expression. -/
inductive FindExpr where
  /-- The last component matches a pattern, with case folded when `fold`. -/
  | name (pat : List PatChar) (fold : Bool)
  /-- The whole path matches a pattern. -/
  | path (pat : List PatChar) (fold : Bool)
  /-- The whole path matches a regular expression. -/
  | regex (rx : Regex) (fold : Bool)
  /-- The entry is of one of the types (`f` a file, `d` a directory, others never). -/
  | kind (types : List Char)
  | empty
  | const (b : Bool)
  /-- The size in units of `unit` bytes, rounded up, compares to `n`. -/
  | size (cmp : FindCmp) (n unit : Nat)
  | links (cmp : FindCmp) (n : Nat)
  /-- The permission bits compare to those given for a file and for a directory. -/
  | perm (kind : PermKind) (file dir : Nat)
  | executable
  /-- The age in minutes compares to `n` (with the minute rounded up). -/
  | minutes (cmp : FindCmp) (n : Nat)
  /-- The age in whole days compares to `n`. -/
  | days (cmp : FindCmp) (n : Nat)
  /-- The number of the owner or group compares to `n`. -/
  | owner (cmp : FindCmp) (n : Nat)
  /-- The entry is the one at a place of the tree. -/
  | sameAs (loc : List String)
  /-- Writes the path, ended by the byte, to the output or to a file. -/
  | print (ending : UInt8) (file : Option String)
  /-- Writes a format for the entry, to the output or to a file. -/
  | printf (fmt : List FindFormat) (file : Option String)
  /-- Runs a command: number `id` among the commands, its words, whether the paths are
  gathered for one run at the end (`{} +`), whether it runs from the entry's directory, and
  whether it asks first. -/
  | exec (id : Nat) (words : List String) (batch inDir ask : Bool)
  | delete
  | quit
  | prune
  | negate (e : FindExpr)
  | both (a b : FindExpr)
  | either (a b : FindExpr)
  /-- Evaluates both, giving the second one's value. -/
  | sequence (a b : FindExpr)
  deriving Inhabited

/-- A piece of the expression as it is first read: an operator or parenthesis, or a test or
action. -/
inductive FindToken where
  | op (text : String)
  | prim (e : FindExpr)
  deriving Inhabited

/-- The kinds of regular expression `-regextype` names. -/
inductive RegexKind where
  | emacs | basic | extended
  deriving DecidableEq, Repr

/-- What holds for the whole walk, gathered while the expression is read. -/
structure FindOptions where
  maxDepth : Option Nat := none
  minDepth : Nat := 0
  depthFirst : Bool := false
  /-- Whether the expression has an action of its own. -/
  acts : Bool := false
  /-- The commands met so far. -/
  commands : Nat := 0
  regexKind : RegexKind := .emacs
  /-- The files that actions write into, emptied before the walk. -/
  outputs : List String := []
  warnings : List String := []

abbrev FindP := StateT FindOptions (Except String)

def findPattern (s : String) : List PatChar :=
  go (s.length + 1) s.toList
where
  /-- The pattern characters of `cs`. -/
  go : Nat → List Char → List PatChar
    | 0, _ => []
    | _ + 1, [] => []
    | k + 1, '\\' :: c :: rest => (c, true) :: go k rest
    | k + 1, c :: rest => (c, false) :: go k rest

def findQuote (s : String) : String := "\x60" ++ s ++ "'"

def findNumber? (s : String) : Option (FindCmp × Nat) :=
  let (cmp, body) : FindCmp × List Char := match s.toList with
    | '+' :: rest => (.more, rest)
    | '-' :: rest => (.less, rest)
    | cs => (.exactly, cs)
  let body := body.dropWhile fun c => c = ' ' ∨ ('\t' ≤ c ∧ c ≤ '\r')
  if ¬ body.isEmpty ∧ body.all Char.isDigit then some (cmp, (String.ofList body).toNat!)
  else none

/-- Reads a `-printf` format: its pieces, and the warnings about escapes and directives it
does not know. -/
def findFormat (s : String) : Except String (List FindFormat × List String) :=
  go (s.length + 1) (Text.Utf8.encode s) [] []
where
  /-- The pieces from `bs` on, after those in `acc` (reversed). -/
  go : Nat → Bytes → List FindFormat → List String → Except String (List FindFormat × List String)
    | 0, _, acc, ws => .ok (acc.reverse, ws)
    | _ + 1, [], acc, ws => .ok (acc.reverse, ws)
    | k + 1, 92 :: rest, acc, ws =>
      match rest with
      | [] => go k [] (.text [92] :: acc) ws
      | c :: more =>
        let simple : Option UInt8 := match c with
          | 97 => some 7 | 98 => some 8 | 102 => some 12 | 110 => some 10 | 114 => some 13
          | 116 => some 9 | 118 => some 11 | 92 => some 92 | _ => none
        if c = 99 then go k more (.stop :: acc) ws
        else match simple with
          | some b => go k more (.text [b] :: acc) ws
          | none =>
            if 48 ≤ c ∧ c ≤ 55 then
              let ds := (c :: more).takeWhile (fun d => 48 ≤ d ∧ d ≤ 55) |>.take 3
              let v := ds.foldl (fun a d => a * 8 + (d.toNat - 48)) 0
              go k (more.drop (ds.length - 1)) (.text [v.toUInt8] :: acc) ws
            else
              go k more (.text [92, c] :: acc)
                (ws ++ ["warning: unrecognized escape " ++
                  findQuote ("\\" ++ String.ofList (Text.Utf8.decodeLossy [c]))])
    | k + 1, 37 :: rest, acc, ws =>
      let flags := rest.takeWhile fun b => "-+ #0".toList.contains (Char.ofNat b.toNat)
      let rest := rest.drop flags.length
      let widthDigits := rest.takeWhile fun b => 48 ≤ b ∧ b ≤ 57
      let rest := rest.drop widthDigits.length
      let (precision, rest) : Option Nat × Bytes := match rest with
        | 46 :: more =>
          let ds := more.takeWhile fun b => 48 ≤ b ∧ b ≤ 57
          (some (ds.foldl (fun a d => a * 10 + (d.toNat - 48)) 0), more.drop ds.length)
        | _ => (none, rest)
      let width := if widthDigits.isEmpty then none
        else some (widthDigits.foldl (fun a d => a * 10 + (d.toNat - 48)) 0)
      let flags := flags.map fun b => Char.ofNat b.toNat
      match rest with
      | [] =>
        if flags.isEmpty ∧ widthDigits.isEmpty ∧ precision.isNone then
          .error "error: % at end of format string"
        else .error "error: the format directive \x60% ' is reserved for future use"
      | c :: more =>
        let d := Char.ofNat c.toNat
        if d = '%' then go k more (.text [37] :: acc) ws
        else if "abcdDfFgGhHiklmMnpPsStuUyYZ".toList.contains d then
          go k more (.field flags width precision d :: acc) ws
        else if "ABCT".toList.contains d then
          go k (more.drop 1) (.field flags width precision d :: acc) ws
        else
          go k more (.text [37, c] :: acc)
            (ws ++ ["warning: unrecognized format directive " ++
              findQuote ("%" ++ String.ofList (Text.Utf8.decodeLossy [c]))])
    | k + 1, b :: rest, acc, ws => go k rest (.text [b] :: acc) ws

/-- Reads an expression for `-regex`: in the syntax `-regextype` chose, with case folded when
`fold`. -/
def findRegex (kind : RegexKind) (text : String) : Except String Regex :=
  let cs := text.toList
  let translated : List Char := match kind with
    | .emacs => emacsToBasic (cs.length + 1) cs
    | _ => cs
  let syn : RxSyntax := match kind with
    | .extended => { extended := true, refuseBare := true, closeOrdinary := true }
    | _ => {}
  match parseRegex translated syn with
  | .ok rx => .ok rx
  | .error e => .error ("failed to compile regular expression '" ++ text ++ "': " ++ e)
where
  /-- An expression of the default syntax written in basic syntax: `+` and `?` repeat, a
  backslash before them or a brace makes them plain, and brackets are copied as they are. -/
  emacsToBasic : Nat → List Char → List Char
    | 0, _ => []
    | _ + 1, [] => []
    | k + 1, '[' :: rest =>
      match bracketLength (rest.length + 1) true rest with
      | some n => '[' :: rest.take n ++ emacsToBasic k (rest.drop n)
      | none => '[' :: emacsToBasic k rest
    | k + 1, '\\' :: c :: rest =>
      if c = '+' ∨ c = '?' ∨ c = '{' ∨ c = '}' then c :: emacsToBasic k rest
      else '\\' :: c :: emacsToBasic k rest
    | k + 1, '+' :: rest => '\\' :: '+' :: emacsToBasic k rest
    | k + 1, '?' :: rest => '\\' :: '?' :: emacsToBasic k rest
    | k + 1, c :: rest => c :: emacsToBasic k rest

def depthOption (name : String) (arg : String) : FindP Nat := do
  let some d := if ¬ arg.isEmpty ∧ arg.toList.all Char.isDigit then arg.toNat? else none
    | throw ("Expected a positive decimal integer argument to " ++ name ++ ", but got " ++ localeQuote arg)
  if d > 2147483647 then throw (arg ++ ": Numerical result out of range")
  return d

def regexTypes : List (String × RegexKind) :=
  [("findutils-default", .emacs), ("ed", .basic), ("emacs", .emacs), ("gnu-awk", .extended),
   ("grep", .basic), ("posix-awk", .extended), ("awk", .extended), ("posix-basic", .basic),
   ("posix-egrep", .extended), ("egrep", .extended), ("posix-extended", .extended),
   ("posix-minimal-basic", .basic), ("sed", .basic)]

/-- Reads the command of `-exec` and its kin from the arguments after it: its words, whether
`{} +` ends it, and the arguments after its end. -/
def execWords (p : String) (more : List String) : FindP (List String × Bool × List String) := do
  let dirLike := p = "-execdir" ∨ p = "-okdir"
  let plusOk := p = "-exec" ∨ p = "-execdir"
  let rec scan : Nat → List String → Bool → List String → Option (List String × Bool × List String)
    | 0, _, _, _ => none
    | _ + 1, [], _, _ => none
    | k + 1, w :: rest, sawBraces, acc =>
      if w = ";" then some (acc.reverse, false, rest)
      else if plusOk ∧ w = "+" ∧ sawBraces then some (acc.reverse, true, rest)
      else scan k rest ((w.splitOn "{}").length > 1) (w :: acc)
  let some (words, batch, rest) := scan (more.length + 1) more false []
    | throw ("missing argument to " ++ findQuote p)
  if words.isEmpty then throw ("missing argument to " ++ findQuote p)
  if dirLike ∧ ((words.headD "").splitOn "{}").length > 1 then
    throw ("You may not use {} within the utility name for -execdir and -okdir, because this " ++
      "is a potential security problem.")
  if batch then
    let braced := words.filter fun w => (w.splitOn "{}").length > 1
    let suffix := if dirLike then "dir" else ""
    if braced.length > 1 then
      throw ("Only one instance of {} is supported with -exec" ++ suffix ++ " ... +")
    if braced.any (· ≠ "{}") then
      throw ("In " ++ localeQuote ("-exec" ++ suffix ++ " ... {} +") ++ " the " ++
        localeQuote "{}" ++ " must appear by itself, but you specified " ++
        localeQuote (braced.headD ""))
  return (words, batch, rest)

def findPrimaryOf (t : FileTree) (cwd : List String) (p : String) (more : List String) :
    FindP (FindExpr × List String) := do
  let needArg : FindP (String × List String) := match more with
    | a :: rest => pure (a, rest)
    | [] => throw ("missing argument to " ++ findQuote p)
  let numberArg : FindP (FindCmp × Nat × List String) := do
    let (a, rest) ← needArg
    match findNumber? a with
    | some (c, n) => pure (c, n, rest)
    | none => throw ("invalid argument " ++ findQuote a ++ " to " ++ findQuote p)
  let act (e : FindExpr) (rest : List String) : FindP (FindExpr × List String) := do
    modify fun o => { o with acts := true }
    return (e, rest)
  let placeOf (a : String) : FindP (List String) := do
    let path : Path := if a.startsWith "/" then Path.ofString a else ⟨"", cwd ++ (Path.ofString a).parts⟩
    match t.stat path with
    | .error e => throw (localeQuote a ++ ": " ++ e.errno.text)
    | .ok _ =>
      match (t.resolve path).toOption.bind FileTree.Place.loc with
      | some loc => pure loc
      | none => throw (localeQuote a ++ ": Permission denied")
  let output (a : String) : FindP Unit :=
    modify fun o => { o with outputs := o.outputs ++ [a] }
  match p with
  | "-name" | "-iname" =>
    let (a, rest) ← needArg
    return (.name (findPattern a) (p = "-iname"), rest)
  | "-path" | "-wholename" | "-ipath" | "-iwholename" =>
    let (a, rest) ← needArg
    return (.path (findPattern a) (p.startsWith "-i"), rest)
  | "-regex" | "-iregex" =>
    let (a, rest) ← needArg
    match findRegex (← get).regexKind a with
    | .ok rx => return (.regex rx (p = "-iregex"), rest)
    | .error m => throw m
  | "-regextype" =>
    let (a, rest) ← needArg
    match regexTypes.lookup a with
    | some k =>
      modify fun o => { o with regexKind := k }
      return (.const true, rest)
    | none =>
      throw ("Unknown regular expression type " ++ localeQuote a ++ "; valid types are " ++
        ", ".intercalate (regexTypes.map fun (n, _) => localeQuote n) ++ ".")
  | "-type" | "-xtype" =>
    let (a, rest) ← needArg
    if a.isEmpty then throw "Arguments to -type should contain at least one letter"
    let letters := a.splitOn ","
    let mut seen : List Char := []
    for l in letters do
      match l.toList with
      | [c] =>
        if ¬ "bcdpflsD".toList.contains c then throw ("Unknown argument to " ++ p ++ ": " ++ l)
        if seen.contains c then
          throw ("Duplicate file type '" ++ String.singleton c ++ "' in the argument list to " ++
            p ++ ".")
        seen := seen ++ [c]
      | [] => throw ("Unknown argument to " ++ p ++ ": " ++ a)
      | c :: _ =>
        if "bcdpflsD".toList.contains c then
          throw ("Must separate multiple arguments to " ++ p ++ " using: ','")
        throw ("Unknown argument to " ++ p ++ ": " ++ l)
    return (.kind seen, rest)
  | "-empty" => return (.empty, more)
  | "-true" => return (.const true, more)
  | "-false" => return (.const false, more)
  | "-size" =>
    let (a, rest) ← needArg
    if a.isEmpty then throw "invalid null argument to -size"
    let last := a.toList.getLastD ' '
    let unit? : Option Nat := match last with
      | 'b' => some 512 | 'c' => some 1 | 'k' => some 1024 | 'M' => some 1048576
      | 'G' => some 1073741824 | 'w' => some 2
      | c => if c.isDigit then some 0 else none
    match unit? with
    | none => throw ("invalid -size type " ++ findQuote (String.singleton last))
    | some unit =>
      let body := if unit = 0 then a else String.ofList a.toList.dropLast
      match findNumber? body with
      | some (c, n) => return (.size c n (if unit = 0 then 512 else unit), rest)
      | none =>
        throw ("Invalid argument " ++ findQuote (body ++ String.singleton last) ++ " to -size")
  | "-links" =>
    let (c, n, rest) ← numberArg
    return (.links c n, rest)
  | "-mtime" | "-atime" | "-ctime" =>
    let (c, n, rest) ← numberArg
    return (.days c n, rest)
  | "-mmin" | "-amin" | "-cmin" =>
    let (c, n, rest) ← numberArg
    return (.minutes c n, rest)
  | "-used" | "-inum" =>
    let (_, _, rest) ← numberArg
    return (.const false, rest)
  | "-uid" | "-gid" =>
    let (c, n, rest) ← numberArg
    return (.owner c n, rest)
  | "-user" | "-group" =>
    let (a, rest) ← needArg
    let known := if p = "-user" then ["root", "daemon", "bin", "sys", "nobody"]
      else ["root", "daemon", "bin", "sys", "adm", "tty", "disk", "staff", "users", "nogroup"]
    if a = "root" ∨ a = "0" then return (.const true, rest)
    else if known.contains a ∨ (¬ a.isEmpty ∧ a.toList.all Char.isDigit) then
      return (.const false, rest)
    else if p = "-user" then throw (localeQuote a ++ " is not the name of a known user")
    else throw (localeQuote a ++ " is not the name of an existing group")
  | "-nouser" | "-nogroup" | "-lname" | "-ilname" =>
    if p = "-lname" ∨ p = "-ilname" then
      let (_, rest) ← needArg
      return (.const false, rest)
    return (.const false, more)
  | "-newer" | "-anewer" | "-cnewer" | "-samefile" =>
    let (a, rest) ← needArg
    let loc ← placeOf a
    if p = "-samefile" then return (.sameAs loc, rest)
    return (.const false, rest)
  | "-perm" =>
    let (a, rest) ← needArg
    let (kind, body) : PermKind × String := match a.toList with
      | '-' :: cs => (.allOf, String.ofList cs)
      | '/' :: cs => (.anyOf, String.ofList cs)
      | _ => (.exactly, a)
    let plusDigits := a.startsWith "+" ∧ (a.toList.getD 1 ' ').isDigit
    match modeBits? body with
    | some (f, d) =>
      if plusDigits then throw ("invalid mode " ++ localeQuote a)
      let kind := if kind = .anyOf ∧ f = 0 ∧ d = 0 then .allOf else kind
      return (.perm kind f d, rest)
    | none => throw ("invalid mode " ++ localeQuote a)
  | "-readable" | "-writable" => return (.const true, more)
  | "-executable" => return (.executable, more)
  | "-print" => act (.print 10 none) more
  | "-print0" => act (.print 0 none) more
  | "-fprint" | "-fprint0" =>
    let (a, rest) ← needArg
    output a
    act (.print (if p = "-fprint" then 10 else 0) (some a)) rest
  | "-printf" =>
    let (a, rest) ← needArg
    match findFormat a with
    | .ok (fmt, ws) =>
      modify fun o => { o with warnings := o.warnings ++ ws }
      act (.printf fmt none) rest
    | .error m => throw m
  | "-fprintf" =>
    let (f, rest) ← needArg
    let (a, rest) ← match rest with
      | a :: r => pure (a, r)
      | [] => throw ("missing argument to " ++ findQuote p)
    output f
    match findFormat a with
    | .ok (fmt, ws) =>
      modify fun o => { o with warnings := o.warnings ++ ws }
      act (.printf fmt (some f)) rest
    | .error m => throw m
  | "-exec" | "-execdir" | "-ok" | "-okdir" =>
    let (words, batch, rest) ← execWords p more
    let id := (← get).commands
    modify fun o => { o with commands := id + 1 }
    act (.exec id words batch (p = "-execdir" ∨ p = "-okdir") (p = "-ok" ∨ p = "-okdir")) rest
  | "-delete" =>
    modify fun o => { o with depthFirst := true }
    act .delete more
  | "-quit" => return (.quit, more)
  | "-prune" => return (.prune, more)
  | "-maxdepth" | "-mindepth" =>
    let (a, rest) ← needArg
    let d ← depthOption p a
    modify fun o => if p = "-maxdepth" then { o with maxDepth := some d } else { o with minDepth := d }
    return (.const true, rest)
  | "-depth" | "-d" =>
    modify fun o => { o with depthFirst := true }
    return (.const true, more)
  | "-noleaf" | "-xdev" | "-mount" | "-follow" | "-ignore_readdir_race"
  | "-noignore_readdir_race" | "-daystart" | "-warn" | "-nowarn" =>
    return (.const true, more)
  | _ =>
    if p.startsWith "-" then throw ("unknown predicate " ++ findQuote p)
    else throw ("paths must precede expression: " ++ findQuote p)

/-- Reads the arguments of the expression into operators and primaries, reporting the first
wrong test or action. -/
def findTokens (t : FileTree) (cwd : List String) : Nat → List String → FindP (List FindToken)
  | 0, _ => pure []
  | _ + 1, [] => pure []
  | k + 1, a :: rest => do
    if ["(", ")", "!", "-not", "-a", "-and", "-o", "-or", ","].contains a then
      return .op a :: (← findTokens t cwd k rest)
    let (e, rest) ← findPrimaryOf t cwd a rest
    return .prim e :: (← findTokens t cwd k rest)

def FindToken.is (tok : FindToken) (s : String) : Bool :=
  match tok with
  | .op o => o == s
  | .prim _ => false

def FindToken.binary (tok : FindToken) : Bool :=
  ["-a", "-and", "-o", "-or", ","].any tok.is

def FindToken.text : FindToken → String
  | .op o => o
  | .prim _ => ""

def operandAfter (o : FindToken) (more : List FindToken) : Except String Unit :=
  match more with
  | [] => throw ("expected an expression after '" ++ o.text ++ "'")
  | x :: _ =>
    if x.is ")" then throw ("expected an expression between '" ++ o.text ++ "' and ')'")
    else pure ()

mutual

def findComma : Nat → List FindToken → Except String (FindExpr × List FindToken)
  | 0, _ => throw "expression too deep"
  | n + 1, toks => do
    let (a, rest) ← findOr n toks
    match rest with
    | o :: more =>
      if o.is "," then
        operandAfter o more
        let (b, rest) ← findComma n more
        return (.sequence a b, rest)
      else return (a, rest)
    | [] => return (a, [])

def findOr : Nat → List FindToken → Except String (FindExpr × List FindToken)
  | 0, _ => throw "expression too deep"
  | n + 1, toks => do
    let (a, rest) ← findAnd n toks
    match rest with
    | o :: more =>
      if o.is "-o" ∨ o.is "-or" then
        operandAfter o more
        let (b, rest) ← findOr n more
        return (.either a b, rest)
      else return (a, rest)
    | [] => return (a, [])

def findAnd : Nat → List FindToken → Except String (FindExpr × List FindToken)
  | 0, _ => throw "expression too deep"
  | n + 1, toks => do
    let (a, rest) ← findNot n toks
    match rest with
    | x :: more =>
      if x.is "-a" ∨ x.is "-and" then
        operandAfter x more
        let (b, rest) ← findAnd n more
        return (.both a b, rest)
      else if x.binary ∨ x.is ")" then return (a, rest)
      else
        let (b, rest) ← findAnd n rest
        return (.both a b, rest)
    | [] => return (a, [])

def findNot : Nat → List FindToken → Except String (FindExpr × List FindToken)
  | 0, _ => throw "expression too deep"
  | n + 1, toks =>
    match toks with
    | x :: more =>
      if x.is "!" ∨ x.is "-not" then do
        operandAfter x more
        let (e, rest) ← findNot n more
        return (.negate e, rest)
      else findPrimary n toks
    | [] => throw "invalid expression"

def findPrimary : Nat → List FindToken → Except String (FindExpr × List FindToken)
  | 0, _ => throw "expression too deep"
  | n + 1, toks =>
    match toks with
    | .prim e :: rest => return (e, rest)
    | x :: more =>
      if x.is "(" then
        match more with
        | [] => throw ("invalid expression; expected to find a ')' but didn't see one. " ++
            "Perhaps you need an extra predicate after '('")
        | y :: _ =>
          if y.is ")" then throw "invalid expression; empty parentheses are not allowed."
          else do
            let (e, rest) ← findComma n more
            match rest with
            | z :: rest =>
              if z.is ")" then return (e, rest)
              else throw "invalid expression; I was expecting to find a ')' somewhere but did not see one."
            | [] => throw "invalid expression; I was expecting to find a ')' somewhere but did not see one."
      else if x.binary then
        throw ("invalid expression; you have used a binary operator '" ++ x.text ++
          "' with nothing before it.")
      else if x.is ")" then throw "you have too many ')'"
      else throw "invalid expression"
    | [] => throw "invalid expression"

end

/-- An entry met by the walk. -/
structure FindVisit where
  /-- The path as `find` writes it. -/
  text : String
  name : String
  /-- The starting point it was found under. -/
  start : String
  loc : List String
  depth : Nat
  isDir : Bool
  size : Nat
  empty : Bool
  links : Nat

/-- What a run of `find` carries from entry to entry: the paths gathered for each command
ended by `{} +` (with the directory of an `-execdir` one), whether `-quit` ended the walk,
and whether something failed. -/
structure FindRun where
  batches : List (Nat × List String × Option (List String) × List String) := []
  quit : Bool := false
  failed : Bool := false

/-- Runs the words of a command for `find`, from a directory of the tree when one is given:
whether it ended with status 0, or none when its program could not be found. -/
abbrev FindCommand := Option (List String) → List String → Sh (Option Bool)

def foldPattern (pat : List PatChar) : List PatChar := pat.map fun (c, q) => (c.toLower, q)

/-- The permission bits of an entry: 755 for a directory, 644 for a file, and 700 for the
directory the tree starts at, which was made for this run alone. -/
def FindVisit.mode (v : FindVisit) : Nat :=
  if v.loc.isEmpty then 0o700 else if v.isDir then 0o755 else 0o644

def FindVisit.modeText (v : FindVisit) : String :=
  let bits := v.mode
  let letter (bit : Nat) (c : Char) : Char := if bits &&& bit != 0 then c else '-'
  String.ofList ((if v.isDir then 'd' else '-') ::
    [letter 0o400 'r', letter 0o200 'w', letter 0o100 'x', letter 0o40 'r', letter 0o20 'w',
      letter 0o10 'x', letter 0o4 'r', letter 0o2 'w', letter 0o1 'x'])

def findDirPart (text : String) : String :=
  let cs := text.toList
  match cs.reverse.dropWhile (· ≠ '/') with
  | [] => "."
  | _ :: before =>
    let before := before.reverse
    if before.isEmpty then (if cs.head? == some '/' then "/" else ".") else String.ofList before

/-- The text a directive of `-printf` stands for at an entry, and whether it is a number
(written with the flags of a number). -/
def FindVisit.directive (v : FindVisit) (d : Char) : String :=
  match d with
  | 'p' => v.text
  | 'f' => v.name
  | 'h' => findDirPart v.text
  | 'H' => v.start
  | 'P' =>
    if v.depth = 0 then ""
    else
      let pre := if v.start.endsWith "/" then v.start else v.start ++ "/"
      if v.text.startsWith pre then String.ofList (v.text.toList.drop pre.length) else v.text
  | 's' => toString v.size
  | 'd' => toString v.depth
  | 'y' | 'Y' => if v.isDir then "d" else "f"
  | 'm' => String.ofList (Nat.toDigits 8 v.mode)
  | 'M' => v.modeText
  | 'n' => toString v.links
  | 'u' | 'g' => "root"
  | 'U' | 'G' => "0"
  | 'k' => toString ((v.size + 4095) / 4096 * 4)
  | 'b' => toString ((v.size + 4095) / 4096 * 8)
  | 'D' | 'i' | 'S' => "0"
  | _ => ""

def FindVisit.field (v : FindVisit) (flags : List Char) (width precision : Option Nat)
    (d : Char) : String :=
  let text := v.directive d
  let text :=
    if d = 'd' then
      (if flags.contains '+' then "+" else if flags.contains ' ' then " " else "") ++ text
    else if d = 'm' ∧ flags.contains '#' then "0" ++ text
    else match precision with
      | some p => String.ofList (text.toList.take p)
      | none => text
  let w := width.getD 0
  let pad := w - text.length
  if flags.contains '-' then text ++ String.ofList (List.replicate pad ' ')
  else if flags.contains '0' ∧ (d = 'd' ∨ d = 'm') then
    let (sign, digits) := if text.startsWith "+" ∨ text.startsWith " " then
      (String.ofList (text.toList.take 1), String.ofList (text.toList.drop 1)) else ("", text)
    sign ++ String.ofList (List.replicate pad '0') ++ digits
  else String.ofList (List.replicate pad ' ') ++ text

def FindVisit.format (v : FindVisit) : List FindFormat → Bytes
  | [] => []
  | .stop :: _ => []
  | .text bs :: rest => bs ++ v.format rest
  | .field flags width precision d :: rest =>
    Text.Utf8.encode (v.field flags width precision d) ++ v.format rest

def findWrite (file : Option String) (bs : Bytes) : Sh Unit := do
  match file with
  | none => emit 1 bs
  | some f =>
    if f = "/dev/stdout" then emit 1 bs
    else if f = "/dev/stderr" then emit 2 bs
    else
      let before := (← readOperand f).toOption.getD []
      let _ ← writeNamed f (before ++ bs)

def fillBraces (words : List String) (path : String) : List String :=
  words.map fun w => path.intercalate (w.splitOn "{}")

/-- Runs a command gathered for `{} +`: its words with the lone `{}` replaced by all the paths. -/
def runBatch (cmd : FindCommand) (words : List String) (dir : Option (List String))
    (paths : List String) (run : FindRun) : Sh FindRun := do
  let argv := words.flatMap fun w => if w = "{}" then paths else [w]
  match ← cmd dir argv with
  | some true => return run
  | some false => return { run with failed := true }
  | none => return { run with failed := true }

/-- Reads the answer to a question of `-ok` from the standard input: whether its line starts
with `y` or `Y`. -/
def findAnswer : Sh Bool := do
  let (rest, _) ← peekRest 0
  let line := rest.takeWhile (· ≠ 10)
  consume 0 (min rest.length (line.length + 1))
  return line.head? == some 121 || line.head? == some 89

def FindVisit.fromDir (v : FindVisit) : List String × String :=
  if v.depth = 0 ∧ (v.name = "." ∨ v.name = "..") then (v.loc, "./" ++ v.name)
  else (v.loc.dropLast, "./" ++ v.name)

/-- Evaluates an expression at an entry: its value and whether it pruned the entry, with the
run carried on. -/
def FindExpr.eval (cmd : FindCommand) (v : FindVisit) :
    FindExpr → FindRun → Sh (Bool × Bool × FindRun)
  | e, run => if run.quit then pure (false, false, run) else
    match e with
    | .name pat fold =>
      pure (if fold then patternMatches false (foldPattern pat) v.name.toLower else patternMatches false pat v.name,
        false, run)
    | .path pat fold =>
      pure (if fold then patternMatches false (foldPattern pat) v.text.toLower else patternMatches false pat v.text,
        false, run)
    | .regex rx fold =>
      let cs := (if fold then v.text.toLower else v.text).toList.toArray
      let mode : MatchMode := { fold }
      pure ((rx.endsAt cs 0 mode).contains cs.size, false, run)
    | .kind types => pure (types.contains (if v.isDir then 'd' else 'f'), false, run)
    | .empty => pure (v.empty, false, run)
    | .const b => pure (b, false, run)
    | .size c n unit => pure (c.holds ((v.size + unit - 1) / unit) n, false, run)
    | .links c n => pure (c.holds v.links n, false, run)
    | .perm how f d =>
      let want := if v.isDir then d else f
      let ok := match how with
        | .exactly => v.mode == want
        | .allOf => v.mode &&& want == want
        | .anyOf => v.mode &&& want != 0
      pure (ok, false, run)
    | .executable => pure (v.isDir, false, run)
    | .minutes c n => pure (match c with
        | .exactly => n == 1
        | .more => n == 0
        | .less => n ≥ 1, false, run)
    | .days c n => pure (match c with
        | .exactly => n == 0
        | .more => false
        | .less => n ≥ 1, false, run)
    | .owner c n => pure (c.holds 0 n, false, run)
    | .sameAs loc => pure (v.loc == loc, false, run)
    | .print ending file => do
      findWrite file (Text.Utf8.encode v.text ++ [ending])
      pure (true, false, run)
    | .printf fmt file => do
      findWrite file (v.format fmt)
      pure (true, false, run)
    | .exec id words batch inDir ask => do
      let (dir, target) := if inDir then
          let (d, base) := v.fromDir
          (some d, base)
        else (none, v.text)
      if batch then
        let (run, gathered) ← match run.batches.find? (·.1 == id) with
          | some (_, ws, d, ps) =>
            if d != dir then do
              let run ← runBatch cmd ws d ps run
              pure (run, [])
            else pure (run, ps)
          | none => pure (run, [])
        let others := run.batches.filter (·.1 != id)
        pure (true, false, { run with batches := others ++ [(id, words, dir, gathered ++ [target])] })
      else
        let argv := fillBraces words target
        let go ← if ask then do
            say 2 ("< " ++ (argv.headD "") ++ " ... " ++ target ++ " > ? ")
            findAnswer
          else pure true
        if ¬ go then pure (false, false, run)
        else
          match ← cmd dir argv with
          | some ok => pure (ok, false, run)
          | none => pure (false, false, run)
    | .delete => do
      if v.depth = 0 ∧ v.name = "." then pure (true, false, run)
      else
        let t := (← get).tree
        if v.isDir ∧ ¬ (t.children v.loc).isEmpty then
          gnuSay "find" ("cannot delete " ++ localeQuote v.text ++ ": Directory not empty")
          pure (false, false, { run with failed := true })
        else
          modify fun s => { s with tree := s.tree.erase v.loc }
          pure (true, false, run)
    | .quit => pure (true, false, { run with quit := true })
    | .prune => pure (true, v.isDir, run)
    | .negate e => do
      let (r, p, run) ← e.eval cmd v run
      pure (!r, p, run)
    | .both a b => do
      let (r, p, run) ← a.eval cmd v run
      if r then
        let (r2, p2, run) ← b.eval cmd v run
        pure (r2, p || p2, run)
      else pure (false, p, run)
    | .either a b => do
      let (r, p, run) ← a.eval cmd v run
      if r then pure (true, p, run)
      else
        let (r2, p2, run) ← b.eval cmd v run
        pure (r2, p || p2, run)
    | .sequence a b => do
      let (_, p, run) ← a.eval cmd v run
      let (r2, p2, run) ← b.eval cmd v run
      pure (r2, p || p2, run)

def findBaseName (text : String) : String :=
  let cs := text.toList.reverse.dropWhile (· = '/')
  if cs.isEmpty then (if text.isEmpty then "" else "/")
  else String.ofList (cs.takeWhile (· ≠ '/')).reverse

def findVisitAt (t : FileTree) (start text name : String) (loc : List String) (depth : Nat) :
    FindVisit :=
  let entry := t.find? loc
  let isDir := entry = some .dir
  let kids := if isDir then t.children loc else []
  let size := match entry with
    | some (.file bs) => bs.length
    | _ => directorySize
  let empty := match entry with
    | some (.file bs) => bs.isEmpty
    | _ => kids.isEmpty
  let links := if isDir then 2 + (kids.filter fun (_, e) => e = .dir).length else 1
  { text, name, start, loc, depth, isDir, size, empty, links }

def findWalk (cmd : FindCommand) (e : FindExpr) (o : FindOptions) (start : String) :
    Nat → String → String → List String → Nat → FindRun → Sh FindRun
  | 0, _, _, _, _, run => pure run
  | k + 1, text, name, loc, depth, run => do
    if run.quit then return run
    let visit := findVisitAt (← get).tree start text name loc depth
    let mut run := run
    let mut pruned := false
    if ¬ o.depthFirst ∧ depth ≥ o.minDepth then
      let (_, p, r) ← e.eval cmd visit run
      run := r
      pruned := p
    if visit.isDir ∧ (o.maxDepth.all fun m => depth < m) ∧ ¬ pruned ∧ ¬ run.quit then
      let kids := (((← get).tree.children loc).map (·.1)).mergeSort fun a b => decide (a ≤ b)
      for kid in kids do
        if run.quit then break
        let kidText := if text.endsWith "/" then text ++ kid else text ++ "/" ++ kid
        run ← findWalk cmd e o start k kidText kid (loc ++ [kid]) (depth + 1) run
    if o.depthFirst ∧ depth ≥ o.minDepth ∧ ¬ run.quit then
      let visit := findVisitAt (← get).tree start text name loc depth
      let (_, _, r) ← e.eval cmd visit run
      run := r
    return run

def startsExpression (a : String) : Bool :=
  (a.startsWith "-" ∧ a.length > 1) ∨ a = "(" ∨ a = "!"

/-- The options before the starting points: `-H`, `-L`, `-P`, `-D` with its argument, and
`-O` with a level. -/
def leadingOptions : Nat → List String → List String
  | 0, args => args
  | k + 1, args =>
    match args with
    | "-H" :: rest | "-L" :: rest | "-P" :: rest => leadingOptions k rest
    | "-D" :: _ :: rest => leadingOptions k rest
    | a :: rest => if a.startsWith "-O" then leadingOptions k rest else args
    | [] => []

/-- `find`: walks each starting point and does what the expression says, running commands
with `cmd`. -/
def findUtility (cmd : FindCommand) (args : List String) : Sh Unit := do
  let args := leadingOptions (args.length + 1) args
  let starts := args.takeWhile fun a => ¬ startsExpression a
  let exprArgs := args.drop starts.length
  let t := (← get).tree
  let cwd := (← get).cwd
  let read : Except String (FindExpr × FindOptions) := do
    let (toks, o) ← (findTokens t cwd (exprArgs.length + 1) exprArgs).run {}
    if toks.isEmpty then return (.const true, o)
    let (e, rest) ← findComma (4 * toks.length + 8) toks
    match rest with
    | [] => return (e, o)
    | x :: _ =>
      if x.is ")" then throw "you have too many ')'"
      else throw "invalid expression"
  match read with
  | .error msg =>
    gnuSay "find" msg
    setStatus 1
  | .ok (e, o) =>
    for w in o.warnings do gnuSay "find" w
    for f in o.outputs do
      if let some err ← writeNamed f [] then
        gnuSay "find" (localeQuote f ++ ": " ++ err.text)
        setStatus 1
        return
    let e := if o.acts then e else .both e (.print 10 none)
    let mut run : FindRun := {}
    for start in (if starts.isEmpty then ["."] else starts) do
      if run.quit then break
      let path ← pathOf start
      let t := (← get).tree
      let found := if start.isEmpty then .error { errno := .noEntry, path := start } else t.stat path
      match found with
      | .error err =>
        gnuSay "find" (localeQuote start ++ ": " ++ err.errno.text)
        run := { run with failed := true }
      | .ok _ =>
        match (t.resolve path).toOption.bind FileTree.Place.loc with
        | some loc =>
          run ← findWalk cmd e o start (t.entries.length + 2) start (findBaseName start) loc 0 run
        | none =>
          gnuSay "find" (localeQuote start ++ ": Permission denied")
          run := { run with failed := true }
    let pending := run.batches.mergeSort fun a b => decide (a.1 ≤ b.1)
    for (_, words, dir, paths) in pending do
      run ← runBatch cmd words dir paths run
    setStatus (if run.failed then 1 else 0)

end SqlMigration.Shell
