import SqlMigration.Shell.Utility
import SqlMigration.Shell.Pattern
import SqlMigration.Shell.GrepPattern
import SqlMigration.Shell.Manual

/-!
# grep

`grep` writes the lines of its files (or of the standard input) that match one of its
patterns: basic regular expressions, extended ones with `-E`, fixed strings with `-F`, or one
Perl-style expression with `-P`.
-/

namespace SqlMigration.Shell

/-- What `grep` writes about each file: its selected lines and their context, the count of
them, its name when it has some, its name when it has none, or nothing. -/
inductive GrepReport where
  | lines
  | count
  | withMatch
  | withoutMatch
  | quiet
  deriving DecidableEq

/-- How a file with a NUL byte is read: as binary data, whose selected lines are only
announced; as text; or as a file that matches nothing. -/
inductive BinaryFiles where
  | binary
  | text
  | withoutMatch
  deriving DecidableEq

/-- The choices of a `grep` run that decide what it writes for one file. -/
structure GrepConfig where
  tests : GrepTests := {}
  invert : Bool := false
  report : GrepReport := .lines
  onlyMatching : Bool := false
  lineNumber : Bool := false
  byteOffset : Bool := false
  /-- A NUL after a file's name instead of the separator. -/
  nullName : Bool := false
  /-- The byte that ends lines, in the input and in the output. -/
  eol : UInt8 := 10
  /-- How many selected lines end a file; none for no limit. -/
  maxCount : Option Nat := none
  /-- The lines of context before each selected line, when context was asked for. -/
  before : Option Nat := none
  /-- The lines of context after each selected line, when context was asked for. -/
  after : Option Nat := none
  /-- The line between groups of lines that are not adjacent, unless there is none. -/
  separator : Option String := some "--"
  binary : BinaryFiles := .binary
  initialTab : Bool := false
  color : Bool := false

/-- A line of a file: its number, the offset of its first byte, and its bytes without the end. -/
structure GrepLine where
  number : Nat
  offset : Nat
  bytes : Bytes

def grepLines (ends : UInt8 → Bool) (bs : Bytes) : List GrepLine :=
  go bs 0 0 [] 1
where
  go : Bytes → Nat → Nat → Bytes → Nat → List GrepLine
    | [], _, start, cur, n => if cur.isEmpty then [] else [⟨n, start, cur.reverse⟩]
    | b :: rest, pos, start, cur, n =>
      if ends b then ⟨n, start, cur.reverse⟩ :: go rest (pos + 1) (pos + 1) [] (n + 1)
      else go rest (pos + 1) start (b :: cur) n

def GrepConfig.paint (cfg : GrepConfig) (code : String) (body : Bytes) : Bytes :=
  if cfg.color then
    Text.Utf8.encode ("\x1b[" ++ code ++ "m\x1b[K") ++ body ++ Text.Utf8.encode "\x1b[m\x1b[K"
  else body

def padNumber (width n : Nat) : Bytes :=
  let s := toString n
  Text.Utf8.encode (String.ofList (List.replicate (width - s.length) ' ') ++ s)

/-- What stands before a line or a part of one: the file's name, the line's number and the
byte offset, each followed by the separator, and with `-T` a tab before a text that is not
empty. -/
def GrepConfig.head (cfg : GrepConfig) (name : Option Bytes) (width number offset : Nat)
    (empty : Bool) (sep : UInt8) : Bytes :=
  let sepBytes := cfg.paint "36" [sep]
  let namePart := match name with
    | some n => cfg.paint "35" n ++ (if cfg.nullName then [0] else sepBytes)
    | none => []
  let numberPart := if cfg.lineNumber then cfg.paint "32" (padNumber width number) ++ sepBytes else []
  let offsetPart := if cfg.byteOffset then cfg.paint "32" (padNumber width offset) ++ sepBytes else []
  let shown := name.isSome || cfg.lineNumber || cfg.byteOffset
  namePart ++ numberPart ++ offsetPart ++ (if cfg.initialTab && shown && !empty then [9] else [])

def GrepConfig.colorMatches (cfg : GrepConfig) (ps : GrepPatterns) (cs : Array Char) : Bytes :=
  let (out, last) := (ps.parts cfg.tests cs).foldl (fun (acc : Bytes × Nat) (i, part) =>
    (acc.1 ++ Text.Unicode.encode (cs.extract acc.2 i).toList ++
      cfg.paint "01;31" (Text.Unicode.encode part), i + part.length)) ([], 0)
  out ++ Text.Unicode.encode (cs.extract last cs.size).toList

/-- What is written for a line with its separator (`:` for a selected line, `-` for a line of
context), and whether all of it was written: unless files are read as text, a line (or with
`-o` a part) that is not valid UTF-8 is held back, and what follows it in the line too. -/
def GrepConfig.writeLine (cfg : GrepConfig) (ps : GrepPatterns) (name : Option Bytes)
    (width : Nat) (line : GrepLine) (sep : UInt8) : Bytes × Bool :=
  let cs := (Text.Unicode.decode line.bytes).toArray
  let matching := (sep == 58) != cfg.invert
  let checked := cfg.binary != .text
  if cfg.onlyMatching then
    if !matching then ([], true)
    else
      (ps.parts cfg.tests cs).foldl (fun (acc : Bytes × Bool) (i, part) =>
        if !acc.2 then acc
        else if checked && part.any Text.Unicode.isRaw then (acc.1, false)
        else
          let offset := line.offset + (Text.Unicode.encode (cs.extract 0 i).toList).length
          let bytes := Text.Unicode.encode part
          (acc.1 ++ cfg.head name width line.number offset bytes.isEmpty sep ++
            cfg.paint "01;31" bytes ++ [cfg.eol], true)) ([], true)
  else if checked && cs.any Text.Unicode.isRaw then ([], false)
  else
    let body := if cfg.color && matching then cfg.colorMatches ps cs else line.bytes
    (cfg.head name width line.number line.offset line.bytes.isEmpty sep ++ body ++ [cfg.eol], true)

/-- Where the writing of a file's lines stands. -/
structure GrepScan where
  /-- What was written, the last piece first. -/
  pieces : List Bytes := []
  /-- The selected lines met. -/
  selected : Nat := 0
  /-- Whether a selected line was met, in this file or in one before. -/
  used : Bool
  /-- The index of the last line written. -/
  lastOut : Option Nat := none
  /-- The lines of trailing context still to write. -/
  pending : Nat := 0
  /-- Whether a line was held back for not being valid UTF-8. -/
  heldBack : Bool := false
  /-- Whether the selected lines reached the limit. -/
  stopped : Bool := false

/-- What a file gave: the bytes written, the selected lines, whether a selected line was met
so far in the run, whether the file is announced as a binary file that matches, and whether
its reading came to an end before its last line. -/
structure GrepOutcome where
  out : Bytes := []
  selected : Nat := 0
  used : Bool := false
  announce : Bool := false
  finished : Bool := false

def GrepConfig.put (cfg : GrepConfig) (ps : GrepPatterns) (name : Option Bytes) (width : Nat)
    (lines : Array GrepLine) (st : GrepScan) (j : Nat) (sep : UInt8) : GrepScan :=
  match lines[j]? with
  | some line =>
    let (bs, ok) := cfg.writeLine ps name width line sep
    { st with pieces := bs :: st.pieces, lastOut := if ok then some j else st.lastOut,
              heldBack := st.heldBack || !ok }
  | none => st

/-- The scan after the line at an index: a selected line is written with its leading context
(after a separator when it does not follow what was written last), and a line that is not
selected is written as trailing context while some is owed. -/
def GrepConfig.step (cfg : GrepConfig) (ps : GrepPatterns) (name : Option Bytes) (width : Nat)
    (lines : Array GrepLine) (chosen : Array Bool) (st : GrepScan) (i : Nat) : GrepScan :=
  if st.stopped then
    if st.pending > 0 then
      let st' := cfg.put ps name width lines st i 45
      { st' with pending := st.pending - 1 }
    else st
  else if chosen.getD i false then
    let start := max ((st.lastOut.map (· + 1)).getD 0) (i - cfg.before.getD 0)
    let contextAsked := cfg.before.isSome || cfg.after.isSome
    let gap : List Bytes := match cfg.separator with
      | some s =>
        if contextAsked && st.used && st.lastOut.map (· + 1) != some start then
          [cfg.paint "36" (Text.Unicode.encode s.toList) ++ [10]]
        else []
      | none => []
    let st := { st with pieces := gap ++ st.pieces }
    let st := (List.range' start (i - start)).foldl (fun st j => cfg.put ps name width lines st j 45) st
    let st := cfg.put ps name width lines st i 58
    let selected := st.selected + 1
    { st with pending := cfg.after.getD 0, used := true, selected,
              stopped := cfg.maxCount == some selected }
  else if st.pending > 0 then
    let st' := cfg.put ps name width lines st i 45
    { st' with pending := st.pending - 1 }
  else st

/-- Greps the bytes of one file: `name` is the name shown before its lines (if any), `width`
the width of numbers under `-T`, and `used` whether a selected line was met before. -/
def GrepConfig.scanFile (cfg : GrepConfig) (ps : GrepPatterns) (name : Option Bytes)
    (width : Nat) (used : Bool) (bs : Bytes) : GrepOutcome :=
  let binary := cfg.eol != 0 && cfg.binary != .text && bs.contains 0
  if binary && cfg.binary == .withoutMatch then { used, finished := true }
  else
    let lines := (grepLines (fun b => b == cfg.eol || (binary && b == 0)) bs).toArray
    let chosen := lines.map fun l =>
      ps.matches cfg.tests (Text.Unicode.decode l.bytes).toArray != cfg.invert
    let total := (chosen.toList.filter id).length
    if cfg.report == .lines && !binary then
      let st := (List.range lines.size).foldl (cfg.step ps name width lines chosen) { used }
      { out := st.pieces.reverse.flatten, selected := st.selected, used := st.used,
        announce := st.heldBack && cfg.binary == .binary, finished := st.stopped && st.pending == 0 }
    else
      let limit := if cfg.report == .count then cfg.maxCount
        else some (min 1 (cfg.maxCount.getD 1))
      let selected := match limit with
        | some m => min m total
        | none => total
      { selected, used := used || (cfg.report == .lines && selected > 0),
        announce := cfg.report == .lines && selected > 0,
        finished := limit.any fun m => decide (total ≥ m) }

/-- What `grep` writes for a file after its lines: the count with `-c`, and the name with `-l`
or `-L`. -/
def GrepConfig.summary (cfg : GrepConfig) (name : Bytes) (showName : Bool) (selected : Nat) : Bytes :=
  match cfg.report with
  | .count =>
    (if showName then cfg.paint "35" name ++ (if cfg.nullName then [0] else cfg.paint "36" [58]) else []) ++
      Text.Utf8.encode (toString selected ++ "\n")
  | .withMatch => if selected > 0 then cfg.paint "35" name ++ [if cfg.nullName then 0 else 10] else []
  | .withoutMatch => if selected == 0 then cfg.paint "35" name ++ [if cfg.nullName then 0 else 10] else []
  | _ => []

/-! ## Files and directories -/

/-- How directories among the files are treated: read (which fails), searched through, or
passed over. -/
inductive DirAction where
  | read
  | recurse
  | skip
  deriving DecidableEq

/-- Whether a name is left out by `--include` and `--exclude` patterns, given in order with
whether each includes: the last pattern that matches decides, and when none matches the name is
left out only if the first pattern was an `--include`. -/
def excludedBy (pats : List (String × Bool)) (fits : String → Bool) : Bool :=
  match pats.reverse.find? fun (p, _) => fits p with
  | some (_, incl) => !incl
  | none => (pats.head?.map (·.2)).getD false

def globMatches (pat name : String) : Bool := patternMatches false (pat.toList.map (·, false)) name

/-- Whether a file pattern matches a name given as an operand: the whole of it or what follows
one of its slashes. -/
def operandMatches (pat name : String) : Bool :=
  globMatches pat name || (tails name.toList).any fun
    | '/' :: c :: rest => c != '/' && globMatches pat (String.ofList (c :: rest))
    | _ => false
where
  tails : List Char → List (List Char)
    | [] => []
    | c :: rest => (c :: rest) :: tails rest

/-- The files below a directory named `text`, in the order of their names, each with the name
`grep` gives it and its bytes; the files and directories that `skipFile` and `skipDir` leave
out (by their own names) are passed over. -/
def grepWalk (t : FileTree) (skipFile skipDir : String → Bool) : Nat → String → List String →
    List (String × Bytes)
  | 0, _, _ => []
  | k + 1, text, loc =>
    let kids := (t.children loc).mergeSort fun a b => decide (a.1 ≤ b.1)
    kids.flatMap fun (kid, e) =>
      let kidText := if text.endsWith "/" then text ++ kid else text ++ "/" ++ kid
      match e with
      | .dir => if skipDir kid then [] else grepWalk t skipFile skipDir k kidText (loc ++ [kid])
      | .file bs => if skipFile kid then [] else [(kidText, bs)]

/-! ## Options -/

def grepSpec : OptSpec :=
  { flags := "EFGHILPRTUVZabchilnoqrsuvwxyz".toList,
    valued := "ABCDXdefm".toList ++ [0, 2, 3, 4, 5, 6, 8].map longOnly,
    optional := [longOnly 1], status := 2,
    longs := [("basic-regexp", 'G'), ("extended-regexp", 'E'), ("fixed-regexp", 'F'),
      ("fixed-strings", 'F'), ("perl-regexp", 'P'), ("after-context", 'A'),
      ("before-context", 'B'), ("binary-files", longOnly 0), ("byte-offset", 'b'),
      ("context", 'C'), ("color", longOnly 1), ("colour", longOnly 1), ("count", 'c'),
      ("devices", 'D'), ("directories", 'd'), ("dereference-recursive", 'R'),
      ("exclude", longOnly 2), ("exclude-from", longOnly 3), ("exclude-dir", longOnly 4),
      ("file", 'f'), ("files-with-matches", 'l'), ("files-without-match", 'L'),
      ("group-separator", longOnly 5), ("help", helpOption), ("include", longOnly 6),
      ("ignore-case", 'i'), ("no-ignore-case", longOnly 7), ("initial-tab", 'T'),
      ("label", longOnly 8), ("line-buffered", longOnly 9), ("line-number", 'n'),
      ("line-regexp", 'x'), ("max-count", 'm'), ("no-filename", 'h'),
      ("no-group-separator", longOnly 10), ("no-messages", 's'), ("null", 'Z'),
      ("null-data", 'z'), ("only-matching", 'o'), ("quiet", 'q'), ("recursive", 'r'),
      ("regexp", 'e'), ("invert-match", 'v'), ("silent", 'q'), ("text", 'a'), ("binary", 'U'),
      ("unix-byte-offsets", 'u'), ("version", 'V'), ("with-filename", 'H'),
      ("word-regexp", 'w')] }

def grepTakesValue (c : Char) : Bool := grepSpec.valued.contains c

/-- The arguments of `grep` with each run of digits in a group of short options (`-5`, `-n12`)
written as the context option it stands for; values of options are left as they are. -/
def grepDigitArgs (args : List String) : List String :=
  go (args.length + 1) args
where
  shorts : Nat → List Char → List String
    | 0, _ => []
    | _ + 1, [] => []
    | k + 1, c :: cs =>
      if c.isDigit then
        ("-C" ++ String.ofList (c :: cs.takeWhile Char.isDigit)) :: shorts k (cs.dropWhile Char.isDigit)
      else if grepTakesValue c then [String.ofList ('-' :: c :: cs)]
      else ("-" ++ String.singleton c) :: shorts k cs
  go : Nat → List String → List String
    | 0, rest => rest
    | _ + 1, [] => []
    | k + 1, a :: rest =>
      if a = "--" then a :: rest
      else if a.startsWith "--" then
        let body := String.ofList (a.toList.drop 2)
        let valued := match grepSpec.longNamed body body with
          | .ok (_, c) => grepTakesValue c
          | .error _ => false
        match rest with
        | v :: more => if valued then a :: v :: go k more else a :: go k rest
        | [] => [a]
      else if a.startsWith "-" ∧ a.length > 1 then
        let cs := a.toList.drop 1
        let pieces := shorts (cs.length + 1) cs
        let last := cs.reverse.head?
        let takesNext := match last with
          | some c => grepTakesValue c && (cs.reverse.drop 1).all (fun d => !grepTakesValue d)
          | none => false
        match rest with
        | v :: more => if takesNext then pieces ++ v :: go k more else pieces ++ go k rest
        | [] => pieces
      else a :: go k rest

/-- A number as `grep` reads the value of `-m` and of the context options: blanks, a sign and
decimal digits, nothing after them. -/
def grepInteger? (s : String) : Option Int :=
  let cs := s.toList.dropWhile fun c => c = ' ' ∨ c = '\t' ∨ c = '\n' ∨ c = '\x0b' ∨ c = '\x0c' ∨ c = '\r'
  let (neg, cs) := match cs with
    | '-' :: r => (true, r)
    | '+' :: r => (false, r)
    | r => (false, r)
  if cs.isEmpty || !cs.all Char.isDigit then none
  else
    let n := (String.ofList cs).toNat!
    some (if neg then -(n : Int) else n)

def grepUsage : String :=
  "Usage: grep [OPTION]... PATTERNS [FILE]...\nTry 'grep --help' for more information.\n"

/-- The settings the options of `grep` give, read in their order. -/
structure GrepOptions where
  matcher : Option GrepSyntax := none
  /-- The patterns of `-e` and `-f`, each ended by a line feed, when there are such options. -/
  keys : Option Bytes := none
  fold : Bool := false
  word : Bool := false
  line : Bool := false
  invert : Bool := false
  count : Bool := false
  /-- `-l` (true) or `-L` (false), the last given. -/
  list : Option Bool := none
  quiet : Bool := false
  onlyMatching : Bool := false
  lineNumber : Bool := false
  byteOffset : Bool := false
  /-- `-H` (true) or `-h` (false), the last given. -/
  names : Option Bool := none
  nullName : Bool := false
  nullData : Bool := false
  maxCount : Option Int := none
  before : Option Nat := none
  after : Option Nat := none
  context : Option Nat := none
  separator : Option String := some "--"
  binary : BinaryFiles := .binary
  directories : DirAction := .read
  initialTab : Bool := false
  color : Bool := false
  label : String := "(standard input)"
  /-- The patterns of `--include` (true) and `--exclude` (false), in order. -/
  fileFilters : List (String × Bool) := []
  dirFilters : List String := []
  silent : Bool := false
  help : Bool := false
  version : Bool := false

def GrepOptions.withSyntax (o : GrepOptions) (syn : GrepSyntax) : Except String GrepOptions :=
  match o.matcher with
  | some s => if s == syn then .ok o else .error "conflicting matchers specified"
  | none => .ok { o with matcher := some syn }

/-- A failure while the options are read: a message and the status, and whether the usage
lines follow it. -/
structure GrepFailure where
  message : String
  status : Nat := 2
  usage : Bool := false

/-- Reads one option of `grep` into the settings; `-f` and `--exclude-from` read their files,
and `-u` warns that it is obsolete. -/
def grepOption (o : GrepOptions) (opt : Char × String) : Sh (Except GrepFailure GrepOptions) := do
  let (c, v) := opt
  let fail (msg : String) : Sh (Except GrepFailure GrepOptions) := return .error { message := msg }
  let context : Except GrepFailure Nat := match grepInteger? v with
    | some n => if n ≥ 0 then .ok n.toNat else .error { message := v ++ ": invalid context length argument" }
    | none => .error { message := v ++ ": invalid context length argument" }
  let pick (syn : GrepSyntax) : Sh (Except GrepFailure GrepOptions) :=
    return (o.withSyntax syn).mapError fun e => { message := e }
  match c with
  | 'E' => pick .extended
  | 'F' => pick .fixed
  | 'G' => pick .basic
  | 'P' => pick .perl
  | 'X' =>
    match [("grep", GrepSyntax.basic), ("egrep", .extended), ("fgrep", .fixed), ("awk", .extended),
        ("gawk", .extended), ("posixawk", .extended), ("perl", .perl)].lookup v with
    | some syn => pick syn
    | none => fail ("invalid matcher " ++ v)
  | 'A' => return context.map fun n => { o with after := some n }
  | 'B' => return context.map fun n => { o with before := some n }
  | 'C' => return context.map fun n => { o with context := some n }
  | 'e' =>
    return .ok { o with keys := some (o.keys.getD [] ++ Text.Unicode.encode v.toList ++ [10]) }
  | 'f' =>
    match ← readOperand v with
    | .ok bs =>
      let bs := if bs.isEmpty || bs.getLast? == some 10 then bs else bs ++ [10]
      return .ok { o with keys := some (o.keys.getD [] ++ bs) }
    | .error e => fail (v ++ ": " ++ readError e)
  | 'm' =>
    match grepInteger? v with
    | some n => return .ok { o with maxCount := some n }
    | none => fail "invalid max count"
  | 'd' =>
    match argMatch "--directories" v [("read", DirAction.read), ("recurse", .recurse), ("skip", .skip)] with
    | .ok a => return .ok { o with directories := a }
    | .error msg => return .error { message := msg, status := 1, usage := true }
  | 'D' => if v = "read" ∨ v = "skip" then return .ok o else fail "unknown devices method"
  | 'i' | 'y' => return .ok { o with fold := true }
  | 'w' => return .ok { o with word := true }
  | 'x' => return .ok { o with line := true }
  | 'v' => return .ok { o with invert := true }
  | 'c' => return .ok { o with count := true }
  | 'l' => return .ok { o with list := some true }
  | 'L' => return .ok { o with list := some false }
  | 'q' => return .ok { o with quiet := true }
  | 'o' => return .ok { o with onlyMatching := true }
  | 'n' => return .ok { o with lineNumber := true }
  | 'b' => return .ok { o with byteOffset := true }
  | 'H' => return .ok { o with names := some true }
  | 'h' => return .ok { o with names := some false }
  | 'Z' => return .ok { o with nullName := true }
  | 'z' => return .ok { o with nullData := true }
  | 'a' => return .ok { o with binary := .text }
  | 'I' => return .ok { o with binary := .withoutMatch }
  | 'r' | 'R' => return .ok { o with directories := .recurse }
  | 's' => return .ok { o with silent := true }
  | 'T' => return .ok { o with initialTab := true }
  | 'V' => return .ok { o with version := true }
  | 'u' =>
    say 2 "grep: warning: --unix-byte-offsets (-u) is obsolete\n"
    return .ok o
  | 'U' => return .ok o
  | _ =>
    if c = helpOption then return .ok { o with help := true }
    else if c = longOnly 0 then
      match [("binary", BinaryFiles.binary), ("text", .text), ("without-match", .withoutMatch)].lookup v with
      | some b => return .ok { o with binary := b }
      | none => fail "unknown binary-files type"
    else if c = longOnly 1 then
      let w := v.toLower
      if v.isEmpty ∨ w = "auto" ∨ w = "tty" ∨ w = "if-tty" ∨ w = "never" ∨ w = "no" ∨ w = "none" then
        return .ok { o with color := false }
      else if w = "always" ∨ w = "yes" ∨ w = "force" then return .ok { o with color := true }
      else return .ok { o with help := true }
    else if c = longOnly 2 then return .ok { o with fileFilters := o.fileFilters ++ [(v, false)] }
    else if c = longOnly 6 then return .ok { o with fileFilters := o.fileFilters ++ [(v, true)] }
    else if c = longOnly 3 then
      match ← readOperand v with
      | .ok bs =>
        let pats := (byteLines bs).1.map fun l => String.ofList (Text.Unicode.decode l)
        return .ok { o with fileFilters := o.fileFilters ++ pats.map (·, false) }
      | .error e => fail (v ++ ": " ++ readError e)
    else if c = longOnly 4 then return .ok { o with dirFilters := o.dirFilters ++ [v] }
    else if c = longOnly 5 then return .ok { o with separator := some v }
    else if c = longOnly 7 then return .ok { o with fold := false }
    else if c = longOnly 8 then return .ok { o with label := v }
    else if c = longOnly 10 then return .ok { o with separator := none }
    else return .ok o

/-- The patterns the settings give: those of `-e` and `-f`, or else those of the first operand
(which is then no file); none when there is neither. -/
def GrepOptions.patterns (o : GrepOptions) (operands : List String) :
    Option (List (List Char) × List String) :=
  let split (bs : Bytes) : List (List Char) := (pieces bs []).map Text.Unicode.decode
  match o.keys with
  | some [] => some ([], operands)
  | some ks => some (split ks.dropLast, operands)
  | none =>
    match operands with
    | p :: rest => some (split (Text.Unicode.encode p.toList), rest)
    | [] => none
where
  /-- The pieces of bytes between line feeds, empty ones included. -/
  pieces : Bytes → Bytes → List Bytes
    | [], cur => [cur.reverse]
    | b :: rest, cur => if b = 10 then cur.reverse :: pieces rest [] else pieces rest (b :: cur)

def GrepOptions.config (o : GrepOptions) : GrepConfig :=
  { tests := { fold := o.fold, word := o.word && !o.line, line := o.line },
    invert := o.invert,
    report := if o.quiet then .quiet
      else match o.list with
        | some true => .withMatch
        | some false => .withoutMatch
        | none => if o.count then .count else .lines,
    onlyMatching := o.onlyMatching, lineNumber := o.lineNumber, byteOffset := o.byteOffset,
    nullName := o.nullName, eol := if o.nullData then 0 else 10,
    maxCount := o.maxCount.bind fun n => if n < 0 then none else some n.toNat,
    before := o.before.orElse fun _ => o.context, after := o.after.orElse fun _ => o.context,
    separator := o.separator, binary := o.binary, initialTab := o.initialTab, color := o.color }

def decimalWidth (n : Nat) : Nat := (toString n).length

/-- Where the run over the files stands: whether a line was selected, whether an error was
met, whether a selected line was met (for the separators), and whether `-q` ended the run. -/
structure GrepRun where
  selected : Bool := false
  trouble : Bool := false
  used : Bool := false
  done : Bool := false

def grepOne (cfg : GrepConfig) (ps : GrepPatterns) (run : GrepRun) (name : String)
    (showName : Bool) (width : Nat) (bs : Bytes) : Sh GrepRun := do
  let nameBytes := Text.Unicode.encode name.toList
  let r := cfg.scanFile ps (if showName then some nameBytes else none) width run.used bs
  emit 1 r.out
  emit 1 (cfg.summary nameBytes showName r.selected)
  if r.announce then emit 2 (Text.Utf8.encode "grep: " ++ nameBytes ++ Text.Utf8.encode ": binary file matches\n")
  let selected := r.selected > 0
  return { run with selected := run.selected || selected, used := r.used,
                    done := cfg.report == .quiet && selected }

/-- `grep`: writes the lines that match. -/
def grepUtility (args : List String) : Sh Unit := do
  let (p, wrong) := parseOptsUntil grepSpec (grepDigitArgs args)
  let mut o : GrepOptions := {}
  for opt in p.opts do
    match ← grepOption o opt with
    | .ok o' => o := o'
    | .error f =>
      say 2 ("grep: " ++ f.message ++ "\n" ++ (if f.usage then grepUsage else ""))
      setStatus f.status
      return
  if let some e := wrong then
    say 2 ("grep: " ++ e ++ "\n" ++ grepUsage)
    setStatus 2
    return
  if o.version then
    say 1 ((versionText? "grep").getD "")
    setStatus 0
    return
  if o.help then
    say 1 ((helpText? "grep" (← shownName "grep")).getD "")
    setStatus 0
    return
  let some (pats, files) := o.patterns p.operands
    | do say 2 grepUsage; setStatus 2
  let cfg := o.config
  if cfg.maxCount == some 0 then
    setStatus 1
    return
  let syn := o.matcher.getD .basic
  let pats := if syn == .perl then pats.map (perlWithTests cfg.tests) else pats
  match compilePatterns syn o.fold pats with
  | .error e =>
    say 2 ("grep: " ++ e ++ "\n")
    setStatus 2
  | .ok (ps, warnings) =>
    for w in warnings do say 2 ("grep: warning: " ++ w ++ "\n")
    let recursive := o.directories == .recurse
    let omitDot := files.isEmpty && recursive
    let inputs := if files.isEmpty then (if recursive then ["."] else ["-"]) else files
    let showName : Option Bool := match o.names with
      | some b => some b
      | none => if files.length > 1 then some true else if recursive then none else some false
    let width (size : Option Nat) : Nat :=
      if o.initialTab then (size.map decimalWidth).getD 19 else 0
    let mut run : GrepRun := {}
    for f in inputs do
      if run.done then break
      let complain (e : Errno) : Sh Unit := do
        if ¬ o.silent then emit 2 (Text.Utf8.encode "grep: " ++ Text.Unicode.encode f.toList ++
          Text.Utf8.encode (": " ++ readError e ++ "\n"))
      let device := f = "/dev/null" ∨ ((← get).procFiles.lookup f).isSome
      if f = "-" ∨ f = "/dev/stdin" then
        let size ← regularSize 0
        let (chunk, endless) ← peekRest 0
        let bs ← if endless then do
            let copies := (cfg.maxCount.getD 1) + cfg.after.getD 0 + 2
            let bs := (List.replicate copies chunk).flatten
            if ¬ (cfg.scanFile ps none 0 run.used bs).finished then throw .timeout
            pure bs
          else readRest 0
        run ← grepOne cfg ps run (if f = "-" then o.label else f) (showName.getD false) (width size) bs
      else if device then
        let bs := ((← get).procFiles.lookup f).getD []
        run ← grepOne cfg ps run f (showName.getD false) (width (some bs.length)) bs
      else
        let path ← pathOf f
        let t := (← get).tree
        match t.stat path with
        | .error e =>
          complain e.errno
          run := { run with trouble := true }
        | .ok .dir =>
          if excludedBy (o.dirFilters.map (·, false)) (operandMatches · f) ∧ ¬ (omitDot ∧ f = ".") then
            pure ()
          else if o.directories == .skip then pure ()
          else if recursive then
            match (t.resolve path).toOption.bind FileTree.Place.loc with
            | some loc =>
              let skipFile (n : String) : Bool := excludedBy o.fileFilters (globMatches · n)
              let skipDir (n : String) : Bool := o.dirFilters.any (globMatches · n)
              for (name, bs) in grepWalk t skipFile skipDir (t.entries.length + 2) f loc do
                if run.done then break
                let name := if omitDot ∧ name.startsWith "./" then String.ofList (name.toList.drop 2) else name
                run ← grepOne cfg ps run name (showName.getD true) (width (some bs.length)) bs
            | none => pure ()
          else
            complain .isDir
            run := { run with trouble := true }
            run ← grepOne cfg ps run f (showName.getD false) (width (some 0)) []
        | .ok (.file bs) =>
          if excludedBy o.fileFilters (operandMatches · f) then pure ()
          else run ← grepOne cfg ps run f (showName.getD false) (width (some bs.length)) bs
    if run.done then setStatus 0
    else if run.trouble then setStatus 2
    else setStatus (if run.selected then 0 else 1)

end SqlMigration.Shell
