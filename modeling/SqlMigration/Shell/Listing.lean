import SqlMigration.Shell.Utility
import SqlMigration.Shell.PrintfProgram
import SqlMigration.Text.VersionOrder

/-!
# ls

`ls` lists directories: the names of the entries of each directory operand (the working
directory when there is none), and the operands that are not directories, those first.
-/

namespace SqlMigration.Shell

/-- How names are laid out. -/
inductive ListFormat where
  | oneLine
  | columns
  | across
  | commas
  | long
  deriving DecidableEq

/-- How names are ordered. -/
inductive ListSort where
  | name
  | unsorted
  | size
  | version
  | extension
  | width
  deriving DecidableEq

/-- How names are quoted. -/
inductive NameQuoting where
  | literal
  | c
  | escape
  | shell
  | shellAlways
  | shellEscape
  | shellEscapeAlways
  | locale
  deriving DecidableEq

/-- What kind of entries are left out: those starting with a dot (and the patterns), only `.`
and `..`, or none. -/
inductive ListHidden where
  | dotted
  | dotsOnly
  | none
  deriving DecidableEq

/-- The settings of an `ls` run. -/
structure ListOptions where
  format : ListFormat := .oneLine
  sort : ListSort := .name
  reverse : Bool := false
  /-- Directories before the other entries, each group in the order of the sort. -/
  directoriesFirst : Bool := false
  hidden : ListHidden := .dotted
  ignoreBackups : Bool := false
  ignore : List String := []
  hide : List String := []
  directories : Bool := false
  recursive : Bool := false
  mark : Bool := false
  quoting : NameQuoting := .literal
  hideControl : Bool := false
  width : Nat := 80
  tabSize : Nat := 8
  zero : Bool := false

/-- An entry to list: its name and whether it is a directory, with its size in bytes. -/
structure ListEntry where
  name : String
  isDir : Bool
  size : Nat

def cEscape (b : UInt8) : String :=
  match b with
  | 7 => "\\a"
  | 8 => "\\b"
  | 12 => "\\f"
  | 10 => "\\n"
  | 13 => "\\r"
  | 9 => "\\t"
  | 11 => "\\v"
  | _ =>
    let n := b.toNat
    "\\" ++ String.ofList [Char.ofNat (48 + n / 64), Char.ofNat (48 + n / 8 % 8), Char.ofNat (48 + n % 8)]

/-- A name with backslash escapes for backslashes, control characters and bytes that start no
character, and for the characters `extra` names. -/
def escapedName (extra : List Char) (s : String) : String :=
  String.join (s.toList.map fun c =>
    match Text.Unicode.rawByte? c with
    | some b => cEscape b
    | none =>
      if c = '\\' then "\\\\"
      else if extra.contains c then "\\" ++ String.singleton c
      else if c.toNat < 32 ∨ c.toNat = 127 then cEscape c.toNat.toUInt8
      else String.singleton c)

def NameQuoting.apply (q : NameQuoting) (hideControl : Bool) (s : String) : String :=
  match q with
  | .literal =>
    if hideControl then
      String.ofList (s.toList.map fun c =>
        if Text.Unicode.isRaw c ∨ (Text.Unicode.width? c).isNone then '?' else c)
    else s
  | .c => "\"" ++ escapedName ['"'] s ++ "\""
  | .escape => escapedName [' '] s
  | .shell | .shellEscape => shellQuoted s
  | .shellAlways | .shellEscapeAlways =>
    let q := shellQuoted s
    if q.startsWith "'" ∨ q.startsWith "\"" then q else "'" ++ q ++ "'"
  | .locale => "‘" ++ escapedName [] s ++ "’"

/-- The columns a text takes: each character its width, a control character none, and a byte
that starts no character one. -/
def textWidth (s : String) : Nat :=
  s.toList.foldl (fun w c =>
    if Text.Unicode.isRaw c then w + 1
    else w + (Text.Unicode.width? c).getD (if c.toNat < 32 ∨ c.toNat = 127 then 0 else 1)) 0

def ListOptions.shown (o : ListOptions) (e : ListEntry) : String :=
  o.quoting.apply o.hideControl e.name ++ (if o.mark && e.isDir then "/" else "")

def extensionOf (name : String) : String :=
  match (name.toList.zipIdx.filter (·.1 == '.')).getLast? with
  | some (_, i) => String.ofList (name.toList.drop i)
  | none => ""

def ListOptions.compare (o : ListOptions) (a b : ListEntry) : Ordering :=
  let byName := Ord.compare a.name.toUTF8.toList b.name.toUTF8.toList
  match o.sort with
  | .name | .unsorted => byName
  | .size => (Ord.compare b.size a.size).then byName
  | .version => (Text.versionOrder a.name.toUTF8.toList b.name.toUTF8.toList).then byName
  | .extension =>
    (Ord.compare (extensionOf a.name).toUTF8.toList (extensionOf b.name).toUTF8.toList).then byName
  | .width => (Ord.compare (textWidth (o.shown a)) (textWidth (o.shown b))).then byName

def ListOptions.order (o : ListOptions) (es : List ListEntry) : List ListEntry :=
  if o.sort == .unsorted then es
  else
    let sorted := es.mergeSort fun a b => o.compare a b != .gt
    let sorted := if o.reverse then sorted.reverse else sorted
    if o.directoriesFirst then
      let (ds, fs) := sorted.partition (·.isDir)
      ds ++ fs
    else sorted

def indentFrom (tabSize : Nat) : Nat → Nat → Nat → String
  | 0, _, _ => ""
  | k + 1, from_, to_ =>
    if from_ ≥ to_ then ""
    else if tabSize != 0 && to_ / tabSize > (from_ + 1) / tabSize then
      "\t" ++ indentFrom tabSize k (from_ + tabSize - from_ % tabSize) to_
    else " " ++ indentFrom tabSize k (from_ + 1) to_

def columnCount (widths : List Nat) (lineWidth : Nat) (byColumns : Bool) : Nat :=
  let n := widths.length
  let maxIdx := max 1 (lineWidth / 3)
  let maxCols := if maxIdx < n then maxIdx else n
  let fits (cols : Nat) : Bool :=
    let arr := (List.replicate cols 3)
    let (ok, _, _) := widths.zipIdx.foldl (fun (acc : Bool × List Nat × Nat) (w, i) =>
      let (ok, arr, len) := acc
      if !ok then acc
      else
        let idx := if byColumns then i / ((n + cols - 1) / cols) else i % cols
        let real := w + (if idx == cols - 1 then 0 else 2)
        let cur := arr.getD idx 0
        if cur < real then
          let len := len + (real - cur)
          (len < lineWidth, arr.set idx real, len)
        else (ok, arr, len)) (true, arr, 3 * cols)
    ok
  ((List.range maxCols).reverse.find? fun c => fits (c + 1)).map (· + 1) |>.getD 1

def ListOptions.inColumns (o : ListOptions) (names : List String) (byColumns : Bool) : String :=
  let widths := names.map textWidth
  let n := names.length
  if n == 0 then "" else
  let cols := columnCount widths o.width byColumns
  let colWidth (idx : Nat) : Nat :=
    let members := (widths.zipIdx.filter fun (_, i) =>
      (if byColumns then i / ((n + cols - 1) / cols) else i % cols) == idx).map (·.1)
    let m := members.foldl max 0
    max 3 (m + (if idx == cols - 1 then 0 else 2))
  let eol := if o.zero then "\x00" else "\n"
  if byColumns then
    let rows := (n + cols - 1) / cols
    String.join ((List.range rows).map fun r =>
      let idxs := (List.range cols).filterMap fun c => if c * rows + r < n then some (c, c * rows + r) else none
      let (line, _) := idxs.foldl (fun (acc : String × Nat) (c, i) =>
        let (line, pos) := acc
        let name := names.getD i ""
        let w := widths.getD i 0
        let last := i + rows ≥ n
        if last then (line ++ name, pos)
        else (line ++ name ++ indentFrom o.tabSize (colWidth c + 1) (pos + w) (pos + colWidth c), pos + colWidth c))
        ("", 0)
      line ++ eol)
  else
    let rowsOf := (List.range ((n + cols - 1) / cols)).map fun r =>
      (List.range cols).filterMap fun c => if r * cols + c < n then some (c, r * cols + c) else none
    String.join (rowsOf.map fun idxs =>
      let (line, _) := idxs.foldl (fun (acc : String × Nat) (c, i) =>
        let (line, pos) := acc
        let name := names.getD i ""
        let w := widths.getD i 0
        let last := c + 1 == idxs.length
        if last then (line ++ name, pos)
        else (line ++ name ++ indentFrom o.tabSize (colWidth c + 1) (pos + w) (pos + colWidth c), pos + colWidth c))
        ("", 0)
      line ++ eol)

def ListOptions.withCommas (o : ListOptions) (names : List String) : String :=
  let eol := if o.zero then "\x00" else "\n"
  match names with
  | [] => ""
  | first :: rest =>
    let (out, _) := rest.foldl (fun (acc : String × Nat) name =>
      let (out, pos) := acc
      let len := textWidth name
      if pos + len + 2 < o.width then (out ++ ", " ++ name, pos + 2 + len)
      else (out ++ "," ++ eol ++ name, len)) (first, textWidth first)
    out ++ eol

def ListOptions.layout (o : ListOptions) (es : List ListEntry) : String :=
  let names := es.map o.shown
  let eol := if o.zero then "\x00" else "\n"
  match o.format with
  | .oneLine | .long => String.join (names.map (· ++ eol))
  | .columns => o.inColumns names true
  | .across => o.inColumns names false
  | .commas => o.withCommas names

def ListOptions.skips (o : ListOptions) (name : String) : Bool :=
  let globbed (pats : List String) : Bool :=
    pats.any fun p => patternMatches false (p.toList.map (·, false)) name
  (o.hidden == .dotted && name.startsWith ".") ||
    (o.ignoreBackups && name.endsWith "~") || globbed o.ignore ||
    (o.hidden == .dotted && globbed o.hide)

def directorySize : Nat := 4096

def ListOptions.entriesOf (o : ListOptions) (t : FileTree) (loc : List String) : List ListEntry :=
  let kids := (t.children loc).filter fun (n, _) => !o.skips n
  let es := kids.map fun (n, e) => match e with
    | .dir => { name := n, isDir := true, size := directorySize }
    | .file bs => { name := n, isDir := false, size := bs.length }
  let dots : List ListEntry := if o.hidden == .none then
      [{ name := ".", isDir := true, size := directorySize }, { name := "..", isDir := true, size := directorySize }]
    else []
  o.order (dots ++ es)

/-- The listings of a directory and, with `-R`, of the directories below it: each with its
name and its entries, the subdirectories after their parent in the order of the listing. -/
def ListOptions.listings (o : ListOptions) (t : FileTree) : Nat → String → List String →
    List (String × List ListEntry)
  | 0, _, _ => []
  | k + 1, name, loc =>
    let es := o.entriesOf t loc
    let below := if o.recursive then
        (es.filter fun e => e.isDir && e.name != "." && e.name != "..").flatMap fun e =>
          let sub := if name.endsWith "/" then name ++ e.name else name ++ "/" ++ e.name
          o.listings t k sub (loc ++ [e.name])
      else []
    (name, es) :: below

def lsSpec : OptSpec :=
  { flags := "abcdfghiklmnopqrstuvxABCDFGHLNQRSUXZ1".toList, valued := "wIT".toList ++
      [2, 3, 4, 5, 6, 7, 8, 9, 10, 11].map longOnly,
    optional := ['F', longOnly 12, longOnly 13], status := 2,
    longs := [("all", 'a'), ("escape", 'b'), ("directory", 'd'), ("dired", 'D'),
      ("full-time", longOnly 0), ("group-directories-first", longOnly 1),
      ("human-readable", 'h'), ("inode", 'i'), ("kibibytes", 'k'), ("numeric-uid-gid", 'n'),
      ("no-group", 'G'), ("hide-control-chars", 'q'), ("reverse", 'r'), ("size", 's'),
      ("width", 'w'), ("almost-all", 'A'), ("ignore-backups", 'B'), ("classify", 'F'),
      ("file-type", longOnly 14), ("si", longOnly 15), ("dereference-command-line", 'H'),
      ("dereference-command-line-symlink-to-dir", longOnly 16), ("hide", longOnly 2),
      ("ignore", 'I'), ("indicator-style", longOnly 3), ("dereference", 'L'),
      ("literal", 'N'), ("quote-name", 'Q'), ("quoting-style", longOnly 4),
      ("recursive", 'R'), ("format", longOnly 5), ("show-control-chars", longOnly 17),
      ("sort", longOnly 6), ("tabsize", 'T'), ("time", longOnly 7), ("time-style", longOnly 8),
      ("zero", longOnly 18), ("color", longOnly 12), ("hyperlink", longOnly 13),
      ("block-size", longOnly 9), ("context", 'Z'), ("author", longOnly 19)] }

def ListOptions.take (o : ListOptions) (opt : Char × String) : Except String ListOptions :=
  let (c, v) := opt
  match c with
  | 'a' => .ok { o with hidden := .none }
  | 'A' => .ok { o with hidden := if o.hidden == .none then .none else .dotsOnly }
  | 'b' => .ok { o with quoting := .escape }
  | 'B' => .ok { o with ignoreBackups := true }
  | 'd' => .ok { o with directories := true }
  | 'f' => .ok { o with hidden := .none, sort := .unsorted,
                         format := if o.format == .long then .oneLine else o.format }
  | 'F' => .ok { o with mark := v != "never" && v != "no" && v != "none" }
  | 'p' => .ok { o with mark := true }
  | 'N' => .ok { o with quoting := .literal }
  | 'Q' => .ok { o with quoting := .c }
  | 'q' => .ok { o with hideControl := true }
  | 'r' => .ok { o with reverse := true }
  | 'R' => .ok { o with recursive := true }
  | 'S' => .ok { o with sort := .size }
  | 'U' => .ok { o with sort := .unsorted }
  | 'v' => .ok { o with sort := .version }
  | 'X' => .ok { o with sort := .extension }
  | '1' => .ok { o with format := .oneLine }
  | 'C' => .ok { o with format := .columns }
  | 'x' => .ok { o with format := .across }
  | 'm' => .ok { o with format := .commas }
  | 'l' | 'g' | 'n' | 'o' => .ok { o with format := .long }
  | 'w' =>
    match countOf? v with
    | some n => .ok { o with width := n }
    | none => .error ("invalid line width: " ++ localeQuote v)
  | 'T' =>
    match countOf? v with
    | some n => .ok { o with tabSize := n }
    | none => .error ("invalid tab size: " ++ localeQuote v)
  | 'I' => .ok { o with ignore := o.ignore ++ [v] }
  | _ =>
    if c = longOnly 2 then .ok { o with hide := o.hide ++ [v] }
    else if c = longOnly 14 then .ok { o with mark := true }
    else if c = longOnly 3 then
      (argMatch "--indicator-style" v [("none", 0), ("slash", 1), ("file-type", 2), ("classify", 3)]).map
        fun k => { o with mark := k != 0 }
    else if c = longOnly 4 then
      (argMatch "--quoting-style" v [("literal", NameQuoting.literal), ("shell", .shell),
        ("shell-always", .shellAlways), ("shell-escape", .shellEscape),
        ("shell-escape-always", .shellEscapeAlways), ("c", .c), ("escape", .escape),
        ("locale", .locale), ("clocale", .locale)]).map fun q => { o with quoting := q }
    else if c = longOnly 5 then
      (argMatch "--format" v [("verbose", ListFormat.long), ("long", .long), ("commas", .commas),
        ("horizontal", .across), ("across", .across), ("vertical", .columns),
        ("single-column", .oneLine)]).map fun f => { o with format := f }
    else if c = longOnly 6 then
      (argMatch "--sort" v [("none", ListSort.unsorted), ("time", .name), ("size", .size),
        ("extension", .extension), ("version", .version), ("width", .width)]).map
        fun s => { o with sort := s }
    else if c = longOnly 18 then .ok { o with zero := true }
    else if c = longOnly 1 then .ok { o with directoriesFirst := true }
    else .ok o

/-- `ls`: lists directories and names. -/
def lsUtility (env : List (String × String)) (args : List String) : Sh Unit := do
  match parseOptsUntil lsSpec args with
  | (_, some e) => usageError "ls" e 2
  | (p, none) =>
  let width := match env.lookup "COLUMNS" with
    | some c => (countOf? c).getD 80
    | none => 80
  match p.opts.foldlM ListOptions.take { width } with
  | .error msg =>
    usageError "ls" msg 2
  | .ok o =>
  let o := if o.zero && o.format != .long then { o with format := .oneLine } else o
  let names := if p.operands.isEmpty then ["."] else p.operands
  let t := (← get).tree
  let mut files : List ListEntry := []
  let mut dirs : List (ListEntry × List String) := []
  let mut failed := false
  for name in names do
    let path ← pathOf name
    match t.stat path with
    | .error e =>
      gnuSay "ls" ("cannot access " ++ gnuQuote name ++ ": " ++ e.errno.text)
      failed := true
    | .ok (.file bs) => files := files ++ [{ name, isDir := false, size := bs.length }]
    | .ok .dir =>
      let entry : ListEntry := { name, isDir := true, size := directorySize }
      if o.directories then files := files ++ [entry]
      else
        let loc := match t.resolve path with
          | .ok place => place.loc.getD []
          | .error _ => []
        dirs := dirs ++ [(entry, loc)]
  let sortedFiles := o.order files
  let sortedDirs := o.order (dirs.map (·.1)) |>.filterMap fun e => (dirs.find? (·.1.name == e.name))
  let headed := names.length > 1 || o.recursive
  let mut blocks : List String := []
  if ¬ sortedFiles.isEmpty then blocks := blocks ++ [o.layout sortedFiles]
  for (d, loc) in sortedDirs do
    for (name, es) in o.listings t (t.entries.length + 1) d.name loc do
      let head := if headed then o.quoting.apply o.hideControl name ++ ":\n" else ""
      blocks := blocks ++ [head ++ o.layout es]
  say 1 ("\n".intercalate blocks)
  setStatus (if failed then 2 else 0)

end SqlMigration.Shell
