import SqlMigration.Shell.SedScript

/-!
# Running sed scripts

A run reads its input line by line into the *pattern space*, runs the commands whose
addresses select the line, and at the end of each cycle writes the pattern space (unless
quiet), then what `a`, `r` and `R` queued.
-/

-- powers and sums of numbers are read with the core instances, whatever else is imported
attribute [local instance (high)] instPowNat Zero.ofOfNat0

namespace SqlMigration.Shell

abbrev SedLine := List Char × Bool

def sedLines (delim : UInt8) (bs : Bytes) : List SedLine :=
  let pieces := splitAtByte delim bs
  let closed := bs.getLast? == some delim
  let n := pieces.length
  pieces.zipIdx.map fun (l, i) => (Text.Unicode.decode l, i + 1 < n || closed)

/-- Why an input cannot be read, with the message that says so: a file that cannot be opened
is reported and passed over, one that opens but cannot be read (a directory) stops the run. -/
inductive SedFault where
  | missing (message : String)
  | fatal (message : String)

/-- An input of a run: the name it was given by, and its lines, or why it cannot be read. -/
structure SedSource where
  name : String
  lines : Except SedFault (List SedLine)

/-- The choices a run is made with. -/
structure SedConfig where
  quiet : Bool := false
  debug : Bool := false
  /-- Each file on its own: `-s`, or `-i`. -/
  separate : Bool := false
  /-- The output of each file replaces it. -/
  inPlace : Bool := false
  posix : Bool := false
  delim : UInt8 := 10
  /-- The width `l` wraps at when it gives none. -/
  lineWidth : Nat := 70
  /-- The number of the last script expression, which runtime errors name. -/
  lastExpression : Nat := 1

def SedConfig.delimChar (cfg : SedConfig) : Char := Char.ofNat cfg.delim.toNat

/-- Where a command with two addresses stands: outside its range, inside it (with the last
line, when a number fixes it), or outside after it ended. -/
inductive RangeState where
  | idle
  | active (stop : Option Nat)
  | closed
  deriving DecidableEq

/-- What is written at the end of a cycle: text, a file's contents, or a line read by `R`. -/
inductive SedAppend where
  | text (bs : Bytes)
  | file (name : String)
  | line (bs : Bytes)

/-- How the commands of a cycle ended. -/
inductive SedEnd where
  /-- The cycle ends, writing the pattern space when `autoprint` and not quiet. -/
  | endCycle (autoprint : Bool)
  /-- `D` with a line left: the next cycle starts without reading a line. -/
  | restart
  /-- `D` with no line left: the next cycle, writing nothing. -/
  | nextCycle
  /-- `q` (writing the pattern space) or `Q`, with the exit status. -/
  | quit (print : Bool) (code : Nat)
  /-- An error that stops the run, with its message and status. -/
  | fail (msg : String) (status : Nat)

/-- The state of a run. -/
structure SedRun where
  ps : List Char := []
  hold : List Char := []
  /-- Whether the delimiter ended the line read last. -/
  chomped : Bool := true
  lineNo : Nat := 0
  /-- The lines of the current file not read yet, and its name. -/
  current : List SedLine := []
  fileName : String := "-"
  /-- The inputs not opened yet. -/
  sources : List SedSource := []
  /-- Whether a file has been opened. -/
  opened : Bool := false
  /-- The output: the standard output, or with `-i` the current file's new contents. -/
  out : Array UInt8 := #[]
  /-- What goes to the standard output besides, with `-i`. -/
  console : Array UInt8 := #[]
  err : Bytes := []
  /-- The last output line lacked its delimiter, which is owed before the next output. -/
  owed : Bool := false
  appends : List SedAppend := []
  substituted : Bool := false
  lastRegex : Option SedPattern := none
  ranges : Array RangeState := #[]
  /-- Files written by `w`, with what was written and whether a delimiter is owed. -/
  written : List (String × Bytes × Bool) := []
  /-- The contents of the files `r` and `R` read. -/
  files : List (String × Option Bytes) := []
  /-- How many lines `R` has read of each file. -/
  taken : List (String × Nat) := []
  /-- Files edited in place, with their new contents. -/
  finished : List (String × Bytes) := []
  unreadable : Bool := false
  /-- An input stopped the run. -/
  halted : Bool := false
  /-- The depth of blocks in the trace. -/
  level : Int := 0
  quitCode : Option Nat := none
  failure : Option (String × Nat) := none

/-! ## Writing -/

def octal3 (n : Nat) : String :=
  let ds := Nat.toDigits 8 n
  String.ofList (List.replicate (3 - ds.length) '0' ++ ds)

/-- A byte as the trace writes it: printable ASCII but the backslash as itself, the usual
escapes, and other bytes in octal as a signed character widened to 32 bits. -/
def traceByte (b : UInt8) : String :=
  let n := b.toNat
  if 0x20 ≤ n ∧ n < 0x7f ∧ n ≠ 0x5c then String.singleton (Char.ofNat n)
  else match n with
    | 7 => "\\a"
    | 12 => "\\f"
    | 13 => "\\r"
    | 9 => "\\t"
    | 11 => "\\v"
    | 10 => "\\n"
    | 0x5c => "\\\\"
    | _ => "\\o" ++ octal3 (if n ≥ 128 then 2 ^ (32 : Nat) - 256 + n else n)

def traceText (cs : List Char) : String :=
  String.join ((Text.Unicode.encode cs).map traceByte)

def SedRun.trace (r : SedRun) (cfg : SedConfig) (s : String) : SedRun :=
  let bs := Text.Unicode.encode s.toList
  if cfg.inPlace then { r with console := r.console ++ bs } else { r with out := r.out ++ bs }

def SedRun.emitRaw (r : SedRun) (cfg : SedConfig) (bs : Bytes) : SedRun :=
  { r with out := r.out ++ (if r.owed then [cfg.delim] else []) ++ bs, owed := false }

def SedRun.emitLine (r : SedRun) (cfg : SedConfig) (cs : List Char) (closed : Bool) : SedRun :=
  let r := r.emitRaw cfg (Text.Unicode.encode cs ++ (if closed then [cfg.delim] else []))
  { r with owed := !closed }

def SedRun.emitPattern (r : SedRun) (cfg : SedConfig) : SedRun := r.emitLine cfg r.ps r.chomped

def SedRun.writeTo (r : SedRun) (cfg : SedConfig) (name : String) (cs : List Char) (closed : Bool) :
    SedRun :=
  let (before, owed) := match r.written.find? (·.1 == name) with
    | some (_, bs, o) => (bs, o)
    | none => ([], false)
  let bytes := (if owed then [cfg.delim] else []) ++ Text.Unicode.encode cs ++
    (if closed then [cfg.delim] else [])
  let r := if name = "/dev/stdout" then
      (if cfg.inPlace then { r with console := r.console ++ bytes } else { r with out := r.out ++ bytes })
    else if name = "/dev/stderr" then { r with err := r.err ++ bytes }
    else r
  { r with written := (r.written.filter (·.1 != name)) ++ [(name, before ++ bytes, !closed)] }

def SedRun.dumpAppends (r : SedRun) (cfg : SedConfig) : SedRun :=
  if r.appends.isEmpty then r
  else
    let r := r.emitRaw cfg []
    let r := r.appends.foldl (fun (r : SedRun) item =>
      match item with
      | .text bs | .line bs => { r with out := r.out ++ bs }
      | .file name =>
        match r.files.lookup name with
        | some (some bs) => { r with out := r.out ++ bs }
        | _ => r) r
    { r with appends := [] }

/-- The pattern space as `l` writes it: each byte, with escapes for the special and the
unprintable ones, `$` at the end; with a width above 0 the lines are wrapped with a backslash
before an escape would make them longer than the width less one. -/
def listed (width : Nat) (delim : UInt8) (cs : List Char) : Bytes :=
  let esc (n : Nat) : List Char :=
    match n with
    | 0x5c => ['\\', '\\']
    | 7 => ['\\', 'a']
    | 8 => ['\\', 'b']
    | 12 => ['\\', 'f']
    | 10 => ['\\', 'n']
    | 13 => ['\\', 'r']
    | 9 => ['\\', 't']
    | 11 => ['\\', 'v']
    | n =>
      if n < 32 ∨ n ≥ 127 then
        ['\\', Char.ofNat (48 + n / 64), Char.ofNat (48 + n / 8 % 8), Char.ofNat (48 + n % 8)]
      else [Char.ofNat n]
  let pieces := (Text.Unicode.encode cs).map fun b => esc b.toNat
  let (lines, cur) := pieces.foldl (fun (acc : List (List Char) × List Char) p =>
    let (ls, cur) := acc
    if width > 0 ∧ cur.length + p.length + 1 > width then (ls ++ [cur ++ ['\\']], p)
    else (ls, cur ++ p)) ([], [])
  (lines ++ [cur ++ ['$']]).flatMap fun l => Text.Utf8.encode (String.ofList l) ++ [delim]

/-! ## The program in the trace -/

def tracePattern : Option SedPattern → String
  | none => "//"
  | some p =>
    "/" ++ String.join ((Text.Unicode.encode p.text).map fun b =>
      if b = 0x2f then "\\/" else traceByte b) ++ "/"

def traceAddr : SedAddr → String
  | .line n => toString n
  | .last => "$"
  | .pattern p =>
    tracePattern p ++ (match p with
      | some q => (if q.fold then "I" else "") ++ (if q.multiline then "M" else "")
      | none => "")
  | .step f s => toString f ++ "~" ++ toString s
  | .plus n => "+" ++ toString n
  | .multiple n => "~" ++ toString n
  | .none => "[ADDR-NULL]"

def rawText (cs : List Char) : String := String.ofList cs

def traceRepl (ps : List ReplPart) : String :=
  String.join (ps.map fun p => match p with
    | .text cs => rawText cs
    | .group 0 => "&"
    | .group k => "\\" ++ toString k
    | .caseAll .upper => "\\U"
    | .caseAll .lower => "\\L"
    | .caseAll .asIs => "\\E"
    | .caseNext true => "\\u"
    | .caseNext false => "\\l")

def traceArgs : SedOp → String
  | .label name => name
  | .append t | .insert t | .change t => "\\" ++ rawText t
  | .branch l _ | .ifSubst l _ | .unlessSubst l _ => (l.map (" " ++ ·)).getD ""
  | .exec t => " " ++ rawText t
  | .quit c _ | .list c => (c.map (" " ++ toString ·)).getD ""
  | .readFile n | .readLine n => " " ++ n
  | .writeFile n | .writeFirst n => n
  | .subst s =>
    tracePattern s.pattern ++ traceRepl s.repl ++ "/" ++
      (match s.pattern with
        | some p => (if p.fold then "i" else "") ++ (if p.multiline then "m" else "")
        | none => "") ++
      (if s.global then "g" else "") ++ (if s.eval then "e" else "") ++ (if s.print then "p" else "") ++
      ((s.number.map toString).getD "") ++ ((s.write.map ("w" ++ ·)).getD "")
  | .translit pairs => "/" ++ rawText (pairs.map (·.1)) ++ "/" ++ rawText (pairs.map (·.2)) ++ "/"
  | _ => ""

def SedOp.letter : SedOp → Char
  | .blockStart _ => '{'
  | .blockEnd => '}'
  | .subst _ => 's'
  | .translit _ => 'y'
  | .print => 'p'
  | .printFirst => 'P'
  | .delete => 'd'
  | .deleteFirst => 'D'
  | .next => 'n'
  | .appendNext => 'N'
  | .quit _ p => if p then 'q' else 'Q'
  | .lineNumber => '='
  | .fileName => 'F'
  | .append _ => 'a'
  | .insert _ => 'i'
  | .change _ => 'c'
  | .hold => 'h'
  | .holdAppend => 'H'
  | .fetch => 'g'
  | .fetchAppend => 'G'
  | .exchange => 'x'
  | .branch _ _ => 'b'
  | .ifSubst _ _ => 't'
  | .unlessSubst _ _ => 'T'
  | .label _ => ':'
  | .list _ => 'l'
  | .readFile _ => 'r'
  | .readLine _ => 'R'
  | .writeFile _ => 'w'
  | .writeFirst _ => 'W'
  | .zap => 'z'
  | .exec _ => 'e'

def traceInstr (level : Int) (i : SedInstr) : String × Int :=
  let level := match i.op with
    | .blockEnd => level - 1
    | _ => level
  let indent := String.join (List.replicate level.toNat "  ")
  let addrs := (i.range.first.map traceAddr).getD "" ++
    (match i.range.last with
      | some a => "," ++ traceAddr a
      | none => "")
  let text := indent ++ addrs ++ (if i.range.negate then "!" else "") ++
    (if i.range.first.isSome then " " else "") ++ String.singleton i.op.letter ++ traceArgs i.op
  let after := match i.op with
    | .blockStart _ => level + 1
    | _ => level
  (text, after)

def traceProgram (prog : Array SedInstr) : String :=
  let (lines, _) := prog.toList.foldl (fun (acc : List String × Int) i =>
    let (t, l) := traceInstr acc.2 i
    (acc.1 ++ [t], l)) ([], 1)
  "SED PROGRAM:\n" ++ String.join (lines.map (· ++ "\n"))

def SedRun.tracePatternSpace (r : SedRun) (cfg : SedConfig) : SedRun :=
  if cfg.debug then r.trace cfg ("PATTERN: " ++ traceText r.ps ++ "\n") else r

def SedRun.traceHold (r : SedRun) (cfg : SedConfig) : SedRun :=
  if cfg.debug then r.trace cfg ("HOLD:    " ++ traceText r.hold ++ "\n") else r

/-! ## Input -/

/-- Whether the current line is the last: of its file when files are apart, else of the last
file with lines. -/
def SedRun.probeLast (r : SedRun) (cfg : SedConfig) : SedRun × Bool :=
  if ¬ r.current.isEmpty then (r, false)
  else if cfg.separate then (r, true)
  else go r.sources r
where
  go : List SedSource → SedRun → SedRun × Bool
    | [], r => ({ r with sources := [] }, true)
    | s :: rest, r =>
      match s.lines with
      | .error (.missing msg) => go rest { r with unreadable := true, err := r.err ++ Text.Utf8.encode msg }
      | .error (.fatal _) | .ok [] => go rest r
      | .ok (_ :: _) => ({ r with sources := s :: rest }, false)

def initialRanges (prog : Array SedInstr) : Array RangeState :=
  prog.map fun i => match i.range.first, i.range.last with
    | some (.line 0), some _ => .active none
    | _, _ => .idle

/-- Starts the next file: with separate files, first the line numbers, ranges and `R` start
anew, and the output of the file just edited is kept. -/
def SedRun.startFile (r : SedRun) (cfg : SedConfig) (prog : Array SedInstr) : SedRun :=
  if cfg.separate then
    let r := if cfg.inPlace then
        if r.opened then { r with finished := r.finished ++ [(r.fileName, r.out.toList)], out := #[], owed := false }
        else r
      else r.emitRaw cfg []
    { r with lineNo := 0, ranges := initialRanges prog, taken := [] }
  else r

/-- Opens inputs until one has a line left, or none is left; inputs that cannot be opened are
reported, and one that cannot be read stops the run. -/
def SedRun.openNext (r : SedRun) (cfg : SedConfig) (prog : Array SedInstr) : Nat → SedRun
  | 0 => r
  | n + 1 =>
    if ¬ r.current.isEmpty then r
    else match r.sources with
      | [] => r
      | s :: rest =>
        let r := r.startFile cfg prog
        match s.lines with
        | .error (.missing msg) =>
          let r := { r with sources := rest, unreadable := true, err := r.err ++ Text.Utf8.encode msg }
          r.openNext cfg prog n
        | .error (.fatal msg) => { r with sources := [], halted := true, err := r.err ++ Text.Utf8.encode msg }
        | .ok ls =>
          let r := { r with sources := rest, current := ls, fileName := s.name, opened := true }
          r.openNext cfg prog n

/-- Reads the next line into the pattern space (after what was queued is written), when there
is one; with `append` it is added to the pattern space after the delimiter. -/
def SedRun.readLine (r : SedRun) (cfg : SedConfig) (prog : Array SedInstr) (append : Bool) :
    SedRun × Bool :=
  let r := r.dumpAppends cfg
  let r := { r with substituted := false }
  let r := r.openNext cfg prog (r.sources.length + 1)
  match r.current with
  | (l, closed) :: more =>
    let ps := if append then r.ps ++ [cfg.delimChar] ++ l else l
    ({ r with ps := ps, chomped := closed, current := more, lineNo := r.lineNo + 1 }, true)
  | [] => (r, false)

/-! ## Addresses -/

def SedRun.resolve (r : SedRun) (p : Option SedPattern) : Except String (SedRun × SedPattern) :=
  match p.orElse fun _ => r.lastRegex with
  | some q => .ok ({ r with lastRegex := some q }, q)
  | none => .error "no previous regular expression"

def SedRun.matches (r : SedRun) (cfg : SedConfig) (a : SedAddr) : Except String (SedRun × Bool) :=
  match a with
  | .line n => .ok (r, r.lineNo == n)
  | .last => .ok (r.probeLast cfg)
  | .step f s => .ok (r, decide (f ≤ r.lineNo) && (r.lineNo - f) % s == 0)
  | .pattern p => do
    let (r, q) ← r.resolve p
    return (r, (q.rx.search r.ps.toArray 0 q.mode).isSome)
  | _ => .ok (r, false)

def SedRun.setRange (r : SedRun) (k : Nat) (st : RangeState) : SedRun :=
  { r with ranges := r.ranges.set! k st }

def SedRun.selects (r : SedRun) (cfg : SedConfig) (k : Nat) (range : SedRange) :
    Except String (SedRun × Bool) := do
  let (r, inside) ← match range.first, range.last with
    | none, _ => pure (r, true)
    | some a, none => r.matches cfg a
    | some a, some b =>
      match r.ranges[k]?.getD .idle with
      | .active (some stop) =>
        let r := if stop ≤ r.lineNo then r.setRange k .closed else r
        pure (r, decide (r.lineNo ≤ stop))
      | .active none =>
        let (r, ends) ← r.matches cfg b
        pure (if ends then r.setRange k .closed else r, true)
      | _ =>
        let (r, starts) ← match a with
          | .line 0 => pure (r, false)
          | _ => r.matches cfg a
        if ¬ starts then pure (r, false)
        else
          let l := r.lineNo
          let st : Option RangeState := match b with
            | .line n => if n ≤ l then none else some (.active (some n))
            | .plus n => some (.active (some (l + n)))
            | .multiple n => some (.active (some ((l / n + 1) * n)))
            | .none => none
            | _ => some (.active none)
          pure ((st.map (r.setRange k ·)).getD r, true)
  return (r, inside != range.negate)

/-! ## Substitution -/

def applyCase (mode : CaseMode) (cs : List Char) : List Char :=
  match mode with
  | .upper => cs.map Text.Unicode.toUpper
  | .lower => cs.map Text.Unicode.toLower
  | .asIs => cs

def replaceWith (repl : List ReplPart) (s : Array Char) (start : Nat) (h : Hit) : List Char :=
  let piece (p : ReplPart) : List Char := match p with
    | .text cs => cs
    | .group 0 => (s.extract start h.pos).toList
    | .group k => (h.group s k).getD []
    | _ => []
  let (out, _, _) := repl.foldl (fun (acc : List Char × CaseMode × Option Bool) p =>
    let (out, mode, next) := acc
    match p with
    | .caseAll m => (out, m, none)
    | .caseNext u => (out, mode, some u)
    | p =>
      let t := applyCase mode (piece p)
      let t := match next, t with
        | some u, c :: more => (if u then Text.Unicode.toUpper c else Text.Unicode.toLower c) :: more
        | _, t => t
      (out ++ t, mode, if t.isEmpty then next else none)) ([], .asIs, none)
  out

/-- Replaces the matches of an expression in a text: the `nth` one, and with `global` all after
it too. -/
def replaceMatches (rx : Regex) (mode : MatchMode) (repl : List ReplPart) (global : Bool)
    (nth : Nat) (text : List Char) : Option (List Char) × Option (Nat × Hit) :=
  let s := text.toArray
  let first := rx.search s 0 mode
  let rec go : Nat → Nat → Nat → Option Nat → List Char → Bool → Option (List Char)
    | 0, _, _, _, acc, done => if done then some acc else none
    | fuel + 1, pos, count, prevEnd, acc, done =>
      let finish (acc : List Char) (done : Bool) : Option (List Char) :=
        if done then some (acc ++ (s.extract pos s.size).toList) else none
      match rx.search s pos mode with
      | none => finish acc done
      | some (i, h) =>
        let before := (s.extract pos i).toList
        if h.pos == i && prevEnd == some i then
          if h' : i < s.size then go fuel (i + 1) count none (acc ++ before ++ [s[i]]) done
          else finish acc done
        else
          let count := count + 1
          let take := count ≥ nth && (global || count == nth)
          let piece := if take then replaceWith repl s i h else (s.extract i h.pos).toList
          let done := done || take
          if !global && take then some (acc ++ before ++ piece ++ (s.extract h.pos s.size).toList)
          else if h.pos == i then
            if h' : i < s.size then go fuel (i + 1) count none (acc ++ before ++ piece ++ [s[i]]) done
            else some (acc ++ before ++ piece)
          else go fuel h.pos count (some h.pos) (acc ++ before ++ piece) done
  (if first.isSome then go (s.size + 2) 0 0 none [] false else none, first)

def byteOffset (s : Array Char) (i : Nat) : Nat :=
  ((s.extract 0 i).toList.map charBytes).sum

/-- The groups of a match as the trace writes them, from the whole match on, up to the first
group that took no part. -/
def traceRegisters (s : Array Char) (start : Nat) (h : Hit) (groups : Nat) : String :=
  let spanOf (k : Nat) : Option (Nat × Nat) := if k = 0 then some (start, h.pos) else h.caps.lookup k
  let shown := ((List.range (groups + 1)).map fun k => (k, spanOf k)).takeWhile (·.2.isSome)
  "MATCHED REGEX REGISTERS\n" ++ String.join (shown.map fun (k, span) =>
    let (a, b) := span.getD (0, 0)
    "  regex[" ++ toString k ++ "] = " ++ toString (byteOffset s a) ++ "-" ++ toString (byteOffset s b) ++
      " '" ++ rawText (s.extract a b).toList ++ "'\n")

/-! ## Commands -/

def SedRun.takeLine (r : SedRun) (cfg : SedConfig) (name : String) : SedRun × Option Bytes :=
  match r.files.lookup name with
  | some (some bs) =>
    let k := (r.taken.lookup name).getD 0
    let pieces := splitAtByte cfg.delim bs
    let closed := bs.getLast? == some cfg.delim
    match pieces[k]? with
    | some l =>
      let bytes := l ++ (if k + 1 < pieces.length ∨ closed then [cfg.delim] else [])
      ({ r with taken := (r.taken.filter (·.1 != name)) ++ [(name, k + 1)] }, some bytes)
    | none => (r, none)
  | _ => (r, none)

def SedRun.emitText (r : SedRun) (cfg : SedConfig) (text : List Char) : SedRun :=
  if text.isEmpty then r else r.emitRaw cfg (Text.Unicode.encode text.dropLast ++ [cfg.delim])

/-- What a selected command does: the state after it, and the next command, or how the cycle
ends. -/
def SedRun.perform (r : SedRun) (cfg : SedConfig) (prog : Array SedInstr) (pc : Nat)
    (i : SedInstr) : Sum (SedRun × Nat) (SedRun × SedEnd) :=
  let next (r : SedRun) : Sum (SedRun × Nat) (SedRun × SedEnd) := .inl (r, pc + 1)
  let d := cfg.delimChar
  match i.op with
  | .blockStart _ | .blockEnd | .label _ | .exec _ => next r
  | .subst sub =>
    match r.resolve sub.pattern with
    | .error e => .inr (r, .fail e 1)
    | .ok (r, q) =>
      let (result, first) := replaceMatches q.rx q.mode sub.repl sub.global (sub.number.getD 1) r.ps
      let r := match first with
        | some (start, h) =>
          if cfg.debug then r.trace cfg (traceRegisters r.ps.toArray start h q.rx.groups) else r
        | none => r
      match result with
      | some ps =>
        let r := { r with ps := ps, substituted := true }
        let r := if sub.print then r.emitPattern cfg else r
        let r := match sub.write with
          | some f => r.writeTo cfg f r.ps r.chomped
          | none => r
        next (r.tracePatternSpace cfg)
      | none => next (r.tracePatternSpace cfg)
  | .translit pairs =>
    let ps := r.ps.map fun c => ((pairs.reverse.find? (·.1 == c)).map (·.2)).getD c
    next ({ r with ps := ps }.tracePatternSpace cfg)
  | .print => next (r.emitPattern cfg)
  | .printFirst =>
    if r.ps.contains d then next (r.emitLine cfg (r.ps.takeWhile (· ≠ d)) true)
    else next (r.emitPattern cfg)
  | .delete => .inr (r, .endCycle false)
  | .deleteFirst =>
    if r.ps.contains d then .inr ({ r with ps := (r.ps.dropWhile (· ≠ d)).drop 1 }, .restart)
    else .inr (r, .nextCycle)
  | .next =>
    let r := if cfg.quiet then r else r.emitPattern cfg
    let (r, last) := r.probeLast cfg
    if last then .inr (r, .endCycle false)
    else match r.readLine cfg prog false with
      | (r, true) => next (r.tracePatternSpace cfg)
      | (r, false) => .inr (r, .endCycle false)
  | .appendNext =>
    let (r, last) := r.probeLast cfg
    if last then .inr (r, .endCycle (¬ cfg.posix))
    else match r.readLine cfg prog true with
      | (r, true) => next (r.tracePatternSpace cfg)
      | (r, false) => .inr (r, .endCycle (¬ cfg.posix))
  | .quit code p => .inr (r, .quit p (code.getD 0))
  | .lineNumber => next (r.emitRaw cfg (Text.Utf8.encode (toString r.lineNo) ++ [cfg.delim]))
  | .fileName => next (r.emitRaw cfg (Text.Utf8.encode r.fileName ++ [cfg.delim]))
  | .append t => next { r with appends := r.appends ++ [.text (Text.Unicode.encode t)] }
  | .insert t => next (r.emitText cfg t)
  | .change t =>
    let inside := match r.ranges[pc]? with
      | some (.active _) => true
      | _ => false
    let r := if inside then r else r.emitText cfg t
    .inr (r, .endCycle false)
  | .hold => next ({ r with hold := r.ps }.traceHold cfg)
  | .holdAppend => next ({ r with hold := r.hold ++ [d] ++ r.ps }.traceHold cfg)
  | .fetch => next ({ r with ps := r.hold }.traceHold cfg)
  | .fetchAppend => next ({ r with ps := r.ps ++ [d] ++ r.hold }.tracePatternSpace cfg)
  | .exchange => next (({ r with ps := r.hold, hold := r.ps }.tracePatternSpace cfg).traceHold cfg)
  | .branch _ t => .inl (r, t)
  | .ifSubst _ t => if r.substituted then .inl ({ r with substituted := false }, t) else next r
  | .unlessSubst _ t => if r.substituted then next { r with substituted := false } else .inl (r, t)
  | .list w => next (r.emitRaw cfg (listed (w.getD cfg.lineWidth) cfg.delim r.ps))
  | .readFile name => next { r with appends := r.appends ++ [.file name] }
  | .readLine name =>
    let (r, line) := r.takeLine cfg name
    match line with
    | some bs => next { r with appends := r.appends ++ [.line bs] }
    | none => next r
  | .writeFile name => next (r.writeTo cfg name r.ps r.chomped)
  | .writeFirst name =>
    if r.ps.contains d then next (r.writeTo cfg name (r.ps.takeWhile (· ≠ d)) true)
    else next (r.writeTo cfg name r.ps r.chomped)
  | .zap => next ({ r with ps := [] }.tracePatternSpace cfg)

/-- Runs the commands of a script from one of them on, until the cycle ends; none when the
fuel, which bounds the commands run, runs out. -/
def SedRun.exec (prog : Array SedInstr) (cfg : SedConfig) : Nat → Nat → SedRun → Option (SedRun × SedEnd)
  | 0, _, _ => none
  | fuel + 1, pc, r =>
    if h : pc < prog.size then
      let i := prog[pc]
      let r := if cfg.debug then
          let (t, l) := traceInstr r.level i
          { r.trace cfg ("COMMAND: " ++ t ++ "\n") with level := l }
        else r
      match r.selects cfg pc i.range with
      | .error e => some (r, .fail e 1)
      | .ok (r, on) =>
        if on then
          match r.perform cfg prog pc i with
          | .inl (r, target) => SedRun.exec prog cfg fuel target r
          | .inr e => some e
        else
          match i.op with
          | .blockStart close => SedRun.exec prog cfg fuel close r
          | _ => SedRun.exec prog cfg fuel (pc + 1) r
    else some (r, .endCycle true)

/-- Runs cycles until the input ends, the script quits or fails; none when it runs out of
fuel. -/
def SedRun.cycles (prog : Array SedInstr) (cfg : SedConfig) (steps : Nat) : Nat → SedRun → Bool → Option SedRun
  | 0, _, _ => none
  | fuel + 1, r, again =>
    let (r, started) :=
      if again then (r.tracePatternSpace cfg, true)
      else match r.readLine cfg prog false with
        | (r, true) =>
          let name := if r.fileName = "-" then "STDIN" else r.fileName
          let r := if cfg.debug then
              r.trace cfg ("INPUT:   '" ++ name ++ "' line " ++ toString r.lineNo ++ "\n")
            else r
          (r.tracePatternSpace cfg, true)
        | (r, false) => (r, false)
    if ¬ started then some r
    else
      match SedRun.exec prog cfg steps 0 r with
      | none => none
      | some (r, e) =>
        match e with
        | .endCycle auto =>
          let r := if cfg.debug then r.trace cfg "END-OF-CYCLE:\n" else r
          let r := if auto ∧ ¬ cfg.quiet then r.emitPattern cfg else r
          SedRun.cycles prog cfg steps fuel r false
        | .restart => SedRun.cycles prog cfg steps fuel r true
        | .nextCycle => SedRun.cycles prog cfg steps fuel r false
        | .quit p code =>
          let r := if p ∧ ¬ cfg.quiet then r.emitPattern cfg else r
          let r := if p then r.dumpAppends cfg else r
          some { r with quitCode := some code }
        | .fail msg status => some { r with failure := some (msg, status) }

/-- Runs a script over its inputs: the final state, or none when it never ends. -/
def runSed (prog : Array SedInstr) (cfg : SedConfig) (sources : List SedSource)
    (files : List (String × Option Bytes)) : Option SedRun :=
  let total := (sources.map fun s => match s.lines with
    | .ok ls => ls.length + (ls.map (·.1.length)).sum
    | .error _ => 0).sum
  let start : SedRun := { sources := sources, files := files, ranges := initialRanges prog }
  let start := if cfg.debug then start.trace cfg (traceProgram prog) else start
  let steps := (prog.size + 1) * (total + 2) * 4 + 4096
  (SedRun.cycles prog cfg steps (total + 2) start false).map fun r =>
    if cfg.inPlace ∧ r.opened then { r with finished := r.finished ++ [(r.fileName, r.out.toList)], out := #[] }
    else r

end SqlMigration.Shell
