import SqlMigration.Shell.State
import SqlMigration.Shell.Pattern
import SqlMigration.Shell.Mode
import SqlMigration.Text.Unicode

/-!
# Utilities

The programs a script can run besides the shell's own commands, each over the state of the
shell that runs it: it reads its standard input and the files of the tree, writes its standard
output and error output, and ends with a status.
-/

-- powers and sums of numbers are read with the core instances, whatever else is imported
attribute [local instance (high)] instPowNat Zero.ofOfNat0

namespace SqlMigration.Shell

/-! ## Reading and writing -/

def byteLines (bs : Bytes) : List Bytes × Bool :=
  let parts := go bs [] []
  match bs.getLast? with
  | some 10 => (parts.dropLast, true)
  | _ => (if bs.isEmpty then [] else parts, false)
where
  go : Bytes → Bytes → List Bytes → List Bytes
    | [], cur, acc => (cur.reverse :: acc).reverse
    | b :: rest, cur, acc => if b = 10 then go rest [] (cur.reverse :: acc) else go rest (b :: cur) acc

def joinLines (ls : List Bytes) (lastOpen : Bool := false) : Bytes :=
  match ls with
  | [] => []
  | _ =>
    let body := (ls.map (· ++ [10])).flatten
    if lastOpen then body.dropLast else body

def bytesText (bs : Bytes) : String := String.ofList (Text.Utf8.decodeLossy bs)

def readError (e : Errno) : String := e.text

/-- Reads a file operand: `-` and `/dev/stdin` are the standard input, `/dev/null` is empty, and
other absolute paths are outside the tree. -/
def readOperand (name : String) : Sh (Except Errno Bytes) := do
  if name = "-" ∨ name = "/dev/stdin" then return .ok (← readRest 0)
  if name = "/dev/null" then return .ok []
  if let some bs := (← get).procFiles.lookup name then return .ok bs
  let p ← pathOf name
  match (← get).tree.readFile p with
  | .ok bs => return .ok bs
  | .error e => return .error e.errno

def writeTreeFile (name : String) (bs : Bytes) : Sh (Option Errno) := do
  let path ← pathOf name
  let t := (← get).tree
  match t.writeFile path bs with
  | .ok t' =>
    modify fun s => { s with tree := t' }
    return none
  | .error e => return some e.errno

def splitAtByte (sep : UInt8) (bs : Bytes) : List Bytes :=
  let parts := go bs []
  match parts.getLast? with
  | some [] => parts.dropLast
  | _ => parts
where
  go : Bytes → Bytes → List Bytes
    | [], cur => [cur.reverse]
    | b :: rest, cur => if b = sep then cur.reverse :: go rest [] else go rest (b :: cur)

/-- The name a program goes by in its messages: the path it was invoked by, when it was invoked
by one. -/
def shownName (prog : String) : Sh String := do
  match (← get).invoked with
  | some path => return if (Path.ofString path).name = prog then path else prog
  | none => return prog

def gnuSay (prog text : String) : Sh Unit := do
  say 2 ((← shownName prog) ++ ": " ++ text ++ "\n")

/-- Reports, as a program does when it closes its standard output, that writing to it failed
for a reason (the device full, or the descriptor closed), and sets the status it ends with. -/
def reportWriteError (name why : String) : Sh Unit := do
  let closed := why = "Bad file descriptor"
  if name = "sort" then
    gnuSay name ("fflush failed: 'standard output': " ++ why)
    gnuSay name (if closed then "write error: " ++ why else "write error")
    setStatus 2
  else if name = "grep" ∨ name = "egrep" ∨ name = "fgrep" then
    gnuSay "grep" ("write error: " ++ why)
    setStatus 2
  else if name = "sed" then
    gnuSay name ((if closed then "couldn't close stdout: " else "couldn't flush stdout: ") ++ why)
    setStatus 4
  else if name = "find" then
    gnuSay name ("'standard output': " ++ why)
    gnuSay name (if closed then "write error: " ++ why else "write error")
    setStatus 1
  else if name = "awk" ∨ name = "mawk" then
    say 2 (name ++ ": close failed on file \"/dev/stdout\" (" ++ why ++ ")\n")
    setStatus 2
  else if name = "tee" then
    gnuSay name ("'standard output': " ++ why)
    setStatus 1
  else if name = "cat" ∧ closed then
    gnuSay name ("standard output: " ++ why)
    setStatus 1
  else if name = "wc" ∧ ¬ closed then
    gnuSay name "write error"
    setStatus 1
  else if name = "rev" then
    if ¬ closed then
      gnuSay name ("write error: " ++ why)
      setStatus 1
  else
    gnuSay name ("write error: " ++ why)
    setStatus (if name = "ls" ∨ name = "printenv" then 2 else if name = "expr" then 3
      else if name = "env" then 125 else 1)

def usageError (prog text : String) (status : Nat := 1) : Sh Unit := do
  let prog ← shownName prog
  say 2 (prog ++ ": " ++ text ++ "\nTry '" ++ prog ++ " --help' for more information.\n")
  setStatus status

def gnuQuote (s : String) : String :=
  if s.contains '\'' then "\"" ++ s ++ "\"" else "'" ++ s ++ "'"

/-! ## Options -/

/-- The options a program takes: flags, options with a value, and long names of each; and the
status of a wrong one. -/
structure OptSpec where
  flags : List Char := []
  valued : List Char := []
  /-- Options whose value is optional: only a value attached to the option (or after `=`) is
  theirs, and none is recorded as the empty text. -/
  optional : List Char := []
  /-- The long names, in the order of the program's table, which is the order an ambiguous
  abbreviation lists them in. -/
  longs : List (String × Char) := []
  status : Nat := 1
  /-- Options come first: the first operand ends them, as does an argument `operandLike`
  holds for at a place where an option could stand. -/
  inOrder : Bool := false
  operandLike : String → Bool := fun _ => false

def longOnly (k : Nat) : Char := Char.ofNat (0xE000 + k)

def helpOption : Char := Char.ofNat 0xE0FE
def versionOption : Char := Char.ofNat 0xE0FF

/-- The long options of a program, with `--help` and `--version` after its own unless its
table places them itself. -/
def OptSpec.allLongs (spec : OptSpec) : List (String × Char) :=
  spec.longs ++ (if spec.longs.any (·.1 = "help") then [] else [("help", helpOption)]) ++
    (if spec.longs.any (·.1 = "version") then [] else [("version", versionOption)])

/-- The long option a name given after `--` stands for: the option of exactly that name, or
else the only one whose name it begins (several names of one option count as one). -/
def OptSpec.longNamed (spec : OptSpec) (name shown : String) : Except (Option String) (String × Char) :=
  let longs := spec.allLongs
  match longs.find? (·.1 = name) with
  | some o => .ok o
  | none =>
    match longs.filter (·.1.startsWith name) with
    | [] => .error none
    | o :: more =>
      if more.all (·.2 = o.2) then .ok o
      else .error (some ("option '--" ++ shown ++ "' is ambiguous; possibilities:" ++
        String.join ((o :: more.filter (·.2 ≠ o.2)).map fun (n, _) => " '--" ++ n ++ "'")))

/-- Options read from arguments, with their values, and the operands. -/
structure Parsed where
  opts : List (Char × String) := []
  operands : List String := []

def Parsed.has (p : Parsed) (c : Char) : Bool := p.opts.any (·.1 == c)

def Parsed.value? (p : Parsed) (c : Char) : Option String :=
  (p.opts.reverse.find? (·.1 == c)).map (·.2)

/-- Reads GNU-style arguments: short options grouped or apart, a value attached or in the next
argument, long options with `=` or the next argument, operands anywhere, `--` ending options. -/
def parseOptsUntil (spec : OptSpec) (args : List String) : Parsed × Option String :=
  go (args.length + 1) args {}
where
  shorts : Nat → List Char → List String → Parsed → Parsed × List String × Option String
    | 0, _, rest, p => (p, rest, none)
    | _ + 1, [], rest, p => (p, rest, none)
    | k + 1, c :: cs, rest, p =>
      if spec.flags.contains c then shorts k cs rest { p with opts := p.opts ++ [(c, "")] }
      else if spec.optional.contains c then ({ p with opts := p.opts ++ [(c, String.ofList cs)] }, rest, none)
      else if spec.valued.contains c then
        if ¬ cs.isEmpty then ({ p with opts := p.opts ++ [(c, String.ofList cs)] }, rest, none)
        else match rest with
          | v :: more => ({ p with opts := p.opts ++ [(c, v)] }, more, none)
          | [] => (p, [], some ("option requires an argument -- '" ++ String.singleton c ++ "'"))
      else (p, rest, some ("invalid option -- '" ++ String.singleton c ++ "'"))
  go : Nat → List String → Parsed → Parsed × Option String
    | 0, _, p => (p, none)
    | _ + 1, [], p => (p, none)
    | k + 1, a :: rest, p =>
      if a = "--" then ({ p with operands := p.operands ++ rest }, none)
      else if spec.inOrder ∧ (¬ a.startsWith "-" ∨ a = "-" ∨ spec.operandLike a) then
        ({ p with operands := p.operands ++ a :: rest }, none)
      else if a.startsWith "--" then
        let body := String.ofList (a.toList.drop 2)
        let (name, value) := match body.splitOn "=" with
          | n :: v :: more => (n, some ("=".intercalate (v :: more)))
          | _ => (body, none)
        match spec.longNamed name body with
        | .error none => (p, some ("unrecognized option '" ++ a ++ "'"))
        | .error (some e) => (p, some e)
        | .ok (full, c) =>
          if spec.optional.contains c then go k rest { p with opts := p.opts ++ [(c, value.getD "")] }
          else if spec.valued.contains c then
            match value, rest with
            | some v, _ => go k rest { p with opts := p.opts ++ [(c, v)] }
            | none, v :: more => go k more { p with opts := p.opts ++ [(c, v)] }
            | none, [] => (p, some ("option '--" ++ full ++ "' requires an argument"))
          else if value.isSome then (p, some ("option '--" ++ full ++ "' doesn't allow an argument"))
          else go k rest { p with opts := p.opts ++ [(c, "")] }
      else if a.startsWith "-" ∧ a.length > 1 then
        match shorts (a.length + 1) (a.toList.drop 1) rest p with
        | (p, rest, none) => go k rest p
        | (p, _, some e) => (p, some e)
      else go k rest { p with operands := p.operands ++ [a] }

def parseOpts (spec : OptSpec) (args : List String) : Except String Parsed :=
  match parseOptsUntil spec args with
  | (p, none) => .ok p
  | (_, some e) => .error e

/-- The choice among fixed words that an option's value names, as GNU programs read one: the
word itself, or else the meaning of the words it begins when they all have one. -/
def argMatch {α : Type} [BEq α] (option value : String) (choices : List (String × α)) :
    Except String α :=
  match choices.find? (·.1 = value) with
  | some (_, a) => .ok a
  | none =>
    let listed := choices.zipIdx.foldl (fun (acc : String × Option α) ((w, a), i) =>
      let sameAsLast := i > 0 && acc.2.any (· == a)
      (acc.1 ++ (if sameAsLast then ", " else "\n  - ") ++ localeQuote w, some a)) ("", none)
    let complaint (kind : String) : Except String α :=
      .error (kind ++ " argument " ++ localeQuote value ++ " for " ++ localeQuote option ++
        "\nValid arguments are:" ++ listed.1)
    match choices.filter (·.1.startsWith value) with
    | (_, a) :: more =>
      if more.all (·.2 == a) then .ok a else complaint "ambiguous"
    | [] => complaint "invalid"

/-- Writes the whole of a file named by an operand: the standard output and error by their
device names, nothing for the null device, and otherwise a file of the tree, answering why it
cannot be written. -/
def writeNamed (name : String) (bs : Bytes) : Sh (Option Errno) := do
  if name = "/dev/stdout" then
    emit 1 bs
    return none
  if name = "/dev/stderr" then
    emit 2 bs
    return none
  if name = "/dev/null" then return none
  let path ← pathOf name
  match (← get).tree.writeFile path bs with
  | .ok t =>
    modify fun s => { s with tree := t }
    return none
  | .error e => return some e.errno

def withOpts (prog : String) (spec : OptSpec) (args : List String) (body : Parsed → Sh Unit) :
    Sh Unit :=
  match parseOpts spec args with
  | .ok p => body p
  | .error e => usageError prog e spec.status

/-- Why a number given to a GNU program is refused: it is malformed, or out of range for the
reason its message ends with. -/
inductive NumberFault where
  | malformed
  | outOfRange (reason : String)
  deriving DecidableEq, Repr

def NumberFault.suffix : NumberFault → String
  | .malformed => ""
  | .outOfRange r => ": " ++ r

def valueTooLarge : String := "Value too large for defined data type"
def resultOutOfRange : String := "Numerical result out of range"

/-- The factor a multiplier suffix stands for, with the power base (1024, or 1000 after a
`B`): `b` 512, `k` `K` the base, `m` `M` its square, then `G` `T` `P` `E` `Z` `Y`; also `c` 1,
`w` 2 and `B` 1024. -/
def suffixFactor (c : Char) (base : Nat) : Option Nat :=
  match c with
  | 'b' => some 512
  | 'B' => some 1024
  | 'c' => some 1
  | 'w' => some 2
  | 'k' | 'K' => some base
  | 'm' | 'M' => some (base ^ (2 : Nat))
  | 'g' | 'G' => some (base ^ (3 : Nat))
  | 't' | 'T' => some (base ^ (4 : Nat))
  | 'P' => some (base ^ (5 : Nat))
  | 'E' => some (base ^ (6 : Nat))
  | 'Z' => some (base ^ (7 : Nat))
  | 'Y' => some (base ^ (8 : Nat))
  | _ => none

/-- Reads a number as GNU programs do: optional blanks and a sign (a minus only when `signed`),
decimal digits, and at most one multiplier among `suffixes` (a lone suffix counts one of it);
with `0` among them a `B` after a power letter makes powers of 1000 and `iB` keeps 1024. -/
def readScaled (s : String) (suffixes : String) (signed : Bool) (lo hi : Int) :
    Except NumberFault Int := do
  let cs := s.toList.dropWhile fun c => c = ' ' ∨ c = '\t' ∨ c = '\n' ∨ c = '\x0b' ∨ c = '\x0c' ∨ c = '\r'
  let (neg, body) := match cs with
    | '-' :: r => (true, r)
    | '+' :: r => (false, r)
    | r => (false, r)
  if neg ∧ ¬ signed then throw .malformed
  let digits := body.takeWhile Char.isDigit
  let rest := body.drop digits.length
  let limit : Nat := if signed then (if neg then 2 ^ (63 : Nat) else 2 ^ (63 : Nat) - 1) else 2 ^ (64 : Nat) - 1
  let magnitude ← if digits.isEmpty then
      match s.toList with
      | c :: _ => if suffixes.toList.contains c then pure 1 else throw .malformed
      | [] => throw .malformed
    else pure (String.ofList digits).toNat!
  let mut overflow : Bool := decide (magnitude > limit)
  let mut value := min magnitude limit
  match rest with
  | [] => pure ()
  | c :: more =>
    if ¬ suffixes.toList.contains c then throw .malformed
    let powerLetter := "EGgkKMmPTtYZ".toList.contains c
    let (base, used) : Nat × Nat :=
      if powerLetter ∧ suffixes.toList.contains '0' then
        match more with
        | 'i' :: 'B' :: _ => (1024, 3)
        | 'B' :: _ | 'D' :: _ => (1000, 2)
        | _ => (1024, 1)
      else (1024, 1)
    match suffixFactor c base with
    | none => throw .malformed
    | some f =>
      if value * f > limit then overflow := true
      value := min (value * f) limit
      if rest.length > used then throw .malformed
  if overflow then throw (.outOfRange valueTooLarge)
  let v : Int := if neg then -(value : Int) else value
  if v < lo ∨ v > hi then
    throw (.outOfRange (if v > 1073741823 ∨ v < -1073741824 then valueTooLarge else resultOutOfRange))
  return v

def countSuffixes : String := "bkKmMGTPEZY0"

def countOf? (s : String) : Option Nat :=
  if ¬ s.isEmpty ∧ s.toList.all Char.isDigit then s.toNat? else none

/-! ## Reading programs -/

def inputNames (p : Parsed) : List String := if p.operands.isEmpty then ["-"] else p.operands

/-- A byte as `cat -v` shows it: a control character as `^` and its letter, DEL as `^?`, and a
byte from 128 on as `M-` and the byte 128 below it shown so. -/
def shownByte (b : UInt8) : Bytes :=
  let low (c : Nat) : Bytes :=
    if c < 32 then [94, (c + 64).toUInt8] else if c = 127 then [94, 63] else [c.toUInt8]
  if b.toNat ≥ 128 then [77, 45] ++ low (b.toNat - 128) else low b.toNat

/-- The choices of `cat` that change what it writes. -/
structure CatStyle where
  number : Bool := false
  nonblank : Bool := false
  squeeze : Bool := false
  ends : Bool := false
  tabs : Bool := false
  visible : Bool := false

/-- Where `cat` is in its input, which runs on from one file to the next: the line feeds just
read (-1 inside a line, 0 at the start, 2 for two or more), and the next line number. -/
structure CatState where
  newlines : Int := 0
  number : Nat := 1

def catNumber (n : Nat) : Bytes :=
  let s := toString n
  Text.Utf8.encode (String.ofList (List.replicate (6 - s.length) ' ') ++ s ++ "\t")

/-- One byte of input: a line feed ends a line (an empty one is dropped when it follows another
with `-s`, and numbered with `-n`); any other byte goes out shown as the style asks, after the
line's number when it starts a line. -/
def CatState.step (style : CatStyle) (acc : Bytes × CatState) (b : UInt8) : Bytes × CatState :=
  let (out, st) := acc
  if b = 10 then
    let n := st.newlines + 1
    let ending : Bytes := if style.ends then [36, 10] else [10]
    if n > 0 then
      let n := min n 2
      if n ≥ 2 ∧ style.squeeze then (out, { st with newlines := n })
      else if style.number ∧ ¬ style.nonblank then
        (out ++ catNumber st.number ++ ending, { newlines := n, number := st.number + 1 })
      else (out ++ ending, { st with newlines := n })
    else (out ++ ending, { st with newlines := n })
  else
    let (pre, st) := if st.newlines ≥ 0 ∧ style.number then
        (catNumber st.number, { st with number := st.number + 1 })
      else ([], st)
    let shown : Bytes :=
      if b = 9 then (if style.tabs then [94, 73] else [9])
      else if style.visible then shownByte b else [b]
    (out ++ pre ++ shown, { st with newlines := -1 })

/-- `cat`: the files in turn; `-n` numbers every line, `-b` the non-empty ones, `-E` marks line
ends, `-T` shows tabs, `-v` shows other control and non-ASCII bytes, `-s` squeezes repeated empty
lines. -/
def catUtility (args : List String) : Sh Unit :=
  withOpts "cat" { flags := "benstuvAET".toList, longs := [("number-nonblank", 'b'), ("number", 'n'),
      ("squeeze-blank", 's'), ("show-nonprinting", 'v'), ("show-ends", 'E'), ("show-tabs", 'T'),
      ("show-all", 'A')] } args fun p => do
    let style : CatStyle :=
      { number := p.has 'n' ∨ p.has 'b', nonblank := p.has 'b', squeeze := p.has 's',
        ends := p.has 'E' ∨ p.has 'A' ∨ p.has 'e', tabs := p.has 'T' ∨ p.has 'A' ∨ p.has 't',
        visible := p.has 'v' ∨ p.has 'A' ∨ p.has 'e' ∨ p.has 't' }
    let plain := ¬ (style.number ∨ style.squeeze ∨ style.ends ∨ style.tabs ∨ style.visible)
    let output ← channelOf 1
    if output.isNone then
      gnuSay "cat" "standard output: Bad file descriptor"
      setStatus 1
      return
    let mut failed := false
    let mut st : CatState := {}
    for name in inputNames p do
      let same ← match output with
        | some (.file q) =>
          if name = "-" then pure false
          else do
            let path ← pathOf name
            pure (path = q ∧ ¬ ((← get).tree.readFile q |>.toOption.getD []).isEmpty)
        | _ => pure false
      if same then
        gnuSay "cat" (name ++ ": input file is output file")
        failed := true
        continue
      match ← readOperand name with
      | .error e =>
        gnuSay "cat" (name ++ ": " ++ readError e)
        failed := true
      | .ok bs =>
        if plain then emit 1 bs
        else
          let (out, st') := bs.foldl (CatState.step style) ([], st)
          st := st'
          emit 1 out
    setStatus (if failed then 1 else 0)

def signedCount? (s : String) : Option (Bool × Nat) :=
  match s.toList with
  | '-' :: ds => (countOf? (String.ofList ds)).map (true, ·)
  | '+' :: ds => (countOf? (String.ofList ds)).map (false, ·)
  | _ => (countOf? s).map (false, ·)

def countShorthand (args : List String) : List String :=
  match args with
  | a :: rest =>
    match a.toList with
    | '-' :: ds => if ¬ ds.isEmpty ∧ ds.all Char.isDigit then "-n" :: String.ofList ds :: rest else args
    | _ => args
  | [] => args

def headOpts : OptSpec :=
  { flags := "qvz".toList
    valued := "nc".toList
    longs := [("bytes", 'c'), ("lines", 'n'), ("-presume-input-pipe", longOnly 0), ("quiet", 'q'),
      ("silent", 'q'), ("verbose", 'v'), ("zero-terminated", 'z')] }

def tailOpts : OptSpec :=
  { flags := "qvfFz".toList
    valued := "ncs".toList
    optional := [longOnly 0]
    longs := [("bytes", 'c'), ("follow", longOnly 0), ("lines", 'n'),
      ("max-unchanged-stats", longOnly 1), ("-disable-inotify", longOnly 2), ("pid", longOnly 3),
      ("-presume-input-pipe", longOnly 4), ("quiet", 'q'), ("retry", longOnly 5), ("silent", 'q'),
      ("sleep-interval", 's'), ("verbose", 'v'), ("zero-terminated", 'z')] }

/-- `head`: the first lines (10, or `-n`) or bytes (`-c`) of each file; a negative count keeps
all but the last ones. -/
def headUtility (args : List String) : Sh Unit :=
  withOpts "head" headOpts (countShorthand args) fun p => do
    let bytesMode := (p.value? 'c').isSome
    let given := if bytesMode then (p.value? 'c').getD "" else (p.value? 'n').getD "10"
    let allBut := given.startsWith "-"
    let countText := if allBut then String.ofList (given.toList.drop 1) else given
    match readScaled countText countSuffixes false 0 (2 ^ (64 : Nat) - 1) with
    | .error e =>
      gnuSay "head" ("invalid number of " ++ (if bytesMode then "bytes" else "lines") ++ ": " ++
        localeQuote countText ++ e.suffix)
      setStatus 1
    | .ok count =>
      let k := count.toNat
      let names := inputNames p
      let headers := (names.length > 1 ∧ ¬ p.has 'q') ∨ p.has 'v'
      let mut failed := false
      let mut first := true
      for name in names do
        let fromStdin := name = "-"
        let data ← if fromStdin then do
            let (rest, endless) ← peekRest 0
            if endless ∧ allBut then throw .timeout
            if endless then
              match endlessPrefix rest (if bytesMode then k else 0) (if bytesMode then 0 else k) with
              | some bs => pure (Except.ok bs)
              | none => throw .timeout
            else pure (Except.ok rest)
          else readOperand name
        match data with
        | .error e =>
          gnuSay "head" ("cannot open " ++ gnuQuote name ++ " for reading: " ++ readError e)
          failed := true
        | .ok bs =>
          if headers then
            say 1 ((if first then "" else "\n") ++ "==> " ++ (if fromStdin then "standard input" else name) ++ " <==\n")
          first := false
          let taken : Bytes :=
            if bytesMode then (if allBut then bs.take (bs.length - k) else bs.take k)
            else
              let (ls, closed) := byteLines bs
              if allBut then joinLines (ls.take (ls.length - k)) false
              else
                let kept := ls.take k
                joinLines kept (kept.length = ls.length ∧ ¬ closed)
          emit 1 taken
          if fromStdin then consume 0 taken.length
      setStatus (if failed then 1 else 0)

/-- `tail`: the last lines (10, or `-n`) or bytes (`-c`) of each file; `+N` starts at line or
byte N. -/
def tailUtility (args : List String) : Sh Unit :=
  withOpts "tail" tailOpts (countShorthand args) fun p => do
    let bytesMode := (p.value? 'c').isSome
    let given := if bytesMode then (p.value? 'c').getD "" else (p.value? 'n').getD "10"
    let fromStart := given.startsWith "+"
    let countText := if given.startsWith "-" then String.ofList (given.toList.drop 1) else given
    match readScaled countText countSuffixes false 0 (2 ^ (64 : Nat) - 1) with
    | .error e =>
      gnuSay "tail" ("invalid number of " ++ (if bytesMode then "bytes" else "lines") ++ ": " ++
        localeQuote countText ++ e.suffix)
      setStatus 1
    | .ok count =>
      let k := count.toNat
      if k = 0 ∧ ¬ fromStart ∧ ¬ (p.has 'f' ∨ p.has 'F' ∨ p.has (longOnly 0)) then
        setStatus 0
        return
      let names := inputNames p
      let headers := (names.length > 1 ∧ ¬ p.has 'q') ∨ p.has 'v'
      let mut failed := false
      let mut first := true
      for name in names do
        match ← readOperand name with
        | .error e =>
          gnuSay "tail" ("cannot open " ++ gnuQuote name ++ " for reading: " ++ readError e)
          failed := true
        | .ok bs =>
          if headers then
            say 1 ((if first then "" else "\n") ++ "==> " ++ (if name = "-" then "standard input" else name) ++ " <==\n")
          first := false
          if bytesMode then
            emit 1 (if fromStart then bs.drop (k - 1) else bs.drop (bs.length - k))
          else
            let (ls, closed) := byteLines bs
            let kept := if fromStart then ls.drop (k - 1) else ls.drop (ls.length - k)
            emit 1 (joinLines kept ¬ closed)
      setStatus (if failed then 1 else 0)

/-- `tee`: the standard input to the standard output and to each file (`-a` appends). -/
def teeUtility (args : List String) : Sh Unit :=
  withOpts "tee" { flags := "ai".toList, optional := ['p'], longs := [("append", 'a'),
      ("ignore-interrupts", 'i'), ("output-error", 'p')] } args fun p => do
    let bs ← readRest 0
    emit 1 bs
    let mut failed := false
    for name in p.operands do
      let path ← pathOf name
      let t := (← get).tree
      let old := if p.has 'a' then (t.readFile path).toOption.getD [] else []
      if let some e ← writeNamed name (old ++ bs) then
        gnuSay "tee" (name ++ ": " ++ e.text)
        failed := true
    setStatus (if failed then 1 else 0)

/-- What `wc` counts in one input. -/
structure WcCounts where
  lines : Nat := 0
  words : Nat := 0
  chars : Nat := 0
  bytes : Nat := 0
  longest : Nat := 0
  deriving Repr

def WcCounts.toList (k : WcCounts) : List Nat := [k.lines, k.words, k.chars, k.bytes, k.longest]

def WcCounts.add (a b : WcCounts) : WcCounts :=
  { lines := a.lines + b.lines, words := a.words + b.words, chars := a.chars + b.chars,
    bytes := a.bytes + b.bytes, longest := max a.longest b.longest }

def isNoBreakSpace (c : Char) : Bool :=
  c.toNat = 0xA0 || c.toNat = 0x2007 || c.toNat = 0x202F || c.toNat = 0x2060

/-- Where counting is inside an input: the counts so far, the column of the current line, and
whether a word is open. -/
structure WcScan where
  counts : WcCounts := {}
  column : Nat := 0
  inWord : Bool := false

def WcScan.separate (s : WcScan) : WcScan :=
  let words := s.counts.words + (if s.inWord then 1 else 0)
  { s with counts := { s.counts with words := words }, inWord := false }

def WcScan.endLine (s : WcScan) : WcScan :=
  { s with counts := { s.counts with longest := max s.counts.longest s.column }, column := 0 }

/-- One character of the input. -/
def WcScan.step (s : WcScan) (c : Char) : WcScan :=
  if Text.Unicode.isRaw c then s
  else
    let s := { s with counts := { s.counts with chars := s.counts.chars + 1 } }
    match c with
    | '\n' => ({ s with counts := { s.counts with lines := s.counts.lines + 1 } }).endLine.separate
    | '\r' | '\x0c' => s.endLine.separate
    | '\t' => { s with column := s.column + 8 - s.column % 8 }.separate
    | ' ' => { s with column := s.column + 1 }.separate
    | '\x0b' => s.separate
    | _ =>
      match Text.Unicode.width? c with
      | some w =>
        let s := { s with column := s.column + w }
        if Text.Unicode.isSpace c || isNoBreakSpace c then s.separate else { s with inWord := true }
      | none => s

def wcCounts (bs : Bytes) : WcCounts :=
  let s := (Text.Unicode.decode bs).foldl WcScan.step {}
  let s := s.endLine.separate
  { s.counts with bytes := bs.length }

/-- Reads the value of an option that must be one of some words, or an unambiguous beginning
of one: its index, or none after the complaint and the usage hint. -/
def chooseArgument (prog option given : String) (groups : List (List String)) : Sh (Option Nat) := do
  let indexed := groups.zipIdx.flatMap fun (ws, i) => ws.map (·, i)
  match indexed.find? (·.1 == given) with
  | some (_, i) => return some i
  | none =>
    let starts := indexed.filter (·.1.startsWith given)
    match starts with
    | (_, i) :: more =>
      if more.all (·.2 == i) ∧ ¬ given.isEmpty then return some i
      else
        let valid := groups.map fun ws => "\n  - " ++ ", ".intercalate (ws.map localeQuote)
        say 2 (prog ++ ": ambiguous argument " ++ localeQuote given ++ " for " ++ localeQuote option ++
          "\nValid arguments are:" ++ String.join valid ++ "\nTry '" ++ prog ++ " --help' for more information.\n")
        setStatus 1
        return none
    | [] =>
      let valid := groups.map fun ws => "\n  - " ++ ", ".intercalate (ws.map localeQuote)
      say 2 (prog ++ ": invalid argument " ++ localeQuote given ++ " for " ++ localeQuote option ++
        "\nValid arguments are:" ++ String.join valid ++ "\nTry '" ++ prog ++ " --help' for more information.\n")
      setStatus 1
      return none

/-- What `stat` tells of an operand: none when it fails, else the size of a regular file or
none for anything else. -/
def statOperand (name : String) : Sh (Option (Option Nat)) := do
  if name = "-" ∨ name = "/dev/stdin" then return some (← regularSize 0)
  if name = "/dev/null" then return some none
  let p ← pathOf name
  match (← get).tree.stat p with
  | .ok (.file bs) => return some (some bs.length)
  | .ok _ => return some none
  | .error _ => return none

/-- `wc`: lines, words, characters, bytes and the longest line's width (those asked for by
`-l`, `-w`, `-m`, `-c`, `-L`, or lines, words and bytes) of each file, and their total. -/
def wcUtility (args : List String) : Sh Unit :=
  let spec : OptSpec :=
    { flags := "lwcmL".toList, valued := [longOnly 0, longOnly 1],
      longs := [("bytes", 'c'), ("chars", 'm'), ("lines", 'l'), ("words", 'w'),
        ("files0-from", longOnly 0), ("max-line-length", 'L'), ("total", longOnly 1)] }
  withOpts "wc" spec args fun p => do
    let totalMode ← match p.value? (longOnly 1) with
      | some v => chooseArgument "wc" "--total" v [["auto"], ["always"], ["only"], ["never"]]
      | none => pure (some 0)
    let some mode := totalMode | pure ()
    let none' := !(p.has 'l' || p.has 'w' || p.has 'c' || p.has 'm' || p.has 'L')
    let wanted := [p.has 'l' || none', p.has 'w' || none', p.has 'm', p.has 'c' || none', p.has 'L']
    let names := inputNames p
    let width ← if names.length = 1 ∧ (wanted.filter id).length = 1 then pure 1
      else do
        let stats ← names.mapM statOperand
        match stats with
        | none :: _ => pure 1
        | _ =>
          let sizes := stats.filterMap id
          let total := (sizes.filterMap id).sum
          let least := if sizes.any (·.isNone) then 7 else 1
          pure (max least (toString total).length)
    let render (k : WcCounts) (label : Option String) : String :=
      let cells := (wanted.zip k.toList).filterMap fun (w, c) =>
        if w then
          let s := toString c
          some (String.ofList (List.replicate (width - s.length) ' ') ++ s)
        else none
      " ".intercalate cells ++ (match label with | some l => " " ++ l | none => "") ++ "\n"
    let mut failed := false
    let mut total : WcCounts := {}
    for name in names do
      let label := if name = "-" ∧ p.operands.isEmpty then none else some name
      match ← readOperand name with
      | .error .isDir =>
        gnuSay "wc" (name ++ ": " ++ readError .isDir)
        failed := true
        if mode ≠ 2 then say 1 (render {} label)
      | .error e =>
        gnuSay "wc" (name ++ ": " ++ readError e)
        failed := true
      | .ok bs =>
        let k := wcCounts bs
        total := total.add k
        if mode ≠ 2 then say 1 (render k label)
    if mode = 1 ∨ mode = 2 ∨ (mode = 0 ∧ names.length > 1) then
      say 1 (render total (if mode = 2 then none else some "total"))
    setStatus (if failed then 1 else 0)

/-- `rev`: each line with its characters reversed. -/
def revUtility (args : List String) : Sh Unit :=
  withOpts "rev" {} args fun p => do
    let mut failed := false
    for name in inputNames p do
      match ← readOperand name with
      | .error e =>
        gnuSay "rev" ("cannot open " ++ name ++ ": " ++ readError e)
        failed := true
      | .ok bs =>
        let (ls, closed) := byteLines bs
        let out := ls.map fun l => Text.Utf8.encodeList (Text.Utf8.decodeLossy l).reverse
        emit 1 (joinLines out ¬ closed)
    setStatus (if failed then 1 else 0)

/-! ## Transforming programs -/

/-! ## Writing programs -/

/-- Writes output that would go on without end. -/
def emitUnending (chunk : Bytes) : Sh Unit := do
  match ← channelOf 1 with
  | some (.capture k) =>
    modify fun s =>
      if h : k < s.captures.size then
        let c := s.captures[k]
        { s with captures := s.captures.set k { c with bytes := c.bytes ++ chunk.toArray, endless := true } }
      else s
    setStatus 141
  | some .full =>
    emit 1 chunk
    setStatus 1
  | _ => throw .timeout

/-- `yes`: writes its arguments (or `y`) as a line, again and again. -/
def yesUtility (args : List String) : Sh Unit := do
  let line := Text.Utf8.encode ((if args.isEmpty then "y" else " ".intercalate args) ++ "\n")
  match ← channelOf 1 with
  | some .full =>
    gnuSay "yes" "standard output: No space left on device"
    setStatus 1
  | none =>
    gnuSay "yes" "standard output: Bad file descriptor"
    setStatus 1
  | some _ => emitUnending (List.replicate 256 line).flatten

/-- `basename`: a path's last component, without a suffix that is not all of it. -/
def basenameOf (s : String) (suffix : String) : String :=
  let cs := s.toList.reverse.dropWhile (· = '/') |>.reverse
  if cs.isEmpty then (if s.isEmpty then "" else "/") else
  let base := (cs.reverse.takeWhile (· ≠ '/')).reverse
  let b := String.ofList base
  if ¬ suffix.isEmpty ∧ b.endsWith suffix ∧ b ≠ suffix then String.ofList (base.take (base.length - suffix.length))
  else b

/-- `dirname`: a path without its last component. -/
def dirnameOf (s : String) : String :=
  let cs := s.toList.reverse.dropWhile (· = '/') |>.reverse
  if cs.isEmpty then (if s.startsWith "/" then "/" else ".") else
  let rest := (cs.reverse.dropWhile (· ≠ '/')).reverse
  if rest.isEmpty then "." else
  let rest := rest.reverse.dropWhile (· = '/') |>.reverse
  if rest.isEmpty then "/" else String.ofList rest

def basenameUtility (args : List String) : Sh Unit :=
  withOpts "basename" { flags := "az".toList, valued := ['s'] } args fun p => do
    match p.operands with
    | [] => usageError "basename" "missing operand"
    | ops =>
      if p.has 'a' ∨ (p.value? 's').isSome then
        for o in ops do say 1 (basenameOf o ((p.value? 's').getD "") ++ "\n")
        setStatus 0
      else match ops with
        | [a] => do say 1 (basenameOf a "" ++ "\n"); setStatus 0
        | [a, s] => do say 1 (basenameOf a s ++ "\n"); setStatus 0
        | _ => usageError "basename" ("extra operand " ++ localeQuote (ops.getD 2 ""))

def dirnameUtility (args : List String) : Sh Unit :=
  withOpts "dirname" { flags := ['z'] } args fun p => do
    match p.operands with
    | [] => usageError "dirname" "missing operand"
    | ops =>
      for o in ops do say 1 (dirnameOf o ++ "\n")
      setStatus 0

def gnuEcho (args : List String) : Sh Unit := do
  let isOpt (a : String) : Bool := a.length > 1 ∧ a.startsWith "-" ∧ (a.toList.drop 1).all ("neE".toList.contains ·)
  let opts := args.takeWhile isOpt
  let rest := args.drop opts.length
  let letters := (opts.map fun o => o.toList.drop 1).flatten
  let newline := ¬ letters.contains 'n'
  let escapes := (letters.reverse.find? fun c => c = 'e' ∨ c = 'E') = some 'e'
  if escapes then
    let text := Text.Utf8.encode (" ".intercalate rest)
    let (out, stopped) := echoEscapes (text.length + 1) text
    emit 1 (out ++ (if newline ∧ ¬ stopped then [10] else []))
  else say 1 (" ".intercalate rest ++ (if newline then "\n" else ""))
  setStatus 0

/-- `printenv`: the values of the named variables, or every variable. -/
def printenvUtility (env : List (String × String)) (args : List String) : Sh Unit := do
  match args with
  | [] =>
    for (k, v) in env do say 1 (k ++ "=" ++ v ++ "\n")
    setStatus 0
  | names =>
    let mut missing := false
    for n in names do
      match env.lookup n with
      | some v => say 1 (v ++ "\n")
      | none => missing := true
    setStatus (if missing then 1 else 0)

/-! ## Programs on the tree -/

/-- `mkdir`: creates each directory; `-p` creates missing parents and accepts existing ones. -/
def mkdirUtility (args : List String) : Sh Unit :=
  withOpts "mkdir" { flags := "pv".toList, valued := ['m'], optional := ['Z'], longs := [("context", 'Z'),
      ("mode", 'm'), ("parents", 'p'), ("verbose", 'v')] } args fun p => do
    if p.operands.isEmpty then usageError "mkdir" "missing operand" else
    if let some m := p.value? 'm' then
      if (modeBits? m).isNone then
        gnuSay "mkdir" ("invalid mode " ++ localeQuote m)
        setStatus 1
        return
    let mut failed := false
    for name in p.operands do
      let path ← pathOf name
      let t := (← get).tree
      if p.has 'p' then
        match t.stat path with
        | .ok .dir => pure ()
        | .ok (.file _) =>
          gnuSay "mkdir" ("cannot create directory " ++ gnuQuote name ++ ": File exists")
          failed := true
        | .error _ =>
          if path.root.isEmpty then
            match t.makeDirs [] path.parts with
            | (t', some _) => modify fun s => { s with tree := t' }
            | (_, none) => failed := true
          else
            gnuSay "mkdir" ("cannot create directory " ++ gnuQuote name ++ ": Permission denied")
            failed := true
      else
        match t.mkdir path with
        | .ok t' => modify fun s => { s with tree := t' }
        | .error e =>
          gnuSay "mkdir" ("cannot create directory " ++ gnuQuote name ++ ": " ++ e.errno.text)
          failed := true
    setStatus (if failed then 1 else 0)

/-- `rm`: removes each file; `-r` also directories and all below them, `-f` ignores missing
ones. -/
def rmUtility (args : List String) : Sh Unit :=
  let spec : OptSpec :=
    { flags := "frRidvI".toList, optional := [longOnly 0, longOnly 3],
      longs := [("force", 'f'), ("interactive", longOnly 0), ("one-file-system", longOnly 1),
        ("no-preserve-root", longOnly 2), ("preserve-root", longOnly 3),
        ("-presume-input-tty", longOnly 4), ("recursive", 'r'), ("dir", 'd'), ("verbose", 'v')] }
  withOpts "rm" spec args fun p => do
    if p.operands.isEmpty ∧ ¬ p.has 'f' then usageError "rm" "missing operand" else
    let recursive := p.has 'r' ∨ p.has 'R'
    let mut failed := false
    for name in p.operands do
      let path ← pathOf name
      let t := (← get).tree
      match t.stat path with
      | .error e =>
        if ¬ (p.has 'f' ∧ FileTree.Errno.meansAbsent e.errno) then
          gnuSay "rm" ("cannot remove " ++ gnuQuote name ++ ": " ++ e.errno.text)
          failed := true
      | .ok .dir =>
        if ¬ recursive ∧ ¬ (p.has 'd' ∧ (t.children path.parts).isEmpty) then
          gnuSay "rm" ("cannot remove " ++ gnuQuote name ++ ": Is a directory")
          failed := true
        else match t.resolve path with
          | .ok place => match place.loc with
            | some [] | none =>
              gnuSay "rm" ("refusing to remove '.' or '..' directory: skipping " ++ gnuQuote name)
              failed := true
            | some loc => modify fun s => { s with tree := s.tree.erase loc }
          | .error _ => failed := true
      | .ok (.file _) =>
        match t.unlink path with
        | .ok t' => modify fun s => { s with tree := t' }
        | .error e =>
          gnuSay "rm" ("cannot remove " ++ gnuQuote name ++ ": " ++ e.errno.text)
          failed := true
    setStatus (if failed then 1 else 0)

/-- `touch`: creates each missing file, empty, unless `-c`. -/
def touchUtility (args : List String) : Sh Unit :=
  let spec : OptSpec :=
    { flags := "acfhm".toList, valued := "dtr".toList ++ [longOnly 0],
      longs := [("time", longOnly 0), ("no-create", 'c'), ("date", 'd'), ("reference", 'r'),
        ("no-dereference", 'h')] }
  withOpts "touch" spec args fun p => do
    if p.operands.isEmpty then usageError "touch" "missing file operand" else
    let mut failed := false
    for name in p.operands do
      let path ← pathOf name
      let t := (← get).tree
      match t.stat path with
      | .ok _ => pure ()
      | .error _ =>
        if p.has 'c' then continue
        match t.writeFile path [] with
        | .ok t' => modify fun s => { s with tree := t' }
        | .error e =>
          gnuSay "touch" ("cannot touch " ++ gnuQuote name ++ ": " ++ e.errno.text)
          failed := true
    setStatus (if failed then 1 else 0)

/-! ## The system -/

/-- `uname`: the names of the system that `-s` (the default), `-n`, `-r`, `-v`, `-m`, `-p`,
`-i` and `-o` ask for, in that order, all of them with `-a` (the unknown processor and
platform left out). -/
def unameUtility (args : List String) : Sh Unit :=
  let spec : OptSpec :=
    { flags := "asnrvmpio".toList,
      longs := [("all", 'a'), ("kernel-name", 's'), ("nodename", 'n'), ("kernel-release", 'r'),
        ("kernel-version", 'v'), ("machine", 'm'), ("processor", 'p'),
        ("hardware-platform", 'i'), ("operating-system", 'o')] }
  withOpts "uname" spec args fun p => do
    if let some extra := p.operands.head? then
      usageError "uname" ("extra operand " ++ localeQuote extra)
      return
    let fields : List (Char × String) :=
      [('s', "Linux"), ('n', "localhost"), ('r', "6.1.0"), ('v', "#1 SMP"), ('m', "x86_64"),
       ('p', "unknown"), ('i', "unknown"), ('o', "GNU/Linux")]
    let asked := if p.has 'a' then fields.filter fun (c, v) => ¬ ((c = 'p' ∨ c = 'i') ∧ v = "unknown")
      else if p.opts.isEmpty then fields.take 1
      else fields.filter fun (c, _) => p.has c
    say 1 (" ".intercalate (asked.map (·.2)) ++ "\n")
    setStatus 0

/-! ## Time -/

/-- A duration as `sleep` reads it: a number as C reads a double, with an optional unit `s`,
`m`, `h` or `d`, in nanoseconds rounded up; none when negative or not a number. -/
def durationOf? (s : String) : Option Nat := do
  let bs := Text.Utf8.encode s
  let r := readFloatArg bs
  if r.used = 0 then none
  let unit ← match bs.drop r.used with
    | [] => some 1
    | [b] => match Char.ofNat b.toNat with
      | 's' => some 1 | 'm' => some 60 | 'h' => some 3600 | 'd' => some 86400 | _ => none
    | _ => none
  if r.neg ∧ r.value ≠ .finite true 0 Number.minExponent then none
  match r.value with
  | .finite _ m e =>
    let (a, b) := Number.powTwo e
    let num := m * a * unit * 1000000000
    some ((num + b - 1) / b)
  | .infinity _ => some (Nat.pow 10 30)
  | .nan => none

/-- `sleep`: waits for the sum of its intervals. -/
def sleepUtility (args : List String) : Sh Unit := do
  let before := args.takeWhile (· ≠ "--")
  let after := args.drop (before.length + 1)
  match before.find? fun a => a.startsWith "-" ∧ a.length > 1 with
  | some a =>
    if a.startsWith "--" then usageError "sleep" ("unrecognized option '" ++ a ++ "'")
    else usageError "sleep" ("invalid option -- '" ++ String.singleton (a.toList.getD 1 ' ') ++ "'")
  | none =>
    if args.isEmpty then usageError "sleep" "missing operand"
    else
      let operands := before ++ after
      let bad := operands.filter fun a => (durationOf? a).isNone
      if bad.isEmpty then
        pass ((operands.filterMap durationOf?).foldl (· + ·) 0)
        setStatus 0
      else
        for b in bad.dropLast do gnuSay "sleep" ("invalid time interval " ++ localeQuote b)
        usageError "sleep" ("invalid time interval " ++ localeQuote (bad.getLastD ""))

/-! ## The table of utilities -/

end SqlMigration.Shell
