import SqlMigration.Shell.Utility
import SqlMigration.Shell.Regex

/-!
# sed scripts

A `sed` script is a list of commands, each with up to two addresses and an optional `!`; this
module reads one into its commands, as GNU sed does, with the same error messages.
-/

-- powers and sums of numbers are read with the core instances, whatever else is imported
attribute [local instance (high)] instPowNat Zero.ofOfNat0

namespace SqlMigration.Shell

/-! ## Scripts -/

/-- A regular expression of a script: the text it was read from (after escapes), whether it
ignores case and whether it is multiline, and the expression. -/
structure SedPattern where
  text : List Char
  fold : Bool := false
  multiline : Bool := false
  rx : Regex

def SedPattern.mode (p : SedPattern) : MatchMode := { fold := p.fold, multiline := p.multiline }

/-- A line address. -/
inductive SedAddr where
  | line (n : Nat)
  | last
  /-- A regular expression; none stands for the last one used. -/
  | pattern (p : Option SedPattern)
  /-- `first~step`: the lines from `first` on, every `step`-th. -/
  | step (first step : Nat)
  /-- `+N`, as the end of a range: N more lines. -/
  | plus (n : Nat)
  /-- `~N`, as the end of a range: up to a line whose number is a multiple of N. -/
  | multiple (n : Nat)
  /-- `+0` or `~0`: a range that ends where it starts. -/
  | none

/-- The lines a command selects: no address (every line), one, or a range, and `!`. -/
structure SedRange where
  first : Option SedAddr := Option.none
  last : Option SedAddr := Option.none
  negate : Bool := false

/-- How a replacement changes the case of what follows. -/
inductive CaseMode where
  | asIs
  | upper
  | lower
  deriving DecidableEq, Repr

/-- A part of a replacement. -/
inductive ReplPart where
  | text (cs : List Char)
  /-- The text of a group; 0 is the whole match. -/
  | group (k : Nat)
  /-- `\U`, `\L` or `\E`: the case of all that follows. -/
  | caseAll (mode : CaseMode)
  /-- `\u` or `\l`: the case of the next character. -/
  | caseNext (upper : Bool)

/-- The `s` command: the pattern (none: the last one used), the replacement, and the flags:
`g`, a number (which match), `p`, `e`, and `w` with a file name. -/
structure SedSubst where
  pattern : Option SedPattern
  repl : List ReplPart
  global : Bool := false
  number : Option Nat := Option.none
  print : Bool := false
  eval : Bool := false
  write : Option String := Option.none

/-- A command of a script. Jumps name their label (none: the end of the script) and the
instruction they go to. -/
inductive SedOp where
  /-- `{`, with the place of its `}`. -/
  | blockStart (close : Nat)
  | blockEnd
  | subst (s : SedSubst)
  | translit (pairs : List (Char × Char))
  | print
  | printFirst
  | delete
  | deleteFirst
  | next
  | appendNext
  /-- `q` (writing the pattern space) or `Q`, with the exit status given. -/
  | quit (code : Option Nat) (print : Bool)
  | lineNumber
  | fileName
  | append (text : List Char)
  | insert (text : List Char)
  | change (text : List Char)
  | hold
  | holdAppend
  | fetch
  | fetchAppend
  | exchange
  | branch (label : Option String) (target : Nat)
  | ifSubst (label : Option String) (target : Nat)
  | unlessSubst (label : Option String) (target : Nat)
  | label (name : String)
  /-- `l`: the pattern space written unambiguously, wrapped at the width given or the default. -/
  | list (width : Option Nat)
  | readFile (name : String)
  | readLine (name : String)
  | writeFile (name : String)
  | writeFirst (name : String)
  | zap
  /-- `e`: a command to run; it is not run here. -/
  | exec (cmd : List Char)

/-- A command and the lines it selects. -/
structure SedInstr where
  range : SedRange
  op : SedOp

/-- A script read: its commands, whether `#n` began it, and the files its `w` commands write
(which are emptied before it runs). -/
structure SedProgram where
  instrs : Array SedInstr := #[]
  quiet : Bool := false
  outputs : List String := []

/-! ## Escapes -/

/-- Where escapes are converted: a regular expression, a replacement, or text (the text of
`a`, `i`, `c`, and the strings of `y`). -/
inductive EscapeKind where
  | regex
  | replacement
  | text
  deriving DecidableEq

/-- The character a byte value stands for: itself below 128, else the lone byte. -/
def byteChar (n : Nat) : Char :=
  let b := n % 256
  if b < 128 then Char.ofNat b else Text.Unicode.rawChar b.toUInt8

def escapeDigitValue (base : Nat) (c : Char) : Option Nat :=
  let d := if c.isDigit then some (c.toNat - 48)
    else if 'a' ≤ c ∧ c ≤ 'f' then some (c.toNat - 87)
    else if 'A' ≤ c ∧ c ≤ 'F' then some (c.toNat - 55)
    else Option.none
  d.bind fun v => if v < base then some v else Option.none

/-- Reads the digits of a numeric escape: as many as keep the weight of the next digit within
a byte (two in base 16, three in bases 8 and 10). -/
def escapeDigits (base : Nat) : Nat → Nat → Nat → List Char → Nat × List Char × Nat
  | 0, n, k, cs => (n, cs, k)
  | fuel + 1, n, k, cs =>
    if base ^ k > 255 then (n, cs, k)
    else match cs with
      | c :: rest =>
        match escapeDigitValue base c with
        | some d => escapeDigits base fuel (n * base + d) (k + 1) rest
        | Option.none => (n, cs, k)
      | [] => (n, cs, k)

def convertEscapes (kind : EscapeKind) (cs : List Char) : List Char :=
  let out := go cs.length cs
  Text.Unicode.decode (Text.Unicode.encode out)
where
  go : Nat → List Char → List Char
    | 0, cs => cs
    | _ + 1, [] => []
    | n + 1, '\\' :: c :: rest =>
      let number (base : Nat) : List Char :=
        let (v, after, k) := escapeDigits base 4 0 0 rest
        if k = 0 then c :: go n rest
        else
          let ch := byteChar v
          (if (ch = '&' ∧ kind = .replacement) ∨ ch = '\\' then ['\\', ch] else [ch]) ++ go n after
      match c with
      | 'a' => '\x07' :: go n rest
      | 'f' => '\x0c' :: go n rest
      | 'n' => '\n' :: go n rest
      | 'r' => '\r' :: go n rest
      | 't' => '\t' :: go n rest
      | 'v' => '\x0b' :: go n rest
      | 'c' =>
        match rest with
        | x :: more => Char.ofNat (x.toUpper.toNat ^^^ 0x40) :: go n more
        | [] => ['c']
      | 'd' => number 10
      | 'o' => number 8
      | 'x' => number 16
      | _ =>
        match kind with
        | .regex | .replacement => '\\' :: c :: go n rest
        | .text => c :: go n rest
    | n + 1, c :: rest => c :: go n rest

def replParts (cs : List Char) : List ReplPart :=
  go cs.length cs []
where
  flush (acc : List Char) (rest : List ReplPart) : List ReplPart :=
    if acc.isEmpty then rest else .text acc.reverse :: rest
  go : Nat → List Char → List Char → List ReplPart
    | 0, _, acc => flush acc []
    | _ + 1, [], acc => flush acc []
    | n + 1, '&' :: more, acc => flush acc (.group 0 :: go n more [])
    | n + 1, '\\' :: c :: more, acc =>
      if c.isDigit then flush acc (.group (c.toNat - 48) :: go n more [])
      else match c with
        | 'U' => flush acc (.caseAll .upper :: go n more [])
        | 'L' => flush acc (.caseAll .lower :: go n more [])
        | 'E' => flush acc (.caseAll .asIs :: go n more [])
        | 'u' => flush acc (.caseNext true :: go n more [])
        | 'l' => flush acc (.caseNext false :: go n more [])
        | c => go n more (c :: acc)
    | n + 1, c :: more, acc => go n more (c :: acc)

def maxGroup (ps : List ReplPart) : Nat :=
  ps.foldl (fun m p => match p with
    | .group k => max m k
    | _ => m) 0

/-! ## Reading -/

/-- A failure to read a script: at a byte of it, a block left open (with the byte of its
start), or one that names no place, with the status it ends `sed` with. -/
inductive SedError where
  | at (pos : Nat) (msg : String)
  | unclosed (pos : Nat) (msg : String)
  | plain (msg : String) (status : Nat)

/-- What reading a script has left and made: the characters, the bytes read, the commands,
the open blocks, the labels and the jumps to resolve, the files to write, and the choices of
syntax. -/
structure SedReader where
  rest : List Char
  pos : Nat := 0
  instrs : Array SedInstr := #[]
  /-- The open blocks: the place of each `{` command, and the byte where it was read. -/
  blocks : List (Nat × Nat) := []
  labels : List (String × Nat) := []
  jumps : List (Nat × String) := []
  outputs : List String := []
  extended : Bool := false
  posix : Bool := false
  /-- Whether the commands that run programs or touch files are refused. -/
  sandbox : Bool := false
  quiet : Bool := false

abbrev SedP := ExceptT SedError (StateM SedReader)

def sedFail {α : Type} (msg : String) : SedP α := do throw (.at (← get).pos msg)

def charBytes (c : Char) : Nat := (Text.Unicode.encodeChar c).length

/-- Fails at a character just read that should have been one byte: the script is read byte by
byte, so the failure is at the character's first byte, which the message may show. -/
def sedFailAt {α : Type} (c : Char) (msg : String) : SedP α := do
  modify fun s => { s with pos := s.pos + 1 - charBytes c }
  sedFail msg

def firstByteChar (c : Char) : Char :=
  match Text.Unicode.encodeChar c with
  | _ :: _ :: _ => Text.Unicode.rawChar ((Text.Unicode.encodeChar c).headD 0)
  | _ => c

def sedPeek : SedP (Option Char) := return (← get).rest.head?

def sedTake : SedP (Option Char) := do
  let s ← get
  match s.rest with
  | c :: more =>
    set { s with rest := more, pos := s.pos + charBytes c }
    return some c
  | [] => return Option.none

def sedUnread (c : Option Char) : SedP Unit :=
  match c with
  | some c => modify fun s => { s with rest := c :: s.rest, pos := s.pos - charBytes c }
  | Option.none => pure ()

def sedNonblank : SedP (Option Char) := do
  let s ← get
  let blanks := s.rest.takeWhile fun c => c = ' ' ∨ c = '\t'
  set { s with rest := s.rest.drop blanks.length, pos := s.pos + blanks.length }
  sedTake

def tick : String := "\x60"

/-- Reads the digits after a first one (none when the first is not a digit, which is put
back). -/
def sedInteger (first : Option Char) : SedP Nat := do
  match first with
  | some c =>
    if c.isDigit then
      let s ← get
      let ds := s.rest.takeWhile Char.isDigit
      set { s with rest := s.rest.drop ds.length, pos := s.pos + ds.length }
      return (String.ofList (c :: ds)).toNat!
    else
      sedUnread first
      return 0
  | Option.none => return 0

/-- Reads the end of a command: blanks, then a `;`, a new line or the end; a `}` or `#` is left
for the next command. -/
def sedEndCommand : SedP Unit := do
  let c ← sedNonblank
  match c with
  | some '}' | some '#' => sedUnread c
  | some ';' | some '\n' | Option.none => pure ()
  | some c => sedFailAt c "extra characters after command"

/-- Reads the rest of a bracket expression of a regular expression after its `[`, as it is: an
optional `^` and a `]` that stands for itself, classes `[:...:]`, `[. .]` and `[= =]`, up to the
closing `]`. -/
def sedBracket : Nat → Nat → List Char → SedP (Option (List Char))
  | 0, _, _ => pure Option.none
  | n + 1, phase, acc => do
    let c ← sedTake
    match c with
    | Option.none => pure Option.none
    | some '\n' =>
      sedUnread c
      pure Option.none
    | some c =>
      if phase = 0 ∧ c = '^' then sedBracket n 1 (c :: acc)
      else if phase ≤ 1 ∧ c = ']' then sedBracket n 2 (c :: acc)
      else if c = ']' then pure (some (c :: acc))
      else if c = '[' then
        match ← sedPeek with
        | some d =>
          if d = ':' ∨ d = '.' ∨ d = '=' then
            let _ ← sedTake
            let rec cls : Nat → List Char → SedP (Option (List Char))
              | 0, _ => pure Option.none
              | k + 1, acc => do
                let e ← sedTake
                match e with
                | Option.none => pure Option.none
                | some '\n' =>
                  sedUnread e
                  pure Option.none
                | some e =>
                  if e = d ∧ (← sedPeek) = some ']' then
                    let _ ← sedTake
                    pure (some (']' :: e :: acc))
                  else cls k (e :: acc)
            match ← cls n (d :: c :: acc) with
            | some acc => sedBracket n 2 acc
            | Option.none => pure Option.none
          else sedBracket n 2 (c :: acc)
        | Option.none => sedBracket n 2 (c :: acc)
      else sedBracket n 2 (c :: acc)

/-- Reads up to a delimiter, which is read too: `\n` in a regular expression is a line feed, a
backslash before the delimiter or a new line is dropped (but kept before `&` in a replacement),
and other escapes are kept; in a regular expression a bracket expression is read whole. -/
def sedDelimited (d : Char) (regex : Bool) : Nat → List Char → SedP (Option (List Char))
  | 0, _ => pure Option.none
  | n + 1, acc => do
    match ← sedTake with
    | Option.none => pure Option.none
    | some '\n' =>
      sedUnread (some '\n')
      pure Option.none
    | some c =>
      if c = d then pure (some acc.reverse)
      else if c = '\\' then
        match ← sedTake with
        | Option.none => pure Option.none
        | some e =>
          if e = 'n' ∧ regex then sedDelimited d regex n ('\n' :: acc)
          else if e ≠ '\n' ∧ (e ≠ d ∨ (¬ regex ∧ e = '&')) then sedDelimited d regex n (e :: '\\' :: acc)
          else sedDelimited d regex n (e :: acc)
      else if c = '[' ∧ regex then
        match ← sedBracket (n + 1) 0 [c] with
        | some inner => sedDelimited d regex n (inner ++ acc)
        | Option.none => pure Option.none
      else sedDelimited d regex n (c :: acc)

/-- Compiles a regular expression read from a script; an empty one stands for the last one
used, and may not have flags. -/
def sedCompile (text : List Char) (fold multiline : Bool) (needed : Nat) :
    SedP (Option SedPattern) := do
  if text.isEmpty then
    if fold ∨ multiline then sedFail "cannot specify modifiers on empty regexp"
    return Option.none
  let s ← get
  let converted := convertEscapes .regex text
  let syn : RxSyntax :=
    { extended := s.extended, gnuOps := ¬ s.posix, refuseBare := true, checkColons := true }
  match parseRegex converted syn with
  | .error e =>
    if e = colonSyntax then throw (.plain e 4)
    sedFail e
  | .ok rx =>
    if needed > rx.groups then
      sedFail ("invalid reference \\" ++ toString needed ++ " on " ++ tick ++ "s' command's RHS")
    return some { text := converted, fold := fold, multiline := multiline, rx := rx }

def sedPatternAddress (d : Char) : SedP SedAddr := do
  let fuel := (← get).rest.length + 1
  match ← sedDelimited d true fuel [] with
  | Option.none => sedFail "unterminated address regex"
  | some cs =>
    let rec flags : Nat → Bool → Bool → SedP (Bool × Bool)
      | 0, f, m => pure (f, m)
      | k + 1, f, m => do
        let c ← sedNonblank
        if (← get).posix then
          sedUnread c
          return (f, m)
        match c with
        | some 'I' => flags k true m
        | some 'M' => flags k f true
        | _ =>
          sedUnread c
          return (f, m)
    let (f, m) ← flags (fuel + 1) false false
    return .pattern (← sedCompile cs f m 0)

/-- Reads an address starting with a character already read; none when it starts none (the
character is then the command). -/
def sedAddress (c : Char) : SedP (Option SedAddr) := do
  let posix := (← get).posix
  if c = '/' then return some (← sedPatternAddress '/')
  else if c = '\\' then
    match ← sedTake with
    | some d => return some (← sedPatternAddress d)
    | Option.none => sedFail "unterminated address regex"
  else if c.isDigit then
    let n ← sedInteger (some c)
    let next ← sedNonblank
    if next = some '~' ∧ ¬ posix then
      let step ← sedInteger (← sedNonblank)
      return some (if step > 0 then .step n step else .line n)
    else
      sedUnread next
      return some (.line n)
  else if (c = '+' ∨ c = '~') ∧ ¬ posix then
    let n ← sedInteger (← sedNonblank)
    return some (if n = 0 then .none else if c = '+' then .plus n else .multiple n)
  else if c = '$' then return some .last
  else return Option.none

def sedLabel : SedP String := do
  let c ← sedNonblank
  sedUnread c
  let s ← get
  let name := s.rest.takeWhile fun c => ¬ (c = '\n' ∨ c = ';' ∨ c = ' ' ∨ c = '\t' ∨ c = '\x7d')
  set { s with rest := s.rest.drop name.length, pos := s.pos + (name.map charBytes).sum }
  return String.ofList name

def sedFileName : SedP String := do
  let c ← sedNonblank
  sedUnread c
  let s ← get
  let name := s.rest.takeWhile (· ≠ '\n')
  set { s with rest := s.rest.drop name.length, pos := s.pos + (name.map charBytes).sum }
  return String.ofList name

/-- Reads the text of `a`, `i` or `c` after its first character: up to the end of the line,
where a backslash keeps the next character (a new line too) in the text; the text ends with a
line feed. -/
def sedText (first : Option Char) : SedP (List Char) := do
  match first with
  | Option.none => return []
  | some lead =>
    let fuel := (← get).rest.length + 1
    let rec body : Nat → List Char → SedP (List Char)
      | 0, acc => pure acc
      | k + 1, acc => do
        match ← sedTake with
        | Option.none | some '\n' => pure acc
        | some '\\' =>
          match ← sedTake with
          | Option.none => pure acc
          | some e => body k (e :: '\\' :: acc)
        | some c => body k (c :: acc)
    let acc ← body fuel (if lead = '\n' then [] else [lead])
    return convertEscapes .text acc.reverse ++ ['\n']

def sedPush (range : SedRange) (op : SedOp) : SedP Nat := do
  let s ← get
  set { s with instrs := s.instrs.push ⟨range, op⟩ }
  return s.instrs.size

def sandboxed : String := "e/r/w commands disabled in sandbox mode"

def sedSubstFlags : Nat → SedSubst → Bool → Bool → SedP (SedSubst × Bool × Bool)
  | 0, sub, f, m => pure (sub, f, m)
  | k + 1, sub, f, m => do
    let c ← sedTake
    match c with
    | some 'i' | some 'I' => sedSubstFlags k sub true m
    | some 'm' | some 'M' => sedSubstFlags k sub f true
    | some 'e' =>
      if (← get).sandbox then sedFail sandboxed
      sedSubstFlags k { sub with eval := true } f m
    | some 'p' =>
      if sub.print then sedFail ("multiple " ++ tick ++ "p' options to " ++ tick ++ "s' command")
      sedSubstFlags k { sub with print := true } f m
    | some 'g' =>
      if sub.global then sedFail ("multiple " ++ tick ++ "g' options to " ++ tick ++ "s' command")
      sedSubstFlags k { sub with global := true } f m
    | some 'w' =>
      if (← get).sandbox then sedFail sandboxed
      let name ← sedFileName
      if name.isEmpty then sedFail "missing filename in r/R/w/W commands"
      modify fun s => { s with outputs := s.outputs ++ [name] }
      pure ({ sub with write := some name }, f, m)
    | some '}' | some '#' =>
      sedUnread c
      pure (sub, f, m)
    | some '\n' | some ';' | Option.none => pure (sub, f, m)
    | some ' ' | some '\t' => sedSubstFlags k sub f m
    | some d =>
      if d.isDigit then
        if sub.number.isSome then
          sedFail ("multiple number options to " ++ tick ++ "s' command")
        let v ← sedInteger (some d)
        if v = 0 then sedFail ("number option to " ++ tick ++ "s' command may not be zero")
        sedSubstFlags k { sub with number := some v } f m
      else sedFail ("unknown option to " ++ tick ++ "s'")

def gnuCommands : List Char := "eFvzLQTRW".toList

def sedCommand (first : Char) (atScriptStart : Bool) : SedP Unit := do
  let posix := (← get).posix
  let mut range : SedRange := {}
  let mut c : Option Char := some first
  match ← sedAddress first with
  | some a =>
    match a with
    | .plus _ | .multiple _ => sedFail "invalid usage of +N or ~N as first address"
    | _ => pure ()
    range := { range with first := some a }
    c ← sedNonblank
    if c = some ',' then
      let next ← sedNonblank
      match next with
      | some n =>
        match ← sedAddress n with
        | some b => range := { range with last := some b }
        | Option.none => sedFail ("unexpected " ++ tick ++ ",'")
      | Option.none => sedFail ("unexpected " ++ tick ++ ",'")
      c ← sedNonblank
    match range.first, range.last with
    | some (.line 0), some (.pattern _) => if posix then sedFail "invalid usage of line address 0"
    | some (.line 0), _ => sedFail "invalid usage of line address 0"
    | _, _ => pure ()
  | Option.none => pure ()
  if c = some '!' then
    range := { range with negate := true }
    c ← sedNonblank
    if c = some '!' then sedFail ("multiple " ++ tick ++ "!'s")
  let addressed := range.first.isSome
  let two := range.last.isSome
  match c with
  | Option.none => sedFail "missing command"
  | some cmd =>
    if posix then
      if gnuCommands.contains cmd then sedFail ("unknown command: " ++ tick ++ String.singleton cmd ++ "'")
      if "ail=r".toList.contains cmd ∧ two then sedFail "command only uses one address"
    match cmd with
    | '#' =>
      if addressed then sedFail "comments don't accept any addresses"
      let s ← get
      let line := s.rest.takeWhile (· ≠ '\n')
      let quiet := s.quiet || (atScriptStart && line.head? == some 'n')
      let pos := s.pos + (line.map charBytes).sum
      set { s with rest := s.rest.drop line.length, pos := pos, quiet := quiet }
    | 'v' =>
      let version ← sedLabel
      let newer : Bool := match version.splitOn "." |>.map String.toNat? with
        | [some a] => a > 4
        | [some a, some b] => a > 4 ∨ (a = 4 ∧ b > 9)
        | [some a, some b, some d] => a > 4 ∨ (a = 4 ∧ (b > 9 ∨ (b = 9 ∧ d > 0)))
        | _ => false
      if newer then sedFail "expected newer version of sed"
    | '{' =>
      let k ← sedPush range (.blockStart 0)
      modify fun s => { s with blocks := (k, s.pos) :: s.blocks }
    | '}' =>
      match (← get).blocks with
      | [] => sedFail ("unexpected " ++ tick ++ "\x7d'")
      | (k, _) :: more =>
        if addressed then sedFail (tick ++ "\x7d' doesn't want any addresses")
        sedEndCommand
        let close ← sedPush {} .blockEnd
        modify fun s =>
          { s with blocks := more, instrs := s.instrs.modify k fun i => { i with op := .blockStart close } }
    | 'e' =>
      if (← get).sandbox then sedFail sandboxed
      let next ← sedNonblank
      match next with
      | Option.none | some '\n' => let _ ← sedPush range (.exec [])
      | some _ =>
        let text ← sedText next
        let _ ← sedPush range (.exec text)
    | 'a' | 'i' | 'c' =>
      let next ← sedNonblank
      let lead ← match next with
        | Option.none => sedFail ("expected \\ after " ++ tick ++ "a', " ++ tick ++ "c' or " ++ tick ++ "i'")
        | some '\\' => sedTake
        | some _ =>
          if posix then sedFail ("expected \\ after " ++ tick ++ "a', " ++ tick ++ "c' or " ++ tick ++ "i'")
          sedUnread next
          pure (some '\n')
      let text ← sedText lead
      let op : SedOp := match cmd with
        | 'a' => .append text
        | 'i' => .insert text
        | _ => .change text
      let _ ← sedPush range op
    | ':' =>
      if addressed then sedFail ": doesn't want any addresses"
      let name ← sedLabel
      if name.isEmpty then sedFail "\":\" lacks a label"
      let k ← sedPush {} (.label name)
      modify fun s => { s with labels := s.labels ++ [(name, k)] }
    | 'b' | 't' | 'T' =>
      let name ← sedLabel
      let label := if name.isEmpty then Option.none else some name
      let k ← sedPush range (match cmd with
        | 'b' => .branch label 0
        | 't' => .ifSubst label 0
        | _ => .unlessSubst label 0)
      if ¬ name.isEmpty then modify fun s => { s with jumps := s.jumps ++ [(k, name)] }
    | 'q' | 'Q' | 'l' | 'L' =>
      if (cmd = 'q' ∨ cmd = 'Q') ∧ two then sedFail "command only uses one address"
      let next ← sedNonblank
      let (arg, after) ← match next with
        | some d =>
          if d.isDigit ∧ ¬ posix then do
            let v ← sedInteger next
            pure (some v, ← sedNonblank)
          else pure (Option.none, next)
        | Option.none => pure (Option.none, next)
      match after with
      | some '}' | some '#' => sedUnread after
      | some '\n' | some ';' | Option.none => pure ()
      | some other => sedFailAt other "extra characters after command"
      if cmd = 'L' then sedFail ("unknown command: " ++ tick ++ "L'")
      let op : SedOp := match cmd with
        | 'q' => .quit arg true
        | 'Q' => .quit arg false
        | _ => .list arg
      let _ ← sedPush range op
    | 'r' | 'R' | 'w' | 'W' =>
      if (← get).sandbox then sedFail sandboxed
      let name ← sedFileName
      if name.isEmpty then sedFail "missing filename in r/R/w/W commands"
      if cmd = 'w' ∨ cmd = 'W' then modify fun s => { s with outputs := s.outputs ++ [name] }
      let op : SedOp := match cmd with
        | 'r' => .readFile name
        | 'R' => .readLine name
        | 'w' => .writeFile name
        | _ => .writeFirst name
      let _ ← sedPush range op
    | 's' =>
      let d ← sedTake
      match d with
      | Option.none | some '\n' | some '\\' => sedFail ("unterminated " ++ tick ++ "s' command")
      | some d =>
        if charBytes d > 1 then sedFailAt d "delimiter character is not a single-byte character"
        let fuel := (← get).rest.length + 1
        match ← sedDelimited d true fuel [] with
        | Option.none => sedFail ("unterminated " ++ tick ++ "s' command")
        | some re =>
          match ← sedDelimited d false fuel [] with
          | Option.none => sedFail ("unterminated " ++ tick ++ "s' command")
          | some rp =>
            let repl := replParts (convertEscapes .replacement rp)
            let (sub, f, m) ← sedSubstFlags (fuel + 1) { pattern := Option.none, repl := repl } false false
            let pattern ← sedCompile re f m (maxGroup repl)
            let _ ← sedPush range (.subst { sub with pattern := pattern })
    | 'y' =>
      let d ← sedTake
      match d with
      | Option.none => sedFail ("unterminated " ++ tick ++ "y' command")
      | some d =>
        let fuel := (← get).rest.length + 1
        match ← sedDelimited d false fuel [] with
        | Option.none => sedFail ("unterminated " ++ tick ++ "y' command")
        | some src =>
          match ← sedDelimited d false fuel [] with
          | Option.none => sedFail ("unterminated " ++ tick ++ "y' command")
          | some dst =>
            let src := convertEscapes .text src
            let dst := convertEscapes .text dst
            if src.length ≠ dst.length then
              sedFail ("strings for " ++ tick ++ "y' command are different lengths")
            sedEndCommand
            let _ ← sedPush range (.translit (src.zip dst))
    | '=' | 'd' | 'D' | 'F' | 'g' | 'G' | 'h' | 'H' | 'n' | 'N' | 'p' | 'P' | 'x' | 'z' =>
      sedEndCommand
      let op : SedOp := match cmd with
        | '=' => .lineNumber
        | 'd' => .delete
        | 'D' => .deleteFirst
        | 'F' => .fileName
        | 'g' => .fetch
        | 'G' => .fetchAppend
        | 'h' => .hold
        | 'H' => .holdAppend
        | 'n' => .next
        | 'N' => .appendNext
        | 'p' => .print
        | 'P' => .printFirst
        | 'x' => .exchange
        | _ => .zap
      let _ ← sedPush range op
    | other => sedFailAt other ("unknown command: " ++ tick ++ String.singleton (firstByteChar other) ++ "'")

def sedCommands : Nat → SedP Unit
  | 0 => pure ()
  | n + 1 => do
    let s ← get
    let skipped := s.rest.takeWhile fun c => c = ' ' ∨ c = '\t' ∨ c = '\n' ∨ c = ';' ∨ c = '\r' ∨
      c = '\x0b' ∨ c = '\x0c'
    set { s with rest := s.rest.drop skipped.length, pos := s.pos + skipped.length }
    let start := (← get).pos = 0
    match ← sedTake with
    | Option.none => return
    | some c =>
      sedCommand c start
      sedCommands n

/-- Reads a script: its commands with the jumps resolved. -/
def parseSed (script : List Char) (extended posix sandbox : Bool) : Except SedError SedProgram :=
  let step : SedP SedProgram := do
    sedCommands (script.length + 1)
    let s ← get
    match s.blocks with
    | (_, place) :: _ => throw (.unclosed place ("unmatched " ++ tick ++ "\x7b'"))
    | [] => pure ()
    let mut instrs := s.instrs
    for (k, name) in s.jumps do
      match s.labels.find? (·.1 == name) with
      | some (_, t) =>
        instrs := instrs.modify k fun i => { i with op := match i.op with
          | .branch l _ => .branch l t
          | .ifSubst l _ => .ifSubst l t
          | .unlessSubst l _ => .unlessSubst l t
          | op => op }
      | Option.none => throw (.plain ("can't find label for jump to " ++ tick ++ name ++ "'") 4)
    instrs := instrs.map fun i => { i with op := match i.op with
      | .branch Option.none _ => .branch Option.none instrs.size
      | .ifSubst Option.none _ => .ifSubst Option.none instrs.size
      | .unlessSubst Option.none _ => .unlessSubst Option.none instrs.size
      | op => op }
    return { instrs := instrs, quiet := s.quiet, outputs := s.outputs }
  match (ExceptT.run step).run
      { rest := script, extended := extended, posix := posix, sandbox := sandbox } with
  | (r, _) => r

end SqlMigration.Shell
