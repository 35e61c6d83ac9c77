import SqlMigration.Shell.Utility
import SqlMigration.Shell.PrintfProgram

/-!
# xargs: reading the items and grouping them into commands

`xargs` runs a command (`echo` when none is given) with the items of its input added to its
arguments.
-/

namespace SqlMigration.Shell

/-- How the input of `xargs` is cut into items. -/
inductive XargsInput where
  /-- Blanks and line feeds separate items; quotes and backslashes protect them. -/
  | words
  /-- Each item ends at this byte, the only special one. -/
  | delimited (d : UInt8)
  deriving Repr, Inhabited, DecidableEq

/-- The options of `xargs`. -/
structure XargsOptions where
  input : XargsInput := .words
  /-- Items per command, zero for no limit. -/
  maxArgs : Nat := 0
  /-- Input lines per command, zero for no limit. -/
  maxLines : Nat := 0
  /-- The text replaced by each line. -/
  replace : Option String := none
  /-- The item that ends the input as if it ended there. -/
  eof : Option String := none
  /-- The room of a command line, in bytes. -/
  size : Nat := 131072
  /-- Stop when the items of a `-n` or `-L` group do not fit; `-L` implies it. -/
  exact : Bool := false
  noEmpty : Bool := false
  /-- Each command is written to the error output before it runs. -/
  trace : Bool := false
  /-- Each command is to be confirmed at the terminal. -/
  ask : Bool := false
  /-- The limits are written to the error output first. -/
  limits : Bool := false
  /-- The items are read from this file instead of the standard input. -/
  file : Option String := none
  deriving Repr, Inhabited

def xargsHint : String := "Try 'xargs --help' for more information.\n"

def xargsSpec : OptSpec :=
  { flags := ['0', 'o', 'p', 'r', 't', 'x', longOnly 0]
    valued := ['a', 'd', 'E', 'I', 'L', 'n', 's', 'P', longOnly 1]
    optional := ['e', 'i', 'l']
    longs := [("null", '0'), ("arg-file", 'a'), ("delimiter", 'd'), ("eof", 'e'),
      ("replace", 'i'), ("max-lines", 'l'), ("max-args", 'n'), ("open-tty", 'o'),
      ("interactive", 'p'), ("no-run-if-empty", 'r'), ("max-chars", 's'), ("verbose", 't'),
      ("show-limits", longOnly 0), ("exit", 'x'), ("max-procs", 'P'),
      ("process-slot-var", longOnly 1)]
    inOrder := true }

/-- A number as C reads a long: blanks first, a sign, decimal digits and nothing after them;
none when that is not all there is. -/
def cLong? (v : String) : Option Int :=
  let cs := v.toList.dropWhile fun c => c = ' ' ∨ ('\t' ≤ c ∧ c ≤ '\r')
  let (neg, ds) := match cs with
    | '-' :: more => (true, more)
    | '+' :: more => (false, more)
    | more => (false, more)
  if ds.isEmpty ∨ ¬ ds.all Char.isDigit then none
  else
    let n : Nat := ds.foldl (fun acc c => acc * 10 + (c.toNat - 48)) 0
    let top : Int := 9223372036854775807
    some (if neg then max (-(n : Int)) (-top - 1) else min (n : Int) top)

/-- A number given to an option of `xargs`, at least `lo` and, when given, at most `hi`. -/
def xargsNumber (opt : Char) (v : String) (lo : Int) (hi : Option Int) (fatal : Bool) :
    Except String (String × Nat) :=
  match cLong? v with
  | none => .error ("xargs: invalid number \"" ++ v ++ "\" for -" ++ String.singleton opt ++
      " option\n" ++ xargsHint)
  | some k =>
    let bound (word : String) (b : Int) : Except String (String × Nat) :=
      let note := "xargs: value " ++ v ++ " for -" ++ String.singleton opt ++ " option should be " ++
        word ++ " " ++ toString b ++ "\n"
      if fatal then .error (note ++ xargsHint) else .ok (note, b.toNat)
    if k < lo then bound ">=" lo
    else match hi with
      | some h => if k > h then bound "<=" h else .ok ("", k.toNat)
      | none => .ok ("", k.toNat)

def digitsValue (base : Nat) (ds : List Char) : Nat :=
  ds.foldl (fun acc c =>
    let d := if c.isDigit then c.toNat - 48
      else if 'a' ≤ c ∧ c ≤ 'f' then c.toNat - 87 else c.toNat - 55
    acc * base + d) 0

/-- The byte a `-d` argument names: one character, a C escape, or an octal or hexadecimal
escape; otherwise the complaint. -/
def delimiterByte (v : String) : Except String UInt8 :=
  let bad (why : String) : Except String UInt8 :=
    .error ("xargs: Invalid escape sequence " ++ v ++ " in input delimiter specification" ++ why ++ "\n")
  let bs := Text.Utf8.encode v
  match bs with
  | [b] => .ok b
  | 92 :: c :: _ =>
    match Char.ofNat c.toNat with
    | 'a' => .ok 7 | 'b' => .ok 8 | 'f' => .ok 12 | 'n' => .ok 10 | 'r' => .ok 13
    | 't' => .ok 9 | 'v' => .ok 11 | '\\' => .ok 92
    | ch =>
      let (base, body) := if ch = 'x' then (16, v.toList.drop 2) else (8, v.toList.drop 1)
      if ch ≠ 'x' ∧ ¬ ch.isDigit then bad "."
      else
        let isDigitOf (c : Char) : Bool :=
          if base = 16 then c.isDigit ∨ ('a' ≤ c ∧ c ≤ 'f') ∨ ('A' ≤ c ∧ c ≤ 'F')
          else '0' ≤ c ∧ c ≤ '7'
        let ds := body.takeWhile isDigitOf
        let after := body.drop ds.length
        let value := digitsValue base ds
        if value > 255 then
          bad ("; character values must not exceed " ++ (if base = 16 then "ff" else "377") ++ ".")
        else if ¬ after.isEmpty then
          bad ("; trailing characters " ++ String.ofList after ++ " not recognised.")
        else .ok value.toUInt8
  | _ => .error ("xargs: Invalid input delimiter specification " ++ v ++
      ": the delimiter must be either a single character or an escape sequence starting with \\.\n")

def exclusiveWarning (earlier later : String) : String :=
  "xargs: warning: options " ++ earlier ++ " and " ++ later ++
    " are mutually exclusive, ignoring previous " ++ earlier ++ " value\n"

/-- Applies the options of `xargs` in the order given, with the warnings they give; `widest` is
the largest room a command line can have. -/
def applyXargsOptions (widest : Nat) : List (Char × String) → XargsOptions → String →
    Except String (XargsOptions × String)
  | [], o, notes => .ok (o, notes)
  | (c, v) :: more, o, notes => do
    let next (o : XargsOptions) (note : String) := applyXargsOptions widest more o (notes ++ note)
    if c = '0' then next { o with input := .delimited 0 } ""
    else if c = 'd' then next { o with input := .delimited (← delimiterByte v) } ""
    else if c = 'E' ∨ c = 'e' then next { o with eof := if v.isEmpty then none else some v } ""
    else if c = 'I' ∨ c = 'i' then
      let n1 := if o.maxArgs ≠ 0 then exclusiveWarning "--max-args" "--replace/-I/-i" else ""
      let n2 := if o.maxLines ≠ 0 then exclusiveWarning "--max-lines" "--replace/-I/-i" else ""
      next { o with replace := some (if v.isEmpty then "\x7b\x7d" else v), maxArgs := 0, maxLines := 0 }
        (n1 ++ n2)
    else if c = 'L' ∨ c = 'l' then
      let (_, k) ← if c = 'l' ∧ v.isEmpty then pure ("", 1) else xargsNumber c v 1 none true
      let named := if c = 'L' then "-L" else "--max-lines/-l"
      let n1 := if o.maxArgs ≠ 0 then exclusiveWarning "--max-args" named else ""
      let n2 := if o.replace.isSome then exclusiveWarning "--replace" named else ""
      next { o with maxLines := k, maxArgs := 0, replace := none } (n1 ++ n2)
    else if c = 'n' then
      let (_, k) ← xargsNumber 'n' v 1 none true
      let n1 := if o.maxLines ≠ 0 then exclusiveWarning "--max-lines" "--max-args/-n" else ""
      if o.replace.isSome ∧ k = 1 then next { o with maxLines := 0 } n1
      else
        let n2 := if o.replace.isSome then exclusiveWarning "--replace" "--max-args/-n" else ""
        next { o with maxArgs := k, maxLines := 0, replace := none } (n1 ++ n2)
    else if c = 's' then
      let (note, k) ← xargsNumber 's' v 1 (some widest) false
      next { o with size := k } note
    else if c = 'P' then
      let _ ← xargsNumber 'P' v 0 none true
      next o ""
    else if c = 'a' then next { o with file := some v } ""
    else if c = 'x' then next { o with exact := true } ""
    else if c = 'r' then next { o with noEmpty := true } ""
    else if c = 't' then next { o with trace := true } ""
    else if c = 'p' then next { o with ask := true, trace := true } ""
    else if c = longOnly 0 then next { o with limits := true } ""
    else next o ""

/-- Reads the options of `xargs`, `widest` being the largest room a command line can have: the
text written to the error output on the way, and the options with the command and its arguments,
or none when a complaint ends it. -/
def readXargsOptions (widest : Nat) (args : List String) :
    String × Option (XargsOptions × List String) :=
  let (parsed, complaint) := parseOptsUntil xargsSpec args
  match applyXargsOptions widest parsed.opts {} "" with
  | .error e => (e, none)
  | .ok (o, notes) =>
    match complaint with
    | some e => (notes ++ "xargs: " ++ e ++ "\n" ++ xargsHint, none)
    | none =>
      let eofNote := if o.eof.isSome ∧ o.input ≠ .words then
        "xargs: warning: the -E option has no effect if -0 or -d is used.\n\n" else ""
      (notes ++ eofNote, some (o, parsed.operands))

/-- What the reader of the input reports to the grouping of items. -/
inductive XargsEvent where
  /-- An item read; with `-I`, a whole line. -/
  | item (arg : Bytes)
  /-- A line ended, as `-L` counts lines. -/
  | line
  /-- One read ended: where `-L` may run the command. -/
  | pause
  /-- Reading stops with this complaint. -/
  | fail (msg : String)
  deriving Repr, Inhabited

/-- Where the reader of blank-separated items stands. -/
inductive WordPlace where
  | between
  | inWord
  | quoted (q : UInt8)
  | escaped
  deriving Repr, Inhabited, DecidableEq

/-- The reader of blank-separated items: its place, the item so far (reversed), the byte before,
whether the item is the first of its read, whether an item has begun, and whether a read has
ended before this one. -/
structure WordReader where
  place : WordPlace := .between
  item : Bytes := []
  prev : Option UInt8 := none
  first : Bool := true
  seen : Bool := false
  resumed : Bool := false
  deriving Repr, Inhabited

def cSpace (b : UInt8) : Bool := b = 32 ∨ (9 ≤ b ∧ b ≤ 13)

def cBlank (b : UInt8) : Bool := b = 32 ∨ b = 9

def unmatchedQuote (q : UInt8) : String :=
  "unmatched " ++ (if q = 34 then "double" else "single") ++
    " quote; by default quotes are special to xargs unless you use the -0 option"

/-- The room for the bytes of one item: `size` less the room the command itself takes before
the first read ends (`early`) and after (`later`), less one for the end of the item. -/
structure ItemRoom where
  size : Nat
  early : Nat
  later : Nat
  deriving Repr, Inhabited

def ItemRoom.admits (r : ItemRoom) (resumed : Bool) (len : Nat) : Bool :=
  len + (if resumed then r.later else r.early) + 1 < r.size

/-- Reads blank-separated items. -/
def readWords (whole : Bool) (eof : Option Bytes) (room : ItemRoom) :
    Nat → Bytes → WordReader → List XargsEvent → List XargsEvent
  | 0, _, _, acc => acc.reverse
  | _ + 1, [], r, acc =>
    if r.item.isEmpty then acc.reverse
    else match r.place with
      | .quoted q => (.fail (unmatchedQuote q) :: acc).reverse
      | _ =>
        let it := r.item.reverse
        if r.first ∧ eof = some it then acc.reverse
        else (.pause :: .item it :: acc).reverse
  | k + 1, c :: rest, r, acc =>
    let store (r : WordReader) : List XargsEvent :=
      if room.admits r.resumed r.item.length then
        readWords whole eof room k rest { r with item := c :: r.item, prev := some c } acc
      else (.fail "argument line too long" :: acc).reverse
    let ended (acc : List XargsEvent) : List XargsEvent :=
      if r.first then acc.reverse else (.pause :: acc).reverse
    let inWord (r : WordReader) : List XargsEvent :=
      if c = 10 then
        let acc := if r.prev.any cBlank then acc else .line :: acc
        if r.item.isEmpty ∧ ¬ r.seen then
          readWords whole eof room k rest { r with place := .between, prev := some c } acc
        else
          let it := r.item.reverse
          if eof = some it then ended acc
          else readWords whole eof room k rest { resumed := true } (.pause :: .item it :: acc)
      else
        let r := { r with seen := true }
        if ¬ whole ∧ cBlank c then
          let it := r.item.reverse
          if eof = some it then ended acc
          else readWords whole eof room k rest
            { r with item := [], place := .between, first := false, prev := some c } (.item it :: acc)
        else if c = 92 then readWords whole eof room k rest { r with place := .escaped, prev := some c } acc
        else if c = 39 ∨ c = 34 then
          readWords whole eof room k rest { r with place := .quoted c, prev := some c } acc
        else store r
    match r.place with
    | .between =>
      if cSpace c then readWords whole eof room k rest { r with prev := some c } acc
      else inWord { r with place := .inWord }
    | .inWord => inWord r
    | .quoted q =>
      if c = 10 then (.fail (unmatchedQuote q) :: acc).reverse
      else if c = q then readWords whole eof room k rest { r with place := .inWord, seen := true, prev := some c } acc
      else store r
    | .escaped => store { r with place := .inWord }

def readDelimited (d : UInt8) (room : ItemRoom) :
    Nat → Bytes → Bytes → Bool → List XargsEvent → List XargsEvent
  | 0, _, _, _, acc => acc.reverse
  | _ + 1, [], item, _, acc => if item.isEmpty then acc.reverse else (.pause :: .item item.reverse :: acc).reverse
  | k + 1, c :: rest, item, resumed, acc =>
    if c = d then readDelimited d room k rest [] true (.pause :: .item item.reverse :: .line :: acc)
    else if room.admits resumed item.length then readDelimited d room k rest (c :: item) resumed acc
    else (.fail "argument line too long" :: acc).reverse

/-- What `xargs` does with its input, step by step. -/
inductive XargsStep where
  /-- Runs a command line. -/
  | run (argv : List Bytes)
  /-- Stops with this complaint. -/
  | fail (msg : String)
  deriving Repr, Inhabited

/-- The command being filled: the items added (reversed), the bytes they take, the lines read
since it last ran, how many runs there were, and the steps so far (reversed). -/
structure XargsFill where
  args : List Bytes := []
  used : Nat := 0
  lines : Nat := 0
  runs : Nat := 0
  steps : List XargsStep := []
  deriving Repr, Inhabited

def XargsFill.flush (f : XargsFill) (command : List Bytes) : XargsFill :=
  { f with args := [], used := 0, runs := f.runs + 1,
           steps := .run (command ++ f.args.reverse) :: f.steps }

def XargsOptions.strict (o : XargsOptions) : Bool := o.exact ∨ o.maxLines ≠ 0

def fillCommands (o : XargsOptions) (command : List Bytes) (base : Nat) :
    List XargsEvent → XargsFill → List XargsStep
  | [], f =>
    let f := if ¬ f.args.isEmpty ∨ (¬ o.noEmpty ∧ f.runs = 0) then f.flush command else f
    f.steps.reverse
  | .item a :: more, f =>
    let need := a.length + 1
    if base + f.used + need > o.size ∧ f.args.isEmpty then
      (.fail "cannot fit single argument within argument list size limit" :: f.steps).reverse
    else if base + f.used + need > o.size ∧ o.strict ∧ (o.maxLines ≠ 0 ∨ o.maxArgs ≠ 0) then
      (.fail "argument list too long" :: f.steps).reverse
    else
      let f := if base + f.used + need > o.size then f.flush command else f
      let f := { f with args := a :: f.args, used := f.used + need }
      let f := if o.maxArgs ≠ 0 ∧ f.args.length = o.maxArgs then f.flush command else f
      fillCommands o command base more f
  | .line :: more, f => fillCommands o command base more { f with lines := f.lines + 1 }
  | .pause :: more, f =>
    if o.maxLines ≠ 0 ∧ f.lines ≥ o.maxLines then
      fillCommands o command base more { f.flush command with lines := 0 }
    else fillCommands o command base more f
  | .fail msg :: _, f =>
    let f := if f.args.isEmpty ∨ o.strict then f else f.flush command
    (.fail msg :: f.steps).reverse

def bytesIndex (pat : Bytes) : Bytes → Nat → Option Nat
  | [], k => if pat.isEmpty then some k else none
  | b :: rest, k => if pat.isPrefixOf (b :: rest) then some k else bytesIndex pat rest (k + 1)

/-- An argument with each occurrence of the pattern replaced by the line, as long as what is
built stays under `left` bytes; none when it does not. -/
def insertLine (pat line : Bytes) : Nat → Bytes → Nat → Bytes → Option Bytes
  | 0, _, _, _ => none
  | k + 1, arg, left, acc =>
    let (len, found) := match bytesIndex pat arg 0 with
      | some i => (i, true)
      | none => (arg.length, false)
    if left ≤ len then (if arg.isEmpty then some acc else none)
    else
      let acc := acc ++ arg.take len
      let arg := arg.drop len
      let left := left - len
      if ¬ found then some acc
      else if left ≤ line.length then none
      else
        let arg := arg.drop pat.length
        if arg.isEmpty then some (acc ++ line)
        else insertLine pat line k arg (left - line.length) (acc ++ line)

/-- The command for one line read with `-I`: the pattern replaced in every argument after the
command's name, or the complaint when it does not fit. -/
def replacedCommand (size : Nat) (pat : Bytes) (command : List Bytes) (line : Bytes) : XargsStep :=
  match command with
  | [] => .run []
  | name :: words =>
    if name.length + 1 > size then .fail "cannot fit single argument within argument list size limit"
    else
      let built := words.foldl (fun (acc : Except String (List Bytes × Nat)) w => do
        let (done, used) ← acc
        match insertLine pat line (w.length + 2) w (size - 1) [] with
        | none => .error "command too long"
        | some a =>
          if used + a.length + 1 > size then .error "argument list too long"
          else .ok (a :: done, used + a.length + 1)) (.ok ([], name.length + 1))
      match built with
      | .ok (done, _) => .run (name :: done.reverse)
      | .error e => .fail e

/-- The steps of `xargs` for its input: the runs of its command, and the complaint that stops it
when one does. -/
def xargsPlan (o : XargsOptions) (command : List String) (input : Bytes) : List XargsStep :=
  let command := (if command.isEmpty then ["echo"] else command).map Text.Utf8.encode
  let base := command.foldl (fun acc w => acc + w.length + 1) 0
  let eof := o.eof.map Text.Utf8.encode
  let fuel := input.length + 1
  match o.replace with
  | some pat =>
    let room : ItemRoom := ⟨o.size, 0, (command.headD []).length + 1⟩
    let events := match o.input with
      | .words => readWords true eof room fuel input {} []
      | .delimited d => readDelimited d room fuel input [] false []
    let pat := Text.Utf8.encode pat
    go pat command events (events.length + 1) []
  | none =>
    if base > o.size then [.fail "cannot fit single argument within argument list size limit"]
    else
      let room : ItemRoom := ⟨o.size, base, base⟩
      let events := match o.input with
        | .words => readWords false eof room fuel input {} []
        | .delimited d => readDelimited d room fuel input [] false []
      fillCommands o command base events {}
where
  /-- One command a line, stopping at the first complaint. -/
  go (pat : Bytes) (command : List Bytes) : List XargsEvent → Nat → List XargsStep → List XargsStep
    | _, 0, acc => acc.reverse
    | [], _ + 1, acc => acc.reverse
    | .item line :: more, k + 1, acc =>
      match replacedCommand o.size pat command line with
      | .fail e => (.fail e :: acc).reverse
      | step => go pat command more k (step :: acc)
    | .fail e :: _, _ + 1, acc => (.fail e :: acc).reverse
    | _ :: more, k + 1, acc => go pat command more k acc

/-- The limits `--show-limits` writes: the room the environment takes, the largest room there
is, and the room used. -/
def xargsLimits (environment widest size : Nat) : String :=
  "Your environment variables take up " ++ toString environment ++ " bytes\n" ++
  "POSIX upper limit on argument length (this system): " ++ toString widest ++ "\n" ++
  "POSIX smallest allowable upper limit on argument length (all systems): 4096\n" ++
  "Maximum length of command we could actually use: " ++ toString (widest - environment) ++ "\n" ++
  "Size of command buffer we are actually using: " ++ toString size ++ "\n" ++
  "Maximum parallelism (--max-procs must be no greater): 2147483647\n"

def tracedCommand (argv : List String) : String :=
  " ".intercalate (argv.map shellQuoted)

end SqlMigration.Shell
