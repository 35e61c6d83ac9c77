import SqlMigration.Shell.PrintfProgram
import SqlMigration.Shell.Clock

/-!
# `printf` and `echo` of `bash`

`bash`'s `printf` reads its format as the C library's `printf` would, one conversion at a time:
-/

namespace SqlMigration.Shell

/-- The bytes of a character code in UTF-8, extended past the last character to five and six
bytes as the shell writes them. -/
def utf8Code (v : Nat) : Bytes :=
  let cont (k : Nat) : UInt8 := (0x80 + v / Nat.pow 64 k % 64).toUInt8
  if v < 0x80 then [v.toUInt8]
  else if v < 0x800 then [(0xc0 + v / 64).toUInt8, cont 0]
  else if v < 0x10000 then [(0xe0 + v / 4096).toUInt8, cont 1, cont 0]
  else if v < 0x200000 then [(0xf0 + v / 262144).toUInt8, cont 2, cont 1, cont 0]
  else if v < 0x4000000 then [(0xf8 + v / 16777216).toUInt8, cont 3, cont 2, cont 1, cont 0]
  else if v < 0x80000000 then
    [(0xfc + v / 1073741824).toUInt8, cont 4, cont 3, cont 2, cont 1, cont 0]
  else []

/-- What a backslash escape of `bash`'s `printf` writes, given the bytes after the backslash:
the bytes, the rest of the text, a message, and whether it was `\c` (which only an argument of
`%b`, `inArg`, has). -/
def bashEscape (bs : Bytes) (inArg : Bool) : Bytes × Bytes × Option String × Bool :=
  match bs with
  | [] => ([92], [], none, false)
  | c :: rest =>
    let plain : Bytes × Bytes × Option String × Bool := ([92], bs, none, false)
    let simple : Option UInt8 := match Char.ofNat c.toNat with
      | 'a' => some 7 | 'b' => some 8 | 'e' => some 27 | 'E' => some 27 | 'f' => some 12
      | 'n' => some 10 | 'r' => some 13 | 't' => some 9 | 'v' => some 11 | '\\' => some 92
      | _ => none
    match simple with
    | some v => ([v], rest, none, false)
    | none =>
      match octalValue? c with
      | some d =>
        let (v, after) := octalRun (if d = 0 ∧ inArg then 3 else 2) d rest
        ([(v % 256).toUInt8], after, none, false)
      | none =>
        let ch := Char.ofNat c.toNat
        if ch = 'x' then
          let (v, k) := hexRun 2 rest
          if k = 0 then ([92], bs, some "missing hex digit for \\x", false)
          else ([v.toUInt8], rest.drop k, none, false)
        else if ch = 'u' ∨ ch = 'U' then
          let (v, k) := hexRun (if ch = 'u' then 4 else 8) rest
          if k = 0 then ([92], bs, some ("missing unicode digit for \\" ++ String.singleton ch), false)
          else (utf8Code v, rest.drop k, none, false)
        else if ch = '\'' ∨ ch = '"' ∨ ch = '?' then
          if inArg then plain else ([c], rest, none, false)
        else if ch = 'c' ∧ inArg then ([], rest, none, true)
        else plain

/-- An argument of `%b` with its escapes replaced, the messages of bad ones, and whether a `\c`
ended it. -/
def bashArgEscapes : Nat → Bytes → Bytes × List String × Bool
  | 0, _ => ([], [], false)
  | _ + 1, [] => ([], [], false)
  | n + 1, b :: rest =>
    if b.toNat = 92 ∧ ¬ rest.isEmpty then
      let (out, after, msg, stop) := bashEscape rest true
      if stop then ([], msg.toList, true)
      else
        let (more, msgs, stop) := bashArgEscapes n after
        (out ++ more, msg.toList ++ msgs, stop)
    else
      let (more, msgs, stop) := bashArgEscapes n rest
      (b :: more, msgs, stop)

/-- What `bash`'s `printf` did: the bytes written, its messages, whether a number was wrong
(which makes the status 1), the status it stopped with early, the values `%n` gave to
variables, and the bytes written in the current pass over the format. -/
structure BashPrintfRun where
  out : Bytes := []
  messages : List String := []
  failed : Bool := false
  ended : Option Nat := none
  counts : List (String × Nat) := []
  pass : Nat := 0
  deriving Repr, Inhabited

def BashPrintfRun.put (r : BashPrintfRun) (bs : Bytes) : BashPrintfRun :=
  { r with out := r.out ++ bs, pass := r.pass + bs.length }

def BashPrintfRun.say (r : BashPrintfRun) (ms : List String) : BashPrintfRun :=
  { r with messages := r.messages ++ ms }

def BashPrintfRun.stop (r : BashPrintfRun) (m : String) : BashPrintfRun :=
  { r with messages := r.messages ++ [m], ended := some 1 }

/-- How a number argument that was not read in full is named: as an octal or hexadecimal one
by its start. -/
def bashInvalidNumber (shown : String) : String :=
  match shown.toList with
  | '0' :: d :: _ =>
    if d.isDigit then shown ++ ": invalid octal number"
    else if d = 'x' then shown ++ ": invalid hex number"
    else shown ++ ": invalid number"
  | _ => shown ++ ": invalid number"

/-- An integer argument as `bash` reads it: a character constant, or a number read by C with
base 0 and clamped; with its message and whether it makes the status failing. -/
def bashInteger (unsigned : Bool) (arg : Bytes) : Int × Option String × Bool :=
  match arg with
  | q :: rest =>
    if q.toNat = 39 ∨ q.toNat = 34 then ((firstCharCode rest).1, none, false)
    else numeric
  | [] => (0, none, false)
where
  numeric : Int × Option String × Bool :=
    let shown := bytesShown arg
    let lo : Int := if unsigned then -(Nat.pow 2 64 - 1 : Nat) else -(Nat.pow 2 63 : Nat)
    let hi : Int := if unsigned then (Nat.pow 2 64 - 1 : Nat) else (Nat.pow 2 63 - 1 : Nat)
    let wrap (v : Int) : Int := if unsigned ∧ v < 0 then v + (Nat.pow 2 64 : Nat) else v
    let clamp (v : Int) : Int := if v > hi then hi else if v < lo then (if unsigned then hi else lo) else v
    match readNumber arg with
    | .complete v =>
      if v > hi ∨ v < lo then (wrap (clamp v), some ("warning: " ++ shown ++ ": Numerical result out of range"), false)
      else (wrap v, none, false)
    | .incomplete v => (wrap (clamp v), some (bashInvalidNumber shown), true)
    | .missing => (0, some (bashInvalidNumber shown), true)

/-- A floating-point argument read as an extended number: its sign and value, its message and
whether it makes the status failing. -/
def bashFloat (arg : Bytes) : Bool × Number.Binary64 × Option String × Bool :=
  match arg with
  | q :: rest =>
    if q.toNat = 39 ∨ q.toNat = 34 then
      (false, Number.roundRational Number.extended false (firstCharCode rest).1 1, none, false)
    else numeric
  | [] => (false, .finite false 0 Number.extended.minExp, none, false)
where
  numeric : Bool × Number.Binary64 × Option String × Bool :=
    let r := readFloatArg arg Number.extended
    let shown := bytesShown arg
    if r.used < arg.length then (r.neg, r.value, some (bashInvalidNumber shown), true)
    else if r.outOfRange then (r.neg, r.value, some ("warning: " ++ shown ++ ": Numerical result out of range"), false)
    else (r.neg, r.value, none, false)

def BashPrintfRun.note (r : BashPrintfRun) (msg : Option String) (fails : Bool) : BashPrintfRun :=
  { r with messages := r.messages ++ msg.toList, failed := r.failed || fails }

def bashStar (args : List Bytes) (r : BashPrintfRun) : Int × List Bytes × BashPrintfRun :=
  match args with
  | a :: rest =>
    let (v, msg, fails) := bashInteger false a
    let v := if v > 2147483647 then 2147483647 else if v < -2147483648 then -2147483648 else v
    (v, rest, r.note msg fails)
  | [] => (0, [], r)

def isShellName (s : String) : Bool :=
  match s.toList with
  | c :: rest => (c.isAlpha || c == '_') && rest.all fun d => d.isAlphanum || d == '_'
  | [] => false

/-- Text written as `%b`, `%q` and a time are: cut to the precision and padded to the width,
both counted in bytes. -/
def bashPadded (spec : Spec) (text : Bytes) : Bytes := formatText spec text

/-- One conversion after its `%`: its output added, and the arguments and format left. -/
def bashConversion (now : Int) (whole fmt : Bytes) (args : List Bytes) (r : BashPrintfRun) :
    BashPrintfRun × List Bytes × Bytes :=
  let flagBytes := fmt.takeWhile fun b => "#'-+ 0".toList.contains (Char.ofNat b.toNat)
  let (spec, _) := readFlags fmt.length {} (flagBytes.filter fun b => b ≠ 39)
  let fmt1 := fmt.drop flagBytes.length
  let (spec, fmt2, args, r) : Spec × Bytes × List Bytes × BashPrintfRun := match fmt1 with
    | s :: more =>
      if s = byte '*' then
        let (v, args, r) := bashStar args r
        let spec := if v < 0 then { spec with left := true, width := v.natAbs } else { spec with width := v.toNat }
        (spec, more, args, r)
      else
        let (v, more) := decimalRun fmt1
        ({ spec with width := v }, more, args, r)
    | [] => (spec, fmt1, args, r)
  let (spec, fmt3, args, r) : Spec × Bytes × List Bytes × BashPrintfRun := match fmt2 with
    | d :: more =>
      if d = byte '.' then
        match more with
        | s :: more' =>
          if s = byte '*' then
            let (v, args, r) := bashStar args r
            ({ spec with precision := if v < 0 then none else some v.toNat }, more', args, r)
          else
            let neg := s = byte '-'
            let (v, more') := decimalRun (if neg then more' else more)
            ({ spec with precision := if neg then none else some v }, more', args, r)
        | [] => ({ spec with precision := some 0 }, more, args, r)
      else (spec, fmt2, args, r)
    | [] => (spec, fmt2, args, r)
  let fmt4 := fmt3.dropWhile fun b => "hjlLtz".toList.contains (Char.ofNat b.toNat)
  match fmt4 with
  | [] => (r.stop ("`" ++ bytesShown whole ++ "': missing format character"), args, [])
  | c :: rest =>
    let conv := Char.ofNat c.toNat
    let (a, args') := nextArg args
    if conv = 's' then (r.put (formatText spec a), args', rest)
    else if spec.tooWide ∧ "cdiouxXeEfFgGaA".contains conv then (r, args', rest)
    else if conv = 'c' then (r.put (padText spec [a.headD 0]), args', rest)
    else if conv = 'b' then
      let (text, msgs, stop) := bashArgEscapes (a.length + 1) a
      let r := (r.say msgs).put (bashPadded spec text)
      (if stop then { r with ended := some 0 } else r, args', rest)
    else if conv = 'q' ∨ conv = 'Q' then
      let text := bytesShown (if conv = 'Q' then (match spec.precision with
        | some p => a.take p
        | none => a) else a)
      let quoted := Text.Utf8.encode (bashPrintfQuoted text)
      let spec := if conv = 'Q' then { spec with precision := none } else spec
      (r.put (bashPadded spec quoted), args', rest)
    else if conv = 'n' then
      let name := bytesShown a
      if name.isEmpty then (r, args', rest)
      else if isShellName name then ({ r with counts := r.counts ++ [(name, r.pass)] }, args', rest)
      else (r.stop ("`" ++ name ++ "': not a valid identifier"), args', rest)
    else if conv = '(' then timeConversion spec rest args
    else if "di".contains conv then
      let (v, msg, fails) := bashInteger false a
      ((r.note msg fails).put (formatInteger spec conv v), args', rest)
    else if "ouxX".contains conv then
      let (v, msg, fails) := bashInteger true a
      ((r.note msg fails).put (formatInteger spec conv v), args', rest)
    else if "eEfFgGaA".contains conv then
      let (neg, x, msg, fails) := bashFloat a
      ((r.note msg fails).put (formatFloat spec conv neg x true), args', rest)
    else (r.stop ("`" ++ String.singleton conv ++ "': invalid format character"), args, [])
where
  /-- A time `%(format)T`: the format up to the matching parenthesis, then `T`; the argument is
  seconds since the epoch, `-1` or none for now. -/
  timeConversion (spec : Spec) (rest : Bytes) (args : List Bytes) : BashPrintfRun × List Bytes × Bytes :=
    let (inner, after) := closing rest.length 1 [] rest
    match after with
    | t :: more =>
      if t = byte 'T' then
        let (secs, args, r) : Int × List Bytes × BashPrintfRun := match args with
          | a :: more =>
            let (v, msg, fails) := bashInteger false a
            (if v = -1 ∨ v = -2 then now else v, more, r.note msg fails)
          | [] => (now, [], r)
        let timeFormat := if inner.isEmpty then "%X" else bytesShown inner
        (r.put (bashPadded spec (Text.Utf8.encode (strftime secs timeFormat))), args, more)
      else
        let r := r.say ["warning: `" ++ String.singleton (Char.ofNat t.toNat) ++ "': invalid time format specification"]
        (r.put [byte '%'], args, whole.drop 1)
    | [] =>
      let r := r.say ["warning: `': invalid time format specification"]
      (r.put [byte '%'], args, whole.drop 1)
  /-- The bytes up to the parenthesis that closes an open one, and the bytes after it. -/
  closing : Nat → Nat → Bytes → Bytes → Bytes × Bytes
    | 0, _, acc, bs => (acc.reverse, bs)
    | _ + 1, _, acc, [] => (acc.reverse, [])
    | k + 1, depth, acc, b :: bs =>
      if b = byte ')' ∧ depth = 1 then (acc.reverse, bs)
      else
        let depth := if b = byte '(' then depth + 1 else if b = byte ')' then depth - 1 else depth
        closing k depth (b :: acc) bs

def bashPrintfPass (now : Int) : Nat → Bytes → List Bytes → BashPrintfRun → BashPrintfRun × List Bytes
  | 0, _, args, r => (r, args)
  | _ + 1, [], args, r => (r, args)
  | n + 1, b :: fmt, args, r =>
    if b = byte '\\' then
      let (out, rest, msg, _) := bashEscape fmt false
      bashPrintfPass now n rest args ((r.say msg.toList).put out)
    else if b ≠ byte '%' then bashPrintfPass now n fmt args (r.put [b])
    else match fmt with
      | p :: rest =>
        if p = byte '%' then bashPrintfPass now n rest args (r.put [p])
        else
          let (r, args, rest) := bashConversion now (b :: fmt) fmt args r
          if r.ended.isSome then (r, args) else bashPrintfPass now n rest args r
      | [] => (r.stop "`%': missing format character", args)

/-- Runs `bash`'s `printf` on a format and its arguments, `now` being the time in seconds since
the epoch: the format is used again while arguments are left and the last pass used some. -/
def bashPrintf (now : Int) (format : Bytes) (args : List Bytes) : BashPrintfRun :=
  go (args.length + 1) args {}
where
  go : Nat → List Bytes → BashPrintfRun → BashPrintfRun
    | 0, _, r => r
    | k + 1, args, r =>
      let (r', rest) := bashPrintfPass now (format.length + 1) format args { r with pass := 0 }
      if r'.ended.isSome ∨ rest.isEmpty ∨ rest.length = args.length then r'
      else go k rest r'

/-- A word of `echo -e` with its escapes replaced, and whether a `\c` ended the output: those
of `%b`, except that an octal escape starts with `\0`, and `\'`, `\"` and `\?` keep their
backslash. -/
def bashEchoEscapes : Nat → Bytes → Bytes × Bool
  | 0, _ => ([], false)
  | _ + 1, [] => ([], false)
  | n + 1, b :: rest =>
    match b.toNat, rest with
    | 92, c :: more =>
      let (out, after, stop) : Bytes × Bytes × Bool :=
        if c.toNat = 48 then
          let (v, after) := octalRun 3 0 more
          ([(v % 256).toUInt8], after, false)
        else if (octalValue? c).isSome then ([92, c], more, false)
        else if c = byte 'x' then
          let (v, k) := hexRun 2 more
          if k = 0 then ([92, c], more, false) else ([v.toUInt8], more.drop k, false)
        else if c = byte 'u' ∨ c = byte 'U' then
          let (v, k) := hexRun (if c = byte 'u' then 4 else 8) more
          if k = 0 then ([92, c], more, false) else (utf8Code v, more.drop k, false)
        else if c = byte 'c' then ([], more, true)
        else
          let (out, after, _, _) := bashEscape rest true
          (out, after, false)
      if stop then (out, true)
      else
        let (more', stop') := bashEchoEscapes n after
        (out ++ more', stop')
    | _, _ =>
      let (more, stop) := bashEchoEscapes n rest
      (b :: more, stop)

/-- What `bash`'s `echo` writes for its arguments; `escapes` is whether escapes are replaced
before any option says. -/
def bashEchoBytes (escapes : Bool) (args : List String) : Bytes :=
  let isOpt (a : String) : Bool := a.length > 1 ∧ a.startsWith "-" ∧ (a.toList.drop 1).all ("neE".toList.contains ·)
  let opts := args.takeWhile isOpt
  let words := args.drop opts.length
  let letters := (opts.map fun o => o.toList.drop 1).flatten
  let newline := ¬ letters.contains 'n'
  let escapes := match letters.reverse.find? fun c => c = 'e' ∨ c = 'E' with
    | some c => c = 'e'
    | none => escapes
  go (words.length + 1) escapes newline words
where
  go : Nat → Bool → Bool → List String → Bytes
    | 0, _, _, _ => []
    | _ + 1, _, newline, [] => if newline then [10] else []
    | k + 1, escapes, newline, w :: rest =>
      let bs := Text.Utf8.encode w
      let (text, stop) := if escapes then bashEchoEscapes (bs.length + 1) bs else (bs, false)
      if stop then text
      else text ++ (if rest.isEmpty then [] else [32]) ++ go k escapes newline rest

end SqlMigration.Shell
