import SqlMigration.Shell.Utility

/-!
# The `printf` program

The `printf` found on the search path, as opposed to the shell's own command.
-/

namespace SqlMigration.Shell

/-- What the program wrote, its messages, and how it ends. -/
structure PrintfRun where
  out : Bytes := []
  messages : List String := []
  /-- A number was wrong, which makes the status 1. -/
  failed : Bool := false
  /-- The program ended early: with status 1 after an error, or with 0 at a `\c`. -/
  ended : Option Nat := none
  deriving Repr, Inhabited

def PrintfRun.put (r : PrintfRun) (bs : Bytes) : PrintfRun := { r with out := r.out ++ bs }

def PrintfRun.warn (r : PrintfRun) (m : String) : PrintfRun :=
  { r with messages := r.messages ++ [m], failed := true }

def PrintfRun.die (r : PrintfRun) (m : String) : PrintfRun :=
  { r with messages := r.messages ++ [m], ended := some 1 }

def bytesShown (bs : Bytes) : String := String.ofList (Text.Utf8.decodeLossy bs)

/-- The first character of bytes in UTF-8 and the bytes it takes, or the first byte alone when
they do not start with a whole character. -/
def firstCharCode (bs : Bytes) : Nat × Nat :=
  match bs with
  | [] => (0, 0)
  | b :: _ =>
    let len := match Text.Utf8.continuations b with
      | some k => k + 1
      | none => 1
    match Text.Utf8.decode (bs.take len) with
    | .ok s => match s.toList with
      | [c] => (c.toNat, len)
      | _ => (b.toNat, 1)
    | .error _ => (b.toNat, 1)

def hexRun (n : Nat) (bs : Bytes) : Nat × Nat :=
  go n bs 0 0
where
  go : Nat → Bytes → Nat → Nat → Nat × Nat
    | 0, _, v, k => (v, k)
    | _ + 1, [], v, k => (v, k)
    | m + 1, b :: rest, v, k => match hexValue? b with
      | some d => go m rest (v * 16 + d) (k + 1)
      | none => (v, k)

def hexCode (v width : Nat) : String :=
  let ds := Nat.toDigits 16 v
  String.ofList (List.replicate (width - ds.length) '0' ++ ds)

/-- What an escape writes, given the bytes after its backslash: the bytes, the rest, and whether
it ends the output; or the error that ends the program. -/
def programEscape (bs : Bytes) (inArg : Bool) : Except String (Bytes × Bytes × Bool) :=
  match bs with
  | [] => .ok ([92], [], false)
  | c :: rest =>
    let simple : Option UInt8 := match Char.ofNat c.toNat with
      | 'a' => some 7 | 'b' => some 8 | 'e' => some 27 | 'f' => some 12 | 'n' => some 10
      | 'r' => some 13 | 't' => some 9 | 'v' => some 11 | '\\' => some 92 | '"' => some 34
      | _ => none
    match simple with
    | some v => .ok ([v], rest, false)
    | none =>
      if c.toNat = 99 then .ok ([], rest, true)
      else if c.toNat = 120 then
        let (v, k) := hexRun 2 rest
        if k = 0 then .error "missing hexadecimal number in escape"
        else .ok ([v.toUInt8], rest.drop k, false)
      else if (octalValue? c).isSome then
        let digits := if inArg ∧ c.toNat = 48 then rest else c :: rest
        let (v, after) := octalRun 3 0 digits
        .ok ([v.toUInt8], after, false)
      else if c.toNat = 117 ∨ c.toNat = 85 then
        let width := if c.toNat = 117 then 4 else 8
        let (v, k) := hexRun width rest
        if k < width then .error "missing hexadecimal number in escape"
        else if (v ≤ 0x9f ∧ v ≠ 0x24 ∧ v ≠ 0x40 ∧ v ≠ 0x60) ∨ (0xd800 ≤ v ∧ v ≤ 0xdfff) then
          .error ("invalid universal character name \\" ++ String.singleton (Char.ofNat c.toNat) ++ hexCode v width)
        else .ok (Text.Utf8.encodeChar (Char.ofNat v), rest.drop k, false)
      else .ok ([92, c], rest, false)

def programEscapes : Nat → Bytes → Except String (Bytes × Bool)
  | 0, _ => .ok ([], false)
  | _ + 1, [] => .ok ([], false)
  | n + 1, b :: rest =>
    if b.toNat = 92 then do
      let (out, after, stop) ← programEscape rest true
      if stop then return (out, true)
      let (more, stop) ← programEscapes n after
      return (out ++ more, stop)
    else do
      let (more, stop) ← programEscapes n rest
      return (b :: more, stop)

/-- A text quoted for the shell: as it is when nothing in it is special, in double quotes when
only single quotes and blanks are, and otherwise in single quotes, a single quote written as
`'\''` and a control character as `$'\n'`-style escapes between quoted runs. -/
def shellQuoted (s : String) : String :=
  let cs := s.toList
  let special (c : Char) : Bool := " \t\n!\"$&'()*;<=>?[\\]^\x60\x7b|\x7d".toList.contains c ∨ c.toNat < 32 ∨ c.toNat = 127
  let leading : Bool := match cs with
    | c :: _ => c == '#' || c == '~'
    | [] => false
  if cs.isEmpty then "''"
  else if ¬ leading ∧ ¬ cs.any special then s
  else if cs.all (fun c => c.toNat ≥ 32 ∧ c.toNat ≠ 127 ∧ ¬ "\"$\\\x60!".toList.contains c) ∧ cs.contains '\'' then
    "\"" ++ s ++ "\""
  else
    let control (c : Char) : Bool := c.toNat < 32 ∨ c.toNat = 127
    let escape (c : Char) : String := match c with
      | '\n' => "\\n" | '\t' => "\\t" | '\r' => "\\r" | '\x07' => "\\a" | '\x08' => "\\b"
      | '\x0c' => "\\f" | '\x0b' => "\\v" | '\x1b' => "\\E"
      | c => "\\" ++ String.ofList (let ds := Nat.toDigits 8 c.toNat; List.replicate (3 - ds.length) '0' ++ ds)
    let runs := cs.splitBy fun a b => control a = control b
    String.join (runs.map fun run =>
      if run.all control then "$'" ++ String.join (run.map escape) ++ "'"
      else "'" ++ String.join (run.map fun c => if c = '\'' then "'\\''" else String.singleton c) ++ "'")

def numberWarning (shown : String) (read : NumberRead) (outside : Bool) : Option String :=
  match read with
  | .missing => some (localeQuote shown ++ ": expected a numeric value")
  | .incomplete _ => some (localeQuote shown ++ ": value not completely converted")
  | .complete _ => if outside then some (localeQuote shown ++ ": Numerical result out of range") else none

/-- An integer argument: a character constant, or a number read and clamped as C does; with the
warnings it gives and whether it makes the status failing. -/
def programInteger (unsigned : Bool) (arg : Bytes) : Int × List (String × Bool) :=
  match arg with
  | q :: rest@(_ :: _) =>
    if q.toNat = 39 ∨ q.toNat = 34 then
      let (code, used) := firstCharCode rest
      let extra := rest.drop used
      (code, if extra.isEmpty then [] else
        [("warning: " ++ bytesShown extra ++ ": character(s) following character constant have been ignored", false)])
    else numeric
  | _ => numeric
where
  numeric : Int × List (String × Bool) :=
    let shown := bytesShown arg
    let lo : Int := if unsigned then -(Nat.pow 2 64 - 1 : Nat) else -(Nat.pow 2 63 : Nat)
    let hi : Int := if unsigned then (Nat.pow 2 64 - 1 : Nat) else (Nat.pow 2 63 - 1 : Nat)
    let wrap (v : Int) : Int := if unsigned ∧ v < 0 then v + (Nat.pow 2 64 : Nat) else v
    if arg.isEmpty then (0, []) else
    let read := readNumber arg
    let v := match read with
      | .complete v | .incomplete v => v
      | .missing => 0
    let outside := v > hi ∨ v < lo
    let clamped := if v > hi then hi else if v < lo then (if unsigned then hi else lo) else v
    (wrap clamped, ((numberWarning shown read outside).map (·, true)).toList)

/-- A floating-point argument read as an extended number: its sign and value, with its
warnings. -/
def programFloat (arg : Bytes) : Bool × Number.Binary64 × List (String × Bool) :=
  match arg with
  | q :: rest@(_ :: _) =>
    if q.toNat = 39 ∨ q.toNat = 34 then
      let (code, used) := firstCharCode rest
      let extra := rest.drop used
      (false, Number.roundRational Number.extended false code 1, if extra.isEmpty then [] else
        [("warning: " ++ bytesShown extra ++ ": character(s) following character constant have been ignored", false)])
    else numeric
  | _ => numeric
where
  numeric : Bool × Number.Binary64 × List (String × Bool) :=
    if arg.isEmpty then (false, .finite false 0 Number.extended.minExp, []) else
    let r := readFloatArg arg Number.extended
    let shown := bytesShown arg
    let read : NumberRead := if r.used = 0 then .missing else if r.used < arg.length then .incomplete 0 else .complete 0
    (r.neg, r.value, ((numberWarning shown read r.outOfRange).map (·, true)).toList)

def PrintfRun.notes (r : PrintfRun) (ws : List (String × Bool)) : PrintfRun :=
  ws.foldl (fun r (m, fails) => { r with messages := r.messages ++ [m], failed := r.failed || fails }) r

def allowedConversions (flags : Bytes) (precision : Bool) : List Char :=
  let all := "aAcdeEfFgGiosuxX".toList
  let all := if flags.contains 39 then all.filter fun c => ¬ "aAceEosxX".toList.contains c else all
  let all := if flags.contains 35 then all.filter fun c => ¬ "cdisu".toList.contains c else all
  let all := if flags.contains 48 then all.filter fun c => ¬ "cs".toList.contains c else all
  if precision then all.filter (· ≠ 'c') else all

/-- A width or precision given as `*`: the next argument as a number, with its warnings; none
left gives 0. -/
def programStar (args : List Bytes) : Int × List (String × Bool) × List Bytes :=
  match args with
  | a :: rest => let (v, ws) := programInteger false a; (v, ws, rest)
  | [] => (0, [], [])

/-- One directive after its `%`: its output added, and the arguments and format left. -/
def programDirective (whole fmt : Bytes) (args : List Bytes) (r : PrintfRun) :
    PrintfRun × List Bytes × Bytes :=
  match fmt with
  | b :: rest =>
    if b = byte 'b' then
      match args with
      | a :: more =>
        match programEscapes (a.length + 1) a with
        | .ok (text, stop) =>
          let r := r.put text
          (if stop then { r with ended := some 0 } else r, more, rest)
        | .error m => (r.die m, more, rest)
      | [] => (r, [], rest)
    else if b = byte 'q' then
      match args with
      | a :: more => (r.put (Text.Utf8.encode (shellQuoted (bytesShown a))), more, rest)
      | [] => (r, [], rest)
    else general
  | [] => general
where
  general : PrintfRun × List Bytes × Bytes :=
    let flagBytes := fmt.takeWhile fun b => "-+ #0'I".toList.contains (Char.ofNat b.toNat)
    let (spec, _) := readFlags fmt.length {} (flagBytes.filter fun b => b ≠ 39 ∧ b ≠ byte 'I')
    let fmt1 := fmt.drop flagBytes.length
    let (spec, fmt2, args, r) : Spec × Bytes × List Bytes × PrintfRun := match fmt1 with
      | s :: more =>
        if s = byte '*' then
          let (v, ws, args) := programStar args
          let spec := if v < 0 then { spec with left := true, width := v.natAbs } else { spec with width := v.toNat }
          (spec, more, args, r.notes ws)
        else
          let (v, more) := decimalRun fmt1
          ({ spec with width := v }, more, args, r)
      | [] => (spec, fmt1, args, r)
    let (spec, fmt3, args, r, dotted) : Spec × Bytes × List Bytes × PrintfRun × Bool := match fmt2 with
      | d :: more =>
        if d = byte '.' then
          match more with
          | s :: more' =>
            if s = byte '*' then
              let (v, ws, args) := programStar args
              ({ spec with precision := if v < 0 then none else some v.toNat }, more', args, r.notes ws, true)
            else
              let (v, more') := decimalRun more
              ({ spec with precision := some v }, more', args, r, true)
          | [] => ({ spec with precision := some 0 }, more, args, r, true)
        else (spec, fmt2, args, r, false)
      | [] => (spec, fmt2, args, r, false)
    let fmt4 := fmt3.dropWhile fun b => "lLhjtz".toList.contains (Char.ofNat b.toNat)
    match fmt4 with
    | [] => (r.die (bytesShown (whole.take (whole.length - fmt4.length)) ++ ": invalid conversion specification"), args, [])
    | c :: rest =>
      let conv := Char.ofNat c.toNat
      if ¬ (allowedConversions flagBytes dotted).contains conv then
        (r.die (bytesShown (whole.take (whole.length - rest.length)) ++ ": invalid conversion specification"), args, [])
      else if spec.tooWide then
        (r.die "cannot perform formatted output: Value too large for defined data type", args, [])
      else
        let (a, args') := nextArg args
        if conv = 's' then (r.put (formatText spec a), args', rest)
        else if conv = 'c' then (r.put (padText spec [a.headD 0]), args', rest)
        else if "dioxXu".contains conv then
          let (v, ws) := programInteger (¬ (conv = 'd' ∨ conv = 'i')) a
          ((r.notes ws).put (formatInteger spec conv v), args', rest)
        else
          let (neg, x, ws) := programFloat a
          ((r.notes ws).put (formatFloat spec conv neg x true), args', rest)

def programPass : Nat → Bytes → List Bytes → PrintfRun → PrintfRun × List Bytes
  | 0, _, args, r => (r, args)
  | _ + 1, [], args, r => (r, args)
  | n + 1, b :: fmt, args, r =>
    if b = byte '\\' then
      match programEscape fmt false with
      | .ok (out, rest, stop) =>
        let r := r.put out
        if stop then ({ r with ended := some 0 }, args) else programPass n rest args r
      | .error m => (r.die m, args)
    else if b ≠ byte '%' then programPass n fmt args (r.put [b])
    else match fmt with
      | p :: rest =>
        if p = byte '%' then programPass n rest args (r.put [p])
        else
          let (r, args, rest) := programDirective (b :: fmt) fmt args r
          if r.ended.isSome then (r, args) else programPass n rest args r
      | [] => programPass n [] args (r.die "%: invalid conversion specification")

/-- Runs the program on a format and its arguments: the format is used again while arguments
are left and the last pass used some, and arguments never used draw a warning. -/
def printfProgram (format : Bytes) (args : List Bytes) : PrintfRun :=
  go (args.length + 1) args {}
where
  go : Nat → List Bytes → PrintfRun → PrintfRun
    | 0, _, r => r
    | k + 1, args, r =>
      let (r', rest) := programPass (format.length + 1) format args r
      if r'.ended.isSome then r'
      else if rest.isEmpty then r'
      else if rest.length = args.length then
        { r' with messages := r'.messages ++
          ["warning: ignoring excess arguments, starting with " ++ localeQuote (bytesShown (rest.headD []))] }
      else go k rest r'

def printfUtility (args : List String) : Sh Unit := do
  let args := match args with
    | "--" :: rest => rest
    | _ => args
  match args with
  | [] => usageError "printf" "missing operand"
  | fmt :: rest =>
    let r := printfProgram (Text.Utf8.encode fmt) (rest.map Text.Utf8.encode)
    emit 1 r.out
    for m in r.messages do gnuSay "printf" m
    setStatus (r.ended.getD (if r.failed then 1 else 0))

end SqlMigration.Shell
