import SqlMigration.Shell.Builtin
import SqlMigration.Shell.Utility

/-!
# timeout

`timeout DURATION COMMAND [ARG]...` runs a command and stops it with a signal (`TERM` unless
`-s` names another) when it runs longer than the duration: a number of seconds with a fraction
and an exponent, or of minutes, hours or days with the suffix `m`, `h` or `d`; zero never stops
it.
-/

-- powers and sums of numbers are read with the core instances, whatever else is imported
attribute [local instance (high)] instPowNat Zero.ofOfNat0

namespace SqlMigration.Shell

/-- What `timeout` is asked for: the signal, whether the status of a stopped command is kept,
whether the signal is reported, whether it goes to the command alone rather than to its whole
process group, and the duration and command that follow. -/
structure TimeoutRequest where
  signal : Nat := 15
  preserve : Bool := false
  verbose : Bool := false
  foreground : Bool := false
  operands : List String := []

/-- A number's digits with an optional point among them: the digits before and after the
point, and the characters after them. -/
def durationDigits (digit : Char → Bool) (cs : List Char) : List Char × List Char × List Char :=
  let whole := cs.takeWhile digit
  match cs.drop whole.length with
  | '.' :: more =>
    let frac := more.takeWhile digit
    (whole, frac, more.drop frac.length)
  | rest => (whole, [], rest)

/-- An exponent after its mark, as the C library reads one: a sign and digits, or none when no
digit follows, and the characters after it. -/
def durationExponent (mark : Char) (cs : List Char) : Int × List Char :=
  match cs with
  | e :: more =>
    if e.toLower ≠ mark then (0, cs)
    else
      let (neg, ds) := match more with
        | '-' :: ds => (true, ds)
        | '+' :: ds => (false, ds)
        | ds => (false, ds)
      let digits := ds.takeWhile Char.isDigit
      if digits.isEmpty then (0, cs)
      else ((if neg then -1 else 1) * (String.ofList digits).toNat!, ds.drop digits.length)
  | [] => (0, cs)

def durationValue (base : Nat) (ds : List Char) : Nat :=
  ds.foldl (fun a c => base * a + (if c.isDigit then c.toNat - 48 else c.toLower.toNat - 87)) 0

/-- A duration of `timeout`, read as the C library's `strtod` reads a number (blanks, a sign,
decimal or hexadecimal digits with an exponent, or an infinity) with one optional unit letter
after it (`s`, `m`, `h` or `d`): none when it cannot be read or is negative or not a number; a
fraction of seconds, or none inside for an endless one. -/
def readDuration (text : String) : Option (Option (Nat × Nat)) :=
  let cs := text.toList.dropWhile fun c => c = ' ' ∨ ('\t' ≤ c ∧ c ≤ '\r')
  let (neg, cs) := match cs with
    | '-' :: r => (true, r)
    | '+' :: r => (false, r)
    | r => (false, r)
  let low := cs.map Char.toLower
  let number : Option (Option (Nat × Nat) × List Char) :=
    if "infinity".toList.isPrefixOf low then some (none, cs.drop 8)
    else if "inf".toList.isPrefixOf low then some (none, cs.drop 3)
    else if "nan".toList.isPrefixOf low then none
    else
      let hex := match low with
        | '0' :: 'x' :: _ =>
          let (whole, frac, rest) := durationDigits Char.isHexDigit (cs.drop 2)
          if whole.isEmpty ∧ frac.isEmpty then none else some (whole, frac, rest)
        | _ => none
      match hex with
      | some (whole, frac, rest) =>
        let (expo, rest) := durationExponent 'p' rest
        let m := durationValue 16 (whole ++ frac)
        let e : Int := expo - 4 * frac.length
        if m = 0 then some (some (0, 1), rest)
        else if e > 200 then some (none, rest)
        else if e < -1200 then some (some (0, 1), rest)
        else if e ≥ 0 then some (some (m * 2 ^ e.toNat, 1), rest)
        else some (some (m, 2 ^ e.natAbs), rest)
      | none =>
        let (whole, frac, rest) := durationDigits Char.isDigit cs
        if whole.isEmpty ∧ frac.isEmpty then none
        else
          let (expo, rest) := durationExponent 'e' rest
          let m := durationValue 10 (whole ++ frac)
          let e : Int := expo - frac.length
          let size : Int := (toString m).length + e
          if m = 0 then some (some (0, 1), rest)
          else if e > 60 then some (none, rest)
          else if size < -323 then some (some (0, 1), rest)
          else if e ≥ 0 then some (some (m * 10 ^ e.toNat, 1), rest)
          else some (some (m, 10 ^ e.natAbs), rest)
  match number with
  | none => none
  | some (value, rest) =>
    let scale : Option Nat := match rest with
      | [] => some 1
      | ['s'] => some 1
      | ['m'] => some 60
      | ['h'] => some 3600
      | ['d'] => some 86400
      | _ => none
    match scale, value with
    | none, _ => none
    | some _, none => if neg then none else some none
    | some k, some (num, den) => if neg ∧ num ≠ 0 then none else some (some (num * k, den))

/-- Reads the options of `timeout` up to its first operand: the request, or the message of a
wrong option. -/
def readTimeoutOptions : Nat → List String → TimeoutRequest → Except String TimeoutRequest
  | 0, _, r => .ok r
  | _ + 1, [], r => .ok r
  | k + 1, a :: rest, r =>
    let signalOf (v : String) : Except String Nat :=
      match signalOf? v false with
      | some n => .ok n
      | none => .error (localeQuote v ++ ": invalid signal")
    if a = "--" then .ok { r with operands := rest }
    else if a = "--preserve-status" then readTimeoutOptions k rest { r with preserve := true }
    else if a = "--foreground" then readTimeoutOptions k rest { r with foreground := true }
    else if a = "--verbose" then readTimeoutOptions k rest { r with verbose := true }
    else if a.startsWith "--signal=" then
      match signalOf (String.ofList (a.toList.drop 9)) with
      | .ok n => readTimeoutOptions k rest { r with signal := n }
      | .error m => .error m
    else if a.startsWith "--kill-after=" then readTimeoutOptions k rest r
    else if a = "--signal" ∨ a = "--kill-after" then
      match rest with
      | v :: more =>
        if a = "--kill-after" then readTimeoutOptions k more r
        else match signalOf v with
          | .ok n => readTimeoutOptions k more { r with signal := n }
          | .error m => .error m
      | [] => .error ("option '" ++ a ++ "' requires an argument")
    else if a.startsWith "--" then .error ("unrecognized option '" ++ a ++ "'")
    else if a.startsWith "-" ∧ a.length > 1 then
      letters k (a.toList.drop 1) rest r
    else .ok { r with operands := a :: rest }
where
  /-- The letters of one option word. -/
  letters : Nat → List Char → List String → TimeoutRequest → Except String TimeoutRequest
    | 0, _, _, r => .ok r
    | j + 1, [], rest, r => readTimeoutOptions j rest r
    | j + 1, c :: cs, rest, r =>
      if c = 'v' then letters j cs rest { r with verbose := true }
      else if c = 's' ∨ c = 'k' then
        let (v, more) := if cs.isEmpty then (rest.head?, rest.drop 1) else (some (String.ofList cs), rest)
        match v with
        | none => .error ("option requires an argument -- '" ++ String.singleton c ++ "'")
        | some v =>
          if c = 'k' then readTimeoutOptions j more r
          else match signalOf? v false with
            | some n => readTimeoutOptions j more { r with signal := n }
            | none => .error (localeQuote v ++ ": invalid signal")
      else .error ("invalid option -- '" ++ String.singleton c ++ "'")

/-- Runs `timeout`; `run` runs a program by the name or path it is invoked by, with its
arguments. -/
def timeoutUtility (run : String → List String → Sh Unit) (args : List String) : Sh Unit := do
  let tryHelp : Sh Unit := do
    say 2 "Try 'timeout --help' for more information.\n"
    setStatus 125
  match readTimeoutOptions (args.length + 1) args {} with
  | .error m =>
    gnuSay "timeout" m
    tryHelp
  | .ok r =>
    match r.operands with
    | dur :: cmd :: more =>
      match readDuration dur with
      | none =>
        gnuSay "timeout" ("invalid time interval " ++ localeQuote dur)
        tryHelp
      | some span =>
        match ← programLookup cmd defaultExecPath with
        | none =>
          let exists_ := ((← get).tree.stat (← pathOf cmd)).toOption.isSome ∧ cmd.contains '/'
          gnuSay "timeout" ("failed to run command " ++ localeQuote cmd ++ ": " ++
            (if exists_ then "Permission denied" else "No such file or directory"))
          setStatus (if exists_ then 126 else 127)
        | some _ =>
          match span with
          | none | some (0, _) => run cmd more
          | some (num, den) =>
            let s ← get
            let outer := s.limits.limit
            let now := s.elapsed + startupTime
            let mine : Int × Nat := (Int.ofNat (now * den + num * 1000000000), 1000000000 * den)
            let ours : Bool := match outer with
              | some (p, q) => decide (mine.1 * q ≤ p * mine.2)
              | none => true
            if ours then modify fun s => { s with limits := { s.limits with limit := some mine } }
            let r' ← tryCatch (do run cmd more; pure none) fun e => pure (some e)
            modify fun s => { s with limits := { s.limits with limit := outer } }
            match r' with
            | some .timeout =>
              if ¬ ours then throw .timeout
              modify fun s => { s with elapsed := now - startupTime + (num * 1000000000 + den - 1) / den }
              if r.verbose then
                gnuSay "timeout" ("sending signal " ++ signalName r.signal ++ " to command " ++ localeQuote cmd)
              if r.signal = 9 then
                if r.foreground then setStatus 137 else throw (.signal 9)
              else setStatus (if r.preserve then 128 + r.signal else 124)
            | some e => throw e
            | none => pure ()
    | _ => tryHelp

end SqlMigration.Shell
