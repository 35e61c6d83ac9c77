import SqlMigration.Text.Utf8
import SqlMigration.Number.Shortest

/-!
# `printf` and `echo`

The two ways the shell writes text, over bytes since an octal escape can write any byte.
-/

namespace SqlMigration.Shell

abbrev Bytes := List UInt8

def byte (c : Char) : UInt8 := c.toNat.toUInt8

def octalValue? (b : UInt8) : Option Nat :=
  if 48 ≤ b.toNat ∧ b.toNat ≤ 55 then some (b.toNat - 48) else none

def octalRun : Nat → Nat → Bytes → Nat × Bytes
  | 0, v, bs => (v, bs)
  | k + 1, v, b :: bs => match octalValue? b with
    | some d => octalRun k (v * 8 + d) bs
    | none => (v, b :: bs)
  | _ + 1, v, [] => (v, [])

def escapeAt (bs : Bytes) : UInt8 × Bytes :=
  match bs with
  | b :: rest =>
    match b.toNat with
    | 92 => (92, rest)
    | 97 => (7, rest)
    | 98 => (8, rest)
    | 101 => (27, rest)
    | 102 => (12, rest)
    | 110 => (10, rest)
    | 114 => (13, rest)
    | 116 => (9, rest)
    | 118 => (11, rest)
    | _ =>
      if (octalValue? b).isSome then
        let (v, rest) := octalRun 3 0 bs
        (v.toUInt8, rest)
      else (92, bs)
  | [] => (92, [])

def expandEscapes : Nat → Bytes → Bytes × Bool
  | 0, _ => ([], false)
  | _ + 1, [] => ([], false)
  | n + 1, b :: rest =>
    if b.toNat = 92 then
      match rest with
      | c :: more =>
        if c.toNat = 99 then ([], true)
        else
          let after := match more with
            | d :: _ => if c.toNat = 48 ∧ (octalValue? d).isSome then more else rest
            | [] => rest
          let (v, more) := escapeAt after
          let (out, stop) := expandEscapes n more
          (v :: out, stop)
      | [] => ([92], false)
    else
      let (out, stop) := expandEscapes n rest
      (b :: out, stop)

def hexValue? (b : UInt8) : Option Nat :=
  let n := b.toNat
  if 48 ≤ n ∧ n ≤ 57 then some (n - 48)
  else if 97 ≤ n ∧ n ≤ 102 then some (n - 87)
  else if 65 ≤ n ∧ n ≤ 70 then some (n - 55)
  else none

/-- The text of GNU `echo -e` with its escapes replaced, and whether a `\c` ended it: the
letters of C with `\e` for escape, `\xHH` with one or two hexadecimal digits, one to three
octal digits after the backslash or after `\0`; any other backslash stays. -/
def echoEscapes : Nat → Bytes → Bytes × Bool
  | 0, _ => ([], false)
  | _ + 1, [] => ([], false)
  | n + 1, b :: rest =>
    if b.toNat = 92 then
      match rest with
      | c :: more =>
        let simple : Option UInt8 := match Char.ofNat c.toNat with
          | 'a' => some 7 | 'b' => some 8 | 'e' => some 27 | 'f' => some 12 | 'n' => some 10
          | 'r' => some 13 | 't' => some 9 | 'v' => some 11 | '\\' => some 92 | _ => none
        let (value, after) : Option UInt8 × Bytes :=
          match simple with
          | some v => (some v, more)
          | none =>
            if c.toNat = 99 then (none, more)
            else if c.toNat = 120 then
              match more with
              | h :: more' =>
                match hexValue? h with
                | some v =>
                  match more' with
                  | l :: more'' =>
                    match hexValue? l with
                    | some w => (some (v * 16 + w).toUInt8, more'')
                    | none => (some v.toUInt8, more')
                  | [] => (some v.toUInt8, more')
                | none => (some 92, rest)
              | [] => (some 92, rest)
            else if c.toNat = 48 then
              let (v, more') := octalRun 3 0 more
              (some v.toUInt8, more')
            else if (octalValue? c).isSome then
              let (v, more') := octalRun 3 0 rest
              (some v.toUInt8, more')
            else (some 92, rest)
        match value with
        | none => ([], true)
        | some v =>
          let (out, stop) := echoEscapes n after
          (v :: out, stop)
      | [] => ([92], false)
    else
      let (out, stop) := echoEscapes n rest
      (b :: out, stop)

/-- A text between the quotes of a UTF-8 locale, as GNU tools quote an operand in messages:
backslashes and control characters are written as escapes. -/
def localeQuote (s : String) : String :=
  let body := s.toList.flatMap fun c =>
    match c with
    | '\\' => ['\\', '\\']
    | '\n' => ['\\', 'n']
    | '\t' => ['\\', 't']
    | '\r' => ['\\', 'r']
    | c =>
      if c.toNat < 32 ∨ c.toNat = 127 then
        ['\\', Char.ofNat (48 + c.toNat / 64), Char.ofNat (48 + c.toNat / 8 % 8), Char.ofNat (48 + c.toNat % 8)]
      else [c]
  "\u2018" ++ String.ofList body ++ "\u2019"

/-- A conversion's flags, width and precision. -/
structure Spec where
  alternate : Bool := false
  left : Bool := false
  plus : Bool := false
  space : Bool := false
  zero : Bool := false
  width : Nat := 0
  precision : Option Nat := none
  deriving DecidableEq, Repr

def Spec.flag (s : Spec) (b : UInt8) : Option Spec :=
  match b.toNat with
  | 35 => some { s with alternate := true }
  | 45 => some { s with left := true }
  | 43 => some { s with plus := true }
  | 32 => some { s with space := true }
  | 48 => some { s with zero := true }
  | _ => none

def readFlags : Nat → Spec → Bytes → Spec × Bytes
  | 0, s, bs => (s, bs)
  | _ + 1, s, [] => (s, [])
  | n + 1, s, b :: bs => match s.flag b with
    | some s' => readFlags n s' bs
    | none => (s, b :: bs)

def isDigitByte (b : UInt8) : Bool := 48 ≤ b.toNat ∧ b.toNat ≤ 57

def decimalRun (bs : Bytes) : Nat × Bytes :=
  let ds := bs.takeWhile isDigitByte
  (ds.foldl (fun v b => v * 10 + (b.toNat - 48)) 0, bs.drop ds.length)

def isCBlank (b : UInt8) : Bool := b.toNat = 32 ∨ (9 ≤ b.toNat ∧ b.toNat ≤ 13)

def digitIn (base : Nat) (b : UInt8) : Option Nat :=
  let n := b.toNat
  let v := if 48 ≤ n ∧ n ≤ 57 then some (n - 48)
    else if 97 ≤ n ∧ n ≤ 122 then some (n - 87)
    else if 65 ≤ n ∧ n ≤ 90 then some (n - 55) else none
  v.bind fun d => if d < base then some d else none

def digitsIn (base : Nat) (bs : Bytes) : Nat × Nat :=
  let ds := bs.takeWhile fun b => (digitIn base b).isSome
  (ds.foldl (fun v b => v * base + (digitIn base b).getD 0) 0, ds.length)

/-- How a number argument was read. -/
inductive NumberRead where
  /-- Read in full. -/
  | complete (v : Int)
  /-- Read in part; the rest is left. -/
  | incomplete (v : Int)
  /-- Nothing could be read. -/
  | missing
  deriving DecidableEq, Repr

/-- Reads a number argument as C does with base 0: blanks, a sign, then `0x` and hexadecimal
digits, `0` and octal digits, or decimal digits. -/
def readNumber (arg : Bytes) : NumberRead :=
  let bs := arg.dropWhile isCBlank
  let (neg, bs) := match bs with
    | b :: rest => if b.toNat = 45 then (true, rest) else if b.toNat = 43 then (false, rest) else (false, bs)
    | [] => (false, bs)
  let (v, used) := match bs with
    | z :: x :: rest =>
      if z.toNat = 48 ∧ (x.toNat = 120 ∨ x.toNat = 88) then
        let (v, k) := digitsIn 16 rest
        if k = 0 then (0, 1) else (v, k + 2)
      else if z.toNat = 48 then
        let (v, k) := digitsIn 8 (x :: rest)
        (v, k + 1)
      else digitsIn 10 bs
    | _ => digitsIn 10 bs
  if used = 0 then .missing
  else
    let value : Int := if neg then -(v : Int) else v
    if bs.length = used then .complete value else .incomplete value

/-- The number argument of a signed or unsigned conversion, as C reads and clamps it, with the
warning it gives. -/
def numberArg (unsigned : Bool) (arg : Bytes) : Int × Option String :=
  let shown := String.ofList (Text.Utf8.decodeLossy arg)
  match arg with
  | q :: rest =>
    if q.toNat = 39 ∨ q.toNat = 34 then ((rest.head?.map UInt8.toNat).getD 0, none)
    else numeric shown
  | [] => (0, none)
where
  numeric (shown : String) : Int × Option String :=
    let lo : Int := if unsigned then -(Nat.pow 2 64 - 1 : Nat) else -(Nat.pow 2 63 : Nat)
    let hi : Int := if unsigned then (Nat.pow 2 64 - 1 : Nat) else (Nat.pow 2 63 - 1 : Nat)
    let clamp (v : Int) : Int × Bool :=
      if v > hi then (hi, true) else if v < lo then (if unsigned then hi else lo, true) else (v, false)
    let wrap (v : Int) : Int := if unsigned ∧ v < 0 then v + (Nat.pow 2 64 : Nat) else v
    match readNumber arg with
    | .complete v =>
      let (c, outside) := clamp v
      (wrap c, if outside then some (shown ++ ": Numerical result out of range") else none)
    | .incomplete v => (wrap (clamp v).1, some (shown ++ ": not completely converted"))
    | .missing => (0, some (shown ++ ": expected numeric value"))

def padding (n : Nat) (c : Char) : Bytes := List.replicate n (byte c)

/-- Whether a width or precision is past the largest int, which the C library's formatting
refuses. -/
def Spec.tooWide (s : Spec) : Bool := s.width > 2147483647 ∨ s.precision.getD 0 > 2147483647

def padText (s : Spec) (body : Bytes) : Bytes :=
  if body.length ≥ s.width then body
  else if s.left then body ++ padding (s.width - body.length) ' '
  else padding (s.width - body.length) ' ' ++ body

def formatText (s : Spec) (text : Bytes) : Bytes :=
  padText s (match s.precision with | some p => text.take p | none => text)

def digitBytes (base : Nat) (upper : Bool) (v : Nat) : Bytes :=
  (Nat.toDigits base v).map fun c => byte (if upper then c.toUpper else c)

def formatInteger (s : Spec) (conv : Char) (v : Int) : Bytes :=
  let base := if conv = 'o' then 8 else if conv = 'x' ∨ conv = 'X' then 16 else 10
  let signed := conv = 'd' ∨ conv = 'i'
  let mag := v.natAbs
  let raw := if s.precision = some 0 ∧ mag = 0 then [] else digitBytes base (conv = 'X') mag
  let digits := match s.precision with
    | some p => padding (p - raw.length) '0' ++ raw
    | none => raw
  let digits := if conv = 'o' ∧ s.alternate ∧ digits.head? ≠ some (byte '0') then byte '0' :: digits
    else digits
  let pre : Bytes :=
    if signed then
      (if v < 0 then [byte '-'] else if s.plus then [byte '+'] else if s.space then [byte ' '] else [])
    else if (conv = 'x' ∨ conv = 'X') ∧ s.alternate ∧ mag ≠ 0 then [byte '0', byte conv]
    else []
  let len := pre.length + digits.length
  if len ≥ s.width then pre ++ digits
  else if s.left then pre ++ digits ++ padding (s.width - len) ' '
  else if s.zero ∧ s.precision.isNone then pre ++ padding (s.width - len) '0' ++ digits
  else padding (s.width - len) ' ' ++ pre ++ digits

/-! ## Floating-point arguments -/

/-- A number read from the front of an argument as C reads a double: its sign, its magnitude
(an infinity or not-a-number included), how many bytes it took (none when nothing could be
read), and whether it was out of range. -/
structure FloatRead where
  neg : Bool := false
  value : Number.Binary64 := .finite false 0 Number.minExponent
  used : Nat := 0
  outOfRange : Bool := false
  deriving Repr

def lowerByte (b : UInt8) : UInt8 := if 65 ≤ b.toNat ∧ b.toNat ≤ 90 then b + 32 else b

def startsWithWord (bs : Bytes) (w : String) : Bool :=
  let ws := w.toList.map byte
  ws.length ≤ bs.length ∧ (bs.take ws.length).map lowerByte = ws

def digitValues (base : Nat) (bs : Bytes) : List Nat :=
  (bs.takeWhile fun b => (digitIn base b).isSome).map fun b => (digitIn base b).getD 0

/-- Digits with an optional point among them: the digits' values, how many came after the
point, and how many bytes they took. -/
def mantissaDigits (base : Nat) (bs : Bytes) : List Nat × Nat × Nat :=
  let whole := digitValues base bs
  match bs.drop whole.length with
  | p :: rest =>
    if p = byte '.' then
      let frac := digitValues base rest
      (whole ++ frac, frac.length, whole.length + 1 + frac.length)
    else (whole, 0, whole.length)
  | [] => (whole, 0, whole.length)

/-- A signed decimal exponent at the front of the bytes: its value and the bytes it took, none
unless a digit follows the sign. -/
def exponentDigits (bs : Bytes) : Int × Nat :=
  let (neg, rest, signLen) := match bs with
    | b :: rest =>
      if b = byte '-' then (true, rest, 1) else if b = byte '+' then (false, rest, 1) else (false, bs, 0)
    | [] => (false, bs, 0)
  let ds := digitValues 10 rest
  if ds.isEmpty then (0, 0)
  else
    let v : Int := (ds.foldl (fun a d => a * 10 + d) 0 : Nat)
    (if neg then -v else v, signLen + ds.length)

/-- `d · base^k` for a base of 10 or 2, rounded to a format, and whether it was out of range:
too large for a finite number, or so small that it rounds to zero or to an inexact subnormal
number. -/
def scaledValue (f : Number.FloatFormat) (neg : Bool) (d : Nat) (k : Int) (ten : Bool) :
    Number.Binary64 × Bool :=
  let zero : Number.Binary64 := .finite neg 0 f.minExp
  if d = 0 then (zero, false) else
  let size : Int := if ten then ((Nat.toDigits 10 d).length : Int) else ((Nat.log2 d + 1 : Nat) : Int)
  let top := size + k
  let twoHigh : Int := f.maxExp + f.bits + 2
  let twoLow : Int := f.minExp - 6
  if ten ∧ top > twoHigh * 31 / 100 + 2 ∨ ¬ ten ∧ top > twoHigh then (.infinity neg, true)
  else if ten ∧ top < twoLow * 31 / 100 - 2 ∨ ¬ ten ∧ top < twoLow then (zero, true)
  else
    let base := if ten then 10 else 2
    let (rn, rd) := if k ≥ 0 then (d * Nat.pow base k.toNat, 1) else (d, Nat.pow base (-k).toNat)
    let x := Number.roundRational f neg rn rd
    match x with
    | .finite _ m e =>
      let (a, b) := Number.powTwo e
      let exact := m * a * rd = rn * b
      (x, m < Nat.pow 2 (f.bits - 1) ∧ ¬ exact)
    | _ => (x, true)

/-- Reads a number from the front of an argument as C's `strtod` does: blanks, a sign, then
`inf` or `infinity`, `nan` with an optional parenthesized tail, a hexadecimal number after `0x`
with an optional binary exponent after `p`, or a decimal number with an optional exponent after
`e`; an exponent mark is taken only when digits follow it. -/
def readFloatArg (bs : Bytes) (f : Number.FloatFormat := Number.double) : FloatRead :=
  let blanks := (bs.takeWhile isCBlank).length
  let body := bs.drop blanks
  let (neg, body, signLen) := match body with
    | b :: rest =>
      if b = byte '-' then (true, rest, 1) else if b = byte '+' then (false, rest, 1) else (false, body, 0)
    | [] => (false, body, 0)
  let lead := blanks + signLen
  if startsWithWord body "infinity" then { neg, value := .infinity neg, used := lead + 8 }
  else if startsWithWord body "inf" then { neg, value := .infinity neg, used := lead + 3 }
  else if startsWithWord body "nan" then
    let tail := match body.drop 3 with
      | p :: rest =>
        if p = byte '(' then
          let inner := rest.takeWhile fun b => (digitIn 36 b).isSome ∨ b = byte '_'
          match rest.drop inner.length with
          | c :: _ => if c = byte ')' then inner.length + 2 else 0
          | [] => 0
        else 0
      | [] => 0
    { neg, value := .nan, used := lead + 3 + tail }
  else
    let hex : Option Bytes := match body with
      | z :: x :: rest =>
        if z = byte '0' ∧ (x = byte 'x' ∨ x = byte 'X') ∧ ¬ (mantissaDigits 16 rest).1.isEmpty then
          some rest
        else none
      | _ => none
    match hex with
    | some rest =>
      let (ds, fracLen, taken) := mantissaDigits 16 rest
      let (ex, exTaken) := match rest.drop taken with
        | p :: more => if p = byte 'p' ∨ p = byte 'P' then
            let (v, t) := exponentDigits more
            if t = 0 then (0, 0) else (v, t + 1)
          else (0, 0)
        | [] => (0, 0)
      let d := ds.foldl (fun a v => a * 16 + v) 0
      let (x, range) := scaledValue f neg d (ex - 4 * (fracLen : Int)) false
      { neg, value := x, used := lead + 2 + taken + exTaken, outOfRange := range }
    | none =>
      let (ds, fracLen, taken) := mantissaDigits 10 body
      if ds.isEmpty then {} else
      let (ex, exTaken) := match body.drop taken with
        | p :: more => if p = byte 'e' ∨ p = byte 'E' then
            let (v, t) := exponentDigits more
            if t = 0 then (0, 0) else (v, t + 1)
          else (0, 0)
        | [] => (0, 0)
      let d := ds.foldl (fun a v => a * 10 + v) 0
      let (x, range) := scaledValue f neg d (ex - (fracLen : Int)) true
      { neg, value := x, used := lead + taken + exTaken, outOfRange := range }

/-- The number argument of a floating-point conversion, with the warning it gives. -/
def floatArg (arg : Bytes) : Bool × Number.Binary64 × Option String :=
  let shown := String.ofList (Text.Utf8.decodeLossy arg)
  match arg with
  | [] => (false, .finite false 0 Number.minExponent, none)
  | q :: rest =>
    if q.toNat = 39 ∨ q.toNat = 34 then
      (false, .finite false ((rest.head?.map UInt8.toNat).getD 0) 0, none)
    else
      let r := readFloatArg arg
      let warn :=
        if r.used < arg.length then
          some (shown ++ (if r.used = 0 then ": expected numeric value" else ": not completely converted"))
        else if r.outOfRange then some (shown ++ ": Numerical result out of range")
        else none
      (r.neg, r.value, warn)

/-- `n` written with `places` digits after a point and at least one before it; the point is
kept with no digits after it when `point` is set. -/
def pointed (n places : Nat) (point : Bool) : String :=
  let cs := (toString n).toList
  let cs := List.replicate (places + 1 - cs.length) '0' ++ cs
  let whole := cs.take (cs.length - places)
  let frac := cs.drop (cs.length - places)
  String.ofList whole ++ (if places = 0 then (if point then "." else "") else "." ++ String.ofList frac)

/-- A positive magnitude `p / q` with one digit before the point and `places` after it: the
digits as one number and the exponent of ten, rounded half to even. -/
def scientificDigits (p q places : Nat) : Nat × Int :=
  if p = 0 then (0, 0) else
  let digitsAt (e : Int) : Nat :=
    let k : Int := (places : Int) - e
    if k ≥ 0 then Number.roundHalfEven (p * Nat.pow 10 k.toNat) q
    else Number.roundHalfEven p (q * Nat.pow 10 (-k).toNat)
  let e := Number.floorLog10 p q
  let n := digitsAt e
  if n ≥ Nat.pow 10 (places + 1) then (digitsAt (e + 1), e + 1) else (n, e)

def exponentText (e : Int) : String :=
  let ds := toString e.natAbs
  (if e < 0 then "e-" else "e+") ++ (if ds.length < 2 then "0" ++ ds else ds)

def trimFraction (s : String) : String :=
  if ¬ s.contains '.' then s else
  let cs := (s.toList.reverse.dropWhile (· = '0'))
  let cs := match cs with
    | '.' :: rest => rest
    | _ => cs
  String.ofList cs.reverse

/-- The hexadecimal form of a positive magnitude `m · 2^e`: a leading digit, the fraction of a
normal number's 52 bits in hexadecimal (all the digits it needs, or rounded to the precision),
and a binary exponent; a subnormal number has the leading digit 0 and the exponent -1022. -/
def hexBody (m : Nat) (e : Int) (precision : Option Nat) (point : Bool) : String :=
  let hexDigits (v len : Nat) : String :=
    let ds := (Nat.toDigits 16 v)
    String.ofList (List.replicate (len - ds.length) '0' ++ ds)
  let (lead, frac, exp) : Nat × Nat × Int :=
    if m = 0 then (0, 0, 0)
    else if m ≥ Nat.pow 2 52 then (1, m - Nat.pow 2 52, e + 52) else (0, m, -1022)
  let (lead, digits) := match precision with
    | none =>
      let s := String.ofList ((hexDigits frac 13).toList.reverse.dropWhile (· = '0')).reverse
      (lead, s)
    | some p =>
      if p ≥ 13 then (lead, hexDigits frac 13 ++ String.ofList (List.replicate (p - 13) '0'))
      else
        let total := Number.roundHalfEven (lead * Nat.pow 16 13 + frac) (Nat.pow 16 (13 - p))
        (total / Nat.pow 16 p, if p = 0 then "" else hexDigits (total % Nat.pow 16 p) p)
  let digits := if m = 0 ∧ precision.isNone then "" else digits
  "0x" ++ toString lead ++ (if digits.isEmpty then (if point then "." else "") else "." ++ digits) ++
    "p" ++ (if exp < 0 then "-" else "+") ++ toString exp.natAbs

/-- The hexadecimal form of a positive magnitude `m · 2^e` of the 80-bit extended format: the 16
hexadecimal digits of its 64-bit significand, the first before the point, and the exponent
that goes with them; rounding to a precision may carry into the first digit, and past `f` it
becomes `1` with the exponent 4 higher. -/
def hexBodyWide (m : Nat) (e : Int) (precision : Option Nat) (point : Bool) : String :=
  let hexDigits (v len : Nat) : String :=
    let ds := (Nat.toDigits 16 v)
    String.ofList (List.replicate (len - ds.length) '0' ++ ds)
  let (lead, frac, exp) : Nat × Nat × Int :=
    if m = 0 then (0, 0, 0) else (m / Nat.pow 16 15, m % Nat.pow 16 15, e + 60)
  let (lead, digits, exp) : Nat × String × Int := match precision with
    | none =>
      let s := String.ofList ((hexDigits frac 15).toList.reverse.dropWhile (· = '0')).reverse
      (lead, if m = 0 then "" else s, exp)
    | some p =>
      if p ≥ 15 then (lead, hexDigits frac 15 ++ String.ofList (List.replicate (p - 15) '0'), exp)
      else
        let total := Number.roundHalfEven (lead * Nat.pow 16 15 + frac) (Nat.pow 16 (15 - p))
        let lead' := total / Nat.pow 16 p
        let digits := if p = 0 then "" else hexDigits (total % Nat.pow 16 p) p
        if lead' ≥ 16 then (1, digits, exp + 4) else (lead', digits, exp)
  "0x" ++ String.ofList (Nat.toDigits 16 lead) ++
    (if digits.isEmpty then (if point then "." else "") else "." ++ digits) ++
    "p" ++ (if exp < 0 then "-" else "+") ++ toString exp.natAbs

/-- A floating-point conversion (`e f g a` and their capitals): sign, digits as the conversion
and precision say, padded as the flags say; an infinity or not-a-number is padded with
spaces. -/
def formatFloat (s : Spec) (conv : Char) (neg : Bool) (x : Number.Binary64) (wide : Bool := false) :
    Bytes :=
  let upper := conv.isUpper
  let lower := conv.toLower
  let pre : String := if neg then "-" else if s.plus then "+" else if s.space then " " else ""
  let finish (body : String) (zeros : Bool) : Bytes :=
    let body := if upper then body.toUpper else body
    let len := pre.length + body.length
    let text :=
      if len ≥ s.width then pre ++ body
      else if s.left then pre ++ body ++ fill (s.width - len) ' '
      else if zeros ∧ s.zero then
        if lower = 'a' then pre ++ (if upper then "0X" else "0x") ++ fill (s.width - len) '0' ++ String.ofList (body.toList.drop 2)
        else pre ++ fill (s.width - len) '0' ++ body
      else fill (s.width - len) ' ' ++ pre ++ body
    Text.Utf8.encode text
  match x with
  | .nan => finish "nan" false
  | .infinity _ => finish "inf" false
  | .finite _ m e =>
    let (a, b) := Number.powTwo e
    let p := m * a
    let q := b
    let scientific (places : Nat) : String :=
      let (n, ex) := scientificDigits p q places
      pointed n places s.alternate ++ exponentText ex
    match lower with
    | 'f' => finish (pointed (Number.roundHalfEven (p * Nat.pow 10 (s.precision.getD 6)) q)
        (s.precision.getD 6) s.alternate) true
    | 'e' => finish (scientific (s.precision.getD 6)) true
    | 'g' =>
      let P := match s.precision with
        | some 0 => 1
        | some k => k
        | none => 6
      let (_, ex) := scientificDigits p q (P - 1)
      let carried := p > 0 ∧ ex = (P : Int) ∧ Number.floorLog10 p q = (P : Int) - 1
      let body :=
        if ex < (P : Int) ∧ ex ≥ -4 then
          let places := (P - 1 - ex).toNat
          pointed (Number.roundHalfEven (p * Nat.pow 10 places) q) places s.alternate
        else if carried then scientific 0
        else scientific (P - 1)
      let body := if s.alternate then body else
        match body.splitOn "e" with
        | [mant, ex] => trimFraction mant ++ "e" ++ ex
        | _ => trimFraction body
      finish body true
    | _ => finish ((if wide then hexBodyWide else hexBody) m e s.precision s.alternate) true
  where
    fill (n : Nat) (c : Char) : String := String.ofList (List.replicate n c)

/-- What one pass of `printf` wrote, its warnings, and whether it stopped early. -/
structure Written where
  out : Bytes := []
  warnings : List String := []
  failed : Bool := false
  /-- Output ended, by `\c` or an invalid conversion. -/
  stopped : Bool := false
  /-- The format itself was wrong: an invalid or unfinished conversion. -/
  broken : Bool := false
  deriving DecidableEq, Repr

def Written.fail (w : Written) (warning : String) : Written :=
  { w with warnings := w.warnings ++ [warning], failed := true, stopped := true, broken := true }

def Written.note (w : Written) (out : Bytes) (warning : Option String) : Written :=
  { w with out := w.out ++ out, warnings := w.warnings ++ warning.toList,
           failed := w.failed || warning.isSome }

def nextArg (args : List Bytes) : Bytes × List Bytes :=
  match args with
  | a :: rest => (a, rest)
  | [] => ([], [])

def starArg (args : List Bytes) : Int × Option String × List Bytes :=
  let (a, rest) := nextArg args
  if a.isEmpty then (0, none, rest)
  else let (v, w) := numberArg false a; (v, w, rest)

/-- Whether a byte may stand in the digits of a width or precision as the shell skips them:
a digit or `*`. -/
def isWidthByte (b : UInt8) : Bool := isDigitByte b || b = byte '*'

/-- The flags, width and precision of a conversion after its `%`, with the arguments that `*`
took and their warnings, and the rest of the format. -/
def readSpec (fmt : Bytes) (args : List Bytes) :
    Spec × Bytes × List Bytes × List String × Option (Spec × Bytes) :=
  let (spec, fmt) := readFlags fmt.length {} fmt
  let digits (spec : Spec) (bs : Bytes) (stray : Option (Spec × Bytes)) :
      Nat × Bytes × Option (Spec × Bytes) :=
    let (v, rest) := decimalRun bs
    match rest, stray with
    | b :: more, none =>
      if b = byte '*' then (v, rest.dropWhile isWidthByte, some (spec, more)) else (v, rest, none)
    | _, _ => (v, rest.dropWhile isWidthByte, stray)
  let (spec, fmt, args, warn1, stray) :
      Spec × Bytes × List Bytes × Option String × Option (Spec × Bytes) := match fmt with
    | b :: rest =>
      if b = byte '*' then
        let (v, warn, args) := starArg args
        let spec := if v < 0 then { spec with left := true, width := v.natAbs }
          else { spec with width := v.toNat }
        (spec, rest, args, warn, none)
      else
        let (v, rest, stray) := digits { spec with width := decimalRun fmt |>.1 } fmt none
        ({ spec with width := v }, rest, args, none, stray)
    | [] => (spec, fmt, args, none, none)
  let (spec, fmt, args, warn2, stray) :
      Spec × Bytes × List Bytes × Option String × Option (Spec × Bytes) := match fmt with
    | d :: rest =>
      if d = byte '.' then
        match rest with
        | s :: more =>
          if s = byte '*' then
            let (v, warn, args) := starArg args
            ({ spec with precision := if v < 0 then none else some v.toNat }, more, args, warn, stray)
          else
            let (v, more, stray) := digits { spec with precision := some (decimalRun rest).1 } rest stray
            ({ spec with precision := some v }, more, args, none, stray)
        | [] => ({ spec with precision := some 0 }, rest, args, none, stray)
      else (spec, fmt, args, none, stray)
    | [] => (spec, fmt, args, none, stray)
  (spec, fmt, args, warn1.toList ++ warn2.toList, stray)

/-- What the C library writes for a conversion it does not know, such as a stray `*`: the
`%`, the flags it took, the width and the precision as numbers, and the conversion. -/
def unknownConversion (s : Spec) (conv : UInt8) : Bytes :=
  let flags := (if s.alternate then "#" else "") ++ (if s.plus then "+" else if s.space then " " else "") ++
    (if s.left then "-" else "") ++ (if s.zero ∧ ¬ s.left then "0" else "")
  Text.Utf8.encode ("%" ++ flags ++ (if s.width = 0 then "" else toString s.width) ++
    (match s.precision with | some p => "." ++ toString p | none => "")) ++ [conv]

/-! ## Quoting of `bash` -/

/-- Whether `bash` quotes a text with `$'...'`: it has a control character or bytes that are not
a character. -/
def bashNeedsAnsi (s : String) : Bool :=
  s.toList.any fun c => c.toNat < 32 ∨ c.toNat = 127 ∨ (128 ≤ c.toNat ∧ c.toNat < 160) ∨ c = '\uFFFD'

def bashAnsiQuoted (s : String) : String :=
  "$'" ++ String.join (s.toList.map fun c =>
    match c with
    | '\x07' => "\\a" | '\x08' => "\\b" | '\x1b' => "\\E" | '\x0c' => "\\f"
    | '\n' => "\\n" | '\r' => "\\r" | '\t' => "\\t" | '\x0b' => "\\v"
    | '\\' => "\\\\" | '\'' => "\\'"
    | c =>
      if c.toNat < 32 ∨ c.toNat = 127 then
        let n := c.toNat
        String.ofList ['\\', Char.ofNat (48 + n / 64), Char.ofNat (48 + n / 8 % 8), Char.ofNat (48 + n % 8)]
      else String.singleton c) ++ "'"

def bashSingleQuoted (s : String) : String :=
  "'" ++ String.join (s.toList.map fun c => if c = '\'' then "'\\''" else String.singleton c) ++ "'"

/-- A text with a backslash before each character the shell would read specially: blanks,
quotes and operators, `~` at its start or after `:` or `=`, and `#` at its start. -/
def bashBackslashQuoted (s : String) : String :=
  String.ofList (go s.toList none)
where
  go : List Char → Option Char → List Char
    | [], _ => []
    | c :: rest, before =>
      let escape := " \t\n!\"$&'()*,;<>?[\\]^\x60\x7b|\x7d".toList.contains c ∨
        (c = '~' ∧ (before.isNone ∨ before = some ':' ∨ before = some '=')) ∨ (c = '#' ∧ before.isNone)
      (if escape then ['\\', c] else [c]) ++ go rest (some c)

/-- A text quoted as `printf %q` of `bash` quotes it: `''` when empty, in `$'...'` when it has
control characters, and else with backslashes. -/
def bashPrintfQuoted (s : String) : String :=
  if s.isEmpty then "''" else if bashNeedsAnsi s then bashAnsiQuoted s else bashBackslashQuoted s

/-- A text quoted as `${x@Q}` quotes it: in `$'...'` when it has control characters, and else in
single quotes. -/
def bashValueQuoted (s : String) : String :=
  if bashNeedsAnsi s then bashAnsiQuoted s else bashSingleQuoted s

/-- One conversion: its output added, the arguments left and the rest of the format. -/
def convert (whole fmt : Bytes) (args : List Bytes) (w : Written) : Written × List Bytes × Bytes :=
  let (spec, fmt, args, warns, stray) := readSpec fmt args
  let w := warns.foldl (fun w m => w.note [] (some m)) w
  match fmt with
  | [] => (w.fail "missing format character", args, [])
  | c :: rest =>
    if spec.tooWide then (w.fail "xvsnprintf failed", args, []) else
    let conv := Char.ofNat c.toNat
    let (a, args') := nextArg args
    let integer := conv = 'd' ∨ conv = 'i' ∨ conv = 'o' ∨ conv = 'u' ∨ conv = 'x' ∨ conv = 'X'
    let shown (value : Bytes) : Bytes := match stray with
      | some (sp, after) =>
        unknownConversion sp (byte '*') ++ after.take (after.length - (rest.length + 1)) ++
          (if integer then [byte 'l'] else []) ++ [if conv = 'b' then byte 's' else c]
      | none => value
    if conv = 's' then (w.note (shown (formatText spec a)) none, args', rest)
    else if conv = 'b' then
      let (text, stop) := expandEscapes a.length a
      let w := w.note (shown (formatText spec text)) none
      (if stop then { w with stopped := true } else w, args', rest)
    else if conv = 'c' then (w.note (shown (padText spec [a.headD 0])) none, args', rest)
    else if integer then
      let (v, warn) := numberArg (¬ (conv = 'd' ∨ conv = 'i')) a
      (w.note (shown (formatInteger spec conv v)) warn, args', rest)
    else if "aAeEfFgG".contains conv then
      let (neg, x, warn) := floatArg a
      (w.note (shown (formatFloat spec conv neg x)) warn, args', rest)
    else
      let shown := String.ofList (Text.Utf8.decodeLossy (whole.take (whole.length - rest.length)))
      (w.fail (shown ++ ": invalid directive"), args, [])

def formatPass : Nat → Bytes → List Bytes → Written → Written × List Bytes
  | 0, _, args, w => (w, args)
  | _ + 1, [], args, w => (w, args)
  | n + 1, b :: fmt, args, w =>
    if b = byte '\\' then
      let (v, rest) := escapeAt fmt
      formatPass n rest args (w.note [v] none)
    else if b ≠ byte '%' then formatPass n fmt args (w.note [b] none)
    else match fmt with
      | p :: rest =>
        if p = byte '%' then formatPass n rest args (w.note [p] none)
        else
          let (w, args, rest) := convert (b :: fmt) fmt args w
          if w.stopped then (w, args) else formatPass n rest args w
      | [] => (w.fail "missing format character", args)

/-- Runs `printf` on its format and arguments: the format is used again while arguments are left
and the last pass used some. -/
def printf (format : Bytes) (args : List Bytes) : Written :=
  go (args.length + 1) args {}
where
  go : Nat → List Bytes → Written → Written
    | 0, _, w => w
    | k + 1, args, w =>
      let (w', rest) := formatPass (format.length + 1) format args w
      if w'.stopped ∨ rest.isEmpty ∨ rest.length = args.length then w'
      else go k rest w'

/-- Runs `echo`: the arguments with their escapes replaced, joined by spaces and ended by a line
feed, unless the first argument is `-n`; `\c` ends all output. -/
def echo (args : List Bytes) : Bytes :=
  let (newline, args) := match args with
    | a :: rest => if a = Text.Utf8.encode "-n" then (false, rest) else (true, args)
    | [] => (true, args)
  go newline args
where
  go (newline : Bool) : List Bytes → Bytes
    | [] => if newline then [10] else []
    | a :: rest =>
      let (text, stop) := expandEscapes a.length a
      if stop then text
      else text ++ (if rest.isEmpty then [] else [32]) ++ go newline rest

end SqlMigration.Shell
