import SqlMigration.Shell.Utility
import SqlMigration.Shell.PrintfProgram

/-!
# Programs that show bytes: od and base64

`od` writes its input sixteen bytes a line, each line after its offset (seven octal digits by
default; `-A d`, `-A x`, or `-A n` for none), in each of the forms asked for: `-t` with `o`,
`x`, `d` or `u` and a size of 1, 2, 4 or 8 bytes (words read little-endian), `c` for characters
(C escapes for the controls that have one, three octal digits for other bytes) or `a` for the
names of the ASCII characters; `-b`, `-c`, `-d`, `-o` and `-x` are short for some of them, and
two-byte octal words are the default.
-/

-- powers and sums of numbers are read with the core instances, whatever else is imported
attribute [local instance (high)] instPowNat Zero.ofOfNat0

namespace SqlMigration.Shell

/-! ## od -/

/-- What the fields of a form of `od` show. -/
inductive FieldKind where
  | octal | hex | unsigned | signed | float
  /-- The names of the ASCII characters, the top bit dropped. -/
  | named
  /-- The characters, C escapes, or three octal digits. -/
  | char
  deriving DecidableEq, Repr

/-- A form of `od`: what its fields show, the bytes of each, the width each is written in at
least, and whether the printable bytes of the line follow it between `>` and `<` (`z`). -/
structure DumpForm where
  kind : FieldKind
  size : Nat
  trailer : Bool := false
  deriving DecidableEq, Repr

/-- The width of a field of a form: the digits of its widest value, and for floating-point
numbers room for a sign, the digits that always suffice, a point and an exponent. -/
def DumpForm.width (f : DumpForm) : Nat :=
  let bits := 8 * f.size
  match f.kind with
  | .octal => (bits + 2) / 3
  | .hex => 2 * f.size
  | .unsigned => (toString (2 ^ bits - 1)).length
  | .signed => (toString (2 ^ (bits - 1))).length + 1
  | .float => if f.size = 4 then 15 else if f.size = 8 then 24 else 29
  | .named | .char => 3

def asciiNames : List String :=
  ["nul", "soh", "stx", "etx", "eot", "enq", "ack", "bel", "bs", "ht", "nl", "vt", "ff", "cr", "so", "si",
   "dle", "dc1", "dc2", "dc3", "dc4", "nak", "syn", "etb", "can", "em", "sub", "esc", "fs", "gs", "rs", "us",
   "sp"]

/-- A floating-point format as `od` writes it: its values, the significant digits it tries
first, and the digits that always tell its values apart. -/
structure FloatShape where
  format : Number.FloatFormat
  firstDigits : Nat
  enoughDigits : Nat

/-- The shape of the floating-point numbers of a size: single, double, or 80-bit extended in
sixteen bytes. -/
def FloatShape.ofSize (size : Nat) : FloatShape :=
  if size = 4 then ⟨⟨24, -149, 104⟩, 6, 9⟩
  else if size = 8 then ⟨Number.double, 15, 17⟩
  else ⟨Number.extended, 18, 21⟩

/-- The number little-endian bytes hold, in the floating-point format of their size, with its
sign. -/
def floatOfBytes (size : Nat) (bs : Bytes) : Bool × Number.Binary64 :=
  let v : Nat := bs.foldr (fun b acc => acc * 256 + b.toNat) 0
  let decode (fracBits expBits : Nat) (bias : Nat) : Bool × Number.Binary64 :=
    let frac := v % 2 ^ fracBits
    let ex : Nat := v / 2 ^ fracBits % 2 ^ expBits
    let neg := v / 2 ^ (fracBits + expBits) % 2 == 1
    if ex = 2 ^ expBits - 1 then (neg, if frac = 0 then .infinity neg else .nan)
    else if ex = 0 then (neg, .finite neg frac (1 - (bias : Int) - fracBits))
    else (neg, .finite neg (frac + 2 ^ fracBits) ((ex : Int) - bias - fracBits))
  if size = 4 then decode 23 8 127
  else if size = 8 then decode 52 11 1023
  else
    let sig := v % 2 ^ (64 : Nat)
    let ex : Nat := v / 2 ^ (64 : Nat) % 2 ^ (15 : Nat)
    let neg := v / 2 ^ (79 : Nat) % 2 == 1
    if ex = 2 ^ (15 : Nat) - 1 then (neg, if sig = 2 ^ (63 : Nat) then .infinity neg else .nan)
    else if ex = 0 then (neg, .finite neg sig (-16445))
    else if sig < 2 ^ (63 : Nat) then (neg, .nan)
    else (neg, .finite neg sig ((ex : Int) - 16383 - 63))

/-- Whether two numbers are equal as C compares them: zeros of either sign alike, and
not-a-number equal to nothing. -/
def sameNumber (a b : Number.Binary64) : Bool :=
  match a, b with
  | .finite .., .finite .. =>
    let (p, q) := a.toRational
    let (r, s) := b.toRational
    p * s == r * q
  | .infinity n, .infinity m => n == m
  | _, _ => false

/-- A floating-point number in the fewest significant digits, from those its format starts
from (one for numbers below the least normal one), that read back to the same number; the
digits that always suffice when none fewer do. -/
def shortestFloat (shape : FloatShape) (neg : Bool) (x : Number.Binary64) : String :=
  let start := match x with
    | .finite _ m _ => if m < 2 ^ (shape.format.bits - 1) then 1 else shape.firstDigits
    | _ => shape.firstDigits
  go (shape.enoughDigits + 1) start
where
  /-- The text with `p` digits, or with more when it does not read back. -/
  go : Nat → Nat → String
    | 0, p => text p
    | k + 1, p =>
      let t := text p
      if p ≥ shape.enoughDigits then t
      else if sameNumber (readFloatArg (Text.Utf8.encode t) shape.format).value x then t
      else go k (p + 1)
  /-- The number written as `%.pg` writes it. -/
  text (p : Nat) : String :=
    String.ofList (Text.Utf8.decodeLossy (formatFloat { precision := some p } 'g' neg x))

def DumpForm.field (f : DumpForm) (bytes : Bytes) : String :=
  let v := bytes.foldr (fun b acc => acc * 256 + b.toNat) 0
  let zeros (s : String) : String :=
    String.ofList (List.replicate (f.width - s.length) '0') ++ s
  match f.kind with
  | .octal => zeros (String.ofList (Nat.toDigits 8 v))
  | .hex => zeros (String.ofList (Nat.toDigits 16 v))
  | .unsigned => toString v
  | .signed =>
    let half := 2 ^ (8 * f.size - 1)
    if v ≥ half then "-" ++ toString (2 * half - v) else toString v
  | .float =>
    let (neg, x) := floatOfBytes f.size bytes
    shortestFloat (FloatShape.ofSize f.size) neg x
  | .char =>
    match v with
    | 0 => "\\0" | 7 => "\\a" | 8 => "\\b" | 9 => "\\t" | 10 => "\\n" | 11 => "\\v" | 12 => "\\f"
    | 13 => "\\r"
    | _ =>
      if 32 ≤ v ∧ v < 127 then String.singleton (Char.ofNat v)
      else let ds := Nat.toDigits 8 v; String.ofList (List.replicate (3 - ds.length) '0' ++ ds)
  | .named =>
    let b := v % 128
    if b ≤ 32 then asciiNames.getD b "" else if b = 127 then "del" else String.singleton (Char.ofNat b)

/-- The forms a `-t` argument names, or the message of what is wrong with it. -/
def dumpForms (spec : String) : Except String (List DumpForm) :=
  go (spec.length + 1) spec.toList
where
  /-- The forms from `cs` on. -/
  go : Nat → List Char → Except String (List DumpForm)
    | 0, _ => .ok []
    | _ + 1, [] => .ok []
    | k + 1, c :: rest => do
      let (form, after) ← one c rest
      let (form, after) := match after with
        | 'z' :: more => ({ form with trailer := true }, more)
        | _ => (form, after)
      return form :: (← go k after)
  /-- One form, from its letter on, and what follows it. -/
  one (c : Char) (rest : List Char) : Except String (DumpForm × List Char) :=
    let quoted := localeQuote spec
    let sized (float : Bool) : Except String (Nat × List Char) :=
      match float, rest with
      | false, 'C' :: more => .ok (1, more)
      | false, 'S' :: more => .ok (2, more)
      | false, 'I' :: more => .ok (4, more)
      | false, 'L' :: more => .ok (8, more)
      | true, 'F' :: more => .ok (4, more)
      | true, 'D' :: more => .ok (8, more)
      | true, 'L' :: more => .ok (16, more)
      | _, _ =>
        let digits := rest.takeWhile Char.isDigit
        let after := rest.drop digits.length
        if digits.isEmpty then .ok (if float then 8 else 4, after)
        else
          let size := (String.ofList digits).toNat!
          if size ≥ 2 ^ (64 : Nat) then .error ("invalid type string " ++ quoted)
          else if float ∧ ¬ (size = 4 ∨ size = 8 ∨ size = 16) then
            .error ("invalid type string " ++ quoted ++ ";\nthis system doesn't provide a " ++
              toString size ++ "-byte floating point type")
          else if ¬ float ∧ ¬ (size = 1 ∨ size = 2 ∨ size = 4 ∨ size = 8) then
            .error ("invalid type string " ++ quoted ++ ";\nthis system doesn't provide a " ++
              toString size ++ "-byte integral type")
          else .ok (size, after)
    match c with
    | 'a' => .ok ({ kind := .named, size := 1 }, rest)
    | 'c' => .ok ({ kind := .char, size := 1 }, rest)
    | 'f' => do
      let (size, after) ← sized true
      return ({ kind := .float, size }, after)
    | 'd' | 'o' | 'u' | 'x' => do
      let (size, after) ← sized false
      let kind := match c with
        | 'd' => FieldKind.signed
        | 'o' => .octal
        | 'u' => .unsigned
        | _ => .hex
      return ({ kind, size }, after)
    | _ => .error ("invalid character '" ++ String.singleton c ++ "' in type string " ++ quoted)

/-- How `od` writes offsets: in a radix with at least so many digits, or not at all; with
`pseudo`, each also as the label it stands for, in parentheses, `pseudo` more. -/
structure AddressStyle where
  /-- 8, 10 or 16; 0 for none. -/
  radix : Nat := 8
  digits : Nat := 7
  pseudo : Option Int := none

def paddedDigits (radix digits n : Nat) : String :=
  let ds := Nat.toDigits radix n
  String.ofList (List.replicate (digits - ds.length) '0' ++ ds)

/-- An offset as the start of a line, or alone at the end of the output. -/
def AddressStyle.text (a : AddressStyle) (n : Nat) : String :=
  match a.pseudo with
  | none => if a.radix = 0 then "" else paddedDigits a.radix a.digits n
  | some d =>
    if a.radix = 0 then "(" ++ paddedDigits 8 7 n ++ ")"
    else paddedDigits a.radix a.digits n ++ " (" ++ paddedDigits a.radix a.digits (n + d).toNat ++ ")"

def AddressStyle.shown (a : AddressStyle) : Bool := a.radix ≠ 0 ∨ a.pseudo.isSome

def AddressStyle.lead (a : AddressStyle) (n : Nat) : String :=
  if a.shown then a.text n ++ " " else ""

def AddressStyle.room (a : AddressStyle) : Nat := a.digits

/-- How `od` lays out its lines: the forms, the bytes of a line, the widest line of fields, and
whether input bytes are swapped within words (`--endian`). -/
structure DumpLayout where
  forms : List DumpForm
  perLine : Nat
  lineWidth : Nat
  swap : Bool := false

/-- The lines of one block of bytes (zeros fill a last short block up to a whole word), one for
each form, with the offset before the first. -/
def DumpLayout.block (l : DumpLayout) (address : AddressStyle) (offset : Nat) (block : Bytes) :
    String :=
  let n := block.length
  let full := block ++ List.replicate (l.perLine - n) 0
  String.join (l.forms.zipIdx.map fun (f, i) =>
    let fields := l.perLine / f.size
    let blank := (l.perLine - n) / f.size
    let pad := l.lineWidth - f.width * fields
    let texts := (List.range (fields - blank)).map fun j =>
      let k := fields - j
      let before := pad * k / fields
      let after := pad * (k - 1) / fields
      let word := (full.drop (j * f.size)).take f.size
      let word := if l.swap then word.reverse else word
      let text := f.field word
      String.ofList (List.replicate (before - after + f.width - text.length) ' ') ++ text
    let trailer :=
      if f.trailer then
        String.ofList (List.replicate (blank * f.width + pad * blank / fields) ' ') ++ "  >" ++
          String.ofList (block.map fun b =>
            if 32 ≤ b.toNat ∧ b.toNat < 127 then Char.ofNat b.toNat else '.') ++ "<"
      else ""
    let lead := if i = 0 then address.text offset
      else String.ofList (List.replicate address.room ' ')
    lead ++ String.join texts ++ trailer ++ "\n")

/-- The whole of `od`'s output for the bytes from an offset on: a line of each form for each
block, a block equal to the one before written as a single `*` (unless `verbose`), and the
offset of the end. -/
def DumpLayout.dump (l : DumpLayout) (address : AddressStyle) (verbose : Bool) (start : Nat)
    (bs : Bytes) : String :=
  let count := (bs.length + l.perLine - 1) / l.perLine
  let blocks := (List.range count).map fun i => (bs.drop (l.perLine * i)).take l.perLine
  let (text, _, _) := blocks.zipIdx.foldl (fun (acc : String × Option Bytes × Bool) (b, i) =>
    let (out, prev, starred) := acc
    if ¬ verbose ∧ prev = some b ∧ b.length = l.perLine then
      (if starred then out else out ++ "*\n", some b, true)
    else (out ++ l.block address (start + l.perLine * i) b, some b, false)) ("", none, false)
  let ending := if address.shown then address.text (start + bs.length) ++ "\n" else ""
  text ++ ending

/-- The strings of `od -S`: each run of at least `least` printable bytes ended by a zero byte,
after its offset. -/
def dumpStrings (address : AddressStyle) (least start : Nat) (cut : Bool) (bs : Bytes) : String :=
  go (bs.length + 1) start bs
where
  /-- The strings from offset `pos` on. -/
  go : Nat → Nat → Bytes → String
    | 0, _, _ => ""
    | k + 1, pos, bs =>
      if bs.isEmpty ∨ (cut ∧ bs.length ≤ least) then ""
      else
        let run := bs.takeWhile fun b => 32 ≤ b.toNat ∧ b.toNat < 127
        let line := address.lead pos ++ String.ofList (run.map fun b => Char.ofNat b.toNat) ++ "\n"
        match bs.drop run.length with
        | 0 :: more =>
          (if run.length ≥ least then line else "") ++ go k (pos + run.length + 1) more
        | _ :: more => go k (pos + run.length + 1) more
        | [] =>
          if cut ∧ run.length ≥ least then
            address.lead (pos - 1) ++ String.ofList (run.map fun b => Char.ofNat b.toNat) ++ "\n"
          else ""

/-- A byte count as `od` reads one: decimal, octal after `0`, hexadecimal after `0x`, with a
multiplier suffix (`b` 512, `B` 1024, `k`/`K` 1024 and the other powers, 1000 with a `B` after
them or `D`, and `iB` for 1024 again); a count that names only a suffix stands for one of it. -/
def dumpCount? (s : String) : Except String Nat := do
  let cs := s.toList.dropWhile fun c => c = ' ' ∨ ('\t' ≤ c ∧ c ≤ '\r')
  if cs.head? == some '-' then throw "invalid"
  let cs := if cs.head? == some '+' then cs.drop 1 else cs
  let (base, body) : Nat × List Char := match cs with
    | '0' :: x :: d :: more =>
      if (x = 'x' ∨ x = 'X') ∧ (d.isDigit ∨ ('a' ≤ d.toLower ∧ d.toLower ≤ 'f')) then
        (16, d :: more)
      else (8, cs)
    | '0' :: _ => (8, cs)
    | _ => (10, cs)
  let digitOf (c : Char) : Option Nat :=
    if c.isDigit then some (c.toNat - 48)
    else if 'a' ≤ c.toLower ∧ c.toLower ≤ 'f' then some (c.toLower.toNat - 87) else none
  let digits := body.takeWhile fun c => (digitOf c).any (· < base)
  let rest := body.drop digits.length
  let value := digits.foldl (fun a c => a * base + (digitOf c).getD 0) 0
  let value ← if digits.isEmpty then
      match rest with
      | c :: _ => if "bEGKkMmPTYZ".toList.contains c then pure 1 else throw "invalid"
      | [] => throw "invalid"
    else pure value
  match rest with
  | [] => if value ≥ 2 ^ (64 : Nat) then throw "large" else return value
  | c :: more =>
    if ¬ "bEGKkMmPTYZB".toList.contains c then throw "suffix"
    let (powerBase, used) : Nat × Nat :=
      if "EGKkMmPTYZ".toList.contains c then
        match more with
        | 'i' :: 'B' :: _ => (1024, 3)
        | 'B' :: _ | 'D' :: _ => (1000, 2)
        | _ => (1024, 1)
      else (1024, 1)
    let factor := match c with
      | 'b' => 512 | 'B' => 1024 | 'k' | 'K' => powerBase | 'M' | 'm' => powerBase ^ (2 : Nat)
      | 'G' => powerBase ^ (3 : Nat) | 'T' => powerBase ^ (4 : Nat) | 'P' => powerBase ^ (5 : Nat)
      | 'E' => powerBase ^ (6 : Nat) | 'Z' => powerBase ^ (7 : Nat) | _ => powerBase ^ (8 : Nat)
    if rest.length > used then throw "suffix"
    if value * factor ≥ 2 ^ (64 : Nat) then throw "large"
    return value * factor

/-- An offset operand of the old form, `[+]OFFSET[b]`: octal, hexadecimal after `0x`, and
decimal when it holds a point (which no suffix then follows, so it is refused). -/
def oldOffset? (s : String) : Option Nat :=
  if s.isEmpty then none
  else
    let cs := if s.front = '+' then s.toList.drop 1 else s.toList
    let (base, body) : Nat × List Char :=
      if cs.contains '.' then (10, cs)
      else match cs with
        | '0' :: x :: more => if x = 'x' ∨ x = 'X' then (16, more) else (8, cs)
        | _ => (8, cs)
    let digitOf (c : Char) : Option Nat :=
      if c.isDigit then some (c.toNat - 48)
      else if 'a' ≤ c.toLower ∧ c.toLower ≤ 'f' then some (c.toLower.toNat - 87) else none
    let digits := body.takeWhile fun c => (digitOf c).any (· < base)
    let value := digits.foldl (fun a c => a * base + (digitOf c).getD 0) 0
    let value := if digits.isEmpty then 1 else value
    match body.drop digits.length with
    | [] => if digits.isEmpty then none else some value
    | ['b'] => some (value * 512)
    | ['B'] => some (value * 1024)
    | _ => none

def countComplaint (option value why : String) : String :=
  match why with
  | "suffix" => "invalid suffix in " ++ option ++ " argument '" ++ value ++ "'"
  | "large" => option ++ " argument '" ++ value ++ "' too large"
  | _ => "invalid " ++ option ++ " argument '" ++ value ++ "'"

/-- The input of `od`: the files in turn, each read whole; a file that cannot be opened is
reported and left out. -/
def dumpInput (names : List String) (want : Option Nat) : Sh (Bytes × Bool × Bool) := do
  let mut input : Bytes := []
  let mut opened := false
  let mut failed := false
  for name in names do
    if name = "-" then
      let (chunk, endless) ← peekRest 0
      opened := true
      match endless, want with
      | true, some n =>
        if chunk.isEmpty then
          input := input ++ (← readRest 0)
        else
          let need := n - min n input.length
          input := input ++ (List.replicate (need / chunk.length + 1) chunk).flatten
          break
      | _, _ => input := input ++ (← readRest 0)
    else
      match ← readOperand name with
      | .ok bs =>
        input := input ++ bs
        opened := true
      | .error .isDir =>
        gnuSay "od" (shellQuoted name ++ ": " ++ readError .isDir)
        opened := true
        failed := true
      | .error e =>
        gnuSay "od" (shellQuoted name ++ ": " ++ readError e)
        failed := true
  return (input, opened, failed)

/-- `od`: writes its input in the forms asked for. -/
def odUtility (args : List String) : Sh Unit :=
  let spec : OptSpec :=
    { flags := "aBbcDdeFfHhIiLlOosvXx".toList, valued := "AjNSt".toList ++ [longOnly 1, longOnly 3, longOnly 4],
      optional := ['w', longOnly 2, longOnly 5],
      longs := [("skip-bytes", longOnly 3), ("address-radix", 'A'), ("read-bytes", longOnly 4),
        ("format", 't'), ("output-duplicates", 'v'), ("strings", longOnly 2),
        ("traditional", longOnly 0), ("width", longOnly 5), ("endian", longOnly 1)] }
  match parseOpts spec args with
  | .error e => usageError "od" e
  | .ok p => do
    let mut forms : List DumpForm := []
    let mut ok := true
    let mut modern := false
    let mut address : AddressStyle := {}
    let mut skip := 0
    let mut limit : Option Nat := none
    let mut strings : Option Nat := none
    let mut width : Option Nat := none
    let mut swap := false
    let mut verbose := false
    let mut traditional := false
    for (c, v) in p.opts do
      let long := c = longOnly 2 ∨ c = longOnly 3 ∨ c = longOnly 4 ∨ c = longOnly 5
      let c := if c = longOnly 3 then 'j' else if c = longOnly 4 then 'N'
        else if c = longOnly 5 then 'w' else c
      let option := if long then "--" ++ (match c with
          | 'j' => "skip-bytes" | 'N' => "read-bytes" | 'w' => "width" | _ => "strings")
        else "-" ++ String.singleton c
      let old : Option String := match c with
        | 'a' => some "a" | 'b' => some "o1" | 'c' => some "c" | 'D' => some "u4"
        | 'd' => some "u2" | 'e' | 'F' => some "fD" | 'f' => some "fF" | 'H' | 'X' => some "x4"
        | 'i' => some "dI" | 'I' | 'L' | 'l' => some "dL" | 'O' => some "o4"
        | 'B' | 'o' => some "o2" | 's' => some "d2" | 'h' | 'x' => some "x2"
        | _ => none
      match old with
      | some t => forms := forms ++ ((dumpForms t).toOption.getD [])
      | none =>
      match c with
      | 't' =>
        modern := true
        match dumpForms v with
        | .ok fs => forms := forms ++ fs
        | .error m =>
          gnuSay "od" m
          ok := false
      | 'A' =>
        modern := true
        match v.toList.headD '\x00' with
        | 'd' => address := { address with radix := 10, digits := 7 }
        | 'o' => address := { address with radix := 8, digits := 7 }
        | 'x' => address := { address with radix := 16, digits := 6 }
        | 'n' => address := { address with radix := 0, digits := 0 }
        | r =>
          gnuSay "od" ("invalid output address radix '" ++ String.singleton r ++
            "'; it must be one character from [doxn]")
          setStatus 1
          return
      | 'j' | 'N' =>
        modern := true
        match dumpCount? v with
        | .ok n => if c = 'j' then skip := n else limit := some n
        | .error why =>
          gnuSay "od" (countComplaint option v why)
          setStatus 1
          return
      | 'S' =>
        modern := true
        match dumpCount? v with
        | .ok n => strings := some n
        | .error why =>
          gnuSay "od" (countComplaint option v why)
          setStatus 1
          return
      | 'v' =>
        modern := true
        verbose := true
      | 'w' =>
        modern := true
        if v.isEmpty then width := some 32
        else
          match readScaled v "" false 0 (2 ^ (64 : Nat) - 1) with
          | .ok n => width := some n.toNat
          | .error .malformed =>
            gnuSay "od" ("invalid " ++ option ++ " argument '" ++ v ++ "'")
            setStatus 1
            return
          | .error _ =>
            gnuSay "od" (option ++ " argument '" ++ v ++ "' too large")
            setStatus 1
            return
      | _ =>
        if c = longOnly 0 then traditional := true
        else if c = longOnly 2 then
          modern := true
          if v.isEmpty then strings := some 3
          else
            match dumpCount? v with
            | .ok n => strings := some n
            | .error why =>
              gnuSay "od" (countComplaint option v why)
              setStatus 1
              return
        else if c = longOnly 1 then
          match argMatch "--endian" v [("little", false), ("big", true)] with
          | .ok b => swap := b
          | .error m =>
            usageError "od" m
            return
    if ¬ ok then
      setStatus 1
      return
    if strings.isSome ∧ ¬ forms.isEmpty then
      gnuSay "od" "no type may be specified when dumping strings"
      setStatus 1
      return
    let mut files := p.operands
    if ¬ modern ∨ traditional then
      match files with
      | [a] =>
        if traditional ∨ a.startsWith "+" then
          if let some o := oldOffset? a then
            skip := o
            files := []
      | [a, b] =>
        if traditional ∨ b.startsWith "+" ∨ (b.toList.headD ' ').isDigit then
          if let some o2 := oldOffset? b then
            match (if traditional then oldOffset? a else none) with
            | some o1 =>
              skip := o1
              address := { address with pseudo := some ((o2 : Int) - o1) }
              files := []
            | none =>
              skip := o2
              files := [a]
      | [a, b, c] =>
        if traditional then
          if let (some o1, some o2) := (oldOffset? b, oldOffset? c) then
            skip := o1
            address := { address with pseudo := some ((o2 : Int) - o1) }
            files := [a]
      | _ => pure ()
      if traditional ∧ files.length > 1 then
        gnuSay "od" ("extra operand " ++ localeQuote (files.getD 1 ""))
        usageError "od" "compatibility mode supports at most one file"
        return
    if address.pseudo.isSome ∧ address.radix = 0 then
      address := { address with digits := 7 }
    if let some n := limit then
      if skip + n ≥ 2 ^ (64 : Nat) then
        gnuSay "od" "skip-bytes + read-bytes is too large"
        setStatus 1
        return
    if forms.isEmpty then forms := [{ kind := .octal, size := 2 }]
    let names := if files.isEmpty then ["-"] else files
    let (input, opened, failed) ← dumpInput names (limit.map (skip + ·))
    if ¬ opened then
      setStatus 1
      return
    if skip > input.length then
      gnuSay "od" "cannot skip past end of combined input"
      setStatus 1
      return
    let shown := input.drop skip
    let shown := match limit with
      | some n => shown.take n
      | none => shown
    if let some least := strings then
      let cut := limit.any fun n => skip + n ≤ input.length
      say 1 (dumpStrings address least skip cut shown)
      setStatus (if failed then 1 else 0)
      return
    let lcm := forms.foldl (fun m f => Nat.lcm m f.size) 1
    let perLine ← match width with
      | some w =>
        if w ≠ 0 ∧ w % lcm = 0 then pure w
        else
          gnuSay "od" ("warning: invalid width " ++ toString w ++ "; using " ++ toString lcm ++
            " instead")
          pure lcm
      | none => pure (if lcm < 16 then lcm * (16 / lcm) else lcm)
    let lineWidth := forms.foldl (fun m f => max m ((f.width + 1) * (perLine / f.size))) 0
    let layout : DumpLayout := { forms, perLine, lineWidth, swap }
    say 1 (layout.dump address verbose skip shown)
    setStatus (if failed then 1 else 0)

/-! ## base64 -/

def base64Alphabet : List Char :=
  "ABCDEFGHIJKLMNOPQRSTUVWXYZabcdefghijklmnopqrstuvwxyz0123456789+/".toList

def base64Encode (bs : Bytes) : List Char :=
  go (bs.length + 1) bs
where
  go : Nat → Bytes → List Char
    | 0, _ => []
    | _ + 1, [] => []
    | k + 1, a :: rest =>
      let (b, c, n, rest) : Nat × Nat × Nat × Bytes := match rest with
        | b :: c :: more => (b.toNat, c.toNat, 3, more)
        | [b] => (b.toNat, 0, 2, [])
        | [] => (0, 0, 1, [])
      let v := a.toNat * 65536 + b * 256 + c
      let sym (i : Nat) : Char := base64Alphabet.getD ((v / Nat.pow 64 (3 - i)) % 64) 'A'
      [sym 0, sym 1, if n ≥ 2 then sym 2 else '=', if n = 3 then sym 3 else '='] ++ go k rest

def base64Value? (c : UInt8) : Option Nat := base64Alphabet.idxOf? (Char.ofNat c.toNat)

/-- One group of base 64, of up to four characters: the bytes it gives, and whether it is
right. -/
def base64Group (q : Bytes) : Bytes × Bool :=
  match q with
  | q0 :: q1 :: more =>
    match base64Value? q0, base64Value? q1 with
    | some a, some b =>
      let first := (a * 4 + b / 16) % 256
      match more with
      | [] => ([first.toUInt8], false)
      | q2 :: more =>
        if q2 = 61 then ([first.toUInt8], more == [61])
        else match base64Value? q2 with
          | none => ([first.toUInt8], false)
          | some c =>
            let second := (b % 16) * 16 + c / 4
            match more with
            | [] => ([first.toUInt8, second.toUInt8], false)
            | q3 :: _ =>
              if q3 = 61 then ([first.toUInt8, second.toUInt8], true)
              else match base64Value? q3 with
                | none => ([first.toUInt8, second.toUInt8], false)
                | some d => ([first.toUInt8, second.toUInt8, ((c % 4) * 64 + d).toUInt8], true)
    | _, _ => ([], false)
  | _ => ([], false)

/-- Reads base 64 back, line feeds skipped, a group of four characters at a time: the bytes
read, and whether all of it was right. -/
def base64Decode (bs : Bytes) : Bytes × Bool :=
  let cs := bs.filter (· ≠ 10)
  go (cs.length + 1) cs []
where
  /-- The groups from `cs` on, after the bytes `out`. -/
  go : Nat → Bytes → Bytes → Bytes × Bool
    | 0, _, out => (out, true)
    | _ + 1, [], out => (out, true)
    | k + 1, cs, out =>
      let (bytes, ok) := base64Group (cs.take 4)
      if ok then go k (cs.drop 4) (out ++ bytes) else (out ++ bytes, false)

def wrapText (width : Nat) (cs : List Char) : String :=
  if cs.isEmpty then ""
  else if width = 0 then String.ofList cs
  else
    let rows := (List.range ((cs.length + width - 1) / width)).map fun i => (cs.drop (i * width)).take width
    String.intercalate "\n" (rows.map String.ofList) ++ "\n"

/-- `base64`: encodes its input, or decodes it with `-d`. -/
def base64Utility (args : List String) : Sh Unit :=
  let spec : OptSpec :=
    { flags := ['d', 'i'], valued := ['w'],
      longs := [("decode", 'd'), ("ignore-garbage", 'i'), ("wrap", 'w')] }
  withOpts "base64" spec args fun p => do
    if p.operands.length > 1 then
      usageError "base64" ("extra operand " ++ localeQuote (p.operands.getD 1 ""))
      return
    let name := p.operands.headD "-"
    match ← readOperand name with
    | .error e =>
      gnuSay "base64" (name ++ ": " ++ readError e)
      setStatus 1
    | .ok bs =>
      if p.has 'd' then
        let bs := if p.has 'i' then bs.filter fun b => b = 10 ∨ b = 61 ∨ (base64Value? b).isSome else bs
        let (out, ok) := base64Decode bs
        emit 1 out
        if ok then setStatus 0
        else
          gnuSay "base64" "invalid input"
          setStatus 1
      else
        let width ← match p.value? 'w' with
          | some v => match countOf? v with
            | some k => pure k
            | none =>
              gnuSay "base64" ("invalid wrap size: " ++ localeQuote v)
              setStatus 1
              return
          | none => pure 76
        let text := base64Encode bs
        say 1 (if width = 0 then String.ofList text else wrapText width text)
        setStatus 0

end SqlMigration.Shell
