import SqlMigration.Shell.Format

/-!
# awk values

A value of awk is a number, a string, a string read from the input that looks like a number
(it then compares as one), or the value of a variable never set, which is both the empty string
and zero.
-/

namespace SqlMigration.Shell

open Number

/-! ## Doubles -/

def awkFloatOf (neg : Bool) (x : Binary64) : Float :=
  let sign : UInt64 := if neg then 0x8000000000000000 else 0
  match x with
  | .finite _ m e =>
    if m = 0 then Float.ofBits sign
    else if m ≥ Nat.pow 2 52 then
      Float.ofBits (sign ||| (UInt64.ofNat (e + 1075).toNat <<< 52) ||| UInt64.ofNat (m - Nat.pow 2 52))
    else Float.ofBits (sign ||| UInt64.ofNat m)
  | .infinity _ => Float.ofBits (sign ||| 0x7FF0000000000000)
  | .nan => Float.ofBits (sign ||| 0x7FF8000000000000)

/-- The sign and the magnitude of a double; a not-a-number keeps its sign bit, which the
machine's invalid operations set and reading the word `nan` does not. -/
def awkFloatParts (f : Float) : Bool × Binary64 :=
  let bits := f.toBits
  let neg := bits >>> 63 = 1
  let expo := ((bits >>> 52) &&& 0x7FF).toNat
  let frac := (bits &&& 0xFFFFFFFFFFFFF).toNat
  if expo = 0x7FF then (if frac = 0 then (neg, .infinity neg) else (neg, .nan))
  else if expo = 0 then (neg, .finite neg frac minExponent)
  else (neg, .finite neg (frac + Nat.pow 2 52) ((expo : Int) - 1075))

def awkWhole? (f : Float) : Option Int :=
  match awkFloatParts f with
  | (_, x@(.finite _ m e)) =>
    match x.truncate? with
    | some t =>
      let (a, b) := powTwo e
      if m * a % b = 0 then some t else none
    | none => none
  | _ => none

def awkTruncate? (f : Float) : Option Int := (awkFloatParts f).2.truncate?

def awkBytes (s : String) : Bytes := s.toList.map fun c => c.toNat.toUInt8

def awkOfBytes (bs : Bytes) : String := String.ofList (bs.map fun b => Char.ofNat b.toNat)

/-- The number at the front of a string, as `strtod` reads it, and how many characters it
took. -/
def awkStrtod (s : String) : Float × Nat :=
  let r := readFloatArg (awkBytes s)
  (awkFloatOf r.neg r.value, r.used)

def awkBlank (c : Char) : Bool := c = ' ' ∨ c = '\t' ∨ c = '\r' ∨ c = '\x0b' ∨ c = '\x0c'

/-- The number a string from the input stands for, when it looks like one: it starts with a
digit, a sign or a point, ends with a digit or a point, is read whole, and its value neither
overflows nor is too small to keep exactly. -/
def awkLooksNumeric (s : String) : Option Float :=
  let cs := (s.toList.dropWhile awkBlank).reverse.dropWhile awkBlank |>.reverse
  match cs.head?, cs.getLast? with
  | some a, some z =>
    if (a.isDigit ∨ a = '+' ∨ a = '-' ∨ a = '.') ∧ (z.isDigit ∨ z = '.') then
      let r := readFloatArg (awkBytes (String.ofList cs))
      if r.used = cs.length ∧ ¬ r.outOfRange then some (awkFloatOf r.neg r.value) else none
    else none
  | _, _ => none

/-- How awk makes a double an unsigned integer of 32 bits: clamped to its range, with what is
not above zero (a not-a-number too) made zero. -/
def awkToUInt (f : Float) : Nat :=
  match awkTruncate? f with
  | some t => if t ≥ (Nat.pow 2 32 - 1 : Nat) then Nat.pow 2 32 - 1 else if t > 0 then t.toNat else 0
  | none =>
    match awkFloatParts f with
    | (false, .infinity _) => Nat.pow 2 32 - 1
    | _ => 0

/-- How awk makes a double an integer of 32 bits: clamped to the range symmetric about zero,
with a not-a-number at its bottom. -/
def awkToInt (f : Float) : Int :=
  let hi : Int := (Nat.pow 2 31 - 1 : Nat)
  match awkTruncate? f with
  | some t => if t > hi then hi else if t < -hi then -hi else t
  | none =>
    match awkFloatParts f with
    | (false, .infinity _) => hi
    | _ => -hi

/-! ## Formats -/

/-- What a conversion of a format takes from its argument: a number, a not-a-number with its
sign, or a string. -/
inductive AwkArg where
  | number (x : Float)
  | nan (neg : Bool)
  | text (s : String)
  deriving Inhabited

def awkNaN : Float := 0 / 0

/-- One step of reading a format: text to copy, or a conversion with its spec, its letter and
how many arguments its `*` take. -/
inductive AwkFormatPart where
  | literal (s : String)
  | conversion (spec : Spec) (conv : Char) (starWidth starPrec : Bool)
  /-- A `%` with a wrong conversion letter. -/
  | improper
  /-- A `%` with nothing after it. -/
  | dangling
  deriving Inhabited

def awkConversion (cs : List Char) : AwkFormatPart × List Char :=
  let (spec, cs) := flags (cs.length + 1) {} cs
  let (starWidth, width, cs) := match cs with
    | '*' :: rest => (true, 0, rest)
    | _ =>
      let ds := cs.takeWhile Char.isDigit
      (false, ds.foldl (fun v (d : Char) => v * 10 + (d.toNat - 48)) 0, cs.drop ds.length)
  let (starPrec, precision, cs) := match cs with
    | '.' :: '*' :: rest => (true, some 0, rest)
    | '.' :: rest =>
      let ds := rest.takeWhile Char.isDigit
      (false, some (ds.foldl (fun v (d : Char) => v * 10 + (d.toNat - 48)) 0), rest.drop ds.length)
    | _ => (false, none, cs)
  let cs := cs.dropWhile fun c => c = 'h' ∨ c = 'l' ∨ c = 'L' ∨ c = 'q'
  let spec := { spec with width := width, precision := precision }
  match cs with
  | c :: rest =>
    if "cdiouxXeEfFgGs".toList.contains c then (.conversion spec c starWidth starPrec, rest)
    else (.improper, rest)
  | [] => (.dangling, [])
where
  flags : Nat → Spec → List Char → Spec × List Char
    | 0, s, cs => (s, cs)
    | _ + 1, s, [] => (s, [])
    | k + 1, s, c :: rest =>
      match s.flag c.toNat.toUInt8 with
      | some s' => flags k s' rest
      | none => (s, c :: rest)

/-- One conversion of a number or a string; `numText` writes a number (with the sign a
not-a-number has) for `%s`. -/
def awkConvert (spec : Spec) (conv : Char) (arg : AwkArg) (numText : Float → Bool → String) : String :=
  let num : Float := match arg with
    | .number x => x
    | .nan _ => awkNaN
    | .text s => (awkStrtod s).1
  match conv with
  | 'c' =>
    let ch : String := match arg with
      | .text s => String.singleton (s.toList.headD '\x00')
      | _ => String.singleton (Char.ofNat ((awkToInt num) % 256).toNat)
    awkOfBytes (padText spec (awkBytes ch))
  | 'd' | 'i' => awkOfBytes (formatInteger spec 'd' (awkToInt num))
  | 'o' | 'x' | 'X' | 'u' => awkOfBytes (formatInteger spec conv (awkToUInt num))
  | 's' =>
    let s := match arg with
      | .number x => numText x true
      | .nan neg => numText awkNaN neg
      | .text s => s
    awkOfBytes (formatText spec (awkBytes s))
  | _ =>
    let (neg, x) := match arg with
      | .nan neg => (neg, Binary64.nan)
      | .text s =>
        let r := readFloatArg (awkBytes s)
        match r.value with
        | .nan => (r.neg, Binary64.nan)
        | _ => awkFloatParts num
      | .number _ => awkFloatParts num
    awkOfBytes (formatFloat spec (if conv = 'F' then 'f' else conv) neg x)

/-- Formats arguments by a format: the text, or the text written before a mistake and its
message (`what` names the function in it). -/
def awkFormat (what : String) (fmt : String) (args : List AwkArg) (numText : Float → Bool → String) :
    String × Option String :=
  go (fmt.length + 1) fmt.toList args [] 0
where
  whole : String := what ++ "(\"" ++ fmt ++ "\")"
  go : Nat → List Char → List AwkArg → List String → Nat → String × Option String
    | 0, _, _, acc, _ => (String.join acc.reverse, none)
    | _ + 1, [], _, acc, _ => (String.join acc.reverse, none)
    | k + 1, '%' :: '%' :: rest, args, acc, n => go k rest args ("%" :: acc) (n + 1)
    | k + 1, '%' :: rest, args, acc, n =>
      let out := String.join acc.reverse
      if args.isEmpty then (out, some ("not enough arguments passed to " ++ whole)) else
      match awkConversion rest with
      | (.conversion spec conv starW starP, fmtRest) =>
        let numberOf (a : AwkArg) : Float := match a with
          | .number x => x
          | .nan _ => awkNaN
          | .text s => (awkStrtod s).1
        let (spec, args, short) :=
          if starW then
            match args with
            | a :: more =>
              let w := awkToInt (numberOf a)
              ({ spec with width := w.natAbs, left := spec.left || w < 0 }, more, false)
            | [] => (spec, [], true)
          else (spec, args, false)
        let (spec, args, short) :=
          if starP then
            match args with
            | a :: more =>
              let p := awkToInt (numberOf a)
              ({ spec with precision := if p < 0 then none else some p.toNat }, more, short)
            | [] => (spec, [], true)
          else (spec, args, short)
        match args with
        | a :: argsRest =>
          if short then (out, some ("not enough arguments passed to " ++ whole))
          else go k fmtRest argsRest (awkConvert spec conv a numText :: acc) (n + 1)
        | [] => (out, some ("not enough arguments passed to " ++ whole))
      | (.improper, _) => (out, some ("improper conversion(number " ++ toString (n + 1) ++ ") in " ++ whole))
      | _ => (out, some ("not enough arguments passed to " ++ whole))
    | k + 1, c :: rest, args, acc, n =>
      let lit := (c :: rest).takeWhile (· ≠ '%')
      go k ((c :: rest).drop lit.length) args (String.ofList lit :: acc) n

/-- A number as a string: an integer when it is a whole number that the conversion to 32 bits
keeps, and through the format otherwise (a not-a-number with the sign given). -/
def awkNumberText (fmt : String) (x : Float) (nanNeg : Bool) : String :=
  match awkWhole? x with
  | some t => if awkToInt x = t then toString t else viaFormat
  | none => viaFormat
where
  viaFormat : String :=
    (awkFormat "sprintf" fmt [if x.isNaN then .nan nanNeg else .number x] fun _ _ => "").1

/-! ## Values -/

/-- A value of awk. -/
inductive AwkValue where
  /-- The value of a variable never set: the empty string, and zero. -/
  | uninit
  | num (x : Float)
  | str (s : String)
  /-- A string from the input that looks like a number, with the number. -/
  | strnum (s : String) (x : Float)
  /-- A not-a-number, with its sign: negative for those invalid operations give, positive for
  the one read from the word `nan`. -/
  | nan (neg : Bool)
  deriving Inhabited

def AwkValue.ofInput (s : String) : AwkValue :=
  match awkLooksNumeric s with
  | some x => .strnum s x
  | none => .str s

def AwkValue.toNum : AwkValue → Float
  | .uninit => 0
  | .num x => x
  | .str s => (awkStrtod s).1
  | .strnum _ x => x
  | .nan _ => awkNaN

def AwkValue.toStr (fmt : String) : AwkValue → String
  | .uninit => ""
  | .num x => awkNumberText fmt x true
  | .str s => s
  | .strnum s _ => s
  | .nan neg => awkNumberText fmt awkNaN neg

def AwkValue.toBool : AwkValue → Bool
  | .uninit => false
  | .num x => x != 0
  | .str s => !s.isEmpty
  | .strnum _ x => x != 0
  | .nan _ => true

def AwkValue.nanSign? : AwkValue → Option Bool
  | .nan neg => some neg
  | .num x => if x.isNaN then some true else none
  | .str s =>
    let r := readFloatArg (awkBytes s)
    match r.value with
    | .nan => some r.neg
    | _ => none
  | _ => none

/-- A number as a value: a not-a-number takes the sign of the first operand that is one, and is
negative (as those invalid operations give are) when none is. -/
def awkNumOf (x : Float) (operands : List AwkValue) : AwkValue :=
  if x.isNaN then .nan ((operands.findSome? AwkValue.nanSign?).getD true) else .num x

def AwkValue.negate (v : AwkValue) : AwkValue :=
  let x := -v.toNum
  if x.isNaN then .nan !((v.nanSign?).getD true) else .num x

def AwkValue.numeric : AwkValue → Bool
  | .str _ => false
  | _ => true

def awkCompareText : List Char → List Char → Int
  | [], [] => 0
  | [], _ :: _ => -1
  | _ :: _, [] => 1
  | a :: as, b :: bs => if a < b then -1 else if b < a then 1 else awkCompareText as bs

def AwkValue.compare (fmt : String) (a b : AwkValue) : Int :=
  if a.numeric ∧ b.numeric then
    let x := a.toNum
    let y := b.toNum
    if x > y then 1 else if x < y then -1 else 0
  else awkCompareText (a.toStr fmt).toList (b.toStr fmt).toList

end SqlMigration.Shell
