import SqlMigration.Shell.Utility
import SqlMigration.Shell.PrintfProgram
import SqlMigration.Text.VersionOrder

/-!
# sort

`sort` writes the lines of its files in order.
-/

-- powers and sums of numbers are read with the core instances, whatever else is imported
attribute [local instance (high)] instPowNat Zero.ofOfNat0

namespace SqlMigration.Shell

/-- The bytes a key leaves out before it is compared. -/
inductive SortIgnore where
  | keepAll
  | nonprinting
  | nondictionary
  deriving DecidableEq

/-- A sort key: where it starts and ends in a line, and how it compares. -/
structure SortKey where
  /-- The fields passed over before the key starts. -/
  startField : Nat := 0
  /-- The bytes passed over in its first field. -/
  startChar : Nat := 0
  /-- The fields passed over before the field the key ends in; none when it runs to the end of
  the line. -/
  endField : Option Nat := none
  /-- The bytes of its last field it takes; 0 for the whole field. -/
  endChar : Nat := 0
  skipStart : Bool := false
  skipEnd : Bool := false
  ignore : SortIgnore := .keepAll
  fold : Bool := false
  numeric : Bool := false
  general : Bool := false
  human : Bool := false
  month : Bool := false
  random : Bool := false
  version : Bool := false
  reverse : Bool := false

def SortKey.plain (k : SortKey) : Bool :=
  k.ignore == .keepAll && !k.fold && !k.skipStart && !k.skipEnd && !k.numeric && !k.general &&
    !k.human && !k.month && !k.version && !k.random

def SortKey.inherit (k g : SortKey) : SortKey :=
  if k.plain && !k.reverse then
    { k with ignore := g.ignore, fold := g.fold, skipStart := g.skipStart, skipEnd := g.skipEnd,
             month := g.month, numeric := g.numeric, general := g.general, human := g.human,
             version := g.version, random := g.random, reverse := g.reverse }
  else k

/-- Sets the options of a key that its letters name: `b` for the blanks at the start (`start`)
or at the end, and the others. -/
def SortKey.withLetters (k : SortKey) (start finish : Bool) : List Char → SortKey × List Char
  | [] => (k, [])
  | c :: rest =>
    let next : Option SortKey := match c with
      | 'b' => some { k with skipStart := k.skipStart || start, skipEnd := k.skipEnd || finish }
      | 'd' => some { k with ignore := .nondictionary }
      | 'f' => some { k with fold := true }
      | 'g' => some { k with general := true }
      | 'h' => some { k with human := true }
      | 'i' => some (if k.ignore == .keepAll then { k with ignore := .nonprinting } else k)
      | 'M' => some { k with month := true }
      | 'n' => some { k with numeric := true }
      | 'R' => some { k with random := true }
      | 'r' => some { k with reverse := true }
      | 'V' => some { k with version := true }
      | _ => none
    match next with
    | some k' => k'.withLetters start finish rest
    | none => (k, c :: rest)

def SortKey.letters (k : SortKey) : String :=
  String.ofList <| [(k.skipStart || k.skipEnd, 'b'), (k.ignore == .nondictionary, 'd'), (k.fold, 'f'),
    (k.general, 'g'), (k.human, 'h'), (k.ignore == .nonprinting, 'i'), (k.month, 'M'),
    (k.numeric, 'n'), (k.random, 'R'), (k.reverse, 'r'), (k.version, 'V')].filterMap
    fun (on, c) => if on then some c else none

def SortKey.conflicting (k : SortKey) : Bool :=
  let count (b : Bool) : Nat := if b then 1 else 0
  count k.numeric + count k.general + count k.human + count k.month +
    count (k.version || k.random || k.ignore != .keepAll) > 1

/-- A count in a key's text, as the C library reads an unsigned number: blanks and a `+` may
come first, no `-`; the count and the characters after it, or none when there are no digits. -/
def keyCount (cs : List Char) : Option (Nat × List Char) :=
  let body := cs.dropWhile fun c => c = ' ' ∨ c = '\t' ∨ c = '\n' ∨ c = '\x0b' ∨ c = '\x0c' ∨ c = '\r'
  let body := match body with
    | '+' :: r => r
    | r => r
  let ds := body.takeWhile Char.isDigit
  if ds.isEmpty then none
  else
    let n := (String.ofList ds).toNat!
    some (min n (2 ^ (64 : Nat) - 1), body.drop ds.length)

def parseSortKey (spec : String) : Except String SortKey := do
  let bad (why : String) : String := why ++ ": invalid field specification " ++ localeQuote spec
  let badCount (why : String) (cs : List Char) : String :=
    why ++ ": invalid count at start of " ++ localeQuote (String.ofList cs)
  let cs := spec.toList
  let some (field, rest) := keyCount cs
    | throw (badCount "invalid number at field start" cs)
  if field = 0 then throw (bad "field number is zero")
  let (char, rest) ← match rest with
    | '.' :: more =>
      match keyCount more with
      | some (c, r) => if c = 0 then throw (bad "character offset is zero") else pure (c - 1, r)
      | none => throw (badCount "invalid number after '.'" more)
    | r => pure (0, r)
  let k : SortKey := { startField := field - 1, startChar := char }
  let (k, rest) := k.withLetters true false rest
  let (k, rest) ← match rest with
    | ',' :: more =>
      match keyCount more with
      | none => throw (badCount "invalid number after ','" more)
      | some (e, r) =>
        if e = 0 then throw (bad "field number is zero")
        else
          let (echar, r) ← match r with
            | '.' :: m =>
              match keyCount m with
              | some (c, r') => pure (c, r')
              | none => throw (badCount "invalid number after '.'" m)
            | r => pure (0, r)
          pure ({ k with endField := some (e - 1), endChar := echar }.withLetters false true r)
    | r => pure (k, r)
  if rest.isEmpty then pure k else throw (bad "stray character in field spec")

/-! ## Comparing lines -/

def sortBlank (b : UInt8) : Bool := b == 32 || b == 9 || b == 10

def skipSortBlanks (line : Array UInt8) (i : Nat) : Nat :=
  go (line.size + 1 - i) i
where
  go : Nat → Nat → Nat
    | 0, i => i
    | k + 1, i => if i < line.size && sortBlank (line.getD i 0) then go k (i + 1) else i

/-- The place after one field from a place on: with a separator, up to it (and past it when
`pastSep`); without, past the blanks and then the other bytes. -/
def skipSortField (tab : Option UInt8) (line : Array UInt8) (i : Nat) (pastSep : Bool) : Nat :=
  match tab with
  | some t =>
    let j := go (line.size + 1 - i) i fun b => b != t
    if j < line.size && pastSep then j + 1 else j
  | none =>
    let j := go (line.size + 1 - i) i sortBlank
    go (line.size + 1 - j) j fun b => !sortBlank b
where
  go : Nat → Nat → (UInt8 → Bool) → Nat
    | 0, i, _ => i
    | k + 1, i, p => if i < line.size && p (line.getD i 0) then go k (i + 1) p else i

def skipSortFields (tab : Option UInt8) (line : Array UInt8) (lastPast : Bool) : Nat → Nat → Nat
  | 0, i => i
  | n + 1, i =>
    if i < line.size then skipSortFields tab line lastPast n (skipSortField tab line i (n > 0 || lastPast))
    else i

def SortKey.startIn (k : SortKey) (tab : Option UInt8) (line : Array UInt8) : Nat :=
  let i := skipSortFields tab line true k.startField 0
  let i := if k.skipStart then skipSortBlanks line i else i
  min line.size (i + k.startChar)

def SortKey.endIn (k : SortKey) (tab : Option UInt8) (line : Array UInt8) : Nat :=
  match k.endField with
  | none => line.size
  | some e =>
    let fields := if k.endChar == 0 then e + 1 else e
    let i := skipSortFields tab line (k.endChar != 0) fields 0
    if k.endChar == 0 then i
    else
      let i := if k.skipEnd then skipSortBlanks line i else i
      min line.size (i + k.endChar)

def SortIgnore.drops : SortIgnore → UInt8 → Bool
  | .keepAll, _ => false
  | .nonprinting, b => b < 32 || b ≥ 127
  | .nondictionary, b =>
    !(Text.isLetterByte b || Text.isDigitByte b || sortBlank b)

def SortKey.textIn (k : SortKey) (tab : Option UInt8) (line : Array UInt8) : List UInt8 :=
  let s := k.startIn tab line
  let e := max s (k.endIn tab line)
  let bs := (line.extract s e).toList
  let bs := bs.filter fun b => !k.ignore.drops b
  if k.fold then bs.map fun b => if 97 ≤ b && b ≤ 122 then b - 32 else b else bs

/-- A decimal number at the front of a key as `-n` reads it, after blanks: the sign, the
digits before the point without leading zeros and those after it without trailing zeros;
text that is no number counts as zero. -/
structure SortDecimal where
  negative : Bool
  whole : List UInt8
  frac : List UInt8

def SortDecimal.read (bs : List UInt8) : SortDecimal :=
  let bs := bs.dropWhile sortBlank
  let (neg, rest) := match bs with
    | 45 :: r => (true, r)
    | r => (false, r)
  let whole := rest.takeWhile Text.isDigitByte
  let frac := match rest.drop whole.length with
    | 46 :: r => r.takeWhile Text.isDigitByte
    | _ => []
  let whole := whole.dropWhile (· == 48)
  let frac := (frac.reverse.dropWhile (· == 48)).reverse
  { negative := neg && !(whole.isEmpty && frac.isEmpty), whole, frac }

def SortDecimal.order (a b : SortDecimal) : Ordering :=
  let magnitude := (compare a.whole.length b.whole.length).then
    ((compare a.whole b.whole).then (compare a.frac b.frac))
  match a.negative, b.negative with
  | false, false => magnitude
  | true, true => magnitude.swap
  | true, false => .lt
  | false, true => .gt

def unitOrder (b : UInt8) : Int :=
  match b with
  | 75 | 107 => 1
  | 77 => 2
  | 71 => 3
  | 84 => 4
  | 80 => 5
  | 69 => 6
  | 90 => 7
  | 89 => 8
  | _ => 0

/-- The unit order of a number at the front of a key, negative for a negative number; a
number whose digits are all zero has none. -/
def humanUnit (bs : List UInt8) : Int :=
  let bs := bs.dropWhile sortBlank
  let (neg, rest) := match bs with
    | 45 :: r => (true, r)
    | r => (false, r)
  let body := rest.takeWhile fun b => Text.isDigitByte b || b == 46
  let anyDigit := body.any fun b => Text.isDigitByte b && b != 48
  let order := if anyDigit then unitOrder ((rest.drop body.length).headD 0) else 0
  if neg then -order else order

/-- The month a key names, by the first three letters of its English name in any case, after
blanks; 0 for none. -/
def monthOf (bs : List UInt8) : Nat :=
  let bs := (bs.dropWhile sortBlank).map fun b => if 97 ≤ b && b ≤ 122 then b - 32 else b
  let names := ["JAN", "FEB", "MAR", "APR", "MAY", "JUN", "JUL", "AUG", "SEP", "OCT", "NOV", "DEC"]
  match (names.zipIdx.find? fun (n, _) => (n.toUTF8.toList).isPrefixOf bs) with
  | some (_, i) => i + 1
  | none => 0

/-- A number as `-g` reads it, like the C library's `strtold`: an error (no number), a NaN, an
infinity, or a finite number given by its sign, its significant digits and the power of ten
of the place before the first of them. -/
inductive SortFloat where
  | error
  | nan (negative : Bool)
  | infinite (negative : Bool)
  | finite (negative : Bool) (digits : List Nat) (exponent : Int)

/-- The significant digits and exponent of digits with a point after `point` of them,
times ten to a power: no leading or trailing zeros. -/
def normalizeDigits (ds : List Nat) (point : Int) : List Nat × Int :=
  let lead := (ds.takeWhile (· == 0)).length
  let ds := ds.drop lead
  ((ds.reverse.dropWhile (· == 0)).reverse, point - lead)

def isHexByte (b : UInt8) : Bool :=
  Text.isDigitByte b || (97 ≤ b && b ≤ 102) || (65 ≤ b && b ≤ 70)

def hexByteValue (b : UInt8) : Nat :=
  if Text.isDigitByte b then b.toNat - 48
  else if 97 ≤ b && b ≤ 102 then b.toNat - 87
  else b.toNat - 55

/-- Reads a number as `strtold` does, after blanks: decimal, or hexadecimal after `0x` with a
binary exponent after `p`. -/
def SortFloat.read (bs : List UInt8) : SortFloat :=
  let bs := bs.dropWhile fun b => b == 32 || (9 ≤ b && b ≤ 13)
  let (neg, rest) := match bs with
    | 45 :: r => (true, r)
    | 43 :: r => (false, r)
    | r => (false, r)
  let lower := rest.map fun b => if 65 ≤ b && b ≤ 90 then b + 32 else b
  if "inf".toUTF8.toList.isPrefixOf lower then .infinite neg
  else if "nan".toUTF8.toList.isPrefixOf lower then .nan neg
  else match lower with
  | 48 :: 120 :: hex =>
    let whole := hex.takeWhile isHexByte
    let frac := match hex.drop whole.length with
      | 46 :: r => r.takeWhile isHexByte
      | _ => []
    if whole.isEmpty && frac.isEmpty then .finite false [] 0
    else
      let after := match hex.drop whole.length with
        | 46 :: r => r.drop frac.length
        | r => r
      let power : Int := match after with
        | 112 :: r =>
          let (pneg, r) := match r with
            | 45 :: r' => (true, r')
            | 43 :: r' => (false, r')
            | r' => (false, r')
          let ds := r.takeWhile Text.isDigitByte
          let v : Nat := min 100000 (ds.foldl (fun a d => 10 * a + (d.toNat - 48)) 0)
          if ds.isEmpty then 0 else if pneg then -(v : Int) else v
        | _ => 0
      let mantissa := (whole ++ frac).foldl (fun a d => 16 * a + hexByteValue d) 0
      let e := power - 4 * frac.length
      if mantissa == 0 then .finite false [] 0
      else if e > 20000 then .infinite neg
      else if e < -20000 then .finite false [] 0
      else
        let (n, shift) : Nat × Int := if e ≥ 0 then (mantissa * 2 ^ e.toNat, 0) else (mantissa * 5 ^ (-e).toNat, e)
        let digits := (toString n).toList.map fun c => c.toNat - 48
        let (ds, point) := normalizeDigits digits (digits.length + shift)
        if point > 4933 then .infinite neg else .finite neg ds point
  | _ =>
    let whole := rest.takeWhile Text.isDigitByte
    let after := rest.drop whole.length
    let frac := match after with
      | 46 :: r => r.takeWhile Text.isDigitByte
      | _ => []
    if whole.isEmpty && frac.isEmpty then .error
    else
      let after := match after with
        | 46 :: r => r.drop frac.length
        | r => r
      let exp : Int := match after with
        | e :: r =>
          if e == 101 || e == 69 then
            let (eneg, r) := match r with
              | 45 :: r' => (true, r')
              | 43 :: r' => (false, r')
              | r' => (false, r')
            let ds := r.takeWhile Text.isDigitByte
            if ds.isEmpty then 0
            else
              let v : Nat := min 100000 (ds.foldl (fun a d => 10 * a + (d.toNat - 48)) 0)
              if eneg then -(v : Int) else v
          else 0
        | [] => 0
      let digits := (whole ++ frac).map fun d => d.toNat - 48
      let (ds, e) := normalizeDigits digits (whole.length + exp)
      if ds.isEmpty then .finite false [] 0
      else if e > 4933 then .infinite neg
      else if e < -4950 then .finite false [] 0
      else .finite neg ds e

def magnitudeOrder (a : List Nat × Int) (b : List Nat × Int) : Ordering :=
  match a.1.isEmpty, b.1.isEmpty with
  | true, true => .eq
  | true, false => .lt
  | false, true => .gt
  | false, false => (compare a.2 b.2).then (compare a.1 b.1)

/-- The order of two numbers read by `-g`: errors first, then NaNs (by their bytes, which put
the positive one first), then the numbers. -/
def SortFloat.order : SortFloat → SortFloat → Ordering
  | .error, .error => .eq
  | .error, _ => .lt
  | _, .error => .gt
  | .nan a, .nan b => compare a b
  | .nan _, _ => .lt
  | _, .nan _ => .gt
  | .infinite a, .infinite b => if a == b then .eq else if a then .lt else .gt
  | .infinite a, _ => if a then .lt else .gt
  | _, .infinite b => if b then .gt else .lt
  | .finite na da ea, .finite nb db eb =>
    let na := na && !da.isEmpty
    let nb := nb && !db.isEmpty
    match na, nb with
    | false, false => magnitudeOrder (da, ea) (db, eb)
    | true, true => magnitudeOrder (db, eb) (da, ea)
    | true, false => .lt
    | false, true => .gt

def SortKey.compareTexts (k : SortKey) (a b : List UInt8) : Ordering :=
  if k.numeric then (SortDecimal.read a).order (SortDecimal.read b)
  else if k.general then (SortFloat.read a).order (SortFloat.read b)
  else if k.human then
    (compare (humanUnit a) (humanUnit b)).then ((SortDecimal.read a).order (SortDecimal.read b))
  else if k.month then compare (monthOf a) (monthOf b)
  else if k.version then Text.versionOrder a b
  else compare a b

/-- The settings of a `sort` run that decide the order. -/
structure SortOrder where
  keys : List SortKey := []
  tab : Option UInt8 := none
  /-- Whether ties on the keys are left as they came instead of being compared as lines. -/
  keepTies : Bool := false
  /-- Whether the comparison of whole lines is reversed. -/
  reverse : Bool := false

/-- A line with the texts of its keys. -/
structure SortLine where
  bytes : List UInt8
  keys : List (List UInt8)

def SortOrder.line (o : SortOrder) (bs : List UInt8) : SortLine :=
  let arr := bs.toArray
  { bytes := bs, keys := o.keys.map fun k => k.textIn o.tab arr }

def SortOrder.compareLines (o : SortOrder) (a b : SortLine) : Ordering :=
  let byKeys := ((o.keys.zip (a.keys.zip b.keys)).map fun (k, ka, kb) =>
    let r := k.compareTexts ka kb
    if k.reverse then r.swap else r).foldl Ordering.then .eq
  if byKeys != .eq || (o.keepTies && !o.keys.isEmpty) then byKeys
  else
    let r := compare a.bytes b.bytes
    if o.reverse then r.swap else r

def SortOrder.merge (o : SortOrder) : List SortLine → List SortLine → List SortLine
  | [], ys => ys
  | xs, [] => xs
  | x :: xs, y :: ys =>
    if o.compareLines y x == .lt then y :: o.merge (x :: xs) ys
    else x :: o.merge xs (y :: ys)
termination_by xs ys => xs.length + ys.length

def SortOrder.firsts (o : SortOrder) : List SortLine → List SortLine
  | [] => []
  | x :: rest => go x rest
where
  /-- Keeps `cur`, passing over the lines equal to it. -/
  go (cur : SortLine) : List SortLine → List SortLine
    | [] => [cur]
    | y :: ys => if o.compareLines cur y == .eq then go cur ys else cur :: go y ys

/-- The place of the first line out of order (its index from 1), if any: one that comes
before the line ahead of it, or with `strict` one equal to it. -/
def SortOrder.disorder (o : SortOrder) (strict : Bool) (ls : List SortLine) : Option (Nat × SortLine) :=
  ((ls.zip (ls.drop 1)).zipIdx.find? fun ((a, b), _) =>
    match o.compareLines a b with
    | .gt => true
    | .eq => strict
    | .lt => false).map fun ((_, b), i) => (i + 2, b)

/-! ## Explaining a run

With `--debug`, each line written is followed by a line underlining each key in it, and one
underlining the whole line unless ties are kept; tabs are shown as `>`. -/

def sortDebugWidth (bs : List UInt8) : Nat :=
  (Text.Unicode.decode bs).foldl (fun w c =>
    if Text.Unicode.isRaw c ∨ c = '\t' then w + 1
    else
      let control := c.toNat < 32 ∨ (127 ≤ c.toNat ∧ c.toNat < 160)
      w + (Text.Unicode.width? c).getD (if control then 0 else 1)) 0

/-- The length of a number's digits with an optional point among them, as the C library reads
it; 0 when there is no digit. -/
def mantissaLength (digit : UInt8 → Bool) (bs : List UInt8) : Nat :=
  let whole := (bs.takeWhile digit).length
  match bs.drop whole with
  | 46 :: r =>
    let frac := (r.takeWhile digit).length
    if whole + frac = 0 then 0 else whole + 1 + frac
  | _ => whole

/-- The length of an exponent after its mark (`e` or `p`): a sign and digits; 0 when there are
no digits. -/
def exponentLength (mark : UInt8) (bs : List UInt8) : Nat :=
  match bs with
  | e :: r =>
    if e != mark then 0
    else
      let sign := match r with
        | 43 :: _ | 45 :: _ => 1
        | _ => 0
      let ds := ((r.drop sign).takeWhile Text.isDigitByte).length
      if ds = 0 then 0 else 1 + sign + ds
  | [] => 0

/-- How many bytes at the front of a text the C library's `strtold` reads as a number: white
space, a sign, and an infinity, a NaN, a hexadecimal or a decimal number; 0 when there is none. -/
def strtoldLength (bs : List UInt8) : Nat :=
  let space := (bs.takeWhile fun b => b == 32 || (9 ≤ b && b ≤ 13)).length
  let rest := bs.drop space
  let sign := match rest with
    | 43 :: _ | 45 :: _ => 1
    | _ => 0
  let lower := (rest.drop sign).map fun b => if 65 ≤ b && b ≤ 90 then b + 32 else b
  let body : Nat :=
    if "infinity".toUTF8.toList.isPrefixOf lower then 8
    else if "inf".toUTF8.toList.isPrefixOf lower then 3
    else if "nan".toUTF8.toList.isPrefixOf lower then
      match lower.drop 3 with
      | 40 :: r =>
        let k := (r.takeWhile fun b => Text.isLetterByte b || Text.isDigitByte b || b == 95).length
        if (r.drop k).head? == some 41 then 5 + k else 3
      | _ => 3
    else match lower with
      | 48 :: 120 :: r =>
        let m := mantissaLength isHexByte r
        if m = 0 then 1 else 2 + m + exponentLength 112 (r.drop m)
      | _ =>
        let m := mantissaLength Text.isDigitByte lower
        if m = 0 then 0 else m + exponentLength 101 (lower.drop m)
  if body = 0 then 0 else space + sign + body

/-- Where the number at a place of a line ends, as `-n` and `-h` read it: a minus, digits, and
a point with digits; with `unit` the unit suffix after it too. -/
def numberEnd (line : List UInt8) (start : Nat) (unit : Bool) : Option Nat :=
  let rest := line.drop start
  let minus := if rest.head? == some 45 then 1 else 0
  let ds := rest.drop minus
  let whole := (ds.takeWhile Text.isDigitByte).length
  let frac := match ds.drop whole with
    | 46 :: r => some (r.takeWhile Text.isDigitByte).length
    | _ => none
  if whole + frac.getD 0 = 0 then none
  else
    let stop := start + minus + whole + (frac.map (· + 1)).getD 0
    let suffix := match line.drop stop with
      | b :: _ => unit && unitOrder b != 0
      | [] => false
    some (if suffix then stop + 1 else stop)

/-- The part of a line a key covers, as `--debug` underlines it: where it starts and where it
ends. -/
def SortKey.debugSpan (k : SortKey) (tab : Option UInt8) (line : Array UInt8) : Nat × Nat :=
  let fromStart := k.startField == 0 && k.startChar == 0
  let beg := if fromStart then 0 else k.startIn tab line
  let lim := k.endIn tab line
  if (k.skipStart && fromStart) || k.month || k.numeric || k.general || k.human then
    let cut := (line.extract 0 lim).toList
    let beg := if beg < lim then beg + ((cut.drop beg).takeWhile sortBlank).length else beg
    let tight :=
      if lim < beg then lim
      else if k.month then (if monthOf (cut.drop beg) != 0 then beg + 3 else beg)
      else if k.general then beg + strtoldLength (cut.drop beg)
      else if k.numeric || k.human then (numberEnd cut beg k.human).getD beg
      else lim
    (beg, tight)
  else (beg, lim)

/-- What `--debug` writes for a line: the line with its tabs shown as `>`, then a line under
each key, at the column where it starts, of as many underscores as it takes columns or the
note that it has none, and one under the whole line unless ties are kept. -/
def SortOrder.debugLines (o : SortOrder) (bs : List UInt8) : List UInt8 :=
  let line := bs.toArray
  let mark (beg lim : Nat) : String :=
    let off := sortDebugWidth (line.extract 0 beg).toList
    let w := if lim ≤ beg then 0 else sortDebugWidth (line.extract beg lim).toList
    String.ofList (List.replicate off ' ') ++
      (if w = 0 then "^ no match for key" else String.ofList (List.replicate w '_')) ++ "\n"
  let keys := o.keys.map fun k =>
    let (b, e) := k.debugSpan o.tab line
    mark b e
  let whole := if o.keys.isEmpty || !o.keepTies then [mark 0 line.size] else []
  bs.map (fun b => if b == 9 then 62 else b) ++ [10] ++ (String.join (keys ++ whole)).toUTF8.toList

/-! ## The utility -/

def sortSpec : OptSpec :=
  { flags := "bcCdfghiMmnRrsuVz".toList,
    valued := "koStTy".toList ++ [1, 2, 4, 5, 6, 7, 8].map longOnly,
    optional := [longOnly 0], status := 2,
    longs := [("ignore-leading-blanks", 'b'), ("check", longOnly 0),
      ("compress-program", longOnly 1), ("debug", longOnly 3), ("dictionary-order", 'd'),
      ("ignore-case", 'f'), ("files0-from", longOnly 2), ("general-numeric-sort", 'g'),
      ("ignore-nonprinting", 'i'), ("key", 'k'), ("merge", 'm'), ("month-sort", 'M'),
      ("numeric-sort", 'n'), ("human-numeric-sort", 'h'), ("version-sort", 'V'),
      ("random-sort", 'R'), ("random-source", longOnly 4), ("sort", longOnly 5),
      ("output", 'o'), ("reverse", 'r'), ("stable", 's'), ("batch-size", longOnly 6),
      ("buffer-size", 'S'), ("field-separator", 't'), ("temporary-directory", 'T'),
      ("unique", 'u'), ("zero-terminated", 'z'), ("parallel", longOnly 7)] }

/-- What checking asks for: nothing, a message at the first disorder, or only the status. -/
inductive SortCheck where
  | none
  | diagnose
  | quiet
  deriving DecidableEq

/-- The settings the options of `sort` give. -/
structure SortOptions where
  global : SortKey := {}
  keys : List SortKey := []
  tab : Option UInt8 := none
  check : SortCheck := .none
  merge : Bool := false
  unique : Bool := false
  stable : Bool := false
  zero : Bool := false
  output : Option String := none
  debug : Bool := false

/-- Why the options of `sort` stop it: a message, and whether it is a wrong value of an option,
which is followed by the hint at `--help` and the status 1. -/
structure SortFailure where
  message : String
  wrongValue : Bool := false

def SortOptions.take (o : SortOptions) (opt : Char × String) : Except SortFailure SortOptions :=
  (takeOption o opt).mapError fun (m, w) => { message := m, wrongValue := w }
where
  takeOption (o : SortOptions) (opt : Char × String) : Except (String × Bool) SortOptions :=
  let fail (m : String) : Except (String × Bool) SortOptions := .error (m, false)
  let (c, v) := opt
  match c with
  | 'k' => match parseSortKey v with
    | .ok k => .ok { o with keys := o.keys ++ [k] }
    | .error m => fail m
  | 't' =>
    let bs := Text.Unicode.encode v.toList
    let tab : Except (String × Bool) UInt8 := match bs with
      | [] => .error ("empty tab", false)
      | [b] => .ok b
      | _ => if v = "\\0" then .ok 0 else .error ("multi-character tab " ++ localeQuote v, false)
    tab.bind fun t =>
      if o.tab.any (· != t) then fail "incompatible tabs" else .ok { o with tab := some t }
  | 'c' => .ok { o with check := .diagnose }
  | 'C' => .ok { o with check := .quiet }
  | 'm' => .ok { o with merge := true }
  | 'u' => .ok { o with unique := true }
  | 's' => .ok { o with stable := true }
  | 'z' => .ok { o with zero := true }
  | 'o' =>
    match o.output with
    | some f => if f = v then .ok o else fail "multiple output files specified"
    | none => .ok { o with output := some v }
  | 'S' | 'T' | 'y' => .ok o
  | _ =>
    if c = longOnly 0 then
      let choice := if v.isEmpty then .ok SortCheck.diagnose
        else argMatch "--check" v [("quiet", SortCheck.quiet), ("silent", .quiet), ("diagnose-first", .diagnose)]
      match choice with
      | .ok k => .ok { o with check := k }
      | .error m => .error (m, true)
    else if c = longOnly 5 then
      match argMatch "--sort" v [("general-numeric", 'g'), ("human-numeric", 'h'), ("month", 'M'),
          ("numeric", 'n'), ("random", 'R'), ("version", 'V')] with
      | .ok l => .ok { o with global := (o.global.withLetters true true [l]).1 }
      | .error m => .error (m, true)
    else if c = longOnly 3 then .ok { o with debug := true }
    else if "bdfghiMnRrV".toList.contains c then
      .ok { o with global := (o.global.withLetters true true [c]).1 }
    else .ok o

/-- The order a run's settings give, with the keys that take the global options, and the
global options as the one key when there is no other and they change the comparison. -/
def SortOptions.order (o : SortOptions) : SortOrder :=
  let keys := o.keys.map (·.inherit o.global)
  let keys := if keys.isEmpty && !o.global.plain then [o.global] else keys
  { keys, tab := o.tab, keepTies := o.unique || o.stable, reverse := o.global.reverse }

/-- The notes `--debug` writes before the lines: how text is ordered, what may surprise in each
key (one that covers nothing, blanks that count, a number that runs over several fields), how
numbers are read, and the global options that no key takes. -/
def SortOptions.debugNotes (o : SortOptions) : List String :=
  let keys := o.order.keys
  let globalOnly := o.keys.isEmpty && !o.global.plain
  let tiesKept := o.unique || o.stable
  let numeric (k : SortKey) : Bool := k.numeric || k.general || k.human
  let spans (k : SortKey) : Bool :=
    let sword := if k.startField == 0 && k.startChar == 0 then 1 else k.startField + 1
    let eword := match k.endField with
      | some e => e + 1
      | none => 0
    !globalOnly && numeric k && (eword == 0 || sword < eword)
  let perKey := keys.zipIdx.flatMap fun (k, i) =>
    let n := toString (i + 1)
    let zeroWidth := !(k.startField == 0 && k.startChar == 0) &&
      (match k.endField with
        | some e => e < k.startField
        | none => false)
    let lineOffset := k.endField == some 0 && k.endChar != 0
    let blanks := !zeroWidth && !globalOnly && o.tab.isNone && !lineOffset &&
      ((!k.skipStart && !(numeric k || k.month)) || (!k.skipStart && k.startChar != 0) ||
        (!k.skipEnd && k.endChar != 0))
    (if zeroWidth then ["key " ++ n ++ " has zero width and will be ignored"] else []) ++
    (if blanks then ["leading blanks are significant in key " ++ n ++ "; consider also specifying 'b'"] else []) ++
    (if spans k then ["key " ++ n ++ " is numeric and spans multiple fields"] else [])
  let anySpan := keys.any spans
  let generalSpan := keys.any fun k => spans k && k.general
  let separator := if anySpan && o.tab == some 46 then
      ["field separator ‘.’ is treated as a decimal point in numbers"]
    else if anySpan && o.tab == some 45 then ["field separator ‘-’ is treated as a minus sign in numbers"]
    else if generalSpan && o.tab == some 43 then ["field separator ‘+’ is treated as a plus sign in numbers"]
    else []
  let point := if keys.any numeric && !(anySpan && o.tab == some 46) then
      [(if o.tab == some 46 then "" else "note ") ++ "numbers use ‘.’ as a decimal point in this locale"]
    else []
  let unused := keys.foldl (fun (u : SortKey) k =>
    { u with ignore := if u.ignore == k.ignore then .keepAll else u.ignore,
             fold := u.fold && !k.fold, skipStart := u.skipStart && !k.skipStart,
             skipEnd := u.skipEnd && !k.skipEnd, month := u.month && !k.month,
             numeric := u.numeric && !k.numeric, general := u.general && !k.general,
             human := u.human && !k.human, random := u.random && !k.random,
             version := u.version && !k.version, reverse := u.reverse && !k.reverse }) o.global
  let ignored := if !unused.plain || (unused.reverse && tiesKept && !keys.isEmpty) then
      let opts := { unused with reverse := unused.reverse && tiesKept }.letters
      [if opts.length == 1 then "option '-" ++ opts ++ "' is ignored" else "options '-" ++ opts ++ "' are ignored"]
    else []
  let lastResort := if unused.reverse && !tiesKept && !keys.isEmpty then
      ["option '-r' only applies to last-resort comparison"]
    else []
  ["text ordering performed using ‘C.UTF-8’ sorting rules"] ++ perKey ++ separator ++ point ++
    ignored ++ lastResort

/-- `sort`: writes the lines of its files in order, or checks that they are. -/
def sortUtility (args : List String) : Sh Unit := do
  match parseOptsUntil sortSpec args with
  | (_, some e) => usageError "sort" e 2
  | (p, none) =>
  match p.opts.foldlM SortOptions.take {} with
  | .error f =>
    if f.wrongValue then usageError "sort" f.message 1
    else
      gnuSay "sort" f.message
      setStatus 2
  | .ok o =>
    match (o.order.keys.find? (·.conflicting)) with
    | some k =>
      gnuSay "sort" ("options '-" ++ { k with skipStart := false, skipEnd := false, reverse := false }.letters ++ "' are incompatible")
      setStatus 2
    | none =>
    if o.debug then
      if o.check != .none ∨ o.output.isSome then
        let letter := if o.check == .quiet then "C" else if o.check == .diagnose then "c" else "o"
        gnuSay "sort" ("options '-" ++ letter ++ " --debug' are incompatible")
        setStatus 2
        return
      for note in o.debugNotes do gnuSay "sort" note
    if o.check != .none then
      if let some extra := p.operands.drop 1 |>.head? then
        gnuSay "sort" ("extra operand " ++ gnuQuote extra ++ " not allowed with -" ++
          (if o.check == .quiet then "C" else "c"))
        setStatus 2
        return
      if o.output.isSome then
        gnuSay "sort" ("options '-" ++ (if o.check == .quiet then "C" else "c") ++ "o' are incompatible")
        setStatus 2
        return
    let eol : UInt8 := if o.zero then 0 else 10
    let order := o.order
    let mut inputs : List (String × List SortLine) := []
    for name in inputNames p do
      match ← readOperand name with
      | .ok bs => inputs := inputs ++ [(name, (splitAtByte eol bs).map order.line)]
      | .error .isDir =>
        gnuSay "sort" ("read failed: " ++ shellQuoted name ++ ": " ++ readError .isDir)
        setStatus 2
        return
      | .error e =>
        gnuSay "sort" ("cannot read: " ++ shellQuoted name ++ ": " ++ readError e)
        setStatus 2
        return
    if o.check != .none then
      let (name, ls) := inputs.headD ("-", [])
      match order.disorder o.unique ls with
      | some (i, l) =>
        if o.check == .diagnose then
          emit 2 (Text.Utf8.encode ("sort: " ++ name ++ ":" ++ toString i ++ ": disorder: ") ++ l.bytes ++ [10])
        setStatus 1
      | none => setStatus 0
      return
    let sorted := if o.merge then (inputs.map (·.2)).foldr order.merge []
      else (inputs.flatMap (·.2)).mergeSort fun a b => order.compareLines a b != .gt
    let sorted := if o.unique then order.firsts sorted else sorted
    let out := if o.debug ∧ o.output.isNone then sorted.flatMap fun l => order.debugLines l.bytes
      else sorted.flatMap fun l => l.bytes ++ [eol]
    match o.output with
    | some f =>
      match ← writeNamed f out with
      | none => setStatus 0
      | some e =>
        gnuSay "sort" ("open failed: " ++ shellQuoted f ++ ": " ++ e.text)
        setStatus 2
    | none =>
      emit 1 out
      setStatus 0

end SqlMigration.Shell
