/-!
# Version order

The order of names that hold version numbers, as `sort -V` and `ls -v` use it: `a2` before
`a10`, `1.9` before `1.10`.

A name is read as runs of non-digits and runs of digits. Runs of non-digits are compared byte
by byte, where a letter comes before any other byte, a `~` before everything (even the end of
the run), and the end of the run before a letter; runs of digits are compared as numbers. A
name's suffix of the form `(\.[A-Za-z~][A-Za-z0-9~]*)*` at its end is left out for a first
comparison, and only when that finds no difference are the whole names compared. Before all
of that, the empty name comes first, then `.`, then `..`, then other names that start with a
dot, then the rest.
-/

namespace SqlMigration.Text

def isDigitByte (b : UInt8) : Bool := 48 ≤ b && b ≤ 57

def isLetterByte (b : UInt8) : Bool := (65 ≤ b && b ≤ 90) || (97 ≤ b && b ≤ 122)

/-- The weight of a byte of a run of non-digits, or of its end (`none`): the end is -1, a `~`
is -2, a digit 0, a letter its own value, any other byte its value past all letters. -/
def versionWeight : Option UInt8 → Int
  | none => -1
  | some b =>
    if isDigitByte b then 0
    else if isLetterByte b then b.toNat
    else if b == 126 then -2
    else b.toNat + 256

/-- The length of a name without its suffix: the longest end of the form
`(\.[A-Za-z~][A-Za-z0-9~]*)*`. -/
def versionStemLength (s : List UInt8) : Nat :=
  go (2 * s.length + 2) s 0 0
where
  /-- Takes one byte into the stem at `i`, then passes over the stretches of suffix after it. -/
  go : Nat → List UInt8 → Nat → Nat → Nat
    | 0, _, _, stem => stem
    | _ + 1, [], _, stem => stem
    | k + 1, _ :: rest, i, _ => skip k rest (i + 1) (i + 1)
  /-- Passes over stretches of suffix, each a dot, a letter or `~`, and letters, digits and `~`;
  they belong to the stem unless nothing follows them. -/
  skip : Nat → List UInt8 → Nat → Nat → Nat
    | 0, _, _, stem => stem
    | k + 1, rest, i, stem =>
      match rest with
      | 46 :: c :: more =>
        if isLetterByte c || c == 126 then
          let body := more.takeWhile fun b => isLetterByte b || isDigitByte b || b == 126
          skip k (more.drop body.length) (i + 2 + body.length) stem
        else go k rest i stem
      | _ => go k rest i stem

/-- Compares two names in version order, neither of them cut: the sign of the answer is the
order. -/
def versionRuns : Nat → List UInt8 → List UInt8 → Int
  | 0, _, _ => 0
  | fuel + 1, a, b =>
    if a.isEmpty && b.isEmpty then 0
    else
      match nonDigits (a.length + b.length + 1) a b with
      | .error d => d
      | .ok (a, b) =>
        let a := a.dropWhile (· == 48)
        let b := b.dropWhile (· == 48)
        let da := a.takeWhile isDigitByte
        let db := b.takeWhile isDigitByte
        if da.length > db.length then 1
        else if da.length < db.length then -1
        else
          let firstDiff := ((da.zip db).find? fun (x, y) => x != y).map fun (x, y) =>
            (x.toNat : Int) - y.toNat
          match firstDiff with
          | some d => d
          | none => versionRuns fuel (a.drop da.length) (b.drop db.length)
where
  /-- Compares the runs of non-digits at the front of both names by their weights, answering
  the difference or what is left of both. -/
  nonDigits : Nat → List UInt8 → List UInt8 → Except Int (List UInt8 × List UInt8)
    | 0, a, b => .ok (a, b)
    | k + 1, a, b =>
      let aIn := a.head?.any (!isDigitByte ·)
      let bIn := b.head?.any (!isDigitByte ·)
      if aIn || bIn then
        let wa := versionWeight a.head?
        let wb := versionWeight b.head?
        if wa != wb then .error (wa - wb)
        else nonDigits k (a.drop 1) (b.drop 1)
      else .ok (a, b)

/-- The order of two names in version order. -/
def versionOrder (a b : List UInt8) : Ordering :=
  let sign (d : Int) : Ordering := if d < 0 then .lt else if d > 0 then .gt else .eq
  match a, b with
  | [], [] => .eq
  | [], _ => .lt
  | _, [] => .gt
  | 46 :: a', 46 :: b' =>
    -- "." first, then "..", then other names with a leading dot
    if a'.isEmpty then (if b'.isEmpty then .eq else .lt)
    else if b'.isEmpty then .gt
    else if a' == [46] then (if b' == [46] then .eq else .lt)
    else if b' == [46] then .gt
    else stems a b sign
  | 46 :: _, _ => .lt
  | _, 46 :: _ => .gt
  | _, _ => stems a b sign
where
  /-- Compares the stems, and the whole names when the stems tie. -/
  stems (a b : List UInt8) (sign : Int → Ordering) : Ordering :=
    let la := versionStemLength a
    let lb := versionStemLength b
    let fuel := a.length + b.length + 2
    let first := versionRuns fuel (a.take la) (b.take lb)
    if first != 0 || (la == a.length && lb == b.length) then sign first
    else sign (versionRuns fuel a b)

end SqlMigration.Text
