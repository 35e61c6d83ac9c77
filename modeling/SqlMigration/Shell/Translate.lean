import SqlMigration.Shell.Utility

/-!
# Translating bytes

`tr` copies its standard input to its standard output byte by byte: it translates the bytes of
a first set to those of a second, deletes (`-d`) the bytes of a set, or squeezes (`-s`) each run
of one byte of a set to a single byte; `-c` takes the complement of the first set.
-/

-- powers and sums of numbers are read with the core instances, whatever else is imported
attribute [local instance (high)] instPowNat Zero.ofOfNat0

namespace SqlMigration.Shell

/-- One element of a `tr` set. -/
inductive TrElement where
  /-- A byte standing for itself. -/
  | byte (b : Nat)
  /-- The bytes from `lo` to `hi`. -/
  | range (lo hi : Nat)
  /-- The members of a named class. -/
  | cls (name : String)
  /-- The byte of `[=b=]`. -/
  | equiv (b : Nat)
  /-- The byte `b` `n` times; `n = 0` is `[c*]`, as many as needed. -/
  | repeated (b n : Nat)
  deriving BEq, Repr

def trClassNames : List String :=
  ["alnum", "alpha", "blank", "cntrl", "digit", "graph", "lower", "print", "punct", "space",
    "upper", "xdigit"]

def trClassBytes (name : String) : List Nat :=
  (List.range 128).filter fun b => inClass name (Char.ofNat b)

def TrElement.size : TrElement → Nat
  | .byte _ | .equiv _ => 1
  | .range lo hi => hi + 1 - lo
  | .cls name => (trClassBytes name).length
  | .repeated _ n => n

/-- A byte as a message shows it: itself when printable, else a backslash and three octal
digits. -/
def trShownByte (b : Nat) : String :=
  if 32 ≤ b ∧ b < 127 then String.singleton (Char.ofNat b)
  else "\\" ++ String.ofList [Char.ofNat (48 + b / 64), Char.ofNat (48 + b / 8 % 8),
    Char.ofNat (48 + b % 8)]

def trShownBytes (bs : List Nat) : String :=
  String.join <| bs.map fun b =>
    match b with
    | 92 => "\\\\" | 7 => "\\a" | 8 => "\\b" | 12 => "\\f" | 10 => "\\n" | 13 => "\\r"
    | 9 => "\\t" | 11 => "\\v"
    | _ => trShownByte b

def octalDigit? (b : UInt8) : Option Nat :=
  if 48 ≤ b ∧ b ≤ 55 then some (b.toNat - 48) else none

/-- An octal escape after its backslash, from its first digit `d1` on: its value, the bytes
after it, and the warning when a third digit would take the value past 255 and is left as a
byte of its own. -/
def trOctal (c : UInt8) (d1 : Nat) : List UInt8 → Nat × List UInt8 × Option String
  | c2 :: rest2 =>
    match octalDigit? c2 with
    | none => (d1, c2 :: rest2, none)
    | some d2 =>
      let v := 8 * d1 + d2
      match rest2 with
      | c3 :: rest3 =>
        match octalDigit? c3 with
        | none => (v, rest2, none)
        | some d3 =>
          if 8 * v + d3 < 256 then (8 * v + d3, rest3, none)
          else
            let digit (x : UInt8) : String := String.singleton (Char.ofNat x.toNat)
            (v, rest2, some ("warning: the ambiguous octal escape \\" ++ digit c ++ digit c2 ++
              digit c3 ++ " is being\n\tinterpreted as the 2-byte sequence \\0" ++ digit c ++
              digit c2 ++ ", " ++ digit c3))
      | [] => (v, [], none)
  | [] => (d1, [], none)

/-- The bytes of an operand with its escapes read, each with whether it was escaped, and the
warnings met on the way. -/
def trUnescape (bs : List UInt8) : List (Nat × Bool) × List String :=
  go (bs.length + 1) bs
where
  /-- Reads the escapes of `bs`, with fuel for each byte. -/
  go : Nat → List UInt8 → List (Nat × Bool) × List String
    | 0, _ => ([], [])
    | _ + 1, [] => ([], [])
    | _ + 1, [92] =>
      ([(92, false)], ["warning: an unescaped backslash at end of string is not portable"])
    | k + 1, 92 :: c :: rest =>
      match octalDigit? c with
      | some d1 =>
        let (v, after, w) := trOctal c d1 rest
        let (out, ws) := go k after
        ((v, true) :: out, w.toList ++ ws)
      | none =>
        let v : Nat := match c with
          | 97 => 7 | 98 => 8 | 102 => 12 | 110 => 10 | 114 => 13 | 116 => 9 | 118 => 11
          | _ => c.toNat
        let (out, ws) := go k rest
        ((v, true) :: out, ws)
    | k + 1, b :: rest =>
      let (out, ws) := go k rest
      ((b.toNat, false) :: out, ws)

def trIsAt (es : Array (Nat × Bool)) (i b : Nat) : Bool :=
  match es[i]? with
  | some (c, false) => c == b
  | _ => false

/-- The position of the first unescaped `d]` at or after `i`, for the end of `[:...:]` or
`[=...=]`. -/
def trClosing (es : Array (Nat × Bool)) (d : Nat) (i : Nat) : Option Nat :=
  ((List.range (es.size - i)).map (· + i)).find? fun j => trIsAt es j d && trIsAt es (j + 1) 93

/-- Whether a `*`, digits and an unescaped `]` follow at `i`: what a `[c*n]` repeat may look
like after a `[:` or `[=` that does not name a class. -/
def trStarDigitsBracket (es : Array (Nat × Bool)) (i : Nat) : Bool :=
  trIsAt es i 42 &&
    match ((List.range (es.size - (i + 1))).map (· + i + 1)).find? fun j =>
        match es[j]? with
        | some (c, false) => ¬ (48 ≤ c ∧ c ≤ 57)
        | _ => true with
    | some j => trIsAt es j 93
    | none => false

/-- The count of a repeat, `[c*n]`: decimal digits, or octal ones after a leading zero, below
the largest size of memory. -/
def trRepeatCount? (ds : List Nat) : Option Nat :=
  let base := if ds.head? == some 48 then 8 else 10
  if ds.all (fun d => 48 ≤ d ∧ d < 48 + base) then
    let n := ds.foldl (fun a d => a * base + (d - 48)) 0
    if n < 18446744073709551615 then some n else none
  else none

/-- What a `[` at `i` may open as a repeat `[c*n]`: `none` when it is not one, else the error or
the element and the position after it. -/
def trRepeatAt (es : Array (Nat × Bool)) (i : Nat) : Option (Except String (TrElement × Nat)) :=
  if ¬ trIsAt es (i + 2) 42 then none
  else
    let after := (List.range (es.size - (i + 3))).map (· + i + 3)
    let close := after.find? fun j => match es[j]? with
      | some (93, false) => true
      | _ => false
    let stops := after.find? fun j => match es[j]? with
      | some (_, true) => true
      | _ => false
    match close with
    | none => none
    | some j =>
      if stops.any (· < j) then none
      else
        let c := (es[i + 1]?.map (·.1)).getD 0
        let ds := ((List.range (j - (i + 3))).filterMap fun k => es[i + 3 + k]?).map (·.1)
        if ds.isEmpty then some (.ok (.repeated c 0, j + 1))
        else match trRepeatCount? ds with
          | some n => some (.ok (.repeated c n, j + 1))
          | none => some (.error ("invalid repeat count " ++ localeQuote (trShownBytes ds) ++
              " in [c*n] construct"))

def trElements (es : Array (Nat × Bool)) : Except String (List TrElement) :=
  go (es.size + 1) 0 []
where
  /-- The elements from position `i` on, after those in `acc` (reversed). -/
  go : Nat → Nat → List TrElement → Except String (List TrElement)
    | 0, _, acc => .ok acc.reverse
    | fuel + 1, i, acc =>
      if i + 2 ≥ es.size then
        .ok (acc.reverse ++ ((List.range (es.size - i)).filterMap fun k =>
          es[i + k]?.map fun (b, _) => TrElement.byte b))
      else
        let b := (es[i]?.map (·.1)).getD 0
        let plain : Except String (List TrElement) :=
          if trIsAt es (i + 1) 45 then
            let hi := (es[i + 2]?.map (·.1)).getD 0
            if hi < b then
              .error ("range-endpoints of '" ++ trShownByte b ++ "-" ++ trShownByte hi ++
                "' are in reverse collating sequence order")
            else go fuel (i + 3) (.range b hi :: acc)
          else go fuel (i + 1) (.byte b :: acc)
        let repeatOr : Except String (List TrElement) :=
          match trRepeatAt es i with
          | some (.ok (e, j)) => go fuel j (e :: acc)
          | some (.error m) => .error m
          | none => plain
        if ¬ trIsAt es i 91 then plain
        else
          let kind := (es[i + 1]?.map (·.1)).getD 0
          if ¬ (trIsAt es (i + 1) 58 || trIsAt es (i + 1) 61) then repeatOr
          else
            match trClosing es kind (i + 2) with
            | none => repeatOr
            | some j =>
              let body := ((List.range (j - (i + 2))).filterMap fun k => es[i + 2 + k]?).map (·.1)
              if body.isEmpty then
                .error (if kind == 58 then "missing character class name '[::]'"
                  else "missing equivalence class character '[==]'")
              else if kind == 58 then
                let name := String.ofList (body.map Char.ofNat)
                if trClassNames.contains name then go fuel (j + 2) (.cls name :: acc)
                else if trStarDigitsBracket es (i + 2) then repeatOr
                else .error ("invalid character class " ++ localeQuote (trShownBytes body))
              else
                match body with
                | [e] => go fuel (j + 2) (.equiv e :: acc)
                | _ =>
                  if trStarDigitsBracket es (i + 2) then repeatOr
                  else .error (trShownBytes body ++
                    ": equivalence class operand must be a single character")

/-- A run of bytes of a set as it is walked: the bytes left of one element, with the case of
`[:upper:]` (`some true`) or `[:lower:]` (`some false`), or copies of one byte. -/
inductive TrRun where
  | listed (case : Option Bool) (bytes : List Nat)
  | copies (b n : Nat)
  deriving BEq, Repr

def TrElement.run : TrElement → TrRun
  | .byte b | .equiv b => .listed none [b]
  | .range lo hi => .listed none ((List.range (hi + 1 - lo)).map (· + lo))
  | .cls name =>
    .listed (if name == "upper" then some true else if name == "lower" then some false else none)
      (trClassBytes name)
  | .repeated b n => .copies b n

/-- The next byte of a set, with the case of the element it comes from, whether that element
is finished with it, and the runs left. -/
def trNext : List TrRun → Option (Nat × Option Bool × Bool × List TrRun)
  | [] => none
  | .listed _ [] :: rest => trNext rest
  | .copies _ 0 :: rest => trNext rest
  | .listed c [b] :: rest => some (b, c, true, rest)
  | .listed c (b :: b2 :: bs) :: rest => some (b, c, false, .listed c (b2 :: bs) :: rest)
  | .copies b 1 :: rest => some (b, none, true, rest)
  | .copies b (n + 2) :: rest => some (b, none, false, .copies b (n + 1) :: rest)

def trBytes (runs : List TrRun) : List Nat :=
  runs.flatMap fun
    | .listed _ bs => bs
    | .copies b n => List.replicate n b

/-- Whether a case class of the second set meets one of the first that starts with it: walks
both sets together, skipping each pair of case classes whole. -/
def trCaseAligned : Nat → List TrRun → List TrRun → Bool → Bool → Bool
  | 0, _, _, _, _ => true
  | fuel + 1, s1, s2, new1, new2 =>
    let r1 := trNext s1
    let r2 := trNext s2
    let case1 := r1.bind (·.2.1)
    let case2 := r2.bind (·.2.1)
    if new2 && case2.isSome && ¬ (new1 && case1.isSome) then false
    else
      match r1, r2 with
      | some (_, _, done1, rest1), some (_, _, done2, rest2) =>
        if case2.isSome then trCaseAligned fuel (rest1.drop 1) (rest2.drop 1) true true
        else trCaseAligned fuel rest1 rest2 done1 done2
      | _, _ => true

abbrev ByteMap := Array Nat

def ByteMap.identity : ByteMap := (List.range 256).toArray

/-- The map of a translation without `-c`: the bytes of the first set to those of the second,
in order, and a case class against the other case class as a change of case. -/
def trMap : Nat → List TrRun → List TrRun → ByteMap → ByteMap
  | 0, _, _, m => m
  | fuel + 1, s1, s2, m =>
    let r1 := trNext s1
    let r2 := trNext s2
    let case1 := r1.bind (·.2.1)
    let case2 := r2.bind (·.2.1)
    let skip (rest1 rest2 : List TrRun) : List TrRun × List TrRun :=
      if case2.isSome then (rest1.drop 1, rest2.drop 1) else (rest1, rest2)
    match r1, r2 with
    | some (c1, _, _, rest1), some (c2, _, _, rest2) =>
      let m :=
        if case1 == some false && case2 == some true then
          (trClassBytes "lower").foldl (fun m b => m.set! b (b - 32)) m
        else if case1 == some true && case2 == some false then
          (trClassBytes "upper").foldl (fun m b => m.set! b (b + 32)) m
        else m.set! c1 c2
      let (rest1, rest2) := skip rest1 rest2
      trMap fuel rest1 rest2 m
    | _, _ => m

/-- The map of a translation with `-c`: every byte outside the first set, in increasing order,
to the next byte of the second, as long as it lasts. -/
def trComplementMap (inFirst : Nat → Bool) (s2 : List Nat) : ByteMap :=
  let outside := (List.range 256).filter fun b => ¬ inFirst b
  (outside.zip s2).foldl (fun m (b, c) => m.set! b c) ByteMap.identity

def squeezeBytes (keep : UInt8 → Bool) : List UInt8 → List UInt8
  | a :: b :: rest =>
    if a = b ∧ keep a then squeezeBytes keep (b :: rest) else a :: squeezeBytes keep (b :: rest)
  | bs => bs

/-- What `tr` does to its input, once its sets are read and checked. -/
inductive TrAction where
  /-- Delete the bytes `drop` accepts, then squeeze those `squeeze` accepts. -/
  | filter (drop squeeze : Nat → Bool)
  /-- Map each byte, then squeeze those `squeeze` accepts. -/
  | translate (m : ByteMap) (squeeze : Nat → Bool)

def TrAction.apply : TrAction → List UInt8 → List UInt8
  | .filter drop squeeze, bs =>
    squeezeBytes (fun b => squeeze b.toNat) (bs.filter fun b => ¬ drop b.toNat)
  | .translate m squeeze, bs =>
    squeezeBytes (fun b => squeeze b.toNat) (bs.map fun b => (m.getD b.toNat b.toNat).toUInt8)

/-- A set read from its operand: its elements, or the error that ends `tr`, after the
warnings met while reading its escapes. -/
def readTrSet (operand : String) : List String × Except String (List TrElement) :=
  let (es, warnings) := trUnescape operand.toUTF8.toList
  (warnings, trElements es.toArray)

/-- The options of `tr` that shape its action. -/
structure TrMode where
  complement : Bool
  delete : Bool
  squeeze : Bool
  truncate : Bool

def trPlan (o : TrMode) (s1 : List TrElement) (s2? : Option (List TrElement)) :
    Except String TrAction := do
  let translating := s2?.isSome && ¬ o.delete
  if s1.any (fun e => match e with | .repeated _ 0 => true | _ => false) then
    throw "the [c*] repeat construct may not appear in string1"
  let runs1 := s1.map TrElement.run
  let set1 := trBytes runs1
  let inSet1 (b : Nat) : Bool := set1.contains b
  let len1 :=
    if o.complement then 256 - ((List.range 256).filter inSet1).length
    else (s1.map TrElement.size).sum
  match s2? with
  | none =>
    let chosen (b : Nat) : Bool := inSet1 b != o.complement
    if o.delete then return .filter chosen fun _ => false
    else return .filter (fun _ => false) chosen
  | some s2 =>
    let s2 := s2.map fun e => match e with
      | .repeated b n => if n > len1 + 1 then .repeated b (len1 + 1) else e
      | e => e
    let indefinite := s2.filter fun e => match e with | .repeated _ 0 => true | _ => false
    let len2 := (s2.map TrElement.size).sum
    let s2 :=
      if len1 ≥ len2 ∧ indefinite.length == 1 then
        s2.map fun e => match e with
          | .repeated b 0 => .repeated b (len1 - len2)
          | e => e
      else s2
    let len2 := if len1 ≥ len2 ∧ indefinite.length == 1 then len1 else len2
    if indefinite.length > 1 then throw "only one [c*] repeat construct may appear in string2"
    if ¬ translating then
      if indefinite.length > 0 then
        throw "the [c*] construct may appear in string2 only when translating"
      let set2 := trBytes (s2.map TrElement.run)
      return .filter (fun b => inSet1 b != o.complement) (fun b => set2.contains b)
    let classes2 := s2.filterMap fun e => match e with | .cls n => some n | _ => none
    if s2.any (fun e => match e with | .equiv _ => true | _ => false) then
      throw "[=c=] expressions may not appear in string2 when translating"
    if classes2.any (fun n => n != "upper" && n != "lower") then
      throw ("when translating, the only character classes that may appear in\n" ++
        "string2 are 'upper' and 'lower'")
    let runs2 := s2.map TrElement.run
    let fuel := len1 + len2 + 2
    if ¬ o.complement ∧ ¬ classes2.isEmpty ∧ ¬ trCaseAligned fuel runs1 runs2 true true then
      throw "misaligned [:upper:] and/or [:lower:] construct"
    let runs2 ←
      if len1 > len2 ∧ ¬ o.truncate then do
        if len2 == 0 then throw "when not truncating set1, string2 must be non-empty"
        let last : Nat := match s2.getLast? with
          | some (.byte b) | some (.equiv b) | some (.repeated b _) => b
          | some (.range _ hi) => hi
          | some (.cls n) => (trClassBytes n).getLastD 0
          | none => 0
        pure (runs2 ++ [.copies last (len1 - len2)])
      else pure runs2
    let bytes2 := trBytes runs2
    let len2 := bytes2.length
    let hasClass1 := s1.any fun e => match e with | .cls _ => true | _ => false
    if o.complement ∧ hasClass1 ∧
        ¬ (len2 == len1 ∧ bytes2.head?.any fun b => bytes2.all (· == b)) then
      throw ("when translating with complemented character classes,\n" ++
        "string2 must map all characters in the domain to one")
    let m :=
      if o.complement then trComplementMap inSet1 bytes2
      else trMap fuel runs1 runs2 ByteMap.identity
    let squeeze (b : Nat) : Bool := o.squeeze && bytes2.contains b
    return .translate m squeeze

/-- `tr`: translates, deletes or squeezes the bytes of its standard input. -/
def trUtility (args : List String) : Sh Unit :=
  withOpts "tr" { flags := "cdstC".toList, longs := [("complement", 'c'), ("delete", 'd'),
      ("squeeze-repeats", 's'), ("truncate-set1", 't')] } args fun p => do
    let o : TrMode :=
      { complement := p.has 'c' ∨ p.has 'C', delete := p.has 'd', squeeze := p.has 's',
        truncate := p.has 't' }
    let n := p.operands.length
    let least := if o.delete == o.squeeze then 2 else 1
    let most := if !o.delete || o.squeeze then 2 else 1
    if n < least then
      if n == 0 then usageError "tr" "missing operand"
      else
        usageError "tr" ("missing operand after " ++ localeQuote (p.operands.getLastD "") ++ "\n" ++
          (if o.squeeze then "Two strings must be given when both deleting and squeezing repeats."
            else "Two strings must be given when translating."))
      return
    if most < n then
      usageError "tr" ("extra operand " ++ localeQuote (p.operands.getD most "") ++
        (if n == 2 then
          "\nOnly one string may be given when deleting without squeezing repeats." else ""))
      return
    let (w1, r1) := readTrSet (p.operands.headD "")
    for w in w1 do gnuSay "tr" w
    let .ok s1 := r1 | do
      if let .error m := r1 then gnuSay "tr" m
      setStatus 1
    let s2? ← match p.operands with
      | [_, b] =>
        let (w2, r2) := readTrSet b
        for w in w2 do gnuSay "tr" w
        match r2 with
        | .ok s2 => pure (some (some s2))
        | .error m =>
          gnuSay "tr" m
          pure none
      | _ => pure (some none)
    let some s2? := s2? | setStatus 1
    match trPlan o s1 s2? with
    | .error m =>
      gnuSay "tr" m
      setStatus 1
    | .ok action =>
      emit 1 (action.apply (← readRest 0))
      setStatus 0

end SqlMigration.Shell
