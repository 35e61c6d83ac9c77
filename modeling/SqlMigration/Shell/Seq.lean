import SqlMigration.Shell.Utility

/-!
# seq

`seq` writes the numbers from a first one (1 by default) by an increment (1 by default) for as
long as they do not pass a last one.
-/

namespace SqlMigration.Number

/-! ## Rounded arithmetic and order -/

def Binary64.lessThan (a b : Binary64) : Bool :=
  match a, b with
  | .infinity na, .infinity nb => na && !nb
  | .infinity na, _ => na
  | _, .infinity nb => !nb
  | _, _ =>
    let (p, q) := a.toRational
    let (r, s) := b.toRational
    p * s < r * q

def Binary64.isZero (x : Binary64) : Bool :=
  match x with
  | .finite _ m _ => m = 0
  | _ => false

def Binary64.negative (x : Binary64) : Bool :=
  match x with
  | .finite neg m _ => neg && m ≠ 0
  | .infinity neg => neg
  | .nan => false

def extendedOf (p : Int) (q : Nat) : Binary64 := roundRational extended (p < 0) p.natAbs q

def Binary64.plus (a b : Binary64) : Binary64 :=
  match a, b with
  | .infinity n, _ | _, .infinity n => .infinity n
  | _, _ =>
    let (p, q) := a.toRational
    let (r, s) := b.toRational
    extendedOf (p * s + r * q) (q * s)

def Binary64.scale (k : Nat) (b : Binary64) : Binary64 :=
  match b with
  | .infinity n => if k = 0 then .nan else .infinity n
  | _ =>
    let (p, q) := b.toRational
    extendedOf (k * p) q

end SqlMigration.Number

namespace SqlMigration.Shell

open Number

/-! ## Operands -/

/-- An operand of `seq`: its value in `long double` precision, the width it is written in, and
its number of fraction digits (none when it has no decimal layout). -/
structure SeqOperand where
  value : Binary64
  width : Int := 0
  precision : Option Nat := none

def SeqOperand.one : SeqOperand :=
  { value := roundRational extended false 1 1, width := 1, precision := some 0 }

def isBlankChar (c : Char) : Bool :=
  c = ' ' ∨ c = '\t' ∨ c = '\n' ∨ c = '\x0b' ∨ c = '\x0c' ∨ c = '\r'

/-- The fraction digits and the written width of an operand's text, after its blanks and a
leading `+`: the digits after the point (before an exponent), less what a positive exponent
moves before the point and more what a negative one moves after it. -/
def seqLayout (body : List Char) : Int × Nat :=
  let point := body.idxOf? '.'
  let ePos := (body.idxOf? 'e').orElse fun _ => body.idxOf? 'E'
  let (precision, width) : Nat × Int := match point with
    | none => (0, 0)
    | some i =>
      let fracLen := ((body.drop (i + 1)).takeWhile fun c => c ≠ 'e' ∧ c ≠ 'E').length
      (fracLen, if fracLen = 0 then -1
        else if i = 0 ∨ ¬ (body.getD (i - 1) ' ').isDigit then 1 else 0)
  match ePos with
  | none => (width + body.length, precision)
  | some e =>
    let expText := String.ofList (body.drop (e + 1))
    let exponent : Int := match expText.toList with
      | '-' :: ds => -((String.ofList (ds.takeWhile Char.isDigit)).toNat? |>.getD 0 : Int)
      | '+' :: ds => ((String.ofList (ds.takeWhile Char.isDigit)).toNat? |>.getD 0 : Int)
      | ds => ((String.ofList (ds.takeWhile Char.isDigit)).toNat? |>.getD 0 : Int)
    let precision' : Int := if exponent < 0 then precision - exponent
      else precision - min (precision : Int) exponent
    let width := width - (body.length - e : Nat)
    let (width, shift) : Int × Int :=
      if exponent < 0 then
        let width := match point with
          | some i => if e = i + 1 then width + 1 else width
          | none => width + 1
        (width, -exponent)
      else
        let width := if point.isSome ∧ precision' = 0 ∧ exponent ≠ 0 then width - 1 else width
        (width, -(min (precision : Int) exponent))
    (width + shift + body.length, precision'.toNat)

def seqOperand? (arg : String) : Except String SeqOperand :=
  let bs := Text.Utf8.encode arg
  let r := readFloatArg bs extended
  if r.used = 0 ∨ r.used < bs.length ∨ (r.outOfRange ∧ ¬ r.value.isZero) then
    .error ("invalid floating point argument: " ++ localeQuote arg)
  else if r.value = .nan then
    .error ("invalid " ++ localeQuote "not-a-number" ++ " argument: " ++ localeQuote arg)
  else
    let body := arg.toList.dropWhile fun c => isBlankChar c ∨ c = '+'
    if body.contains 'x' ∨ body.contains 'X' ∨ ¬ r.value.isFinite then .ok { value := r.value }
    else
      let (width, precision) := seqLayout body
      .ok { value := r.value, width, precision := some precision }

/-! ## Formats -/

/-- A `seq` format: the text before its conversion, the conversion, and the text after it. -/
structure SeqFormat where
  prefixText : String := ""
  spec : Spec := {}
  conv : Char := 'g'
  suffixText : String := ""

def plainText (cs : List Char) : String :=
  go cs.length cs
where
  go : Nat → List Char → String
    | 0, _ => ""
    | _ + 1, [] => ""
    | k + 1, '%' :: '%' :: rest => "%" ++ go k rest
    | k + 1, c :: rest => String.singleton c ++ go k rest

def directiveAt (cs : List Char) : Option Nat :=
  go cs.length cs 0
where
  go : Nat → List Char → Nat → Option Nat
    | 0, _, _ => none
    | _ + 1, [], _ => none
    | k + 1, '%' :: '%' :: rest, i => go k rest (i + 2)
    | _ + 1, '%' :: _, i => some i
    | k + 1, _ :: rest, i => go k rest (i + 1)

/-- Reads a `-f` format: exactly one conversion of a floating-point number (`e`, `f`, `g` or
`a`, in either case), with flags, a width and a precision, and perhaps an `L`. -/
def seqFormat? (fmt : String) : Except String SeqFormat := do
  let cs := fmt.toList
  let quoted := localeQuote fmt
  match directiveAt cs with
  | none => throw ("format " ++ quoted ++ " has no % directive")
  | some i =>
    let before := cs.take i
    let after := cs.drop (i + 1)
    let flags := after.takeWhile fun c => "-+#0 '".toList.contains c
    let after := after.drop flags.length
    let widthDigits := after.takeWhile Char.isDigit
    let after := after.drop widthDigits.length
    let (precision, after) : Option Nat × List Char := match after with
      | '.' :: more =>
        let ds := more.takeWhile Char.isDigit
        (some ((String.ofList ds).toNat?.getD 0), more.drop ds.length)
      | _ => (none, after)
    let after := match after with
      | 'L' :: more => more
      | _ => after
    match after with
    | [] => throw ("format " ++ quoted ++ " ends in %")
    | c :: rest =>
      if ¬ "efgaEFGA".toList.contains c then
        throw ("format " ++ quoted ++ " has unknown %" ++ String.singleton c ++ " directive")
      if (directiveAt rest).isSome then throw ("format " ++ quoted ++ " has too many % directives")
      let spec := flags.foldl (fun (s : Spec) f => (s.flag (byte f)).getD s) {}
      return { prefixText := plainText before, conv := c, suffixText := plainText rest,
               spec := { spec with width := (String.ofList widthDigits).toNat?.getD 0, precision } }

def SeqFormat.render (f : SeqFormat) (x : Binary64) : String :=
  f.prefixText ++ String.ofList (Text.Utf8.decodeLossy (formatFloat f.spec f.conv x.negative x true)) ++
    f.suffixText

/-- The format used without `-f`: fixed with the fraction digits of the first number and the
increment, padded with zeros to the widest of the first and last numbers with `-w`; `%g` when
either has no decimal layout. -/
def defaultSeqFormat (first step last : SeqOperand) (equalWidth : Bool) : SeqFormat :=
  match first.precision, step.precision, last.precision with
  | some fp, some sp, some lp =>
    let prec := max fp sp
    if equalWidth then
      let firstWidth : Int := first.width + (prec - fp : Nat) + (if fp = 0 ∧ prec > 0 then 1 else 0)
      let lastWidth : Int := last.width + ((prec : Int) - lp) -
        (if lp > 0 ∧ prec = 0 then 1 else 0) + (if lp = 0 ∧ prec > 0 then 1 else 0)
      { conv := 'f', spec := { zero := true, width := (max firstWidth lastWidth).toNat, precision := some prec } }
    else { conv := 'f', spec := { precision := some prec } }
  | _, _, _ => {}

/-! ## The numbers -/

def seqLimit : Nat := 200000

/-- The numbers of a sequence in `long double` precision, as written: the first, then each
`first + k · step` while it does not pass `last`, and the one past it when it would be written
as `last` is read and differently from the one before it. -/
def seqNumbers (f : SeqFormat) (first step last : Binary64) : List String × Bool :=
  let down := step.negative
  let past (x : Binary64) : Bool := if down then x.lessThan last else last.lessThan x
  if past first then ([], false) else
  go seqLimit 1 first [f.render first]
where
  /-- What is written with the number `x` written last, as `k`-th. -/
  go : Nat → Nat → Binary64 → List String → List String × Bool
    | 0, _, _, acc => (acc.reverse, true)
    | n + 1, k, prev, acc =>
      let down := step.negative
      let past (x : Binary64) : Bool := if down then x.lessThan last else last.lessThan x
      let x := first.plus (step.scale k)
      if past x then
        let shown := f.render x
        let body := (shown.toList.drop f.prefixText.length).take
          (shown.length - f.prefixText.length - f.suffixText.length)
        let back := readFloatArg (Text.Utf8.encode (String.ofList body)) extended
        let readsAsLast := back.used > 0 ∧ back.value = last
        if readsAsLast ∧ shown ≠ f.render prev then ((shown :: acc).reverse, false)
        else (acc.reverse, false)
      else go n (k + 1) x (f.render x :: acc)

def wholeNumbers (a b step : Nat) : List String × Bool :=
  if b < a then ([], false)
  else
    let count := (b - a) / step + 1
    ((List.range (min count seqLimit)).map fun i => toString (a + i * step), count > seqLimit)

def allDigits (s : String) : Bool := ¬ s.isEmpty ∧ s.toList.all Char.isDigit

/-! ## The program -/

/-- `seq`: writes a sequence of numbers. -/
def seqUtility (args : List String) : Sh Unit :=
  let spec : OptSpec :=
    { flags := ['w'], valued := ['f', 's'], inOrder := true,
      longs := [("equal-width", 'w'), ("format", 'f'), ("separator", 's')],
      operandLike := fun a => match a.toList with
        | '-' :: c :: _ => c = '.' ∨ c.isDigit
        | _ => false }
  withOpts "seq" spec args fun p => do
    let ops := p.operands
    if ops.isEmpty then
      usageError "seq" "missing operand"
      return
    if ops.length > 3 then
      usageError "seq" ("extra operand " ++ localeQuote (ops.getD 3 ""))
      return
    let format ← match p.value? 'f' with
      | some fmt => match seqFormat? fmt with
        | .ok f => pure (some f)
        | .error m =>
          gnuSay "seq" m
          setStatus 1
          return
      | none => pure none
    let equalWidth := p.has 'w'
    if format.isSome ∧ equalWidth then
      usageError "seq" "format string may not be specified when printing equal width strings"
      return
    let sep := (p.value? 's').getD "\n"
    let fast := ops.all allDigits ∧ format.isNone ∧ ¬ equalWidth ∧ sep.utf8ByteSize = 1 ∧
      (ops.length < 3 ∨ (0 < (ops.getD 1 "").toNat! ∧ (ops.getD 1 "").toNat! ≤ 200))
    let (items, unending) ← if fast then
        let a := if ops.length = 1 then 1 else (ops.getD 0 "").toNat!
        let step := if ops.length = 3 then (ops.getD 1 "").toNat! else 1
        pure (wholeNumbers a (ops.getLastD "").toNat! step)
      else do
        let mut read : List SeqOperand := []
        for (o, i) in ops.zipIdx do
          match seqOperand? o with
          | .error m =>
            usageError "seq" m
            return
          | .ok x =>
            if i = 1 ∧ ops.length = 3 ∧ x.value.isZero then
              usageError "seq" ("invalid Zero increment value: " ++ localeQuote o)
              return
            read := read ++ [x]
        let (first, step, last) := match read with
          | [l] => (SeqOperand.one, SeqOperand.one, l)
          | [f, l] => (f, SeqOperand.one, l)
          | [f, s, l] => (f, s, l)
          | _ => (SeqOperand.one, SeqOperand.one, SeqOperand.one)
        let f := format.getD (defaultSeqFormat first step last equalWidth)
        if f.spec.tooWide then
          let plain := { f with spec := { f.spec with width := 0, precision := none } }
          if ¬ (seqNumbers plain first.value step.value last.value).1.isEmpty then
            gnuSay "seq" "write error: Value too large for defined data type"
            setStatus 1
            return
        pure (seqNumbers f first.value step.value last.value)
    if items.isEmpty then
      setStatus 0
      return
    let text := Text.Utf8.encode (sep.intercalate items)
    if unending then emitUnending (text ++ Text.Utf8.encode sep)
    else
      emit 1 (text ++ [10])
      setStatus 0

end SqlMigration.Shell
