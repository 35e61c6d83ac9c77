import SqlMigration.Shell.Test

/-!
# The `test` command of `bash`

`bash` reads the words of `test` and `[` by their number first, and only past four words by a
grammar:
-/

namespace SqlMigration.Shell

/-- What the operators of `test` look at besides their words: the files; whether a variable,
an element of an array or a positional parameter is set; whether a named option is on; and
whether two paths name one file. -/
structure TestWorld where
  probe : Probe
  isSet : String → Bool
  optionOn : String → Bool
  sameFile : String → String → Bool

/-- A reading of the words of `test`: the place of the next word, or the message of a syntax
error. -/
abbrev TestRead := StateT Nat (Except String)

def testWord (ws : Array String) (i : Nat) : String := ws.getD i ""

def bashBinaryOps : List String :=
  ["=", "==", "!=", "<", ">", "-nt", "-ot", "-ef", "-eq", "-ne", "-lt", "-le", "-gt", "-ge"]

def bashUnaryOp (w : String) : Bool :=
  match w.toList with
  | ['-', c] => "abcdefghknoprstuvwxzGLOSNR".toList.contains c
  | _ => false

/-- A decimal number of 64 bits as `bash` reads one: white space before it, a sign, digits, and
then only spaces and tabs. -/
def bashNumber? (s : String) : Option Int :=
  let cs := s.toList.dropWhile fun c => c = ' ' ∨ ('\t' ≤ c ∧ c ≤ '\r')
  let (neg, cs) := match cs with
    | '-' :: r => (true, r)
    | '+' :: r => (false, r)
    | r => (false, r)
  let ds := cs.takeWhile Char.isDigit
  if ds.isEmpty ∨ ¬ (cs.drop ds.length).all (fun c => c = ' ' ∨ c = '\t') then none
  else
    let v : Int := (ds.foldl (fun a c => a * 10 + (c.toNat - 48)) 0 : Nat)
    let v := if neg then -v else v
    if v > 9223372036854775807 ∨ v < -9223372036854775808 then none else some v

def Probe.isFile (probe : Probe) (name : String) : Bool :=
  match probe name with
  | some (.file _) => true
  | _ => false

/-- The outcome of a unary operator on its operand. -/
def bashUnaryOutcome (w : TestWorld) (op arg : String) : Bool :=
  match op with
  | "-a" | "-e" | "-r" | "-w" | "-O" | "-G" => (w.probe arg).isSome
  | "-x" | "-d" => w.probe arg == some .dir
  | "-f" => w.probe.isFile arg
  | "-s" =>
    match w.probe arg with
    | some .dir => true
    | some (.file bs) => ¬ bs.isEmpty
    | none => false
  | "-n" => ¬ arg.isEmpty
  | "-z" => arg.isEmpty
  | "-o" => w.optionOn arg
  | "-v" => w.isSet arg
  | _ => false

/-- The outcome of a binary operator on its operands, or the message for an operand that should
be a number. -/
def bashBinaryOutcome (w : TestWorld) (op a b : String) : Except String Bool :=
  let number (s : String) : Except String Int :=
    match bashNumber? s with
    | some v => .ok v
    | none => .error (s ++ ": integer expression expected")
  let numbers (f : Int → Int → Bool) : Except String Bool := do
    let x ← number a
    let y ← number b
    return f x y
  match op with
  | "=" | "==" => .ok (a == b)
  | "!=" => .ok (a != b)
  | "<" => .ok (decide (a < b))
  | ">" => .ok (decide (b < a))
  | "-nt" => .ok ((w.probe a).isSome && (w.probe b).isNone)
  | "-ot" => .ok ((w.probe a).isNone && (w.probe b).isSome)
  | "-ef" => .ok (w.sameFile a b)
  | "-eq" => numbers (· == ·)
  | "-ne" => numbers (· != ·)
  | "-lt" => numbers fun x y => decide (x < y)
  | "-le" => numbers fun x y => decide (x ≤ y)
  | "-gt" => numbers fun x y => decide (x > y)
  | "-ge" => numbers fun x y => decide (x ≥ y)
  | _ => .ok false

section
variable (w : TestWorld) (ws : Array String) (after : Option String)

def bashTestAdvance (need : Bool) : TestRead Unit := do
  let p := (← get) + 1
  set p
  if need ∧ p ≥ ws.size then throw "argument expected"

def bashTestBinary : TestRead Bool := do
  let p ← get
  set (p + 3)
  match bashBinaryOutcome w (testWord ws (p + 1)) (testWord ws p) (testWord ws (p + 2)) with
  | .ok v => return v
  | .error m => throw m

/-- A unary operator here and its operand; `-t` may stand without one, and takes one only when
it is a number. -/
def bashTestUnary : TestRead Bool := do
  let p ← get
  let op := testWord ws p
  if ¬ bashUnaryOp op then return false
  if op = "-t" then
    bashTestAdvance ws false
    let p ← get
    if p < ws.size ∧ (bashNumber? (testWord ws p)).isSome then bashTestAdvance ws false
    return false
  bashTestAdvance ws true
  set (p + 2)
  return bashUnaryOutcome w op (testWord ws (p + 1))

def bashTestTwo : TestRead Bool := do
  let p ← get
  let a := testWord ws p
  if a = "!" then return (testWord ws (p + 1)).isEmpty
  else if a.utf8ByteSize = 2 ∧ a.startsWith "-" ∧ bashUnaryOp a then bashTestUnary w ws
  else throw (a ++ ": unary operator expected")

def bashTestThree : TestRead Bool := do
  let p ← get
  let mid := testWord ws (p + 1)
  if bashBinaryOps.contains mid then
    let v ← bashTestBinary w ws
    set ws.size
    return v
  else if mid = "-a" ∨ mid = "-o" then
    let x := ¬ (testWord ws p).isEmpty
    let y := ¬ (testWord ws (p + 2)).isEmpty
    set ws.size
    return if mid = "-a" then x && y else x || y
  else if testWord ws p = "!" then
    bashTestAdvance ws true
    let v ← bashTestTwo w ws
    set ws.size
    return !v
  else if (testWord ws p).startsWith "(" ∧ (testWord ws (p + 2)).startsWith ")" then
    set ws.size
    return ¬ (testWord ws (p + 1)).isEmpty
  else throw (mid ++ ": binary operator expected")

mutual

def bashTestExpr : Nat → TestRead Bool
  | 0 => throw "argument expected"
  | n + 1 => do
    if (← get) ≥ ws.size then throw "argument expected"
    bashTestOr n

def bashTestOr : Nat → TestRead Bool
  | 0 => throw "argument expected"
  | n + 1 => do
    let v ← bashTestAnd n
    let p ← get
    if p < ws.size ∧ testWord ws p = "-o" then
      bashTestAdvance ws false
      let v2 ← bashTestOr n
      return v || v2
    return v

def bashTestAnd : Nat → TestRead Bool
  | 0 => throw "argument expected"
  | n + 1 => do
    let v ← bashTestTerm n
    let p ← get
    if p < ws.size ∧ testWord ws p = "-a" then
      bashTestAdvance ws false
      let v2 ← bashTestAnd n
      return v && v2
    return v

/-- A term: negated by the `!` words before it, an expression in parentheses, a comparison,
a unary operator, or a word tested for being non-empty. -/
def bashTestTerm : Nat → TestRead Bool
  | 0 => throw "argument expected"
  | n + 1 => do
    let p ← get
    if p ≥ ws.size then throw "argument expected"
    if testWord ws p = "!" then
      let bangs := ((ws.toList.drop p).takeWhile (· == "!")).length
      if p + bangs ≥ ws.size then throw "argument expected"
      set (p + bangs)
      let v ← bashTestTerm n
      return if bangs % 2 = 1 then !v else v
    else if testWord ws p = "(" then
      bashTestAdvance ws true
      let v ← bashTestExpr n
      let p ← get
      let closing := if p < ws.size then some (testWord ws p) else if p = ws.size then after else none
      match closing with
      | none => throw "`)' expected"
      | some c =>
        if c ≠ ")" then throw ("`)' expected, found " ++ c)
        bashTestAdvance ws false
        return v
    else if p + 3 ≤ ws.size ∧ bashBinaryOps.contains (testWord ws (p + 1)) then bashTestBinary w ws
    else if p + 2 ≤ ws.size ∧ bashUnaryOp (testWord ws p) then bashTestUnary w ws
    else
      bashTestAdvance ws false
      return ¬ (testWord ws p).isEmpty

end

def bashTestWords : TestRead Bool := do
  let fuel := 4 * ws.size + 8
  match ws.size with
  | 0 => return false
  | 1 =>
    set ws.size
    return ¬ (testWord ws 0).isEmpty
  | 2 =>
    let v ← bashTestTwo w ws
    set ws.size
    return v
  | 3 => bashTestThree w ws
  | 4 =>
    if testWord ws 0 = "!" then
      bashTestAdvance ws true
      return !(← bashTestThree w ws)
    else if testWord ws 0 = "(" ∧ testWord ws 3 = ")" then
      bashTestAdvance ws true
      let v ← bashTestTwo w ws
      set ws.size
      return v
    else bashTestExpr w ws after fuel
  | _ => bashTestExpr w ws after fuel

end

/-- Evaluates `bash`'s `test` (`bracket` for `[`, whose last word must be `]`): the status, 0
when the expression holds and 1 when not, or the message of a syntax error. -/
def bashTest (w : TestWorld) (bracket : Bool) (args : List String) : Except String Nat := do
  if bracket ∧ args.getLast? ≠ some "]" then throw "missing `]'"
  let ws := (if bracket then args.dropLast else args).toArray
  let after := if bracket then some "]" else none
  if ws.isEmpty then return 1
  match (bashTestWords w ws after).run 0 with
  | .error m => throw m
  | .ok (v, p) =>
    if p ≠ ws.size then
      if p < ws.size ∧ (testWord ws p).startsWith "-" then
        throw ("syntax error: `" ++ testWord ws p ++ "' unexpected")
      else throw "too many arguments"
    return if v then 0 else 1

end SqlMigration.Shell
