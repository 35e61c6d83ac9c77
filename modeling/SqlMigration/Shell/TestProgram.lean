import SqlMigration.Shell.BashTest
import SqlMigration.Shell.Format

/-!
# The `test` program

The `test` and `[` found on the search path, as opposed to the shell's own commands.
-/

namespace SqlMigration.Shell

def programBinaryOps : List String :=
  ["=", "==", "!=", "-nt", "-ot", "-ef", "-eq", "-ne", "-lt", "-le", "-gt", "-ge"]

/-- Whether a word is a unary operator of the `test` program's grammar: a dash and one of its
letters (of which `-a` and `-o` are then rejected). -/
def programUnaryOp (w : String) : Bool :=
  match w.toList with
  | '-' :: c :: _ => "abcdefghknoprstuwxzGLOSN".toList.contains c
  | _ => false

/-- An integer operand: blanks, a sign, decimal digits of any number, and blanks; or the
message naming it. -/
def programNumber (s : String) : Except String Int :=
  let blank (c : Char) : Bool := c = ' ' ∨ c = '\t'
  let cs := s.toList.dropWhile blank
  let (neg, cs) := match cs with
    | '-' :: r => (true, r)
    | '+' :: r => (false, r)
    | r => (false, r)
  let ds := cs.takeWhile Char.isDigit
  if ds.isEmpty ∨ ¬ (cs.drop ds.length).all blank then .error ("invalid integer " ++ localeQuote s)
  else
    let v : Int := (ds.foldl (fun a c => a * 10 + (c.toNat - 48)) 0 : Nat)
    .ok (if neg then -v else v)

section
variable (w : TestWorld) (ws : Array String) (after : Option String)

def programBeyond {α : Type} : TestRead α :=
  throw ("missing argument after " ++ localeQuote (testWord ws (ws.size - 1)))

def programAdvance (need : Bool) : TestRead Unit := do
  let p := (← get) + 1
  set p
  if need ∧ p ≥ ws.size then programBeyond ws

def programOne : TestRead Bool := do
  let p ← get
  set (p + 1)
  return ¬ (testWord ws p).isEmpty

/-- A binary operator after the word here, or after `-l` and its word (`lengthLeft`); its right
operand may also be `-l` and a word. -/
def programBinary (lengthLeft : Bool) : TestRead Bool := do
  if lengthLeft then programAdvance ws false
  let op := (← get) + 1
  let lengthRight := op + 2 < ws.size ∧ testWord ws (op + 1) = "-l"
  if lengthRight then programAdvance ws false
  let name := testWord ws op
  let value (k : Nat) (isLength : Bool) : TestRead Int :=
    if isLength then pure (testWord ws k).utf8ByteSize
    else match programNumber (testWord ws k) with
      | .ok v => pure v
      | .error m => throw m
  if ["-lt", "-le", "-gt", "-ge", "-eq", "-ne"].contains name then
    let l ← value (op - 1) lengthLeft
    let r ← value (if lengthRight then op + 2 else op + 1) lengthRight
    modify (· + 3)
    return match name with
      | "-lt" => decide (l < r) | "-le" => decide (l ≤ r) | "-gt" => decide (l > r)
      | "-ge" => decide (l ≥ r) | "-eq" => l == r | _ => l != r
  else if name = "-nt" ∨ name = "-ot" ∨ name = "-ef" then
    modify (· + 3)
    if lengthLeft ∨ lengthRight then throw (name ++ " does not accept -l")
    let a := testWord ws (op - 1)
    let b := testWord ws (op + 1)
    return match name with
      | "-nt" => (w.probe a).isSome && (w.probe b).isNone
      | "-ot" => (w.probe a).isNone && (w.probe b).isSome
      | _ => w.sameFile a b
  else if name.startsWith "-" then throw (localeQuote name ++ ": unknown binary operator")
  else
    let p ← get
    let same := testWord ws p == testWord ws (p + 2)
    modify (· + 3)
    return if name = "!=" then !same else same

def programUnary : TestRead Bool := do
  let p ← get
  let op := testWord ws p
  if op = "-a" ∨ op = "-o" ∨ ¬ programUnaryOp op then
    throw (localeQuote op ++ ": unary operator expected")
  programAdvance ws true
  set (p + 2)
  let arg := testWord ws (p + 1)
  if op = "-t" then
    match programNumber arg with
    | .ok _ => return false
    | .error m => throw m
  return match op with
    | "-e" | "-r" | "-w" | "-O" | "-G" => (w.probe arg).isSome
    | "-x" | "-d" => w.probe arg == some .dir
    | "-f" => w.probe.isFile arg
    | "-s" =>
      match w.probe arg with
      | some .dir => true
      | some (.file bs) => ¬ bs.isEmpty
      | none => false
    | "-n" => ¬ arg.isEmpty
    | "-z" => arg.isEmpty
    | _ => false

def programTwo : TestRead Bool := do
  let a := testWord ws (← get)
  if a = "!" then
    programAdvance ws false
    return !(← programOne ws)
  else if a.utf8ByteSize = 2 ∧ a.startsWith "-" then
    if programUnaryOp a then programUnary w ws
    else throw (localeQuote a ++ ": unary operator expected")
  else programBeyond ws

mutual

def programThree : Nat → TestRead Bool
  | 0 => programBeyond ws
  | n + 1 => do
    let p ← get
    let mid := testWord ws (p + 1)
    if programBinaryOps.contains mid then programBinary w ws false
    else if testWord ws p = "!" then
      programAdvance ws true
      return !(← programTwo w ws)
    else if testWord ws p = "(" ∧ testWord ws (p + 2) = ")" then
      programAdvance ws false
      let v ← programOne ws
      programAdvance ws false
      return v
    else if mid = "-a" ∨ mid = "-o" then programExpr n
    else throw (localeQuote mid ++ ": binary operator expected")

def programPosix : Nat → Nat → TestRead Bool
  | 0, _ => programBeyond ws
  | n + 1, count => do
    let p ← get
    match count with
    | 1 => programOne ws
    | 2 => programTwo w ws
    | 3 => programThree n
    | 4 =>
      if testWord ws p = "!" then
        programAdvance ws true
        return !(← programThree n)
      else if testWord ws p = "(" ∧ testWord ws (p + 3) = ")" then
        programAdvance ws false
        let v ← programTwo w ws
        programAdvance ws false
        return v
      else programExpr n
    | _ => programExpr n

def programExpr : Nat → TestRead Bool
  | 0 => programBeyond ws
  | n + 1 => do
    if (← get) ≥ ws.size then programBeyond ws
    programOr n false

def programOr : Nat → Bool → TestRead Bool
  | 0, _ => programBeyond ws
  | n + 1, acc => do
    let v := acc || (← programAnd n true)
    let p ← get
    if p < ws.size ∧ testWord ws p = "-o" then
      programAdvance ws false
      programOr n v
    else return v

def programAnd : Nat → Bool → TestRead Bool
  | 0, _ => programBeyond ws
  | n + 1, acc => do
    let v := (← programTerm n) && acc
    let p ← get
    if p < ws.size ∧ testWord ws p = "-a" then
      programAdvance ws false
      programAnd n v
    else return v

def programTerm : Nat → TestRead Bool
  | 0 => programBeyond ws
  | n + 1 => do
    let p ← get
    let bangs := ((ws.toList.drop p).takeWhile (· == "!")).length
    if bangs > 0 ∧ p + bangs ≥ ws.size then programBeyond ws
    set (p + bangs)
    let p := p + bangs
    if p ≥ ws.size then programBeyond ws
    let word := testWord ws p
    let v ← if word = "(" then do
        programAdvance ws true
        let p ← get
        let inside := ((ws.toList.drop (p + 1)).take 4).takeWhile (· ≠ ")")
        let count := if inside.length = 4 then ws.size - p else inside.length + 1
        let v ← programPosix n count
        let q ← get
        let closing := if q < ws.size then some (testWord ws q) else if q = ws.size then after else none
        match closing with
        | none => throw (localeQuote ")" ++ " expected")
        | some c =>
          if c ≠ ")" then throw (localeQuote ")" ++ " expected, found " ++ localeQuote c)
          programAdvance ws false
          pure v
      else if 4 ≤ ws.size - p ∧ word = "-l" ∧ programBinaryOps.contains (testWord ws (p + 2)) then
        programBinary w ws true
      else if 3 ≤ ws.size - p ∧ programBinaryOps.contains (testWord ws (p + 1)) then
        programBinary w ws false
      else if word.utf8ByteSize = 2 ∧ word.startsWith "-" then
        if programUnaryOp word then programUnary w ws
        else throw (localeQuote word ++ ": unary operator expected")
      else do
        programAdvance ws false
        pure ¬ word.isEmpty
    return if bangs % 2 = 1 then !v else v

end

end

/-- Evaluates the `test` program (`bracket` for `[`, whose last word must be `]`): the status, 0
when the expression holds and 1 when not, or the message of a syntax error. -/
def programTest (w : TestWorld) (bracket : Bool) (args : List String) : Except String Nat := do
  if bracket ∧ args.getLast? ≠ some "]" then throw ("missing " ++ localeQuote "]")
  let ws := (if bracket then args.dropLast else args).toArray
  let after := if bracket then some "]" else none
  if ws.isEmpty then return 1
  match (programPosix w ws after (4 * ws.size + 8) ws.size).run 0 with
  | .error m => throw m
  | .ok (v, p) =>
    if p ≠ ws.size then throw ("extra argument " ++ localeQuote (testWord ws p))
    return if v then 0 else 1

end SqlMigration.Shell
