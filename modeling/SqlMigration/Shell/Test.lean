import SqlMigration.FileTree.Basic

/-!
# The `test` utility

`test` and `[` evaluate an expression given as separate arguments:
-/

namespace SqlMigration.Shell

abbrev Probe := String → Option Entry

def unaryOps : List String :=
  ["-r", "-w", "-x", "-e", "-f", "-d", "-c", "-b", "-p", "-u", "-g", "-k", "-s", "-t", "-z", "-n",
   "-h", "-O", "-G", "-L", "-S"]

def binaryOps : List String :=
  ["=", "!=", "<", ">", "-eq", "-ne", "-ge", "-gt", "-le", "-lt", "-nt", "-ot", "-ef"]

def testNumber (s : String) : Except String Int :=
  let bad : Except String Int := .error ("Illegal number: " ++ s)
  let blank (c : Char) : Bool := c = ' ' ∨ c = '\t' ∨ c = '\n' ∨ c = '\x0b' ∨ c = '\x0c' ∨ c = '\r'
  let cs := s.toList.dropWhile blank
  let (neg, cs) := match cs with
    | '-' :: r => (true, r)
    | '+' :: r => (false, r)
    | r => (false, r)
  let ds := cs.takeWhile Char.isDigit
  if ds.isEmpty ∨ ¬ (cs.drop ds.length).all blank then bad else
  let v : Int := (ds.foldl (fun a c => a * 10 + (c.toNat - 48)) 0 : Nat)
  let v := if neg then -v else v
  if v > 9223372036854775807 ∨ v < -9223372036854775808 then bad else .ok v

/-- How a word at the front of the words left reads: as an operator, or as an operand. -/
def lexesAs (ws : List String) : Option String :=
  match ws with
  | [] => none
  | s :: rest =>
    let isOp := unaryOps.contains s || binaryOps.contains s || ["!", "-a", "-o", "(", ")"].contains s
    let operandAfterUnary := match rest with
      | [] => true
      | [_] => false
      | n :: _ :: _ => binaryOps.contains n
    if isOp && !(unaryOps.contains s && operandAfterUnary) && !(s == "(" && rest.isEmpty) then some s
    else none

def unaryTest (probe : Probe) (op arg : String) : Except String Bool :=
  match op with
  | "-z" => .ok arg.isEmpty
  | "-n" => .ok (¬ arg.isEmpty)
  | "-t" => do let _ ← testNumber arg; .ok false
  | _ =>
    let e := probe arg
    .ok <| match op, e with
      | "-e", some _ | "-r", some _ | "-w", some _ | "-O", some _ | "-G", some _ => true
      | "-f", some (.file _) => true
      | "-d", some .dir | "-x", some .dir => true
      | "-s", some .dir => true
      | "-s", some (.file bs) => ¬ bs.isEmpty
      | _, _ => false

def binaryTest (probe : Probe) (a op b : String) : Except String Bool := do
  let num (f : Int → Int → Bool) : Except String Bool := do
    let x ← testNumber a
    let y ← testNumber b
    return f x y
  match op with
  | "=" => return a = b
  | "!=" => return a ≠ b
  | "<" => return decide (a < b)
  | ">" => return decide (b < a)
  | "-eq" => num (· == ·)
  | "-ne" => num (· != ·)
  | "-ge" => num (· ≥ ·)
  | "-gt" => num (· > ·)
  | "-le" => num (· ≤ ·)
  | "-lt" => num (· < ·)
  | "-ef" => return (probe a).isSome ∧ (Path.ofString a).parts = (Path.ofString b).parts
  | _ => return false

def testSyntax {α : Type} (word msg : String) : Except String α :=
  .error (if word.isEmpty then msg else word ++ ": " ++ msg)

abbrev TestStep := Except String (Bool × List String × String)

/-- A word and what follows it: a comparison when a binary operator follows, else whether the
word is not empty. -/
def comparison (probe : Probe) (w : String) (rest : List String) : TestStep :=
  match rest with
  | op :: more =>
    if binaryOps.contains op then
      match more with
      | b :: after => do return (← binaryTest probe w op b, after, b)
      | [] => testSyntax op "argument expected"
    else .ok (¬ w.isEmpty, rest, w)
  | [] => .ok (¬ w.isEmpty, rest, w)

mutual

def orTest (probe : Probe) : Nat → List String → String → TestStep
  | 0, ws, last => .ok (false, ws, last)
  | n + 1, ws, last => do
    let (a, ws, last) ← andTest probe n ws last
    match lexesAs ws with
    | some "-o" =>
      let (b, ws, last) ← orTest probe n (ws.drop 1) (ws.headD last)
      return (a || b, ws, last)
    | _ => return (a, ws, last)

def andTest (probe : Probe) : Nat → List String → String → TestStep
  | 0, ws, last => .ok (false, ws, last)
  | n + 1, ws, last => do
    let (a, ws, last) ← notTest probe n ws last
    match lexesAs ws with
    | some "-a" =>
      let (b, ws, last) ← andTest probe n (ws.drop 1) (ws.headD last)
      return (a && b, ws, last)
    | _ => return (a, ws, last)

def notTest (probe : Probe) : Nat → List String → String → TestStep
  | 0, ws, last => .ok (false, ws, last)
  | n + 1, ws, last =>
    match lexesAs ws with
    | some "!" => do
      let (a, ws, last) ← notTest probe n (ws.drop 1) (ws.headD last)
      return (!a, ws, last)
    | _ => primaryTest probe n ws last

def primaryTest (probe : Probe) : Nat → List String → String → TestStep
  | 0, ws, last => .ok (false, ws, last)
  | n + 1, ws, last =>
    match ws with
    | [] => .ok (false, [], last)
    | w :: rest =>
      match lexesAs ws with
      | some "(" =>
        match lexesAs rest with
        | some ")" => .ok (false, rest.drop 1, ")")
        | _ => do
          let (a, after, _) ← orTest probe n rest w
          match lexesAs after with
          | some ")" => return (a, after.drop 1, ")")
          | _ => testSyntax "" "closing paren expected"
      | some op =>
        if unaryOps.contains op then
          match rest with
          | arg :: more => do return (← unaryTest probe op arg, more, arg)
          | [] => testSyntax op "argument expected"
        else comparison probe w rest
      | none => comparison probe w rest

end

/-- Evaluates the arguments of `test` (without the closing `]` of `[`): its exit status, or the
message of its error. -/
def evalTest (probe : Probe) (args : List String) : Except String Nat :=
  go 4 true args
where
  go : Nat → Bool → List String → Except String Nat
    | 0, _, _ => .ok 1
    | k + 1, positive, args =>
      let fail : Nat := if positive then 1 else 0
      match args with
      | [] => .ok fail
      | _ =>
        let run (ws : List String) (forced : Bool) : Except String Nat := do
          let (r, rest, last) ← if forced then
              match ws with
              | w :: more => comparison probe w more
              | [] => .ok (false, [], "")
            else orTest probe (4 * ws.length + 8) ws ""
          match rest with
          | [] => return (if r = positive then 0 else 1)
          | _ => testSyntax last "unexpected operator"
        let n := args.length
        let middle := args.getD 1 ""
        if n = 3 ∧ binaryOps.contains middle then run args true
        else if (n = 3 ∨ n = 4) ∧ args.head? = some "(" ∧ args.getLast? = some ")" then
          run (args.drop 1).dropLast false
        else if (n = 3 ∨ n = 4) ∧ args.head? = some "!" then go k false (args.drop 1)
        else run args false

end SqlMigration.Shell
