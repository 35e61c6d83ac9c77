/-!
# Shell arithmetic

The arithmetic of `$((...))`: integer expressions over 64-bit signed words with the operators
and precedences of C, variables by name, and assignments.
-/

-- powers and sums of numbers are read with the core instances, whatever else is imported
attribute [local instance (high)] instPowNat Zero.ofOfNat0

namespace SqlMigration.Shell

/-- Why an arithmetic expression failed. -/
inductive ArithError where
  /-- A syntax or division error, with its message. -/
  | expression (message : String)
  /-- A variable whose value is not a number, with that value. -/
  | illegalNumber (value : String)
  /-- The least integer divided by -1: the quotient does not fit, and the processor stops the
  shell with a floating-point exception. -/
  | quotientOverflow
  deriving DecidableEq, Repr

/-- The tokens of arithmetic. -/
inductive ATok where
  | num (v : Int)
  | var (name : String)
  /-- A binary operator, by its spelling. -/
  | bin (op : String)
  /-- An assignment, with the operator it applies first (`""` for a plain `=`). -/
  | assign (op : String)
  | not
  | bnot
  | lparen
  | rparen
  | qmark
  | colon
  /-- `++` or `--` of `bash`, by the operator it applies. -/
  | step (op : String)
  /-- `,` of `bash`. -/
  | comma
  | bad
  | eof
  deriving DecidableEq, Repr, Inhabited

def wrap64 (v : Int) : Int :=
  let m : Int := (Nat.pow 2 64 : Nat)
  let r := v % m
  if r ≥ (Nat.pow 2 63 : Nat) then r - m else r

def word (v : Int) : Nat := (v % ((Nat.pow 2 64 : Nat) : Int)).toNat

def digitValue (base : Nat) (c : Char) : Option Nat :=
  let v := if '0' ≤ c ∧ c ≤ '9' then some (c.toNat - 48)
    else if 'a' ≤ c ∧ c ≤ 'z' then some (c.toNat - 87)
    else if 'A' ≤ c ∧ c ≤ 'Z' then some (c.toNat - 55)
    else none
  v.bind fun d => if d < base then some d else none

/-- Reads an integer as C's `strtoimax` with base 0 does, without the leading blanks and sign:
its magnitude (clamped later) and the rest. -/
def readMagnitude (cs : List Char) : Nat × List Char :=
  let (base, body) := match cs with
    | '0' :: x :: d :: rest =>
      if (x = 'x' ∨ x = 'X') ∧ (digitValue 16 d).isSome then (16, d :: rest) else (8, cs)
    | '0' :: _ => (8, cs)
    | _ => (10, cs)
  let ds := body.takeWhile fun c => (digitValue base c).isSome
  (ds.foldl (fun v c => v * base + (digitValue base c).getD 0) 0, body.drop ds.length)

def intMax : Int := ((Nat.pow 2 63 : Nat) : Int) - 1
def intMin : Int := -((Nat.pow 2 63 : Nat) : Int)

def clamp64 (v : Int) : Int := if v > intMax then intMax else if v < intMin then intMin else v

def isCSpace (c : Char) : Bool := c = ' ' ∨ c = '\t' ∨ c = '\n' ∨ c = '\x0b' ∨ c = '\x0c' ∨ c = '\r'

/-- A variable's value as a number: blanks around it are allowed, an empty value is 0, and
anything else is an illegal number. -/
def valueNumber (s : String) : Except ArithError Int :=
  let cs := s.toList.dropWhile isCSpace
  let (neg, body) := match cs with
    | '-' :: r => (true, r)
    | '+' :: r => (false, r)
    | r => (false, r)
  if cs.isEmpty then .ok 0 else
  let (m, rest) := readMagnitude body
  if rest.length = body.length ∨ ¬ (rest.all isCSpace) then .error (.illegalNumber s)
  else .ok (clamp64 (if neg then -(m : Int) else m))

def lexArith (bash : Bool) : Nat → List Char → List ATok
  | 0, _ => [.eof]
  | _ + 1, [] => [.eof]
  | k + 1, c :: rest =>
    if c = ' ' ∨ c = '\t' ∨ c = '\n' then lexArith bash k rest
    else if '0' ≤ c ∧ c ≤ '9' then
      let (m, after) := readMagnitude (c :: rest)
      .num (clamp64 m) :: lexArith bash k after
    else if c.isAlpha ∨ c = '_' then
      let name := rest.takeWhile fun d => d.isAlphanum ∨ d = '_'
      .var (String.ofList (c :: name)) :: lexArith bash k (rest.drop name.length)
    else
      let two := match rest with
        | d :: _ => String.ofList [c, d]
        | [] => ""
      let three := match rest with
        | d :: e :: _ => String.ofList [c, d, e]
        | _ => ""
      if bash ∧ three = "**=" then .assign "**" :: lexArith bash k (rest.drop 2)
      else if bash ∧ two = "**" then .bin "**" :: lexArith bash k (rest.drop 1)
      else if bash ∧ (two = "++" ∨ two = "--") then .step (String.singleton c) :: lexArith bash k (rest.drop 1)
      else if bash ∧ c = ',' then .comma :: lexArith bash k rest
      else if three = "<<=" ∨ three = ">>=" then .assign (two) :: lexArith bash k (rest.drop 2)
      else if ["<=", ">=", "==", "!=", "&&", "||", "<<", ">>"].contains two then
        .bin two :: lexArith bash k (rest.drop 1)
      else if ["*=", "/=", "%=", "+=", "-=", "&=", "^=", "|="].contains two then
        .assign (String.singleton c) :: lexArith bash k (rest.drop 1)
      else match c with
        | '=' => .assign "" :: lexArith bash k rest
        | '*' | '/' | '%' | '+' | '-' | '<' | '>' | '&' | '^' | '|' =>
          .bin (String.singleton c) :: lexArith bash k rest
        | '!' => .not :: lexArith bash k rest
        | '~' => .bnot :: lexArith bash k rest
        | '(' => .lparen :: lexArith bash k rest
        | ')' => .rparen :: lexArith bash k rest
        | '?' => .qmark :: lexArith bash k rest
        | ':' => .colon :: lexArith bash k rest
        | _ => [.bad]

def binPrec (op : String) : Option Nat :=
  match op with
  | "*" | "/" | "%" => some 0
  | "+" | "-" => some 1
  | "<<" | ">>" => some 2
  | "<" | "<=" | ">" | ">=" => some 3
  | "==" | "!=" => some 4
  | "&" => some 5
  | "^" => some 6
  | "|" => some 7
  | _ => none

def applyBin (op : String) (a b : Int) : Except ArithError Int :=
  let bool (p : Bool) : Int := if p then 1 else 0
  let shift := (b % 64).toNat
  match op with
  | "/" | "%" =>
    if b = 0 then .error (.expression "division by zero")
    else if a = -(Nat.pow 2 63 : Int) ∧ b = -1 then .error .quotientOverflow
    else .ok (wrap64 (if op = "/" then a.tdiv b else a.tmod b))
  | "*" => .ok (wrap64 (a * b))
  | "+" => .ok (wrap64 (a + b))
  | "-" => .ok (wrap64 (a - b))
  | "<<" => .ok (wrap64 (a * (Nat.pow 2 shift : Nat)))
  | ">>" => .ok (a / (Nat.pow 2 shift : Nat))
  | "<" => .ok (bool (a < b))
  | "<=" => .ok (bool (a ≤ b))
  | ">" => .ok (bool (a > b))
  | ">=" => .ok (bool (a ≥ b))
  | "==" => .ok (bool (a == b))
  | "!=" => .ok (bool (a != b))
  | "&" => .ok (wrap64 (Nat.land (word a) (word b)))
  | "^" => .ok (wrap64 (Nat.xor (word a) (word b)))
  | "|" => .ok (wrap64 (Nat.lor (word a) (word b)))
  | "**" =>
    if b < 0 then .error (.expression "exponent less than 0")
    else .ok (wrap64 (a ^ b.toNat))
  | _ => .ok 0

/-- The state of an evaluation: the tokens left and the variables. -/
structure ArithState where
  toks : List ATok
  vars : List (String × String)
  /-- Whether `bash` reads the expression. -/
  bash : Bool := false

abbrev Ar := ExceptT ArithError (StateM ArithState)

def peekTok : Ar ATok := return ((← get).toks.headD .eof)

def takeTok : Ar ATok := do
  let s ← get
  set { s with toks := s.toks.drop 1 }
  return s.toks.headD .eof

def arithVar (name : String) : Ar Int := do
  match (← get).vars.lookup name with
  | some v => match valueNumber v with
    | .ok n => pure n
    | .error e => throw e
  | none => pure 0

def setArithVar (name : String) (v : Int) : Ar Unit :=
  modify fun s => { s with vars := (name, toString v) :: s.vars.filter (·.1 ≠ name) }

def arithFail {α : Type} (msg : String) : Ar α := throw (.expression msg)

mutual

def commaExpr : Nat → Bool → Ar Int
  | 0, _ => arithFail "expecting primary"
  | n + 1, eval => do
    let v ← assignExpr n eval
    match ← peekTok with
    | .comma => do
      let _ ← takeTok
      commaExpr n eval
    | _ => return v

def assignExpr : Nat → Bool → Ar Int
  | 0, _ => arithFail "expecting primary"
  | n + 1, eval => do
    let s ← get
    match s.toks with
    | .var name :: .assign op :: rest => do
      set { s with toks := rest }
      let v ← assignExpr n eval
      if ¬ eval then return v
      let v ← if op.isEmpty then pure v else do
        match applyBin op (← arithVar name) v with
        | .ok r => pure r
        | .error e => throw e
      setArithVar name v
      return v
    | _ => condExpr n eval

def condExpr : Nat → Bool → Ar Int
  | 0, _ => arithFail "expecting primary"
  | n + 1, eval => do
    let a ← orArith n eval
    match ← peekTok with
    | .qmark => do
      let _ ← takeTok
      let b ← commaExpr n (eval && a != 0)
      match ← takeTok with
      | .colon => pure ()
      | _ => arithFail "expecting ':'"
      let c ← condExpr n (eval && a == 0)
      return if a != 0 then b else c
    | _ => return a

def orArith : Nat → Bool → Ar Int
  | 0, _ => arithFail "expecting primary"
  | n + 1, eval => do
    let a ← andArith n eval
    match ← peekTok with
    | .bin "||" => do
      let _ ← takeTok
      let b ← orArith n (eval && a == 0)
      return if a != 0 ∨ b != 0 then 1 else 0
    | _ => return a

def andArith : Nat → Bool → Ar Int
  | 0, _ => arithFail "expecting primary"
  | n + 1, eval => do
    let a ← binExpr n eval 8
    match ← peekTok with
    | .bin "&&" => do
      let _ ← takeTok
      let b ← andArith n (eval && a != 0)
      return if a != 0 ∧ b != 0 then 1 else 0
    | _ => return a

/-- A binary expression whose operators bind at least as tightly as `limit` allows: operands
and operators are read left to right, each operator applied as soon as its right operand is
complete. -/
def binExpr : Nat → Bool → Nat → Ar Int
  | 0, _, _ => arithFail "expecting primary"
  | n + 1, eval, limit => do
    let a ← power n eval
    binRest n eval limit a

/-- A power of `bash`: `a ** b`, binding tighter than the other binary operators and to the
right. -/
def power : Nat → Bool → Ar Int
  | 0, _ => arithFail "expecting primary"
  | n + 1, eval => do
    let a ← unary n eval
    match ← peekTok with
    | .bin "**" => do
      let _ ← takeTok
      let b ← power n eval
      if ¬ eval then return b
      match applyBin "**" a b with
      | .ok r => pure r
      | .error e => throw e
    | _ => return a

def binRest : Nat → Bool → Nat → Int → Ar Int
  | 0, _, _, a => pure a
  | n + 1, eval, limit, a => do
    match ← peekTok with
    | .bin op =>
      match binPrec op with
      | some p =>
        if p < limit then do
          let _ ← takeTok
          let b ← binExpr n eval p
          let r ← if eval then
              match applyBin op a b with
              | .ok r => pure r
              | .error e => throw e
            else pure b
          binRest n eval limit r
        else return a
      | none => return a
    | _ => return a

def unary : Nat → Bool → Ar Int
  | 0, _ => arithFail "expecting primary"
  | n + 1, eval => do
    match ← takeTok with
    | .lparen => do
      let v ← commaExpr n eval
      match ← takeTok with
      | .rparen => return v
      | _ => arithFail "expecting ')'"
    | .num v => return v
    | .var name =>
      match ← peekTok with
      | .step op => do
        let _ ← takeTok
        if ¬ eval then return 0
        let v ← arithVar name
        setArithVar name (wrap64 (if op = "+" then v + 1 else v - 1))
        return v
      | _ => if eval then arithVar name else return 0
    | .step op => do
      match ← takeTok with
      | .var name =>
        if ¬ eval then return 0
        let v := wrap64 ((← arithVar name) + (if op = "+" then 1 else -1))
        setArithVar name v
        return v
      | _ => arithFail "expecting primary"
    | .bin "+" => unary n eval
    | .bin "-" => return wrap64 (-(← unary n eval))
    | .not => return if (← unary n eval) == 0 then 1 else 0
    | .bnot => return wrap64 (-(← unary n eval) - 1)
    | _ => arithFail "expecting primary"

end

/-- Evaluates an expression over variables: its value and the variables after its
assignments. -/
def evalArith (expr : String) (vars : List (String × String)) (bash : Bool := false) :
    Except ArithError (Int × List (String × String)) :=
  let toks := lexArith bash (expr.length + 1) expr.toList
  let fuel := 4 * toks.length + 16
  let run : Ar Int := do
    let v ← commaExpr fuel true
    match ← peekTok with
    | .eof => pure v
    | _ => arithFail "expecting EOF"
  match (ExceptT.run run).run ⟨toks, vars, bash⟩ with
  | (.ok v, s) => .ok (v, s.vars)
  | (.error e, _) => .error e

end SqlMigration.Shell
