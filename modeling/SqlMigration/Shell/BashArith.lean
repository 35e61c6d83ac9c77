import SqlMigration.Shell.Arith

/-!
# Arithmetic of bash

`bash` reads `$((...))`, `((...))` and `let` with its own rules.
-/

namespace SqlMigration.Shell

/-- Why an expression failed: the message, and the text from the token where it was found. -/
structure BashArithError where
  message : String
  token : String
  /-- The expression that failed: the one given, or the value of a variable in it. -/
  expr : String
  deriving Repr, Inhabited

/-- A token of an expression. -/
inductive BashTok where
  | num (v : Int)
  | name (s : String)
  | op (s : String)
  /-- A number that does not read, with the message it gives and, for a constant, the length
  of its text, which ends the text of the expression shown with the message. -/
  | badNumber (msg : String) (length : Option Nat)
  | eof
  deriving Repr, Inhabited, DecidableEq

/-- A token and where it starts in the expression. -/
structure BashToken where
  tok : BashTok
  start : Nat
  deriving Repr, Inhabited

/-- The value of a digit of a number in a base up to 64: `0-9`, then `a-z`, then `A-Z` (the
same as the small letters up to base 36), `@` and `_`. -/
def baseDigit (base : Nat) (c : Char) : Nat :=
  if c.isDigit then c.toNat - 48
  else if 'a' ≤ c ∧ c ≤ 'z' then c.toNat - 87
  else if 'A' ≤ c ∧ c ≤ 'Z' then (if base ≤ 36 then c.toNat - 55 else c.toNat - 29)
  else if c = '@' then 62
  else 63

def readConstant (cs : List Char) : Except String Int :=
  let (base, body, based) : Nat × List Char × Bool := match cs with
    | '0' :: x :: rest => if x = 'x' ∨ x = 'X' then (16, rest, true) else (8, x :: rest, true)
    | _ => (10, cs, false)
  let step (acc : Except String (Nat × Nat × Bool)) (c : Char) : Except String (Nat × Nat × Bool) := do
    let (base, v, based) ← acc
    if c = '#' then
      if based then throw "invalid number"
      if v < 2 ∨ v > 64 then throw "invalid arithmetic base"
      return (v, 0, true)
    let d := baseDigit base c
    if d ≥ base then throw "value too great for base"
    return (base, v * base + d, based)
  match body.foldl step (.ok (base, 0, based)) with
  | .error e => .error e
  | .ok (_, v, based) =>
    if based ∧ cs.getLast? = some '#' then .error "invalid integer constant"
    else .ok (wrap64 v)

def constantChar (c : Char) : Bool := c.isAlphanum || c = '#' || c = '@' || c = '_'

def bashOperators : List String :=
  ["<<=", ">>=", "**", "++", "--", "<=", ">=", "==", "!=", "&&", "||", "<<", ">>", "+=", "-=", "*=",
   "/=", "%=", "&=", "^=", "|=", "+", "-", "*", "/", "%", "<", ">", "=", "!", "~", "&", "^", "|",
   "?", ":", ",", "(", ")"]

def subscriptText : Nat → Nat → List Char → List Char → Option (List Char)
  | 0, _, _, _ => none
  | _ + 1, _, _, [] => none
  | k + 1, depth, acc, c :: rest =>
    if c = ']' ∧ depth = 0 then some acc.reverse
    else subscriptText k (if c = '[' then depth + 1 else if c = ']' then depth - 1 else depth) (c :: acc) rest

def lexBash : Nat → List Char → Nat → Nat → List BashToken
  | 0, _, _, last => [⟨.eof, last⟩]
  | k + 1, cs, pos, last =>
    match cs with
    | [] => [⟨.eof, last⟩]
    | c :: rest =>
      if c = ' ' ∨ c = '\t' ∨ c = '\n' then lexBash k rest (pos + 1) last
      else if c.isDigit then
        let body := cs.takeWhile constantChar
        let tok := match readConstant body with
          | .ok v => BashTok.num v
          | .error e => .badNumber e (some body.length)
        ⟨tok, pos⟩ :: lexBash k (cs.drop body.length) (pos + body.length) pos
      else if c.isAlpha ∨ c = '_' then
        let body := cs.takeWhile fun d => d.isAlphanum ∨ d = '_'
        let sub := match cs.drop body.length with
          | '[' :: more => match subscriptText more.length 0 [] more with
            | some t => '[' :: t ++ [']']
            | none => []
          | _ => []
        let body := body ++ sub
        ⟨.name (String.ofList body), pos⟩ :: lexBash k (cs.drop body.length) (pos + body.length) pos
      else
        match bashOperators.find? fun o => o.toList.isPrefixOf cs with
        | some o => ⟨.op o, pos⟩ :: lexBash k (cs.drop o.length) (pos + o.length) pos
        | none => ⟨.badNumber "syntax error: invalid arithmetic operator" none, pos⟩ :: lexBash k rest (pos + 1) pos

/-- The state of an evaluation: the expression, its tokens, the place of the current one, and
the variables. -/
structure BashArithState where
  text : List Char
  toks : Array BashToken
  pos : Nat := 0
  vars : List (String × String)

abbrev BA := ExceptT BashArithError (StateM BashArithState)

/-- The error of a number that does not read. -/
def badNumberError (text : List Char) (start : Nat) (msg : String) (length : Option Nat) :
    BashArithError :=
  match length with
  | some len =>
    { message := msg, token := String.ofList ((text.drop start).take len),
      expr := String.ofList (text.take (start + len)) }
  | none => { message := msg, token := String.ofList (text.drop start), expr := String.ofList text }

def curTok : BA BashToken := do
  let s ← get
  let t := s.toks.getD s.pos ⟨.eof, 0⟩
  match t.tok with
  | .badNumber msg length => throw (badNumberError s.text t.start msg length)
  | _ => return t

def nextTok : BA BashToken := do
  let s ← get
  return s.toks.getD (s.pos + 1) ⟨.eof, 0⟩

def advance : BA Unit := modify fun s => { s with pos := s.pos + 1 }

def failAt {α : Type} (msg : String) (start : Nat) : BA α := do
  let s ← get
  throw { message := msg, token := String.ofList (s.text.drop start), expr := String.ofList s.text }

def failHere {α : Type} (msg : String) : BA α := do
  failAt msg (← curTok).start

def setBashVar (name : String) (v : Int) : BA Unit :=
  modify fun s => { s with vars := (name, toString v) :: s.vars.filter (·.1 ≠ name) }

def powWrap (a : Int) (b : Nat) : Int :=
  go 64 (wrap64 a) b 1
where
  go : Nat → Int → Nat → Int → Int
    | 0, _, _, acc => acc
    | k + 1, base, e, acc =>
      if e = 0 then acc
      else go k (wrap64 (base * base)) (e / 2) (if e % 2 = 1 then wrap64 (acc * base) else acc)

def bashBinary (op : String) (a b : Int) : Int :=
  let shift := (b % 64).toNat
  let bool (p : Bool) : Int := if p then 1 else 0
  match op with
  | "*" => wrap64 (a * b)
  | "/" => if b = 0 then 0 else wrap64 (a.tdiv b)
  | "%" => if b = 0 then 0 else wrap64 (a.tmod b)
  | "+" => wrap64 (a + b)
  | "-" => wrap64 (a - b)
  | "<<" => wrap64 (a * (Nat.pow 2 shift : Nat))
  | ">>" => a / (Nat.pow 2 shift : Nat)
  | "<" => bool (a < b)
  | "<=" => bool (a ≤ b)
  | ">" => bool (a > b)
  | ">=" => bool (a ≥ b)
  | "==" => bool (a == b)
  | "!=" => bool (a != b)
  | "&" => wrap64 (Nat.land (word a) (word b))
  | "^" => wrap64 (Nat.xor (word a) (word b))
  | "|" => wrap64 (Nat.lor (word a) (word b))
  | "**" => powWrap a b.toNat
  | _ => 0

/-- The levels of the binary operators from the loosest: each list binds tighter than the one
before. -/
def bashLevels : List (List String) :=
  [["||"], ["&&"], ["|"], ["^"], ["&"], ["==", "!="], ["<=", ">=", "<", ">"], ["<<", ">>"],
   ["+", "-"], ["*", "/", "%"]]

mutual

def bashComma : Nat → Bool → BA Int
  | 0, _ => failHere "expression recursion level exceeded"
  | n + 1, eval => do
    let v ← bashAssign n eval
    match (← curTok).tok with
    | .op "," => do advance; bashComma n eval
    | _ => return v

def bashAssign : Nat → Bool → BA Int
  | 0, _ => failHere "expression recursion level exceeded"
  | n + 1, eval => do
    let t ← curTok
    let t2 ← nextTok
    let assignOp : Option String := match t2.tok with
      | .op o => if o = "=" ∨ (o.endsWith "=" ∧ o.length ≥ 2 ∧ ¬ ["==", "!=", "<=", ">="].contains o)
        then some (String.ofList o.toList.dropLast) else none
      | _ => none
    match t.tok, assignOp with
    | .name x, some op => do
      advance; advance
      let v ← bashAssign n eval
      if ¬ eval then return v
      let old ← if op.isEmpty then pure 0 else bashVar n x
      if (op = "/" ∨ op = "%") ∧ v = 0 then failAt "division by 0" t2.start
      let r := if op.isEmpty then v else bashBinary op old v
      setBashVar (← bashKey n x) r
      return r
    | _, _ =>
      let v ← bashCond n eval
      match (← curTok).tok with
      | .op o =>
        if o = "=" ∨ (o.length ≥ 2 ∧ o.endsWith "=" ∧ ¬ ["==", "!=", "<=", ">="].contains o) then
          failHere "attempted assignment to non-variable"
        else return v
      | _ => return v

def bashCond : Nat → Bool → BA Int
  | 0, _ => failHere "expression recursion level exceeded"
  | n + 1, eval => do
    let a ← bashLevel n eval 0
    match (← curTok).tok with
    | .op "?" => do
      advance
      if (← curTok).tok = .eof ∨ (← curTok).tok = .op ":" then failHere "expression expected"
      let b ← bashComma n (eval && a != 0)
      match (← curTok).tok with
      | .op ":" => advance
      | _ => failHere "`:' expected for conditional expression"
      if (← curTok).tok = .eof then failHere "expression expected"
      let c ← bashCond n (eval && a == 0)
      return if a != 0 then b else c
    | _ => return a

def bashLevel : Nat → Bool → Nat → BA Int
  | 0, _, _ => failHere "expression recursion level exceeded"
  | n + 1, eval, k =>
    if k ≥ bashLevels.length then bashPower n eval
    else do
      let a ← bashLevel n eval (k + 1)
      bashLevelRest n eval k a

def bashLevelRest : Nat → Bool → Nat → Int → BA Int
  | 0, _, _, a => pure a
  | n + 1, eval, k, a => do
    let ops := bashLevels.getD k []
    match (← curTok).tok with
    | .op o =>
      if ops.contains o then do
        advance
        if o = "&&" ∨ o = "||" then
          let b ← bashLevel n (eval && (if o = "&&" then a != 0 else a == 0)) (k + 1)
          let r : Int := if o = "&&" then (if a != 0 ∧ b != 0 then 1 else 0)
            else (if a != 0 ∨ b != 0 then 1 else 0)
          bashLevelRest n eval k r
        else
          let divisor := (← curTok).start
          let b ← bashLevel n eval (k + 1)
          if eval ∧ (o = "/" ∨ o = "%") ∧ b = 0 then
            let s ← get
            let skip := (s.text.drop divisor).takeWhile (fun c => c = ' ' ∨ c = '\t') |>.length
            failAt "division by 0" (divisor + skip)
          bashLevelRest n eval k (if eval then bashBinary o a b else b)
      else return a
    | _ => return a

def bashPower : Nat → Bool → BA Int
  | 0, _ => failHere "expression recursion level exceeded"
  | n + 1, eval => do
    let a ← bashUnary n eval
    match (← curTok).tok with
    | .op "**" => do
      advance
      let b ← bashPower n eval
      if eval ∧ b < 0 then
        let s ← get
        failAt "exponent less than 0" ((s.toks.getD (s.pos - 1) ⟨.eof, 0⟩).start)
      return if eval then bashBinary "**" a b else b
    | _ => return a

def bashUnary : Nat → Bool → BA Int
  | 0, _ => failHere "expression recursion level exceeded"
  | n + 1, eval => do
    let t ← curTok
    match t.tok with
    | .op "!" => do advance; return if (← bashUnary n eval) == 0 then 1 else 0
    | .op "~" => do advance; return wrap64 (-(← bashUnary n eval) - 1)
    | .op "-" => do advance; return wrap64 (-(← bashUnary n eval))
    | .op "+" => do advance; bashUnary n eval
    | .op "++" | .op "--" => do
      match (← nextTok).tok with
      | .name x => do
        advance; advance
        if ¬ eval then return 0
        let v := wrap64 ((← bashVar n x) + (if t.tok = .op "++" then 1 else -1))
        setBashVar (← bashKey n x) v
        return v
      | _ => do
        advance
        let v ← bashUnary n eval
        return if t.tok = .op "++" then v else v
    | _ => bashOperand n eval

/-- An operand: a number, a variable (stepped after by `++` or `--`), or an expression in
parentheses. -/
def bashOperand : Nat → Bool → BA Int
  | 0, _ => failHere "expression recursion level exceeded"
  | n + 1, eval => do
    let t ← curTok
    match t.tok with
    | .num v => do advance; return v
    | .badNumber msg length => throw (badNumberError (← get).text t.start msg length)
    | .name x => do
      advance
      match (← curTok).tok with
      | .op "++" | .op "--" => do
        let step := (← curTok).tok
        advance
        if ¬ eval then return 0
        let v ← bashVar n x
        setBashVar (← bashKey n x) (wrap64 (if step = .op "++" then v + 1 else v - 1))
        return v
      | _ => if eval then bashVar n x else return 0
    | .op "(" => do
      advance
      let v ← bashComma n eval
      match (← curTok).tok with
      | .op ")" => do advance; return v
      | _ => failHere "missing `)'"
    | .op o =>
      if bashOperators.contains o then failHere "syntax error: operand expected"
      else failHere "syntax error: invalid arithmetic operator"
    | .eof => failHere "syntax error: operand expected"

/-- The value of a text read as an expression, apart from the expression being read, whose
variables it shares; 0 for blanks. -/
def bashText : Nat → List Char → BA Int
  | 0, _ => failHere "expression recursion level exceeded"
  | n + 1, text => do
    if text.all fun c => c = ' ' ∨ c = '\t' ∨ c = '\n' then return 0
    let toks := (lexBash (text.length + 1) text 0 0).toArray
    let saved ← get
    set { saved with text := text, toks := toks, pos := 0 }
    let r ← tryCatch (do
      let v ← bashComma n true
      if (← curTok).tok ≠ .eof then failHere "syntax error in expression"
      pure (Except.ok v)) fun e => pure (.error e)
    let after ← get
    set { saved with vars := after.vars }
    match r with
    | .ok v => return v
    | .error e => throw e

/-- The name of a variable as it is kept: an array element `a[i]` with its subscript
evaluated. -/
def bashKey : Nat → String → BA String
  | 0, x => pure x
  | n + 1, x =>
    match x.toList.span (· ≠ '[') with
    | (base, '[' :: rest) => do
      let i ← bashText n rest.dropLast
      return String.ofList base ++ "[" ++ toString i ++ "]"
    | _ => pure x

def bashVar : Nat → String → BA Int
  | 0, _ => failHere "expression recursion level exceeded"
  | n + 1, x => do
    let key ← bashKey n x
    let s ← get
    match s.vars.lookup key with
    | none => return 0
    | some v =>
      match ← tryCatch (Except.ok <$> bashText n v.toList) (fun e => pure (.error e)) with
      | .ok v => return v
      | .error e =>
        if e.message = "expression recursion level exceeded" then
          throw { message := e.message, token := x, expr := x }
        else throw e

end

/-- Evaluates an expression of `bash` over variables: its value or its error, and the variables
after its assignments, which are made as the expression is read and so stay made up to an
error. -/
def evalBashArith (expr : String) (vars : List (String × String)) :
    Except BashArithError Int × List (String × String) :=
  let text := expr.toList
  let toks := (lexBash (text.length + 1) text 0 0).toArray
  if toks.size ≤ 1 then (.ok 0, vars) else
  let fuel := 16 * toks.size + 96
  let run : BA Int := do
    let v ← bashComma fuel true
    if (← curTok).tok ≠ .eof then failHere "syntax error in expression"
    return v
  let (r, s) := (ExceptT.run run).run { text := text, toks := toks, vars := vars }
  (r, s.vars)

def BashArithError.text (e : BashArithError) : String :=
  e.expr ++ ": " ++ e.message ++ " (error token is \"" ++ e.token ++ "\")"

end SqlMigration.Shell
